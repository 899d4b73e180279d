/-
This file models how an SDP offer is munged, `munge_opus_params` of `rtc/handshake.rs`, and
proves that munging touches the Opus `fmtp` lines only and that it can be repeated.

A text is a list of characters. Both loops of the source go over the lines of a text and keep
their ends; what they do to one line is a function here, and a munged text is read line by
line again.
-/

import Mathlib.Data.List.Forall2
import RelayConnector.Parameters

namespace RelayConnector

namespace Sdp

open Text

/-! ### Lines -/

/-- A line of `str::lines`. -/
def withoutLineEnd (line : List Char) : List Char :=
  match stripSuffix ['\n'] line with
  | none => line
  | some line => (stripSuffix ['\r'] line).getD line

/-- The payload type of a line, if it is an `rtpmap` of Opus. -/
def opusPayload (line : List Char) : Option (List Char) := do
  let rest ← stripPrefix "a=rtpmap:".toList (trim line)
  let (payloadType, codec) ← splitOnce ' ' rest
  if "opus/".toList.isPrefixOf (toAsciiLowercase codec) then some payloadType else none

/-- The payload type of the first `rtpmap` of Opus. -/
def opusPayloadType (sdp : List Char) : Option (List Char) :=
  ((splitInclusive '\n' sdp).map withoutLineEnd).findSome? opusPayload

def isLineEnd (character : Char) : Bool := character == '\r' || character == '\n'

/-- A line without the characters of its end. -/
def body (line : List Char) : List Char := line.rdropWhile isLineEnd

def lineEnd (line : List Char) : List Char := line.drop (body line).length

def fmtpPrefix (payloadType : List Char) : List Char := "a=fmtp:".toList ++ payloadType ++ [' ']

def rtpmapPrefix (payloadType : List Char) : List Char :=
  "a=rtpmap:".toList ++ payloadType ++ [' ']

/-- The parameter list of an `fmtp` line. -/
def fmtpParams (payloadType line : List Char) : Option (List Char) :=
  stripPrefix (fmtpPrefix payloadType) (body line)

/-- One round of the first loop. -/
def rewriteLine (payloadType : List Char) (wanted : List Parameter) (line : List Char) :
    List Char :=
  match fmtpParams payloadType line with
  | some existing => fmtpPrefix payloadType ++ mergeParams existing wanted ++ lineEnd line
  | none => line

/-- The line that is inserted after an `rtpmap` line. -/
def fmtpLine (payloadType : List Char) (wanted : List Parameter) (line : List Char) : List Char :=
  fmtpPrefix payloadType ++ join ';' (wanted.map fun entry => entry.1 ++ '=' :: entry.2) ++
    if ['\r', '\n'].isSuffixOf line then ['\r', '\n'] else ['\n']

/-- One round of the second loop. -/
def insertFmtp (payloadType : List Char) (wanted : List Parameter) (line : List Char) :
    List Char :=
  line ++ if (rtpmapPrefix payloadType).isPrefixOf (body line) then
    fmtpLine payloadType wanted line else []

/-! ### Munging -/

def mungeOpusParams (sdp : List Char) (stereo : Bool) (maxAvgBitrateBits : Nat) : List Char :=
  match opusPayloadType sdp with
  | none => sdp
  | some payloadType =>
    let wanted := wantedParams stereo maxAvgBitrateBits
    let lines := splitInclusive '\n' sdp
    let out := (lines.map (rewriteLine payloadType wanted)).flatten
    if lines.any fun line => (fmtpParams payloadType line).isSome then out
    else ((splitInclusive '\n' out).map (insertFmtp payloadType wanted)).flatten

/-! ### The parts of a line -/

theorem lineEnd_eq (line : List Char) : lineEnd line = line.rtakeWhile isLineEnd := by
  have split : (body line ++ line.rtakeWhile isLineEnd).drop (body line).length = _ :=
    List.drop_left
  rwa [body, List.rdropWhile_append_rtakeWhile] at split

theorem body_append_lineEnd (line : List Char) : body line ++ lineEnd line = line := by
  rw [lineEnd_eq]
  exact List.rdropWhile_append_rtakeWhile

theorem body_isPrefix (line : List Char) : body line <+: line := List.rdropWhile_prefix _ _

variable {line ending payloadType : List Char} {character : Char}

theorem isLineEnd_of_mem_lineEnd (member : character ∈ lineEnd line) :
    isLineEnd character = true := by
  rw [lineEnd_eq] at member
  exact List.mem_rtakeWhile_imp member

theorem body_append_ending (front : List Char)
    (ends : ∀ character ∈ ending, isLineEnd character = true) :
    body (front ++ ending) = body front := by
  induction ending using List.reverseRecOn with
  | nil => rw [List.append_nil]
  | append_singleton ending final hypothesis =>
    rw [← List.append_assoc, body, List.rdropWhile_concat_pos _ _ _ (ends final (by simp))]
    exact hypothesis fun character member => ends character (by simp [member])

theorem body_append_of_last {front : List Char} (last : front.getLast? = some character)
    (other : isLineEnd character = false) (text : List Char) :
    body (front ++ text) = front ++ body text :=
  rdropWhile_append_of_last last other text

theorem body_of_last {text : List Char} (last : text.getLast? = some character)
    (other : isLineEnd character = false) : body text = text := by
  have whole := body_append_of_last last other []
  have nothing : body [] = [] := rfl
  rwa [nothing, List.append_nil] at whole

/-- A text that ends with another character, and the characters of a line end behind it. -/
theorem body_append {front : List Char} (last : front.getLast? = some character)
    (other : isLineEnd character = false)
    (ends : ∀ character ∈ ending, isLineEnd character = true) :
    body (front ++ ending) = front ∧ lineEnd (front ++ ending) = ending := by
  have cut : body (front ++ ending) = front :=
    (body_append_ending front ends).trans (body_of_last last other)
  refine ⟨cut, ?_⟩
  rw [lineEnd, cut, List.drop_left]

/-- In a line there is one line feed, at the very end. -/
theorem terminated_parts (terminated : Terminated '\n' line) :
    '\n' ∉ body line ∧ Terminated '\n' (lineEnd line) := by
  obtain ⟨text, rfl, fresh⟩ := terminated
  have cut : body (text ++ ['\n']) = body text := List.rdropWhile_concat_pos _ _ _ rfl
  have inside : body text <+: text := body_isPrefix text
  refine ⟨fun member => fresh (inside.subset (cut ▸ member)), text.drop (body text).length, ?_,
    fun member => fresh (List.mem_of_mem_drop member)⟩
  rw [lineEnd, cut, List.drop_append_of_le_length inside.length_le]

/-- Whether a line begins with a text that ends with a blank does not depend on its end. -/
theorem prefix_body_iff {start : List Char} (blank : start.getLast? = some ' ') :
    start <+: body line ↔ start <+: line := by
  refine ⟨fun begins => begins.trans (body_isPrefix line), fun begins => ?_⟩
  rcases List.prefix_or_prefix_of_prefix begins (body_isPrefix line) with inside | ⟨more, rfl⟩
  · exact inside
  · obtain ⟨rest, whole⟩ := begins
    have ending : more ++ rest = lineEnd line := by
      have same : body line ++ (more ++ rest) = body line ++ lineEnd line := by
        rw [← List.append_assoc, whole, body_append_lineEnd]
      exact List.append_cancel_left same
    by_cases nothing : more = []
    · exact ⟨[], by rw [List.append_nil, nothing, List.append_nil]⟩
    · -- the blank would be a character of the line end
      have last : more.getLast? = some ' ' := by
        rw [List.getLast?_append, List.getLast?_eq_some_getLast nothing] at blank
        rw [List.getLast?_eq_some_getLast nothing]
        exact blank
      have member : ' ' ∈ lineEnd line := by
        rw [← ending]
        exact List.mem_append_left _ (List.mem_of_getLast? last)
      exact absurd (isLineEnd_of_mem_lineEnd member) (by decide)

/-! ### Lines of parameters -/

theorem fmtpPrefix_getLast? (payloadType : List Char) :
    (fmtpPrefix payloadType).getLast? = some ' ' :=
  List.getLast?_concat

theorem rtpmapPrefix_getLast? (payloadType : List Char) :
    (rtpmapPrefix payloadType).getLast? = some ' ' :=
  List.getLast?_concat

theorem unbroken_fmtpPrefix (unbroken : '\n' ∉ payloadType) : '\n' ∉ fmtpPrefix payloadType := by
  intro member
  rcases List.mem_append.mp member with front | blank
  · rcases List.mem_append.mp front with start | inside
    · exact absurd start (by decide)
    · exact unbroken inside
  · exact absurd blank (by decide)

/-- An `fmtp` line that is put together is read back. -/
theorem fmtpParams_append {text : List Char} (last : text.getLast? = some character)
    (solid : isWhitespace character = false)
    (ends : ∀ character ∈ ending, isLineEnd character = true) :
    fmtpParams payloadType (fmtpPrefix payloadType ++ text ++ ending) = some text ∧
      lineEnd (fmtpPrefix payloadType ++ text ++ ending) = ending := by
  have other : isLineEnd character = false := by
    rw [isLineEnd, Bool.or_eq_false_iff, beq_eq_false_iff_ne, beq_eq_false_iff_ne]
    constructor
    · rintro rfl
      cases solid
    · rintro rfl
      cases solid
  have ended : (fmtpPrefix payloadType ++ text).getLast? = some character := by
    rw [List.getLast?_append, last]
    rfl
  obtain ⟨cut, rest⟩ := body_append ended other ends
  rw [fmtpParams, cut, stripPrefix_append]
  exact ⟨rfl, rest⟩

theorem stripSuffix_getD_isPrefix (suffix text : List Char) :
    (stripSuffix suffix text).getD text <+: text := by
  cases inner : stripSuffix suffix text with
  | none => exact List.prefix_rfl
  | some front =>
    rw [Option.getD_some, stripSuffix_eq_some.mp inner]
    exact List.prefix_append _ _

theorem withoutLineEnd_prefix (line : List Char) : withoutLineEnd line <+: line := by
  unfold withoutLineEnd
  split
  next => exact List.prefix_rfl
  next front stripped =>
    rw [stripSuffix_eq_some.mp stripped]
    exact (stripSuffix_getD_isPrefix _ front).trans (List.prefix_append front _)

/-- An `fmtp` line is no `rtpmap` line. -/
theorem opusPayload_of_fmtp (rest : List Char) :
    opusPayload (withoutLineEnd ("a=fmtp:".toList ++ rest)) = none := by
  have begins : "a=fmtp:".toList ++ rest = 'a' :: '=' :: 'f' :: ("mtp:".toList ++ rest) := rfl
  have trimmed : trim (withoutLineEnd ("a=fmtp:".toList ++ rest)) <+: "a=fmtp:".toList ++ rest := by
    have shorter := withoutLineEnd_prefix ("a=fmtp:".toList ++ rest)
    cases line : withoutLineEnd ("a=fmtp:".toList ++ rest) with
    | nil => exact List.nil_prefix
    | cons character text =>
      rw [line, begins] at shorter
      obtain ⟨rfl, -⟩ := List.cons_prefix_cons.mp shorter
      rw [begins]
      exact (trimMatches_isPrefix rfl).trans shorter
  have none : stripPrefix "a=rtpmap:".toList (trim (withoutLineEnd ("a=fmtp:".toList ++ rest))) =
      none := by
    cases found : stripPrefix "a=rtpmap:".toList
        (trim (withoutLineEnd ("a=fmtp:".toList ++ rest))) with
    | none => rfl
    | some text =>
      rw [stripPrefix_eq_some.mp found, begins] at trimmed
      have both : "a=rtpmap:".toList ++ text = 'a' :: '=' :: 'r' :: ("tpmap:".toList ++ text) := rfl
      rw [both] at trimmed
      simp [List.cons_prefix_cons] at trimmed
  rw [opusPayload, none]
  rfl

/-! ### The payload type -/

theorem opusPayload_subset (found : opusPayload line = some payloadType) : payloadType ⊆ line := by
  simp only [opusPayload, Option.bind_eq_bind, Option.bind_eq_some_iff] at found
  obtain ⟨rest, stripped, ⟨before, codec⟩, split, opus⟩ := found
  obtain rfl : before = payloadType := by
    simp only at opus
    split at opus
    · exact Option.some.inj opus
    · cases opus
  intro character member
  have trimmed : character ∈ trim line := by
    rw [stripPrefix_eq_some.mp stripped, (splitOnce_eq_some split).1]
    exact List.mem_append_right _ (List.mem_append_left _ member)
  exact (trimMatches_sublist line).subset trimmed

/-- The lines of a text all end with a line feed, alone or behind a carriage return. -/
def EndsLines (sdp : List Char) : Prop :=
  ∀ character, sdp.getLast? = some character → character = '\n'

section Lines

variable {sdp payloadType : List Char} {stereo : Bool} {bits : Nat} {wanted : List Parameter}

theorem unbroken_of_opusPayloadType (ends : EndsLines sdp)
    (found : opusPayloadType sdp = some payloadType) : '\n' ∉ payloadType := by
  obtain ⟨text, member, payload⟩ := List.exists_of_findSome?_eq_some found
  obtain ⟨line, among, rfl⟩ := List.mem_map.mp member
  obtain ⟨front, rfl, fresh⟩ := terminated_of_mem_splitInclusive ends line among
  have stripped : stripSuffix ['\n'] (front ++ ['\n']) = some front :=
    stripSuffix_eq_some.mpr rfl
  have shorter : withoutLineEnd (front ++ ['\n']) <+: front := by
    rw [withoutLineEnd, stripped]
    exact stripSuffix_getD_isPrefix _ front
  exact fun member => fresh (shorter.subset (opusPayload_subset payload member))

/-! ### One line -/

variable {line : List Char} {lines : List (List Char)}

/-- A line that is no `fmtp` line is left as it is. -/
theorem rewriteLine_of_none (other : fmtpParams payloadType line = none) :
    rewriteLine payloadType wanted line = line := by
  rw [rewriteLine, other]

theorem line_of_fmtpParams {existing : List Char}
    (fmtp : fmtpParams payloadType line = some existing) :
    line = fmtpPrefix payloadType ++ existing ++ lineEnd line := by
  conv => lhs; rw [← body_append_lineEnd line]
  rw [stripPrefix_eq_some.mp fmtp]

/-- A rewritten `fmtp` line has the merged parameters and the old line end. -/
theorem fmtpParams_rewriteLine (stereo : Bool) (bits : Nat) {existing : List Char}
    (fmtp : fmtpParams payloadType line = some existing)
    (named : ∀ parameter ∈ parseParams existing, Named parameter) :
    fmtpParams payloadType (rewriteLine payloadType (wantedParams stereo bits) line) =
        some (mergeParams existing (wantedParams stereo bits)) ∧
      lineEnd (rewriteLine payloadType (wantedParams stereo bits) line) = lineEnd line := by
  obtain ⟨character, last, solid⟩ :=
    getLast?_join_renderParam (merged_ne_nil _) (clean_of_mem_merged stereo bits named)
  rw [rewriteLine, fmtp]
  exact fmtpParams_append last solid fun _ => isLineEnd_of_mem_lineEnd

theorem rewriteLine_again (named : ∀ existing, fmtpParams payloadType line = some existing →
      ∀ parameter ∈ parseParams existing, Named parameter) :
    rewriteLine payloadType (wantedParams stereo bits)
        (rewriteLine payloadType (wantedParams stereo bits) line) =
      rewriteLine payloadType (wantedParams stereo bits) line := by
  cases fmtp : fmtpParams payloadType line with
  | none => rw [rewriteLine_of_none fmtp, rewriteLine_of_none fmtp]
  | some existing =>
    obtain ⟨again, ending⟩ := fmtpParams_rewriteLine stereo bits fmtp (named existing fmtp)
    conv => lhs; rw [rewriteLine, again]
    simp only
    rw [mergeParams_again (named existing fmtp), ending, rewriteLine, fmtp]

theorem terminated_rewriteLine (unbroken : '\n' ∉ payloadType) (terminated : Terminated '\n' line) :
    Terminated '\n' (rewriteLine payloadType (wantedParams stereo bits) line) := by
  cases fmtp : fmtpParams payloadType line with
  | none => rwa [rewriteLine_of_none fmtp]
  | some existing =>
    obtain ⟨fresh, ending, split, unfed⟩ := terminated_parts terminated
    have kept : '\n' ∉ existing := by
      rw [stripPrefix_eq_some.mp fmtp] at fresh
      exact fun member => fresh (List.mem_append_right _ member)
    have merged := unbroken_of_mergeParams stereo bits kept
    refine ⟨fmtpPrefix payloadType ++ mergeParams existing (wantedParams stereo bits) ++ ending,
      ?_, ?_⟩
    · rw [rewriteLine, fmtp]
      simp only
      rw [split, List.append_assoc, List.append_assoc, List.append_assoc]
    · simp only [List.mem_append, not_or]
      exact ⟨⟨unbroken_fmtpPrefix unbroken, merged⟩, unfed⟩

/-- The inserted line has the wanted parameters. -/
theorem fmtpParams_fmtpLine (payloadType : List Char) (stereo : Bool) (bits : Nat)
    (line : List Char) :
    fmtpParams payloadType (fmtpLine payloadType (wantedParams stereo bits) line) =
      some (join ';' ((wantedParams stereo bits).map renderParam)) ∧
    lineEnd (fmtpLine payloadType (wantedParams stereo bits) line) =
      if ['\r', '\n'].isSuffixOf line then ['\r', '\n'] else ['\n'] := by
  obtain ⟨character, last, solid⟩ := getLast?_join_renderParam (List.cons_ne_nil _ _)
    (fun _ member => (sendable_of_mem_wantedParams member).toClean :
      ∀ parameter ∈ wantedParams stereo bits, Clean parameter)
  rw [fmtpLine, map_renderParam_wantedParams]
  refine fmtpParams_append last solid ?_
  split <;> decide

theorem parseParams_wantedParams (stereo : Bool) (bits : Nat) :
    parseParams (join ';' ((wantedParams stereo bits).map renderParam)) =
      wantedParams stereo bits :=
  parseParams_join (List.cons_ne_nil _ _)
    fun _ member => (sendable_of_mem_wantedParams member).toClean

/-- Munging leaves the inserted line as it is. -/
theorem rewriteLine_fmtpLine (line : List Char) :
    rewriteLine payloadType (wantedParams stereo bits)
        (fmtpLine payloadType (wantedParams stereo bits) line) =
      fmtpLine payloadType (wantedParams stereo bits) line := by
  obtain ⟨fmtp, ending⟩ := fmtpParams_fmtpLine payloadType stereo bits line
  have values : (wantedParams stereo bits).foldl setParam (wantedParams stereo bits) =
      wantedParams stereo bits :=
    setParams_of_values fun entry member =>
      valueOf_of_mem (wantedParams_distinct stereo bits) member
  rw [rewriteLine, fmtp]
  simp only
  rw [mergeParams, parseParams_wantedParams, values, ending, fmtpLine, map_renderParam_wantedParams]

theorem terminated_fmtpLine (unbroken : '\n' ∉ payloadType) (line : List Char) :
    Terminated '\n' (fmtpLine payloadType (wantedParams stereo bits) line) := by
  have joined : '\n' ∉ join ';' ((wantedParams stereo bits).map renderParam) := by
    intro member
    rcases mem_join member with same | ⟨part, among, inside⟩
    · cases same
    · obtain ⟨parameter, wanted, rfl⟩ := List.mem_map.mp among
      exact unbroken_of_renderParam (sendable_of_mem_wantedParams wanted).unbroken inside
  rw [fmtpLine, map_renderParam_wantedParams]
  refine ⟨fmtpPrefix payloadType ++ join ';' ((wantedParams stereo bits).map renderParam) ++
    (if ['\r', '\n'].isSuffixOf line then ['\r'] else []), ?_, ?_⟩
  · split <;> simp
  · simp only [List.mem_append, not_or]
    refine ⟨⟨unbroken_fmtpPrefix unbroken, joined⟩, ?_⟩
    split <;> decide

/-! ### All lines -/

/-- What the second loop makes of a line. -/
def insertedLines (payloadType : List Char) (wanted : List Parameter) (line : List Char) :
    List (List Char) :=
  if (rtpmapPrefix payloadType).isPrefixOf line then [line, fmtpLine payloadType wanted line]
  else [line]

theorem mem_insertedLines {inside : List Char}
    (member : inside ∈ insertedLines payloadType wanted line) :
    inside = line ∨ inside = fmtpLine payloadType wanted line := by
  unfold insertedLines at member
  split at member
  · simpa using member
  · exact .inl (List.mem_singleton.mp member)

/-- The lines of a munged text. -/
def mungeLines (payloadType : List Char) (wanted : List Parameter) (lines : List (List Char)) :
    List (List Char) :=
  if lines.any fun line => (fmtpParams payloadType line).isSome then
    lines.map (rewriteLine payloadType wanted)
  else lines.flatMap (insertedLines payloadType wanted)

theorem insertFmtp_eq (line : List Char) :
    insertFmtp payloadType wanted line = (insertedLines payloadType wanted line).flatten := by
  have same : (rtpmapPrefix payloadType).isPrefixOf (body line) =
      (rtpmapPrefix payloadType).isPrefixOf line := by
    rw [Bool.eq_iff_iff, List.isPrefixOf_iff_prefix, List.isPrefixOf_iff_prefix]
    exact prefix_body_iff (rtpmapPrefix_getLast? payloadType)
  rw [insertFmtp, insertedLines, same]
  split <;> simp

theorem map_rewriteLine_of_none
    (none : (lines.any fun line => (fmtpParams payloadType line).isSome) = false) :
    lines.map (rewriteLine payloadType wanted) = lines := by
  refine (List.map_congr_left fun line member => ?_).trans (List.map_id lines)
  refine rewriteLine_of_none (Option.not_isSome_iff_eq_none.mp fun fmtp => ?_)
  rw [List.any_eq_false] at none
  exact none line member fmtp

theorem terminated_mungeLines (unbroken : '\n' ∉ payloadType)
    (terminated : ∀ line ∈ lines, Terminated '\n' line) :
    ∀ line ∈ mungeLines payloadType (wantedParams stereo bits) lines, Terminated '\n' line := by
  intro line member
  unfold mungeLines at member
  split at member
  next =>
    obtain ⟨old, among, rfl⟩ := List.mem_map.mp member
    exact terminated_rewriteLine unbroken (terminated old among)
  next =>
    obtain ⟨old, among, inside⟩ := List.mem_flatMap.mp member
    rcases mem_insertedLines inside with rfl | rfl
    · exact terminated line among
    · exact terminated_fmtpLine unbroken old

/-- Munging goes line by line. -/
theorem mungeOpusParams_eq (stereo : Bool) (bits : Nat)
    (found : opusPayloadType sdp = some payloadType) :
    mungeOpusParams sdp stereo bits =
      (mungeLines payloadType (wantedParams stereo bits) (splitInclusive '\n' sdp)).flatten := by
  rw [mungeOpusParams, found, mungeLines]
  simp only
  split
  next => rfl
  next none =>
    rw [map_rewriteLine_of_none (Bool.eq_false_iff.mpr none), flatten_splitInclusive]
    have each : (splitInclusive '\n' sdp).map (insertFmtp payloadType (wantedParams stereo bits)) =
        (splitInclusive '\n' sdp).map fun line =>
          (insertedLines payloadType (wantedParams stereo bits) line).flatten :=
      List.map_congr_left fun line _ => insertFmtp_eq line
    rw [each, List.flatMap_def, List.flatten_flatten, List.map_map]
    rfl

theorem fmtpPrefix_append (payloadType rest : List Char) :
    fmtpPrefix payloadType ++ rest = "a=fmtp:".toList ++ (payloadType ++ [' '] ++ rest) := by
  have whole : ∀ start : List Char,
      start ++ payloadType ++ [' '] ++ rest = start ++ (payloadType ++ [' '] ++ rest) := by simp
  exact whole _

theorem opusPayload_of_fmtpPrefix (payloadType rest : List Char) :
    opusPayload (withoutLineEnd (fmtpPrefix payloadType ++ rest)) = none := by
  rw [fmtpPrefix_append]
  exact opusPayload_of_fmtp _

/-- Rewriting a line does not make it an `rtpmap` line, nor another one. -/
theorem opusPayload_rewriteLine (line : List Char) :
    opusPayload (withoutLineEnd (rewriteLine payloadType wanted line)) =
      opusPayload (withoutLineEnd line) := by
  cases fmtp : fmtpParams payloadType line with
  | none => rw [rewriteLine_of_none fmtp]
  | some existing =>
    have old : opusPayload (withoutLineEnd line) = none := by
      rw [line_of_fmtpParams fmtp, List.append_assoc]
      exact opusPayload_of_fmtpPrefix payloadType _
    rw [old, rewriteLine, fmtp]
    simp only
    rw [List.append_assoc]
    exact opusPayload_of_fmtpPrefix payloadType _

/-- Neither is an inserted line an `rtpmap` line. -/
theorem findSome?_insertedLines (line : List Char) :
    ((insertedLines payloadType wanted line).map withoutLineEnd).findSome? opusPayload =
      opusPayload (withoutLineEnd line) := by
  have none : opusPayload (withoutLineEnd (fmtpLine payloadType wanted line)) = none := by
    rw [fmtpLine, List.append_assoc]
    exact opusPayload_of_fmtpPrefix payloadType _
  unfold insertedLines
  split
  · simp only [List.map_cons, List.map_nil, List.findSome?_cons, List.findSome?_nil, none]
    cases opusPayload (withoutLineEnd line) <;> rfl
  · simp only [List.map_cons, List.map_nil, List.findSome?_cons, List.findSome?_nil]
    cases opusPayload (withoutLineEnd line) <;> rfl

/-- The payload type is found in the munged lines as in the old ones. -/
theorem findSome?_mungeLines (lines : List (List Char)) :
    ((mungeLines payloadType wanted lines).map withoutLineEnd).findSome? opusPayload =
      (lines.map withoutLineEnd).findSome? opusPayload := by
  unfold mungeLines
  split
  next =>
    have each : (opusPayload ∘ withoutLineEnd) ∘ rewriteLine payloadType wanted =
        opusPayload ∘ withoutLineEnd := funext opusPayload_rewriteLine
    rw [List.findSome?_map, List.findSome?_map, List.findSome?_map, each]
  next =>
    clear * -
    induction lines with
    | nil => rfl
    | cons line lines hypothesis =>
      rw [List.flatMap_cons, List.map_append, List.findSome?_append, findSome?_insertedLines,
        hypothesis, List.map_cons, List.findSome?_cons]
      cases opusPayload (withoutLineEnd line) <;> rfl

/-- The second time, rewritten lines are rewritten to what they are. -/
theorem mungeLines_rewritten
    (fmtp : (lines.any fun line => (fmtpParams payloadType line).isSome) = true)
    (named : ∀ line ∈ lines, ∀ existing, fmtpParams payloadType line = some existing →
      ∀ parameter ∈ parseParams existing, Named parameter) :
    mungeLines payloadType (wantedParams stereo bits)
        (lines.map (rewriteLine payloadType (wantedParams stereo bits))) =
      lines.map (rewriteLine payloadType (wantedParams stereo bits)) := by
  have again : ((lines.map (rewriteLine payloadType (wantedParams stereo bits))).any
      fun line => (fmtpParams payloadType line).isSome) = true := by
    obtain ⟨line, member, parameters⟩ := List.any_eq_true.mp fmtp
    obtain ⟨existing, found⟩ := Option.isSome_iff_exists.mp parameters
    refine List.any_eq_true.mpr ⟨_, List.mem_map_of_mem member, ?_⟩
    rw [(fmtpParams_rewriteLine stereo bits found (named line member existing found)).1]
    rfl
  rw [mungeLines, if_pos again, List.map_map]
  exact List.map_congr_left fun line member => rewriteLine_again (named line member)

theorem flatMap_insertedLines_of_none (wanted : List Parameter)
    (none : ∀ line ∈ lines, (rtpmapPrefix payloadType).isPrefixOf line = false) :
    lines.flatMap (insertedLines payloadType wanted) = lines := by
  induction lines with
  | nil => rfl
  | cons line lines hypothesis =>
    obtain ⟨here, others⟩ := List.forall_mem_cons.mp none
    rw [List.flatMap_cons, hypothesis others, insertedLines, here]
    rfl

/-- The second time, inserted lines are rewritten to what they are. -/
theorem mungeLines_inserted (plain : ∀ line ∈ lines, fmtpParams payloadType line = none) :
    mungeLines payloadType (wantedParams stereo bits)
        (lines.flatMap (insertedLines payloadType (wantedParams stereo bits))) =
      lines.flatMap (insertedLines payloadType (wantedParams stereo bits)) := by
  have kept : ∀ line ∈ lines.flatMap (insertedLines payloadType (wantedParams stereo bits)),
      rewriteLine payloadType (wantedParams stereo bits) line = line := by
    intro line member
    obtain ⟨old, among, inside⟩ := List.mem_flatMap.mp member
    rcases mem_insertedLines inside with rfl | rfl
    · exact rewriteLine_of_none (plain line among)
    · exact rewriteLine_fmtpLine old
  by_cases rtpmap : ∃ line ∈ lines, (rtpmapPrefix payloadType).isPrefixOf line = true
  · have again : ((lines.flatMap (insertedLines payloadType (wantedParams stereo bits))).any
        fun line => (fmtpParams payloadType line).isSome) = true := by
      obtain ⟨line, member, begins⟩ := rtpmap
      refine List.any_eq_true.mpr ⟨fmtpLine payloadType (wantedParams stereo bits) line,
        List.mem_flatMap.mpr ⟨line, member, ?_⟩, ?_⟩
      · rw [insertedLines, if_pos begins]
        simp
      · rw [(fmtpParams_fmtpLine payloadType stereo bits line).1]
        rfl
    rw [mungeLines, if_pos again]
    exact (List.map_congr_left kept).trans (List.map_id _)
  · -- nothing was inserted, and nothing will be
    have unchanged := flatMap_insertedLines_of_none (wantedParams stereo bits)
      fun line member => Bool.eq_false_iff.mpr fun begins => rtpmap ⟨line, member, begins⟩
    have silent : ¬(lines.any fun line => (fmtpParams payloadType line).isSome) = true := by
      rw [Bool.not_eq_true, List.any_eq_false]
      intro line member
      rw [plain line member]
      exact Bool.false_ne_true
    rw [unchanged, mungeLines, if_neg silent, unchanged]

/-- Munging the munged lines changes nothing. -/
theorem mungeLines_again
    (named : ∀ line ∈ lines, ∀ existing, fmtpParams payloadType line = some existing →
      ∀ parameter ∈ parseParams existing, Named parameter) :
    mungeLines payloadType (wantedParams stereo bits)
        (mungeLines payloadType (wantedParams stereo bits) lines) =
      mungeLines payloadType (wantedParams stereo bits) lines := by
  by_cases fmtp : (lines.any fun line => (fmtpParams payloadType line).isSome) = true
  · have munged : mungeLines payloadType (wantedParams stereo bits) lines = _ := if_pos fmtp
    rw [munged]
    exact mungeLines_rewritten fmtp named
  · have munged : mungeLines payloadType (wantedParams stereo bits) lines = _ := if_neg fmtp
    rw [munged]
    refine mungeLines_inserted fun line member => Option.not_isSome_iff_eq_none.mp ?_
    exact List.any_eq_false.mp (Bool.eq_false_iff.mpr fmtp) line member

/-- The lines of a munged text, and its payload type. -/
theorem splitInclusive_munge (stereo : Bool) (bits : Nat) (ends : EndsLines sdp)
    (found : opusPayloadType sdp = some payloadType) :
    splitInclusive '\n' (mungeOpusParams sdp stereo bits) =
        mungeLines payloadType (wantedParams stereo bits) (splitInclusive '\n' sdp) ∧
      opusPayloadType (mungeOpusParams sdp stereo bits) = some payloadType := by
  have split : splitInclusive '\n' (mungeOpusParams sdp stereo bits) =
      mungeLines payloadType (wantedParams stereo bits) (splitInclusive '\n' sdp) := by
    rw [mungeOpusParams_eq stereo bits found]
    exact splitInclusive_flatten (terminated_mungeLines (unbroken_of_opusPayloadType ends found)
      (terminated_of_mem_splitInclusive ends))
  refine ⟨split, ?_⟩
  rw [opusPayloadType, split, findSome?_mungeLines]
  exact found

end Lines

/-! ### Munging touches the Opus `fmtp` lines only -/

/-- Read as a map, the new list is the old one overridden by the wanted values; the old
parameters keep their order. -/
structure Overrides (wanted old new : List Parameter) : Prop where
  values : ∀ name, valueOf name new = (valueOf name wanted).or (valueOf name old)
  order : old.map Prod.fst <+: new.map Prod.fst
  distinct : (new.map Prod.fst).Nodup

/-- What becomes of a line where there are `fmtp` lines. -/
def Rewrites (payloadType : List Char) (wanted : List Parameter) (line munged : List Char) :
    Prop :=
  match fmtpParams payloadType line with
  | none => munged = line
  | some existing => ∃ merged, munged = fmtpPrefix payloadType ++ merged ++ lineEnd line ∧
      fmtpParams payloadType munged = some merged ∧
        Overrides wanted (parseParams existing) (parseParams merged)

/-- The names of an `fmtp` line are distinct, non-empty and free of whitespace. -/
def WellNamed (parameters : List Parameter) : Prop :=
  (parameters.map Prod.fst).Nodup ∧ ∀ parameter ∈ parameters, Named parameter

instance : DecidablePred WellNamed := fun _ => inferInstanceAs (Decidable (_ ∧ _))

theorem isSome_fmtpParams_iff :
    (fmtpParams payloadType line).isSome = true ↔ fmtpPrefix payloadType <+: line := by
  rw [← prefix_body_iff (fmtpPrefix_getLast? payloadType), Option.isSome_iff_exists]
  constructor
  · rintro ⟨existing, found⟩
    exact ⟨existing, (stripPrefix_eq_some.mp found).symm⟩
  · rintro ⟨existing, split⟩
    exact ⟨existing, stripPrefix_eq_some.mpr split.symm⟩

theorem rewrites_rewriteLine {stereo : Bool} {bits : Nat}
    (named : ∀ existing, fmtpParams payloadType line = some existing →
      WellNamed (parseParams existing)) :
    Rewrites payloadType (wantedParams stereo bits) line
      (rewriteLine payloadType (wantedParams stereo bits) line) := by
  unfold Rewrites
  split
  next other => exact rewriteLine_of_none other
  next existing fmtp =>
    obtain ⟨distinct, names⟩ := named existing fmtp
    refine ⟨mergeParams existing (wantedParams stereo bits), ?_,
      (fmtpParams_rewriteLine stereo bits fmtp names).1, ?_⟩
    · rw [rewriteLine, fmtp]
    · rw [parseParams_mergeParams names]
      exact ⟨valueOf_setParams (wantedParams_distinct stereo bits), names_setParams,
        nodup_setParams distinct⟩

/-- Munging keeps a text without Opus as it is. Where there are `fmtp` lines of Opus it keeps
every other line and overrides the parameters in them; where there is none, it inserts one with
the wanted parameters directly behind each `rtpmap` line of the payload type. -/
theorem munging_touches_opus_fmtp_only (sdp : List Char) (stereo : Bool) (bits : Nat)
    (ends : EndsLines sdp) :
    (opusPayloadType sdp = none → mungeOpusParams sdp stereo bits = sdp) ∧
    ∀ payloadType, opusPayloadType sdp = some payloadType →
      (∀ line ∈ splitInclusive '\n' sdp, ∀ existing, fmtpParams payloadType line = some existing →
        WellNamed (parseParams existing)) →
      ((∃ line ∈ splitInclusive '\n' sdp, fmtpPrefix payloadType <+: line) →
        List.Forall₂ (Rewrites payloadType (wantedParams stereo bits)) (splitInclusive '\n' sdp)
          (splitInclusive '\n' (mungeOpusParams sdp stereo bits))) ∧
      ((¬∃ line ∈ splitInclusive '\n' sdp, fmtpPrefix payloadType <+: line) →
        splitInclusive '\n' (mungeOpusParams sdp stereo bits) =
            (splitInclusive '\n' sdp).flatMap
              (insertedLines payloadType (wantedParams stereo bits)) ∧
          ∀ line, ∃ parameters,
            fmtpParams payloadType (fmtpLine payloadType (wantedParams stereo bits) line) =
              some parameters ∧ parseParams parameters = wantedParams stereo bits) := by
  refine ⟨fun none => by rw [mungeOpusParams, none], fun payloadType found named => ?_⟩
  obtain ⟨split, -⟩ := splitInclusive_munge stereo bits ends found
  rw [split, mungeLines]
  constructor
  · rintro ⟨line, member, begins⟩
    rw [if_pos (List.any_eq_true.mpr ⟨line, member, isSome_fmtpParams_iff.mpr begins⟩),
      List.forall₂_map_right_iff, List.forall₂_same]
    exact fun line member => rewrites_rewriteLine (named line member)
  · intro none
    have silent : ¬((splitInclusive '\n' sdp).any fun line =>
        (fmtpParams payloadType line).isSome) = true := by
      intro any
      obtain ⟨line, member, fmtp⟩ := List.any_eq_true.mp any
      exact none ⟨line, member, isSome_fmtpParams_iff.mp fmtp⟩
    rw [if_neg silent]
    exact ⟨rfl, fun line => ⟨_, (fmtpParams_fmtpLine payloadType stereo bits line).1,
      parseParams_wantedParams stereo bits⟩⟩

/-- An offer with one section and Opus parameters of its own. -/
def offerWithFmtp : List Char :=
  ("m=audio 9 UDP/TLS/RTP/SAVPF 111\r\na=rtpmap:111 opus/48000/2\r\n".toList ++
    "a=fmtp:111 cbr=1;stereo=0\r\n".toList)

/-- Both sides of the premise occur: there is an `fmtp` line, and its names are in order. -/
theorem munging_touches_opus_fmtp_only_stereo :
    mungeOpusParams offerWithFmtp true 131072 =
        ("m=audio 9 UDP/TLS/RTP/SAVPF 111\r\na=rtpmap:111 opus/48000/2\r\n".toList ++
          "a=fmtp:111 cbr=1;stereo=1;minptime=10;useinbandfec=0;sprop-stereo=1;".toList ++
          "maxaveragebitrate=131072\r\n".toList) ∧
      List.Forall₂ (Rewrites "111".toList (wantedParams true 131072))
        (splitInclusive '\n' offerWithFmtp)
        (splitInclusive '\n' (mungeOpusParams offerWithFmtp true 131072)) := by
  have last : offerWithFmtp.getLast? = some '\n' := by decide
  have ends : EndsLines offerWithFmtp := fun character found =>
    Option.some.inj (found.symm.trans last)
  have named : ∀ line ∈ splitInclusive '\n' offerWithFmtp,
      ∀ existing ∈ fmtpParams "111".toList line, WellNamed (parseParams existing) := by
    decide +kernel
  have fmtp : ∃ line ∈ splitInclusive '\n' offerWithFmtp, fmtpPrefix "111".toList <+: line := by
    decide +kernel
  refine ⟨by decide +kernel, ?_⟩
  obtain ⟨-, munged⟩ := munging_touches_opus_fmtp_only offerWithFmtp true 131072 ends
  exact (munged "111".toList (by decide +kernel) named).1 fmtp

/-! ### Munging can be repeated -/

/-- Munging a munged text again returns it unchanged. -/
theorem munging_idempotent (sdp : List Char) (stereo : Bool) (bits : Nat) (ends : EndsLines sdp)
    (named : ∀ payloadType, opusPayloadType sdp = some payloadType →
      ∀ line ∈ splitInclusive '\n' sdp, ∀ existing, fmtpParams payloadType line = some existing →
        ∀ parameter ∈ parseParams existing, Named parameter) :
    mungeOpusParams (mungeOpusParams sdp stereo bits) stereo bits =
      mungeOpusParams sdp stereo bits := by
  cases found : opusPayloadType sdp with
  | none =>
    have same : mungeOpusParams sdp stereo bits = sdp := by rw [mungeOpusParams, found]
    rw [same, same]
  | some payloadType =>
    obtain ⟨split, again⟩ := splitInclusive_munge stereo bits ends found
    rw [mungeOpusParams_eq stereo bits again, split,
      mungeLines_again (named payloadType found), ← split, flatten_splitInclusive]

/-- An offer without Opus parameters: the first time inserts them, the second rewrites them. -/
def offerWithoutFmtp : List Char :=
  "m=audio 9 UDP/TLS/RTP/SAVPF 111\r\na=rtpmap:111 opus/48000/2\r\n".toList

theorem munging_idempotent_inserted :
    mungeOpusParams offerWithoutFmtp true 131072 ≠ offerWithoutFmtp ∧
      mungeOpusParams (mungeOpusParams offerWithoutFmtp true 131072) true 131072 =
        mungeOpusParams offerWithoutFmtp true 131072 := by
  have last : offerWithoutFmtp.getLast? = some '\n' := by decide
  have none : ∀ line ∈ splitInclusive '\n' offerWithoutFmtp,
      fmtpParams "111".toList line = none := by decide +kernel
  have payload : opusPayloadType offerWithoutFmtp = some "111".toList := by decide +kernel
  refine ⟨by decide +kernel, munging_idempotent offerWithoutFmtp true 131072
    (fun character found => Option.some.inj (found.symm.trans last)) ?_⟩
  intro payloadType found line member existing fmtp
  rw [← Option.some.inj (payload.symm.trans found), none line member] at fmtp
  cases fmtp

end Sdp

end RelayConnector
