/-
This file models the offer that `run_handshake` of `rtc/handshake.rs` sends for a group of
buses, and says when each bus is signalled with its own channel layout.

The offer that is munged comes from the peer connection; it is any text with one section for
each bus, in which Opus has one payload type. The layouts of the group are folded into one flag
before the munging, which writes it into every section.
-/

import RelayConnector.Munging

namespace RelayConnector

namespace Sdp

open Text

/-! ### The offer of a group -/

/-- The parameters of one bus. -/
structure PublishMedia where
  stereo : Bool
  maxAvgBitrateKbps : UInt32
  streamId : List Char

def sdpBitsPerKbps : UInt32 := 1024

/-- The offer that is sent, from the text of the peer connection's offer. -/
def offerSdp (offer : List Char) (media : List PublishMedia) : List Char :=
  mungeOpusParams offer (media.any fun item => item.stereo)
    (((media.map fun item => item.maxAvgBitrateKbps).max?.getD 128) * sdpBitsPerKbps).toNat

/-! ### What a section signals -/

def startsSection (line : List Char) : Bool := "m=".toList.isPrefixOf line

/-- The media sections of a text, as lists of lines. -/
def sections (sdp : List Char) : List (List (List Char)) :=
  blocks startsSection (splitInclusive '\n' sdp)

def hasValue (parameter : Parameter) : Bool := !parameter.2.isEmpty

/-- The value of the first parameter of a name that has one. -/
def advertised (name parameters : List Char) : Option (List Char) :=
  valueOf name ((parseParams parameters).filter hasValue)

def flagText (flag : Bool) : List Char := if flag then ['1'] else ['0']

def Signals (flag : Bool) (parameters : List Char) : Prop :=
  advertised "stereo".toList parameters = some (flagText flag) ∧
    advertised "sprop-stereo".toList parameters = some (flagText flag)

/-- A section with Opus parameters, all of which signal this layout. -/
def Advertises (payloadType : List Char) (flag : Bool) (media : List (List Char)) : Prop :=
  (∃ line ∈ media, fmtpPrefix payloadType <+: line) ∧
    ∀ line ∈ media, ∀ parameters, fmtpParams payloadType line = some parameters →
      Signals flag parameters

/-- The text of an offer with one section for each bus, each with an `rtpmap` of Opus, all of
the same payload type. -/
structure OffersBuses (payloadType : List Char) (buses : Nat) (offer : List Char) : Prop where
  ends : EndsLines offer
  count : (sections offer).length = buses
  opus : ∀ media ∈ sections offer, ∃ line ∈ media,
    rtpmapPrefix payloadType <+: line ∧ opusPayload (withoutLineEnd line) = some payloadType
  same : ∀ line ∈ splitInclusive '\n' offer, ∀ other,
    opusPayload (withoutLineEnd line) = some other → other = payloadType

theorem flagText_injective : Function.Injective flagText := by
  intro first second same
  cases first <;> cases second <;> first | rfl | cases same

theorem Signals.unique {first second : Bool} {parameters : List Char}
    (one : Signals first parameters) (other : Signals second parameters) : first = second :=
  flagText_injective (Option.some.inj (one.1.symm.trans other.1))

/-! ### Munged parameters -/

/-- A name whose first value is there is read, whatever has no value. -/
theorem valueOf_filter_hasValue {parameters : List Parameter} {name value : List Char}
    (found : valueOf name parameters = some value) (some : value ≠ []) :
    valueOf name (parameters.filter hasValue) = Option.some value := by
  induction parameters with
  | nil => cases found
  | cons first rest hypothesis =>
    unfold valueOf at found
    split at found
    next same =>
      have valued : hasValue first = true := by
        simpa [hasValue, Option.some.inj found] using some
      rw [List.filter_cons_of_pos valued, valueOf, if_pos same, found]
    next other =>
      rw [List.filter_cons]
      split
      · rw [valueOf, if_neg other]
        exact hypothesis found
      · exact hypothesis found

/-- What has a value is read back from a rendered list. -/
theorem filter_parseParams_render {parameters : List Parameter} (some : parameters ≠ [])
    (separated : ∀ parameter ∈ parameters, Separated parameter) :
    (parseParams (join ';' (parameters.map renderParam))).filter hasValue =
      parameters.filter hasValue := by
  rw [parseParams_render some separated, List.filter_filterMap, ← List.filterMap_eq_filter]
  refine List.filterMap_congr fun parameter member => ?_
  have kept := separated parameter member
  by_cases bare : parameter.2 = []
  · have nothing : hasValue parameter = false := by simp [hasValue, bare]
    rw [Option.guard, if_neg (Bool.not_eq_true _ ▸ nothing), Function.comp_apply]
    cases parsed : parseParam (renderParam parameter) with
    | none => rfl
    | some read =>
      have empty : hasValue read = false := by
        rw [hasValue, parseParam_of_none kept bare parsed]
        rfl
      exact Option.filter_some_neg empty
  · rw [Function.comp_apply, parseParam_of_value kept bare]
    rfl

section Munged

variable {payloadType : List Char} {stereo : Bool} {bits : Nat}

theorem valueOf_flags (stereo : Bool) (bits : Nat) :
    valueOf "stereo".toList (wantedParams stereo bits) = some (flagText stereo) ∧
      valueOf "sprop-stereo".toList (wantedParams stereo bits) = some (flagText stereo) := by
  cases stereo <;> exact ⟨rfl, rfl⟩

theorem flagText_ne_nil (flag : Bool) : flagText flag ≠ [] := by cases flag <;> decide

theorem signals_mergeParams (stereo : Bool) (bits : Nat) (existing : List Char) :
    Signals stereo (mergeParams existing (wantedParams stereo bits)) := by
  have separated : ∀ parameter ∈ (wantedParams stereo bits).foldl setParam (parseParams existing),
      Separated parameter := by
    intro parameter member
    rcases mem_setParams member with old | wanted
    · exact (separated_of_mem_parseParams old).1
    · exact (sendable_of_mem_wantedParams wanted).toSeparated
  have read : ∀ name, valueOf name (wantedParams stereo bits) = some (flagText stereo) →
      advertised name (mergeParams existing (wantedParams stereo bits)) =
        some (flagText stereo) := by
    intro name wanted
    rw [advertised, mergeParams, filter_parseParams_render (merged_ne_nil _) separated]
    refine valueOf_filter_hasValue ?_ (flagText_ne_nil stereo)
    rw [valueOf_setParams (wantedParams_distinct stereo bits), wanted]
    rfl
  exact ⟨read _ (valueOf_flags stereo bits).1, read _ (valueOf_flags stereo bits).2⟩

theorem signals_wantedParams :
    Signals stereo (join ';' ((wantedParams stereo bits).map renderParam)) := by
  have read : ∀ name, valueOf name (wantedParams stereo bits) = some (flagText stereo) →
      advertised name (join ';' ((wantedParams stereo bits).map renderParam)) =
        some (flagText stereo) := by
    intro name wanted
    rw [advertised, parseParams_wantedParams stereo bits]
    exact valueOf_filter_hasValue wanted (flagText_ne_nil stereo)
  exact ⟨read _ (valueOf_flags stereo bits).1, read _ (valueOf_flags stereo bits).2⟩

/-- The characters of a line end are not part of the last parameter. -/
theorem parseParams_body (parameters : List Char) :
    parseParams (body parameters) = parseParams parameters := by
  induction parameters using List.reverseRecOn with
  | nil => rfl
  | append_singleton text final hypothesis =>
    cases ending : isLineEnd final with
    | false => rw [body_of_last List.getLast?_concat ending]
    | true =>
      have blank : isWhitespace final = true ∧ final ≠ ';' := by
        rw [isLineEnd, Bool.or_eq_true, beq_iff_eq, beq_iff_eq] at ending
        rcases ending with rfl | rfl <;> decide
      obtain ⟨front, last, split⟩ := splitOn_append_fresh ';' text
      have before := split [] (List.not_mem_nil)
      have after := split [final] (by simpa using Ne.symm blank.2)
      rw [List.append_nil, List.append_nil] at before
      have same : parseParam (last ++ [final]) = parseParam last := by
        rw [parseParam, parseParam, trim, trimMatches_concat blank.1]
      rw [body, List.rdropWhile_concat_pos _ _ _ ending]
      refine hypothesis.trans ?_
      rw [parseParams, parseParams, before, after, List.filterMap_append, List.filterMap_append,
        List.filterMap_cons, List.filterMap_cons, same]

/-- Every `fmtp` line that is rewritten signals the flag. -/
theorem signals_rewriteLine {line parameters : List Char}
    (fmtp : fmtpParams payloadType (rewriteLine payloadType (wantedParams stereo bits) line) =
      some parameters) : Signals stereo parameters := by
  cases found : fmtpParams payloadType line with
  | none =>
    rw [rewriteLine_of_none found, found] at fmtp
    cases fmtp
  | some existing =>
    have read : fmtpParams payloadType (rewriteLine payloadType (wantedParams stereo bits) line) =
        some (body (mergeParams existing (wantedParams stereo bits))) := by
      rw [rewriteLine, found, fmtpParams]
      simp only
      rw [body_append_ending _ fun _ => isLineEnd_of_mem_lineEnd,
        body_append_of_last (fmtpPrefix_getLast? payloadType) (by decide), stripPrefix_append]
    have merged := signals_mergeParams stereo bits existing
    rw [← Option.some.inj (read.symm.trans fmtp)]
    unfold Signals advertised at merged ⊢
    rwa [parseParams_body]

theorem fmtpPrefix_rewriteLine_iff {line : List Char} :
    fmtpPrefix payloadType <+: rewriteLine payloadType (wantedParams stereo bits) line ↔
      fmtpPrefix payloadType <+: line := by
  cases found : fmtpParams payloadType line with
  | none => rw [rewriteLine_of_none found]
  | some existing =>
    have begins : fmtpPrefix payloadType <+: line :=
      isSome_fmtpParams_iff.mp (by rw [found]; rfl)
    refine iff_of_true ?_ begins
    have rewritten : rewriteLine payloadType (wantedParams stereo bits) line =
        fmtpPrefix payloadType ++ (mergeParams existing (wantedParams stereo bits) ++
          lineEnd line) := by
      rw [rewriteLine, found]
      exact List.append_assoc _ _ _
    rw [rewritten]
    exact List.prefix_append _ _

/-! ### Munged sections -/

/-- A section that is rewritten. -/
theorem advertises_rewritten {media : List (List Char)} {flag : Bool} :
    Advertises payloadType flag (media.map (rewriteLine payloadType (wantedParams stereo bits))) ↔
      flag = stereo ∧ ∃ line ∈ media, fmtpPrefix payloadType <+: line := by
  constructor
  · rintro ⟨⟨munged, member, begins⟩, signals⟩
    obtain ⟨line, among, rfl⟩ := List.mem_map.mp member
    obtain ⟨parameters, fmtp⟩ :=
      Option.isSome_iff_exists.mp (isSome_fmtpParams_iff.mpr begins)
    exact ⟨(signals _ member parameters fmtp).unique (signals_rewriteLine fmtp), line, among,
      fmtpPrefix_rewriteLine_iff.mp begins⟩
  · rintro ⟨rfl, line, among, begins⟩
    refine ⟨⟨_, List.mem_map_of_mem among, fmtpPrefix_rewriteLine_iff.mpr begins⟩, ?_⟩
    intro munged member parameters fmtp
    obtain ⟨line, -, rfl⟩ := List.mem_map.mp member
    exact signals_rewriteLine fmtp

/-- A section with an `rtpmap` line and no `fmtp` line, into which lines are inserted. -/
theorem advertises_inserted {media : List (List Char)} {flag : Bool}
    (rtpmap : ∃ line ∈ media, rtpmapPrefix payloadType <+: line)
    (none : ∀ line ∈ media, ¬fmtpPrefix payloadType <+: line) :
    Advertises payloadType flag
        (media.flatMap (insertedLines payloadType (wantedParams stereo bits))) ↔
      flag = stereo := by
  have inserted : ∃ line, fmtpLine payloadType (wantedParams stereo bits) line ∈
      media.flatMap (insertedLines payloadType (wantedParams stereo bits)) := by
    obtain ⟨line, member, begins⟩ := rtpmap
    refine ⟨line, List.mem_flatMap.mpr ⟨line, member, ?_⟩⟩
    rw [insertedLines, if_pos (List.isPrefixOf_iff_prefix.mpr begins)]
    simp
  have signals : ∀ line ∈ media.flatMap (insertedLines payloadType (wantedParams stereo bits)),
      ∀ parameters, fmtpParams payloadType line = some parameters →
        Signals stereo parameters := by
    intro line member parameters fmtp
    obtain ⟨old, among, inside⟩ := List.mem_flatMap.mp member
    rcases mem_insertedLines inside with rfl | rfl
    · exact absurd (isSome_fmtpParams_iff.mp (by rw [fmtp]; rfl)) (none line among)
    · rw [(fmtpParams_fmtpLine payloadType stereo bits old).1] at fmtp
      rw [← Option.some.inj fmtp]
      exact signals_wantedParams
  obtain ⟨line, member⟩ := inserted
  have read := (fmtpParams_fmtpLine payloadType stereo bits line).1
  constructor
  · rintro ⟨-, flagged⟩
    exact (flagged _ member _ read).unique (signals _ member _ read)
  · rintro rfl
    exact ⟨⟨_, member, isSome_fmtpParams_iff.mp (by rw [read]; rfl)⟩, signals⟩

theorem not_startsSection_of_fmtpPrefix {line : List Char}
    (begins : fmtpPrefix payloadType <+: line) : startsSection line = false := by
  obtain ⟨rest, rfl⟩ := begins
  rfl

theorem not_startsSection_fmtpLine (line : List Char) :
    startsSection (fmtpLine payloadType (wantedParams stereo bits) line) = false := by
  have read := (fmtpParams_fmtpLine payloadType stereo bits line).1
  exact not_startsSection_of_fmtpPrefix (isSome_fmtpParams_iff.mp (by rw [read]; rfl))

theorem keepsStarts_rewriteLine : KeepsStarts startsSection
    fun line => [rewriteLine payloadType (wantedParams stereo bits) line] where
  start line starts := by
    have other : fmtpParams payloadType line = none := by
      refine Option.not_isSome_iff_eq_none.mp fun fmtp => ?_
      rw [not_startsSection_of_fmtpPrefix (isSome_fmtpParams_iff.mp fmtp)] at starts
      cases starts
    exact ⟨line, [], by rw [rewriteLine_of_none other], starts, fun _ member => nomatch member⟩
  other line inside munged member := by
    rw [List.mem_singleton.mp member]
    by_cases fmtp : fmtpPrefix payloadType <+: line
    · exact not_startsSection_of_fmtpPrefix (fmtpPrefix_rewriteLine_iff.mpr fmtp)
    · rw [rewriteLine_of_none]
      · exact inside
      · exact Option.not_isSome_iff_eq_none.mp fun some => fmtp (isSome_fmtpParams_iff.mp some)

theorem keepsStarts_insertedLines : KeepsStarts startsSection
    (insertedLines payloadType (wantedParams stereo bits)) where
  start line starts := by
    unfold insertedLines
    split
    · refine ⟨line, _, rfl, starts, fun next member => ?_⟩
      rw [List.mem_singleton.mp member]
      exact not_startsSection_fmtpLine line
    · exact ⟨line, [], rfl, starts, fun _ member => nomatch member⟩
  other line inside munged member := by
    rcases mem_insertedLines member with rfl | rfl
    · exact inside
    · exact not_startsSection_fmtpLine line

end Munged

/-! ### The layout of each bus -/

section Group

variable {payloadType offer : List Char} {buses : Nat}

theorem opusPayloadType_of_offer (shape : OffersBuses payloadType buses offer) (some : 0 < buses) :
    opusPayloadType offer = Option.some payloadType := by
  obtain ⟨media, among⟩ := List.exists_mem_of_length_pos (shape.count.symm ▸ some)
  obtain ⟨line, member, -, payload⟩ := shape.opus media among
  have there : withoutLineEnd line ∈ (splitInclusive '\n' offer).map withoutLineEnd :=
    List.mem_map_of_mem (mem_of_mem_blocks among member)
  have found : (opusPayloadType offer).isSome = true :=
    List.findSome?_isSome_iff.mpr ⟨_, there, by rw [payload]; rfl⟩
  obtain ⟨other, first⟩ := Option.isSome_iff_exists.mp found
  obtain ⟨text, inside, read⟩ := List.exists_of_findSome?_eq_some first
  obtain ⟨old, within, rfl⟩ := List.mem_map.mp inside
  rw [first, shape.same old within other read]

/-- Every section of the offer is munged on its own, and signals the one flag if it has an
`fmtp` line or if no line of the offer is one. -/
theorem sections_munge (stereo : Bool) (bits : Nat) (shape : OffersBuses payloadType buses offer)
    (some : 0 < buses) :
    ∃ munge : List (List Char) → List (List Char),
      sections (mungeOpusParams offer stereo bits) = (sections offer).map munge ∧
        ∀ media ∈ sections offer, ∀ flag, Advertises payloadType flag (munge media) ↔
          flag = stereo ∧ ((∃ line ∈ media, fmtpPrefix payloadType <+: line) ∨
            ∀ line ∈ splitInclusive '\n' offer, ¬fmtpPrefix payloadType <+: line) := by
  obtain ⟨split, -⟩ :=
    splitInclusive_munge stereo bits shape.ends (opusPayloadType_of_offer shape some)
  rw [sections, split, mungeLines]
  by_cases fmtp : ((splitInclusive '\n' offer).any fun line =>
      (fmtpParams payloadType line).isSome) = true
  · obtain ⟨line, member, present⟩ := List.any_eq_true.mp fmtp
    refine ⟨fun media => media.map (rewriteLine payloadType (wantedParams stereo bits)), ?_, ?_⟩
    · rw [if_pos fmtp, List.map_eq_flatMap, blocks_flatMap keepsStarts_rewriteLine]
      exact List.map_congr_left fun media _ => List.map_eq_flatMap.symm
    · intro media _ flag
      have some : ¬∀ line ∈ splitInclusive '\n' offer, ¬fmtpPrefix payloadType <+: line :=
        fun none => none line member (isSome_fmtpParams_iff.mp present)
      rw [advertises_rewritten, or_iff_left some]
  · have none : ∀ line ∈ splitInclusive '\n' offer, ¬fmtpPrefix payloadType <+: line :=
      fun line member begins =>
        fmtp (List.any_eq_true.mpr ⟨line, member, isSome_fmtpParams_iff.mpr begins⟩)
    refine ⟨fun media => media.flatMap (insertedLines payloadType (wantedParams stereo bits)),
      ?_, ?_⟩
    · rw [if_neg fmtp, blocks_flatMap keepsStarts_insertedLines]
      rfl
    · intro media among flag
      obtain ⟨line, member, begins, -⟩ := shape.opus media among
      rw [advertises_inserted ⟨line, member, begins⟩
        fun line member => none line (mem_of_mem_blocks among member)]
      exact ⟨fun same => ⟨same, .inr none⟩, And.left⟩

/-- A relation between two lists that asks something of each item on its own. -/
theorem forall₂_iff_of_each {First Second : Type} {relation : First → Second → Prop}
    {left : First → Prop} {right : Second → Prop} {firsts : List First} {seconds : List Second}
    (length : firsts.length = seconds.length)
    (each : ∀ second ∈ seconds, ∀ first, relation first second ↔ left first ∧ right second) :
    List.Forall₂ relation firsts seconds ↔
      (∀ first ∈ firsts, left first) ∧ ∀ second ∈ seconds, right second := by
  induction firsts generalizing seconds with
  | nil =>
    rw [List.eq_nil_of_length_eq_zero length.symm]
    simp
  | cons first firsts hypothesis =>
    cases seconds with
    | nil => cases length
    | cons second seconds =>
      obtain ⟨here, others⟩ := List.forall_mem_cons.mp each
      rw [List.forall₂_cons, here, hypothesis (Nat.succ.inj length) others,
        List.forall_mem_cons, List.forall_mem_cons]
      exact and_and_and_comm

/-- The folded flag is the flag of every bus exactly when the buses agree. -/
theorem forall_eq_any_iff {media : List PublishMedia} :
    (∀ item ∈ media, item.stereo = media.any fun item => item.stereo) ↔
      ∀ item ∈ media, ∀ other ∈ media, item.stereo = other.stereo := by
  constructor
  · exact fun folded item member other among =>
      (folded item member).trans (folded other among).symm
  · intro agree item member
    rw [Bool.eq_iff_iff, List.any_eq_true]
    refine ⟨fun stereo => ⟨item, member, stereo⟩, ?_⟩
    rintro ⟨other, among, stereo⟩
    rw [agree item member other among, stereo]

/-- The section of every bus signals the layout of that bus exactly when all buses of the group
have the same layout, and either every section of the offer has Opus parameters or no line of
the offer has them. -/
theorem per_bus_stereo_iff (media : List PublishMedia) (nonempty : media ≠ [])
    (shape : OffersBuses payloadType media.length offer) :
    List.Forall₂ (fun item munged => Advertises payloadType item.stereo munged) media
        (sections (offerSdp offer media)) ↔
      (∀ item ∈ media, ∀ other ∈ media, item.stereo = other.stereo) ∧
        ((∀ old ∈ sections offer, ∃ line ∈ old, fmtpPrefix payloadType <+: line) ∨
          ∀ line ∈ splitInclusive '\n' offer, ¬fmtpPrefix payloadType <+: line) := by
  have some : 0 < media.length := List.length_pos_iff.mpr nonempty
  obtain ⟨munge, munged, advertises⟩ := sections_munge (media.any fun item => item.stereo)
    (((media.map fun item => item.maxAvgBitrateKbps).max?.getD 128) * sdpBitsPerKbps).toNat
    shape some
  rw [offerSdp, munged, List.forall₂_map_right_iff,
    forall₂_iff_of_each shape.count.symm fun old among item => advertises old among item.stereo,
    forall_eq_any_iff]
  refine and_congr_right fun _ => ⟨fun each => ?_, fun either old among => ?_⟩
  · by_cases none : ∀ line ∈ splitInclusive '\n' offer, ¬fmtpPrefix payloadType <+: line
    · exact .inr none
    · exact .inl fun old among => (each old among).resolve_right none
  · exact either.imp (fun every => every old among) id

end Group

/-- An offer with two sections and no Opus parameters. -/
def pairedOffer : List Char :=
  ("v=0\r\nm=audio 9 UDP/TLS/RTP/SAVPF 111\r\na=rtpmap:111 opus/48000/2\r\n".toList ++
    "m=audio 9 UDP/TLS/RTP/SAVPF 111\r\na=rtpmap:111 opus/48000/2\r\n".toList)

theorem pairedOffer_shape : OffersBuses "111".toList 2 pairedOffer where
  ends character found := by
    have last : pairedOffer.getLast? = some '\n' := by decide +kernel
    exact Option.some.inj (found.symm.trans last)
  count := by decide +kernel
  opus := by decide +kernel
  same := by
    have every : ∀ line ∈ splitInclusive '\n' pairedOffer,
        ∀ other ∈ opusPayload (withoutLineEnd line), other = "111".toList := by decide +kernel
    exact every

def applicationBus : PublishMedia := ⟨true, 128, "app".toList⟩

def microphoneBus : PublishMedia := ⟨false, 32, "mic".toList⟩

/-- Two mono buses are signalled as mono. -/
theorem per_bus_stereo_both_mono :
    List.Forall₂ (fun item munged => Advertises "111".toList item.stereo munged)
      [microphoneBus, microphoneBus]
      (sections (offerSdp pairedOffer [microphoneBus, microphoneBus])) := by
  refine (per_bus_stereo_iff [microphoneBus, microphoneBus] (List.cons_ne_nil _ _)
    pairedOffer_shape).mpr ⟨by decide, .inr ?_⟩
  decide +kernel

/-- The line that is inserted into both sections. -/
def stereoLine : List Char :=
  "a=fmtp:111 minptime=10;useinbandfec=0;sprop-stereo=1;stereo=1;".toList ++
    "maxaveragebitrate=131072\r\n".toList

/-- Beside a stereo bus, the section of a mono bus signals stereo. -/
theorem mono_bus_signalled_stereo :
    OffersBuses "111".toList [applicationBus, microphoneBus].length pairedOffer ∧
      (sections (offerSdp pairedOffer [applicationBus, microphoneBus])).map
          (fun media => media.contains stereoLine) = [true, true] ∧
      ¬List.Forall₂ (fun item munged => Advertises "111".toList item.stereo munged)
        [applicationBus, microphoneBus]
        (sections (offerSdp pairedOffer [applicationBus, microphoneBus])) := by
  have inserted : (sections (offerSdp pairedOffer [applicationBus, microphoneBus])).map
      (fun media => media.contains stereoLine) = [true, true] := by decide +kernel
  refine ⟨pairedOffer_shape, inserted, fun each => ?_⟩
  generalize sections (offerSdp pairedOffer [applicationBus, microphoneBus]) = munged at *
  rcases each with _ | ⟨_, _ | ⟨mono, _⟩⟩
  have member : stereoLine ∈ _ := List.contains_iff_mem.mp
    (List.cons.inj (List.cons.inj inserted).2).1
  have read : fmtpParams "111".toList stereoLine =
      some ("minptime=10;useinbandfec=0;sprop-stereo=1;stereo=1;".toList ++
        "maxaveragebitrate=131072".toList) := by decide +kernel
  obtain ⟨signalled, -⟩ := mono.2 stereoLine member _ read
  revert signalled
  decide +kernel

end Sdp

end RelayConnector
