/-
This file is the part of the URL Standard that reads an address of the web, a text whose scheme
is `http`, `https`, `ws` or `wss`.

How a host is read and how a segment of a path is percent-encoded are parameters. Credentials
are skipped, and of the query and the fragment only their presence is read.
-/

import RelayConnector.Lines

namespace UrlStandard

open Text

/-! ### Reading an address -/

def isC0ControlOrSpace (character : Char) : Bool := character.toNat ≤ 0x20

def isTabOrNewline (character : Char) : Bool :=
  character == '\t' || character == '\n' || character == '\r'

def withoutBreaks (text : List Char) : List Char :=
  text.filter fun character => !isTabOrNewline character

/-- What is read of a text: no blanks at its ends, and no tabs and line breaks anywhere. -/
def clean (text : List Char) : List Char :=
  withoutBreaks (trimMatches isC0ControlOrSpace text)

/-- The schemes that are read here have a port. -/
def defaultPort (scheme : List Char) : Option Nat :=
  if scheme = "http".toList ∨ scheme = "ws".toList then some 80
  else if scheme = "https".toList ∨ scheme = "wss".toList then some 443
  else none

/-- A backslash is taken for a slash. -/
def isSlash (character : Char) : Bool := character == '/' || character == '\\'

def endsPath (character : Char) : Bool := character == '?' || character == '#'

def endsAuthority (character : Char) : Bool := isSlash character || endsPath character

/-- What stands behind the credentials. -/
def withoutCredentials (authority : List Char) : List Char :=
  ((splitAtLast ['@'] authority).map Prod.snd).getD authority

/-- A host and a port, at the first colon that is not inside brackets. -/
def splitPort (inside : Bool) : List Char → List Char × Option (List Char)
  | [] => ([], none)
  | character :: rest =>
    if character = ':' ∧ inside = false then ([], some rest)
    else
      let parts := splitPort (character == '[' || inside && character != ']') rest
      (character :: parts.1, parts.2)

/-- No port, an empty one and the default one are the same. -/
def readPort (standard : Nat) : Option (List Char) → Option (Option Nat)
  | none => some none
  | some digits =>
    if digits.isEmpty then some none
    else if digits.all Char.isDigit && Nat.ofDigitChars 10 digits 0 < 65536 then
      some (if Nat.ofDigitChars 10 digits 0 = standard then none
        else some (Nat.ofDigitChars 10 digits 0))
    else none

def isSingleDot (segment : List Char) : Bool :=
  [".".toList, "%2e".toList].contains (toAsciiLowercase segment)

def isDoubleDot (segment : List Char) : Bool :=
  ["..".toList, ".%2e".toList, "%2e.".toList, "%2e%2e".toList].contains (toAsciiLowercase segment)

/-- The segments of a path that is empty or begins with a slash. -/
def segments : List Char → List (List Char)
  | [] => []
  | _ :: rest =>
    splitOn '/' (rest.map fun character => if isSlash character then '/' else character)

/-- One segment is appended, or goes up, or stays. -/
def climb (path : List (List Char)) (segment : List Char) : List (List Char) :=
  if isDoubleDot segment then path.dropLast
  else if isSingleDot segment then path
  else path ++ [segment]

/-- Where the segments lead. -/
def resolve (parts : List (List Char)) : List (List Char) := parts.foldl climb []

/-- A path ends with an empty segment where its last one is dots. -/
def normalize (parts : List (List Char)) : List (List Char) :=
  match parts.getLast? with
  | none => [[]]
  | some last =>
    if isDoubleDot last || isSingleDot last then resolve parts ++ [[]] else resolve parts

/-- What is left to others. -/
structure Library (Host : Type) where
  readHost : List Char → Option Host
  displayHost : Host → List Char
  encode : List Char → List Char

structure Reading (Host : Type) where
  scheme : List Char
  host : Host
  port : Option Nat
  path : List Char
  hasQuery : Bool
  hasFragment : Bool

variable {Host : Type}

namespace Library

def pathText (library : Library Host) (path : List Char) : List Char :=
  '/' :: join '/' ((normalize (segments path)).map library.encode)

/-- The letters of a known scheme are valid, so a scheme is any text before a colon here. -/
def read (library : Library Host) (text : List Char) : Option (Reading Host) := do
  let (letters, rest) ← splitOnce ':' (clean text)
  let scheme := toAsciiLowercase letters
  let standard ← defaultPort scheme
  let rest := rest.dropWhile isSlash
  let (name, digits) :=
    splitPort false (withoutCredentials (rest.takeWhile fun character => !endsAuthority character))
  let host ← library.readHost name
  let port ← readPort standard digits
  let rest := rest.dropWhile fun character => !endsAuthority character
  let path := rest.takeWhile fun character => !endsPath character
  let rest := rest.dropWhile fun character => !endsPath character
  some { scheme, host, port, path := library.pathText path, hasQuery := rest.head? == some '?',
         hasFragment := rest.contains '#' }

/-- What the standard says of hosts and of percent-encoding. -/
structure Lawful (library : Library Host) : Prop where
  empty : library.readHost [] = none
  allowed : ∀ text host, library.readHost text = some host → ∀ character ∈ text,
    isC0ControlOrSpace character = false ∧ endsAuthority character = false ∧ character ≠ '@'
  colon : ∀ text host, library.readHost text = some host → ':' ∈ text →
    text.head? = some '[' ∧ text.getLast? = some ']'
  lowercase : ∀ text, library.readHost (toAsciiLowercase text) = library.readHost text
  displayed : ∀ text host, library.readHost text = some host →
    library.readHost (library.displayHost host) = some host
  encode_eq_nil : ∀ segment, library.encode segment = [] → segment = []
  encode_slash : ∀ segment, '/' ∉ segment → '/' ∉ library.encode segment
  encode_alphanum : ∀ segment, (∀ character ∈ segment, character.isAlphanum = true) →
    library.encode segment = segment

end Library

/-! ### Cleaning -/

variable {character : Char} {text path : List Char} {library : Library Host}
  {reading : Reading Host}

theorem isC0ControlOrSpace_of_isTabOrNewline (matched : isTabOrNewline character = true) :
    isC0ControlOrSpace character = true := by
  simp only [isTabOrNewline, Bool.or_eq_true, beq_iff_eq] at matched
  rcases matched with (rfl | rfl) | rfl <;> decide

theorem withoutBreaks_append (first second : List Char) :
    withoutBreaks (first ++ second) = withoutBreaks first ++ withoutBreaks second :=
  List.filter_append _ _

/-- A text without blanks. -/
def Solid (text : List Char) : Prop :=
  ∀ character ∈ text, isC0ControlOrSpace character = false

theorem withoutBreaks_of_solid (solid : Solid text) : withoutBreaks text = text := by
  refine List.filter_eq_self.mpr fun character member => ?_
  rw [Bool.not_eq_true']
  refine Bool.eq_false_iff.mpr fun matched => ?_
  have blank := isC0ControlOrSpace_of_isTabOrNewline matched
  rw [solid character member] at blank
  cases blank

/-- Behind a solid text only the end is cleaned. -/
theorem clean_append {front : List Char} (nonempty : front ≠ []) (solid : Solid front)
    (text : List Char) :
    clean (front ++ text) = front ++ withoutBreaks (text.rdropWhile isC0ControlOrSpace) := by
  obtain ⟨first, others, split⟩ := List.exists_cons_of_ne_nil nonempty
  have begins : (front ++ text).dropWhile isC0ControlOrSpace = front ++ text := by
    rw [split, List.cons_append]
    exact List.dropWhile_cons_of_neg (by simp [solid first (by simp [split])])
  rw [clean, trimMatches, begins, rdropWhile_append_of_last (List.getLast?_eq_some_getLast nonempty)
    (solid _ (List.getLast_mem nonempty)), withoutBreaks_append, withoutBreaks_of_solid solid]

/-- A colon separates what is cleaned at the start from what is cleaned at the end. -/
theorem clean_colon (before after : List Char) :
    clean (before ++ ':' :: after) = withoutBreaks (before.dropWhile isC0ControlOrSpace) ++
      ':' :: withoutBreaks (after.rdropWhile isC0ControlOrSpace) := by
  have begins : ∀ rest : List Char, (before ++ ':' :: rest).dropWhile isC0ControlOrSpace =
      before.dropWhile isC0ControlOrSpace ++ ':' :: rest := by
    intro rest
    induction before with
    | nil => rfl
    | cons first others hypothesis =>
      rw [List.cons_append, List.dropWhile_cons, List.dropWhile_cons]
      split
      · exact hypothesis
      · rfl
  have ends : ∀ start : List Char, (start ++ ':' :: after).rdropWhile isC0ControlOrSpace =
      start ++ ':' :: after.rdropWhile isC0ControlOrSpace := by
    intro start
    have whole := rdropWhile_append_of_last (List.getLast?_concat (l := start) (a := ':'))
      (rfl : isC0ControlOrSpace ':' = false) after
    simpa using whole
  rw [clean, trimMatches, begins, ends, withoutBreaks_append]
  rfl

theorem mem_withoutBreaks (member : character ∈ text)
    (solid : isC0ControlOrSpace character = false) : character ∈ withoutBreaks text := by
  refine List.mem_filter.mpr ⟨member, ?_⟩
  rw [Bool.not_eq_true']
  refine Bool.eq_false_iff.mpr fun matched => ?_
  rw [isC0ControlOrSpace_of_isTabOrNewline matched] at solid
  cases solid

theorem mem_withoutBreaks_dropWhile (member : character ∈ text)
    (solid : isC0ControlOrSpace character = false) :
    character ∈ withoutBreaks (text.dropWhile isC0ControlOrSpace) := by
  have whole : text.takeWhile isC0ControlOrSpace ++ text.dropWhile isC0ControlOrSpace = text :=
    List.takeWhile_append_dropWhile
  rw [← whole] at member
  rcases List.mem_append.mp member with leading | inside
  · rw [List.mem_takeWhile_imp leading] at solid
    cases solid
  · exact mem_withoutBreaks inside solid

/-- A text whose last character is not blank, breaks aside, has only breaks at its end. -/
theorem withoutBreaks_rdropWhile
    (ends : ∀ character, (withoutBreaks text).getLast? = some character →
      isC0ControlOrSpace character = false) :
    withoutBreaks (text.rdropWhile isC0ControlOrSpace) = withoutBreaks text := by
  induction text using List.reverseRecOn with
  | nil => rfl
  | append_singleton text final hypothesis =>
    cases blank : isC0ControlOrSpace final with
    | false => rw [List.rdropWhile_concat_neg _ _ _ (by simp [blank])]
    | true =>
      have dropped : withoutBreaks [final] = [] := by
        cases matched : isTabOrNewline final with
        | true => simp [withoutBreaks, matched]
        | false =>
          have single : withoutBreaks [final] = [final] := by simp [withoutBreaks, matched]
          rw [withoutBreaks_append, single] at ends
          rw [ends final List.getLast?_concat] at blank
          cases blank
      rw [withoutBreaks_append, dropped, List.append_nil] at ends ⊢
      rw [List.rdropWhile_concat_pos _ _ _ blank]
      exact hypothesis ends

/-! ### Host and port -/

theorem splitPort_eq (inside : Bool) (text : List Char) :
    text = (splitPort inside text).1 ++
      ((splitPort inside text).2.elim [] fun port => ':' :: port) := by
  induction text generalizing inside with
  | nil => rfl
  | cons character rest hypothesis =>
    unfold splitPort
    split
    next matched => simp [matched.1]
    next =>
      simp only [List.cons_append]
      rw [← hypothesis]

theorem splitPort_of_fresh (fresh : ':' ∉ text) (inside : Bool) :
    splitPort inside text = (text, none) := by
  have whole := splitPort_eq inside text
  cases port : (splitPort inside text).2 with
  | none =>
    rw [port, Option.elim_none, List.append_nil] at whole
    exact Prod.ext whole.symm port
  | some digits =>
    rw [port, Option.elim_some] at whole
    exact absurd (by rw [whole]; simp) fresh

/-- A port is empty, or digits below a bound. -/
theorem digits_of_readPort {standard : Nat} {digits : List Char}
    (read : (readPort standard (some digits)).isSome = true) :
    (∀ digit ∈ digits, digit.isDigit = true) ∧
      (digits ≠ [] → Nat.ofDigitChars 10 digits 0 < 65536) := by
  unfold readPort at read
  simp only at read
  split at read
  next empty =>
    rw [List.isEmpty_iff.mp empty]
    exact ⟨(fun _ member => nomatch member), fun some => absurd rfl some⟩
  next =>
    split at read
    next valid =>
      rw [Bool.and_eq_true, List.all_eq_true, decide_eq_true_eq] at valid
      exact ⟨valid.1, fun _ => valid.2⟩
    next => cases read

/-! ### Paths -/

section Paths

variable {segment path : List Char} {names : List (List Char)} {character : Char}

theorem mem_resolve {parts : List (List Char)} (member : segment ∈ resolve parts) :
    segment ∈ parts := by
  induction parts using List.reverseRecOn with
  | nil => exact member
  | append_singleton parts last hypothesis =>
    rw [resolve, List.foldl_concat] at member
    change segment ∈ climb (resolve parts) last at member
    unfold climb at member
    split at member
    · exact List.mem_append_left _ (hypothesis (List.dropLast_subset _ member))
    · split at member
      · exact List.mem_append_left _ (hypothesis member)
      · rcases List.mem_append.mp member with old | new
        · exact List.mem_append_left _ (hypothesis old)
        · exact List.mem_append_right _ new

/-- A segment that is not dots. -/
def isName (segment : List Char) : Bool := !(isDoubleDot segment || isSingleDot segment)

theorem climb_name (name : isName segment = true) (path : List (List Char)) :
    climb path segment = path ++ [segment] := by
  simp only [isName, Bool.not_eq_true', Bool.or_eq_false_iff] at name
  rw [climb, name.1, name.2]
  rfl

theorem resolve_concat (parts : List (List Char)) (segment : List Char) :
    resolve (parts ++ [segment]) = climb (resolve parts) segment := by
  rw [resolve, List.foldl_concat]
  rfl

theorem resolve_append_names (all : ∀ name ∈ names, isName name = true) (parts : List (List Char)) :
    resolve (parts ++ names) = resolve parts ++ names := by
  induction names using List.reverseRecOn with
  | nil => rw [List.append_nil, List.append_nil]
  | append_singleton names last hypothesis =>
    rw [← List.append_assoc, resolve_concat, climb_name (all last (by simp)),
      hypothesis fun name member => all name (by simp [member]), List.append_assoc]

/-- A path that is empty or begins with a slash. -/
def Rooted (path : List Char) : Prop := path = [] ∨ ∃ rest, path = '/' :: rest

/-- Segments behind a path. -/
def below (names : List (List Char)) : List Char := names.flatMap fun name => '/' :: name

theorem splitOn_below (fresh : ∀ name ∈ names, '/' ∉ name) (text : List Char) :
    splitOn '/' (text ++ below names) = splitOn '/' text ++ names := by
  induction names generalizing text with
  | nil => simp [below]
  | cons name names hypothesis =>
    obtain ⟨first, others⟩ := List.forall_mem_cons.mp fresh
    rw [below, List.flatMap_cons, List.cons_append, splitOn_append]
    change _ ++ splitOn '/' (name ++ below names) = _
    rw [hypothesis others, splitOn_fresh first]
    rfl

/-- Segments of letters and digits, none of them dots. -/
structure Plainly (names : List (List Char)) : Prop where
  nonempty : names ≠ []
  alphanum : ∀ name ∈ names, ∀ character ∈ name, character.isAlphanum = true
  isName : ∀ name ∈ names, isName name = true

theorem Plainly.fresh (plainly : Plainly names) : ∀ name ∈ names, '/' ∉ name :=
  fun name member slash => absurd (plainly.alphanum name member '/' slash) (by decide)

theorem Plainly.map_slash (plainly : Plainly names) :
    (below names).map (fun character => if isSlash character then '/' else character) =
      below names := by
  refine (List.map_congr_left fun character member => ?_).trans (List.map_id _)
  obtain ⟨name, among, inside⟩ := List.mem_flatMap.mp member
  rcases List.mem_cons.mp inside with rfl | within
  · rfl
  · have solid := plainly.alphanum name among character within
    rw [if_neg]
    · rfl
    · intro slash
      simp only [isSlash, Bool.or_eq_true, beq_iff_eq] at slash
      rcases slash with rfl | rfl <;> exact absurd solid (by decide)

theorem segments_below (plainly : Plainly names) (rooted : Rooted path) :
    segments (path ++ below names) = segments path ++ names := by
  rcases rooted with rfl | ⟨rest, rfl⟩
  · obtain ⟨name, others, rfl⟩ := List.exists_cons_of_ne_nil plainly.nonempty
    have tail : (name ++ below others).map
        (fun character => if isSlash character then '/' else character) = name ++ below others :=
      (List.cons.inj plainly.map_slash).2
    have written : segments (below (name :: others)) = splitOn '/' ((name ++ below others).map
        fun character => if isSlash character then '/' else character) := rfl
    rw [List.nil_append, written, tail,
      splitOn_below fun name member => plainly.fresh name (List.mem_cons_of_mem _ member),
      splitOn_fresh (plainly.fresh name List.mem_cons_self)]
    rfl
  · rw [List.cons_append, segments, segments, List.map_append, plainly.map_slash,
      splitOn_below plainly.fresh]

theorem normalize_append_names (plainly : Plainly names) (parts : List (List Char)) :
    normalize (parts ++ names) = resolve parts ++ names := by
  have last : (parts ++ names).getLast? = some (names.getLast plainly.nonempty) := by
    rw [List.getLast?_append, List.getLast?_eq_some_getLast plainly.nonempty]
    rfl
  have name := plainly.isName _ (List.getLast_mem plainly.nonempty)
  rw [isName, Bool.not_eq_true'] at name
  rw [normalize, last]
  simp only [name, Bool.false_eq_true, if_false]
  exact resolve_append_names plainly.isName parts

theorem slash_notMem_segments (member : segment ∈ segments path) : '/' ∉ segment := by
  cases path with
  | nil => cases member
  | cons first rest => exact (of_mem_splitOn segment member).1

theorem slash_notMem_normalize (member : segment ∈ normalize (segments path)) : '/' ∉ segment := by
  unfold normalize at member
  split at member
  · rw [List.mem_singleton.mp member]
    exact List.not_mem_nil
  · split at member
    · rcases List.mem_append.mp member with inside | last
      · exact slash_notMem_segments (mem_resolve inside)
      · rw [List.mem_singleton.mp last]
        exact List.not_mem_nil
    · exact slash_notMem_segments (mem_resolve member)

theorem normalize_ne_nil (parts : List (List Char)) : normalize parts ≠ [] := by
  unfold normalize
  split
  · simp
  next last found =>
    split
    · simp
    next other =>
      obtain ⟨front, rfl⟩ := List.getLast?_eq_some_iff.mp found
      rw [resolve_concat, climb_name (by rw [isName, Bool.not_eq_true']; simpa using other)]
      simp

namespace Library

variable {library : Library Host}

theorem splitOn_pathText (lawful : library.Lawful) (path : List Char) :
    splitOn '/' (join '/' ((normalize (segments path)).map library.encode)) =
      (normalize (segments path)).map library.encode := by
  refine splitOn_join (by simpa using normalize_ne_nil _) fun part member => ?_
  obtain ⟨segment, among, rfl⟩ := List.mem_map.mp member
  exact lawful.encode_slash segment (slash_notMem_normalize among)

/-- The root is written as a slash only. -/
theorem normalize_of_pathText (lawful : library.Lawful) {path : List Char}
    (root : library.pathText path = ['/']) : normalize (segments path) = [[]] := by
  have parts := splitOn_pathText lawful path
  rw [(List.cons.inj root).2] at parts
  obtain ⟨segment, single, empty⟩ := List.map_eq_singleton_iff.mp parts.symm
  rw [single, lawful.encode_eq_nil segment empty]

theorem below_eq_join {names : List (List Char)} (nonempty : names ≠ []) :
    below names = '/' :: join '/' names := by
  induction names with
  | nil => exact absurd rfl nonempty
  | cons name names hypothesis =>
    cases names with
    | nil => simp [below, join]
    | cons next rest =>
      rw [below, List.flatMap_cons]
      change '/' :: name ++ below (next :: rest) = _
      rw [hypothesis (List.cons_ne_nil _ _), join]
      rfl

/-- A path below another one is read as it is exactly when the other one leads to the root. -/
theorem pathText_below_iff (lawful : library.Lawful) {names : List (List Char)}
    (plainly : Plainly names) {path : List Char} (rooted : Rooted path) :
    library.pathText (path ++ below names) = below names ↔ resolve (segments path) = [] := by
  have whole : normalize (segments (path ++ below names)) = resolve (segments path) ++ names := by
    rw [segments_below plainly rooted, normalize_append_names plainly]
  have kept : names.map library.encode = names := by
    refine (List.map_congr_left fun name member => ?_).trans (List.map_id _)
    exact lawful.encode_alphanum name (plainly.alphanum name member)
  have text : library.pathText (path ++ below names) =
      '/' :: join '/' ((resolve (segments path)).map library.encode ++ names) := by
    rw [pathText, whole, List.map_append, kept]
  rw [text, below_eq_join plainly.nonempty]
  constructor
  · intro same
    have parts := splitOn_pathText lawful (path ++ below names)
    rw [whole, List.map_append, kept, (List.cons.inj same).2,
      splitOn_join plainly.nonempty plainly.fresh] at parts
    have length := congrArg List.length parts
    rw [List.length_append, List.length_map] at length
    exact List.eq_nil_of_length_eq_zero (by omega)
  · intro root
    rw [root]
    rfl

end Library

/-! ### The end of a path -/

/-- The last segment of a path, by the path's last character. -/
theorem getLast?_segments (rooted : Rooted path) (last : path.getLast? = some character) :
    ∃ front segment, segments path = front ++ [segment] ∧
      (isSlash character = true → segment = []) ∧
      (isSlash character = false → segment.getLast? = some character) := by
  rcases rooted with rfl | ⟨rest, rfl⟩
  · cases last
  · rcases List.eq_nil_or_concat rest with rfl | ⟨front, final, rfl⟩
    · cases last
      exact ⟨[], [], rfl, fun _ => rfl, fun other => nomatch other⟩
    · have same : final = character := by
        rw [List.concat_eq_append, ← List.cons_append, List.getLast?_concat] at last
        exact Option.some.inj last
      subst same
      rw [List.concat_eq_append, segments, List.map_append, List.map_singleton]
      cases slash : isSlash final with
      | true =>
        rw [if_pos rfl, splitOn_append]
        exact ⟨_, [], rfl, fun _ => rfl, fun other => nomatch other⟩
      | false =>
        obtain ⟨parts, segment, split⟩ := splitOn_append_fresh '/'
          (front.map fun character => if isSlash character then '/' else character)
        have fresh : '/' ∉ [final] := by
          rintro (_ | _)
          · cases slash
          · contradiction
        rw [if_neg Bool.false_ne_true, split [final] fresh]
        exact ⟨parts, _, rfl, (fun slashed => nomatch slashed), fun _ => List.getLast?_concat⟩

/-- Dots end with a dot or an `e`. -/
theorem isName_of_getLast? (last : segment.getLast? = some character)
    (other : character.toLower ≠ '.' ∧ character.toLower ≠ 'e') : isName segment = true := by
  have lower : (toAsciiLowercase segment).getLast? = some character.toLower := by
    rw [toAsciiLowercase, List.getLast?_map, last]
    rfl
  rw [isName, Bool.not_eq_true', Bool.or_eq_false_iff, isDoubleDot, isSingleDot]
  refine ⟨Bool.eq_false_iff.mpr fun dots => ?_, Bool.eq_false_iff.mpr fun dots => ?_⟩
  all_goals
    simp only [List.contains_iff_mem, List.mem_cons, List.not_mem_nil, or_false] at dots
  · rcases dots with same | same | same | same <;> rw [same] at lower
    · exact other.1 (Option.some.inj lower).symm
    · exact other.2 (Option.some.inj lower).symm
    · exact other.1 (Option.some.inj lower).symm
    · exact other.2 (Option.some.inj lower).symm
  · rcases dots with same | same <;> rw [same] at lower
    · exact other.1 (Option.some.inj lower).symm
    · exact other.2 (Option.some.inj lower).symm

theorem toLower_of_isC0ControlOrSpace (blank : isC0ControlOrSpace character = true) :
    character.toLower ≠ '.' ∧ character.toLower ≠ 'e' := by
  have low : character.val.toNat ≤ 32 := of_decide_eq_true blank
  have same : character.toLower = character := by
    unfold Char.toLower
    refine dif_neg fun upper => ?_
    have above : 'A'.val.toNat ≤ character.val.toNat := UInt32.le_iff_toNat_le.mp upper.1
    have code : 'A'.val.toNat = 65 := rfl
    omega
  rw [same]
  constructor <;> rintro rfl <;> exact absurd low (by decide)

/-- A path that leads to the root does not end with a slash or a blank. -/
theorem last_of_resolve_nil (rooted : Rooted path) (root : resolve (segments path) = []) :
    ∀ character, path.getLast? = some character →
      isSlash character = false ∧ isC0ControlOrSpace character = false := by
  intro character last
  obtain ⟨front, segment, split, slashed, solid⟩ := getLast?_segments rooted last
  have dots : isName segment = false := by
    refine Bool.eq_false_iff.mpr fun name => ?_
    rw [split, resolve_concat, climb_name name] at root
    simp at root
  have open' : isSlash character = false := by
    refine Bool.eq_false_iff.mpr fun slash => ?_
    rw [slashed slash] at dots
    cases dots
  refine ⟨open', Bool.eq_false_iff.mpr fun blank => ?_⟩
  rw [isName_of_getLast? (solid open') (toLower_of_isC0ControlOrSpace blank)] at dots
  cases dots

/-- A path that is the root and does not end with a slash leads to the root. -/
theorem resolve_nil_of_normalize (rooted : Rooted path) (root : normalize (segments path) = [[]])
    (ends : ∀ character, path.getLast? = some character → isSlash character = false) :
    resolve (segments path) = [] := by
  cases last : path.getLast? with
  | none =>
    rw [List.getLast?_eq_none_iff.mp last]
    rfl
  | some character =>
    obtain ⟨front, segment, split, -, solid⟩ := getLast?_segments rooted last
    have final := solid (ends character last)
    rw [normalize, split, List.getLast?_concat] at root
    simp only at root
    split at root
    · rw [split]
      exact List.append_left_eq_self.mp root
    next other =>
      rw [resolve_concat, climb_name (by rw [isName, Bool.not_eq_true']; simpa using other)] at root
      have empty : segment = [] := by
        have tail := congrArg List.getLast? root
        rw [List.getLast?_concat] at tail
        exact Option.some.inj tail
      rw [empty] at final
      cases final

/-! ### One name for another -/

theorem length_foldl_climb {first second : List (List Char)} (same : first.length = second.length)
    (parts : List (List Char)) :
    (parts.foldl climb first).length = (parts.foldl climb second).length := by
  induction parts generalizing first second with
  | nil => exact same
  | cons segment parts hypothesis =>
    refine hypothesis ?_
    unfold climb
    split
    · rw [List.length_dropLast, List.length_dropLast, same]
    · split
      · exact same
      · rw [List.length_append, List.length_append, same]

theorem resolve_nil_of_names {front back : List (List Char)} {name other : List Char}
    (first : isName name = true) (second : isName other = true)
    (root : resolve (front ++ name :: back) = []) : resolve (front ++ other :: back) = [] := by
  have split : ∀ segment, isName segment = true →
      resolve (front ++ segment :: back) = back.foldl climb (resolve front ++ [segment]) := by
    intro segment named
    rw [resolve, List.foldl_append, List.foldl_cons, ← climb_name named]
    rfl
  have length : (resolve front ++ [other]).length = (resolve front ++ [name]).length := by simp
  rw [split other second]
  rw [split name first] at root
  refine List.eq_nil_of_length_eq_zero ?_
  rw [length_foldl_climb length back, root]
  rfl

/-- Another word before `://` does not change where a path leads. -/
theorem resolve_segments_swap {before after word other : List Char}
    (first : ∀ character ∈ word, isSlash character = false)
    (second : ∀ character ∈ other, isSlash character = false)
    (root : resolve (segments ('/' :: (before ++ word ++ ':' :: '/' :: '/' :: after))) = []) :
    resolve (segments ('/' :: (before ++ other ++ ':' :: '/' :: '/' :: after))) = [] := by
  obtain ⟨front, last, split⟩ := splitOn_append_fresh '/'
    (before.map fun character => if isSlash character then '/' else character)
  have written : ∀ word : List Char, (∀ character ∈ word, isSlash character = false) →
      segments ('/' :: (before ++ word ++ ':' :: '/' :: '/' :: after)) =
        front ++ (last ++ (word ++ [':'])) :: splitOn '/' ('/' :: after.map
          fun character => if isSlash character then '/' else character) := by
    intro word slashless
    have kept : word.map (fun character => if isSlash character then '/' else character) = word :=
      (List.map_congr_left fun character member =>
        if_neg (by rw [slashless character member]; exact Bool.false_ne_true)).trans
        (List.map_id _)
    have fresh : '/' ∉ word ++ [':'] := by
      intro member
      rcases List.mem_append.mp member with inside | colon
      · exact absurd (slashless '/' inside) (by decide)
      · exact absurd colon (by decide)
    have grouped : (before ++ word ++ ':' :: '/' :: '/' :: after).map
        (fun character => if isSlash character then '/' else character) =
        (before.map fun character => if isSlash character then '/' else character) ++
          (word ++ [':']) ++ '/' :: ('/' :: after.map
            fun character => if isSlash character then '/' else character) := by
      rw [List.map_append, List.map_append, kept]
      simp [isSlash]
    rw [segments, grouped, splitOn_append, split _ fresh, List.append_assoc]
    rfl
  have named : ∀ word : List Char, isName (last ++ (word ++ [':'])) = true := by
    intro word
    rw [← List.append_assoc]
    exact isName_of_getLast? List.getLast?_concat (by decide)
  rw [written word first] at root
  rw [written other second]
  exact resolve_nil_of_names (named word) (named other) root

end Paths

/-! ### Reading a text with an authority -/

/-- An authority without credentials. -/
structure Authority (text : List Char) : Prop where
  nonempty : text ≠ []
  solid : Solid text
  inside : ∀ character ∈ text, endsAuthority character = false ∧ character ≠ '@'

theorem Authority.slash (good : Authority text) : '/' ∉ text :=
  fun member => absurd (good.inside '/' member).1 (by decide)

namespace Library

theorem scheme_of_defaultPort {scheme : List Char} {port : Nat}
    (known : defaultPort scheme = some port) :
    ':' ∉ scheme ∧ toAsciiLowercase scheme = scheme ∧ Solid scheme ∧ scheme ≠ [] := by
  have words : scheme = "http".toList ∨ scheme = "ws".toList ∨ scheme = "https".toList ∨
      scheme = "wss".toList := by
    unfold defaultPort at known
    split at known
    next plain => exact plain.imp id Or.inl
    next =>
      split at known
      next secure => exact .inr (.inr secure)
      next => cases known
  rcases words with rfl | rfl | rfl | rfl <;>
    exact ⟨by decide, by decide, by unfold Solid; decide, by decide⟩

/-- What is read of a text with a known scheme and an authority. -/
theorem read_of_clean (library : Library Host) {text scheme authority path : List Char}
    {standard : Nat} (known : defaultPort scheme = some standard) (good : Authority authority)
    (rooted : Rooted path)
    (cleaned : clean text = scheme ++ ':' :: '/' :: '/' :: (authority ++ path)) :
    library.read text = (library.readHost (splitPort false authority).1).bind fun host =>
      (readPort standard (splitPort false authority).2).map fun port =>
        { scheme, host, port
          path := library.pathText (path.takeWhile fun character => !endsPath character)
          hasQuery := (path.dropWhile fun character => !endsPath character).head? == some '?'
          hasFragment := (path.dropWhile fun character => !endsPath character).contains '#' } := by
  obtain ⟨colon, lower, -, -⟩ := scheme_of_defaultPort known
  obtain ⟨first, others, split⟩ := List.exists_cons_of_ne_nil good.nonempty
  have slashes : ('/' :: '/' :: (authority ++ path)).dropWhile isSlash = authority ++ path := by
    have solid : isSlash first = false := by
      have inside := (good.inside first (by rw [split]; exact List.mem_cons_self)).1
      rw [endsAuthority, Bool.or_eq_false_iff] at inside
      exact inside.1
    rw [List.dropWhile_cons_of_pos rfl, List.dropWhile_cons_of_pos rfl, split, List.cons_append]
    exact List.dropWhile_cons_of_neg (by rw [solid]; exact Bool.false_ne_true)
  have every : ∀ character ∈ authority, (!endsAuthority character) = true := by
    intro character member
    rw [(good.inside character member).1]
    rfl
  have taken : (authority ++ path).takeWhile (fun character => !endsAuthority character) =
      authority := by
    rw [List.takeWhile_append_of_pos every]
    rcases rooted with rfl | ⟨rest, rfl⟩
    · exact List.append_nil _
    · exact List.append_nil _
  have dropped : (authority ++ path).dropWhile (fun character => !endsAuthority character) =
      path := by
    rw [List.dropWhile_append_of_pos every]
    rcases rooted with rfl | ⟨rest, rfl⟩ <;> rfl
  have bare : withoutCredentials authority = authority := by
    have none : splitAtLast ['@'] authority = none :=
      splitAtLast_eq_none.mpr fun member => (good.inside '@' member).2 rfl
    rw [withoutCredentials, none]
    rfl
  rw [read, cleaned, splitOnce_append colon]
  simp only [Option.bind_eq_bind, Option.bind_some, lower, known, slashes, taken, dropped, bare]
  cases library.readHost (splitPort false authority).1 with
  | none => rfl
  | some host =>
    cases readPort standard (splitPort false authority).2 <;> rfl

end Library

/-- The scheme is what stands before the first colon. -/
theorem Library.scheme_of_read {before after : List Char} (fresh : ':' ∉ before)
    (read : library.read (before ++ ':' :: after) = some reading) :
    reading.scheme =
      toAsciiLowercase (UrlStandard.withoutBreaks (before.dropWhile isC0ControlOrSpace)) := by
  have outside : ':' ∉ UrlStandard.withoutBreaks (before.dropWhile isC0ControlOrSpace) :=
    fun member => fresh ((List.dropWhile_sublist _).mem (List.mem_filter.mp member).1)
  unfold Library.read at read
  rw [clean_colon, splitOnce_append outside] at read
  simp only [Option.bind_eq_bind, Option.bind_some] at read
  obtain ⟨standard, -, read⟩ := Option.bind_eq_some_iff.mp read
  obtain ⟨host, -, read⟩ := Option.bind_eq_some_iff.mp read
  obtain ⟨port, -, read⟩ := Option.bind_eq_some_iff.mp read
  rw [← Option.some.inj read]

theorem Library.host_of_read (read : library.read text = some reading) :
    ∃ name, library.readHost name = some reading.host := by
  obtain ⟨parts, -, read⟩ := Option.bind_eq_some_iff.mp read
  obtain ⟨standard, -, read⟩ := Option.bind_eq_some_iff.mp read
  obtain ⟨host, hosted, read⟩ := Option.bind_eq_some_iff.mp read
  obtain ⟨port, -, read⟩ := Option.bind_eq_some_iff.mp read
  rw [← Option.some.inj read]
  exact ⟨_, hosted⟩

theorem Library.colon_of_read (read : library.read text = some reading) : ':' ∈ text := by
  by_contra fresh
  have outside : ':' ∉ clean text := fun member => fresh <|
    (List.dropWhile_sublist _).mem
      ((List.rdropWhile_prefix _ _).subset (List.mem_filter.mp member).1)
  unfold Library.read at read
  rw [splitOnce_eq_none.mpr outside] at read
  cases read

theorem Rooted.withoutBreaks (rooted : Rooted path) : Rooted (withoutBreaks path) := by
  rcases rooted with rfl | ⟨rest, rfl⟩
  · exact .inl rfl
  · exact .inr ⟨_, rfl⟩

theorem Rooted.clean (rooted : Rooted path) :
    Rooted (UrlStandard.withoutBreaks (path.rdropWhile isC0ControlOrSpace)) := by
  refine Rooted.withoutBreaks ?_
  rcases rooted with rfl | ⟨rest, rfl⟩
  · exact .inl rfl
  · have last : ['/'].getLast? = some '/' := rfl
    exact .inr ⟨_, rdropWhile_append_of_last last (rfl : isC0ControlOrSpace '/' = false) rest⟩

/-- What is read of a scheme, an authority and a path. -/
theorem Library.read_address (library : Library Host) {scheme authority : List Char}
    {standard : Nat} (known : defaultPort scheme = some standard) (good : Authority authority)
    (rooted : Rooted path) :
    let shown := withoutBreaks (path.rdropWhile isC0ControlOrSpace)
    library.read (scheme ++ ':' :: '/' :: '/' :: (authority ++ path)) =
      (library.readHost (splitPort false authority).1).bind fun host =>
        (readPort standard (splitPort false authority).2).map fun port =>
          { scheme, host, port
            path := library.pathText (shown.takeWhile fun character => !endsPath character)
            hasQuery := (shown.dropWhile fun character => !endsPath character).head? == some '?'
            hasFragment :=
              (shown.dropWhile fun character => !endsPath character).contains '#' } := by
  obtain ⟨-, -, solid, some⟩ := scheme_of_defaultPort known
  have front : Solid (scheme ++ ':' :: '/' :: '/' :: authority) := by
    intro character member
    simp only [List.mem_append, List.mem_cons] at member
    rcases member with inside | rfl | rfl | rfl | inside
    · exact solid character inside
    · decide
    · decide
    · decide
    · exact good.solid character inside
  refine library.read_of_clean known good rooted.clean ?_
  have cleaned := clean_append (List.append_ne_nil_of_left_ne_nil some _) front path
  simpa using cleaned

theorem mem_withoutBreaks_rdropWhile (member : character ∈ path)
    (solid : isC0ControlOrSpace character = false) :
    character ∈ withoutBreaks (path.rdropWhile isC0ControlOrSpace) := by
  have whole : path.rdropWhile isC0ControlOrSpace ++ path.rtakeWhile isC0ControlOrSpace = path :=
    List.rdropWhile_append_rtakeWhile
  rw [← whole] at member
  rcases List.mem_append.mp member with inside | trailing
  · exact mem_withoutBreaks inside solid
  · rw [List.mem_rtakeWhile_imp trailing] at solid
    cases solid

/-- Without a query and a fragment, a text is a path to its end. -/
theorem endsPath_of_none
    (query : ((text.dropWhile fun character => !endsPath character).head? == some '?') = false)
    (fragment : (text.dropWhile fun character => !endsPath character).contains '#' = false) :
    ∀ character ∈ text, endsPath character = false := by
  cases rest : text.dropWhile fun character => !endsPath character with
  | nil =>
    intro character member
    simpa using List.dropWhile_eq_nil_iff.mp rest character member
  | cons first others =>
    rw [rest] at query fragment
    have ends := List.head?_dropWhile_not (fun character => !endsPath character) text
    rw [rest] at ends
    simp only [List.head?_cons, Bool.not_eq_false', endsPath, Bool.or_eq_true, beq_iff_eq] at ends
    rcases ends with rfl | rfl
    · cases query
    · simp at fragment

end UrlStandard
