/-
This file proves what an entry of `no_proxy` excludes, for `bypass_proxy` of `rtc/proxy.rs`.

The source compares texts: an entry is the host, or the host ends with a dot and the entry. In
terms of names this is a comparison of whole labels from the last one on. Which part of an entry
is a port is said here without the order of the searches in the source.
-/

import Mathlib
import RelayConnector.Proxy
import RelayConnector.Lines

namespace RelayConnector

open Text

/-! ### What an entry excludes -/

/-- The entries of `no_proxy`; what is empty or blank is not an entry. -/
def exclusionEntries (exclusions : String) : List (List Char) :=
  ((splitOn ',' exclusions.toList).map (trimMatches isWhitespace)).filter (!·.isEmpty)

/-- The labels of a name, regardless of letter case. -/
def labels (name : List Char) : List (List Char) := splitOn '.' (toAsciiLowercase name)

/-- A name without the dots before it and the brackets around it. -/
def bareName (name : List Char) : List Char := trimMatches isBracket (name.dropWhile (· == '.'))

/-- An entry that ends in a valid port: behind `]:` if it begins with a bracket, and behind its
only colon otherwise. -/
inductive NamesPort (entry : List Char) : List Char → Nat → Prop where
  | bracketed {name digits : List Char} {port : Nat} (bracket : entry.head? = some '[')
      (split : entry = name ++ ("]:".toList ++ digits))
      (valid : parseUnsigned (2 ^ 16) digits = some port) :
      NamesPort entry (name.dropWhile (· == '[')) port
  | plain {name digits : List Char} {port : Nat} (bracket : entry.head? ≠ some '[')
      (only : ':' ∉ name) (split : entry = name ++ ':' :: digits)
      (valid : parseUnsigned (2 ^ 16) digits = some port) : NamesPort entry name port

/-- An entry excludes every host, or a name below which the host is, on one port or on any. -/
inductive Excludes (host : List Char) (port : Option Nat) (entry : List Char) : Prop where
  | every (star : entry = "*".toList)
  | atPort {name : List Char} {value : Nat} (named : NamesPort entry name value)
      (same : port = some value) (below : labels (bareName name) <:+ labels host)
  | anyPort (none : ∀ name value, ¬NamesPort entry name value)
      (below : labels (bareName entry) <:+ labels host)

/-! ### Ports -/

theorem digit_of_valid {digits : List Char} {port bound : Nat}
    (valid : parseUnsigned bound digits = some port) :
    ∀ character ∈ digits, character ≠ ':' ∧ character ≠ ']' := by
  intro character member
  rcases (digits_of_parseUnsigned valid).2 character member with rfl | digit
  · decide
  · constructor
    · rintro rfl
      cases digit
    · rintro rfl
      cases digit

theorem count_eq_one_iff {text : List Char} {character : Char} :
    text.count character = 1 ↔ ∃ before after, text = before ++ character :: after ∧
      character ∉ before ∧ character ∉ after := by
  constructor
  · intro once
    obtain ⟨before, after, split⟩ := List.append_of_mem
      (List.count_pos_iff.mp (by omega : 0 < text.count character))
    rw [split, List.count_append, List.count_cons_self] at once
    exact ⟨before, after, split, List.count_eq_zero.mp (by omega), List.count_eq_zero.mp (by omega)⟩
  · rintro ⟨before, after, rfl, first, last⟩
    rw [List.count_append, List.count_cons_self, List.count_eq_zero.mpr first,
      List.count_eq_zero.mpr last]

variable {entry name host other : List Char}

/-- The port that the source finds is the port of the entry. -/
theorem namesPort_iff {port : Nat} :
    NamesPort entry name port ↔ ∃ digits, entryWithPort entry = some (name, digits) ∧
      parseUnsigned (2 ^ 16) digits = some port := by
  constructor
  · intro named
    cases named with
    | @bracketed name digits _ bracket split valid =>
      have fresh : ']' ∉ [':'] ++ digits := by
        intro member
        rcases List.mem_append.mp member with colon | inside
        · exact absurd colon (by decide)
        · exact (digit_of_valid valid _ inside).2 rfl
      have found : splitAtLast "]:".toList entry = some (name, digits) := by
        rw [split]
        exact splitAtLast_pattern name fresh
      rw [entryWithPort, if_pos bracket, found]
      exact ⟨digits, rfl, valid⟩
    | @plain _ digits _ bracket only split valid =>
      have fresh : ':' ∉ digits := fun member => (digit_of_valid valid ':' member).1 rfl
      have found : splitAtLast ":".toList entry = some (name, digits) := by
        rw [split]
        exact splitAtLast_append name fresh
      rw [entryWithPort, if_neg bracket,
        if_pos (count_eq_one_iff.mpr ⟨name, digits, split, only, fresh⟩), found]
      exact ⟨digits, rfl, valid⟩
  · rintro ⟨digits, found, valid⟩
    unfold entryWithPort at found
    split at found
    next bracket =>
      obtain ⟨⟨before, after⟩, split, same⟩ := Option.map_eq_some_iff.mp found
      obtain ⟨rfl, rfl⟩ := Prod.mk.inj same
      exact .bracketed bracket (splitAtLast_sound split) valid
    next bracket =>
      split at found
      next only =>
        obtain ⟨before, after, split, first, last⟩ := count_eq_one_iff.mp only
        have same : splitAtLast ":".toList entry = some (before, after) := by
          rw [split]
          exact splitAtLast_append before last
        obtain ⟨rfl, rfl⟩ := Prod.mk.inj (Option.some.inj (same.symm.trans found))
        exact .plain bracket first split valid
      next => cases found

/-! ### Names -/

/-- Comparing texts is comparing labels. -/
theorem labels_suffix_iff :
    labels name <:+ labels host ↔ (toAsciiLowercase host == toAsciiLowercase name ||
      ('.' :: toAsciiLowercase name).isSuffixOf (toAsciiLowercase host)) = true := by
  rw [labels, labels, splitOn_suffix_iff, Bool.or_eq_true, beq_iff_eq, List.isSuffixOf_iff_suffix]

/-- The name and the port that the source goes on with. -/
theorem filter_entryWithPort (entry : List Char) :
    (∃ name digits value, (entryWithPort entry).filter (fun (_, port) =>
        (parseUnsigned (2 ^ 16) port).isSome) = some (name, digits) ∧
      parseUnsigned (2 ^ 16) digits = some value ∧ NamesPort entry name value ∧
      ∀ other number, NamesPort entry other number → other = name ∧ number = value) ∨
    (entryWithPort entry).filter (fun (_, port) => (parseUnsigned (2 ^ 16) port).isSome) = none ∧
      ∀ name value, ¬NamesPort entry name value := by
  cases found : entryWithPort entry with
  | none =>
    refine .inr ⟨rfl, fun name value named => ?_⟩
    obtain ⟨digits, split, -⟩ := namesPort_iff.mp named
    cases found.symm.trans split
  | some parts =>
    obtain ⟨name, digits⟩ := parts
    cases valid : parseUnsigned (2 ^ 16) digits with
    | none =>
      refine .inr ⟨by simp only [Option.filter_some, valid]; rfl, fun other value named => ?_⟩
      obtain ⟨number, split, parsed⟩ := namesPort_iff.mp named
      obtain ⟨rfl, rfl⟩ := Prod.mk.inj (Option.some.inj (found.symm.trans split))
      cases valid.symm.trans parsed
    | some value =>
      refine .inl ⟨name, digits, value, by simp only [Option.filter_some, valid]; rfl, valid,
        namesPort_iff.mpr ⟨digits, found, valid⟩, fun other number named => ?_⟩
      obtain ⟨text, split, parsed⟩ := namesPort_iff.mp named
      obtain ⟨rfl, rfl⟩ := Prod.mk.inj (Option.some.inj (found.symm.trans split))
      exact ⟨rfl, Option.some.inj (parsed.symm.trans valid)⟩

/-- The source finds out what an entry excludes. -/
theorem entryMatches_iff {port : Option Nat} :
    entryMatches host port entry = true ↔ Excludes host port entry := by
  unfold entryMatches
  split
  next star => exact iff_of_true rfl (.every star)
  next other =>
    rcases filter_entryWithPort entry with
      ⟨name, digits, value, filtered, valid, named, unique⟩ | ⟨filtered, none⟩
    · rw [filtered]
      simp only [valid, Option.isSome_some, Bool.true_and, bne_iff_ne]
      constructor
      · intro matched
        split at matched
        next => cases matched
        next same =>
          exact .atPort named (Decidable.not_not.mp same).symm (labels_suffix_iff.mpr matched)
      · rintro (star | ⟨found, same, below⟩ | ⟨none, -⟩)
        · exact absurd star other
        · obtain ⟨rfl, rfl⟩ := unique _ _ found
          rw [if_neg (fun differs => differs same.symm)]
          exact labels_suffix_iff.mp below
        · exact absurd named (none name value)
    · rw [filtered]
      simp only [Option.isSome_none, Bool.false_and, Bool.false_eq_true, if_false]
      constructor
      · intro matched
        exact .anyPort none (labels_suffix_iff.mpr matched)
      · rintro (star | ⟨found, -, -⟩ | ⟨-, below⟩)
        · exact absurd star other
        · exact absurd found (none _ _)
        · exact labels_suffix_iff.mp below

/-! ### Letter case -/

/-- Only letters have a case. -/
theorem eq_of_toLower {first second : Char} (same : first.toLower = second.toLower)
    (other : second.isAlpha = false) : first = second := by
  have plain : first.isAlpha = false := by
    rw [← Char.isAlpha_toLower_eq_isAlpha, same, Char.isAlpha_toLower_eq_isAlpha, other]
  have lower : ∀ character : Char, character.isAlpha = false → character.toLower = character := by
    intro character none
    refine Char.toLower_eq_of_not_isUpper fun upper => ?_
    rw [Char.isAlpha, upper] at none
    cases none
  rwa [lower first plain, lower second other] at same

theorem toLower_beq {mark : Char} (other : mark.isAlpha = false) (character : Char) :
    (character.toLower == mark) = (character == mark) := by
  have itself : mark.toLower = mark :=
    eq_of_toLower (Char.toLower_toLower_eq_toLower mark) other
  rw [Bool.eq_iff_iff, beq_iff_eq, beq_iff_eq]
  constructor
  · intro same
    exact eq_of_toLower (same.trans itself.symm) other
  · rintro rfl
    exact itself

theorem isAlpha_of_isDigit {character : Char} (digit : character.isDigit = true) :
    character.isAlpha = false := by
  simp only [Char.isDigit, Char.isAlpha, Char.isUpper, Char.isLower] at digit ⊢
  grind

theorem eq_of_lowercase {first second : List Char}
    (same : toAsciiLowercase first = toAsciiLowercase second)
    (other : ∀ character ∈ second, character.isAlpha = false) : first = second := by
  induction second generalizing first with
  | nil => exact List.map_eq_nil_iff.mp same
  | cons character rest hypothesis =>
    obtain ⟨start, others, rfl, head, tail⟩ := List.map_eq_cons_iff.mp same
    obtain ⟨here, later⟩ := List.forall_mem_cons.mp other
    rw [eq_of_toLower head here, hypothesis tail later]

theorem lowercase_dropWhile {matching : Char → Bool}
    (caseless : ∀ character, matching character.toLower = matching character) (text : List Char) :
    toAsciiLowercase (text.dropWhile matching) = (toAsciiLowercase text).dropWhile matching := by
  rw [toAsciiLowercase, toAsciiLowercase, List.dropWhile_map]
  exact congrArg (List.map Char.toLower ∘ fun test => text.dropWhile test)
    (funext fun character => (caseless character).symm)

theorem lowercase_bareName (name : List Char) :
    toAsciiLowercase (bareName name) = bareName (toAsciiLowercase name) := by
  have bracket : ∀ character : Char, isBracket character.toLower = isBracket character := by
    intro character
    rw [isBracket, isBracket, toLower_beq (by decide), toLower_beq (by decide)]
  have reversed : ∀ text : List Char,
      toAsciiLowercase (text.rdropWhile isBracket) =
        (toAsciiLowercase text).rdropWhile isBracket := by
    intro text
    have inner := lowercase_dropWhile bracket text.reverse
    rw [toAsciiLowercase, toAsciiLowercase, List.map_reverse] at inner
    rw [toAsciiLowercase, toAsciiLowercase, List.rdropWhile, List.rdropWhile, List.map_reverse,
      inner]
  rw [bareName, bareName, trimMatches, trimMatches, reversed, lowercase_dropWhile bracket,
    lowercase_dropWhile fun character => toLower_beq (by decide) character]

theorem labels_bareName (same : toAsciiLowercase other = toAsciiLowercase name) :
    labels (bareName other) = labels (bareName name) := by
  rw [labels, labels, lowercase_bareName, lowercase_bareName, same]

theorem head?_of_lowercase (same : toAsciiLowercase other = toAsciiLowercase entry) :
    other.head? = some '[' ↔ entry.head? = some '[' := by
  have caseless : ∀ text : List Char, text.head? = some '[' ↔
      (toAsciiLowercase text).head? = some '[' := by
    intro text
    rw [toAsciiLowercase, List.head?_map]
    cases text with
    | nil => simp
    | cons first rest =>
      rw [List.head?_cons, Option.map_some, Option.some_inj, Option.some_inj, ← beq_iff_eq,
        ← toLower_beq (by decide), beq_iff_eq]
  rw [caseless other, same, ← caseless entry]

/-- The port of an entry does not depend on letter case. -/
theorem namesPort_of_lowercase {port : Nat} (same : toAsciiLowercase other = toAsciiLowercase entry)
    (named : NamesPort entry name port) :
    ∃ spelling, NamesPort other spelling port ∧
      toAsciiLowercase spelling = toAsciiLowercase name := by
  have number : ∀ {digits : List Char}, parseUnsigned (2 ^ 16) digits = some port →
      ∀ character ∈ digits, character.isAlpha = false := by
    intro digits valid character member
    rcases (digits_of_parseUnsigned valid).2 character member with rfl | digit
    · decide
    · exact isAlpha_of_isDigit digit
  cases named with
  | @bracketed name digits _ bracket split valid =>
    have mapped : other.map Char.toLower =
        name.map Char.toLower ++ ("]:".toList ++ digits).map Char.toLower := by
      rw [← List.map_append, ← split]
      exact same
    obtain ⟨front, ending, rfl, first, second⟩ := List.map_eq_append_iff.mp mapped
    have brackets : ∀ character ∈ [']', ':'], character.isAlpha = false :=
      List.forall_mem_cons.mpr ⟨rfl, List.forall_mem_singleton.mpr rfl⟩
    have marks : ∀ character ∈ "]:".toList ++ digits, character.isAlpha = false := by
      intro character member
      rcases List.mem_append.mp member with mark | digit
      · exact brackets character mark
      · exact number valid character digit
    obtain rfl := eq_of_lowercase second marks
    refine ⟨_, .bracketed ((head?_of_lowercase same).mpr bracket) rfl valid, ?_⟩
    rw [lowercase_dropWhile fun character => toLower_beq (by decide) character,
      lowercase_dropWhile fun character => toLower_beq (by decide) character]
    exact congrArg _ first
  | @plain _ digits _ bracket only split valid =>
    have mapped : other.map Char.toLower =
        name.map Char.toLower ++ (':' :: digits).map Char.toLower := by
      rw [← List.map_append, ← split]
      exact same
    obtain ⟨front, ending, rfl, first, second⟩ := List.map_eq_append_iff.mp mapped
    have marks : ∀ character ∈ ':' :: digits, character.isAlpha = false := by
      intro character member
      rcases List.mem_cons.mp member with rfl | digit
      · decide
      · exact number valid character digit
    obtain rfl := eq_of_lowercase second marks
    have fresh : ':' ∉ front := by
      intro member
      have inside : Char.toLower ':' ∈ name.map Char.toLower :=
        first ▸ List.mem_map_of_mem member
      obtain ⟨character, among, equal⟩ := List.mem_map.mp inside
      rw [eq_of_toLower equal (by decide)] at among
      exact only among
    exact ⟨front, .plain (fun begins => bracket ((head?_of_lowercase same).mp begins)) fresh rfl
      valid, first⟩

/-- What an entry excludes does not depend on letter case. -/
theorem excludes_of_lowercase {port : Option Nat}
    (same : toAsciiLowercase other = toAsciiLowercase entry) (excluded : Excludes host port entry) :
    Excludes host port other := by
  rcases excluded with star | ⟨named, isPort, below⟩ | ⟨none, below⟩
  · have mark : ∀ character ∈ ['*'], character.isAlpha = false := List.forall_mem_singleton.mpr rfl
    exact .every (eq_of_lowercase (same.trans (congrArg _ star)) mark)
  · obtain ⟨spelling, found, equal⟩ := namesPort_of_lowercase same named
    exact .atPort found isPort (labels_bareName equal ▸ below)
  · refine .anyPort (fun name value named => ?_) (labels_bareName same ▸ below)
    obtain ⟨spelling, found, -⟩ := namesPort_of_lowercase same.symm named
    exact none spelling value found

/-! ### The exclusions as a whole -/

theorem bypassProxy_iff {libraries : NetLibraries} {target : Url} {exclusions : String} :
    bypassProxy libraries target exclusions = true ↔ ∃ host, target.host = some host ∧
      ∃ entry ∈ exclusionEntries exclusions,
        Excludes (trimMatches isBracket (libraries.displayHost host).toList)
          target.portOrKnownDefault entry := by
  unfold bypassProxy
  split
  next absent => simp only [absent, reduceCtorEq, false_and, exists_false, Bool.false_eq_true]
  next host present =>
    simp only [present, Option.some.injEq, exists_eq_left', List.any_eq_true, entryMatches_iff,
      exclusionEntries]

/-- A name at the end of a host begins where a label begins. -/
def EndsWithLabels (host name : List Char) : Prop :=
  ∃ front, toAsciiLowercase host = front ++ toAsciiLowercase name ∧
    (front = [] ∨ front.getLast? = some '.')

theorem endsWithLabels_of_suffix (below : labels name <:+ labels host) :
    EndsWithLabels host name := by
  rw [labels, labels, splitOn_suffix_iff] at below
  rcases below with same | ⟨front, split⟩
  · exact ⟨[], same, .inl rfl⟩
  · refine ⟨front ++ ['.'], ?_, .inr List.getLast?_concat⟩
    rw [← split, List.append_assoc]
    rfl

/-- A host bypasses the proxy exactly if an entry excludes it by whole labels and port. Entries in
another order, repeated, in other letters or among more entries exclude the same host, and an entry
other than `*` matches no part of a label. -/
theorem proxy_exclusions_match_labels (libraries : NetLibraries) (target : Url)
    (exclusions : String) :
    (bypassProxy libraries target exclusions = true ↔ ∃ host, target.host = some host ∧
      ∃ entry ∈ exclusionEntries exclusions,
        Excludes (trimMatches isBracket (libraries.displayHost host).toList)
          target.portOrKnownDefault entry) ∧
    (∀ others, (∀ entry ∈ exclusionEntries exclusions, ∃ other ∈ exclusionEntries others,
        toAsciiLowercase other = toAsciiLowercase entry) →
      bypassProxy libraries target exclusions = true →
      bypassProxy libraries target others = true) ∧
    (∀ host port entry, Excludes host port entry → entry = "*".toList ∨
      ∃ name, (name = entry ∨ ∃ value, NamesPort entry name value) ∧
        EndsWithLabels host (bareName name)) := by
  refine ⟨bypassProxy_iff, fun others among bypassed => ?_, fun host port entry excluded => ?_⟩
  · obtain ⟨host, present, entry, member, excluded⟩ := bypassProxy_iff.mp bypassed
    obtain ⟨other, listed, same⟩ := among entry member
    exact bypassProxy_iff.mpr ⟨host, present, other, listed, excludes_of_lowercase same excluded⟩
  · rcases excluded with star | ⟨named, -, below⟩ | ⟨-, below⟩
    · exact .inl star
    · exact .inr ⟨_, .inr ⟨_, named⟩, endsWithLabels_of_suffix below⟩
    · exact .inr ⟨_, .inl rfl, endsWithLabels_of_suffix below⟩

/-- Hosts that are shown as they are. -/
def shownHosts : NetLibraries :=
  { plainLibraries with displayHost := fun
      | .domain name => name
      | _ => "" }

theorem proxy_exclusions_match_labels_domain :
    let target : Url := { scheme := "wss", host := some (.domain "edge.relay.example") }
    bypassProxy shownHosts target "localhost, relay.EXAMPLE:443" = true ∧
      bypassProxy shownHosts target ".Relay.Example:443" = true ∧
      bypassProxy shownHosts target "lay.example" = false := by
  intro target
  have found : bypassProxy shownHosts target "relay.example:443" = true := by decide +kernel
  have among : ∀ entry ∈ exclusionEntries "relay.example:443",
      ∃ other ∈ exclusionEntries "localhost, relay.EXAMPLE:443",
        toAsciiLowercase other = toAsciiLowercase entry := by
    decide +kernel
  exact ⟨(proxy_exclusions_match_labels shownHosts target "relay.example:443").2.1 _ among found,
    by decide +kernel, by decide +kernel⟩

end RelayConnector
