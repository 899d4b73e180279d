/-
This file is about the pieces of a text: lines that keep their ends, the first occurrence of a
separator, and lists of parts that are joined and split again.

A text is a list of characters. Each operation comes with what undoes it.
-/

import RelayConnector.Text

namespace Text

/-! ### Lines that keep their ends -/

/-- The pieces that each end with the separator; the last one may lack it. -/
def splitInclusive (separator : Char) : List Char → List (List Char)
  | [] => []
  | character :: rest =>
    if character = separator then [character] :: splitInclusive separator rest
    else match splitInclusive separator rest with
      | piece :: pieces => (character :: piece) :: pieces
      | [] => [[character]]

/-- A piece that ends with the separator. -/
def Terminated (separator : Char) (piece : List Char) : Prop :=
  ∃ body, piece = body ++ [separator] ∧ separator ∉ body

section Inclusive

variable {separator : Char}

theorem flatten_splitInclusive (text : List Char) :
    (splitInclusive separator text).flatten = text := by
  induction text with
  | nil => rfl
  | cons character rest hypothesis =>
    unfold splitInclusive
    split
    · rw [List.flatten_cons, hypothesis, List.singleton_append]
    · split
      next piece pieces pieced =>
        rw [pieced] at hypothesis
        rw [List.flatten_cons, List.cons_append, ← List.flatten_cons, hypothesis]
      next pieced =>
        rw [pieced] at hypothesis
        simp [← hypothesis]

theorem splitInclusive_cons {piece : List Char} (terminated : Terminated separator piece)
    (rest : List Char) :
    splitInclusive separator (piece ++ rest) = piece :: splitInclusive separator rest := by
  obtain ⟨body, rfl, fresh⟩ := terminated
  induction body with
  | nil => simp [splitInclusive]
  | cons character body hypothesis =>
    have other : character ≠ separator := fun same => fresh (same ▸ List.mem_cons_self)
    have inner := hypothesis fun member => fresh (List.mem_cons_of_mem _ member)
    rw [List.cons_append, List.cons_append, splitInclusive, if_neg other, inner]

/-- Terminated pieces are found again. -/
theorem splitInclusive_flatten {pieces : List (List Char)}
    (terminated : ∀ piece ∈ pieces, Terminated separator piece) :
    splitInclusive separator pieces.flatten = pieces := by
  induction pieces with
  | nil => rfl
  | cons piece pieces hypothesis =>
    obtain ⟨first, others⟩ := List.forall_mem_cons.mp terminated
    rw [List.flatten_cons, splitInclusive_cons first, hypothesis others]

/-- In a text that ends with the separator, every piece does. -/
theorem terminated_of_mem_splitInclusive {text : List Char}
    (ends : ∀ character, text.getLast? = some character → character = separator) :
    ∀ piece ∈ splitInclusive separator text, Terminated separator piece := by
  induction text with
  | nil => simp [splitInclusive]
  | cons character rest hypothesis =>
    have behind : ∀ last, rest.getLast? = some last → last = separator := by
      intro last found
      refine ends last ?_
      rw [List.getLast?_cons, found]
      rfl
    have pieces := hypothesis behind
    unfold splitInclusive
    split
    next same =>
      rw [List.forall_mem_cons]
      exact ⟨⟨[], by rw [same]; rfl, by simp⟩, pieces⟩
    next other =>
      split
      next piece others pieced =>
        rw [pieced, List.forall_mem_cons] at pieces
        obtain ⟨⟨body, rfl, fresh⟩, terminated⟩ := pieces
        rw [List.forall_mem_cons]
        refine ⟨⟨character :: body, rfl, ?_⟩, terminated⟩
        simpa [Ne.symm other] using fresh
      next pieced =>
        -- nothing follows, so this character is the last one
        have nothing : rest = [] := by
          have whole : (splitInclusive separator rest).flatten = rest := flatten_splitInclusive rest
          rw [← whole, pieced, List.flatten_nil]
        rw [nothing] at ends
        exact absurd (ends character rfl) other

end Inclusive

/-! ### The beginning of a text -/

/-- What follows a given beginning. -/
def stripPrefix (start text : List Char) : Option (List Char) :=
  if start.isPrefixOf text then some (text.drop start.length) else none

variable {text : List Char}

theorem stripPrefix_eq_some {start rest : List Char} :
    stripPrefix start text = some rest ↔ text = start ++ rest := by
  unfold stripPrefix
  split
  next begins =>
    obtain ⟨after, rfl⟩ := List.isPrefixOf_iff_prefix.mp begins
    simp
  next different =>
    refine iff_of_false (by simp) ?_
    rintro rfl
    exact different (List.isPrefixOf_iff_prefix.mpr (List.prefix_append _ _))

theorem stripPrefix_append (start rest : List Char) :
    stripPrefix start (start ++ rest) = some rest :=
  stripPrefix_eq_some.mpr rfl

/-- What comes before a given end. -/
def stripSuffix (ending text : List Char) : Option (List Char) :=
  (stripPrefix ending.reverse text.reverse).map List.reverse

theorem stripSuffix_eq_some {ending front : List Char} :
    stripSuffix ending text = some front ↔ text = front ++ ending := by
  rw [stripSuffix, Option.map_eq_some_iff]
  constructor
  · rintro ⟨rest, stripped, rfl⟩
    have reversed := congrArg List.reverse (stripPrefix_eq_some.mp stripped)
    simpa using reversed
  · rintro rfl
    exact ⟨front.reverse, stripPrefix_eq_some.mpr (by simp), List.reverse_reverse front⟩

/-- What stands before and after the first occurrence of a separator. -/
def splitOnce (separator : Char) : List Char → Option (List Char × List Char)
  | [] => none
  | character :: rest =>
    if character = separator then some ([], rest)
    else (splitOnce separator rest).map fun parts => (character :: parts.1, parts.2)

section Once

variable {separator : Char}

variable {before text after : List Char}

theorem splitOnce_append (fresh : separator ∉ before) (after : List Char) :
    splitOnce separator (before ++ separator :: after) = some (before, after) := by
  induction before with
  | nil => simp [splitOnce]
  | cons character before hypothesis =>
    have other : character ≠ separator := fun same => fresh (same ▸ List.mem_cons_self)
    have inner := hypothesis fun member => fresh (List.mem_cons_of_mem _ member)
    rw [List.cons_append, splitOnce, if_neg other, inner]
    rfl

theorem splitOnce_eq_none : splitOnce separator text = none ↔ separator ∉ text := by
  induction text with
  | nil => simp [splitOnce]
  | cons character rest hypothesis =>
    unfold splitOnce
    split
    next same => simp [same]
    next other => simp [hypothesis, Ne.symm other]

theorem splitOnce_eq_some (found : splitOnce separator text = some (before, after)) :
    text = before ++ separator :: after ∧ separator ∉ before := by
  induction text generalizing before with
  | nil => cases found
  | cons character rest hypothesis =>
    unfold splitOnce at found
    split at found
    next same =>
      obtain ⟨rfl, rfl⟩ := Prod.mk.inj (Option.some.inj found)
      exact ⟨by rw [same]; rfl, by simp⟩
    next other =>
      obtain ⟨⟨inner, behind⟩, within, parts⟩ := Option.map_eq_some_iff.mp found
      obtain ⟨rfl, rfl⟩ := Prod.mk.inj parts
      obtain ⟨rfl, fresh⟩ := hypothesis within
      exact ⟨rfl, by simpa [Ne.symm other] using fresh⟩

theorem splitAtLast_eq_none : splitAtLast [separator] text = none ↔ separator ∉ text := by
  induction text with
  | nil => simp [splitAtLast]
  | cons character rest hypothesis =>
    rw [splitAtLast, List.mem_cons, not_or, ← hypothesis]
    split
    next split => simp [split]
    next none =>
      by_cases same : character = separator
      · simp [List.dropPrefix?, same]
      · simp [List.dropPrefix?, same, none, Ne.symm same]

theorem splitAtLast_append (before : List Char) (fresh : separator ∉ after) :
    splitAtLast [separator] (before ++ separator :: after) = some (before, after) := by
  induction before with
  | nil =>
    rw [List.nil_append, splitAtLast, splitAtLast_eq_none.mpr fresh]
    simp [List.dropPrefix?]
  | cons character before hypothesis =>
    rw [List.cons_append, splitAtLast, hypothesis]

theorem splitAtLast_eq_some (found : splitAtLast [separator] text = some (before, after)) :
    text = before ++ separator :: after ∧ separator ∉ after := by
  induction text generalizing before with
  | nil => simp [splitAtLast] at found
  | cons character rest hypothesis =>
    unfold splitAtLast at found
    split at found
    next front behind split =>
      obtain ⟨rfl, rfl⟩ := Prod.mk.inj (Option.some.inj found)
      obtain ⟨rfl, fresh⟩ := hypothesis split
      exact ⟨rfl, fresh⟩
    next none =>
      have fresh := splitAtLast_eq_none.mp none
      by_cases same : character = separator
      · simp only [List.dropPrefix?, same, beq_self_eq_true, if_true, Option.map_some,
          Option.some.injEq, Prod.mk.injEq] at found
        obtain ⟨rfl, rfl⟩ := found
        exact ⟨by rw [same]; rfl, fresh⟩
      · simp [List.dropPrefix?, same] at found

/-- A separator of several characters. -/
theorem splitAtLast_sound {pattern : List Char}
    (found : splitAtLast pattern text = some (before, after)) :
    text = before ++ (pattern ++ after) := by
  induction text generalizing before with
  | nil =>
    unfold splitAtLast at found
    split at found
    next empty =>
      obtain ⟨rfl, rfl⟩ := Prod.mk.inj (Option.some.inj found)
      rw [List.isEmpty_iff.mp empty]
      rfl
    next => cases found
  | cons character rest hypothesis =>
    unfold splitAtLast at found
    split at found
    next front behind split =>
      obtain ⟨rfl, rfl⟩ := Prod.mk.inj (Option.some.inj found)
      rw [hypothesis split]
      rfl
    next =>
      obtain ⟨behind, dropped, same⟩ := Option.map_eq_some_iff.mp found
      obtain ⟨rfl, rfl⟩ := Prod.mk.inj same
      obtain ⟨start, split, equal⟩ := List.dropPrefix?_eq_some_iff.mp dropped
      rw [split, eq_of_beq equal]
      rfl

theorem splitAtLast_pattern {first : Char} {pattern : List Char} (before : List Char)
    (fresh : first ∉ pattern ++ after) :
    splitAtLast (first :: pattern) (before ++ (first :: pattern ++ after)) =
      some (before, after) := by
  induction before with
  | nil =>
    have none : splitAtLast (first :: pattern) (pattern ++ after) = none := by
      cases found : splitAtLast (first :: pattern) (pattern ++ after) with
      | none => rfl
      | some parts =>
        refine absurd ?_ fresh
        rw [splitAtLast_sound found]
        simp
    have whole : (first :: (pattern ++ after)).dropPrefix? (first :: pattern) = some after :=
      List.dropPrefix?_eq_some_iff.mpr ⟨first :: pattern, rfl, beq_self_eq_true _⟩
    rw [List.nil_append, List.cons_append, splitAtLast, none, whole]
    rfl
  | cons character before hypothesis =>
    rw [List.cons_append, splitAtLast, hypothesis]

end Once

/-! ### Joining and splitting -/

/-- The parts with a separator between them. -/
def join (separator : Char) : List (List Char) → List Char
  | [] => []
  | [part] => part
  | part :: next :: rest => part ++ separator :: join separator (next :: rest)

section Join

variable {separator : Char}

theorem splitOn_ne_nil (text : List Char) : splitOn separator text ≠ [] := by
  cases text with
  | nil => simp [splitOn]
  | cons character rest =>
    unfold splitOn
    split
    · simp
    · split <;> simp

theorem splitOn_fresh {part : List Char} (fresh : separator ∉ part) :
    splitOn separator part = [part] := by
  induction part with
  | nil => rfl
  | cons character part hypothesis =>
    have other : character ≠ separator := fun same => fresh (same ▸ List.mem_cons_self)
    have inner := hypothesis fun member => fresh (List.mem_cons_of_mem _ member)
    rw [splitOn, if_neg other, inner]

theorem splitOn_append (text rest : List Char) :
    splitOn separator (text ++ separator :: rest) =
      splitOn separator text ++ splitOn separator rest := by
  induction text with
  | nil => simp [splitOn]
  | cons character text hypothesis =>
    rw [List.cons_append, splitOn, splitOn, hypothesis]
    split
    · rfl
    · obtain ⟨part, parts, split⟩ := List.exists_cons_of_ne_nil (splitOn_ne_nil text)
      rw [split]
      rfl

variable {parts : List (List Char)}

/-- Parts without the separator are found again. -/
theorem splitOn_join (some : parts ≠ []) (fresh : ∀ part ∈ parts, separator ∉ part) :
    splitOn separator (join separator parts) = parts := by
  induction parts with
  | nil => exact absurd rfl some
  | cons part parts hypothesis =>
    obtain ⟨first, others⟩ := List.forall_mem_cons.mp fresh
    cases parts with
    | nil => exact splitOn_fresh first
    | cons next rest =>
      rw [join, splitOn_append, splitOn_fresh first, hypothesis (List.cons_ne_nil _ _) others]
      rfl

/-- What does not separate belongs to the last part. -/
theorem splitOn_append_fresh (separator : Char) (text : List Char) : ∃ front last,
    ∀ word, separator ∉ word → splitOn separator (text ++ word) = front ++ [last ++ word] := by
  induction text with
  | nil => exact ⟨[], [], fun word fresh => splitOn_fresh fresh⟩
  | cons first rest hypothesis =>
    obtain ⟨front, last, split⟩ := hypothesis
    by_cases same : first = separator
    · refine ⟨[] :: front, last, fun word fresh => ?_⟩
      rw [List.cons_append, splitOn, if_pos same, split word fresh]
      rfl
    · cases front with
      | nil =>
        refine ⟨[], first :: last, fun word fresh => ?_⟩
        rw [List.cons_append, splitOn, if_neg same, split word fresh]
        rfl
      | cons part parts =>
        refine ⟨(first :: part) :: parts, last, fun word fresh => ?_⟩
        rw [List.cons_append, splitOn, if_neg same, split word fresh]
        rfl

theorem join_append {first second : List (List Char)} (some : first ≠ []) (more : second ≠ []) :
    join separator (first ++ second) =
      join separator first ++ separator :: join separator second := by
  induction first with
  | nil => exact absurd rfl some
  | cons part parts hypothesis =>
    cases parts with
    | nil =>
      obtain ⟨next, rest, rfl⟩ := List.exists_cons_of_ne_nil more
      rfl
    | cons next rest =>
      have inner := hypothesis (List.cons_ne_nil _ _)
      rw [List.cons_append, List.cons_append, join, ← List.cons_append, inner, join,
        List.append_assoc]
      rfl

theorem join_splitOn (text : List Char) : join separator (splitOn separator text) = text := by
  induction text with
  | nil => rfl
  | cons character rest hypothesis =>
    obtain ⟨part, parts, split⟩ := List.exists_cons_of_ne_nil
      (splitOn_ne_nil rest : splitOn separator rest ≠ [])
    rw [split] at hypothesis
    unfold splitOn
    rw [split]
    split
    next same =>
      rw [join, hypothesis, same]
      rfl
    next =>
      rw [← hypothesis]
      cases parts <;> rfl

/-- The parts of a text are the last ones of another exactly when the text stands at the end of
the other, as a whole or behind a separator. -/
theorem splitOn_suffix_iff {text whole : List Char} :
    splitOn separator text <:+ splitOn separator whole ↔
      whole = text ∨ separator :: text <:+ whole := by
  constructor
  · rintro ⟨front, split⟩
    have joined : whole = join separator (front ++ splitOn separator text) := by
      rw [split, join_splitOn]
    by_cases none : front = []
    · rw [none, List.nil_append, join_splitOn] at joined
      exact .inl joined
    · rw [join_append none (splitOn_ne_nil text), join_splitOn] at joined
      exact .inr ⟨_, joined.symm⟩
  · rintro (rfl | ⟨front, rfl⟩)
    · exact List.suffix_rfl
    · rw [splitOn_append]
      exact List.suffix_append _ _

/-- The parts do not have the separator, and have only characters of the text. -/
theorem of_mem_splitOn {text : List Char} :
    ∀ part ∈ splitOn separator text, separator ∉ part ∧ part ⊆ text := by
  induction text with
  | nil => simp [splitOn]
  | cons character rest hypothesis =>
    have kept : ∀ part ∈ splitOn separator rest, separator ∉ part ∧ part ⊆ character :: rest :=
      fun part member => ⟨(hypothesis part member).1,
        fun _ inside => List.mem_cons_of_mem _ ((hypothesis part member).2 inside)⟩
    unfold splitOn
    split
    · rw [List.forall_mem_cons]
      exact ⟨by simp, kept⟩
    next other =>
      split
      next part parts split =>
        rw [split, List.forall_mem_cons] at kept
        rw [List.forall_mem_cons]
        refine ⟨⟨?_, ?_⟩, kept.2⟩
        · simpa [Ne.symm other] using kept.1.1
        · exact List.cons_subset.mpr ⟨List.mem_cons_self, kept.1.2⟩
      next => simp [Ne.symm other]

theorem mem_join {character : Char} (member : character ∈ join separator parts) :
    character = separator ∨ ∃ part ∈ parts, character ∈ part := by
  induction parts with
  | nil => cases member
  | cons part parts hypothesis =>
    cases parts with
    | nil => exact .inr ⟨part, List.mem_cons_self, member⟩
    | cons next rest =>
      rw [join, List.mem_append, List.mem_cons] at member
      rcases member with inside | rfl | behind
      · exact .inr ⟨part, List.mem_cons_self, inside⟩
      · exact .inl rfl
      · rcases hypothesis behind with same | ⟨other, among, inside⟩
        · exact .inl same
        · exact .inr ⟨other, List.mem_cons_of_mem _ among, inside⟩

/-- A joined text ends as its last part does. -/
theorem getLast?_join {last : List Char} (ends : parts.getLast? = some last) (some : last ≠ []) :
    (join separator parts).getLast? = last.getLast? := by
  induction parts with
  | nil => cases ends
  | cons part parts hypothesis =>
    cases parts with
    | nil =>
      obtain rfl : part = last := by simpa using ends
      rfl
    | cons next rest =>
      have inner := hypothesis (by simpa using ends)
      have found := List.getLast?_eq_some_getLast some
      rw [join, List.getLast?_append, List.getLast?_cons, inner, found]
      rfl

end Join

/-! ### The ends of a text -/

section Trim

variable {matching : Char → Bool}

variable {text : List Char} {character : Char}

theorem trimMatches_eq_self
    (head : ∀ character, text.head? = some character → matching character = false)
    (last : ∀ character, text.getLast? = some character → matching character = false) :
    trimMatches matching text = text := by
  have front : text.dropWhile matching = text := by
    cases text with
    | nil => rfl
    | cons character rest =>
      rw [List.dropWhile_cons_of_neg]
      simp [head character rfl]
  rw [trimMatches, front, List.rdropWhile_eq_self_iff]
  intro nonempty matched
  rw [last _ (List.getLast?_eq_some_getLast nonempty)] at matched
  cases matched

/-- A text that begins with another character is only cut at its end. -/
theorem trimMatches_isPrefix {rest : List Char} (other : matching character = false) :
    trimMatches matching (character :: rest) <+: character :: rest := by
  rw [trimMatches, List.dropWhile_cons_of_neg (by simp [other])]
  exact List.rdropWhile_prefix _ _

theorem trimMatches_sublist (text : List Char) : (trimMatches matching text).Sublist text :=
  (List.rdropWhile_prefix _ _).sublist.trans (List.dropWhile_sublist _)

theorem trimMatches_concat (matched : matching character = true) (text : List Char) :
    trimMatches matching (text ++ [character]) = trimMatches matching text := by
  rw [trimMatches, trimMatches, List.dropWhile_append]
  split
  next empty =>
    rw [List.isEmpty_iff.mp empty, List.dropWhile_cons_of_pos matched]
    rfl
  next => exact List.rdropWhile_concat_pos _ _ _ matched

/-- Behind a character that stays, the end of a text is trimmed on its own. -/
theorem rdropWhile_append_of_last {front : List Char} (last : front.getLast? = some character)
    (other : matching character = false) (text : List Char) :
    (front ++ text).rdropWhile matching = front ++ text.rdropWhile matching := by
  induction text using List.reverseRecOn with
  | nil =>
    rw [List.append_nil, List.rdropWhile_nil, List.append_nil, List.rdropWhile_eq_self_iff]
    intro nonempty matched
    rw [List.getLast?_eq_some_getLast nonempty] at last
    rw [Option.some.inj last, other] at matched
    cases matched
  | append_singleton text final hypothesis =>
    rw [← List.append_assoc]
    cases ending : matching final with
    | false =>
      rw [List.rdropWhile_concat_neg _ _ _ (by simp [ending]),
        List.rdropWhile_concat_neg _ _ _ (by simp [ending]), List.append_assoc]
    | true =>
      rw [List.rdropWhile_concat_pos _ _ _ ending, List.rdropWhile_concat_pos _ _ _ ending]
      exact hypothesis

theorem head?_trimMatches (head : (trimMatches matching text).head? = some character) :
    matching character = false := by
  obtain ⟨rest, trimmed⟩ : ∃ rest, trimMatches matching text = character :: rest := by
    cases found : trimMatches matching text with
    | nil => rw [found] at head; cases head
    | cons first rest =>
      rw [found] at head
      exact ⟨rest, by rw [Option.some.inj head]⟩
  obtain ⟨behind, whole⟩ : trimMatches matching text <+: text.dropWhile matching :=
    List.rdropWhile_prefix _ _
  rw [trimmed, List.cons_append] at whole
  have first := List.head?_dropWhile_not matching text
  rw [← whole] at first
  simpa using first

theorem getLast?_trimMatches (last : (trimMatches matching text).getLast? = some character) :
    matching character = false := by
  have nonempty : trimMatches matching text ≠ [] := by
    intro empty
    rw [empty] at last
    cases last
  have ends := List.rdropWhile_last_not matching (text.dropWhile matching) nonempty
  rw [List.getLast?_eq_some_getLast nonempty] at last
  rw [← Option.some.inj last]
  exact Bool.eq_false_iff.mpr ends

end Trim

/-! ### Digits -/

/-- A text that is parsed as a number has digits, and at most a sign besides. -/
theorem digits_of_parseUnsigned {bound value : Nat}
    (parsed : parseUnsigned bound text = some value) :
    text ≠ [] ∧ ∀ character ∈ text, character = '+' ∨ character.isDigit = true := by
  unfold parseUnsigned at parsed
  simp only at parsed
  split at parsed
  next => cases parsed
  next several =>
    simp only [Bool.or_eq_true, List.isEmpty_iff, List.any_eq_true, Bool.not_eq_true', not_or,
      not_exists, not_and, Bool.not_eq_false] at several
    unfold withoutSign at several
    split at several
    next digits =>
      refine ⟨List.cons_ne_nil _ _, fun character member => ?_⟩
      rcases List.mem_cons.mp member with sign | inside
      · exact .inl sign
      · exact .inr (several.2 character inside)
    next => exact ⟨several.1, fun character member => .inr (several.2 character member)⟩

/-! ### Replacing and trimming a pattern -/

/-- The first occurrence of a pattern is replaced. -/
def replaceFirst (pattern replacement : List Char) : List Char → List Char
  | [] => []
  | character :: rest =>
    if pattern.isPrefixOf (character :: rest) then
      replacement ++ (character :: rest).drop pattern.length
    else character :: replaceFirst pattern replacement rest

def trimStartRounds (pattern : List Char) : Nat → List Char → List Char
  | 0, text => text
  | rounds + 1, text =>
    match stripPrefix pattern text with
    | some rest => trimStartRounds pattern rounds rest
    | none => text

/-- The pattern is removed from the start as often as it is there. -/
def trimStartMatches (pattern text : List Char) : List Char :=
  trimStartRounds pattern text.length text

section Pattern

variable {pattern replacement : List Char}

/-- Where no occurrence begins in the front of a text, the front stays. -/
theorem replaceFirst_append {front rest : List Char}
    (none : ∀ ending, ending ≠ [] → ending <:+ front → ¬pattern <+: ending ++ rest) :
    replaceFirst pattern replacement (front ++ rest) =
      front ++ replaceFirst pattern replacement rest := by
  induction front with
  | nil => rfl
  | cons character front hypothesis =>
    have here : ¬pattern.isPrefixOf (character :: (front ++ rest)) = true := fun begins =>
      none (character :: front) (List.cons_ne_nil _ _) List.suffix_rfl
        (List.isPrefixOf_iff_prefix.mp begins)
    rw [List.cons_append, replaceFirst, if_neg here, hypothesis fun ending some inside =>
      none ending some (inside.trans (List.suffix_cons _ _))]
    rfl

/-- A front stays if its last character is not in the pattern, and the pattern has a character
that the front does not have. -/
theorem replaceFirst_append_of_foreign {front rest : List Char} {last absent : Char}
    (ends : front.getLast? = some last) (foreign : last ∉ pattern) (among : absent ∈ pattern)
    (fresh : absent ∉ front) :
    replaceFirst pattern replacement (front ++ rest) =
      front ++ replaceFirst pattern replacement rest := by
  refine replaceFirst_append fun ending some inside begins => ?_
  rcases List.prefix_or_prefix_of_prefix begins (List.prefix_append ending rest) with
    inner | outer
  · exact fresh (inside.subset (inner.subset among))
  · obtain ⟨before, rfl⟩ := inside
    rw [List.getLast?_append_of_ne_nil _ some] at ends
    exact foreign (outer.subset (List.mem_of_getLast? ends))

theorem replaceFirst_cases (pattern replacement text : List Char) :
    replaceFirst pattern replacement text = text ∨
      ∃ before after, text = before ++ (pattern ++ after) ∧
        replaceFirst pattern replacement text = before ++ (replacement ++ after) := by
  induction text with
  | nil => exact .inl rfl
  | cons character rest hypothesis =>
    unfold replaceFirst
    split
    next begins =>
      obtain ⟨after, split⟩ := List.isPrefixOf_iff_prefix.mp begins
      refine .inr ⟨[], after, split.symm, ?_⟩
      rw [← split, List.drop_left]
      rfl
    next =>
      rcases hypothesis with same | ⟨before, after, split, replaced⟩
      · exact .inl (by rw [same])
      · exact .inr ⟨character :: before, after, by rw [split]; rfl, by rw [replaced]; rfl⟩

variable {text : List Char}

theorem trimStartRounds_eq_self (other : ¬pattern <+: text) (rounds : Nat) :
    trimStartRounds pattern rounds text = text := by
  have none : stripPrefix pattern text = none := by
    cases found : stripPrefix pattern text with
    | none => rfl
    | some rest => exact absurd ⟨rest, (stripPrefix_eq_some.mp found).symm⟩ other
  cases rounds with
  | zero => rfl
  | succ rounds => rw [trimStartRounds, none]

theorem trimStartMatches_eq_self (other : ¬pattern <+: text) :
    trimStartMatches pattern text = text :=
  trimStartRounds_eq_self other _

theorem trimStartRounds_of_le (some : pattern ≠ []) {rounds : Nat} (enough : text.length ≤ rounds) :
    trimStartRounds pattern rounds text = trimStartMatches pattern text := by
  have once : ∀ {rounds : Nat} {text : List Char}, text.length ≤ rounds →
      trimStartRounds pattern (rounds + 1) text = trimStartRounds pattern rounds text := by
    intro rounds
    induction rounds with
    | zero =>
      intro text empty
      rw [List.eq_nil_of_length_eq_zero (Nat.le_zero.mp empty)]
      exact trimStartRounds_eq_self (fun begins => some (List.prefix_nil.mp begins)) 1
    | succ rounds hypothesis =>
      intro text enough
      rw [trimStartRounds, trimStartRounds]
      cases found : stripPrefix pattern text with
      | none => rfl
      | some rest =>
        refine hypothesis ?_
        have length := congrArg List.length (stripPrefix_eq_some.mp found)
        rw [List.length_append] at length
        have longer := List.length_pos_iff.mpr some
        omega
  induction enough with
  | refl => rfl
  | step enough hypothesis => rw [once enough, hypothesis]

theorem trimStartMatches_append (some : pattern ≠ []) (rest : List Char) :
    trimStartMatches pattern (pattern ++ rest) = trimStartMatches pattern rest := by
  obtain ⟨first, others, rfl⟩ := List.exists_cons_of_ne_nil some
  have length : (first :: others ++ rest).length = (others.length + rest.length) + 1 := by simp
  rw [trimStartMatches, length, trimStartRounds, stripPrefix_append]
  exact trimStartRounds_of_le some (Nat.le_add_left _ _)

theorem exists_trimStartMatches (pattern text : List Char) :
    ∃ count, text =
      (List.replicate count pattern).flatten ++ trimStartMatches pattern text := by
  suffices rounds : ∀ rounds, ∃ count, text =
      (List.replicate count pattern).flatten ++ trimStartRounds pattern rounds text from rounds _
  intro rounds
  induction rounds generalizing text with
  | zero => exact ⟨0, rfl⟩
  | succ rounds hypothesis =>
    rw [trimStartRounds]
    cases found : stripPrefix pattern text with
    | none => exact ⟨0, rfl⟩
    | some rest =>
      obtain ⟨count, split⟩ := hypothesis rest
      refine ⟨count + 1, ?_⟩
      rw [stripPrefix_eq_some.mp found, List.replicate_succ, List.flatten_cons, List.append_assoc,
        ← split]

end Pattern

/-! ### Trimming one pattern after another -/

/-- Items that stand in the order of a list, each any number of times. -/
inductive InTurn {Item : Type} : List Item → List Item → Prop
  | done (items : List Item) : InTurn items []
  | pass {item : Item} {items said : List Item} (turn : InTurn items said) :
      InTurn (item :: items) said
  | say {item : Item} {items said : List Item} (turn : InTurn (item :: items) said) :
      InTurn (item :: items) (item :: said)

section InTurn

variable {Item : Type} {items said : List Item} {pattern : Item → List Char}

theorem InTurn.mem (turn : InTurn items said) {item : Item} (member : item ∈ said) :
    item ∈ items := by
  induction turn with
  | done => cases member
  | pass _ hypothesis => exact List.mem_cons_of_mem _ (hypothesis member)
  | say _ hypothesis =>
    rcases List.mem_cons.mp member with rfl | later
    · exact List.mem_cons_self
    · exact hypothesis later

theorem InTurn.replicate (turn : InTurn items said) (item : Item) (count : Nat) :
    InTurn (item :: items) (List.replicate count item ++ said) := by
  induction count with
  | zero => exact .pass turn
  | succ count hypothesis => exact .say hypothesis

def trimInTurn (pattern : Item → List Char) (items : List Item) (text : List Char) : List Char :=
  items.foldl (fun text item => trimStartMatches (pattern item) text) text

/-- What is trimmed stands in turn. -/
theorem exists_trimInTurn (pattern : Item → List Char) (items : List Item) (text : List Char) :
    ∃ said, InTurn items said ∧ text = said.flatMap pattern ++ trimInTurn pattern items text := by
  induction items generalizing text with
  | nil => exact ⟨[], .done _, rfl⟩
  | cons item rest hypothesis =>
    obtain ⟨count, split⟩ := exists_trimStartMatches (pattern item) text
    obtain ⟨said, turn, left⟩ := hypothesis (trimStartMatches (pattern item) text)
    refine ⟨_, turn.replicate item count, ?_⟩
    rw [List.flatMap_append, List.append_assoc, List.flatMap_replicate]
    exact split.trans (congrArg _ left)

theorem trimInTurn_eq_self {rest : List Char} (none : ∀ item ∈ items, ¬pattern item <+: rest) :
    trimInTurn pattern items rest = rest := by
  induction items with
  | nil => rfl
  | cons item others hypothesis =>
    obtain ⟨first, none⟩ := List.forall_mem_cons.mp none
    rw [trimInTurn, List.foldl_cons, trimStartMatches_eq_self first]
    exact hypothesis none

/-- What stands in turn is trimmed. -/
theorem trimInTurn_append (apart : items.Pairwise fun first second =>
      ∀ rest, ¬pattern first <+: pattern second ++ rest)
    (some : ∀ item ∈ items, pattern item ≠ []) (turn : InTurn items said) {rest : List Char}
    (none : ∀ item ∈ items, ¬pattern item <+: rest) :
    trimInTurn pattern items (said.flatMap pattern ++ rest) = rest := by
  induction turn with
  | done => exact trimInTurn_eq_self none
  | @pass item items said turn hypothesis =>
    have passed : ¬pattern item <+: said.flatMap pattern ++ rest := by
      cases said with
      | nil => exact none item List.mem_cons_self
      | cons first more =>
        rw [List.flatMap_cons, List.append_assoc]
        exact List.rel_of_pairwise_cons apart (turn.mem List.mem_cons_self) _
    rw [trimInTurn, List.foldl_cons, trimStartMatches_eq_self passed]
    exact hypothesis apart.of_cons (List.forall_mem_cons.mp some).2 (List.forall_mem_cons.mp none).2
  | @say item items said turn hypothesis =>
    rw [List.flatMap_cons, List.append_assoc, trimInTurn, List.foldl_cons,
      trimStartMatches_append (some item List.mem_cons_self)]
    exact hypothesis apart some none

end InTurn

/-! ### Blocks -/

section Blocks

variable {Item : Type} {starts : Item → Bool} {items : List Item}

/-- The blocks of a list, each from an item that starts one up to the next; what stands before
the first one is left out. -/
def blocks (starts : Item → Bool) : List Item → List (List Item)
  | [] => []
  | item :: rest =>
    if starts item then (item :: rest.takeWhile fun next => !starts next) :: blocks starts rest
    else blocks starts rest

/-- Items are changed one by one, and what starts a block still does, and nothing else. -/
structure KeepsStarts (starts : Item → Bool) (change : Item → List Item) : Prop where
  start : ∀ item, starts item = true → ∃ head tail,
    change item = head :: tail ∧ starts head = true ∧ ∀ next ∈ tail, starts next = false
  other : ∀ item, starts item = false → ∀ next ∈ change item, starts next = false

theorem mem_of_mem_blocks {block : List Item} {item : Item} (among : block ∈ blocks starts items)
    (member : item ∈ block) : item ∈ items := by
  induction items with
  | nil => cases among
  | cons first rest hypothesis =>
    unfold blocks at among
    split at among
    · rcases List.mem_cons.mp among with rfl | later
      · rcases List.mem_cons.mp member with rfl | inside
        · exact List.mem_cons_self
        · exact List.mem_cons_of_mem _ ((List.takeWhile_sublist _).subset inside)
      · exact List.mem_cons_of_mem _ (hypothesis later)
    · exact List.mem_cons_of_mem _ (hypothesis among)

theorem blocks_append_of_none {others : List Item}
    (none : ∀ item ∈ others, starts item = false) (rest : List Item) :
    blocks starts (others ++ rest) = blocks starts rest := by
  induction others with
  | nil => rfl
  | cons item others hypothesis =>
    obtain ⟨here, later⟩ := List.forall_mem_cons.mp none
    rw [List.cons_append, blocks, here]
    exact hypothesis later

theorem takeWhile_append_of_none {others : List Item}
    (none : ∀ item ∈ others, starts item = false) (rest : List Item) :
    (others ++ rest).takeWhile (fun next => !starts next) =
      others ++ rest.takeWhile fun next => !starts next :=
  List.takeWhile_append_of_pos fun item member => by rw [none item member]; rfl

variable {change : Item → List Item}

theorem takeWhile_flatMap (keeps : KeepsStarts starts change) :
    (items.flatMap change).takeWhile (fun next => !starts next) =
      (items.takeWhile fun next => !starts next).flatMap change := by
  induction items with
  | nil => rfl
  | cons item rest hypothesis =>
    rw [List.flatMap_cons, List.takeWhile_cons]
    cases first : starts item with
    | true =>
      obtain ⟨head, tail, changed, begins, -⟩ := keeps.start item first
      rw [changed, List.cons_append, List.takeWhile_cons, begins]
      rfl
    | false =>
      rw [takeWhile_append_of_none (keeps.other item first), hypothesis]
      rfl

/-- A change that keeps what starts a block goes through every block. -/
theorem blocks_flatMap (keeps : KeepsStarts starts change) :
    blocks starts (items.flatMap change) =
      (blocks starts items).map fun block => block.flatMap change := by
  induction items with
  | nil => rfl
  | cons item rest hypothesis =>
    rw [List.flatMap_cons, blocks]
    cases first : starts item with
    | true =>
      obtain ⟨head, tail, changed, begins, none⟩ := keeps.start item first
      rw [changed, List.cons_append, blocks, begins, if_pos rfl, if_pos rfl, List.map_cons,
        blocks_append_of_none none, takeWhile_append_of_none none, takeWhile_flatMap keeps,
        hypothesis, List.flatMap_cons, changed]
      rfl
    | false =>
      rw [blocks_append_of_none (keeps.other item first), hypothesis]
      rfl

end Blocks

end Text
