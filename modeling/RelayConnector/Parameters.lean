/-
This file models the parameter list of an `fmtp` line, `merge_params` of `rtc/handshake.rs`, and
the parameters that are merged into it.

A merged list is read back as the list that was rendered, and merging overrides the old list as
a map. Both need the old names to be non-empty and free of whitespace.
-/

import RelayConnector.Configuration
import RelayConnector.Lines

namespace RelayConnector

namespace Sdp

open Text

/-! ### Parameter lists -/

/-- A name and a value; the value is empty where there is none. -/
abbrev Parameter := List Char × List Char

def trim : List Char → List Char := trimMatches isWhitespace

/-- One part of a parameter list. -/
def parseParam (part : List Char) : Option Parameter :=
  let trimmed := trim part
  if trimmed.isEmpty then none else some ((splitOnce '=' trimmed).getD (trimmed, []))

def parseParams (existing : List Char) : List Parameter :=
  (splitOn ';' existing).filterMap parseParam

/-- The first parameter of this name gets the value; without one the parameter is added. -/
def setParam : List Parameter → Parameter → List Parameter
  | [], wanted => [wanted]
  | parameter :: rest, wanted =>
    if parameter.1 = wanted.1 then (parameter.1, wanted.2) :: rest
    else parameter :: setParam rest wanted

def renderParam (parameter : Parameter) : List Char :=
  if parameter.2.isEmpty then parameter.1 else parameter.1 ++ '=' :: parameter.2

def mergeParams (existing : List Char) (wanted : List Parameter) : List Char :=
  join ';' ((wanted.foldl setParam (parseParams existing)).map renderParam)

def wantedParams (stereo : Bool) (maxAvgBitrateBits : Nat) : List Parameter :=
  let stereoVal := if stereo then ['1'] else ['0']
  [("minptime".toList, "10".toList), ("useinbandfec".toList, "0".toList),
    ("sprop-stereo".toList, stereoVal), ("stereo".toList, stereoVal),
    ("maxaveragebitrate".toList, (toString maxAvgBitrateBits).toList)]

/-! ### Setting parameters -/

/-- The value of the first parameter of a name. -/
def valueOf (name : List Char) : List Parameter → Option (List Char)
  | [] => none
  | parameter :: rest => if parameter.1 = name then some parameter.2 else valueOf name rest

variable {parameters : List Parameter} {parameter : Parameter}

theorem valueOf_eq_none {name : List Char} :
    valueOf name parameters = none ↔ name ∉ parameters.map Prod.fst := by
  induction parameters with
  | nil => simp [valueOf]
  | cons first rest hypothesis =>
    unfold valueOf
    split
    next same => simp [same]
    next other => simp only [hypothesis, List.map_cons, List.mem_cons, Ne.symm other,
      false_or]

/-- Names that differ make a parameter list a map. -/
theorem valueOf_of_mem (distinct : (parameters.map Prod.fst).Nodup)
    (member : parameter ∈ parameters) : valueOf parameter.1 parameters = some parameter.2 := by
  induction parameters with
  | nil => cases member
  | cons first rest hypothesis =>
    rw [List.map_cons, List.nodup_cons] at distinct
    rcases List.mem_cons.mp member with rfl | behind
    · simp [valueOf]
    · have other : first.1 ≠ parameter.1 := fun same =>
        distinct.1 (same ▸ List.mem_map_of_mem behind)
      rw [valueOf, if_neg other, hypothesis distinct.2 behind]

section SetParam

variable {parameters : List Parameter} {wanted parameter : Parameter}

theorem valueOf_setParam (name : List Char) :
    valueOf name (setParam parameters wanted) =
      if wanted.1 = name then some wanted.2 else valueOf name parameters := by
  induction parameters with
  | nil => rfl
  | cons first rest hypothesis =>
    unfold setParam
    split
    next here =>
      rw [valueOf, valueOf, here]
      by_cases same : wanted.1 = name
      · rw [if_pos same, if_pos same]
      · rw [if_neg same, if_neg same, if_neg same]
    next elsewhere =>
      rw [valueOf, valueOf, hypothesis]
      by_cases found : first.1 = name
      · have other : wanted.1 ≠ name := fun same => elsewhere (found.trans same.symm)
        rw [if_pos found, if_neg other, if_pos found]
      · rw [if_neg found, if_neg found]

theorem mem_setParam (member : parameter ∈ setParam parameters wanted) :
    parameter ∈ parameters ∨ parameter = wanted := by
  induction parameters with
  | nil => exact .inr (List.mem_singleton.mp member)
  | cons first rest hypothesis =>
    unfold setParam at member
    split at member
    next here =>
      rcases List.mem_cons.mp member with rfl | behind
      · exact .inr (by rw [here])
      · exact .inl (List.mem_cons_of_mem _ behind)
    next =>
      rcases List.mem_cons.mp member with rfl | behind
      · exact .inl List.mem_cons_self
      · exact (hypothesis behind).imp_left (List.mem_cons_of_mem _)

theorem names_setParam :
    (setParam parameters wanted).map Prod.fst =
      parameters.map Prod.fst ++
        if wanted.1 ∈ parameters.map Prod.fst then [] else [wanted.1] := by
  induction parameters with
  | nil => simp [setParam]
  | cons first rest hypothesis =>
    unfold setParam
    split
    next here => simp [here]
    next elsewhere =>
      simp only [List.map_cons, hypothesis, List.cons_append, List.mem_cons,
        Ne.symm elsewhere, false_or]

/-- A parameter that has its value is left as it is. -/
theorem setParam_of_valueOf (has : valueOf wanted.1 parameters = some wanted.2) :
    setParam parameters wanted = parameters := by
  induction parameters with
  | nil => cases has
  | cons first rest hypothesis =>
    rw [valueOf] at has
    unfold setParam
    split
    next here =>
      rw [if_pos here] at has
      rw [← Option.some.inj has]
    next elsewhere =>
      rw [if_neg elsewhere] at has
      rw [hypothesis has]

end SetParam

section SetParams

variable {parameters wanted : List Parameter}

theorem mem_setParams {parameter : Parameter}
    (member : parameter ∈ wanted.foldl setParam parameters) :
    parameter ∈ parameters ∨ parameter ∈ wanted := by
  induction wanted generalizing parameters with
  | nil => exact .inl member
  | cons first rest hypothesis =>
    rcases hypothesis member with before | among
    · rcases mem_setParam before with old | rfl
      · exact .inl old
      · exact .inr List.mem_cons_self
    · exact .inr (List.mem_cons_of_mem _ among)

/-- The old values are overridden by the wanted ones. -/
theorem valueOf_setParams (distinct : (wanted.map Prod.fst).Nodup) (name : List Char) :
    valueOf name (wanted.foldl setParam parameters) =
      (valueOf name wanted).or (valueOf name parameters) := by
  induction wanted generalizing parameters with
  | nil => rfl
  | cons first rest hypothesis =>
    rw [List.map_cons, List.nodup_cons] at distinct
    rw [List.foldl_cons, hypothesis distinct.2, valueOf_setParam, valueOf]
    by_cases same : first.1 = name
    · have absent : valueOf name rest = none := valueOf_eq_none.mpr (same ▸ distinct.1)
      rw [if_pos same, if_pos same, absent]
      rfl
    · rw [if_neg same, if_neg same]

/-- The old names come first, in their order. -/
theorem names_setParams :
    parameters.map Prod.fst <+: (wanted.foldl setParam parameters).map Prod.fst := by
  induction wanted generalizing parameters with
  | nil => exact List.prefix_rfl
  | cons first rest hypothesis =>
    refine List.IsPrefix.trans ?_ hypothesis
    rw [names_setParam]
    exact List.prefix_append _ _

theorem nodup_setParams (distinct : (parameters.map Prod.fst).Nodup) :
    ((wanted.foldl setParam parameters).map Prod.fst).Nodup := by
  induction wanted generalizing parameters with
  | nil => exact distinct
  | cons first rest hypothesis =>
    refine hypothesis ?_
    rw [names_setParam]
    split
    next => rwa [List.append_nil]
    next fresh =>
      refine List.nodup_append.mpr ⟨distinct, by simp, ?_⟩
      intro name member other same equal
      exact fresh (List.mem_singleton.mp same ▸ equal ▸ member)

theorem setParams_ne_nil (distinct : (wanted.map Prod.fst).Nodup) (some : wanted ≠ []) :
    wanted.foldl setParam parameters ≠ [] := by
  obtain ⟨first, rest, rfl⟩ := List.exists_cons_of_ne_nil some
  intro empty
  have value : valueOf first.1 ((first :: rest).foldl setParam parameters) = _ :=
    valueOf_setParams distinct first.1
  rw [empty, valueOf_of_mem distinct List.mem_cons_self] at value
  cases value

/-- Parameters that have their values are left as they are. -/
theorem setParams_of_values (has : ∀ entry ∈ wanted, valueOf entry.1 parameters = some entry.2) :
    wanted.foldl setParam parameters = parameters := by
  induction wanted with
  | nil => rfl
  | cons first rest hypothesis =>
    obtain ⟨here, others⟩ := List.forall_mem_cons.mp has
    rw [List.foldl_cons, setParam_of_valueOf here, hypothesis others]

/-- Setting the same parameters again changes nothing. -/
theorem setParams_again (distinct : (wanted.map Prod.fst).Nodup) :
    wanted.foldl setParam (wanted.foldl setParam parameters) =
      wanted.foldl setParam parameters := by
  refine setParams_of_values fun entry member => ?_
  rw [valueOf_setParams distinct, valueOf_of_mem distinct member]
  rfl

end SetParams

/-! ### Reading a parameter list back -/

/-- A name that is non-empty and free of whitespace. -/
def Named (parameter : Parameter) : Prop :=
  parameter.1 ≠ [] ∧ ∀ character ∈ parameter.1, isWhitespace character = false

instance (parameter : Parameter) : Decidable (Named parameter) :=
  inferInstanceAs (Decidable (_ ∧ _))

/-- A parameter as it is cut out of a list: without separators, and trimmed. -/
structure Separated (parameter : Parameter) : Prop where
  name : '=' ∉ parameter.1 ∧ ';' ∉ parameter.1
  value : ';' ∉ parameter.2
  starts : ∀ character, parameter.1.head? = some character → isWhitespace character = false
  ends : ∀ character, parameter.2.getLast? = some character → isWhitespace character = false

/-- A parameter that is read back as it was written. -/
structure Clean (parameter : Parameter) : Prop extends Separated parameter where
  named : Named parameter

theorem renderParam_of_value (valued : parameter.2 ≠ []) :
    renderParam parameter = parameter.1 ++ '=' :: parameter.2 :=
  if_neg (by simpa using valued)

theorem renderParam_of_none (bare : parameter.2 = []) : renderParam parameter = parameter.1 := by
  rw [renderParam, bare]
  rfl

/-- With a value a parameter is read back, whatever its name is. -/
theorem parseParam_of_value (separated : Separated parameter) (valued : parameter.2 ≠ []) :
    parseParam (renderParam parameter) = some parameter := by
  have head : ∀ character, (parameter.1 ++ '=' :: parameter.2).head? = some character →
      isWhitespace character = false := by
    intro character first
    cases name : parameter.1 with
    | nil =>
      rw [name, List.nil_append, List.head?_cons] at first
      rw [← Option.some.inj first]
      decide
    | cons start others =>
      refine separated.starts character ?_
      rw [name] at first ⊢
      exact first
  have last : ∀ character, (parameter.1 ++ '=' :: parameter.2).getLast? = some character →
      isWhitespace character = false := by
    intro character found
    refine separated.ends character ?_
    rw [List.getLast?_append, List.getLast?_cons] at found
    rw [List.getLast?_eq_some_getLast valued] at found ⊢
    simpa using found
  have trimmed : trim (parameter.1 ++ '=' :: parameter.2) = parameter.1 ++ '=' :: parameter.2 :=
    trimMatches_eq_self head last
  rw [renderParam_of_value valued, parseParam]
  simp only [trimmed]
  rw [splitOnce_append separated.name.1]
  simp

/-- Without a value nothing is read that has one. -/
theorem parseParam_of_none {read : Parameter} (separated : Separated parameter)
    (bare : parameter.2 = []) (parsed : parseParam (renderParam parameter) = some read) :
    read.2 = [] := by
  have none : splitOnce '=' (trim parameter.1) = none := splitOnce_eq_none.mpr fun member =>
    separated.name.1 ((trimMatches_sublist parameter.1).subset member)
  rw [renderParam_of_none bare, parseParam] at parsed
  simp only [none, Option.getD_none] at parsed
  split at parsed
  · cases parsed
  · rw [← Option.some.inj parsed]

theorem parseParam_renderParam (clean : Clean parameter) :
    parseParam (renderParam parameter) = some parameter := by
  by_cases bare : parameter.2 = []
  · have trimmed : trim parameter.1 = parameter.1 := trimMatches_eq_self clean.starts
      fun character last => clean.named.2 character (List.mem_of_getLast? last)
    have none : splitOnce '=' parameter.1 = none := splitOnce_eq_none.mpr clean.name.1
    rw [renderParam_of_none bare, parseParam]
    simp only [trimmed]
    rw [if_neg (by simpa using clean.named.1), none, Option.getD_none, ← bare]
  · exact parseParam_of_value clean.toSeparated bare

/-- A rendered parameter does not end with whitespace. -/
theorem getLast?_renderParam (clean : Clean parameter) :
    ∀ character, (renderParam parameter).getLast? = some character →
      isWhitespace character = false := by
  intro character last
  by_cases bare : parameter.2 = []
  · rw [renderParam_of_none bare] at last
    exact clean.named.2 character (List.mem_of_getLast? last)
  · refine clean.ends character ?_
    rw [renderParam_of_value bare, List.getLast?_append, List.getLast?_cons] at last
    rw [List.getLast?_eq_some_getLast bare] at last ⊢
    simpa using last

/-- The parts of a rendered list are the rendered parameters. -/
theorem parseParams_render (some : parameters ≠ [])
    (separated : ∀ parameter ∈ parameters, Separated parameter) :
    parseParams (join ';' (parameters.map renderParam)) =
      parameters.filterMap (parseParam ∘ renderParam) := by
  have fresh : ∀ part ∈ parameters.map renderParam, ';' ∉ part := by
    intro part member
    obtain ⟨parameter, among, rfl⟩ := List.mem_map.mp member
    have kept := separated parameter among
    unfold renderParam
    split
    · exact kept.name.2
    · simp [kept.name.2, kept.value]
  have nonempty : parameters.map renderParam ≠ [] := by simpa using some
  rw [parseParams, splitOn_join nonempty fresh, List.filterMap_map]

theorem parseParams_join (some : parameters ≠ [])
    (clean : ∀ parameter ∈ parameters, Clean parameter) :
    parseParams (join ';' (parameters.map renderParam)) = parameters := by
  rw [parseParams_render some fun parameter member => (clean parameter member).toSeparated]
  have each : ∀ parameter ∈ parameters,
      (parseParam ∘ renderParam) parameter = Option.some parameter :=
    fun parameter member => parseParam_renderParam (clean parameter member)
  rw [List.filterMap_congr each, List.filterMap_some]

/-- What is read from a text has only its characters, and no separators. -/
theorem separated_of_mem_parseParams {existing : List Char}
    (member : parameter ∈ parseParams existing) :
    Separated parameter ∧ parameter.1 ⊆ existing ∧ parameter.2 ⊆ existing := by
  obtain ⟨part, among, parsed⟩ := List.mem_filterMap.mp member
  obtain ⟨fresh, inside⟩ := of_mem_splitOn part among
  have trimmed : (trim part).Sublist part := trimMatches_sublist part
  unfold parseParam at parsed
  simp only at parsed
  split at parsed
  · cases parsed
  · have whole := Option.some.inj parsed
    cases found : splitOnce '=' (trim part) with
    | none =>
      rw [found, Option.getD_none] at whole
      subst whole
      refine ⟨?_, fun _ member => inside (trimmed.subset member), by simp⟩
      exact {
        name := ⟨splitOnce_eq_none.mp found, fun member => fresh (trimmed.subset member)⟩
        value := by simp
        starts := fun _ => head?_trimMatches
        ends := by simp }
    | some parts =>
      rw [found, Option.getD_some] at whole
      subst whole
      obtain ⟨split, absent⟩ := splitOnce_eq_some found
      have name : parts.1 ⊆ trim part := by
        rw [split]
        exact List.subset_append_left _ _
      have value : parts.2 ⊆ trim part := by
        rw [split]
        exact fun _ member => List.mem_append_right _ (List.mem_cons_of_mem _ member)
      refine ⟨?_, fun _ member => inside (trimmed.subset (name member)),
        fun _ member => inside (trimmed.subset (value member))⟩
      refine {
        name := ⟨absent, fun member => fresh (trimmed.subset (name member))⟩
        value := fun member => fresh (trimmed.subset (value member))
        starts := fun character head => ?_
        ends := fun character last => ?_ }
      · have first : (trim part).head? = some character := by
          rw [split, List.head?_append, head]
          rfl
        exact head?_trimMatches first
      · have final : (trim part).getLast? = some character := by
          rw [split, List.getLast?_append, List.getLast?_cons, last]
          rfl
        exact getLast?_trimMatches final

/-! ### The wanted parameters -/

theorem isDigit_of_mem_toString {number : Nat} {character : Char}
    (member : character ∈ (toString number).toList) : character.isDigit = true := by
  rw [Nat.toString_eq_ofList_toDigits, String.toList_ofList] at member
  exact Nat.isDigit_of_mem_toDigits (by decide) (by decide) member

theorem not_isWhitespace_of_isDigit {character : Char} (digit : character.isDigit = true) :
    isWhitespace character = false := by
  simp only [Char.isDigit, ge_iff_le, Bool.and_eq_true, decide_eq_true_eq,
    UInt32.le_iff_toNat_le] at digit
  simp only [isWhitespace, Bool.or_eq_false_iff, Bool.and_eq_false_iff, decide_eq_false_iff_not,
    beq_eq_false_iff_ne]
  have range : '0'.val.toNat = 48 ∧ '9'.val.toNat = 57 := ⟨rfl, rfl⟩
  have code : character.toNat = character.val.toNat := rfl
  omega

theorem wantedParams_names (stereo : Bool) (bits : Nat) :
    (wantedParams stereo bits).map Prod.fst =
      ["minptime".toList, "useinbandfec".toList, "sprop-stereo".toList, "stereo".toList,
        "maxaveragebitrate".toList] := rfl

theorem wantedParams_distinct (stereo : Bool) (bits : Nat) :
    ((wantedParams stereo bits).map Prod.fst).Nodup := by
  rw [wantedParams_names]
  decide

/-- A wanted parameter is read back, has a value, and does not break a line. -/
structure Sendable (parameter : Parameter) : Prop extends Clean parameter where
  valued : parameter.2 ≠ []
  unbroken : '\n' ∉ parameter.1 ∧ '\n' ∉ parameter.2

theorem sendable_of_digits {name value : List Char}
    (named : Named (name, value) ∧ '=' ∉ name ∧ ';' ∉ name ∧ '\n' ∉ name) (some : value ≠ [])
    (digits : ∀ character ∈ value, character.isDigit = true) : Sendable (name, value) where
  named := named.1
  name := ⟨named.2.1, named.2.2.1⟩
  value member := absurd (digits _ member) (by decide)
  starts character head := named.1.2 character (List.mem_of_head? head)
  ends character last := not_isWhitespace_of_isDigit (digits _ (List.mem_of_getLast? last))
  valued := some
  unbroken := ⟨named.2.2.2, fun member => absurd (digits _ member) (by decide)⟩

theorem sendable_of_mem_wantedParams {stereo : Bool} {bits : Nat}
    (member : parameter ∈ wantedParams stereo bits) : Sendable parameter := by
  have flag : (if stereo then ['1'] else ['0']) ≠ [] ∧
      ∀ character ∈ (if stereo then ['1'] else ['0']), character.isDigit = true := by
    cases stereo <;> decide
  have number : (toString bits).toList ≠ [] := by
    rw [Nat.toString_eq_ofList_toDigits, String.toList_ofList]
    exact Nat.toDigits_ne_nil
  simp only [wantedParams, List.mem_cons, List.not_mem_nil, or_false] at member
  rcases member with rfl | rfl | rfl | rfl | rfl
  · exact sendable_of_digits (by decide) (by decide) (by decide)
  · exact sendable_of_digits (by decide) (by decide) (by decide)
  · exact sendable_of_digits (by cases stereo <;> decide) flag.1 flag.2
  · exact sendable_of_digits (by cases stereo <;> decide) flag.1 flag.2
  · have named : Named ("maxaveragebitrate".toList, []) := by decide
    refine sendable_of_digits ⟨⟨named.1, named.2⟩, by decide⟩ number fun character member => ?_
    exact isDigit_of_mem_toString member

/-! ### Merging -/

section Merge

variable {existing : List Char} {stereo : Bool} {bits : Nat}

/-- The merged parameters are read back. -/
theorem clean_of_mem_merged (stereo : Bool) (bits : Nat)
    (named : ∀ parameter ∈ parseParams existing, Named parameter) :
    ∀ parameter ∈ (wantedParams stereo bits).foldl setParam (parseParams existing),
      Clean parameter := by
  intro parameter member
  rcases mem_setParams member with old | wanted
  · exact ⟨(separated_of_mem_parseParams old).1, named parameter old⟩
  · exact (sendable_of_mem_wantedParams wanted).toClean

theorem merged_ne_nil (parameters : List Parameter) :
    (wantedParams stereo bits).foldl setParam parameters ≠ [] :=
  setParams_ne_nil (wantedParams_distinct stereo bits) (List.cons_ne_nil _ _)

theorem parseParams_mergeParams (named : ∀ parameter ∈ parseParams existing, Named parameter) :
    parseParams (mergeParams existing (wantedParams stereo bits)) =
      (wantedParams stereo bits).foldl setParam (parseParams existing) :=
  parseParams_join (merged_ne_nil _) (clean_of_mem_merged stereo bits named)

theorem mergeParams_again (named : ∀ parameter ∈ parseParams existing, Named parameter) :
    mergeParams (mergeParams existing (wantedParams stereo bits)) (wantedParams stereo bits) =
      mergeParams existing (wantedParams stereo bits) := by
  rw [mergeParams, parseParams_mergeParams named, setParams_again (wantedParams_distinct _ _)]
  rfl

/-- A joined list of rendered parameters does not end with whitespace. -/
theorem getLast?_join_renderParam {parameters : List Parameter} (some : parameters ≠ [])
    (clean : ∀ parameter ∈ parameters, Clean parameter) :
    ∃ character, (join ';' (parameters.map renderParam)).getLast? = Option.some character ∧
      isWhitespace character = false := by
  have last := clean _ (List.getLast_mem some)
  have nonempty : renderParam (parameters.getLast some) ≠ [] := by
    unfold renderParam
    split
    · exact last.named.1
    · simp
  have ends : (parameters.map renderParam).getLast? =
      Option.some (renderParam (parameters.getLast some)) := by
    rw [List.getLast?_map, List.getLast?_eq_some_getLast some]
    rfl
  rw [getLast?_join ends nonempty]
  exact ⟨_, List.getLast?_eq_some_getLast nonempty,
    getLast?_renderParam last _ (List.getLast?_eq_some_getLast nonempty)⟩

theorem unbroken_of_renderParam {parameter : Parameter}
    (unbroken : '\n' ∉ parameter.1 ∧ '\n' ∉ parameter.2) : '\n' ∉ renderParam parameter := by
  unfold renderParam
  split
  · exact unbroken.1
  · simp [unbroken.1, unbroken.2]

theorem unbroken_of_mergeParams (stereo : Bool) (bits : Nat) (unbroken : '\n' ∉ existing) :
    '\n' ∉ mergeParams existing (wantedParams stereo bits) := by
  intro member
  rcases mem_join member with same | ⟨part, among, inside⟩
  · cases same
  · obtain ⟨parameter, merged, rfl⟩ := List.mem_map.mp among
    refine unbroken_of_renderParam ?_ inside
    rcases mem_setParams merged with old | wanted
    · obtain ⟨-, name, value⟩ := separated_of_mem_parseParams old
      exact ⟨fun member => unbroken (name member), fun member => unbroken (value member)⟩
    · exact (sendable_of_mem_wantedParams wanted).unbroken

/-- What is inserted is what is rendered: every wanted parameter has a value. -/
theorem map_renderParam_wantedParams :
    (wantedParams stereo bits).map (fun entry => entry.1 ++ '=' :: entry.2) =
      (wantedParams stereo bits).map renderParam := by
  refine List.map_congr_left fun parameter member => ?_
  have valued := (sendable_of_mem_wantedParams member).valued
  rw [renderParam, if_neg (by simpa using valued)]

end Merge

end Sdp

end RelayConnector
