/-
This file is about logs that are kept newest entry first: what it means that every entry
passed a check when it was made, and how such a property is read off a log in which an
entry has been found.
-/

import Mathlib.Data.List.Basic

namespace Audit

variable {Entry : Type}

/-- Every entry passes a check that may look at the entries made before it. -/
def Audited (check : Entry → List Entry → Prop) : List Entry → Prop
  | [] => True
  | entry :: earlier => check entry earlier ∧ Audited check earlier

variable {check : Entry → List Entry → Prop} {log : List Entry}

theorem Audited.at_split {later earlier : List Entry} {entry : Entry} (audited : Audited check log)
    (split : log = later ++ entry :: earlier) : check entry earlier := by
  subst split
  induction later with
  | nil => exact audited.1
  | cons _ _ hypothesis => exact hypothesis audited.2

theorem Audited.of_forall (passes : ∀ entry ∈ log, ∀ earlier, check entry earlier) :
    Audited check log := by
  induction log with
  | nil => trivial
  | cons entry earlier hypothesis =>
    exact ⟨passes entry (List.mem_cons_self ..) earlier,
      hypothesis fun other member => passes other (List.mem_cons_of_mem _ member)⟩

theorem Audited.append {new : List Entry} (audited : Audited check log)
    (passes : ∀ entry ∈ new, ∀ earlier, check entry earlier) : Audited check (new ++ log) := by
  induction new with
  | nil => exact audited
  | cons entry rest hypothesis =>
    exact ⟨passes entry (List.mem_cons_self ..) _,
      hypothesis fun other member => passes other (List.mem_cons_of_mem _ member)⟩

theorem Audited.of_append {new : List Entry} (audited : Audited check (new ++ log)) :
    Audited check log := by
  induction new with
  | nil => exact audited
  | cons _ _ hypothesis => exact hypothesis audited.2

/-! ### What precedes a mark -/

/-- Whatever precedes an occurrence of `mark` has the property. -/
def Before (mark : Entry) (property : List Entry → Prop) (log : List Entry) : Prop :=
  ∀ later earlier, log = later ++ mark :: earlier → property earlier

namespace Before

variable {mark : Entry} {property : List Entry → Prop} {new log : List Entry}

theorem of_notMem (absent : mark ∉ log) : Before mark property log := by
  rintro later earlier rfl
  exact absurd (List.mem_append_right _ (List.mem_cons_self ..)) absent

/-- Other entries leave the occurrences of a mark where they are. -/
theorem append (before : Before mark property log) (absent : mark ∉ new) :
    Before mark property (new ++ log) := by
  induction new with
  | nil => exact before
  | cons entry rest hypothesis =>
    have rest := hypothesis fun member => absent (List.mem_cons_of_mem _ member)
    intro later earlier split
    cases later with
    | nil =>
      obtain ⟨rfl, -⟩ := List.cons.inj split
      exact absurd (List.mem_cons_self ..) absent
    | cons first others => exact rest others earlier (List.cons.inj split).2

theorem imp {weaker : List Entry → Prop} (before : Before mark property log)
    (implies : ∀ earlier, property earlier → weaker earlier) : Before mark weaker log :=
  fun later earlier split => implies earlier (before later earlier split)

end Before

/-! ### Since the latest mark -/

/-- What was entered since the latest entry with a mark. -/
def since (marked : Entry → Bool) (log : List Entry) : List Entry := log.takeWhile (!marked ·)

/-- What had been entered before the latest entry with a mark. -/
def upTo (marked : Entry → Bool) (log : List Entry) : List Entry :=
  (log.dropWhile (!marked ·)).tail

section Since

variable {marked : Entry → Bool} {entry : Entry} {new log : List Entry}

theorem since_cons_of_marked (mark : marked entry = true) : since marked (entry :: log) = [] := by
  simp [since, mark]

theorem since_append (unmarked : ∀ entry ∈ new, marked entry = false) :
    since marked (new ++ log) = new ++ since marked log := by
  induction new with
  | nil => rfl
  | cons entry rest hypothesis =>
    obtain ⟨first, unmarked⟩ := List.forall_mem_cons.mp unmarked
    rw [List.cons_append, List.cons_append, ← hypothesis unmarked]
    simp [since, first]

theorem upTo_append (unmarked : ∀ entry ∈ new, marked entry = false) :
    upTo marked (new ++ log) = upTo marked log := by
  induction new with
  | nil => rfl
  | cons entry rest hypothesis =>
    obtain ⟨first, unmarked⟩ := List.forall_mem_cons.mp unmarked
    rw [← hypothesis unmarked]
    simp [upTo, first]

theorem mem_of_mem_upTo (member : entry ∈ upTo marked log) : entry ∈ log :=
  (List.dropWhile_sublist _).mem (List.mem_of_mem_tail member)

end Since

/-! ### How much follows a mark -/

/-- After every occurrence of `mark` at most `allowance` counted entries were made. -/
def AtMostAfter (mark : Entry) (counted : Entry → Bool) (allowance : Nat) (log : List Entry) :
    Prop :=
  ∀ later earlier, log = later ++ mark :: earlier → later.countP counted ≤ allowance

namespace AtMostAfter

variable {mark entry : Entry} {counted : Entry → Bool} {allowance : Nat} {log : List Entry}

theorem of_notMem (absent : mark ∉ log) : AtMostAfter mark counted allowance log := by
  rintro later earlier rfl
  exact absurd (List.mem_append_right _ (List.mem_cons_self ..)) absent

section Bounded

variable (bounded : AtMostAfter mark counted allowance log)

include bounded

theorem mono {more : Nat} (le : allowance ≤ more) : AtMostAfter mark counted more log :=
  fun later earlier split => Nat.le_trans (bounded later earlier split) le

/-- A split of a longer log is a split of the log, or marks the new entry. -/
theorem of_cons {more : Nat} (grows : allowance + (if counted entry then 1 else 0) ≤ more) :
    AtMostAfter mark counted more (entry :: log) := by
  intro later earlier split
  cases later with
  | nil => exact Nat.zero_le _
  | cons first rest =>
    obtain ⟨rfl, below⟩ := List.cons.inj split
    rw [List.countP_cons]
    exact Nat.le_trans (Nat.add_le_add_right (bounded rest earlier below) _) grows

theorem of_cons_counted : AtMostAfter mark counted (allowance + 1) (entry :: log) :=
  bounded.of_cons (Nat.add_le_add_left (by split <;> simp) _)

theorem of_append {new : List Entry} (uncounted : ∀ entry ∈ new, counted entry = false) :
    AtMostAfter mark counted allowance (new ++ log) := by
  induction new with
  | nil => exact bounded
  | cons entry rest hypothesis =>
    refine of_cons (hypothesis fun other member =>
      uncounted other (List.mem_cons_of_mem _ member)) ?_
    simp [uncounted entry (List.mem_cons_self ..)]

end Bounded

end AtMostAfter

end Audit
