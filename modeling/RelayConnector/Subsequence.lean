/-
This file is about lists whose items are numbered in order and about what is left of
such a list when items are dropped.

The numbers of what is kept increase strictly, and of two items that follow each other
the numbers tell how many items were dropped between them.
-/

import Mathlib.Data.Finset.Card
import Mathlib.Data.List.Range
import Mathlib.Order.Interval.Finset.Nat

namespace Subsequence

variable {Item : Type} {number : Item → Nat} {all kept : List Item}

/-- The items are numbered 0, 1, 2, … in their order. -/
def Enumerated (number : Item → Nat) (all : List Item) : Prop :=
  all.map number = List.range all.length

namespace Enumerated

theorem nil : Enumerated number [] := rfl

section Enumerated

variable (enumerated : Enumerated number all)

include enumerated

theorem append_singleton {item : Item}
    (next : number item = all.length) : Enumerated number (all ++ [item]) := by
  rw [Enumerated, List.map_append, List.length_append, enumerated, List.map_singleton, next,
    List.length_singleton, List.range_succ]

theorem getElem_number {index : Nat} {item : Item}
    (at_index : all[index]? = some item) : number item = index := by
  have mapped : (all.map number)[index]? = some (number item) := by
    rw [List.getElem?_map, at_index, Option.map_some]
  rw [enumerated] at mapped
  obtain ⟨_, same⟩ := List.getElem?_eq_some_iff.mp mapped
  rw [List.getElem_range] at same
  exact same.symm

/-- An item stands at its number. -/
theorem getElem_of_mem {item : Item} (member : item ∈ all) : all[number item]? = some item := by
  obtain ⟨index, at_index⟩ := List.getElem?_of_mem member
  rw [enumerated.getElem_number at_index]
  exact at_index

theorem number_lt {item : Item} (member : item ∈ all) : number item < all.length :=
  (List.getElem?_eq_some_iff.mp (enumerated.getElem_of_mem member)).1

/-- With an item, a front part holds every item of a smaller number. -/
theorem mem_take {item other : Item} {count : Nat}
    (member : item ∈ all.take count) (known : other ∈ all) (le : number other ≤ number item) :
    other ∈ all.take count := by
  obtain ⟨index, at_index⟩ := List.getElem?_of_mem member
  rw [List.getElem?_take] at at_index
  split at at_index
  next inside =>
    rw [enumerated.getElem_number at_index] at le
    refine List.mem_of_getElem? (i := number other) ?_
    rw [List.getElem?_take_of_lt (Nat.lt_of_le_of_lt le inside)]
    exact enumerated.getElem_of_mem known
  next => cases at_index

/-- What is kept is in strictly increasing order. -/
theorem increasing (sublist : kept.Sublist all) : (kept.map number).Pairwise (· < ·) := by
  refine List.Pairwise.sublist (sublist.map number) ?_
  rw [enumerated]
  exact List.pairwise_lt_range

/-- So many items are numbered between two numbers. -/
theorem length_between {low high : Nat} (inside : high < all.length) :
    (all.filter fun item => decide (low < number item ∧ number item < high)).length =
      high - low - 1 := by
  calc (all.filter fun item => decide (low < number item ∧ number item < high)).length
      = ((all.map number).filter fun index => decide (low < index ∧ index < high)).length := by
        rw [List.filter_map, List.length_map]
        rfl
    _ = ((List.range all.length).filter fun index =>
          decide (low < index ∧ index < high)).toFinset.card := by
        rw [enumerated, List.toFinset_card_of_nodup (List.nodup_range.filter _)]
    _ = (Finset.Ioo low high).card := by
        congr 1
        ext index
        simp only [List.mem_toFinset, List.mem_filter, List.mem_range, Finset.mem_Ioo,
          decide_eq_true_eq]
        constructor
        · exact fun ⟨_, between⟩ => between
        · exact fun between => ⟨between.2.trans inside, between⟩
    _ = high - low - 1 := Nat.card_Ioo low high

end Enumerated

end Enumerated

/-- There are at most as many increasing numbers as there are numbers. -/
theorem length_le_of_increasing {numbers : List Nat} {limit : Nat}
    (increasing : numbers.Pairwise (· < ·)) (bounded : ∀ index ∈ numbers, index < limit) :
    numbers.length ≤ limit := by
  have distinct : numbers.Nodup := increasing.imp Nat.ne_of_lt
  have inside : numbers.toFinset ⊆ Finset.range limit := by
    intro index member
    exact Finset.mem_range.mpr (bounded index (List.mem_toFinset.mp member))
  have counted := Finset.card_le_card inside
  rwa [List.toFinset_card_of_nodup distinct, Finset.card_range] at counted

/-- The items numbered between two others that are not kept. -/
def omitted [DecidableEq Item] (number : Item → Nat) (all kept : List Item)
    (first second : Item) : List Item :=
  all.filter fun item => number first < number item ∧ number item < number second ∧ item ∉ kept

theorem mem_omitted [DecidableEq Item] {first second item : Item} :
    item ∈ omitted number all kept first second ↔
      item ∈ all ∧ number first < number item ∧ number item < number second ∧ item ∉ kept := by
  simp [omitted]

/-- Nothing kept is numbered between two items that follow each other. -/
theorem not_between {before after : List Item} {first second item : Item}
    (increasing : ((before ++ first :: second :: after).map number).Pairwise (· < ·))
    (member : item ∈ before ++ first :: second :: after) (above : number first < number item) :
    number second ≤ number item := by
  rw [List.pairwise_map, List.pairwise_append] at increasing
  obtain ⟨_, tail, across⟩ := increasing
  obtain ⟨ahead, rest⟩ := List.pairwise_cons.mp tail
  obtain ⟨further, _⟩ := List.pairwise_cons.mp rest
  rcases List.mem_append.mp member with early | late
  · exact absurd (across item early first List.mem_cons_self) (Nat.lt_asymm above)
  · rcases List.mem_cons.mp late with rfl | late
    · exact absurd above (Nat.lt_irrefl _)
    · rcases List.mem_cons.mp late with rfl | late
      · exact Nat.le_refl _
      · exact Nat.le_of_lt (further item late)

/-- The gap between the numbers of two kept items that follow each other counts what was dropped
between them. -/
theorem Enumerated.gap_eq_omitted [DecidableEq Item] (enumerated : Enumerated number all)
    (sublist : kept.Sublist all) {before after : List Item} {first second : Item}
    (follows : kept = before ++ first :: second :: after) :
    number second - number first - 1 = (omitted number all kept first second).length := by
  have member : second ∈ kept := by
    rw [follows]
    simp
  rw [← enumerated.length_between (enumerated.number_lt (sublist.subset member)), omitted]
  congr 1
  refine List.filter_congr fun item _ => ?_
  have increasing := enumerated.increasing sublist
  rw [follows] at increasing
  have notKept : number first < number item → number item < number second → item ∉ kept := by
    intro above below kept
    rw [follows] at kept
    exact absurd (not_between increasing kept above) (Nat.not_le.mpr below)
  rw [decide_eq_decide]
  constructor
  · exact fun ⟨above, below⟩ => ⟨above, below, notKept above below⟩
  · exact fun ⟨above, below, _⟩ => ⟨above, below⟩

end Subsequence
