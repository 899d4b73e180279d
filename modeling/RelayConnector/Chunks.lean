/-
This file cuts a stream into chunks of one size. Cutting is unique: whatever
produced full chunks and a shorter rest whose concatenation is the stream has
produced the stream's own chunks. A component that assembles packets is therefore
determined by the stream, however the stream reached it.
-/

import Mathlib.Tactic.Ring

namespace Chunks

variable {Item : Type}

/-- The full chunks of a stream, in order. -/
def chunks (size : Nat) (stream : List Item) : List (List Item) :=
  (List.range (stream.length / size)).map fun index => (stream.drop (index * size)).take size

/-- What is left after the full chunks. -/
def remainder (size : Nat) (stream : List Item) : List Item :=
  stream.drop (stream.length / size * size)

theorem length_flatten_of_forall {size : Nat} {packets : List (List Item)}
    (full : ∀ packet ∈ packets, packet.length = size) :
    packets.flatten.length = packets.length * size := by
  induction packets with
  | nil => simp
  | cons packet rest hypothesis =>
    rw [List.flatten_cons, List.length_append, List.length_cons,
      full packet List.mem_cons_self,
      hypothesis fun other member => full other (List.mem_cons_of_mem _ member)]
    ring

/-- A full chunk sits in the concatenation at its own index times the size. -/
theorem drop_take_flatten {size : Nat} {packets : List (List Item)}
    (full : ∀ packet ∈ packets, packet.length = size) (rest : List Item) (index : Nat)
    (bound : index < packets.length) :
    ((packets.flatten ++ rest).drop (index * size)).take size = packets[index] := by
  induction packets generalizing index with
  | nil => simp at bound
  | cons packet others hypothesis =>
    have head : packet.length = size := full packet List.mem_cons_self
    cases index with
    | zero => simp [← head]
    | succ index =>
      have tail := hypothesis
        (fun other member => full other (List.mem_cons_of_mem _ member)) index
        (by simpa using bound)
      have skip : (index + 1) * size = packet.length + index * size := by rw [head]; ring
      rw [List.flatten_cons, List.append_assoc, skip, ← List.drop_drop, List.drop_left]
      exact tail

/-- Full chunks with a shorter rest are the chunks of their concatenation. -/
theorem chunks_unique {size : Nat} {packets : List (List Item)} {rest stream : List Item}
    (full : ∀ packet ∈ packets, packet.length = size) (short : rest.length < size)
    (whole : packets.flatten ++ rest = stream) :
    packets = chunks size stream ∧ rest = remainder size stream := by
  have flat := length_flatten_of_forall full
  have count : stream.length / size = packets.length := by
    rw [← whole, List.length_append, flat, Nat.add_comm, Nat.add_mul_div_right _ _ (by omega),
      Nat.div_eq_of_lt short, Nat.zero_add]
  constructor
  · refine List.ext_getElem ?_ fun index left _ => ?_
    · simp [chunks, count]
    · rw [← drop_take_flatten full rest index left, whole]
      simp [chunks]
  · rw [remainder, count, ← flat, ← whole, List.drop_left]

end Chunks
