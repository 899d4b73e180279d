/-
This file is about programs that read a buffer byte by byte and stop when an index is past its
end, as indexing does in a language with checked bounds. A reading keeps the indices that were
asked for, so that it can be said which part of the buffer a result depends on.
-/

import Mathlib.Data.List.Basic

namespace Access

/-- The indices that were read, in order, and what came of it: no value if the last index was past
the end of the buffer. -/
structure Reading (Value : Type) where
  reads : List Nat
  value : Option Value
  deriving DecidableEq, Repr

namespace Reading

variable {Value Result : Type}

/-- A reading after another. -/
def andThen (reading : Reading Value) (next : Value → Reading Result) : Reading Result :=
  match reading.value with
  | none => { reads := reading.reads, value := none }
  | some value => { reads := reading.reads ++ (next value).reads, value := (next value).value }

instance : Monad Reading where
  pure value := { reads := [], value := some value }
  bind := andThen

@[simp] theorem pure_reads (value : Value) : (pure value : Reading Value).reads = [] := rfl

@[simp] theorem pure_value (value : Value) : (pure value : Reading Value).value = some value := rfl

theorem bind_of_some {reading : Reading Value} {value : Value} (got : reading.value = some value)
    (next : Value → Reading Result) :
    reading >>= next =
      { reads := reading.reads ++ (next value).reads, value := (next value).value } := by
  show reading.andThen next = _
  rw [andThen, got]

theorem bind_of_none {reading : Reading Value} (stopped : reading.value = none)
    (next : Value → Reading Result) :
    reading >>= next = { reads := reading.reads, value := none } := by
  show reading.andThen next = _
  rw [andThen, stopped]

/-- What a reading has read when another follows it. -/
theorem reads_subset_bind (reading : Reading Value) (next : Value → Reading Result) :
    reading.reads ⊆ (reading >>= next).reads := by
  cases got : reading.value with
  | none => simp [bind_of_none got]
  | some value => simp [bind_of_some got]

end Reading

/-! ### Bytes and big-endian words -/

def byteAt (buffer : List UInt8) (index : Nat) : Reading UInt8 where
  reads := [index]
  value := buffer[index]?

/-- A big-endian word of two bytes. -/
def wordAt (buffer : List UInt8) (index : Nat) : Reading Nat := do
  let high ← byteAt buffer index
  let low ← byteAt buffer (index + 1)
  pure (high.toNat * 256 + low.toNat)

/-- A slice of so many bytes. -/
def sliceAt (buffer : List UInt8) (index count : Nat) : Reading (List UInt8) where
  reads := List.range' index count
  value := if index + count ≤ buffer.length then some ((buffer.drop index).take count) else none

/-- The byte at an index, and zero past the end. -/
def byteOf (buffer : List UInt8) (index : Nat) : UInt8 := buffer[index]?.getD 0

/-- The word at an index, and zeros past the end. -/
def wordOf (buffer : List UInt8) (index : Nat) : Nat :=
  (byteOf buffer index).toNat * 256 + (byteOf buffer (index + 1)).toNat

variable {buffer : List UInt8} {index : Nat}

theorem byteAt_value (inside : index < buffer.length) :
    (byteAt buffer index).value = some (byteOf buffer index) := by
  simp [byteAt, byteOf, inside]

theorem byteAt_bind {Result : Type} (inside : index < buffer.length)
    (next : UInt8 → Reading Result) :
    byteAt buffer index >>= next =
      { reads := index :: (next (byteOf buffer index)).reads
        value := (next (byteOf buffer index)).value } :=
  Reading.bind_of_some (byteAt_value inside) next

theorem wordAt_bind {Result : Type} (inside : index + 1 < buffer.length)
    (next : Nat → Reading Result) :
    wordAt buffer index >>= next =
      { reads := index :: (index + 1) :: (next (wordOf buffer index)).reads
        value := (next (wordOf buffer index)).value } := by
  have read : wordAt buffer index =
      { reads := [index, index + 1], value := some (wordOf buffer index) } := by
    rw [wordAt, byteAt_bind (Nat.lt_of_succ_lt inside), byteAt_bind inside]
    rfl
  rw [read]
  rfl

end Access
