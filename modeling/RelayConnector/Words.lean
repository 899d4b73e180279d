/-
This file collects the 64-bit arithmetic and the big-endian byte fields that the
development uses. Machine words are natural numbers; an operation that saturates
or wraps says so. A field of `count` bytes keeps the number modulo `256 ^ count`,
so a reader of the field recovers the number exactly when it fits.
-/

import Mathlib.Tactic.Ring

namespace Words

/-- The largest 64-bit word. -/
def u64Max : Nat := 2 ^ 64 - 1

/-- Addition that stops at the largest word. -/
def saturatingAdd (left right : Nat) : Nat := min (left + right) u64Max

/-- Multiplication that stops at the largest word. -/
def saturatingMul (left right : Nat) : Nat := min (left * right) u64Max

/-- Addition modulo the word size. -/
def wrappingAdd (left right : Nat) : Nat := (left + right) % 2 ^ 64

theorem saturatingAdd_of_le {left right : Nat} (fits : left + right ≤ u64Max) :
    saturatingAdd left right = left + right := min_eq_left fits

theorem saturatingMul_of_le {left right : Nat} (fits : left * right ≤ u64Max) :
    saturatingMul left right = left * right := min_eq_left fits

theorem saturatingAdd_le (left right : Nat) : saturatingAdd left right ≤ left + right :=
  min_le_left _ _

/-- A saturating sum stays the sum of its terms, cut off at the largest word. -/
theorem saturatingAdd_min (total amount : Nat) :
    saturatingAdd (min total u64Max) amount = min (total + amount) u64Max := by
  unfold saturatingAdd
  omega

/-- A clock that has made `count` saturating steps. -/
theorem saturatingAdd_saturatingMul (step count : Nat) :
    saturatingAdd (saturatingMul step count) step = saturatingMul step (count + 1) := by
  rw [saturatingMul, saturatingMul, saturatingAdd_min, Nat.mul_succ]

/-! ### Big-endian fields -/

/-- The `count` big-endian bytes of a number; what does not fit is cut off. -/
def toBeBytes : Nat → Nat → List UInt8
  | 0, _ => []
  | count + 1, value => toBeBytes count (value / 256) ++ [UInt8.ofNat value]

/-- The number a big-endian field holds. -/
def ofBeBytes (bytes : List UInt8) : Nat :=
  bytes.foldl (fun value byte => value * 256 + byte.toNat) 0

@[simp] theorem length_toBeBytes (count value : Nat) : (toBeBytes count value).length = count := by
  induction count generalizing value with
  | zero => rfl
  | succ count hypothesis => simp [toBeBytes, hypothesis]

/-- Reading a field back gives the number modulo the field's size. -/
theorem ofBeBytes_toBeBytes (count value : Nat) :
    ofBeBytes (toBeBytes count value) = value % 256 ^ count := by
  induction count generalizing value with
  | zero => simp [toBeBytes, ofBeBytes, Nat.mod_one]
  | succ count hypothesis =>
    have front := hypothesis (value / 256)
    unfold ofBeBytes at front
    unfold ofBeBytes
    rw [toBeBytes, List.foldl_append, front]
    simp only [List.foldl_cons, List.foldl_nil, UInt8.toNat_ofNat', Nat.reducePow]
    rw [pow_succ', Nat.mod_mul]
    ring

theorem ofBeBytes_toBeBytes_of_lt {count value : Nat} (fits : value < 256 ^ count) :
    ofBeBytes (toBeBytes count value) = value := by
  rw [ofBeBytes_toBeBytes, Nat.mod_eq_of_lt fits]

end Words
