/-
This file collects operations on texts: trimming, numbers, and the parts between
separators. A text is a list of characters here, so that the operations are recursions
on it.
-/

import Mathlib.Data.List.DropRight
import Mathlib.Data.List.Defs

namespace Text

/-- A property of the characters of a text is decided along the text. Characters have a search of
their own, through all of them, which must not be used for this. -/
instance (priority := high) decidableForallMem {property : Char → Prop} [DecidablePred property]
    (text : List Char) : Decidable (∀ character ∈ text, property character) :=
  List.decidableBAll property text

/-! ### Trimming -/

/-- Remove the characters with a property from both ends. -/
def trimMatches (matching : Char → Bool) (text : List Char) : List Char :=
  (text.dropWhile matching).rdropWhile matching

/-! ### Numbers -/

/-- An unsigned number may have a plus sign. -/
def withoutSign : List Char → List Char
  | '+' :: digits => digits
  | digits => digits

/-- Parse an unsigned number below a bound: decimal digits after at most one plus sign. -/
def parseUnsigned (bound : Nat) (text : List Char) : Option Nat :=
  let digits := withoutSign text
  if digits.isEmpty || digits.any (!·.isDigit) then none
  else if Nat.ofDigitChars 10 digits 0 < bound then some (Nat.ofDigitChars 10 digits 0)
  else none

/-- A number is parsed back from its decimal digits. -/
theorem parseUnsigned_toString {bound value : Nat} (fits : value < bound) :
    parseUnsigned bound (toString value).toList = some value := by
  have digits : (toString value).toList = Nat.toDigits 10 value := by
    rw [Nat.toString_eq_ofList_toDigits, String.toList_ofList]
  have all : ∀ character ∈ Nat.toDigits 10 value, character.isDigit = true :=
    fun character => Nat.isDigit_of_mem_toDigits (by decide) (by decide)
  have unsigned : withoutSign (Nat.toDigits 10 value) = Nat.toDigits 10 value := by
    unfold withoutSign
    split
    next rest signed =>
      have plus := all '+' (by rw [signed]; exact List.mem_cons_self)
      exact absurd plus (by decide)
    next => rfl
  have several : (Nat.toDigits 10 value).any (!·.isDigit) = false := by
    rw [List.any_eq_false]
    intro character member
    rw [all character member]
    decide
  have some : (Nat.toDigits 10 value).isEmpty = false :=
    List.isEmpty_eq_false_iff.mpr Nat.toDigits_ne_nil
  simp only [parseUnsigned, digits, unsigned, several, some, Nat.ofDigitChars_ten_toDigits, fits,
    Bool.or_self, Bool.false_eq_true, if_false, if_true]

/-! ### Parts of a text -/

/-- The parts between the separators. -/
def splitOn (separator : Char) : List Char → List (List Char)
  | [] => [[]]
  | character :: rest =>
    if character = separator then [] :: splitOn separator rest
    else match splitOn separator rest with
      | part :: parts => (character :: part) :: parts
      | [] => [[character]]

/-- The non-empty parts between the characters with a property. -/
def words (separates : Char → Bool) : List Char → List (List Char)
  | [] => []
  | character :: rest =>
    if separates character then words separates rest
    else match rest, words separates rest with
      | [], _ => [[character]]
      | next :: _, parts =>
        if separates next then [character] :: parts
        else match parts with
          | part :: parts => (character :: part) :: parts
          | [] => [[character]]

/-- What stands before and after the last occurrence of a separator. -/
def splitAtLast (separator : List Char) (text : List Char) : Option (List Char × List Char) :=
  match text with
  | [] => if separator.isEmpty then some ([], []) else none
  | character :: rest =>
    match splitAtLast separator rest with
    | some (before, after) => some (character :: before, after)
    | none => (text.dropPrefix? separator).map fun after => ([], after)

/-- The ASCII letters in lower case. -/
def toAsciiLowercase (text : List Char) : List Char := text.map Char.toLower

end Text
