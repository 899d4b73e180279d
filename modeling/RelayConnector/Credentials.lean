/-
This file proves that the credentials of a proxy are decoded as they were encoded, for
`decode_userinfo` of `rtc/proxy.rs`.

An encoding keeps a byte or writes it as a percent sign and two hexadecimal digits. The loop of
the source takes one or three bytes in each round; so does an encoding, and the proofs go along
with it.
-/

import RelayConnector.Proxy

namespace RelayConnector

/-! ### Encodings -/

/-- The code of `%`. -/
abbrev percent : UInt8 := 37

/-- An encoding of bytes that escapes every `%`, and any other bytes. -/
inductive PercentEncodes : List UInt8 → List UInt8 → Prop where
  | nil : PercentEncodes [] []
  | kept {byte : UInt8} {raw bytes : List UInt8} (plain : byte ≠ percent)
      (rest : PercentEncodes raw bytes) : PercentEncodes (byte :: raw) (byte :: bytes)
  | escaped {byte high low : UInt8} {raw bytes : List UInt8}
      (first : hexDigit high = some (byte.toNat / 16))
      (second : hexDigit low = some (byte.toNat % 16)) (rest : PercentEncodes raw bytes) :
      PercentEncodes (percent :: high :: low :: raw) (byte :: bytes)

def startsHexPair : List UInt8 → Bool
  | high :: low :: _ => (hexDigit high).isSome && (hexDigit low).isSome
  | _ => false

/-- Some `%` is not followed by two hexadecimal digits. -/
def Malformed (raw : List UInt8) : Prop :=
  ∃ before after, raw = before ++ percent :: after ∧ startsHexPair after = false

/-! ### Hexadecimal digits -/

theorem hexDigit_lt {byte : UInt8} {value : Nat} (digit : hexDigit byte = some value) :
    value < 16 := by
  unfold hexDigit at digit
  simp only at digit
  split at digit
  · cases digit
    omega
  · split at digit
    · cases digit
      omega
    · split at digit
      · cases digit
        omega
      · cases digit

/-- Two digits are the halves of a byte. -/
theorem tryU8_hex {high low : UInt8} {first second : Nat} (upper : hexDigit high = some first)
    (lower : hexDigit low = some second) :
    ∃ byte : UInt8, tryU8 (first * 16 + second) = some byte ∧ byte.toNat / 16 = first ∧
      byte.toNat % 16 = second := by
  have small := hexDigit_lt upper
  have little := hexDigit_lt lower
  have fits : first * 16 + second < 256 := by omega
  have whole : (UInt8.ofNat (first * 16 + second)).toNat = first * 16 + second := by
    rw [UInt8.toNat_ofNat']
    exact Nat.mod_eq_of_lt fits
  refine ⟨UInt8.ofNat (first * 16 + second), if_pos fits, ?_, ?_⟩
  · rw [whole]
    omega
  · rw [whole]
    omega

/-! ### Decoding bytes -/

theorem percentDecode_kept {byte : UInt8} (plain : byte ≠ percent) (rest : List UInt8) :
    percentDecode (byte :: rest) = (percentDecode rest).map (byte :: ·) := by
  conv => lhs; unfold percentDecode
  rw [if_neg plain]
  cases percentDecode rest <;> rfl

theorem percentDecode_escaped (high low : UInt8) (rest : List UInt8) :
    percentDecode (percent :: high :: low :: rest) =
      (hexDigit high).bind fun first => (hexDigit low).bind fun second =>
        (tryU8 (first * 16 + second)).bind fun value =>
          (percentDecode rest).map (value :: ·) := by
  rw [percentDecode, if_pos rfl]
  cases hexDigit high with
  | none => rfl
  | some first =>
    cases hexDigit low with
    | none => rfl
    | some second =>
      simp only [Option.bind_eq_bind, Option.bind_some]
      cases tryU8 (first * 16 + second) with
      | none => rfl
      | some value => cases percentDecode rest <;> rfl

/-- Decoding is the inverse of encoding. -/
theorem percentDecode_eq_some {raw bytes : List UInt8} :
    percentDecode raw = some bytes ↔ PercentEncodes raw bytes := by
  constructor
  · intro decoded
    induction raw using percentDecode.induct generalizing bytes with
    | case1 =>
      cases decoded
      exact .nil
    | case2 high low rest hypothesis =>
      rw [percentDecode_escaped] at decoded
      obtain ⟨first, upper, decoded⟩ := Option.bind_eq_some_iff.mp decoded
      obtain ⟨second, lower, decoded⟩ := Option.bind_eq_some_iff.mp decoded
      obtain ⟨value, converted, decoded⟩ := Option.bind_eq_some_iff.mp decoded
      obtain ⟨others, inner, rfl⟩ := Option.map_eq_some_iff.mp decoded
      obtain ⟨byte, isByte, top, bottom⟩ := tryU8_hex upper lower
      obtain rfl : byte = value := Option.some.inj (isByte.symm.trans converted)
      exact .escaped (top.symm ▸ upper) (bottom.symm ▸ lower) (hypothesis inner)
    | case3 rest short =>
      rw [percentDecode, if_pos rfl] at decoded
      · cases decoded
      · exact short
    | case4 byte rest plain hypothesis =>
      rw [percentDecode_kept plain] at decoded
      obtain ⟨others, inner, rfl⟩ := Option.map_eq_some_iff.mp decoded
      exact .kept plain (hypothesis inner)
  · intro encoding
    induction encoding with
    | nil => rfl
    | kept plain rest hypothesis =>
      rw [percentDecode_kept plain, hypothesis]
      rfl
    | @escaped byte high low raw bytes first second rest hypothesis =>
      obtain ⟨value, converted, upper, lower⟩ := tryU8_hex first second
      have same : value = byte := by
        refine UInt8.toNat_inj.mp ?_
        have halves := Nat.div_add_mod value.toNat 16
        have others := Nat.div_add_mod byte.toNat 16
        omega
      rw [percentDecode_escaped, first, second, Option.bind_some, Option.bind_some, converted,
        Option.bind_some, hypothesis, same]
      rfl

/-- A malformed text behind a `%` and two digits, or behind another byte, is malformed. -/
theorem malformed_append {rest : List UInt8} (front : List UInt8) (bad : Malformed rest) :
    Malformed (front ++ rest) := by
  obtain ⟨before, after, rfl, short⟩ := bad
  exact ⟨front ++ before, after, by rw [List.append_assoc], short⟩

/-- Decoding fails exactly at a `%` without two digits: the digits that an escape takes are never
percent signs themselves. -/
theorem percentDecode_eq_none {raw : List UInt8} : percentDecode raw = none ↔ Malformed raw := by
  induction raw using percentDecode.induct with
  | case1 =>
    refine iff_of_false (fun none => nomatch none) ?_
    rintro ⟨before, after, split, -⟩
    simp at split
  | case2 high low rest hypothesis =>
    cases digits : startsHexPair (high :: low :: rest) with
    | false =>
      refine iff_of_true ?_ ⟨[], high :: low :: rest, rfl, digits⟩
      rw [percentDecode_escaped]
      rcases Bool.and_eq_false_iff.mp digits with none | none
      · rw [Option.isSome_eq_false_iff.mp none |> Option.isNone_iff_eq_none.mp]
        rfl
      · rw [Option.isSome_eq_false_iff.mp none |> Option.isNone_iff_eq_none.mp]
        cases hexDigit high <;> rfl
    | true =>
      obtain ⟨upper, lower⟩ := Bool.and_eq_true_iff.mp digits
      obtain ⟨first, isFirst⟩ := Option.isSome_iff_exists.mp upper
      obtain ⟨second, isSecond⟩ := Option.isSome_iff_exists.mp lower
      obtain ⟨byte, converted, -, -⟩ := tryU8_hex isFirst isSecond
      rw [percentDecode_escaped, isFirst, isSecond, Option.bind_some, Option.bind_some, converted,
        Option.bind_some, Option.map_eq_none_iff, hypothesis]
      refine ⟨malformed_append [percent, high, low], ?_⟩
      rintro ⟨before, after, split, short⟩
      -- the `%` that lacks its digits is not the first byte, and not one of the two digits
      match before with
      | [] =>
        rw [← (List.cons.inj split).2, digits] at short
        cases short
      | [_] =>
        rw [(List.cons.inj (List.cons.inj split).2).1] at isFirst
        cases isFirst
      | [_, _] =>
        rw [(List.cons.inj (List.cons.inj (List.cons.inj split).2).2).1] at isSecond
        cases isSecond
      | _ :: _ :: _ :: before =>
        exact ⟨before, after, (List.cons.inj (List.cons.inj (List.cons.inj split).2).2).2, short⟩
  | case3 rest short =>
    refine iff_of_true ?_ ⟨[], rest, rfl, ?_⟩
    · rw [percentDecode, if_pos rfl]
      exact short
    · unfold startsHexPair
      split
      next high low others => exact (short high low others rfl).elim
      next => rfl
  | case4 byte rest plain hypothesis =>
    rw [percentDecode_kept plain, Option.map_eq_none_iff, hypothesis]
    refine ⟨malformed_append [byte], ?_⟩
    rintro ⟨before, after, split, short⟩
    cases before with
    | nil => exact absurd (List.cons.inj split).1 plain
    | cons first before => exact ⟨before, after, (List.cons.inj split).2, short⟩

/-! ### Decoding credentials -/

-- of `ByteArray.toList` the library knows only that it is empty for the empty array
theorem loop_toList (bytes : ByteArray) (index : Nat) (read : List UInt8) :
    ByteArray.toList.loop bytes index read = read.reverse ++ bytes.data.toList.drop index := by
  induction left : bytes.size - index generalizing index read with
  | zero =>
    have finished : bytes.data.toList.length ≤ index := by
      rw [Array.length_toList]
      exact Nat.le_of_sub_eq_zero left
    rw [ByteArray.toList.loop, if_neg (by omega), List.drop_eq_nil_of_le finished, List.append_nil]
  | succ left hypothesis =>
    have inside : index < bytes.size := by omega
    have bound : index < bytes.data.toList.length := by rwa [Array.length_toList]
    have byte : bytes.get! index = bytes.data.toList[index] := by
      change bytes.data[index]! = _
      rw [getElem!_pos bytes.data index inside, Array.getElem_toList]
    rw [ByteArray.toList.loop, if_pos inside, hypothesis (index + 1) _ (by omega),
      List.drop_eq_getElem_cons bound, byte]
    simp

theorem toList_eq (bytes : ByteArray) : bytes.toList = bytes.data.toList :=
  loop_toList bytes 0 []

/-- A text is read from its own bytes. -/
theorem fromUTF8?_eq_some {bytes : List UInt8} {text : String} :
    String.fromUTF8? ⟨bytes.toArray⟩ = some text ↔ text.toUTF8.toList = bytes := by
  rw [toList_eq, String.fromUTF8?]
  constructor
  · intro read
    split at read
    next valid =>
      rw [← Option.some.inj read]
      rfl
    next => cases read
  · rintro rfl
    exact dif_pos text.isValidUTF8

theorem fromUTF8?_eq_none {bytes : List UInt8} :
    String.fromUTF8? ⟨bytes.toArray⟩ = none ↔ ¬ByteArray.IsValidUTF8 ⟨bytes.toArray⟩ := by
  rw [String.fromUTF8?]
  split
  next valid => exact iff_of_false (fun none => nomatch none) fun invalid => invalid valid
  next invalid => exact iff_of_true rfl invalid

/-- Credentials are decoded as they were encoded. Decoding fails exactly at a `%` that is not
followed by two hexadecimal digits and for bytes that are not UTF-8, and never at the conversion
of two digits into a byte. -/
theorem proxy_credentials_decode :
    (∀ text raw : String, PercentEncodes raw.toUTF8.toList text.toUTF8.toList →
      decodeUserinfo raw = some text) ∧
    (∀ raw : String, decodeUserinfo raw = none ↔ Malformed raw.toUTF8.toList ∨
      ∃ bytes, PercentEncodes raw.toUTF8.toList bytes ∧ ¬ByteArray.IsValidUTF8 ⟨bytes.toArray⟩) ∧
    ∀ high low first second, hexDigit high = some first → hexDigit low = some second →
      (tryU8 (first * 16 + second)).isSome = true := by
  refine ⟨fun text raw encoding => ?_, fun raw => ?_, fun high low first second upper lower => ?_⟩
  · rw [decodeUserinfo, percentDecode_eq_some.mpr encoding, Option.bind_some]
    exact fromUTF8?_eq_some.mpr rfl
  · rw [decodeUserinfo, Option.bind_eq_none_iff]
    constructor
    · intro fails
      cases decoded : percentDecode raw.toUTF8.toList with
      | none => exact .inl (percentDecode_eq_none.mp decoded)
      | some bytes =>
        exact .inr ⟨bytes, percentDecode_eq_some.mp decoded,
          fromUTF8?_eq_none.mp (fails bytes decoded)⟩
    · rintro (malformed | ⟨bytes, encoding, invalid⟩) others decoded
      · rw [percentDecode_eq_none.mpr malformed] at decoded
        cases decoded
      · rw [percentDecode_eq_some.mpr encoding] at decoded
        rw [← Option.some.inj decoded]
        exact fromUTF8?_eq_none.mpr invalid
  · obtain ⟨byte, converted, -, -⟩ := tryU8_hex upper lower
    rw [converted]
    rfl

/-- A password with an escaped `%` and an escaped letter. -/
theorem proxy_credentials_decode_password :
    PercentEncodes "p%25%6Fk".toUTF8.toList "p%ok".toUTF8.toList ∧
      decodeUserinfo "p%25%6Fk" = some "p%ok" := by
  have decoded : percentDecode "p%25%6Fk".toUTF8.toList = some "p%ok".toUTF8.toList := by
    decide +kernel
  have encoding := percentDecode_eq_some.mp decoded
  exact ⟨encoding, proxy_credentials_decode.1 "p%ok" "p%25%6Fk" encoding⟩

end RelayConnector
