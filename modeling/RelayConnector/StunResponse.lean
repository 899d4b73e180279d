/-
This file proves that the STUN probe recovers the address from every well-formed response: the walk
passes the attributes before the one it looks for, whatever their lengths and padding, and undoes
its encoding.
-/

import Mathlib.Data.LawfulXor.Basic
import RelayConnector.Stun

namespace RelayConnector.Stun

open Access Words

/-! ### Responses -/

/-- A well-formed attribute, padded to four bytes. -/
structure Attribute where
  kind : Nat
  value : List UInt8
  padding : List UInt8
  kind_lt : kind < 256 ^ 2
  length_lt : value.length < 256 ^ 2
  aligned : value.length + padding.length = padded value.length

namespace Attribute

def bytes (attr : Attribute) : List UInt8 :=
  toBeBytes 2 attr.kind ++ toBeBytes 2 attr.value.length ++ attr.value ++
    attr.padding

/-- An IPv4 XOR-MAPPED-ADDRESS of length at least 8. -/
def IsMapped (attr : Attribute) : Prop :=
  attr.kind = xorMappedAddress ∧ 8 ≤ attr.value.length ∧ byteOf attr.value 1 = 0x01

theorem length_bytes (attr : Attribute) : attr.bytes.length = 4 + padded attr.value.length := by
  rw [← attr.aligned]
  simp [bytes]
  omega

end Attribute

/-- The port and the address under the magic cookie. -/
def xorEncoding (address port : Nat) : List UInt8 :=
  toBeBytes 2 (port ^^^ 0x2112) ++
    List.zipWith (· ^^^ ·) (toBeBytes 4 address) [0x21, 0x12, 0xA4, 0x42]

/-- The attribute carries the encoding of an address and a port. -/
def Attribute.Carries (attr : Attribute) (address port : Nat) : Prop :=
  attr.kind = xorMappedAddress ∧
    ∃ reserved rest, attr.value = reserved :: 0x01 :: (xorEncoding address port ++ rest)

/-- The attributes of a message, one after the other. -/
def body (attributes : List Attribute) : List UInt8 := attributes.flatMap Attribute.bytes

/-- A success response to the probe, with the bytes that follow the message. -/
def response (cookie : List UInt8) (attributes : List Attribute) (following : List UInt8) :
    List UInt8 :=
  toBeBytes 2 bindingSuccess ++ toBeBytes 2 (body attributes).length ++ cookie ++ transactionId ++
    body attributes ++ following

/-! ### Reading fields -/

theorem byteOf_append (front rest : List UInt8) (index : Nat) :
    byteOf (front ++ rest) (front.length + index) = byteOf rest index := by
  rw [byteOf, byteOf, List.getElem?_append_right (Nat.le_add_right _ _), Nat.add_sub_cancel_left]

theorem wordOf_append (front rest : List UInt8) (index : Nat) :
    wordOf (front ++ rest) (front.length + index) = wordOf rest index := by
  rw [wordOf, wordOf, byteOf_append, Nat.add_assoc, byteOf_append]

theorem wordOf_toBeBytes {value : Nat} (fits : value < 256 ^ 2) (rest : List UInt8) :
    wordOf (toBeBytes 2 value ++ rest) 0 = value := by
  simp [wordOf, byteOf, toBeBytes]
  omega

/-- What the walk sees at the header of an attribute. -/
theorem attribute_at (front rest : List UInt8) (attr : Attribute) :
    wordOf (front ++ (attr.bytes ++ rest)) front.length = attr.kind ∧
      attributeLength (front ++ (attr.bytes ++ rest)) front.length = attr.value.length ∧
      ∀ index < attr.value.length,
        byteOf (front ++ (attr.bytes ++ rest)) (front.length + 4 + index) =
          byteOf attr.value index := by
  let tail := attr.value ++ (attr.padding ++ rest)
  have split : attr.bytes ++ rest =
      toBeBytes 2 attr.kind ++ (toBeBytes 2 attr.value.length ++ tail) := by
    simp [Attribute.bytes, tail]
  rw [split]
  refine ⟨?_, ?_, ?_⟩
  · exact (wordOf_append front _ 0).trans (wordOf_toBeBytes attr.kind_lt _)
  · rw [attributeLength, wordOf_append]
    exact (wordOf_append (toBeBytes 2 attr.kind) _ 0).trans (wordOf_toBeBytes attr.length_lt _)
  · intro index inside
    rw [Nat.add_assoc, byteOf_append, ← List.append_assoc]
    have skipped :=
      byteOf_append (toBeBytes 2 attr.kind ++ toBeBytes 2 attr.value.length) tail index
    rw [List.length_append, length_toBeBytes, length_toBeBytes] at skipped
    rw [skipped, byteOf, byteOf, List.getElem?_append_left inside]

/-! ### Undoing the encoding -/

theorem address_decoded {address : Nat} (fits : address < 256 ^ 4) (port : Nat) (reserved : UInt8)
    (extra : List UInt8) :
    let value := reserved :: 0x01 :: (xorEncoding address port ++ extra)
    ofBeBytes [byteOf value 4 ^^^ 0x21, byteOf value 5 ^^^ 0x12, byteOf value 6 ^^^ 0xA4,
      byteOf value 7 ^^^ 0x42] = address := by
  have bytes : ofBeBytes (toBeBytes 4 address) = address := ofBeBytes_toBeBytes_of_lt fits
  intro value
  have four : [byteOf value 4 ^^^ 0x21, byteOf value 5 ^^^ 0x12, byteOf value 6 ^^^ 0xA4,
      byteOf value 7 ^^^ 0x42] = toBeBytes 4 address := by
    simp [value, xorEncoding, toBeBytes, byteOf]
  rw [four, bytes]

theorem port_decoded {port : Nat} (fits : port < 256 ^ 2) (address : Nat) (reserved : UInt8)
    (extra : List UInt8) :
    wordOf (reserved :: 0x01 :: (xorEncoding address port ++ extra)) 2 ^^^ 0x2112 = port := by
  have masked : port ^^^ 0x2112 < 256 ^ 2 := by
    have bound : port ^^^ 0x2112 < 2 ^ 16 :=
      Nat.xor_lt_two_pow (by simpa using fits) (by decide)
    simpa using bound
  have word : wordOf (reserved :: 0x01 :: (xorEncoding address port ++ extra)) 2 =
      port ^^^ 0x2112 := by
    rw [xorEncoding, List.append_assoc]
    exact (wordOf_append [reserved, 0x01] _ 0).trans (wordOf_toBeBytes masked _)
  rw [word, Nat.xor_assoc, Nat.xor_self, Nat.xor_zero]

/-! ### The walk over a message -/

section Message

variable {buf : List UInt8} {last rounds : Nat}

/-- The walk passes an attribute that is not mapped. -/
theorem walk_attribute {front rest : List UInt8} {attr : Attribute}
    (same : buf = front ++ (attr.bytes ++ rest)) (passed : ¬attr.IsMapped)
    (inside : front.length + attr.bytes.length ≤ last) (fits : last ≤ buf.length) :
    (walk buf last (rounds + 1) front.length).value =
      (walk buf last rounds (front ++ attr.bytes).length).value := by
  obtain ⟨kind, length, values⟩ := attribute_at front rest attr
  rw [← same] at kind length values
  have size := attr.length_bytes
  have aligned := attr.aligned
  have other : ¬Mapped buf front.length := by
    rintro ⟨⟨candidate, long⟩, family⟩
    rw [length] at long
    exact passed ⟨kind.symm.trans candidate, long, (values 1 (by omega)).symm.trans family⟩
  have family : Candidate buf front.length → front.length + 5 < buf.length := by
    rintro ⟨-, long⟩
    rw [length] at long
    omega
  obtain ⟨_, -, -, next⟩ := walk_of_passed (by omega) fits rounds family other
  rw [next, length, List.length_append, size, ← Nat.add_assoc]

theorem walk_attributes {front rest : List UInt8} {attrs : List Attribute}
    (same : buf = front ++ (body attrs ++ rest)) (passed : ∀ attr ∈ attrs, ¬attr.IsMapped)
    (inside : front.length + (body attrs).length ≤ last) (fits : last ≤ buf.length) :
    (walk buf last (rounds + attrs.length) front.length).value =
      (walk buf last rounds (front ++ body attrs).length).value := by
  induction attrs generalizing front with
  | nil => simp [body]
  | cons attr others hypothesis =>
    have first : body (attr :: others) = attr.bytes ++ body others := List.flatMap_cons
    obtain ⟨here, later⟩ := List.forall_mem_cons.mp passed
    rw [first, List.length_append] at inside
    rw [first, List.append_assoc] at same
    rw [List.length_cons, ← Nat.add_assoc, walk_attribute same here (by omega) fits, first,
      ← List.append_assoc]
    refine hypothesis ?_ later ?_
    · rw [same, List.append_assoc]
    · rw [List.length_append]
      omega

/-- The walk takes the address of the attribute that carries it. -/
theorem walk_carries {front rest : List UInt8} {attr : Attribute} {address port : Nat}
    (same : buf = front ++ (attr.bytes ++ rest)) (carries : attr.Carries address port)
    (addressFits : address < 256 ^ 4) (portFits : port < 256 ^ 2)
    (inside : front.length + attr.bytes.length ≤ last) (fits : last ≤ buf.length) :
    (walk buf last (rounds + 1) front.length).value =
      some (some (some { address := address, port := port })) := by
  obtain ⟨kind, length, values⟩ := attribute_at front rest attr
  rw [← same] at kind length values
  have size := attr.length_bytes
  have aligned := attr.aligned
  obtain ⟨named, reserved, extra, value⟩ := carries
  have long : attr.value.length = 8 + extra.length := by
    rw [value]
    simp [xorEncoding]
    omega
  have mapped : Mapped buf front.length := by
    refine ⟨⟨kind.trans named, ?_⟩, ?_⟩
    · rw [length]
      omega
    · rw [values 1 (by omega), value]
      rfl
  have word : wordOf buf (front.length + 4 + 2) = wordOf attr.value 2 := by
    rw [wordOf, wordOf, values 2 (by omega), Nat.add_assoc _ 2 1, values 3 (by omega)]
  rw [walk_of_mapped (by omega) fits (by omega) mapped, mappedAddress_of_inside (by omega), word,
    values 4 (by omega), values 5 (by omega), values 6 (by omega), values 7 (by omega), value,
    address_decoded addressFits, port_decoded portFits]
  rfl

end Message

/-! ### Whole responses -/

section Response

variable {cookie following : List UInt8} {attrs : List Attribute}

/-- A response that fits the buffer is received as it is. -/
theorem received_response (fits : (response cookie attrs following).length ≤ bufferBytes) :
    ∃ zeros, received (response cookie attrs following) =
      response cookie attrs following ++ zeros ∧
      receivedBytes (response cookie attrs following) =
        (response cookie attrs following).length :=
  ⟨_, by rw [received, List.take_of_length_le fits], min_eq_left fits⟩

theorem length_response (cookieLength : cookie.length = 4) (attrs : List Attribute)
    (following : List UInt8) :
    (response cookie attrs following).length =
      20 + (body attrs).length + following.length := by
  simp [response, cookieLength, transactionId]
  omega

/-- The header of a response is accepted. -/
theorem declaredEnd_response (cookieLength : cookie.length = 4)
    (fits : (response cookie attrs following).length ≤ bufferBytes) :
    declaredEnd (response cookie attrs following) = some (20 + (body attrs).length) := by
  obtain ⟨zeros, same, size⟩ := received_response fits
  have long := length_response cookieLength attrs following
  let tail := body attrs ++ (following ++ zeros)
  have fields : received (response cookie attrs following) =
      toBeBytes 2 bindingSuccess ++ (toBeBytes 2 (body attrs).length ++
        (cookie ++ (transactionId ++ tail))) := by
    rw [same]
    simp [response, tail]
  have success : wordOf (received (response cookie attrs following)) 0 = bindingSuccess := by
    rw [fields]
    exact wordOf_toBeBytes (by decide) _
  have length : wordOf (received (response cookie attrs following)) 2 = (body attrs).length := by
    rw [fields]
    refine (wordOf_append (toBeBytes 2 bindingSuccess) _ 0).trans (wordOf_toBeBytes ?_ _)
    unfold bufferBytes at fits
    omega
  have transaction : ((received (response cookie attrs following)).drop 8).take 12 =
      transactionId := by
    have before : (toBeBytes 2 bindingSuccess ++ (toBeBytes 2 (body attrs).length ++
        cookie)).length = 8 := by
      simp [cookieLength]
    rw [fields, ← List.append_assoc _ cookie, ← List.append_assoc]
    exact (congrArg (List.take 12) (List.drop_left' before)).trans (List.take_left' rfl)
  unfold declaredEnd
  dsimp only
  rw [length, size]
  exact if_pos ⟨by omega, transaction, success, by omega⟩

/-- The walk goes over the attributes of a response. -/
theorem parse_response (cookieLength : cookie.length = 4)
    (fits : (response cookie attrs following).length ≤ bufferBytes) :
    ∃ buf front rest, buf = front ++ (body attrs ++ rest) ∧ front.length = 20 ∧
      buf.length = bufferBytes ∧ 20 + (body attrs).length ≤ bufferBytes ∧
      (parseResponse (response cookie attrs following)).value =
        (walk buf (20 + (body attrs).length) (20 + (body attrs).length + 1) 20).value := by
  obtain ⟨zeros, same, -⟩ := received_response fits
  obtain ⟨reads, -, parsed⟩ := parseResponse_eq (response cookie attrs following)
  have long := length_response cookieLength attrs following
  let front := toBeBytes 2 bindingSuccess ++ toBeBytes 2 (body attrs).length ++ cookie ++
    transactionId
  have frontLength : front.length = 20 := by
    simp [front, cookieLength, transactionId]
  have split : received (response cookie attrs following) =
      front ++ (body attrs ++ (following ++ zeros)) := by
    rw [same]
    simp [response, front]
  rw [declaredEnd_response cookieLength fits] at parsed
  exact ⟨_, front, following ++ zeros, split, frontLength, length_received _, by omega,
    by rw [parsed]⟩

theorem length_le_body (attrs : List Attribute) : 4 * attrs.length ≤ (body attrs).length := by
  induction attrs with
  | nil => simp
  | cons attr others hypothesis =>
    have first : (body (attr :: others)).length = attr.bytes.length + (body others).length := by
      rw [body, List.flatMap_cons, List.length_append]
      rfl
    have size := attr.length_bytes
    rw [first, List.length_cons]
    omega

end Response

/-- From every well-formed response that fits the buffer, the parser takes the address whose
encoding the response carries, if there is one. -/
theorem stun_response_parsed {cookie : List UInt8} (cookieLength : cookie.length = 4)
    (following : List UInt8) :
    (∀ before mapped after address port,
      (∀ attr ∈ before, ¬attr.IsMapped) → mapped.Carries address port →
      address < 256 ^ 4 → port < 256 ^ 2 →
      (response cookie (before ++ mapped :: after) following).length ≤ bufferBytes →
      (parseResponse (response cookie (before ++ mapped :: after) following)).value =
        some (some (some { address := address, port := port }))) ∧
    (∀ attrs : List Attribute, (∀ attr ∈ attrs, ¬attr.IsMapped) →
      (response cookie attrs following).length ≤ bufferBytes →
      (parseResponse (response cookie attrs following)).value = some (some none)) := by
  constructor
  · intro before mapped after address port passed carries addressFits portFits fits
    obtain ⟨buf, front, rest, same, frontLength, size, room, parsed⟩ :=
      parse_response cookieLength fits
    have parts : body (before ++ mapped :: after) =
        body before ++ (mapped.bytes ++ body after) := by
      simp [body]
    have whole := congrArg List.length parts
    have count := length_le_body before
    rw [List.length_append, List.length_append] at whole
    rw [parts, List.append_assoc, List.append_assoc] at same
    have next : buf = (front ++ body before) ++ (mapped.bytes ++ (body after ++ rest)) := by
      rw [same, List.append_assoc]
    obtain ⟨rounds, enough⟩ : ∃ rounds, 20 + (body (before ++ mapped :: after)).length + 1 =
        rounds + 1 + before.length :=
      ⟨20 + (body (before ++ mapped :: after)).length - before.length, by omega⟩
    rw [parsed, enough, ← frontLength, walk_attributes same passed (by omega) (by omega)]
    refine walk_carries next carries addressFits portFits ?_ (by omega)
    rw [List.length_append]
    omega
  · intro attrs passed fits
    obtain ⟨buf, front, rest, same, frontLength, size, room, parsed⟩ :=
      parse_response cookieLength fits
    have count := length_le_body attrs
    obtain ⟨rounds, enough⟩ : ∃ rounds, 20 + (body attrs).length + 1 =
        rounds + 1 + attrs.length := ⟨20 + (body attrs).length - attrs.length, by omega⟩
    rw [parsed, enough, ← frontLength, walk_attributes same passed (by omega) (by omega),
      List.length_append, walk_of_done (by omega)]
    rfl

/-- An attribute of another kind, with one byte of padding. -/
def softwareAttribute : Attribute where
  kind := 0x8022
  value := [0x70, 0x6B, 0x73]
  padding := [0x20]
  kind_lt := by decide
  length_lt := by decide
  aligned := by decide

def addressAttribute : Attribute where
  kind := xorMappedAddress
  value := [0, 0x01] ++ xorEncoding 0x01020304 5000
  padding := []
  kind_lt := by decide
  length_lt := by decide
  aligned := by decide

/-- A response with the address 1.2.3.4 and the port 5000 after another attribute. -/
theorem stun_response_parsed_software :
    (parseResponse (response [0x21, 0x12, 0xA4, 0x42] [softwareAttribute, addressAttribute]
        [0xFF])).value = some (some (some { address := 0x01020304, port := 5000 })) ∧
      (parseResponse (response [0x21, 0x12, 0xA4, 0x42] [softwareAttribute] [0xFF])).value =
        some (some none) := by
  have other : ∀ attr ∈ [softwareAttribute], ¬attr.IsMapped := by
    intro attr member
    obtain rfl := List.mem_singleton.mp member
    exact fun mapped => absurd mapped.1 (by decide)
  have four : [0x21, 0x12, 0xA4, (0x42 : UInt8)].length = 4 := rfl
  obtain ⟨found, absent⟩ := stun_response_parsed four [0xFF]
  exact ⟨found [softwareAttribute] addressAttribute [] 0x01020304 5000 other
    ⟨rfl, 0, [], rfl⟩ (by decide) (by decide) (by decide), absent _ other (by decide)⟩

end RelayConnector.Stun
