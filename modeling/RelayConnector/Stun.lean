/-
This file models the STUN probe of `handshake.rs`: the walk over the attributes of a response that
looks for the address the server saw. It says of which datagrams the walk stays inside the bytes
that were received and takes an address only from a whole attribute of the declared message.
-/

import RelayConnector.Access
import RelayConnector.Words

namespace RelayConnector.Stun

open Access Words

/-! ### The parser -/

/-- An IPv4 `SocketAddr`. -/
structure SocketAddress where
  address : Nat
  port : Nat
  deriving DecidableEq, Repr

def bufferBytes : Nat := 256

/-- `pks-stun-prb`. -/
def transactionId : List UInt8 :=
  [0x70, 0x6B, 0x73, 0x2D, 0x73, 0x74, 0x75, 0x6E, 0x2D, 0x70, 0x72, 0x62]

def bindingSuccess : Nat := 0x0101

def xorMappedAddress : Nat := 0x0020

/-- Attributes are 32-bit aligned. -/
def padded (attrLen : Nat) : Nat := (attrLen + 3) / 4 * 4

/-- The address of an IPv4 attribute whose value begins at `pos`. -/
def mappedAddress (buf : List UInt8) (pos : Nat) : Reading SocketAddress := do
  let xPort ← wordAt buf (pos + 2)
  let first ← byteAt buf (pos + 4)
  let second ← byteAt buf (pos + 5)
  let third ← byteAt buf (pos + 6)
  let fourth ← byteAt buf (pos + 7)
  pure { address := ofBeBytes [first ^^^ 0x21, second ^^^ 0x12, third ^^^ 0xA4, fourth ^^^ 0x42]
         port := xPort ^^^ 0x2112 }

/-- The loop of `probe_srflx_inner`; `last` is the end of the declared message. There is no answer
if it has not ended after so many rounds. -/
def walk (buf : List UInt8) (last : Nat) : Nat → Nat → Reading (Option (Option SocketAddress))
  | 0, _ => pure none
  | rounds + 1, pos =>
    if pos + 4 ≤ last then do
      let attrType ← wordAt buf pos
      let attrLen ← wordAt buf (pos + 2)
      if attrType = xorMappedAddress ∧ 8 ≤ attrLen then
        let family ← byteAt buf (pos + 4 + 1)
        if family = 0x01 then
          let address ← mappedAddress buf (pos + 4)
          pure (some (some address))
        else walk buf last rounds (pos + 4 + padded attrLen)
      else walk buf last rounds (pos + 4 + padded attrLen)
    else pure (some none)

/-- The buffer after a datagram was received into it. -/
def received (datagram : List UInt8) : List UInt8 :=
  datagram.take bufferBytes ++ List.replicate (bufferBytes - datagram.length) 0

/-- How many bytes were received. -/
def receivedBytes (datagram : List UInt8) : Nat := min datagram.length bufferBytes

/-- What `probe_srflx_inner` makes of a datagram. A walk of `last + 1` rounds ends. -/
def parseResponse (datagram : List UInt8) : Reading (Option (Option SocketAddress)) :=
  let buf := received datagram
  let n := receivedBytes datagram
  if n < 20 then pure (some none)
  else do
    let transaction ← sliceAt buf 8 12
    if transaction ≠ transactionId then pure (some none)
    else
      let msgType ← wordAt buf 0
      if msgType ≠ bindingSuccess then pure (some none)
      else
        let msgLen ← wordAt buf 2
        if n < 20 + msgLen then pure (some none)
        else walk buf (20 + msgLen) (20 + msgLen + 1) 20

/-! ### The attributes of a message -/

section Attributes

variable (buf : List UInt8) (last n : Nat)

/-- The length of the attribute whose header is at a position. -/
def attributeLength (header : Nat) : Nat := wordOf buf (header + 2)

/-- The header of an XOR-MAPPED-ADDRESS attribute that is long enough for an IPv4 address. -/
def Candidate (header : Nat) : Prop :=
  wordOf buf header = xorMappedAddress ∧ 8 ≤ attributeLength buf header

/-- A candidate of the IPv4 family. -/
def Mapped (header : Nat) : Prop := Candidate buf header ∧ byteOf buf (header + 5) = 0x01

instance (header : Nat) : Decidable (Candidate buf header) :=
  inferInstanceAs (Decidable (_ ∧ _))

instance (header : Nat) : Decidable (Mapped buf header) := inferInstanceAs (Decidable (_ ∧ _))

/-- The headers of a message from a position on, up to the first that is mapped. -/
inductive HeaderFrom : Nat → Nat → Prop where
  | here (pos : Nat) (inside : pos + 4 ≤ last) : HeaderFrom pos pos
  | next {pos header : Nat} (inside : pos + 4 ≤ last) (passed : ¬Mapped buf pos)
      (later : HeaderFrom (pos + 4 + padded (attributeLength buf pos)) header) :
      HeaderFrom pos header

/-- An IPv4 XOR-MAPPED-ADDRESS attribute lies inside the message, its value included. -/
def Whole (header : Nat) : Prop :=
  Mapped buf header ∧ header + 4 + attributeLength buf header ≤ last

/-- The walk from a position keeps to the bytes received and ends, and it has an address only if
the message has a whole attribute for it. -/
structure Inside (pos : Nat) (reading : Reading (Option (Option SocketAddress))) : Prop where
  reads : ∀ index ∈ reading.reads, index < n
  ends : ∃ result, reading.value = some (some result)
  whole : ∀ address, reading.value = some (some (some address)) →
    ∃ header, HeaderFrom buf last pos header ∧ Whole buf last header

/-- The family of every candidate was received, and every mapped attribute is whole. -/
def Contained (pos : Nat) : Prop :=
  ∀ header, HeaderFrom buf last pos header → Candidate buf header →
    header + 5 < n ∧ (Mapped buf header → Whole buf last header)

end Attributes

variable {buf : List UInt8} {last n pos rounds : Nat}

theorem HeaderFrom.of_mapped {header : Nat} (mapped : Mapped buf pos)
    (reached : HeaderFrom buf last pos header) : header = pos := by
  cases reached with
  | here => rfl
  | next _ passed => exact absurd mapped passed

theorem HeaderFrom.cases_next {header : Nat} (reached : HeaderFrom buf last pos header) :
    header = pos ∨ HeaderFrom buf last (pos + 4 + padded (attributeLength buf pos)) header := by
  cases reached with
  | here => exact .inl rfl
  | next _ _ later => exact .inr later

/-! ### One round -/

theorem walk_of_done (done : ¬pos + 4 ≤ last) :
    walk buf last (rounds + 1) pos = pure (some none) := if_neg done

/-- What the round does after it has read the header. -/
def afterHeader (buf : List UInt8) (last rounds pos : Nat) :
    Reading (Option (Option SocketAddress)) :=
  if Candidate buf pos then do
    let family ← byteAt buf (pos + 5)
    if family = 0x01 then
      let address ← mappedAddress buf (pos + 4)
      pure (some (some address))
    else walk buf last rounds (pos + 4 + padded (attributeLength buf pos))
  else walk buf last rounds (pos + 4 + padded (attributeLength buf pos))

section Round

variable (inside : pos + 4 ≤ last) (fits : last ≤ buf.length)
include inside fits

theorem walk_of_inside :
    walk buf last (rounds + 1) pos =
      { reads := pos :: (pos + 1) :: (pos + 2) :: (pos + 3) ::
          (afterHeader buf last rounds pos).reads
        value := (afterHeader buf last rounds pos).value } := by
  rw [walk, if_pos inside, wordAt_bind (by omega), wordAt_bind (by omega)]
  rfl

/-- A round that finds no address goes on with the next attribute. -/
theorem walk_of_passed (rounds : Nat) (family : Candidate buf pos → pos + 5 < buf.length)
    (passed : ¬Mapped buf pos) :
    ∃ reads, (∀ index ∈ reads, index < pos + 4 ∨ Candidate buf pos ∧ index = pos + 5) ∧
      (Candidate buf pos → pos + 5 ∈ reads) ∧
      walk buf last (rounds + 1) pos =
        { reads := reads ++
            (walk buf last rounds (pos + 4 + padded (attributeLength buf pos))).reads
          value := (walk buf last rounds (pos + 4 + padded (attributeLength buf pos))).value } := by
  rw [walk_of_inside inside fits, afterHeader]
  by_cases candidate : Candidate buf pos
  · have other : ¬byteOf buf (pos + 5) = 0x01 := fun same => passed ⟨candidate, same⟩
    rw [if_pos candidate, byteAt_bind (family candidate), if_neg other]
    refine ⟨[pos, pos + 1, pos + 2, pos + 3, pos + 5], ?_, ?_, rfl⟩
    · intro index member
      have cases : index < pos + 4 ∨ index = pos + 5 := by
        simp at member
        omega
      exact cases.imp_right fun same => ⟨candidate, same⟩
    · simp
  · rw [if_neg candidate]
    refine ⟨[pos, pos + 1, pos + 2, pos + 3], ?_, ?_, rfl⟩
    · intro index member
      simp at member
      omega
    · exact fun found => absurd found candidate

/-- A round that finds an address ends the walk, if the bytes of the address are in the buffer. -/
theorem walk_of_mapped (family : pos + 5 < buf.length) (mapped : Mapped buf pos) :
    walk buf last (rounds + 1) pos =
      { reads := pos :: (pos + 1) :: (pos + 2) :: (pos + 3) :: (pos + 5) ::
          (mappedAddress buf (pos + 4)).reads
        value := (mappedAddress buf (pos + 4)).value.map (some ∘ some) } := by
  rw [walk_of_inside inside fits, afterHeader, if_pos mapped.1, byteAt_bind family, if_pos mapped.2]
  cases found : (mappedAddress buf (pos + 4)).value with
  | none =>
    rw [Reading.bind_of_none found]
    rfl
  | some address =>
    rw [Reading.bind_of_some found]
    simp

/-- The family of a candidate is read in any case. -/
theorem family_mem_reads (candidate : Candidate buf pos) :
    pos + 5 ∈ (walk buf last (rounds + 1) pos).reads := by
  rw [walk_of_inside inside fits, afterHeader, if_pos candidate]
  have first := Reading.reads_subset_bind (byteAt buf (pos + 5)) fun family =>
    if family = 0x01 then do
      let address ← mappedAddress buf (pos + 4)
      pure (some (some address))
    else walk buf last rounds (pos + 4 + padded (attributeLength buf pos))
  have read := first (List.mem_singleton.mpr rfl)
  simp [read]

end Round

theorem mappedAddress_of_inside (inside : pos + 7 < buf.length) :
    mappedAddress buf pos =
      { reads := [pos + 2, pos + 3, pos + 4, pos + 5, pos + 6, pos + 7]
        value := some
          { address := ofBeBytes [byteOf buf (pos + 4) ^^^ 0x21, byteOf buf (pos + 5) ^^^ 0x12,
              byteOf buf (pos + 6) ^^^ 0xA4, byteOf buf (pos + 7) ^^^ 0x42]
            port := wordOf buf (pos + 2) ^^^ 0x2112 } } := by
  rw [mappedAddress, wordAt_bind (by omega), byteAt_bind (by omega), byteAt_bind (by omega),
    byteAt_bind (by omega), byteAt_bind (by omega)]
  rfl

/-! ### The whole walk -/

theorem Contained.of_passed (inside : pos + 4 ≤ last) (passed : ¬Mapped buf pos) :
    Contained buf last n pos ↔ (Candidate buf pos → pos + 5 < n) ∧
      Contained buf last n (pos + 4 + padded (attributeLength buf pos)) := by
  constructor
  · intro contained
    exact ⟨fun candidate => (contained pos (.here pos inside) candidate).1,
      fun header later => contained header (.next inside passed later)⟩
  · rintro ⟨family, contained⟩ header reached candidate
    rcases reached.cases_next with rfl | later
    · exact ⟨family candidate, fun mapped => absurd mapped passed⟩
    · exact contained header later candidate

theorem Contained.of_mapped (inside : pos + 4 ≤ last) (mapped : Mapped buf pos) :
    Contained buf last n pos ↔ pos + 5 < n ∧ Whole buf last pos := by
  constructor
  · intro contained
    obtain ⟨family, whole⟩ := contained pos (.here pos inside) mapped.1
    exact ⟨family, whole mapped⟩
  · rintro ⟨family, whole⟩ header reached -
    obtain rfl := reached.of_mapped mapped
    exact ⟨family, fun _ => whole⟩

theorem inside_of_done (done : ¬pos + 4 ≤ last) :
    Inside buf last n pos (walk buf last (rounds + 1) pos) ↔ Contained buf last n pos := by
  rw [walk_of_done done]
  refine ⟨fun _ header reached => ?_, fun _ => ⟨nofun, ⟨none, rfl⟩, nofun⟩⟩
  cases reached <;> contradiction

theorem inside_of_mapped (inside : pos + 4 ≤ last) (fits : last ≤ n) (size : n ≤ buf.length)
    (mapped : Mapped buf pos) :
    Inside buf last n pos (walk buf last (rounds + 1) pos) ↔ Contained buf last n pos := by
  have room := fits.trans size
  rw [Contained.of_mapped inside mapped]
  constructor
  · intro kept
    have family := kept.reads _ (family_mem_reads inside room mapped.1)
    obtain ⟨result, value⟩ := kept.ends
    have found := value
    rw [walk_of_mapped inside room (family.trans_le size) mapped] at found
    obtain ⟨address, -, same⟩ := Option.map_eq_some_iff.mp found
    obtain rfl := Option.some.inj same
    obtain ⟨header, reached, whole⟩ := kept.whole address value
    obtain rfl := reached.of_mapped mapped
    exact ⟨family, whole⟩
  · rintro ⟨family, whole⟩
    have long := mapped.1.2
    have enough := whole.2
    rw [walk_of_mapped inside room (family.trans_le size) mapped,
      mappedAddress_of_inside (by omega)]
    refine ⟨?_, ⟨_, rfl⟩, fun _ _ => ⟨pos, .here pos inside, whole⟩⟩
    intro index member
    simp at member
    omega

theorem inside_of_passed (inside : pos + 4 ≤ last) (fits : last ≤ n) (size : n ≤ buf.length)
    (passed : ¬Mapped buf pos)
    (rest : Inside buf last n (pos + 4 + padded (attributeLength buf pos))
        (walk buf last rounds (pos + 4 + padded (attributeLength buf pos))) ↔
      Contained buf last n (pos + 4 + padded (attributeLength buf pos))) :
    Inside buf last n pos (walk buf last (rounds + 1) pos) ↔ Contained buf last n pos := by
  have room := fits.trans size
  rw [Contained.of_passed inside passed, ← rest]
  constructor
  · intro kept
    have family : Candidate buf pos → pos + 5 < n := fun candidate =>
      kept.reads _ (family_mem_reads inside room candidate)
    refine ⟨family, ?_⟩
    obtain ⟨reads, bounded, asked, same⟩ := walk_of_passed inside room rounds
      (fun candidate => (family candidate).trans_le size) passed
    rw [same] at kept
    refine ⟨fun index member => kept.reads index (List.mem_append_right _ member), kept.ends, ?_⟩
    intro address value
    obtain ⟨header, reached, whole⟩ := kept.whole address value
    rcases reached.cases_next with rfl | later
    · exact absurd whole.1 passed
    · exact ⟨header, later, whole⟩
  · rintro ⟨family, kept⟩
    obtain ⟨reads, bounded, asked, same⟩ := walk_of_passed inside room rounds
      (fun candidate => (family candidate).trans_le size) passed
    rw [same]
    refine ⟨?_, kept.ends, ?_⟩
    · intro index member
      rcases List.mem_append.mp member with first | later
      · rcases bounded index first with header | ⟨candidate, rfl⟩
        · omega
        · exact family candidate
      · exact kept.reads index later
    · intro address value
      obtain ⟨header, later, whole⟩ := kept.whole address value
      exact ⟨header, .next inside passed later, whole⟩

/-- The walk keeps to the bytes received and takes only whole attributes exactly if the message
is contained. -/
theorem walk_inside_iff (fits : last ≤ n) (size : n ≤ buf.length) (enough : last ≤ rounds + pos) :
    Inside buf last n pos (walk buf last (rounds + 1) pos) ↔ Contained buf last n pos := by
  induction rounds generalizing pos with
  | zero => exact inside_of_done (by omega)
  | succ rounds hypothesis =>
    by_cases inside : pos + 4 ≤ last
    · by_cases mapped : Mapped buf pos
      · exact inside_of_mapped inside fits size mapped
      · exact inside_of_passed inside fits size mapped (hypothesis (by omega))
    · exact inside_of_done inside

/-! ### Datagrams -/

/-- The end of the declared message, if the header of a datagram is accepted. -/
def declaredEnd (datagram : List UInt8) : Option Nat :=
  let buf := received datagram
  let last := 20 + wordOf buf 2
  if 20 ≤ receivedBytes datagram ∧ (buf.drop 8).take 12 = transactionId ∧
      wordOf buf 0 = bindingSuccess ∧ last ≤ receivedBytes datagram then some last
  else none

theorem length_received (datagram : List UInt8) : (received datagram).length = bufferBytes := by
  simp [received]
  omega

theorem receivedBytes_le (datagram : List UInt8) :
    receivedBytes datagram ≤ (received datagram).length :=
  (min_le_right _ _).trans (length_received datagram).ge

/-- The header's bytes are read, and then there is no result or the walk. -/
theorem parseResponse_eq (datagram : List UInt8) :
    ∃ reads, (∀ index ∈ reads, index < receivedBytes datagram) ∧
      parseResponse datagram =
        match declaredEnd datagram with
        | none => { reads := reads, value := some (some none) }
        | some last =>
          { reads := reads ++ (walk (received datagram) last (last + 1) 20).reads
            value := (walk (received datagram) last (last + 1) 20).value } := by
  have size : (received datagram).length = 256 := length_received datagram
  unfold parseResponse declaredEnd
  dsimp only
  by_cases short : receivedBytes datagram < 20
  · rw [if_pos short, if_neg (by omega)]
    exact ⟨[], nofun, rfl⟩
  have slice : (sliceAt (received datagram) 8 12).value =
      some (((received datagram).drop 8).take 12) := by
    rw [sliceAt, size]
    rfl
  -- whatever the header's checks read is below 20
  have below : ∀ more : List Nat, (∀ index ∈ more, index < 4) →
      ∀ index ∈ List.range' 8 12 ++ more, index < receivedBytes datagram := by
    intro more small index member
    rcases List.mem_append.mp member with inside | inside
    · have below := (List.mem_range'_1.mp inside).2
      omega
    · have below := small index inside
      omega
  rw [if_neg short, Reading.bind_of_some slice]
  by_cases transaction : ((received datagram).drop 8).take 12 = transactionId
  swap
  · rw [if_pos transaction, if_neg fun accepted => transaction accepted.2.1]
    exact ⟨_, below [] nofun, rfl⟩
  rw [if_neg (not_not.mpr transaction), wordAt_bind (by omega)]
  by_cases success : wordOf (received datagram) 0 = bindingSuccess
  swap
  · rw [if_pos success, if_neg fun accepted => success accepted.2.2.1]
    exact ⟨_, below [0, 1] (by simp), rfl⟩
  rw [if_neg (not_not.mpr success), wordAt_bind (by omega)]
  by_cases long : receivedBytes datagram < 20 + wordOf (received datagram) 2
  · rw [if_pos long, if_neg fun accepted => by omega]
    exact ⟨_, below [0, 1, 2, 3] (by simp), rfl⟩
  · rw [if_neg long, if_pos ⟨by omega, transaction, success, by omega⟩]
    exact ⟨_, below [0, 1, 2, 3] (by simp), rfl⟩

theorem declaredEnd_le {datagram : List UInt8} (declared : declaredEnd datagram = some last) :
    last ≤ receivedBytes datagram := by
  unfold declaredEnd at declared
  dsimp only at declared
  split at declared
  next accepted => exact Option.some.inj declared ▸ accepted.2.2.2
  next => cases declared

/-- The parser keeps to the bytes it received, and takes an address only from a whole attribute of
the declared message. -/
structure ParsedInside (datagram : List UInt8) : Prop where
  reads : ∀ index ∈ (parseResponse datagram).reads, index < receivedBytes datagram
  ends : ∃ result, (parseResponse datagram).value = some (some result)
  whole : ∀ address, (parseResponse datagram).value = some (some (some address)) →
    ∃ last header, declaredEnd datagram = some last ∧
      HeaderFrom (received datagram) last 20 header ∧ Whole (received datagram) last header

/-- The parser keeps to the bytes it received and takes only whole attributes exactly if, of the
attributes up to the first that is mapped, every XOR-MAPPED-ADDRESS long enough has its family in
the datagram and the one of the IPv4 family is whole. -/
theorem stun_parser_inside_iff (datagram : List UInt8) :
    ParsedInside datagram ↔ ∀ last, declaredEnd datagram = some last →
      Contained (received datagram) last (receivedBytes datagram) 20 := by
  obtain ⟨reads, header, same⟩ := parseResponse_eq datagram
  cases declared : declaredEnd datagram with
  | none =>
    rw [declared] at same
    refine ⟨fun _ => nofun, fun _ => ?_⟩
    constructor <;> rw [same]
    · exact header
    · exact ⟨none, rfl⟩
    · nofun
  | some last =>
    rw [declared] at same
    have fits := declaredEnd_le declared
    have walked := walk_inside_iff fits (receivedBytes_le datagram) (Nat.le_add_right last 20)
    have parsed : ParsedInside datagram ↔ Inside (received datagram) last
        (receivedBytes datagram) 20 (walk (received datagram) last (last + 1) 20) := by
      constructor
      · rintro ⟨inside, ends, whole⟩
        rw [same] at inside ends whole
        refine ⟨fun index member => inside index (List.mem_append_right _ member), ends, ?_⟩
        intro address value
        obtain ⟨_, header, found, reached, whole⟩ := whole address value
        obtain rfl := Option.some.inj (declared.symm.trans found)
        exact ⟨header, reached, whole⟩
      · rintro ⟨inside, ends, whole⟩
        constructor <;> rw [same]
        · intro index member
          rcases List.mem_append.mp member with first | later
          · exact header index first
          · exact inside index later
        · exact ends
        · intro address value
          obtain ⟨header, reached, whole⟩ := whole address value
          exact ⟨last, header, declared, reached, whole⟩
    rw [parsed, walked]
    exact ⟨fun contained _ found => Option.some.inj found ▸ contained, fun all => all last rfl⟩

/-- A full buffer whose last four bytes are the header of an address: its family is looked for
past the end of the buffer. -/
def headerAtTheEnd : List UInt8 :=
  [0x01, 0x01, 0, 236, 0x21, 0x12, 0xA4, 0x42] ++ transactionId ++
    [0x80, 0x22, 0, 228] ++ List.replicate 228 0 ++ [0x00, 0x20, 0, 8]

/-- A message that ends with the header of an address, and bytes after the message. -/
def addressAfterMessage : List UInt8 :=
  [0x01, 0x01, 0, 4, 0x21, 0x12, 0xA4, 0x42] ++ transactionId ++
    [0x00, 0x20, 0, 8] ++ [0, 1, 0x21, 0x13, 0x21, 0x12, 0xA4, 0x43]

/-- The walk indexes past the buffer, and it takes an address from bytes after the message. -/
theorem stun_parser_outside :
    (headerAtTheEnd.length = 256 ∧ 257 ∈ (parseResponse headerAtTheEnd).reads ∧
      (parseResponse headerAtTheEnd).value = none) ∧
    declaredEnd addressAfterMessage = some 24 ∧
      (parseResponse addressAfterMessage).value =
        some (some (some { address := 1, port := 1 })) := by
  decide +kernel

end RelayConnector.Stun
