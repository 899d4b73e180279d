/-
This file proves that the ingress packet is exact: which frames become a packet, and that a reader
of its fields gets back what the frame had.
-/

import RelayConnector.Wire

namespace RelayConnector

open Words

/-! ### Reading a packet -/

/-- The big-endian field of so many bytes at an offset. -/
def fieldAt (packet : List UInt8) (offset count : Nat) : Nat :=
  ofBeBytes ((packet.drop offset).take count)

/-- What a reader of the packet finds in its fields. -/
structure PacketFields where
  channels : Nat
  sequence : Nat
  timestamp : Nat
  durationSamples : Nat
  payloadBytes : Nat
  captureTimestampNs : Nat
  outputGeneration : Nat
  payload : List UInt8
  deriving DecidableEq, Repr

def readPacket (packet : List UInt8) : PacketFields where
  channels := fieldAt packet 5 1
  sequence := fieldAt packet 8 8
  timestamp := fieldAt packet 16 4
  durationSamples := fieldAt packet 20 2
  payloadBytes := fieldAt packet 22 2
  captureTimestampNs := fieldAt packet 24 8
  outputGeneration := fieldAt packet 32 8
  payload := packet.drop headerBytes

/-- The parts of a packet and their lengths. -/
structure PacketLayout (packet start sequence timestamp duration length capture generation payload :
    List UInt8) : Prop where
  parts : packet = start ++ (sequence ++ (timestamp ++ (duration ++ (length ++ (capture ++
    (generation ++ payload))))))
  start : start.length = 8
  sequence : sequence.length = 8
  timestamp : timestamp.length = 4
  duration : duration.length = 2
  length : length.length = 2
  capture : capture.length = 8
  generation : generation.length = 8

/-- The parts stand at the offsets that a reader looks at. -/
theorem PacketLayout.slices
    {packet start sequence timestamp duration length capture generation payload : List UInt8}
    (layout : PacketLayout packet start sequence timestamp duration length capture generation
      payload) :
    (packet.drop 8).take 8 = sequence ∧ (packet.drop 16).take 4 = timestamp ∧
      (packet.drop 20).take 2 = duration ∧ (packet.drop 22).take 2 = length ∧
      (packet.drop 24).take 8 = capture ∧ (packet.drop 32).take 8 = generation ∧
      packet.drop headerBytes = payload := by
  obtain ⟨rfl, start, sequence, timestamp, duration, length, capture, generation⟩ := layout
  simp [headerBytes, List.drop_append, List.drop_eq_nil_of_le, start, sequence, timestamp,
    duration, length, capture, generation]

/-- The last bytes of a field are the field of the remainder. -/
theorem toBeBytes_drop (extra count value : Nat) :
    (toBeBytes (extra + count) value).drop extra = toBeBytes count value := by
  induction count generalizing value with
  | zero => simp [toBeBytes]
  | succ count hypothesis =>
    rw [Nat.add_succ, toBeBytes, toBeBytes, List.drop_append_of_le_length (by simp), hypothesis]

theorem packetLayout (frame : EncodedAudioFrame) (channels : Nat) :
    PacketLayout (packetHeader frame channels ++ frame.payload)
      (packetMagic ++ [1, UInt8.ofNat channels, 0, 0])
      (toBeBytes 8 (frame.rtpTime / opusFrameSamples)) (toBeBytes 4 frame.rtpTime)
      (toBeBytes 2 opusFrameSamples) (toBeBytes 2 frame.payload.length)
      (toBeBytes 8 frame.captureTimestampNs) (toBeBytes 8 (frame.outputGeneration.getD 0))
      frame.payload := by
  constructor
  case parts =>
    have low : (toBeBytes 8 frame.rtpTime).drop 4 = toBeBytes 4 frame.rtpTime :=
      toBeBytes_drop 4 4 frame.rtpTime
    simp only [packetHeader, low, List.append_assoc]
  case start => rfl
  all_goals exact length_toBeBytes _ _

/-- The fields of a frame are 64-bit words. -/
structure EncodedAudioFrame.Words (frame : EncodedAudioFrame) : Prop where
  rtpTime : frame.rtpTime < 2 ^ 64
  captureTimestampNs : frame.captureTimestampNs < 2 ^ 64
  outputGeneration : frame.outputGeneration.getD 0 < 2 ^ 64

theorem length_packetHeader (frame : EncodedAudioFrame) (channels : Nat) :
    (packetHeader frame channels).length = headerBytes := by
  simp [packetHeader, packetMagic, headerBytes]

theorem readPacket_encodePacket {frame : EncodedAudioFrame} {channels : Nat}
    {packet : List UInt8} (words : frame.Words)
    (encoded : encodePacket frame channels = .ok packet) :
    readPacket packet =
      { channels := channels
        sequence := frame.rtpTime / opusFrameSamples
        timestamp := frame.rtpTime % 2 ^ 32
        durationSamples := opusFrameSamples
        payloadBytes := frame.payload.length
        captureTimestampNs := frame.captureTimestampNs
        outputGeneration := frame.outputGeneration.getD 0
        payload := frame.payload } := by
  obtain ⟨layout, -, -, bounded, -, rfl⟩ := encodePacket_eq_ok.mp encoded
  obtain ⟨sequence, timestamp, duration, length, capture, generation, payload⟩ :=
    (packetLayout frame channels).slices
  have sequenceFits : frame.rtpTime / opusFrameSamples < 256 ^ 8 :=
    (Nat.div_le_self _ _).trans_lt words.rtpTime
  have lengthFits : frame.payload.length < 256 ^ 2 := by
    unfold maxOpusPayloadBytes at bounded
    omega
  have channel : ofBeBytes (((packetHeader frame channels ++ frame.payload).drop 5).take 1) =
      channels := by
    rw [(packetLayout frame channels).parts]
    rcases layout with rfl | rfl <;> rfl
  simp only [readPacket, channel, fieldAt, sequence, timestamp, duration, length, capture,
    generation, payload]
  rw [ofBeBytes_toBeBytes_of_lt sequenceFits, ofBeBytes_toBeBytes,
    ofBeBytes_toBeBytes_of_lt (by decide), ofBeBytes_toBeBytes_of_lt lengthFits,
    ofBeBytes_toBeBytes_of_lt words.captureTimestampNs,
    ofBeBytes_toBeBytes_of_lt words.outputGeneration]
  rfl

/-- A frame becomes a packet exactly if it is a whole Opus packet on a packet boundary; the packet's
fields give back the frame, so that different frames make different packets. -/
theorem ingress_packet_exact (frame : EncodedAudioFrame) (channels : Nat) (words : frame.Words) :
    ((∃ packet, encodePacket frame channels = .ok packet) ↔
      (channels = 1 ∨ channels = 2) ∧ frame.durationSamples = 960 ∧
        1 ≤ frame.payload.length ∧ frame.payload.length ≤ 1275 ∧ frame.rtpTime % 960 = 0) ∧
    (∀ packet, encodePacket frame channels = .ok packet →
      packet.length = 40 + frame.payload.length ∧
      (readPacket packet).channels = channels ∧
      960 * (readPacket packet).sequence = frame.rtpTime ∧
      (readPacket packet).timestamp = frame.rtpTime % 2 ^ 32 ∧
      (readPacket packet).payload = frame.payload ∧
      (readPacket packet).captureTimestampNs = frame.captureTimestampNs ∧
      (readPacket packet).outputGeneration = frame.outputGeneration.getD 0) ∧
    (∀ packet other otherChannels, other.Words → encodePacket frame channels = .ok packet →
      encodePacket other otherChannels = .ok packet →
      channels = otherChannels ∧ frame.rtpTime = other.rtpTime ∧
        frame.payload = other.payload ∧ frame.captureTimestampNs = other.captureTimestampNs ∧
        frame.outputGeneration.getD 0 = other.outputGeneration.getD 0) := by
  refine ⟨?_, ?_, ?_⟩
  · constructor
    · rintro ⟨packet, encoded⟩
      obtain ⟨layout, duration, nonempty, bounded, aligned, -⟩ := encodePacket_eq_ok.mp encoded
      exact ⟨layout, duration, List.length_pos_iff.mpr nonempty, bounded, aligned⟩
    · rintro ⟨layout, duration, nonempty, bounded, aligned⟩
      exact ⟨_, encodePacket_eq_ok.mpr ⟨layout, duration, List.length_pos_iff.mp nonempty, bounded,
        aligned, rfl⟩⟩
  · intro packet encoded
    have fields := readPacket_encodePacket words encoded
    obtain ⟨-, -, -, -, aligned, rfl⟩ := encodePacket_eq_ok.mp encoded
    refine ⟨?_, ?_⟩
    · rw [List.length_append, length_packetHeader]
      rfl
    · rw [fields]
      exact ⟨rfl, Nat.mul_div_cancel' (Nat.dvd_of_mod_eq_zero aligned), rfl, rfl, rfl, rfl⟩
  · intro packet other otherChannels otherWords encoded otherEncoded
    have same := (readPacket_encodePacket words encoded).symm.trans
      (readPacket_encodePacket otherWords otherEncoded)
    obtain ⟨-, -, -, -, aligned, -⟩ := encodePacket_eq_ok.mp encoded
    obtain ⟨-, -, -, -, otherAligned, -⟩ := encodePacket_eq_ok.mp otherEncoded
    obtain ⟨layout, sequence, -, -, -, capture, generation, payload⟩ :=
      PacketFields.mk.inj same
    have time : frame.rtpTime = other.rtpTime := by
      unfold opusFrameSamples at sequence aligned otherAligned
      omega
    exact ⟨layout, time, payload, capture, generation⟩

/-- A frame near the end of the 64-bit clock. -/
theorem ingress_packet_exact_late : let frame : EncodedAudioFrame :=
      { payload := [1, 2, 3], wallclock := 0, rtpTime := 960 * 2 ^ 54, durationSamples := 960
        captureTimestampNs := 2 ^ 64 - 1, outputGeneration := none, number := 0, samples := [] }
    ∃ packet, encodePacket frame 2 = .ok packet ∧ packet.length = 43 ∧
      (readPacket packet).sequence = 2 ^ 54 ∧ (readPacket packet).timestamp = 0 := by
  intro frame
  have words : frame.Words := ⟨by decide, by decide, by decide⟩
  obtain ⟨accepted, fields, -⟩ := ingress_packet_exact frame 2 words
  obtain ⟨packet, encoded⟩ := accepted.mpr ⟨.inr rfl, rfl, by decide, by decide, by decide⟩
  obtain ⟨length, -, sequence, timestamp, -⟩ := fields packet encoded
  have time : frame.rtpTime = 960 * 2 ^ 54 := rfl
  exact ⟨packet, encoded, length, by omega, by omega⟩

end RelayConnector
