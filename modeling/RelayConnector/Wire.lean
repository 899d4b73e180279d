/-
This file models `encode_packet` of `rtc/gateway.rs`: the fixed forty-byte header in
front of every Opus payload. The sequence field is the sample timestamp in packets, so
it numbers the packets of a bus exactly when the timestamp is a multiple of a packet.
-/

import RelayConnector.Pipeline

namespace RelayConnector

open Words

def headerBytes : Nat := 40

def maxOpusPayloadBytes : Nat := 1275

/-- The four bytes `PKSO`. -/
def packetMagic : List UInt8 := [0x50, 0x4b, 0x53, 0x4f]

/-- The sequence field counts packets: the sample timestamp over the packet duration. -/
def packetHeader (frame : EncodedAudioFrame) (channels : Nat) : List UInt8 :=
  packetMagic ++ [1, UInt8.ofNat channels, 0, 0] ++
    toBeBytes 8 (frame.rtpTime / opusFrameSamples) ++ (toBeBytes 8 frame.rtpTime).drop 4 ++
    toBeBytes 2 opusFrameSamples ++ toBeBytes 2 frame.payload.length ++
    toBeBytes 8 frame.captureTimestampNs ++ toBeBytes 8 (frame.outputGeneration.getD 0)

def encodePacket (frame : EncodedAudioFrame) (channels : Nat) : Except String (List UInt8) :=
  if ¬(channels = 1 ∨ channels = 2) ∨ frame.durationSamples ≠ opusFrameSamples ∨
      frame.payload = [] ∨ maxOpusPayloadBytes < frame.payload.length then
    .error "Relay ingress requires mono/stereo 20 ms Opus packets bounded to 1275 bytes"
  else if frame.rtpTime % opusFrameSamples ≠ 0 then
    .error "Relay ingress Opus sample timestamp is not frame-aligned"
  else .ok (packetHeader frame channels ++ frame.payload)

/-- The field at bytes 8 to 15. -/
def sequenceField (packet : List UInt8) : Nat := ofBeBytes ((packet.drop 8).take 8)

theorem encodePacket_eq_ok {frame : EncodedAudioFrame} {channels : Nat} {packet : List UInt8} :
    encodePacket frame channels = .ok packet ↔
      (channels = 1 ∨ channels = 2) ∧ frame.durationSamples = opusFrameSamples ∧
        frame.payload ≠ [] ∧ frame.payload.length ≤ maxOpusPayloadBytes ∧
        frame.rtpTime % opusFrameSamples = 0 ∧
        packet = packetHeader frame channels ++ frame.payload := by
  unfold encodePacket
  split
  next refused =>
    constructor
    · intro impossible
      cases impossible
    · rintro ⟨layout, duration, nonempty, bounded, _⟩
      exact absurd refused (by simp [layout, duration, nonempty, Nat.not_lt.mpr bounded])
  next accepted =>
    simp only [not_or, not_not, Nat.not_lt] at accepted
    obtain ⟨neither, duration, nonempty, bounded⟩ := accepted
    have layout : channels = 1 ∨ channels = 2 := by omega
    split
    next misaligned =>
      constructor
      · intro impossible
        cases impossible
      · rintro ⟨_, _, _, _, aligned, _⟩
        exact absurd aligned misaligned
    next aligned =>
      rw [not_not] at aligned
      simp [layout, duration, nonempty, bounded, aligned, eq_comm]

/-- Two fields of a packet, by their place in the header. -/
theorem packetHeader_split (frame : EncodedAudioFrame) (channels : Nat) (rest : List UInt8) :
    ∃ front back, front.length = 8 ∧
      packetHeader frame channels ++ rest =
        front ++ (toBeBytes 8 (frame.rtpTime / opusFrameSamples) ++
          ((toBeBytes 8 frame.rtpTime).drop 4 ++ back)) := by
  refine ⟨packetMagic ++ [1, UInt8.ofNat channels, 0, 0],
    toBeBytes 2 opusFrameSamples ++ toBeBytes 2 frame.payload.length ++
      toBeBytes 8 frame.captureTimestampNs ++ toBeBytes 8 (frame.outputGeneration.getD 0) ++ rest,
    rfl, ?_⟩
  simp only [packetHeader, List.append_assoc]

/-- A packet's sequence field is its timestamp in packets. -/
theorem sequenceField_encodePacket {frame : EncodedAudioFrame} {channels : Nat}
    {packet : List UInt8} (encoded : encodePacket frame channels = .ok packet)
    (fits : frame.rtpTime < 2 ^ 64) : sequenceField packet = frame.rtpTime / opusFrameSamples := by
  obtain ⟨_, _, _, _, _, rfl⟩ := encodePacket_eq_ok.mp encoded
  obtain ⟨front, back, length, split⟩ := packetHeader_split frame channels frame.payload
  have field : (((packetHeader frame channels ++ frame.payload).drop 8).take 8) =
      toBeBytes 8 (frame.rtpTime / opusFrameSamples) := by
    rw [split, ← length, List.drop_left, length, List.take_append_of_le_length (by simp),
      List.take_of_length_le (by simp)]
  rw [sequenceField, field, ofBeBytes_toBeBytes_of_lt]
  exact (Nat.div_le_self _ _).trans_lt fits

end RelayConnector
