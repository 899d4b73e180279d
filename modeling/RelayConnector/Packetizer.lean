/-
This file models `audio/pcm_packetizer.rs` and the part of the encoder thread that
drives it: a fixed buffer with one write cursor that cuts frames of any width into
packets of exactly twenty milliseconds.

The buffer is embedded, so what lies beyond the cursor is left over from earlier
packets; `residual` is the part that counts. The packetizer carries its bounds as
fields: a cursor beyond the packet cannot be built, which is why no push can index
outside the buffer.
-/

import RelayConnector.Words
import Mathlib.Tactic.Ring

namespace RelayConnector

open Words

/-- `OPUS_FRAME_SAMPLES`: one twenty-millisecond packet of one channel at 48 kHz. -/
def opusFrameSamples : Nat := 960

def maxChannels : Nat := 2

def maxInterleavedSamples : Nat := opusFrameSamples * maxChannels

/-- A source frame: `EndpointAudioFrame`, with interleaved samples. -/
structure AudioFrame (Sample : Type) where
  samples : List Sample
  sampleRateHz : Nat := 48000
  channels : Nat
  sequenceNumber : Nat
  timestampNs : Nat
  /-- The id of the frame's output generation, if it has one. -/
  outputGeneration : Option Nat := none
  /-- Core builds no frame without a channel. -/
  framed : 0 < channels

inductive PcmPacketizerError where
  | unsupportedChannelCount (channels : Nat)
  | unsupportedSampleRate (sampleRateHz : Nat)
  | misalignedInput (samples channels : Nat)
  deriving DecidableEq, Repr

structure PcmPacketizerBegin where
  discontinuityDiscardedSamples : Nat := 0
  cancelledOutputDiscardedSamples : Nat := 0
  deriving DecidableEq, Repr

/-- Bounded assembler for one 20 ms, 48 kHz mono or stereo transport packet. -/
structure PcmPacketizer (Sample : Type) where
  samples : List Sample
  written : Nat
  packetSamples : Nat
  channels : Nat
  packetTimestampNs : Nat
  expectedSequenceNumber : Option Nat
  outputGenerationId : Option Nat
  capacity : samples.length = maxInterleavedSamples
  supported : channels = 1 ∨ channels = 2
  sized : packetSamples = opusFrameSamples * channels
  within : written ≤ packetSamples

/-- One packet handed to the encoder, with the time of its first sample. -/
structure PcmPacket (Sample : Type) where
  samples : List Sample
  timestampNs : Nat

/-- `copy_from_slice` into the range of a buffer that starts at `start`. -/
def copyFromSlice {Sample : Type} (buffer : List Sample) (start : Nat) (input : List Sample) :
    List Sample :=
  buffer.take start ++ input ++ buffer.drop (start + input.length)

theorem length_copyFromSlice {Sample : Type} (buffer : List Sample) (start : Nat)
    (input : List Sample) (fits : start + input.length ≤ buffer.length) :
    (copyFromSlice buffer start input).length = buffer.length := by
  simp only [copyFromSlice, List.length_append, List.length_take, List.length_drop]
  omega

/-- The offset of a packet inside its frame, in nanoseconds. -/
def offsetNs (offsetFrames : Nat) : Nat := saturatingMul offsetFrames 1000000000 / 48000

namespace PcmPacketizer

variable {Sample : Type}

/-- The packetizer of a supported channel count before its first frame. -/
def silent [Zero Sample] (channels : Nat) (supported : channels = 1 ∨ channels = 2) :
    PcmPacketizer Sample where
  samples := List.replicate maxInterleavedSamples 0
  written := 0
  packetSamples := opusFrameSamples * channels
  channels := channels
  packetTimestampNs := 0
  expectedSequenceNumber := none
  outputGenerationId := none
  capacity := List.length_replicate
  supported := supported
  sized := rfl
  within := Nat.zero_le _

/-- `PcmPacketizer::new`. -/
def new [Zero Sample] (sampleRateHz channels : Nat) :
    Except PcmPacketizerError (PcmPacketizer Sample) :=
  if sampleRateHz ≠ 48000 then .error (.unsupportedSampleRate sampleRateHz)
  else if supported : channels = 1 ∨ channels = 2 then .ok (silent channels supported)
  else .error (.unsupportedChannelCount channels)

theorem packetSamples_pos (packetizer : PcmPacketizer Sample) : 0 < packetizer.packetSamples := by
  rw [packetizer.sized, opusFrameSamples]
  rcases packetizer.supported with one | two <;> omega

theorem packetSamples_le (packetizer : PcmPacketizer Sample) :
    packetizer.packetSamples ≤ packetizer.samples.length := by
  rw [packetizer.capacity, packetizer.sized, maxInterleavedSamples, maxChannels, opusFrameSamples]
  rcases packetizer.supported with one | two <;> omega

/-- `discard_partial`: the cursor returns to the start. -/
def discardPartial (packetizer : PcmPacketizer Sample) : PcmPacketizer Sample × Nat :=
  ({ packetizer with written := 0, packetTimestampNs := 0, within := Nat.zero_le _ },
    packetizer.written)

/-- Starts one source frame and reports any partial packet removed at its boundary. -/
def beginFrame (packetizer : PcmPacketizer Sample) (sequenceNumber sampleCount : Nat)
    (outputGenerationId : Option Nat) :
    Except PcmPacketizerError (PcmPacketizer Sample × PcmPacketizerBegin) :=
  if sampleCount % packetizer.channels ≠ 0 then
    .error (.misalignedInput sampleCount packetizer.channels)
  else
    let sequenceChanged := packetizer.expectedSequenceNumber.any (· != sequenceNumber)
    let outputChanged := decide (0 < packetizer.written) &&
      packetizer.outputGenerationId != outputGenerationId
    let (kept, discarded) :=
      if sequenceChanged || outputChanged then packetizer.discardPartial else (packetizer, 0)
    .ok
      ({ kept with
          expectedSequenceNumber := some (saturatingAdd sequenceNumber 1)
          outputGenerationId := outputGenerationId },
        { discontinuityDiscardedSamples :=
            if sequenceChanged && !outputChanged then discarded else 0
          cancelledOutputDiscardedSamples := if outputChanged then discarded else 0 })

/-- Copies as much of `input` as fits and returns the number of interleaved samples consumed.
The packet is stamped when its first sample arrives. -/
def push (packetizer : PcmPacketizer Sample) (input : List Sample)
    (inputTimestampNs inputOffset : Nat) : PcmPacketizer Sample × Nat :=
  let packetTimestampNs :=
    if packetizer.written = 0 then
      saturatingAdd inputTimestampNs (offsetNs (inputOffset / packetizer.channels))
    else packetizer.packetTimestampNs
  let copied := min input.length (packetizer.packetSamples - packetizer.written)
  ({ packetizer with
      samples := copyFromSlice packetizer.samples packetizer.written (input.take copied)
      written := packetizer.written + copied
      packetTimestampNs := packetTimestampNs
      capacity := by
        have bounded := packetizer.packetSamples_le
        have cursor := packetizer.within
        rw [length_copyFromSlice, packetizer.capacity]
        rw [List.length_take]
        omega
      within := by
        have cursor := packetizer.within
        omega },
    copied)

/-- `complete_packet`: the packet and the time of its first sample. -/
def completePacket (packetizer : PcmPacketizer Sample) : Option (List Sample × Nat) :=
  if packetizer.written = packetizer.packetSamples then
    some (packetizer.samples.take packetizer.packetSamples, packetizer.packetTimestampNs)
  else none

def finishPacket (packetizer : PcmPacketizer Sample) : PcmPacketizer Sample :=
  { packetizer with written := 0, packetTimestampNs := 0, within := Nat.zero_le _ }

/-- Zero-pads at most one final packet during orderly shutdown. -/
def padTail [Zero Sample] (packetizer : PcmPacketizer Sample) :
    Option (PcmPacketizer Sample × Nat) :=
  if packetizer.written = 0 then none
  else
    let padding := packetizer.packetSamples - packetizer.written
    some
      ({ packetizer with
          samples := copyFromSlice packetizer.samples packetizer.written
            (List.replicate padding 0)
          written := packetizer.packetSamples
          capacity := by
            have bounded := packetizer.packetSamples_le
            have cursor := packetizer.within
            rw [length_copyFromSlice, packetizer.capacity]
            rw [List.length_replicate]
            omega
          within := le_refl _ },
        padding)

/-- The samples of the packet under assembly. -/
def residual (packetizer : PcmPacketizer Sample) : List Sample :=
  packetizer.samples.take packetizer.written

end PcmPacketizer

end RelayConnector
