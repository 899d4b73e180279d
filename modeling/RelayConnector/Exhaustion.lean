/-
This file follows a bus until its sample clock has run out.

The clock counts samples in a 64-bit word and stops at the largest one, which is not a
whole number of packets. Getting there takes more than 10^16 packets, so the way is
described by what one more packet changes.
-/

import RelayConnector.Drive

namespace RelayConnector

open Words

/-- Silence for exactly one packet. -/
def packetOfSilence : AudioFrame UInt32 := capturedSilence opusFrameSamples 0 0

/-- The packet that is encoded after so many others. -/
def silentPacket (number : Nat) : EncodedAudioFrame where
  payload := [1]
  wallclock := 0
  rtpTime := saturatingMul opusFrameSamples number
  durationSamples := opusFrameSamples
  captureTimestampNs := 0
  outputGeneration := none
  number := number
  samples := (packetOfSilence.numbered number).samples

theorem length_packetOfSilence (index : Nat) :
    (packetOfSilence.numbered index).samples.length = opusFrameSamples := by
  rw [AudioFrame.numbered, List.length_map]
  exact List.length_replicate

/-- A bus of depth one that has encoded so many packets; the queue holds the first of them. -/
def wornView (number : Nat) : PipeView where
  frameDepth := 1
  encodedDepth := 1
  deliveryPolicy := .dropNewest
  channels := 1
  written := 0
  feeder := .checking
  received := number
  captureEndNs := 0
  frames := []
  encoder := .pushing (packetOfSilence.numbered (number - 1)) opusFrameSamples
  packetOutput := none
  rtpSampleCount := saturatingMul opusFrameSamples number
  encodedCount := number
  encoded := [silentPacket 0]
  taken := []

/-- The feeder of a bus without recovery takes three steps for a frame. -/
def captureSilence : List PipeAction := List.replicate 3 (.feeder (some packetOfSilence))

def encodeOnce : PipeAction := .encoder (some [1])

theorem view_captureSilence {pipe : Pipe} {view : PipeView} (seen : pipe.view = view)
    (phase : view.feeder = .checking) (empty : view.frames = []) (depth : view.frameDepth = 1)
    (running : view.encoder.ended = false) :
    (pipe.drive {} captureSilence).1.view =
      { view with
        feeder := .checking
        received := view.received + 1
        frames := [packetOfSilence.numbered view.received] } := by
  simp only [captureSilence, List.replicate, Pipe.drive_cons_fst, Pipe.act_feeder,
    Pipe.drive_nil_fst]
  have checked : (Pipe.feed _ {} (some packetOfSilence)).1.view =
      { view with feeder := .receiving } :=
    Pipe.view_feed_checking {} (some packetOfSilence) seen phase rfl rfl
  have received := Pipe.view_feed_receiving {} checked packetOfSilence rfl
  have sent := Pipe.view_feed_sending {} (some packetOfSilence) received rfl running
    (by simp [empty, depth])
  simp only [empty, List.nil_append] at sent
  exact sent

/-- From the encoder waiting for a frame to the packet waiting for the queue. -/
theorem view_encodeSilence {pipe : Pipe} {view : PipeView} (seen : pipe.view = view)
    {index : Nat} (phase : view.encoder = .receiving)
    (queue : view.frames = [packetOfSilence.numbered index]) (mono : view.channels = 1)
    (output : view.packetOutput = none) (empty : view.written = 0)
    (clock : view.rtpSampleCount = saturatingMul opusFrameSamples view.encodedCount)
    (index_eq : index = view.encodedCount) :
    (pipe.drive {} (List.replicate 6 encodeOnce)).1.view =
      { view with
        written := opusFrameSamples
        frames := []
        rtpSampleCount := saturatingMul opusFrameSamples (view.encodedCount + 1)
        encodedCount := view.encodedCount + 1
        encoder := .sending (silentPacket view.encodedCount)
          (some (packetOfSilence.numbered index, opusFrameSamples)) } := by
  subst index_eq
  simp only [encodeOnce, List.replicate, Pipe.drive_cons_fst, Pipe.act_encoder,
    Pipe.drive_nil_fst]
  generalize framed : packetOfSilence.numbered view.encodedCount = frame at queue ⊢
  have length : frame.samples.length = opusFrameSamples := by
    rw [← framed]
    exact length_packetOfSilence view.encodedCount
  have taken : (Pipe.encode _ {} (some [1])).1.view =
      { view with frames := [], encoder := .admitting frame } :=
    Pipe.view_encode_receiving {} (some [1]) seen phase queue
  have begun : (Pipe.encode _ {} (some [1])).1.view =
      { view with frames := [], encoder := .pushing frame 0 } :=
    Pipe.view_encode_admitting {} (some [1]) taken rfl (by rw [← framed]; rfl)
      (by rw [mono, ← framed]; rfl) (by rw [← framed]; rfl) output empty
      (by rw [mono]; exact Nat.mod_one _)
  have filled := Pipe.view_encode_pushing {} (some [1]) begun rfl empty
    (by rw [mono, length, Nat.zero_add, Nat.mul_one])
  have whole : (frame.samples.drop 0).take opusFrameSamples = frame.samples := by
    rw [List.drop_zero, ← length, List.take_length]
  have stamp : saturatingAdd frame.timestampNs (offsetNs (0 / 1)) = 0 := by
    rw [← framed]
    rfl
  simp only [mono, Nat.mul_one, Nat.zero_add, whole, stamp] at filled
  have vetted : (Pipe.encode _ {} (some [1])).1.view =
      { view with
        channels := 1
        written := opusFrameSamples
        frames := []
        encoder := .encoding ⟨frame.samples, 0⟩ (some (frame, opusFrameSamples)) } :=
    Pipe.view_encode_vetting {} (some [1]) filled rfl output
  have encoded := Pipe.view_encode_encoding {} vetted [1] rfl
  simp only [clock, saturatingAdd_saturatingMul] at encoded
  have delivered := Pipe.view_encode_delivering {} (some [1]) encoded rfl output
  refine Eq.trans delivered ?_
  rw [mono, output, silentPacket, framed]

/-- One more frame: the packet finds the queue full. -/
theorem view_offerSilence {pipe : Pipe} {number : Nat} (seen : pipe.view = wornView number) :
    (pipe.drive {} (captureSilence ++ List.replicate 7 encodeOnce)).1.view =
      { wornView (number + 1) with
        written := opusFrameSamples
        encoder := .sending (silentPacket number)
          (some (packetOfSilence.numbered number, opusFrameSamples)) } := by
  have captured := view_captureSilence seen rfl rfl rfl rfl
  have done := Pipe.view_encode_pushed {} (some [1]) captured
    (by rw [length_packetOfSilence]; rfl)
  have offered := view_encodeSilence done rfl rfl rfl rfl rfl rfl rfl
  rw [Pipe.drive_append_fst, List.replicate_succ, Pipe.drive_cons_fst, encodeOnce, Pipe.act_encoder]
  exact offered

/-- A frame whose packet finds the queue full. -/
def passSilence : List PipeAction := captureSilence ++ List.replicate 8 encodeOnce

/-- The packet is dropped, and the bus is ready for the next frame. -/
theorem view_passSilence {pipe : Pipe} {number : Nat} (seen : pipe.view = wornView number) :
    (pipe.drive {} passSilence).1.view = wornView (number + 1) := by
  have offered := view_offerSilence seen
  have dropped := Pipe.view_encode_dropping {} (some [1]) offered rfl (Nat.le_refl _) rfl
  rw [passSilence, List.replicate_succ', ← List.append_assoc, Pipe.drive_append_fst,
    Pipe.drive_cons_fst, Pipe.drive_nil_fst]
  exact dropped

/-- The first packet finds the queue empty. -/
theorem view_firstSilence :
    ((default : BusLayout).pipe.drive {} passSilence).1.view = wornView 1 := by
  have captured := view_captureSilence (rfl : (default : BusLayout).pipe.view = _) rfl rfl rfl rfl
  have started := Pipe.view_encode_starting {} captured [1] rfl
  have offered := view_encodeSilence started rfl rfl rfl rfl rfl rfl rfl
  have queued := Pipe.view_encode_sending {} (some [1]) offered rfl Nat.one_pos
  rw [passSilence, Pipe.drive_append_fst, List.replicate_succ, Pipe.drive_cons_fst,
    List.replicate_succ', Pipe.drive_append_fst, Pipe.drive_cons_fst, Pipe.drive_nil_fst]
  exact queued

/-- The least number of a packet whose samples a 64-bit clock cannot count. -/
def firstUncounted : Nat := 19215358410114117

/-- As many packets as the clock can count, and one more that waits for room in the queue. -/
def exhaustClock : List PipeAction :=
  (List.replicate firstUncounted passSilence).flatten ++
    (captureSilence ++ List.replicate 7 encodeOnce)

theorem view_exhaustClock :
    ((default : BusLayout).pipe.drive {} exhaustClock).1.view =
      { wornView (firstUncounted + 1) with
        written := opusFrameSamples
        encoder := .sending (silentPacket firstUncounted)
          (some (packetOfSilence.numbered firstUncounted, opusFrameSamples)) } := by
  have worn : ∀ times, ((default : BusLayout).pipe.drive {}
      (List.replicate (times + 1) passSilence).flatten).1.view = wornView (1 + times) := by
    intro times
    rw [List.replicate_succ, List.flatten_cons, Pipe.drive_append_fst]
    exact Pipe.drive_repeated (motive := fun number pipe => pipe.view = wornView number)
      (fun _ _ seen => view_passSilence seen) times view_firstSilence
  rw [exhaustClock, Pipe.drive_append_fst]
  exact view_offerSilence (worn 19215358410114116)

end RelayConnector
