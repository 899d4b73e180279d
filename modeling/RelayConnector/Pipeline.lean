/-
This file models the two worker threads of one bus: the feeder loop of `runtime.rs`,
which moves captured frames into a bounded channel, and the encoder thread of
`audio/opus_worker.rs`, which cuts them into packets, encodes them and queues them for
the publisher.

Each thread is a state machine whose steps make one access to shared state. Three
things are carried that the program does not have, so that whole runs can be spoken
about: every received frame has an index and every sample the index of its frame;
every encoded frame has a number and the samples it was made of; and the frames the
publisher has received are remembered.
-/

import RelayConnector.Packetizer

namespace RelayConnector

open Words

/-- One sample: the bits of an `f32`, and the index of the received frame it came from. Padding
came from none. -/
structure PcmSample where
  bits : UInt32
  origin : Option Nat := none
  deriving DecidableEq, Repr

instance : Zero PcmSample := ⟨{ bits := 0 }⟩

/-- A frame as the feeder holds it. -/
structure SourceFrame extends AudioFrame PcmSample where
  index : Nat
  tagged : ∀ sample ∈ samples, sample.origin = some index

/-- The `index`-th frame received on a bus. -/
def AudioFrame.numbered (frame : AudioFrame UInt32) (index : Nat) : SourceFrame where
  samples := frame.samples.map fun bits => { bits := bits, origin := some index }
  sampleRateHz := frame.sampleRateHz
  channels := frame.channels
  sequenceNumber := frame.sequenceNumber
  timestampNs := frame.timestampNs
  outputGeneration := frame.outputGeneration
  framed := frame.framed
  index := index
  tagged := by simp

/-- Where the feeder says a frame's capture ends. -/
def AudioFrame.captureEndNs {Sample : Type} (frame : AudioFrame Sample) : Nat :=
  let sampleFrames := frame.samples.length / frame.channels
  let durationNs := saturatingMul sampleFrames 1000000000 / 48000
  saturatingAdd frame.timestampNs durationNs

/-- `EncodedAudioFrame`. `number` counts the frames encoded on the bus before this one and
`samples` is the packet the payload was made of. -/
structure EncodedAudioFrame where
  payload : List UInt8
  wallclock : Nat
  rtpTime : Nat
  durationSamples : Nat
  captureTimestampNs : Nat
  outputGeneration : Option Nat
  number : Nat
  samples : List PcmSample
  deriving DecidableEq, Repr

inductive EncodedDeliveryPolicy where
  | preserveWithBackpressure
  | dropNewest
  deriving DecidableEq, Repr

/-- The counters of `EncoderCounters` that the packet path raises; each is a wrapping word. -/
structure EncoderCounters where
  normalizationPartialSamplesDiscarded : Nat := 0
  normalizationTailPaddingSamplesTotal : Nat := 0
  opusPacketsOut : Nat := 0
  opusEncodeErrors : Nat := 0
  encodedChannelDrops : Nat := 0
  publisherStaleDrops : Nat := 0
  cancelledOutputFrames : Nat := 0
  cancelledOutputSamples : Nat := 0
  deriving DecidableEq, Repr

/-- What the threads of a bus read of the rest of the process. -/
structure Ambient where
  now : Nat := 0
  stopRequested : Bool := false
  abortRequested : Bool := false
  transportStop : Bool := false
  /-- The output generations that have been cancelled, by id. -/
  cancelled : Nat → Bool := fun _ => false
  /-- `delivery.paused`; there is no delivery state without recovery. -/
  paused : Option Bool := none

/-- `OutputGeneration::is_active` of a frame's generation, if it has one. -/
def Ambient.inactive (ambient : Ambient) (outputGeneration : Option Nat) : Bool :=
  outputGeneration.any ambient.cancelled

/-! ### The threads' states -/

inductive FeederPhase where
  /-- At the head of the loop. -/
  | checking
  /-- Before `receiver.try_recv`. -/
  | receiving
  /-- Before `capture_end_ns[index].fetch_max`. -/
  | stamping (frame : SourceFrame)
  /-- Before the load of `delivery.paused`. -/
  | gating (frame : SourceFrame)
  /-- Before `frame_tx.try_send`. -/
  | sending (frame : SourceFrame)
  /-- Nothing was received; before `shutdown_mode`. -/
  | idling
  /-- The thread has ended and dropped its sender. -/
  | stopped

/-- The position in the frame under way to which the encoder returns after a packet; the tail
packet has none. -/
abbrev Resume := Option (SourceFrame × Nat)

inductive EncoderPhase where
  /-- Before `EncoderWorker::new`. -/
  | starting
  /-- Before `frame_rx.recv`. -/
  | receiving
  /-- A frame has been received; before the format and generation checks. -/
  | admitting (frame : SourceFrame)
  /-- In the inner loop over the frame's samples. -/
  | pushing (frame : SourceFrame) (offset : Nat)
  /-- In `encode_and_deliver`, before the generation check. -/
  | vetting (packet : PcmPacket PcmSample) (resume : Resume)
  /-- In `encode_and_deliver`, before the codec. -/
  | encoding (packet : PcmPacket PcmSample) (resume : Resume)
  /-- In `deliver_encoded_frame`, before the generation check. -/
  | delivering (frame : EncodedAudioFrame) (resume : Resume)
  /-- In `deliver_encoded_frame`, before the send. -/
  | sending (frame : EncodedAudioFrame) (resume : Resume)
  /-- The thread has ended and dropped both channel ends. -/
  | stopped

/-- One bus between capture and publisher. -/
structure Pipe where
  frameDepth : Nat
  encodedDepth : Nat
  deliveryPolicy : EncodedDeliveryPolicy
  packetizer : PcmPacketizer PcmSample
  feeder : FeederPhase := .checking
  /-- The number of frames the feeder has received. -/
  received : Nat := 0
  /-- `delivery.capture_end_ns[index]`. -/
  captureEndNs : Nat := 0
  /-- `delivery.input_drops[index]`. -/
  inputDrops : Nat := 0
  ingressQueueDrops : Nat := 0
  frames : List SourceFrame := []
  encoder : EncoderPhase := .starting
  packetOutput : Option Nat := none
  rtpSampleCount : Nat := 0
  /-- The number of frames encoded. -/
  encodedCount : Nat := 0
  encoded : List EncodedAudioFrame := []
  /-- The frames the publisher has received, oldest first. -/
  taken : List EncodedAudioFrame := []
  counters : EncoderCounters := {}

/-- How a bus is laid out before its threads start. -/
structure BusLayout where
  channels : Nat
  /-- `relay_stream_profile` accepts mono and stereo. -/
  supported : channels = 1 ∨ channels = 2
  frameDepth : Nat
  encodedDepth : Nat
  /-- Both channels have room: their depths come from a latency profile. -/
  roomy : 0 < frameDepth ∧ 0 < encodedDepth
  deliveryPolicy : EncodedDeliveryPolicy

instance : Inhabited BusLayout where
  default :=
    { channels := 1
      supported := .inl rfl
      frameDepth := 1
      encodedDepth := 1
      roomy := ⟨Nat.one_pos, Nat.one_pos⟩
      deliveryPolicy := .dropNewest }

def BusLayout.pipe (layout : BusLayout) : Pipe where
  frameDepth := layout.frameDepth
  encodedDepth := layout.encodedDepth
  deliveryPolicy := layout.deliveryPolicy
  packetizer := .silent layout.channels layout.supported

/-- Why captured samples go no further. -/
inductive Disposal where
  /-- The feeder drops a frame while delivery is paused, -/
  | paused
  /-- because the frame channel is full, -/
  | channelFull
  /-- or because the encoder thread is gone. -/
  | unqueued
  /-- The encoder skips a frame of another rate or channel count, -/
  | misformatted
  /-- a frame of a cancelled output, -/
  | cancelledFrame
  /-- or one that is no whole number of sample frames. -/
  | misaligned
  /-- A partial packet is discarded at a gap in the sequence numbers, -/
  | sequenceGap
  /-- or because the output changes. -/
  | outputChanged
  /-- A packet is not encoded: its output was cancelled, -/
  | cancelledPacket
  /-- or the codec failed. -/
  | encodeFailed
  /-- An encoded frame is not queued: its output was cancelled, -/
  | cancelledEncoded
  /-- or the channel to the publisher is full. -/
  | encodedDropped
  /-- The publisher drops its receiver before it has received an encoded frame; -/
  | undelivered
  /-- then the encoder ends in the middle of a frame. -/
  | interrupted
  deriving DecidableEq, Repr

/-- What the threads of a bus do that a run is later asked about. -/
inductive PipeEvent where
  /-- The feeder received a frame. -/
  | received (frame : SourceFrame)
  /-- The feeder raised `capture_end_ns` to the frame's end. -/
  | stamped (index captureEndNs : Nat)
  | disposed (reason : Disposal) (samples : List PcmSample)
  /-- `EncoderWorker::new` failed. -/
  | unstarted
  /-- `pad_tail` added zeros. -/
  | padded (padding : Nat)
  | encoded (frame : EncodedAudioFrame)

/-- The frames received in a history, oldest first. -/
def receivedIn (events : List PipeEvent) : List SourceFrame :=
  events.reverse.filterMap fun
    | .received frame => some frame
    | _ => none

def FeederPhase.ended : FeederPhase → Bool
  | .stopped => true
  | _ => false

def EncoderPhase.ended : EncoderPhase → Bool
  | .stopped => true
  | _ => false

namespace Pipe

/-! ### The feeder -/

/-- One step of the feeder. `arrival` is what `receiver.try_recv` returns. -/
def feed (pipe : Pipe) (ambient : Ambient) (arrival : Option (AudioFrame UInt32)) :
    Pipe × List PipeEvent :=
  match pipe.feeder with
  | .checking =>
    if ambient.transportStop || ambient.abortRequested then ({ pipe with feeder := .stopped }, [])
    else ({ pipe with feeder := .receiving }, [])
  | .receiving =>
    match arrival with
    | some frame =>
      let numbered := frame.numbered pipe.received
      ({ pipe with
          received := pipe.received + 1
          feeder := if ambient.paused.isSome then .stamping numbered else .sending numbered },
        [.received numbered])
    | none => ({ pipe with feeder := .idling }, [])
  | .stamping frame =>
    ({ pipe with
        captureEndNs := max pipe.captureEndNs frame.captureEndNs
        feeder := .gating frame }, [.stamped frame.index frame.captureEndNs])
  | .gating frame =>
    if ambient.paused == some true then
      ({ pipe with inputDrops := wrappingAdd pipe.inputDrops 1, feeder := .checking },
        [.disposed .paused frame.samples])
    else ({ pipe with feeder := .sending frame }, [])
  | .sending frame =>
    if pipe.encoder.ended then
      ({ pipe with feeder := .stopped }, [.disposed .unqueued frame.samples])
    else if pipe.frames.length < pipe.frameDepth then
      ({ pipe with frames := pipe.frames ++ [frame], feeder := .checking }, [])
    else
      ({ pipe with
          ingressQueueDrops := wrappingAdd pipe.ingressQueueDrops 1
          feeder := .checking }, [.disposed .channelFull frame.samples])
  | .idling =>
    if ambient.stopRequested || ambient.abortRequested then ({ pipe with feeder := .stopped }, [])
    else ({ pipe with feeder := .checking }, [])
  | .stopped => (pipe, [])

/-! ### The encoder -/

def countError (pipe : Pipe) : Pipe :=
  { pipe with counters :=
      { pipe.counters with
        opusEncodeErrors := wrappingAdd pipe.counters.opusEncodeErrors 1 } }

def countCancelled (pipe : Pipe) : Pipe :=
  { pipe with counters :=
      { pipe.counters with
        cancelledOutputFrames := wrappingAdd pipe.counters.cancelledOutputFrames 1 } }

/-- A publisher drops frames that are too old. -/
def countStale (staleDrops : Nat) (pipe : Pipe) : Pipe :=
  { pipe with counters :=
      { pipe.counters with
        publisherStaleDrops := wrappingAdd pipe.counters.publisherStaleDrops staleDrops } }

/-- After `encode_and_deliver`: `finish_packet` and back to the frame, or the end of the thread
after the tail packet. -/
def resume (pipe : Pipe) : Resume → Pipe
  | some (frame, offset) =>
    { pipe with packetizer := pipe.packetizer.finishPacket, encoder := .pushing frame offset }
  | none => { pipe with encoder := .stopped }

/-- The channel is empty and its sender gone: at most one padded packet remains. -/
def finishTail (pipe : Pipe) : Pipe × List PipeEvent :=
  match pipe.packetizer.padTail with
  | none => ({ pipe with encoder := .stopped }, [])
  | some (padded, padding) =>
    let counted :=
      { pipe with
        packetizer := padded
        counters :=
          { pipe.counters with
            normalizationTailPaddingSamplesTotal :=
              wrappingAdd pipe.counters.normalizationTailPaddingSamplesTotal padding } }
    match padded.completePacket with
    | some (samples, timestampNs) =>
      ({ counted with encoder := .vetting ⟨samples, timestampNs⟩ none }, [.padded padding])
    | none => ({ counted with encoder := .stopped }, [.padded padding])

/-- The partial packet that `begin_frame` reports as removed. -/
def discarded (pipe : Pipe) (boundary : PcmPacketizerBegin) : List PipeEvent :=
  if 0 < boundary.cancelledOutputDiscardedSamples then
    [.disposed .outputChanged pipe.packetizer.residual]
  else if 0 < boundary.discontinuityDiscardedSamples then
    [.disposed .sequenceGap pipe.packetizer.residual]
  else []

/-- A received frame: checked for its format and its generation, then begun. -/
def admitFrame (pipe : Pipe) (ambient : Ambient) (frame : SourceFrame) : Pipe × List PipeEvent :=
  if frame.sampleRateHz ≠ 48000 ∨ frame.channels ≠ pipe.packetizer.channels then
    ({ pipe.countError with encoder := .receiving }, [.disposed .misformatted frame.samples])
  else if ambient.inactive frame.outputGeneration then
    ({ pipe.countCancelled with encoder := .receiving }, [.disposed .cancelledFrame frame.samples])
  else
    match pipe.packetizer.beginFrame frame.sequenceNumber frame.samples.length
        frame.outputGeneration with
    | .error _ =>
      ({ pipe.countError with encoder := .receiving }, [.disposed .misaligned frame.samples])
    | .ok (packetizer, boundary) =>
      ({ pipe with
          packetizer := packetizer
          packetOutput :=
            if packetizer.outputGenerationId ≠ pipe.packetOutput then frame.outputGeneration
            else pipe.packetOutput
          counters :=
            { pipe.counters with
              normalizationPartialSamplesDiscarded :=
                wrappingAdd pipe.counters.normalizationPartialSamplesDiscarded
                  boundary.discontinuityDiscardedSamples
              cancelledOutputSamples :=
                wrappingAdd pipe.counters.cancelledOutputSamples
                  boundary.cancelledOutputDiscardedSamples }
          encoder := .pushing frame 0 }, pipe.discarded boundary)

/-- One round of the inner loop. -/
def pushRound (pipe : Pipe) (frame : SourceFrame) (offset : Nat) : Pipe :=
  if offset < frame.samples.length then
    let (pushed, copied) :=
      pipe.packetizer.push (frame.samples.drop offset) frame.timestampNs offset
    match pushed.completePacket with
    | some (samples, timestampNs) =>
      { pipe with
        packetizer := pushed
        encoder := .vetting ⟨samples, timestampNs⟩ (some (frame, offset + copied)) }
    | none => { pipe with packetizer := pushed, encoder := .pushing frame (offset + copied) }
  else { pipe with encoder := .receiving }

/-- The frame made of an encoded packet. The step of the sample clock is one packet. -/
def encodedFrame (pipe : Pipe) (ambient : Ambient) (packet : PcmPacket PcmSample)
    (payload : List UInt8) : EncodedAudioFrame where
  payload := payload
  wallclock := ambient.now
  rtpTime := pipe.rtpSampleCount
  durationSamples := opusFrameSamples
  captureTimestampNs := packet.timestampNs
  outputGeneration := pipe.packetOutput
  number := pipe.encodedCount
  samples := packet.samples

/-- The send of `deliver_encoded_frame`: with backpressure a full channel is waited for, else the
newest frame is dropped. -/
def sendEncoded (pipe : Pipe) (frame : EncodedAudioFrame) (next : Resume) :
    Pipe × List PipeEvent :=
  if pipe.encoded.length < pipe.encodedDepth then
    ({ pipe with encoded := pipe.encoded ++ [frame] }.resume next, [])
  else
    match pipe.deliveryPolicy with
    | .preserveWithBackpressure => (pipe, [])
    | .dropNewest =>
      ({ pipe with counters :=
          { pipe.counters with
            encodedChannelDrops := wrappingAdd pipe.counters.encodedChannelDrops 1 } }.resume next,
        [.disposed .encodedDropped frame.samples])

/-- One step of the encoder. `codec` is what the codec answers; it is asked in two phases only,
when the worker starts and when a packet is encoded. -/
def encode (pipe : Pipe) (ambient : Ambient) (codec : Option (List UInt8)) :
    Pipe × List PipeEvent :=
  match pipe.encoder with
  | .starting =>
    match codec with
    | none => ({ pipe.countError with encoder := .stopped }, [.unstarted])
    | some _ => ({ pipe with encoder := .receiving }, [])
  | .receiving =>
    match pipe.frames with
    | frame :: rest => ({ pipe with frames := rest, encoder := .admitting frame }, [])
    | [] => if pipe.feeder.ended then pipe.finishTail else (pipe, [])
  | .admitting frame => pipe.admitFrame ambient frame
  | .pushing frame offset => (pipe.pushRound frame offset, [])
  | .vetting packet next =>
    if ambient.inactive pipe.packetOutput then
      (pipe.countCancelled.resume next, [.disposed .cancelledPacket packet.samples])
    else ({ pipe with encoder := .encoding packet next }, [])
  | .encoding packet next =>
    match codec with
    | none => (pipe.countError.resume next, [.disposed .encodeFailed packet.samples])
    | some payload =>
      let frame := pipe.encodedFrame ambient packet payload
      ({ pipe with
          counters :=
            { pipe.counters with opusPacketsOut := wrappingAdd pipe.counters.opusPacketsOut 1 }
          rtpSampleCount := saturatingAdd pipe.rtpSampleCount opusFrameSamples
          encodedCount := pipe.encodedCount + 1
          encoder := .delivering frame next }, [.encoded frame])
  | .delivering frame next =>
    if ambient.inactive frame.outputGeneration then
      (pipe.countCancelled.resume next, [.disposed .cancelledEncoded frame.samples])
    else ({ pipe with encoder := .sending frame next }, [])
  | .sending frame next => pipe.sendEncoded frame next
  | .stopped => (pipe, [])

/-! ### The publisher's end -/

/-- What `encoded_rx.try_recv` returns. -/
inductive Received where
  | frame (frame : EncodedAudioFrame)
  | empty
  | disconnected

/-- `encoded_rx.try_recv`: the receiver of an ended encoder still drains the channel. -/
def tryRecv (pipe : Pipe) : Received × Pipe :=
  match pipe.encoded with
  | frame :: rest =>
    (.frame frame, { pipe with encoded := rest, taken := pipe.taken ++ [frame] })
  | [] => (if pipe.encoder.ended then .disconnected else .empty, pipe)

end Pipe

end RelayConnector
