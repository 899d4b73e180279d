/-
This file says what a step of a worker thread can do, and what it disposes of.

The threads of a bus are functions of the pipe. Here each of their branches gets a name:
what must hold for it, what the pipe is afterwards, and which samples go no further and
why. Properties of the threads are then proved by going through the branches once.
-/

import RelayConnector.Provenance

namespace RelayConnector

open Words

/-! ### Counters -/

/-- What a 64-bit counter shows of a total. -/
def shown (total : Nat) : Nat := total % 2 ^ 64

@[simp] theorem wrappingAdd_shown (total amount : Nat) :
    wrappingAdd (shown total) amount = shown (total + amount) :=
  Nat.mod_add_mod total (2 ^ 64) amount

/-! ### What leaves a bus -/

/-- What left a bus, and why. -/
abbrev Disposals := List (Disposal × List PcmSample)

namespace Disposals

/-- How often something was disposed of for a reason. -/
def times (disposals : Disposals) (reason : Disposal) : Nat :=
  disposals.countP fun entry => entry.1 == reason

/-- How many samples were disposed of for a reason. -/
def size (disposals : Disposals) (reason : Disposal) : Nat :=
  ((disposals.filter fun entry => entry.1 == reason).map fun entry => entry.2.length).sum

def samples (disposals : Disposals) : List PcmSample := disposals.flatMap Prod.snd

@[simp] theorem samples_append (first second : Disposals) :
    Disposals.samples (first ++ second) = first.samples ++ second.samples := List.flatMap_append

@[simp] theorem times_append (first second : Disposals) (reason : Disposal) :
    Disposals.times (first ++ second) reason = first.times reason + second.times reason :=
  List.countP_append

@[simp] theorem size_append (first second : Disposals) (reason : Disposal) :
    Disposals.size (first ++ second) reason = first.size reason + second.size reason := by
  simp [size]

@[simp] theorem times_nil (reason : Disposal) : Disposals.times [] reason = 0 := rfl

@[simp] theorem size_nil (reason : Disposal) : Disposals.size [] reason = 0 := rfl

@[simp] theorem times_singleton (entry : Disposal × List PcmSample) (reason : Disposal) :
    Disposals.times [entry] reason = if entry.1 = reason then 1 else 0 := by
  simp [times, List.countP_singleton]

@[simp] theorem size_singleton (entry : Disposal × List PcmSample) (reason : Disposal) :
    Disposals.size [entry] reason = if entry.1 = reason then entry.2.length else 0 := by
  by_cases same : entry.1 = reason <;> simp [size, same]

@[simp] theorem samples_nil : Disposals.samples [] = [] := rfl

@[simp] theorem samples_singleton (entry : Disposal × List PcmSample) :
    Disposals.samples [entry] = entry.2 := List.append_nil _

theorem size_le (disposals : Disposals) (reason : Disposal) :
    disposals.size reason ≤ disposals.samples.length := by
  induction disposals with
  | nil => exact Nat.le_refl _
  | cons entry rest hypothesis =>
    rw [← List.singleton_append, size_append, samples_append, List.length_append]
    refine Nat.add_le_add ?_ hypothesis
    rw [size_singleton, samples_singleton]
    split <;> omega

end Disposals

/-! ### What a history says -/

/-- What was disposed of in a history, oldest first. -/
def disposedIn (events : List PipeEvent) : Disposals :=
  events.reverse.filterMap fun
    | .disposed reason samples => some (reason, samples)
    | _ => none

/-- The zeros behind the last packet. -/
def paddingIn (events : List PipeEvent) : Nat :=
  (events.map fun
    | .padded padding => padding
    | _ => 0).sum

/-- Everything that came in: the samples of the received frames, and padding. -/
def enteredIn (events : List PipeEvent) : List PcmSample :=
  (receivedIn events).flatMap (·.samples) ++ List.replicate (paddingIn events) 0

/-- The encoder worker could not be made. -/
def unstartedIn (events : List PipeEvent) : Bool :=
  events.any fun
    | .unstarted => true
    | _ => false

theorem disposedIn_append (new events : List PipeEvent) :
    disposedIn (new ++ events) = disposedIn events ++ disposedIn new := by
  simp [disposedIn]

theorem paddingIn_append (new events : List PipeEvent) :
    paddingIn (new ++ events) = paddingIn events + paddingIn new := by
  simp [paddingIn, Nat.add_comm]

theorem unstartedIn_append (new events : List PipeEvent) :
    unstartedIn (new ++ events) = (unstartedIn events || unstartedIn new) := by
  simp [unstartedIn, Bool.or_comm]

@[simp] theorem disposedIn_nil : disposedIn [] = [] := rfl

@[simp] theorem disposedIn_singleton (reason : Disposal) (samples : List PcmSample) :
    disposedIn [.disposed reason samples] = [(reason, samples)] := rfl

namespace Pipe

/-- What is left of the frame to which the encoder returns. -/
def restOf : Resume → List PcmSample
  | some (frame, offset) => frame.samples.drop offset
  | none => []

/-- One step of the encoder when the receiver of its channel is gone: `deliver_encoded_frame`
returns false for a frame that it has to send, whatever the policy, and the thread returns. -/
def encodeDisconnected (pipe : Pipe) (ambient : Ambient) (codec : Option (List UInt8)) :
    Pipe × List PipeEvent :=
  match pipe.encoder with
  | .sending frame next =>
    ({ pipe with encoder := .stopped },
      [.disposed .interrupted (restOf next), .disposed .undelivered frame.samples])
  | _ => pipe.encode ambient codec

/-- The counter that belongs to a reason of the encoder. -/
def charge (pipe : Pipe) : Disposal → Pipe
  | .misformatted | .misaligned | .encodeFailed => pipe.countError
  | .cancelledFrame | .cancelledPacket | .cancelledEncoded => pipe.countCancelled
  | .encodedDropped =>
    { pipe with counters :=
        { pipe.counters with
          encodedChannelDrops := wrappingAdd pipe.counters.encodedChannelDrops 1 } }
  | _ => pipe

end Pipe

/-! ### The branches of the feeder -/

/-- A step of the feeder, with the frames it receives and what it disposes of. -/
inductive FeederStep (pipe : Pipe) (ambient : Ambient) :
    Pipe → List SourceFrame → Disposals → Prop
  | ended (phase : pipe.feeder = .stopped) : FeederStep pipe ambient pipe [] []
  /-- The transport is stopping, the process aborts, or there is nothing more to come. -/
  | stop (phase : pipe.feeder = .checking ∧ (ambient.transportStop || ambient.abortRequested) = true
      ∨ pipe.feeder = .idling ∧ (ambient.stopRequested || ambient.abortRequested) = true) :
      FeederStep pipe ambient { pipe with feeder := .stopped } [] []
  | look (phase : pipe.feeder = .checking)
      (goes : (ambient.transportStop || ambient.abortRequested) = false) :
      FeederStep pipe ambient { pipe with feeder := .receiving } [] []
  | wait (phase : pipe.feeder = .receiving) :
      FeederStep pipe ambient { pipe with feeder := .idling } [] []
  | loop (phase : pipe.feeder = .idling) :
      FeederStep pipe ambient { pipe with feeder := .checking } [] []
  | receive (phase : pipe.feeder = .receiving) (frame : AudioFrame UInt32) (next : FeederPhase)
      (goes : next = .stamping (frame.numbered pipe.received) ∨
        next = .sending (frame.numbered pipe.received)) :
      FeederStep pipe ambient { pipe with received := pipe.received + 1, feeder := next }
        [frame.numbered pipe.received] []
  | stamp (frame : SourceFrame) (phase : pipe.feeder = .stamping frame) :
      FeederStep pipe ambient
        { pipe with
          captureEndNs := max pipe.captureEndNs frame.captureEndNs
          feeder := .gating frame } [] []
  | pass (frame : SourceFrame) (phase : pipe.feeder = .gating frame) :
      FeederStep pipe ambient { pipe with feeder := .sending frame } [] []
  | holdBack (frame : SourceFrame) (phase : pipe.feeder = .gating frame)
      (held : ambient.paused = some true) :
      FeederStep pipe ambient
        { pipe with inputDrops := wrappingAdd pipe.inputDrops 1, feeder := .checking } []
        [(.paused, frame.samples)]
  | abandon (frame : SourceFrame) (phase : pipe.feeder = .sending frame)
      (gone : pipe.encoder.ended = true) :
      FeederStep pipe ambient { pipe with feeder := .stopped } [] [(.unqueued, frame.samples)]
  | queue (frame : SourceFrame) (phase : pipe.feeder = .sending frame)
      (room : pipe.frames.length < pipe.frameDepth) :
      FeederStep pipe ambient
        { pipe with frames := pipe.frames ++ [frame], feeder := .checking } [] []
  | overflow (frame : SourceFrame) (phase : pipe.feeder = .sending frame) :
      FeederStep pipe ambient
        { pipe with
          ingressQueueDrops := wrappingAdd pipe.ingressQueueDrops 1
          feeder := .checking } [] [(.channelFull, frame.samples)]

theorem Pipe.feed_steps (pipe : Pipe) (ambient : Ambient) (arrival : Option (AudioFrame UInt32)) :
    FeederStep pipe ambient (pipe.feed ambient arrival).1
      (receivedIn (pipe.feed ambient arrival).2) (disposedIn (pipe.feed ambient arrival).2) := by
  unfold Pipe.feed
  cases phase : pipe.feeder with
  | checking =>
    cases stops : ambient.transportStop || ambient.abortRequested with
    | true => exact .stop (.inl ⟨phase, stops⟩)
    | false => exact .look phase stops
  | receiving =>
    cases arrival with
    | none => exact .wait phase
    | some frame =>
      refine .receive phase frame _ ?_
      cases ambient.paused.isSome with
      | true => exact .inl rfl
      | false => exact .inr rfl
  | stamping frame => exact .stamp frame phase
  | gating frame =>
    cases held : ambient.paused == some true with
    | true => exact .holdBack frame phase (beq_iff_eq.mp held)
    | false => exact .pass frame phase
  | sending frame =>
    cases gone : pipe.encoder.ended with
    | true => exact .abandon frame phase gone
    | false =>
      by_cases room : pipe.frames.length < pipe.frameDepth
      · simpa [room, receivedIn] using FeederStep.queue frame phase room
      · simpa [room, receivedIn] using FeederStep.overflow frame phase
  | idling =>
    cases stops : ambient.stopRequested || ambient.abortRequested with
    | true => exact .stop (.inr ⟨phase, stops⟩)
    | false => exact .loop phase
  | stopped => exact .ended phase

/-! ### The branches of the encoder -/

/-- The packet in hand can be given up for a reason; then the encoder returns. -/
inductive EncoderPhase.GivesUp : EncoderPhase → Disposal → List PcmSample → Resume → Prop
  | vetting (packet : PcmPacket PcmSample) (next : Resume) :
      GivesUp (.vetting packet next) .cancelledPacket packet.samples next
  | encoding (packet : PcmPacket PcmSample) (next : Resume) :
      GivesUp (.encoding packet next) .encodeFailed packet.samples next
  | delivering (frame : EncodedAudioFrame) (next : Resume) :
      GivesUp (.delivering frame next) .cancelledEncoded frame.samples next
  | sending (frame : EncodedAudioFrame) (next : Resume) :
      GivesUp (.sending frame next) .encodedDropped frame.samples next

/-- A step of the encoder, with what it disposes of, its padding, and whether the worker could not
be made. -/
inductive EncoderStep (pipe : Pipe) : Pipe → Disposals → Nat → Bool → Prop
  | ended (phase : pipe.encoder = .stopped) : EncoderStep pipe pipe [] 0 false
  | fail (phase : pipe.encoder = .starting) :
      EncoderStep pipe { pipe.countError with encoder := .stopped } [] 0 true
  | start (phase : pipe.encoder = .starting) :
      EncoderStep pipe { pipe with encoder := .receiving } [] 0 false
  | wait (phase : pipe.encoder = .receiving) (empty : pipe.frames = [])
      (open_ : pipe.feeder.ended = false) : EncoderStep pipe pipe [] 0 false
  | take (phase : pipe.encoder = .receiving) (frame : SourceFrame) (rest : List SourceFrame)
      (frames : pipe.frames = frame :: rest) :
      EncoderStep pipe { pipe with frames := rest, encoder := .admitting frame } [] 0 false
  | finish (phase : pipe.encoder = .receiving) (empty : pipe.frames = [])
      (closed : pipe.feeder.ended = true) (whole : pipe.packetizer.written = 0) :
      EncoderStep pipe { pipe with encoder := .stopped } [] 0 false
  | pad (phase : pipe.encoder = .receiving) (empty : pipe.frames = [])
      (closed : pipe.feeder.ended = true) (padded : PcmPacketizer PcmSample) (padding : Nat)
      (tail : pipe.packetizer.padTail = some (padded, padding)) :
      EncoderStep pipe
        { pipe with
          packetizer := padded
          counters :=
            { pipe.counters with
              normalizationTailPaddingSamplesTotal :=
                wrappingAdd pipe.counters.normalizationTailPaddingSamplesTotal padding }
          encoder := .vetting ⟨padded.residual, padded.packetTimestampNs⟩ none } [] padding false
  | skip (frame : SourceFrame) (phase : pipe.encoder = .admitting frame) (reason : Disposal)
      (known : reason = .misformatted ∨ reason = .cancelledFrame ∨ reason = .misaligned) :
      EncoderStep pipe { pipe.charge reason with encoder := .receiving }
        [(reason, frame.samples)] 0 false
  | begin (frame : SourceFrame) (phase : pipe.encoder = .admitting frame)
      (packetizer : PcmPacketizer PcmSample) (boundary : PcmPacketizerBegin)
      (packetOutput : Option Nat)
      (begun : pipe.packetizer.beginFrame frame.sequenceNumber frame.samples.length
        frame.outputGeneration = .ok (packetizer, boundary)) :
      EncoderStep pipe
        { pipe with
          packetizer := packetizer
          packetOutput := packetOutput
          counters :=
            { pipe.counters with
              normalizationPartialSamplesDiscarded :=
                wrappingAdd pipe.counters.normalizationPartialSamplesDiscarded
                  boundary.discontinuityDiscardedSamples
              cancelledOutputSamples :=
                wrappingAdd pipe.counters.cancelledOutputSamples
                  boundary.cancelledOutputDiscardedSamples }
          encoder := .pushing frame 0 } (disposedIn (pipe.discarded boundary)) 0 false
  | copy (frame : SourceFrame) (offset : Nat) (phase : pipe.encoder = .pushing frame offset)
      (more : offset < frame.samples.length) (pushed : PcmPacketizer PcmSample) (copied : Nat)
      (push : pipe.packetizer.push (frame.samples.drop offset) frame.timestampNs offset =
        (pushed, copied)) (short : pushed.completePacket = none) :
      EncoderStep pipe
        { pipe with packetizer := pushed, encoder := .pushing frame (offset + copied) } [] 0 false
  | complete (frame : SourceFrame) (offset : Nat) (phase : pipe.encoder = .pushing frame offset)
      (more : offset < frame.samples.length) (pushed : PcmPacketizer PcmSample) (copied : Nat)
      (push : pipe.packetizer.push (frame.samples.drop offset) frame.timestampNs offset =
        (pushed, copied)) (full : pushed.written = pushed.packetSamples) :
      EncoderStep pipe
        { pipe with
          packetizer := pushed
          encoder := .vetting ⟨pushed.residual, pushed.packetTimestampNs⟩
            (some (frame, offset + copied)) } [] 0 false
  | exhaust (frame : SourceFrame) (offset : Nat) (phase : pipe.encoder = .pushing frame offset)
      (all : frame.samples.length ≤ offset) :
      EncoderStep pipe { pipe with encoder := .receiving } [] 0 false
  | vet (packet : PcmPacket PcmSample) (next : Resume)
      (phase : pipe.encoder = .vetting packet next) :
      EncoderStep pipe { pipe with encoder := .encoding packet next } [] 0 false
  | encode (packet : PcmPacket PcmSample) (next : Resume)
      (phase : pipe.encoder = .encoding packet next) (frame : EncodedAudioFrame)
      (samples : frame.samples = packet.samples) :
      EncoderStep pipe
        { pipe with
          counters :=
            { pipe.counters with opusPacketsOut := wrappingAdd pipe.counters.opusPacketsOut 1 }
          rtpSampleCount := saturatingAdd pipe.rtpSampleCount opusFrameSamples
          encodedCount := pipe.encodedCount + 1
          encoder := .delivering frame next } [] 0 false
  | deliver (frame : EncodedAudioFrame) (next : Resume)
      (phase : pipe.encoder = .delivering frame next) :
      EncoderStep pipe { pipe with encoder := .sending frame next } [] 0 false
  | queue (frame : EncodedAudioFrame) (next : Resume) (phase : pipe.encoder = .sending frame next)
      (room : pipe.encoded.length < pipe.encodedDepth) :
      EncoderStep pipe ({ pipe with encoded := pipe.encoded ++ [frame] }.resume next) [] 0 false
  | block (frame : EncodedAudioFrame) (next : Resume) (phase : pipe.encoder = .sending frame next)
      (full : pipe.encodedDepth ≤ pipe.encoded.length)
      (policy : pipe.deliveryPolicy = .preserveWithBackpressure) : EncoderStep pipe pipe [] 0 false
  | giveUp (current : EncoderPhase) (phase : pipe.encoder = current) (reason : Disposal)
      (samples : List PcmSample) (next : Resume) (gives : current.GivesUp reason samples next)
      (lossy : reason = .encodedDropped → pipe.deliveryPolicy = .dropNewest ∧
        pipe.encodedDepth ≤ pipe.encoded.length) :
      EncoderStep pipe ((pipe.charge reason).resume next) [(reason, samples)] 0 false

namespace Pipe

/-- A reason raises a counter and changes nothing else. -/
theorem charge_eq (pipe : Pipe) (reason : Disposal) :
    ∃ counters, pipe.charge reason = { pipe with counters := counters } := by
  cases reason <;> exact ⟨_, rfl⟩

/-- A return changes the packet and the place of the encoder. -/
theorem resume_eq (pipe : Pipe) (next : Resume) :
    ∃ packetizer encoder, pipe.resume next =
      { pipe with packetizer := packetizer, encoder := encoder } := by
  cases next <;> exact ⟨_, _, rfl⟩

/-- A step as its events tell it. -/
def Stepped (pipe : Pipe) (result : Pipe × List PipeEvent) : Prop :=
  EncoderStep pipe result.1 (disposedIn result.2) (paddingIn result.2) (unstartedIn result.2)

theorem finishTail_steps {pipe : Pipe} (phase : pipe.encoder = .receiving)
    (empty : pipe.frames = []) (closed : pipe.feeder.ended = true) :
    pipe.Stepped pipe.finishTail := by
  unfold finishTail
  cases tail : pipe.packetizer.padTail with
  | none =>
    refine .finish phase empty closed ?_
    by_contra partly
    rw [PcmPacketizer.padTail, if_neg partly] at tail
    cases tail
  | some result =>
    obtain ⟨padded, padding⟩ := result
    obtain ⟨-, -, -, -, full, -⟩ := Sourced.padTail_cases tail
    simp only [PcmPacketizer.completePacket_eq_residual _ full]
    exact .pad phase empty closed padded padding tail

theorem admitFrame_steps {pipe : Pipe} {frame : SourceFrame}
    (phase : pipe.encoder = .admitting frame) (ambient : Ambient) :
    pipe.Stepped (pipe.admitFrame ambient frame) := by
  unfold admitFrame
  split
  next => exact .skip frame phase .misformatted (.inl rfl)
  next =>
    split
    next => exact .skip frame phase .cancelledFrame (.inr (.inl rfl))
    next =>
      cases begun : pipe.packetizer.beginFrame frame.sequenceNumber frame.samples.length
          frame.outputGeneration with
      | error => exact .skip frame phase .misaligned (.inr (.inr rfl))
      | ok result =>
        have unpadded : paddingIn (pipe.discarded result.2) = 0 ∧
            unstartedIn (pipe.discarded result.2) = false := by
          unfold discarded
          split
          · exact ⟨rfl, rfl⟩
          · split <;> exact ⟨rfl, rfl⟩
        simp only [Stepped, unpadded]
        exact .begin frame phase result.1 result.2 _ begun

theorem pushRound_steps {pipe : Pipe} {frame : SourceFrame} {offset : Nat}
    (phase : pipe.encoder = .pushing frame offset) :
    EncoderStep pipe (pipe.pushRound frame offset) [] 0 false := by
  unfold pushRound
  split
  next more =>
    rcases push : pipe.packetizer.push (frame.samples.drop offset) frame.timestampNs offset with
      ⟨pushed, copied⟩
    by_cases full : pushed.written = pushed.packetSamples
    · simp only [pushed.completePacket_eq_residual full]
      exact .complete frame offset phase more pushed copied push full
    · have short : pushed.completePacket = none := by
        rw [PcmPacketizer.completePacket, if_neg full]
      simp only [short]
      exact .copy frame offset phase more pushed copied push short
  next all => exact .exhaust frame offset phase (Nat.not_lt.mp all)

theorem sendEncoded_steps {pipe : Pipe} {frame : EncodedAudioFrame} {next : Resume}
    (phase : pipe.encoder = .sending frame next) :
    pipe.Stepped (pipe.sendEncoded frame next) := by
  unfold sendEncoded
  split
  next room => exact .queue frame next phase room
  next full =>
    split
    next policy => exact .block frame next phase (Nat.not_lt.mp full) policy
    next policy =>
      exact .giveUp _ phase .encodedDropped frame.samples next (.sending frame next)
        fun _ => ⟨policy, Nat.not_lt.mp full⟩

/-- Every step of the encoder is one of its branches. -/
theorem encode_steps (pipe : Pipe) (ambient : Ambient) (codec : Option (List UInt8)) :
    pipe.Stepped (pipe.encode ambient codec) := by
  have givesUp : ∀ {current : EncoderPhase} {reason : Disposal} {samples : List PcmSample}
      {next : Resume}, pipe.encoder = current → current.GivesUp reason samples next →
      reason ≠ .encodedDropped →
      EncoderStep pipe ((pipe.charge reason).resume next) [(reason, samples)] 0 false :=
    fun phase gives other => .giveUp _ phase _ _ _ gives fun dropped => absurd dropped other
  unfold encode
  cases phase : pipe.encoder with
  | starting =>
    cases codec with
    | none => exact .fail phase
    | some => exact .start phase
  | receiving =>
    cases frames : pipe.frames with
    | nil =>
      cases closed : pipe.feeder.ended with
      | true => exact finishTail_steps phase frames closed
      | false => exact .wait phase frames closed
    | cons frame rest => exact .take phase frame rest frames
  | admitting frame => exact admitFrame_steps phase ambient
  | pushing frame offset => exact pushRound_steps phase
  | vetting packet next =>
    cases ambient.inactive pipe.packetOutput with
    | true => exact givesUp phase (.vetting packet next) (by decide)
    | false => exact .vet packet next phase
  | encoding packet next =>
    cases codec with
    | none => exact givesUp phase (.encoding packet next) (by decide)
    | some payload => exact .encode packet next phase _ rfl
  | delivering frame next =>
    dsimp only
    cases ambient.inactive frame.outputGeneration with
    | true => exact givesUp phase (.delivering frame next) (by decide)
    | false => exact .deliver frame next phase
  | sending frame next => exact sendEncoded_steps phase
  | stopped => exact .ended phase

end Pipe

/-- The encoder leaves the feeder alone. -/
theorem EncoderStep.feeder_eq {pipe after : Pipe} {away : Disposals} {padding : Nat} {failed : Bool}
    (step : EncoderStep pipe after away padding failed) : after.feeder = pipe.feeder := by
  cases step with
  | skip _ _ reason =>
    obtain ⟨counters, charged⟩ := pipe.charge_eq reason
    rw [charged]
  | queue _ next =>
    obtain ⟨packetizer, encoder, resumed⟩ := Pipe.resume_eq _ next
    rw [resumed]
  | giveUp _ _ reason _ next =>
    obtain ⟨packetizer, encoder, resumed⟩ := (pipe.charge reason).resume_eq next
    obtain ⟨counters, charged⟩ := pipe.charge_eq reason
    rw [resumed, charged]
  | _ => rfl

end RelayConnector
