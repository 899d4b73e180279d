/-
This file drives the threads of one bus for as many steps as one likes.

What the other threads do before the publisher's first access is a list of actions, and
nothing bounds its length. A stretch of actions on one bus changes its pipe only; a
stretch made of many equal pieces is described by what one piece keeps.
-/

import RelayConnector.Launch

namespace RelayConnector

/-- A step of one of the threads of a bus. -/
inductive PipeAction where
  | feeder (arrival : Option (AudioFrame UInt32))
  | encoder (codec : Option (List UInt8))

def PipeAction.on (bus : Nat) : PipeAction → Action
  | .feeder arrival => .feeder bus arrival
  | .encoder codec => .encoder bus codec

namespace Pipe

def act (ambient : Ambient) (pipe : Pipe) : PipeAction → Pipe × List PipeEvent
  | .feeder arrival => pipe.feed ambient arrival
  | .encoder codec => pipe.encode ambient codec

/-- The pipe after a stretch of steps, with what they enter, newest first. -/
def drive (ambient : Ambient) : List PipeAction → Pipe → Pipe × List PipeEvent
  | [], pipe => (pipe, [])
  | action :: rest, pipe =>
    let acted := pipe.act ambient action
    let driven := drive ambient rest acted.1
    (driven.1, driven.2 ++ acted.2)

@[simp]
theorem drive_nil_fst (ambient : Ambient) (pipe : Pipe) : (pipe.drive ambient []).1 = pipe := rfl

@[simp]
theorem drive_cons_fst (ambient : Ambient) (action : PipeAction) (rest : List PipeAction)
    (pipe : Pipe) :
    (pipe.drive ambient (action :: rest)).1 =
      ((pipe.act ambient action).1.drive ambient rest).1 := rfl

@[simp]
theorem act_feeder (ambient : Ambient) (arrival : Option (AudioFrame UInt32)) (pipe : Pipe) :
    pipe.act ambient (.feeder arrival) = pipe.feed ambient arrival := rfl

@[simp]
theorem act_encoder (ambient : Ambient) (codec : Option (List UInt8)) (pipe : Pipe) :
    pipe.act ambient (.encoder codec) = pipe.encode ambient codec := rfl

theorem drive_append_fst (ambient : Ambient) (first second : List PipeAction) (pipe : Pipe) :
    (pipe.drive ambient (first ++ second)).1 =
      ((pipe.drive ambient first).1.drive ambient second).1 := by
  induction first generalizing pipe with
  | nil => rfl
  | cons action rest hypothesis => exact hypothesis (pipe.act ambient action).1

theorem drive_append_snd (ambient : Ambient) (first second : List PipeAction) (pipe : Pipe) :
    (pipe.drive ambient (first ++ second)).2 =
      ((pipe.drive ambient first).1.drive ambient second).2 ++ (pipe.drive ambient first).2 := by
  induction first generalizing pipe with
  | nil => exact (List.append_nil _).symm
  | cons action rest hypothesis =>
    rw [List.cons_append, drive, drive, hypothesis, List.append_assoc]

/-- What one piece of a stretch keeps, counting the pieces, many equal pieces keep. -/
theorem drive_repeated {ambient : Ambient} {piece : List PipeAction} {motive : Nat → Pipe → Prop}
    (keeps : ∀ count pipe, motive count pipe → motive (count + 1) (pipe.drive ambient piece).1)
    (times : Nat) {count : Nat} {pipe : Pipe} (before : motive count pipe) :
    motive (count + times) (pipe.drive ambient (List.replicate times piece).flatten).1 := by
  induction times generalizing count pipe with
  | zero => exact before
  | succ times hypothesis =>
    rw [List.replicate_succ, List.flatten_cons, drive_append_fst, ← Nat.add_assoc,
      Nat.add_right_comm]
    exact hypothesis (keeps count pipe before)

end Pipe

/-! ### What a step shows -/

/-- What one looks at when a bus is driven: all of a pipe but its counters and what the buffer of
its packetizer holds. -/
structure PipeView where
  frameDepth : Nat
  encodedDepth : Nat
  deliveryPolicy : EncodedDeliveryPolicy
  channels : Nat
  written : Nat
  feeder : FeederPhase
  received : Nat
  captureEndNs : Nat
  frames : List SourceFrame
  encoder : EncoderPhase
  packetOutput : Option Nat
  rtpSampleCount : Nat
  encodedCount : Nat
  encoded : List EncodedAudioFrame
  taken : List EncodedAudioFrame

namespace Pipe

def view (pipe : Pipe) : PipeView where
  frameDepth := pipe.frameDepth
  encodedDepth := pipe.encodedDepth
  deliveryPolicy := pipe.deliveryPolicy
  channels := pipe.packetizer.channels
  written := pipe.packetizer.written
  feeder := pipe.feeder
  received := pipe.received
  captureEndNs := pipe.captureEndNs
  frames := pipe.frames
  encoder := pipe.encoder
  packetOutput := pipe.packetOutput
  rtpSampleCount := pipe.rtpSampleCount
  encodedCount := pipe.encodedCount
  encoded := pipe.encoded
  taken := pipe.taken

variable {pipe : Pipe} {view : PipeView}

/-- What the publisher can see of a bus, as its view says it. -/
theorem eq_of_view (seen : pipe.view = view) :
    pipe =
      { pipe with
        encodedDepth := view.encodedDepth
        captureEndNs := view.captureEndNs
        encoder := view.encoder
        encoded := view.encoded
        taken := view.taken } := by
  subst seen
  rfl

section Feeder

variable (ambient : Ambient) (arrival : Option (AudioFrame UInt32)) {frame : SourceFrame}
  (seen : pipe.view = view)

include seen

theorem view_feed_checking (phase : view.feeder = .checking)
    (flowing : ambient.transportStop = false) (running : ambient.abortRequested = false) :
    (pipe.feed ambient arrival).1.view = { view with feeder := .receiving } := by
  subst seen
  have phase : pipe.feeder = .checking := phase
  simp [feed, phase, flowing, running, view]

theorem view_feed_receiving (captured : AudioFrame UInt32) (phase : view.feeder = .receiving) :
    (pipe.feed ambient (some captured)).1.view =
      { view with
        received := view.received + 1
        feeder := if ambient.paused.isSome then .stamping (captured.numbered view.received)
          else .sending (captured.numbered view.received) } := by
  subst seen
  have phase : pipe.feeder = .receiving := phase
  simp [feed, phase, view]

theorem view_feed_stamping (phase : view.feeder = .stamping frame) :
    (pipe.feed ambient arrival).1.view =
      { view with
        captureEndNs := max view.captureEndNs frame.captureEndNs
        feeder := .gating frame } := by
  subst seen
  have phase : pipe.feeder = .stamping frame := phase
  simp [feed, phase, view]

theorem view_feed_gating (phase : view.feeder = .gating frame)
    (unpaused : ambient.paused ≠ some true) :
    (pipe.feed ambient arrival).1.view = { view with feeder := .sending frame } := by
  subst seen
  have phase : pipe.feeder = .gating frame := phase
  simp [feed, phase, view, unpaused]

theorem view_feed_sending (phase : view.feeder = .sending frame)
    (running : view.encoder.ended = false)
    (room : view.frames.length < view.frameDepth) :
    (pipe.feed ambient arrival).1.view =
      { view with frames := view.frames ++ [frame], feeder := .checking } := by
  subst seen
  have phase : pipe.feeder = .sending frame := phase
  have running : pipe.encoder.ended = false := running
  have room : pipe.frames.length < pipe.frameDepth := room
  simp [feed, phase, running, room, view]

end Feeder

/-- Enough input fills an empty packet at once. -/
theorem push_whole {packetizer : PcmPacketizer PcmSample} {input : List PcmSample}
    (empty : packetizer.written = 0) (enough : packetizer.packetSamples ≤ input.length)
    (timestampNs offset : Nat) :
    (packetizer.push input timestampNs offset).2 = packetizer.packetSamples ∧
      (packetizer.push input timestampNs offset).1.written = packetizer.packetSamples ∧
      (packetizer.push input timestampNs offset).1.completePacket =
        some (input.take packetizer.packetSamples,
          Words.saturatingAdd timestampNs (offsetNs (offset / packetizer.channels))) := by
  have copied : min input.length packetizer.packetSamples = packetizer.packetSamples :=
    min_eq_right enough
  have length : (input.take packetizer.packetSamples).length = packetizer.packetSamples :=
    List.length_take_of_le enough
  refine ⟨?_, ?_, ?_⟩
  · simp only [PcmPacketizer.push, empty, Nat.sub_zero, copied]
  · simp only [PcmPacketizer.push, empty, Nat.sub_zero, copied, Nat.zero_add]
  · simp only [PcmPacketizer.push, PcmPacketizer.completePacket, empty, Nat.sub_zero, copied,
      Nat.zero_add, copyFromSlice, List.take_zero, List.nil_append, if_true]
    rw [List.take_append_of_le_length length.ge, List.take_of_length_le length.le]

section Encoder

variable (ambient : Ambient) (codec : Option (List UInt8)) {frame : SourceFrame}
  {packet : PcmPacket PcmSample} {next : Resume} {encodedFrame : EncodedAudioFrame}
  (seen : pipe.view = view)

include seen

theorem view_encode_starting (payload : List UInt8) (phase : view.encoder = .starting) :
    (pipe.encode ambient (some payload)).1.view = { view with encoder := .receiving } := by
  subst seen
  have phase : pipe.encoder = .starting := phase
  simp [encode, phase, view]

theorem view_encode_receiving {rest : List SourceFrame} (phase : view.encoder = .receiving)
    (queue : view.frames = frame :: rest) :
    (pipe.encode ambient codec).1.view =
      { view with frames := rest, encoder := .admitting frame } := by
  subst seen
  have phase : pipe.encoder = .receiving := phase
  have queue : pipe.frames = frame :: rest := queue
  simp [encode, phase, queue, view]

/-- A frame outside any output generation begins at an empty packet. -/
theorem view_encode_admitting (phase : view.encoder = .admitting frame)
    (rate : frame.sampleRateHz = 48000) (channels : frame.channels = view.channels)
    (ungrouped : frame.outputGeneration = none) (output : view.packetOutput = none)
    (empty : view.written = 0) (aligned : frame.samples.length % view.channels = 0) :
    (pipe.encode ambient codec).1.view = { view with encoder := .pushing frame 0 } := by
  subst seen
  have phase : pipe.encoder = .admitting frame := phase
  have channels : frame.channels = pipe.packetizer.channels := channels
  have output : pipe.packetOutput = none := output
  have empty : pipe.packetizer.written = 0 := empty
  have aligned : frame.samples.length % pipe.packetizer.channels = 0 := aligned
  simp only [encode, phase, admitFrame, PcmPacketizer.beginFrame, rate, channels, ungrouped,
    aligned, Ambient.inactive, empty, view]
  by_cases changed : pipe.packetizer.expectedSequenceNumber.any (· != frame.sequenceNumber)
  · simp [changed, output, PcmPacketizer.discardPartial, empty]
  · simp [changed, output, empty]

/-- The rest of the frame fills a packet. -/
theorem view_encode_pushing {offset : Nat} (phase : view.encoder = .pushing frame offset)
    (empty : view.written = 0)
    (enough : offset + opusFrameSamples * view.channels ≤ frame.samples.length) :
    (pipe.encode ambient codec).1.view =
      { view with
        written := opusFrameSamples * view.channels
        encoder := .vetting
          ⟨(frame.samples.drop offset).take (opusFrameSamples * view.channels),
            Words.saturatingAdd frame.timestampNs (offsetNs (offset / view.channels))⟩
          (some (frame, offset + opusFrameSamples * view.channels)) } := by
  subst seen
  have phase : pipe.encoder = .pushing frame offset := phase
  have sized : pipe.packetizer.packetSamples = opusFrameSamples * pipe.packetizer.channels :=
    pipe.packetizer.sized
  have enough : offset + pipe.packetizer.packetSamples ≤ frame.samples.length := by
    rw [sized]
    exact enough
  have inside : offset < frame.samples.length :=
    Nat.lt_of_lt_of_le (Nat.lt_add_of_pos_right pipe.packetizer.packetSamples_pos) enough
  have long : pipe.packetizer.packetSamples ≤ (frame.samples.drop offset).length := by
    rw [List.length_drop]
    exact Nat.le_sub_of_add_le' enough
  obtain ⟨copied, cursor, complete⟩ := push_whole empty long frame.timestampNs offset
  simp only [encode, phase, pushRound, inside, if_true, complete, copied]
  simp only [view, cursor, sized]
  rfl

theorem view_encode_pushed (phase : view.encoder = .pushing frame frame.samples.length) :
    (pipe.encode ambient codec).1.view = { view with encoder := .receiving } := by
  subst seen
  have phase : pipe.encoder = .pushing frame frame.samples.length := phase
  simp [encode, phase, pushRound, view]

theorem view_encode_vetting (phase : view.encoder = .vetting packet next)
    (ungrouped : view.packetOutput = none) :
    (pipe.encode ambient codec).1.view = { view with encoder := .encoding packet next } := by
  subst seen
  have phase : pipe.encoder = .vetting packet next := phase
  have ungrouped : pipe.packetOutput = none := ungrouped
  simp [encode, phase, ungrouped, Ambient.inactive, view]

/-- The codec fails: the packet is dropped. -/
theorem view_encode_failing {offset : Nat}
    (phase : view.encoder = .encoding packet (some (frame, offset))) :
    (pipe.encode ambient none).1.view =
      { view with written := 0, encoder := .pushing frame offset } := by
  subst seen
  have phase : pipe.encoder = .encoding packet (some (frame, offset)) := phase
  simp [encode, phase, resume, countError, PcmPacketizer.finishPacket, view]

theorem view_encode_encoding (payload : List UInt8) (phase : view.encoder = .encoding packet next) :
    (pipe.encode ambient (some payload)).1.view =
      { view with
        rtpSampleCount := Words.saturatingAdd view.rtpSampleCount opusFrameSamples
        encodedCount := view.encodedCount + 1
        encoder := .delivering
          { payload := payload
            wallclock := ambient.now
            rtpTime := view.rtpSampleCount
            durationSamples := opusFrameSamples
            captureTimestampNs := packet.timestampNs
            outputGeneration := view.packetOutput
            number := view.encodedCount
            samples := packet.samples } next } := by
  subst seen
  have phase : pipe.encoder = .encoding packet next := phase
  simp [encode, phase, Pipe.encodedFrame, view]

theorem view_encode_delivering (phase : view.encoder = .delivering encodedFrame next)
    (ungrouped : encodedFrame.outputGeneration = none) :
    (pipe.encode ambient codec).1.view =
      { view with encoder := .sending encodedFrame next } := by
  subst seen
  have phase : pipe.encoder = .delivering encodedFrame next := phase
  simp [encode, phase, ungrouped, Ambient.inactive, view]

/-- The queue has room. -/
theorem view_encode_sending {offset : Nat}
    (phase : view.encoder = .sending encodedFrame (some (frame, offset)))
    (room : view.encoded.length < view.encodedDepth) :
    (pipe.encode ambient codec).1.view =
      { view with
        written := 0
        encoded := view.encoded ++ [encodedFrame]
        encoder := .pushing frame offset } := by
  subst seen
  have phase : pipe.encoder = .sending encodedFrame (some (frame, offset)) := phase
  have room : pipe.encoded.length < pipe.encodedDepth := room
  simp [encode, phase, sendEncoded, room, resume, PcmPacketizer.finishPacket, view]

/-- The queue is full and the newest packet is dropped. -/
theorem view_encode_dropping {offset : Nat}
    (phase : view.encoder = .sending encodedFrame (some (frame, offset)))
    (full : view.encodedDepth ≤ view.encoded.length)
    (policy : view.deliveryPolicy = .dropNewest) :
    (pipe.encode ambient codec).1.view =
      { view with written := 0, encoder := .pushing frame offset } := by
  subst seen
  have phase : pipe.encoder = .sending encodedFrame (some (frame, offset)) := phase
  have full : ¬pipe.encoded.length < pipe.encodedDepth := Nat.not_lt.mpr full
  have policy : pipe.deliveryPolicy = .dropNewest := policy
  simp [encode, phase, sendEncoded, full, policy, resume, PcmPacketizer.finishPacket, view]

end Encoder

end Pipe

namespace World

variable {Publisher Note : Type}

/-- The world with one bus as a stretch of steps has left it. -/
def driven (bus : Nat) (result : Pipe × List PipeEvent) (world : World Publisher Note) :
    World Publisher Note :=
  { world with
    shared := { world.shared with pipes := Function.update world.shared.pipes bus result.1 }
    journal := result.2.map (Event.pipe bus) ++ world.journal }

/-- A world in which one bus has been driven. -/
def drive (bus : Nat) (actions : List PipeAction) (world : World Publisher Note) :
    World Publisher Note :=
  world.driven bus ((world.shared.pipes bus).drive world.shared.toAmbient actions)

theorem perform_on (bus : Nat) (action : PipeAction) (world : World Publisher Note) :
    world.perform (action.on bus) = world.drive bus [action] := by
  cases action <;> rfl

theorem settle_on (bus : Nat) (actions : List PipeAction) (world : World Publisher Note) :
    world.settle (actions.map (PipeAction.on bus)) = world.drive bus actions := by
  induction actions generalizing world with
  | nil => simp [settle, drive, driven, Pipe.drive]
  | cons action rest hypothesis =>
    show (world.perform (action.on bus)).settle (rest.map (PipeAction.on bus)) = _
    rw [hypothesis, perform_on]
    simp [drive, driven, Pipe.drive]

end World

/-- What happens before the first access of a run may as well have happened before the run. -/
theorem runWithRecovery_settle (connections : List IngressConnection)
    (recovery : Option PreparedIngressRecovery) (context : Bool) (turn : Turn) (rest : List Turn)
    (world : GatewayWorld) :
    runWithRecovery connections recovery context (turn :: rest) world =
      runWithRecovery connections recovery context ({ turn with before := [] } :: rest)
        (world.settle turn.before) := by
  have commutes : ∀ (actions : List Action) (world : GatewayWorld) (gateway : Gateway),
      GatewayWorld.updateGateway (fun _ => gateway) (world.settle actions) =
        (GatewayWorld.updateGateway (fun _ => gateway) world).settle actions := by
    intro actions
    induction actions with
    | nil => exact fun _ _ => rfl
    | cons action rest hypothesis =>
      exact fun world gateway => hypothesis (world.perform action) gateway
  -- the first access of the loop is the load of the abort request
  have first : ∀ world : GatewayWorld, publishGroup (turn :: rest) world =
      publishGroup ({ turn with before := [] } :: rest) (world.settle turn.before) :=
    fun _ => rfl
  show Scheduled.Command.andThen (Scheduled.Command.attempt publishGroup) _ (turn :: rest)
      (GatewayWorld.updateGateway (fun _ => Gateway.start connections recovery context) world) =
    Scheduled.Command.andThen (Scheduled.Command.attempt publishGroup) _
      ({ turn with before := [] } :: rest)
      (GatewayWorld.updateGateway (fun _ => Gateway.start connections recovery context)
        (world.settle turn.before))
  rw [commutes, Scheduled.Command.andThen, Scheduled.Command.andThen, Scheduled.Command.attempt,
    Scheduled.Command.attempt, first]

end RelayConnector
