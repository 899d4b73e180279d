/-
This file proves that the worker threads of a bus can always be joined once its publisher
has returned.

When `run_prepared_frame_publisher` returns, the receivers of the encoded channels are
dropped; `run` then sets `transport_stop` and joins the feeders and the encoders. From
then on an encoder that has a frame to send ends, however full its channel is. A feeder
ends after a few of its own steps. An encoder waits for its feeder at most; what it then
has still to do is bounded by the samples in front of it, since every packet that it
does not send is cancelled or refused by the codec.
-/

import RelayConnector.Disposals

namespace RelayConnector

/-! ### The threads after the publisher -/

/-- One step of a worker thread. -/
inductive WindMove where
  | feed (ambient : Ambient) (arrival : Option (AudioFrame UInt32))
  | encode (ambient : Ambient) (codec : Option (List UInt8))

namespace WindMove

def isFeed : WindMove → Bool
  | .feed _ _ => true
  | .encode _ _ => false

def isEncode (move : WindMove) : Bool := !move.isFeed

end WindMove

namespace Pipe

/-- A step once `transport_stop` is set and the publisher is gone. -/
def wind (pipe : Pipe) : WindMove → Pipe
  | .feed ambient arrival => (pipe.feed { ambient with transportStop := true } arrival).1
  | .encode ambient codec => (pipe.encodeDisconnected ambient codec).1

def windAll (pipe : Pipe) (moves : List WindMove) : Pipe := moves.foldl wind pipe

theorem windAll_cons (pipe : Pipe) (move : WindMove) (rest : List WindMove) :
    pipe.windAll (move :: rest) = (pipe.wind move).windAll rest := rfl

end Pipe

/-! ### The feeder -/

/-- The number of steps after which a feeder has ended at the latest. -/
def FeederPhase.rank : FeederPhase → Nat
  | .receiving => 5
  | .stamping _ => 4
  | .gating _ => 3
  | .sending _ => 2
  | .idling => 2
  | .checking => 1
  | .stopped => 0

theorem FeederPhase.rank_eq_zero {phase : FeederPhase} : phase.rank = 0 ↔ phase.ended = true := by
  cases phase <;> simp [rank, ended]

theorem FeederPhase.rank_le (phase : FeederPhase) : phase.rank ≤ 5 := by
  cases phase <;> simp [rank]

variable {pipe after : Pipe} {ambient : Ambient} {received : List SourceFrame} {away : Disposals}
  {padding : Nat} {failed : Bool}

theorem FeederStep.rank_le (step : FeederStep pipe ambient after received away)
    (stopping : ambient.transportStop = true) : after.feeder.rank ≤ pipe.feeder.rank - 1 := by
  cases step with
  | ended phase => simp [phase, FeederPhase.rank]
  | stop | abandon => exact Nat.zero_le _
  | look _ goes => simp [stopping] at goes
  | receive phase frame next goes => rcases goes with rfl | rfl <;> simp [phase, FeederPhase.rank]
  | wait phase | loop phase | stamp _ phase | pass _ phase | holdBack _ phase | queue _ phase
    | overflow _ phase => simp [phase, FeederPhase.rank]

namespace Pipe

theorem feed_of_ended (ended : pipe.feeder.ended = true) (ambient : Ambient)
    (arrival : Option (AudioFrame UInt32)) : (pipe.feed ambient arrival).1 = pipe := by
  unfold feed
  split <;> simp_all [FeederPhase.ended]

theorem encodeDisconnected_feeder (pipe : Pipe) (ambient : Ambient) (codec : Option (List UInt8)) :
    (pipe.encodeDisconnected ambient codec).1.feeder = pipe.feeder := by
  unfold encodeDisconnected
  split
  · rfl
  · exact (pipe.encode_steps ambient codec).feeder_eq

/-- After enough steps of its own the feeder has ended, whatever the encoder did. -/
theorem windAll_feeder (pipe : Pipe) (moves : List WindMove) :
    (pipe.windAll moves).feeder.rank ≤ pipe.feeder.rank - moves.countP (·.isFeed) := by
  induction moves generalizing pipe with
  | nil => exact Nat.le_refl _
  | cons move rest hypothesis =>
    have later := hypothesis (pipe.wind move)
    rw [windAll_cons]
    cases move with
    | feed ambient arrival =>
      have once : (pipe.wind (.feed ambient arrival)).feeder.rank ≤ pipe.feeder.rank - 1 :=
        (pipe.feed_steps { ambient with transportStop := true } arrival).rank_le rfl
      rw [List.countP_cons_of_pos rfl]
      omega
    | encode ambient codec =>
      rw [List.countP_cons_of_neg Bool.false_ne_true]
      rwa [wind, encodeDisconnected_feeder] at later

end Pipe

/-! ### The encoder -/

/-- What the samples of a frame behind an offset can still cost: five steps for each, and one to
leave the frame. -/
def SourceFrame.labour (frame : SourceFrame) (offset : Nat) : Nat :=
  5 * (frame.samples.length - offset) + 1

/-- What the frames in the channel can cost, and the tail packet. -/
def queuedLabour (frames : List SourceFrame) : Nat :=
  (frames.map fun frame => frame.labour 0 + 2).sum + 5

/-- What follows the packet in hand. -/
def resumedLabour (frames : List SourceFrame) : Resume → Nat
  | some (frame, offset) => frame.labour offset + queuedLabour frames
  | none => 0

namespace Pipe

/-- A full packet is handed on before anything is copied. -/
def fullLabour (pipe : Pipe) : Nat :=
  if pipe.packetizer.written = pipe.packetizer.packetSamples then 5 else 0

/-- The number of steps after which an encoder has ended at the latest, once its feeder has. -/
def labour (pipe : Pipe) : Nat :=
  match pipe.encoder with
  | .starting => pipe.fullLabour + 1 + queuedLabour pipe.frames
  | .receiving => pipe.fullLabour + queuedLabour pipe.frames
  | .admitting frame => pipe.fullLabour + frame.labour 0 + 1 + queuedLabour pipe.frames
  | .pushing frame offset => pipe.fullLabour + frame.labour offset + queuedLabour pipe.frames
  | .vetting _ next => 4 + resumedLabour pipe.frames next
  | .encoding _ next => 3 + resumedLabour pipe.frames next
  | .delivering _ next => 2 + resumedLabour pipe.frames next
  | .sending _ next => 1 + resumedLabour pipe.frames next
  | .stopped => 0

theorem labour_eq_zero {pipe : Pipe} : pipe.labour = 0 ↔ pipe.encoder.ended = true := by
  unfold labour queuedLabour
  split <;> simp [EncoderPhase.ended, *]

/-- The packet in hand is given up, or was sent. -/
theorem labour_resume {pipe after : Pipe} {next : Resume} (frames : after.frames = pipe.frames)
    (same : after.packetizer.packetSamples = pipe.packetizer.packetSamples) :
    (after.resume next).labour = resumedLabour pipe.frames next := by
  have some_room := pipe.packetizer.packetSamples_pos
  cases next with
  | none => rfl
  | some current =>
    have fresh : (0 : Nat) ≠ pipe.packetizer.packetSamples := by omega
    simp [resume, labour, resumedLabour, fullLabour, queuedLabour, PcmPacketizer.finishPacket,
      frames, same, fresh]

theorem written_beginFrame {frame : SourceFrame} {packetizer : PcmPacketizer PcmSample}
    {boundary : PcmPacketizerBegin}
    (begun : pipe.packetizer.beginFrame frame.sequenceNumber frame.samples.length
      frame.outputGeneration = .ok (packetizer, boundary)) :
    packetizer.packetSamples = pipe.packetizer.packetSamples ∧
      (packetizer.written = pipe.packetizer.written ∨ packetizer.written = 0) := by
  unfold PcmPacketizer.beginFrame at begun
  split at begun
  · cases begun
  · simp only [Except.ok.injEq, Prod.mk.injEq] at begun
    obtain ⟨rfl, -⟩ := begun
    dsimp only
    split
    · exact ⟨rfl, .inr rfl⟩
    · exact ⟨rfl, .inl rfl⟩

/-- A push copies what is left of the frame, or as much as the packet takes. -/
theorem push_copies {frame : SourceFrame} {offset copied : Nat} {pushed : PcmPacketizer PcmSample}
    (push : pipe.packetizer.push (frame.samples.drop offset) frame.timestampNs offset =
      (pushed, copied)) :
    copied = min (frame.samples.length - offset)
        (pipe.packetizer.packetSamples - pipe.packetizer.written) ∧
      pushed.written = pipe.packetizer.written + copied ∧
      pushed.packetSamples = pipe.packetizer.packetSamples := by
  unfold PcmPacketizer.push at push
  simp only [Prod.mk.injEq, List.length_drop] at push
  obtain ⟨rfl, rfl⟩ := push
  exact ⟨rfl, rfl, rfl⟩

end Pipe

/-- Every step of an encoder whose feeder has ended, other than a send, brings it nearer to its
own end. -/
theorem EncoderStep.labour_le (step : EncoderStep pipe after away padding failed)
    (closed : pipe.feeder.ended = true)
    (other : ∀ frame next, pipe.encoder ≠ .sending frame next) :
    after.labour ≤ pipe.labour - 1 := by
  cases step with
  | ended phase => simp [Pipe.labour, phase]
  | wait _ _ open_ =>
    rw [closed] at open_
    cases open_
  | queue frame next phase | block frame next phase => exact absurd phase (other frame next)
  | fail | finish => exact Nat.zero_le _
  | start phase =>
    simp only [Pipe.labour, phase, Pipe.fullLabour, queuedLabour]
    omega
  | take phase frame rest frames =>
    simp only [Pipe.labour, phase, Pipe.fullLabour, queuedLabour, frames, List.map_cons,
      List.sum_cons]
    omega
  | pad phase =>
    simp only [Pipe.labour, phase, resumedLabour, queuedLabour]
    omega
  | skip frame phase reason known =>
    rcases known with rfl | rfl | rfl <;>
    · simp only [Pipe.labour, phase, Pipe.charge, Pipe.countError, Pipe.countCancelled,
        Pipe.fullLabour, queuedLabour]
      omega
  | begin frame phase packetizer boundary packetOutput begun =>
    have some_room := pipe.packetizer.packetSamples_pos
    obtain ⟨same, written⟩ := Pipe.written_beginFrame begun
    have fuller : (if packetizer.written = packetizer.packetSamples then 5 else 0) ≤
        if pipe.packetizer.written = pipe.packetizer.packetSamples then 5 else 0 := by
      rcases written with kept | zero
      · rw [kept, same]
      · rw [if_neg (by omega)]
        exact Nat.zero_le _
    simp only [Pipe.labour, phase, Pipe.fullLabour, queuedLabour]
    omega
  | copy frame offset phase more pushed copied push short =>
    obtain ⟨copies, written, same⟩ := Pipe.push_copies push
    have cursor := pipe.packetizer.within
    have incomplete : pushed.written ≠ pushed.packetSamples := by
      intro full
      rw [PcmPacketizer.completePacket, if_pos full] at short
      cases short
    simp only [Pipe.labour, phase, Pipe.fullLabour, queuedLabour, SourceFrame.labour,
      if_neg incomplete]
    omega
  | complete frame offset phase more pushed copied push full =>
    obtain ⟨copies, written, same⟩ := Pipe.push_copies push
    have cursor := pipe.packetizer.within
    -- a packet that was full already costs what the next sample would have cost
    simp only [Pipe.labour, phase, Pipe.fullLabour, resumedLabour, queuedLabour,
      SourceFrame.labour]
    split <;> omega
  | exhaust frame offset phase all =>
    simp only [Pipe.labour, phase, Pipe.fullLabour, queuedLabour, SourceFrame.labour]
    omega
  | vet packet next phase | encode packet next phase | deliver frame next phase =>
    simp only [Pipe.labour, phase]
    omega
  | giveUp current phase reason samples next gives =>
    have charged : (pipe.charge reason).frames = pipe.frames ∧
        (pipe.charge reason).packetizer = pipe.packetizer := by
      cases reason <;> exact ⟨rfl, rfl⟩
    rw [Pipe.labour_resume charged.1 (congrArg _ charged.2)]
    cases gives <;> simp only [Pipe.labour, phase] <;> omega

namespace Pipe

theorem encodeDisconnected_labour (closed : pipe.feeder.ended = true) (ambient : Ambient)
    (codec : Option (List UInt8)) :
    (pipe.encodeDisconnected ambient codec).1.labour ≤ pipe.labour - 1 := by
  unfold encodeDisconnected
  split
  next => exact Nat.zero_le _
  next other => exact (pipe.encode_steps ambient codec).labour_le closed other

/-- After enough steps of its own an encoder whose feeder has ended has ended too. -/
theorem windAll_encoder (closed : pipe.feeder.ended = true) (moves : List WindMove) :
    (pipe.windAll moves).labour ≤ pipe.labour - moves.countP (·.isEncode) := by
  induction moves generalizing pipe with
  | nil => exact Nat.le_refl _
  | cons move rest hypothesis =>
    rw [windAll_cons]
    cases move with
    | feed ambient arrival =>
      rw [List.countP_cons_of_neg Bool.false_ne_true, wind, feed_of_ended closed]
      exact hypothesis closed
    | encode ambient codec =>
      have once := encodeDisconnected_labour closed ambient codec
      have later : ((pipe.wind (.encode ambient codec)).windAll rest).labour ≤
          (pipe.wind (.encode ambient codec)).labour - rest.countP (·.isEncode) :=
        hypothesis (encodeDisconnected_feeder pipe ambient codec ▸ closed)
      simp only [wind] at later
      rw [List.countP_cons_of_pos rfl, wind]
      omega

end Pipe

/-! ### The group -/

/-- One step of a worker thread of a group. -/
def windGroup (pipes : Nat → Pipe) (moves : List (Nat × WindMove)) : Nat → Pipe :=
  moves.foldl (fun pipes move => Function.update pipes move.1 ((pipes move.1).wind move.2)) pipes

/-- The steps of one bus. -/
def movesOf (bus : Nat) (moves : List (Nat × WindMove)) : List WindMove :=
  (moves.filter (·.1 == bus)).map Prod.snd

/-- The buses of a group wind down independently. -/
theorem windGroup_apply (pipes : Nat → Pipe) (moves : List (Nat × WindMove)) (bus : Nat) :
    windGroup pipes moves bus = (pipes bus).windAll (movesOf bus moves) := by
  induction moves generalizing pipes with
  | nil => rfl
  | cons move rest hypothesis =>
    have later := hypothesis
      (Function.update pipes move.1 ((pipes move.1).wind move.2))
    by_cases same : move.1 = bus
    · subst same
      rw [Function.update_self] at later
      simpa [windGroup, movesOf, Pipe.windAll] using later
    · rw [Function.update_of_ne (Ne.symm same)] at later
      simpa [windGroup, movesOf, same] using later

/-- The worker threads of a group can be joined when its publisher has returned, in whatever state
it left them, whatever still arrives and whatever the codec answers: every feeder ends with its
fifth step, and once the feeders are joined every encoder ends within the number of steps that the
samples in front of it can cost. -/
theorem workers_can_be_joined (pipes : Nat → Pipe) (buses : Nat)
    (first second : List (Nat × WindMove))
    (feeds : ∀ bus < buses, 5 ≤ (movesOf bus first).countP (·.isFeed))
    (encodes : ∀ bus < buses,
      (windGroup pipes first bus).labour ≤ (movesOf bus second).countP (·.isEncode)) :
    ∀ bus < buses, (windGroup pipes first bus).feeder.ended = true ∧
      (windGroup (windGroup pipes first) second bus).encoder.ended = true := by
  intro bus inside
  have fed : (windGroup pipes first bus).feeder.ended = true := by
    have rank := (pipes bus).windAll_feeder (movesOf bus first)
    have most := (pipes bus).feeder.rank_le
    have enough := feeds bus inside
    rw [windGroup_apply]
    exact FeederPhase.rank_eq_zero.mp (by omega)
  refine ⟨fed, ?_⟩
  have left := Pipe.windAll_encoder fed (movesOf bus second)
  have enough := encodes bus inside
  rw [windGroup_apply (windGroup pipes first)]
  exact Pipe.labour_eq_zero.mp (by omega)

/-- An encoder that waits for room in the channel of a publisher that does not read it. -/
def blockedPipe : Pipe :=
  let frame : EncodedAudioFrame :=
    { payload := [7], wallclock := 0, rtpTime := 0, durationSamples := opusFrameSamples
      captureTimestampNs := 0, outputGeneration := none, number := 0, samples := [] }
  { (default : BusLayout).pipe with
    deliveryPolicy := .preserveWithBackpressure
    encoded := [frame]
    encoder := .sending { frame with number := 1 } none }

theorem workers_can_be_joined_blocked :
    (blockedPipe.encode {} none).1.encoder.ended = false ∧
      (windGroup (windGroup (fun _ => blockedPipe) (List.replicate 5 (0, .feed {} none)))
        [(0, .encode {} none)] 0).encoder.ended = true := by
  refine ⟨rfl, (workers_can_be_joined (fun _ => blockedPipe) 1
    (List.replicate 5 (0, .feed {} none)) [(0, .encode {} none)] ?_ ?_ 0 Nat.one_pos).2⟩
  · intro bus inside
    obtain rfl : bus = 0 := by omega
    decide
  · intro bus inside
    obtain rfl : bus = 0 := by omega
    decide

end RelayConnector
