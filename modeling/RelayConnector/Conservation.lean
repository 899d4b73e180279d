/-
This file follows every captured sample through the worker threads of a bus.

A sample that the feeder has received waits inside the pipe, has been received by the
publisher in an encoded frame, or was disposed of for a reason. The samples balance at
every step of every thread, and every reason has its counter, with two exceptions that no
counter shows: what an encoder that could not be started keeps from being queued, and what
is under way when the publisher drops its receiver.
-/

import RelayConnector.Disposals

namespace RelayConnector

open Words

/-! ### What is inside a bus -/

namespace Pipe

/-- The samples that are in a packet and not in the encoded channel. -/
def assembled (pipe : Pipe) : List PcmSample :=
  match pipe.encoder with
  | .vetting packet _ => packet.samples
  | .encoding packet _ => packet.samples
  | .delivering frame _ => frame.samples
  | .sending frame _ => frame.samples
  | .stopped => []
  | _ => pipe.packetizer.residual

/-- All samples between the feeder's receiver and the publisher. -/
def inside (pipe : Pipe) : List PcmSample :=
  pipe.queue.flatMap (·.samples) ++ pipe.remaining ++ pipe.assembled ++
    pipe.encoded.flatMap (·.samples)

/-- The captured frames in front of the codec, with the one that is being cut into packets. -/
def capturedInside (pipe : Pipe) : Nat :=
  pipe.queue.length + pipe.encoder.underway.toList.length

/-- The encoded frames between the codec and the publisher. -/
def encodedInside (pipe : Pipe) : Nat := pipe.inHand.toList.length + pipe.encoded.length

end Pipe

/-! ### A bus with its publisher -/

/-- One step of a thread of a bus, or of the publisher at its end. -/
inductive PipeMove where
  | feed (ambient : Ambient) (arrival : Option (AudioFrame UInt32))
  | encode (ambient : Ambient) (codec : Option (List UInt8))
  | receive
  /-- The publisher drops a frame whose output was cancelled, -/
  | countCancelled
  /-- or frames that are too old, -/
  | countStale (staleDrops : Nat)
  /-- or its receiver. -/
  | hangUp

/-- A step of the feeder or the encoder. -/
def PipeMove.ofThread : PipeMove → Bool
  | .feed _ _ | .encode _ _ => true
  | _ => false

/-- A step of a publisher that holds its receiver. -/
def PipeMove.ofPublisher : PipeMove → Bool
  | .receive | .countCancelled | .countStale _ => true
  | _ => false

/-- A bus and what has happened on it. -/
structure Course where
  pipe : Pipe
  received : List SourceFrame := []
  disposed : Disposals := []
  /-- The zeros behind the last packet. -/
  padding : Nat := 0
  /-- The encoder worker could not be made. -/
  failedStart : Bool := false
  /-- The publisher has dropped its receiver. -/
  hungUp : Bool := false
  /-- What the publisher has counted. -/
  cancelledTaken : Nat := 0
  staleTaken : Nat := 0

namespace Course

/-- The course after a step of the feeder. -/
def fed (course : Course) (after : Pipe) (received : List SourceFrame) (away : Disposals) :
    Course :=
  { course with
    pipe := after
    received := course.received ++ received
    disposed := course.disposed ++ away }

/-- The course after a step of the encoder. -/
def encoded (course : Course) (after : Pipe) (away : Disposals) (padding : Nat) (failed : Bool) :
    Course :=
  { course with
    pipe := after
    disposed := course.disposed ++ away
    padding := course.padding + padding
    failedStart := course.failedStart || failed }

/-- The encoder finds out about the receiver when it has a frame to send. -/
def encoderStep (course : Course) (ambient : Ambient) (codec : Option (List UInt8)) :
    Pipe × List PipeEvent :=
  if course.hungUp then course.pipe.encodeDisconnected ambient codec
  else course.pipe.encode ambient codec

def move (course : Course) : PipeMove → Course
  | .feed ambient arrival =>
    let step := course.pipe.feed ambient arrival
    course.fed step.1 (receivedIn step.2) (disposedIn step.2)
  | .encode ambient codec =>
    let step := course.encoderStep ambient codec
    course.encoded step.1 (disposedIn step.2) (paddingIn step.2) (unstartedIn step.2)
  | .receive => { course with pipe := course.pipe.tryRecv.2 }
  | .countCancelled =>
    { course with
      pipe := course.pipe.countCancelled
      cancelledTaken := course.cancelledTaken + 1 }
  | .countStale staleDrops =>
    { course with
      pipe := course.pipe.countStale staleDrops
      staleTaken := course.staleTaken + staleDrops }
  | .hangUp =>
    { course with
      pipe := { course.pipe with encoded := [] }
      disposed := course.disposed ++
        course.pipe.encoded.map fun frame => (.undelivered, frame.samples)
      hungUp := true }

/-- A bus after some steps of its threads and its publisher. -/
def run (layout : BusLayout) (moves : List PipeMove) : Course :=
  moves.foldl move { pipe := layout.pipe }

/-- What the start of a course satisfies and every move keeps holds along it. -/
theorem run_induction {motive : Course → Prop} {layout : BusLayout}
    (initially : motive { pipe := layout.pipe })
    (kept : ∀ course move, motive course → motive (course.move move)) (moves : List PipeMove) :
    motive (run layout moves) := by
  have follows : ∀ course, motive course → motive (moves.foldl move course) := by
    induction moves with
    | nil => exact fun _ => id
    | cons first rest hypothesis =>
      exact fun course held => hypothesis _ (kept course first held)
  exact follows _ initially

/-- Everything that came in: the samples of the received frames, and padding. -/
def entered (course : Course) : List PcmSample :=
  course.received.flatMap (·.samples) ++ List.replicate course.padding 0

/-- The samples in the frames that the publisher has received. -/
def handedOver (course : Course) : List PcmSample := course.pipe.taken.flatMap (·.samples)

/-- The counters that belong to what was disposed of. -/
def tally (course : Course) : EncoderCounters where
  normalizationPartialSamplesDiscarded := shown (course.disposed.size .sequenceGap)
  normalizationTailPaddingSamplesTotal := shown course.padding
  opusPacketsOut := shown course.pipe.encodedCount
  opusEncodeErrors := shown (course.failedStart.toNat + course.disposed.times .misformatted +
    course.disposed.times .misaligned + course.disposed.times .encodeFailed)
  encodedChannelDrops := shown (course.disposed.times .encodedDropped)
  publisherStaleDrops := shown course.staleTaken
  cancelledOutputFrames := shown (course.cancelledTaken + course.disposed.times .cancelledFrame +
    course.disposed.times .cancelledPacket + course.disposed.times .cancelledEncoded)
  cancelledOutputSamples := shown (course.disposed.size .outputChanged)

end Course

/-! ### The samples balance -/

namespace Pipe

/-- The places of `inside`, one by one. -/
theorem count_inside (pipe : Pipe) (sample : PcmSample) :
    pipe.inside.count sample =
      (pipe.encoder.waiting.flatMap (·.samples)).count sample +
        (pipe.frames.flatMap (·.samples)).count sample +
        (pipe.feeder.held.flatMap (·.samples)).count sample + pipe.remaining.count sample +
        pipe.assembled.count sample + (pipe.encoded.flatMap (·.samples)).count sample := by
  simp only [inside, queue, List.flatMap_append, List.count_append]
  omega

/-- A step of the feeder moves samples in front of the encoder only. -/
theorem upstream_balances {pipe after : Pipe} {arrived away : List PcmSample}
    (encoder : after.encoder = pipe.encoder) (packetizer : after.packetizer = pipe.packetizer)
    (encoded : after.encoded = pipe.encoded)
    (moved : ((pipe.frames ++ pipe.feeder.held).flatMap (·.samples) ++ arrived).Perm
      ((after.frames ++ after.feeder.held).flatMap (·.samples) ++ away)) :
    (pipe.inside ++ arrived).Perm (after.inside ++ away) := by
  have remaining : after.remaining = pipe.remaining := by
    rw [Pipe.remaining, encoder, Pipe.remaining]
  have assembled : after.assembled = pipe.assembled := by
    rw [Pipe.assembled, encoder, packetizer, Pipe.assembled]
  refine List.perm_iff_count.mpr fun sample => ?_
  have same := moved.count_eq sample
  simp only [List.flatMap_append, List.count_append] at same
  rw [List.count_append, List.count_append, count_inside after, count_inside pipe, encoder,
    encoded, remaining, assembled]
  omega

/-- The encoder goes on to the next stage of the packet in its hand. -/
theorem advance_balances {pipe after : Pipe} (feeder : after.feeder = pipe.feeder)
    (frames : after.frames = pipe.frames) (encoded : after.encoded = pipe.encoded)
    (waiting : after.encoder.waiting = pipe.encoder.waiting)
    (underway : after.encoder.underway = pipe.encoder.underway)
    (assembled : after.assembled = pipe.assembled) : pipe.inside.Perm (after.inside ++ []) := by
  have same : after.inside = pipe.inside := by
    rw [inside, queue, remaining, waiting, underway, frames, feeder, assembled, encoded, inside,
      queue, remaining]
  rw [same, List.append_nil]

/-- Back at its frame the encoder has no packet. -/
theorem count_inside_resume (pipe : Pipe) (next : Resume) (sample : PcmSample) :
    (pipe.resume next).inside.count sample =
      (pipe.frames.flatMap (·.samples)).count sample +
        (pipe.feeder.held.flatMap (·.samples)).count sample + (restOf next).count sample +
        (pipe.encoded.flatMap (·.samples)).count sample := by
  rw [count_inside]
  cases next with
  | none =>
    simp [resume, remaining, assembled, restOf]
  | some position =>
    simp [resume, remaining, assembled, restOf, PcmPacketizer.residual, PcmPacketizer.finishPacket]

/-- The packet in hand goes into the channel or is disposed of, and the encoder returns. -/
theorem resume_balances {pipe after : Pipe} {next : Resume} {away : List PcmSample}
    (underway : pipe.encoder.underway = next) (idle : pipe.encoder.waiting = [])
    (frames : after.frames = pipe.frames) (feeder : after.feeder = pipe.feeder)
    (moved : (pipe.assembled ++ pipe.encoded.flatMap (·.samples)).Perm
      (after.encoded.flatMap (·.samples) ++ away)) :
    pipe.inside.Perm ((after.resume next).inside ++ away) := by
  have rest : pipe.remaining = restOf next := by
    rw [remaining, underway]
    cases next <;> rfl
  refine List.perm_iff_count.mpr fun sample => ?_
  have same := moved.count_eq sample
  rw [List.count_append, List.count_append] at same
  rw [List.count_append, count_inside_resume, count_inside pipe, rest, idle, frames, feeder,
    List.flatMap_nil, List.count_nil]
  omega

/-- `begin_frame` keeps the partial packet and reports nothing, or removes it and reports its
samples under one of its two heads. -/
theorem beginFrame_removes {packetizer next : PcmPacketizer PcmSample}
    {boundary : PcmPacketizerBegin} {sequenceNumber sampleCount : Nat} {generation : Option Nat}
    (begun : packetizer.beginFrame sequenceNumber sampleCount generation = .ok (next, boundary)) :
    (next.residual = packetizer.residual ∧ boundary = {}) ∨
      next.residual = [] ∧ 0 < packetizer.written ∧
        (boundary = { discontinuityDiscardedSamples := packetizer.written } ∨
          boundary = { cancelledOutputDiscardedSamples := packetizer.written }) := by
  unfold PcmPacketizer.beginFrame at begun
  split at begun
  next => cases begun
  next aligned =>
    simp only [Except.ok.injEq, Prod.mk.injEq] at begun
    obtain ⟨rfl, rfl⟩ := begun
    generalize packetizer.expectedSequenceNumber.any (· != sequenceNumber) = gap
    generalize (packetizer.outputGenerationId != generation) = other
    rcases Nat.eq_zero_or_pos packetizer.written with empty | partly
    · cases gap <;> simp [PcmPacketizer.residual, PcmPacketizer.discardPartial, empty]
    · cases gap <;> cases other <;>
        simp [PcmPacketizer.residual, PcmPacketizer.discardPartial, partly]

/-- A push moves samples from the frame into the packet. -/
theorem push_moves {packetizer pushed : PcmPacketizer PcmSample} {samples : List PcmSample}
    {timestampNs offset copied : Nat}
    (push : packetizer.push (samples.drop offset) timestampNs offset = (pushed, copied))
    (sample : PcmSample) :
    packetizer.residual.count sample + (samples.drop offset).count sample =
      pushed.residual.count sample + (samples.drop (offset + copied)).count sample := by
  have residual := packetizer.push_residual (samples.drop offset) timestampNs offset
  rw [push] at residual
  rw [residual, ← List.count_append, ← List.count_append, List.append_assoc, ← List.drop_drop,
    List.take_append_drop]

@[simp] theorem counters_resume (pipe : Pipe) (next : Resume) :
    (pipe.resume next).counters = pipe.counters := by
  cases next <;> rfl

@[simp] theorem encodedCount_resume (pipe : Pipe) (next : Resume) :
    (pipe.resume next).encodedCount = pipe.encodedCount := by
  cases next <;> rfl

end Pipe

open Pipe

/-- What the feeder receives goes inside or is disposed of. -/
theorem FeederStep.balances {pipe after : Pipe} {ambient : Ambient} {received : List SourceFrame}
    {away : Disposals} (step : FeederStep pipe ambient after received away) :
    (pipe.inside ++ received.flatMap (·.samples)).Perm (after.inside ++ away.samples) := by
  cases step with
  | receive phase frame next goes =>
    refine upstream_balances rfl rfl rfl ?_
    rcases goes with rfl | rfl <;> simp [phase, FeederPhase.held]
  | stop phase =>
    refine upstream_balances rfl rfl rfl ?_
    rcases phase with ⟨phase, -⟩ | ⟨phase, -⟩ <;> simp [phase, FeederPhase.held]
  | ended | look | wait | loop | stamp | pass | holdBack | abandon | queue | overflow =>
    refine upstream_balances rfl rfl rfl ?_
    simp [*, FeederPhase.held]

/-- What is inside, with the padding of the step, stays inside or is disposed of. A worker that has
not started has no partial packet. -/
theorem EncoderStep.balances {pipe after : Pipe} {away : Disposals} {padding : Nat} {failed : Bool}
    (step : EncoderStep pipe after away padding failed)
    (fresh : pipe.encoder = .starting → pipe.packetizer.written = 0) :
    (pipe.inside ++ List.replicate padding 0).Perm (after.inside ++ away.samples) := by
  have nothing : pipe.packetizer.written = 0 → pipe.packetizer.residual = [] := by
    intro empty
    rw [PcmPacketizer.residual, empty, List.take_zero]
  cases step with
  | ended | wait | block => simp
  | fail phase =>
    refine List.perm_iff_count.mpr fun sample => ?_
    simp [count_inside, phase, remaining, assembled, nothing (fresh phase), countError]
  | take phase frame rest frames =>
    refine List.perm_iff_count.mpr fun sample => ?_
    simp [count_inside, phase, frames, remaining, assembled]
  | finish phase empty closed whole =>
    refine List.perm_iff_count.mpr fun sample => ?_
    simp [count_inside, phase, remaining, assembled, nothing whole]
  | pad phase empty closed padded padding tail =>
    obtain ⟨-, -, -, -, -, residual⟩ := Sourced.padTail_cases tail
    refine List.perm_iff_count.mpr fun sample => ?_
    simp only [List.count_append, count_inside, phase, EncoderPhase.waiting, remaining,
      EncoderPhase.underway, assembled, residual, Disposals.samples_nil, List.count_nil]
    omega
  | skip frame phase reason known =>
    obtain ⟨counters, charged⟩ := pipe.charge_eq reason
    refine List.perm_iff_count.mpr fun sample => ?_
    simp [charged, count_inside, phase, remaining, assembled]
    omega
  | begin frame phase packetizer boundary packetOutput begun =>
    refine List.perm_iff_count.mpr fun sample => ?_
    have kept : pipe.packetizer.residual.count sample =
        packetizer.residual.count sample +
          (disposedIn (pipe.discarded boundary)).samples.count sample := by
      rcases beginFrame_removes begun with ⟨same, rfl⟩ | ⟨cleared, partly, rfl | rfl⟩
      · simp [same, discarded]
      · simp [cleared, discarded, partly]
      · simp [cleared, discarded, partly]
    simp only [List.replicate_zero, List.append_nil, List.count_append, count_inside, phase,
      EncoderPhase.waiting, remaining, EncoderPhase.underway, assembled, List.drop_zero,
      List.flatMap_cons, List.flatMap_nil, List.count_nil]
    omega
  | copy frame offset phase more pushed copied push
    | complete frame offset phase more pushed copied push =>
    refine List.perm_iff_count.mpr fun sample => ?_
    have moved := push_moves push sample
    simp only [List.replicate_zero, List.append_nil, count_inside, phase, EncoderPhase.waiting,
      remaining, EncoderPhase.underway, assembled, Disposals.samples_nil]
    omega
  | exhaust frame offset phase all =>
    refine List.perm_iff_count.mpr fun sample => ?_
    simp [count_inside, phase, remaining, assembled, List.drop_of_length_le all]
  | start phase | vet packet next phase | deliver frame next phase =>
    rw [List.replicate_zero, List.append_nil]
    exact advance_balances rfl rfl rfl (by rw [phase]; rfl) (by rw [phase]; rfl)
      (by simp only [assembled, phase])
  | encode packet next phase frame samples =>
    rw [List.replicate_zero, List.append_nil]
    exact advance_balances rfl rfl rfl (by rw [phase]; rfl) (by rw [phase]; rfl)
      (by simp only [assembled, phase, samples])
  | queue frame next phase room =>
    rw [List.replicate_zero, List.append_nil]
    refine resume_balances (by rw [phase]; rfl) (by rw [phase]; rfl) rfl rfl ?_
    simp [assembled, phase, List.perm_append_comm]
  | giveUp current phase reason samples next gives lossy =>
    obtain ⟨counters, charged⟩ := pipe.charge_eq reason
    rw [List.replicate_zero, List.append_nil, charged]
    cases gives <;>
    · refine resume_balances (by rw [phase]; rfl) (by rw [phase]; rfl) rfl rfl ?_
      simp [assembled, phase, List.perm_append_comm]

/-! ### How a bus ends -/

namespace Course

/-- The encoder ends because it could not be started, because the publisher is gone, or after the
feeder and with an empty channel; only then is there padding. -/
structure Shaped (course : Course) : Prop where
  fresh : course.pipe.encoder = .starting →
    course.pipe.packetizer.written = 0 ∧ course.failedStart = false
  failed : course.failedStart = true → course.pipe.encoder = .stopped
  drained : course.pipe.encoder.inTail = true →
    course.failedStart = true ∨ course.hungUp = true ∨
      course.pipe.feeder.ended = true ∧ course.pipe.frames = []
  unpadded : course.pipe.encoder.inTail = false → course.padding = 0
  padded : course.padding < course.pipe.packetizer.packetSamples

variable {course : Course} {ambient : Ambient} {after : Pipe} {received : List SourceFrame}
  {away : Disposals} {padding : Nat} {failed : Bool}

theorem Shaped.fed (shaped : course.Shaped)
    (step : FeederStep course.pipe ambient after received away) :
    (course.fed after received away).Shaped := by
  have same : after.encoder = course.pipe.encoder ∧ after.packetizer = course.pipe.packetizer := by
    cases step <;> exact ⟨rfl, rfl⟩
  refine ⟨?_, ?_, ?_, ?_, ?_⟩ <;> simp only [Course.fed, same.1, same.2]
  · exact shaped.fresh
  · exact shaped.failed
  · intro tail
    refine (shaped.drained tail).imp_right (Or.imp_right fun ⟨ended, empty⟩ => ?_)
    -- an ended feeder has no other step
    cases step <;> simp_all [FeederPhase.ended]
  · exact shaped.unpadded
  · exact shaped.padded

/-- The encoder is at work, and goes on. -/
theorem Shaped.goesOn (shaped : course.Shaped) (working : course.pipe.encoder.inTail = false)
    (goes : after.encoder.inTail = false) (started : after.encoder ≠ .starting)
    (size : after.packetizer.packetSamples = course.pipe.packetizer.packetSamples) :
    (course.encoded after away 0 false).Shaped where
  fresh impossible := absurd impossible started
  failed before := by
    have stopped := shaped.failed (by simpa [Course.encoded] using before)
    rw [stopped] at working
    cases working
  drained tail := by
    rw [Course.encoded, goes] at tail
    cases tail
  unpadded _ := shaped.unpadded working
  padded := size ▸ shaped.padded

/-- The encoder is at its last packet, or ends after it. -/
theorem Shaped.stays (shaped : course.Shaped) (tail : course.pipe.encoder.inTail = true)
    (unended : course.pipe.encoder ≠ .stopped) (stays : after.encoder.inTail = true)
    (feeder : after.feeder = course.pipe.feeder) (frames : after.frames = course.pipe.frames)
    (packetizer : after.packetizer = course.pipe.packetizer) :
    (course.encoded after away 0 false).Shaped where
  fresh starting := by
    have tail : after.encoder.inTail = true := stays
    rw [show after.encoder = .starting from starting] at tail
    cases tail
  failed before := absurd (shaped.failed (by simpa [Course.encoded] using before)) unended
  drained _ := by
    rcases shaped.drained tail with failed | other
    · exact absurd (shaped.failed failed) unended
    · refine .inr ?_
      rw [Course.encoded, feeder, frames]
      exact other
  unpadded working := by
    rw [Course.encoded, stays] at working
    cases working
  padded := packetizer ▸ shaped.padded

theorem Shaped.resumed (shaped : course.Shaped) {next : Resume} {counted : Pipe}
    (tail : course.pipe.encoder.inTail = next.isNone) (unended : course.pipe.encoder ≠ .stopped)
    (feeder : counted.feeder = course.pipe.feeder) (frames : counted.frames = course.pipe.frames)
    (packetizer : counted.packetizer = course.pipe.packetizer) :
    (course.encoded (counted.resume next) away 0 false).Shaped := by
  cases next with
  | none => exact shaped.stays tail unended rfl feeder frames packetizer
  | some position =>
    refine shaped.goesOn tail rfl (by simp [resume]) ?_
    show counted.packetizer.packetSamples = _
    rw [packetizer]

theorem Shaped.encoded (shaped : course.Shaped)
    (step : EncoderStep course.pipe after away padding failed) :
    (course.encoded after away padding failed).Shaped := by
  have width : ∀ packetizer : PcmPacketizer PcmSample,
      packetizer.channels = course.pipe.packetizer.channels →
      packetizer.packetSamples = course.pipe.packetizer.packetSamples := by
    intro packetizer same
    rw [packetizer.sized, course.pipe.packetizer.sized, same]
  cases step with
  | ended | wait | block => simpa [Course.encoded] using shaped
  | fail phase =>
    have none := shaped.unpadded (by rw [phase]; rfl)
    have padded := shaped.padded
    constructor <;> simp_all [Course.encoded, EncoderPhase.inTail, countError]
  | finish phase empty closed whole =>
    have none := shaped.unpadded (by rw [phase]; rfl)
    have padded := shaped.padded
    constructor <;> simp_all [Course.encoded, EncoderPhase.inTail]
  | pad phase empty closed filled padding tail =>
    have none := shaped.unpadded (by rw [phase]; rfl)
    have unfailed : course.failedStart = false := by
      by_contra failed
      rw [shaped.failed (by simpa using failed)] at phase
      cases phase
    have bound : padding < filled.packetSamples := by
      have partly := (Sourced.padTail_cases tail).1
      rw [PcmPacketizer.padTail, if_neg partly] at tail
      cases tail
      have size := course.pipe.packetizer.packetSamples_pos
      dsimp only
      omega
    constructor <;> simp_all [Course.encoded, EncoderPhase.inTail]
  | start phase | take phase | exhaust _ _ phase =>
    exact shaped.goesOn (by rw [phase]; rfl) rfl (by simp) rfl
  | skip frame phase reason known =>
    obtain ⟨counters, charged⟩ := course.pipe.charge_eq reason
    rw [charged]
    exact shaped.goesOn (by rw [phase]; rfl) rfl (by simp) rfl
  | begin frame phase packetizer boundary packetOutput begun =>
    exact shaped.goesOn (by rw [phase]; rfl) rfl (by simp)
      (width _ (Sourced.beginFrame_cases begun).2.1)
  | copy frame offset phase more pushed copied push
    | complete frame offset phase more pushed copied push =>
    refine shaped.goesOn (by rw [phase]; rfl) rfl (by simp) (width _ ?_)
    exact congrArg (fun result => result.1.channels) push.symm
  | vet packet next phase | encode packet next phase | deliver frame next phase =>
    cases next with
    | none => exact shaped.stays (by rw [phase]; rfl) (by simp [phase]) rfl rfl rfl rfl
    | some => exact shaped.goesOn (by rw [phase]; rfl) rfl (by simp) rfl
  | queue frame next phase =>
    exact shaped.resumed (by rw [phase]; rfl) (by simp [phase]) rfl rfl rfl
  | giveUp current phase reason samples next gives =>
    obtain ⟨counters, charged⟩ := course.pipe.charge_eq reason
    rw [charged]
    cases gives <;> exact shaped.resumed (by rw [phase]; rfl) (by simp [phase]) rfl rfl rfl

/-! ### The account of a bus -/

/-- Nothing is lost without a trace on a bus. -/
structure Conserved (course : Course) : Prop where
  /-- What came in is disposed of, inside or handed over; nothing is there twice. -/
  samples : course.entered.Perm
    (course.disposed.samples ++ (course.pipe.inside ++ course.handedOver))
  /-- The encoded frames are disposed of, inside or handed over as well. -/
  packets : course.pipe.encodedCount = course.disposed.times .cancelledEncoded +
    course.disposed.times .encodedDropped + course.disposed.times .undelivered +
    course.pipe.encodedInside + course.pipe.taken.length
  /-- Every reason has its counter, -/
  counters : course.pipe.counters = course.tally
  inputDrops : course.pipe.inputDrops = shown (course.disposed.times .paused)
  queueDrops : course.pipe.ingressQueueDrops = shown (course.disposed.times .channelFull)
  /-- but for one, which needs a worker that could not be made or a publisher that is gone, -/
  unqueued : 0 < course.disposed.times .unqueued →
    course.failedStart = true ∨ course.hungUp = true
  /-- and for two that need a publisher that is gone. -/
  uncounted : 0 < course.disposed.times .undelivered + course.disposed.times .interrupted →
    course.hungUp = true

/-- What a publisher leaves in the channel is undelivered. -/
theorem disposals_undelivered (frames : List EncodedAudioFrame) :
    let dropped : Disposals := frames.map fun frame => (.undelivered, frame.samples)
    dropped.times .undelivered = frames.length ∧
      (∀ reason, reason ≠ .undelivered → dropped.times reason = 0) ∧
      (∀ reason, reason ≠ .undelivered → dropped.size reason = 0) ∧
      dropped.samples = frames.flatMap (·.samples) := by
  intro dropped
  refine ⟨?_, fun reason other => ?_, fun reason other => ?_, ?_⟩
  · simp [dropped, Disposals.times, List.countP_map]
  · simp [dropped, Disposals.times, Ne.symm other]
  · have none : dropped.filter (fun entry => entry.1 == reason) = [] := by
      simp [dropped, List.filter_eq_nil_iff, Ne.symm other]
    rw [Disposals.size, none]
    rfl
  · simp [dropped, Disposals.samples, List.flatMap_map]

/-- What comes in and goes out in a step balances. -/
theorem entered_perm {entered arrived disposed away inside inside' handedOver : List PcmSample}
    (before : entered.Perm (disposed ++ (inside ++ handedOver)))
    (step : (inside ++ arrived).Perm (inside' ++ away)) :
    (entered ++ arrived).Perm (disposed ++ away ++ (inside' ++ handedOver)) := by
  refine List.perm_iff_count.mpr fun sample => ?_
  have first := before.count_eq sample
  have second := step.count_eq sample
  simp only [List.count_append] at first second ⊢
  omega

theorem Conserved.fed (conserved : course.Conserved) (shaped : course.Shaped)
    (step : FeederStep course.pipe ambient after received away) :
    (course.fed after received away).Conserved where
  samples := by
    have balance := entered_perm conserved.samples step.balances
    have taken : after.taken = course.pipe.taken := by cases step <;> rfl
    simp only [entered, handedOver, Course.fed, Disposals.samples_append, taken,
      List.flatMap_append] at balance ⊢
    refine List.Perm.trans ?_ balance
    simpa only [List.append_assoc] using List.perm_append_comm.append_left _
  packets := by
    have packets := conserved.packets
    cases step <;> simpa [Course.fed, encodedInside, inHand] using packets
  counters := by
    have counters := conserved.counters
    cases step <;> simpa [Course.fed, tally] using counters
  inputDrops := by
    have inputDrops := conserved.inputDrops
    cases step <;> simp [Course.fed, inputDrops]
  queueDrops := by
    have queueDrops := conserved.queueDrops
    cases step <;> simp [Course.fed, queueDrops]
  unqueued := by
    have unqueued := conserved.unqueued
    cases step with
    | abandon frame phase gone =>
      intro _
      have tail : course.pipe.encoder.inTail = true := by
        cases encoder : course.pipe.encoder <;> simp_all [EncoderPhase.ended, EncoderPhase.inTail]
      rcases shaped.drained tail with failed | hungUp | ⟨ended, -⟩
      · exact .inl failed
      · exact .inr hungUp
      · rw [phase] at ended
        cases ended
    | _ => simpa [Course.fed] using unqueued
  uncounted := by
    have uncounted := conserved.uncounted
    cases step <;> simpa [Course.fed] using uncounted

/-- The encoded frames balance as well. -/
theorem encoder_packets (step : EncoderStep course.pipe after away padding failed) :
    after.taken = course.pipe.taken ∧
      after.encodedCount + course.pipe.encodedInside =
        course.pipe.encodedCount + after.encodedInside + away.times .cancelledEncoded +
          away.times .encodedDropped := by
  have resumed : ∀ (counted : Pipe) (next : Resume), (counted.resume next).taken = counted.taken ∧
      (counted.resume next).encodedInside = counted.encoded.length := by
    intro counted next
    cases next <;> simp [resume, encodedInside, inHand]
  cases step with
  | ended | wait | block => simp
  | fail phase | start phase | take phase | finish phase | pad phase | copy _ _ phase
    | complete _ _ phase | exhaust _ _ phase | vet _ _ phase | deliver _ _ phase =>
    simp [encodedInside, inHand, phase, countError]
  | encode packet next phase =>
    simp only [encodedInside, inHand, phase]
    simp
    omega
  | skip frame phase reason known =>
    obtain ⟨counters, charged⟩ := course.pipe.charge_eq reason
    rcases known with rfl | rfl | rfl <;> simp [charged, encodedInside, inHand, phase]
  | begin frame phase packetizer boundary packetOutput begun =>
    rcases beginFrame_removes begun with ⟨-, rfl⟩ | ⟨-, partly, rfl | rfl⟩ <;>
      simp [discarded, encodedInside, inHand, *]
  | queue frame next phase room =>
    simp only [resumed, encodedCount_resume]
    simp [encodedInside, inHand, phase]
    omega
  | giveUp current phase reason samples next gives lossy =>
    obtain ⟨counters, charged⟩ := course.pipe.charge_eq reason
    simp only [charged, resumed, encodedCount_resume]
    cases gives <;> simp [encodedInside, inHand, phase] <;> omega

/-- The encoder counts what it disposes of, its packets and the padding. -/
theorem encoder_tally (counters : course.pipe.counters = course.tally)
    (unfailed : course.pipe.encoder = .starting → course.failedStart = false)
    (step : EncoderStep course.pipe after away padding failed) :
    after.counters = (course.encoded after away padding failed).tally := by
  cases step with
  | fail phase =>
    simp [Course.encoded, tally, countError, counters, unfailed phase, Nat.add_comm,
      Nat.add_left_comm, Nat.add_assoc]
  | skip frame phase reason known =>
    rcases known with rfl | rfl | rfl <;>
      simp [Course.encoded, tally, charge, countError, countCancelled, counters, Nat.add_comm,
        Nat.add_left_comm, Nat.add_assoc]
  | begin frame phase packetizer boundary packetOutput begun =>
    have size := course.pipe.packetizer.length_residual
    rcases beginFrame_removes begun with ⟨-, rfl⟩ | ⟨-, partly, rfl | rfl⟩ <;>
      simp_all [Course.encoded, tally, discarded]
  | giveUp current phase reason samples next gives lossy =>
    cases gives <;>
      simp [Course.encoded, tally, charge, countError, countCancelled, counters, Nat.add_comm,
        Nat.add_left_comm, Nat.add_assoc]
  | _ => simp [Course.encoded, tally, counters]

/-- The encoder leaves the feeder's counters alone and has reasons of its own. -/
theorem encoder_elsewhere {pipe : Pipe} (step : EncoderStep pipe after away padding failed) :
    after.inputDrops = pipe.inputDrops ∧
      after.ingressQueueDrops = pipe.ingressQueueDrops ∧ away.times .paused = 0 ∧
      away.times .channelFull = 0 ∧ away.times .unqueued = 0 ∧
      away.times .undelivered = 0 ∧ away.times .interrupted = 0 := by
  cases step with
  | skip frame phase reason known =>
    obtain ⟨counters, charged⟩ := pipe.charge_eq reason
    rcases known with rfl | rfl | rfl <;> simp [charged]
  | begin frame phase packetizer boundary packetOutput begun =>
    rcases beginFrame_removes begun with ⟨-, rfl⟩ | ⟨-, partly, rfl | rfl⟩ <;> simp [discarded, *]
  | giveUp current phase reason samples next gives lossy =>
    obtain ⟨counters, charged⟩ := pipe.charge_eq reason
    obtain ⟨packetizer, encoder, resumed⟩ := (pipe.charge reason).resume_eq next
    rw [resumed, charged]
    cases gives <;> simp
  | queue frame next phase room =>
    obtain ⟨packetizer, encoder, resumed⟩ := Pipe.resume_eq _ next
    rw [resumed]
    simp
  | _ => simp [countError]

theorem Conserved.encoded (conserved : course.Conserved) (shaped : course.Shaped)
    (step : EncoderStep course.pipe after away padding failed) :
    (course.encoded after away padding failed).Conserved := by
  obtain ⟨taken, packets⟩ := encoder_packets step
  obtain ⟨inputDrops, queueDrops, paused, channelFull, unqueued, undelivered, interrupted⟩ :=
    encoder_elsewhere step
  refine ⟨?_, ?_, ?_, ?_, ?_, ?_, ?_⟩
  · have balance := entered_perm conserved.samples
      (step.balances fun starting => (shaped.fresh starting).1)
    simp only [entered, handedOver, Course.encoded, Disposals.samples_append, taken,
      List.replicate_add] at balance ⊢
    rwa [← List.append_assoc]
  · have before := conserved.packets
    simp only [Course.encoded, Disposals.times_append, taken, undelivered]
    omega
  · exact encoder_tally conserved.counters (fun starting => (shaped.fresh starting).2) step
  · simpa [Course.encoded, inputDrops, paused] using conserved.inputDrops
  · simpa [Course.encoded, queueDrops, channelFull] using conserved.queueDrops
  · intro lost
    simp only [Course.encoded, Disposals.times_append, unqueued, Nat.add_zero] at lost ⊢
    exact (conserved.unqueued lost).imp_left fun failed => by rw [failed, Bool.true_or]
  · intro lost
    simp only [Course.encoded, Disposals.times_append, undelivered, interrupted,
      Nat.add_zero] at lost ⊢
    exact conserved.uncounted lost

/-- The encoder has a frame to send when the publisher is gone. -/
theorem Conserved.cutOff (conserved : course.Conserved) {frame : EncodedAudioFrame} {next : Resume}
    (phase : course.pipe.encoder = .sending frame next) (hungUp : course.hungUp = true) :
    (course.encoded { course.pipe with encoder := .stopped }
      ([(.undelivered, frame.samples)] ++ [(.interrupted, restOf next)]) 0 false).Conserved := by
  obtain ⟨samples, packets, counters, inputDrops, queueDrops, unqueued, uncounted⟩ := conserved
  have rest : course.pipe.remaining = restOf next := by
    rw [remaining, phase]
    cases next <;> rfl
  refine ⟨samples.trans (List.perm_iff_count.mpr fun sample => ?_), ?_, counters.trans ?_, ?_, ?_,
    fun _ => .inr hungUp, fun _ => hungUp⟩ <;>
    simp only [Course.encoded, Disposals.times_append, Disposals.samples_append]
  · simp only [List.count_append, count_inside, rest]
    simp [handedOver, assembled, phase, remaining]
    omega
  · simp [encodedInside, inHand, phase] at packets ⊢
    omega
  · simp only [tally, Disposals.times_append, Disposals.size_append, Disposals.times_singleton,
      Disposals.size_singleton]
    simp
  · simpa using inputDrops
  · simpa using queueDrops

/-- The publisher drops its receiver, and with it the frames in the channel. -/
theorem Conserved.hangUp (conserved : course.Conserved) : (course.move .hangUp).Conserved := by
  obtain ⟨samples, packets, counters, inputDrops, queueDrops, unqueued, uncounted⟩ := conserved
  obtain ⟨times, others, sizes, dropped⟩ := disposals_undelivered course.pipe.encoded
  refine ⟨samples.trans (List.perm_iff_count.mpr fun sample => ?_), ?_, counters.trans ?_, ?_, ?_,
    fun _ => .inr rfl, fun _ => rfl⟩ <;>
    simp only [move, Disposals.times_append, Disposals.samples_append]
  · simp [count_inside, handedOver, assembled, remaining, dropped]
    omega
  · simp [encodedInside, inHand, times, others] at packets ⊢
    omega
  · simp [tally, others, sizes]
  · simpa [others] using inputDrops
  · simpa [others] using queueDrops

/-- The publisher receives a frame. -/
theorem Conserved.receive (conserved : course.Conserved) : (course.move .receive).Conserved := by
  cases queue : course.pipe.encoded with
  | nil => simpa [move, tryRecv, queue] using conserved
  | cons frame rest =>
    obtain ⟨samples, packets, counters, inputDrops, queueDrops, unqueued, uncounted⟩ := conserved
    refine ⟨?_, ?_, ?_, ?_, ?_, ?_, ?_⟩ <;> simp only [move, tryRecv, queue]
    · refine samples.trans (List.perm_iff_count.mpr fun sample => ?_)
      simp [handedOver, count_inside, queue, remaining, assembled]
      omega
    · simp [encodedInside, inHand, queue] at packets ⊢
      omega
    · exact counters
    · exact inputDrops
    · exact queueDrops
    · exact unqueued
    · exact uncounted

theorem Shaped.receive (shaped : course.Shaped) : (course.move .receive).Shaped := by
  have same : course.pipe.tryRecv.2.encoder = course.pipe.encoder ∧
      course.pipe.tryRecv.2.packetizer = course.pipe.packetizer ∧
      course.pipe.tryRecv.2.feeder = course.pipe.feeder ∧
      course.pipe.tryRecv.2.frames = course.pipe.frames := by
    unfold tryRecv
    split <;> exact ⟨rfl, rfl, rfl, rfl⟩
  obtain ⟨encoder, packetizer, feeder, frames⟩ := same
  refine ⟨?_, ?_, ?_, ?_, ?_⟩ <;> simp only [move, encoder, packetizer, feeder, frames]
  · exact shaped.fresh
  · exact shaped.failed
  · exact shaped.drained
  · exact shaped.unpadded
  · exact shaped.padded

theorem Shaped.cutOff (shaped : course.Shaped) (hungUp : course.hungUp = true) :
    (course.encoded { course.pipe with encoder := .stopped } away 0 false).Shaped where
  fresh impossible := by cases impossible
  failed _ := rfl
  drained _ := .inr (.inl hungUp)
  unpadded impossible := by cases impossible
  padded := shaped.padded

/-- The encoder is cut off, or takes one of its steps. -/
theorem encoderStep_cases (course : Course) (ambient : Ambient) (codec : Option (List UInt8)) :
    (∃ frame next, course.pipe.encoder = .sending frame next ∧ course.hungUp = true ∧
      course.encoderStep ambient codec = ({ course.pipe with encoder := .stopped },
        [.disposed .interrupted (restOf next), .disposed .undelivered frame.samples])) ∨
      course.pipe.Stepped (course.encoderStep ambient codec) := by
  unfold encoderStep
  split
  next hungUp =>
    unfold encodeDisconnected
    split
    next frame next phase => exact .inl ⟨frame, next, phase, hungUp, rfl⟩
    next => exact .inr (course.pipe.encode_steps ambient codec)
  next => exact .inr (course.pipe.encode_steps ambient codec)

/-- Whatever the order of the steps, an account is kept. -/
theorem move_accounts (conserved : course.Conserved) (shaped : course.Shaped) (move : PipeMove) :
    (course.move move).Conserved ∧ (course.move move).Shaped := by
  cases move with
  | feed ambient arrival =>
    have step := course.pipe.feed_steps ambient arrival
    exact ⟨conserved.fed shaped step, shaped.fed step⟩
  | encode ambient codec =>
    rcases course.encoderStep_cases ambient codec with ⟨frame, next, phase, hungUp, ends⟩ | step
    · rw [Course.move, ends]
      exact ⟨conserved.cutOff phase hungUp, shaped.cutOff hungUp⟩
    · exact ⟨conserved.encoded shaped step, shaped.encoded step⟩
  | receive => exact ⟨conserved.receive, shaped.receive⟩
  | countCancelled =>
    refine ⟨{ conserved with counters := ?_ }, { shaped with }⟩
    simp [Course.move, Pipe.countCancelled, conserved.counters, tally, Nat.add_assoc, Nat.add_comm,
      Nat.add_left_comm]
  | countStale staleDrops =>
    refine ⟨{ conserved with counters := ?_ }, { shaped with }⟩
    simp [Course.move, Pipe.countStale, conserved.counters, tally]
  | hangUp =>
    exact ⟨conserved.hangUp, { shaped with drained := fun _ => .inr (.inl rfl) }⟩

theorem run_accounts (layout : BusLayout) (moves : List PipeMove) :
    (run layout moves).Conserved ∧ (run layout moves).Shaped := by
  refine run_induction (motive := fun course => course.Conserved ∧ course.Shaped)
    ⟨⟨List.Perm.refl _, rfl, rfl, rfl, rfl, ?_, ?_⟩, ⟨fun _ => ⟨rfl, rfl⟩, ?_, ?_, fun _ => rfl,
      layout.pipe.packetizer.packetSamples_pos⟩⟩
    (fun _ move held => move_accounts held.1 held.2 move) moves
  all_goals
    intro impossible
    cases impossible

/-- An encoder that could be started and whose publisher holds on has drained its channel when it
ends. -/
theorem Shaped.drained_of_ended (shaped : course.Shaped) (ended : course.pipe.encoder = .stopped)
    (started : course.failedStart = false) (held : course.hungUp = false) :
    course.pipe.feeder.ended = true ∧ course.pipe.frames = [] := by
  rcases shaped.drained (by rw [ended]; rfl) with failed | hungUp | both
  · rw [started] at failed
    cases failed
  · rw [held] at hungUp
    cases hungUp
  · exact both

/-- It leaves nothing behind but the channel to the publisher. -/
theorem Shaped.inside_eq (shaped : course.Shaped) (ended : course.pipe.encoder = .stopped)
    (started : course.failedStart = false) (held : course.hungUp = false) :
    course.pipe.inside = course.pipe.encoded.flatMap (·.samples) := by
  obtain ⟨stopped, empty⟩ := shaped.drained_of_ended ended started held
  have idle : course.pipe.feeder.held = [] := by
    cases phase : course.pipe.feeder <;> simp_all [FeederPhase.ended, FeederPhase.held]
  simp [inside, queue, remaining, assembled, ended, empty, idle]

end Course

/-- No captured sample is lost without a trace. Whatever the order in which the feeder, the encoder
and the publisher of a bus take their steps, whatever frames arrive and whatever is paused, stopped
or cancelled meanwhile: the samples received, with less than one packet of padding, are those
disposed of, those inside the bus and those handed to the publisher, each counted once; every reason
shows in its own counter, except that frames given up because the encoder is gone are not counted,
which needs an encoder that could not be started or a publisher that has dropped its receiver, and
that what is under way when the publisher drops its receiver is not counted. -/
theorem captured_samples_conserved (layout : BusLayout) (moves : List PipeMove) :
    (Course.run layout moves).Conserved ∧
      (Course.run layout moves).padding <
        (Course.run layout moves).pipe.packetizer.packetSamples ∧
      ((Course.run layout moves).pipe.encoder = .stopped →
        (Course.run layout moves).failedStart = false → (Course.run layout moves).hungUp = false →
        (Course.run layout moves).pipe.inside =
          (Course.run layout moves).pipe.encoded.flatMap (·.samples)) := by
  obtain ⟨conserved, shaped⟩ := Course.run_accounts layout moves
  exact ⟨conserved, shaped.padded, shaped.inside_eq⟩

/-- A frame of two samples passes a bus that is then stopped: its only packet is padded. -/
def shortFarewell : List PipeMove :=
  .encode {} (some []) ::
    List.replicate 3 (.feed {} (some
      { samples := [1, 2], channels := 1, sequenceNumber := 0, timestampNs := 0,
        framed := Nat.one_pos })) ++
    .feed { transportStop := true } none :: List.replicate 9 (.encode {} (some [7]))

theorem captured_samples_conserved_farewell :
    (Course.run default shortFarewell).pipe.encoded.length = 1 ∧
      (Course.run default shortFarewell).pipe.inside =
        (Course.run default shortFarewell).pipe.encoded.flatMap (·.samples) :=
  ⟨rfl, (captured_samples_conserved default shortFarewell).2.2 rfl rfl rfl⟩

/-- If the publisher then drops its receiver, the packet is lost and no counter says so. -/
example : (Course.run default (shortFarewell ++ [.hangUp])).disposed.times .undelivered = 1 ∧
    (Course.run default (shortFarewell ++ [.hangUp])).pipe.counters =
      (Course.run default shortFarewell).pipe.counters := ⟨rfl, rfl⟩

/-! ### The buses of a process -/

namespace Course

theorem run_concat (layout : BusLayout) (moves : List PipeMove) (last : PipeMove) :
    run layout (moves ++ [last]) = (run layout moves).move last := by
  simp [run]

theorem run_append (layout : BusLayout) (first second : List PipeMove) :
    run layout (first ++ second) = second.foldl move (run layout first) :=
  List.foldl_append

/-- Once the encoder has ended, and could be started, and its channel is empty, every sample is
disposed of or handed over. -/
theorem run_drained (layout : BusLayout) (moves : List PipeMove)
    (ended : (run layout moves).pipe.encoder.ended = true)
    (empty : (run layout moves).pipe.encoded = [])
    (started : (run layout moves).failedStart = false)
    (held : (run layout moves).hungUp = false) :
    (run layout moves).pipe.feeder.ended = true ∧
      (run layout moves).entered.Perm
        ((run layout moves).disposed.samples ++ (run layout moves).handedOver) := by
  obtain ⟨conserved, shaped⟩ := run_accounts layout moves
  have stopped : (run layout moves).pipe.encoder = .stopped := by
    cases phase : (run layout moves).pipe.encoder <;> simp_all [EncoderPhase.ended]
  refine ⟨(shaped.drained_of_ended stopped started held).1, ?_⟩
  have samples := conserved.samples
  rwa [shaped.inside_eq stopped started held, empty, List.flatMap_nil, List.nil_append] at samples

end Course

/-- The feeder neither starts the encoder nor pads. -/
theorem Pipe.feed_silent (pipe : Pipe) (ambient : Ambient) (arrival : Option (AudioFrame UInt32)) :
    paddingIn (pipe.feed ambient arrival).2 = 0 ∧
      unstartedIn (pipe.feed ambient arrival).2 = false := by
  unfold feed
  split <;> repeat' split
  all_goals exact ⟨rfl, rfl⟩

namespace Course

/-- A course has led to a pipe and tells what the threads of the bus have entered. The publisher
holds its receiver. -/
structure Tells (course : Course) (pipe : Pipe) (events : List PipeEvent) : Prop where
  pipe : course.pipe = pipe
  received : course.received = receivedIn events
  disposed : course.disposed = disposedIn events
  padding : course.padding = paddingIn events
  failedStart : course.failedStart = unstartedIn events
  held : course.hungUp = false

variable {course : Course} {pipe : Pipe} {events : List PipeEvent}

theorem Tells.feed (tells : course.Tells pipe events) (ambient : Ambient)
    (arrival : Option (AudioFrame UInt32)) :
    (course.move (.feed ambient arrival)).Tells (pipe.feed ambient arrival).1
      ((pipe.feed ambient arrival).2 ++ events) := by
  obtain ⟨rfl, received, disposed, padding, failedStart, held⟩ := tells
  obtain ⟨unpadded, started⟩ := course.pipe.feed_silent ambient arrival
  refine ⟨rfl, ?_, ?_, ?_, ?_, held⟩
  · simp only [move, fed, receivedIn_append, received]
  · simp only [move, fed, disposedIn_append, disposed]
  · simp only [move, fed, paddingIn_append, padding, unpadded, Nat.add_zero]
  · simp only [move, fed, unstartedIn_append, failedStart, started, Bool.or_false]

theorem Tells.encode (tells : course.Tells pipe events) (ambient : Ambient)
    (codec : Option (List UInt8)) :
    (course.move (.encode ambient codec)).Tells (pipe.encode ambient codec).1
      ((pipe.encode ambient codec).2 ++ events) := by
  obtain ⟨rfl, received, disposed, padding, failedStart, held⟩ := tells
  have step : course.encoderStep ambient codec = course.pipe.encode ambient codec := by
    simp [encoderStep, held]
  refine ⟨?_, ?_, ?_, ?_, ?_, held⟩ <;> simp only [move, Course.encoded, step]
  · rw [receivedIn_append, received, Pipe.receivedIn_encode, List.append_nil]
  · rw [disposedIn_append, disposed]
  · rw [paddingIn_append, padding]
  · rw [unstartedIn_append, failedStart]

/-- Once the encoder has ended, and could be started, and its channel is empty, every sample is
disposed of or handed over. -/
theorem Tells.drained {layout : BusLayout} {moves : List PipeMove}
    (tells : (run layout moves).Tells pipe events) (ended : pipe.encoder.ended = true)
    (empty : pipe.encoded = []) (started : unstartedIn events = false) :
    pipe.feeder.ended = true ∧
      (enteredIn events).Perm ((disposedIn events).samples ++ pipe.taken.flatMap (·.samples)) := by
  obtain ⟨rfl, received, disposed, padding, failedStart, held⟩ := tells
  obtain ⟨stopped, samples⟩ := run_drained layout moves ended empty (failedStart.trans started) held
  refine ⟨stopped, ?_⟩
  rwa [entered, received, padding, disposed] at samples

end Course

namespace World

variable {Publisher Note : Type}

/-- A bus has come to where it stands by these moves. -/
def Charts (layout : BusLayout) (bus : Nat) (moves : List PipeMove)
    (world : World Publisher Note) : Prop :=
  (Course.run layout moves).Tells (world.shared.pipes bus) (pipeEvents bus world.journal)

/-- Every bus has taken its course, from its layout to where it stands. -/
def Charted (layouts : Nat → BusLayout) (world : World Publisher Note) : Prop :=
  ∀ bus, ∃ moves, Charts (layouts bus) bus moves world

namespace Charts

variable {layout : BusLayout} {bus : Nat} {moves : List PipeMove}
  {world after : World Publisher Note}

/-- The other threads move a bus by a step of one of its threads, or leave it alone. -/
theorem perform (charts : Charts layout bus moves world) (action : Action) :
    ∃ more, (∀ move ∈ more, move.ofThread = true) ∧
      Charts layout bus (moves ++ more) (world.perform action) := by
  refine world.perform_bus (motive := fun pipe events => ∃ more,
    (∀ move ∈ more, PipeMove.ofThread move = true) ∧
      (Course.run layout (moves ++ more)).Tells pipe events) action bus ?_ ?_ ?_
  · exact ⟨[], by simp, by rwa [List.append_nil]⟩
  · intro arrival
    refine ⟨[.feed world.shared.toAmbient arrival], by simp [PipeMove.ofThread], ?_⟩
    rw [Course.run_concat]
    exact Course.Tells.feed charts _ arrival
  · intro codec
    refine ⟨[.encode world.shared.toAmbient codec], by simp [PipeMove.ofThread], ?_⟩
    rw [Course.run_concat]
    exact Course.Tells.encode charts _ codec

/-- A publisher that only enters notes leaves a bus where it is. -/
theorem kept (charts : Charts layout bus moves world) (entries : List Note)
    (journal : after.journal = entries.map .note ++ world.journal)
    (same : after.shared.pipes bus = world.shared.pipes bus) :
    Charts layout bus moves after := by
  rw [Charts, same, journal, pipeEvents_append, pipeEvents_map_note, List.nil_append]
  exact charts

/-- A publisher that serves a bus moves it. -/
theorem moved (charts : Charts layout bus moves world) (entries : List Note)
    (journal : after.journal = entries.map .note ++ world.journal) (move : PipeMove)
    (served : move.ofPublisher = true)
    (reaches : ∀ course : Course, course.pipe = world.shared.pipes bus →
      (course.move move).pipe = after.shared.pipes bus) :
    Charts layout bus (moves ++ [move]) after := by
  rw [Charts, Course.run_concat, journal, pipeEvents_append, pipeEvents_map_note, List.nil_append]
  obtain ⟨pipe, received, disposed, padding, failedStart, held⟩ := charts
  cases move with
  | feed | encode | hangUp => cases served
  | receive | countCancelled | countStale =>
    exact ⟨reaches _ pipe, received, disposed, padding, failedStart, held⟩

end Charts

namespace Charted

variable {layouts : Nat → BusLayout} {world after : World Publisher Note}

theorem perform (charted : Charted layouts world) (action : Action) :
    Charted layouts (world.perform action) := by
  intro bus
  obtain ⟨moves, charts⟩ := charted bus
  obtain ⟨more, -, charts⟩ := charts.perform action
  exact ⟨moves ++ more, charts⟩

/-- A publisher handles the pipes and enters notes. -/
theorem handle (charted : Charted layouts world)
    (handled : ∀ bus, (world.shared.pipes bus).Handled (after.shared.pipes bus))
    (entries : List Note) (journal : after.journal = entries.map .note ++ world.journal) :
    Charted layouts after := by
  intro bus
  obtain ⟨moves, charts⟩ := charted bus
  have handling := handled bus
  generalize last : after.shared.pipes bus = pipe at handling
  cases handling with
  | kept => exact ⟨moves, charts.kept entries journal last⟩
  | received =>
    exact ⟨_, charts.moved entries journal .receive rfl fun _ same => by
      rw [Course.move, same, last]⟩
  | cancelled =>
    exact ⟨_, charts.moved entries journal .countCancelled rfl fun _ same => by
      rw [Course.move, same, last]⟩
  | stale staleDrops =>
    exact ⟨_, charts.moved entries journal (.countStale staleDrops) rfl fun _ same => by
      rw [Course.move, same, last]⟩

end Charted

end World

end RelayConnector
