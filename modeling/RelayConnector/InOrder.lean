/-
This file shows that a bus keeps its samples in order.

The samples of a bus are lined up from the frames that the publisher has received back to
the frame in the feeder's hand. Whatever the threads do, this line is what came in, in
the order in which it came in, except that parts of it may have been taken out.
-/

import RelayConnector.Conservation

namespace RelayConnector

open Words

namespace Pipe

/-- The samples that are on their way to the publisher, the oldest first. -/
def underWay (pipe : Pipe) : List PcmSample :=
  pipe.encoded.flatMap (·.samples) ++ (pipe.assembled ++
    (pipe.remaining ++ pipe.queue.flatMap (·.samples)))

/-- With those that the publisher has received. -/
def line (pipe : Pipe) : List PcmSample := pipe.taken.flatMap (·.samples) ++ pipe.underWay

theorem line_sublist {pipe after : Pipe} {more : List PcmSample}
    (taken : after.taken = pipe.taken) (moved : after.underWay.Sublist (pipe.underWay ++ more)) :
    after.line.Sublist (pipe.line ++ more) := by
  rw [line, taken, line, List.append_assoc]
  exact moved.append_left _

/-- A step of the feeder moves samples in front of the encoder only. -/
theorem upstream_inOrder {pipe after : Pipe} {arrived : List PcmSample}
    (encoder : after.encoder = pipe.encoder) (packetizer : after.packetizer = pipe.packetizer)
    (encoded : after.encoded = pipe.encoded) (taken : after.taken = pipe.taken)
    (moved : ((after.frames ++ after.feeder.held).flatMap (·.samples)).Sublist
      ((pipe.frames ++ pipe.feeder.held).flatMap (·.samples) ++ arrived)) :
    after.line.Sublist (pipe.line ++ arrived) := by
  refine line_sublist taken ?_
  simp only [underWay, assembled, remaining, queue, encoder, packetizer, encoded,
    List.flatMap_append, List.append_assoc] at moved ⊢
  exact (((moved.append_left _).append_left _).append_left _).append_left _

/-- The encoder goes on with its packet, or without it. -/
theorem advance_inOrder {pipe after : Pipe} (taken : after.taken = pipe.taken)
    (feeder : after.feeder = pipe.feeder) (frames : after.frames = pipe.frames)
    (encoded : after.encoded = pipe.encoded)
    (waiting : after.encoder.waiting = pipe.encoder.waiting)
    (underway : after.encoder.underway = pipe.encoder.underway)
    (assembled : after.assembled.Sublist pipe.assembled) :
    after.line.Sublist (pipe.line ++ []) := by
  refine line_sublist taken ?_
  rw [List.append_nil, underWay, remaining, queue, encoded, underway, waiting, frames, feeder]
  exact (assembled.append_right _).append_left _

theorem underWay_resume (pipe : Pipe) (next : Resume) :
    (pipe.resume next).underWay = pipe.encoded.flatMap (·.samples) ++
      (restOf next ++ (pipe.frames ++ pipe.feeder.held).flatMap (·.samples)) := by
  cases next with
  | none =>
    simp [resume, underWay, assembled, remaining, queue, restOf]
  | some position =>
    simp [resume, underWay, assembled, remaining, queue, restOf, PcmPacketizer.residual,
      PcmPacketizer.finishPacket]

/-- A push moves the boundary between the packet and the rest of the frame. -/
theorem push_inOrder {packetizer pushed : PcmPacketizer PcmSample} {samples : List PcmSample}
    {timestampNs offset copied : Nat}
    (push : packetizer.push (samples.drop offset) timestampNs offset = (pushed, copied)) :
    pushed.residual ++ samples.drop (offset + copied) =
      packetizer.residual ++ samples.drop offset := by
  have residual := packetizer.push_residual (samples.drop offset) timestampNs offset
  rw [push] at residual
  rw [residual, List.append_assoc, ← List.drop_drop, List.take_append_drop]

/-- The publisher takes the first frame of the channel. -/
theorem tryRecv_inOrder (pipe : Pipe) :
    pipe.tryRecv.2.line = pipe.line ∧ pipe.tryRecv.2.feeder = pipe.feeder := by
  unfold tryRecv
  split
  next frame rest queued =>
    refine ⟨?_, rfl⟩
    simp [line, underWay, assembled, remaining, queue, queued]
  next => exact ⟨rfl, rfl⟩

end Pipe

open Pipe

theorem FeederStep.inOrder {pipe after : Pipe} {ambient : Ambient} {received : List SourceFrame}
    {away : Disposals} (step : FeederStep pipe ambient after received away) :
    after.line.Sublist (pipe.line ++ received.flatMap (·.samples)) := by
  cases step with
  | receive phase frame next goes =>
    refine upstream_inOrder rfl rfl rfl rfl ?_
    rcases goes with rfl | rfl <;> simp [phase, FeederPhase.held]
  | stop phase =>
    refine upstream_inOrder rfl rfl rfl rfl ?_
    rcases phase with ⟨phase, -⟩ | ⟨phase, -⟩ <;> simp [phase, FeederPhase.held]
  | ended | look | wait | loop | stamp | pass | holdBack | abandon | queue | overflow =>
    refine upstream_inOrder rfl rfl rfl rfl ?_
    simp [*, FeederPhase.held]

/-- A feeder that has ended does nothing any more. -/
theorem FeederStep.of_ended {pipe after : Pipe} {ambient : Ambient} {received : List SourceFrame}
    {away : Disposals} (step : FeederStep pipe ambient after received away)
    (ended : pipe.feeder.ended = true) : after = pipe ∧ received = [] := by
  have stopped : pipe.feeder = .stopped := by
    cases phase : pipe.feeder <;> simp_all [FeederPhase.ended]
  cases step with
  | ended => exact ⟨rfl, rfl⟩
  | stop phase => rcases phase with ⟨phase, -⟩ | ⟨phase, -⟩ <;> cases stopped.symm.trans phase
  | _ => simp_all

theorem EncoderStep.inOrder {pipe after : Pipe} {away : Disposals} {padding : Nat} {failed : Bool}
    (step : EncoderStep pipe after away padding failed) :
    after.line.Sublist (pipe.line ++ List.replicate padding 0) := by
  cases step with
  | ended | wait | block => simp
  | start phase | vet packet next phase | deliver frame next phase =>
    refine advance_inOrder rfl rfl rfl rfl (by rw [phase]; rfl) (by rw [phase]; rfl) ?_
    simp [assembled, phase]
  | fail phase | finish phase =>
    refine advance_inOrder rfl rfl rfl rfl (by rw [phase]; rfl) (by rw [phase]; rfl) ?_
    simp [assembled]
  | encode packet next phase frame samples =>
    refine advance_inOrder rfl rfl rfl rfl (by rw [phase]; rfl) (by rw [phase]; rfl) ?_
    simp [assembled, phase, samples]
  | take phase frame rest frames =>
    refine line_sublist rfl ?_
    simp [underWay, assembled, remaining, Pipe.queue, phase, frames]
  | pad phase empty closed padded padding tail =>
    obtain ⟨-, -, -, -, -, residual⟩ := Sourced.padTail_cases tail
    have idle : pipe.feeder.held = [] := by
      cases phase : pipe.feeder <;> simp_all [FeederPhase.ended, FeederPhase.held]
    refine line_sublist rfl ?_
    simp [underWay, assembled, remaining, Pipe.queue, phase, residual, empty, idle]
  | skip frame phase reason known =>
    obtain ⟨counters, charged⟩ := pipe.charge_eq reason
    rw [charged]
    refine line_sublist rfl ?_
    simp [underWay, assembled, remaining, Pipe.queue, phase]
  | begin frame phase packetizer boundary packetOutput begun =>
    have fewer : packetizer.residual.Sublist pipe.packetizer.residual := by
      rcases beginFrame_removes begun with ⟨same, -⟩ | ⟨cleared, -, -⟩
      · rw [same]
      · rw [cleared]
        exact List.nil_sublist _
    refine line_sublist rfl ?_
    simpa [underWay, assembled, remaining, Pipe.queue, phase] using fewer
  | copy frame offset phase more pushed copied push
    | complete frame offset phase more pushed copied push =>
    refine line_sublist rfl ?_
    simp only [underWay, assembled, remaining, Pipe.queue, phase, EncoderPhase.underway,
      EncoderPhase.waiting, List.replicate_zero, List.append_nil]
    rw [← List.append_assoc pushed.residual, push_inOrder push, List.append_assoc]
  | exhaust frame offset phase all =>
    refine line_sublist rfl ?_
    simp [underWay, assembled, remaining, Pipe.queue, phase, List.drop_of_length_le all]
  | queue frame next phase room =>
    refine line_sublist (by cases next <;> rfl) ?_
    rw [underWay_resume]
    cases next <;>
      simp [underWay, assembled, remaining, Pipe.queue, phase, restOf]
  | giveUp current phase reason samples next gives =>
    obtain ⟨counters, charged⟩ := pipe.charge_eq reason
    rw [charged]
    refine line_sublist (by cases next <;> rfl) ?_
    rw [underWay_resume]
    cases gives <;> cases next <;>
      simp [underWay, assembled, remaining, Pipe.queue, phase, restOf]

namespace Course

/-- The samples of a bus are in the order in which they came in, and there is padding only behind
all of them. -/
structure InOrder (course : Course) : Prop where
  line : course.pipe.line.Sublist course.entered
  closed : course.padding = 0 ∨ course.pipe.feeder.ended = true

variable {course : Course} {ambient : Ambient} {after : Pipe} {received : List SourceFrame}
  {away : Disposals} {padding : Nat} {failed : Bool}

theorem InOrder.fed (ordered : course.InOrder)
    (step : FeederStep course.pipe ambient after received away) :
    (course.fed after received away).InOrder := by
  have line := step.inOrder
  rcases ordered.closed with unpadded | ended
  · refine ⟨?_, .inl unpadded⟩
    have before := ordered.line
    simp only [entered, Course.fed, unpadded, List.replicate_zero, List.append_nil,
      List.flatMap_append] at before ⊢
    exact line.trans (before.append_right _)
  · obtain ⟨rfl, rfl⟩ := step.of_ended ended
    exact ⟨by simpa [entered, Course.fed] using ordered.line, .inr ended⟩

theorem InOrder.encoded (ordered : course.InOrder)
    (step : EncoderStep course.pipe after away padding failed) :
    (course.encoded after away padding failed).InOrder := by
  refine ⟨?_, ?_⟩
  · refine step.inOrder.trans ?_
    have before := ordered.line.append_right (List.replicate padding 0)
    simpa only [entered, Course.encoded, List.append_assoc, List.replicate_append_replicate]
      using before
  · have feeder := step.feeder_eq
    cases step with
    | pad _ _ closed => exact .inr closed
    | _ => simpa [Course.encoded, feeder] using ordered.closed

theorem InOrder.move (ordered : course.InOrder) (move : PipeMove) : (course.move move).InOrder := by
  cases move with
  | feed ambient arrival => exact ordered.fed (course.pipe.feed_steps ambient arrival)
  | encode ambient codec =>
    rcases course.encoderStep_cases ambient codec with ⟨frame, next, phase, -, ends⟩ | step
    · rw [Course.move, ends]
      refine ⟨List.Sublist.trans ?_ ordered.line, ordered.closed⟩
      simp [Course.encoded, Pipe.line, underWay, assembled, remaining, queue, phase]
    · exact ordered.encoded step
  | receive =>
    obtain ⟨line, feeder⟩ := course.pipe.tryRecv_inOrder
    refine ⟨?_, ?_⟩
    · show course.pipe.tryRecv.2.line.Sublist _
      exact line ▸ ordered.line
    · show _ ∨ course.pipe.tryRecv.2.feeder.ended = true
      exact feeder ▸ ordered.closed
  | countCancelled | countStale => exact ⟨ordered.line, ordered.closed⟩
  | hangUp =>
    refine ⟨List.Sublist.trans ?_ ordered.line, ordered.closed⟩
    simp [Course.move, Pipe.line, underWay, assembled, remaining, queue]

/-- The order is kept along every course. -/
theorem run_inOrder (layout : BusLayout) (moves : List PipeMove) : (run layout moves).InOrder := by
  refine run_induction ⟨?_, .inl rfl⟩ (fun _ move ordered => ordered.move move) moves
  simp [line, underWay, assembled, remaining, queue, BusLayout.pipe, FeederPhase.held,
    PcmPacketizer.silent, PcmPacketizer.residual]

/-- Once a bus has drained, and if nothing was taken out, the publisher has received what came in.
-/
theorem run_complete (layout : BusLayout) (moves : List PipeMove)
    (ended : (run layout moves).pipe.encoder.ended = true)
    (empty : (run layout moves).pipe.encoded = [])
    (started : (run layout moves).failedStart = false)
    (held : (run layout moves).hungUp = false)
    (kept : (run layout moves).disposed.samples = []) :
    (run layout moves).handedOver = (run layout moves).entered := by
  have samples := (run_drained layout moves ended empty started held).2
  rw [kept, List.nil_append] at samples
  have ordered : (run layout moves).handedOver.Sublist (run layout moves).entered :=
    (List.sublist_append_left _ _).trans (run_inOrder layout moves).line
  exact ordered.eq_of_length samples.length_eq.symm

end Course

end RelayConnector
