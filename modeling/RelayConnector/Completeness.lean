/-
This file shows what a receipt without losses is worth.

A group is launched, its gateway runs, its worker threads are joined, and `run` makes an
outcome for each route from the counters they leave. If the outcome of a route reports no
error and no loss of any kind, then every sample that was captured on its bus has been
sent, in order, and nothing else but the padding of the last packet.
-/

import RelayConnector.Draining
import RelayConnector.InOrder
import RelayConnector.Shutdown
import RelayConnector.Startup

namespace RelayConnector

open Words GatewayWorld

/-! ### How much can be disposed of -/

/-- A whole frame is disposed of, and not a packet or a part of one. -/
def Disposal.ofFrame : Disposal → Bool
  | .paused | .channelFull | .unqueued | .misformatted | .cancelledFrame | .misaligned => true
  | _ => false

namespace Course

/-- Packets and their parts have samples, and a frame that was disposed of was received before. -/
structure Limited (course : Course) : Prop where
  packet : ∀ packet, course.pipe.encoder.packet = some packet → packet.samples ≠ []
  made : ∀ frame ∈ course.pipe.output, frame.samples ≠ []
  parts : ∀ entry ∈ course.disposed, entry.1.ofFrame = false → entry.2 ≠ []
  frames : course.disposed.countP (·.1.ofFrame) + course.pipe.queue.length ≤
    course.received.length

variable {course : Course} {ambient : Ambient} {after : Pipe} {received : List SourceFrame}
  {away : Disposals} {padding : Nat} {failed : Bool}

theorem Limited.fed (limited : course.Limited)
    (step : FeederStep course.pipe ambient after received away) :
    (course.fed after received away).Limited := by
  have same : after.encoder = course.pipe.encoder ∧ after.taken = course.pipe.taken ∧
      after.encoded = course.pipe.encoded := by
    cases step <;> exact ⟨rfl, rfl, rfl⟩
  have hand : after.inHand = course.pipe.inHand := by rw [Pipe.inHand, same.1, Pipe.inHand]
  refine ⟨?_, ?_, ?_, ?_⟩
  · simpa only [Course.fed, same.1] using limited.packet
  · simpa only [Course.fed, Pipe.output, same.2.1, same.2.2, hand] using limited.made
  · intro entry member part
    rcases List.mem_append.mp member with before | new
    · exact limited.parts entry before part
    · cases step <;> simp_all [Disposal.ofFrame]
  · have frames := limited.frames
    simp only [Course.fed, List.countP_append, List.length_append, Pipe.queue, same.1] at frames ⊢
    cases step with
    | receive phase frame next goes =>
      rcases goes with rfl | rfl <;> simp_all [FeederPhase.held] <;> omega
    | stop phase =>
      rcases phase with ⟨phase, -⟩ | ⟨phase, -⟩ <;> simp_all [FeederPhase.held]
    | _ => simp_all [FeederPhase.held, Disposal.ofFrame] <;> omega

/-- What has to be shown of a step of the encoder. -/
theorem Limited.encodes (limited : course.Limited)
    (packet : ∀ packet, after.encoder.packet = some packet → packet.samples ≠ [])
    (made : ∀ frame ∈ after.output, frame ∈ course.pipe.output ∨ frame.samples ≠ [])
    (parts : ∀ entry ∈ away, entry.1.ofFrame = false → entry.2 ≠ [])
    (frames : away.countP (·.1.ofFrame) + after.queue.length ≤ course.pipe.queue.length) :
    (course.encoded after away padding failed).Limited where
  packet := packet
  made frame member := (made frame member).elim (limited.made frame) id
  parts entry member part := by
    rcases List.mem_append.mp member with before | new
    · exact limited.parts entry before part
    · exact parts entry new part
  frames := by
    have before := limited.frames
    simp only [Course.encoded, List.countP_append]
    omega

/-- A full packet has samples. -/
theorem residual_ne_nil {packetizer : PcmPacketizer PcmSample} (some : packetizer.written ≠ 0) :
    packetizer.residual ≠ [] := by
  intro empty
  have length := packetizer.length_residual
  rw [empty] at length
  exact some length.symm

theorem full_ne_nil {packetizer : PcmPacketizer PcmSample}
    (full : packetizer.written = packetizer.packetSamples) : packetizer.residual ≠ [] :=
  residual_ne_nil (full ▸ Nat.pos_iff_ne_zero.mp packetizer.packetSamples_pos)

/-- The encoder goes on with what it has. -/
theorem Limited.goesOn (limited : course.Limited)
    (packet : ∀ packet, after.encoder.packet = some packet → packet.samples ≠ [])
    (output : after.output.Sublist course.pipe.output)
    (queue : after.queue.length ≤ course.pipe.queue.length) :
    (course.encoded after [] padding failed).Limited :=
  limited.encodes packet (fun _ member => .inl (output.mem member)) (by simp) (by simpa using queue)

theorem Limited.encoded (limited : course.Limited)
    (step : EncoderStep course.pipe after away padding failed) :
    (course.encoded after away padding failed).Limited := by
  cases step with
  | ended | wait | block => exact limited.goesOn limited.packet (.refl _) (Nat.le_refl _)
  | start phase | fail phase | finish phase | exhaust _ _ phase | take phase | copy _ _ phase
    | deliver _ _ phase =>
    refine limited.goesOn (by simp) ?_ (by simp [Pipe.queue, Pipe.countError, *])
    simp [Pipe.output, Pipe.inHand, Pipe.countError, phase]
  | pad phase empty closed padded padding tail =>
    refine limited.goesOn ?_ ?_ (by simp [Pipe.queue, phase])
    · rintro _ ⟨⟩
      exact full_ne_nil (Pipe.Sourced.padTail_cases tail).2.2.2.2.1
    · simp [Pipe.output, Pipe.inHand, phase]
  | complete frame offset phase more pushed copied push full =>
    refine limited.goesOn ?_ ?_ (by simp [Pipe.queue, phase])
    · rintro _ ⟨⟩
      exact full_ne_nil full
    · simp [Pipe.output, Pipe.inHand, phase]
  | vet packet next phase =>
    refine limited.goesOn ?_ ?_ (by simp [Pipe.queue, phase])
    · rintro _ ⟨⟩
      exact limited.packet packet (by rw [phase]; rfl)
    · simp [Pipe.output, Pipe.inHand, phase]
  | queue frame next phase room =>
    refine limited.goesOn ?_ ?_ ?_
    · cases next <;> simp [Pipe.resume]
    · cases next <;> simp [Pipe.resume, Pipe.output, Pipe.inHand, phase]
    · cases next <;> simp [Pipe.resume, Pipe.queue, phase]
  | skip frame phase reason known =>
    obtain ⟨counters, charged⟩ := course.pipe.charge_eq reason
    rw [charged]
    have whole : reason.ofFrame = true := by rcases known with rfl | rfl | rfl <;> rfl
    refine limited.encodes (by simp) (fun frame member => .inl ?_) (by simp [whole]) ?_
    · simpa [Pipe.output, Pipe.inHand, phase] using member
    · simp [Pipe.queue, phase, whole, Nat.add_comm 1]
  | begin frame phase packetizer boundary packetOutput begun =>
    have parts : ∀ entry ∈ disposedIn (course.pipe.discarded boundary),
        entry.1.ofFrame = false ∧ entry.2 ≠ [] := by
      rcases Pipe.beginFrame_removes begun with ⟨-, rfl⟩ | ⟨-, partly, rfl | rfl⟩
      · simp [Pipe.discarded]
      all_goals
        have some := residual_ne_nil (Nat.pos_iff_ne_zero.mp partly)
        simp [Pipe.discarded, partly, some, Disposal.ofFrame]
    have none : (disposedIn (course.pipe.discarded boundary)).countP (·.1.ofFrame) = 0 :=
      List.countP_eq_zero.mpr fun entry member => by simp [(parts entry member).1]
    refine limited.encodes (by simp) (fun frame member => .inl ?_)
      (fun entry member _ => (parts entry member).2) ?_
    · simpa [Pipe.output, Pipe.inHand, phase] using member
    · simp [Pipe.queue, phase, none]
  | encode packet next phase frame samples =>
    have some := limited.packet packet (by rw [phase]; rfl)
    refine limited.encodes (by simp) ?_ (by simp) (by simp [Pipe.queue, phase])
    intro made member
    have cases : made ∈ course.pipe.output ∨ made = frame := by
      simpa [Pipe.output, Pipe.inHand, phase, or_assoc] using member
    exact cases.imp_right fun same => by rw [same, samples]; exact some
  | giveUp current phase reason samples next gives =>
    obtain ⟨counters, charged⟩ := course.pipe.charge_eq reason
    rw [charged]
    have part : reason.ofFrame = false := by cases gives <;> rfl
    have some : samples ≠ [] := by
      cases gives with
      | vetting packet | encoding packet => exact limited.packet packet (by rw [phase]; rfl)
      | delivering frame | sending frame =>
        exact limited.made frame (by simp [Pipe.output, Pipe.inHand, phase])
    refine limited.encodes ?_ (fun frame member => .inl ?_) (by simp [some]) ?_
    · cases next <;> simp [Pipe.resume]
    · have before : frame ∈ course.pipe.taken ++ course.pipe.encoded := by
        cases next <;> simpa [Pipe.resume, Pipe.output, Pipe.inHand] using member
      exact List.mem_append_left _ before
    · cases gives <;> cases next <;> simp [Pipe.resume, Pipe.queue, phase, Disposal.ofFrame]

theorem Limited.move (limited : course.Limited) (move : PipeMove)
    (held : (course.move move).hungUp = false) : (course.move move).Limited := by
  cases move with
  | feed ambient arrival => exact limited.fed (course.pipe.feed_steps ambient arrival)
  | encode ambient codec =>
    have step : course.encoderStep ambient codec = course.pipe.encode ambient codec :=
      if_neg (Bool.eq_false_iff.mp held)
    rw [Course.move, step]
    exact limited.encoded (course.pipe.encode_steps ambient codec)
  | receive =>
    have same : course.pipe.tryRecv.2.encoder = course.pipe.encoder ∧
        course.pipe.tryRecv.2.output = course.pipe.output ∧
        course.pipe.tryRecv.2.queue = course.pipe.queue := by
      unfold Pipe.tryRecv
      split
      next frame rest queued => simp [Pipe.output, Pipe.inHand, Pipe.queue, queued]
      next => exact ⟨rfl, rfl, rfl⟩
    exact ⟨by simpa [Course.move, same.1] using limited.packet,
      by simpa [Course.move, same.2.1] using limited.made, limited.parts,
      by simpa [Course.move, same.2.2] using limited.frames⟩
  | countCancelled | countStale =>
    exact ⟨limited.packet, limited.made, limited.parts, limited.frames⟩
  | hangUp => cases held

theorem held_of_move {move : PipeMove} (held : (course.move move).hungUp = false) :
    course.hungUp = false := by
  cases move with
  | hangUp => cases held
  | _ => exact held

theorem run_limited (layout : BusLayout) (moves : List PipeMove)
    (held : (run layout moves).hungUp = false) : (run layout moves).Limited := by
  have fresh : ({ pipe := layout.pipe } : Course).Limited :=
    { packet := by simp [BusLayout.pipe]
      made := by simp [BusLayout.pipe, Pipe.output, Pipe.inHand]
      parts := by simp
      frames := by simp [BusLayout.pipe, Pipe.queue, FeederPhase.held] }
  exact run_induction (motive := fun course => course.hungUp = false → course.Limited)
    (fun _ => fresh) (fun _ move limited held => (limited (held_of_move held)).move move held)
    moves held

/-- Lists that are not empty have no fewer members together than there are lists. -/
theorem length_le_length_flatMap {Item Member : Type} {items : List Item}
    (members : Item → List Member) (some : ∀ item ∈ items, members item ≠ []) :
    items.length ≤ (items.flatMap members).length := by
  induction items with
  | nil => exact Nat.le_refl _
  | cons item rest hypothesis =>
    have first := List.length_pos_iff.mpr (some item List.mem_cons_self)
    have others := hypothesis fun other member =>
      some other (List.mem_cons_of_mem _ member)
    simp only [List.length_cons, List.flatMap_cons, List.length_append]
    omega

theorem Limited.length_disposed_le (limited : course.Limited) :
    course.disposed.length ≤ course.received.length + course.disposed.samples.length := by
  have parts : course.disposed.countP (fun entry => !entry.1.ofFrame) ≤
      course.disposed.samples.length := by
    rw [List.countP_eq_length_filter]
    refine (length_le_length_flatMap Prod.snd fun entry member => ?_).trans ?_
    · obtain ⟨listed, part⟩ := List.mem_filter.mp member
      exact limited.parts entry listed (by simpa using part)
    · exact (List.filter_sublist.flatMap _).length_le
  have split := List.length_eq_countP_add_countP (fun entry : Disposal × List PcmSample =>
    entry.1.ofFrame) (l := course.disposed)
  have frames := limited.frames
  simp only [decide_not, Bool.decide_eq_true] at split
  omega

theorem Limited.length_taken_le (limited : course.Limited) :
    course.pipe.taken.length ≤ course.handedOver.length :=
  length_le_length_flatMap _ fun frame member =>
    limited.made frame (List.mem_append_left _ (List.mem_append_left _ member))

/-- A part that was disposed of shows in the number of samples. -/
theorem Limited.times_eq_zero (limited : course.Limited) {reason : Disposal}
    (part : reason.ofFrame = false) (none : course.disposed.size reason = 0) :
    course.disposed.times reason = 0 := by
  refine List.countP_eq_zero.mpr fun entry member same => ?_
  have equal : entry.1 = reason := by simpa using same
  obtain ⟨first, second, split⟩ := List.append_of_mem member
  rw [split, ← List.singleton_append, Disposals.size_append, Disposals.size_append,
    Disposals.size_singleton, if_pos equal] at none
  have empty : entry.2.length = 0 := by omega
  exact limited.parts entry member (equal ▸ part) (List.length_eq_zero_iff.mp empty)

end Course

/-! ### Counters that show nothing -/

theorem eq_zero_of_shown {total : Nat} (small : total < 2 ^ 64) (none : shown total = 0) :
    total = 0 := by
  rwa [shown, Nat.mod_eq_of_lt small] at none

/-- The counters of an encoder report no loss. -/
structure EncoderCounters.Lossless (counters : EncoderCounters) : Prop where
  encodeErrors : counters.opusEncodeErrors = 0
  channelDrops : counters.encodedChannelDrops = 0
  staleDrops : counters.publisherStaleDrops = 0
  cancelledFrames : counters.cancelledOutputFrames = 0
  cancelledSamples : counters.cancelledOutputSamples = 0
  partialSamples : counters.normalizationPartialSamplesDiscarded = 0

namespace Course

/-- The bound below which no counter of a bus comes round to zero. -/
def countable : Nat := 2 ^ 60

/-- Little is disposed of when little was captured. -/
theorem run_few (layout : BusLayout) (moves : List PipeMove)
    (held : (run layout moves).hungUp = false)
    (few : (run layout moves).received.length < countable)
    (short : (run layout moves).entered.length < countable) :
    (run layout moves).disposed.length < 2 * countable ∧
      (run layout moves).disposed.samples.length < countable ∧
      (run layout moves).pipe.taken.length < countable := by
  have whole := (run_accounts layout moves).1.samples.length_eq
  have disposed := (run_limited layout moves held).length_disposed_le
  have taken := (run_limited layout moves held).length_taken_le
  simp only [List.length_append] at whole
  omega

/-- An encoder that could not be started shows in its counters. -/
theorem run_errors (layout : BusLayout) (moves : List PipeMove)
    (few : (run layout moves).disposed.length < 2 * countable)
    (none : (run layout moves).pipe.counters.opusEncodeErrors = 0) :
    (run layout moves).failedStart = false ∧
      (run layout moves).disposed.times .misformatted = 0 ∧
      (run layout moves).disposed.times .misaligned = 0 ∧
      (run layout moves).disposed.times .encodeFailed = 0 := by
  have conserved := (run_accounts layout moves).1
  generalize run layout moves = course at *
  have rarely : ∀ reason, course.disposed.times reason ≤ course.disposed.length :=
    fun _ => List.countP_le_length
  rw [conserved.counters] at none
  have errors := eq_zero_of_shown (by
    have format := rarely .misformatted
    have alignment := rarely .misaligned
    have codec := rarely .encodeFailed
    have start := course.failedStart.toNat_le
    simp only [countable] at few
    omega) none
  refine ⟨?_, by omega, by omega, by omega⟩
  cases failed : course.failedStart with
  | false => rfl
  | true => simp [failed] at errors

/-- If no counter shows a loss there was none. -/
theorem run_lossless (layout : BusLayout) (moves : List PipeMove)
    (held : (run layout moves).hungUp = false)
    (few : (run layout moves).received.length < countable)
    (short : (run layout moves).entered.length < countable)
    (cancelled : (run layout moves).cancelledTaken ≤ (run layout moves).pipe.taken.length)
    (stale : (run layout moves).staleTaken ≤ (run layout moves).pipe.taken.length)
    (counters : (run layout moves).pipe.counters.Lossless)
    (inputDrops : (run layout moves).pipe.inputDrops = 0)
    (queueDrops : (run layout moves).pipe.ingressQueueDrops = 0) :
    (run layout moves).disposed = [] ∧ (run layout moves).cancelledTaken = 0 ∧
      (run layout moves).staleTaken = 0 := by
  have conserved := (run_accounts layout moves).1
  have limited := run_limited layout moves held
  obtain ⟨fewDisposed, shortDisposed, fewTaken⟩ := run_few layout moves held few short
  obtain ⟨started, misformatted, misaligned, encodeFailed⟩ :=
    run_errors layout moves fewDisposed counters.encodeErrors
  generalize run layout moves = course at *
  simp only [countable] at fewDisposed shortDisposed fewTaken
  have rarely : ∀ reason, course.disposed.times reason ≤ course.disposed.length :=
    fun _ => List.countP_le_length
  have within : ∀ reason, course.disposed.size reason ≤ course.disposed.samples.length :=
    course.disposed.size_le
  obtain ⟨-, channelDrops, staleDrops, cancelledFrames, cancelledSamples, partialSamples⟩ :=
    conserved.counters ▸ counters
  have cancels := eq_zero_of_shown (by
    have frames := rarely .cancelledFrame
    have packets := rarely .cancelledPacket
    have encoded := rarely .cancelledEncoded
    omega) cancelledFrames
  have channel := eq_zero_of_shown ((rarely .encodedDropped).trans_lt (by omega)) channelDrops
  have stales := eq_zero_of_shown (by omega) staleDrops
  have input := eq_zero_of_shown ((rarely .paused).trans_lt (by omega))
    (conserved.inputDrops.symm.trans inputDrops)
  have queue := eq_zero_of_shown ((rarely .channelFull).trans_lt (by omega))
    (conserved.queueDrops.symm.trans queueDrops)
  have gaps := limited.times_eq_zero rfl
    (eq_zero_of_shown ((within .sequenceGap).trans_lt (by omega)) partialSamples)
  have changes := limited.times_eq_zero rfl
    (eq_zero_of_shown ((within .outputChanged).trans_lt (by omega)) cancelledSamples)
  have queued : course.disposed.times .unqueued = 0 := by
    by_contra some
    rcases conserved.unqueued (Nat.pos_of_ne_zero some) with failed | hungUp
    · cases started.symm.trans failed
    · cases held.symm.trans hungUp
  have received : course.disposed.times .undelivered + course.disposed.times .interrupted = 0 := by
    by_contra some
    cases held.symm.trans (conserved.uncounted (Nat.pos_of_ne_zero some))
  refine ⟨?_, by omega, stales⟩
  refine List.eq_nil_iff_forall_not_mem.mpr fun entry member => ?_
  have some : 0 < course.disposed.times entry.1 :=
    List.countP_pos_iff.mpr ⟨entry, member, by simp⟩
  obtain ⟨reason, samples⟩ := entry
  cases reason <;> simp only at some <;> omega

end Course

/-! ### A group without recovery -/

theorem FeederStep.inputDrops_eq {pipe after : Pipe} {ambient : Ambient}
    {received : List SourceFrame} {away : Disposals}
    (step : FeederStep pipe ambient after received away) (static : ambient.paused = none) :
    after.inputDrops = pipe.inputDrops := by
  cases step with
  | holdBack _ _ held => simp [static] at held
  | _ => rfl

theorem Pipe.Handled.inputDrops_eq {pipe after : Pipe} (handled : pipe.Handled after) :
    after.inputDrops = pipe.inputDrops := by
  cases handled with
  | received =>
    unfold Pipe.tryRecv
    split <;> rfl
  | _ => rfl

/-- The phases in which no reattachment is under way. -/
def Phase.settled : Phase → Bool
  | .attached | .holding .. | .wanted .. | .sending .. | .broken _ | .ended .. | .finished _ => true
  | _ => false

/-- A group that cannot be reattached is never paused. -/
structure Static (phase : Phase) (world : GatewayWorld) : Prop where
  settled : phase.settled = true
  recovery : world.publisher.recovery = none
  paused : world.shared.paused = none
  inputDrops : ∀ bus, (world.shared.pipes bus).inputDrops = 0

namespace Static

variable {phase next : Phase} {world after : GatewayWorld}

theorem perform (static : Static phase world) (action : Action) :
    Static phase (world.perform action) := by
  refine ⟨static.settled, static.recovery, (world.perform_paused action).trans static.paused,
    fun bus => ?_⟩
  rw [← static.inputDrops bus]
  refine world.perform_bus (motive := fun pipe _ => pipe.inputDrops = _) action bus rfl ?_ ?_
  · exact fun arrival => ((world.shared.pipes bus).feed_steps _ arrival).inputDrops_eq static.paused
  · exact fun codec =>
      (Course.encoder_elsewhere ((world.shared.pipes bus).encode_steps _ codec)).1

theorem step (static : Static phase world) (step : Step phase world next after) :
    Static next after := by
  have unchanged : ¬Changed world := by
    rintro ⟨recovery, held, -⟩
    simp [static.recovery] at held
  have drops : ∀ bus, (after.shared.pipes bus).inputDrops = 0 := by
    intro bus
    rw [← static.inputDrops bus]
    exact (step.handled bus).inputDrops_eq
  have settled := static.settled
  cases step with
  | renew _ changed => exact absurd changed unchanged
  | recover _ _ renewable => simp [static.recovery] at renewable
  | pauseForGood _ _ recovers => exact absurd static.recovery recovers
  | socket => exact ⟨settled, static.recovery, static.paused, drops⟩
  | leave | foundRevoked | foundExpired | readFails | disconnect | receive | cancelled | superseded
    | want | stale | unencodable | disconnected | pack | seeUnrevoked | seeCurrent | seeUnexpired
    | unguarded | write | flushed | abandon | giveUp | report | recordInputDrops | closeDown =>
    exact ⟨rfl, static.recovery, static.paused, drops⟩
  | _ => cases settled

end Static

/-- Without recovery the feeders drop nothing for a pause. -/
theorem Launch.inputDrops_eq_zero {recovery : Option PreparedIngressRecovery}
    (launch : Launch recovery) (none : recovery = none) {phase : Phase} {world : GatewayWorld}
    (reached : Reach launch.world phase world) (bus : Nat) :
    (world.shared.pipes bus).inputDrops = 0 := by
  subst none
  have static : Static phase world :=
    reached.invariant (motive := Static) ⟨rfl, rfl, rfl, fun _ => rfl⟩
      (fun _ _ action _ static => static.perform action)
      fun _ _ _ _ _ static step => static.step step
  exact static.inputDrops bus

/-! ### The worker threads are joined -/

theorem FeederStep.encoder_eq {pipe after : Pipe} {ambient : Ambient}
    {received : List SourceFrame} {away : Disposals}
    (step : FeederStep pipe ambient after received away) :
    after.encoder = pipe.encoder ∧ after.counters = pipe.counters := by
  cases step <;> exact ⟨rfl, rfl⟩

namespace Pipe

variable {pipe : Pipe}

theorem encodeDisconnected_of_ended (ended : pipe.encoder.ended = true) (ambient : Ambient)
    (codec : Option (List UInt8)) : (pipe.encodeDisconnected ambient codec).1 = pipe := by
  unfold encodeDisconnected
  split
  next sending =>
    rw [sending] at ended
    cases ended
  next => exact encode_of_ended ended ambient codec

/-- The feeder raises no counter of the encoder. -/
theorem windAll_counters (ended : pipe.encoder.ended = true) (moves : List WindMove) :
    (pipe.windAll moves).counters = pipe.counters := by
  induction moves generalizing pipe with
  | nil => rfl
  | cons move rest hypothesis =>
    rw [windAll_cons]
    cases move with
    | feed ambient arrival =>
      have same : (pipe.wind (.feed ambient arrival)).encoder = pipe.encoder ∧
          (pipe.wind (.feed ambient arrival)).counters = pipe.counters :=
        (pipe.feed_steps { ambient with transportStop := true } arrival).encoder_eq
      exact (hypothesis (same.1 ▸ ended)).trans same.2
    | encode ambient codec =>
      rw [wind, encodeDisconnected_of_ended ended]
      exact hypothesis ended

/-- A bus whose threads have ended stays as it is. -/
theorem windAll_of_ended (feeder : pipe.feeder.ended = true) (encoder : pipe.encoder.ended = true)
    (moves : List WindMove) : pipe.windAll moves = pipe := by
  induction moves with
  | nil => rfl
  | cons move rest hypothesis =>
    have same : pipe.wind move = pipe := by
      cases move with
      | feed => exact feed_of_ended feeder _ _
      | encode => exact encodeDisconnected_of_ended encoder _ _
    rw [windAll_cons, same, hypothesis]

end Pipe

/-! ### The receipt -/

/-- A WebSocket group that was published: its gateway has returned, and its worker threads were
joined. -/
structure Broadcast (recovery : Option PreparedIngressRecovery) where
  launch : Launch recovery
  publisher : PreparedFramePublisher
  sized : publisher.streams.length = launch.lanes.length
  recovers : publisher.ingressRecovery = recovery.isSome
  /-- `run_prepared_frame_publisher` passes its context on only with recovery. -/
  attended : launch.context = recovery.isSome
  schedule : List Turn
  result : IngressRunResult
  returned : (launch.run schedule).1 = .ok result
  elapsed : Nat
  /-- What the worker threads do until the feeders are joined, -/
  joining : List (Nat × WindMove)
  /-- and from there until the encoders are joined. -/
  ending : List (Nat × WindMove)
  /-- What the joined feeders give back, and which encoder threads could be joined. -/
  receivers : RelayPublishReceiptState → Option (Bool → EdgeObservations)
  encoderThreads : List Bool

namespace Broadcast

variable {recovery : Option PreparedIngressRecovery} (broadcast : Broadcast recovery)

/-- The world in which the gateway returns. -/
def last : GatewayWorld := broadcast.launch.last broadcast.schedule

/-- The buses when the feeders are joined, -/
def joined : Nat → Pipe := windGroup broadcast.last.shared.pipes broadcast.joining

/-- and when the encoders are. -/
def ended : Nat → Pipe := windGroup broadcast.joined broadcast.ending

/-- What `run` meets. -/
def answers : RunAnswers where
  execution := .ok
    { result := .ok
        { streams := broadcast.result.statistics
          elapsed := broadcast.elapsed
          drains := 0
          writes := 0 }
      ingressError := broadcast.result.error.map fun error => (error.message, retryability error)
      encoderThreads := broadcast.encoderThreads }
  joined := broadcast.receivers
  ingressQueueDropsTotal state := (broadcast.ended state.index).ingressQueueDrops
  counters bus := (broadcast.ended bus).counters
  inputDrops bus := (broadcast.joined bus).inputDrops

end Broadcast

/-- The receipt of a route reports no loss. -/
structure RelayPublishStatistics.Lossless (statistics : RelayPublishStatistics) : Prop where
  inputFrames : statistics.ingressRecoveryInputFramesDroppedTotal = 0
  opusPackets : statistics.ingressRecoveryOpusPacketsDroppedTotal = 0
  encodeErrors : statistics.opusEncodeErrorsTotal = 0
  channelDrops : statistics.encoderChannelDropsTotal = 0
  staleDrops : statistics.publisherStaleDropsTotal = 0
  queueDrops : statistics.ingressQueueDropsTotal = 0
  cancelledFrames : statistics.cancelledOutputFramesTotal = 0
  cancelledSamples : statistics.cancelledOutputSamplesTotal = 0
  partialSamples : statistics.normalizationPartialSamplesDiscardedTotal = 0

namespace RelayConnectorFactory

variable {factory : RelayConnectorFactory} {answers : RunAnswers}
  {publisher : PreparedFramePublisher} {routes : List PreparedRelayRoute} {bus : Nat}
  {route : PreparedRelayRoute} {outcome : RelayTransportOutcome}

theorem routeOutcome_clean {stats : Option Rtc.PublishStats} {shared : Option ConnectorError}
    {state : RelayPublishReceiptState}
    (clean : (factory.routeOutcome answers stats shared bus state).error = none) :
    shared = none := by
  unfold routeOutcome at clean
  simp only at clean
  split at clean
  next => cases clean
  next => exact clean

/-- Statistics and no error are left by a publisher and encoder threads that have ended without one.
-/
theorem settleExecution_clean {recovers : Bool} {stats : Rtc.PublishStats}
    {error : Option (String × ConnectorRetryability)} {encoderThreads : List Bool}
    (execution : answers.execution = .ok ⟨.ok stats, error, encoderThreads⟩)
    (clean : (factory.settleExecution answers recovers).2 = none) :
    error = none ∧ ∃ reported : Rtc.PublishStats,
      (factory.settleExecution answers recovers).1 = some reported ∧
      reported.streams = if recovers then
          stats.streams.mapIdx fun index stream =>
            { stream with ingressRecoveryInputDrops := answers.inputDrops index }
        else stats.streams := by
  unfold settleExecution at clean ⊢
  rw [execution] at clean ⊢
  simp only at clean ⊢
  split at clean
  next => simp at clean
  next joined =>
    rw [if_neg joined]
    refine ⟨Option.map_eq_none_iff.mp clean, _, rfl, ?_⟩
    cases recovers <;> rfl

/-- An outcome without an error is that of a run whose publisher has returned without one. -/
theorem nativeRun_clean (found : routes[bus]? = some route)
    (made : (factory.nativeRun answers publisher routes)[bus]? = some outcome)
    (clean : outcome.error = none) {stats : Rtc.PublishStats}
    {error : Option (String × ConnectorRetryability)} {encoderThreads : List Bool}
    (execution : answers.execution = .ok ⟨.ok stats, error, encoderThreads⟩) :
    bus < publisher.streams.length ∧ error = none ∧ ∃ reported : Rtc.PublishStats,
      reported.streams = (if publisher.ingressRecovery then
          stats.streams.mapIdx fun index stream =>
            { stream with ingressRecoveryInputDrops := answers.inputDrops index }
        else stats.streams) ∧
      outcome.statistics = statistics (answers.counters bus)
        (answers.ingressQueueDropsTotal route.state) (some reported) reported.streams[bus]? := by
  obtain ⟨inside, -⟩ := List.getElem?_eq_some_iff.mp found
  unfold nativeRun at made
  split at made
  next =>
    rw [failedOutcomes, List.getElem?_map, found] at made
    obtain rfl := Option.some.inj made
    cases clean
  next sized =>
    split at made
    next =>
      rw [List.getElem?_mapIdx, found] at made
      obtain rfl := Option.some.inj made
      cases clean
    next =>
      rw [List.getElem?_mapIdx, found] at made
      obtain rfl := Option.some.inj made
      have unshared := routeOutcome_clean clean
      split at unshared
      next => cases unshared
      next =>
        obtain ⟨none, reported, given, streams⟩ := settleExecution_clean execution unshared
        refine ⟨not_not.mp sized ▸ inside, none, reported, streams, ?_⟩
        rw [given]
        rfl

end RelayConnectorFactory

theorem Ledger.total_le (ledger : Ledger) (outcome : Option FrameOutcome) :
    ledger.total outcome ≤ ledger.length := by
  rw [Ledger.total, Ledger.frames, List.length_map]
  exact List.length_filter_le _ _

/-- If no frame has another outcome all were sent. -/
theorem Ledger.all_sent {ledger : Ledger} (cancelled : ledger.total (some .cancelled) = 0)
    (stale : ledger.total (some .stale) = 0) (drops : ledger.drops = 0)
    (refused : ledger.frames none = []) : ∀ account ∈ ledger, account.1 = some .sent := by
  have total := ledger.length_eq
  rw [cancelled, stale, drops, Ledger.total, Ledger.total, refused, Ledger.frames, List.length_map]
    at total
  intro account member
  have all := List.length_filter_eq_length_iff.mp (Eq.symm total)
  exact beq_iff_eq.mp (all account member)

namespace Broadcast

variable {recovery : Option PreparedIngressRecovery} (broadcast : Broadcast recovery)

/-- What was captured on a bus. -/
def captured (bus : Nat) : List SourceFrame :=
  receivedIn (World.pipeEvents bus broadcast.last.journal)

/-- Everything captured on a bus was sent, in the order of its capture, and nothing else but less
than a packet of silence at the end. -/
structure DeliveredAt (bus : Nat) : Prop where
  sent : ∀ account ∈ broadcast.last.ledger bus, account.1 = some .sent
  complete : ∃ padding < (broadcast.last.shared.pipes bus).packetizer.packetSamples,
    (broadcast.last.ledger bus).flatMap (·.2.samples) =
      (broadcast.captured bus).flatMap (·.samples) ++ List.replicate padding 0

theorem joined_eq (bus : Nat) :
    broadcast.joined bus =
      (broadcast.last.shared.pipes bus).windAll (movesOf bus broadcast.joining) :=
  windGroup_apply _ _ _

theorem ended_eq (bus : Nat) :
    broadcast.ended bus = (broadcast.last.shared.pipes bus).windAll
      (movesOf bus (broadcast.joining ++ broadcast.ending)) := by
  rw [ended, joined, windGroup, windGroup, ← List.foldl_append]
  exact windGroup_apply _ _ _

/-- The stream that `run` reports on for a bus. -/
theorem reported_stream {bus : Nat} (inside : bus < broadcast.launch.lanes.length)
    {reported : Rtc.PublishStats}
    (streams : reported.streams = if broadcast.publisher.ingressRecovery then
        broadcast.result.statistics.mapIdx fun index stream =>
          { stream with ingressRecoveryInputDrops := broadcast.answers.inputDrops index }
      else broadcast.result.statistics) :
    ∃ stream, reported.streams[bus]? = some stream ∧
      stream.delivery = (broadcast.last.publisher.active bus).statistics.delivery ∧
      (recovery.isSome = true →
        stream.ingressRecoveryInputDrops = (broadcast.joined bus).inputDrops) := by
  obtain ⟨reached, statistics⟩ := broadcast.launch.returned broadcast.returned
  have listed : broadcast.result.statistics[bus]? =
      some (broadcast.last.publisher.active bus).statistics := by
    have size : bus < (broadcast.launch.last broadcast.schedule).publisher.buses := by
      rwa [reached.buses, broadcast.launch.buses_eq]
    rw [statistics, List.getElem?_map, List.getElem?_range size]
    rfl
  rw [streams, broadcast.recovers]
  cases recovery with
  | none => exact ⟨_, listed, rfl, by simp⟩
  | some recovery =>
    refine ⟨{ (broadcast.last.publisher.active bus).statistics with
      ingressRecoveryInputDrops := (broadcast.joined bus).inputDrops }, ?_, rfl, fun _ => rfl⟩
    rw [Option.isSome_some, if_pos rfl, List.getElem?_mapIdx, listed]
    rfl

/-- What has come in stays within what was captured and one packet. -/
theorem length_entered_lt {layout : BusLayout} {moves : List PipeMove} {bus : Nat}
    (charts : World.Charts layout bus moves broadcast.last)
    (short : ((broadcast.captured bus).flatMap (·.samples)).length + maxInterleavedSamples <
      Course.countable) : (Course.run layout moves).entered.length < Course.countable := by
  have padded := (Course.run_accounts layout moves).2.padded
  have bounded := (Course.run layout moves).pipe.packetizer.packetSamples_le
  rw [(Course.run layout moves).pipe.packetizer.capacity] at bounded
  rw [Course.entered, List.length_append, List.length_replicate, charts.received]
  rw [captured] at short
  omega

/-- If the counters that `run` reads show no loss, and no frame was dropped in a send, everything
was delivered. -/
theorem deliveredAt {bus : Nat} (exhausted : (broadcast.last.shared.pipes bus).Exhausted)
    (clean : broadcast.result.error = none)
    (few : (broadcast.captured bus).length < Course.countable)
    (short : ((broadcast.captured bus).flatMap (·.samples)).length + maxInterleavedSamples <
      Course.countable)
    (counters : (broadcast.ended bus).counters.Lossless)
    (inputDrops : recovery.isSome = true → (broadcast.joined bus).inputDrops = 0)
    (queueDrops : (broadcast.ended bus).ingressQueueDrops = 0)
    (drops : (broadcast.last.ledger bus).drops = 0) : broadcast.DeliveredAt bus := by
  have reached : Reach broadcast.launch.world (.finished none) broadcast.last :=
    clean ▸ (broadcast.launch.returned broadcast.returned).1
  have taken : (broadcast.last.shared.pipes bus).taken =
      (broadcast.last.ledger bus).map Prod.snd :=
    ((reached.accounted broadcast.launch.connected_world
      broadcast.launch.accounted_world).taken bus).trans (List.append_nil _)
  obtain ⟨moves, charts, cancelled, stale⟩ := broadcast.launch.charged reached bus
  generalize (broadcast.launch.lane bus).toBusLayout = layout at *
  have entered := broadcast.length_entered_lt charts short
  obtain ⟨pipe, received, -, -, -, held⟩ := charts
  have fewReceived : (Course.run layout moves).received.length < Course.countable := by
    rwa [received]
  -- the encoder has ended, so its counters stand
  rw [ended_eq, Pipe.windAll_counters exhausted.1, ← pipe] at counters
  have started := (Course.run_errors layout moves
    (Course.run_few layout moves held fewReceived entered).1 counters.encodeErrors).1
  rw [← pipe] at exhausted taken
  obtain ⟨feeder, -⟩ := Course.run_drained layout moves exhausted.1 exhausted.2 started held
  -- an encoder that was started ends after its feeder, so the other counters stand as well
  rw [ended_eq, ← pipe, Pipe.windAll_of_ended feeder exhausted.1] at queueDrops
  rw [joined_eq, ← pipe, Pipe.windAll_of_ended feeder exhausted.1] at inputDrops
  have input : (Course.run layout moves).pipe.inputDrops = 0 := by
    cases held : recovery.isSome with
    | true => exact inputDrops held
    | false =>
      rw [pipe]
      exact broadcast.launch.inputDrops_eq_zero
        (Option.not_isSome_iff_eq_none.mp (by simp [held])) reached bus
  have size : (Course.run layout moves).pipe.taken.length = (broadcast.last.ledger bus).length := by
    rw [taken, List.length_map]
  obtain ⟨nothing, noneCancelled, noneStale⟩ := Course.run_lossless layout moves held fewReceived
    entered (by rw [cancelled, size]; exact Ledger.total_le _ _)
    (by rw [stale, size]; exact Ledger.total_le _ _) counters input queueDrops
  have complete := Course.run_complete layout moves exhausted.1 exhausted.2 started held
    (by rw [nothing]; rfl)
  refine ⟨?_, (Course.run layout moves).padding, ?_, ?_⟩
  · exact Ledger.all_sent (cancelled.symm.trans noneCancelled) (stale.symm.trans noneStale) drops
      (broadcast.launch.refused_nothing reached bus)
  · rw [← pipe]
    exact (Course.run_accounts layout moves).2.padded
  · rw [Course.handedOver, taken, List.flatMap_map, Course.entered, received] at complete
    exact complete

end Broadcast

/-- A receipt without losses is worth this: if the outcome that `run` makes for a route of a
WebSocket group reports no error and no loss of any kind, and the run was neither aborted nor
stopped in a reattachment, then every sample captured on the bus of the route was sent, in order,
and the receipt gives the number of the frames and of their bytes. -/
theorem lossless_receipt_means_complete_delivery {recovery : Option PreparedIngressRecovery}
    (broadcast : Broadcast recovery) (factory : RelayConnectorFactory)
    (routes : List PreparedRelayRoute) (bus : Nat) (route : PreparedRelayRoute)
    (outcome : RelayTransportOutcome) (found : routes[bus]? = some route)
    (place : route.state.index = bus)
    (made : (factory.nativeRun broadcast.answers broadcast.publisher routes)[bus]? = some outcome)
    (clean : outcome.error = none) (lossless : outcome.statistics.Lossless)
    (unaborted : ¬AbortRequested broadcast.last) (unstopped : ¬Stopped broadcast.last)
    (few : (broadcast.captured bus).length < Course.countable)
    (short : ((broadcast.captured bus).flatMap (·.samples)).length + maxInterleavedSamples <
      Course.countable) :
    broadcast.DeliveredAt bus ∧
      outcome.statistics.ingressFramesSentTotal =
        min (broadcast.last.ledger bus).length u64Max ∧
      outcome.statistics.ingressPayloadBytesSentTotal =
        min (broadcast.last.ledger bus).payloadBytes u64Max := by
  obtain ⟨inside, unfailed, reported, streams, statistics⟩ :=
    RelayConnectorFactory.nativeRun_clean found made clean rfl
  rw [broadcast.sized] at inside
  have unended : broadcast.result.error = none := Option.map_eq_none_iff.mp unfailed
  obtain ⟨stream, listed, delivery, input⟩ := broadcast.reported_stream inside streams
  rw [listed] at statistics
  rw [statistics] at lossless ⊢
  have reached := (broadcast.launch.returned broadcast.returned).1
  have tallied := ((reached.accounted broadcast.launch.connected_world
    broadcast.launch.accounted_world).tallied bus).congr delivery
  have exhausted : (broadcast.last.shared.pipes bus).Exhausted := by
    rcases broadcast.launch.exhausted_of_clean broadcast.returned unended with
      aborted | stopped | exhausted
    · exact absurd aborted unaborted
    · exact absurd stopped unstopped
    · exact exhausted bus inside
  have drops : (broadcast.last.ledger bus).drops = 0 := by
    have none : min (broadcast.last.ledger bus).drops u64Max = 0 :=
      tallied.dropped.symm.trans lossless.opusPackets
    rw [u64Max] at none
    omega
  have delivered : broadcast.DeliveredAt bus :=
    broadcast.deliveredAt exhausted unended few short
      ⟨lossless.encodeErrors, lossless.channelDrops, lossless.staleDrops, lossless.cancelledFrames,
        lossless.cancelledSamples, lossless.partialSamples⟩
      (fun recovers => (input recovers).symm.trans lossless.inputFrames)
      (place ▸ lossless.queueDrops) drops
  refine ⟨delivered, ?_, tallied.bytes⟩
  have all : (broadcast.last.ledger bus).total (some .sent) =
      (broadcast.last.ledger bus).length := by
    rw [Ledger.total, Ledger.frames, List.length_map, List.filter_eq_self.mpr]
    exact fun account member => beq_iff_eq.mpr (delivered.sent account member)
  rw [← all]
  exact tallied.sent

def farewellResult : IngressRunResult :=
  match ((sampleLaunch 1).run farewellRun).1 with
  | .ok result => result
  | .error _ => ⟨[], none⟩

theorem returned_farewellRun : ((sampleLaunch 1).run farewellRun).1 = .ok farewellResult := by
  have returns : ((sampleLaunch 1).run farewellRun).1.toOption.isSome = true := by decide +kernel
  unfold farewellResult
  cases ended : ((sampleLaunch 1).run farewellRun).1 with
  | ok result => rfl
  | error halt =>
    rw [ended] at returns
    cases returns

/-- The run of a lone bus whose threads have ended before it returns. -/
def farewellBroadcast : Broadcast (some (sampleRecovery 1)) where
  launch := sampleLaunch 1
  publisher := ⟨[⟨.voiceMono20ms, .standard⟩], true⟩
  sized := rfl
  recovers := rfl
  attended := rfl
  schedule := farewellRun
  result := farewellResult
  returned := returned_farewellRun
  elapsed := 0
  joining := []
  ending := []
  receivers _ := some fun _ => {}
  encoderThreads := [true]

theorem lossless_receipt_means_complete_delivery_farewell :
    (farewellBroadcast.captured 0).length = 1 ∧ farewellBroadcast.DeliveredAt 0 := by
  have made : (Registry.smallFactory.nativeRun farewellBroadcast.answers
      farewellBroadcast.publisher [⟨⟨0, 0⟩, ⟨0, 0⟩⟩])[0]? =
        some
          { statistics :=
              { ingressFramesSentTotal := 1
                ingressPayloadBytesSentTotal := 1
                ingressSourceGeneration := 1
                ingressAttachmentsTotal := 1
                ingressCredentialRevision := 1
                opusPacketsEncodedTotal := 1 }
            edgeObservations := {}
            error := none } := by
    decide +kernel
  have facts : farewellBroadcast.last.shared.abortRequested = false ∧
      farewellBroadcast.last.notes.any GatewayNote.isReattaching = false ∧
      (farewellBroadcast.captured 0).length = 1 ∧
      ((farewellBroadcast.captured 0).flatMap (·.samples)).length = opusFrameSamples := by
    decide +kernel
  obtain ⟨unaborted, uninterrupted, one, whole⟩ := facts
  refine ⟨one, (lossless_receipt_means_complete_delivery farewellBroadcast Registry.smallFactory _ 0
    _ _ rfl rfl made rfl ⟨rfl, rfl, rfl, rfl, rfl, rfl, rfl, rfl, rfl⟩ ?_ ?_ ?_ ?_).1⟩
  · rw [AbortRequested, unaborted, Bool.and_false]
    exact Bool.false_ne_true
  · exact fun stopped => not_interrupted uninterrupted stopped.2
  · rw [one]
    decide
  · rw [whole]
    decide

end RelayConnector
