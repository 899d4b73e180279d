/-
This file states what a latency profile promises for a bus.

A profile fixes the depths of the two channels and what the encoder does when its
publisher is behind. The queues stay within their depths whatever the threads do. A
standard profile loses nothing between the codec and the publisher, at the price that
the encoder waits; a low profile never makes the encoder wait, at the price of packets,
which are counted. Both hold as long as the publisher holds its receiver; what it leaves
behind is lost.
-/

import RelayConnector.Configuration
import RelayConnector.Conservation

namespace RelayConnector

/-! ### Profiles -/

/-- `LatencyProfile` of `audio/latency_profile.rs`. -/
inductive LatencyProfile where
  | low
  | standard
  deriving DecidableEq, Repr

/-- The profile a route's configuration asks for. -/
def RelayLatencyProfile.pipeline : RelayLatencyProfile → LatencyProfile
  | .standard => .standard
  | .low => .low

namespace LatencyProfile

def captureChannelDepth : LatencyProfile → Nat
  | .low => 2
  | .standard => 16

def encodedChannelDepth : LatencyProfile → Nat
  | .low => 2
  | .standard => 8

end LatencyProfile

def EncodedDeliveryPolicy.forLatencyProfile : LatencyProfile → EncodedDeliveryPolicy
  | .low => .dropNewest
  | .standard => .preserveWithBackpressure

/-- The bus that is laid out for a stream of a profile. -/
def LatencyProfile.layout (profile : LatencyProfile) (channels : Nat)
    (supported : channels = 1 ∨ channels = 2) : BusLayout where
  channels := channels
  supported := supported
  frameDepth := profile.captureChannelDepth
  encodedDepth := profile.encodedChannelDepth
  roomy := by cases profile <;> decide
  deliveryPolicy := .forLatencyProfile profile

/-! ### The channels stay within their depths -/

/-- What the layout of a bus fixes. -/
structure Course.Bounded (layout : BusLayout) (course : Course) : Prop where
  frameDepth : course.pipe.frameDepth = layout.frameDepth
  encodedDepth : course.pipe.encodedDepth = layout.encodedDepth
  deliveryPolicy : course.pipe.deliveryPolicy = layout.deliveryPolicy
  frames : course.pipe.frames.length ≤ layout.frameDepth
  encoded : course.pipe.encoded.length ≤ layout.encodedDepth
  preserved : layout.deliveryPolicy = .preserveWithBackpressure →
    course.disposed.times .encodedDropped = 0

/-- What a step of the encoder does to the channels; a packet is dropped at the full one only where
the policy says so. -/
theorem EncoderStep.channels {pipe after : Pipe} {away : Disposals} {padding : Nat} {failed : Bool}
    (step : EncoderStep pipe after away padding failed) :
    after.frameDepth = pipe.frameDepth ∧ after.encodedDepth = pipe.encodedDepth ∧
      after.deliveryPolicy = pipe.deliveryPolicy ∧ after.frames.length ≤ pipe.frames.length ∧
      (after.encoded = pipe.encoded ∨
        pipe.encoded.length < pipe.encodedDepth ∧
          after.encoded.length = pipe.encoded.length + 1) ∧
      (pipe.deliveryPolicy = .preserveWithBackpressure → away.times .encodedDropped = 0) := by
  cases step with
  | take phase frame rest frames => simp [frames]
  | skip frame phase reason known =>
    obtain ⟨counters, charged⟩ := pipe.charge_eq reason
    rcases known with rfl | rfl | rfl <;> simp [charged]
  | begin frame phase packetizer boundary packetOutput begun =>
    rcases Pipe.beginFrame_removes begun with ⟨-, rfl⟩ | ⟨-, partly, rfl | rfl⟩ <;>
      simp [Pipe.discarded, *]
  | queue frame next phase room =>
    obtain ⟨packetizer, encoder, resumed⟩ :=
      Pipe.resume_eq { pipe with encoded := pipe.encoded ++ [frame] } next
    rw [resumed]
    exact ⟨rfl, rfl, rfl, Nat.le_refl _, .inr ⟨room, by simp⟩, by simp⟩
  | giveUp current phase reason samples next gives lossy =>
    obtain ⟨counters, charged⟩ := pipe.charge_eq reason
    obtain ⟨packetizer, encoder, resumed⟩ := (pipe.charge reason).resume_eq next
    rw [resumed, charged]
    refine ⟨rfl, rfl, rfl, Nat.le_refl _, .inl rfl, fun preserves => ?_⟩
    cases gives with
    | sending frame next =>
      rw [preserves] at lossy
      cases (lossy rfl).1
    | _ => simp
  | _ => simp [Pipe.countError]

namespace Course

variable {layout : BusLayout} {course : Course}

theorem Bounded.fed (bounded : course.Bounded layout) {ambient : Ambient} {after : Pipe}
    {received : List SourceFrame} {away : Disposals}
    (step : FeederStep course.pipe ambient after received away) :
    (course.fed after received away).Bounded layout := by
  obtain ⟨frameDepth, encodedDepth, policy, frames, encoded, preserved⟩ := bounded
  cases step with
  | queue frame phase room =>
    refine ⟨frameDepth, encodedDepth, policy, ?_, encoded, by simpa [Course.fed] using preserved⟩
    simp only [Course.fed, List.length_append, List.length_singleton]
    omega
  | _ =>
    exact ⟨frameDepth, encodedDepth, policy, frames, encoded, by simpa [Course.fed] using preserved⟩

theorem Bounded.encodes (bounded : course.Bounded layout) {after : Pipe} {away : Disposals}
    {padding : Nat} {failed : Bool} (step : EncoderStep course.pipe after away padding failed) :
    (course.encoded after away padding failed).Bounded layout := by
  obtain ⟨frameDepth, encodedDepth, policy, frames, encoded, preserved⟩ := bounded
  obtain ⟨sameFrames, sameEncoded, samePolicy, fewer, sent, kept⟩ := step.channels
  refine ⟨sameFrames.trans frameDepth, sameEncoded.trans encodedDepth, samePolicy.trans policy,
    fewer.trans frames, ?_, fun preserves => ?_⟩
  · simp only [Course.encoded]
    rcases sent with same | ⟨room, longer⟩
    · rwa [same]
    · omega
  · simp only [Course.encoded, Disposals.times_append]
    rw [preserved preserves, kept (policy.trans preserves)]

/-- The bounds hold along every course. -/
theorem run_bounded (layout : BusLayout) (moves : List PipeMove) :
    (run layout moves).Bounded layout := by
  refine run_induction ⟨rfl, rfl, rfl, Nat.zero_le _, Nat.zero_le _, fun _ => rfl⟩ ?_ moves
  intro course move bounded
  cases move with
  | feed ambient arrival => exact bounded.fed (course.pipe.feed_steps ambient arrival)
  | encode ambient codec =>
    rcases course.encoderStep_cases ambient codec with ⟨frame, next, -, -, ends⟩ | step
    · rw [Course.move, ends]
      refine ⟨bounded.frameDepth, bounded.encodedDepth, bounded.deliveryPolicy, bounded.frames,
        bounded.encoded, fun preserves => ?_⟩
      simpa [Course.encoded, Disposals.times, disposedIn] using bounded.preserved preserves
    · exact bounded.encodes step
  | receive =>
    obtain ⟨frameDepth, encodedDepth, policy, frames, encoded, preserved⟩ := bounded
    cases queue : course.pipe.encoded with
    | nil =>
      have same : course.move .receive = course := by simp [Course.move, Pipe.tryRecv, queue]
      rw [same]
      exact ⟨frameDepth, encodedDepth, policy, frames, encoded, preserved⟩
    | cons frame rest =>
      rw [queue] at encoded
      simp only [Course.move, Pipe.tryRecv, queue]
      exact ⟨frameDepth, encodedDepth, policy, frames, Nat.le_of_succ_le encoded, preserved⟩
  | countCancelled | countStale =>
    exact ⟨bounded.frameDepth, bounded.encodedDepth, bounded.deliveryPolicy, bounded.frames,
      bounded.encoded, bounded.preserved⟩
  | hangUp =>
    refine ⟨bounded.frameDepth, bounded.encodedDepth, bounded.deliveryPolicy, bounded.frames,
      Nat.zero_le _, fun preserves => ?_⟩
    simp [Course.move, bounded.preserved preserves,
      (disposals_undelivered course.pipe.encoded).2.1 .encodedDropped]

/-- Each thread holds one frame at most besides what is in the channels. -/
theorem Bounded.inside_le (bounded : course.Bounded layout) :
    course.pipe.capturedInside ≤ layout.frameDepth + 2 ∧
      course.pipe.encodedInside ≤ layout.encodedDepth + 1 := by
  -- a frame that waits to be admitted is not yet under way
  have waiting : course.pipe.encoder.waiting.length +
      course.pipe.encoder.underway.toList.length ≤ 1 := by
    cases course.pipe.encoder <;> simp
  have held : course.pipe.feeder.held.length ≤ 1 := by
    cases course.pipe.feeder <;> simp [FeederPhase.held]
  have inHand : course.pipe.inHand.toList.length ≤ 1 := by
    cases course.pipe.inHand <;> simp
  have frames := bounded.frames
  have encoded := bounded.encoded
  simp only [Pipe.capturedInside, Pipe.queue, Pipe.encodedInside, List.length_append]
  omega

end Course

/-- Where the policy is to drop, one step rids the encoder of its packet. -/
theorem Course.inHand_encoderStep {course : Course} {frame : EncodedAudioFrame} {next : Resume}
    (lossy : course.pipe.deliveryPolicy = .dropNewest)
    (phase : course.pipe.encoder = .sending frame next) (ambient : Ambient)
    (codec : Option (List UInt8)) : (course.encoderStep ambient codec).1.inHand = none := by
  have resumed : ∀ counted : Pipe, (counted.resume next).inHand = none := by
    intro counted
    cases next <;> rfl
  unfold encoderStep
  split
  · simp [Pipe.encodeDisconnected, phase, Pipe.inHand]
  · have sends : course.pipe.encode ambient codec = course.pipe.sendEncoded frame next := by
      simp [Pipe.encode, phase]
    rw [sends, Pipe.sendEncoded, lossy]
    split <;> exact resumed _

/-- What a latency profile promises of a bus. -/
structure LatencyContract (profile : LatencyProfile) (course : Course) : Prop where
  /-- Besides the frames in the channel each thread holds one at most. -/
  captured : course.pipe.capturedInside ≤ profile.captureChannelDepth + 2
  encoded : course.pipe.encodedInside ≤ profile.encodedChannelDepth + 1
  /-- Behind the codec a standard profile loses nothing but what was cancelled, -/
  lossless : profile = .standard → course.pipe.counters.encodedChannelDrops = 0 ∧
    course.pipe.encodedCount = course.disposed.times .cancelledEncoded +
      course.disposed.times .undelivered + course.pipe.encodedInside + course.pipe.taken.length
  /-- as long as the publisher holds its receiver. -/
  delivered : course.hungUp = false → course.disposed.times .undelivered = 0
  /-- A low profile never keeps the encoder waiting for its publisher. -/
  prompt : profile = .low → ∀ frame next ambient codec,
    course.pipe.encoder = .sending frame next →
      (course.encoderStep ambient codec).1.inHand = none

/-- The contract holds in every state that a bus of the profile can be in. -/
theorem latency_contract_holds (profile : LatencyProfile) (channels : Nat)
    (supported : channels = 1 ∨ channels = 2) (moves : List PipeMove) :
    LatencyContract profile (Course.run (profile.layout channels supported) moves) := by
  have bounded := Course.run_bounded (profile.layout channels supported) moves
  obtain ⟨conserved, -⟩ := Course.run_accounts (profile.layout channels supported) moves
  refine ⟨bounded.inside_le.1, bounded.inside_le.2, ?_, fun held => ?_, ?_⟩
  · rintro rfl
    have kept := bounded.preserved rfl
    refine ⟨?_, ?_⟩
    · rw [conserved.counters, Course.tally, kept]
      rfl
    · have packets := conserved.packets
      omega
  · by_contra lost
    have hungUp := conserved.uncounted (by omega)
    rw [held] at hungUp
    cases hungUp
  · rintro rfl frame next ambient codec phase
    exact Course.inHand_encoderStep bounded.deliveryPolicy phase ambient codec

theorem latency_contract_holds_farewell :
    (Course.run (LatencyProfile.low.layout 1 (.inl rfl)) shortFarewell).pipe.encoded.length = 1 ∧
      LatencyContract .low (Course.run (LatencyProfile.low.layout 1 (.inl rfl)) shortFarewell) :=
  ⟨rfl, latency_contract_holds .low 1 (.inl rfl) shortFarewell⟩

end RelayConnector
