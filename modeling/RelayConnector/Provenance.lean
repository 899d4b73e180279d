/-
This file says what the packets of a bus are made of.

A packet is cut out of a run of received frames: from some sample of the first of them
on, frame after frame, with zeros behind the last one only when the thread ends. The
frames of a run carry sequence numbers that follow one another and one output
generation, and the packet is stamped with the time of its first sample. The invariant
has a field for each place where a frame or a part of a packet can be.
-/

import RelayConnector.Numbering
import RelayConnector.Packets

namespace RelayConnector

open Words Subsequence

theorem receivedIn_append (new events : List PipeEvent) :
    receivedIn (new ++ events) = receivedIn events ++ receivedIn new := by
  simp [receivedIn]

/-! ### Packets cut out of a run -/

/-- The frame has as many channels as its bus, and as many samples in each of them. -/
def SourceFrame.Fits (channels : Nat) (frame : SourceFrame) : Prop :=
  frame.channels = channels ∧ frame.samples.length % channels = 0

/-- `stream` is what a run of frames holds from some sample of its first frame on; that sample was
captured at `timestampNs`. -/
structure Drawn (generation : Option Nat) (channels timestampNs : Nat) (first : SourceFrame)
    (rest : List SourceFrame) (stream : List PcmSample) : Prop where
  consecutive : (first :: rest).IsChain fun before after =>
    after.sequenceNumber = saturatingAdd before.sequenceNumber 1
  together : ∀ frame ∈ first :: rest, frame.outputGeneration = generation
  fits : first.Fits channels
  starts : ∃ offset < first.samples.length,
    timestampNs = saturatingAdd first.timestampNs (offsetNs (offset / channels)) ∧
      stream = ((first :: rest).flatMap (·.samples)).drop offset

/-- The samples were drawn from a run of received frames, with nothing but padding behind it. -/
def Composed (received : List SourceFrame) (generation : Option Nat)
    (channels timestampNs : Nat) (samples : List PcmSample) : Prop :=
  ∃ first rest stream padding, (first :: rest).Sublist received ∧
    Drawn generation channels timestampNs first rest stream ∧
    samples <+: stream ++ List.replicate padding 0

theorem Composed.mono {received more : List SourceFrame} {generation : Option Nat}
    {channels timestampNs : Nat} {samples : List PcmSample}
    (composed : Composed received generation channels timestampNs samples)
    (grows : received.Sublist more) : Composed more generation channels timestampNs samples := by
  obtain ⟨first, rest, stream, padding, listed, drawn, cut⟩ := composed
  exact ⟨first, rest, stream, padding, listed.trans grows, drawn, cut⟩

variable {frame : SourceFrame}

namespace Drawn

variable {generation : Option Nat} {channels timestampNs : Nat} {first : SourceFrame}
  {rest : List SourceFrame} {stream : List PcmSample}

/-- A frame alone, from some sample on. -/
theorem single {offset : Nat} (fits : frame.Fits channels)
    (inside : offset < frame.samples.length) :
    Drawn frame.outputGeneration channels
      (saturatingAdd frame.timestampNs (offsetNs (offset / channels))) frame []
      (frame.samples.drop offset) where
  consecutive := List.isChain_singleton _
  together other member := by rw [List.mem_singleton.mp member]
  fits := fits
  starts := ⟨offset, inside, rfl, by rw [List.flatMap_singleton]⟩

/-- The run goes on with the next frame of its generation. -/
theorem extend (drawn : Drawn generation channels timestampNs first rest stream)
    (follows : frame.sequenceNumber =
      saturatingAdd ((first :: rest).getLast (List.cons_ne_nil _ _)).sequenceNumber 1)
    (same : frame.outputGeneration = generation) :
    Drawn generation channels timestampNs first (rest ++ [frame]) (stream ++ frame.samples) where
  consecutive := by
    rw [← List.cons_append]
    refine drawn.consecutive.append (List.isChain_singleton _) ?_
    intro last isLast next isNext
    rw [List.getLast?_eq_getLast_of_ne_nil (List.cons_ne_nil _ _), Option.mem_some_iff] at isLast
    rw [List.head?_cons, Option.mem_some_iff] at isNext
    rw [← isLast, ← isNext]
    exact follows
  together other member := by
    rw [← List.cons_append] at member
    rcases List.mem_append.mp member with old | new
    · exact drawn.together other old
    · rw [List.mem_singleton.mp new]
      exact same
  fits := drawn.fits
  starts := by
    obtain ⟨offset, inside, stamp, content⟩ := drawn.starts
    refine ⟨offset, inside, stamp, ?_⟩
    have long : offset ≤ ((first :: rest).flatMap (·.samples)).length := by
      rw [List.flatMap_cons, List.length_append]
      exact inside.le.trans (Nat.le_add_right _ _)
    rw [← List.cons_append, List.flatMap_append, List.flatMap_singleton,
      List.drop_append_of_le_length long, content]

/-- Every sample of the stream comes from a frame of the run. -/
theorem origin (drawn : Drawn generation channels timestampNs first rest stream)
    {sample : PcmSample} (member : sample ∈ stream) :
    ∃ frame ∈ first :: rest, sample ∈ frame.samples := by
  obtain ⟨offset, _, _, content⟩ := drawn.starts
  rw [content] at member
  exact List.mem_flatMap.mp (List.mem_of_mem_drop member)

end Drawn

/-- A sample of a packet is padding or comes from a frame of its run. -/
theorem mem_of_cut {stream samples : List PcmSample} {padding : Nat} {sample : PcmSample}
    {index : Nat} (cut : samples <+: stream ++ List.replicate padding 0)
    (member : sample ∈ samples) (origin : sample.origin = some index) : sample ∈ stream := by
  rcases List.mem_append.mp (cut.subset member) with inside | pad
  · exact inside
  · rw [List.eq_of_mem_replicate pad] at origin
    cases origin

/-! ### Where frames are -/

/-- The frame the encoder is working on, and how far it has got. -/
@[simp] def EncoderPhase.underway : EncoderPhase → Option (SourceFrame × Nat)
  | .pushing frame offset => some (frame, offset)
  | .vetting _ next => next
  | .encoding _ next => next
  | .delivering _ next => next
  | .sending _ next => next
  | _ => none

/-- The channel has been closed and the last, padded packet is out of the packetizer. -/
def EncoderPhase.inTail : EncoderPhase → Bool
  | .vetting _ next => next.isNone
  | .encoding _ next => next.isNone
  | .delivering _ next => next.isNone
  | .sending _ next => next.isNone
  | .stopped => true
  | _ => false

/-- The packet in `encode_and_deliver` that is not encoded yet. -/
@[simp] def EncoderPhase.packet : EncoderPhase → Option (PcmPacket PcmSample)
  | .vetting packet _ => some packet
  | .encoding packet _ => some packet
  | _ => none

@[simp] def EncoderPhase.waiting : EncoderPhase → List SourceFrame
  | .admitting frame => [frame]
  | _ => []

def FeederPhase.held : FeederPhase → List SourceFrame
  | .stamping frame => [frame]
  | .gating frame => [frame]
  | .sending frame => [frame]
  | _ => []

namespace Pipe

/-- The frames between the feeder's receiver and the packetizer, oldest first. -/
def queue (pipe : Pipe) : List SourceFrame :=
  pipe.encoder.waiting ++ (pipe.frames ++ pipe.feeder.held)

/-- What the packetizer has not been given yet of the frame under way. -/
def remaining (pipe : Pipe) : List PcmSample :=
  match pipe.encoder.underway with
  | some (frame, offset) => frame.samples.drop offset
  | none => []

/-- The partial packet of a packetizer, continued by `remaining`, is drawn from a run; the frames of
`queue` come later. -/
def Assembling (received : List SourceFrame) (packetizer : PcmPacketizer PcmSample)
    (queue : List SourceFrame) (remaining : List PcmSample) : Prop :=
  ∃ first rest, (first :: rest ++ queue).Sublist received ∧
    Drawn packetizer.outputGenerationId packetizer.channels packetizer.packetTimestampNs first rest
      (packetizer.residual ++ remaining) ∧
    packetizer.expectedSequenceNumber =
      some (saturatingAdd ((first :: rest).getLast (List.cons_ne_nil _ _)).sequenceNumber 1)

/-- Everything in the pipe comes from the frames received, in their order. -/
structure Sourced (channels : Nat) (received : List SourceFrame)
    (encoded : List EncodedAudioFrame) (pipe : Pipe) : Prop where
  width : pipe.packetizer.channels = channels
  enumerated : Enumerated SourceFrame.index received
  count : pipe.received = received.length
  queued : ((pipe.encoder.underway.map Prod.fst).toList ++ pipe.queue).Sublist received
  tag : pipe.packetOutput = pipe.packetizer.outputGenerationId
  current : ∀ frame offset, pipe.encoder.underway = some (frame, offset) →
    pipe.packetizer.outputGenerationId = frame.outputGeneration ∧
      pipe.packetizer.expectedSequenceNumber = some (saturatingAdd frame.sequenceNumber 1) ∧
      frame.Fits channels
  assembling : pipe.encoder.inTail = false → pipe.packetizer.written ≠ 0 →
    Assembling received pipe.packetizer pipe.queue pipe.remaining
  packet : ∀ packet, pipe.encoder.packet = some packet →
    Composed received pipe.packetOutput channels packet.timestampNs packet.samples
  made : ∀ frame ∈ encoded,
    Composed received frame.outputGeneration channels frame.captureTimestampNs frame.samples

variable {channels : Nat} {received : List SourceFrame} {encoded : List EncodedAudioFrame}
  {pipe after : Pipe}

variable {packetizer : PcmPacketizer PcmSample}

theorem Assembling.trim {queue kept : List SourceFrame} {remaining : List PcmSample}
    (assembling : Assembling received packetizer queue remaining) (sublist : kept.Sublist queue) :
    Assembling received packetizer kept remaining := by
  obtain ⟨first, rest, listed, drawn⟩ := assembling
  exact ⟨first, rest, (sublist.append_left _).trans listed, drawn⟩

/-- The packet under assembly is composed of received frames. -/
theorem Assembling.composed {queue : List SourceFrame} {remaining : List PcmSample}
    (assembling : Assembling received packetizer queue remaining) :
    Composed received packetizer.outputGenerationId packetizer.channels
      packetizer.packetTimestampNs packetizer.residual := by
  obtain ⟨first, rest, listed, drawn, _⟩ := assembling
  exact ⟨first, rest, _, 0, (List.sublist_append_left _ _).trans listed, drawn,
    (List.prefix_append packetizer.residual remaining).trans (List.prefix_append _ _)⟩

namespace Sourced

/-! ### The packetizer -/

/-- A frame is begun: its partial packet is discarded, or the run goes on with it. -/
theorem beginFrame_cases {next : PcmPacketizer PcmSample} {boundary : PcmPacketizerBegin}
    {sequenceNumber sampleCount : Nat} {generation : Option Nat}
    (begun : packetizer.beginFrame sequenceNumber sampleCount generation = .ok (next, boundary)) :
    sampleCount % packetizer.channels = 0 ∧ next.channels = packetizer.channels ∧
      next.outputGenerationId = generation ∧
      next.expectedSequenceNumber = some (saturatingAdd sequenceNumber 1) ∧
      (next.written = 0 ∨ next.residual = packetizer.residual ∧
        next.packetTimestampNs = packetizer.packetTimestampNs ∧ packetizer.written ≠ 0 ∧
        packetizer.outputGenerationId = generation ∧
        ∀ expected, packetizer.expectedSequenceNumber = some expected →
          expected = sequenceNumber) := by
  unfold PcmPacketizer.beginFrame at begun
  split at begun
  next => cases begun
  next aligned =>
    have aligned := not_not.mp aligned
    simp only [Except.ok.injEq, Prod.mk.injEq] at begun
    obtain ⟨rfl, -⟩ := begun
    by_cases discards : (packetizer.expectedSequenceNumber.any (· != sequenceNumber) ||
      (decide (0 < packetizer.written) && packetizer.outputGenerationId != generation)) = true
    · rw [if_pos discards]
      exact ⟨aligned, rfl, rfl, rfl, .inl rfl⟩
    · rw [if_neg discards]
      by_cases empty : packetizer.written = 0
      · exact ⟨aligned, rfl, rfl, rfl, .inl empty⟩
      · simp only [Bool.or_eq_true, Bool.and_eq_true, decide_eq_true_eq, not_or, not_and,
          bne_iff_ne, ne_eq, not_not] at discards
        obtain ⟨expects, continues⟩ := discards
        refine ⟨aligned, rfl, rfl, rfl,
          .inr ⟨rfl, rfl, empty, continues (Nat.pos_of_ne_zero empty), ?_⟩⟩
        intro expected isExpected
        rw [isExpected] at expects
        simpa using expects

/-- A partial packet that `begin_frame` keeps goes on with the frame. -/
theorem assembling_of_beginFrame {next : PcmPacketizer PcmSample} {boundary : PcmPacketizerBegin}
    {sampleCount : Nat} {queue : List SourceFrame}
    (assembling : packetizer.written ≠ 0 → Assembling received packetizer (frame :: queue) [])
    (begun : packetizer.beginFrame frame.sequenceNumber sampleCount frame.outputGeneration =
      .ok (next, boundary)) (partly : next.written ≠ 0) :
    Assembling received next queue frame.samples := by
  obtain ⟨-, width, generation, expects, kept⟩ := beginFrame_cases begun
  obtain ⟨residual, stamp, started, same, follows⟩ := kept.resolve_left partly
  obtain ⟨first, rest, listed, drawn, expected⟩ := assembling started
  rw [List.append_nil] at drawn
  have further := drawn.extend (follows _ expected).symm same.symm
  refine ⟨first, rest ++ [frame], ?_, ?_, ?_⟩
  · rw [← List.cons_append, List.append_assoc]
    exact listed
  · rw [generation, width, stamp, residual, ← same]
    exact further
  · rw [expects]
    simp only [← List.cons_append, List.getLast_concat]

/-- Padding is put behind the partial packet. -/
theorem padTail_cases {padded : PcmPacketizer PcmSample} {padding : Nat}
    (tail : packetizer.padTail = some (padded, padding)) :
    packetizer.written ≠ 0 ∧ padded.channels = packetizer.channels ∧
      padded.outputGenerationId = packetizer.outputGenerationId ∧
      padded.packetTimestampNs = packetizer.packetTimestampNs ∧
      padded.written = padded.packetSamples ∧
      padded.residual = packetizer.residual ++ List.replicate padding 0 := by
  unfold PcmPacketizer.padTail at tail
  split at tail
  next => cases tail
  next partly =>
    obtain ⟨rfl, rfl⟩ := Prod.mk.inj (Option.some.inj tail)
    refine ⟨partly, rfl, rfl, rfl, rfl, ?_⟩
    have bounded := packetizer.packetSamples_le
    have cursor := packetizer.within
    simp only [PcmPacketizer.residual, copyFromSlice]
    rw [List.take_append_of_le_length (by simp; omega)]
    refine List.take_of_length_le ?_
    simp only [List.length_append, List.length_take, List.length_replicate]
    omega

/-- Where no packet becomes a frame, the events are silent about frames. -/
theorem finishTail_silent (pipe : Pipe) : encodedIn pipe.finishTail.2 = [] := by
  unfold Pipe.finishTail
  split
  · rfl
  · simp only
    split <;> rfl

theorem sendEncoded_silent (pipe : Pipe) (frame : EncodedAudioFrame) (next : Resume) :
    encodedIn (pipe.sendEncoded frame next).2 = [] := by
  unfold Pipe.sendEncoded
  split
  · rfl
  · split <;> rfl

theorem admitFrame_silent (pipe : Pipe) (ambient : Ambient) (frame : SourceFrame) :
    encodedIn (pipe.admitFrame ambient frame).2 = [] := by
  unfold Pipe.admitFrame
  split
  · rfl
  · split
    · rfl
    · split
      · rfl
      · exact pipe.discarded_silent _

section Steps

variable (sourced : Sourced channels received encoded pipe)

include sourced

/-! ### The feeder -/

/-- The feeder moves or drops frames. -/
theorem upstream (encoder : after.encoder = pipe.encoder)
    (packetizer : after.packetizer = pipe.packetizer)
    (output : after.packetOutput = pipe.packetOutput) (count : after.received = pipe.received)
    (kept : (after.frames ++ after.feeder.held).Sublist (pipe.frames ++ pipe.feeder.held)) :
    Sourced channels received encoded after := by
  have queue : after.queue.Sublist pipe.queue := by
    rw [Pipe.queue, Pipe.queue, encoder]
    exact kept.append_left _
  have remaining : after.remaining = pipe.remaining := by
    rw [Pipe.remaining, encoder, Pipe.remaining]
  refine ⟨?_, sourced.enumerated, ?_, ?_, ?_, ?_, ?_, ?_, sourced.made⟩
  · rw [packetizer]
    exact sourced.width
  · rw [count]
    exact sourced.count
  · rw [encoder]
    exact (queue.append_left _).trans sourced.queued
  · rw [output, packetizer]
    exact sourced.tag
  · rw [encoder, packetizer]
    exact sourced.current
  · rw [encoder, packetizer, remaining]
    exact fun working partly => (sourced.assembling working partly).trim queue
  · rw [encoder, output]
    exact sourced.packet

/-- The feeder receives a frame. -/
theorem arrive (index : frame.index = pipe.received) (encoder : after.encoder = pipe.encoder)
    (packetizer : after.packetizer = pipe.packetizer)
    (output : after.packetOutput = pipe.packetOutput) (count : after.received = pipe.received + 1)
    (frames : after.frames = pipe.frames) (idle : pipe.feeder.held = [])
    (held : after.feeder.held = [frame]) :
    Sourced channels (received ++ [frame]) encoded after := by
  have queue : after.queue = pipe.queue ++ [frame] := by
    rw [Pipe.queue, Pipe.queue, encoder, frames, held, idle, List.append_nil, List.append_assoc]
  have remaining : after.remaining = pipe.remaining := by
    rw [Pipe.remaining, encoder, Pipe.remaining]
  have grows : received.Sublist (received ++ [frame]) := List.sublist_append_left _ _
  refine ⟨?_, sourced.enumerated.append_singleton (index.trans sourced.count), ?_, ?_, ?_, ?_, ?_,
    ?_, fun made member => (sourced.made made member).mono grows⟩
  · rw [packetizer]
    exact sourced.width
  · rw [count, sourced.count, List.length_append, List.length_singleton]
  · rw [encoder, queue, ← List.append_assoc]
    exact sourced.queued.append_right _
  · rw [output, packetizer]
    exact sourced.tag
  · rw [encoder, packetizer]
    exact sourced.current
  · rw [encoder, packetizer, remaining, queue]
    intro working partly
    obtain ⟨first, rest, listed, drawn⟩ := sourced.assembling working partly
    refine ⟨first, rest, ?_, drawn⟩
    rw [← List.append_assoc]
    exact listed.append_right _
  · rw [encoder, output]
    exact fun packet inside => (sourced.packet packet inside).mono grows

theorem feed (ambient : Ambient) (arrival : Option (AudioFrame UInt32)) :
    Sourced channels (received ++ receivedIn (pipe.feed ambient arrival).2) encoded
      (pipe.feed ambient arrival).1 := by
  have stays : ∀ after : Pipe, after.encoder = pipe.encoder → after.packetizer = pipe.packetizer →
      after.packetOutput = pipe.packetOutput → after.received = pipe.received →
      (after.frames ++ after.feeder.held).Sublist (pipe.frames ++ pipe.feeder.held) →
      Sourced channels (received ++ []) encoded after := by
    intro after encoder packetizer output count kept
    rw [List.append_nil]
    exact sourced.upstream encoder packetizer output count kept
  have dropped : ∀ frames : List SourceFrame, (frames ++ []).Sublist (frames ++ pipe.feeder.held) :=
    fun frames => (List.nil_sublist _).append_left frames
  have same := List.Sublist.refl (pipe.frames ++ pipe.feeder.held)
  unfold Pipe.feed
  split
  next phase => split <;> exact stays _ rfl rfl rfl rfl (dropped pipe.frames)
  next phase =>
    split
    next frame =>
      refine sourced.arrive rfl rfl rfl rfl rfl rfl (by rw [phase]; rfl) ?_
      split <;> rfl
    next => exact stays _ rfl rfl rfl rfl (dropped pipe.frames)
  next frame phase =>
    refine stays _ rfl rfl rfl rfl ?_
    rw [phase]
    exact List.Sublist.refl _
  next frame phase =>
    split
    next => exact stays _ rfl rfl rfl rfl (dropped pipe.frames)
    next =>
      refine stays _ rfl rfl rfl rfl ?_
      rw [phase]
      exact List.Sublist.refl _
  next frame phase =>
    split
    next => exact stays _ rfl rfl rfl rfl (dropped pipe.frames)
    next =>
      split
      next =>
        refine stays _ rfl rfl rfl rfl ?_
        rw [phase]
        simp only [FeederPhase.held, List.append_nil]
        exact List.Sublist.refl _
      next => exact stays _ rfl rfl rfl rfl (dropped pipe.frames)
  next phase => split <;> exact stays _ rfl rfl rfl rfl (dropped pipe.frames)
  next phase => exact stays _ rfl rfl rfl rfl same

/-! ### The encoder -/

/-- The encoder goes on without touching the packetizer; a packet or a frame may be dropped. -/
theorem downstream (packetizer : after.packetizer = pipe.packetizer)
    (output : after.packetOutput = pipe.packetOutput) (count : after.received = pipe.received)
    (queue : after.queue.Sublist pipe.queue)
    (working : after.encoder.inTail = false → pipe.encoder.inTail = false)
    (underway : after.encoder.underway = pipe.encoder.underway ∨
      after.encoder.underway = none ∧ pipe.remaining = [])
    (packet : after.encoder.packet = pipe.encoder.packet ∨ after.encoder.packet = none) :
    Sourced channels received encoded after := by
  have remaining : after.remaining = pipe.remaining := by
    rcases underway with same | ⟨none, nothing⟩
    · rw [Pipe.remaining, same, Pipe.remaining]
    · rw [Pipe.remaining, none, nothing]
  refine ⟨?_, sourced.enumerated, ?_, ?_, ?_, ?_, ?_, ?_, sourced.made⟩
  · rw [packetizer]
    exact sourced.width
  · rw [count]
    exact sourced.count
  · rcases underway with same | ⟨none, _⟩
    · rw [same]
      exact (queue.append_left _).trans sourced.queued
    · rw [none]
      exact queue.trans ((List.sublist_append_right _ _).trans sourced.queued)
  · rw [output, packetizer]
    exact sourced.tag
  · intro frame offset current
    rw [packetizer]
    rcases underway with same | ⟨none, _⟩
    · exact sourced.current frame offset (same ▸ current)
    · rw [none] at current
      cases current
  · rw [packetizer, remaining]
    exact fun stillWorking partly =>
      (sourced.assembling (working stillWorking) partly).trim queue
  · intro found inside
    rw [output]
    rcases packet with same | none
    · exact sourced.packet found (same ▸ inside)
    · rw [none] at inside
      cases inside

/-- Leaving `encode_and_deliver`. -/
theorem resume {next : Resume}
    (underway : pipe.encoder.underway = next) (idle : pipe.encoder.waiting = [])
    (packetizer : after.packetizer = pipe.packetizer)
    (output : after.packetOutput = pipe.packetOutput) (count : after.received = pipe.received)
    (frames : after.frames = pipe.frames) (feeder : after.feeder = pipe.feeder) :
    Sourced channels received encoded (after.resume next) := by
  have queue : ∀ phase : EncoderPhase, phase.waiting = [] →
      phase.waiting ++ (after.frames ++ after.feeder.held) = pipe.queue := by
    intro phase none
    rw [none, Pipe.queue, idle, frames, feeder]
  cases next with
  | none =>
    refine ⟨?_, sourced.enumerated, count.trans sourced.count, ?_, ?_, fun _ _ current => ?_,
      fun working => ?_, fun _ inside => ?_, sourced.made⟩
    · exact (congrArg PcmPacketizer.channels packetizer).trans sourced.width
    · refine List.Sublist.trans ?_ ((List.sublist_append_right _ _).trans sourced.queued)
      exact (queue .stopped rfl) ▸ List.Sublist.refl _
    · exact output.trans (sourced.tag.trans (congrArg _ packetizer.symm))
    · cases current
    · cases working
    · cases inside
  | some position =>
    obtain ⟨frame, offset⟩ := position
    refine ⟨?_, sourced.enumerated, count.trans sourced.count, ?_, ?_,
      fun other place current => ?_, fun _ partly => absurd rfl partly, fun _ inside => ?_,
      sourced.made⟩
    · exact (congrArg PcmPacketizer.channels packetizer).trans sourced.width
    · have listed := sourced.queued
      rw [underway, ← queue (.pushing frame offset) rfl] at listed
      exact listed
    · show after.packetOutput = after.packetizer.outputGenerationId
      rw [output, packetizer]
      exact sourced.tag
    · have both := sourced.current other place (underway.trans current)
      rw [← packetizer] at both
      exact both
    · cases inside

theorem admitFrame (ambient : Ambient) (phase : pipe.encoder = .admitting frame) :
    Sourced channels received encoded (pipe.admitFrame ambient frame).1 := by
  have skipped : ∀ counted : Pipe, counted.packetizer = pipe.packetizer →
      counted.packetOutput = pipe.packetOutput → counted.received = pipe.received →
      counted.frames = pipe.frames → counted.feeder = pipe.feeder →
      Sourced channels received encoded { counted with encoder := .receiving } := by
    intro counted packetizer output count frames feeder
    refine sourced.downstream packetizer output count ?_ ?_ ?_ ?_
    · simp only [Pipe.queue, phase, frames, feeder, EncoderPhase.waiting, List.nil_append]
      exact List.sublist_append_right _ _
    · rw [phase]
      exact fun working => working
    · rw [phase]
      exact .inl rfl
    · rw [phase]
      exact .inl rfl
  unfold Pipe.admitFrame
  split
  next => exact skipped _ rfl rfl rfl rfl rfl
  next format =>
    have channels_eq : frame.channels = pipe.packetizer.channels :=
      not_not.mp (not_or.mp format).2
    split
    next => exact skipped _ rfl rfl rfl rfl rfl
    next =>
      split
      next => exact skipped _ rfl rfl rfl rfl rfl
      next next boundary begun =>
        obtain ⟨aligned, width, generation, expects, -⟩ := beginFrame_cases begun
        have queue : pipe.queue = frame :: (pipe.frames ++ pipe.feeder.held) := by
          rw [Pipe.queue, phase]
          rfl
        have listed := (List.sublist_append_right _ _).trans sourced.queued
        rw [queue] at listed
        refine ⟨width.trans sourced.width, sourced.enumerated, sourced.count, listed, ?_, ?_, ?_,
          fun _ inside => (nomatch inside), sourced.made⟩
        · show (if next.outputGenerationId ≠ pipe.packetOutput then frame.outputGeneration
            else pipe.packetOutput) = next.outputGenerationId
          by_cases changed : next.outputGenerationId ≠ pipe.packetOutput
          · rw [if_pos changed, generation]
          · rw [if_neg changed]
            exact (not_not.mp changed).symm
        · rintro _ _ ⟨⟩
          rw [sourced.width] at channels_eq aligned
          exact ⟨generation, expects, channels_eq, aligned⟩
        · have before : pipe.packetizer.written ≠ 0 → Assembling received pipe.packetizer
              (frame :: (pipe.frames ++ pipe.feeder.held)) [] := by
            have working : pipe.encoder.inTail = false := by rw [phase]; rfl
            have nothing : pipe.remaining = [] := by rw [Pipe.remaining, phase]; rfl
            rw [← queue, ← nothing]
            exact sourced.assembling working
          exact fun _ => assembling_of_beginFrame before begun

/-- A push moves samples from the frame under way into the packet. -/
theorem pushed {offset : Nat}
    (phase : pipe.encoder = .pushing frame offset) (inside : offset < frame.samples.length) :
    Assembling received
      (pipe.packetizer.push (frame.samples.drop offset) frame.timestampNs offset).1
      (pipe.frames ++ pipe.feeder.held)
      (frame.samples.drop (offset +
        (pipe.packetizer.push (frame.samples.drop offset) frame.timestampNs offset).2)) := by
  have underway : pipe.encoder.underway = some (frame, offset) := by rw [phase]; rfl
  have queue : pipe.queue = pipe.frames ++ pipe.feeder.held := by
    rw [Pipe.queue, phase]
    rfl
  obtain ⟨generation, expects, fits⟩ := sourced.current frame offset underway
  have moved :
      (pipe.packetizer.push (frame.samples.drop offset) frame.timestampNs offset).1.residual
      ++ frame.samples.drop (offset +
        (pipe.packetizer.push (frame.samples.drop offset) frame.timestampNs offset).2) =
      pipe.packetizer.residual ++ frame.samples.drop offset := by
    rw [PcmPacketizer.push_residual, List.append_assoc, ← List.drop_drop, List.take_append_drop]
  by_cases empty : pipe.packetizer.written = 0
  · -- the packet begins here
    have nothing : pipe.packetizer.residual = [] := by
      rw [PcmPacketizer.residual, empty, List.take_zero]
    refine ⟨frame, [], ?_, ?_, expects⟩
    · have listed := sourced.queued
      rw [underway, queue] at listed
      exact listed
    · rw [moved, nothing, List.nil_append]
      have stamp : (pipe.packetizer.push (frame.samples.drop offset) frame.timestampNs
          offset).1.packetTimestampNs =
          saturatingAdd frame.timestampNs (offsetNs (offset / pipe.packetizer.channels)) := by
        simp only [PcmPacketizer.push, empty, if_true]
      rw [stamp]
      exact generation ▸ Drawn.single (sourced.width ▸ fits) inside
  · have working : pipe.encoder.inTail = false := by rw [phase]; rfl
    have remaining : pipe.remaining = frame.samples.drop offset := by
      rw [Pipe.remaining, phase]
      rfl
    obtain ⟨first, rest, listed, drawn, expected⟩ := sourced.assembling working empty
    refine ⟨first, rest, queue ▸ listed, ?_, expected⟩
    have stamp : (pipe.packetizer.push (frame.samples.drop offset) frame.timestampNs
        offset).1.packetTimestampNs = pipe.packetizer.packetTimestampNs := by
      simp only [PcmPacketizer.push, empty, if_false]
    rw [moved, stamp, ← remaining]
    exact drawn

theorem pushRound {offset : Nat} (phase : pipe.encoder = .pushing frame offset) :
    Sourced channels received encoded (pipe.pushRound frame offset) := by
  have underway : pipe.encoder.underway = some (frame, offset) := by rw [phase]; rfl
  have listed := sourced.queued
  rw [underway, Pipe.queue, phase] at listed
  unfold Pipe.pushRound
  split
  next inside =>
    have pushed := sourced.pushed phase inside
    simp only
    split
    next samples timestampNs complete =>
      refine ⟨sourced.width, sourced.enumerated, sourced.count, listed, sourced.tag, ?_,
        fun _ _ => pushed, ?_, sourced.made⟩
      · rintro _ _ ⟨⟩
        exact sourced.current frame offset underway
      · rintro _ ⟨⟩
        have composed := pushed.composed
        have full : (pipe.packetizer.push (frame.samples.drop offset) frame.timestampNs
            offset).1.written = (pipe.packetizer.push (frame.samples.drop offset) frame.timestampNs
              offset).1.packetSamples := by
          by_contra short
          rw [PcmPacketizer.completePacket, if_neg short] at complete
          cases complete
        rw [PcmPacketizer.completePacket_eq_residual _ full] at complete
        cases complete
        rw [← sourced.width]
        exact sourced.tag ▸ composed
    next =>
      refine ⟨sourced.width, sourced.enumerated, sourced.count, listed, sourced.tag, ?_,
        fun _ _ => pushed, ?_, sourced.made⟩
      · rintro _ _ ⟨⟩
        exact sourced.current frame offset underway
      · rintro _ ⟨⟩
  next outside =>
    refine sourced.downstream rfl rfl rfl ?_ ?_ ?_ (.inr rfl)
    · rw [Pipe.queue, Pipe.queue, phase]
      exact List.Sublist.refl _
    · rw [phase]
      exact fun working => working
    · refine .inr ⟨rfl, ?_⟩
      rw [Pipe.remaining, underway]
      exact List.drop_of_length_le (Nat.not_lt.mp outside)

theorem finishTail (phase : pipe.encoder = .receiving) :
    Sourced channels received encoded pipe.finishTail.1 := by
  have listed := sourced.queued
  rw [Pipe.queue, phase] at listed
  unfold Pipe.finishTail
  split
  next =>
    exact sourced.downstream rfl rfl rfl (List.sublist_append_right _ _)
      (fun working => nomatch working) (.inr ⟨rfl, by rw [Pipe.remaining, phase]; rfl⟩) (.inr rfl)
  next padded padding tail =>
    obtain ⟨partly, width, generation, stamp, full, residual⟩ := padTail_cases tail
    have working : pipe.encoder.inTail = false := by rw [phase]; rfl
    have nothing : pipe.remaining = [] := by rw [Pipe.remaining, phase]; rfl
    have composed : Composed received pipe.packetOutput channels padded.packetTimestampNs
        padded.residual := by
      obtain ⟨first, rest, fromRun, drawn, _⟩ := sourced.assembling working partly
      rw [nothing, List.append_nil] at drawn
      rw [residual, stamp, sourced.tag, ← sourced.width]
      exact ⟨first, rest, _, padding, (List.sublist_append_left _ _).trans fromRun, drawn,
        List.prefix_rfl⟩
    simp only
    rw [PcmPacketizer.completePacket_eq_residual _ full]
    refine ⟨width.trans sourced.width, sourced.enumerated, sourced.count, listed,
      sourced.tag.trans generation.symm, fun _ _ current => (nomatch current),
      fun working => (nomatch working), ?_, sourced.made⟩
    rintro _ ⟨⟩
    exact composed

/-- The codec has answered: the packet becomes a frame. -/
theorem encodes {frame : EncodedAudioFrame}
    {packet : PcmPacket PcmSample} {next : Resume} (phase : pipe.encoder = .encoding packet next)
    (samples : frame.samples = packet.samples)
    (stamp : frame.captureTimestampNs = packet.timestampNs)
    (output : frame.outputGeneration = pipe.packetOutput)
    (moved : after.encoder = .delivering frame next) (frames : after.frames = pipe.frames)
    (feeder : after.feeder = pipe.feeder) (packetizer : after.packetizer = pipe.packetizer)
    (same : after.packetOutput = pipe.packetOutput) (count : after.received = pipe.received) :
    Sourced channels received (encoded ++ [frame]) after := by
  have queue : after.queue = pipe.queue := by
    rw [Pipe.queue, Pipe.queue, moved, phase, frames, feeder]
    rfl
  have delivered : Sourced channels received encoded after := by
    refine sourced.downstream packetizer same count (queue ▸ List.Sublist.refl _) ?_ (.inl ?_)
      (.inr ?_)
    · rw [moved, phase]
      exact id
    · rw [moved, phase]
      rfl
    · rw [moved]
      rfl
  refine { delivered with made := fun made member => ?_ }
  rcases List.mem_append.mp member with old | new
  · exact sourced.made made old
  · rw [List.mem_singleton.mp new, samples, stamp, output]
    exact sourced.packet packet (by rw [phase]; rfl)

theorem sendEncoded {frame : EncodedAudioFrame}
    {next : Resume} (phase : pipe.encoder = .sending frame next) :
    Sourced channels received encoded (pipe.sendEncoded frame next).1 := by
  have underway : pipe.encoder.underway = next := by rw [phase]; rfl
  have idle : pipe.encoder.waiting = [] := by rw [phase]; rfl
  unfold Pipe.sendEncoded
  split
  next => exact sourced.resume underway idle rfl rfl rfl rfl rfl
  next =>
    split
    next => exact sourced
    next => exact sourced.resume underway idle rfl rfl rfl rfl rfl

theorem encode (ambient : Ambient) (codec : Option (List UInt8)) :
    Sourced channels (received ++ receivedIn (pipe.encode ambient codec).2)
      (encoded ++ encodedIn (pipe.encode ambient codec).2) (pipe.encode ambient codec).1 := by
  rw [pipe.receivedIn_encode, List.append_nil]
  have silent : ∀ after : Pipe, Sourced channels received encoded after →
      Sourced channels received (encoded ++ []) after := by
    intro after kept
    rw [List.append_nil]
    exact kept
  -- a step that only changes where the encoder stands
  have moves : ∀ phase : EncoderPhase, ∀ after : Pipe, pipe.encoder = phase →
      after.packetizer = pipe.packetizer → after.packetOutput = pipe.packetOutput →
      after.received = pipe.received →
      after.queue = phase.waiting ++ (pipe.frames ++ pipe.feeder.held) →
      (after.encoder.inTail = false → phase.inTail = false) →
      after.encoder.underway = phase.underway →
      (after.encoder.packet = phase.packet ∨ after.encoder.packet = none) →
      Sourced channels received encoded after := by
    rintro _ after rfl packetizer output count queue working underway packet
    exact sourced.downstream packetizer output count (queue ▸ List.Sublist.refl _) working
      (.inl underway) packet
  unfold Pipe.encode
  split
  next phase =>
    split <;> exact silent _ (moves _ _ phase rfl rfl rfl rfl (fun _ => rfl) rfl (.inr rfl))
  next phase =>
    split
    next frame rest queue =>
      refine silent _ (moves _ _ phase rfl rfl rfl ?_ (fun _ => rfl) rfl (.inr rfl))
      rw [queue]
      rfl
    next =>
      split
      · rw [finishTail_silent]
        exact silent _ (sourced.finishTail phase)
      · exact silent _ sourced
  next frame phase =>
    rw [admitFrame_silent]
    exact silent _ (sourced.admitFrame ambient phase)
  next frame offset phase => exact silent _ (sourced.pushRound phase)
  next packet next phase =>
    have underway : pipe.encoder.underway = next := by rw [phase]; rfl
    split
    next => exact silent _ (sourced.resume underway (by rw [phase]; rfl) rfl rfl rfl rfl rfl)
    next => exact silent _ (moves _ _ phase rfl rfl rfl rfl id rfl (.inl rfl))
  next packet next phase =>
    have underway : pipe.encoder.underway = next := by rw [phase]; rfl
    split
    next => exact silent _ (sourced.resume underway (by rw [phase]; rfl) rfl rfl rfl rfl rfl)
    next payload =>
      show Sourced channels received (encoded ++ [pipe.encodedFrame ambient packet payload]) _
      exact sourced.encodes phase rfl rfl rfl rfl rfl rfl rfl rfl rfl
  next frame next phase =>
    have underway : pipe.encoder.underway = next := by rw [phase]; rfl
    split
    next => exact silent _ (sourced.resume underway (by rw [phase]; rfl) rfl rfl rfl rfl rfl)
    next => exact silent _ (moves _ _ phase rfl rfl rfl rfl id rfl (.inl rfl))
  next frame next phase =>
    rw [sendEncoded_silent]
    exact silent _ (sourced.sendEncoded phase)
  next => exact silent _ sourced

/-! ### Whole histories -/

end Steps

theorem of_history {allowed : Ambient → Prop} {first : Pipe} {events : List PipeEvent}
    (initially : Sourced channels [] [] first)
    (history : Pipe.History allowed first pipe events) :
    Sourced channels (receivedIn events) (encodedIn events) pipe := by
  induction history with
  | start => exact initially
  | feed _ ambient _ arrival hypothesis =>
    rw [receivedIn_append, encodedIn_append]
    have silent : ∀ pipe : Pipe, encodedIn (pipe.feed ambient arrival).2 = [] := by
      intro pipe
      unfold Pipe.feed
      split <;> repeat' split
      all_goals rfl
    rw [silent, List.append_nil]
    exact hypothesis.feed ambient arrival
  | encode _ ambient _ codec hypothesis =>
    rw [receivedIn_append, encodedIn_append]
    exact hypothesis.encode ambient codec
  | @receive pipe _ _ hypothesis =>
    unfold Pipe.tryRecv
    split <;> exact hypothesis.upstream rfl rfl rfl rfl (List.Sublist.refl _)
  | count _ counters hypothesis =>
    exact hypothesis.upstream rfl rfl rfl rfl (List.Sublist.refl _)

end Sourced

end Pipe

theorem BusLayout.sourced_pipe (layout : BusLayout) :
    Pipe.Sourced layout.channels [] [] layout.pipe where
  width := rfl
  enumerated := Enumerated.nil
  count := rfl
  queued := List.Sublist.refl _
  tag := rfl
  current _ _ none := nomatch none
  assembling _ partly := absurd rfl partly
  packet _ none := nomatch none
  made _ member := nomatch member

end RelayConnector
