/-
This file drives the packetizer as the encoder thread does and states what becomes
of the samples.

A run is cut into segments at its discards. Inside a segment the packets and the
residual are the segment's own sample stream, cut every twenty milliseconds: they do
not depend on how the stream was divided into frames. Every packet is stamped with
the time of the frame that holds its first sample, moved by that sample's offset.
-/

import RelayConnector.Chunks
import RelayConnector.Packetizer

namespace RelayConnector

open Words Chunks

variable {Sample : Type}

/-! ### The inner loop -/

/-- The loop `while offset < samples.len()` of the encoder thread over one frame. Each round
spends one unit of fuel; `none` means that the fuel ran out before the frame did. -/
def pushFrom (frame : AudioFrame Sample) :
    Nat → PcmPacketizer Sample → Nat →
      Option (PcmPacketizer Sample × List (PcmPacket Sample))
  | 0, packetizer, offset =>
    if offset < frame.samples.length then none else some (packetizer, [])
  | fuel + 1, packetizer, offset =>
    if offset < frame.samples.length then
      let (pushed, copied) :=
        packetizer.push (frame.samples.drop offset) frame.timestampNs offset
      match pushed.completePacket with
      | some (samples, timestampNs) =>
        (pushFrom frame fuel pushed.finishPacket (offset + copied)).map fun (last, packets) =>
          (last, ⟨samples, timestampNs⟩ :: packets)
      | none => pushFrom frame fuel pushed (offset + copied)
    else some (packetizer, [])

/-- Frames taken between two discards, the packets made of them and what was left. -/
structure Segment (Sample : Type) where
  frames : List (AudioFrame Sample)
  packets : List (PcmPacket Sample)
  residual : List Sample

/-- The sample stream of a list of frames. -/
def stream (frames : List (AudioFrame Sample)) : List Sample := frames.flatMap AudioFrame.samples

/-- A run of the encoder thread over the packetizer. `frames` and `packets` belong to the
segment under way; the two totals are the sums of what `begin_frame` reported. -/
structure Packetized (Sample : Type) where
  packetizer : PcmPacketizer Sample
  frames : List (AudioFrame Sample) := []
  packets : List (PcmPacket Sample) := []
  closed : List (Segment Sample) := []
  discontinuityDiscardedSamples : Nat := 0
  cancelledOutputDiscardedSamples : Nat := 0

namespace Packetized

/-- The run after `begin_frame` reported `boundary`: a real discard closes the segment. -/
def bound (run : Packetized Sample) (packetizer : PcmPacketizer Sample)
    (boundary : PcmPacketizerBegin) : Packetized Sample :=
  let counted :=
    { run with
      packetizer := packetizer
      discontinuityDiscardedSamples :=
        run.discontinuityDiscardedSamples + boundary.discontinuityDiscardedSamples
      cancelledOutputDiscardedSamples :=
        run.cancelledOutputDiscardedSamples + boundary.cancelledOutputDiscardedSamples }
  if 0 < boundary.discontinuityDiscardedSamples + boundary.cancelledOutputDiscardedSamples then
    { counted with
      frames := []
      packets := []
      closed := run.closed ++ [⟨run.frames, run.packets, run.packetizer.residual⟩] }
  else counted

/-- One frame through the loop: a misaligned frame is skipped. -/
def accept (run : Packetized Sample) (frame : AudioFrame Sample) :
    Option (Packetized Sample) :=
  match run.packetizer.beginFrame frame.sequenceNumber frame.samples.length
      frame.outputGeneration with
  | .error _ => some run
  | .ok (packetizer, boundary) =>
    let started := run.bound packetizer boundary
    (pushFrom frame frame.samples.length started.packetizer 0).map fun (last, packets) =>
      { started with
        packetizer := last
        frames := started.frames ++ [frame]
        packets := started.packets ++ packets }

/-- All frames, in order. -/
def acceptAll : Packetized Sample → List (AudioFrame Sample) → Option (Packetized Sample)
  | run, [] => some run
  | run, frame :: rest => (run.accept frame).bind fun next => acceptAll next rest

/-- The segments of a run, the one under way last. -/
def segments (run : Packetized Sample) : List (Segment Sample) :=
  run.closed ++ [⟨run.frames, run.packets, run.packetizer.residual⟩]

end Packetized

/-- The encoder thread's packetizing of a whole sequence of frames. -/
def packetize [Zero Sample] (channels : Nat) (frames : List (AudioFrame Sample)) :
    Option (Packetized Sample) :=
  match PcmPacketizer.new 48000 channels with
  | .error _ => none
  | .ok packetizer => Packetized.acceptAll { packetizer := packetizer } frames

/-! ### What one push does -/

namespace PcmPacketizer

variable (packetizer : PcmPacketizer Sample) (input : List Sample) (timestamp offset : Nat)

theorem length_residual : packetizer.residual.length = packetizer.written := by
  have bounded := packetizer.packetSamples_le
  have cursor := packetizer.within
  rw [residual, List.length_take]
  omega

/-- The copied range lies inside the packet, and the packet inside the buffer. -/
theorem push_within :
    (packetizer.push input timestamp offset).2 ≤ input.length ∧
      packetizer.written + (packetizer.push input timestamp offset).2 ≤
        packetizer.packetSamples ∧
      packetizer.packetSamples ≤ packetizer.samples.length := by
  have cursor := packetizer.within
  refine ⟨?_, ?_, packetizer.packetSamples_le⟩
  · simp only [push]
    omega
  · simp only [push]
    omega

theorem push_residual :
    (packetizer.push input timestamp offset).1.residual =
      packetizer.residual ++ input.take (packetizer.push input timestamp offset).2 := by
  have bounded := packetizer.packetSamples_le
  have cursor := packetizer.within
  have copied := packetizer.push_within input timestamp offset
  simp only [push] at copied
  simp only [push, residual, copyFromSlice]
  rw [List.take_append_of_le_length (by simp; omega)]
  refine List.take_of_length_le ?_
  simp only [List.length_append, List.length_take]
  omega

/-- A packet that is not complete has room, so a push copies something. -/
theorem push_progress {packetizer : PcmPacketizer Sample} {input : List Sample}
    {timestamp offset : Nat} (nonempty : input ≠ [])
    (unfinished : packetizer.completePacket = none) :
    0 < (packetizer.push input timestamp offset).2 := by
  have cursor := packetizer.within
  have some := List.length_pos_iff.mpr nonempty
  have room : packetizer.written ≠ packetizer.packetSamples := by
    intro full
    simp [completePacket, full] at unfinished
  simp only [push]
  omega

theorem completePacket_eq_residual (full : packetizer.written = packetizer.packetSamples) :
    packetizer.completePacket = some (packetizer.residual, packetizer.packetTimestampNs) := by
  rw [completePacket, if_pos full, residual, full]

end PcmPacketizer

/-! ### What a segment satisfies -/

/-- `timestampNs` is the time of the sample at `index` of the stream of `frames`: the time of
the frame that holds it, moved by its offset there, which is on a channel boundary. -/
def StampedAt (channels : Nat) (frames : List (AudioFrame Sample)) (index timestampNs : Nat) :
    Prop :=
  ∃ before frame after offset, frames = before ++ frame :: after ∧
    index = (stream before).length + offset ∧ offset < frame.samples.length ∧
    offset % channels = 0 ∧
    timestampNs = saturatingAdd frame.timestampNs (offsetNs (offset / channels))

variable {frames : List (AudioFrame Sample)} {packetizer : PcmPacketizer Sample}

theorem StampedAt.append {channels index timestampNs : Nat}
    (stamped : StampedAt channels frames index timestampNs) (more : List (AudioFrame Sample)) :
    StampedAt channels (frames ++ more) index timestampNs := by
  obtain ⟨before, frame, after, offset, split, place⟩ := stamped
  exact ⟨before, frame, after ++ more, offset, by simp [split], place⟩

/-- The number of interleaved samples of one packet. -/
def packetSize (channels : Nat) : Nat := opusFrameSamples * channels

theorem stream_append (left right : List (AudioFrame Sample)) :
    stream (left ++ right) = stream left ++ stream right := List.flatMap_append

theorem stream_singleton (frame : AudioFrame Sample) : stream [frame] = frame.samples := by
  simp [stream]

/-- The frames of a segment are aligned, so is their stream. -/
theorem length_stream_mod {channels : Nat}
    (aligned : ∀ frame ∈ frames, frame.samples.length % channels = 0) :
    (stream frames).length % channels = 0 := by
  induction frames with
  | nil => simp [stream]
  | cons frame rest hypothesis =>
    have tail := hypothesis fun other member =>
      aligned other (List.mem_cons_of_mem _ member)
    have head := aligned frame List.mem_cons_self
    have split : stream (frame :: rest) = frame.samples ++ stream rest := rfl
    rw [split, List.length_append, Nat.add_mod, head, tail, Nat.zero_mod]

/-- The packetizer in the middle of a segment: `taken` is the part of the segment's stream that
has been pushed. -/
structure Assembling (packetizer : PcmPacketizer Sample) (frames : List (AudioFrame Sample))
    (taken : List Sample) (packets : List (PcmPacket Sample)) : Prop where
  whole : (packets.map PcmPacket.samples).flatten ++ packetizer.residual = taken
  full : ∀ packet ∈ packets, packet.samples.length = packetizer.packetSamples
  unfilled : packetizer.written < packetizer.packetSamples
  stamped : ∀ index packet, packets[index]? = some packet →
    StampedAt packetizer.channels frames (index * packetizer.packetSamples) packet.timestampNs
  pending : 0 < packetizer.written →
    StampedAt packetizer.channels frames (packets.length * packetizer.packetSamples)
      packetizer.packetTimestampNs

namespace Assembling

variable {packetizer : PcmPacketizer Sample} {frames : List (AudioFrame Sample)}
  {taken : List Sample} {packets : List (PcmPacket Sample)}

theorem length_taken (assembling : Assembling packetizer frames taken packets) :
    taken.length = packets.length * packetizer.packetSamples + packetizer.written := by
  have flat : (packets.map PcmPacket.samples).flatten.length =
      (packets.map PcmPacket.samples).length * packetizer.packetSamples :=
    length_flatten_of_forall fun samples member => by
      obtain ⟨packet, inPackets, rfl⟩ := List.mem_map.mp member
      exact assembling.full packet inPackets
  rw [← assembling.whole, List.length_append, flat, List.length_map, packetizer.length_residual]

/-- More frames behind the ones taken change no stamp. -/
theorem extend (assembling : Assembling packetizer frames taken packets)
    (more : List (AudioFrame Sample)) : Assembling packetizer (frames ++ more) taken packets where
  whole := assembling.whole
  full := assembling.full
  unfilled := assembling.unfilled
  stamped index packet found := (assembling.stamped index packet found).append more
  pending partly := (assembling.pending partly).append more

section Push

variable {before : List (AudioFrame Sample)} {frame : AudioFrame Sample} {offset : Nat}
  (aligned : ∀ other ∈ before, other.samples.length % packetizer.channels = 0)
  (assembling : Assembling packetizer (before ++ [frame])
    (stream before ++ frame.samples.take offset) packets)

include assembling in
/-- The whole frame has been pushed. -/
theorem of_all (all : offset = frame.samples.length) :
    Assembling packetizer (before ++ [frame]) (stream (before ++ [frame])) packets := by
  rw [stream_append, stream_singleton]
  rwa [all, List.take_length] at assembling

variable (inside : offset < frame.samples.length)

include aligned assembling inside

/-- A push that starts a packet stamps it with the sample it starts at; any other push leaves
the stamp of the packet's first sample. -/
theorem push_stamped (input : List Sample) :
    StampedAt packetizer.channels (before ++ [frame])
      (packets.length * packetizer.packetSamples)
      (packetizer.push input frame.timestampNs offset).1.packetTimestampNs := by
  simp only [PcmPacketizer.push]
  split
  next empty =>
    have taken := assembling.length_taken
    rw [List.length_append, List.length_take, empty, Nat.add_zero,
      min_eq_left (le_of_lt inside)] at taken
    have front := length_stream_mod aligned
    have packet : packets.length * packetizer.packetSamples % packetizer.channels = 0 := by
      rw [packetizer.sized, ← Nat.mul_assoc, Nat.mul_mod_left]
    rw [← taken, Nat.add_mod, front, Nat.zero_add, Nat.mod_mod] at packet
    exact ⟨before, frame, [], offset, rfl, taken.symm, inside, packet, rfl⟩
  next partly => exact assembling.pending (Nat.pos_of_ne_zero partly)

/-- One round of the inner loop that leaves the packet unfilled. -/
theorem push {pushed : PcmPacketizer Sample} {copied : Nat}
    (run : packetizer.push (frame.samples.drop offset) frame.timestampNs offset =
      (pushed, copied)) (unfilled : pushed.written < pushed.packetSamples) :
    Assembling pushed (before ++ [frame])
      (stream before ++ frame.samples.take (offset + copied)) packets := by
  have residual := packetizer.push_residual (frame.samples.drop offset) frame.timestampNs offset
  have stamp := push_stamped aligned assembling inside (frame.samples.drop offset)
  rw [run] at residual stamp
  obtain rfl : pushed = _ := (congrArg Prod.fst run).symm
  refine ⟨?_, assembling.full, unfilled, assembling.stamped, fun _ => stamp⟩
  rw [residual, ← List.append_assoc, assembling.whole, List.append_assoc, ← List.take_add]

/-- One round of the inner loop that fills the packet and finishes it. -/
theorem complete {pushed : PcmPacketizer Sample} {copied : Nat}
    (run : packetizer.push (frame.samples.drop offset) frame.timestampNs offset =
      (pushed, copied)) (full : pushed.written = pushed.packetSamples) :
    Assembling pushed.finishPacket (before ++ [frame])
      (stream before ++ frame.samples.take (offset + copied))
      (packets ++ [⟨pushed.residual, pushed.packetTimestampNs⟩]) := by
  have residual := packetizer.push_residual (frame.samples.drop offset) frame.timestampNs offset
  have stamp := push_stamped aligned assembling inside (frame.samples.drop offset)
  have length := pushed.length_residual
  rw [run] at residual stamp
  obtain rfl : pushed = _ := (congrArg Prod.fst run).symm
  refine ⟨?_, ?_, PcmPacketizer.packetSamples_pos _, ?_,
    fun partly => absurd partly (by simp [PcmPacketizer.finishPacket])⟩
  · have empty : ∀ done : PcmPacketizer Sample, done.finishPacket.residual = [] := fun _ => rfl
    rw [empty, List.append_nil, List.map_append, List.flatten_append, List.map_singleton,
      List.flatten_singleton, residual, ← List.append_assoc, assembling.whole,
      List.append_assoc, ← List.take_add]
  · intro packet member
    rcases List.mem_append.mp member with earlier | last
    · exact assembling.full packet earlier
    · rw [List.mem_singleton.mp last]
      exact length.trans full
  · intro index packet found
    rcases Nat.lt_or_ge index packets.length with earlier | last
    · rw [List.getElem?_append_left earlier] at found
      exact assembling.stamped index packet found
    · rw [List.getElem?_append_right last] at found
      obtain ⟨same, rfl⟩ : index - packets.length = 0 ∧ packet = _ := by
        cases position : index - packets.length with
        | zero =>
          rw [position] at found
          exact ⟨rfl, (Option.some.inj found).symm⟩
        | succ _ =>
          rw [position] at found
          simp at found
      obtain rfl : index = packets.length := by omega
      exact stamp

end Push

end Assembling

/-- The inner loop takes the whole frame within as many rounds as the frame has samples: every
round copies at least one. -/
theorem pushFrom_assembles (before : List (AudioFrame Sample)) (frame : AudioFrame Sample)
    (fuel offset : Nat) (packetizer : PcmPacketizer Sample) (packets : List (PcmPacket Sample))
    (aligned : ∀ other ∈ before, other.samples.length % packetizer.channels = 0)
    (assembling : Assembling packetizer (before ++ [frame])
      (stream before ++ frame.samples.take offset) packets)
    (inside : offset ≤ frame.samples.length) (enough : frame.samples.length ≤ offset + fuel) :
    ∃ last added, pushFrom frame fuel packetizer offset = some (last, added) ∧
      last.channels = packetizer.channels ∧
      Assembling last (before ++ [frame]) (stream (before ++ [frame])) (packets ++ added) := by
  induction fuel generalizing offset packetizer packets with
  | zero =>
    have all : offset = frame.samples.length := by omega
    refine ⟨packetizer, [], ?_, rfl, by simpa using assembling.of_all all⟩
    simp [pushFrom, all]
  | succ fuel hypothesis =>
    by_cases more : offset < frame.samples.length
    · rcases run : packetizer.push (frame.samples.drop offset) frame.timestampNs offset with
        ⟨pushed, copied⟩
      have progress : 0 < copied ∧ offset + copied ≤ frame.samples.length := by
        have room := assembling.unfilled
        have result := congrArg Prod.snd run
        simp only [PcmPacketizer.push, List.length_drop] at result
        omega
      have channels : pushed.channels = packetizer.channels :=
        (congrArg (fun result => result.1.channels) run).symm
      rw [← channels] at aligned
      rcases Nat.lt_or_eq_of_le pushed.within with unfilled | full
      · have next := Assembling.push (by rwa [← channels]) assembling more run unfilled
        obtain ⟨last, added, ends, same, assembled⟩ :=
          hypothesis (offset + copied) pushed packets aligned next progress.2 (by omega)
        refine ⟨last, added, ?_, same.trans channels, assembled⟩
        rw [pushFrom, if_pos more, run]
        simp only [PcmPacketizer.completePacket, if_neg (Nat.ne_of_lt unfilled)]
        exact ends
      · have next := Assembling.complete (by rwa [← channels]) assembling more run full
        obtain ⟨last, added, ends, same, assembled⟩ :=
          hypothesis (offset + copied) pushed.finishPacket _ aligned next progress.2 (by omega)
        refine ⟨last, ⟨pushed.residual, pushed.packetTimestampNs⟩ :: added, ?_,
          same.trans channels, by simpa using assembled⟩
        rw [pushFrom, if_pos more, run]
        simp only [pushed.completePacket_eq_residual full, ends, Option.map_some]
    · have all : offset = frame.samples.length := by omega
      refine ⟨packetizer, [], ?_, rfl, by simpa using assembling.of_all all⟩
      rw [pushFrom, if_neg more]

/-! ### Whole runs -/

/-- What a segment is worth: its packets and its residual are its own stream cut every
`packetSize` samples, and every packet carries the time of its first sample. -/
structure Segment.Sound (channels : Nat) (segment : Segment Sample) : Prop where
  whole : (segment.packets.map PcmPacket.samples).flatten ++ segment.residual =
    stream segment.frames
  cut : segment.packets.map PcmPacket.samples =
    chunks (packetSize channels) (stream segment.frames)
  rest : segment.residual = remainder (packetSize channels) (stream segment.frames)
  full : ∀ packet ∈ segment.packets, packet.samples.length = packetSize channels
  stamped : ∀ index packet, segment.packets[index]? = some packet →
    StampedAt channels segment.frames (index * packetSize channels) packet.timestampNs

theorem Assembling.sound {packets : List (PcmPacket Sample)}
    (assembling : Assembling packetizer frames (stream frames) packets) :
    Segment.Sound packetizer.channels ⟨frames, packets, packetizer.residual⟩ := by
  have size : packetizer.packetSamples = packetSize packetizer.channels := packetizer.sized
  have full : ∀ samples ∈ packets.map PcmPacket.samples,
      samples.length = packetSize packetizer.channels := by
    intro samples member
    obtain ⟨packet, inPackets, rfl⟩ := List.mem_map.mp member
    exact (assembling.full packet inPackets).trans size
  have short : packetizer.residual.length < packetSize packetizer.channels := by
    rw [packetizer.length_residual, ← size]
    exact assembling.unfilled
  have unique := chunks_unique full short assembling.whole
  refine ⟨assembling.whole, unique.1, unique.2, ?_, ?_⟩
  · rw [← size]
    exact assembling.full
  · rw [← size]
    exact assembling.stamped

/-- Only the samples under assembly and their time matter to what comes next. -/
theorem Assembling.carry {next : PcmPacketizer Sample} {taken : List Sample}
    {packets : List (PcmPacket Sample)} (assembling : Assembling packetizer frames taken packets)
    (channels : next.channels = packetizer.channels)
    (residual : next.residual = packetizer.residual) (written : next.written = packetizer.written)
    (time : 0 < packetizer.written → next.packetTimestampNs = packetizer.packetTimestampNs) :
    Assembling next frames taken packets := by
  have size : next.packetSamples = packetizer.packetSamples := by
    rw [next.sized, packetizer.sized, channels]
  refine ⟨?_, ?_, ?_, ?_, ?_⟩
  · rw [residual]
    exact assembling.whole
  · rw [size]
    exact assembling.full
  · rw [written, size]
    exact assembling.unfilled
  · rw [size, channels]
    exact assembling.stamped
  · intro partly
    rw [written] at partly
    rw [size, channels, time partly]
    exact assembling.pending partly

/-- A packetizer that holds nothing starts a segment. -/
theorem Assembling.start (empty : packetizer.written = 0) :
    Assembling packetizer [] [] [] where
  whole := by simp [PcmPacketizer.residual, empty]
  full := by simp
  unfilled := by rw [empty]; exact packetizer.packetSamples_pos
  stamped := by simp
  pending partly := absurd empty (Nat.ne_of_gt partly)

/-- What `begin_frame` removed. -/
def PcmPacketizerBegin.discarded (boundary : PcmPacketizerBegin) : Nat :=
  boundary.discontinuityDiscardedSamples + boundary.cancelledOutputDiscardedSamples

namespace PcmPacketizer

/-- An aligned frame either keeps the samples under assembly or discards all of them, and then
reports each of them exactly once. -/
theorem beginFrame_aligned (packetizer : PcmPacketizer Sample)
    (sequenceNumber : Nat) {sampleCount : Nat} (outputGenerationId : Option Nat)
    (aligned : sampleCount % packetizer.channels = 0) :
    ∃ next boundary,
      packetizer.beginFrame sequenceNumber sampleCount outputGenerationId = .ok (next, boundary) ∧
      next.channels = packetizer.channels ∧
      ((boundary.discarded = 0 ∧ next.residual = packetizer.residual ∧
          next.written = packetizer.written ∧
          (0 < packetizer.written → next.packetTimestampNs = packetizer.packetTimestampNs)) ∨
        (0 < boundary.discarded ∧ boundary.discarded = packetizer.written ∧ next.written = 0)) := by
  rw [beginFrame, if_neg (not_not.mpr aligned)]
  generalize packetizer.expectedSequenceNumber.any (· != sequenceNumber) = sequenceChanged
  generalize (decide (0 < packetizer.written) &&
    packetizer.outputGenerationId != outputGenerationId) = outputChanged
  -- the report names the samples removed under one of its two heads, whichever applies
  have removed : ∀ boundary : PcmPacketizerBegin, boundary.discarded = packetizer.written →
      ∀ next : PcmPacketizer Sample, next.written = 0 →
      (boundary.discarded = 0 ∧ next.residual = packetizer.residual ∧
          next.written = packetizer.written ∧
          (0 < packetizer.written → next.packetTimestampNs = packetizer.packetTimestampNs)) ∨
        (0 < boundary.discarded ∧ boundary.discarded = packetizer.written ∧ next.written = 0) := by
    intro boundary total next cleared
    rcases Nat.eq_zero_or_pos packetizer.written with empty | partly
    · refine .inl ⟨total.trans empty, ?_, cleared.trans empty.symm, ?_⟩
      · rw [residual, residual, cleared, empty, List.take_zero, List.take_zero]
      · exact fun partly => absurd empty (Nat.ne_of_gt partly)
    · exact .inr ⟨total ▸ partly, total, cleared⟩
  cases sequenceChanged <;> cases outputChanged
  · exact ⟨_, _, rfl, rfl, .inl ⟨rfl, rfl, rfl, fun _ => rfl⟩⟩
  · exact ⟨_, _, rfl, rfl, removed _ (Nat.zero_add _) _ rfl⟩
  · exact ⟨_, _, rfl, rfl, removed _ (Nat.add_zero _) _ rfl⟩
  · exact ⟨_, _, rfl, rfl, removed _ (Nat.zero_add _) _ rfl⟩

theorem beginFrame_misaligned (packetizer : PcmPacketizer Sample)
    (sequenceNumber : Nat) {sampleCount : Nat} (outputGenerationId : Option Nat)
    (misaligned : sampleCount % packetizer.channels ≠ 0) :
    packetizer.beginFrame sequenceNumber sampleCount outputGenerationId =
      .error (.misalignedInput sampleCount packetizer.channels) := by
  rw [beginFrame, if_pos misaligned]

end PcmPacketizer

/-- The frames whose samples come in whole channel groups: the ones `begin_frame` accepts. -/
def acceptedFrames (channels : Nat) (frames : List (AudioFrame Sample)) :
    List (AudioFrame Sample) :=
  frames.filter fun frame => frame.samples.length % channels == 0

/-- The invariant of a run that has been given `taken`. -/
structure Packetized.Accounted (channels : Nat) (taken : List (AudioFrame Sample))
    (run : Packetized Sample) : Prop where
  layout : run.packetizer.channels = channels
  accepted : run.closed.flatMap Segment.frames ++ run.frames = acceptedFrames channels taken
  closed : ∀ segment ∈ run.closed, segment.Sound channels
  current : Assembling run.packetizer run.frames (stream run.frames) run.packets
  discards : (run.closed.map fun segment => segment.residual.length).sum =
    run.discontinuityDiscardedSamples + run.cancelledOutputDiscardedSamples

namespace Packetized

variable {channels : Nat} {taken : List (AudioFrame Sample)} {run : Packetized Sample}

theorem acceptedFrames_snoc (channels : Nat) (taken : List (AudioFrame Sample))
    (frame : AudioFrame Sample) :
    acceptedFrames channels (taken ++ [frame]) =
      acceptedFrames channels taken ++
        if frame.samples.length % channels = 0 then [frame] else [] := by
  rw [acceptedFrames, List.filter_append, ← acceptedFrames]
  split <;> simp [*]

section Accounted

variable (accounted : run.Accounted channels taken)

include accounted

theorem Accounted.aligned : ∀ frame ∈ run.frames, frame.samples.length % channels = 0 := by
  intro frame member
  have accepted : frame ∈ acceptedFrames channels taken := by
    rw [← accounted.accepted]
    exact List.mem_append_right _ member
  simpa using (List.mem_filter.mp accepted).2

/-- `begin_frame` for an aligned frame keeps the account: a discard closes the segment whose
residual it removes. -/
theorem Accounted.bound
    {frame : AudioFrame Sample} (aligned : frame.samples.length % channels = 0) :
    ∃ next boundary, run.packetizer.beginFrame frame.sequenceNumber frame.samples.length
        frame.outputGeneration = .ok (next, boundary) ∧
      (run.bound next boundary).Accounted channels taken := by
  obtain ⟨next, boundary, begins, same, kept | discarded⟩ :=
    run.packetizer.beginFrame_aligned frame.sequenceNumber frame.outputGeneration
      (accounted.layout.symm ▸ aligned)
  · obtain ⟨none, residual, written, time⟩ := kept
    have total : ¬0 < boundary.discontinuityDiscardedSamples +
        boundary.cancelledOutputDiscardedSamples := Nat.not_lt.mpr (Nat.le_of_eq none)
    refine ⟨next, boundary, begins, ?_⟩
    simp only [Packetized.bound, if_neg total]
    refine ⟨same.trans accounted.layout, accounted.accepted, accounted.closed,
      accounted.current.carry same residual written time, ?_⟩
    have before := accounted.discards
    simp only [PcmPacketizerBegin.discarded] at none
    simp only
    omega
  · obtain ⟨positive, all, cleared⟩ := discarded
    have total : 0 < boundary.discontinuityDiscardedSamples +
        boundary.cancelledOutputDiscardedSamples := positive
    refine ⟨next, boundary, begins, ?_⟩
    simp only [Packetized.bound, if_pos total]
    refine ⟨same.trans accounted.layout, ?_, ?_, Assembling.start cleared, ?_⟩
    · simpa [List.flatMap_append] using accounted.accepted
    · intro segment member
      rcases List.mem_append.mp member with earlier | last
      · exact accounted.closed segment earlier
      · rw [List.mem_singleton.mp last, ← accounted.layout]
        exact accounted.current.sound
    · have before := accounted.discards
      simp only [PcmPacketizerBegin.discarded] at all
      simp only [List.map_append, List.sum_append, List.map_singleton, List.sum_singleton,
        PcmPacketizer.length_residual]
      omega

/-- One frame: skipped if misaligned, else taken whole. -/
theorem Accounted.accept (frame : AudioFrame Sample) :
    ∃ next, run.accept frame = some next ∧ next.Accounted channels (taken ++ [frame]) := by
  by_cases aligned : frame.samples.length % channels = 0
  · obtain ⟨packetizer, boundary, begins, bounded⟩ := accounted.bound aligned
    obtain ⟨last, added, ends, layout, assembled⟩ :=
      pushFrom_assembles (run.bound packetizer boundary).frames frame
        frame.samples.length 0 (run.bound packetizer boundary).packetizer
        (run.bound packetizer boundary).packets
        (by rw [bounded.layout]; exact bounded.aligned)
        (by simpa using bounded.current.extend [frame]) (Nat.zero_le _) (by omega)
    refine ⟨_, by rw [Packetized.accept, begins]; simp only [ends]; rfl, ?_⟩
    refine ⟨layout.trans bounded.layout, ?_, bounded.closed, assembled, bounded.discards⟩
    rw [acceptedFrames_snoc, if_pos aligned, ← bounded.accepted, List.append_assoc]
  · have refused := run.packetizer.beginFrame_misaligned frame.sequenceNumber
      frame.outputGeneration (accounted.layout.symm ▸ aligned)
    refine ⟨run, by rw [Packetized.accept, refused], ?_⟩
    refine { accounted with accepted := ?_ }
    rw [acceptedFrames_snoc, if_neg aligned, List.append_nil, accounted.accepted]

/-- All frames, by induction along the list: no frame stalls the loop. -/
theorem Accounted.acceptAll (frames : List (AudioFrame Sample)) :
    ∃ last, run.acceptAll frames = some last ∧ last.Accounted channels (taken ++ frames) := by
  induction frames generalizing run taken with
  | nil => exact ⟨run, rfl, by rwa [List.append_nil]⟩
  | cons frame rest hypothesis =>
    obtain ⟨next, step, kept⟩ := accounted.accept frame
    obtain ⟨last, ends, final⟩ := hypothesis kept
    refine ⟨last, ?_, by rwa [List.append_assoc] at final⟩
    rw [Packetized.acceptAll, step, Option.bind_some]
    exact ends

end Accounted

/-- The samples of a run's packets. -/
def packetedSamples (run : Packetized Sample) : Nat :=
  (run.segments.map fun segment =>
    ((segment.packets.map PcmPacket.samples).flatten).length).sum

theorem Accounted.segments_sound (accounted : run.Accounted channels taken) :
    ∀ segment ∈ run.segments, segment.Sound channels := by
  intro segment member
  rcases List.mem_append.mp member with earlier | last
  · exact accounted.closed segment earlier
  · rw [List.mem_singleton.mp last, ← accounted.layout]
    exact accounted.current.sound

theorem Accounted.segments_frames (accounted : run.Accounted channels taken) :
    run.segments.flatMap Segment.frames = acceptedFrames channels taken := by
  rw [← accounted.accepted, segments, List.flatMap_append]
  simp

/-- A sound segment's stream is as long as its packets and its residual. -/
theorem length_stream_segments {segments : List (Segment Sample)}
    (sound : ∀ segment ∈ segments, segment.Sound channels) :
    (stream (segments.flatMap Segment.frames)).length =
      (segments.map fun segment =>
        ((segment.packets.map PcmPacket.samples).flatten).length).sum +
      (segments.map fun segment => segment.residual.length).sum := by
  induction segments with
  | nil => rfl
  | cons segment rest hypothesis =>
    have tail := hypothesis fun other member =>
      sound other (List.mem_cons_of_mem _ member)
    have head := (sound segment List.mem_cons_self).whole
    rw [List.flatMap_cons, stream_append, List.length_append, ← head, tail, List.length_append]
    simp only [List.map_cons, List.sum_cons]
    omega

/-- Every accepted sample is in a packet, in one of the two reported totals or still held. -/
theorem Accounted.conserved (accounted : run.Accounted channels taken) :
    (stream (acceptedFrames channels taken)).length =
      run.packetedSamples + run.discontinuityDiscardedSamples +
        run.cancelledOutputDiscardedSamples + run.packetizer.residual.length := by
  have discards := accounted.discards
  rw [← accounted.segments_frames, length_stream_segments accounted.segments_sound, packetedSamples]
  simp only [segments, List.map_append, List.sum_append, List.map_singleton, List.sum_singleton]
  omega

end Packetized

/-- A packetizer that has taken nothing accounts for nothing. -/
theorem packetize_starts (Sample : Type) [Zero Sample] {channels : Nat}
    (supported : channels = 1 ∨ channels = 2) :
    ∃ packetizer : PcmPacketizer Sample, PcmPacketizer.new 48000 channels = .ok packetizer ∧
      Packetized.Accounted channels [] { packetizer := packetizer } := by
  refine ⟨_, by rw [PcmPacketizer.new, if_neg (by simp), dif_pos supported], ?_⟩
  exact ⟨rfl, rfl, by simp, Assembling.start rfl, rfl⟩

/-- The encoder thread takes any sequence of frames to the end. Between two discards the packets
and the residual are the accepted stream cut every `960 * channels` samples, however it was
divided into frames; every packet starts on a channel boundary and carries the time of its first
sample, in the saturating arithmetic of the source; every accepted sample is accounted for once;
and no push ever leaves the input or the buffer, or copies nothing while there is input. -/
theorem packetize_frames [Zero Sample] (channels : Nat) (supported : channels = 1 ∨ channels = 2)
    (frames : List (AudioFrame Sample)) :
    ∃ run, packetize channels frames = some run ∧
      run.segments.flatMap Segment.frames = acceptedFrames channels frames ∧
      (∀ segment ∈ run.segments, segment.Sound channels) ∧
      (stream (acceptedFrames channels frames)).length =
        run.packetedSamples + run.discontinuityDiscardedSamples +
          run.cancelledOutputDiscardedSamples + run.packetizer.residual.length ∧
      (∀ (packetizer : PcmPacketizer Sample) (input : List Sample) (timestampNs offset : Nat),
        (packetizer.push input timestampNs offset).2 ≤ input.length ∧
        packetizer.written + (packetizer.push input timestampNs offset).2 ≤
          packetizer.samples.length ∧
        (input ≠ [] → packetizer.completePacket = none →
          0 < (packetizer.push input timestampNs offset).2)) := by
  obtain ⟨packetizer, starts, fresh⟩ := packetize_starts Sample supported
  obtain ⟨run, ends, accounted⟩ := fresh.acceptAll frames
  rw [List.nil_append] at accounted
  refine ⟨run, by rw [packetize, starts]; exact ends, accounted.segments_frames,
    accounted.segments_sound, accounted.conserved, ?_⟩
  intro packetizer input timestampNs offset
  obtain ⟨copied, room, bounded⟩ := packetizer.push_within input timestampNs offset
  refine ⟨copied, room.trans bounded, fun nonempty unfinished => ?_⟩
  exact PcmPacketizer.push_progress nonempty unfinished

/-- A mono frame of silence. -/
def silentFrame (width sequenceNumber timestampNs : Nat) : AudioFrame Nat where
  samples := List.replicate width 0
  channels := 1
  sequenceNumber := sequenceNumber
  timestampNs := timestampNs
  framed := Nat.one_pos

theorem packetize_frames_two_widths :
    ∃ run, packetize 1 [silentFrame 480 0 0, silentFrame 1440 1 10000000] = some run ∧
      ∀ segment ∈ run.segments, segment.Sound 1 := by
  obtain ⟨run, ends, _, sound, _⟩ := packetize_frames 1 (Or.inl rfl)
    [silentFrame 480 0 0, silentFrame 1440 1 10000000]
  exact ⟨run, ends, sound⟩

/-- The stamp of a packet that starts inside its frame stops at the largest word: the second
packet of this frame starts 20 ms after the frame and carries the frame's own time. -/
theorem packet_stamp_saturates :
    ((packetize 1 [silentFrame 1920 0 (2 ^ 64 - 1)]).bind fun run =>
        run.packets[1]?.map PcmPacket.timestampNs) = some (2 ^ 64 - 1) ∧
      2 ^ 64 - 1 ≠ (silentFrame 1920 0 (2 ^ 64 - 1)).timestampNs + 960 * 1000000000 / 48000 := by
  decide +kernel

end RelayConnector
