/-
This file numbers the packets of a bus. The encoder's sample clock advances by one packet
with every packet it encodes and with nothing else, so the packets encoded on a bus can
be numbered in order and each carries its number as its sample time; what leaves the
pipe is a subsequence of them.
-/

import RelayConnector.History
import RelayConnector.Subsequence

namespace RelayConnector

open Words Subsequence

/-! ### What a step does to the output of a pipe -/

/-- The packets encoded in a history, oldest first. -/
def encodedIn (events : List PipeEvent) : List EncodedAudioFrame :=
  events.reverse.filterMap fun
    | .encoded frame => some frame
    | _ => none

theorem encodedIn_append (new events : List PipeEvent) :
    encodedIn (new ++ events) = encodedIn events ++ encodedIn new := by
  simp [encodedIn]

/-- What the encoder can enter. -/
def PipeEvent.ofEncoder : PipeEvent → Bool
  | .received _ | .stamped _ _ => false
  | _ => true

namespace Pipe

/-- The packet between the codec and the channel. -/
def inHand (pipe : Pipe) : Option EncodedAudioFrame :=
  match pipe.encoder with
  | .delivering frame _ => some frame
  | .sending frame _ => some frame
  | _ => none

/-- Everything encoded that has not been dropped: received, queued or in hand. -/
def output (pipe : Pipe) : List EncodedAudioFrame :=
  pipe.taken ++ pipe.encoded ++ pipe.inHand.toList

/-- The encoder neither receives frames nor stamps them. -/
theorem encode_entries (pipe : Pipe) (ambient : Ambient) (codec : Option (List UInt8)) :
    ∀ event ∈ (pipe.encode ambient codec).2, event.ofEncoder = true := by
  unfold encode finishTail admitFrame discarded sendEncoded
  split <;> repeat' split
  all_goals simp [PipeEvent.ofEncoder]

theorem receivedIn_encode (pipe : Pipe) (ambient : Ambient) (codec : Option (List UInt8)) :
    receivedIn (pipe.encode ambient codec).2 = [] := by
  refine List.filterMap_eq_nil_iff.mpr fun event member => ?_
  have own := pipe.encode_entries ambient codec event (List.mem_reverse.mp member)
  cases event <;> first | rfl | cases own

/-- A step encodes nothing and may lose the packet in hand, or it encodes one packet. -/
inductive Progress (before after : Pipe) : List PipeEvent → Prop
  | loses {events : List PipeEvent} (output : after.output.Sublist before.output)
      (count : after.encodedCount = before.encodedCount)
      (clock : after.rtpSampleCount = before.rtpSampleCount) (silent : encodedIn events = []) :
      Progress before after events
  | encodes (frame : EncodedAudioFrame) (output : after.output = before.output ++ [frame])
      (number : frame.number = before.encodedCount)
      (stamp : frame.rtpTime = before.rtpSampleCount)
      (duration : frame.durationSamples = opusFrameSamples)
      (count : after.encodedCount = before.encodedCount + 1)
      (clock : after.rtpSampleCount = saturatingAdd before.rtpSampleCount opusFrameSamples) :
      Progress before after [.encoded frame]

variable {pipe : Pipe}

theorem feed_progress (pipe : Pipe) (ambient : Ambient) (arrival : Option (AudioFrame UInt32)) :
    Progress pipe (pipe.feed ambient arrival).1 (pipe.feed ambient arrival).2 := by
  have same : ∀ after : Pipe, after.taken = pipe.taken → after.encoded = pipe.encoded →
      after.encoder = pipe.encoder → after.output.Sublist pipe.output := by
    intro after taken encoded encoder
    rw [output, inHand, taken, encoded, encoder]
    exact List.Sublist.refl _
  unfold feed
  split
  · split <;> exact .loses (same _ rfl rfl rfl) rfl rfl rfl
  · split <;> exact .loses (same _ rfl rfl rfl) rfl rfl rfl
  · exact .loses (same _ rfl rfl rfl) rfl rfl rfl
  · split <;> exact .loses (same _ rfl rfl rfl) rfl rfl rfl
  · split
    · exact .loses (same _ rfl rfl rfl) rfl rfl rfl
    · split <;> exact .loses (same _ rfl rfl rfl) rfl rfl rfl
  · split <;> exact .loses (same _ rfl rfl rfl) rfl rfl rfl
  · exact .loses (same _ rfl rfl rfl) rfl rfl rfl

theorem tryRecv_progress (pipe : Pipe) : Progress pipe pipe.tryRecv.2 [] := by
  unfold tryRecv
  split
  next frame rest queue =>
    refine .loses ?_ rfl rfl rfl
    simp [output, inHand, queue]
  next => exact .loses (List.Sublist.refl _) rfl rfl rfl

/-- After `encode_and_deliver` no packet is in hand. -/
theorem output_resume (pipe : Pipe) (next : Resume) :
    (pipe.resume next).output = pipe.taken ++ pipe.encoded := by
  cases next <;> simp [resume, output, inHand]

theorem resume_counts (pipe : Pipe) (next : Resume) :
    (pipe.resume next).encodedCount = pipe.encodedCount ∧
      (pipe.resume next).rtpSampleCount = pipe.rtpSampleCount := by
  cases next <;> exact ⟨rfl, rfl⟩

/-- A step into a phase without a packet in hand. -/
theorem progress_of_quiet {after : Pipe} {events : List PipeEvent}
    (taken : after.taken = pipe.taken) (encoded : after.encoded = pipe.encoded)
    (quiet : after.inHand = none) (count : after.encodedCount = pipe.encodedCount)
    (clock : after.rtpSampleCount = pipe.rtpSampleCount) (silent : encodedIn events = []) :
    Progress pipe after events := by
  refine .loses ?_ count clock silent
  rw [output, output, taken, encoded, quiet, Option.toList_none, List.append_nil]
  exact List.sublist_append_left _ _

/-- Leaving `encode_and_deliver` without a delivery loses the packet in hand, if any. -/
theorem progress_resume {after : Pipe} {events : List PipeEvent} (next : Resume)
    (taken : after.taken = pipe.taken) (encoded : after.encoded = pipe.encoded)
    (count : after.encodedCount = pipe.encodedCount)
    (clock : after.rtpSampleCount = pipe.rtpSampleCount) (silent : encodedIn events = []) :
    Progress pipe (after.resume next) events := by
  refine .loses ?_ ((resume_counts after next).1.trans count)
    ((resume_counts after next).2.trans clock) silent
  rw [output_resume, taken, encoded]
  exact List.sublist_append_left _ _

theorem finishTail_progress (pipe : Pipe) : Progress pipe pipe.finishTail.1 pipe.finishTail.2 := by
  unfold finishTail
  split
  next => exact progress_of_quiet rfl rfl rfl rfl rfl rfl
  next padded padding _ =>
    simp only
    split <;> exact progress_of_quiet rfl rfl rfl rfl rfl rfl

theorem discarded_silent (pipe : Pipe) (boundary : PcmPacketizerBegin) :
    encodedIn (pipe.discarded boundary) = [] := by
  unfold discarded
  split
  · rfl
  · split <;> rfl

theorem admitFrame_progress (pipe : Pipe) (ambient : Ambient) (frame : SourceFrame) :
    Progress pipe (pipe.admitFrame ambient frame).1 (pipe.admitFrame ambient frame).2 := by
  unfold admitFrame
  split
  next => exact progress_of_quiet rfl rfl rfl rfl rfl rfl
  next =>
    split
    next => exact progress_of_quiet rfl rfl rfl rfl rfl rfl
    next =>
      split
      next => exact progress_of_quiet rfl rfl rfl rfl rfl rfl
      next => exact progress_of_quiet rfl rfl rfl rfl rfl (discarded_silent _ _)

theorem pushRound_progress (pipe : Pipe) (frame : SourceFrame) (offset : Nat) :
    Progress pipe (pipe.pushRound frame offset) [] := by
  unfold pushRound
  split
  next =>
    simp only
    split <;> exact progress_of_quiet rfl rfl rfl rfl rfl rfl
  next => exact progress_of_quiet rfl rfl rfl rfl rfl rfl

/-- The packet in hand is queued, waits or is dropped. -/
theorem sendEncoded_progress {frame : EncodedAudioFrame} {next : Resume}
    (phase : pipe.encoder = .sending frame next) :
    Progress pipe (pipe.sendEncoded frame next).1 (pipe.sendEncoded frame next).2 := by
  unfold sendEncoded
  split
  next =>
    refine .loses ?_ (resume_counts _ next).1 (resume_counts _ next).2 rfl
    rw [output_resume, output, inHand, phase]
    simp
  next =>
    split
    next => exact .loses (List.Sublist.refl _) rfl rfl rfl
    next => exact progress_resume next rfl rfl rfl rfl rfl

theorem encode_progress (pipe : Pipe) (ambient : Ambient) (codec : Option (List UInt8)) :
    Progress pipe (pipe.encode ambient codec).1 (pipe.encode ambient codec).2 := by
  unfold encode
  split
  next =>
    split <;> exact progress_of_quiet rfl rfl rfl rfl rfl rfl
  next =>
    split
    next => exact progress_of_quiet rfl rfl rfl rfl rfl rfl
    next =>
      by_cases ended : pipe.feeder.ended
      · rw [if_pos ended]
        exact finishTail_progress pipe
      · rw [if_neg ended]
        exact .loses (List.Sublist.refl _) rfl rfl rfl
  next frame _ => exact admitFrame_progress pipe ambient frame
  next frame offset _ => exact pushRound_progress pipe frame offset
  next packet next _ =>
    split
    next => exact progress_resume next rfl rfl rfl rfl rfl
    next => exact progress_of_quiet rfl rfl rfl rfl rfl rfl
  next packet next phase =>
    split
    next => exact progress_resume next rfl rfl rfl rfl rfl
    next payload =>
      refine .encodes _ ?_ rfl rfl rfl rfl rfl
      simp [output, inHand, phase]
  next frame next phase =>
    split
    next => exact progress_resume next rfl rfl rfl rfl rfl
    next =>
      refine .loses ?_ rfl rfl rfl
      simp [output, inHand, phase]
  next frame next phase => exact sendEncoded_progress phase
  next => exact .loses (List.Sublist.refl _) rfl rfl rfl

/-! ### Whole histories -/

/-- The packets encoded so far are numbered from 0 in order, each carries its number on the sample
clock, and the output of the pipe is a subsequence of them. -/
structure Numbered (pipe : Pipe) (events : List PipeEvent) : Prop where
  output : pipe.output.Sublist (encodedIn events)
  enumerated : Enumerated EncodedAudioFrame.number (encodedIn events)
  count : pipe.encodedCount = (encodedIn events).length
  clock : pipe.rtpSampleCount = saturatingMul opusFrameSamples pipe.encodedCount
  stamps : ∀ frame ∈ encodedIn events,
    frame.rtpTime = saturatingMul opusFrameSamples frame.number ∧
      frame.durationSamples = opusFrameSamples

namespace Numbered

variable {after : Pipe} {events new : List PipeEvent}

theorem progress (numbered : pipe.Numbered events) (progress : Progress pipe after new) :
    after.Numbered (new ++ events) := by
  cases progress with
  | loses output count clock silent =>
    have same : encodedIn (new ++ events) = encodedIn events := by
      rw [encodedIn_append, silent, List.append_nil]
    refine ⟨?_, ?_, ?_, ?_, ?_⟩
    · rw [same]
      exact output.trans numbered.output
    · rw [same]
      exact numbered.enumerated
    · rw [same, count]
      exact numbered.count
    · rw [clock, count]
      exact numbered.clock
    · rw [same]
      exact numbered.stamps
  | encodes frame output number stamp duration count clock =>
    have more : encodedIn ([.encoded frame] ++ events) = encodedIn events ++ [frame] :=
      encodedIn_append _ _
    refine ⟨?_, ?_, ?_, ?_, ?_⟩
    · rw [more, output]
      exact numbered.output.append_right [frame]
    · rw [more]
      exact numbered.enumerated.append_singleton (number.trans numbered.count)
    · rw [more, count, List.length_append, numbered.count, List.length_singleton]
    · rw [clock, count, numbered.clock, saturatingAdd_saturatingMul]
    · rw [more]
      intro other member
      rcases List.mem_append.mp member with old | new
      · exact numbered.stamps other old
      · rw [List.mem_singleton.mp new, number, stamp, numbered.clock]
        exact ⟨rfl, duration⟩

/-- Along a whole history. -/
theorem of_history {allowed : Ambient → Prop} {first : Pipe} (initially : first.Numbered [])
    (history : Pipe.History allowed first pipe events) : pipe.Numbered events := by
  induction history with
  | start => exact initially
  | feed _ ambient _ arrival hypothesis =>
    exact hypothesis.progress (feed_progress _ ambient arrival)
  | encode _ ambient _ codec hypothesis =>
    exact hypothesis.progress (encode_progress _ ambient codec)
  | receive _ hypothesis => exact hypothesis.progress (tryRecv_progress _)
  | count _ counters hypothesis =>
    exact ⟨hypothesis.output, hypothesis.enumerated, hypothesis.count,
      hypothesis.clock, hypothesis.stamps⟩

end Numbered

end Pipe

theorem BusLayout.numbered_pipe (layout : BusLayout) : layout.pipe.Numbered [] where
  output := List.Sublist.refl _
  enumerated := Enumerated.nil
  count := rfl
  clock := rfl
  stamps _ member := nomatch member

/-! ### Transmission -/

/-- Exact numbering of the packets encoded on a bus and those transmitted: the number of a packet
is its place in encoding order, its sample time is the number in packets, the numbers transmitted
increase, and a gap between them counts what was not transmitted. -/
structure InOrder (encoded transmitted : List EncodedAudioFrame) : Prop where
  placed : ∀ frame ∈ transmitted, encoded[frame.number]? = some frame
  stamped : ∀ frame ∈ transmitted, frame.rtpTime = opusFrameSamples * frame.number
  increasing : (transmitted.map (·.number)).Pairwise (· < ·)
  gaps : ∀ before first second after, transmitted = before ++ first :: second :: after →
    second.number - first.number - 1 =
      (omitted EncodedAudioFrame.number encoded transmitted first second).length

/-- What was received from the pipe was encoded, in the same order. -/
theorem Pipe.Numbered.taken_sublist {pipe : Pipe} {events : List PipeEvent}
    (numbered : pipe.Numbered events) : pipe.taken.Sublist (encodedIn events) := by
  have taken : pipe.taken.Sublist pipe.output := by
    rw [Pipe.output, List.append_assoc]
    exact List.sublist_append_left _ _
  exact taken.trans numbered.output

theorem Pipe.Numbered.inOrder {pipe : Pipe} {events : List PipeEvent}
    {transmitted : List EncodedAudioFrame} (numbered : pipe.Numbered events)
    (sublist : transmitted.Sublist pipe.taken)
    (fits : opusFrameSamples * (encodedIn events).length < 2 ^ 64) :
    InOrder (encodedIn events) transmitted := by
  have kept : transmitted.Sublist (encodedIn events) := sublist.trans numbered.taken_sublist
  refine ⟨?_, ?_, numbered.enumerated.increasing kept, ?_⟩
  · exact fun frame member => numbered.enumerated.getElem_of_mem (kept.subset member)
  · intro frame member
    have before := numbered.enumerated.number_lt (kept.subset member)
    have small : opusFrameSamples * frame.number ≤ opusFrameSamples * (encodedIn events).length :=
      Nat.mul_le_mul_left _ before.le
    rw [(numbered.stamps frame (kept.subset member)).1]
    exact saturatingMul_of_le (Nat.le_sub_one_of_lt (small.trans_lt fits))
  · exact fun before first second after follows =>
      numbered.enumerated.gap_eq_omitted kept follows

end RelayConnector
