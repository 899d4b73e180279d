/-
This file is about output generations: no packet mixes two of them, and a cancelled one
is fenced off from the transport.

What a packet is made of is a matter of the pipe. The fence is a matter of the
publisher: it looks at the generation of a frame once, and a frame that it has found
active is the only one that can still be handed over. The rules of the fence are the
same for both publishers.
-/

import RelayConnector.Provenance
import RelayConnector.Transmission
import RelayConnector.Audit

namespace RelayConnector

open Audit Words Subsequence

/-! ### The rules of the fence -/

/-- A packet that satisfies `counted` is handed to the transport of the bus. -/
def Event.handsOver {Note : Type} (sent : Nat → Note → Option EncodedAudioFrame) (bus : Nat)
    (counted : EncodedAudioFrame → Bool) : Event Note → Bool
  | .note entry => (sent bus entry).any counted
  | _ => false

def EncodedAudioFrame.isOf (generation : Nat) (packet : EncodedAudioFrame) : Bool :=
  packet.outputGeneration == some generation

namespace World

variable {Publisher Note : Type}

/-- How many packets of a generation may have followed its cancellation: none as long as one of
them has been found active and is not yet handed over. -/
def cancellationAllowance (bus generation : Nat) (vetted : Option (Nat × EncodedAudioFrame)) :
    Nat :=
  if (inHandOn bus vetted).any (EncodedAudioFrame.isOf generation) then 0 else 1

theorem cancellationAllowance_le (bus generation : Nat)
    (vetted : Option (Nat × EncodedAudioFrame)) :
    cancellationAllowance bus generation vetted ≤ 1 := by
  unfold cancellationAllowance
  split <;> simp

/-- The fence of a generation on a bus. -/
structure FencesOff (sent : Nat → Note → Option EncodedAudioFrame) (bus generation : Nat)
    (vetted : Option (Nat × EncodedAudioFrame)) (world : World Publisher Note) : Prop where
  known : .outputCancelled generation ∈ world.journal → world.shared.cancelled generation = true
  bounded : AtMostAfter (.outputCancelled generation)
    (Event.handsOver sent bus (EncodedAudioFrame.isOf generation))
    (cancellationAllowance bus generation vetted) world.journal

/-- A cancellation that has completed shows, and stands. -/
theorem cancelled_perform (world : World Publisher Note) {generation : Nat} (action : Action)
    (known : .outputCancelled generation ∈ world.journal →
      world.shared.cancelled generation = true)
    (entered : .outputCancelled generation ∈ (world.perform action).journal) :
    (world.perform action).shared.cancelled generation = true := by
  have older : ∀ entries : List (Event Note), .outputCancelled generation ∉ entries →
      .outputCancelled generation ∈ entries ++ world.journal →
      world.shared.cancelled generation = true :=
    fun entries absent member => known ((List.mem_append.mp member).resolve_left absent)
  cases action with
  | cancelOutput other =>
    by_cases same : generation = other
    · subst same
      exact Function.update_self ..
    · simp only [perform, Shared.perform, Function.update_of_ne same]
      exact older [.outputCancelled other] (by simpa using same) entered
  | control call => exact older _ (by simp) entered
  | feeder bus arrival => exact older _ (by simp) entered
  | encoder bus codec => exact older _ (by simp) entered
  | _ => exact known entered

namespace FencesOff

variable {sent : Nat → Note → Option EncodedAudioFrame} {bus generation : Nat}
  {vetted : Option (Nat × EncodedAudioFrame)} {world after : World Publisher Note}

theorem perform (fences : FencesOff sent bus generation vetted world) (action : Action) :
    FencesOff sent bus generation vetted (world.perform action) where
  known := world.cancelled_perform action fences.known
  bounded := by
    refine fences.bounded.of_append fun event member => ?_
    cases event with
    | note entry => exact absurd member (note_not_mem_perform world.shared action entry)
    | _ => rfl

/-- Nothing is handed over. -/
theorem keep (fences : FencesOff sent bus generation vetted world)
    (cancelled : after.shared.cancelled = world.shared.cancelled) (entries : List Note)
    (journal : after.journal = entries.map .note ++ world.journal)
    (silent : entries.filterMap (sent bus) = []) :
    FencesOff sent bus generation vetted after where
  known member := by
    rw [cancelled]
    exact fences.known (by simpa [journal] using member)
  bounded := by
    rw [journal]
    refine fences.bounded.of_append fun event member => ?_
    obtain ⟨entry, noted, rfl⟩ := List.mem_map.mp member
    rw [Event.handsOver, List.filterMap_eq_nil_iff.mp silent entry noted, Option.any_none]

/-- The packet in hand is dropped, or has not been found active. -/
theorem drop (fences : FencesOff sent bus generation vetted world) :
    FencesOff sent bus generation none world where
  known := fences.known
  bounded := fences.bounded.mono (cancellationAllowance_le bus generation vetted)

theorem settle (fences : FencesOff sent bus generation vetted world)
    (cancelled : after.shared.cancelled = world.shared.cancelled) (entries : List Note)
    (journal : after.journal = entries.map .note ++ world.journal)
    (silent : entries.filterMap (sent bus) = []) : FencesOff sent bus generation none after :=
  (fences.keep cancelled entries journal silent).drop

/-- The generation of a packet is found active: its cancellation has not completed. -/
theorem vet (fences : FencesOff sent bus generation none world) {other : Nat}
    {packet : EncodedAudioFrame}
    (active : world.shared.inactive packet.outputGeneration = false) :
    FencesOff sent bus generation (some (other, packet)) world where
  known := fences.known
  bounded := by
    unfold cancellationAllowance
    split
    next vetted =>
      refine AtMostAfter.of_notMem fun entered => ?_
      obtain ⟨held, member, tag⟩ := List.any_eq_true.mp vetted
      rw [inHandOn] at member
      split at member
      · rw [List.mem_singleton.mp member, EncodedAudioFrame.isOf, beq_iff_eq] at tag
        rw [tag, Ambient.inactive, Option.any_some, fences.known entered] at active
        cases active
      · cases member
    next => exact fences.bounded

/-- The packet in hand is handed over and uses up the allowance that was set aside for it. -/
theorem write {other : Nat} {packet : EncodedAudioFrame} {entry : Note}
    (fences : FencesOff sent bus generation (some (other, packet)) world)
    (sends : sent bus entry = if other = bus then some packet else none) :
    FencesOff sent bus generation none (world.note entry) where
  known member := fences.known (by simpa [World.note] using member)
  bounded := by
    refine fences.bounded.of_cons ?_
    simp only [cancellationAllowance, inHandOn, Event.handsOver, sends]
    by_cases same : other = bus
    · cases tag : packet.isOf generation <;> simp [same, tag]
    · simp [same]

end FencesOff

end World

/-! ### The two publishers -/

/-- The frame that was found active and is not yet handed over. -/
def Phase.vetted : Phase → Option (Nat × EncodedAudioFrame)
  | .wanted bus frame => some (bus, frame)
  | .sending bus frame _ stage => if stage = .written then none else some (bus, frame)
  | _ => none

def RtcPhase.vetted : RtcPhase → Option (Nat × EncodedAudioFrame)
  | .cleared bus frame => some (bus, frame)
  | _ => none

variable {bus generation : Nat}

theorem Step.fencesOff {phase next : Phase} {world after : GatewayWorld}
    (step : Step phase world next after)
    (fences : World.FencesOff GatewayNote.sentOn bus generation phase.vetted world) :
    World.FencesOff GatewayNote.sentOn bus generation next.vetted after := by
  cases step with
  | want _ _ _ active => exact fences.vet active
  | write _ other =>
    refine fences.write ?_
    by_cases same : other = bus <;> simp [GatewayNote.sentOn, GatewayNote.handedOver, same]
  | pack | seeUnrevoked | seeCurrent | seeUnexpired | unguarded => exact fences
  | socket => exact fences.keep rfl [_] rfl rfl
  | install => exact fences.settle rfl [_, _] rfl rfl
  | foundExpired | cancelled | superseded | stale | unencodable | flushed | abandon | pause | ready
    | prepareFails | refuse | late | admitAll | reject | stopRejected | revokedRejected | report =>
    exact fences.settle rfl [_] rfl rfl
  | _ => exact fences.settle rfl [] rfl rfl

theorem RtcStep.fencesOff {Owner : Type} {phase next : RtcPhase} {world after : World Owner RtcNote}
    (step : RtcStep phase world next after)
    (fences : World.FencesOff RtcNote.writtenOn bus generation phase.vetted world) :
    World.FencesOff RtcNote.writtenOn bus generation next.vetted after := by
  cases step with
  | clear _ _ _ active => exact fences.vet active
  | write => exact fences.write rfl
  | own => exact fences.keep rfl [] rfl rfl
  | input | candidate | drained | discard => exact fences.settle rfl [_] rfl rfl
  | receive | countStale | fail => exact fences.settle rfl [] rfl rfl

/-- In every run of the gateway, with and without recovery. -/
theorem Launch.fencesOff {recovery : Option PreparedIngressRecovery} (launch : Launch recovery)
    (schedule : List Turn) (bus generation : Nat) :
    ∃ vetted, World.FencesOff GatewayNote.sentOn bus generation vetted (launch.last schedule) := by
  obtain ⟨phase, reached⟩ := launch.reached schedule
  have quiet : .outputCancelled generation ∉ launch.world.journal := by
    intro member
    obtain ⟨_, _, same⟩ := List.mem_mapIdx.mp member
    cases same
  exact ⟨phase.vetted, reached.invariant
    (motive := fun phase world =>
      World.FencesOff GatewayNote.sentOn bus generation phase.vetted world)
    ⟨fun member => absurd member quiet, AtMostAfter.of_notMem quiet⟩
    (fun _ _ action _ fences => fences.perform action)
    fun _ _ _ _ _ fences step => step.fencesOff fences⟩

/-- In every run of the publishing loop. -/
theorem RtcLaunch.fencesOff (launch : RtcLaunch) (schedule : List RtcTurn) (bus generation : Nat) :
    ∃ vetted, World.FencesOff RtcNote.writtenOn bus generation vetted (launch.last schedule) := by
  obtain ⟨phase, reached⟩ := launch.reached schedule
  exact ⟨phase.vetted, reached.invariant
    (motive := fun phase world =>
      World.FencesOff RtcNote.writtenOn bus generation phase.vetted world)
    ⟨fun member => absurd member List.not_mem_nil, AtMostAfter.of_notMem List.not_mem_nil⟩
    (fun _ _ action fences => fences.perform action)
    fun _ _ _ _ fences step => step.fencesOff fences⟩

/-! ### Packets of one output -/

/-- The packet is cut out of frames that were received under consecutive sequence numbers with one
output generation, the packet's own; behind the last of them there is nothing but padding. -/
def EncodedAudioFrame.OfOneOutput (received : List SourceFrame) (packet : EncodedAudioFrame) :
    Prop :=
  ∃ first rest offset padding, (first :: rest).Sublist received ∧
    (first :: rest).IsChain (fun before after =>
      after.sequenceNumber = before.sequenceNumber + 1) ∧
    (∀ frame ∈ first :: rest, frame.outputGeneration = packet.outputGeneration) ∧
    offset < first.samples.length ∧
    packet.samples <+:
      ((first :: rest).flatMap (·.samples)).drop offset ++ List.replicate padding 0

/-- Some sample of the packet comes from a frame of the generation. -/
def EncodedAudioFrame.holds (received : List SourceFrame) (generation : Nat)
    (packet : EncodedAudioFrame) : Bool :=
  packet.samples.any fun sample => received.any fun frame =>
    sample.origin == some frame.index && frame.outputGeneration == some generation

/-- As long as sequence numbers do not reach the last word, "the next one" is one more. -/
theorem Composed.ofOneOutput {received : List SourceFrame} {channels : Nat}
    {packet : EncodedAudioFrame}
    (composed : Composed received packet.outputGeneration channels packet.captureTimestampNs
      packet.samples)
    (small : ∀ frame ∈ received, frame.sequenceNumber < 2 ^ 64 - 1) :
    packet.OfOneOutput received := by
  obtain ⟨first, rest, stream, padding, listed, drawn, cut⟩ := composed
  obtain ⟨offset, inside, _, content⟩ := drawn.starts
  refine ⟨first, rest, offset, padding, listed, ?_, drawn.together, inside, content ▸ cut⟩
  refine drawn.consecutive.imp_of_mem_imp fun before after member _ follows => ?_
  have fits : before.sequenceNumber + 1 ≤ u64Max :=
    Nat.succ_le_of_lt (small before (listed.subset member))
  rw [follows, saturatingAdd_of_le fits]

/-- A packet that holds a sample of a generation is tagged with it. -/
theorem Composed.isOf_of_holds {received : List SourceFrame} {channels generation : Nat}
    {packet : EncodedAudioFrame} (enumerated : Enumerated SourceFrame.index received)
    (composed : Composed received packet.outputGeneration channels packet.captureTimestampNs
      packet.samples)
    (holds : packet.holds received generation = true) : packet.isOf generation = true := by
  obtain ⟨first, rest, stream, padding, listed, drawn, cut⟩ := composed
  obtain ⟨sample, inPacket, fromFrame⟩ := List.any_eq_true.mp holds
  obtain ⟨frame, member, same⟩ := List.any_eq_true.mp fromFrame
  obtain ⟨origin, tag⟩ := Bool.and_eq_true_iff.mp same
  have origin := beq_iff_eq.mp origin
  obtain ⟨source, inRun, inSource⟩ := drawn.origin (mem_of_cut cut inPacket origin)
  have index : source.index = frame.index :=
    Option.some.inj ((source.tagged sample inSource).symm.trans origin)
  have found := enumerated.getElem_of_mem (listed.subset inRun)
  rw [index, enumerated.getElem_of_mem member] at found
  rw [EncodedAudioFrame.isOf, ← drawn.together source inRun, ← Option.some.inj found]
  exact tag

namespace World

variable {Publisher Note : Type}

/-- The frames that the feeder of a bus has received, oldest first. -/
def receivedOn (bus : Nat) (world : World Publisher Note) : List SourceFrame :=
  receivedIn (pipeEvents bus world.journal)

/-- Counting the packets that hold samples of a generation, not those tagged with it. -/
theorem FencesOff.holding {sent : Nat → Note → Option EncodedAudioFrame} {bus generation : Nat}
    {vetted : Option (Nat × EncodedAudioFrame)} {world : World Publisher Note}
    (fences : FencesOff sent bus generation vetted world)
    (tagged : ∀ packet ∈ world.transmitted (sent bus),
      packet.holds (world.receivedOn bus) generation = true → packet.isOf generation = true) :
    AtMostAfter (.outputCancelled generation)
      (Event.handsOver sent bus (EncodedAudioFrame.holds (world.receivedOn bus) generation)) 1
      world.journal := by
  intro later earlier split
  refine Nat.le_trans (List.countP_mono_left fun event member counted => ?_)
    ((fences.bounded later earlier split).trans (cancellationAllowance_le bus generation vetted))
  cases event with
  | note entry =>
    obtain ⟨packet, handed, holds⟩ := (Option.any_eq_true _ _).mp counted
    rw [Event.handsOver, handed, Option.any_some]
    refine tagged packet (List.mem_filterMap.mpr ⟨entry, ?_, handed⟩) holds
    refine List.mem_reverse.mpr (List.mem_filterMap.mpr ⟨.note entry, ?_, rfl⟩)
    rw [split]
    exact List.mem_append_left _ member
  | _ => cases counted

/-- On this bus no packet mixes outputs, and after the cancellation of a generation at most one
more packet with samples of it is handed to the transport. -/
def KeepsOutputsApart (sent : Nat → Note → Option EncodedAudioFrame) (bus : Nat)
    (world : World Publisher Note) : Prop :=
  (∀ packet ∈ world.encodedOn bus, packet.OfOneOutput (world.receivedOn bus)) ∧
  ∀ generation, AtMostAfter (.outputCancelled generation)
    (Event.handsOver sent bus (EncodedAudioFrame.holds (world.receivedOn bus) generation)) 1
    world.journal

/-- Where everything in the pipe comes from the frames received and every generation is fenced
off, outputs are kept apart. -/
theorem keepsOutputsApart_of {sent : Nat → Note → Option EncodedAudioFrame} {bus channels : Nat}
    {world : World Publisher Note}
    (sourced : Pipe.Sourced channels (world.receivedOn bus) (world.encodedOn bus)
      (world.shared.pipes bus))
    (transmitted : (world.transmitted (sent bus)).Sublist (world.encodedOn bus))
    (fences : ∀ generation, ∃ vetted, FencesOff sent bus generation vetted world)
    (small : ∀ frame ∈ world.receivedOn bus, frame.sequenceNumber < 2 ^ 64 - 1) :
    KeepsOutputsApart sent bus world := by
  refine ⟨fun packet member => (sourced.made packet member).ofOneOutput small, ?_⟩
  intro generation
  obtain ⟨vetted, fence⟩ := fences generation
  exact fence.holding fun packet member holds =>
    (sourced.made packet (transmitted.subset member)).isOf_of_holds sourced.enumerated holds

end World

/-- In every run of the gateway, with or without recovery, and of the WebRTC publishing loop,
whatever frames are received on a bus and whenever generations are cancelled: a packet is cut out
of frames with consecutive sequence numbers and one output generation, which is its tag; and once
the cancellation of a generation has completed, at most one more packet that holds a sample of it
is handed to the transport of the bus. -/
theorem outputs_kept_apart :
    (∀ (recovery : Option PreparedIngressRecovery) (launch : Launch recovery)
      (schedule : List Turn) (bus : Nat),
      (∀ frame ∈ (launch.last schedule).receivedOn bus, frame.sequenceNumber < 2 ^ 64 - 1) →
      (launch.last schedule).KeepsOutputsApart GatewayNote.sentOn bus) ∧
    ∀ (launch : RtcLaunch) (schedule : List RtcTurn) (bus : Nat),
      (∀ frame ∈ (launch.last schedule).receivedOn bus, frame.sequenceNumber < 2 ^ 64 - 1) →
      (launch.last schedule).KeepsOutputsApart RtcNote.writtenOn bus := by
  constructor
  · intro recovery launch schedule bus small
    obtain ⟨phase, reached⟩ := launch.reached schedule
    have history := reached.histories (fun _ _ _ => trivial)
      (launch.histories_world fun _ => True) bus
    exact World.keepsOutputsApart_of
      (Pipe.Sourced.of_history (launch.lane bus).sourced_pipe history)
      ((launch.transmitted_sublist schedule bus).trans (launch.numbered schedule bus).taken_sublist)
      (launch.fencesOff schedule bus) small
  · intro launch schedule bus small
    have history := launch.histories schedule bus
    exact World.keepsOutputsApart_of
      (Pipe.Sourced.of_history (launch.lane bus).sourced_pipe history)
      ((launch.written_sublist schedule bus).trans
        (Pipe.Numbered.of_history (launch.lane bus).numbered_pipe history).taken_sublist)
      (launch.fencesOff schedule bus) small

/-- A frame of one packet that belongs to output generation 7. -/
def spokenFrame : AudioFrame UInt32 :=
  { capturedSilence 960 0 0 with outputGeneration := some 7, framed := Nat.one_pos }

/-- The generation is cancelled when its packet has been found active and is about to be handed to
`ws.write`. -/
def cancelledInSend : List Turn :=
  { before := List.replicate 5 (.feeder 0 (some spokenFrame)) ++
      List.replicate 8 (.encoder 0 (some [1])) } :: quietTurns 12 ++
    [{ before := [.cancelOutput 7] }]

/-- The same in the publishing loop. -/
def cancelledInWrite : List RtcTurn :=
  let quiet : RtcTurn := { poll := .ok (.timeout 1000000000) }
  List.replicate 11 quiet ++
    { quiet with before := List.replicate 3 (.feeder 0 (some spokenFrame)) ++
        List.replicate 8 (.encoder 0 (some [1])) } :: List.replicate 4 quiet ++
    { quiet with before := [.cancelOutput 7] } :: List.replicate 3 quiet

/-- In both runs the packet follows the cancellation of its generation. -/
theorem outputs_kept_apart_overtaken :
    (((sampleLaunch 1).last cancelledInSend).transmitted (GatewayNote.sentOn 0)).map
        (·.outputGeneration) = [some 7] ∧
      ((sampleLaunch 1).last cancelledInSend).KeepsOutputsApart GatewayNote.sentOn 0 ∧
      ((sampleRtcLaunch.last cancelledInWrite).transmitted (RtcNote.writtenOn 0)).map
        (·.outputGeneration) = [some 7] ∧
      (sampleRtcLaunch.last cancelledInWrite).KeepsOutputsApart RtcNote.writtenOn 0 :=
  ⟨by decide +kernel,
    outputs_kept_apart.1 _ (sampleLaunch 1) cancelledInSend 0 (by decide +kernel),
    by decide +kernel,
    outputs_kept_apart.2 sampleRtcLaunch cancelledInWrite 0 (by decide +kernel)⟩

end RelayConnector
