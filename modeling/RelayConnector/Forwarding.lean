/-
This file shows that a publisher transmits frames only as it receives them: at most
once and in the order of the channel.

What is transmitted on a bus, followed by the frame in hand, is a subsequence of what
was received from its pipe. The rules are the same for every publisher; here they are
applied to the lifecycle of the gateway.
-/

import RelayConnector.Launch
import RelayConnector.Numbering

namespace RelayConnector

/-! ### Pipes in the hands of a publisher -/

namespace Pipe

theorem feed_taken (pipe : Pipe) (ambient : Ambient) (arrival : Option (AudioFrame UInt32)) :
    (pipe.feed ambient arrival).1.taken = pipe.taken := by
  unfold feed
  split <;> repeat' split
  all_goals rfl

theorem resume_taken (pipe : Pipe) (next : Resume) : (pipe.resume next).taken = pipe.taken := by
  cases next <;> rfl

theorem encode_taken (pipe : Pipe) (ambient : Ambient) (codec : Option (List UInt8)) :
    (pipe.encode ambient codec).1.taken = pipe.taken := by
  unfold encode admitFrame pushRound sendEncoded finishTail
  simp only
  split <;> repeat' split
  all_goals first | rfl | exact resume_taken _ _

end Pipe

namespace World

variable {Publisher Note : Type}

theorem perform_taken (world : World Publisher Note) (action : Action) (bus : Nat) :
    ((world.perform action).shared.pipes bus).taken = (world.shared.pipes bus).taken :=
  world.perform_bus (motive := fun pipe _ => pipe.taken = _) action bus rfl (Pipe.feed_taken _ _)
    (Pipe.encode_taken _ _)

theorem updatePipe_taken (world : World Publisher Note) {moved : Nat} (change : Pipe → Pipe)
    (keeps : ∀ pipe, (change pipe).taken = pipe.taken) (bus : Nat) :
    ((world.updatePipe moved change).shared.pipes bus).taken = (world.shared.pipes bus).taken := by
  by_cases same : bus = moved
  · subst same
    simp [updatePipe, keeps]
  · simp [updatePipe, same]

theorem handled_updatePipe (world : World Publisher Note) {moved : Nat} {change : Pipe → Pipe}
    (handled : ∀ pipe : Pipe, pipe.Handled (change pipe)) (bus : Nat) :
    (world.shared.pipes bus).Handled ((world.updatePipe moved change).shared.pipes bus) := by
  by_cases same : bus = moved
  · subst same
    simpa [updatePipe] using handled _
  · simpa [updatePipe, same] using .kept

/-! ### Forwarding -/

/-- The packets encoded on a bus, oldest first. -/
def encodedOn (bus : Nat) (world : World Publisher Note) : List EncodedAudioFrame :=
  encodedIn (pipeEvents bus world.journal)

/-- The frame a publisher has in hand, as far as it is one of the bus. -/
def inHandOn (bus : Nat) : Option (Nat × EncodedAudioFrame) → List EncodedAudioFrame
  | some (other, frame) => if other = bus then [frame] else []
  | none => []

/-- On every bus, what was transmitted and what is in hand is a subsequence of what was
received. -/
def Forwards (sent : Nat → Note → Option EncodedAudioFrame)
    (hand : Option (Nat × EncodedAudioFrame)) (world : World Publisher Note) : Prop :=
  ∀ bus, (world.transmitted (sent bus) ++ inHandOn bus hand).Sublist (world.shared.pipes bus).taken

namespace Forwards

variable {sent : Nat → Note → Option EncodedAudioFrame} {hand : Option (Nat × EncodedAudioFrame)}
  {world after : World Publisher Note}

theorem perform (forwards : Forwards sent hand world) (action : Action) :
    Forwards sent hand (world.perform action) := by
  intro bus
  rw [transmitted, perform_notes, perform_taken]
  exact forwards bus

/-- Nothing is transmitted and nothing received. -/
theorem keep (forwards : Forwards sent hand world)
    (taken : ∀ bus, (after.shared.pipes bus).taken = (world.shared.pipes bus).taken)
    (entries : List Note) (notes : after.notes = entries ++ world.notes)
    (silent : ∀ bus, entries.filterMap (sent bus) = []) : Forwards sent hand after := by
  intro bus
  rw [transmitted_of_notes notes, List.filterMap_reverse, silent bus, List.reverse_nil,
    List.append_nil, taken]
  exact forwards bus

/-- The frame in hand is dropped. -/
theorem drop (forwards : Forwards sent hand world) : Forwards sent none world := by
  intro bus
  rw [inHandOn, List.append_nil]
  exact (List.sublist_append_left _ _).trans (forwards bus)

/-- The frame in hand is dropped and something else is entered. -/
theorem settle (forwards : Forwards sent hand world)
    (taken : ∀ bus, (after.shared.pipes bus).taken = (world.shared.pipes bus).taken)
    (entries : List Note) (notes : after.notes = entries ++ world.notes)
    (silent : ∀ bus, entries.filterMap (sent bus) = []) : Forwards sent none after :=
  (forwards.keep taken entries notes silent).drop

theorem receive (forwards : Forwards sent hand world) {bus : Nat} {frame : EncodedAudioFrame}
    {rest : List EncodedAudioFrame} (head : (world.shared.pipes bus).encoded = frame :: rest) :
    Forwards sent (some (bus, frame)) (world.updatePipe bus fun pipe => pipe.tryRecv.2) := by
  intro other
  have before : (world.transmitted (sent other)).Sublist (world.shared.pipes other).taken :=
    (List.sublist_append_left _ _).trans (forwards other)
  show (world.transmitted (sent other) ++ inHandOn other (some (bus, frame))).Sublist _
  by_cases same : bus = other
  · subst same
    simpa [updatePipe, inHandOn, Pipe.tryRecv, head] using before
  · simpa [updatePipe, inHandOn, same, Ne.symm same] using before

/-- The frame in hand is transmitted. -/
theorem write {bus : Nat} {frame : EncodedAudioFrame} {entry : Note}
    (forwards : Forwards sent (some (bus, frame)) world)
    (sends : ∀ other, sent other entry = if bus = other then some frame else none) :
    Forwards sent none (world.note entry) := by
  intro other
  have one : [entry].reverse.filterMap (sent other) = inHandOn other (some (bus, frame)) := by
    rw [List.reverse_singleton, List.filterMap_cons, sends, List.filterMap_nil, inHandOn]
    by_cases same : bus = other
    · rw [if_pos same, if_pos same]
    · rw [if_neg same, if_neg same]
  have notes : (world.note entry).notes = [entry] ++ world.notes := world.notes_note entry
  rw [transmitted_of_notes notes, one]
  exact (List.append_nil _).symm ▸ forwards other

end Forwards

end World

/-! ### The gateway -/

/-- The frame that a note hands to `ws.write` on a bus, with its packet. -/
def GatewayNote.handedOver (bus : Nat) : GatewayNote → Option (EncodedAudioFrame × List UInt8)
  | .media other frame packet _ _ => if other = bus then some (frame, packet) else none
  | _ => none

def GatewayNote.sentOn (bus : Nat) (entry : GatewayNote) : Option EncodedAudioFrame :=
  (entry.handedOver bus).map Prod.fst

/-- The frame in hand, until it is handed to `ws.write`. -/
def Phase.unwritten : Phase → Option (Nat × EncodedAudioFrame)
  | .holding bus frame => some (bus, frame)
  | .wanted bus frame => some (bus, frame)
  | .sending _ _ _ .written => none
  | .sending bus frame _ _ => some (bus, frame)
  | _ => none

variable {phase : Phase} {world start : GatewayWorld}

/-- A step of the gateway handles the pipes. -/
theorem Step.handled {next : Phase} {after : GatewayWorld} (step : Step phase world next after)
    (bus : Nat) : (world.shared.pipes bus).Handled (after.shared.pipes bus) := by
  cases step with
  | receive => exact world.handled_updatePipe (fun _ => .received) bus
  | cancelled => exact world.handled_updatePipe (fun _ => .cancelled) bus
  | stale => exact world.handled_updatePipe (fun _ => .stale 1) bus
  | _ => exact .kept

/-- Every bus of a reachable world has gone through a history. -/
theorem Reach.histories {allowed : Ambient → Prop} {first : Nat → Pipe}
    (permitted : ∀ phase world, Reach start phase world → allowed world.shared.toAmbient)
    (initially : World.Histories allowed first start) (reached : Reach start phase world) :
    World.Histories allowed first world := by
  refine reached.invariant (motive := fun _ world => World.Histories allowed first world)
    initially ?_ ?_
  · exact fun phase world action reached histories =>
      histories.perform (permitted phase world reached) action
  · intro phase world next after _ histories step
    obtain ⟨entries, journal⟩ := step.journal
    exact histories.handle step.handled entries journal

theorem GatewayWorld.settleFrame_taken (bus : Nat) (outcome : FrameOutcome)
    (frame : EncodedAudioFrame) (world : GatewayWorld) (other : Nat) :
    ((settleFrame bus outcome frame world).shared.pipes other).taken =
      (world.shared.pipes other).taken := by
  cases outcome with
  | cancelled => exact world.updatePipe_taken Pipe.countCancelled (fun _ => rfl) other
  | stale => exact world.updatePipe_taken (Pipe.countStale 1) (fun _ => rfl) other
  | _ => rfl

/-- A step of the gateway transmits at most the frame in hand. -/
theorem Step.forwards {next : Phase} {after : GatewayWorld} (step : Step phase world next after)
    (forwards : World.Forwards GatewayNote.sentOn phase.unwritten world) :
    World.Forwards GatewayNote.sentOn next.unwritten after := by
  have same : ∀ bus, (world.shared.pipes bus).taken = (world.shared.pipes bus).taken :=
    fun _ => rfl
  cases step with
  | receive _ bus frame rest _ head => exact forwards.receive head
  | write _ bus frame packet =>
    refine forwards.write fun other => ?_
    by_cases equal : bus = other <;> simp [GatewayNote.sentOn, GatewayNote.handedOver, equal]
  | cancelled | superseded | stale | flushed | abandon =>
    exact forwards.settle (GatewayWorld.settleFrame_taken _ _ _ world) [_] rfl fun _ => rfl
  | unencodable => exact forwards.settle same [_] rfl fun _ => rfl
  | install => exact forwards.keep same [_, _] rfl fun _ => rfl
  | foundExpired | pause | ready | prepareFails | refuse | late | admitAll | reject | stopRejected
    | revokedRejected | report | socket => exact forwards.keep same [_] rfl fun _ => rfl
  | disconnected => exact forwards.drop
  | _ => exact forwards.keep same [] rfl fun _ => rfl

theorem Reach.forwards (initially : World.Forwards GatewayNote.sentOn none start)
    (reached : Reach start phase world) : World.Forwards GatewayNote.sentOn phase.unwritten world :=
  reached.invariant
    (motive := fun phase world => World.Forwards GatewayNote.sentOn phase.unwritten world)
    initially (fun _ _ action _ forwards => forwards.perform action)
    fun _ _ _ _ _ forwards step => step.forwards forwards

/-- The packet is the frame's, for some number of channels. -/
def Encodes (packet : List UInt8) (frame : EncodedAudioFrame) : Prop :=
  ∃ channels, encodePacket frame channels = .ok packet

/-- A packet in hand is that of the frame in hand. -/
def Phase.Packed : Phase → Prop
  | .sending _ frame packet _ => Encodes packet frame
  | _ => True

def GatewayNote.Packed : GatewayNote → Prop
  | .media _ frame packet _ _ => Encodes packet frame
  | .settled _ .sent frame => ∃ packet, Encodes packet frame
  | _ => True

/-- Every packet handed to `ws.write` is that of its frame, and every frame sent has one. -/
theorem Reach.packed (initially : ∀ entry ∈ start.notes, entry.Packed)
    (reached : Reach start phase world) : phase.Packed ∧ ∀ entry ∈ world.notes, entry.Packed := by
  refine reached.invariant
    (motive := fun phase world => phase.Packed ∧ ∀ entry ∈ world.notes, entry.Packed)
    ⟨trivial, initially⟩ ?_ ?_
  · intro phase world action _ packed
    rw [World.perform_notes]
    exact packed
  · intro phase world next after _ ⟨inHand, entered⟩ step
    have one : ∀ entry : GatewayNote, entry.Packed →
        ∀ other ∈ entry :: world.notes, other.Packed := by
      intro entry packed other member
      rcases List.mem_cons.mp member with rfl | old
      · exact packed
      · exact entered other old
    cases step with
    | pack _ _ _ _ connection _ encoded => exact ⟨⟨connection.channels, encoded⟩, entered⟩
    | seeUnrevoked | seeCurrent | seeUnexpired | unguarded => exact ⟨inHand, entered⟩
    | write => exact ⟨inHand, one _ inHand⟩
    | socket => exact ⟨inHand, one _ trivial⟩
    | flushed => exact ⟨trivial, one _ ⟨_, inHand⟩⟩
    | install _ _ _ bus connection =>
      refine ⟨trivial, fun entry member => ?_⟩
      rcases List.mem_cons.mp member with rfl | member
      · trivial
      · exact one (.cutoff bus) trivial entry member
    | foundExpired | cancelled | superseded | stale | unencodable | abandon | pause | ready
      | prepareFails | refuse | late | admitAll | reject | stopRejected | revokedRejected
      | report => exact ⟨trivial, one _ trivial⟩
    | _ => exact ⟨trivial, entered⟩

/-! ### Launched runs -/

namespace Launch

variable {recovery : Option PreparedIngressRecovery}

theorem pipeEvents_world (launch : Launch recovery) (bus : Nat) :
    World.pipeEvents bus launch.world.journal = [] := by
  rw [World.pipeEvents, List.filterMap_eq_nil_iff]
  intro event member
  obtain ⟨_, _, rfl⟩ := List.mem_mapIdx.mp member
  rfl

theorem histories_world (launch : Launch recovery) (allowed : Ambient → Prop) :
    World.Histories allowed (fun bus => (launch.lane bus).pipe) launch.world := by
  intro bus
  rw [launch.pipeEvents_world]
  exact .start

/-- On every bus of a launched run the packets are numbered. -/
theorem numbered (launch : Launch recovery) (schedule : List Turn) (bus : Nat) :
    ((launch.last schedule).shared.pipes bus).Numbered
      (World.pipeEvents bus (launch.last schedule).journal) := by
  obtain ⟨phase, reached⟩ := launch.reached schedule
  exact .of_history (launch.lane bus).numbered_pipe
    (reached.histories (fun _ _ _ => trivial) (launch.histories_world fun _ => True) bus)

/-- What was handed to `ws.write` on a bus is a subsequence of what was received. -/
theorem transmitted_sublist (launch : Launch recovery) (schedule : List Turn) (bus : Nat) :
    ((launch.last schedule).transmitted (GatewayNote.sentOn bus)).Sublist
      ((launch.last schedule).shared.pipes bus).taken := by
  obtain ⟨phase, reached⟩ := launch.reached schedule
  have initially : World.Forwards GatewayNote.sentOn none launch.world := by
    intro other
    rw [launch.transmitted_world _ fun _ _ _ => rfl]
    exact List.nil_sublist _
  exact (List.sublist_append_left _ _).trans (reached.forwards initially bus)

end Launch

end RelayConnector
