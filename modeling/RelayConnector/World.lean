/-
This file puts the control and the buses of a process together into the world that a
publisher runs in.

What the other threads do is a list of actions; each action is one step of one thread
or an outside event. A run leaves a journal, newest entry first, in which the steps
that a property speaks about are entered as they happen; the journal is not part of
the program. Publishers differ in their own state and in what they enter, so both are
parameters here.
-/

import RelayConnector.Control
import RelayConnector.Pipeline

namespace RelayConnector

/-- What the threads of the process share. -/
structure Shared extends Ambient where
  control : SharedControl
  pipes : Nat → Pipe

/-- One step of another thread, or an outside event. -/
inductive Action where
  /-- The clock advances. -/
  | tick (elapsed : Nat)
  | requestStop
  | requestAbort
  | stopTransport
  /-- An output generation is cancelled. -/
  | cancelOutput (generation : Nat)
  | control (action : ControlAction)
  | feeder (bus : Nat) (arrival : Option (AudioFrame UInt32))
  | encoder (bus : Nat) (codec : Option (List UInt8))

/-- A journal entry. -/
inductive Event (Note : Type) where
  | control (event : ControlEvent)
  /-- The cancellation of an output generation has completed. -/
  | outputCancelled (generation : Nat)
  | pipe (bus : Nat) (event : PipeEvent)
  | note (note : Note)

/-- Neither a call on the control nor a note of the publisher. -/
def Event.onBuses {Note : Type} : Event Note → Bool
  | .control _ => false
  | .note _ => false
  | _ => true

structure World (Publisher Note : Type) where
  shared : Shared
  publisher : Publisher
  journal : List (Event Note) := []

/-- The shared state after an action, with what the action enters. -/
def Shared.perform {Note : Type} (shared : Shared) : Action → Shared × List (Event Note)
  | .tick elapsed => ({ shared with now := shared.now + elapsed }, [])
  | .requestStop => ({ shared with stopRequested := true }, [])
  | .requestAbort => ({ shared with abortRequested := true }, [])
  | .stopTransport => ({ shared with transportStop := true }, [])
  | .cancelOutput generation =>
    ({ shared with cancelled := Function.update shared.cancelled generation true },
      [.outputCancelled generation])
  | .control action =>
    let (control, event) := shared.control.act shared.now action
    ({ shared with control := control }, (event.map Event.control).toList)
  | .feeder bus arrival =>
    let (pipe, events) := (shared.pipes bus).feed shared.toAmbient arrival
    ({ shared with pipes := Function.update shared.pipes bus pipe }, events.map (Event.pipe bus))
  | .encoder bus codec =>
    let (pipe, events) := (shared.pipes bus).encode shared.toAmbient codec
    ({ shared with pipes := Function.update shared.pipes bus pipe }, events.map (Event.pipe bus))

namespace World

variable {Publisher Note : Type}

def perform (world : World Publisher Note) (action : Action) : World Publisher Note :=
  let (shared, events) := world.shared.perform action
  { world with shared := shared, journal := events ++ world.journal }

/-- The other threads act, one step after the other. -/
def settle (before : List Action) (world : World Publisher Note) : World Publisher Note :=
  before.foldl perform world

/-- Enter a note. -/
def note (entry : Note) (world : World Publisher Note) : World Publisher Note :=
  { world with journal := .note entry :: world.journal }

def updatePipe (bus : Nat) (change : Pipe → Pipe) (world : World Publisher Note) :
    World Publisher Note :=
  { world with shared :=
      { world.shared with
        pipes := Function.update world.shared.pipes bus (change (world.shared.pipes bus)) } }

/-- The publisher's own entries, newest first. -/
def notes (world : World Publisher Note) : List Note :=
  world.journal.filterMap fun
    | .note entry => some entry
    | _ => none

/-- What the notes enter as transmitted, oldest first. -/
def transmitted {Item : Type} (sent : Note → Option Item) (world : World Publisher Note) :
    List Item :=
  world.notes.reverse.filterMap sent

theorem transmitted_of_notes {Item : Type} {sent : Note → Option Item}
    {world after : World Publisher Note} {entries : List Note}
    (notes : after.notes = entries ++ world.notes) :
    after.transmitted sent = world.transmitted sent ++ entries.reverse.filterMap sent := by
  rw [transmitted, notes, List.reverse_append, List.filterMap_append, transmitted]

@[simp] theorem notes_note (entry : Note) (world : World Publisher Note) :
    (world.note entry).notes = entry :: world.notes := rfl

@[simp] theorem perform_publisher (world : World Publisher Note) (action : Action) :
    (world.perform action).publisher = world.publisher := rfl

/-- The other threads enter no notes. -/
theorem note_not_mem_perform (shared : Shared) (action : Action) (entry : Note) :
    .note entry ∉ (shared.perform action : Shared × List (Event Note)).2 := by
  cases action <;> simp [Shared.perform]

variable (world : World Publisher Note)

@[simp] theorem perform_notes (action : Action) : (world.perform action).notes = world.notes := by
  have none : (world.shared.perform action : Shared × List (Event Note)).2.filterMap (fun
      | .note entry => some entry
      | _ => none) = [] := by
    refine List.filterMap_eq_nil_iff.mpr fun event member => ?_
    cases event with
    | note entry => exact absurd member (note_not_mem_perform world.shared action entry)
    | _ => rfl
  simp [notes, perform, List.filterMap_append, none]

@[simp] theorem perform_paused (action : Action) :
    (world.perform action).shared.paused = world.shared.paused := by
  cases action <;> rfl

/-- The clock never goes back. -/
theorem now_le_perform (action : Action) :
    world.shared.now ≤ (world.perform action).shared.now := by
  cases action with
  | tick elapsed => exact Nat.le_add_right _ _
  | _ => exact Nat.le_refl _

/-- A stop request stands. -/
theorem perform_stopRequested (action : Action) (requested : world.shared.stopRequested = true) :
    (world.perform action).shared.stopRequested = true := by
  cases action with
  | requestStop => rfl
  | _ => exact requested

/-- So does a revocation. -/
theorem perform_revoked (action : Action)
    (coherent : world.shared.control.Coherent) (revoked : world.shared.control.revoked = true) :
    (world.perform action).shared.control.revoked = true := by
  cases action with
  | control call => exact (SharedControl.act_changes _ call coherent).2.revoked_of_revoked revoked
  | _ => exact revoked

/-- Apart from calls on the control, the other threads leave the control alone and enter what
happens on the buses. -/
theorem perform_elsewhere {action : Action} (elsewhere : ∀ call, action ≠ .control call) :
    (world.perform action).shared.control = world.shared.control ∧
      ∃ entries, (world.perform action).journal = entries ++ world.journal ∧
        ∀ entry ∈ entries, entry.onBuses = true := by
  have piped : ∀ (bus : Nat) (events : List PipeEvent),
      ∀ entry ∈ events.map (Event.pipe bus : PipeEvent → Event Note), entry.onBuses = true := by
    intro bus events entry member
    obtain ⟨event, _, rfl⟩ := List.mem_map.mp member
    rfl
  cases action with
  | control call => exact absurd rfl (elsewhere call)
  | feeder bus arrival => exact ⟨rfl, _, rfl, piped bus _⟩
  | encoder bus codec => exact ⟨rfl, _, rfl, piped bus _⟩
  | cancelOutput generation =>
    exact ⟨rfl, [.outputCancelled generation], rfl, by simp [Event.onBuses]⟩
  | _ => exact ⟨rfl, [], rfl, by simp⟩

/-- A call on the control enters what it returned. -/
theorem mem_perform_control (action : ControlAction) (event : ControlEvent) :
    .control event ∈ (world.perform (.control action)).journal ↔
      (world.shared.control.act world.shared.now action).2 = some event ∨
        .control event ∈ world.journal := by
  have journal : (world.perform (.control action)).journal =
      ((world.shared.control.act world.shared.now action).2.map Event.control).toList ++
        world.journal := rfl
  rw [journal, List.mem_append]
  simp

/-- An assertion kept by every single action is kept by all that happens between two accesses. -/
theorem settle_induction {motive : World Publisher Note → Prop}
    (keeps : ∀ world action, motive world → motive (world.perform action))
    (before : List Action) (world : World Publisher Note) (holds : motive world) :
    motive (world.settle before) := by
  induction before generalizing world with
  | nil => exact holds
  | cons action rest hypothesis =>
    exact hypothesis (world.perform action) (keeps world action holds)

end World

end RelayConnector
