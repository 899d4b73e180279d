/-
This file follows one bus through a run: which states its pipe goes through and what its
threads enter on the way.

Whatever publisher is at the end of it, a pipe moves by the steps of its feeder and its
encoder, by frames being received from it and by its counters being raised. A property
of the pipe and its history is therefore proved once, by induction along a history, and
holds in the world of every publisher.
-/

import RelayConnector.World

namespace RelayConnector

/-- The states of a pipe and the entries of its threads, newest first. `allowed` is what is known
of the rest of the process at every step. -/
inductive Pipe.History (allowed : Ambient → Prop) (first : Pipe) : Pipe → List PipeEvent → Prop
  | start : History allowed first first []
  | feed {pipe : Pipe} {events : List PipeEvent} (history : History allowed first pipe events)
      (ambient : Ambient) (permitted : allowed ambient) (arrival : Option (AudioFrame UInt32)) :
      History allowed first (pipe.feed ambient arrival).1
        ((pipe.feed ambient arrival).2 ++ events)
  | encode {pipe : Pipe} {events : List PipeEvent} (history : History allowed first pipe events)
      (ambient : Ambient) (permitted : allowed ambient) (codec : Option (List UInt8)) :
      History allowed first (pipe.encode ambient codec).1
        ((pipe.encode ambient codec).2 ++ events)
  | receive {pipe : Pipe} {events : List PipeEvent} (history : History allowed first pipe events) :
      History allowed first pipe.tryRecv.2 events
  | count {pipe : Pipe} {events : List PipeEvent} (history : History allowed first pipe events)
      (counters : EncoderCounters) :
      History allowed first { pipe with counters := counters } events

/-- What a publisher does to a pipe: nothing, receive a frame, or raise a counter. -/
inductive Pipe.Handled (pipe : Pipe) : Pipe → Prop
  | kept : Handled pipe pipe
  | received : Handled pipe pipe.tryRecv.2
  | cancelled : Handled pipe pipe.countCancelled
  | stale (staleDrops : Nat) : Handled pipe (pipe.countStale staleDrops)

theorem Pipe.History.handled {allowed : Ambient → Prop} {first pipe after : Pipe}
    {events : List PipeEvent} (history : Pipe.History allowed first pipe events)
    (handled : pipe.Handled after) : Pipe.History allowed first after events := by
  cases handled with
  | kept => exact history
  | received => exact history.receive
  | cancelled | stale => exact history.count _

namespace World

variable {Publisher Note : Type}

/-- What the threads of a bus have entered, newest first. -/
def pipeEvents (bus : Nat) (journal : List (Event Note)) : List PipeEvent :=
  journal.filterMap fun
    | .pipe other event => if other = bus then some event else none
    | _ => none

theorem pipeEvents_append (bus : Nat) (new journal : List (Event Note)) :
    pipeEvents bus (new ++ journal) = pipeEvents bus new ++ pipeEvents bus journal :=
  List.filterMap_append

theorem mem_pipeEvents {bus : Nat} {event : PipeEvent} {journal : List (Event Note)} :
    event ∈ pipeEvents bus journal ↔ .pipe bus event ∈ journal := by
  constructor
  · intro member
    obtain ⟨entry, entered, same⟩ := List.mem_filterMap.mp member
    cases entry with
    | pipe other found =>
      by_cases equal : other = bus
      · simp only [equal, if_true, Option.some.injEq] at same
        rw [← equal, ← same]
        exact entered
      · simp only [equal, if_false] at same
        cases same
    | _ => cases same
  · exact fun member => List.mem_filterMap.mpr ⟨_, member, if_pos rfl⟩

theorem pipeEvents_map_pipe (bus other : Nat) (events : List PipeEvent) :
    pipeEvents bus (events.map (Event.pipe other : PipeEvent → Event Note)) =
      if other = bus then events else [] := by
  induction events with
  | nil => split <;> rfl
  | cons event rest hypothesis =>
    rw [List.map_cons, ← List.singleton_append, pipeEvents_append, hypothesis]
    split
    next same => simp [pipeEvents, same]
    next differs => simp [pipeEvents, differs]

/-- The notes of a publisher are not about the threads. -/
theorem pipeEvents_map_note (bus : Nat) (entries : List Note) :
    pipeEvents bus (entries.map (Event.note : Note → Event Note)) = [] := by
  refine List.filterMap_eq_nil_iff.mpr fun event member => ?_
  obtain ⟨note, -, rfl⟩ := List.mem_map.mp member
  rfl

/-- For a bus, an action of the other threads is a step of its feeder, a step of its encoder, or
nothing. -/
theorem perform_bus {motive : Pipe → List PipeEvent → Prop} (world : World Publisher Note)
    (action : Action) (bus : Nat)
    (kept : motive (world.shared.pipes bus) (pipeEvents bus world.journal))
    (feeds : ∀ arrival, motive ((world.shared.pipes bus).feed world.shared.toAmbient arrival).1
      (((world.shared.pipes bus).feed world.shared.toAmbient arrival).2 ++
        pipeEvents bus world.journal))
    (encodes : ∀ codec, motive ((world.shared.pipes bus).encode world.shared.toAmbient codec).1
      (((world.shared.pipes bus).encode world.shared.toAmbient codec).2 ++
        pipeEvents bus world.journal)) :
    motive ((world.perform action).shared.pipes bus)
      (pipeEvents bus (world.perform action).journal) := by
  cases action with
  | feeder moved arrival =>
    simp only [perform, Shared.perform, pipeEvents_append, pipeEvents_map_pipe]
    by_cases same : moved = bus
    · subst same
      simpa using feeds arrival
    · simpa [same, Ne.symm same] using kept
  | encoder moved codec =>
    simp only [perform, Shared.perform, pipeEvents_append, pipeEvents_map_pipe]
    by_cases same : moved = bus
    · subst same
      simpa using encodes codec
    · simpa [same, Ne.symm same] using kept
  | control call =>
    have silent : ∀ event : Option ControlEvent,
        pipeEvents bus (event.map (Event.control : ControlEvent → Event Note)).toList = [] := by
      intro event
      cases event <;> rfl
    simpa only [perform, Shared.perform, pipeEvents_append, silent, List.nil_append] using kept
  | _ => exact kept

/-- Every bus has gone through a history. -/
def Histories (allowed : Ambient → Prop) (first : Nat → Pipe) (world : World Publisher Note) :
    Prop :=
  ∀ bus, Pipe.History allowed (first bus) (world.shared.pipes bus) (pipeEvents bus world.journal)

namespace Histories

variable {allowed : Ambient → Prop} {first : Nat → Pipe} {world after : World Publisher Note}

/-- The other threads move one bus, or none. -/
theorem perform (histories : Histories allowed first world)
    (permitted : allowed world.shared.toAmbient) (action : Action) :
    Histories allowed first (world.perform action) :=
  fun bus => world.perform_bus action bus (histories bus) ((histories bus).feed _ permitted)
    ((histories bus).encode _ permitted)

/-- A publisher handles the pipes and enters notes. -/
theorem handle (histories : Histories allowed first world)
    (handled : ∀ bus, (world.shared.pipes bus).Handled (after.shared.pipes bus))
    (entries : List Note) (journal : after.journal = entries.map .note ++ world.journal) :
    Histories allowed first after := by
  intro bus
  rw [journal, pipeEvents_append, pipeEvents_map_note]
  exact (histories bus).handled (handled bus)

end Histories

end World

end RelayConnector
