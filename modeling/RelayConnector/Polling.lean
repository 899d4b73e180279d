/-
This file states the poll discipline of the peer connection and proves it for the two loops
through which media flows.

Between two mutations `poll_output` has returned a timeout, and a write has such a drain
before it with no mutation in between. A peer connection that is handed over may or may not
have been drained: the publisher's first round and the subscriber's constructor drain it.
-/

import RelayConnector.Subscriber

namespace RelayConnector

/-- A mutation of the peer connection. -/
def RtcNote.mutates : RtcNote → Bool
  | .input => true
  | .media _ _ => true
  | .candidate => true
  | _ => false

/-- There is a drain, and no mutation since. -/
def DrainedLast (notes : List RtcNote) : Prop :=
  ∃ since before, notes = since ++ .drained :: before ∧ ∀ entry ∈ since, entry.mutates = false

/-- The discipline, on notes that are newest first. -/
structure PollDisciplined (notes : List RtcNote) : Prop where
  /-- Between two mutations there is a drain. -/
  between : ∀ newer second middle first older,
    notes = newer ++ second :: (middle ++ first :: older) → second.mutates = true →
    first.mutates = true → .drained ∈ middle
  /-- A write comes after a drain with no mutation in between. -/
  writes : ∀ newer bus frame older, notes = newer ++ .media bus frame :: older → DrainedLast older

namespace PollDisciplined

variable {notes : List RtcNote} {entry : RtcNote}

theorem nil : PollDisciplined [] :=
  ⟨fun _ _ _ _ _ split => by simp at split, fun _ _ _ _ split => by simp at split⟩

/-- One more entry: a mutation must have a drain, or nothing, before it. -/
theorem cons (disciplined : PollDisciplined notes)
    (fresh : entry.mutates = true → DrainedLast notes ∨
      (∀ bus frame, entry ≠ .media bus frame) ∧ ∀ earlier ∈ notes, earlier.mutates = false) :
    PollDisciplined (entry :: notes) where
  between newer second middle first older split mutates earlier := by
    cases newer with
    | cons head newer =>
      exact disciplined.between newer second middle first older (List.cons.inj split).2 mutates
        earlier
    | nil =>
      obtain ⟨rfl, rfl⟩ := List.cons.inj split
      rcases fresh mutates with ⟨since, before, drained, quiet⟩ | ⟨-, quiet⟩
      · -- the earlier mutation lies before the last drain
        rcases List.append_eq_append_iff.mp drained with ⟨between, rfl, inner⟩ |
          ⟨between, rfl, inner⟩
        · cases between with
          | nil =>
            obtain ⟨rfl, -⟩ := List.cons.inj inner
            cases earlier
          | cons head between =>
            obtain ⟨rfl, rfl⟩ := List.cons.inj inner
            rw [quiet first (by simp)] at earlier
            cases earlier
        · cases between with
          | nil =>
            obtain ⟨rfl, -⟩ := List.cons.inj inner
            cases earlier
          | cons head between =>
            obtain ⟨rfl, -⟩ := List.cons.inj inner
            simp
      · rw [quiet first (by simp)] at earlier
        cases earlier
  writes newer bus frame older split := by
    cases newer with
    | cons head newer => exact disciplined.writes newer bus frame older (List.cons.inj split).2
    | nil =>
      obtain ⟨rfl, rfl⟩ := List.cons.inj split
      rcases fresh rfl with drained | ⟨other, -⟩
      · exact drained
      · exact absurd rfl (other bus frame)

theorem cons_of_silent (disciplined : PollDisciplined notes) (silent : entry.mutates = false) :
    PollDisciplined (entry :: notes) :=
  disciplined.cons fun mutates => by rw [silent] at mutates; cases mutates

theorem of_cons (disciplined : PollDisciplined (entry :: notes)) : PollDisciplined notes where
  between newer second middle first older split :=
    disciplined.between (entry :: newer) second middle first older (congrArg (entry :: ·) split)
  writes newer bus frame older split :=
    disciplined.writes (entry :: newer) bus frame older (congrArg (entry :: ·) split)

/-- Two mutations in a row. -/
theorem not_of_pair {earlier : RtcNote} (first : earlier.mutates = true)
    (second : entry.mutates = true) : ¬PollDisciplined (entry :: earlier :: notes) := by
  intro disciplined
  have between := disciplined.between [] entry [] earlier notes rfl second first
  cases between

end PollDisciplined

theorem DrainedLast.cons {notes : List RtcNote} (drained : DrainedLast notes) {entry : RtcNote}
    (silent : entry.mutates = false) : DrainedLast (entry :: notes) := by
  obtain ⟨since, before, rfl, quiet⟩ := drained
  exact ⟨entry :: since, before, rfl, List.forall_mem_cons.mpr ⟨silent, quiet⟩⟩

/-! ### The machine -/

/-- What is known of the notes in a phase. -/
def RtcPhase.Known (notes : List RtcNote) : RtcPhase → Prop
  | .handed => ∀ entry ∈ notes, entry.mutates = false
  | .ready => DrainedLast notes
  | .holding _ _ => DrainedLast notes
  | .cleared _ _ => DrainedLast notes
  | .dirty => True
  | .failed => True

section Machine

variable {Owner : Type} {start : World Owner RtcNote}

theorem RtcStep.disciplined {phase next : RtcPhase} {world after : World Owner RtcNote}
    (step : RtcStep phase world next after) (disciplined : PollDisciplined world.notes)
    (known : phase.Known world.notes) :
    PollDisciplined after.notes ∧ next.Known after.notes := by
  cases step with
  | input _ _ receptive =>
    refine ⟨disciplined.cons fun _ => ?_, trivial⟩
    cases phase with
    | handed => exact .inr ⟨by simp, known⟩
    | ready => exact .inl known
    | _ => cases receptive
  | candidate => exact ⟨disciplined.cons fun _ => .inl known, trivial⟩
  | drained => exact ⟨disciplined.cons_of_silent rfl, [], _, rfl, by simp⟩
  | receive _ _ bus frame rest awaits =>
    refine ⟨disciplined, ?_⟩
    cases phase with
    | ready => exact known
    | holding => exact known
    | _ => cases awaits
  | countStale => exact ⟨disciplined, known⟩
  | discard => exact ⟨disciplined.cons_of_silent rfl, DrainedLast.cons known rfl⟩
  | clear => exact ⟨disciplined, known⟩
  | write => exact ⟨disciplined.cons fun _ => .inl known, trivial⟩
  | own => exact ⟨disciplined, known⟩
  | fail => exact ⟨disciplined, trivial⟩

theorem RtcReach.disciplined (silent : start.notes = []) {phase : RtcPhase}
    {world : World Owner RtcNote} (reached : RtcReach start phase world) :
    PollDisciplined world.notes ∧ phase.Known world.notes := by
  refine reached.invariant (motive := fun phase world =>
    PollDisciplined world.notes ∧ phase.Known world.notes) ?_ ?_ ?_
  · rw [silent]
    exact ⟨.nil, by simp [RtcPhase.Known]⟩
  · intro phase world action known
    rwa [World.perform_notes]
  · intro phase world next after known step
    exact step.disciplined known.1 known.2

end Machine

/-- Every run of `run_publish_loop`, and every subscriber connection however often it is polled,
keeps the discipline wherever it is found, up to the error with which it ends. -/
theorem media_poll_discipline :
    (∀ (launch : RtcLaunch) (schedule : List RtcTurn),
      PollDisciplined (launch.last schedule).notes) ∧
    ∀ (shared : Shared) (mids : List Nat) (count : Nat) (schedule : List RtcTurn),
      PollDisciplined (Subscriber.last shared mids count schedule).notes := by
  constructor
  · intro launch schedule
    obtain ⟨phase, reached⟩ := launch.reached schedule
    exact (reached.disciplined rfl).1
  · intro shared mids count schedule
    obtain ⟨phase, reached⟩ := Subscriber.reached shared mids count schedule
    exact (reached.disciplined rfl).1

end RelayConnector
