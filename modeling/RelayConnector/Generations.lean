/-
This file proves that source generations advance: a connection that is installed has a
greater generation than every READY message that an earlier `prepare` of its bus
returned with, also in rounds that were then rolled back; and that a generation which
does not advance ends the run.

The mark of a bus is raised when `prepare` returns. A READY message that `prepare` has
heard and then failed on leaves no mark, so the notes tell such sessions apart.
-/

import RelayConnector.Coherence

namespace RelayConnector

open GatewayWorld Audit

/-! ### The mark of a bus -/

/-- A READY message that has been heard and not yet compared with the mark. -/
def PendingReady (bus session generation : Nat) : Phase → Prop
  | .dialling round dialled _ (some heard) =>
    bus = round.bus ∧ session = dialled ∧ generation = heard
  | .offered round connection =>
    bus = round.bus ∧ session = connection.session ∧ generation = connection.sourceGeneration
  | _ => False

/-- The connection is ahead of every READY message of its bus from another session, except for
those that `prepare` did not return with. -/
def Ahead (notes : List GatewayNote) (bus : Nat) (connection : IngressConnection) : Prop :=
  ∀ session generation, .ready bus session generation ∈ notes → session ≠ connection.session →
    .prepareFailed bus session ∉ notes → generation < connection.sourceGeneration

/-- The connections are ahead on the buses from `first` on. -/
def AllAhead (notes : List GatewayNote) (first : Nat) (connections : List IngressConnection) :
    Prop :=
  ∀ position connection, connections[position]? = some connection →
    Ahead notes (first + position) connection

/-- The connections in hand at each point of the lifecycle. -/
def AheadAt (notes : List GatewayNote) : Phase → Prop
  | .admitting round | .dialling round _ _ _ | .offered round _ =>
    AllAhead notes 0 round.connections
  | .checking round connection => AllAhead notes 0 (round.connections ++ [connection])
  | .installing _ _ bus rest => AllAhead notes bus rest
  | _ => True

def installedAhead : GatewayNote → List GatewayNote → Prop
  | .installed bus connection, earlier => Ahead earlier bus connection
  | _, _ => True

/-- The invariant of a run. -/
structure Marked (phase : Phase) (world : GatewayWorld) : Prop where
  mark : ∀ bus session generation, .ready bus session generation ∈ world.notes →
    PendingReady bus session generation phase ∨ .prepareFailed bus session ∈ world.notes ∨
      generation ≤ (world.publisher.active bus).highestGeneration
  ahead : AheadAt world.notes phase
  audited : Audited installedAhead world.notes

/-! ### Notes -/

variable {connection : IngressConnection} {recovery : Option PreparedIngressRecovery}

section Notes

variable {notes : List GatewayNote} {entry : GatewayNote} {bus : Nat}

theorem Ahead.note (ahead : Ahead notes bus connection)
    (other : ∀ session generation, entry ≠ .ready bus session generation) :
    Ahead (entry :: notes) bus connection := by
  intro session generation member foreign returned
  refine ahead session generation ?_ foreign fun failed =>
    returned (List.mem_cons_of_mem _ failed)
  exact (List.mem_cons.mp member).resolve_left fun same =>
    other session generation same.symm

/-- A note about a bus that is not among the connections' leaves them ahead. -/
theorem AllAhead.note {first : Nat} {connections : List IngressConnection}
    (ahead : AllAhead notes first connections)
    (other : ∀ position < connections.length, ∀ session generation,
      entry ≠ .ready (first + position) session generation) :
    AllAhead (entry :: notes) first connections := by
  intro position connection has
  obtain ⟨inside, _⟩ := List.getElem?_eq_some_iff.mp has
  exact (ahead position connection has).note (other position inside)

theorem AllAhead.tail {first : Nat} {rest : List IngressConnection}
    (ahead : AllAhead notes first (connection :: rest)) : AllAhead notes (first + 1) rest := by
  intro position other has
  have next := ahead (position + 1) other (by simpa using has)
  rwa [← Nat.add_assoc, Nat.add_right_comm] at next

theorem AllAhead.snoc {connections : List IngressConnection} (ahead : AllAhead notes 0 connections)
    (last : Ahead notes connections.length connection) :
    AllAhead notes 0 (connections ++ [connection]) := by
  intro position other has
  rcases Nat.lt_trichotomy position connections.length with before | here | beyond
  · exact ahead position other (by rwa [List.getElem?_append_left before] at has)
  · subst here
    have same : connection = other := by simpa using has
    rw [Nat.zero_add]
    exact same ▸ last
  · rw [List.getElem?_eq_none (by rw [List.length_append]; exact beyond)] at has
    cases has

/-- A note that is no READY message leaves all connections ahead. -/
theorem AheadAt.note {phase : Phase} (ahead : AheadAt notes phase)
    (other : ∀ bus session generation, entry ≠ .ready bus session generation) :
    AheadAt (entry :: notes) phase := by
  have each : ∀ {first connections}, AllAhead notes first connections →
      AllAhead (entry :: notes) first connections :=
    fun ahead => ahead.note fun _ _ => other _
  cases phase with
  | admitting | dialling | offered | checking | installing => exact each ahead
  | _ => trivial

end Notes

/-! ### One step -/

namespace Marked

variable {phase next : Phase} {world after : GatewayWorld}

/-- A step that hears no READY message. -/
theorem move (marked : Marked phase world)
    (raised : ∀ bus, (world.publisher.active bus).highestGeneration ≤
      (after.publisher.active bus).highestGeneration)
    (entries : List GatewayNote) (notes : after.notes = entries ++ world.notes)
    (unheard : ∀ bus session generation, .ready bus session generation ∉ entries)
    (compared : ∀ bus session generation, PendingReady bus session generation phase →
      PendingReady bus session generation next ∨ .prepareFailed bus session ∈ entries ∨
        generation ≤ (after.publisher.active bus).highestGeneration)
    (ahead : AheadAt after.notes next) (audited : Audited installedAhead after.notes) :
    Marked next after := by
  refine ⟨fun bus session generation member => ?_, ahead, audited⟩
  rw [notes] at member ⊢
  have before := (List.mem_append.mp member).resolve_left (unheard bus session generation)
  rcases marked.mark bus session generation before with pending | failed | below
  · rcases compared bus session generation pending with still | failed | below
    · exact .inl still
    · exact .inr (.inl (List.mem_append_left _ failed))
    · exact .inr (.inr below)
  · exact .inr (.inl (List.mem_append_right _ failed))
  · exact .inr (.inr (below.trans (raised bus)))

/-- A READY message is heard: it is pending, and its bus comes after the connections in hand. -/
theorem ready {round : AdmissionRound} {session channels : Nat}
    (marked : Marked (.dialling round session channels none) world) (generation : Nat) :
    Marked (.dialling round session channels (some generation))
      (world.note (.ready round.bus session generation)) := by
  refine ⟨fun bus other heard member => ?_, ?_, trivial, marked.audited⟩
  · rcases List.mem_cons.mp member with same | before
    · cases same
      exact .inl ⟨rfl, rfl, rfl⟩
    · rcases marked.mark bus other heard before with pending | failed | below
      · exact pending.elim
      · exact .inr (.inl (List.mem_cons_of_mem _ failed))
      · exact .inr (.inr below)
  · refine AllAhead.note marked.ahead fun position inside other heard same => ?_
    rw [GatewayNote.ready.injEq, Nat.zero_add] at same
    exact absurd same.1 (Nat.ne_of_gt inside)

/-- A connection passes the mark: every READY message that was compared with the mark is behind
it. -/
theorem advance {round : AdmissionRound} (marked : Marked (.offered round connection) world)
    (ahead : (world.publisher.active round.bus).highestGeneration < connection.sourceGeneration) :
    AllAhead world.notes 0 (round.connections ++ [connection]) := by
  refine AllAhead.snoc marked.ahead fun session generation member foreign returned => ?_
  rcases marked.mark round.bus session generation member with pending | failed | below
  · exact absurd pending.2.1 foreign
  · exact absurd failed returned
  · exact below.trans_lt ahead

/-- A connection is installed: it has been ahead since it was offered. -/
theorem install {plan : Attempt} {renewed : Bool} {bus : Nat} {rest : List IngressConnection}
    (marked : Marked (.installing plan renewed bus (connection :: rest)) world) :
    AllAhead (.installed bus connection :: .cutoff bus :: world.notes) (bus + 1) rest ∧
      Audited installedAhead (.installed bus connection :: .cutoff bus :: world.notes) := by
  have all : AllAhead world.notes bus (connection :: rest) := marked.ahead
  have first : Ahead world.notes bus connection := all 0 connection rfl
  exact ⟨(all.tail.note (by simp)).note (by simp), first.note (by simp), trivial, marked.audited⟩

/-- Every step of the lifecycle keeps the invariant. -/
theorem step (marked : Marked phase world) (step : Step phase world next after) :
    Marked next after := by
  have ahead := marked.ahead
  have audited := marked.audited
  have raised := step.highestGeneration_le
  cases step with
  | begin =>
    exact marked.move raised [] rfl (by simp) (fun _ _ _ => False.elim)
      (by simp [AheadAt, AllAhead]) audited
  | dial | accept =>
    exact marked.move raised [] rfl (by simp) (fun _ _ _ => False.elim) ahead audited
  | ready => exact marked.ready _
  | prepareFails _ round dialled channels heard =>
    refine marked.move raised [_] rfl (by simp) ?_ trivial ⟨trivial, audited⟩
    intro bus session generation pending
    cases heard with
    | none => exact pending.elim
    | some heard =>
      obtain ⟨rfl, rfl, _⟩ := pending
      exact .inr (.inl (List.mem_singleton.mpr rfl))
  | prepared =>
    exact marked.move raised [] rfl (by simp) (fun _ _ _ pending => .inl pending) ahead audited
  | refuse _ _ _ behind =>
    refine marked.move raised [_] rfl (by simp) ?_ trivial ⟨trivial, audited⟩
    rintro bus session generation ⟨rfl, rfl, rfl⟩
    exact .inr (.inr behind)
  | advance _ _ _ passes =>
    refine marked.move raised [] rfl (by simp) ?_ (marked.advance passes) audited
    rintro bus session generation ⟨rfl, rfl, rfl⟩
    exact .inr (.inr (by simp [updateGateway, Gateway.raiseHighest, Gateway.setActive]))
  | admitAll =>
    exact marked.move raised [_] rfl (by simp) (fun _ _ _ => False.elim)
      (AllAhead.note ahead (by simp)) ⟨trivial, audited⟩
  | install =>
    exact marked.move raised [_, _] rfl (by simp) (fun _ _ _ => False.elim) marked.install.1
      marked.install.2
  | socket =>
    exact marked.move raised [_] rfl (by simp) (fun _ _ _ pending => .inl pending)
      (ahead.note (by simp)) ⟨trivial, audited⟩
  | foundExpired | cancelled | superseded | stale | unencodable | write | flushed | abandon | pause
    | late | reject | stopRejected | revokedRejected | report =>
    exact marked.move raised [_] rfl (by simp) (fun _ _ _ => False.elim) trivial ⟨trivial, audited⟩
  | _ => exact marked.move raised [] rfl (by simp) (fun _ _ _ => False.elim) trivial audited

theorem start (launch : Launch recovery) : Marked .attached launch.world := by
  refine ⟨fun bus session generation member => ?_, trivial,
    Audited.of_forall fun entry member _ => ?_⟩
  · obtain ⟨prepared, lane, has, same⟩ := launch.mem_notes_world.mp member
    cases same
    exact .inr (.inr (Nat.le_of_eq (launch.highestGeneration_world has).symm))
  · obtain ⟨_, _, _, rfl⟩ := launch.mem_notes_world.mp member
    trivial

/-- Wherever a run is, by induction along it. -/
theorem of_reach {launch : Launch recovery} (reached : Reach launch.world phase world) :
    Marked phase world := by
  refine reached.invariant (motive := Marked) (start launch) (fun phase world action _ marked => ?_)
    fun _ _ _ _ _ marked step => marked.step step
  refine ⟨?_, ?_, ?_⟩
  · simpa using marked.mark
  · simpa using marked.ahead
  · simpa using marked.audited

end Marked

/-! ### A generation that does not advance -/

/-- How a run ends whose relay repeated a generation: with that failure, unless a stop or a
revocation came first. -/
def RefusalDecides (shared : Shared) (error : Option IngressError) : Prop :=
  error = some (.failure .generation) ∨ error = none ∧ shared.stopRequested = true ∨
    error = some (.failure .credential) ∧ shared.control.revoked = true

/-- Where a run can be after a refusal. -/
def RefusalAt (shared : Shared) : Phase → Prop
  | .failed _ _ error | .rejected _ _ error | .unstopped _ _ error => error = .failure .generation
  | .ended error _ _ | .finished error => RefusalDecides shared error
  | _ => False

/-- The invariant of a run. -/
def Refused (phase : Phase) (world : GatewayWorld) : Prop :=
  (∃ bus session, .refused bus session ∈ world.notes) → RefusalAt world.shared phase

namespace Refused

variable {phase next : Phase} {world after : GatewayWorld}

theorem move (refused : Refused phase world) (entries : List GatewayNote)
    (notes : after.notes = entries ++ world.notes)
    (silent : ∀ bus session, .refused bus session ∉ entries)
    (follows : RefusalAt world.shared phase → RefusalAt after.shared next) :
    Refused next after := by
  rintro ⟨bus, session, member⟩
  rw [notes] at member
  exact follows (refused ⟨bus, session,
    (List.mem_append.mp member).resolve_left (silent bus session)⟩)

theorem act (refused : Refused phase world) (coherent : world.shared.control.Coherent)
    (action : Action) : Refused phase (world.perform action) := by
  refine refused.move [] (by simp) (by simp) fun follows => ?_
  have decides : ∀ error, RefusalDecides world.shared error →
      RefusalDecides (world.perform action).shared error := fun error =>
    Or.imp_right (Or.imp (And.imp_right (world.perform_stopRequested action))
      (And.imp_right (world.perform_revoked action coherent)))
  cases phase with
  | ended error _ _ | finished error => exact decides error follows
  | _ => exact follows

theorem step (refused : Refused phase world) (step : Step phase world next after) :
    Refused next after := by
  cases step with
  | refuse => exact fun _ => rfl
  | reject | socket => exact refused.move [_] rfl (by simp) id
  | stopRejected _ _ _ _ requested =>
    exact refused.move [_] rfl (by simp)
      fun _ => .inr (.inl ⟨rfl, (Bool.and_eq_true_iff.mp requested).2⟩)
  | revokedRejected _ _ _ _ revoked =>
    exact refused.move [_] rfl (by simp) fun _ => .inr (.inr ⟨rfl, revoked⟩)
  | goOn => exact refused.move [] rfl (by simp) id
  | terminal => exact refused.move [] rfl (by simp) fun same => .inl (congrArg some same)
  | retry _ _ _ _ again =>
    refine refused.move [] rfl (by simp) fun same => ?_
    rw [show _ = IngressError.failure .generation from same] at again
    simp [recoverable, credentialChanged] at again
  | report => exact refused.move [_] rfl (by simp) id
  | pauseForGood | recordInputDrops | closeDown => exact refused.move [] rfl (by simp) id
  | foundExpired | cancelled | superseded | stale | unencodable | write | flushed | abandon | pause
    | late | ready | prepareFails | admitAll => exact refused.move [_] rfl (by simp) False.elim
  | install => exact refused.move [_, _] rfl (by simp) False.elim
  | _ => exact refused.move [] rfl (by simp) False.elim

/-- Wherever a run is, by induction along it. -/
theorem of_reach {launch : Launch recovery} (reached : Reach launch.world phase world) :
    Refused phase world := by
  refine reached.invariant (motive := Refused) ?_
    (fun _ _ action reached refused => refused.act (reached.coherent launch.coherent) action)
    fun _ _ _ _ _ refused step => refused.step step
  rintro ⟨bus, session, member⟩
  obtain ⟨_, _, _, same⟩ := launch.mem_notes_world.mp member
  cases same

end Refused

def GatewayNote.isInstalled : GatewayNote → Bool
  | .installed .. => true
  | _ => false

/-- A connection is installed or a packet handed over only where nothing was refused before. -/
def unrefused (entry : GatewayNote) (earlier : List GatewayNote) : Prop :=
  entry.isInstalled = true ∨ entry.isMedia = true →
    ∀ bus session, .refused bus session ∉ earlier

theorem Reach.unrefused {launch : Launch recovery} {phase : Phase} {world : GatewayWorld}
    (reached : Reach launch.world phase world) : Audited RelayConnector.unrefused world.notes := by
  refine reached.invariant (motive := fun _ world => Audited RelayConnector.unrefused world.notes)
    (Audited.of_forall fun entry member _ => ?_) (fun _ world action _ audited => ?_) ?_
  · obtain ⟨_, _, _, rfl⟩ := launch.mem_notes_world.mp member
    exact nofun
  · simpa using audited
  intro phase world next after reached audited step
  have refused := Refused.of_reach reached
  cases step with
  | write => exact ⟨fun _ bus session member => refused ⟨bus, session, member⟩, audited⟩
  | install _ _ _ installed =>
    refine ⟨fun _ bus session member => ?_, nofun, audited⟩
    have member : .refused bus session ∈ .cutoff installed :: world.notes := member
    exact refused ⟨bus, session, by simpa using member⟩
  | foundExpired | cancelled | superseded | stale | unencodable | flushed | abandon | socket | pause
    | ready | prepareFails | refuse | late | admitAll | reject | stopRejected | revokedRejected
    | report => exact ⟨nofun, audited⟩
  | _ => exact audited

/-- In every run: a connection that is installed has a greater generation than every READY message
that an earlier `prepare` of its bus returned with, whatever became of the round; and if some
connection's generation does not advance, nothing more is installed or handed over, and the run
returns the generation failure, unless a stop or a revocation decided first. -/
theorem installed_generation_advances {recovery : Option PreparedIngressRecovery}
    (launch : Launch recovery) (schedule : List Turn) :
    (∀ later earlier bus connection,
      (launch.last schedule).notes = later ++ .installed bus connection :: earlier →
      ∀ session generation, .ready bus session generation ∈ earlier →
        session ≠ connection.session → .prepareFailed bus session ∉ earlier →
        generation < connection.sourceGeneration) ∧
    (∀ bus session, .refused bus session ∈ (launch.last schedule).notes →
      ∀ result, (launch.run schedule).1 = .ok result →
        result.error = some (.failure .generation) ∨
        result.error = none ∧ (launch.last schedule).shared.stopRequested = true ∨
        result.error = some (.failure .credential) ∧
          (launch.last schedule).shared.control.revoked = true) ∧
    ∀ later earlier bus session,
      (launch.last schedule).notes = later ++ .refused bus session :: earlier →
      ∀ entry ∈ later, entry.isInstalled = false ∧ entry.isMedia = false := by
  refine ⟨?_, ?_, ?_⟩
  · intro later earlier bus connection split
    obtain ⟨phase, reached⟩ := launch.reached schedule
    exact (Marked.of_reach reached).audited.at_split split
  · intro bus session member result returns
    exact Refused.of_reach (launch.returned returns).1 ⟨bus, session, member⟩
  · intro later earlier bus session split entry member
    obtain ⟨phase, reached⟩ := launch.reached schedule
    obtain ⟨last, between, rfl⟩ := List.append_of_mem member
    have split : (launch.last schedule).notes =
        last ++ entry :: (between ++ .refused bus session :: earlier) := by simpa using split
    have silent := reached.unrefused.at_split split
    refine ⟨Bool.eq_false_iff.mpr fun installed => ?_, Bool.eq_false_iff.mpr fun media => ?_⟩
    · exact silent (.inl installed) bus session (by simp)
    · exact silent (.inr media) bus session (by simp)

/-- The relay sends the generation of the lost connection again. -/
def repeatedGeneration : List Turn := untilReady ++ readyTurn 1 :: quietTurns 14

def GatewayNote.isRefused : GatewayNote → Bool
  | .refused .. => true
  | _ => false

/-- A new generation is installed, a repeated one ends the run. -/
theorem installed_generation_advances_reattached :
    (∃ later earlier bus connection,
      ((sampleLaunch 1).last (untilReady ++ readyTurn 2 :: quietTurns 8)).notes =
        later ++ .installed bus connection :: earlier ∧
      ∀ session generation, .ready bus session generation ∈ earlier →
        session ≠ connection.session → .prepareFailed bus session ∉ earlier →
        generation < connection.sourceGeneration) ∧
    ∃ result, ((sampleLaunch 1).run repeatedGeneration).1 = .ok result ∧
      result.error = some (.failure .generation) := by
  constructor
  · have reattached : ((sampleLaunch 1).last (untilReady ++ readyTurn 2 :: quietTurns 8)).notes.any
        GatewayNote.isInstalled = true := by decide +kernel
    obtain ⟨entry, member, installed⟩ := List.any_eq_true.mp reattached
    obtain ⟨later, earlier, split⟩ := List.append_of_mem member
    cases entry with
    | installed bus connection =>
      exact ⟨later, earlier, bus, connection, split,
        (installed_generation_advances _ _).1 later earlier bus connection split⟩
    | _ => cases installed
  · have refuses : ((sampleLaunch 1).last repeatedGeneration).notes.any GatewayNote.isRefused =
        true := by decide +kernel
    have returns : ((sampleLaunch 1).run repeatedGeneration).1.toOption.isSome = true := by
      decide +kernel
    have running : ((sampleLaunch 1).last repeatedGeneration).shared.stopRequested = false ∧
        ((sampleLaunch 1).last repeatedGeneration).shared.control.revoked = false := by
      decide +kernel
    obtain ⟨entry, member, refused⟩ := List.any_eq_true.mp refuses
    cases result : ((sampleLaunch 1).run repeatedGeneration).1 with
    | error halt =>
      rw [result] at returns
      cases returns
    | ok value =>
      refine ⟨value, rfl, ?_⟩
      cases entry with
      | refused bus session =>
        have ends := (installed_generation_advances _ _).2.1 bus session member value result
        simpa [running] using ends
      | _ => cases refused

/-- A stop that comes while the connections of the refused round are closed decides over the
refusal: the run ends without a failure although the relay repeated a generation. -/
theorem repeated_generation_stopped :
    (((sampleLaunch 1).run (untilReady ++ readyTurn 1 :: quietTurns 9 ++
        { before := [.requestStop] } :: quietTurns 3)).1.toOption.map
      fun result => result.error) = some none ∧
    ((sampleLaunch 1).last (untilReady ++ readyTurn 1 :: quietTurns 9 ++
        { before := [.requestStop] } :: quietTurns 3)).notes.any GatewayNote.isRefused = true := by
  decide +kernel

end RelayConnector
