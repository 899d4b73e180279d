/-
This file proves that a group publishes as a whole: whenever a media packet is handed to
a socket, all buses have connections of one round of admission that succeeded as a
whole, obtained with the credential that is held, and delivery is not paused.

The invariant follows the lifecycle. While the group is attached it is coherent; in a
round of admission the connections collected so far belong to that round and the round
has not been decided; while the round is installed, the buses before the cursor have its
connections. A reattachment discards what came before it, so nothing has to be known of
the buses in between.
-/

import RelayConnector.Audit
import RelayConnector.Launch

namespace RelayConnector

open GatewayWorld Audit

/-! ### What a coherent group is -/

/-- The credential that is held. -/
def Gateway.credential (gateway : Gateway) : Option PublisherCredential :=
  gateway.recovery.map (·.credential)

/-- Every bus has a connection of this admission. -/
def Gateway.Uniform (gateway : Gateway) (admission : Admission) : Prop :=
  ∀ bus < gateway.buses, ∃ connection, (gateway.active bus).connection = some connection ∧
    connection.admission = admission

/-- The round is the initial one or succeeded as a whole, and no reattachment has begun since. -/
structure Standing (round : Nat) (notes : List GatewayNote) : Prop where
  whole : round = 0 ∨ .admitted round ∈ notes
  latest : ∀ rounds, .reattaching rounds ∈ notes → rounds < round

/-- The group can publish. -/
def Coherent (gateway : Gateway) (paused : Option Bool) (notes : List GatewayNote) : Prop :=
  paused = some false ∧ ∃ round credential, gateway.credential = some credential ∧
    round ≤ gateway.rounds ∧ gateway.Uniform ⟨round, credential.revision, credential.token⟩ ∧
    Standing round notes

/-- What the notes say about rounds: all of them are past, and no round both succeeded and
failed. -/
structure Rounds (rounds : Nat) (notes : List GatewayNote) : Prop where
  admitted_le : ∀ round, .admitted round ∈ notes → round ≤ rounds
  rejected_le : ∀ round, .rejected round ∈ notes → round ≤ rounds
  reattaching_le : ∀ round, .reattaching round ∈ notes → round ≤ rounds
  exclusive : ∀ round, round = 0 ∨ .admitted round ∈ notes → .rejected round ∉ notes

/-- A media packet is handed over on a bus of a coherent group of so many buses. -/
def mediaCoherent (buses : Nat) : GatewayNote → List GatewayNote → Prop
  | .media bus _ _ gateway paused, earlier =>
    gateway.buses = buses ∧ bus < buses ∧ Coherent gateway paused earlier
  | _, _ => True

/-- The round in progress has not been decided. -/
structure Undecided (plan : Attempt) (rounds : Nat) (notes : List GatewayNote) : Prop where
  current : plan.round = rounds
  later : 0 < plan.round
  admitted : .admitted plan.round ∉ notes
  rejected : .rejected plan.round ∉ notes
  latest : ∀ round, .reattaching round ∈ notes → round < plan.round

/-- The buses before `bus` have connections of the plan; the others get theirs from `rest`. -/
structure Installing (gateway : Gateway) (plan : Attempt) (bus : Nat)
    (rest : List IngressConnection) : Prop where
  before : ∀ other < bus, ∃ connection, (gateway.active other).connection = some connection ∧
    connection.admission = plan.admission
  coming : ∀ connection ∈ rest, connection.admission = plan.admission
  all : bus + rest.length = gateway.buses

/-- The group at each point of the lifecycle. -/
def GroupAt (gateway : Gateway) (paused : Option Bool) (notes : List GatewayNote) : Phase → Prop
  | .attached | .broken _ | .reattaching => Coherent gateway paused notes
  | .holding bus _ | .wanted bus _ | .sending bus _ _ _ =>
    bus < gateway.buses ∧ Coherent gateway paused notes
  | .admitting round | .dialling round _ _ _ =>
    Undecided round.plan gateway.rounds notes ∧
      ∀ connection ∈ round.connections, connection.admission = round.plan.admission
  | .offered round offered | .checking round offered =>
    Undecided round.plan gateway.rounds notes ∧
      ∀ connection ∈ round.connections ++ [offered], connection.admission = round.plan.admission
  | .failed _ plan _ => Undecided plan gateway.rounds notes
  | .installing plan _ bus rest =>
    Installing gateway plan bus rest ∧ plan.round ≤ gateway.rounds ∧ Standing plan.round notes
  | .resuming plan =>
    gateway.credential = some plan.credential ∧ gateway.Uniform plan.admission ∧
      plan.round ≤ gateway.rounds ∧ Standing plan.round notes
  | _ => True

/-- The invariant of a run with recovery. -/
structure Grouped (phase : Phase) (world : GatewayWorld) : Prop where
  rounds : Rounds world.publisher.rounds world.notes
  audited : Audited (mediaCoherent world.publisher.buses) world.notes
  group : GroupAt world.publisher world.shared.paused world.notes phase

/-! ### What notes and effects leave alone -/

/-- The entries that decide something about rounds. -/
def GatewayNote.decides : GatewayNote → Bool
  | .admitted _ | .rejected _ | .reattaching _ => true
  | _ => false

section Notes

variable {entry : GatewayNote} {notes : List GatewayNote} {gateway : Gateway}
  {paused : Option Bool}

theorem mem_of_decides {decision : GatewayNote} (decides : decision.decides = true)
    (silent : entry.decides = false) (member : decision ∈ entry :: notes) : decision ∈ notes := by
  rcases List.mem_cons.mp member with rfl | earlier
  · rw [decides] at silent
    cases silent
  · exact earlier

theorem Rounds.note {rounds : Nat} (ledger : Rounds rounds notes)
    (silent : entry.decides = false) : Rounds rounds (entry :: notes) where
  admitted_le round member := ledger.admitted_le round (mem_of_decides rfl silent member)
  rejected_le round member := ledger.rejected_le round (mem_of_decides rfl silent member)
  reattaching_le round member := ledger.reattaching_le round (mem_of_decides rfl silent member)
  exclusive round whole member :=
    ledger.exclusive round (whole.imp_right (mem_of_decides rfl silent))
      (mem_of_decides rfl silent member)

theorem Standing.note {round : Nat} (standing : Standing round notes)
    (silent : entry.decides = false) : Standing round (entry :: notes) where
  whole := standing.whole.imp_right (List.mem_cons_of_mem _)
  latest rounds member := standing.latest rounds (mem_of_decides rfl silent member)

theorem Coherent.note (coherent : Coherent gateway paused notes)
    (silent : entry.decides = false) : Coherent gateway paused (entry :: notes) := by
  obtain ⟨flowing, round, revision, held, bounded, uniform, standing⟩ := coherent
  exact ⟨flowing, round, revision, held, bounded, uniform, standing.note silent⟩

theorem Undecided.note {plan : Attempt} {rounds : Nat} (undecided : Undecided plan rounds notes)
    (silent : entry.decides = false) : Undecided plan rounds (entry :: notes) where
  current := undecided.current
  later := undecided.later
  admitted member := undecided.admitted (mem_of_decides rfl silent member)
  rejected member := undecided.rejected (mem_of_decides rfl silent member)
  latest round member := undecided.latest round (mem_of_decides rfl silent member)

theorem GroupAt.note {phase : Phase} (group : GroupAt gateway paused notes phase)
    (silent : entry.decides = false) : GroupAt gateway paused (entry :: notes) phase := by
  cases phase with
  | attached | broken | reattaching => exact Coherent.note group silent
  | holding | wanted | sending => exact ⟨group.1, group.2.note silent⟩
  | admitting | dialling | offered | checking => exact ⟨group.1.note silent, group.2⟩
  | failed => exact Undecided.note group silent
  | installing => exact ⟨group.1, group.2.1, group.2.2.note silent⟩
  | resuming => exact ⟨group.1, group.2.1, group.2.2.1, group.2.2.2.note silent⟩
  | _ => trivial

end Notes

/-- The group's connections, its credential and the count of its rounds are the same. -/
structure SameGroup (before after : Gateway) : Prop where
  buses : after.buses = before.buses
  rounds : after.rounds = before.rounds
  recovery : after.recovery = before.recovery
  connection : ∀ bus, (after.active bus).connection = (before.active bus).connection

theorem Coherent.same {before after : Gateway} {paused : Option Bool} {notes : List GatewayNote}
    (coherent : Coherent before paused notes) (same : SameGroup before after) :
    Coherent after paused notes := by
  obtain ⟨flowing, round, credential, held, bounded, uniform, standing⟩ := coherent
  refine ⟨flowing, round, credential, ?_, same.rounds ▸ bounded, ?_, standing⟩
  · rw [← held, Gateway.credential, same.recovery, Gateway.credential]
  · intro bus inside
    rw [same.connection]
    exact uniform bus (same.buses ▸ inside)

theorem sameGroup_setActive (gateway : Gateway) {bus : Nat} {active : ActiveIngress}
    (kept : active.connection = (gateway.active bus).connection) :
    SameGroup gateway (gateway.setActive bus active) where
  buses := rfl
  rounds := rfl
  recovery := rfl
  connection other := by
    by_cases same : other = bus
    · subst same
      simp [Gateway.setActive, kept]
    · simp [Gateway.setActive, same]

theorem sameGroup_settleFrame (bus : Nat) (outcome : FrameOutcome) (frame : EncodedAudioFrame)
    (world : GatewayWorld) :
    SameGroup world.publisher (settleFrame bus outcome frame world).publisher := by
  cases outcome with
  | cancelled | stale => exact ⟨rfl, rfl, rfl, fun _ => rfl⟩
  | superseded | undelivered | sent => exact sameGroup_setActive _ rfl

@[simp] theorem notes_setPaused (value : Bool) (world : GatewayWorld) :
    (setPaused value world).notes = world.notes := rfl

@[simp] theorem paused_settleFrame (bus : Nat) (outcome : FrameOutcome)
    (frame : EncodedAudioFrame) (world : GatewayWorld) :
    (settleFrame bus outcome frame world).shared.paused = world.shared.paused := by
  cases outcome <;> rfl

/-! ### One step -/

namespace Grouped

variable {phase next : Phase} {world after : GatewayWorld}

/-- What becomes of a frame does not concern the group. -/
theorem settle (grouped : Grouped phase world) {bus : Nat} {outcome : FrameOutcome}
    {frame : EncodedAudioFrame}
    (coherent : Coherent world.publisher world.shared.paused world.notes)
    (moves : ∀ gateway paused notes, Coherent gateway paused notes →
      GroupAt gateway paused notes next) :
    Grouped next (settleFrame bus outcome frame world) := by
  have same := sameGroup_settleFrame bus outcome frame world
  refine ⟨?_, ?_, ?_⟩
  · rw [same.rounds, notes_settleFrame]
    exact grouped.rounds.note rfl
  · rw [same.buses, notes_settleFrame]
    exact ⟨trivial, grouped.audited⟩
  · rw [notes_settleFrame, paused_settleFrame]
    exact moves _ _ _ ((coherent.same same).note rfl)

/-- A note that decides nothing. -/
theorem note (grouped : Grouped phase world) {entry : GatewayNote} (silent : entry.decides = false)
    (passes : mediaCoherent world.publisher.buses entry world.notes)
    (group : GroupAt world.publisher world.shared.paused (entry :: world.notes) next) :
    Grouped next (world.note entry) where
  rounds := grouped.rounds.note silent
  audited := ⟨passes, grouped.audited⟩
  group := group

/-- A reattachment begins: from here on only a round still to come can carry media. -/
theorem pause (grouped : Grouped .reattaching world) :
    Grouped .closing ((setPaused true world).note (.reattaching world.publisher.rounds)) where
  rounds :=
    { admitted_le := fun round member => grouped.rounds.admitted_le round (by simpa using member)
      rejected_le := fun round member => grouped.rounds.rejected_le round (by simpa using member)
      reattaching_le := fun round member => by
        rcases List.mem_cons.mp member with same | earlier
        · cases same
          exact Nat.le_refl _
        · exact grouped.rounds.reattaching_le round earlier
      exclusive := fun round whole member =>
        grouped.rounds.exclusive round (by simpa using whole) (by simpa using member) }
  audited := ⟨trivial, grouped.audited⟩
  group := trivial

/-- A round begins: nothing has been noted about it. -/
theorem begin (grouped : Grouped phase world) (made deadline : Nat)
    (credential : PublisherCredential) :
    Grouped (.admitting ⟨made + 1, ⟨credential, deadline, world.publisher.rounds + 1⟩, []⟩)
      (updateGateway Gateway.beginRound world) where
  rounds :=
    { grouped.rounds with
      admitted_le := fun round member => Nat.le_succ_of_le (grouped.rounds.admitted_le round member)
      rejected_le := fun round member => Nat.le_succ_of_le (grouped.rounds.rejected_le round member)
      reattaching_le := fun round member =>
        Nat.le_succ_of_le (grouped.rounds.reattaching_le round member) }
  audited := grouped.audited
  group :=
    ⟨{ current := rfl
       later := Nat.succ_pos _
       admitted := fun member => Nat.not_succ_le_self _ (grouped.rounds.admitted_le _ member)
       rejected := fun member => Nat.not_succ_le_self _ (grouped.rounds.rejected_le _ member)
       latest := fun round member =>
         Nat.lt_succ_of_le (grouped.rounds.reattaching_le round member) },
      by simp⟩

/-- The whole group was obtained: the round is decided, and nothing else has been. -/
theorem admitAll {round : AdmissionRound} (grouped : Grouped (.admitting round) world)
    (renewed : Bool) (complete : round.connections.length = world.publisher.buses) :
    Grouped (.installing round.plan renewed 0 round.connections)
      (world.note (.admitted round.plan.round)) := by
  obtain ⟨undecided, admissions⟩ := grouped.group
  refine ⟨?_, ⟨trivial, grouped.audited⟩, ⟨?_, admissions, ?_⟩, ?_, ?_⟩
  · refine ⟨fun other member => ?_, fun other member => ?_, fun other member => ?_,
      fun other whole member => ?_⟩
    · rcases List.mem_cons.mp member with same | earlier
      · cases same
        exact Nat.le_of_eq undecided.current
      · exact grouped.rounds.admitted_le other earlier
    · exact grouped.rounds.rejected_le other (by simpa using member)
    · exact grouped.rounds.reattaching_le other (by simpa using member)
    · have rejected : .rejected other ∈ world.notes := by simpa using member
      rcases whole with zero | member
      · exact grouped.rounds.exclusive other (.inl zero) rejected
      · rcases List.mem_cons.mp member with same | earlier
        · cases same
          exact undecided.rejected rejected
        · exact grouped.rounds.exclusive other (.inr earlier) rejected
  · exact fun other impossible => absurd impossible (Nat.not_lt_zero _)
  · rw [Nat.zero_add]
    exact complete
  · exact Nat.le_of_eq undecided.current
  · exact ⟨.inr (List.mem_cons_self ..), fun other member =>
      undecided.latest other (by simpa using member)⟩

/-- Some bus failed: the round is decided the other way. -/
theorem reject {made : Nat} {plan : Attempt} {error : IngressError}
    (grouped : Grouped (.failed made plan error) world) :
    Grouped (.rejected made plan error) (world.note (.rejected plan.round)) := by
  have undecided : Undecided plan world.publisher.rounds world.notes := grouped.group
  refine ⟨⟨fun other member => ?_, fun other member => ?_, fun other member => ?_,
    fun other whole member => ?_⟩, ⟨trivial, grouped.audited⟩, trivial⟩
  · exact grouped.rounds.admitted_le other (by simpa using member)
  · rcases List.mem_cons.mp member with same | earlier
    · cases same
      exact Nat.le_of_eq undecided.current
    · exact grouped.rounds.rejected_le other earlier
  · exact grouped.rounds.reattaching_le other (by simpa using member)
  · have admitted : other = 0 ∨ .admitted other ∈ world.notes := by simpa using whole
    rcases List.mem_cons.mp member with same | earlier
    · cases same
      rcases admitted with zero | earlier
      · exact absurd undecided.later (Nat.not_lt.mpr (Nat.le_of_eq zero))
      · exact undecided.admitted earlier
    · exact grouped.rounds.exclusive other admitted earlier

/-- One more bus has its connection of the round. -/
theorem install {plan : Attempt} {renewed : Bool} {bus : Nat} {connection : IngressConnection}
    {rest : List IngressConnection}
    (grouped : Grouped (.installing plan renewed bus (connection :: rest)) world) :
    Grouped (.installing plan renewed (bus + 1) rest)
      (GatewayWorld.install bus connection plan.credential.revision renewed world) := by
  obtain ⟨installing, bounded, standing⟩ := grouped.group
  refine ⟨(grouped.rounds.note rfl).note rfl, ⟨trivial, trivial, grouped.audited⟩,
    ⟨?_, ?_, ?_⟩, bounded, (standing.note rfl).note rfl⟩
  · intro other inside
    by_cases same : other = bus
    · subst same
      refine ⟨connection, ?_, installing.coming connection (List.mem_cons_self ..)⟩
      simp [GatewayWorld.install, World.note, updateGateway, Gateway.setActive,
        ActiveIngress.install]
    · obtain ⟨earlier, has, admission⟩ :=
        installing.before other (Nat.lt_of_le_of_ne (Nat.le_of_lt_succ inside) same)
      refine ⟨earlier, ?_, admission⟩
      simpa [GatewayWorld.install, World.note, updateGateway, Gateway.setActive, same] using has
  · exact fun other member => installing.coming other (List.mem_cons_of_mem _ member)
  · have all := installing.all
    rw [List.length_cons] at all
    show bus + 1 + rest.length = world.publisher.buses
    omega

/-- All buses have their connections: the credential they were obtained with becomes the one
that is held. -/
theorem adopt {plan : Attempt} {renewed : Bool} {bus : Nat}
    (grouped : Grouped (.installing plan renewed bus []) world)
    (renewable : world.publisher.recovery.isSome = true) :
    Grouped (.resuming plan) (updateGateway (·.adopt plan.credential) world) := by
  obtain ⟨installing, bounded, standing⟩ := grouped.group
  obtain ⟨recovery, held⟩ := Option.isSome_iff_exists.mp renewable
  refine ⟨grouped.rounds, grouped.audited, ?_, fun other inside => ?_, bounded, standing⟩
  · simp [updateGateway, Gateway.adopt, Gateway.credential, held]
  · exact installing.before other (Nat.lt_of_lt_of_eq inside installing.all.symm)

/-- Every step of the lifecycle keeps the invariant. -/
theorem step (grouped : Grouped phase world) (renewable : world.publisher.recovery.isSome = true)
    (step : Step phase world next after) : Grouped next after := by
  have group := grouped.group
  cases step with
  | leave | foundRevoked | giveUp | detach | stop | revokedWhileWaiting | exhausted | snapshot
    | snapshotFails | outOfTime | goOn | terminal | retry | pauseForGood | recordInputDrops
    | closeDown =>
    exact ⟨grouped.rounds, grouped.audited, trivial⟩
  | renew | readFails | recover | want | pack | seeUnrevoked | seeCurrent | seeUnexpired
    | unguarded | dial | advance | accept => exact ⟨grouped.rounds, grouped.audited, group⟩
  | disconnected => exact ⟨grouped.rounds, grouped.audited, group.2⟩
  | deny | withdraw => exact ⟨grouped.rounds, grouped.audited, group.1⟩
  | foundExpired | stopRejected | revokedRejected | report => exact grouped.note rfl trivial trivial
  | disconnect =>
    exact ⟨grouped.rounds, grouped.audited, group.same (sameGroup_setActive _ rfl)⟩
  | receive _ _ _ _ inside => exact ⟨grouped.rounds, grouped.audited, inside, group⟩
  | cancelled | superseded | stale | flushed | abandon =>
    exact grouped.settle group.2 fun _ _ _ coherent => coherent
  | unencodable => exact grouped.note rfl trivial (group.2.note rfl)
  | write => exact grouped.note rfl ⟨rfl, group⟩ (group.note rfl)
  | socket => exact grouped.note rfl trivial (group.note rfl)
  | pause => exact grouped.pause
  | begin _ made credential deadline => exact grouped.begin made deadline credential
  | ready => exact grouped.note rfl trivial ⟨group.1.note rfl, group.2⟩
  | prepared =>
    refine ⟨grouped.rounds, grouped.audited, group.1, fun connection member => ?_⟩
    rcases List.mem_append.mp member with earlier | offered
    · exact group.2 connection earlier
    · rw [List.mem_singleton.mp offered]
  | prepareFails | refuse | late => exact grouped.note rfl trivial (group.1.note rfl)
  | admitAll _ _ renewed complete => exact grouped.admitAll renewed complete
  | reject => exact grouped.reject
  | install => exact grouped.install
  | adopt => exact grouped.adopt renewable
  | resume =>
    obtain ⟨held, uniform, bounded, standing⟩ := group
    exact ⟨grouped.rounds, grouped.audited, rfl, _, _, held, bounded, uniform, standing⟩

/-- Other threads enter no notes and touch neither the group nor `paused`. -/
theorem act (grouped : Grouped phase world) (action : Action) :
    Grouped phase (world.perform action) := by
  refine ⟨?_, ?_, ?_⟩
  · simpa using grouped.rounds
  · simpa using grouped.audited
  · simpa using grouped.group

/-- At the start the group is coherent: all of it was prepared with the held credential. -/
theorem start {held : PreparedIngressRecovery} (launch : Launch (some held)) :
    Grouped .attached launch.world := by
  have ready : ∀ entry ∈ launch.world.notes, ∃ bus generation,
      .ready bus bus generation = entry := fun entry member => by
    obtain ⟨bus, lane, _, same⟩ := launch.mem_notes_world.mp member
    exact ⟨bus, _, same⟩
  have undecided : ∀ decision : GatewayNote, decision.decides = true →
      decision ∉ launch.world.notes := by
    intro decision decides member
    obtain ⟨_, _, rfl⟩ := ready decision member
    cases decides
  refine ⟨⟨?_, ?_, ?_, ?_⟩, Audited.of_forall fun entry member earlier => ?_,
    rfl, 0, held.credential, rfl, Nat.le_refl _, ?_, .inl rfl, ?_⟩
  · exact fun round member => absurd member (undecided _ rfl)
  · exact fun round member => absurd member (undecided _ rfl)
  · exact fun round member => absurd member (undecided _ rfl)
  · exact fun round _ => undecided _ rfl
  · obtain ⟨_, _, rfl⟩ := ready entry member
    trivial
  · intro bus inside
    exact ⟨_, launch.active_connection (launch.buses_eq ▸ inside), rfl⟩
  · exact fun rounds member => absurd member (undecided _ rfl)

/-- Wherever a run with recovery is, by induction along it. -/
theorem of_reach {held : PreparedIngressRecovery} {launch : Launch (some held)}
    (reached : Reach launch.world phase world) : Grouped phase world :=
  reached.invariant (motive := Grouped) (start launch)
    (fun _ _ action _ grouped => grouped.act action)
    (fun _ _ _ _ reached grouped step => grouped.step reached.isSome_recovery step)

end Grouped

/-- In every run with recovery, whatever the relay answers and whatever the other threads do: when
a media packet is handed to a socket, every bus has a connection of one and the same round, which
presented the token of the credential that is held, and delivery is not paused. That round is the
initial one or one that succeeded as a whole; no bus of it ever failed, and no reattachment has
begun since. -/
theorem media_of_coherent_group {held : PreparedIngressRecovery} (launch : Launch (some held))
    (schedule : List Turn) (later earlier : List GatewayNote) (bus : Nat)
    (frame : EncodedAudioFrame) (packet : List UInt8) (gateway : Gateway) (paused : Option Bool)
    (split : (launch.last schedule).notes =
      later ++ .media bus frame packet gateway paused :: earlier) :
    bus < launch.lanes.length ∧ paused = some false ∧
      ∃ round credential, gateway.recovery.map (·.credential) = some credential ∧
        (∀ other < launch.lanes.length, ∃ connection,
          (gateway.active other).connection = some connection ∧
            connection.admission = ⟨round, credential.revision, credential.token⟩) ∧
        (round = 0 ∨ .admitted round ∈ earlier) ∧
        .rejected round ∉ (launch.last schedule).notes ∧
        ∀ rounds, .reattaching rounds ∈ earlier → rounds < round := by
  obtain ⟨phase, reached⟩ := launch.reached schedule
  have grouped := Grouped.of_reach reached
  obtain ⟨buses, inside, flowing, round, credential, current, _, uniform, standing⟩ :=
    grouped.audited.at_split split
  rw [reached.buses, launch.buses_eq] at buses inside
  rw [Gateway.Uniform, buses] at uniform
  refine ⟨inside, flowing, round, credential, current, uniform, standing.whole, ?_, standing.latest⟩
  -- a round that succeeded by then is in the notes for good
  refine grouped.rounds.exclusive round (standing.whole.imp_right fun member => ?_)
  rw [split]
  exact List.mem_append_right _ (List.mem_cons_of_mem _ member)

theorem media_of_coherent_group_first_packet :
    ∃ later earlier bus frame packet gateway paused,
      ((sampleLaunch 2).last firstPacket).notes =
        later ++ .media bus frame packet gateway paused :: earlier ∧
      bus < (sampleLaunch 2).lanes.length ∧ paused = some false := by
  have sent : ((sampleLaunch 2).last firstPacket).notes.any GatewayNote.isMedia = true := by
    decide +kernel
  obtain ⟨later, earlier, bus, frame, packet, gateway, paused, split⟩ := exists_media_split sent
  obtain ⟨inside, flowing, _⟩ := media_of_coherent_group (sampleLaunch 2) firstPacket later earlier
    bus frame packet gateway paused split
  exact ⟨later, earlier, bus, frame, packet, gateway, paused, split, inside, flowing⟩

end RelayConnector
