/-
This file proves the identities of the renewal receipts.

The counters of a stream are raised at different points of `reattach`: the attempts
before a group is admitted, the others bus by bus once it is. What they come to is said
in three parts. The counters of all buses are one tally of renewals, reconnects and
rounds, except while the connections of a round are being installed. The connections a
bus has had tell its source generation and its credential revision. And the notes of a
run tell how many attempts each call of `reattach` made.
-/

import RelayConnector.Accounting
import RelayConnector.Coherence
import RelayConnector.Expiry

namespace RelayConnector

open Words GatewayWorld

/-! ### One tally for all buses -/

/-- The counters of a stream that reattachments raise, and the revision of its credential. -/
structure Receipt where
  attachments : Nat
  discontinuities : Nat
  renewals : Nat
  reconnects : Nat
  attempts : Nat
  revision : Nat
  deriving DecidableEq, Repr

def PublishStreamStats.receipt (statistics : PublishStreamStats) : Receipt where
  attachments := statistics.ingressAttachments
  discontinuities := statistics.ingressDiscontinuities
  renewals := statistics.ingressRenewals
  reconnects := statistics.ingressReconnects
  attempts := statistics.ingressReconnectAttempts
  revision := statistics.ingressCredentialRevision

/-- The counters after so many renewals, reconnects and attempts; each stops at the largest word. -/
def Receipt.tally (renewals reconnects attempts revision : Nat) : Receipt where
  attachments := min (1 + (renewals + reconnects)) u64Max
  discontinuities := min (renewals + reconnects) u64Max
  renewals := min renewals u64Max
  reconnects := min reconnects u64Max
  attempts := min attempts u64Max
  revision := revision

/-- No counter stands at the largest word. -/
def Receipt.Unsaturated (receipt : Receipt) : Prop :=
  receipt.attachments < u64Max ∧ receipt.discontinuities < u64Max ∧
    receipt.renewals < u64Max ∧ receipt.reconnects < u64Max ∧ receipt.attempts < u64Max

namespace ActiveIngress

def receipt (active : ActiveIngress) : Receipt := active.statistics.receipt

/-- A new attachment counts as a renewal or as a reconnect. -/
theorem receipt_install {active : ActiveIngress} {renewals reconnects attempts revision : Nat}
    (before : active.receipt = .tally renewals reconnects attempts revision)
    (connection : IngressConnection) (renewedRevision cutoff : Nat) (renewed : Bool) :
    (active.install connection renewedRevision cutoff renewed).receipt =
      .tally (renewals + renewed.toNat) (reconnects + (!renewed).toNat) attempts
        renewedRevision := by
  simp only [receipt, PublishStreamStats.receipt, Receipt.tally, Receipt.mk.injEq] at before
  obtain ⟨attachments, discontinuities, renewals', reconnects', attempts', -⟩ := before
  cases renewed <;>
    simp [receipt, PublishStreamStats.receipt, Receipt.tally, install, attachments,
      discontinuities, renewals', reconnects', attempts', saturatingAdd_min, Nat.add_assoc,
      Nat.add_comm, Nat.add_left_comm]

theorem receipt_countAttempt {active : ActiveIngress} {renewals reconnects attempts revision : Nat}
    (before : active.receipt = .tally renewals reconnects attempts revision) :
    (active.count PublishStreamStats.countAttempt).receipt =
      .tally renewals reconnects (attempts + 1) revision := by
  simp only [receipt, PublishStreamStats.receipt, Receipt.tally, Receipt.mk.injEq] at before
  obtain ⟨attachments, discontinuities, renewals', reconnects', attempts', revision'⟩ := before
  simp [receipt, PublishStreamStats.receipt, Receipt.tally, count,
    PublishStreamStats.countAttempt, attachments, discontinuities, renewals', reconnects',
    attempts', revision', saturatingAdd_min]

end ActiveIngress

/-- The buses before `bus` show `first`, the others `second`. -/
def Gateway.Show (gateway : Gateway) (bus : Nat) (first second : Receipt) : Prop :=
  ∀ other < gateway.buses, (gateway.active other).receipt = if other < bus then first else second

/-- The receipts at each point of the lifecycle. -/
def ReceiptsAt (gateway : Gateway) : Phase → Prop
  | .installing plan renewed bus _ => ∃ renewals reconnects revision,
    gateway.heldRevision = some revision ∧
      gateway.Show bus
        (.tally (renewals + renewed.toNat) (reconnects + (!renewed).toNat) gateway.rounds
          plan.credential.revision)
        (.tally renewals reconnects gateway.rounds revision)
  | _ => ∃ renewals reconnects revision, gateway.heldRevision = some revision ∧
    gateway.Show 0 (.tally renewals reconnects gateway.rounds revision)
      (.tally renewals reconnects gateway.rounds revision)

namespace ReceiptsAt

variable {phase next : Phase} {gateway : Gateway} {world after : GatewayWorld} {made : Nat}
  {credential : PublisherCredential}

/-- What leaves the receipts, the rounds and the credential alone. -/
theorem keep {after : Gateway} (receipts : ReceiptsAt gateway phase)
    (buses : after.buses = gateway.buses)
    (rounds : after.rounds = gateway.rounds) (held : after.heldRevision = gateway.heldRevision)
    (same : ∀ bus, (after.active bus).receipt = (gateway.active bus).receipt)
    (quiet : ∀ plan renewed bus rest, phase ≠ .installing plan renewed bus rest)
    (still : ∀ plan renewed bus rest, next ≠ .installing plan renewed bus rest) :
    ReceiptsAt after next := by
  have common : ∃ renewals reconnects revision, gateway.heldRevision = some revision ∧
      gateway.Show 0 (.tally renewals reconnects gateway.rounds revision)
        (.tally renewals reconnects gateway.rounds revision) := by
    cases phase with
    | installing plan renewed bus rest => exact absurd rfl (quiet plan renewed bus rest)
    | _ => exact receipts
  obtain ⟨renewals, reconnects, revision, isHeld, shows⟩ := common
  have kept : ∃ renewals reconnects revision, after.heldRevision = some revision ∧
      after.Show 0 (.tally renewals reconnects after.rounds revision)
        (.tally renewals reconnects after.rounds revision) := by
    refine ⟨renewals, reconnects, revision, held.trans isHeld, fun other inside => ?_⟩
    rw [same, rounds]
    exact shows other (buses ▸ inside)
  cases next with
  | installing plan renewed bus rest => exact absurd rfl (still plan renewed bus rest)
  | _ => exact kept

/-- Every stream counts an attempt, and a round begins. -/
theorem begin (receipts : ReceiptsAt gateway (.renewing made credential))
    (round : AdmissionRound) : ReceiptsAt gateway.beginRound (.admitting round) := by
  obtain ⟨renewals, reconnects, revision, held, shows⟩ := receipts
  exact ⟨renewals, reconnects, revision, held, fun other inside =>
    ActiveIngress.receipt_countAttempt (shows other inside)⟩

/-- A connection is installed on the next bus. -/
theorem install {plan : Attempt} {renewed : Bool} {bus : Nat} {connection : IngressConnection}
    {rest : List IngressConnection} (cutoff : Nat)
    (receipts : ReceiptsAt gateway (.installing plan renewed bus (connection :: rest))) :
    ReceiptsAt (gateway.setActive bus ((gateway.active bus).install connection
      plan.credential.revision cutoff renewed)) (.installing plan renewed (bus + 1) rest) := by
  obtain ⟨renewals, reconnects, revision, held, shows⟩ := receipts
  refine ⟨renewals, reconnects, revision, held, fun other inside => ?_⟩
  have before := shows other inside
  by_cases same : other = bus
  · subst same
    rw [if_neg (Nat.lt_irrefl _)] at before
    rw [if_pos (Nat.lt_succ_self _)]
    simpa [Gateway.setActive] using
      ActiveIngress.receipt_install before connection plan.credential.revision cutoff renewed
  · have either : other < bus + 1 ↔ other < bus := by omega
    simpa [Gateway.setActive, same, either] using before

/-- The last bus has its connection, and the credential of the round is adopted. -/
theorem adopt {plan : Attempt} {renewed : Bool} (recovers : gateway.recovery.isSome = true)
    (receipts : ReceiptsAt gateway (.installing plan renewed gateway.buses [])) :
    ReceiptsAt (gateway.adopt plan.credential) (.resuming plan) := by
  obtain ⟨renewals, reconnects, revision, held, shows⟩ := receipts
  obtain ⟨recovery, has⟩ := Option.isSome_iff_exists.mp recovers
  refine ⟨renewals + renewed.toNat, reconnects + (!renewed).toNat, plan.credential.revision, ?_,
    fun other inside => ?_⟩
  · rw [Gateway.heldRevision, Gateway.adopt, has]
    rfl
  · exact (shows other inside).trans ((if_pos inside).trans (if_neg (Nat.not_lt_zero _)).symm)

theorem settle (receipts : ReceiptsAt world.publisher phase) (bus : Nat) (outcome : FrameOutcome)
    (frame : EncodedAudioFrame)
    (quiet : ∀ plan renewed bus rest, phase ≠ .installing plan renewed bus rest)
    (still : ∀ plan renewed bus rest, next ≠ .installing plan renewed bus rest) :
    ReceiptsAt (settleFrame bus outcome frame world).publisher next := by
  have same : ∀ change : PublishStreamStats → PublishStreamStats,
      (∀ statistics, (change statistics).receipt = statistics.receipt) →
      ReceiptsAt (world.publisher.setActive bus ((world.publisher.active bus).count change))
        next := by
    intro change keeps
    refine receipts.keep rfl rfl rfl (view_setActive ActiveIngress.receipt ?_) quiet still
    exact keeps _
  cases outcome with
  | cancelled | stale => exact receipts.keep rfl rfl rfl (fun _ => rfl) quiet still
  | superseded | undelivered | sent => exact same _ fun _ => rfl

theorem step (receipts : ReceiptsAt world.publisher phase)
    (connected : phase.Connected world.publisher)
    (recovers : world.publisher.recovery.isSome = true) (step : Step phase world next after) :
    ReceiptsAt after.publisher next := by
  cases step with
  | begin => exact receipts.begin _
  | admitAll =>
    obtain ⟨renewals, reconnects, revision, held, shows⟩ := receipts
    exact ⟨renewals, reconnects, revision, held, fun other inside =>
      (shows other inside).trans (if_neg (Nat.not_lt_zero _)).symm⟩
  | install => exact receipts.install _
  | adopt _ plan renewed bus =>
    have all : bus = world.publisher.buses := connected.2
    subst all
    exact receipts.adopt recovers
  | cancelled | superseded | stale | flushed | abandon => exact receipts.settle _ _ _ nofun nofun
  | socket => exact receipts
  | disconnect | advance | recordInputDrops =>
    refine receipts.keep rfl rfl rfl (view_setActive ActiveIngress.receipt ?_) nofun nofun
    rfl
  | _ => exact receipts.keep rfl rfl rfl (fun _ => rfl) nofun nofun

end ReceiptsAt

/-! ### The connections a bus has had -/

/-- The connections installed on a bus, oldest first. -/
def installedOn (bus : Nat) (notes : List GatewayNote) : List IngressConnection :=
  notes.reverse.filterMap fun
    | .installed other connection => if other = bus then some connection else none
    | _ => none

theorem installedOn_append (bus : Nat) (entries notes : List GatewayNote) :
    installedOn bus (entries ++ notes) = installedOn bus notes ++ installedOn bus entries := by
  simp [installedOn]

/-- A revision in hand is not below the held one. -/
def Ordered (phase : Phase) (world : GatewayWorld) : Prop :=
  ∀ credential held, phase.credential = some credential →
    world.publisher.heldRevision = some held → held ≤ credential.revision

theorem Ordered.of_none {phase : Phase} {world : GatewayWorld} (none : phase.credential = none) :
    Ordered phase world := by
  intro credential held has
  rw [none] at has
  cases has

theorem Ordered.step {phase next : Phase} {world after : GatewayWorld}
    (ordered : Ordered phase world) (known : Known phase world)
    (step : Step phase world next after) : Ordered next after := by
  cases step with
  | snapshot _ _ _ free =>
    rintro credential held ⟨⟩ isHeld
    obtain ⟨recovery, has, rfl⟩ := Option.map_eq_some_iff.mp isHeld
    have latest : world.shared.control.renewed = world.shared.control.credential := by
      rw [SharedControl.renewed, free]
    exact latest ▸ (known.held recovery has).1
  | adopt =>
    rintro credential held ⟨⟩ isHeld
    obtain ⟨recovery, has, rfl⟩ := Option.map_eq_some_iff.mp isHeld
    obtain ⟨before, _, rfl⟩ := Option.map_eq_some_iff.mp has
    exact Nat.le_refl _
  | begin | deny | dial | ready | prepareFails | prepared | refuse | advance | withdraw | late
    | accept | admitAll | reject | goOn | install | socket => exact ordered
  | _ => exact .of_none rfl

/-- The generations of connections in hand do not exceed the marks of their buses. -/
def Gateway.Marks (gateway : Gateway) (first : Nat) (connections : List IngressConnection) : Prop :=
  ∀ position connection, connections[position]? = some connection →
    connection.sourceGeneration ≤ (gateway.active (first + position)).highestGeneration

def MarksAt (gateway : Gateway) : Phase → Prop
  | .admitting round | .dialling round _ _ _ | .offered round _ => gateway.Marks 0 round.connections
  | .checking round connection => gateway.Marks 0 (round.connections ++ [connection])
  | .installing _ _ bus rest => gateway.Marks bus rest
  | _ => True

theorem Gateway.Marks.mono {gateway after : Gateway} {first : Nat}
    {connections : List IngressConnection} (marks : gateway.Marks first connections)
    (raised : ∀ bus, (gateway.active bus).highestGeneration ≤
      (after.active bus).highestGeneration) : after.Marks first connections :=
  fun position connection has => (marks position connection has).trans (raised _)

theorem MarksAt.step {phase next : Phase} {world after : GatewayWorld}
    (marks : MarksAt world.publisher phase) (step : Step phase world next after) :
    MarksAt after.publisher next := by
  have raised := step.highestGeneration_le
  cases step with
  | begin =>
    intro position connection has
    cases has
  | advance _ round connection =>
    intro position other has
    by_cases before : position < round.connections.length
    · rw [List.getElem?_append_left before] at has
      exact (marks position other has).trans (raised _)
    · rw [List.getElem?_append_right (Nat.not_lt.mp before)] at has
      obtain ⟨last, same⟩ := List.getElem?_eq_some_iff.mp has
      have here : position = round.bus := by
        simp only [List.length_singleton] at last
        simp only [AdmissionRound.bus]
        omega
      simp only [List.getElem_singleton] at same
      subst here same
      simp [updateGateway, Gateway.raiseHighest, Gateway.setActive]
  | install _ _ _ bus connection rest =>
    intro position other has
    have before := marks (position + 1) other (by simpa using has)
    rw [← Nat.add_assoc, Nat.add_right_comm] at before
    exact before.trans (raised _)
  | dial | ready | prepared | accept | admitAll => exact Gateway.Marks.mono marks raised
  | socket => exact marks
  | _ => trivial

/-- The connections that a bus has had since `first`, its initial one. -/
structure Succession (first : IngressConnection) (bus : Nat) (world : GatewayWorld) : Prop where
  generation : (world.publisher.active bus).statistics.ingressSourceGeneration =
    ((first :: installedOn bus world.notes).getLast (List.cons_ne_nil _ _)).sourceGeneration
  revision : (world.publisher.active bus).statistics.ingressCredentialRevision =
    ((first :: installedOn bus world.notes).getLast (List.cons_ne_nil _ _)).admission.revision
  marked : (world.publisher.active bus).statistics.ingressSourceGeneration ≤
    (world.publisher.active bus).highestGeneration
  increasing : (first :: installedOn bus world.notes).IsChain
    (·.admission.revision ≤ ·.admission.revision)

namespace Succession

variable {first : IngressConnection} {bus : Nat} {phase next : Phase} {world after : GatewayWorld}

/-- A step that installs nothing on the bus. -/
theorem keep (succession : Succession first bus world)
    (generation : (after.publisher.active bus).statistics.ingressSourceGeneration =
      (world.publisher.active bus).statistics.ingressSourceGeneration)
    (revision : (after.publisher.active bus).statistics.ingressCredentialRevision =
      (world.publisher.active bus).statistics.ingressCredentialRevision)
    (raised : (world.publisher.active bus).highestGeneration ≤
      (after.publisher.active bus).highestGeneration)
    (entries : List GatewayNote) (notes : after.notes = entries ++ world.notes)
    (silent : installedOn bus entries = []) : Succession first bus after := by
  have same : installedOn bus after.notes = installedOn bus world.notes := by
    rw [notes, installedOn_append, silent, List.append_nil]
  refine ⟨?_, ?_, ?_, ?_⟩
  · simp only [generation, same]
    exact succession.generation
  · simp only [revision, same]
    exact succession.revision
  · rw [generation]
    exact succession.marked.trans raised
  · rw [same]
    exact succession.increasing

/-- A connection is installed on the bus: it was admitted under a revision that is not below the
one before it. -/
theorem install (succession : Succession first bus world) {connection : IngressConnection}
    {plan : Attempt} {renewed : Bool}
    (admitted : connection.admission.revision = plan.credential.revision)
    (ordered : (world.publisher.active bus).statistics.ingressCredentialRevision ≤
      plan.credential.revision)
    (marked : connection.sourceGeneration ≤ (world.publisher.active bus).highestGeneration) :
    Succession first bus
      (GatewayWorld.install bus connection plan.credential.revision renewed world) := by
  have notes : installedOn bus
      (GatewayWorld.install bus connection plan.credential.revision renewed world).notes =
      installedOn bus world.notes ++ [connection] := by
    rw [show (GatewayWorld.install bus connection plan.credential.revision renewed world).notes =
      [.installed bus connection, .cutoff bus] ++ world.notes from rfl, installedOn_append]
    simp [installedOn]
  have active : (GatewayWorld.install bus connection plan.credential.revision renewed
      world).publisher.active bus = (world.publisher.active bus).install connection
        plan.credential.revision (world.shared.pipes bus).captureEndNs renewed := by
    simp [GatewayWorld.install, updateGateway, World.note, Gateway.setActive]
  refine ⟨?_, ?_, ?_, ?_⟩
  · simp only [active, notes, ← List.cons_append, List.getLast_concat, ActiveIngress.install]
  · simp only [active, notes, ← List.cons_append, List.getLast_concat, ActiveIngress.install]
    exact admitted.symm
  · rw [active]
    exact marked
  · rw [notes, ← List.cons_append]
    refine succession.increasing.append (List.isChain_singleton _) ?_
    intro last isLast other isOther
    rw [List.getLast?_eq_getLast_of_ne_nil (List.cons_ne_nil _ _), Option.mem_some_iff] at isLast
    rw [List.head?_cons, Option.mem_some_iff] at isOther
    rw [← isLast, ← isOther, admitted, ← succession.revision]
    exact ordered

/-- Connections are only ever added, so the revision never falls. -/
theorem revision_le (earlier : Succession first bus world) (later : Succession first bus after)
    (grown : world.notes <:+ after.notes) :
    (world.publisher.active bus).statistics.ingressCredentialRevision ≤
      (after.publisher.active bus).statistics.ingressCredentialRevision := by
  obtain ⟨entries, notes⟩ := grown
  rw [earlier.revision, later.revision]
  have increasing := later.increasing
  simp only [← notes, installedOn_append, ← List.cons_append] at increasing ⊢
  by_cases none : installedOn bus entries = []
  · simp only [none, List.append_nil, Nat.le_refl]
  · have ordered := List.isChain_iff_pairwise.mp increasing
    refine (List.pairwise_append.mp ordered).2.2 _ (List.getLast_mem _) _ ?_
    rw [List.getLast_append_of_ne_nil _ none]
    exact List.getLast_mem _

theorem settle (succession : Succession first bus world) (other : Nat) (outcome : FrameOutcome)
    (frame : EncodedAudioFrame) :
    Succession first bus (settleFrame other outcome frame world) := by
  have same : ∀ change : PublishStreamStats → PublishStreamStats,
      (∀ statistics, ((change statistics).ingressSourceGeneration,
        (change statistics).ingressCredentialRevision) =
          (statistics.ingressSourceGeneration, statistics.ingressCredentialRevision)) →
      Succession first bus ((updateGateway (·.setActive other
        ((world.publisher.active other).count change)) world).note
          (.settled other outcome frame)) := by
    intro change keeps
    let shown (active : ActiveIngress) : Nat × Nat :=
      (active.statistics.ingressSourceGeneration, active.statistics.ingressCredentialRevision)
    have kept : shown ((world.publisher.active other).count change) =
        shown (world.publisher.active other) := keeps _
    obtain ⟨generation, revision⟩ := Prod.mk.inj (view_setActive shown kept bus)
    refine succession.keep generation revision (Nat.le_of_eq (Eq.symm ?_)) [_] rfl rfl
    refine view_setActive (·.highestGeneration) ?_ bus
    rfl
  cases outcome with
  | cancelled | stale => exact succession.keep rfl rfl (Nat.le_refl _) [_] rfl rfl
  | superseded | undelivered | sent => exact same _ fun _ => rfl

theorem step (succession : Succession first bus world) (inside : bus < world.publisher.buses)
    (receipts : ReceiptsAt world.publisher phase) (ordered : Ordered phase world)
    (marks : MarksAt world.publisher phase) (grouped : Grouped phase world)
    (step : Step phase world next after) : Succession first bus after := by
  have raised := step.highestGeneration_le bus
  cases step with
  | install _ plan renewed other connection rest =>
    by_cases same : other = bus
    · subst same
      obtain ⟨_, _, revision, held, shows⟩ := receipts
      have shown : (world.publisher.active other).statistics.ingressCredentialRevision =
          revision :=
        congrArg Receipt.revision ((shows other inside).trans (if_neg (Nat.lt_irrefl _)))
      refine succession.install ?_ ?_ ?_
      · exact congrArg Admission.revision
          (grouped.group.1.coming connection (List.mem_cons_self ..))
      · rw [shown]
        exact ordered plan.credential revision rfl held
      · exact marks 0 connection rfl
    · have others : ∀ active, (world.publisher.setActive other active).active bus =
          world.publisher.active bus := fun active => by
        simp [Gateway.setActive, Ne.symm same]
      refine succession.keep ?_ ?_ raised [_, _] rfl ?_
      · exact congrArg (·.statistics.ingressSourceGeneration) (others _)
      · exact congrArg (·.statistics.ingressCredentialRevision) (others _)
      · simp [installedOn, same]
  | cancelled | superseded | stale | flushed | abandon => exact succession.settle _ _ _
  | disconnect | advance | recordInputDrops =>
    refine succession.keep ?_ ?_ raised [] rfl rfl
    · refine view_setActive (·.statistics.ingressSourceGeneration) ?_ bus
      rfl
    · refine view_setActive (·.statistics.ingressCredentialRevision) ?_ bus
      rfl
  | foundExpired | unencodable | write | pause | ready | prepareFails | refuse | late | admitAll
    | reject | stopRejected | revokedRejected | report | socket =>
    exact succession.keep rfl rfl raised [_] rfl rfl
  | _ => exact succession.keep rfl rfl raised [] rfl rfl

end Succession

/-! ### The calls of `reattach` -/

/-- One call of `reattach`: how many attempts it has made, and whether it admitted the group. -/
structure ReattachCall where
  attempts : Nat
  attached : Bool
  deriving DecidableEq, Repr

/-- The calls in the notes, newest first, when so many rounds have been begun; `attached` says
whether a group was admitted after the notes. -/
def callsIn (rounds : Nat) (attached : Bool) : List GatewayNote → List ReattachCall
  | [] => []
  | .reattaching before :: earlier => ⟨rounds - before, attached⟩ :: callsIn before false earlier
  | .admitted _ :: earlier => callsIn rounds true earlier
  | _ :: earlier => callsIn rounds attached earlier

def GatewayWorld.calls (world : GatewayWorld) : List ReattachCall :=
  callsIn world.publisher.rounds false world.notes

/-- At most three attempts, and at least one if the group was admitted. -/
def ReattachCall.Fair (call : ReattachCall) : Prop :=
  call.attempts ≤ recoveryAttempts ∧ (call.attached = true → 1 ≤ call.attempts)

/-- The entries that `callsIn` looks at. -/
def GatewayNote.concernsCalls : GatewayNote → Bool
  | .reattaching _ | .admitted _ => true
  | _ => false

theorem callsIn_of_silent {entry : GatewayNote} (silent : entry.concernsCalls = false)
    (rounds : Nat) (attached : Bool) (earlier : List GatewayNote) :
    callsIn rounds attached (entry :: earlier) = callsIn rounds attached earlier := by
  cases entry with
  | reattaching | admitted => cases silent
  | _ => rfl

/-- The group is admitted in the newest call. -/
theorem callsIn_attached {rounds : Nat} {attached : Bool} {notes : List GatewayNote}
    {call : ReattachCall} {older : List ReattachCall}
    (calls : callsIn rounds attached notes = call :: older) :
    callsIn rounds true notes = { call with attached := true } :: older := by
  induction notes generalizing attached with
  | nil => cases calls
  | cons entry earlier hypothesis =>
    cases entry with
    | reattaching before =>
      obtain ⟨rfl, rfl⟩ := List.cons.inj calls
      rfl
    | _ => exact hypothesis calls

/-- A round begins in the newest call. -/
theorem callsIn_succ {rounds : Nat} {attached : Bool} {notes : List GatewayNote}
    (begun : ∀ before, .reattaching before ∈ notes → before ≤ rounds) {call : ReattachCall}
    {older : List ReattachCall} (calls : callsIn rounds attached notes = call :: older) :
    callsIn (rounds + 1) attached notes =
      { call with attempts := call.attempts + 1 } :: older := by
  induction notes generalizing attached with
  | nil => cases calls
  | cons entry earlier hypothesis =>
    have rest : ∀ before, .reattaching before ∈ earlier → before ≤ rounds :=
      fun before member => begun before (List.mem_cons_of_mem _ member)
    cases entry with
    | reattaching before =>
      obtain ⟨rfl, rfl⟩ := List.cons.inj calls
      simp [callsIn, Nat.succ_sub (begun before (List.mem_cons_self ..))]
    | _ => exact hypothesis rest calls

/-- How many attempts the call of `reattach` under way has made. -/
def Phase.made : Phase → Option Nat
  | .closing => some 0
  | .detached made | .renewing made _ | .failed made _ _ | .rejected made _ _
  | .unstopped made _ _ => some made
  | .admitting round | .dialling round _ _ _ | .offered round _ | .checking round _ =>
    some round.made
  | _ => none

/-- An attempt is made only while some are left, and a group is admitted in an attempt. -/
def Phase.Counts : Phase → Prop
  | .renewing made _ => made < recoveryAttempts
  | .admitting round | .dialling round _ _ _ | .offered round _ | .checking round _ =>
    1 ≤ round.made
  | _ => True

/-- The calls add up to the rounds. -/
structure Called (phase : Phase) (world : GatewayWorld) : Prop where
  fair : ∀ call ∈ world.calls, call.Fair
  total : (world.calls.map ReattachCall.attempts).sum = world.publisher.rounds
  current : ∀ made, phase.made = some made → ∃ older, world.calls = ⟨made, false⟩ :: older
  counts : phase.Counts

namespace Called

variable {phase next : Phase} {world after : GatewayWorld}

/-- A step that says nothing about calls. -/
theorem keep (called : Called phase world)
    (rounds : after.publisher.rounds = world.publisher.rounds) (entries : List GatewayNote)
    (notes : after.notes = entries ++ world.notes)
    (silent : entries.any GatewayNote.concernsCalls = false)
    (made : next.made = none ∨ next.made = phase.made) (counts : next.Counts) :
    Called next after := by
  have same : after.calls = world.calls := by
    rw [GatewayWorld.calls, GatewayWorld.calls, rounds, notes]
    clear notes
    induction entries with
    | nil => rfl
    | cons entry rest hypothesis =>
      rw [List.any_cons, Bool.or_eq_false_iff] at silent
      rw [List.cons_append, callsIn_of_silent silent.1]
      exact hypothesis silent.2
  refine ⟨?_, ?_, ?_, counts⟩
  · rw [same]
    exact called.fair
  · rw [same, rounds]
    exact called.total
  · intro count isCount
    rw [same]
    rcases made with none | kept
    · rw [none] at isCount
      cases isCount
    · exact called.current count (kept ▸ isCount)

/-- `reattach` is called. -/
theorem pause (called : Called .reattaching world) :
    Called .closing ((setPaused true world).note (.reattaching world.publisher.rounds)) := by
  have calls : GatewayWorld.calls
      ((setPaused true world).note (.reattaching world.publisher.rounds)) =
      ⟨0, false⟩ :: world.calls := by
    rw [GatewayWorld.calls, World.notes_note, callsIn]
    exact congrArg (ReattachCall.mk · false :: world.calls) (Nat.sub_self _)
  refine ⟨?_, ?_, ?_, trivial⟩
  · rw [calls]
    intro call member
    rcases List.mem_cons.mp member with rfl | older
    · exact ⟨Nat.zero_le _, nofun⟩
    · exact called.fair call older
  · rw [calls, List.map_cons, List.sum_cons, Nat.zero_add]
    exact called.total
  · rintro _ ⟨⟩
    exact ⟨_, calls⟩

/-- The call under way makes an attempt. -/
theorem begin {made : Nat} {credential : PublisherCredential} {plan : Attempt}
    (called : Called (.renewing made credential) world)
    (begun : ∀ before, .reattaching before ∈ world.notes → before ≤ world.publisher.rounds) :
    Called (.admitting ⟨made + 1, plan, []⟩) (updateGateway Gateway.beginRound world) := by
  obtain ⟨older, calls⟩ := called.current made rfl
  have next : (updateGateway Gateway.beginRound world).calls = ⟨made + 1, false⟩ :: older :=
    callsIn_succ begun calls
  have fair := called.fair
  have total := called.total
  rw [calls] at fair total
  refine ⟨?_, ?_, ?_, Nat.le_add_left _ _⟩
  · rw [next]
    intro call member
    rcases List.mem_cons.mp member with rfl | before
    · exact ⟨called.counts, nofun⟩
    · exact fair call (List.mem_cons_of_mem _ before)
  · rw [next]
    simp only [List.map_cons, List.sum_cons] at total ⊢
    rw [Nat.add_right_comm, total]
    rfl
  · rintro _ ⟨⟩
    exact ⟨older, next⟩

/-- The call under way admits the group. -/
theorem admitAll {round : AdmissionRound} {renewed : Bool}
    (called : Called (.admitting round) world) :
    Called (.installing round.plan renewed 0 round.connections)
      (world.note (.admitted round.plan.round)) := by
  obtain ⟨older, calls⟩ := called.current round.made rfl
  have next : GatewayWorld.calls (world.note (.admitted round.plan.round)) =
      ⟨round.made, true⟩ :: older := callsIn_attached calls
  have fair := called.fair
  have total := called.total
  rw [calls] at fair total
  refine ⟨?_, ?_, nofun, trivial⟩
  · rw [next]
    intro call member
    rcases List.mem_cons.mp member with rfl | before
    · exact ⟨(fair _ (List.mem_cons_self ..)).1, fun _ => called.counts⟩
    · exact fair call (List.mem_cons_of_mem _ before)
  · rw [next]
    exact total

theorem step (called : Called phase world)
    (begun : ∀ before, .reattaching before ∈ world.notes → before ≤ world.publisher.rounds)
    (step : Step phase world next after) : Called next after := by
  have counts := called.counts
  cases step with
  | pause => exact called.pause
  | begin => exact called.begin begun
  | admitAll => exact called.admitAll
  | prepared | advance | accept | dial => exact called.keep rfl [] rfl rfl (.inr rfl) counts
  | snapshot _ _ left => exact called.keep rfl [] rfl rfl (.inr rfl) left
  | ready | socket => exact called.keep rfl [_] rfl rfl (.inr rfl) counts
  | detach | deny | withdraw | goOn | retry => exact called.keep rfl [] rfl rfl (.inr rfl) trivial
  | prepareFails | refuse | late | reject => exact called.keep rfl [_] rfl rfl (.inr rfl) trivial
  | install => exact called.keep rfl [_, _] rfl rfl (.inl rfl) trivial
  | foundExpired | cancelled | superseded | stale | unencodable | write | flushed | abandon
    | stopRejected | revokedRejected | report =>
    exact called.keep rfl [_] rfl rfl (.inl rfl) trivial
  | _ => exact called.keep rfl [] rfl rfl (.inl rfl) trivial

end Called

/-! ### Launched runs -/

/-- While no counter has stopped, the identities hold and the attempts are exact. -/
theorem Receipt.of_unsaturated {renewals reconnects attempts revision : Nat} {receipt : Receipt}
    (shown : receipt = .tally renewals reconnects attempts revision)
    (unsaturated : receipt.Unsaturated) :
    receipt.attachments = 1 + receipt.discontinuities ∧
      receipt.discontinuities = receipt.renewals + receipt.reconnects ∧
      receipt.attempts = attempts := by
  subst shown
  obtain ⟨attached, -, -, -, attempted⟩ := unsaturated
  simp only [Receipt.tally] at attached attempted ⊢
  omega

namespace Launch

variable {held : PreparedIngressRecovery} (launch : Launch (some held))

/-- The receipts of a group in one state of its run. -/
structure ReceiptsHold (world : GatewayWorld) : Prop where
  balanced : ∀ bus < launch.lanes.length, (world.publisher.active bus).receipt.Unsaturated →
    (world.publisher.active bus).receipt.attachments =
        1 + (world.publisher.active bus).receipt.discontinuities ∧
      (world.publisher.active bus).receipt.discontinuities =
        (world.publisher.active bus).receipt.renewals +
          (world.publisher.active bus).receipt.reconnects
  attempts : ∀ bus < launch.lanes.length, (world.publisher.active bus).receipt.Unsaturated →
    (world.publisher.active bus).receipt.attempts = (world.calls.map ReattachCall.attempts).sum
  fair : ∀ call ∈ world.calls, call.Fair
  lockstep : ∀ bus < launch.lanes.length, ∀ other < launch.lanes.length,
    (world.publisher.active bus).receipt = (world.publisher.active other).receipt
  revision : ∀ bus < launch.lanes.length,
    world.publisher.heldRevision = some (world.publisher.active bus).receipt.revision
  succession : ∀ bus < launch.lanes.length,
    Succession (launch.connection bus) bus world

variable {launch} {phase : Phase} {world : GatewayWorld}

theorem active_world {bus : Nat} (inside : bus < launch.lanes.length) :
    launch.world.publisher.active bus =
      { connection := some (launch.connection bus)
        statistics :=
          { ingressSourceGeneration := (launch.lane bus).sourceGeneration
            ingressAttachments := 1
            ingressCredentialRevision := launch.revision }
        channels := (launch.lane bus).channels
        highestGeneration := (launch.lane bus).sourceGeneration } := by
  simp [Launch.world, Gateway.start, connections, connection, lane, revision, inside,
    Lane.connection]

variable (reached : Reach launch.world phase world)

include reached

theorem receiptsAt : ReceiptsAt world.publisher phase := by
  refine reached.invariant (motive := fun phase world => ReceiptsAt world.publisher phase) ?_
    (fun _ _ _ _ receipts => receipts) fun _ _ _ _ reached receipts step =>
      receipts.step (reached.connected launch.connected_world) reached.isSome_recovery step
  refine ⟨0, 0, held.credential.revision, rfl, fun bus inside => ?_⟩
  rw [launch.buses_eq] at inside
  rw [if_neg (Nat.not_lt_zero _), active_world inside]
  rfl

theorem ordered : Ordered phase world :=
  reached.invariant (motive := Ordered) nofun (fun _ _ _ _ ordered => ordered)
    fun _ _ _ _ reached ordered step => ordered.step (Known.of_reach reached) step

theorem marksAt : MarksAt world.publisher phase :=
  reached.invariant (motive := fun phase world => MarksAt world.publisher phase) trivial
    (fun _ _ _ _ marks => marks) fun _ _ _ _ _ marks step => marks.step step

theorem called : Called phase world := by
  have quiet : launch.world.calls = [] := by
    have silent : ∀ notes : List GatewayNote, (∀ entry ∈ notes, entry.concernsCalls = false) →
        callsIn 0 false notes = [] := by
      intro notes
      induction notes with
      | nil => exact fun _ => rfl
      | cons entry earlier hypothesis =>
        intro all
        rw [callsIn_of_silent (all entry (List.mem_cons_self ..))]
        exact hypothesis fun other member => all other (List.mem_cons_of_mem _ member)
    refine silent _ fun entry member => ?_
    obtain ⟨_, _, _, rfl⟩ := launch.mem_notes_world.mp member
    rfl
  refine reached.invariant (motive := Called) ⟨?_, ?_, nofun, trivial⟩ ?_ ?_
  · rw [quiet]
    exact nofun
  · rw [quiet]
    rfl
  · intro phase world action _ called
    exact called.keep rfl [] (world.perform_notes action) rfl (.inr rfl) called.counts
  · exact fun _ _ _ _ reached called step =>
      called.step (Grouped.of_reach reached).rounds.reattaching_le step

theorem succession {bus : Nat} (inside : bus < launch.lanes.length) :
    Succession (launch.connection bus) bus world := by
  refine reached.invariant (motive := fun _ world =>
    Succession (launch.connection bus) bus world) ?_ ?_ ?_
  · have none : installedOn bus launch.world.notes = [] :=
      launch.transmitted_world _ fun _ _ _ => rfl
    refine ⟨?_, ?_, ?_, ?_⟩
    · simp only [none, active_world inside, List.getLast_singleton, connection, Lane.connection]
    · simp only [none, active_world inside, List.getLast_singleton]
      rfl
    · simp only [active_world inside, Nat.le_refl]
    · rw [none]
      exact List.isChain_singleton _
  · intro phase world action _ succession
    exact succession.keep rfl rfl (Nat.le_refl _) [] (world.perform_notes action) rfl
  · intro phase world next after reached succession step
    refine succession.step ?_ (receiptsAt reached) (ordered reached) (marksAt reached)
      (Grouped.of_reach reached) step
    rw [reached.buses, launch.buses_eq]
    exact inside

/-- The receipts hold wherever no round is being installed. -/
theorem receiptsHold
    (settled : ∀ plan renewed bus rest, phase ≠ .installing plan renewed bus rest) :
    launch.ReceiptsHold world := by
  obtain ⟨renewals, reconnects, revision, isHeld, shows⟩ :
      ReceiptsAt world.publisher .attached :=
    (receiptsAt reached).keep rfl rfl rfl (fun _ => rfl) settled nofun
  have shown : ∀ bus < launch.lanes.length, (world.publisher.active bus).receipt =
      .tally renewals reconnects world.publisher.rounds revision := by
    intro bus inside
    refine (shows bus ?_).trans (ite_self _)
    rw [reached.buses, launch.buses_eq]
    exact inside
  refine ⟨?_, ?_, (called reached).fair, ?_, ?_, fun bus inside => succession reached inside⟩
  · intro bus inside unsaturated
    obtain ⟨attachments, discontinuities, -⟩ :=
      Receipt.of_unsaturated (shown bus inside) unsaturated
    exact ⟨attachments, discontinuities⟩
  · intro bus inside unsaturated
    rw [(called reached).total]
    exact (Receipt.of_unsaturated (shown bus inside) unsaturated).2.2
  · intro bus inside other otherInside
    rw [shown bus inside, shown other otherInside]
  · intro bus inside
    rw [shown bus inside]
    exact isHeld

end Launch

/-- In every run with recovery, whatever the relay answers and whoever calls the control: the
receipts hold between any two iterations of `publish_group`, from which on no revision falls, and
in the statistics that the run returns. -/
theorem renewal_receipts {held : PreparedIngressRecovery} (launch : Launch (some held))
    (schedule : List Turn) :
    (∀ count, (launch.iterations count schedule).1 = .ok true →
      launch.ReceiptsHold (launch.iterations count schedule).2.2 ∧
        ∀ more, (launch.iterations (count + more) schedule).1 = .ok true →
          ∀ bus < launch.lanes.length,
            ((launch.iterations count schedule).2.2.publisher.active bus).receipt.revision ≤
              ((launch.iterations (count + more) schedule).2.2.publisher.active
                bus).receipt.revision) ∧
    ∀ result, (launch.run schedule).1 = .ok result →
      launch.ReceiptsHold (launch.last schedule) ∧
        result.statistics = (List.range launch.lanes.length).map fun bus =>
          ((launch.last schedule).publisher.active bus).statistics := by
  refine ⟨fun count goes => ⟨Launch.receiptsHold (launch.between goes) nofun, ?_⟩, ?_⟩
  · intro more continues bus inside
    have grown := (launch.between_later goes continues).journal_suffix
    exact (Launch.succession (launch.between goes) inside).revision_le
      (Launch.succession (launch.between continues) inside) (grown.filterMap _)
  intro result returns
  obtain ⟨reached, statistics⟩ := launch.returned returns
  refine ⟨Launch.receiptsHold reached nofun, ?_⟩
  rw [statistics, reached.buses, launch.buses_eq]

/-- The group is lost and readmitted; its owner then asks for the end. -/
def readmittedRun : List Turn :=
  untilReady ++ readyTurn 2 :: quietTurns 12 ++
    { before := [.requestAbort] } :: quietTurns 30

theorem renewal_receipts_readmitted :
    (((sampleLaunch 1).iterations 1 readmittedRun).2.2.publisher.active 0).receipt =
        ⟨2, 1, 0, 1, 1, 1⟩ ∧
      ((sampleLaunch 1).iterations 1 readmittedRun).2.2.calls = [⟨1, true⟩] ∧
      (sampleLaunch 1).ReceiptsHold ((sampleLaunch 1).iterations 1 readmittedRun).2.2 ∧
      ((sampleLaunch 1).run readmittedRun).1.isOk = true ∧
      (sampleLaunch 1).ReceiptsHold ((sampleLaunch 1).last readmittedRun) := by
  have returns : ∃ result, ((sampleLaunch 1).run readmittedRun).1 = .ok result := by
    have ok : ((sampleLaunch 1).run readmittedRun).1.isOk = true := by decide +kernel
    cases ended : ((sampleLaunch 1).run readmittedRun).1 with
    | error => rw [ended] at ok; cases ok
    | ok result => exact ⟨result, rfl⟩
  obtain ⟨result, returns⟩ := returns
  exact ⟨by decide +kernel, by decide +kernel,
    ((renewal_receipts (sampleLaunch 1) readmittedRun).1 1 (by decide +kernel)).1,
    by rw [returns]; rfl, ((renewal_receipts (sampleLaunch 1) readmittedRun).2 result returns).1⟩

end RelayConnector
