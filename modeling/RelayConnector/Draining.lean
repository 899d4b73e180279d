/-
This file proves what it means that a gateway run ends without an error: it was aborted,
it was stopped while a reattachment was under way, or it has drained every bus.

The publishing loop gives up a stream only when its encoder is gone and its channel is
empty, and it returns of itself only when every stream is given up. With the account of
a bus and the ledger of its frames this settles what became of every captured sample.
-/

import RelayConnector.Accounting
import RelayConnector.Effects

namespace RelayConnector

open Scheduled GatewayWorld

/-! ### How the loop can end -/

namespace GatewayWorld

def AbortRequested (world : GatewayWorld) : Prop :=
  (world.publisher.context && world.shared.abortRequested) = true

/-- A reattachment has begun, and no group has been admitted since. -/
def Interrupted (world : GatewayWorld) : Prop :=
  ∃ later rounds earlier, world.notes = later ++ .reattaching rounds :: earlier ∧
    ∀ round, .admitted round ∉ later

/-- A group of so many buses; the streams that were given up are exhausted. -/
structure Parted (buses : Nat) (world : GatewayWorld) : Prop where
  size : world.publisher.buses = buses
  exhausted : ∀ bus, (world.publisher.active bus).disconnected = true →
    (world.shared.pipes bus).Exhausted

/-- A reattachment is under way. -/
def Reattaching (buses : Nat) (world : GatewayWorld) : Prop :=
  Parted buses world ∧ Interrupted world

/-- A stop was requested, and the reattachment under way was given up for it. -/
def Stopped (world : GatewayWorld) : Prop := StopRequested world ∧ Interrupted world

/-- Why the loop is left without an error. -/
def Left (buses : Nat) (world : GatewayWorld) : Prop :=
  AbortRequested world ∨ Stopped world ∨
    ∀ bus < buses, (world.publisher.active bus).disconnected = true

end GatewayWorld

/-! ### What the effects keep -/

namespace Effect

variable {world after : GatewayWorld}

/-- No effect touches the requests, nor what the group is. -/
theorem requests (effect : Effect world after) :
    after.publisher.context = world.publisher.context ∧
      after.publisher.buses = world.publisher.buses ∧
      after.shared.stopRequested = world.shared.stopRequested ∧
      after.shared.abortRequested = world.shared.abortRequested := by
  cases effect with
  | settle bus outcome frame => cases outcome <;> exact ⟨rfl, rfl, rfl, rfl⟩
  | _ => exact ⟨rfl, rfl, rfl, rfl⟩

/-- What an effect enters admits no group. -/
theorem notes (effect : Effect world after) :
    ∃ entries, after.notes = entries ++ world.notes ∧ ∀ round, .admitted round ∉ entries := by
  cases effect with
  | note entry other =>
    exact ⟨[entry], rfl, fun round listed => other round (List.mem_singleton.mp listed).symm⟩
  | settle bus outcome frame =>
    exact ⟨[.settled bus outcome frame], notes_settleFrame _ _ _ _, by simp⟩
  | install bus connection => exact ⟨[.installed bus connection, .cutoff bus], rfl, by simp⟩
  | _ => exact ⟨[], rfl, by simp⟩

/-- A stream is given up by one effect, and taken up again by none. -/
theorem disconnected (effect : Effect world after) (bus : Nat) :
    (after.publisher.active bus).disconnected = (world.publisher.active bus).disconnected ∨
      (after.publisher.active bus).disconnected = true ∧ (after.shared.pipes bus).Exhausted := by
  have single : ∀ other active, active.disconnected = (world.publisher.active other).disconnected →
      ((world.publisher.setActive other active).active bus).disconnected =
        (world.publisher.active bus).disconnected :=
    fun other active same => view_setActive ActiveIngress.disconnected same bus
  cases effect with
  | settle settled outcome frame =>
    exact .inl (view_settleFrame _ (fun _ _ => rfl) settled outcome frame world bus)
  | disconnect gone exhausted =>
    by_cases same : bus = gone
    · subst same
      exact .inr ⟨by simp [GatewayWorld.disconnect, updateGateway, Gateway.setActive], exhausted⟩
    · exact .inl (by simp [GatewayWorld.disconnect, updateGateway, Gateway.setActive, same])
  | raiseHighest | install | recordInputDrops => exact .inl (single _ _ rfl)
  | _ => exact .inl rfl

/-- An exhausted channel stays exhausted. -/
theorem exhausted (effect : Effect world after) {bus : Nat}
    (exhausted : (world.shared.pipes bus).Exhausted) : (after.shared.pipes bus).Exhausted := by
  have single : ∀ other pipe, pipe.encoder = (world.shared.pipes other).encoder →
      pipe.encoded = (world.shared.pipes other).encoded →
      (Function.update world.shared.pipes other pipe bus).Exhausted := by
    intro other pipe encoder encoded
    by_cases same : bus = other
    · subst same
      rw [Function.update_self, Pipe.Exhausted, encoder, encoded]
      exact exhausted
    · rwa [Function.update_of_ne same]
  cases effect with
  | settle settled outcome frame =>
    cases outcome with
    | cancelled | stale => exact single _ _ rfl rfl
    | superseded | undelivered | sent => exact exhausted
  | receive received =>
    by_cases same : bus = received
    · subst same
      simpa [GatewayWorld.receive, World.updatePipe, Pipe.tryRecv_of_exhausted exhausted]
        using exhausted
    · simpa [GatewayWorld.receive, World.updatePipe, same] using exhausted
  | _ => exact exhausted

end Effect

namespace Kept

theorem anything : Kept fun _ => True where
  acts _ _ _ := trivial
  effects _ _ _ _ := trivial

theorem and {first second : GatewayWorld → Prop} (left : Kept first) (right : Kept second) :
    Kept fun world => first world ∧ second world where
  acts world action held := ⟨left.acts world action held.1, right.acts world action held.2⟩
  effects world after held effect :=
    ⟨left.effects world after held.1 effect, right.effects world after held.2 effect⟩

theorem or {first second : GatewayWorld → Prop} (left : Kept first) (right : Kept second) :
    Kept fun world => first world ∨ second world where
  acts world action := Or.imp (left.acts world action) (right.acts world action)
  effects world after held effect :=
    held.imp (left.effects world after · effect) (right.effects world after · effect)

theorem stopRequested : Kept StopRequested where
  acts world action requested := by
    obtain ⟨context, stop⟩ := Bool.and_eq_true_iff.mp requested
    exact Bool.and_eq_true_iff.mpr ⟨context, world.perform_stopRequested action stop⟩
  effects world after requested effect := by
    obtain ⟨context, -, stop, -⟩ := effect.requests
    rwa [StopRequested, context, stop]

theorem abortRequested : Kept AbortRequested where
  acts world action requested := by
    obtain ⟨context, abort⟩ := Bool.and_eq_true_iff.mp requested
    refine Bool.and_eq_true_iff.mpr ⟨context, ?_⟩
    cases action with
    | requestAbort => rfl
    | _ => exact abort
  effects world after requested effect := by
    obtain ⟨context, -, -, abort⟩ := effect.requests
    rwa [AbortRequested, context, abort]

theorem interrupted : Kept Interrupted where
  acts world action held := by
    rwa [Interrupted, World.perform_notes]
  effects := by
    rintro world after ⟨later, rounds, earlier, split, none⟩ effect
    obtain ⟨entries, notes, nothing⟩ := effect.notes
    refine ⟨entries ++ later, rounds, earlier, ?_, fun round listed => ?_⟩
    · rw [notes, split, List.append_assoc]
    · exact (List.mem_append.mp listed).elim (nothing round) (none round)

theorem parted (buses : Nat) : Kept (Parted buses) where
  acts world action held :=
    ⟨held.size, fun bus flagged => world.perform_exhausted action (held.exhausted bus flagged)⟩
  effects world after held effect := by
    refine ⟨effect.requests.2.1.trans held.size, fun bus flagged => ?_⟩
    rcases effect.disconnected bus with same | given
    · exact effect.exhausted (held.exhausted bus (same.symm.trans flagged))
    · exact given.2

theorem disconnected (buses : Nat) :
    Kept fun world => ∀ bus < buses, (world.publisher.active bus).disconnected = true where
  acts _ _ held := held
  effects _ _ held effect bus inside :=
    (effect.disconnected bus).elim (fun same => same.trans (held bus inside)) And.left

theorem stopped : Kept Stopped := stopRequested.and interrupted

theorem left (buses : Nat) : Kept (Left buses) :=
  abortRequested.or (stopped.or (disconnected buses))

theorem reattaching (buses : Nat) : Kept (Reattaching buses) := (parted buses).and interrupted

end Kept

/-! ### Reattachment -/

section Reattachment

variable {buses : Nat}

/-- How an attempt ends: the group is attached, the run is stopped, or the next attempt is due. -/
def AttemptLeaves (buses : Nat) : Option Bool → GatewayWorld → Prop
  | some true, world => Parted buses world
  | some false, world => Parted buses world ∧ Stopped world
  | none, world => Reattaching buses world

/-- How a reattachment ends: the group is attached, or the run is stopped. -/
def Leaves (buses : Nat) (attached : Bool) (world : GatewayWorld) : Prop :=
  Parted buses world ∧ (attached = false → Stopped world)

/-- What keeps the reattachment under way leaves the group as it is wherever it ends. -/
theorem within {Value : Type} {command : Publishing Value}
    (keeps : Preserves (Reattaching buses) command) :
    Triple (Parted buses) (Reattaching buses) command (fun _ => Reattaching buses)
      fun _ => Parted buses :=
  keeps.within fun _ held => held.1

/-- A stop that is found in a reattachment. -/
theorem isStopRequested_finds :
    Triple (Parted buses) (Reattaching buses) isStopRequested
      (fun found world => Reattaching buses world ∧
        (found = true → Parted buses world ∧ Stopped world)) fun _ => Parted buses :=
  (((Kept.reattaching buses).look _).observe fun _ held => held.1).weaken
    fun _ _ found => ⟨found.1, fun stop => ⟨found.1.1, found.2.symm.trans stop, found.1.2⟩⟩

theorem waitRound_leaves (waitUntil : Nat) :
    Triple (Parted buses) (Reattaching buses)
      (waitRound waitUntil)
      (Repeats (Reattaching buses) fun ended world =>
        Reattaching buses world ∧ (ended = false → Stopped world))
      fun _ => Parted buses := by
  have kept := Kept.reattaching buses
  refine .bind _ (within (kept.load _)) fun now => ?_
  refine .ite (fun _ => .done fun _ held => ⟨held, by simp⟩) fun _ => ?_
  refine .bind _ isStopRequested_finds fun stop => ?_
  refine .ite (fun found => .done fun _ held => ?_) fun _ => ?_
  · exact ⟨held.1, fun _ => (held.2 found).2⟩
  refine Triple.strengthen ?_ fun _ held => held.1
  refine .bind _ (within (kept.load _)) fun _ => ?_
  exact .bind _ (within (.failIf _ _)) fun _ => .done fun _ => id

theorem rejectAttempt_leaves (plan : Attempt) (recoveryDeadline : Nat)
    (connections : List IngressConnection) (error : IngressError) :
    Triple (Parted buses) (Reattaching buses)
      (rejectAttempt plan recoveryDeadline connections error) (AttemptLeaves buses)
      fun _ => Parted buses := by
  have kept := Kept.reattaching buses
  refine .bind _ (within (kept.enter fun _ => by simp)) fun _ => ?_
  refine .bind _ (within (kept.load _)) fun now => ?_
  refine .bind _ (within (.attempt (kept.cancelUntil _ _))) fun _ => ?_
  refine .bind _ isStopRequested_finds fun stop => ?_
  refine .ite (fun found => ?_) fun _ => ?_
  · refine .bind (fun _ world => Parted buses world ∧ Stopped world)
      (.update fun world held => ?_) fun _ => .done fun _ => id
    exact ((Kept.parted buses).and Kept.stopped).effects world _ (held.2 found)
      (.note world _ fun _ => by simp)
  refine Triple.strengthen ?_ fun _ held => held.1
  refine .bind _ (within (kept.load _)) fun _ => ?_
  refine .ite (fun _ => ?_) fun _ => ?_
  · exact .bind _ (within (kept.enter fun _ => by simp)) fun _ =>
      Triple.fail fun _ held => held.1
  refine .bind _ (within (.failIf _ _)) fun _ => ?_
  refine .bind _ (within (kept.load _)) fun _ => ?_
  refine .ite (fun _ => .done fun _ => id) fun _ => ?_
  exact .bind _ (within (.failIf _ _)) fun _ => .done fun _ => id

theorem completeAttempt_leaves (plan : Attempt) (reason : Reattachment)
    (connections : List IngressConnection) :
    Triple (Parted buses) (Parted buses) (completeAttempt plan reason connections)
      (AttemptLeaves buses) fun _ => Parted buses := by
  have kept := Kept.parted buses
  refine .bind (fun _ => Parted buses)
    (.update fun _ held => ⟨held.size, held.exhausted⟩) fun _ => ?_
  refine .bind _ (Preserves.inspect _) fun held => ?_
  refine .bind _ (kept.installGroup _ _ _ _) fun _ => ?_
  refine .bind _ (kept.update fun world => .adopt world _) fun _ => ?_
  exact .bind _ (kept.store fun world => .setPaused world _) fun _ =>
    Triple.done fun _ => id

theorem reattachAttempt_leaves (configurations : List RelayRouteConfiguration)
    (reason : Reattachment) (recoveryDeadline number : Nat) :
    Triple (Parted buses) (Reattaching buses)
      (reattachAttempt configurations reason recoveryDeadline number) (AttemptLeaves buses)
      fun _ => Parted buses := by
  have kept := Kept.reattaching buses
  refine .bind _ (within (kept.load _)) fun now => ?_
  refine .bind _ (.forever (fun _ held => held.1) (waitRound_leaves _)) fun ended => ?_
  cases ended with
  | false => exact .done fun _ held => ⟨held.1.1, held.2 rfl⟩
  | true =>
    refine Triple.strengthen ?_ fun _ held => held.1
    refine .bind _ isStopRequested_finds fun stop => ?_
    refine .ite (fun found => .done fun _ held => held.2 found) fun _ => ?_
    refine Triple.strengthen ?_ fun _ held => held.1
    refine .bind _ (within kept.snapshot) fun credential => ?_
    refine .bind _ (within (kept.attachmentDeadline _ _ _)) fun deadline => ?_
    refine .bind _ (within (kept.load _)) fun _ => ?_
    refine .bind _ (within (.failIf _ _)) fun _ => ?_
    refine .bind _ (within (kept.update .beginRound)) fun _ => ?_
    refine .bind _ (within (.inspect _)) fun round => ?_
    refine .bind _ (within (kept.admitGroup _ _ _ _)) fun outcome => ?_
    obtain ⟨connections, error⟩ := outcome
    cases error with
    | some error => exact rejectAttempt_leaves _ _ _ _
    | none => exact (completeAttempt_leaves _ _ _).left

theorem reattachFrom_leaves (configurations : List RelayRouteConfiguration)
    (reason : Reattachment) (recoveryDeadline : Nat) (numbers : List Nat) :
    Triple (Parted buses) (Reattaching buses)
      (reattachFrom configurations reason recoveryDeadline numbers) (Leaves buses)
      fun _ => Parted buses := by
  induction numbers with
  | nil => exact .fail fun _ held => held.1
  | cons number rest hypothesis =>
    refine .bind _ (reattachAttempt_leaves _ _ _ _) fun outcome => ?_
    match outcome with
    | some true => exact .done fun _ held => ⟨held, by simp⟩
    | some false => exact .done fun _ held => ⟨held.1, fun _ => held.2⟩
    | none => exact hypothesis

/-- A reattachment that gives no connections was stopped on the way. -/
theorem reattach_leaves (configurations : List RelayRouteConfiguration) (reason : Reattachment) :
    Triple (Parted buses) (Parted buses) (reattach configurations reason) (Leaves buses)
      fun _ => Parted buses := by
  have kept := Kept.parted buses
  refine .bind _ (kept.load _) fun now => ?_
  refine .bind _ (kept.store fun world => .setPaused world _) fun _ => ?_
  refine .bind _ (Preserves.inspect _) fun rounds => ?_
  refine .bind (fun _ world => Parted buses world ∧ Interrupted world)
    (.update fun world held => ?_) fun _ => ?_
  · exact ⟨⟨held.size, held.exhausted⟩, [], rounds, world.notes, rfl, by simp⟩
  exact .bind _ (within (Kept.reattaching buses).closeActive) fun _ =>
    reattachFrom_leaves _ _ _ _

end Reattachment

/-! ### The publishing loop -/

section Loop

variable {buses : Nat}

/-- How a pass over the buses ends. -/
def PassLeaves (buses : Nat) : Polled → GatewayWorld → Prop
  | .leave, world => Parted buses world ∧ Stopped world
  | _, world => Parted buses world

theorem recoverFrom_leaves (error : IngressError) :
    Triple (Parted buses) (Parted buses) (recoverFrom error) (PassLeaves buses)
      fun _ => Parted buses := by
  refine .bind _ (Preserves.inspect _) fun recovery => ?_
  cases recovery with
  | none => exact .fail fun _ => id
  | some recovery =>
    refine .bind _ ((Kept.parted buses).load _) fun changed => ?_
    refine .ite (fun _ => ?_) fun _ => .fail fun _ => id
    refine .bind _ (reattach_leaves _ _) fun attached => ?_
    cases attached with
    | true => exact .done fun _ held => held.1
    | false => exact .done fun _ held => ⟨held.1, held.2 rfl⟩

theorem pollStreams_leaves (streams : List Nat) (progress : Bool) :
    Triple (Parted buses) (Parted buses) (pollStreams streams progress) (PassLeaves buses)
      fun _ => Parted buses := by
  induction streams generalizing progress with
  | nil => exact .done fun _ => id
  | cons bus rest hypothesis =>
    refine .bind _ (Preserves.attempt ((Kept.parted buses).pollStream bus)) fun result => ?_
    cases result with
    | ok polled => exact hypothesis _
    | error error => exact recoverFrom_leaves error

theorem checkControl_leaves (recovery : PreparedIngressRecovery) :
    Triple (Parted buses) (Parted buses) (checkControl recovery) (Leaves buses)
      fun _ => Parted buses := by
  have kept := Kept.parted buses
  have goes : Triple (Parted buses) (Parted buses) (pure true : Publishing Bool) (Leaves buses)
      fun _ => Parted buses := Triple.done fun _ held => ⟨held, by simp⟩
  refine .bind _ (kept.load _) fun _ => .bind _ (Preserves.failIf _ _) fun _ => ?_
  refine .bind (Leaves buses) ?_ fun attached => ?_
  · refine .bind _ (kept.load _) fun changed => ?_
    exact .ite (fun _ => reattach_leaves _ _) fun _ => goes
  cases attached with
  | false => exact .done fun _ => id
  | true =>
    refine Triple.strengthen ?_ fun _ held => held.1
    refine .bind _ (kept.load _) fun now => ?_
    refine .bind _ (Preserves.inspect _) fun held => ?_
    refine .ite (fun _ => ?_) fun _ => goes
    refine .bind _ (Preserves.inspect _) fun renewed => ?_
    exact .bind _ (kept.enter fun _ => by simp) fun _ => .fail fun _ => id

theorem checkRecovery_leaves :
    Triple (Parted buses) (Parted buses) checkRecovery (Leaves buses) fun _ => Parted buses := by
  refine .bind _ (Preserves.inspect _) fun recovery => ?_
  cases recovery with
  | none => exact .done fun _ held => ⟨held, by simp⟩
  | some recovery => exact checkControl_leaves recovery

theorem publishRound_leaves :
    Triple (Parted buses) (Parted buses) publishRound
      (Repeats (Parted buses) fun _ world => Parted buses world ∧ Left buses world)
      fun _ => Parted buses := by
  refine .bind _ ((Kept.parted buses).look _) fun aborted => ?_
  refine .ite (fun abort => .done fun _ found => ?_) fun _ => ?_
  · exact ⟨found.1, .inl (found.2.symm.trans abort)⟩
  refine .bind _ (checkRecovery_leaves.left) fun going => ?_
  cases going with
  | false => exact .done fun _ held => ⟨held.1, .inr (.inl (held.2 rfl))⟩
  | true =>
    refine .bind (fun size world => Parted buses world ∧ size = buses)
      (.inspect fun _ held => ⟨held.1, held.1.size⟩) fun size => ?_
    refine .and_pre ?_
    rintro rfl
    refine .bind _ (pollStreams_leaves _ _) fun outcome => ?_
    cases outcome with
    | leave => exact .done fun _ held => ⟨held.1, .inr (.inl held.2)⟩
    | again => exact .done fun _ => id
    | polled progress =>
      refine .bind (fun done world => Parted size world ∧
        (done = true → ∀ bus < size, (world.publisher.active bus).disconnected = true))
        (.inspect fun world held => ⟨held, fun all bus inside => ?_⟩) fun done => ?_
      · exact List.all_eq_true.mp all bus (List.mem_range.mpr inside)
      refine Triple.ite (fun all => Triple.done fun _ held => ?_) fun _ =>
        Triple.done fun _ held => held.1
      exact ⟨held.1, .inr (.inr (held.2 all))⟩

/-- A run that returns without an error was left for one of these reasons. -/
theorem runWithRecovery_leaves (connections : List IngressConnection)
    (recovery : Option PreparedIngressRecovery) (context : Bool) :
    Triple (fun _ => True)
      (fun world => Parted connections.length
        (runStart connections recovery context world))
      (runWithRecovery connections recovery context)
      (fun result world => result.error = none →
        Parted connections.length world ∧ Left connections.length world) fun _ _ => True := by
  have kept := (Kept.parted connections.length).and (Kept.left connections.length)
  refine .bind (fun _ => Parted connections.length) (.update fun _ => id) fun _ => ?_
  refine Triple.bind _ (Triple.attempt ((Triple.forever (fun _ => id)
    publishRound_leaves).observe fun _ _ => trivial)) fun result => ?_
  cases result with
  | error error =>
    refine .bind (fun _ _ => True) (.update fun _ _ => trivial) fun _ => ?_
    refine (Kept.anything.finishRun (some error)).consequence (fun _ _ => trivial) ?_
      fun _ _ _ => trivial
    intro result _ found ended
    rw [found.2] at ended
    cases ended
  | ok _ =>
    refine .bind (fun _ world => Parted connections.length world ∧
      Left connections.length world) (.update fun world held => ?_) fun _ => ?_
    · exact kept.effects world _ held (.note world _ fun _ => by simp)
    refine ((kept.finishRun none).observe fun _ _ => trivial).consequence (fun _ => id)
      (fun _ _ found _ => found.1) fun _ _ _ => trivial

end Loop

/-! ### What a clean end means -/

namespace Launch

variable {recovery : Option PreparedIngressRecovery} (launch : Launch recovery)

theorem parted_world : Parted launch.connections.length launch.world := by
  refine ⟨rfl, fun bus flagged => ?_⟩
  have attached : (launch.world.publisher.active bus).disconnected = false := by
    simp only [world, Gateway.start]
    split <;> rfl
  rw [attached] at flagged
  cases flagged

/-- What has become of the samples captured on a bus, as its threads have entered it: its channel is
exhausted, its account is kept, every frame that was received from it has an outcome, and unless its
encoder could not be started every sample was disposed of for a reason that is counted or is in
such a frame. -/
structure DrainedAt (world : GatewayWorld) (bus : Nat) : Prop where
  exhausted : (world.shared.pipes bus).Exhausted
  account : ∃ moves, World.Charts (launch.lane bus).toBusLayout bus moves world ∧
    (Course.run (launch.lane bus).toBusLayout moves).Conserved
  settled : (world.ledger bus).frames none = []
  samples : unstartedIn (World.pipeEvents bus world.journal) = false →
    (world.shared.pipes bus).feeder.ended = true ∧
      (enteredIn (World.pipeEvents bus world.journal)).Perm
        ((disposedIn (World.pipeEvents bus world.journal)).samples ++
          (world.ledger bus).flatMap (·.2.samples))

/-- A run that ends without an error refused no frame. -/
theorem refused_nothing {world : GatewayWorld} (reached : Reach launch.world (.finished none) world)
    (bus : Nat) : (world.ledger bus).frames none = [] := by
  have refused := reached.refusedOnce launch.refusals_world
  have none : world.refusals = [] := by
    by_contra some
    cases refused.ends some
  have fewer := total_none_le_refusals bus world
  rw [none] at fewer
  exact List.eq_nil_of_length_eq_zero (Nat.le_zero.mp fewer)

theorem drainedAt {world : GatewayWorld} (reached : Reach launch.world (.finished none) world)
    {bus : Nat} (exhausted : (world.shared.pipes bus).Exhausted) : launch.DrainedAt world bus := by
  obtain ⟨moves, charts, -⟩ := launch.charged reached bus
  have taken : (world.shared.pipes bus).taken = (world.ledger bus).map Prod.snd :=
    ((reached.accounted launch.connected_world launch.accounted_world).taken bus).trans
      (List.append_nil _)
  have conserved := (Course.run_accounts (launch.lane bus).toBusLayout moves).1
  refine ⟨exhausted, ⟨moves, charts, conserved⟩, launch.refused_nothing reached bus,
    fun started => ?_⟩
  obtain ⟨ended, samples⟩ := charts.drained exhausted.1 exhausted.2 started
  refine ⟨ended, ?_⟩
  rwa [taken, List.flatMap_map] at samples

/-- Why a run returns without an error. -/
theorem exhausted_of_clean {schedule : List Turn} {result : IngressRunResult}
    (returns : (launch.run schedule).1 = .ok result) (clean : result.error = none) :
    AbortRequested (launch.last schedule) ∨ Stopped (launch.last schedule) ∨
      ∀ bus < launch.lanes.length, ((launch.last schedule).shared.pipes bus).Exhausted := by
  have ends : Parted launch.connections.length (launch.last schedule) ∧
      Left launch.connections.length (launch.last schedule) :=
    (runWithRecovery_leaves launch.connections recovery launch.context schedule launch.world
      launch.parted_world).of_ok returns clean
  obtain ⟨parted, aborted | stopped | given⟩ := ends
  · exact .inl aborted
  · exact .inr (.inl stopped)
  · refine .inr (.inr fun bus inside => parted.exhausted bus ?_)
    exact given bus (launch.length_connections ▸ inside)

end Launch

/-- A gateway run that returns without an error was aborted, or was stopped while a reattachment
was under way, or has drained all its buses: then nothing that was captured is unaccounted for. -/
theorem clean_end_drains_buses {recovery : Option PreparedIngressRecovery}
    (launch : Launch recovery) (schedule : List Turn) (result : IngressRunResult)
    (returns : (launch.run schedule).1 = .ok result) (clean : result.error = none) :
    AbortRequested (launch.last schedule) ∨ Stopped (launch.last schedule) ∨
      ∀ bus < launch.lanes.length, launch.DrainedAt (launch.last schedule) bus := by
  have reached := (launch.returned returns).1
  rw [clean] at reached
  rcases launch.exhausted_of_clean returns clean with aborted | stopped | exhausted
  · exact .inl aborted
  · exact .inr (.inl stopped)
  · exact .inr (.inr fun bus inside => launch.drainedAt reached (exhausted bus inside))

/-- The first frame of a lone bus is sent, its source is stopped and its threads end. -/
def farewellRun : List Turn :=
  let threadsEnd : List Action :=
    .requestStop :: List.replicate 3 (.feeder 0 none) ++ List.replicate 4 (.encoder 0 none)
  firstPacket ++ quietTurns 3 ++ { before := threadsEnd } :: quietTurns 13

def GatewayNote.isReattaching : GatewayNote → Bool
  | .reattaching _ => true
  | _ => false

theorem not_interrupted {world : GatewayWorld}
    (none : world.notes.any GatewayNote.isReattaching = false) : ¬Interrupted world := by
  rintro ⟨later, rounds, earlier, split, -⟩
  simp [split, GatewayNote.isReattaching] at none

theorem clean_end_drains_buses_farewell :
    (((sampleLaunch 1).last farewellRun).shared.pipes 0).taken.length = 1 ∧
      (sampleLaunch 1).DrainedAt ((sampleLaunch 1).last farewellRun) 0 := by
  have returns : ((sampleLaunch 1).run farewellRun).1.toOption.map (·.error) = some none := by
    decide +kernel
  have unaborted : ((sampleLaunch 1).last farewellRun).shared.abortRequested = false ∧
      ((sampleLaunch 1).last farewellRun).notes.any GatewayNote.isReattaching = false ∧
      (((sampleLaunch 1).last farewellRun).shared.pipes 0).taken.length = 1 := by
    decide +kernel
  cases ended : ((sampleLaunch 1).run farewellRun).1 with
  | error halt =>
    rw [ended] at returns
    cases returns
  | ok result =>
    rw [ended] at returns
    refine ⟨unaborted.2.2, ?_⟩
    rcases clean_end_drains_buses (sampleLaunch 1) farewellRun result ended
      (Option.some.inj returns) with aborted | stopped | drained
    · rw [AbortRequested, unaborted.1, Bool.and_false] at aborted
      cases aborted
    · exact absurd stopped.2 (not_interrupted unaborted.2.1)
    · exact drained 0 Nat.one_pos

end RelayConnector
