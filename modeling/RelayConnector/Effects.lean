/-
This file says once what the code of the gateway can do to the world it runs in: the
effects of its single accesses. An assertion that the other threads and every effect
keep is kept by each of the gateway's functions, however it ends and wherever it waits.

Admitting a group is left out of the effects, so that an assertion can say that no group
has been admitted since.
-/

import RelayConnector.Rotation

namespace RelayConnector

open Scheduled GatewayWorld

namespace Pipe

/-- What `try_recv` reports as disconnected, -/
theorem tryRecv_eq_disconnected {pipe : Pipe} :
    pipe.tryRecv.1 = .disconnected ↔ pipe.Exhausted := by
  unfold tryRecv Exhausted
  cases queue : pipe.encoded with
  | cons frame rest => simp
  | nil => cases pipe.encoder.ended <;> simp

/-- it leaves alone. -/
theorem tryRecv_of_exhausted {pipe : Pipe} (exhausted : pipe.Exhausted) :
    pipe.tryRecv.2 = pipe := by
  simp [tryRecv, exhausted.2]

end Pipe

/-! ### Effects -/

/-- What the gateway does to the world in one access, other than admitting a group. -/
inductive Effect : GatewayWorld → GatewayWorld → Prop
  | note (world : GatewayWorld) (entry : GatewayNote)
      (other : ∀ round, entry ≠ .admitted round) : Effect world (world.note entry)
  | settle (world : GatewayWorld) (bus : Nat) (outcome : FrameOutcome)
      (frame : EncodedAudioFrame) : Effect world (settleFrame bus outcome frame world)
  | receive (world : GatewayWorld) (bus : Nat) : Effect world (GatewayWorld.receive bus world).2
  /-- A bus is given up only when its channel is exhausted. -/
  | disconnect (world : GatewayWorld) (bus : Nat) (exhausted : (world.shared.pipes bus).Exhausted) :
      Effect world (GatewayWorld.disconnect bus world)
  | setPaused (world : GatewayWorld) (value : Bool) :
      Effect world (GatewayWorld.setPaused value world)
  | detach (world : GatewayWorld) : Effect world (updateGateway Gateway.detach world)
  | beginRound (world : GatewayWorld) : Effect world (updateGateway Gateway.beginRound world)
  | dial (world : GatewayWorld) : Effect world (updateGateway Gateway.dial world)
  | raiseHighest (world : GatewayWorld) (bus generation : Nat) :
      Effect world (updateGateway (·.raiseHighest bus generation) world)
  | install (world : GatewayWorld) (bus : Nat) (connection : IngressConnection) (revision : Nat)
      (renewed : Bool) : Effect world (GatewayWorld.install bus connection revision renewed world)
  | adopt (world : GatewayWorld) (credential : PublisherCredential) :
      Effect world (updateGateway (·.adopt credential) world)
  | recordInputDrops (world : GatewayWorld) (bus : Nat) :
      Effect world (GatewayWorld.recordInputDrops bus world)

/-- An assertion that the other threads and the notes of the gateway keep. -/
structure Noting (holds : GatewayWorld → Prop) : Prop where
  acts : ∀ world action, holds world → holds (world.perform action)
  notes : ∀ (world : GatewayWorld) entry, (∀ round, entry ≠ .admitted round) → holds world →
    holds (world.note entry)

/-- An assertion that the other threads and the effects of the gateway keep. -/
structure Kept (holds : GatewayWorld → Prop) : Prop extends Noting holds where
  effects : ∀ world after, holds world → Effect world after → holds after
  notes := fun world entry other held => effects world _ held (.note world entry other)

namespace Noting

variable {holds : GatewayWorld → Prop} {Value : Type} (noting : Noting holds)
include noting

theorem stable : Stable settleTurn holds :=
  fun turn world held => World.settle_induction noting.acts turn.before world held

/-! ### Accesses -/

theorem look (read : GatewayWorld → Value) {fails : IngressError → GatewayWorld → Prop} :
    Triple holds holds (load read) (fun value world => holds world ∧ value = read world) fails :=
  Triple.atomic (fun _ => id) noting.stable fun _ _ held => ⟨held, rfl⟩

theorem load (read : GatewayWorld → Value) : Preserves holds (load read) :=
  (noting.look read).weaken fun _ _ found => found.1

theorem ask (answer : Turn → Value) : Preserves holds (ask answer) :=
  Preserves.atomic noting.stable fun _ _ => id

theorem systemCall : Preserves holds systemCall :=
  Preserves.atomic noting.stable fun _ _ => id

theorem enter {entry : GatewayNote} (other : ∀ round, entry ≠ .admitted round) :
    Preserves holds (enter entry) :=
  Preserves.update fun world held => noting.notes world entry other held

/-- A check that fails the command. -/
theorem check {Found : Type} (read : GatewayWorld → Found) (condition : Found → Bool)
    (failure : IngressError) {next : Publishing Value} (rest : Preserves holds next) :
    Preserves holds (do
      Command.failIf (condition (← RelayConnector.load read)) failure
      next) :=
  .bind (noting.load read) fun _ => .bind (.failIf _ _) fun _ => rest

theorem snapshot : Preserves holds snapshot := by
  refine .bind (Preserves.await noting.stable fun _ _ => id) fun credential => ?_
  refine noting.check _ id _ (.bind (noting.load _) fun now => ?_)
  cases validateExpiry credential.validUntil now with
  | error error => exact .fail _
  | ok _ => exact .done _

/-! ### Sending -/

theorem operate (world : GatewayWorld) (message : Outgoing) (operation : Fifo.Operation Outgoing)
    (held : holds world) : holds (operate message operation world) :=
  noting.notes world _ (fun _ => by simp) held

theorem writeMessage (message : Outgoing) : Preserves holds (writeMessage message) := by
  refine Preserves.atomic noting.stable fun turn world held => noting.operate _ _ _ ?_
  cases message with
  | close session => exact held
  | media bus frame packet => exact noting.notes world _ (fun _ => by simp) held

theorem flushSocket (message : Outgoing) : Preserves holds (flushSocket message) :=
  Preserves.atomic noting.stable fun _ _ held => noting.operate _ _ _ held

theorem valid (guarded : Bool) : Preserves holds (valid guarded) := by
  unfold RelayConnector.valid
  have checks : Preserves holds (do
      if ← isRevoked then return false
      if ← revisionChanged then return false
      RelayConnector.load fun world =>
        world.publisher.recovery.all (world.shared.now < ·.credential.validUntil)) :=
    .bind (noting.load _) fun _ => .ite (.done _) <| .bind (noting.load _) fun _ =>
      .ite (.done _) (noting.load _)
  cases guarded with
  | false => exact .bind (.inspect _) fun _ => .ite (.done _) checks
  | true => exact .bind (.inspect _) fun _ => .ite (.done _) checks

theorem flushRound (message : Outgoing) (deadline : Nat) (guarded : Bool) :
    Preserves holds (flushRound message deadline guarded) := by
  refine .bind (noting.valid guarded) fun _ => .bind (.failIf _ _) fun _ => ?_
  refine .bind (noting.flushSocket message) fun flushed => ?_
  match flushed with
  | .ok () => exact .done _
  | .error .wouldBlock => exact noting.check _ (deadline ≤ ·) _ (.done _)
  | .error .timedOut | .error .io | .error .connectionClosed
    | .error .resetWithoutClosingHandshake | .error .other => exact .fail _

theorem sendUntil (message : Outgoing) (deadline : Nat) (guarded : Bool) :
    Preserves holds (sendUntil message deadline guarded) := by
  refine .bind (noting.valid guarded) fun _ => .bind (.failIf _ _) fun _ => ?_
  refine noting.check _ (deadline ≤ ·) _ (.bind (noting.writeMessage message) fun written => ?_)
  match written with
  | .ok () => exact .forever (noting.flushRound _ _ _)
  | .error .wouldBlock => exact .forever (noting.flushRound _ _ _)
  | .error .timedOut | .error .io | .error .connectionClosed
    | .error .resetWithoutClosingHandshake | .error .other => exact .fail _

theorem cancelEach (deadline : Nat) (connections : List IngressConnection) (failed : Bool) :
    Preserves holds (cancelEach deadline connections failed) := by
  induction connections generalizing failed with
  | nil => exact .done _
  | cons connection rest hypothesis =>
    exact .bind (.attempt (noting.sendUntil _ _ _)) fun _ =>
      .bind (.attempt noting.systemCall) fun _ => hypothesis _

theorem cancelUntil (connections : List IngressConnection) (deadline : Nat) :
    Preserves holds (cancelUntil connections deadline) :=
  .bind (noting.cancelEach _ _ _) fun _ => .failIf _ _

theorem cancel (connections : List IngressConnection) : Preserves holds (cancel connections) :=
  .bind (noting.load _) fun _ => noting.cancelUntil _ _

theorem mediaDeadline : Preserves holds mediaDeadline := by
  refine .bind (noting.load _) fun first => .bind (.inspect _) fun recovery => ?_
  cases recovery with
  | none => exact .bind (noting.load _) fun _ => .done _
  | some => exact .done _

/-! ### Admission -/

theorem beforeDeadline (deadline : Nat) {operation : Publishing Value}
    (operates : Preserves holds operation) :
    Preserves holds (beforeDeadline deadline operation) := by
  refine noting.check _ (deadline < ·) _ (.bind noting.systemCall fun _ => ?_)
  refine .bind (.attempt operates) fun result => .bind noting.systemCall fun _ => ?_
  refine noting.check _ (deadline ≤ ·) _ ?_
  cases result with
  | ok => exact .done _
  | error => exact .fail _

theorem readyRound (configuration : RelayRouteConfiguration) (bus session deadline : Nat) :
    Preserves holds (readyRound configuration bus session deadline) := by
  refine noting.check _ (deadline < ·) _ (.bind noting.systemCall fun _ => ?_)
  refine .bind (noting.ask _) fun answer => ?_
  match answer with
  | .ok (.text none) => exact .fail _
  | .ok (.text (some ready)) =>
    exact .bind (.failIf _ _) fun _ => .bind (noting.enter fun _ => by simp) fun _ => .done _
  | .ok .ping | .ok .pong => exact .done _
  | .ok (.close _) | .ok .other => exact .fail _
  | .error _ => exact .fail _

theorem prepare (configuration : RelayRouteConfiguration)
    (bus session channels deadline round revision : Nat) :
    Preserves holds (prepare configuration bus session channels deadline round revision) := by
  refine .bind (Preserves.atomic noting.stable fun _ _ => id) fun _ => ?_
  refine noting.check _ (deadline < ·) _ (.bind noting.systemCall fun _ => ?_)
  refine .bind noting.systemCall fun _ => .bind noting.systemCall fun _ => ?_
  refine .bind (noting.beforeDeadline _ (.forever (noting.readyRound _ _ _ _))) fun ready => ?_
  exact .bind noting.systemCall fun _ => .bind noting.systemCall fun _ => .done _

theorem attachmentDeadline (configurations : List RelayRouteConfiguration)
    (recoveryDeadline : Nat) (credential : PublisherCredential) :
    Preserves holds (attachmentDeadline configurations recoveryDeadline credential) :=
  .bind (noting.load _) fun _ => .bind (noting.load _) fun _ => .done _

end Noting

namespace Kept

variable {holds : GatewayWorld → Prop} {Value : Type} (kept : Kept holds)
include kept

theorem store {change : GatewayWorld → GatewayWorld}
    (effect : ∀ world, Effect world (change world)) : Preserves holds (store change) :=
  Preserves.atomic kept.stable fun _ world held => kept.effects world _ held (effect world)

theorem update {change : GatewayWorld → GatewayWorld}
    (effect : ∀ world, Effect world (change world)) :
    Preserves holds (Command.update change : Publishing Unit) :=
  Preserves.update fun world held => kept.effects world _ held (effect world)

/-! ### Publishing -/

theorem closeActive : Preserves holds closeActive := by
  refine .bind (.inspect _) fun connections => .bind (kept.update .detach) fun _ => ?_
  exact .bind (.attempt (kept.cancel connections)) fun _ => .done _

theorem sendPacket (bus : Nat) (frame : EncodedAudioFrame) (packet : List UInt8) :
    Preserves holds (sendPacket bus frame packet) := by
  refine .bind kept.mediaDeadline fun deadline => .bind (.attempt (kept.sendUntil _ _ _)) ?_
  intro result
  cases result with
  | error error => exact .bind (kept.update fun world => .settle world _ _ _) fun _ => .fail _
  | ok _ => exact kept.update fun world => .settle world _ _ _

theorem sendFrame (bus : Nat) (frame : EncodedAudioFrame) :
    Preserves holds (sendFrame bus frame) := by
  have settles : ∀ outcome, Preserves holds
      (Command.update (settleFrame bus outcome frame) : Publishing Unit) :=
    fun outcome => kept.update fun world => .settle world bus outcome frame
  refine .bind (kept.load _) fun _ => .ite (settles _) ?_
  refine .bind (.inspect _) fun _ => .ite (settles _) ?_
  refine .bind (kept.load _) fun _ => .ite (settles _) ?_
  refine .bind (.inspect _) fun connection => ?_
  cases connection with
  | none => exact .fail _
  | some connection =>
    dsimp only
    cases encodePacket frame connection.channels with
    | error _ => exact .bind (kept.enter fun _ => by simp) fun _ => .fail _
    | ok packet => exact kept.sendPacket _ _ _

/-- A channel that is found disconnected is exhausted when it is given up. -/
theorem receiveFrame (bus : Nat) :
    Triple holds holds (receiveFrame bus)
      (fun received world => holds world ∧
        (received = .disconnected → (world.shared.pipes bus).Exhausted)) fun _ => holds := by
  refine .atomic (fun _ => id) kept.stable fun _ world held => ?_
  refine ⟨kept.effects world _ held (.receive world bus), fun gone => ?_⟩
  have exhausted : (world.shared.pipes bus).Exhausted := Pipe.tryRecv_eq_disconnected.mp gone
  dsimp only [GatewayWorld.receive, World.updatePipe]
  rwa [Function.update_self, Pipe.tryRecv_of_exhausted exhausted]

theorem pollStream (bus : Nat) : Preserves holds (pollStream bus) := by
  refine .bind (.inspect _) fun active => .ite (.done _) ?_
  refine .bind (.failIf _ _) fun _ => .bind (kept.ask _) fun answer => ?_
  cases readFailure answer with
  | some error => exact .fail _
  | none =>
    refine Triple.bind _ (kept.receiveFrame bus) fun received => ?_
    cases received with
    | frame frame =>
      exact (Preserves.bind (kept.sendFrame bus frame) fun _ => .done _).left
    | empty => exact .done fun _ found => found.1
    | disconnected =>
      refine .bind (fun _ => holds) (.update fun world found => ?_) fun _ =>
        Preserves.done _
      exact kept.effects world _ found.1 (.disconnect world bus (found.2 rfl))

/-! ### Admission -/

theorem admitBus (plan : Attempt) (bus : Nat) (configuration : RelayRouteConfiguration) :
    Preserves holds (admitBus plan bus configuration) := by
  refine .bind (kept.load _) fun _ => .ite (.done _) ?_
  refine .bind (kept.load _) fun _ => .ite (.done _) ?_
  refine .bind (kept.load _) fun _ => .ite (.done _) ?_
  refine .bind (.inspect _) fun channels => .bind (.inspect _) fun session => ?_
  refine .bind (kept.update .dial) fun _ => .bind (.attempt (kept.prepare _ _ _ _ _ _ _)) ?_
  intro result
  cases result with
  | error error => exact .bind (kept.enter fun _ => by simp) fun _ => .done _
  | ok connection =>
    refine .bind (.inspect _) fun highest => .ite ?_ ?_
    · exact .bind (kept.enter fun _ => by simp) fun _ => .done _
    refine .bind (kept.update fun world => .raiseHighest world _ _) fun _ => ?_
    refine .bind (kept.load _) fun _ => .ite (.done _) ?_
    refine .bind (kept.load _) fun _ => .ite (.done _) ?_
    refine .bind (kept.load _) fun now => .ite ?_ (.done _)
    exact .bind (kept.enter fun _ => by simp) fun _ => .done _

theorem admitGroup (plan : Attempt) (bus : Nat) (configurations : List RelayRouteConfiguration)
    (connections : List IngressConnection) :
    Preserves holds (admitGroup plan bus configurations connections) := by
  induction configurations generalizing bus connections with
  | nil => exact .done _
  | cons configuration rest hypothesis =>
    refine .bind (kept.admitBus plan bus configuration) fun (connection, error) => ?_
    cases error with
    | some error => exact .done _
    | none => exact hypothesis _ _

theorem installGroup (revision : Nat) (renewed : Bool) (bus : Nat)
    (connections : List IngressConnection) :
    Preserves holds (installGroup revision renewed bus connections) := by
  induction connections generalizing bus with
  | nil => exact .done _
  | cons connection rest hypothesis =>
    exact .bind (kept.store fun world => .install world _ _ _ _) fun _ => hypothesis _

/-! ### The end of a run -/

theorem recordDrops (buses : List Nat) : Preserves holds (recordDrops buses) := by
  induction buses with
  | nil => exact .done _
  | cons bus rest hypothesis =>
    exact .bind (kept.store fun world => .recordInputDrops world _) fun _ => hypothesis

theorem pauseForGood : Preserves holds pauseForGood := by
  refine .bind (.inspect _) fun gateway => .ite ?_ (.done _)
  exact .bind (kept.store fun world => .setPaused world _) fun _ => kept.recordDrops _

/-- Tidying up returns the error it was given. -/
theorem finishRun (error : Option IngressError) :
    Triple holds holds (finishRun error) (fun result world => holds world ∧ result.error = error)
      fun _ => holds := by
  refine .bind _ kept.pauseForGood fun _ => .bind _ kept.closeActive fun _ => ?_
  exact .bind _ (Preserves.inspect _) fun last => .done fun _ held => ⟨held, rfl⟩

end Kept

end RelayConnector
