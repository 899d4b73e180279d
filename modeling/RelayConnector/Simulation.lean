/-
This file proves that the code of the gateway stays inside the lifecycle machine: under
every schedule, wherever the code can be found and whatever it returns, the world is one
that the machine reaches, in the phase that belongs to that point of the code.

Each function has one specification, a triple whose assertions are phases. An access
leaves the phase alone as long as it only looks; a triple takes a machine step where the
code acts on what it has found.
-/

import RelayConnector.Lifecycle

namespace RelayConnector

open Scheduled GatewayWorld

variable {start : GatewayWorld} {phase : Phase} {Value : Type}
  {fails : IngressError → GatewayWorld → Prop}

/-- The publisher is somewhere in its lifecycle. -/
def Located (start world : GatewayWorld) : Prop := ∃ phase, Reach start phase world

variable {world : GatewayWorld} {holds : GatewayWorld → Prop} {error : IngressError}

theorem Reach.located (reached : Reach start phase world) :
    Located start world := ⟨phase, reached⟩

/-- What the other threads do between two accesses leaves the phase. -/
theorem reach_stable : Stable settleTurn (Reach start phase) :=
  fun turn world reached =>
    World.settle_induction (fun _ action reached => reached.act action) turn.before world reached

/-! ### Accesses -/

/-- What can be assumed between two accesses: it places the publisher in its lifecycle, and the
other threads leave it alone. -/
structure Lasting (start : GatewayWorld) (holds : GatewayWorld → Prop) : Prop where
  located : ∀ world, holds world → Located start world
  stable : Stable settleTurn holds

theorem lasting_reach : Lasting start (Reach start phase) where
  located _ reached := reached.located
  stable := reach_stable

theorem Lasting.load (lasting : Lasting start holds) (read : GatewayWorld → Value) :
    Triple (Located start) holds (load read)
      (fun value world => holds world ∧ value = read world) fails :=
  Triple.atomic lasting.located lasting.stable fun _ _ held => ⟨held, rfl⟩

theorem load_spec (read : GatewayWorld → Value) :
    Triple (Located start) (Reach start phase) (load read)
      (fun value world => Reach start phase world ∧ value = read world) fails :=
  lasting_reach.load read

theorem ask_spec (answer : Turn → Value) :
    Triple (Located start) (Reach start phase) (ask answer)
      (fun _ => Reach start phase) fails :=
  Triple.atomic (fun _ reached => reached.located) reach_stable fun _ _ => id

theorem store_spec {change : GatewayWorld → GatewayWorld} {after : Unit → GatewayWorld → Prop}
    (moves : ∀ world, Reach start phase world → after () (change world)) :
    Triple (Located start) (Reach start phase) (store change) after fails :=
  Triple.atomic (fun _ reached => reached.located) reach_stable
    fun _ world reached => moves world reached

theorem systemCall_spec
    (failing : ∀ message world, Reach start phase world → fails (.text message) world) :
    Triple (Located start) (Reach start phase) systemCall (fun _ => Reach start phase) fails := by
  refine .atomic (fun _ reached => reached.located) reach_stable fun turn world reached => ?_
  cases turn.call with
  | ok _ => exact reached
  | error message => exact failing message world reached

/-- A check on what a load finds, in front of what follows if it passes. -/
theorem Lasting.check (lasting : Lasting start holds) {Found Result : Type}
    {read : GatewayWorld → Found} {condition : Found → Bool} {rest : Found → Publishing Result}
    {after : Result → GatewayWorld → Prop}
    (failing : ∀ world, holds world → condition (read world) = true → fails error world)
    (passing : ∀ found, Triple (Located start) holds (rest found) after fails) :
    Triple (Located start) holds
      (RelayConnector.load read >>= fun found =>
        Command.failIf (condition found) error >>= fun _ => rest found)
      after fails := by
  refine .bind _ (lasting.load read) fun found => ?_
  refine .bind (fun _ => holds) (.failIf ?_ ?_) fun _ => passing found
  · rintro world fires ⟨held, rfl⟩
    exact failing world held fires
  · exact fun _ _ found => found.1

theorem check_spec {Found Result : Type} {read : GatewayWorld → Found} {condition : Found → Bool}
    {rest : Found → Publishing Result} {after : Result → GatewayWorld → Prop}
    (failing : ∀ world, Reach start phase world → condition (read world) = true →
      fails error world)
    (passing : ∀ found, Triple (Located start) (Reach start phase) (rest found) after fails) :
    Triple (Located start) (Reach start phase)
      (load read >>= fun found => Command.failIf (condition found) error >>= fun _ => rest found)
      after fails :=
  lasting_reach.check failing passing

/-! ### The guarded send -/

/-- What `revisionChanged` loads. -/
theorem changed_of_load (loaded : world.publisher.recovery.any
      (·.credential.revision != world.shared.control.revision) = true) : Changed world := by
  obtain ⟨recovery, held, differs⟩ := Option.any_eq_true .. |>.mp loaded
  exact ⟨recovery, held, by simpa using differs⟩

theorem not_changed_of_load (loaded : world.publisher.recovery.any
      (·.credential.revision != world.shared.control.revision) = false) : ¬Changed world := by
  rintro ⟨recovery, held, differs⟩
  rw [held] at loaded
  exact differs (by simpa using loaded)

theorem invalid_of_changed (changed : Changed world) : Invalid world := by
  obtain ⟨recovery, held, differs⟩ := changed
  exact .inr ⟨recovery, held, .inl differs⟩

/-- What the last check of `valid` loads. -/
theorem invalid_of_expired (loaded : world.publisher.recovery.all
      (world.shared.now < ·.credential.validUntil) = false) : Invalid world := by
  obtain ⟨recovery, held, expired⟩ := Option.all_eq_false .. |>.mp loaded
  exact .inr ⟨recovery, held, .inr (by simpa using expired)⟩

/-- Without the recovery the send is not guarded. -/
theorem Lasting.valid_unguarded :
    Triple (Located start) holds (valid false)
      (fun valid world => holds world ∧ valid = true) fails := by
  refine .bind (fun _ => holds) (.inspect fun _ => id) fun _ => ?_
  exact .done fun _ held => ⟨held, rfl⟩

/-- Where nothing is to be learnt from success: a failure of `valid` has its reason at that very
moment. -/
theorem Lasting.valid (lasting : Lasting start holds) :
    Triple (Located start) holds (valid true)
      (fun valid world => holds world ∧ (valid = false → Invalid world)) fails := by
  refine .bind (fun _ => holds) (.inspect fun _ => id) fun static => ?_
  cases static with
  | true => exact .done fun _ held => ⟨held, fun impossible => by simp at impossible⟩
  | false =>
    refine .bind _ (lasting.load _) fun revoked => ?_
    cases revoked with
    | true => exact .done fun _ found => ⟨found.1, fun _ => .inl found.2.symm⟩
    | false =>
      refine .bind _ (lasting.load _).left fun changed => ?_
      cases changed with
      | true =>
        exact .done fun _ found =>
          ⟨found.1, fun _ => invalid_of_changed (changed_of_load found.2.symm)⟩
      | false =>
        refine (lasting.load _).left.weaken fun valid world found => ?_
        exact ⟨found.1, fun expired => invalid_of_expired (found.2 ▸ expired)⟩

variable {bus : Nat} {frame : EncodedAudioFrame} {packet : List UInt8}

/-- Before the write every check that passes is a step, and the last one clears the packet. -/
theorem valid_packed :
    Triple (Located start) (Reach start (.sending bus frame packet .packed)) (valid true)
      (fun valid world =>
        if valid then Reach start (.sending bus frame packet .cleared) world
        else ∃ stage, Reach start (.sending bus frame packet stage) world ∧ Invalid world ∧
          stage ≠ .written)
      fails := by
  refine .bind (fun static world => Reach start (.sending bus frame packet .packed) world ∧
    static = world.publisher.recovery.isNone) (.inspect fun _ reached => ⟨reached, rfl⟩)
    fun static => ?_
  cases static with
  | true =>
    refine .done fun world found => ?_
    exact found.1.step (.unguarded _ _ _ _ (Option.isNone_iff_eq_none.mp found.2.symm))
  | false =>
    refine .bind _ (load_spec _).left fun revoked => ?_
    cases revoked with
    | true => exact .done fun _ found => ⟨_, found.1, .inl found.2.symm, nofun⟩
    | false =>
      refine .bind _ ((load_spec _).strengthen fun world found =>
        found.1.step (.seeUnrevoked _ _ _ _ found.2.symm)) fun changed => ?_
      cases changed with
      | true =>
        exact .done fun _ found =>
          ⟨_, found.1, invalid_of_changed (changed_of_load found.2.symm), nofun⟩
      | false =>
        refine ((load_spec _).strengthen fun world found => found.1.step
          (.seeCurrent _ _ _ _ (not_changed_of_load found.2.symm))).weaken
            fun valid world found => ?_
        cases valid with
        | true => exact found.1.step (.seeUnexpired _ _ _ _)
        | false => exact ⟨_, found.1, invalid_of_expired found.2.symm, nofun⟩

/-- Where the flush loop stands: its message has been buffered. -/
def Flushing (start : GatewayWorld) (phase : Phase) (message : Outgoing)
    (world : GatewayWorld) : Prop :=
  Reach start phase world ∧ Unflushed message true world

/-- An error of the send has its reason then, and not everything was flushed. -/
def SendFails (start : GatewayWorld) (phase : Phase) (message : Outgoing) (error : IngressError)
    (world : GatewayWorld) : Prop :=
  Reach start phase world ∧ (credentialChanged error = true → Invalid world) ∧
    ∃ queued, Unflushed message queued world

section Flush

variable {message : Outgoing}

theorem lasting_flushing : Lasting start (Flushing start phase message) where
  located _ flushing := flushing.1.located
  stable := by
    intro turn world flushing
    refine World.settle_induction (fun world action flushing => ?_) turn.before world flushing
    refine ⟨flushing.1.act action, ?_⟩
    rw [Unflushed, operations_perform, World.perform_publisher]
    exact flushing.2

variable (flushes : ∀ world written, Unflushed message true world →
  Access world phase message (.flush written))

include flushes

theorem flushSocket_spec :
    Triple (Located start) (Flushing start phase message) (flushSocket message)
      (fun answer world => Reach start phase world ∧ match answer with
        | .ok () => Flushed message world
        | .error _ => Unflushed message true world) fails := by
  refine .atomic lasting_flushing.located lasting_flushing.stable fun turn world flushing => ?_
  refine ⟨flushing.1.step (.socket _ _ _ _ (flushes world _ flushing.2)), ?_⟩
  rw [Turn.flushes]
  cases turn.flush with
  | ok => exact flushing.2.flush
  | error => exact flushing.2.stall _

/-- The flush loop returns when everything is written. -/
theorem flush_spec {guarded : Bool} (deadline : Nat)
    (checked : Triple (Located start) (Flushing start phase message) (valid guarded)
      (fun valid world => Flushing start phase message world ∧ (valid = false → Invalid world))
      (SendFails start phase message)) :
    Triple (Located start) (Flushing start phase message)
      (Command.forever (flushRound message deadline guarded))
      (fun _ world => Reach start phase world ∧ Flushed message world)
      (SendFails start phase message) := by
  refine .forever lasting_flushing.located ?_
  refine .bind _ checked fun valid => ?_
  refine .bind (fun _ => Flushing start phase message) (.failIf ?_ ?_) fun _ => ?_
  · exact fun _ invalid found =>
      ⟨found.1.1, fun _ => found.2 (by simpa using invalid), _, found.1.2⟩
  · exact fun _ _ found => found.1
  refine .bind _ (flushSocket_spec flushes) fun answer => ?_
  cases answer with
  | ok _ => exact .done fun _ => id
  | error error =>
    cases error with
    | wouldBlock =>
      refine lasting_flushing.check (fun _ flushing _ => ?_) fun _ => ?_
      · exact ⟨flushing.1, nofun, _, flushing.2⟩
      · exact .done fun _ => id
    | _ =>
      refine .fail fun _ found => ⟨found.1, fun impossible => ?_, _, found.2⟩
      cases impossible

end Flush

/-- A message is written once and flushed until everything is written; a write that returns Ok or
would block has buffered it. -/
theorem writeMessage_spec {message : Outgoing} {guarded : Bool} (deadline : Nat) {before : Phase}
    (moves : ∀ world queued, Reach start before world →
      Reach start phase (operate message (.write message queued)
        (match message with
          | .media bus frame packet => handOver bus frame packet world
          | .close _ => world)))
    (flushes : ∀ world written, Unflushed message true world →
      Access world phase message (.flush written))
    (checked : Triple (Located start) (Flushing start phase message) (valid guarded)
      (fun valid world => Flushing start phase message world ∧ (valid = false → Invalid world))
      (SendFails start phase message)) :
    Triple (Located start) (Reach start before)
      (writeMessage message >>= fun answer => match answer with
        | .ok () => Command.forever (flushRound message deadline guarded)
        | .error .wouldBlock => Command.forever (flushRound message deadline guarded)
        | .error error => Command.fail (classifySocketError error))
      (fun _ world => Reach start phase world ∧ Flushed message world)
      (SendFails start phase message) := by
  refine .bind (fun answer world => Reach start phase world ∧
    ∃ queued, Unflushed message queued world ∧
      (answer = .ok () ∨ answer = .error .wouldBlock → queued = true)) ?_ fun answer => ?_
  · refine .atomic (fun _ reached => reached.located) reach_stable fun turn world reached => ?_
    refine ⟨moves world _ reached, turn.queues, ?_, fun taken => ?_⟩
    · cases message <;> exact unflushed_write
    · rcases taken with ok | blocked
      · rw [Turn.queues, ok]
      · rw [Turn.queues, blocked]
  have goOn := flush_spec flushes deadline checked
  cases answer with
  | ok _ =>
    refine goOn.strengthen ?_
    rintro world ⟨reached, queued, unflushed, taken⟩
    exact ⟨reached, taken (.inl rfl) ▸ unflushed⟩
  | error error =>
    cases error with
    | wouldBlock =>
      refine goOn.strengthen ?_
      rintro world ⟨reached, queued, unflushed, taken⟩
      exact ⟨reached, taken (.inr rfl) ▸ unflushed⟩
    | _ =>
      refine .fail ?_
      rintro world ⟨reached, queued, unflushed, -⟩
      exact ⟨reached, nofun, queued, unflushed⟩

/-- A close frame is sent wherever the publisher is not sending a packet. -/
theorem sendUntil_close (session deadline : Nat) (idle : phase.sends = false) :
    Triple (Located start) (Reach start phase) (sendUntil (.close session) deadline false)
      (fun _ => Reach start phase) (fun _ => Reach start phase) := by
  refine .bind _ Lasting.valid_unguarded fun valid => ?_
  refine .bind (fun _ => Reach start phase) (.failIf ?_ ?_) fun _ => ?_
  · exact fun _ _ found => found.1
  · exact fun _ _ found => found.1
  refine check_spec (fun _ reached _ => reached) fun _ => ?_
  refine Triple.consequence (writeMessage_spec deadline ?_ (fun _ _ => .flushClose _ _ _ idle) ?_)
    (fun _ => id) (fun _ _ found => found.1) fun _ _ failed => failed.1
  · exact fun _ queued reached => reached.step (.socket _ _ _ _ (.writeClose _ _ queued idle))
  · refine Lasting.valid_unguarded.weaken fun _ _ found => ⟨found.1, fun invalid => ?_⟩
    rw [found.2] at invalid
    cases invalid

/-- A media packet is written only when it has been cleared, and once; it is sent when everything
is flushed. -/
theorem sendUntil_media (deadline : Nat) :
    Triple (Located start) (Reach start (.sending bus frame packet .packed))
      (sendUntil (.media bus frame packet) deadline true)
      (fun _ world => Reach start (.sending bus frame packet .written) world ∧
        Flushed (.media bus frame packet) world)
      (fun error world => ∃ stage, Reach start (.sending bus frame packet stage) world ∧
        (credentialChanged error = true → Invalid world) ∧
        (stage = .written → ∃ queued, Unflushed (.media bus frame packet) queued world)) := by
  refine .bind _ valid_packed fun valid => ?_
  refine .bind (fun _ => Reach start (.sending bus frame packet .cleared))
    (.failIf ?_ ?_) fun _ => ?_
  · intro world invalid found
    obtain rfl : valid = false := by simpa using invalid
    obtain ⟨stage, reached, reason, unwritten⟩ := found
    exact ⟨stage, reached, fun _ => reason, fun written => absurd written unwritten⟩
  · intro world passed found
    obtain rfl : valid = true := by simpa using passed
    exact found
  refine check_spec (fun _ reached _ => ⟨_, reached, nofun, nofun⟩) fun _ => ?_
  refine Triple.consequence (writeMessage_spec deadline ?_ (fun _ => .flush bus frame packet)
      lasting_flushing.valid)
    (fun _ => id) (fun _ _ => id)
    fun _ _ failed => ⟨_, failed.1, failed.2.1, fun _ => failed.2.2⟩
  exact fun world queued reached => (reached.step (.write _ _ _ _)).step
    (.socket _ _ _ _ (.write bus frame packet queued rfl))

/-! ### Closing -/

/-- A close whose result is not looked at. -/
theorem attempt_spec {command : Publishing Value}
    (triple : Triple (Located start) (Reach start phase) command (fun _ => Reach start phase)
      (fun _ => Reach start phase)) :
    Triple (Located start) (Reach start phase) (Command.attempt command)
      (fun _ => Reach start phase) fails := by
  refine (Triple.attempt triple).weaken fun result _ reached => ?_
  cases result <;> exact reached

theorem cancelEach_spec (idle : phase.sends = false) (deadline : Nat)
    (connections : List IngressConnection) (failed : Bool) :
    Triple (Located start) (Reach start phase) (cancelEach deadline connections failed)
      (fun _ => Reach start phase) fails := by
  induction connections generalizing failed with
  | nil => exact .done fun _ => id
  | cons connection rest hypothesis =>
    refine .bind _ (attempt_spec (sendUntil_close _ deadline idle)) fun sent => ?_
    refine .bind _ (attempt_spec (systemCall_spec fun _ _ => id)) fun _ => ?_
    exact hypothesis _

theorem cancelUntil_spec (idle : phase.sends = false) (connections : List IngressConnection)
    (deadline : Nat) (failing : ∀ error world, Reach start phase world → fails error world) :
    Triple (Located start) (Reach start phase) (cancelUntil connections deadline)
      (fun _ => Reach start phase) fails := by
  refine .bind _ (cancelEach_spec idle deadline connections false) fun failed => ?_
  exact .failIf (fun world _ reached => failing _ world reached) fun _ _ => id

/-- Every connection is taken at once; closing them changes nothing more. -/
theorem closeActive_spec {next : Phase} (idle : next.sends = false)
    (moves : ∀ world, Reach start phase world →
      Reach start next (updateGateway Gateway.detach world)) :
    Triple (Located start) (Reach start phase) closeActive (fun _ => Reach start next) fails := by
  refine .bind (fun _ => Reach start phase) (.inspect fun _ => id) fun connections => ?_
  refine .bind (fun _ => Reach start next)
    (.update fun world reached => moves world reached) fun _ => ?_
  refine .bind (fun _ => Reach start next) (attempt_spec ?_) fun _ => .done fun _ => id
  refine .bind _ (load_spec _) fun _ => ?_
  exact (cancelUntil_spec idle connections _ fun _ _ => id).left

/-! ### One bus -/

theorem mediaDeadline_spec :
    Triple (Located start) (Reach start phase) mediaDeadline (fun _ => Reach start phase)
      fails := by
  refine .bind _ (load_spec _) fun _ => ?_
  refine .bind (fun _ => Reach start phase) (.inspect fun _ found => found.1) fun recovery => ?_
  cases recovery with
  | none =>
    refine .bind _ (load_spec _) fun _ => ?_
    exact .done fun _ found => found.1
  | some _ => exact .done fun _ => id

theorem sendPacket_spec :
    Triple (Located start) (Reach start (.sending bus frame packet .packed))
      (sendPacket bus frame packet) (fun _ => Reach start .attached)
      (fun error => Reach start (.broken error)) := by
  refine .bind _ mediaDeadline_spec fun deadline => ?_
  refine .bind _ (.attempt (sendUntil_media deadline)) fun result => ?_
  cases result with
  | ok _ => exact .update fun _ found => found.1.step (.flushed _ _ _ _ found.2)
  | error error =>
    refine .bind (fun _ => Reach start (.broken error)) (.update ?_) fun _ => .fail fun _ => id
    rintro world ⟨stage, reached, truthful, unflushed⟩
    exact reached.step (.abandon _ _ _ _ _ _ truthful unflushed)

/-- A frame in hand is settled, or the bus is broken. -/
theorem sendFrame_spec :
    Triple (Located start) (Reach start (.holding bus frame)) (sendFrame bus frame)
      (fun _ => Reach start .attached) (fun error => Reach start (.broken error)) := by
  refine .bind _ (load_spec _) fun inactive => ?_
  cases inactive with
  | true => exact .update fun _ found => found.1.step (.cancelled _ _ _)
  | false =>
    -- no time passes between the check of the generation and the look at the cutoff
    refine .bind (fun cutoff world => Reach start (.holding bus frame) world ∧
      cutoff = (world.publisher.active bus).notBeforeCaptureNs ∧
        false = world.shared.inactive frame.outputGeneration)
      (.inspect fun _ found => ⟨found.1, rfl, found.2⟩) fun cutoff => ?_
    cases before : cutoff.any (frame.captureTimestampNs < ·) with
    | true => exact .update fun _ found => found.1.step (.superseded _ _ _)
    | false =>
      refine .bind _ ((load_spec _).strengthen fun world found =>
        found.1.step (.want world bus frame found.2.2.symm ?_)) fun now => ?_
      · rw [← found.2.1]
        cases cutoff with
        | none => rfl
        | some value => simpa using before
      refine .ite (fun _ => .update fun _ found => found.1.step (.stale _ _ _)) fun _ => ?_
      refine .bind (fun connection world => Reach start (.wanted bus frame) world ∧
        connection = (world.publisher.active bus).connection)
        (.inspect fun _ found => ⟨found.1, rfl⟩) fun connection => ?_
      cases connection with
      | none =>
        exact .fail fun _ found => found.1.step (.disconnected _ _ _ found.2.symm)
      | some connection =>
        dsimp only
        cases encoded : encodePacket frame connection.channels with
        | error message =>
          refine .bind (fun _ => Reach start (.broken (.failure .protocol)))
            (.update ?_) fun _ => .fail fun _ => id
          exact fun _ found => found.1.step (.unencodable _ _ _ _ _ found.2.symm encoded)
        | ok packet =>
          exact sendPacket_spec.strengthen fun _ found =>
            found.1.step (.pack _ _ _ _ _ found.2.symm encoded)

theorem readFailure_other {answer : Except SocketError Message}
    (failed : readFailure answer = some error) : credentialChanged error = false := by
  unfold readFailure at failed
  split at failed <;> cases failed
  · rename_i code
    unfold closeFailure
    split <;> rfl
  · rfl
  · rename_i error _ _
    cases error <;> rfl

/-- An empty channel is left as it is. -/
theorem receive_of_nil (empty : (world.shared.pipes bus).encoded = []) :
    (GatewayWorld.receive bus world).2 = world := by
  have same : (world.shared.pipes bus).tryRecv.2 = world.shared.pipes bus := by
    simp [Pipe.tryRecv, empty]
  simp only [GatewayWorld.receive, World.updatePipe, same, Function.update_eq_self]

theorem receiveFrame_spec (inside : bus < start.publisher.buses) :
    Triple (Located start) (Reach start .attached) (receiveFrame bus)
      (fun received world =>
        match received with
        | .frame frame => Reach start (.holding bus frame) world
        | _ => Reach start .attached world) fails := by
  refine .atomic (fun _ reached => reached.located) reach_stable fun _ world reached => ?_
  show match (GatewayWorld.receive bus world).1 with
    | .frame frame => Reach start (.holding bus frame) (GatewayWorld.receive bus world).2
    | _ => Reach start .attached (GatewayWorld.receive bus world).2
  cases queue : (world.shared.pipes bus).encoded with
  | nil =>
    rw [receive_of_nil queue]
    have received : (GatewayWorld.receive bus world).1 =
        if (world.shared.pipes bus).encoder.ended then .disconnected else .empty := by
      simp [GatewayWorld.receive, Pipe.tryRecv, queue]
    rw [received]
    cases (world.shared.pipes bus).encoder.ended <;> exact reached
  | cons frame rest =>
    have received : (GatewayWorld.receive bus world).1 = .frame frame := by
      simp [GatewayWorld.receive, Pipe.tryRecv, queue]
    rw [received]
    exact reached.step (.receive world bus frame rest (reached.buses ▸ inside) queue)

theorem pollStream_spec (inside : bus < start.publisher.buses) :
    Triple (Located start) (Reach start .attached) (pollStream bus)
      (fun _ => Reach start .attached) (fun error => Reach start (.broken error)) := by
  refine .bind (fun _ => Reach start .attached) (.inspect fun _ => id) fun active => ?_
  refine .ite (fun _ => .done fun _ => id) fun _ => ?_
  refine .bind (fun _ => Reach start .attached) (.failIf ?_ ?_) fun _ => ?_
  · exact fun _ _ reached => reached.step (.readFails _ _ rfl)
  · exact fun _ _ => id
  refine .bind _ (ask_spec _) fun answer => ?_
  cases failed : readFailure answer with
  | some error =>
    exact .fail fun _ reached => reached.step (.readFails _ _ (readFailure_other failed))
  | none =>
    refine .bind _ (receiveFrame_spec inside) fun received => ?_
    cases received with
    | frame frame =>
      refine .bind _ sendFrame_spec fun _ => ?_
      exact .done fun _ => id
    | empty => exact .done fun _ => id
    | disconnected =>
      refine .bind (fun _ => Reach start .attached) (.update ?_) fun _ => .done fun _ => id
      exact fun _ reached => reached.step (.disconnect _ _)

/-! ### Admission -/

variable {round : AdmissionRound} {session channels : Nat}

/-- An error of `prepare`, whether or not READY was heard. -/
def DialFails (start : GatewayWorld) (round : AdmissionRound) (session channels : Nat)
    (error : IngressError) (world : GatewayWorld) : Prop :=
  (∃ heard, Reach start (.dialling round session channels heard) world) ∧
    (credentialChanged error = false ∧ error ≠ .failure .generation)

theorem DialFails.text {heard : Option Nat}
    (reached : Reach start (.dialling round session channels heard) world) (message : String) :
    DialFails start round session channels (.text message) world :=
  ⟨⟨heard, reached⟩, rfl, by simp⟩

theorem systemCall_dialling {heard : Option Nat} :
    Triple (Located start) (Reach start (.dialling round session channels heard)) systemCall
      (fun _ => Reach start (.dialling round session channels heard))
      (DialFails start round session channels) :=
  systemCall_spec fun message _ reached => .text reached message

theorem connectSocket_spec :
    Triple (Located start) (Reach start (.dialling round session channels none)) connectSocket
      (fun _ => Reach start (.dialling round session channels none))
      (DialFails start round session channels) := by
  refine .atomic (fun _ reached => reached.located) reach_stable fun turn world reached => ?_
  cases turn.connect with
  | ok _ => exact reached
  | error error => cases error <;> exact ⟨⟨_, reached⟩, rfl, by simp [ConnectError.toIngressError]⟩

/-- READY is heard in the round that returns it, and not before. -/
theorem readyRound_spec (configuration : RelayRouteConfiguration) (deadline : Nat) :
    Triple (Located start) (Reach start (.dialling round session channels none))
      (readyRound configuration round.bus session deadline)
      (Repeats (Reach start (.dialling round session channels none)) fun ready =>
        Reach start (.dialling round session channels (some ready.sourceGeneration)))
      (DialFails start round session channels) := by
  refine check_spec (fun _ reached _ => .text reached _) fun _ => ?_
  refine .bind _ systemCall_dialling fun _ => ?_
  refine .bind _ (ask_spec _) fun answer => ?_
  have failing : ∀ error, credentialChanged error = false → error ≠ .failure .generation →
      ∀ world, Reach start (.dialling round session channels none) world →
        DialFails start round session channels error world :=
    fun _ other valid _ reached => ⟨⟨_, reached⟩, other, valid⟩
  cases answer with
  | error error =>
    refine .fail (failing _ ?_ ?_)
    · cases error <;> rfl
    · cases error <;> simp [classifySocketError]
  | ok message =>
    cases message with
    | text ready =>
      cases ready with
      | none => exact .fail (failing _ rfl (by simp))
      | some ready =>
        refine .bind (fun _ => Reach start (.dialling round session channels none))
          (.failIf (fun world _ reached => failing _ rfl (by simp) world reached)
            fun _ _ => id) fun _ => ?_
        refine .bind
          (fun _ => Reach start (.dialling round session channels (some ready.sourceGeneration)))
          (.update fun _ reached => reached.step (.ready _ _ _ _ _)) fun _ => ?_
        exact .done fun _ => id
    | ping => exact .done fun _ => id
    | pong => exact .done fun _ => id
    | close _ => exact .fail (failing _ rfl (by simp))
    | other => exact .fail (failing _ rfl (by simp))

/-- The deadline can discard a READY that was heard: the error then comes with the phase. -/
theorem beforeDeadline_spec (deadline : Nat) {operation : Publishing Ready}
    (operates : Triple (Located start) (Reach start (.dialling round session channels none))
      operation
      (fun ready =>
        Reach start (.dialling round session channels (some ready.sourceGeneration)))
      (DialFails start round session channels)) :
    Triple (Located start) (Reach start (.dialling round session channels none))
      (beforeDeadline deadline operation)
      (fun ready =>
        Reach start (.dialling round session channels (some ready.sourceGeneration)))
      (DialFails start round session channels) := by
  refine check_spec (fun _ reached _ => .text reached _) fun _ => ?_
  refine .bind _ systemCall_dialling fun _ => ?_
  refine .bind _ (.attempt operates) fun result => ?_
  cases result with
  | ok ready =>
    refine .bind _ systemCall_dialling fun _ => ?_
    refine check_spec (fun _ reached _ => .text reached _) fun _ => ?_
    exact .done fun _ => id
  | error error =>
    refine .and_pre fun other => .exists_pre fun heard => ?_
    refine .bind _ systemCall_dialling fun _ => ?_
    refine check_spec (fun _ reached _ => .text reached _) fun _ => ?_
    exact .fail fun _ reached => ⟨⟨_, reached⟩, other⟩

theorem prepare_spec (configuration : RelayRouteConfiguration) (deadline : Nat) :
    Triple (Located start) (Reach start (.dialling round session channels none))
      (prepare { configuration with sourceToken := round.plan.credential.token } round.bus session
        channels deadline round.plan.round round.plan.credential.revision)
      (fun connection => Reach start (.offered round connection))
      (DialFails start round session channels) := by
  refine .bind _ connectSocket_spec fun _ => ?_
  refine check_spec (fun _ reached _ => .text reached _) fun _ => ?_
  refine .bind _ systemCall_dialling fun _ => ?_
  refine .bind _ systemCall_dialling fun _ => ?_
  refine .bind _ systemCall_dialling fun _ => ?_
  refine .bind _ (beforeDeadline_spec deadline (.forever
    (fun _ reached => reached.located) (readyRound_spec _ deadline))) fun ready => ?_
  refine .bind _ systemCall_dialling fun _ => ?_
  refine .bind _ systemCall_dialling fun _ => ?_
  exact .done fun _ reached => reached.step (.prepared _ _ _ _ _)

/-- The phase after one bus: the next bus, or a failed round. -/
def BusAdmitted (start : GatewayWorld) (round : AdmissionRound) :
    Option IngressConnection × Option IngressError → GatewayWorld → Prop
  | (_, some error), world => Reach start (.failed round.made round.plan error) world
  | (connection, none), world =>
    Reach start (.admitting { round with
      connections := round.connections ++ connection.toList }) world ∧ connection.isSome

theorem admitBus_spec (configuration : RelayRouteConfiguration) :
    Triple (Located start) (Reach start (.admitting round))
      (admitBus round.plan round.bus configuration) (BusAdmitted start round) fails := by
  refine .bind _ (load_spec _) fun revoked => ?_
  refine .ite (fun isRevoked => .done ?_) fun _ => ?_
  · rintro _ ⟨reached, found⟩
    exact reached.step (.deny _ _ (.inl (found.symm.trans isRevoked)))
  refine .bind _ (load_spec _).left fun changed => ?_
  refine .ite (fun isChanged => .done ?_) fun _ => ?_
  · rintro _ ⟨reached, rfl⟩
    exact reached.step (.deny _ _ (.inr (.inl (by simpa using isChanged))))
  refine .bind _ (load_spec _).left fun stopped => ?_
  refine .ite (fun isStopped => .done ?_) fun _ => ?_
  · rintro _ ⟨reached, found⟩
    exact reached.step (.deny _ _ (.inr (.inr (found.symm.trans isStopped))))
  refine .bind (fun channels world => Reach start (.admitting round) world ∧
    channels = (world.publisher.active round.bus).channels)
    (.inspect fun _ found => ⟨found.1, rfl⟩) fun channels => ?_
  refine .bind (fun session world => Reach start (.admitting round) world ∧
    channels = (world.publisher.active round.bus).channels ∧ session = world.publisher.sessions)
    (.inspect fun _ found => ⟨found.1, found.2, rfl⟩) fun session => ?_
  refine .bind (fun _ => Reach start (.dialling round session channels none))
    (.update ?_) fun _ => ?_
  · rintro world ⟨reached, rfl, rfl⟩
    exact reached.step (.dial _ _)
  refine .bind _ (.attempt (prepare_spec _ _)) fun result => ?_
  cases result with
  | error error =>
    refine .and_pre fun other => .exists_pre fun heard => ?_
    refine .bind (fun _ => Reach start (.failed round.made round.plan error))
      (.update fun _ reached => reached.step (.prepareFails _ _ _ _ _ _ other.1 other.2))
      fun _ => ?_
    exact .done fun _ => id
  | ok connection =>
    refine .bind (fun highest world => Reach start (.offered round connection) world ∧
      highest = (world.publisher.active round.bus).highestGeneration)
      (.inspect fun _ reached => ⟨reached, rfl⟩) fun highest => ?_
    refine .ite (fun behind => ?_) fun ahead => ?_
    · refine .bind (fun _ => Reach start (.failed round.made round.plan
        (.failure .generation))) (.update ?_) fun _ => .done fun _ => id
      rintro world ⟨reached, rfl⟩
      exact reached.step (.refuse _ _ _ behind)
    refine .bind (fun _ => Reach start (.checking round connection)) (.update ?_) fun _ => ?_
    · rintro world ⟨reached, rfl⟩
      exact reached.step (.advance _ _ _ (Nat.not_le.mp ahead))
    refine .bind _ (load_spec _) fun revoked => ?_
    refine .ite (fun isRevoked => .done ?_) fun _ => ?_
    · rintro _ ⟨reached, found⟩
      exact reached.step (.withdraw _ _ _ (.inl (found.symm.trans isRevoked)))
    refine .bind _ (load_spec _).left fun changed => ?_
    refine .ite (fun isChanged => .done ?_) fun _ => ?_
    · rintro _ ⟨reached, rfl⟩
      exact reached.step (.withdraw _ _ _ (.inr (by simpa using isChanged)))
    refine .bind _ (load_spec _).left fun now => ?_
    refine .ite (fun elapsed => ?_) fun _ => .done ?_
    · refine .bind (fun _ => Reach start (.failed round.made round.plan
        (.failure .credential))) (.update ?_) fun _ => .done fun _ => id
      rintro world ⟨reached, rfl⟩
      exact reached.step (.late _ _ _ elapsed)
    · exact fun _ found => ⟨found.1.step (.accept _ _ _), rfl⟩

/-- The phase after `admit_group`: every bus has a connection, or the round has failed. -/
def GroupAdmitted (start : GatewayWorld) (made : Nat) (plan : Attempt) (buses : Nat) :
    List IngressConnection × Option IngressError → GatewayWorld → Prop
  | (_, some error), world => Reach start (.failed made plan error) world
  | (connections, none), world =>
    Reach start (.admitting ⟨made, plan, connections⟩) world ∧ connections.length = buses

/-- The admission of the buses that are left, by induction along their configurations. -/
theorem admitGroup_spec {made : Nat} {plan : Attempt}
    (configurations : List RelayRouteConfiguration) (connections : List IngressConnection) :
    Triple (Located start) (Reach start (.admitting ⟨made, plan, connections⟩))
      (admitGroup plan connections.length configurations connections)
      (GroupAdmitted start made plan (connections.length + configurations.length)) fails := by
  induction configurations generalizing connections with
  | nil => exact .done fun _ reached => ⟨reached, rfl⟩
  | cons configuration rest hypothesis =>
    refine .bind _ (admitBus_spec configuration) fun outcome => ?_
    obtain ⟨connection, error⟩ := outcome
    cases error with
    | some error => exact .done fun _ => id
    | none =>
      refine .and_pre fun present => ?_
      obtain ⟨connection, rfl⟩ := Option.isSome_iff_exists.mp present
      have next := hypothesis (connections ++ [connection])
      rw [List.length_append, List.length_singleton] at next
      refine next.weaken fun outcome _ admitted => ?_
      rwa [List.length_cons, Nat.add_comm rest.length 1, ← Nat.add_assoc]

/-! ### Reattachment -/

variable {made : Nat} {plan : Attempt}

/-- How a run ends with an error. -/
def RunFails (start : GatewayWorld) (error : IngressError) (world : GatewayWorld) : Prop :=
  Reach start (ending (some error) world) world

/-- How a run ends without one. -/
def RunStops (start world : GatewayWorld) : Prop := Reach start (ending none world) world

/-- Whether the publisher is attached, or the run is to stop. -/
def Attached (start : GatewayWorld) : Bool → GatewayWorld → Prop
  | true, world => Reach start .attached world
  | false, world => RunStops start world

/-- How an attempt ends: attached, stopped, or with the next attempt due. -/
def AttemptEnds (start : GatewayWorld) (made : Nat) : Option Bool → GatewayWorld → Prop
  | some true, world => Reach start .attached world
  | some false, world => RunStops start world
  | none, world => Reach start (.detached made) world

theorem waitRound_spec (waitUntil : Nat) :
    Triple (Located start) (Reach start (.detached made)) (waitRound waitUntil)
      (Repeats (Reach start (.detached made)) fun ended world =>
        if ended then Reach start (.detached made) world else RunStops start world)
      (RunFails start) := by
  refine .bind _ (load_spec _) fun now => ?_
  refine .ite (fun _ => .done fun _ found => found.1) fun _ => ?_
  refine .bind _ (load_spec _).left fun stopped => ?_
  refine .ite (fun isStopped => .done ?_) fun _ => ?_
  · exact fun _ found => found.1.step (.stop _ _ (found.2.symm.trans isStopped))
  refine .left ?_
  refine check_spec ?_ fun _ => .done fun _ => id
  exact fun _ reached revoked => reached.step (.revokedWhileWaiting _ _ revoked)

theorem snapshot_spec (left : made < recoveryAttempts) :
    Triple (Located start) (Reach start (.detached made)) snapshot
      (fun credential => Reach start (.renewing made credential)) (RunFails start) := by
  refine .bind (fun credential => Reach start (.renewing made credential))
    (.await (fun _ reached => reached.located) reach_stable ?_) fun credential => ?_
  · intro _ world reached free
    exact reached.step (.snapshot _ _ left (Option.isNone_iff_eq_none.mp free))
  refine check_spec (fun _ reached _ => reached.step (.snapshotFails _ _ _ _)) fun _ => ?_
  refine .bind _ (load_spec _) fun now => ?_
  cases validateExpiry credential.validUntil now with
  | ok _ => exact .done fun _ found => found.1
  | error error => exact .fail fun _ found => found.1.step (.snapshotFails _ _ _ _)

theorem attachmentDeadline_spec (configurations : List RelayRouteConfiguration)
    (recoveryDeadline : Nat) (credential : PublisherCredential) :
    Triple (Located start) (Reach start phase)
      (attachmentDeadline configurations recoveryDeadline credential)
      (fun _ => Reach start phase) fails := by
  refine .bind _ (load_spec _) fun _ => ?_
  refine .bind _ (load_spec _).left fun _ => ?_
  exact .done fun _ found => found.1

/-- A failed round is closed, and what happens next is decided afresh. -/
theorem rejectAttempt_spec (recoveryDeadline : Nat) (connections : List IngressConnection)
    (error : IngressError) :
    Triple (Located start) (Reach start (.failed made plan error))
      (rejectAttempt plan recoveryDeadline connections error) (AttemptEnds start made)
      (RunFails start) := by
  refine .bind (fun _ => Reach start (.rejected made plan error))
    (.update fun _ reached => reached.step (.reject _ _ _ _)) fun _ => ?_
  refine .bind _ (load_spec _) fun now => ?_
  refine .bind _ ((attempt_spec (cancelUntil_spec rfl connections _
    fun _ _ => id)).left) fun _ => ?_
  refine .bind _ (load_spec _) fun stopped => ?_
  refine .ite (fun isStopped => ?_) fun running => ?_
  · refine .bind (fun _ => RunStops start) (.update ?_) fun _ => .done fun _ => id
    exact fun _ found => found.1.step (.stopRejected _ _ _ _ (found.2.symm.trans isStopped))
  suffices rest : Triple (Located start) (Reach start (.unstopped made plan error)) _
      (AttemptEnds start made) (RunFails start) from
    rest.strengthen fun _ found =>
      found.1.step (.goOn _ _ _ _ fun requested => running (found.2.trans requested))
  refine .bind _ (load_spec _) fun revoked => ?_
  refine .ite (fun isRevoked => ?_) fun _ => ?_
  · refine .bind (fun _ => RunFails start (.failure .credential)) (.update ?_)
      fun _ => .fail fun _ => id
    exact fun _ found => found.1.step (.revokedRejected _ _ _ _ (found.2.symm.trans isRevoked))
  refine .bind (fun _ world => Reach start (.unstopped made plan error) world ∧
    (recoverable error = true ∨ credentialChanged error = true)) (.failIf ?_ ?_) fun _ => ?_
  · intro world terminal found
    simp only [Bool.and_eq_true, Bool.not_eq_true'] at terminal
    exact found.1.step (.terminal _ _ _ _ terminal.1 (.inl terminal.2))
  · intro world passed found
    refine ⟨found.1, ?_⟩
    cases recovers : recoverable error <;> cases changes : credentialChanged error <;> simp_all
  refine .and_pre fun again => ?_
  refine .bind _ (load_spec _) fun changed => ?_
  refine .ite (fun _ => .done ?_) fun same => ?_
  · exact fun _ found => found.1.step (.retry _ _ _ _ again)
  refine .bind (fun _ => Reach start (.detached made)) (.failIf ?_ ?_) fun _ => .done fun _ => id
  · rintro world terminal ⟨reached, rfl⟩
    exact reached.step (.terminal _ _ _ _ (by simpa using terminal) (.inr (by simpa using same)))
  · exact fun _ _ found => found.1.step (.retry _ _ _ _ again)

theorem installGroup_spec {renewed : Bool} (bus : Nat) (connections : List IngressConnection) :
    Triple (Located start) (Reach start (.installing plan renewed bus connections))
      (installGroup plan.credential.revision renewed bus connections)
      (fun _ => Reach start (.installing plan renewed (bus + connections.length) [])) fails := by
  induction connections generalizing bus with
  | nil => exact .done fun _ => id
  | cons connection rest hypothesis =>
    refine .bind (fun _ => Reach start (.installing plan renewed (bus + 1) rest))
      (store_spec fun _ reached => reached.step (.install _ _ _ _ _ _)) fun _ => ?_
    rw [List.length_cons, Nat.add_comm rest.length 1, ← Nat.add_assoc]
    exact hypothesis (bus + 1)

theorem completeAttempt_spec (reason : Reattachment) (connections : List IngressConnection)
    (complete : connections.length = start.publisher.buses) :
    Triple (Located start) (Reach start (.admitting ⟨made, plan, connections⟩))
      (completeAttempt plan reason connections) (AttemptEnds start made) (RunFails start) := by
  -- whether the group counts as renewed is settled by the next look at the held credential
  refine .bind (fun _ world => ∀ renewed,
    Reach start (.installing plan renewed 0 connections) world) (.update ?_) fun _ => ?_
  · exact fun _ reached renewed =>
      reached.step (.admitAll _ _ renewed (complete.trans reached.buses.symm))
  refine .bind (fun _ world => ∀ renewed,
    Reach start (.installing plan renewed 0 connections) world)
    (.inspect fun _ => id) fun held => ?_
  refine .bind _ ((installGroup_spec 0 connections).strengthen fun _ reached => reached _)
    fun _ => ?_
  refine .bind (fun _ => Reach start (.resuming plan))
    (.update fun _ reached => reached.step (.adopt _ _ _ _)) fun _ => ?_
  refine .bind (fun _ => Reach start .attached)
    (store_spec fun _ reached => reached.step (.resume _ _)) fun _ => ?_
  exact Triple.done fun _ => id

theorem reattachAttempt_spec (configurations : List RelayRouteConfiguration)
    (complete : configurations.length = start.publisher.buses) (reason : Reattachment)
    (recoveryDeadline number : Nat) (left : made < recoveryAttempts) :
    Triple (Located start) (Reach start (.detached made))
      (reattachAttempt configurations reason recoveryDeadline number)
      (AttemptEnds start (made + 1)) (RunFails start) := by
  refine .bind _ (load_spec _) fun now => ?_
  refine Triple.bind _ ((Triple.forever (fun _ reached => reached.located)
    (waitRound_spec _)).left) fun ended => ?_
  cases ended with
  | false => exact .done fun _ => id
  | true =>
    refine .bind _ (load_spec _) fun stopped => ?_
    refine .ite (fun isStopped => .done ?_) fun _ => ?_
    · exact fun _ found => found.1.step (.stop _ _ (found.2.symm.trans isStopped))
    refine .bind _ (snapshot_spec left).left fun credential => ?_
    refine .bind _ (attachmentDeadline_spec configurations recoveryDeadline credential)
      fun deadline => ?_
    refine check_spec (fun _ reached _ => reached.step (.outOfTime _ _ _)) fun _ => ?_
    refine .bind (fun _ world => Reach start (.admitting
      ⟨made + 1, ⟨credential, deadline, world.publisher.rounds⟩, []⟩) world)
      (.update fun _ reached => reached.step (.begin _ _ _ deadline)) fun _ => ?_
    refine .bind (fun round => Reach start (.admitting
      ⟨made + 1, ⟨credential, deadline, round⟩, []⟩))
      (.inspect fun _ => id) fun round => ?_
    refine .bind _ (admitGroup_spec configurations []) fun outcome => ?_
    obtain ⟨connections, error⟩ := outcome
    cases error with
    | some error => exact rejectAttempt_spec recoveryDeadline connections error
    | none =>
      refine .and_pre fun length => completeAttempt_spec reason connections ?_
      rw [length, List.length_nil, Nat.zero_add, complete]

/-- The attempts that are left, by induction along them. -/
theorem reattachFrom_spec (configurations : List RelayRouteConfiguration)
    (complete : configurations.length = start.publisher.buses) (reason : Reattachment)
    (recoveryDeadline : Nat) (numbers : List Nat)
    (left : made + numbers.length = recoveryAttempts) :
    Triple (Located start) (Reach start (.detached made))
      (reattachFrom configurations reason recoveryDeadline numbers)
      (Attached start) (RunFails start) := by
  induction numbers generalizing made with
  | nil => exact .fail fun _ reached => reached.step (.exhausted _ _ left)
  | cons number rest hypothesis =>
    rw [List.length_cons] at left
    refine .bind _ (reattachAttempt_spec configurations complete reason recoveryDeadline
      number (by omega)) fun outcome => ?_
    match outcome with
    | some true => exact .done fun _ => id
    | some false => exact .done fun _ => id
    | none => exact hypothesis (by omega)

theorem reattach_spec (configurations : List RelayRouteConfiguration)
    (complete : configurations.length = start.publisher.buses) (reason : Reattachment) :
    Triple (Located start) (Reach start .reattaching) (reattach configurations reason)
      (Attached start) (RunFails start) := by
  refine .bind _ (load_spec _) fun now => ?_
  refine .bind (fun _ world => ∃ before, Reach start .reattaching before ∧
    world = setPaused true before)
    (Triple.strengthen (store_spec fun world reached => ⟨world, reached, rfl⟩)
      fun _ found => found.1) fun _ => ?_
  refine .bind (fun rounds world => ∃ before, Reach start .reattaching before ∧
    world = setPaused true before ∧ rounds = before.publisher.rounds)
    (.inspect ?_) fun rounds => ?_
  · rintro _ ⟨before, reached, rfl⟩
    exact ⟨before, reached, rfl, rfl⟩
  refine .bind (fun _ => Reach start .closing) (.update ?_) fun _ => ?_
  · rintro _ ⟨before, reached, rfl, rfl⟩
    exact reached.step (.pause before)
  refine .bind _ (closeActive_spec rfl fun _ reached => reached.step (.detach _)) fun _ => ?_
  exact reattachFrom_spec configurations complete reason _ _ (by simp [recoveryAttempts])

/-! ### The publishing loop -/

theorem renewIfChanged_spec (configurations : List RelayRouteConfiguration)
    (complete : configurations.length = start.publisher.buses) :
    Triple (Located start) (Reach start .attached) (renewIfChanged configurations)
      (Attached start) (RunFails start) := by
  refine .bind _ (load_spec _) fun changed => ?_
  refine .ite (fun isChanged => ?_) fun _ => .done fun _ found => found.1
  refine (reattach_spec _ complete _).strengthen fun _ found => ?_
  exact found.1.step (.renew _ (changed_of_load (found.2.symm.trans isChanged)))

theorem checkControl_spec (recovery : PreparedIngressRecovery)
    (complete : recovery.configurations.length = start.publisher.buses) :
    Triple (Located start) (Reach start .attached) (checkControl recovery)
      (Attached start) (RunFails start) := by
  refine check_spec (fun _ reached revoked => reached.step (.foundRevoked _ revoked)) fun _ => ?_
  refine .bind _ (renewIfChanged_spec recovery.configurations complete) fun attached => ?_
  cases attached with
  | false => exact .done fun _ => id
  | true =>
    refine .bind _ (load_spec _) fun now => ?_
    refine .bind (fun held world => (Reach start .attached world ∧
      now = world.shared.now) ∧ held = world.publisher.recovery)
      (.inspect fun _ found => ⟨found, rfl⟩) fun held => ?_
    refine .ite (fun expired => ?_) fun _ => .done fun _ found => found.1.1
    obtain ⟨current, rfl, elapsed⟩ := Option.any_eq_true .. |>.mp expired
    refine .bind (fun renewed world => Reach start .attached world ∧
      some current = world.publisher.recovery ∧ now = world.shared.now ∧
      renewed = world.shared.control.renewed.revision)
      (.inspect fun _ found => ⟨found.1.1, found.2, found.1.2, rfl⟩) fun renewed => ?_
    refine .bind (fun _ => RunFails start (.failure .credential)) (.update ?_)
      fun _ => .fail fun _ => id
    rintro world ⟨reached, held, rfl, rfl⟩
    exact reached.step (.foundExpired _ current held.symm (by simpa using elapsed))

section Loop

variable (grouped : ∀ recovery, start.publisher.recovery = some recovery →
  recovery.configurations.length = start.publisher.buses)

include grouped

/-- Every bus of the group has its configuration, at any time. -/
theorem Reach.configured {world : GatewayWorld} (reached : Reach start phase world)
    {recovery : PreparedIngressRecovery} (held : world.publisher.recovery = some recovery) :
    recovery.configurations.length = start.publisher.buses := by
  have same := reached.configurations
  rw [held, Option.map_some, eq_comm, Option.map_eq_some_iff] at same
  obtain ⟨first, initially, equal⟩ := same
  rw [← equal]
  exact grouped first initially

/-- How a pass over the buses ends. -/
def PassEnds (start : GatewayWorld) : Polled → GatewayWorld → Prop
  | .leave, world => RunStops start world
  | _, world => Reach start .attached world

theorem recoverFrom_spec (error : IngressError) :
    Triple (Located start) (Reach start (.broken error)) (recoverFrom error) (PassEnds start)
      (RunFails start) := by
  refine .bind (fun recovery world => Reach start (.broken error) world ∧
    recovery = world.publisher.recovery) (.inspect fun _ reached => ⟨reached, rfl⟩)
    fun recovery => ?_
  cases recovery with
  | none => exact .fail fun _ found => found.1.step (.giveUp _ _ (.inl found.2.symm))
  | some recovery =>
    suffices recovers : recovery.configurations.length = start.publisher.buses ∧
        start.publisher.recovery.isSome = true →
        Triple (Located start) (Reach start (.broken error)) _ (PassEnds start)
          (RunFails start) from
      (Triple.and_pre recovers).strengthen fun _ found =>
        ⟨found.1, found.1.configured grouped found.2.symm,
          found.1.isSome_recovery ▸ found.2 ▸ rfl⟩
    intro ⟨complete, renewable⟩
    refine .bind _ (load_spec _) fun changed => ?_
    refine .ite (fun recovers => ?_) fun final => ?_
    · refine .bind _ ((reattach_spec _ complete _).strengthen ?_) fun attached => ?_
      · intro world found
        refine found.1.step (.recover _ _ (found.1.isSome_recovery.trans renewable) ?_)
        rcases Bool.or_eq_true .. |>.mp recovers with transport | renewal
        · exact .inl transport
        · obtain ⟨isChanged, credential⟩ := Bool.and_eq_true .. |>.mp renewal
          exact .inr ⟨changed_of_load (found.2.symm.trans isChanged), credential⟩
      · cases attached <;> exact .done fun _ => id
    · refine .fail fun world found => found.1.step (.giveUp _ _ (.inr ?_))
      simp only [Bool.or_eq_true, Bool.and_eq_true, not_or, not_and, Bool.not_eq_true] at final
      refine ⟨final.1, fun renewal => ?_⟩
      cases changed with
      | true => exact absurd (final.2 rfl) (by simp [renewal.2])
      | false => exact not_changed_of_load found.2.symm renewal.1

theorem pollStreams_spec (buses : List Nat) (inside : ∀ bus ∈ buses, bus < start.publisher.buses)
    (progress : Bool) :
    Triple (Located start) (Reach start .attached) (pollStreams buses progress) (PassEnds start)
      (RunFails start) := by
  induction buses generalizing progress with
  | nil => exact .done fun _ => id
  | cons bus rest hypothesis =>
    refine .bind _ (.attempt (pollStream_spec (inside bus List.mem_cons_self))) fun result => ?_
    cases result with
    | ok polled =>
      exact hypothesis (fun other member => inside other (List.mem_cons_of_mem _ member)) _
    | error error => exact recoverFrom_spec grouped error

theorem checkRecovery_spec :
    Triple (Located start) (Reach start .attached) checkRecovery
      (Attached start) (RunFails start) := by
  refine .bind (fun recovery world => Reach start .attached world ∧
    recovery = world.publisher.recovery) (.inspect fun _ reached => ⟨reached, rfl⟩)
    fun recovery => ?_
  cases recovery with
  | none => exact .done fun _ found => found.1
  | some recovery =>
    exact (Triple.and_pre (checkControl_spec recovery)).strengthen
      fun _ found => ⟨found.1, found.1.configured grouped found.2.symm⟩

theorem publishRound_spec :
    Triple (Located start) (Reach start .attached) publishRound
      (Repeats (Reach start .attached) fun _ => RunStops start) (RunFails start) := by
  have leaves : Triple (Located start) (Reach start .attached)
      (pure (some ()) : Publishing (Option Unit))
      (Repeats (Reach start .attached) fun _ => RunStops start) (RunFails start) :=
    Triple.done fun _ reached => reached.step (.leave _)
  refine .bind _ (load_spec _) fun aborted => ?_
  refine .ite (fun _ => leaves.left) fun _ => ?_
  refine .bind _ (checkRecovery_spec grouped).left fun going => ?_
  cases going with
  | false => exact .done fun _ => id
  | true =>
    refine .bind (fun buses world => Reach start .attached world ∧
      buses = start.publisher.buses) (.inspect fun _ reached => ⟨reached, reached.buses⟩)
      fun buses => .and_pre fun same => ?_
    refine .bind _ (pollStreams_spec grouped _ ?_ false) fun outcome => ?_
    · intro bus member
      rw [← same]
      exact List.mem_range.mp member
    cases outcome with
    | leave => exact .done fun _ => id
    | again => exact .done fun _ => id
    | polled progress =>
      refine .bind (fun _ => Reach start .attached) (.inspect fun _ => id) fun done => ?_
      exact .ite (fun _ => leaves) fun _ => .done fun _ => id

theorem publishGroup_spec :
    Triple (Located start) (Reach start .attached) publishGroup
      (fun _ => RunStops start) (RunFails start) :=
  Triple.forever (fun _ reached => reached.located) (publishRound_spec grouped)

end Loop

theorem recordDrops_spec {error : Option IngressError} (buses : List Nat) :
    Triple (Located start) (Reach start (.finished error)) (recordDrops buses)
      (fun _ => Reach start (.finished error)) fails := by
  induction buses with
  | nil => exact .done fun _ => id
  | cons bus rest hypothesis =>
    refine .bind _ (store_spec fun _ reached => ?_) fun _ => hypothesis
    exact reached.step (.recordInputDrops _ _ bus)

theorem pauseForGood_spec {error : Option IngressError} :
    Triple (Located start) (Reach start (.finished error)) pauseForGood
      (fun _ => Reach start (.finished error)) fails := by
  refine .bind (fun gateway world => Reach start (.finished error) world ∧
    gateway.recovery.isSome = start.publisher.recovery.isSome)
    (.inspect fun _ reached => ⟨reached, reached.isSome_recovery⟩)
    fun gateway => .and_pre fun same => ?_
  refine .ite (fun recovers => ?_) fun _ => .done fun _ => id
  refine .bind _ (store_spec fun _ reached => reached.step (.pauseForGood _ _ ?_))
    fun _ => recordDrops_spec _
  rw [← Option.isSome_iff_ne_none, reached.isSome_recovery, ← same]
  exact recovers

/-- Tidying up leaves the result alone, and the statistics are those of the last moment. -/
theorem finishRun_spec (error : Option IngressError) :
    Triple (Located start) (Reach start (.finished error)) (finishRun error)
      (fun result world => Reach start (.finished error) world ∧ result.error = error ∧
        result.statistics = (List.range world.publisher.buses).map fun bus =>
          (world.publisher.active bus).statistics) fails := by
  refine .bind _ pauseForGood_spec fun _ => ?_
  refine .bind _ (closeActive_spec rfl fun _ reached => reached.step (.closeDown _ _)) fun _ => ?_
  refine .bind (fun last world => Reach start (.finished error) world ∧
    last = world.publisher) (.inspect fun _ reached => ⟨reached, rfl⟩) fun last => ?_
  refine .done fun world found => ⟨found.1, rfl, ?_⟩
  rw [found.2]

/-- The world in which a run's loop starts. -/
def runStart (connections : List IngressConnection) (recovery : Option PreparedIngressRecovery)
    (context : Bool) (world : GatewayWorld) : GatewayWorld :=
  updateGateway (fun _ => Gateway.start connections recovery context) world

/-- The simulation: wherever a run is found, the machine reaches that world, and a run that
returns has reached the end of its lifecycle with the error it returns. -/
theorem runWithRecovery_reaches (connections : List IngressConnection)
    (recovery : Option PreparedIngressRecovery) (context : Bool) (world : GatewayWorld)
    (grouped : ∀ held, recovery = some held → held.configurations.length = connections.length)
    (schedule : List Turn) :
    Ends (Located (runStart connections recovery context world))
      (fun result last =>
        Reach (runStart connections recovery context world) (.finished result.error) last ∧
        result.statistics = (List.range last.publisher.buses).map fun bus =>
          (last.publisher.active bus).statistics)
      (fun _ _ => False)
      (runWithRecovery connections recovery context schedule world) := by
  have runs : Triple (Located (runStart connections recovery context world)) (· = world)
      (runWithRecovery connections recovery context) (fun result last =>
        Reach (runStart connections recovery context world) (.finished result.error) last ∧
        result.statistics = (List.range last.publisher.buses).map fun bus =>
          (last.publisher.active bus).statistics) (fun _ _ => False) := by
    refine .bind
      (fun _ => Reach (runStart connections recovery context world) .attached)
      (.update ?_) fun _ => ?_
    · rintro _ rfl
      exact .start
    refine .bind _ (.attempt (publishGroup_spec grouped)) fun result => ?_
    cases result with
    | ok _ =>
      refine .bind (fun _ => Reach (runStart connections recovery context world)
        (.finished none)) (.update fun _ reached => reached.step (.report _ _ _ _))
        fun _ => ?_
      refine (finishRun_spec none).weaken fun result _ found => ?_
      exact ⟨found.2.1 ▸ found.1, found.2.2⟩
    | error error =>
      refine .bind (fun _ => Reach (runStart connections recovery context world)
        (.finished (some error))) (.update fun _ reached => reached.step (.report _ _ _ _))
        fun _ => ?_
      refine (finishRun_spec (some error)).weaken fun result _ found => ?_
      exact ⟨found.2.1 ▸ found.1, found.2.2⟩
  exact runs schedule world rfl

end RelayConnector
