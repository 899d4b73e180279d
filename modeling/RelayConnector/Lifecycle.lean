/-
This file gives the life of a grouped publisher as a machine: where the publisher
stands, and what it may do there.

A phase says what the publisher has in hand and what it has already found out about
it. A step is either a finding, guarded by what the world must be like at that moment,
or an effect on the world. The machine leaves out what decides nothing: clocks that are
only waited for, when sockets are flushed and closed, the order in which the buses are
polled.
Properties of whole runs are invariants of this machine; that the code of the gateway
stays inside it is proved separately.
-/

import RelayConnector.Gateway

namespace RelayConnector

/-- What is known of a packet that is about to be written. -/
inductive Stage where
  /-- Encoded; nothing has been checked. -/
  | packed
  /-- The control was found not revoked. -/
  | unrevoked
  /-- The control's revision was then found to be the held one. -/
  | current
  /-- The credential was then found unexpired, or there is no recovery. -/
  | cleared
  /-- Handed to `ws.write`. -/
  | written
  deriving DecidableEq, Repr

/-- A round of admission in progress: how many attempts this reattachment has made, and the
connections obtained so far, one for each bus in order. -/
structure AdmissionRound where
  made : Nat
  plan : Attempt
  connections : List IngressConnection

def AdmissionRound.bus (round : AdmissionRound) : Nat := round.connections.length

/-- Where a publisher stands. -/
inductive Phase where
  /-- In the publishing loop, with no frame in hand. -/
  | attached
  /-- A frame has been received. -/
  | holding (bus : Nat) (frame : EncodedAudioFrame)
  /-- The frame is not cancelled and not older than the cutoff. -/
  | wanted (bus : Nat) (frame : EncodedAudioFrame)
  | sending (bus : Nat) (frame : EncodedAudioFrame) (packet : List UInt8) (stage : Stage)
  /-- Polling a bus returned an error. -/
  | broken (error : IngressError)
  /-- `reattach` has been entered. -/
  | reattaching
  /-- Delivery is paused. -/
  | closing
  /-- No bus has a connection; so many attempts have been made. -/
  | detached (made : Nat)
  /-- A credential has been read from the control. -/
  | renewing (made : Nat) (credential : PublisherCredential)
  | admitting (round : AdmissionRound)
  /-- In `prepare`; the generation of a READY message once it was heard. -/
  | dialling (round : AdmissionRound) (session channels : Nat) (heard : Option Nat)
  | offered (round : AdmissionRound) (connection : IngressConnection)
  /-- The generation has advanced; the control is looked at once more. -/
  | checking (round : AdmissionRound) (connection : IngressConnection)
  /-- `admit_group` has returned an error. -/
  | failed (made : Nat) (plan : Attempt) (error : IngressError)
  /-- The connections of the failed round are being closed, or are. -/
  | rejected (made : Nat) (plan : Attempt) (error : IngressError)
  /-- No stop was requested up to then. -/
  | unstopped (made : Nat) (plan : Attempt) (error : IngressError)
  | installing (plan : Attempt) (renewed : Bool) (bus : Nat) (connections : List IngressConnection)
  | resuming (plan : Attempt)
  /-- `publish_group` has returned, with the control and the clock as they were then. -/
  | ended (error : Option IngressError) (control : SharedControl) (now : Nat)
  /-- `run_with_recovery` is tidying up. -/
  | finished (error : Option IngressError)

def Phase.sends : Phase → Bool
  | .sending .. => true
  | _ => false

/-- What a note does to a socket. -/
def GatewayNote.operationOn (session : Nat) : GatewayNote → Option (Fifo.Operation Outgoing)
  | .socket other operation => if other = session then some operation else none
  | _ => none

namespace GatewayWorld

/-- What makes `valid` fail: revocation, another revision or expiry. -/
def Invalid (world : GatewayWorld) : Prop :=
  world.shared.control.revoked = true ∨
    ∃ recovery, world.publisher.recovery = some recovery ∧
      (recovery.credential.revision ≠ world.shared.control.revision ∨
        recovery.credential.validUntil ≤ world.shared.now)

/-- The control's revision is not the held one. -/
def Changed (world : GatewayWorld) : Prop :=
  ∃ recovery, world.publisher.recovery = some recovery ∧
    recovery.credential.revision ≠ world.shared.control.revision

def StopRequested (world : GatewayWorld) : Prop :=
  (world.publisher.context && world.shared.stopRequested) = true

/-- What was done to a socket, oldest first. -/
def operations (session : Nat) (world : GatewayWorld) : List (Fifo.Operation Outgoing) :=
  world.transmitted (GatewayNote.operationOn session)

/-- A message is the last that `ws.write` was given on its socket, and no flush since then has
written everything. -/
def Unflushed (message : Outgoing) (queued : Bool) (world : GatewayWorld) : Prop :=
  ∃ before later, world.operations (message.session world.publisher) =
    before ++ .write message queued :: later ∧ Fifo.ending later = .pending

/-- The last thing done to the socket of a message is a flush that has written everything, and
the flushes before it, back to the write of the message, have not. -/
def Flushed (message : Outgoing) (world : GatewayWorld) : Prop :=
  ∃ before later, world.operations (message.session world.publisher) =
    before ++ .write message true :: later ++ [.flush none] ∧ Fifo.ending later = .pending

/-- The phase in which `publish_group` returns here and now. -/
def ending (error : Option IngressError) (world : GatewayWorld) : Phase :=
  .ended error world.shared.control world.shared.now

end GatewayWorld

open GatewayWorld

/-- What is done to a socket, and when. A media packet is written where it is handed over; a close
frame never while a packet is being sent. What is flushed is the last message written there. -/
inductive Access (world : GatewayWorld) : Phase → Outgoing → Fifo.Operation Outgoing → Prop
  | write (bus : Nat) (frame : EncodedAudioFrame) (packet : List UInt8) (queued : Bool)
      (handed : world.notes.head? =
        some (.media bus frame packet world.publisher world.shared.paused)) :
      Access world (.sending bus frame packet .written) (.media bus frame packet)
        (.write (.media bus frame packet) queued)
  | flush (bus : Nat) (frame : EncodedAudioFrame) (packet : List UInt8) (written : Option Nat)
      (unflushed : Unflushed (.media bus frame packet) true world) :
      Access world (.sending bus frame packet .written) (.media bus frame packet) (.flush written)
  | writeClose (phase : Phase) (session : Nat) (queued : Bool) (idle : phase.sends = false) :
      Access world phase (.close session) (.write (.close session) queued)
  | flushClose (phase : Phase) (session : Nat) (written : Option Nat) (idle : phase.sends = false)
      (unflushed : Unflushed (.close session) true world) :
      Access world phase (.close session) (.flush written)

/-- The steps of the publisher. -/
inductive Step : Phase → GatewayWorld → Phase → GatewayWorld → Prop
  -- the head of the loop
  | leave (world : GatewayWorld) : Step .attached world (ending none world) world
  | foundRevoked (world : GatewayWorld) (revoked : world.shared.control.revoked = true) :
      Step .attached world (ending (some (.failure .credential)) world) world
  | foundExpired (world : GatewayWorld) (recovery : PreparedIngressRecovery)
      (held : world.publisher.recovery = some recovery)
      (expired : recovery.credential.validUntil ≤ world.shared.now) :
      Step .attached world (ending (some (.failure .credential)) world)
        (world.note
          (.expired world.shared.control.renewed.revision recovery.credential.revision))
  | renew (world : GatewayWorld) (changed : Changed world) :
      Step .attached world .reattaching world
  -- one bus
  | readFails (world : GatewayWorld) (error : IngressError)
      (other : credentialChanged error = false) : Step .attached world (.broken error) world
  | disconnect (world : GatewayWorld) (bus : Nat) :
      Step .attached world .attached (GatewayWorld.disconnect bus world)
  | receive (world : GatewayWorld) (bus : Nat) (frame : EncodedAudioFrame)
      (rest : List EncodedAudioFrame) (inside : bus < world.publisher.buses)
      (head : (world.shared.pipes bus).encoded = frame :: rest) :
      Step .attached world (.holding bus frame) (GatewayWorld.receive bus world).2
  | cancelled (world : GatewayWorld) (bus : Nat) (frame : EncodedAudioFrame) :
      Step (.holding bus frame) world .attached (settleFrame bus .cancelled frame world)
  | superseded (world : GatewayWorld) (bus : Nat) (frame : EncodedAudioFrame) :
      Step (.holding bus frame) world .attached (settleFrame bus .superseded frame world)
  | want (world : GatewayWorld) (bus : Nat) (frame : EncodedAudioFrame)
      (active : world.shared.inactive frame.outputGeneration = false)
      (fresh : (world.publisher.active bus).notBeforeCaptureNs.all
        (· ≤ frame.captureTimestampNs) = true) :
      Step (.holding bus frame) world (.wanted bus frame) world
  | stale (world : GatewayWorld) (bus : Nat) (frame : EncodedAudioFrame) :
      Step (.wanted bus frame) world .attached (settleFrame bus .stale frame world)
  | unencodable (world : GatewayWorld) (bus : Nat) (frame : EncodedAudioFrame)
      (connection : IngressConnection) (message : String)
      (installed : (world.publisher.active bus).connection = some connection)
      (refused : encodePacket frame connection.channels = .error message) :
      Step (.wanted bus frame) world (.broken (.failure .protocol))
        (world.note (.unencodable bus frame))
  | disconnected (world : GatewayWorld) (bus : Nat) (frame : EncodedAudioFrame)
      (missing : (world.publisher.active bus).connection = none) :
      Step (.wanted bus frame) world (.broken (.failure .protocol)) world
  | pack (world : GatewayWorld) (bus : Nat) (frame : EncodedAudioFrame) (packet : List UInt8)
      (connection : IngressConnection)
      (installed : (world.publisher.active bus).connection = some connection)
      (encoded : encodePacket frame connection.channels = .ok packet) :
      Step (.wanted bus frame) world (.sending bus frame packet .packed) world
  -- the guarded send
  | seeUnrevoked (world : GatewayWorld) (bus : Nat) (frame : EncodedAudioFrame)
      (packet : List UInt8) (unrevoked : world.shared.control.revoked = false) :
      Step (.sending bus frame packet .packed) world (.sending bus frame packet .unrevoked) world
  | seeCurrent (world : GatewayWorld) (bus : Nat) (frame : EncodedAudioFrame)
      (packet : List UInt8) (current : ¬Changed world) :
      Step (.sending bus frame packet .unrevoked) world (.sending bus frame packet .current) world
  | seeUnexpired (world : GatewayWorld) (bus : Nat) (frame : EncodedAudioFrame)
      (packet : List UInt8) :
      Step (.sending bus frame packet .current) world (.sending bus frame packet .cleared) world
  | unguarded (world : GatewayWorld) (bus : Nat) (frame : EncodedAudioFrame)
      (packet : List UInt8) (static : world.publisher.recovery = none) :
      Step (.sending bus frame packet .packed) world (.sending bus frame packet .cleared) world
  | write (world : GatewayWorld) (bus : Nat) (frame : EncodedAudioFrame) (packet : List UInt8) :
      Step (.sending bus frame packet .cleared) world (.sending bus frame packet .written)
        (handOver bus frame packet world)
  | flushed (world : GatewayWorld) (bus : Nat) (frame : EncodedAudioFrame) (packet : List UInt8)
      (flushed : Flushed (.media bus frame packet) world) :
      Step (.sending bus frame packet .written) world .attached
        (settleFrame bus .sent frame world)
  | abandon (world : GatewayWorld) (bus : Nat) (frame : EncodedAudioFrame) (packet : List UInt8)
      (stage : Stage) (error : IngressError)
      (truthful : credentialChanged error = true → Invalid world)
      (unflushed : stage = .written → ∃ queued, Unflushed (.media bus frame packet) queued world) :
      Step (.sending bus frame packet stage) world (.broken error)
        (settleFrame bus .undelivered frame world)
  | socket (phase : Phase) (world : GatewayWorld) (message : Outgoing)
      (operation : Fifo.Operation Outgoing) (access : Access world phase message operation) :
      Step phase world phase (operate message operation world)
  -- an error of a bus
  | giveUp (world : GatewayWorld) (error : IngressError)
      (final : world.publisher.recovery = none ∨
        recoverable error = false ∧ ¬(Changed world ∧ credentialChanged error = true)) :
      Step (.broken error) world (ending (some error) world) world
  | recover (world : GatewayWorld) (error : IngressError)
      (renewable : world.publisher.recovery.isSome = true)
      (recovers : recoverable error = true ∨ Changed world ∧ credentialChanged error = true) :
      Step (.broken error) world .reattaching world
  -- reattachment
  | pause (world : GatewayWorld) :
      Step .reattaching world .closing
        ((setPaused true world).note (.reattaching world.publisher.rounds))
  | detach (world : GatewayWorld) :
      Step .closing world (.detached 0) (updateGateway Gateway.detach world)
  | stop (world : GatewayWorld) (made : Nat) (requested : StopRequested world) :
      Step (.detached made) world (ending none world) world
  | revokedWhileWaiting (world : GatewayWorld) (made : Nat)
      (revoked : world.shared.control.revoked = true) :
      Step (.detached made) world (ending (some (.failure .credential)) world) world
  | exhausted (world : GatewayWorld) (made : Nat) (all : made = recoveryAttempts) :
      Step (.detached made) world (ending (some (.failure .recoveryBudget)) world) world
  | snapshot (world : GatewayWorld) (made : Nat) (left : made < recoveryAttempts)
      (free : world.shared.control.lock = none) :
      Step (.detached made) world (.renewing made world.shared.control.credential) world
  | snapshotFails (world : GatewayWorld) (made : Nat) (credential : PublisherCredential)
      (error : RelayPublisherControlError) :
      Step (.renewing made credential) world (ending (some (.control error)) world) world
  | outOfTime (world : GatewayWorld) (made : Nat) (credential : PublisherCredential) :
      Step (.renewing made credential) world (ending (some (.failure .recoveryBudget)) world) world
  | begin (world : GatewayWorld) (made : Nat) (credential : PublisherCredential) (deadline : Nat) :
      Step (.renewing made credential) world
        (.admitting ⟨made + 1, ⟨credential, deadline, world.publisher.rounds + 1⟩, []⟩)
        (updateGateway Gateway.beginRound world)
  -- admission
  | deny (world : GatewayWorld) (round : AdmissionRound)
      (truthful : world.shared.control.revoked = true ∨
        world.shared.control.revision ≠ round.plan.credential.revision ∨ StopRequested world) :
      Step (.admitting round) world (.failed round.made round.plan (.failure .credential)) world
  | dial (world : GatewayWorld) (round : AdmissionRound) :
      Step (.admitting round) world
        (.dialling round world.publisher.sessions (world.publisher.active round.bus).channels none)
        (updateGateway Gateway.dial world)
  | ready (world : GatewayWorld) (round : AdmissionRound) (session channels generation : Nat) :
      Step (.dialling round session channels none) world
        (.dialling round session channels (some generation))
        (world.note (.ready round.bus session generation))
  | prepareFails (world : GatewayWorld) (round : AdmissionRound) (session channels : Nat)
      (heard : Option Nat) (error : IngressError) (other : credentialChanged error = false)
      (valid : error ≠ .failure .generation) :
      Step (.dialling round session channels heard) world (.failed round.made round.plan error)
        (world.note (.prepareFailed round.bus session))
  | prepared (world : GatewayWorld) (round : AdmissionRound) (session channels generation : Nat) :
      Step (.dialling round session channels (some generation)) world
        (.offered round
          { channels := channels
            sourceGeneration := generation
            session := session
            admission := round.plan.admission }) world
  | refuse (world : GatewayWorld) (round : AdmissionRound) (connection : IngressConnection)
      (behind : connection.sourceGeneration ≤
        (world.publisher.active round.bus).highestGeneration) :
      Step (.offered round connection) world
        (.failed round.made round.plan (.failure .generation))
        (world.note (.refused round.bus connection.session))
  | advance (world : GatewayWorld) (round : AdmissionRound) (connection : IngressConnection)
      (ahead : (world.publisher.active round.bus).highestGeneration <
        connection.sourceGeneration) :
      Step (.offered round connection) world (.checking round connection)
        (updateGateway (·.raiseHighest round.bus connection.sourceGeneration) world)
  | withdraw (world : GatewayWorld) (round : AdmissionRound) (connection : IngressConnection)
      (truthful : world.shared.control.revoked = true ∨
        world.shared.control.revision ≠ round.plan.credential.revision) :
      Step (.checking round connection) world
        (.failed round.made round.plan (.failure .credential)) world
  | late (world : GatewayWorld) (round : AdmissionRound) (connection : IngressConnection)
      (elapsed : round.plan.deadline ≤ world.shared.now) :
      Step (.checking round connection) world
        (.failed round.made round.plan (.failure .credential))
        (world.note (.late round.plan.credential.validUntil world.shared.now))
  | accept (world : GatewayWorld) (round : AdmissionRound) (connection : IngressConnection) :
      Step (.checking round connection) world
        (.admitting { round with connections := round.connections ++ [connection] }) world
  | admitAll (world : GatewayWorld) (round : AdmissionRound) (renewed : Bool)
      (complete : round.connections.length = world.publisher.buses) :
      Step (.admitting round) world (.installing round.plan renewed 0 round.connections)
        (world.note (.admitted round.plan.round))
  -- a failed round
  | reject (world : GatewayWorld) (made : Nat) (plan : Attempt) (error : IngressError) :
      Step (.failed made plan error) world (.rejected made plan error)
        (world.note (.rejected plan.round))
  | stopRejected (world : GatewayWorld) (made : Nat) (plan : Attempt) (error : IngressError)
      (requested : StopRequested world) :
      Step (.rejected made plan error) world (ending none world) (world.note (.overruled error))
  | goOn (world : GatewayWorld) (made : Nat) (plan : Attempt) (error : IngressError)
      (running : ¬StopRequested world) :
      Step (.rejected made plan error) world (.unstopped made plan error) world
  | revokedRejected (world : GatewayWorld) (made : Nat) (plan : Attempt) (error : IngressError)
      (revoked : world.shared.control.revoked = true) :
      Step (.unstopped made plan error) world (ending (some (.failure .credential)) world)
        (world.note (.overruled error))
  | terminal (world : GatewayWorld) (made : Nat) (plan : Attempt) (error : IngressError)
      (final : recoverable error = false)
      (same : credentialChanged error = false ∨
        world.shared.control.revision = plan.credential.revision) :
      Step (.unstopped made plan error) world (ending (some error) world) world
  | retry (world : GatewayWorld) (made : Nat) (plan : Attempt) (error : IngressError)
      (again : recoverable error = true ∨ credentialChanged error = true) :
      Step (.unstopped made plan error) world (.detached made) world
  -- an admitted round
  | install (world : GatewayWorld) (plan : Attempt) (renewed : Bool) (bus : Nat)
      (connection : IngressConnection) (rest : List IngressConnection) :
      Step (.installing plan renewed bus (connection :: rest)) world
        (.installing plan renewed (bus + 1) rest)
        (GatewayWorld.install bus connection plan.credential.revision renewed world)
  | adopt (world : GatewayWorld) (plan : Attempt) (renewed : Bool) (bus : Nat) :
      Step (.installing plan renewed bus []) world (.resuming plan)
        (updateGateway (·.adopt plan.credential) world)
  | resume (world : GatewayWorld) (plan : Attempt) :
      Step (.resuming plan) world .attached (setPaused false world)
  -- the end
  | report (world : GatewayWorld) (error : Option IngressError) (control : SharedControl)
      (now : Nat) :
      Step (.ended error control now) world (.finished error)
        (world.note (.ended error control now))
  | pauseForGood (world : GatewayWorld) (error : Option IngressError)
      (recovers : world.publisher.recovery ≠ none) :
      Step (.finished error) world (.finished error) (setPaused true world)
  | recordInputDrops (world : GatewayWorld) (error : Option IngressError) (bus : Nat) :
      Step (.finished error) world (.finished error) (GatewayWorld.recordInputDrops bus world)
  | closeDown (world : GatewayWorld) (error : Option IngressError) :
      Step (.finished error) world (.finished error) (updateGateway Gateway.detach world)

/-- The states a publisher can be in: it takes a step, or another thread acts. -/
inductive Reach (start : GatewayWorld) : Phase → GatewayWorld → Prop
  | start : Reach start .attached start
  | act {phase : Phase} {world : GatewayWorld} (reached : Reach start phase world)
      (action : Action) : Reach start phase (world.perform action)
  | step {phase next : Phase} {world after : GatewayWorld} (reached : Reach start phase world)
      (step : Step phase world next after) : Reach start next after

variable {start world after : GatewayWorld} {phase next : Phase}

/-- The invariant rule: what holds at the start and is kept by every action and every step holds
wherever the publisher can be. A step may use that its state is reachable. -/
theorem Reach.invariant {motive : Phase → GatewayWorld → Prop} (initially : motive .attached start)
    (acts : ∀ phase world action, Reach start phase world → motive phase world →
      motive phase (world.perform action))
    (steps : ∀ phase world next after, Reach start phase world → motive phase world →
      Step phase world next after → motive next after) (reached : Reach start phase world) :
    motive phase world := by
  induction reached with
  | start => exact initially
  | act reached action hypothesis => exact acts _ _ action reached hypothesis
  | step reached step hypothesis => exact steps _ _ _ _ reached hypothesis step

/-! ### Sockets -/

namespace GatewayWorld

theorem operations_operate (message : Outgoing) (operation : Fifo.Operation Outgoing)
    (world : GatewayWorld) (session : Nat) :
    (operate message operation world).operations session = world.operations session ++
      if message.session world.publisher = session then [operation] else [] := by
  have notes : (operate message operation world).notes =
      [.socket (message.session world.publisher) operation] ++ world.notes := rfl
  rw [operations, World.transmitted_of_notes notes, operations, List.reverse_singleton,
    List.filterMap_cons, GatewayNote.operationOn, List.filterMap_nil]
  split <;> rename_i found <;> split at found <;> simp_all

@[simp] theorem operations_perform (session : Nat) (world : GatewayWorld) (action : Action) :
    operations session (world.perform action) = world.operations session := by
  rw [operations, World.transmitted, World.perform_notes]
  rfl

variable {message : Outgoing} {queued : Bool} {world : GatewayWorld}

/-- A message that was written is not flushed yet. -/
theorem unflushed_write :
    Unflushed message queued (operate message (.write message queued) world) :=
  ⟨_, [], (operations_operate ..).trans (congrArg _ (if_pos rfl)), rfl⟩

theorem Unflushed.stall (unflushed : Unflushed message queued world) (count : Nat) :
    Unflushed message queued (operate message (.flush (some count)) world) := by
  obtain ⟨before, later, operations, pending⟩ := unflushed
  refine ⟨before, later ++ [.flush (some count)], ?_, ?_⟩
  · rw [operations_operate]
    exact (congrArg₂ _ operations (if_pos rfl)).trans (by simp)
  · rw [Fifo.ending_append, if_pos pending]
    rfl

theorem Unflushed.flush (unflushed : Unflushed message true world) :
    Flushed message (operate message (.flush none) world) := by
  obtain ⟨before, later, operations, pending⟩ := unflushed
  refine ⟨before, later, ?_, pending⟩
  rw [operations_operate]
  exact congrArg₂ _ operations (if_pos rfl)

end GatewayWorld

/-! ### What steps leave alone -/

/-- What a change to one stream leaves alone is left alone in all streams. -/
theorem view_setActive {View : Type} (view : ActiveIngress → View) {gateway : Gateway} {bus : Nat}
    {active : ActiveIngress} (same : view active = view (gateway.active bus)) (other : Nat) :
    view ((gateway.setActive bus active).active other) = view (gateway.active other) := by
  by_cases equal : other = bus
  · subst equal
    simpa [Gateway.setActive] using same
  · simp [Gateway.setActive, equal]

/-- A settled frame changes nothing of a stream but its statistics. -/
theorem view_settleFrame {View : Type} (view : ActiveIngress → View)
    (ignores : ∀ (active : ActiveIngress) change, view (active.count change) = view active)
    (bus : Nat) (outcome : FrameOutcome) (frame : EncodedAudioFrame) (world : GatewayWorld)
    (other : Nat) :
    view ((settleFrame bus outcome frame world).publisher.active other) =
      view (world.publisher.active other) := by
  cases outcome with
  | cancelled | stale => rfl
  | superseded | undelivered | sent => exact view_setActive view (ignores _ _) other

@[simp] theorem notes_settleFrame (bus : Nat) (outcome : FrameOutcome) (frame : EncodedAudioFrame)
    (world : GatewayWorld) :
    (settleFrame bus outcome frame world).notes = .settled bus outcome frame :: world.notes := by
  cases outcome <;> rfl

/-- The publisher only reads the control. -/
theorem Step.control (step : Step phase world next after) :
    after.shared.control = world.shared.control := by
  cases step <;> rfl

/-- Notes are only added. -/
theorem Step.journal (step : Step phase world next after) :
    ∃ entries : List GatewayNote, after.journal = entries.map .note ++ world.journal := by
  cases step with
  | install => exact ⟨[_, _], rfl⟩
  | foundExpired | cancelled | superseded | stale | unencodable | write | flushed | abandon | socket
    | pause | ready | prepareFails | refuse | late | admitAll | reject | stopRejected
    | revokedRejected | report => exact ⟨[_], rfl⟩
  | _ => exact ⟨[], rfl⟩

/-- The journal only grows. -/
theorem Reach.journal_suffix (reached : Reach start phase world) :
    start.journal <:+ world.journal := by
  refine reached.invariant (motive := fun _ world => start.journal <:+ world.journal)
    (List.suffix_refl _) (fun _ _ _ _ grown => ?_) fun _ _ _ _ _ grown step => ?_
  · exact grown.trans (List.suffix_append _ _)
  · obtain ⟨entries, journal⟩ := step.journal
    rw [journal]
    exact grown.trans (List.suffix_append _ _)

theorem Step.notes (step : Step phase world next after) :
    ∃ entries, after.notes = entries ++ world.notes := by
  obtain ⟨entries, journal⟩ := step.journal
  refine ⟨entries, ?_⟩
  rw [World.notes, journal, List.filterMap_append, List.filterMap_map]
  simp [World.notes]

/-- The mark of a bus never falls. -/
theorem Step.highestGeneration_le (step : Step phase world next after) (bus : Nat) :
    (world.publisher.active bus).highestGeneration ≤
      (after.publisher.active bus).highestGeneration := by
  have kept : ∀ other active,
      (world.publisher.active other).highestGeneration ≤ active.highestGeneration →
      (world.publisher.active bus).highestGeneration ≤
        ((world.publisher.setActive other active).active bus).highestGeneration := by
    intro other active le
    by_cases same : bus = other
    · subst same
      simpa [Gateway.setActive] using le
    · simp [Gateway.setActive, same]
  cases step with
  | disconnect | superseded | flushed | abandon | install | recordInputDrops =>
    exact kept _ _ (Nat.le_refl _)
  | advance _ _ _ ahead => exact kept _ _ (Nat.le_of_lt ahead)
  | _ => exact Nat.le_refl _

/-- The control stays coherent: only the threads that call it change it. -/
theorem Reach.coherent (initially : start.shared.control.Coherent)
    (reached : Reach start phase world) : world.shared.control.Coherent := by
  refine reached.invariant (motive := fun _ world => world.shared.control.Coherent) initially
    (fun phase world action _ coherent => ?_) fun _ _ _ _ _ coherent step => ?_
  · cases action with
    | control call => exact (SharedControl.act_changes _ call coherent).1
    | _ => exact coherent
  · rw [step.control]
    exact coherent

/-- A run never changes the number of its buses. -/
theorem Reach.buses (reached : Reach start phase world) :
    world.publisher.buses = start.publisher.buses := by
  refine reached.invariant (motive := fun _ world => world.publisher.buses = start.publisher.buses)
    rfl (fun _ _ _ _ same => same) ?_
  intro phase world next after _ same step
  rw [← same]
  cases step <;> rfl

/-- Nor the configurations it recovers with: a renewal replaces the credential only. -/
theorem Reach.configurations (reached : Reach start phase world) :
    world.publisher.recovery.map (·.configurations) =
      start.publisher.recovery.map (·.configurations) := by
  refine reached.invariant (motive := fun _ world =>
    world.publisher.recovery.map (·.configurations) =
      start.publisher.recovery.map (·.configurations)) rfl (fun _ _ _ _ same => same) ?_
  intro phase world next after _ same step
  rw [← same]
  cases step with
  | adopt => simp [updateGateway, Gateway.adopt, Function.comp_def]
  | _ => rfl

/-- A run has recovery throughout or not at all. -/
theorem Reach.isSome_recovery (reached : Reach start phase world) :
    world.publisher.recovery.isSome = start.publisher.recovery.isSome := by
  simpa using congrArg Option.isSome reached.configurations

end RelayConnector
