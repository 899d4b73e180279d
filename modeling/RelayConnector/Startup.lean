/-
This file models how a WebSocket group is started, `NativeRelayPublishTransport::prepare` of
`runtime.rs`, and shows that it is a transaction.

The buses are admitted one after the other, under one credential and one deadline. A
group that is returned is whole, and is what a launch starts from. When an admission
fails, or the capability has changed behind it, the connections obtained so far are
closed; the socket of the failing admission is dropped by `prepare` itself.
-/

import RelayConnector.Custody
import RelayConnector.Effects
import RelayConnector.Expiry
import RelayConnector.Latency

namespace RelayConnector

open Scheduled Scheduled.Command GatewayWorld

/-! ### Errors -/

def IngressFailure.text : IngressFailure → String
  | .transport => "Relay ingress connection failed; reconnect requires a fresh attachment; " ++
      "direct fallback is disabled"
  | .authority => "Relay ingress denied or revoked the source capability"
  | .protocol => "Relay ingress sent invalid or unexpected protocol data"
  | .identity => "Relay ingress admission identity does not match the selected AudioBus"
  | .generation => "Relay ingress READY source generation did not advance"
  | .credential => "Relay publisher capability expired, changed or was revoked"
  | .recoveryBudget => "Relay publisher exhausted its bounded reconnect attempts or deadline"

def ProxyConnectError.text : ProxyConnectError → String
  | .authorization => "Relay denied the source capability"
  | .rejected => "Relay WebSocket upgrade or proxy negotiation was rejected"
  | .connectRejected status => "Relay proxy rejected CONNECT with HTTP " ++ toString status ++
      "; direct fallback is disabled"
  | .proxyTlsHandshake => "Relay proxy TLS handshake failed"
  | .relayTlsHandshake => "Relay TLS handshake failed"
  | .transport => "Relay WebSocket upgrade connection failed"

def IngressError.message : IngressError → String
  | .failure cause => cause.text
  | .proxy error => error.text
  | .control error => error.text
  | .text message => message

/-- `retryability`. -/
def retryability (error : IngressError) : ConnectorRetryability :=
  if recoverable error then .retryable else .never

/-! ### The transaction -/

/-- What `prepare` returns for a WebSocket group. -/
structure PreparedGroup where
  streams : List PreparedFrameStream
  connections : List IngressConnection
  recovery : Option PreparedIngressRecovery

/-- Why a group was not started, and when it was given up; the time is ghost data. -/
structure StartupFailure where
  error : ConnectorError
  begun : Nat

namespace RelayConnectorFactory

variable (factory : RelayConnectorFactory)

/-- The credential of a controlled group. -/
def readCredential (controlled : Bool) :
    Publishing (Except ConnectorError (Option PublisherCredential)) := do
  if controlled then
    match ← attempt snapshot with
    | .ok credential => return .ok (some credential)
    | .error error =>
      return .error (factory.relayError "relay.publisher_control_unavailable" .configuration .never
        error.message)
  else return .ok none

/-- The deadline of the whole group. -/
def groupDeadline (startupTimeout : Nat) (credential : Option PublisherCredential) :
    Publishing Nat := do
  let first ← instantNow
  match credential with
  | none => return first + startupTimeout
  | some credential =>
    let second ← instantNow
    return min (min (first + startupTimeout) credential.validUntil) (second + attachmentTimeout)

/-- Whether the capability has changed, expired or been revoked since it was read. -/
def controlChanged (credential : Option PublisherCredential) (deadline : Nat) :
    Publishing Bool := do
  match credential with
  | none => return false
  | some credential =>
    if ← isRevoked then return true
    if ← load (·.shared.control.revision != credential.revision) then return true
    return deadline ≤ (← instantNow)

/-- The connections are closed and the error is returned. -/
def rollBack {Value : Type} (connections : List IngressConnection) (error : ConnectorError) :
    Publishing (Except StartupFailure Value) := do
  let begun ← inspect (·.shared.now)
  let _ ← attempt (cancel connections)
  return .error { error, begun }

def revisionOf (credential : Option PublisherCredential) : Nat :=
  (credential.map (·.revision)).getD 0

/-- The configuration of a route with the token of the credential. -/
def presenting (credential : Option PublisherCredential)
    (configuration : RelayRouteConfiguration) : RelayRouteConfiguration :=
  match credential with
  | none => configuration
  | some credential => { configuration with sourceToken := credential.token }

/-- The loop over the routes, from route `bus` on; `connections` are those obtained so far. -/
def admitRoutes (credential : Option PublisherCredential) (deadline : Nat) :
    Nat → List RelayTransportPreparation → List IngressConnection →
      Publishing (Except StartupFailure (List IngressConnection))
  | _, [], connections => return .ok connections
  | bus, route :: rest, connections => do
    let session ← inspect (·.publisher.sessions)
    update (updateGateway Gateway.dial)
    match ← attempt (prepare (presenting credential route.configuration) bus session
        route.sampleSpec.channels deadline 0 (revisionOf credential)) with
    | .error error =>
      rollBack connections (factory.relayError "relay.ingress_start_failed" .startup
        (retryability error) error.message)
    | .ok connection =>
      if ← controlChanged credential deadline then
        rollBack (connections ++ [connection]) (factory.relayError
          "relay.publisher_control_changed" .startup .never
          "publisher capability changed, expired or was revoked during admission")
      else admitRoutes credential deadline (bus + 1) rest (connections ++ [connection])

/-- What is prepared besides the connections. -/
def preparedGroup (credential : Option PublisherCredential)
    (routes : List RelayTransportPreparation) (profiles : List StreamProfile)
    (connections : List IngressConnection) : PreparedGroup where
  streams := (routes.zip profiles).map fun (route, profile) =>
    ⟨profile, route.configuration.latencyProfile⟩
  connections := connections
  recovery := credential.map fun credential =>
    { credential := credential
      configurations := routes.map fun route =>
        presenting (some credential) route.configuration }

/-- `prepare` for a group that publishes over WebSockets. `claim` is what claiming the control
answers; the claim is dropped with every error. -/
def startGroup (claim : Except RelayPublisherControlError Unit)
    (routes : List RelayTransportPreparation) :
    Publishing (Except StartupFailure PreparedGroup) := do
  let begun ← inspect (·.shared.now)
  match routes.head? with
  | none =>
    return .error ⟨factory.relayError "relay.empty_group" .prepare .never
      "relay route group is empty", begun⟩
  | some first =>
    match if first.control then claim else .ok () with
    | .error error => return .error ⟨factory.controlError error, begun⟩
    | .ok () =>
      match ← factory.readCredential first.control with
      | .error error => return .error ⟨error, begun⟩
      | .ok credential =>
        let deadline ← groupDeadline first.configuration.startupTimeout credential
        match routes.mapM fun route => factory.relayStreamProfile route.sampleSpec with
        | .error error => return .error ⟨error, begun⟩
        | .ok profiles =>
          match ← factory.admitRoutes credential deadline 0 routes [] with
          | .error failure => return .error failure
          | .ok connections => return .ok (preparedGroup credential routes profiles connections)

end RelayConnectorFactory

/-! ### What lasts -/

namespace Noting

variable {holds : GatewayWorld → Prop}

theorem and {first second : GatewayWorld → Prop} (left : Noting first) (right : Noting second) :
    Noting fun world => first world ∧ second world where
  acts world action held := ⟨left.acts world action held.1, right.acts world action held.2⟩
  notes world entry other held :=
    ⟨left.notes world entry other held.1, right.notes world entry other held.2⟩

theorem or {first second : GatewayWorld → Prop} (left : Noting first) (right : Noting second) :
    Noting fun world => first world ∨ second world where
  acts world action := Or.imp (left.acts world action) (right.acts world action)
  notes world entry other := Or.imp (left.notes world entry other) (right.notes world entry other)

theorem fact (fact : Prop) : Noting fun _ => fact where
  acts _ _ holds := holds
  notes _ _ _ holds := holds

theorem noted (entry : GatewayNote) : Noting fun world => entry ∈ world.notes where
  acts world action noted := by rwa [World.perform_notes]
  notes _ _ _ noted := List.mem_cons_of_mem _ noted

theorem passed (time : Nat) : Noting fun world => time ≤ world.shared.now where
  acts world action passed := passed.trans (world.now_le_perform action)
  notes _ _ _ passed := passed

theorem dialled (count : Nat) : Noting fun world => world.publisher.sessions = count where
  acts _ _ same := same
  notes _ _ _ same := same

theorem coherent : Noting fun world => world.shared.control.Coherent where
  acts world action coherent := by
    cases action with
    | control call => exact (SharedControl.act_changes _ call coherent).1
    | _ => exact coherent
  notes _ _ _ coherent := coherent

theorem known (credential : PublisherCredential) :
    Noting fun world => world.shared.control.Coherent ∧
      world.shared.control.Knows credential where
  acts world action found :=
    ⟨coherent.acts world action found.1, Known.knows_perform found.2 found.1 action⟩
  notes _ _ _ found := found

end Noting

/-! ### Admitting a bus -/

/-- What `prepare` promises of a connection: it is the one asked for, after a READY message for it
with a generation. -/
structure Admits (bus session channels : Nat) (admission : Admission)
    (connection : IngressConnection) (world : GatewayWorld) : Prop where
  identity : connection = { channels, sourceGeneration := connection.sourceGeneration, session,
                            admission }
  positive : 0 < connection.sourceGeneration
  ready : .ready bus session connection.sourceGeneration ∈ world.notes

section Admission

variable {holds : GatewayWorld → Prop} (noting : Noting holds)
include noting

/-- The READY message that ends the wait is noted. -/
theorem readyRound_admits (configuration : RelayRouteConfiguration) (bus session deadline : Nat) :
    Triple holds holds (readyRound configuration bus session deadline)
      (Repeats holds fun ready world => holds world ∧ 0 < ready.sourceGeneration ∧
        GatewayNote.ready bus session ready.sourceGeneration ∈ world.notes) fun _ => holds := by
  refine .bind _ (noting.load _) fun now => .bind _ (Preserves.failIf _ _) fun _ => ?_
  refine .bind _ noting.systemCall fun _ => .bind _ (noting.ask _) fun answer => ?_
  match answer with
  | .ok (.text none) => exact .fail fun _ => id
  | .ok (.text (some ready)) =>
    refine .bind (fun _ world => holds world ∧ 0 < ready.sourceGeneration)
      (.failIf (fun _ _ => id) fun _ fits held => ⟨held, ?_⟩) fun _ => ?_
    · simp only [Bool.or_eq_false_iff, decide_eq_false_iff_not] at fits
      exact Nat.pos_of_ne_zero fits.2
    refine .bind (fun _ world => holds world ∧ 0 < ready.sourceGeneration ∧
      GatewayNote.ready bus session ready.sourceGeneration ∈ world.notes) (.update ?_)
      fun _ => .done fun _ => id
    exact fun world found => ⟨noting.notes world _ (fun _ => by simp) found.1, found.2,
      List.mem_cons_self⟩
  | .ok .ping | .ok .pong => exact .done fun _ => id
  | .ok (.close _) | .ok .other => exact .fail fun _ => id
  | .error _ => exact .fail fun _ => id

/-- `before_deadline` returns what the operation returned, and what is known of it lasts. -/
theorem beforeDeadline_admits {Value : Type} {lasting : Value → GatewayWorld → Prop}
    (lasts : ∀ value, Noting (lasting value))
    (implies : ∀ value world, lasting value world → holds world) (deadline : Nat)
    {operation : Publishing Value}
    (operates : Triple holds holds operation lasting fun _ => holds) :
    Triple holds holds (beforeDeadline deadline operation) lasting fun _ => holds := by
  refine .bind _ (noting.load _) fun _ => .bind _ (Preserves.failIf _ _) fun _ => ?_
  refine .bind _ noting.systemCall fun _ => ?_
  refine .bind _ (.attempt operates) fun result => ?_
  cases result with
  | error error =>
    refine .bind _ noting.systemCall fun _ => .bind _ (noting.load _) fun _ => ?_
    exact .bind _ (Preserves.failIf _ _) fun _ => .fail fun _ => id
  | ok value =>
    refine .bind _ ((lasts value).systemCall.within (implies value)) fun _ => ?_
    refine .bind _ (((lasts value).load _).within (implies value)) fun _ => ?_
    exact .bind _ ((Preserves.failIf _ _).within (implies value)) fun _ =>
      Triple.done fun _ => id

theorem prepare_admits (configuration : RelayRouteConfiguration)
    (bus session channels deadline round revision : Nat) :
    Triple holds holds (prepare configuration bus session channels deadline round revision)
      (fun connection world => holds world ∧ Admits bus session channels
        ⟨round, revision, configuration.sourceToken⟩ connection world) fun _ => holds := by
  refine .bind _ (Preserves.atomic noting.stable fun _ _ => id) fun _ => ?_
  refine .bind _ (noting.load _) fun now => .bind _ (Preserves.failIf _ _) fun _ => ?_
  refine .bind _ noting.systemCall fun _ => .bind _ noting.systemCall fun _ => ?_
  refine .bind _ noting.systemCall fun _ => ?_
  have lasts : ∀ ready : Ready, Noting fun world => holds world ∧ 0 < ready.sourceGeneration ∧
      GatewayNote.ready bus session ready.sourceGeneration ∈ world.notes :=
    fun ready => noting.and ((Noting.fact _).and (Noting.noted _))
  refine .bind _ (beforeDeadline_admits noting lasts (fun _ _ found => found.1) deadline
    (.forever (fun _ => id) (readyRound_admits noting _ _ _ _))) fun ready => ?_
  refine .bind _ ((lasts ready).systemCall.within fun _ found => found.1) fun _ => ?_
  refine .bind _ ((lasts ready).systemCall.within fun _ found => found.1) fun _ => ?_
  exact .done fun _ found => ⟨found.1, rfl, found.2.1, found.2.2⟩

end Admission

/-! ### Closing what was obtained -/

/-- A close frame was handed to the socket. -/
def Closed (session : Nat) (world : GatewayWorld) : Prop :=
  ∃ queued, GatewayNote.socket session (.write (.close session) queued) ∈ world.notes

namespace Noting

variable {holds : GatewayWorld → Prop}

theorem closed (session : Nat) : Noting (Closed session) where
  acts world action := Exists.imp fun _ => (noted _).acts world action
  notes world entry other := Exists.imp fun _ => (noted _).notes world entry other

end Noting

/-- A close frame is handed over unless the deadline has passed. -/
theorem sendUntil_closes (session deadline : Nat) :
    Triple (fun _ => True) (fun _ => True) (sendUntil (.close session) deadline false)
      (fun _ world => Closed session world ∨ deadline ≤ world.shared.now)
      fun _ world => Closed session world ∨ deadline ≤ world.shared.now := by
  have lasts := (Noting.closed session).or (Noting.passed deadline)
  refine .bind (fun unguarded _ => unguarded = true)
    (.bind (fun _ _ => True) (.inspect fun _ _ => trivial) fun _ =>
      Triple.done fun _ _ => rfl) fun unguarded => ?_
  refine .bind (fun _ _ => True) (.failIf (fun _ guarded free => ?_) fun _ _ _ =>
    trivial) fun _ => ?_
  · rw [free] at guarded
    cases guarded
  refine .bind _ (((Noting.fact True).look _).weaken fun _ _ found => found.2) fun now => ?_
  refine .bind (fun _ _ => True) (.failIf (fun _ late same => ?_) fun _ _ _ =>
    trivial) fun _ => ?_
  · exact .inr (same ▸ of_decide_eq_true late)
  -- from here on the frame has been handed over
  refine .bind (fun _ => Closed session) (.atomic (fun _ _ => trivial)
    (fun _ _ _ => trivial) fun turn _ _ => ⟨turn.queues, List.mem_cons_self⟩) fun written => ?_
  have flushes : Triple (fun _ => True) (Closed session)
      (Command.forever (flushRound (.close session) deadline false))
      (fun _ world => Closed session world ∨ deadline ≤ world.shared.now)
      fun _ world => Closed session world ∨ deadline ≤ world.shared.now :=
    ((Preserves.forever (lasts.flushRound _ _ _)).observe fun _ _ => trivial).strengthen
      fun _ closed => .inl closed
  match written with
  | .ok () => exact flushes
  | .error .wouldBlock => exact flushes
  | .error .timedOut | .error .io | .error .connectionClosed
    | .error .resetWithoutClosingHandshake | .error .other =>
    exact .fail fun _ closed => .inl closed

/-- Every connection is closed, or the deadline has passed. -/
def AllClosed (connections : List IngressConnection) (deadline : Nat) (world : GatewayWorld) :
    Prop :=
  ∀ connection ∈ connections, Closed connection.session world ∨ deadline ≤ world.shared.now

theorem Noting.allClosed (connections : List IngressConnection) (deadline : Nat) :
    Noting (AllClosed connections deadline) where
  acts world action closed connection member :=
    ((Noting.closed _).or (Noting.passed _)).acts world action (closed connection member)
  notes world entry other closed connection member :=
    ((Noting.closed _).or (Noting.passed _)).notes world entry other (closed connection member)

theorem cancelEach_closes (deadline : Nat) (connections : List IngressConnection)
    (done : List IngressConnection) (failed : Bool) :
    Triple (fun _ => True) (AllClosed done deadline) (cancelEach deadline connections failed)
      (fun _ => AllClosed (done ++ connections) deadline) fun _ _ => False := by
  induction connections generalizing done failed with
  | nil =>
    rw [List.append_nil]
    exact .done fun _ => id
  | cons connection rest hypothesis =>
    have more := Noting.allClosed (done ++ [connection]) deadline
    have both := ((Noting.allClosed done deadline).sendUntil (.close connection.session) deadline
      false).and (sendUntil_closes connection.session deadline)
    have adds : ∀ world, AllClosed done deadline world ∧
        (Closed connection.session world ∨ deadline ≤ world.shared.now) →
        AllClosed (done ++ [connection]) deadline world := by
      intro world found other member
      rcases List.mem_append.mp member with earlier | this
      · exact found.1 other earlier
      · rw [List.mem_singleton.mp this]
        exact found.2
    refine Triple.bind (fun _ => AllClosed (done ++ [connection]) deadline) ?_ fun sent => ?_
    · refine ((Triple.attempt both).observe fun _ _ => trivial).consequence
        (fun _ closed => ⟨closed, trivial⟩) (fun result world found => ?_) fun _ _ => id
      cases result <;> exact adds world found
    refine .bind _ (more.systemCall.attempts.observe fun _ _ => trivial) fun _ => ?_
    rw [List.append_cons done connection rest]
    exact hypothesis (done ++ [connection]) _

variable {holds : GatewayWorld → Prop}

theorem cancel_closes (noting : Noting holds) (connections : List IngressConnection) (begun : Nat)
    (since : ∀ world, holds world → begun ≤ world.shared.now) :
    Triple (fun _ => True) holds (cancel connections)
      (fun _ world => holds world ∧ AllClosed connections (begun + maxFrameAge) world)
      fun _ world => holds world ∧ AllClosed connections (begun + maxFrameAge) world := by
  refine .bind (fun now world => holds world ∧ begun ≤ now)
    (((noting.look _).observe fun _ _ => trivial).weaken
      fun now world found => ⟨found.1, found.2 ▸ since world found.1⟩) fun now => ?_
  refine .and_pre fun later => ?_
  have sooner : ∀ world, AllClosed connections (now + maxFrameAge) world →
      AllClosed connections (begun + maxFrameAge) world := fun world closed connection member =>
    (closed connection member).imp_right (Nat.add_le_add_right later maxFrameAge).trans
  have both := (noting.cancelEach (now + maxFrameAge) connections false).and
    (cancelEach_closes (now + maxFrameAge) connections [] false)
  refine .bind
    (fun _ world => holds world ∧ AllClosed connections (begun + maxFrameAge) world) ?_
    fun failed => .failIf (fun _ _ => id) fun _ _ => id
  exact (both.observe fun _ _ => trivial).consequence
    (fun _ held => ⟨held, by simp [AllClosed]⟩)
    (fun _ world found => ⟨found.1, sooner world found.2⟩) fun _ _ found => found.2.elim

/-- The connections were given up at a time, and each is closed or that was long ago. -/
def GivenUp (begun : Nat) (connections : List IngressConnection) (world : GatewayWorld) : Prop :=
  begun ≤ world.shared.now ∧ AllClosed connections (begun + maxFrameAge) world

theorem rollBack_closes (noting : Noting holds) {Value : Type}
    (connections : List IngressConnection) (error : ConnectorError) (first : Nat)
    (since : ∀ world, holds world → first ≤ world.shared.now) :
    Triple (fun _ => True) holds
      (RelayConnectorFactory.rollBack connections error :
        Publishing (Except StartupFailure Value))
      (fun result world => holds world ∧ ∃ failure, result = .error failure ∧
        failure.error = error ∧ first ≤ failure.begun ∧
        GivenUp failure.begun connections world) fun _ _ => False := by
  refine .bind (fun begun world => (holds world ∧ begun ≤ world.shared.now) ∧ first ≤ begun)
    (.inspect fun world held => ⟨⟨held, Nat.le_refl _⟩, since world held⟩) fun begun => ?_
  have lasts := noting.and (Noting.passed begun)
  refine .and_pre fun later => ?_
  refine Triple.bind (fun _ world => (holds world ∧ begun ≤ world.shared.now) ∧
    AllClosed connections (begun + maxFrameAge) world) ?_ fun _ => ?_
  · refine (Triple.attempt (cancel_closes lasts connections begun fun _ held => held.2)).weaken ?_
    intro result world found
    cases result <;> exact found
  · exact .done fun world found => ⟨found.1.1, _, rfl, rfl, later, found.1.2, found.2⟩

/-! ### The loop over the routes -/

/-- What a route is admitted with. -/
def admissionOf (credential : Option PublisherCredential)
    (configuration : RelayRouteConfiguration) : Admission :=
  ⟨0, RelayConnectorFactory.revisionOf credential,
    (RelayConnectorFactory.presenting credential configuration).sourceToken⟩

/-- Every route done so far has the connection asked for. -/
structure Obtained (credential : Option PublisherCredential) (done : List RelayTransportPreparation)
    (connections : List IngressConnection) (world : GatewayWorld) : Prop where
  length : connections.length = done.length
  admits : ∀ bus route connection, done[bus]? = some route → connections[bus]? = some connection →
    Admits bus bus route.sampleSpec.channels (admissionOf credential route.configuration)
      connection world

theorem Obtained.snoc {credential : Option PublisherCredential}
    {done : List RelayTransportPreparation} {connections : List IngressConnection}
    {world : GatewayWorld} (obtained : Obtained credential done connections world)
    {route : RelayTransportPreparation} {connection : IngressConnection}
    (admits : Admits done.length done.length route.sampleSpec.channels
      (admissionOf credential route.configuration) connection world) :
    Obtained credential (done ++ [route]) (connections ++ [connection]) world where
  length := by simp [obtained.length]
  admits bus other found given has := by
    rcases Nat.lt_trichotomy bus done.length with before | rfl | after
    · rw [List.getElem?_append_left before] at given
      rw [List.getElem?_append_left (obtained.length ▸ before)] at has
      exact obtained.admits bus other found given has
    · obtain rfl : route = other := by simpa using given
      obtain rfl : connection = found := by simpa [← obtained.length] using has
      exact admits
    · have beyond : (done ++ [route]).length ≤ bus := by simp; omega
      cases (List.getElem?_eq_none beyond).symm.trans given

/-- What is known while the buses are admitted. -/
structure Admitting (start : Nat) (credential : Option PublisherCredential)
    (done : List RelayTransportPreparation) (connections : List IngressConnection)
    (world : GatewayWorld) : Prop where
  since : start ≤ world.shared.now
  coherent : world.shared.control.Coherent
  known : ∀ held, credential = some held → world.shared.control.Knows held
  obtained : Obtained credential done connections world

namespace Noting

theorem admits (bus session channels : Nat) (admission : Admission)
    (connection : IngressConnection) :
    Noting (Admits bus session channels admission connection) where
  acts world action found :=
    ⟨found.identity, found.positive, (noted _).acts world action found.ready⟩
  notes world entry other found :=
    ⟨found.identity, found.positive, (noted _).notes world entry other found.ready⟩

theorem admitting (start : Nat) (credential : Option PublisherCredential)
    (done : List RelayTransportPreparation) (connections : List IngressConnection) :
    Noting (Admitting start credential done connections) where
  acts world action found :=
    { since := (passed start).acts world action found.since
      coherent := coherent.acts world action found.coherent
      known := fun held given =>
        ((known held).acts world action ⟨found.coherent, found.known held given⟩).2
      obtained :=
        { length := found.obtained.length
          admits := fun bus route connection given has =>
            (admits _ _ _ _ _).acts world action
              (found.obtained.admits bus route connection given has) } }
  notes world entry other found :=
    { since := found.since
      coherent := found.coherent
      known := found.known
      obtained :=
        { length := found.obtained.length
          admits := fun bus route connection given has =>
            (admits _ _ _ _ _).notes world entry other
              (found.obtained.admits bus route connection given has) } }

end Noting

/-- A group is given up: every socket dialled for it has been closed, unless closing took longer
than a frame may, and unless it is the last one and its own admission failed. -/
structure RolledBack (start : Nat) (failure : StartupFailure) (world : GatewayWorld) : Prop where
  since : start ≤ failure.begun
  begun : failure.begun ≤ world.shared.now
  closed : ∀ session < world.publisher.sessions, Closed session world ∨
    failure.begun + maxFrameAge ≤ world.shared.now ∨
    session + 1 = world.publisher.sessions ∧ failure.error.code = "relay.ingress_start_failed"

namespace Admitting

variable {start : Nat} {credential : Option PublisherCredential}
  {done : List RelayTransportPreparation} {connections : List IngressConnection}
  {world : GatewayWorld}

section Found

variable (found : Admitting start credential done connections world)

include found

/-- Dialling touches nothing of it. -/
theorem dial :
    Admitting start credential done connections (updateGateway Gateway.dial world) where
  since := found.since
  coherent := found.coherent
  known := found.known
  obtained :=
    { length := found.obtained.length
      admits := fun bus route connection given has =>
        let admits := found.obtained.admits bus route connection given has
        ⟨admits.identity, admits.positive, admits.ready⟩ }

/-- One more bus is admitted. -/
theorem admitted {route : RelayTransportPreparation} {connection : IngressConnection}
    (admits : Admits done.length done.length route.sampleSpec.channels
      (admissionOf credential route.configuration) connection world) :
    Admitting start credential (done ++ [route]) (connections ++ [connection]) world :=
  { found with obtained := found.obtained.snoc admits }

/-- The sockets of the connections obtained so far are the first ones. -/
theorem exists_connection {session : Nat} (inside : session < done.length) :
    ∃ connection ∈ connections, connection.session = session := by
  have has : session < connections.length := found.obtained.length ▸ inside
  refine ⟨connections[session], List.getElem_mem has, ?_⟩
  have admits := found.obtained.admits session done[session] connections[session]
    (List.getElem?_eq_getElem inside) (List.getElem?_eq_getElem has)
  rw [admits.identity]

/-- Once all of them are given up, so is the group. -/
theorem rolledBack {failure : StartupFailure} (since : start ≤ failure.begun)
    (given : GivenUp failure.begun connections world)
    (others : ∀ session < world.publisher.sessions, done.length ≤ session →
      session + 1 = world.publisher.sessions ∧
        failure.error.code = "relay.ingress_start_failed") : RolledBack start failure world where
  since := since
  begun := given.1
  closed session dialled := by
    by_cases inside : session < done.length
    · obtain ⟨connection, member, rfl⟩ := found.exists_connection inside
      exact (given.2 connection member).imp_right .inl
    · exact .inr (.inr (others session dialled (Nat.le_of_not_lt inside)))

end Found

end Admitting

section Routes

open RelayConnectorFactory

variable (factory : RelayConnectorFactory) (start deadline : Nat)
  (credential : Option PublisherCredential)

theorem Noting.reads (noting : Noting holds) {Value : Type} (read : GatewayWorld → Value)
    {fails : IngressError → GatewayWorld → Prop} :
    Triple (fun _ => True) holds (RelayConnector.load read) (fun _ => holds) fails :=
  ((noting.look read).observe fun _ _ => trivial).weaken fun _ _ found => found.1

theorem Noting.controlChanged (noting : Noting holds) {fails : IngressError → GatewayWorld → Prop} :
    Triple (fun _ => True) holds (controlChanged credential deadline) (fun _ => holds) fails := by
  cases credential with
  | none => exact .done fun _ => id
  | some credential =>
    refine .bind _ (noting.reads _) fun _ => .ite (fun _ => .done ?_) fun _ => ?_
    · exact fun _ => id
    refine .bind _ (noting.reads _) fun _ => .ite (fun _ => .done ?_) fun _ => ?_
    · exact fun _ => id
    exact .bind _ (noting.reads _) fun _ => .done fun _ => id

/-- What the loop leaves: all connections, or none. -/
def Concluded (routes : List RelayTransportPreparation) (world : GatewayWorld) :
    Except StartupFailure (List IngressConnection) → Prop
  | .ok connections => Admitting start credential routes connections world
  | .error failure => RolledBack start failure world

theorem admitRoutes_concludes (rest done : List RelayTransportPreparation)
    (connections : List IngressConnection) :
    Triple (fun _ => True)
      (fun world => Admitting start credential done connections world ∧
        world.publisher.sessions = done.length)
      (factory.admitRoutes credential deadline done.length rest connections)
      (fun result world => Concluded start credential (done ++ rest) world result)
      fun _ _ => False := by
  induction rest generalizing done connections with
  | nil =>
    rw [List.append_nil]
    exact .done fun _ found => found.1
  | cons route rest hypothesis =>
    have lasts := (Noting.admitting start credential done connections).and
      (Noting.dialled (done.length + 1))
    refine .bind (fun session world => (Admitting start credential done connections world ∧
      world.publisher.sessions = done.length) ∧ session = done.length)
      (.inspect fun _ found => ⟨found, found.2⟩) fun session => .and_pre ?_
    rintro rfl
    refine .bind (fun _ world => Admitting start credential done connections world ∧
      world.publisher.sessions = done.length + 1)
      (.update fun _ found => ⟨found.1.dial, congrArg (· + 1) found.2⟩) fun _ => ?_
    refine Triple.bind _ (Triple.attempt (prepare_admits lasts
      (presenting credential route.configuration) done.length done.length
      route.sampleSpec.channels deadline 0 (revisionOf credential))
      |>.observe fun _ _ => trivial) fun result => ?_
    cases result with
    | error error =>
      refine (rollBack_closes lasts connections _ start fun _ found => found.1.since).weaken ?_
      rintro _ world ⟨⟨found, dialled⟩, failure, rfl, same, since, given⟩
      refine found.rolledBack since given fun session inside _ => ⟨by omega, ?_⟩
      rw [same, relayError]
    | ok connection =>
      have longer : (done ++ [route]).length = done.length + 1 := by simp
      have more := (Noting.admitting start credential (done ++ [route])
        (connections ++ [connection])).and (Noting.dialled (done ++ [route]).length)
      refine .bind _ ((more.controlChanged deadline credential).strengthen fun _ found =>
        ⟨found.1.1.admitted found.2, found.1.2.trans longer.symm⟩) fun changed => ?_
      refine .ite (fun _ => ?_) fun _ => ?_
      · refine (rollBack_closes more _ _ start fun _ found => found.1.since).weaken ?_
        rintro _ world ⟨⟨found, dialled⟩, failure, rfl, -, since, given⟩
        exact found.rolledBack since given fun session inside beyond => by omega
      · rw [List.append_cons done route rest, ← longer]
        exact hypothesis (done ++ [route]) (connections ++ [connection])

end Routes

/-! ### A group that is returned -/

def StreamProfile.channels : StreamProfile → Nat
  | .voiceMono20ms => 1
  | .musicStereo20ms => 2

theorem StreamProfile.channels_supported (profile : StreamProfile) :
    profile.channels = 1 ∨ profile.channels = 2 := by
  cases profile with
  | voiceMono20ms => exact .inl rfl
  | musicStereo20ms => exact .inr rfl

namespace RelayConnectorFactory

variable (factory : RelayConnectorFactory)

/-- A profile is only given to what it can encode. -/
theorem relayStreamProfile_channels {sampleSpec : SampleSpec} {profile : StreamProfile}
    (accepted : factory.relayStreamProfile sampleSpec = .ok profile) :
    profile.channels = sampleSpec.channels := by
  unfold relayStreamProfile at accepted
  split at accepted
  · cases accepted
  split at accepted
  · cases accepted
  split at accepted
  next mono => cases accepted; exact mono.symm
  split at accepted
  next stereo => cases accepted; exact stereo.symm
  cases accepted

/-- Each route has its profile. -/
theorem relayStreamProfiles {routes : List RelayTransportPreparation}
    {profiles : List StreamProfile}
    (accepted : (routes.mapM fun route => factory.relayStreamProfile route.sampleSpec) =
      .ok profiles) :
    profiles.map (·.channels) = routes.map (·.sampleSpec.channels) := by
  induction routes generalizing profiles with
  | nil =>
    cases accepted
    rfl
  | cons route rest hypothesis =>
    rw [List.mapM_cons] at accepted
    cases first : factory.relayStreamProfile route.sampleSpec with
    | error error =>
      rw [first] at accepted
      cases accepted
    | ok profile =>
      rw [first] at accepted
      cases others : rest.mapM fun route => factory.relayStreamProfile route.sampleSpec with
      | error error => simp [others, bind, Except.bind] at accepted
      | ok more =>
        obtain rfl : profile :: more = profiles := by
          simpa [others, bind, Except.bind, pure, Except.pure] using accepted
        rw [List.map_cons, List.map_cons, hypothesis others,
          factory.relayStreamProfile_channels first]

end RelayConnectorFactory

/-- The bus that `run_prepared_frame_publisher` lays out for a stream. -/
def PreparedFrameStream.layout (stream : PreparedFrameStream) : BusLayout :=
  stream.latencyProfile.pipeline.layout stream.profile.channels stream.profile.channels_supported

/-- The lanes of a prepared group. -/
def PreparedGroup.lanes (group : PreparedGroup) : List Lane :=
  List.zipWith (fun stream connection =>
    { stream.layout with
      sourceGeneration := connection.sourceGeneration
      token := connection.admission.token })
    group.streams group.connections

/-- A prepared group is what a run starts from: the launch has its lanes and connections and what
the threads share, every route is in it, and the READY message of each bus has been received. -/
structure PreparedGroup.Launches (group : PreparedGroup)
    (routes : List RelayTransportPreparation) (context : Bool) (launch : Launch group.recovery)
    (world : GatewayWorld) : Prop where
  lanes : launch.lanes = group.lanes
  whole : launch.lanes.map (·.channels) = routes.map (·.sampleSpec.channels)
  connections : launch.connections = group.connections
  ambient : launch.ambient = world.shared.toAmbient
  control : launch.control = world.shared.control
  context : launch.context = context
  positive : ∀ lane ∈ launch.lanes, 0 < lane.sourceGeneration
  received : ∀ entry ∈ launch.world.notes, entry ∈ world.notes

section Group

open RelayConnectorFactory

variable {start : Nat} {credential : Option PublisherCredential}
  {routes : List RelayTransportPreparation} {profiles : List StreamProfile}
  {connections : List IngressConnection} {world : GatewayWorld}

/-- The lane of a bus of a prepared group. -/
theorem exists_of_lanes (channels : profiles.map (·.channels) = routes.map (·.sampleSpec.channels))
    (found : Admitting start credential routes connections world) {bus : Nat} {lane : Lane}
    (has : (preparedGroup credential routes profiles connections).lanes[bus]? = some lane) :
    ∃ route connection, routes[bus]? = some route ∧ connections[bus]? = some connection ∧
      lane.connection bus ⟨0, revisionOf credential, (credential.map (·.token)).getD lane.token⟩ =
        connection ∧
      lane.sourceGeneration = connection.sourceGeneration ∧
      Admits bus bus route.sampleSpec.channels (admissionOf credential route.configuration)
        connection world := by
  simp only [PreparedGroup.lanes, preparedGroup, List.getElem?_zipWith_eq_some,
    List.getElem?_map, Option.map_eq_some_iff, List.getElem?_zip_eq_some] at has
  obtain ⟨stream, connection, ⟨⟨route, profile⟩, ⟨given, encodes⟩, rfl⟩, connected, rfl⟩ := has
  have admits := found.obtained.admits bus route connection given connected
  have same : profile.channels = route.sampleSpec.channels := by
    have both := congrArg (·[bus]?) channels
    simpa [given, encodes] using both
  refine ⟨route, connection, given, connected, ?_, rfl, admits⟩
  rw [admits.identity, ← same]
  cases credential <;> rfl

theorem length_lanes (channels : profiles.map (·.channels) = routes.map (·.sampleSpec.channels))
    (found : Admitting start credential routes connections world) :
    (preparedGroup credential routes profiles connections).lanes.length = routes.length := by
  have same : profiles.length = routes.length := by simpa using congrArg List.length channels
  simp [PreparedGroup.lanes, preparedGroup, same, found.obtained.length]

/-- The launch of a prepared group. -/
def launchOf (channels : profiles.map (·.channels) = routes.map (·.sampleSpec.channels))
    (found : Admitting start credential routes connections world) (context : Bool) :
    Launch (preparedGroup credential routes profiles connections).recovery where
  ambient := world.shared.toAmbient
  control := world.shared.control
  lanes := (preparedGroup credential routes profiles connections).lanes
  context := context
  grouped held given := by
    obtain ⟨_, -, rfl⟩ := Option.map_eq_some_iff.mp given
    rw [length_lanes channels found, List.length_map]
  coherent := found.coherent
  known held given := by
    obtain ⟨credential, rfl, rfl⟩ := Option.map_eq_some_iff.mp given
    exact found.known credential rfl

theorem preparedGroup_launches
    (channels : profiles.map (·.channels) = routes.map (·.sampleSpec.channels))
    (found : Admitting start credential routes connections world) (context : Bool) :
    (preparedGroup credential routes profiles connections).Launches routes context
      (launchOf channels found context) world := by
  have admission : (launchOf channels found context).admission = fun lane =>
      ⟨0, revisionOf credential, (credential.map (·.token)).getD lane.token⟩ := by
    cases credential <;> rfl
  refine ⟨rfl, ?_, ?_, rfl, rfl, rfl, ?_, ?_⟩
  · refine List.ext_getElem? fun bus => ?_
    rw [List.getElem?_map, List.getElem?_map]
    cases has : (launchOf channels found context).lanes[bus]? with
    | none =>
      have beyond := length_lanes channels found ▸ List.getElem?_eq_none_iff.mp has
      rw [List.getElem?_eq_none beyond]
      rfl
    | some lane =>
      obtain ⟨route, connection, given, -, same, -, admits⟩ := exists_of_lanes channels found has
      have asked : connection.channels = route.sampleSpec.channels :=
        congrArg (·.channels) admits.identity
      rw [given, Option.map_some, Option.map_some, ← asked, ← same]
      rfl
  · refine List.ext_getElem? fun bus => ?_
    rw [Launch.connections, List.getElem?_mapIdx, admission]
    cases has : (launchOf channels found context).lanes[bus]? with
    | none =>
      have beyond := length_lanes channels found ▸ List.getElem?_eq_none_iff.mp has
      exact (List.getElem?_eq_none (found.obtained.length ▸ beyond)).symm
    | some lane =>
      obtain ⟨route, connection, -, connected, rfl, -, -⟩ := exists_of_lanes channels found has
      exact connected.symm
  · intro lane member
    obtain ⟨bus, has⟩ := List.getElem?_of_mem member
    obtain ⟨route, connection, -, -, -, same, admits⟩ := exists_of_lanes channels found has
    exact same ▸ admits.positive
  · intro entry noted
    obtain ⟨bus, lane, has, rfl⟩ := Launch.mem_notes_world _ |>.mp noted
    obtain ⟨route, connection, -, -, -, same, admits⟩ := exists_of_lanes channels found has
    exact same ▸ admits.ready

end Group

/-! ### Starting a group -/

section Start

open RelayConnectorFactory

variable (factory : RelayConnectorFactory) {start : Nat}

/-- `snapshot` returns a credential that the control has given out. -/
theorem snapshot_knows (noting : Noting holds)
    (coherent : ∀ world, holds world → world.shared.control.Coherent) :
    Triple holds holds snapshot
      (fun credential world => holds world ∧ world.shared.control.Coherent ∧
        world.shared.control.Knows credential) fun _ => holds := by
  refine .bind (fun credential world => holds world ∧ world.shared.control.Coherent ∧
    world.shared.control.Knows credential) ?_ fun credential => ?_
  · refine .await (fun _ => id) noting.stable fun _ world held free => ?_
    exact ⟨held, coherent world held,
      SharedControl.knows_credential (Option.isNone_iff_eq_none.mp free)⟩
  have lasts := noting.and (Noting.known credential)
  have kept : ∀ world, (holds world ∧ world.shared.control.Coherent ∧
      world.shared.control.Knows credential) → holds world := fun _ found => found.1
  refine .bind _ ((lasts.load _).within kept) fun revoked => ?_
  refine .bind _ ((Preserves.failIf _ _).within kept) fun _ => ?_
  refine .bind _ ((lasts.load _).within kept) fun now => ?_
  cases validateExpiry credential.validUntil now with
  | error error => exact .fail kept
  | ok _ => exact .done fun _ => id

/-- Nothing has been dialled yet. -/
def Undialled (start : Nat) (credential : Option PublisherCredential) (world : GatewayWorld) :
    Prop :=
  Admitting start credential [] [] world ∧ world.publisher.sessions = 0

theorem Noting.undialled (credential : Option PublisherCredential) :
    Noting (Undialled start credential) :=
  (Noting.admitting _ _ _ _).and (Noting.dialled _)

/-- A group that fails before it has dialled leaves nothing behind. -/
theorem Undialled.rolledBack {credential : Option PublisherCredential} {world : GatewayWorld}
    (found : Undialled start credential world) (error : ConnectorError) :
    RolledBack start ⟨error, start⟩ world :=
  found.1.rolledBack (Nat.le_refl _) ⟨found.1.since, by simp [AllClosed]⟩
    fun session inside _ => by rw [found.2] at inside; cases inside

theorem readCredential_knows (controlled : Bool) :
    Triple (fun _ => True) (Undialled start none) (factory.readCredential controlled)
      (fun result world =>
        match result with
        | .ok credential => Undialled start credential world
        | .error _ => Undialled start none world) fun _ _ => False := by
  unfold readCredential
  cases controlled with
  | false => exact .done fun _ => id
  | true =>
    refine Triple.bind _ (Triple.attempt (snapshot_knows (Noting.undialled none)
      fun _ found => found.1.coherent) |>.observe fun _ _ => trivial) fun result => ?_
    cases result with
    | error error => exact .done fun _ => id
    | ok credential =>
      refine .done fun _ found => ⟨{ found.1.1 with known := ?_, obtained := ?_ }, found.1.2⟩
      · rintro _ ⟨⟩
        exact found.2.2
      · exact ⟨rfl, by simp⟩

theorem groupDeadline_undialled (startupTimeout : Nat)
    (credential : Option PublisherCredential) {fails : IngressError → GatewayWorld → Prop} :
    Triple (fun _ => True) (Undialled start credential) (groupDeadline startupTimeout credential)
      (fun _ => Undialled start credential) fails := by
  have lasts : Noting (Undialled start credential) := Noting.undialled credential
  refine .bind _ (lasts.reads _) fun first => ?_
  cases credential with
  | none => exact .done fun _ => id
  | some => exact .bind _ (lasts.reads _) fun second => .done fun _ => id

/-- A start that ended: what it obtained is launched, or is given up. -/
def Started (start : Nat) (routes : List RelayTransportPreparation) (world : GatewayWorld) :
    Except StartupFailure PreparedGroup → Prop
  | .ok group => ∀ context, ∃ launch, group.Launches routes context launch world
  | .error failure => RolledBack start failure world

theorem startGroup_starts (claim : Except RelayPublisherControlError Unit)
    (routes : List RelayTransportPreparation) :
    Triple (fun _ => True) (fun world => Undialled start none world ∧ world.shared.now = start)
      (factory.startGroup claim routes) (fun result world => Started start routes world result)
      fun _ _ => False := by
  refine .bind (fun begun world => Undialled start none world ∧ begun = start)
    (.inspect fun _ => id) fun begun => .and_pre ?_
  rintro rfl
  have early : ∀ (credential : Option PublisherCredential) (error : ConnectorError),
      Triple (fun _ => True) (Undialled begun credential)
        (return .error ⟨error, begun⟩ : Publishing (Except StartupFailure PreparedGroup))
        (fun result world => Started begun routes world result) fun _ _ => False :=
    fun _ error => .done fun _ found => found.rolledBack error
  cases routes.head? with
  | none => exact early none _
  | some first =>
    dsimp only
    cases (if first.control then claim else .ok ()) with
    | error error => exact early none _
    | ok _ =>
      refine .bind _ (readCredential_knows factory first.control) fun result => ?_
      cases result with
      | error error => exact early none _
      | ok credential =>
        refine .bind _ (groupDeadline_undialled _ credential) fun deadline => ?_
        cases accepted : routes.mapM fun route => factory.relayStreamProfile route.sampleSpec with
        | error error => exact early credential _
        | ok profiles =>
          have channels := factory.relayStreamProfiles accepted
          have concludes := admitRoutes_concludes factory begun deadline credential routes [] []
          refine .bind _ concludes fun result => ?_
          cases result with
          | error failure => exact .done fun _ => id
          | ok connections =>
            exact .done fun world found context =>
              ⟨_, preparedGroup_launches channels found context⟩

end Start

/-- Starting a group is a transaction, whatever the relay answers and whatever the other threads do
meanwhile. It fails with an error of its own only. What it returns is a whole group that can be
launched; with an error, every socket it has dialled is closed. -/
theorem startup_is_a_transaction (factory : RelayConnectorFactory)
    (claim : Except RelayPublisherControlError Unit) (routes : List RelayTransportPreparation)
    (schedule : List Turn) (world : GatewayWorld) (coherent : world.shared.control.Coherent)
    (fresh : world.publisher.sessions = 0) :
    Ends (fun _ => True) (fun result last => Started world.shared.now routes last result)
      (fun _ _ => False) (factory.startGroup claim routes schedule world) := by
  refine startGroup_starts factory claim routes schedule world
    ⟨⟨⟨?_, coherent, ?_, ?_⟩, fresh⟩, rfl⟩
  · exact Nat.le_refl _
  · rintro _ ⟨⟩
  · exact ⟨rfl, by simp⟩

/-- Before a group is started. -/
def morning : GatewayWorld where
  shared := (sampleLaunch 0).world.shared
  publisher := Gateway.start [] none false

/-- A controlled group of two mono buses. -/
def twoRoutes : List RelayTransportPreparation :=
  [{ configuration := sampleConfiguration, sampleSpec := ⟨48000, 1, .f32Interleaved⟩,
     control := true },
   { configuration := { sampleConfiguration with busId := "second" },
     sampleSpec := ⟨48000, 1, .f32Interleaved⟩, control := true }]

/-- The first bus is admitted, the second one is not. -/
def refusesSecond : List Turn :=
  quietTurns 14 ++ readyTurn 1 :: quietTurns 7 ++ { connect := .error (.proxy .rejected) } ::
    quietTurns 5

theorem startup_is_a_transaction_refused :
    let outcome := Registry.smallFactory.startGroup (.ok ()) twoRoutes refusesSecond morning
    ∃ failure, outcome.1 = .ok (.error failure) ∧
      failure.error.code = "relay.ingress_start_failed" ∧
      outcome.2.2.publisher.sessions = 2 ∧ RolledBack 0 failure outcome.2.2 := by
  have ends := startup_is_a_transaction Registry.smallFactory (.ok ()) twoRoutes refusesSecond
    morning coherent_sampleCredential rfl
  exact ⟨_, rfl, rfl, rfl, ends⟩

end RelayConnector
