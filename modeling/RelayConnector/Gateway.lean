/-
This file models the code of `rtc/gateway.rs`, function by function: the publishing
loop, the polling of one bus, the guarded send, reattachment with its attempts and the
admission of a whole group.

A command makes one access to shared state at a time; before every access the other
threads act, and an access to the relay or to the operating system gets its answer from
the turn. Reading and changing what only the publisher has takes no turn. Notes are
entered at the access they belong to.
-/

import RelayConnector.Scheduled
import RelayConnector.Ingress

namespace RelayConnector

open Scheduled Scheduled.Command

/-- An error of `proxy::connect`. -/
inductive ConnectError where
  | proxy (error : ProxyConnectError)
  | text (message : String)
  deriving DecidableEq, Repr

def ConnectError.toIngressError : ConnectError → IngressError
  | .proxy error => .proxy error
  | .text message => .text message

/-- One turn of the schedule: what happens before the access, and the answer it gets. An access
looks at one of the answers at most. -/
structure Turn where
  before : List Action := []
  /-- What `ws.read` returns. -/
  read : Except SocketError Message := .error .wouldBlock
  /-- What `ws.write` returns. -/
  write : Except SocketError Unit := .ok ()
  /-- Whether a `ws.write` that fails has buffered the message all the same. -/
  buffered : Bool := false
  /-- What `ws.flush` returns. -/
  flush : Except SocketError Unit := .ok ()
  /-- How many bytes a `ws.flush` that fails has written. -/
  written : Nat := 0
  /-- What `proxy::connect` returns. -/
  connect : Except ConnectError Unit := .ok ()
  /-- What a call on a socket or a thread returns. -/
  call : Except String Unit := .ok ()

namespace Turn

/-- Whether `ws.write` appends its message to the buffer, as it does if it returns Ok or would
block. -/
def queues (turn : Turn) : Bool :=
  match turn.write with
  | .ok () => true
  | .error .wouldBlock => true
  | .error _ => turn.buffered

/-- What `ws.flush` writes of the buffer: all of it if it returns Ok. -/
def flushes (turn : Turn) : Option Nat :=
  match turn.flush with
  | .ok () => none
  | .error _ => some turn.written

end Turn

abbrev Publishing (Value : Type) := Command Turn GatewayWorld IngressError Value

/-! ### Accesses -/

def settleTurn (turn : Turn) (world : GatewayWorld) : GatewayWorld := world.settle turn.before

/-- Load something. -/
def load {Value : Type} (read : GatewayWorld → Value) : Publishing Value :=
  atomic settleTurn fun _ world => (.ok (read world), world)

/-- Change something. -/
def store (change : GatewayWorld → GatewayWorld) : Publishing Unit :=
  atomic settleTurn fun _ world => (.ok (), change world)

/-- Get an answer from outside. -/
def ask {Value : Type} (answer : Turn → Value) : Publishing Value :=
  atomic settleTurn fun turn world => (.ok (answer turn), world)

/-- A call on a socket or a thread that may fail. -/
def systemCall : Publishing Unit :=
  atomic settleTurn fun turn world => (turn.call.mapError IngressError.text, world)

def enter (entry : GatewayNote) : Publishing Unit := update (World.note entry)

def instantNow : Publishing Nat := load (·.shared.now)

def isRevoked : Publishing Bool := load (·.shared.control.revoked)

/-- `recovery.control.revision() != recovery.credential.revision`. -/
def revisionChanged : Publishing Bool :=
  load fun world =>
    world.publisher.recovery.any (·.credential.revision != world.shared.control.revision)

def isStopRequested : Publishing Bool :=
  load fun world => world.publisher.context && world.shared.stopRequested

def isAbortRequested : Publishing Bool :=
  load fun world => world.publisher.context && world.shared.abortRequested

/-- `RelayPublisherControl::snapshot`. The lock is waited for. -/
def snapshot : Publishing PublisherCredential := do
  let credential ← await settleTurn (·.shared.control.lock.isNone)
    fun _ world => (.ok world.shared.control.credential, world)
  failIf (← isRevoked) (.control .revoked)
  match validateExpiry credential.validUntil (← instantNow) with
  | .error error => fail (.control error)
  | .ok () => pure credential

/-! ### Sending -/

def writeMessage (message : Outgoing) : Publishing (Except SocketError Unit) :=
  atomic settleTurn fun turn world =>
    let handed := match message with
      | .media bus frame packet => GatewayWorld.handOver bus frame packet world
      | .close _ => world
    (.ok turn.write, GatewayWorld.operate message (.write message turn.queues) handed)

def flushSocket (message : Outgoing) : Publishing (Except SocketError Unit) :=
  atomic settleTurn fun turn world =>
    (.ok turn.flush, GatewayWorld.operate message (.flush turn.flushes) world)

/-- The closure `valid` of `send_until`: three accesses, in this order, if there is recovery. -/
def valid (guarded : Bool) : Publishing Bool := do
  if !guarded || (← inspect (·.publisher.recovery.isNone)) then return true
  if ← isRevoked then return false
  if ← revisionChanged then return false
  load fun world => world.publisher.recovery.all (world.shared.now < ·.credential.validUntil)

def writeDeadlineError : IngressError := .text "Relay ingress write exceeded its 200 ms deadline"

/-- One round of the flush loop, on the socket of the message. -/
def flushRound (message : Outgoing) (deadline : Nat) (guarded : Bool) :
    Publishing (Option Unit) := do
  failIf (!(← valid guarded)) (.failure .credential)
  match ← flushSocket message with
  | .ok () => return some ()
  | .error .wouldBlock =>
    failIf (deadline ≤ (← instantNow)) writeDeadlineError
    return none
  | .error error => fail (classifySocketError error)

/-- `send_until`; `guarded` says whether it was given the recovery. -/
def sendUntil (message : Outgoing) (deadline : Nat) (guarded : Bool) : Publishing Unit := do
  failIf (!(← valid guarded)) (.failure .credential)
  failIf (deadline ≤ (← instantNow)) writeDeadlineError
  match ← writeMessage message with
  | .ok () => forever (flushRound message deadline guarded)
  | .error .wouldBlock => forever (flushRound message deadline guarded)
  | .error error => fail (classifySocketError error)

/-- The loop of `cancel_until`: whether some close failed. -/
def cancelEach (deadline : Nat) : List IngressConnection → Bool → Publishing Bool
  | [], failed => pure failed
  | connection :: rest, failed => do
    let sent ← attempt (sendUntil (.close connection.session) deadline false)
    let _ ← attempt systemCall
    cancelEach deadline rest (failed || !sent.isOk)

def cancelUntil (connections : List IngressConnection) (deadline : Nat) : Publishing Unit := do
  failIf (← cancelEach deadline connections false) (.text "Relay ingress close failed")

def cancel (connections : List IngressConnection) : Publishing Unit := do
  cancelUntil connections ((← instantNow) + maxFrameAge)

def closeActive : Publishing Unit := do
  let connections ← inspect (·.publisher.connections)
  update (GatewayWorld.updateGateway Gateway.detach)
  let _ ← attempt (cancel connections)

/-- The deadline of a media packet: 200 ms, or the expiry of the credential if that is sooner. -/
def mediaDeadline : Publishing Nat := do
  let first ← instantNow
  match ← inspect (·.publisher.recovery) with
  | none => return min (first + maxFrameAge) ((← instantNow) + maxFrameAge)
  | some recovery => return min (first + maxFrameAge) recovery.credential.validUntil

/-- `send_frame` once the frame is known to be wanted. -/
def sendPacket (bus : Nat) (frame : EncodedAudioFrame) (packet : List UInt8) :
    Publishing Unit := do
  let deadline ← mediaDeadline
  match ← attempt (sendUntil (.media bus frame packet) deadline true) with
  | .error error =>
    update (GatewayWorld.settleFrame bus .undelivered frame)
    fail error
  | .ok () => update (GatewayWorld.settleFrame bus .sent frame)

def sendFrame (bus : Nat) (frame : EncodedAudioFrame) : Publishing Unit := do
  if ← load (·.shared.inactive frame.outputGeneration) then
    return ← update (GatewayWorld.settleFrame bus .cancelled frame)
  let notBeforeCaptureNs ← inspect fun world => (world.publisher.active bus).notBeforeCaptureNs
  if notBeforeCaptureNs.any (frame.captureTimestampNs < ·) then
    return ← update (GatewayWorld.settleFrame bus .superseded frame)
  if maxFrameAge < (← instantNow) - frame.wallclock then
    return ← update (GatewayWorld.settleFrame bus .stale frame)
  match ← inspect fun world => (world.publisher.active bus).connection with
  | none => fail (.failure .protocol)
  | some connection =>
    match encodePacket frame connection.channels with
    | .error _ =>
      enter (.unencodable bus frame)
      fail (.failure .protocol)
    | .ok packet => sendPacket bus frame packet

def receiveFrame (bus : Nat) : Publishing Pipe.Received :=
  atomic settleTurn fun _ world =>
    let (received, world') := GatewayWorld.receive bus world
    (.ok received, world')

def pollStream (bus : Nat) : Publishing Bool := do
  let active ← inspect (·.publisher.active bus)
  if active.disconnected then return false
  failIf active.connection.isNone (.failure .protocol)
  match readFailure (← ask Turn.read) with
  | some error => fail error
  | none =>
    match ← receiveFrame bus with
    | .frame frame =>
      sendFrame bus frame
      return true
    | .disconnected =>
      update (GatewayWorld.disconnect bus)
      return true
    | .empty => return false

/-! ### Admission -/

def connectSocket : Publishing Unit :=
  atomic settleTurn fun turn world => (turn.connect.mapError ConnectError.toIngressError, world)

def startupDeadlineError : IngressError := .text "Relay connection exceeded its startup deadline"

def readinessDeadlineError : IngressError :=
  .text "Relay ingress readiness exceeded its startup deadline"

/-- `before_deadline`: the deadline is checked before the operation and again after it, whatever
the operation returned. The watchdog shows in the answers that the operation's reads get. -/
def beforeDeadline {Value : Type} (deadline : Nat) (operation : Publishing Value) :
    Publishing Value := do
  failIf (deadline < (← instantNow)) startupDeadlineError
  systemCall -- the watchdog thread is spawned
  let result ← attempt operation
  systemCall -- and joined
  failIf (deadline ≤ (← instantNow)) startupDeadlineError
  match result with
  | .ok value => pure value
  | .error error => fail error

/-- One round of the loop that waits for READY. -/
def readyRound (configuration : RelayRouteConfiguration) (bus session deadline : Nat) :
    Publishing (Option Ready) := do
  failIf (deadline < (← instantNow)) readinessDeadlineError
  systemCall -- ws_set_read_timeout
  match ← ask Turn.read with
  | .ok (.text none) => fail (.failure .protocol)
  | .ok (.text (some ready)) =>
    failIf (ready.kind ≠ "READY" || ready.busId ≠ configuration.busId ||
      ready.sourceGeneration = 0) (.failure .identity)
    enter (.ready bus session ready.sourceGeneration)
    return some ready
  | .ok .ping => return none
  | .ok .pong => return none
  | .ok _ => fail (.failure .protocol)
  | .error error => fail (classifySocketError error)

/-- `prepare`, from `proxy::connect` on. The socket it opens is numbered `session`. -/
def prepare (configuration : RelayRouteConfiguration)
    (bus session channels deadline round revision : Nat) : Publishing IngressConnection := do
  connectSocket
  failIf (deadline < (← instantNow)) readinessDeadlineError
  systemCall -- ws_set_read_timeout
  systemCall -- ws_set_write_timeout
  systemCall -- clone_socket
  let ready ← beforeDeadline deadline (forever (readyRound configuration bus session deadline))
  systemCall -- clone_socket
  systemCall -- set_nonblocking
  return { channels := channels, sourceGeneration := ready.sourceGeneration, session := session,
           admission := ⟨round, revision, configuration.sourceToken⟩ }

/-- What one attempt at admission works with. -/
structure Attempt where
  credential : PublisherCredential
  deadline : Nat
  round : Nat

/-- The admission of the connections that an attempt is to obtain. -/
def Attempt.admission (plan : Attempt) : Admission :=
  ⟨plan.round, plan.credential.revision, plan.credential.token⟩

/-- The admission of one bus: the connection if one was obtained, and the error if the group
cannot be admitted. A connection is returned also with an error, to be closed. -/
def admitBus (plan : Attempt) (bus : Nat) (configuration : RelayRouteConfiguration) :
    Publishing (Option IngressConnection × Option IngressError) := do
  if ← isRevoked then return (none, some (.failure .credential))
  if ← load (·.shared.control.revision != plan.credential.revision) then
    return (none, some (.failure .credential))
  if ← isStopRequested then return (none, some (.failure .credential))
  let channels ← inspect fun world => (world.publisher.active bus).channels
  let session ← inspect (·.publisher.sessions)
  update (GatewayWorld.updateGateway Gateway.dial)
  match ← attempt (prepare { configuration with sourceToken := plan.credential.token } bus session
      channels plan.deadline plan.round plan.credential.revision) with
  | .error error =>
    enter (.prepareFailed bus session)
    return (none, some error)
  | .ok connection =>
    let highest ← inspect fun world => (world.publisher.active bus).highestGeneration
    if connection.sourceGeneration ≤ highest then
      enter (.refused bus connection.session)
      return (some connection, some (.failure .generation))
    update (GatewayWorld.updateGateway (·.raiseHighest bus connection.sourceGeneration))
    if ← isRevoked then return (some connection, some (.failure .credential))
    if ← load (·.shared.control.revision != plan.credential.revision) then
      return (some connection, some (.failure .credential))
    let now ← instantNow
    if plan.deadline ≤ now then
      enter (.late plan.credential.validUntil now)
      return (some connection, some (.failure .credential))
    return (some connection, none)

/-- `admit_group` from bus `bus` on; `connections` are those obtained so far. -/
def admitGroup (plan : Attempt) : Nat → List RelayRouteConfiguration → List IngressConnection →
    Publishing (List IngressConnection × Option IngressError)
  | _, [], connections => pure (connections, none)
  | bus, configuration :: rest, connections => do
    let (connection, error) ← admitBus plan bus configuration
    match error with
    | some error => return (connections ++ connection.toList, some error)
    | none => admitGroup plan (bus + 1) rest (connections ++ connection.toList)

/-! ### Reattachment -/

/-- One round of the wait before an attempt: `true` when the wait is over, `false` on stop. -/
def waitRound (waitUntil : Nat) : Publishing (Option Bool) := do
  if waitUntil ≤ (← instantNow) then return some true
  if ← isStopRequested then return some false
  failIf (← isRevoked) (.failure .credential)
  return none

/-- The deadline of one attempt. -/
def attachmentDeadline (configurations : List RelayRouteConfiguration) (recoveryDeadline : Nat)
    (credential : PublisherCredential) : Publishing Nat := do
  let first ← instantNow
  let second ← instantNow
  let startupTimeout := (configurations.head?.map (·.startupTimeout)).getD 0
  return min (min (min (first + attachmentTimeout) recoveryDeadline) credential.validUntil)
    (second + startupTimeout)

/-- An attempt whose admission failed: `false` on stop, `none` when the next attempt is due. -/
def rejectAttempt (plan : Attempt) (recoveryDeadline : Nat) (connections : List IngressConnection)
    (error : IngressError) : Publishing (Option Bool) := do
  enter (.rejected plan.round)
  let now ← instantNow
  let _ ← attempt (cancelUntil connections (min (now + maxFrameAge) recoveryDeadline))
  if ← isStopRequested then
    enter (.overruled error)
    return some false
  if ← isRevoked then
    enter (.overruled error)
    return ← fail (.failure .credential)
  failIf (!recoverable error && !credentialChanged error) error
  if ← load (·.shared.control.revision != plan.credential.revision) then return none
  failIf (!recoverable error) error
  return none

/-- The connections of an admitted group are installed bus by bus. -/
def installGroup (revision : Nat) (renewed : Bool) : Nat → List IngressConnection → Publishing Unit
  | _, [] => pure ()
  | bus, connection :: rest => do
    store (GatewayWorld.install bus connection revision renewed)
    installGroup revision renewed (bus + 1) rest

/-- An attempt whose admission succeeded: the group is installed, then delivery goes on. -/
def completeAttempt (plan : Attempt) (reason : Reattachment)
    (connections : List IngressConnection) : Publishing (Option Bool) := do
  enter (.admitted plan.round)
  let held ← inspect (·.publisher.heldRevision)
  let renewed := held != some plan.credential.revision || reason == .renewal
  installGroup plan.credential.revision renewed 0 connections
  update (GatewayWorld.updateGateway (·.adopt plan.credential))
  store (GatewayWorld.setPaused false)
  return some true

def reattachAttempt (configurations : List RelayRouteConfiguration) (reason : Reattachment)
    (recoveryDeadline number : Nat) : Publishing (Option Bool) := do
  let waitUntil := min ((← instantNow) + (100 * 1000000) <<< number) recoveryDeadline
  if !(← forever (waitRound waitUntil)) then return some false
  if ← isStopRequested then return some false
  let credential ← snapshot
  let deadline ← attachmentDeadline configurations recoveryDeadline credential
  failIf (deadline ≤ (← instantNow)) (.failure .recoveryBudget)
  update (GatewayWorld.updateGateway Gateway.beginRound)
  let round ← inspect (·.publisher.rounds)
  let plan : Attempt := { credential := credential, deadline := deadline, round := round }
  let (connections, error) ← admitGroup plan 0 configurations []
  match error with
  | some error => rejectAttempt plan recoveryDeadline connections error
  | none => completeAttempt plan reason connections

/-- The attempts that are left, in order. -/
def reattachFrom (configurations : List RelayRouteConfiguration) (reason : Reattachment)
    (recoveryDeadline : Nat) : List Nat → Publishing Bool
  | [] => fail (.failure .recoveryBudget)
  | number :: rest => do
    match ← reattachAttempt configurations reason recoveryDeadline number with
    | some attached => return attached
    | none => reattachFrom configurations reason recoveryDeadline rest

def reattach (configurations : List RelayRouteConfiguration) (reason : Reattachment) :
    Publishing Bool := do
  let recoveryDeadline := (← instantNow) + recoveryBudget
  store (GatewayWorld.setPaused true)
  let rounds ← inspect (·.publisher.rounds)
  enter (.reattaching rounds)
  closeActive
  reattachFrom configurations reason recoveryDeadline (List.range recoveryAttempts)

/-! ### The publishing loop -/

/-- How one pass over the buses ends. -/
inductive Polled where
  | polled (progress : Bool)
  /-- `continue 'publish`. -/
  | again
  /-- `break 'publish`. -/
  | leave

/-- The error arm of the loop over the buses. -/
def recoverFrom (error : IngressError) : Publishing Polled := do
  match ← inspect (·.publisher.recovery) with
  | none => fail error
  | some recovery =>
    let changed ← revisionChanged
    if recoverable error || (changed && credentialChanged error) then
      let reason := if changed then Reattachment.renewal else Reattachment.tunnel
      if ← reattach recovery.configurations reason then return .again else return .leave
    else fail error

def pollStreams : List Nat → Bool → Publishing Polled
  | [], progress => pure (.polled progress)
  | bus :: rest, progress => do
    match ← attempt (pollStream bus) with
    | .ok polled => pollStreams rest (progress || polled)
    | .error error => recoverFrom error

/-- A changed revision is renewed at once: `false` when the renewal was stopped. -/
def renewIfChanged (configurations : List RelayRouteConfiguration) : Publishing Bool := do
  if ← revisionChanged then reattach configurations .renewal else return true

/-- The checks of the control at the head of the loop: `false` when a renewal was stopped. -/
def checkControl (recovery : PreparedIngressRecovery) : Publishing Bool := do
  failIf (← isRevoked) (.failure .credential)
  if !(← renewIfChanged recovery.configurations) then return false
  let now ← instantNow
  let held ← inspect (·.publisher.recovery)
  if held.any (·.credential.validUntil ≤ now) then
    let renewed ← inspect (·.shared.control.renewed.revision)
    enter (.expired renewed ((held.map (·.credential.revision)).getD 0))
    return ← fail (.failure .credential)
  return true

def checkRecovery : Publishing Bool := do
  match ← inspect (·.publisher.recovery) with
  | none => return true
  | some recovery => checkControl recovery

/-- One round of `publish_group`; a value means that the loop is left. -/
def publishRound : Publishing (Option Unit) := do
  if ← isAbortRequested then return some ()
  if !(← checkRecovery) then return some ()
  let buses ← inspect (·.publisher.buses)
  match ← pollStreams (List.range buses) false with
  | .leave => return some ()
  | .again => return none
  | .polled _ =>
    let done ← inspect fun world =>
      (List.range buses).all fun bus => (world.publisher.active bus).disconnected
    if done then return some () else return none

def publishGroup : Publishing Unit := forever publishRound

structure IngressRunResult where
  statistics : List PublishStreamStats
  error : Option IngressError

/-- The input drops of every bus, when the loop is over. -/
def recordDrops : List Nat → Publishing Unit
  | [] => pure ()
  | bus :: rest => do
    store (GatewayWorld.recordInputDrops bus)
    recordDrops rest

/-- Delivery stays paused once the loop is over. -/
def pauseForGood : Publishing Unit := do
  let gateway ← inspect (·.publisher)
  if gateway.recovery.isSome then
    store (GatewayWorld.setPaused true)
    recordDrops (List.range gateway.buses)

/-- What `run_with_recovery` does after the loop. -/
def finishRun (error : Option IngressError) : Publishing IngressRunResult := do
  pauseForGood
  closeActive
  let last ← inspect (·.publisher)
  return { statistics := (List.range last.buses).map fun bus => (last.active bus).statistics
           error := error }

def runWithRecovery (connections : List IngressConnection)
    (recovery : Option PreparedIngressRecovery) (context : Bool) : Publishing IngressRunResult := do
  update (GatewayWorld.updateGateway fun _ => Gateway.start connections recovery context)
  let result ← attempt publishGroup
  let error := match result with
    | .ok () => none
    | .error error => some error
  update fun world => world.note (.ended error world.shared.control world.shared.now)
  finishRun error

def run (connections : List IngressConnection) : Publishing IngressRunResult :=
  runWithRecovery connections none false

end RelayConnector
