/-
This file holds the data of `rtc/gateway.rs`: the errors and their classification, the
connections and counters of a group of buses, and what each of the gateway's steps does
to them.

A connection carries the round of admission and the capability revision it was obtained
with, and the socket it stands for a number; the program has neither, and no step of
the gateway looks at them. A socket buffers what is written to it; what is done to each
socket is noted in order.
-/

import RelayConnector.Configuration
import RelayConnector.Outbox
import RelayConnector.Wire
import RelayConnector.World

namespace RelayConnector

open Words

/-! ### Errors -/

inductive IngressFailure where
  | transport
  | authority
  | protocol
  | identity
  | generation
  | credential
  | recoveryBudget
  deriving DecidableEq, Repr

inductive ProxyConnectError where
  | authorization
  | rejected
  | connectRejected (status : Nat)
  | proxyTlsHandshake
  | relayTlsHandshake
  | transport
  deriving DecidableEq, Repr

/-- The errors behind the boxed `IngressError`, as far as a downcast can tell them apart. -/
inductive IngressError where
  | failure (failure : IngressFailure)
  | proxy (error : ProxyConnectError)
  | control (error : RelayPublisherControlError)
  | text (message : String)
  deriving DecidableEq, Repr

/-- `recoverable`: errors without a type of their own are transport errors. -/
def recoverable : IngressError → Bool
  | .failure failure => failure == .transport
  | .proxy error => error == .transport
  | .control _ => false
  | .text _ => true

def credentialChanged : IngressError → Bool
  | .failure failure => failure == .credential
  | _ => false

/-- `tungstenite::Error`, as far as the gateway looks at it. -/
inductive SocketError where
  | wouldBlock
  | timedOut
  /-- Any other `Io` error. -/
  | io
  | connectionClosed
  | resetWithoutClosingHandshake
  | other
  deriving DecidableEq, Repr

def classifySocketError : SocketError → IngressError
  | .other => .failure .protocol
  | _ => .failure .transport

inductive CloseCode where
  | policy
  | normal
  | away
  | restart
  | again
  | other
  deriving DecidableEq, Repr

/-- `Ready`: the admission message. -/
structure Ready where
  kind : String
  busId : String
  sourceGeneration : Nat
  deriving DecidableEq, Repr

/-- A message read from the relay. `text none` is a text that does not parse as `Ready`. -/
inductive Message where
  | text (ready : Option Ready)
  | ping
  | pong
  | close (code : Option CloseCode)
  | other
  deriving DecidableEq, Repr

/-- The failure a close frame stands for. -/
def closeFailure : Option CloseCode → IngressFailure
  | some .policy => .authority
  | some .other => .protocol
  | _ => .transport

/-- What `poll_stream` makes of a non-blocking read: an error, or nothing to do. -/
def readFailure : Except SocketError Message → Option IngressError
  | .ok (.close code) => some (.failure (closeFailure code))
  | .ok .ping => none
  | .ok .pong => none
  | .ok _ => some (.failure .protocol)
  | .error .wouldBlock => none
  | .error .timedOut => none
  | .error error => some (classifySocketError error)

/-! ### Constants, in nanoseconds -/

def maxFrameAge : Nat := 200 * 1000000

def recoveryAttempts : Nat := 3

def recoveryBudget : Nat := 5 * 1000000000

def attachmentTimeout : Nat := 1000000000

/-! ### The group -/

/-- Where a connection comes from: the round of admission (0 is the one before the run), the
revision of the capability it was asked for with, and the token presented. -/
structure Admission where
  round : Nat
  revision : Nat
  token : String
  deriving DecidableEq, Repr

structure IngressConnection where
  channels : Nat
  sourceGeneration : Nat
  session : Nat
  admission : Admission
  deriving DecidableEq, Repr

/-- `PublishStreamStats`: ingress fills the first eleven counters, WebRTC the last two. -/
structure PublishStreamStats where
  ingressFramesSent : Nat := 0
  ingressPayloadBytesSent : Nat := 0
  ingressSourceGeneration : Nat := 0
  ingressAttachments : Nat := 0
  ingressDiscontinuities : Nat := 0
  ingressRenewals : Nat := 0
  ingressReconnects : Nat := 0
  ingressReconnectAttempts : Nat := 0
  ingressCredentialRevision : Nat := 0
  ingressRecoveryOpusDrops : Nat := 0
  ingressRecoveryInputDrops : Nat := 0
  rtpSent : Nat := 0
  bytesSent : Nat := 0
  deriving DecidableEq, Repr

structure ActiveIngress where
  connection : Option IngressConnection
  statistics : PublishStreamStats
  disconnected : Bool := false
  channels : Nat
  highestGeneration : Nat
  notBeforeCaptureNs : Option Nat := none
  deriving DecidableEq, Repr

/-- `PreparedIngressRecovery`, without the parts that other threads share. -/
structure PreparedIngressRecovery where
  credential : PublisherCredential
  configurations : List RelayRouteConfiguration

inductive Reattachment where
  | renewal
  | tunnel
  deriving DecidableEq, Repr

/-- The publisher of a group: `active`, `recovery` and whether there is a context. `rounds` and
`sessions` count the admission rounds and the sockets there have been. -/
structure Gateway where
  buses : Nat
  active : Nat → ActiveIngress
  recovery : Option PreparedIngressRecovery
  context : Bool
  rounds : Nat := 0
  sessions : Nat := 0

/-- What becomes of a frame that the gateway has received. -/
inductive FrameOutcome where
  | cancelled
  /-- Captured before the cutoff of the attachment. -/
  | superseded
  | stale
  /-- The send failed. -/
  | undelivered
  | sent
  deriving DecidableEq, Repr

/-- A message for `ws.write`; a close frame for the socket of that number. -/
inductive Outgoing where
  | media (bus : Nat) (frame : EncodedAudioFrame) (packet : List UInt8)
  | close (session : Nat)
  deriving DecidableEq

/-- What the gateway enters into the journal. -/
inductive GatewayNote where
  /-- A media packet is handed to `ws.write`, with the publisher and `paused` as they are then. -/
  | media (bus : Nat) (frame : EncodedAudioFrame) (packet : List UInt8) (gateway : Gateway)
      (paused : Option Bool)
  /-- `ws.write` or `ws.flush` on a socket. -/
  | socket (session : Nat) (operation : Fifo.Operation Outgoing)
  | settled (bus : Nat) (outcome : FrameOutcome) (frame : EncodedAudioFrame)
  /-- `encode_packet` refuses a frame. -/
  | unencodable (bus : Nat) (frame : EncodedAudioFrame)
  /-- `reattach` begins after so many rounds. -/
  | reattaching (rounds : Nat)
  | admitted (round : Nat)
  | rejected (round : Nat)
  /-- `prepare` has received a READY message and found its identity right. -/
  | ready (bus session generation : Nat)
  | prepareFailed (bus session : Nat)
  /-- The generation of a prepared connection did not advance. -/
  | refused (bus session : Nat)
  | installed (bus : Nat) (connection : IngressConnection)
  /-- `capture_end_ns` is loaded as the cutoff of a new attachment. -/
  | cutoff (bus : Nat)
  /-- The loop finds its credential expired, with the revision of the latest replacement that has
  returned and the one held. -/
  | expired (renewed held : Nat)
  /-- A prepared connection comes after the attachment deadline. -/
  | late (validUntil now : Nat)
  /-- A stop or a revocation decides over an admission error. -/
  | overruled (error : IngressError)
  /-- `publish_group` returns. -/
  | ended (error : Option IngressError) (control : SharedControl) (now : Nat)

abbrev GatewayWorld := World Gateway GatewayNote

/-! ### What the gateway's steps do -/

namespace ActiveIngress

def count (active : ActiveIngress) (change : PublishStreamStats → PublishStreamStats) :
    ActiveIngress :=
  { active with statistics := change active.statistics }

/-- `stream.connection = Some(connection)` with the counters of a new attachment. -/
def install (active : ActiveIngress) (connection : IngressConnection) (revision cutoff : Nat)
    (renewed : Bool) : ActiveIngress :=
  let statistics := active.statistics
  { active with
    connection := some connection
    notBeforeCaptureNs := some cutoff
    statistics :=
      { statistics with
        ingressSourceGeneration := connection.sourceGeneration
        ingressAttachments := saturatingAdd statistics.ingressAttachments 1
        ingressDiscontinuities := saturatingAdd statistics.ingressDiscontinuities 1
        ingressRenewals :=
          if renewed then saturatingAdd statistics.ingressRenewals 1
          else statistics.ingressRenewals
        ingressReconnects :=
          if renewed then statistics.ingressReconnects
          else saturatingAdd statistics.ingressReconnects 1
        ingressCredentialRevision := revision } }

end ActiveIngress

namespace PublishStreamStats

def countSent (statistics : PublishStreamStats) (payloadBytes : Nat) : PublishStreamStats :=
  { statistics with
    ingressFramesSent := saturatingAdd statistics.ingressFramesSent 1
    ingressPayloadBytesSent := saturatingAdd statistics.ingressPayloadBytesSent payloadBytes }

def countDrop (statistics : PublishStreamStats) : PublishStreamStats :=
  { statistics with
    ingressRecoveryOpusDrops := saturatingAdd statistics.ingressRecoveryOpusDrops 1 }

def countAttempt (statistics : PublishStreamStats) : PublishStreamStats :=
  { statistics with
    ingressReconnectAttempts := saturatingAdd statistics.ingressReconnectAttempts 1 }

end PublishStreamStats

namespace Gateway

def setActive (gateway : Gateway) (bus : Nat) (active : ActiveIngress) : Gateway :=
  { gateway with active := Function.update gateway.active bus active }

/-- The group as `run_with_recovery` sets it up. -/
def start (connections : List IngressConnection) (recovery : Option PreparedIngressRecovery)
    (context : Bool) : Gateway where
  buses := connections.length
  active bus :=
    match connections[bus]? with
    | some connection =>
      { connection := some connection
        statistics :=
          { ingressSourceGeneration := connection.sourceGeneration
            ingressAttachments := 1
            ingressCredentialRevision := (recovery.map (·.credential.revision)).getD 0 }
        channels := connection.channels
        highestGeneration := connection.sourceGeneration }
    | none => { connection := none, statistics := {}, channels := 0, highestGeneration := 0 }
  recovery := recovery
  context := context
  sessions := connections.length

/-- The installed connections, bus by bus. -/
def connections (gateway : Gateway) : List IngressConnection :=
  (List.range gateway.buses).filterMap fun bus => (gateway.active bus).connection

/-- The socket of a bus that has a connection. -/
def socket (gateway : Gateway) (bus : Nat) : Nat :=
  ((gateway.active bus).connection.map (·.session)).getD 0

/-- `connection.take()` on every bus. -/
def detach (gateway : Gateway) : Gateway :=
  { gateway with active := fun bus => { gateway.active bus with connection := none } }

/-- Every stream counts an attempt; a round of admission begins. -/
def beginRound (gateway : Gateway) : Gateway :=
  { gateway with
    rounds := gateway.rounds + 1
    active := fun bus => (gateway.active bus).count PublishStreamStats.countAttempt }

def dial (gateway : Gateway) : Gateway := { gateway with sessions := gateway.sessions + 1 }

def raiseHighest (gateway : Gateway) (bus generation : Nat) : Gateway :=
  gateway.setActive bus { gateway.active bus with highestGeneration := generation }

/-- `recovery.credential = credential`. -/
def adopt (gateway : Gateway) (credential : PublisherCredential) : Gateway :=
  { gateway with
    recovery := gateway.recovery.map fun recovery => { recovery with credential := credential } }

/-- The revision of `recovery.credential`. -/
def heldRevision (gateway : Gateway) : Option Nat := gateway.recovery.map (·.credential.revision)

end Gateway

/-- The socket a message is for. -/
def Outgoing.session (gateway : Gateway) : Outgoing → Nat
  | .media bus _ _ => gateway.socket bus
  | .close session => session

namespace GatewayWorld

def updateGateway (change : Gateway → Gateway) (world : GatewayWorld) : GatewayWorld :=
  { world with publisher := change world.publisher }

/-- The counter a frame's outcome raises. -/
def settleFrame (bus : Nat) (outcome : FrameOutcome) (frame : EncodedAudioFrame)
    (world : GatewayWorld) : GatewayWorld :=
  let active := world.publisher.active bus
  let counted :=
    match outcome with
    | .cancelled => world.updatePipe bus Pipe.countCancelled
    | .stale => world.updatePipe bus (Pipe.countStale 1)
    | .superseded =>
      updateGateway (·.setActive bus (active.count PublishStreamStats.countDrop)) world
    | .undelivered =>
      updateGateway (·.setActive bus (active.count PublishStreamStats.countDrop)) world
    | .sent =>
      updateGateway (·.setActive bus (active.count (·.countSent frame.payload.length))) world
  counted.note (.settled bus outcome frame)

/-- `encoded_rx.try_recv`. -/
def receive (bus : Nat) (world : GatewayWorld) : Pipe.Received × GatewayWorld :=
  ((world.shared.pipes bus).tryRecv.1, world.updatePipe bus fun pipe => pipe.tryRecv.2)

def disconnect (bus : Nat) : GatewayWorld → GatewayWorld :=
  updateGateway fun gateway =>
    gateway.setActive bus { gateway.active bus with disconnected := true }

/-- `ws.write` of a media packet. -/
def handOver (bus : Nat) (frame : EncodedAudioFrame) (packet : List UInt8)
    (world : GatewayWorld) : GatewayWorld :=
  world.note (.media bus frame packet world.publisher world.shared.paused)

/-- `ws.write` or `ws.flush` on the socket of a message. -/
def operate (message : Outgoing) (operation : Fifo.Operation Outgoing) (world : GatewayWorld) :
    GatewayWorld :=
  world.note (.socket (message.session world.publisher) operation)

/-- `delivery.paused.store`. -/
def setPaused (value : Bool) (world : GatewayWorld) : GatewayWorld :=
  { world with shared := { world.shared with paused := some value } }

/-- The cutoff is loaded and the connection installed. -/
def install (bus : Nat) (connection : IngressConnection) (revision : Nat) (renewed : Bool)
    (world : GatewayWorld) : GatewayWorld :=
  let cutoff := (world.shared.pipes bus).captureEndNs
  let installed := (world.publisher.active bus).install connection revision cutoff renewed
  (updateGateway (·.setActive bus installed) world).note (.cutoff bus)
    |>.note (.installed bus connection)

/-- The input drops of a bus are loaded into its statistics. -/
def recordInputDrops (bus : Nat) (world : GatewayWorld) : GatewayWorld :=
  updateGateway (fun gateway =>
    gateway.setActive bus <| (gateway.active bus).count fun statistics =>
      { statistics with
        ingressRecoveryInputDrops := (world.shared.pipes bus).inputDrops }) world

end GatewayWorld

end RelayConnector
