/-
This file models the WebRTC publisher, `run_publish_loop` of `rtc/publisher.rs`, and
`drain_all_outputs` of `rtc/types.rs`.

The peer connection is outside the model: a turn says what its calls return. Every
mutation of it and every drain up to its next timeout is entered into the journal.
-/

import RelayConnector.Scheduled
import RelayConnector.Signaling

namespace RelayConnector

open Words Scheduled Scheduled.Command

inductive PublisherBacklogPolicy where
  | preserve
  | dropStale
  deriving DecidableEq, Repr

/-- An error that `run_publish_loop` returns. -/
inductive PublishError where
  | text (message : String)
  /-- `relay signaling connection failed`, with the error of the socket. -/
  | signaling (error : SocketError)
  deriving DecidableEq, Repr

/-- An error of the UDP socket. -/
inductive DatagramError where
  | wouldBlock
  | other (message : String)
  deriving DecidableEq, Repr

structure ReceivedOpusFrame where
  payload : List UInt8
  rtpTimestamp : Nat
  rtpClockHz : Nat
  contiguous : Bool
  deriving DecidableEq, Repr

/-- The events of the peer connection that the connector looks at. -/
inductive RtcEvent where
  | connected
  /-- The ICE path is disconnected. -/
  | disconnected
  | mediaData (mid : Nat) (media : ReceivedOpusFrame)
  | other
  deriving DecidableEq, Repr

/-- What `poll_output` returns. -/
inductive RtcOutput where
  | timeout (deadline : Nat)
  | transmit
  | event (event : RtcEvent)
  deriving DecidableEq, Repr

/-- An error of `poll_output`; one text is looked for in its message. -/
inductive PollError where
  | closeNotify
  | other (message : String)
  deriving DecidableEq, Repr

structure ActivePublishStream where
  backlogPolicy : PublisherBacklogPolicy
  disconnected : Bool := false
  statistics : PublishStreamStats := {}
  deriving DecidableEq, Repr

/-- The local variables of `run_publish_loop`. -/
structure RtcPublisher where
  buses : Nat
  active : Nat → ActivePublishStream
  nextRtcTimeout : Nat := 0
  rtcWriterWritesTotal : Nat := 0
  rtcPollDrainsTotal : Nat := 0
  roundRobinStart : Nat := 0
  lastWsPing : Nat := 0

inductive RtcNote where
  /-- `rtc.handle_input`. -/
  | input
  /-- `writer.write`. -/
  | media (bus : Nat) (frame : EncodedAudioFrame)
  /-- `rtc.add_remote_candidate`. -/
  | candidate
  /-- `poll_output` has returned a timeout. -/
  | drained
  /-- A frame of a cancelled output generation is dropped. -/
  | cancelled (bus : Nat) (frame : EncodedAudioFrame)

abbrev RtcWorld := World RtcPublisher RtcNote

structure RtcTurn where
  before : List Action := []
  /-- What a call on the peer connection or a socket returns. -/
  call : Except String Unit := .ok ()
  /-- What `poll_output` returns. -/
  poll : Except PollError RtcOutput := .ok (.timeout 0)
  /-- What `udp.send_to` returns. -/
  send : Except DatagramError Unit := .ok ()
  /-- What `udp.recv_from` returns. -/
  datagram : Except DatagramError Unit := .error .wouldBlock
  /-- Whether `rtc.writer` returns one. -/
  writer : Bool := true
  /-- What `ws.read` returns. -/
  read : Except SocketError Message := .error .wouldBlock
  /-- What `ws.read` returns where the text of the message matters. -/
  signal : Except SignalError SignalMessage := .error ⟨.wouldBlock, ""⟩

/-- A thread that owns a peer connection, with its own state. -/
abbrev Negotiating (Owner Value : Type) := Command RtcTurn (World Owner RtcNote) PublishError Value

abbrev RtcPublishing (Value : Type) := Negotiating RtcPublisher Value

namespace RtcPublisher

def setActive (publisher : RtcPublisher) (bus : Nat) (active : ActivePublishStream) :
    RtcPublisher :=
  { publisher with active := Function.update publisher.active bus active }

/-- `streams[index].disconnected = true`. -/
def disconnect (publisher : RtcPublisher) (bus : Nat) : RtcPublisher :=
  publisher.setActive bus { publisher.active bus with disconnected := true }

/-- The counters of a written frame. -/
def countWrite (publisher : RtcPublisher) (bus payloadBytes : Nat) : RtcPublisher :=
  let active := publisher.active bus
  let statistics := active.statistics
  { publisher.setActive bus
      { active with
        statistics :=
          { statistics with
            rtpSent := saturatingAdd statistics.rtpSent 1
            bytesSent := saturatingAdd statistics.bytesSent payloadBytes } } with
    rtcWriterWritesTotal := saturatingAdd publisher.rtcWriterWritesTotal 1 }

/-- The bus after the one just served is the first of the next pass. -/
def rotate (publisher : RtcPublisher) (bus : Nat) : RtcPublisher :=
  { publisher with roundRobinStart := (bus + 1) % publisher.buses }

/-- The order in which a pass looks at the buses. -/
def scanOrder (publisher : RtcPublisher) : List Nat :=
  (List.range publisher.buses).map fun offset =>
    (publisher.roundRobinStart + offset) % publisher.buses

end RtcPublisher

namespace Rtc

/-! ### Accesses -/

section Owner

variable {Owner : Type}

def settleTurn (turn : RtcTurn) (world : World Owner RtcNote) : World Owner RtcNote :=
  world.settle turn.before

def updatePublisher (change : Owner → Owner) (world : World Owner RtcNote) : World Owner RtcNote :=
  { world with publisher := change world.publisher }

def load {Value : Type} (read : World Owner RtcNote → Value) : Negotiating Owner Value :=
  atomic settleTurn fun _ world => (.ok (read world), world)

def ask {Value : Type} (answer : RtcTurn → Value) : Negotiating Owner Value :=
  atomic settleTurn fun turn world => (.ok (answer turn), world)

/-- A call that may fail; `context` stands before the text of its error. -/
def call (context : String) : Negotiating Owner Unit :=
  atomic settleTurn fun turn world =>
    (turn.call.mapError fun message => .text (context ++ message), world)

/-- A mutation of the peer connection. -/
def mutate (entry : RtcNote) (context : String) : Negotiating Owner Unit :=
  atomic settleTurn fun turn world =>
    (turn.call.mapError fun message => .text (context ++ message), world.note entry)

def instantNow : Negotiating Owner Nat := load (·.shared.now)

/-! ### Draining the peer connection -/

/-- One round of `drain_all_outputs`. -/
def drainRound : Negotiating Owner (Option Nat) := do
  match ← ask RtcTurn.poll with
  | .error .closeNotify => fail (.text "relay closed DTLS connection")
  | .error (.other message) => fail (.text ("poll_output: " ++ message))
  | .ok (.timeout deadline) =>
    update (World.note .drained)
    return some deadline
  | .ok .transmit =>
    match ← ask RtcTurn.send with
    | .error (.other message) => fail (.text message)
    | _ => return none
  | .ok (.event _) => return none

def drainAllOutputs : Negotiating Owner Nat := forever drainRound

end Owner

/-- After a mutation: drain, take over the next timeout and count the drain. -/
def drain (count : Nat → Nat) : RtcPublishing Unit := do
  let deadline ← drainAllOutputs
  update <| updatePublisher fun publisher =>
    { publisher with
      nextRtcTimeout := deadline
      rtcPollDrainsTotal := count publisher.rtcPollDrainsTotal }

/-! ### Serving one bus -/

/-- What `try_recv_frame` returns. -/
inductive Backlog where
  | frame (frame : EncodedAudioFrame) (staleDrops : Nat)
  | empty
  | disconnected

/-- `encoded_rx.try_recv`. -/
def receive (bus : Nat) : RtcPublishing Pipe.Received :=
  atomic settleTurn fun _ world =>
    (.ok (world.shared.pipes bus).tryRecv.1, world.updatePipe bus fun pipe => pipe.tryRecv.2)

/-- One round of the search for the freshest frame, with the frames dropped so far. -/
def freshestRound (bus : Nat) (current : EncodedAudioFrame × Nat) :
    RtcPublishing ((EncodedAudioFrame × Nat) ⊕ (EncodedAudioFrame × Nat)) := do
  match ← receive bus with
  | .frame next => return .inl (next, current.2 + 1)
  | _ => return .inr current

def tryRecvFrame (bus : Nat) (backlogPolicy : PublisherBacklogPolicy) : RtcPublishing Backlog := do
  match ← receive bus with
  | .empty => return .empty
  | .disconnected => return .disconnected
  | .frame first =>
    match backlogPolicy with
    | .preserve => return .frame first 0
    | .dropStale =>
      let (freshest, staleDrops) ← iterate (freshestRound bus) (first, 0)
      return .frame freshest staleDrops

/-- A frame of a cancelled output generation. -/
def discard (bus : Nat) (frame : EncodedAudioFrame) (world : RtcWorld) : RtcWorld :=
  (updatePublisher (·.rotate bus) (world.updatePipe bus Pipe.countCancelled)).note
    (.cancelled bus frame)

/-- `publisher_stale_drops.fetch_add`, if frames were dropped. -/
def countStale (bus staleDrops : Nat) : RtcPublishing Unit :=
  if 0 < staleDrops then update (World.updatePipe bus (Pipe.countStale staleDrops)) else pure ()

/-- A received frame is dropped if its generation is cancelled, else written and drained. -/
def serve (bus : Nat) (frame : EncodedAudioFrame) (staleDrops : Nat) : RtcPublishing Unit := do
  countStale bus staleDrops
  if ← load (·.shared.inactive frame.outputGeneration) then
    return ← update (discard bus frame)
  failIf (!(← ask RtcTurn.writer)) (.text "negotiated Relay AudioBus writer disappeared")
  mutate (.media bus frame) "Relay AudioBus RTP write failed: "
  update (updatePublisher (·.countWrite bus frame.payload.length))
  drain (saturatingAdd · 1)
  update (updatePublisher (·.rotate bus))

/-- One pass over the buses: whether a frame was received. -/
def scan : List Nat → RtcPublishing Bool
  | [] => pure false
  | bus :: rest => do
    let active ← inspect fun world => world.publisher.active bus
    if active.disconnected then scan rest
    else
      match ← tryRecvFrame bus active.backlogPolicy with
      | .frame frame staleDrops =>
        serve bus frame staleDrops
        return true
      | .empty => scan rest
      | .disconnected =>
        update (updatePublisher (·.disconnect bus))
        scan rest

/-! ### The publishing loop -/

def classifySignalingRead : Except SocketError Message → Except PublishError Unit
  | .ok (.close _) => .error (.text "relay signaling connection closed during publication")
  | .error .connectionClosed =>
    .error (.text "relay signaling connection closed during publication")
  | .ok _ => .ok ()
  | .error .wouldBlock => .ok ()
  | .error .timedOut => .ok ()
  | .error error => .error (.signaling error)

def wsKeepaliveInterval : Nat := 45 * 1000000000

/-- The ping that keeps the signaling connection alive. -/
def keepAlive : RtcPublishing Unit := do
  let lastWsPing ← inspect (·.publisher.lastWsPing)
  if wsKeepaliveInterval ≤ (← instantNow) - lastWsPing then
    call ""
    let now ← instantNow
    update <| updatePublisher fun publisher => { publisher with lastWsPing := now }

/-- The end of a round in which no frame was received. -/
def idle : RtcPublishing (Option Unit) := do
  let done ← inspect fun world =>
    (List.range world.publisher.buses).all fun bus => (world.publisher.active bus).disconnected
  if done then return some ()
  keepAlive
  match classifySignalingRead (← ask RtcTurn.read) with
  | .error error => fail error
  | .ok () => return none

/-- One round of the loop; a value means that it is left. -/
def publishRound : RtcPublishing (Option Unit) := do
  let now ← instantNow
  if (← inspect (·.publisher.nextRtcTimeout)) ≤ now then
    mutate .input "handle_input Timeout: "
    drain (wrappingAdd · 1)
    return none
  match ← ask RtcTurn.datagram with
  | .ok () =>
    call "Receive::new: "
    mutate .input "handle_input Receive: "
    drain (wrappingAdd · 1)
    return none
  | .error (.other message) => fail (.text message)
  | .error .wouldBlock =>
    if ← scan (← inspect (·.publisher.scanOrder)) then return none
    idle

structure PublishStats where
  streams : List PublishStreamStats
  elapsed : Nat
  drains : Nat
  writes : Nat

/-- Every stream must have a payload type. -/
def negotiate : List PublisherBacklogPolicy → RtcPublishing Unit
  | [] => pure ()
  | _ :: rest => do
    failIf (!(← ask RtcTurn.writer)) (.text "relay AudioBus has no negotiated Opus payload type")
    negotiate rest

def start (policies : List PublisherBacklogPolicy) : RtcPublisher where
  buses := policies.length
  active bus := { backlogPolicy := policies[bus]?.getD .preserve }

/-- What precedes the loop: the payload types, the sockets and the clocks. -/
def prepare (policies : List PublisherBacklogPolicy) : RtcPublishing Nat := do
  failIf policies.isEmpty (.text "relay publisher requires at least one encoded AudioBus")
  negotiate policies
  call ""
  call ""
  call "UDP set_nonblocking: "
  let nextRtcTimeout ← instantNow
  let runStart ← instantNow
  let lastWsPing ← instantNow
  update <| updatePublisher fun publisher =>
    { publisher with nextRtcTimeout := nextRtcTimeout, lastWsPing := lastWsPing }
  return runStart

def runPublishLoop (policies : List PublisherBacklogPolicy) : RtcPublishing PublishStats := do
  update (updatePublisher fun _ => start policies)
  let runStart ← prepare policies
  forever publishRound
  let _ ← attempt (call "")
  let _ ← attempt (call "")
  let now ← instantNow
  let last ← inspect (·.publisher)
  return { streams := (List.range last.buses).map fun bus => (last.active bus).statistics
           elapsed := now - runStart
           drains := last.rtcPollDrainsTotal
           writes := last.rtcWriterWritesTotal }

end Rtc

/-! ### How a run begins -/

/-- What is prepared for one bus: the channels to its worker threads and the backlog policy. -/
structure RtcLane extends BusLayout where
  backlogPolicy : PublisherBacklogPolicy

instance : Inhabited RtcLane where
  default := { (default : BusLayout) with backlogPolicy := .preserve }

structure RtcLaunch where
  ambient : Ambient
  control : SharedControl
  lanes : List RtcLane

namespace RtcLaunch

def lane (launch : RtcLaunch) (bus : Nat) : RtcLane := launch.lanes[bus]?.getD default

def policies (launch : RtcLaunch) : List PublisherBacklogPolicy :=
  launch.lanes.map (·.backlogPolicy)

/-- The world in which `run_publish_loop` begins. There is no recovery, hence nothing pauses. -/
def world (launch : RtcLaunch) : RtcWorld where
  shared :=
    { launch.ambient with
      paused := none
      control := launch.control
      pipes := fun bus => (launch.lane bus).pipe }
  publisher := Rtc.start launch.policies

/-- The world in which a run under a schedule returns, or is found when the schedule is used up. -/
def last (launch : RtcLaunch) (schedule : List RtcTurn) : RtcWorld :=
  (Rtc.runPublishLoop launch.policies schedule launch.world).2.2

end RtcLaunch

end RelayConnector
