/-
This file models the WebRTC subscriber, `SubscriberConnection` of `rtc/subscriber.rs`, and shows
that it stays inside the machine of an owner of a peer connection.

A connection is made from a finished handshake and then polled; each poll advances the peer
connection by at most one timeout, one datagram and one signaling message.
-/

import RelayConnector.PublishLoop

namespace RelayConnector

open Scheduled Scheduled.Command

structure SubscriberConnection where
  mid : Nat := 0
  pendingEvents : List RtcEvent := []
  nextRtcTimeout : Nat := 0
  lastKeepalive : Nat := 0

abbrev Subscribing (Value : Type) := Negotiating SubscriberConnection Value

/-- The text of an error of `poll_output`. -/
def PollError.text : PollError → String
  | .closeNotify => "CloseNotify"
  | .other message => message

namespace Subscriber

open Rtc

/-! ### Outputs and events -/

/-- One round of `drain_outputs`. -/
def drainOutputsRound : Subscribing (Option Unit) := do
  match ← Rtc.ask RtcTurn.poll with
  | .error error => fail (.text ("subscriber poll_output failed: " ++ error.text))
  | .ok .transmit =>
    match ← Rtc.ask RtcTurn.send with
    | .error (.other message) => fail (.text message)
    | _ => return none
  | .ok (.event event) =>
    update <| updatePublisher fun connection =>
      { connection with pendingEvents := connection.pendingEvents ++ [event] }
    return none
  | .ok (.timeout deadline) =>
    update (World.note .drained)
    update (updatePublisher fun connection => { connection with nextRtcTimeout := deadline })
    return some ()

def drainOutputs : Subscribing Unit := forever drainOutputsRound

/-- The next frame among the pending events, and the events behind it. -/
def nextFrame (mid : Nat) :
    List RtcEvent → Except PublishError (Option ReceivedOpusFrame) × List RtcEvent
  | [] => (.ok none, [])
  | .mediaData source media :: rest =>
    if source = mid then (.ok (some media), rest) else nextFrame mid rest
  | .disconnected :: rest => (.error (.text "Relay subscriber ICE path disconnected"), rest)
  | _ :: rest => nextFrame mid rest

def takePendingFrame : Subscribing (Option ReceivedOpusFrame) := do
  let taken ← inspect fun world => nextFrame world.publisher.mid world.publisher.pendingEvents
  update (updatePublisher fun connection => { connection with pendingEvents := taken.2 })
  match taken.1 with
  | .ok frame => return frame
  | .error error => fail error

/-- A pending frame is returned before anything else is done. -/
def unlessPending (next : Subscribing (Option ReceivedOpusFrame)) :
    Subscribing (Option ReceivedOpusFrame) := do
  match ← takePendingFrame with
  | some frame => return some frame
  | none => next

/-! ### One poll -/

def pollSignaling : Subscribing Unit := do
  match ← Rtc.ask RtcTurn.signal with
  | .ok (.text (some message)) =>
    if message.offersCandidate then
      call "invalid Relay ICE candidate: "
      update (World.note .candidate)
      drainOutputs
    else if message.msgType = "ERROR" then fail (.text message.relayError)
  | .ok .close => fail (.text "Relay subscriber signaling closed")
  | .ok _ => return ()
  | .error error =>
    match error.kind with
    | .wouldBlock => return ()
    | .timedOut => return ()
    | .connectionClosed => fail (.text "Relay subscriber signaling closed")
    | _ => fail (.text ("Relay subscriber signaling failed: " ++ error.text))

def keepaliveInterval : Nat := 45 * 1000000000

def keepAlive : Subscribing Unit := do
  let lastKeepalive ← inspect (·.publisher.lastKeepalive)
  if keepaliveInterval ≤ (← Rtc.instantNow) - lastKeepalive then
    call ""
    let now ← Rtc.instantNow
    update (updatePublisher fun connection => { connection with lastKeepalive := now })

/-- The end of a poll. -/
def finishPoll : Subscribing (Option ReceivedOpusFrame) := do
  pollSignaling
  keepAlive
  takePendingFrame

def pollDatagram : Subscribing (Option ReceivedOpusFrame) := do
  match ← Rtc.ask RtcTurn.datagram with
  | .ok () =>
    call "subscriber Receive::new failed: "
    mutate .input "subscriber RTC receive failed: "
    drainOutputs
    unlessPending finishPoll
  | .error .wouldBlock => finishPoll
  | .error (.other message) => fail (.text message)

def pollFrame : Subscribing (Option ReceivedOpusFrame) :=
  unlessPending do
    let now ← Rtc.instantNow
    if (← inspect (·.publisher.nextRtcTimeout)) ≤ now then
      mutate .input "subscriber RTC timeout failed: "
      drainOutputs
      unlessPending pollDatagram
    else pollDatagram

/-! ### A connection and its polls -/

/-- `SubscriberConnection::new`, with the media of the handshake. -/
def connect (mids : List Nat) : Subscribing Unit := do
  match mids.getLast? with
  | none => fail (.text "Relay subscriber negotiated no audio media")
  | some mid =>
    call "subscriber UDP set_nonblocking failed: "
    call ""
    call ""
    let nextRtcTimeout ← Rtc.instantNow
    let lastKeepalive ← Rtc.instantNow
    update <| updatePublisher fun _ =>
      { mid := mid, nextRtcTimeout := nextRtcTimeout, lastKeepalive := lastKeepalive }
    drainOutputs

/-- So many calls of `poll_frame`, up to the first error. -/
def pollFrames : Nat → Subscribing (List (Option ReceivedOpusFrame))
  | 0 => return []
  | count + 1 => do
    let frame ← pollFrame
    let frames ← pollFrames count
    return frame :: frames

/-- A connection that is polled so many times. -/
def session (mids : List Nat) (count : Nat) : Subscribing (List (Option ReceivedOpusFrame)) := do
  connect mids
  pollFrames count

/-- The world in which a handshake hands over the peer connection. -/
def world (shared : Shared) : World SubscriberConnection RtcNote where
  shared := shared
  publisher := {}

/-- The world in which a session ends, or is found when the schedule is used up. -/
def last (shared : Shared) (mids : List Nat) (count : Nat) (schedule : List RtcTurn) :
    World SubscriberConnection RtcNote :=
  (session mids count schedule (world shared)).2.2

/-! ### The machine -/

variable {start : World SubscriberConnection RtcNote} {phase : RtcPhase}

theorem drainOutputs_spec (pollable : phase.pollable = true) :
    Runs start phase drainOutputs fun _ => RtcReach start .ready := by
  refine .forever observable ?_
  refine .bind _ (ask_stays _) fun output => ?_
  split
  next => exact fail_spec _
  next =>
    refine .bind _ (ask_stays _) fun sent => ?_
    split
    next => exact fail_spec _
    next => exact .done fun _ => id
  next => exact .bind _ (update_stays _) fun _ => .done fun _ => id
  next deadline =>
    refine .bind (fun _ => RtcReach start .ready) (.update ?_) fun _ => ?_
    · exact fun world reached => reached.step (.drained world phase pollable)
    · exact .bind _ (update_stays _) fun _ => .done fun _ => id

theorem takePendingFrame_stays : Stays start phase takePendingFrame := by
  refine .bind _ (inspect_stays _) fun taken => ?_
  refine .bind _ (update_stays _) fun _ => ?_
  split
  next => exact done_stays _
  next => exact fail_spec _

theorem unlessPending_stays {next : Subscribing (Option ReceivedOpusFrame)}
    (stays : Stays start phase next) : Stays start phase (unlessPending next) := by
  refine .bind _ takePendingFrame_stays fun frame => ?_
  cases frame with
  | some frame => exact done_stays _
  | none => exact stays

theorem pollSignaling_stays : Stays start .ready pollSignaling := by
  refine .bind _ (ask_stays _) fun signal => ?_
  split
  next message =>
    refine .ite (fun _ => ?_) fun _ => ?_
    · refine .bind _ (call_stays _) fun _ => ?_
      refine .bind (fun _ => RtcReach start .dirty) (.update fun world reached =>
        reached.step (.candidate world)) fun _ => ?_
      exact drainOutputs_spec rfl
    · exact .ite (fun _ => fail_spec _) fun _ => done_stays ()
  next => exact fail_spec _
  next => exact done_stays ()
  next error =>
    split
    next => exact done_stays ()
    next => exact done_stays ()
    next => exact fail_spec _
    next => exact fail_spec _

theorem keepAlive_stays : Stays start phase keepAlive := by
  refine .bind _ (inspect_stays _) fun lastKeepalive => ?_
  refine .bind _ (load_stays _) fun now => ?_
  refine .ite (fun _ => ?_) fun _ => done_stays ()
  refine .bind _ (call_stays _) fun _ => ?_
  exact .bind _ (load_stays _) fun _ => update_stays _

theorem finishPoll_stays : Stays start .ready finishPoll := by
  refine .bind _ pollSignaling_stays fun _ => ?_
  exact .bind _ keepAlive_stays fun _ => takePendingFrame_stays

theorem pollDatagram_stays : Stays start .ready pollDatagram := by
  refine .bind _ (ask_stays _) fun datagram => ?_
  split
  next =>
    refine .bind _ (call_stays _) fun _ => ?_
    refine .bind _ (mutate_spec fun world => .input world .ready rfl) fun _ => ?_
    refine .bind _ (drainOutputs_spec rfl) fun _ => ?_
    exact unlessPending_stays finishPoll_stays
  next => exact finishPoll_stays
  next => exact fail_spec _

theorem pollFrame_stays : Stays start .ready pollFrame := by
  refine unlessPending_stays ?_
  refine .bind _ (load_stays _) fun now => ?_
  refine .bind _ (inspect_stays _) fun nextRtcTimeout => ?_
  refine .ite (fun _ => ?_) fun _ => pollDatagram_stays
  refine .bind _ (mutate_spec fun world => .input world .ready rfl) fun _ => ?_
  refine .bind _ (drainOutputs_spec rfl) fun _ => ?_
  exact unlessPending_stays pollDatagram_stays

/-- Whatever the handshake left undrained is drained before the first poll. -/
theorem connect_spec (mids : List Nat) :
    Runs start .handed (connect mids) fun _ => RtcReach start .ready := by
  unfold connect
  split
  next => exact fail_spec _
  next mid =>
    refine .bind _ (call_stays _) fun _ => ?_
    refine .bind _ (call_stays _) fun _ => ?_
    refine .bind _ (call_stays _) fun _ => ?_
    refine .bind _ (load_stays _) fun nextRtcTimeout => ?_
    refine .bind _ (load_stays _) fun lastKeepalive => ?_
    refine .bind _ (update_stays _) fun _ => ?_
    exact drainOutputs_spec rfl

theorem pollFrames_stays (count : Nat) : Stays start .ready (pollFrames count) := by
  induction count with
  | zero => exact done_stays _
  | succ count hypothesis =>
    refine .bind _ pollFrame_stays fun frame => ?_
    exact .bind _ hypothesis fun frames => done_stays _

/-- The machine reaches the world in which a session ends or is found. -/
theorem reached (shared : Shared) (mids : List Nat) (count : Nat) (schedule : List RtcTurn) :
    Rtc.Located (world shared) (last shared mids count schedule) := by
  have runs : Runs (world shared) .handed (session mids count)
      fun _ => RtcReach (world shared) .ready :=
    Triple.bind _ (connect_spec mids) fun _ => pollFrames_stays count
  exact (runs schedule (world shared) .start).anywhere (fun _ => id)
    (fun _ => observable) fun _ => observable

end Subscriber

end RelayConnector
