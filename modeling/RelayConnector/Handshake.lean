/-
This file models the ICE/DTLS loops of `run_handshake` and `run_subscriber_handshake` in
`rtc/handshake.rs` and proves what each of them makes of the poll discipline.

The loops are near copies. The subscriber's makes at most one mutation behind a timeout of
`poll_output`; the publisher's always handles the timeout and then, in the same branch, a
datagram and a candidate if there are any.
-/

import RelayConnector.Polling

namespace RelayConnector

open Scheduled Scheduled.Command

/-- What came in from outside while a loop ran: datagrams and trickled candidates that were
handed to the peer connection. The record is not part of the program. -/
structure IceInputs where
  datagrams : Nat := 0
  candidates : Nat := 0

abbrev Handshaking (Value : Type) := Negotiating IceInputs Value

namespace Handshake

open Rtc

def countDatagram (inputs : IceInputs) : IceInputs :=
  { inputs with datagrams := inputs.datagrams + 1 }

def countCandidate (inputs : IceInputs) : IceInputs :=
  { inputs with candidates := inputs.candidates + 1 }

/-! ### The two loops -/

/-- `udp.send_to` of what is to be transmitted. -/
def transmit : Handshaking (Option Bool) := do
  match ← Rtc.ask RtcTurn.send with
  | .error (.other message) => fail (.text message)
  | _ => return none

/-- `handle_input` with a received datagram. -/
def handleReceive (context : String) : Handshaking Unit :=
  atomic Rtc.settleTurn fun turn world =>
    (turn.call.mapError fun message => .text (context ++ message),
      (updatePublisher countDatagram world).note .input)

/-- `add_remote_candidate`. -/
def addRemoteCandidate : Handshaking Unit :=
  update fun world => (updatePublisher countCandidate world).note .candidate

/-- One read of the signaling connection that may time out: the message, if there is one. -/
def readSignal (context : String) : Handshaking (Option SignalMessage) := do
  match ← Rtc.ask RtcTurn.signal with
  | .ok message => return some message
  | .error error =>
    match error.kind with
    | .wouldBlock => return none
    | .timedOut => return none
    | _ => fail (.text (context ++ error.text))

/-- A datagram, if there is one. A read of the socket that timed out is one that would block. -/
def receiveDatagram : Handshaking Unit := do
  match ← Rtc.ask RtcTurn.datagram with
  | .ok () =>
    call "Receive::new: "
    handleReceive "handle_input: "
  | .error .wouldBlock => return ()
  | .error (.other message) => fail (.text message)

/-- A trickled candidate, if there is one; a candidate that cannot be parsed is ignored. -/
def readCandidate : Handshaking Unit := do
  match ← readSignal "relay signaling connection failed: " with
  | some (.text (some message)) =>
    if message.offersCandidate then
      match ← attempt (call "") with
      | .ok () => addRemoteCandidate
      | .error _ => return ()
  | _ => return ()

/-- One round of the loop of `run_handshake`; `true` when it is connected. -/
def publisherRound (startupDeadline : Nat) : Handshaking (Option Bool) := do
  if startupDeadline ≤ (← Rtc.instantNow) then return some false
  match ← Rtc.ask RtcTurn.poll with
  | .error error => fail (.text ("poll_output: " ++ error.text))
  | .ok .transmit => transmit
  | .ok (.event .connected) => return some true
  | .ok (.event _) => return none
  | .ok (.timeout _) =>
    update (World.note .drained)
    mutate .input "handle_input Timeout: "
    receiveDatagram
    readCandidate
    return none

/-- One round of the loop of `run_subscriber_handshake`. -/
def subscriberRound (startupDeadline : Nat) : Handshaking (Option Bool) := do
  if startupDeadline ≤ (← Rtc.instantNow) then return some false
  match ← Rtc.ask RtcTurn.poll with
  | .error error => fail (.text ("subscriber poll_output: " ++ error.text))
  | .ok .transmit => transmit
  | .ok (.event .connected) => return some true
  | .ok (.event _) => return none
  | .ok (.timeout nextTimeout) =>
    update (World.note .drained)
    match ← Rtc.ask RtcTurn.datagram with
    | .ok () =>
      call "subscriber Receive::new failed: "
      handleReceive "subscriber UDP input failed: "
      return none
    | .error (.other message) => fail (.text message)
    | .error .wouldBlock =>
      match ← readSignal "relay subscriber signaling failed: " with
      | some (.text (some message)) =>
        if message.offersCandidate then
          call "invalid Relay ICE candidate: "
          addRemoteCandidate
          return none
        else if message.msgType = "ERROR" then fail (.text message.relayError)
        else tick nextTimeout
      | some .close => fail (.text "relay closed subscriber signaling during startup")
      | _ => tick nextTimeout
where
  /-- The clock of the peer connection is advanced when it is due. -/
  tick (nextTimeout : Nat) : Handshaking (Option Bool) := do
    if nextTimeout ≤ (← Rtc.instantNow) then mutate .input "subscriber timeout input failed: "
    return none

/-- A loop and what follows it: without a connection, the room is left and an error returned. -/
def untilConnected (round : Handshaking (Option Bool)) (late : String) : Handshaking Unit := do
  if ← forever round then
    call ""
    call ""
  else
    let _ ← attempt (call "")
    fail (.text late)

/-- `run_handshake` from its loop on. -/
def publisherLoop (startupDeadline timeoutMs : Nat) : Handshaking Unit :=
  untilConnected (publisherRound startupDeadline)
    ("ICE/DTLS handshake exceeded the configured " ++ toString timeoutMs ++ " ms startup deadline")

/-- `run_subscriber_handshake` from its loop on. -/
def subscriberLoop (startupDeadline timeoutMs : Nat) : Handshaking Unit :=
  untilConnected (subscriberRound startupDeadline)
    ("subscriber ICE/DTLS handshake exceeded the configured " ++ toString timeoutMs ++
      " ms startup deadline")

/-- The world in which a loop is entered. -/
def world (shared : Shared) : World IceInputs RtcNote where
  shared := shared
  publisher := {}

/-- The world in which a run ends, or is found when the schedule is used up. -/
def last (loop : Handshaking Unit) (shared : Shared) (schedule : List RtcTurn) :
    World IceInputs RtcNote :=
  (loop schedule (world shared)).2.2

/-! ### The publisher's loop -/

/-- The discipline is kept exactly as long as nothing came in from outside. -/
def Reflects (world : World IceInputs RtcNote) : Prop :=
  PollDisciplined world.notes ↔ world.publisher.datagrams = 0 ∧ world.publisher.candidates = 0

/-- The same, and the last note is a mutation. -/
def Mutated (world : World IceInputs RtcNote) : Prop :=
  Reflects world ∧ ∃ entry older, world.notes = entry :: older ∧ entry.mutates = true

/-- The same, and the peer connection is drained. -/
def Drained (world : World IceInputs RtcNote) : Prop := Reflects world ∧ DrainedLast world.notes

/-- What speaks about the notes and the record is not touched by the other threads. -/
theorem observed_of_notes {found pre : World IceInputs RtcNote → Prop}
    (shown : ∀ world, pre world → found world)
    (unchanged : ∀ world world' : World IceInputs RtcNote, world'.notes = world.notes →
      world'.publisher = world.publisher → pre world → pre world') : Observed found pre := by
  refine ⟨shown, fun turn world holds => ?_⟩
  refine World.settle_induction (fun world action holds => ?_) turn.before world holds
  exact unchanged world _ (World.perform_notes world action) rfl holds

theorem observed_reflects : Observed Reflects Reflects := by
  refine observed_of_notes (fun _ => id) fun world world' notes inputs holds => ?_
  rw [Reflects, notes, inputs]
  exact holds

theorem observed_mutated : Observed Reflects Mutated := by
  refine observed_of_notes (fun _ holds => holds.1) fun world world' notes inputs holds => ?_
  rw [Mutated, Reflects, notes, inputs]
  exact holds

theorem observed_drained : Observed Reflects Drained := by
  refine observed_of_notes (fun _ holds => holds.1) fun world world' notes inputs holds => ?_
  rw [Drained, Reflects, notes, inputs]
  exact holds

theorem drained_of_reflects {world : World IceInputs RtcNote} (reflects : Reflects world) :
    Drained (world.note .drained) := by
  refine ⟨Iff.trans ?_ reflects, [], world.notes, rfl, by simp⟩
  exact ⟨PollDisciplined.of_cons, fun disciplined => disciplined.cons_of_silent rfl⟩

theorem mutated_of_drained {world : World IceInputs RtcNote} (drained : Drained world) :
    Mutated (world.note .input) := by
  refine ⟨Iff.trans ?_ drained.1, .input, world.notes, rfl, rfl⟩
  exact ⟨PollDisciplined.of_cons, fun disciplined => disciplined.cons fun _ => .inl drained.2⟩

/-- A second mutation behind the same drain. -/
theorem mutated_again {world : World IceInputs RtcNote} (mutated : Mutated world)
    {change : IceInputs → IceInputs} {entry : RtcNote} (mutates : entry.mutates = true)
    (counts : ∀ inputs, ¬((change inputs).datagrams = 0 ∧ (change inputs).candidates = 0)) :
    Mutated ((updatePublisher change world).note entry) := by
  obtain ⟨-, earlier, older, notes, first⟩ := mutated
  have noted : ((updatePublisher change world).note entry).notes = entry :: earlier :: older :=
    congrArg (entry :: ·) notes
  refine ⟨iff_of_false ?_ (counts world.publisher), entry, world.notes, rfl, mutates⟩
  rw [noted]
  exact PollDisciplined.not_of_pair first mutates

theorem transmit_reflects :
    Triple Reflects Reflects transmit (fun _ => Reflects) fun _ => Reflects := by
  refine .bind _ (observed_reflects.ask _) fun sent => ?_
  split
  next => exact observed_reflects.fail _
  next => exact .done fun _ => id

theorem readSignal_mutated (context : String) :
    Triple Reflects Mutated (readSignal context) (fun _ => Mutated) fun _ => Reflects := by
  refine .bind _ (observed_mutated.ask _) fun signal => ?_
  split
  next => exact .done fun _ => id
  next =>
    split
    next => exact .done fun _ => id
    next => exact .done fun _ => id
    next => exact observed_mutated.fail _

theorem receiveDatagram_mutated :
    Triple Reflects Mutated receiveDatagram (fun _ => Mutated) fun _ => Reflects := by
  refine .bind _ (observed_mutated.ask _) fun datagram => ?_
  split
  next =>
    refine .bind _ (observed_mutated.call _) fun _ => ?_
    refine .atomic observed_mutated.shown observed_mutated.stable fun turn world mutated => ?_
    have again : Mutated ((updatePublisher countDatagram world).note .input) :=
      mutated_again mutated rfl fun inputs zero => nomatch zero.1
    cases turn.call with
    | ok _ => exact again
    | error message => exact again.1
  next => exact .done fun _ => id
  next => exact observed_mutated.fail _

theorem readCandidate_mutated :
    Triple Reflects Mutated readCandidate (fun _ => Mutated) fun _ => Reflects := by
  refine .bind _ (readSignal_mutated _) fun signal => ?_
  split
  next message =>
    refine .ite (fun _ => ?_) fun _ => .done fun _ => id
    refine .bind _ (observed_mutated.attempt_call "") fun parsed => ?_
    split
    next =>
      exact .update fun world mutated =>
        mutated_again mutated rfl fun inputs zero => nomatch zero.2
    next => exact .done fun _ => id
  next => exact .done fun _ => id

theorem publisherRound_reflects (startupDeadline : Nat) :
    Triple Reflects Reflects (publisherRound startupDeadline) (fun _ => Reflects)
      fun _ => Reflects := by
  refine .bind _ (observed_reflects.load _) fun now => ?_
  refine .ite (fun _ => .done fun _ => id) fun _ => ?_
  refine .bind _ (observed_reflects.ask _) fun output => ?_
  split
  next => exact observed_reflects.fail _
  next => exact transmit_reflects
  next => exact .done fun _ => id
  next => exact .done fun _ => id
  next =>
    refine .bind (fun _ => Drained) (.update fun _ => drained_of_reflects) fun _ => ?_
    refine .bind _ (observed_drained.mutate observed_mutated.shown
      fun _ => mutated_of_drained) fun _ => ?_
    refine .bind _ receiveDatagram_mutated fun _ => ?_
    refine .bind _ readCandidate_mutated fun _ => ?_
    exact .done fun _ mutated => mutated.1

/-- What every round of a loop keeps is kept to its end. -/
theorem untilConnected_keeps {found pre : World IceInputs RtcNote → Prop}
    (observed : Observed found pre) {round : Handshaking (Option Bool)}
    (keeps : Triple found pre round (fun _ => pre) fun _ => found) (late : String) :
    Triple found pre (untilConnected round late) (fun _ => pre) fun _ => found := by
  have repeated : Triple found pre round (Repeats pre fun _ => pre) fun _ => found :=
    keeps.weaken fun outcome _ holds => by cases outcome <;> exact holds
  refine .bind _ (.forever observed.shown repeated) fun connected => ?_
  refine .ite (fun _ => ?_) fun _ => ?_
  · exact .bind _ (observed.call _) fun _ => observed.call _
  · refine .bind _ (observed.attempt_call _) fun _ => ?_
    exact observed.fail _

/-! ### The subscriber's loop -/

section Subscriber

variable {start : World IceInputs RtcNote} {phase : RtcPhase}

/-- Between two calls of `poll_output`. -/
def Polled (start world : World IceInputs RtcNote) : Prop :=
  ∃ phase, RtcReach start phase world ∧ phase.pollable = true

theorem handleReceive_spec (context : String) :
    Runs start .ready (handleReceive context) fun _ => RtcReach start .dirty := by
  refine .atomic observable Rtc.reach_stable fun turn world reached => ?_
  have moved : RtcReach start .dirty ((updatePublisher countDatagram world).note .input) :=
    (reached.step (.own world .ready countDatagram)).step (.input _ .ready rfl)
  cases turn.call with
  | ok _ => exact moved
  | error message => exact failing _ moved

theorem addRemoteCandidate_spec :
    Runs start .ready addRemoteCandidate fun _ => RtcReach start .dirty :=
  Triple.update fun world reached =>
    (reached.step (.own world .ready countCandidate)).step (.candidate _)

theorem transmit_stays : Stays start phase transmit := by
  refine .bind _ (ask_stays _) fun sent => ?_
  split
  next => exact fail_spec _
  next => exact done_stays _

theorem readSignal_stays (context : String) : Stays start phase (readSignal context) := by
  refine .bind _ (ask_stays _) fun signal => ?_
  split
  next => exact done_stays _
  next =>
    split
    next => exact done_stays _
    next => exact done_stays _
    next => exact fail_spec _

theorem tick_polled (nextTimeout : Nat) :
    Runs start .ready (subscriberRound.tick nextTimeout) fun _ => Polled start := by
  refine .bind _ (load_stays _) fun now => ?_
  refine .ite (fun _ => ?_) fun _ => ?_
  · refine .bind _ (mutate_spec fun world => .input world .ready rfl) fun _ => ?_
    exact .done fun _ reached => ⟨.dirty, reached, rfl⟩
  · exact .done fun _ reached => ⟨.ready, reached, rfl⟩

/-- Behind a timeout of `poll_output` there is at most one mutation. -/
theorem subscriberRound_polled (startupDeadline : Nat) (pollable : phase.pollable = true) :
    Runs start phase (subscriberRound startupDeadline) fun _ => Polled start := by
  have same : ∀ world, RtcReach start phase world → Polled start world :=
    fun world reached => ⟨phase, reached, pollable⟩
  have dirty : ∀ world, RtcReach start .dirty world → Polled start world :=
    fun world reached => ⟨.dirty, reached, rfl⟩
  refine .bind _ (load_stays _) fun now => ?_
  refine .ite (fun _ => .done same) fun _ => ?_
  refine .bind _ (ask_stays _) fun output => ?_
  split
  next => exact fail_spec _
  next => exact transmit_stays.weaken fun _ => same
  next => exact .done same
  next => exact .done same
  next nextTimeout =>
    refine .bind (fun _ => RtcReach start .ready) (.update fun world reached =>
      reached.step (.drained world phase pollable)) fun _ => ?_
    refine .bind _ (ask_stays _) fun datagram => ?_
    split
    next =>
      refine .bind _ (call_stays _) fun _ => ?_
      refine .bind _ (handleReceive_spec _) fun _ => ?_
      exact .done dirty
    next => exact fail_spec _
    next =>
      refine .bind _ (readSignal_stays _) fun signal => ?_
      split
      next message =>
        refine .ite (fun _ => ?_) fun _ => ?_
        · refine .bind _ (call_stays _) fun _ => ?_
          refine .bind _ addRemoteCandidate_spec fun _ => ?_
          exact .done dirty
        · exact .ite (fun _ => fail_spec _) fun _ => tick_polled nextTimeout
      next => exact fail_spec _
      next => exact tick_polled nextTimeout

theorem observed_polled : Observed (Rtc.Located start) (Polled start) := by
  constructor
  · rintro world ⟨phase, reached, -⟩
    exact observable world reached
  · rintro turn world ⟨phase, reached, pollable⟩
    exact ⟨phase, Rtc.reach_stable turn world reached, pollable⟩

end Subscriber

/-- The loop of `run_handshake` keeps the poll discipline exactly as long as no datagram and no
candidate came in; the loop of `run_subscriber_handshake` always keeps it. -/
theorem negotiation_poll_discipline_iff (shared : Shared) (startupDeadline timeoutMs : Nat)
    (schedule : List RtcTurn) :
    (PollDisciplined (last (publisherLoop startupDeadline timeoutMs) shared schedule).notes ↔
      (last (publisherLoop startupDeadline timeoutMs) shared schedule).publisher.datagrams = 0 ∧
      (last (publisherLoop startupDeadline timeoutMs) shared schedule).publisher.candidates = 0) ∧
    PollDisciplined (last (subscriberLoop startupDeadline timeoutMs) shared schedule).notes := by
  constructor
  · have initially : Reflects (world shared) := iff_of_true .nil ⟨rfl, rfl⟩
    have keeps := untilConnected_keeps observed_reflects (publisherRound_reflects startupDeadline)
    exact (keeps _ schedule _ initially).anywhere (fun _ => id) (fun _ _ => id) fun _ _ => id
  · have keeps : Triple (Rtc.Located (world shared)) (Polled (world shared))
        (subscriberRound startupDeadline) (fun _ => Polled (world shared))
        fun _ => Rtc.Located (world shared) := by
      rintro schedule world ⟨phase, reached, pollable⟩
      exact ((subscriberRound_polled startupDeadline pollable).consequence (fun _ => id)
        (fun _ _ => id) fun _ => observable) schedule world reached
    have located : Rtc.Located (world shared)
        (last (subscriberLoop startupDeadline timeoutMs) shared schedule) :=
      (untilConnected_keeps observed_polled keeps _ schedule _ ⟨.handed, .start, rfl⟩).anywhere
        (fun _ => id) (fun _ => observed_polled.shown) fun _ _ => id
    obtain ⟨phase, reached⟩ := located
    exact (reached.disciplined rfl).1

/-- `poll_output` returns a timeout, and a datagram is there. -/
def datagramAtTimeout : List RtcTurn := List.replicate 6 { datagram := .ok () }

/-- A process before its buses are started. -/
def quietShared : Shared where
  control := { credential := { token := "token", validUntil := 1, revision := 1 }, revision := 1 }
  pipes := fun _ => (default : BusLayout).pipe

theorem publisher_mutates_undrained :
    (last (publisherLoop 1 1000) quietShared datagramAtTimeout).notes =
        [.input, .input, .drained] ∧
      ¬PollDisciplined (last (publisherLoop 1 1000) quietShared datagramAtTimeout).notes := by
  have notes : (last (publisherLoop 1 1000) quietShared datagramAtTimeout).notes =
      [.input, .input, .drained] := rfl
  refine ⟨notes, ?_⟩
  rw [notes]
  exact PollDisciplined.not_of_pair rfl rfl

end Handshake

end RelayConnector
