/-
This file models the signaling messages of the Relay, `signaling.rs`, and the wait for the
SDP answer in the two handshakes of `rtc/handshake.rs`.

The wait is timed. A message arrives at some time; a read that is begun with a timeout returns
the next message when it is there, or fails when the timeout has passed. What the connector
does between two reads takes no time. The times at which reads are begun are kept.
-/

import RelayConnector.Ingress

namespace RelayConnector

structure ServerMsg where
  msgType : String
  sdpAnswer : String := ""
  candidate : String := ""
  code : String := ""
  message : String := ""
  deriving DecidableEq, Repr

/-- A message on the signaling connection; a text comes with what `serde_json` makes of it. -/
inductive SignalMessage where
  | text (message : Option ServerMsg)
  | close
  /-- A binary message, a ping or a pong. -/
  | other
  deriving DecidableEq, Repr

/-- An error of a read, with its text. -/
structure SignalError where
  kind : SocketError
  text : String := ""
  deriving DecidableEq, Repr

/-- The text of an `ERROR` message. -/
def ServerMsg.relayError (message : ServerMsg) : String :=
  "relay error " ++ message.code ++ ": " ++ message.message

/-- A trickled ICE candidate. -/
def ServerMsg.offersCandidate (message : ServerMsg) : Bool :=
  message.msgType == "ICE" && !message.candidate.isEmpty

/-! ### The wait for the SDP answer -/

structure SignalingAnswer where
  sdpAnswer : String
  earlyCandidates : List String
  deriving DecidableEq, Repr

inductive AnswerError where
  | text (message : String)
  /-- The error of `ws.read`. -/
  | read (error : SignalError)
  /-- `set_read_timeout` refuses a timeout of zero. -/
  | zeroTimeout
  deriving DecidableEq, Repr

/-- What the relay sends, or how the connection fails, and when it arrives. -/
structure Delivery where
  time : Nat
  result : Except SignalError SignalMessage
  deriving Repr

/-- How a wait went: what it returned, when, and when each of its reads was begun. -/
structure AnswerWait where
  result : Except AnswerError SignalingAnswer
  ended : Nat
  reads : List Nat := []

/-- What is done with a message: the wait ends, or goes on with the candidates so far. -/
def answerStep (earlyCandidates : List String) :
    SignalMessage → Except AnswerError SignalingAnswer ⊕ List String
  | .text (some message) =>
    if message.msgType = "SDP_ANSWER" then
      if message.sdpAnswer.isEmpty then
        .inl (.error (.text "SDP_ANSWER received but sdp_answer field is empty"))
      else .inl (.ok ⟨message.sdpAnswer, earlyCandidates⟩)
    else if message.offersCandidate then .inr (earlyCandidates ++ [message.candidate])
    else if message.msgType = "ERROR" then .inl (.error (.text message.relayError))
    else .inr earlyCandidates
  | _ => .inr earlyCandidates

/-- `wait_for_sdp_answer`, from a time on and with one timeout for every read. -/
def waitForSdpAnswer (timeout : Nat) : Nat → List String → List Delivery → AnswerWait
  | now, _, [] =>
    { result := .error (.read ⟨.wouldBlock, ""⟩), ended := now + timeout, reads := [now] }
  | now, earlyCandidates, delivery :: rest =>
    if delivery.time ≤ now + timeout then
      let returned := max now delivery.time
      match delivery.result with
      | .error error => { result := .error (.read error), ended := returned, reads := [now] }
      | .ok message =>
        match answerStep earlyCandidates message with
        | .inl result => { result := result, ended := returned, reads := [now] }
        | .inr earlyCandidates =>
          let wait := waitForSdpAnswer timeout returned earlyCandidates rest
          { wait with reads := now :: wait.reads }
    else { result := .error (.read ⟨.wouldBlock, ""⟩), ended := now + timeout, reads := [now] }

/-- The wait of a handshake: what remains up to the deadline is the timeout of the socket. -/
def awaitAnswer (late : String) (startupDeadline now : Nat) (deliveries : List Delivery) :
    AnswerWait :=
  if startupDeadline < now then { result := .error (.text late), ended := now }
  else if startupDeadline = now then { result := .error .zeroTimeout, ended := now }
  else waitForSdpAnswer (startupDeadline - now) now [] deliveries

/-- The wait of `run_handshake`. -/
def publisherAnswer : Nat → Nat → List Delivery → AnswerWait :=
  awaitAnswer "relay startup timed out before the SDP answer"

/-- The wait of `run_subscriber_handshake`. -/
def subscriberAnswer : Nat → Nat → List Delivery → AnswerWait :=
  awaitAnswer "relay subscriber timed out before the SDP answer"

/-! ### One deadline -/

/-- No read is begun after the deadline; a wait that ends after it ends with an error. -/
structure OneDeadline (startupDeadline : Nat) (wait : AnswerWait) : Prop where
  reads : ∀ begun ∈ wait.reads, begun ≤ startupDeadline
  ends : startupDeadline < wait.ended → ∃ error, wait.result = .error error

/-- The deliveries all arrive while a read waits for them, the first at this time. -/
def ReachesWait (timeout : Nat) : Nat → List Delivery → Prop
  | _, [] => True
  | now, delivery :: rest =>
    delivery.time ≤ now + timeout ∧ ReachesWait timeout (max now delivery.time) rest

/-- A message that is skipped. -/
def Delivery.Skipped (delivery : Delivery) : Prop :=
  ∃ message earlyCandidates, delivery.result = .ok message ∧
    answerStep [] message = .inr earlyCandidates

/-- A message that is taken for the answer. -/
def Delivery.Answers (delivery : Delivery) : Prop :=
  ∃ message answer, delivery.result = .ok message ∧ answerStep [] message = .inl (.ok answer)

/-- Nothing that the wait skips or takes for the answer is delivered to it after the deadline. -/
def Timely (timeout startupDeadline now : Nat) (deliveries : List Delivery) : Prop :=
  ∀ front delivery rest, deliveries = front ++ delivery :: rest →
    (∀ earlier ∈ front, earlier.Skipped) → ReachesWait timeout now (front ++ [delivery]) →
    delivery.Skipped ∨ delivery.Answers → delivery.time ≤ startupDeadline

/-- What becomes of a message does not depend on the candidates that came before it. -/
theorem answerStep_cases (message : SignalMessage) :
    (∀ earlyCandidates, ∃ candidates, answerStep earlyCandidates message = .inr candidates) ∨
      (∀ earlyCandidates, ∃ answer, answerStep earlyCandidates message = .inl (.ok answer)) ∨
      ∃ error, ∀ earlyCandidates, answerStep earlyCandidates message = .inl (.error error) := by
  unfold answerStep
  split
  · split
    · split
      · exact .inr (.inr ⟨_, fun _ => rfl⟩)
      · exact .inr (.inl fun _ => ⟨_, rfl⟩)
    · split
      · exact .inl fun _ => ⟨_, rfl⟩
      · split
        · exact .inr (.inr ⟨_, fun _ => rfl⟩)
        · exact .inl fun _ => ⟨_, rfl⟩
  · exact .inl fun _ => ⟨_, rfl⟩

section Timely

variable {timeout startupDeadline now : Nat} {delivery : Delivery} {rest : List Delivery}

theorem timely_nil : Timely timeout startupDeadline now [] := by
  intro front delivery rest split
  simp at split

/-- What arrives after the read has failed does not matter. -/
theorem timely_of_late (late : ¬delivery.time ≤ now + timeout) :
    Timely timeout startupDeadline now (delivery :: rest) := by
  intro front next after split _ reaches
  cases front with
  | nil =>
    rw [List.nil_append, List.cons.injEq] at split
    rw [split.1] at late
    exact absurd reaches.1 late
  | cons head front =>
    rw [List.cons_append, List.cons.injEq] at split
    rw [split.1] at late
    exact absurd reaches.1 late

/-- After a message that is not skipped nothing is read. -/
theorem timely_cons_of_not_skipped (reaches : delivery.time ≤ now + timeout)
    (ends : ¬delivery.Skipped) :
    Timely timeout startupDeadline now (delivery :: rest) ↔
      (delivery.Answers → delivery.time ≤ startupDeadline) := by
  constructor
  · intro timely answers
    exact timely [] delivery rest rfl (by simp) ⟨reaches, trivial⟩ (.inr answers)
  · intro punctual front next after split skipped _ taken
    cases front with
    | nil =>
      obtain ⟨rfl, -⟩ := List.cons.inj split
      exact punctual (taken.resolve_left ends)
    | cons head front =>
      obtain ⟨rfl, -⟩ := List.cons.inj split
      exact absurd (skipped delivery List.mem_cons_self) ends

/-- A skipped message is followed by another read. -/
theorem timely_cons_of_skipped (reaches : delivery.time ≤ now + timeout)
    (skips : delivery.Skipped) :
    Timely timeout startupDeadline now (delivery :: rest) ↔
      delivery.time ≤ startupDeadline ∧
        Timely timeout startupDeadline (max now delivery.time) rest := by
  constructor
  · intro timely
    refine ⟨timely [] delivery rest rfl (by simp) ⟨reaches, trivial⟩ (.inl skips), ?_⟩
    intro front next after split skipped reached
    exact timely (delivery :: front) next after (by rw [split, List.cons_append])
      (List.forall_mem_cons.mpr ⟨skips, skipped⟩) ⟨reaches, reached⟩
  · rintro ⟨punctual, timely⟩ front next after split skipped reached taken
    cases front with
    | nil =>
      obtain ⟨rfl, -⟩ := List.cons.inj split
      exact punctual
    | cons head front =>
      obtain ⟨rfl, rfl⟩ := List.cons.inj split
      exact timely front next after rfl (List.forall_mem_cons.mp skipped).2 reached.2 taken

end Timely

theorem waitForSdpAnswer_reads (timeout now : Nat) (earlyCandidates : List String)
    (deliveries : List Delivery) :
    now ∈ (waitForSdpAnswer timeout now earlyCandidates deliveries).reads := by
  cases deliveries with
  | nil => simp [waitForSdpAnswer]
  | cons delivery rest =>
    unfold waitForSdpAnswer
    simp only
    repeat' split
    all_goals simp

/-- A wait of one read. -/
theorem oneDeadline_single {startupDeadline now ended : Nat} (before : now ≤ startupDeadline)
    (result : Except AnswerError SignalingAnswer) :
    OneDeadline startupDeadline { result := result, ended := ended, reads := [now] } ↔
      (startupDeadline < ended → ∃ error, result = .error error) := by
  constructor
  · exact OneDeadline.ends
  · exact fun ends => ⟨by simpa using before, ends⟩

/-- One more read before a wait. -/
theorem oneDeadline_cons {startupDeadline now : Nat} (before : now ≤ startupDeadline)
    (wait : AnswerWait) :
    OneDeadline startupDeadline { wait with reads := now :: wait.reads } ↔
      OneDeadline startupDeadline wait := by
  constructor
  · exact fun one => ⟨(List.forall_mem_cons.mp one.reads).2, one.ends⟩
  · exact fun one => ⟨List.forall_mem_cons.mpr ⟨before, one.reads⟩, one.ends⟩

/-- From any moment before the deadline on. -/
theorem waitForSdpAnswer_oneDeadline_iff {timeout startupDeadline now : Nat}
    (before : now ≤ startupDeadline) (earlyCandidates : List String)
    (deliveries : List Delivery) :
    OneDeadline startupDeadline (waitForSdpAnswer timeout now earlyCandidates deliveries) ↔
      Timely timeout startupDeadline now deliveries := by
  induction deliveries generalizing now earlyCandidates with
  | nil =>
    rw [waitForSdpAnswer, oneDeadline_single before]
    exact iff_of_true (fun _ => ⟨_, rfl⟩) timely_nil
  | cons delivery rest hypothesis =>
    rw [waitForSdpAnswer]
    by_cases reaches : delivery.time ≤ now + timeout
    · rw [if_pos reaches]
      rcases received : delivery.result with error | message
      · have silent : ¬delivery.Skipped ∧ ¬delivery.Answers := by
          simp [Delivery.Skipped, Delivery.Answers, received]
        rw [timely_cons_of_not_skipped reaches silent.1]
        simp only
        rw [oneDeadline_single before]
        exact iff_of_true (fun _ => ⟨_, rfl⟩) fun answers => absurd answers silent.2
      · rcases answerStep_cases message with skips | answers | ⟨error, fails⟩
        · obtain ⟨candidates, step⟩ := skips earlyCandidates
          obtain ⟨first, skipped⟩ := skips []
          rw [timely_cons_of_skipped reaches ⟨message, first, received, skipped⟩]
          simp only [step]
          rw [oneDeadline_cons before]
          by_cases punctual : delivery.time ≤ startupDeadline
          · rw [hypothesis (max_le before punctual) candidates]
            exact (and_iff_right punctual).symm
          · refine iff_of_false (fun one => ?_) fun timely => punctual timely.1
            have begun := one.reads _ (waitForSdpAnswer_reads timeout _ candidates rest)
            exact punctual ((le_max_right _ _).trans begun)
        · obtain ⟨answer, step⟩ := answers earlyCandidates
          obtain ⟨first, taken⟩ := answers []
          have ends : ¬delivery.Skipped := by
            simp [Delivery.Skipped, received, taken]
          have takes : delivery.Answers := ⟨message, first, received, taken⟩
          rw [timely_cons_of_not_skipped reaches ends]
          simp only [step]
          rw [oneDeadline_single before]
          constructor
          · intro ends _
            by_contra late
            obtain ⟨error, impossible⟩ := ends (lt_max_of_lt_right (not_le.mp late))
            cases impossible
          · exact fun punctual past => absurd past (max_le before (punctual takes)).not_gt
        · have silent : ¬delivery.Skipped ∧ ¬delivery.Answers := by
            simp [Delivery.Skipped, Delivery.Answers, received, fails]
          rw [timely_cons_of_not_skipped reaches silent.1]
          simp only [fails]
          rw [oneDeadline_single before]
          exact iff_of_true (fun _ => ⟨_, rfl⟩) fun answers => absurd answers silent.2
    · rw [if_neg reaches, oneDeadline_single before]
      exact iff_of_true (fun _ => ⟨_, rfl⟩) (timely_of_late reaches)

/-- Nothing that a handshake's wait skips or takes for the answer is delivered to it after the
deadline. A wait that is begun too late reads nothing. -/
def AnswersInTime (startupDeadline now : Nat) (deliveries : List Delivery) : Prop :=
  now < startupDeadline → Timely (startupDeadline - now) startupDeadline now deliveries

theorem awaitAnswer_oneDeadline_iff (late : String) (startupDeadline now : Nat)
    (deliveries : List Delivery) :
    OneDeadline startupDeadline (awaitAnswer late startupDeadline now deliveries) ↔
      AnswersInTime startupDeadline now deliveries := by
  unfold awaitAnswer
  rcases Nat.lt_trichotomy startupDeadline now with past | rfl | before
  · rw [if_pos past]
    refine iff_of_true ⟨by simp, fun _ => ⟨_, rfl⟩⟩ fun before => absurd before past.asymm
  · rw [if_neg (Nat.lt_irrefl _), if_pos rfl]
    refine iff_of_true ⟨by simp, fun _ => ⟨_, rfl⟩⟩ fun before => absurd before (Nat.lt_irrefl _)
  · rw [if_neg before.asymm, if_neg before.ne', waitForSdpAnswer_oneDeadline_iff before.le]
    exact ⟨fun timely _ => timely, fun punctual => punctual before⟩

/-- One startup deadline covers the wait for the SDP answer exactly when nothing that the wait
skips or takes for the answer is delivered after it: the timeout is computed once, before a loop
of reads. -/
theorem answer_wait_one_deadline_iff (startupDeadline now : Nat) (deliveries : List Delivery) :
    (OneDeadline startupDeadline (publisherAnswer startupDeadline now deliveries) ↔
      AnswersInTime startupDeadline now deliveries) ∧
    (OneDeadline startupDeadline (subscriberAnswer startupDeadline now deliveries) ↔
      AnswersInTime startupDeadline now deliveries) :=
  ⟨awaitAnswer_oneDeadline_iff _ _ _ _, awaitAnswer_oneDeadline_iff _ _ _ _⟩

/-- A text just before the deadline and another one after it, neither of which can be parsed. -/
def unparsableTexts : List Delivery := [⟨9, .ok (.text none)⟩, ⟨15, .ok (.text none)⟩]

theorem answer_read_after_deadline :
    (publisherAnswer 10 0 unparsableTexts).reads = [0, 9, 15] ∧
      (subscriberAnswer 10 0 unparsableTexts).reads = [0, 9, 15] ∧
      ¬OneDeadline 10 (publisherAnswer 10 0 unparsableTexts) ∧
      ¬OneDeadline 10 (subscriberAnswer 10 0 unparsableTexts) := by
  have publisher : (publisherAnswer 10 0 unparsableTexts).reads = [0, 9, 15] := by decide
  have subscriber : (subscriberAnswer 10 0 unparsableTexts).reads = [0, 9, 15] := by decide
  refine ⟨publisher, subscriber, fun one => ?_, fun one => ?_⟩
  · exact absurd (one.reads 15 (by simp [publisher])) (by decide)
  · exact absurd (one.reads 15 (by simp [subscriber])) (by decide)

end RelayConnector
