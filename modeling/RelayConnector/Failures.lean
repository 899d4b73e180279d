/-
This file proves which failures of a Relay audio source are observed: by `runtime_failures_total`
for an error of `next`, and by `startup_failures_total` and `closed` for an error of `prepare`.

A failed poll or decode and a missing frame are counted where `next` returns their error. The
errors of `emission` leave `next` by a bare question mark and are not counted. In `prepare` every
error behind the reservation goes through `fail_startup`.
-/

import RelayConnector.Continuity
import RelayConnector.Reservations

namespace RelayConnector

open Words

/-! ### The driver with its reservation -/

namespace SourceDriver

variable (driver : SourceDriver)

/-- `close`, with the answer of the connection if there is one. -/
def close (connection : Option (Except String Unit)) : SourceDriver × Except String Unit :=
  (driver.observeClosed, connection.getD (.ok ()))

/-- Calls of `close`, one after the other. -/
def closeAll (connections : List (Option (Except String Unit))) : SourceDriver :=
  connections.foldl (fun driver connection => (driver.close connection).1) driver

end SourceDriver

/-- `prepare`. -/
def RelayAudioBusSourceFactory.prepare (factory : RelayAudioBusSourceFactory)
    (driver : SourceDriver) (session : Option Nat) (answers : SourceDriver.StartupAnswers)
    (turns : List SourceTurn) :
    RelayAudioBusSourceFactory × SourceDriver × Option (Except String Unit) :=
  match factory.consume session with
  | (factory, .error message) => (factory, driver, some (.error message))
  | (factory, .ok pending) => (factory, driver.startUp pending.observations answers turns)

/-! ### The totals of failures -/

structure FailureTotals where
  runtimeFailuresTotal : Nat
  startupFailuresTotal : Nat
  closedTotal : Nat
  closed : Bool

def ObservationState.failureTotals (totals : ObservationState) : FailureTotals where
  runtimeFailuresTotal := totals.runtimeFailuresTotal
  startupFailuresTotal := totals.startupFailuresTotal
  closedTotal := totals.closedTotal
  closed := totals.closed

namespace SourceDriver

variable {driver : SourceDriver}

theorem receive_failureTotals (encoded : ReceivedOpusFrame) :
    (driver.receive encoded).observations.failureTotals = driver.observations.failureTotals := by
  unfold receive
  dsimp only [observe, enter]
  split <;> split <;> rfl

theorem decode_failureTotals (turn : SourceTurn) (encoded : ReceivedOpusFrame) :
    (driver.decode turn encoded).1.observations.failureTotals =
      driver.observations.failureTotals := by
  refine Eq.trans ?_ (receive_failureTotals encoded)
  unfold decode
  dsimp only
  split
  · rfl
  split <;> rfl

theorem emission_failureTotals (turn : SourceTurn) (decoded : DecodedFrame) :
    (driver.emission turn decoded).1.observations.failureTotals =
      driver.observations.failureTotals := by
  unfold emission
  split <;> rfl

/-! ### Errors of `next` -/

/-- The result of a call of `next` is observed: an error once, and nothing else. -/
def Observed {Result : Type} (before after : SourceDriver) (result : Except String Result) : Prop :=
  after.observations.runtimeFailuresTotal =
    match result with
    | .error _ => wrappingAdd before.observations.runtimeFailuresTotal 1
    | .ok _ => before.observations.runtimeFailuresTotal

end SourceDriver

/-- Nothing stops the emission of a frame. -/
structure SourceTurn.Emits (turn : SourceTurn) : Prop where
  output : turn.output = true
  acquire : turn.acquire = true
  copy : turn.copy = .ok ()
  audioFrame : turn.audioFrame = .ok ()
  lineage : turn.lineage = .ok ()
  timing : turn.timing = .ok ()

/-- The turn in which the loop of `next` presents a frame to `emission`: the first in which a frame
is received and decoded and the pool has a slot, unless the loop ends before. -/
def presentedTurn : List SourceTurn → Option SourceTurn
  | [] => none
  | turn :: rest =>
    if turn.cancelled then none
    else
      match turn.poll, turn.decode with
      | .error _, _ => none
      | .ok none, _ => if turn.starved then none else presentedTurn rest
      | .ok (some _), .error _ => none
      | .ok (some _), .ok samples =>
        if samples ≠ maxPacketSamples then none
        else if turn.available then some turn
        else presentedTurn rest

/-- The frame of `prepare` is presented at once. -/
def SourceDriver.presents (driver : SourceDriver) (turns : List SourceTurn) : Option SourceTurn :=
  match driver.pendingFrame with
  | none => presentedTurn turns
  | some _ => turns.head?

namespace SourceDriver

variable {driver : SourceDriver}

theorem emissionAnswer_eq_ok {turn : SourceTurn} : emissionAnswer turn = .ok () ↔ turn.Emits := by
  have sequence : ∀ {first next : Except String Unit},
      (first >>= fun _ => next) = .ok () ↔ first = .ok () ∧ next = .ok () := by
    intro first next
    cases first <;> simp [bind, Except.bind]
  have guarded : ∀ {condition : Bool} {message : String} {rest : Except String Unit},
      (if !condition then (Except.error message >>= fun _ : Unit => rest) else rest) = .ok () ↔
        condition = true ∧ rest = .ok () := by
    intro condition message rest
    cases condition <;> simp [bind, Except.bind]
  unfold emissionAnswer
  simp only [guarded, sequence]
  exact ⟨fun ⟨output, acquire, copy, audioFrame, lineage, timing⟩ =>
      ⟨output, acquire, copy, audioFrame, lineage, timing⟩,
    fun ⟨output, acquire, copy, audioFrame, lineage, timing⟩ =>
      ⟨output, acquire, copy, audioFrame, lineage, timing⟩⟩

theorem wrappingAdd_one_ne (total : Nat) : wrappingAdd total 1 ≠ total := by
  unfold wrappingAdd
  omega

variable {before after : SourceDriver} {result : Except String (Option DecodedFrame)}

/-- The result of `emission` is observed exactly if it is no error. -/
theorem emission_observed_iff (turn : SourceTurn) (decoded : DecodedFrame)
    (same : driver.observations.failureTotals = before.observations.failureTotals) :
    Observed before (driver.emission turn decoded).1 (driver.emission turn decoded).2 ↔
      turn.Emits := by
  have kept := congrArg FailureTotals.runtimeFailuresTotal
    ((emission_failureTotals turn decoded).trans same)
  rw [← emissionAnswer_eq_ok]
  unfold emission at kept ⊢
  split
  next message failed =>
    rw [failed] at kept ⊢
    exact iff_of_false (fun observed => wrappingAdd_one_ne _ (observed.symm.trans kept)) nofun
  next emitted =>
    rw [emitted] at kept ⊢
    exact iff_of_true kept rfl

theorem observed_failure {Result : Type}
    (same : driver.observations.failureTotals = before.observations.failureTotals)
    (message : String) :
    Observed before driver.observeRuntimeFailure (.error message : Except String Result) := by
  have total : driver.observations.runtimeFailuresTotal =
      before.observations.runtimeFailuresTotal :=
    congrArg FailureTotals.runtimeFailuresTotal same
  show wrappingAdd driver.observations.runtimeFailuresTotal 1 = _
  rw [total]

theorem observed_ok {Result : Type}
    (same : driver.observations.failureTotals = before.observations.failureTotals)
    (value : Result) : Observed before driver (.ok value) :=
  congrArg FailureTotals.runtimeFailuresTotal same

/-- Whether a result is observed does not depend on how the frame in it is wrapped. -/
theorem observed_map {Result Other : Type} (wrap : Result → Other) (result : Except String Result) :
    Observed before driver (result.map wrap) ↔ Observed before driver result := by
  cases result <;> rfl

/-- What a round of the loop of `next` can do, if `presented` is the turn that the loop presents
from this round on: it goes on to `rest` and has counted no failure, or it returns. -/
inductive RoundEnds (before : SourceDriver) (rest : List SourceTurn)
    (presented : Option SourceTurn) :
    SourceDriver × Option (Except String (Option DecodedFrame)) → Prop
  | goesOn {after : SourceDriver}
      (same : after.observations.failureTotals = before.observations.failureTotals)
      (later : presented = presentedTurn rest) : RoundEnds before rest presented (after, none)
  | returns {after : SourceDriver} {result : Except String (Option DecodedFrame)}
      (observed : Observed before after result ↔ ∀ turn, presented = some turn → turn.Emits) :
      RoundEnds before rest presented (after, some result)

/-- A round that returns without a call of `emission`. -/
theorem RoundEnds.unpresented {rest : List SourceTurn} (observed : Observed before after result) :
    RoundEnds before rest none (after, some result) :=
  .returns (iff_of_true observed fun _ absent => absurd absent.symm (Option.some_ne_none _))

/-- The end of a round that has decoded a frame. -/
theorem emissionOrDrop_ends (turn : SourceTurn) (rest : List SourceTurn) (decoded : DecodedFrame)
    (same : driver.observations.failureTotals = before.observations.failureTotals) :
    RoundEnds before rest (if turn.available then some turn else presentedTurn rest)
      (match driver.emissionOrDrop turn decoded with
      | (driver, .error message) => (driver, some (.error message))
      | (driver, .ok (some emission)) => (driver, some (.ok (some emission)))
      | (driver, .ok none) => (driver, none)) := by
  unfold emissionOrDrop
  by_cases available : turn.available = true
  · have emitted := emission_observed_iff turn decoded same
    simp only [available, Bool.not_true, Bool.false_eq_true, if_false, if_true]
    generalize driver.emission turn decoded = emission at emitted
    obtain ⟨last, outcome⟩ := emission
    cases outcome with
    | error message => exact .returns (emitted.trans (by simp))
    | ok frame => exact .returns (emitted.trans (by simp))
  · simp only [available, Bool.not_false, Bool.false_eq_true, if_true, if_false]
    exact .goesOn same rfl

theorem round_ends (noFrameTimeoutMs : Nat) (turn : SourceTurn) (rest : List SourceTurn)
    (same : driver.observations.failureTotals = before.observations.failureTotals) :
    RoundEnds before rest (presentedTurn (turn :: rest)) (driver.round noFrameTimeoutMs turn) := by
  unfold round presentedTurn
  by_cases cancelled : turn.cancelled = true
  · simp only [cancelled, if_true]
    exact .unpresented (observed_ok same none)
  simp only [cancelled, Bool.false_eq_true, if_false]
  cases polled : turn.poll with
  | error message => exact .unpresented (observed_failure same message)
  | ok received =>
    cases received with
    | none =>
      by_cases starved : turn.starved = true
      · simp only [starved, if_true]
        exact .unpresented (observed_failure same _)
      · simp only [starved, Bool.false_eq_true, if_false]
        exact .goesOn same rfl
    | some encoded =>
      have received := (decode_failureTotals turn encoded).trans same
      unfold decode at received ⊢
      cases samples : turn.decode with
      | error message =>
        simp only [samples] at received ⊢
        exact .unpresented (observed_failure received message)
      | ok count =>
        by_cases other : count ≠ maxPacketSamples
        · simp only [samples, if_pos other] at received ⊢
          exact .unpresented (observed_failure received _)
        · simp only [samples, if_neg other] at received ⊢
          exact emissionOrDrop_ends turn rest _ received

/-- The loop of `next`, by induction on its rounds. -/
theorem poll_observed_iff {noFrameTimeoutMs : Nat} {turns : List SourceTurn}
    (same : driver.observations.failureTotals = before.observations.failureTotals)
    (returned : driver.poll noFrameTimeoutMs turns = (after, some result)) :
    Observed before after result ↔ ∀ turn, presentedTurn turns = some turn → turn.Emits := by
  induction turns generalizing driver with
  | nil => cases returned
  | cons turn rest hypothesis =>
    have ends := round_ends noFrameTimeoutMs turn rest same
    unfold poll at returned
    generalize driver.round noFrameTimeoutMs turn = round at returned ends
    cases ends with
    | goesOn same later =>
      rw [later]
      exact hypothesis same returned
    | returns observed =>
      cases returned
      exact observed

theorem next_observed_iff {noFrameTimeoutMs : Nat} {turns : List SourceTurn}
    (returned : driver.next noFrameTimeoutMs turns = (after, some result)) :
    Observed driver after result ↔
      ∀ turn, driver.presents turns = some turn → turn.Emits := by
  unfold next at returned
  unfold presents
  cases pending : driver.pendingFrame with
  | none =>
    simp only [pending] at returned
    exact poll_observed_iff rfl returned
  | some decoded =>
    simp only [pending] at returned
    cases turns with
    | nil => cases returned
    | cons turn rest =>
      cases returned
      rw [observed_map]
      exact (emission_observed_iff turn decoded rfl).trans (by simp)

/-! ### Errors of `prepare` -/

/-- A startup has failed: it is counted once, and the source is closed once. -/
structure StartupFailed (reserved : ObservationState) (driver : SourceDriver) : Prop where
  counted : driver.observations.startupFailuresTotal = wrappingAdd reserved.startupFailuresTotal 1
  closed : driver.observations.closed = true
  once : driver.observations.closedTotal = 1

theorem observeClosed_of_closed (closed : driver.observations.closed = true) :
    driver.observeClosed = driver := if_pos closed

/-- A source that is closed already is not closed again. -/
theorem StartupFailed.closeAll {reserved : ObservationState}
    (failed : StartupFailed reserved driver) (connections : List (Option (Except String Unit))) :
    StartupFailed reserved (driver.closeAll connections) := by
  induction connections with
  | nil => exact failed
  | cons connection rest hypothesis =>
    rw [SourceDriver.closeAll, List.foldl_cons, close, observeClosed_of_closed failed.closed]
    exact hypothesis

section Startup

variable {reserved : ObservationState} {after : SourceDriver} {message : String}
  (unclosed : reserved.closed = false) (uncounted : reserved.closedTotal = 0)
include unclosed uncounted

theorem failStartup_failed {other : String}
    (same : driver.observations.failureTotals = reserved.failureTotals)
    (failed : driver.failStartup message = (after, some (.error other))) :
    StartupFailed reserved after := by
  have started : driver.observations.startupFailuresTotal = reserved.startupFailuresTotal :=
    congrArg FailureTotals.startupFailuresTotal same
  have total : driver.observations.closedTotal = 0 :=
    (congrArg FailureTotals.closedTotal same).trans uncounted
  have closed : driver.observations.closed = false :=
    (congrArg FailureTotals.closed same).trans unclosed
  obtain ⟨rfl, -⟩ := Prod.mk.inj failed
  unfold observeClosed observe
  simp only [closed, Bool.false_eq_true, if_false]
  refine ⟨?_, rfl, ?_⟩
  · rw [started]
  · rw [total]
    rfl

theorem awaitFirst_failed {turns : List SourceTurn}
    (same : driver.observations.failureTotals = reserved.failureTotals)
    (failed : driver.awaitFirst turns = (after, some (.error message))) :
    StartupFailed reserved after := by
  induction turns generalizing driver with
  | nil => cases failed
  | cons turn rest hypothesis =>
    unfold awaitFirst at failed
    split at failed
    · exact failStartup_failed unclosed uncounted same failed
    split at failed
    · exact failStartup_failed unclosed uncounted same failed
    · exact hypothesis same failed
    next encoded _ =>
      have received := (decode_failureTotals turn encoded).trans same
      generalize driver.decode turn encoded = decoded at failed received
      obtain ⟨last, outcome⟩ := decoded
      cases outcome with
      | error text => exact failStartup_failed unclosed uncounted received failed
      | ok frame => cases failed

/-- Every error of a startup is counted, and it closes the source. -/
theorem startUp_failed {answers : StartupAnswers} {turns : List SourceTurn}
    (failed : driver.startUp reserved answers turns = (after, some (.error message))) :
    StartupFailed reserved after := by
  unfold startUp at failed
  dsimp only at failed
  split at failed
  · exact failStartup_failed unclosed uncounted rfl failed
  split at failed
  · exact failStartup_failed unclosed uncounted rfl failed
  split at failed
  · exact failStartup_failed unclosed uncounted rfl failed
  split at failed
  · exact failStartup_failed unclosed uncounted rfl failed
  · exact awaitFirst_failed unclosed uncounted rfl failed

end Startup

end SourceDriver

/-! ### Failures that are observed -/

namespace RelayAudioBusSourceFactory

/-- A reservation has the observations of a source that was never prepared. -/
theorem observations_of_made {calls : List Call} {sourceId : Nat} {pending : PendingSource}
    (made : Made sourceId pending (run calls).log) : pending.observations = {} := by
  induction calls using List.reverseRecOn with
  | nil => rcases made with member | member <;> cases member
  | append_singleton calls call hypothesis =>
    rw [run_concat] at made
    rcases made_of_step made with earlier | ⟨-, new⟩
    · exact hypothesis earlier
    · rw [new]

theorem observations_of_consume {calls : List Call} {session : Option Nat}
    {pending : PendingSource} (consumed : ((run calls).consume session).2 = .ok pending) :
    pending.observations = {} := by
  unfold consume at consumed
  split at consumed
  · cases consumed
  next sourceId =>
    split at consumed
    · cases consumed
    next found pendingHere =>
      cases consumed
      exact observations_of_made ((Sound.run calls).reserved pendingHere)

/-- A call of `next` that returns is observed as its result demands exactly if nothing stops the
emission of a frame that it presents. A `prepare` that returns an error after it has consumed its
reservation is counted once and closes the source once, also if `close` is called afterwards. -/
theorem receive_failures_observed_iff (driver : SourceDriver) (turns : List SourceTurn) :
    (∀ (after : SourceDriver) (noFrameTimeoutMs : Nat)
      (result : Except String (Option DecodedFrame)),
      driver.next noFrameTimeoutMs turns = (after, some result) →
      (driver.Observed after result ↔
        ∀ turn, driver.presents turns = some turn → turn.Emits)) ∧
    ∀ (calls : List Call) (session : Option Nat) (pending : PendingSource)
      (after : SourceDriver) (answers : SourceDriver.StartupAnswers)
      (factory : RelayAudioBusSourceFactory) (message : String),
      ((run calls).consume session).2 = .ok pending →
      (run calls).prepare driver session answers turns = (factory, after, some (.error message)) →
      SourceDriver.StartupFailed pending.observations after ∧
        ∀ connections, SourceDriver.StartupFailed pending.observations
          (after.closeAll connections) := by
  refine ⟨fun after noFrameTimeoutMs result returned =>
    SourceDriver.next_observed_iff returned, ?_⟩
  intro calls session pending after answers factory message consumed failed
  have fresh := observations_of_consume consumed
  unfold prepare at failed
  generalize (run calls).consume session = consumption at consumed failed
  obtain ⟨left, outcome⟩ := consumption
  obtain rfl : outcome = .ok pending := consumed
  obtain ⟨rfl, started⟩ := Prod.mk.inj failed
  have startup : SourceDriver.StartupFailed pending.observations after :=
    SourceDriver.startUp_failed (by rw [fresh]) (by rw [fresh]) started
  exact ⟨startup, startup.closeAll⟩

/-- A startup fails at its handshake, and a source emits the frame of its startup. -/
theorem receive_failures_observed_iff_handshake :
    let calls : List Call := [.bind 7 (sampleConfig "phone-microphone")]
    let refused := (run calls).prepare {} (some 7) { handshake := .error "refused" } []
    let driver := (SourceDriver.prepare {} [arrival 960 true]).1
    let called := driver.next 6000 [arrival 1920 true]
    refused.2.2 = some (.error "refused") ∧
      SourceDriver.StartupFailed {} (refused.2.1.closeAll [none, some (.ok ())]) ∧
      ∃ emission, called.2 = some (.ok (some emission)) ∧
        driver.Observed called.1 (.ok (some emission)) := by
  intro calls refused driver called
  have consumed : ((run calls).consume (some 7)).2 =
      .ok { config := sampleConfig "phone-microphone", declaration := 0 } := by
    decide +kernel
  have failed : (run calls).prepare {} (some 7) { handshake := .error "refused" } [] =
      (refused.1, refused.2.1, some (.error "refused")) := rfl
  have refusal := (receive_failures_observed_iff {} []).2 _ _ _ _ _ _ _ consumed failed
  refine ⟨rfl, refusal.2 _, ?_⟩
  obtain ⟨emission, emitted⟩ : ∃ emission, called.2 = some (.ok (some emission)) := ⟨_, rfl⟩
  have returned : driver.next 6000 [arrival 1920 true] = (called.1, some (.ok (some emission))) :=
    Prod.ext rfl emitted
  refine ⟨emission, emitted, ((receive_failures_observed_iff _ _).1 _ _ _ returned).mpr ?_⟩
  intro turn found
  obtain rfl := Option.some.inj (show some (arrival 1920 true) = some turn from found)
  exact ⟨rfl, rfl, rfl, rfl, rfl, rfl⟩

/-- A prepared source whose output port the Session does not know returns an error from `next`,
and no failure is counted. -/
theorem missing_output_not_observed :
    let prepared := SourceDriver.prepare {} [arrival 960 true]
    let called := prepared.1.next 6000 [{ arrival 1920 true with output := false }]
    prepared.2 = some (.ok ()) ∧
      called.2 = some (.error "Relay AudioBus output identity is absent") ∧
      called.1.observations.runtimeFailuresTotal = 0 ∧
      prepared.1.observations.runtimeFailuresTotal = 0 := by
  refine ⟨rfl, rfl, rfl, rfl⟩

end RelayAudioBusSourceFactory

end RelayConnector
