/-
This file models the reservations of Relay audio sources, `RelayAudioBusSources` and
`RelayAudioBusSourceFactory` of `source.rs`: `declare` puts a configuration aside under the source
id that Core gave out, and the `prepare` of a driver takes it.

What happens under the mutex is one step. A call of `declare` makes up to two such steps, and other
calls may come between them, so a run is any sequence of steps. The log has what each step did,
newest first.
-/

import RelayConnector.Source
import RelayConnector.Configuration
import Mathlib.Data.List.Induction
import Mathlib.Logic.Function.Basic

namespace RelayConnector

/-! ### Configurations -/

structure RelayAudioBusSourceConfig where
  relayUrl : String
  relaySessionId : String
  busId : String
  /-- `RelaySubscriberToken`. -/
  subscriberToken : String
  sourceGeneration : Nat
  /-- In nanoseconds, like `noFrameTimeout`. -/
  startupTimeout : Nat := 10 * 1000000000
  noFrameTimeout : Nat := 6 * 1000000000
  iceServers : List RelayIceServer := []
  deriving DecidableEq, Repr

/-- `RelayAudioBusSourceError`, without the error of a poisoned mutex. -/
inductive RelayAudioBusSourceError where
  | invalidConfiguration (message : String)
  | manifest (message : String)
  | session (message : String)
  | wrongSession
  | reservationConflict
  deriving DecidableEq, Repr

def validateBoundedIdentity (field value : String) (maximumBytes : Nat) :
    Except RelayAudioBusSourceError Unit :=
  if value = "" || !isTrimmed value || maximumBytes < value.utf8ByteSize then
    .error (.invalidConfiguration (field ++ " must be non-empty, trimmed, and at most " ++
      toString maximumBytes ++ " bytes"))
  else .ok ()

def RelayAudioBusSourceConfig.validate (config : RelayAudioBusSourceConfig) :
    Except RelayAudioBusSourceError Unit := do
  validateBoundedIdentity "relay_url" config.relayUrl 2048
  if !(config.relayUrl.startsWith "http://" || config.relayUrl.startsWith "https://") then
    .error (.invalidConfiguration "relay_url must use http:// or https://")
  validateBoundedIdentity "relay_session_id" config.relaySessionId 256
  validateBoundedIdentity "bus_id" config.busId 128
  if config.subscriberToken = "" then
    .error (.invalidConfiguration "subscriber_token cannot be empty")
  if config.sourceGeneration = 0 then
    .error (.invalidConfiguration "source_generation must be non-zero")
  if config.startupTimeout = 0 ∨ config.noFrameTimeout = 0 then
    .error (.invalidConfiguration "startup_timeout and no_frame_timeout must be non-zero")

/-- `PendingSource`, with the number of the call of `declare` that made it. -/
structure PendingSource where
  config : RelayAudioBusSourceConfig
  observations : ObservationState := {}
  declaration : Nat
  deriving DecidableEq, Repr

/-! ### The map of reservations -/

inductive ReservationEvent where
  /-- `bind` returned `Ok`. -/
  | bound (sourceId : Nat) (pending : PendingSource)
  /-- `bind` returned an error. -/
  | refused (sourceId : Nat) (pending : PendingSource)
  | cancelled (sourceId : Nat) (declaration : Nat)
  /-- The `prepare` of a driver took a reservation. -/
  | consumed (sourceId : Nat) (pending : PendingSource)
  deriving DecidableEq, Repr

/-- A step consumed the reservation of a declaration. -/
def ReservationEvent.consumes (declaration : Nat) : ReservationEvent → Bool
  | .consumed _ pending => pending.declaration == declaration
  | _ => false

/-- A step removed what was under a source id. -/
def ReservationEvent.removes (sourceId : Nat) : ReservationEvent → Bool
  | .consumed other _ | .cancelled other _ => other == sourceId
  | _ => false

/-- `RelayAudioBusSourceFactory`, with the number of calls of `bind` so far. -/
structure RelayAudioBusSourceFactory where
  pending : Nat → Option PendingSource := fun _ => none
  declared : Nat := 0
  log : List ReservationEvent := []

namespace RelayAudioBusSourceFactory

variable (factory : RelayAudioBusSourceFactory)

/-- The map of reservations has another entry, or none, under a source id. -/
def store (sourceId : Nat) (entry : Option PendingSource) (event : ReservationEvent) :
    RelayAudioBusSourceFactory :=
  { factory with
    pending := Function.update factory.pending sourceId entry
    log := event :: factory.log }

/-- `bind`: the conflict is found when the entry has been replaced. -/
def bind (sourceId : Nat) (pending : PendingSource) :
    RelayAudioBusSourceFactory × Except RelayAudioBusSourceError Unit :=
  if (factory.pending sourceId).isSome then
    (factory.store sourceId (some pending) (.refused sourceId pending),
      .error .reservationConflict)
  else (factory.store sourceId (some pending) (.bound sourceId pending), .ok ())

/-- `cancel`, as it is called by a declaration. -/
def cancel (sourceId declaration : Nat) : RelayAudioBusSourceFactory :=
  factory.store sourceId none (.cancelled sourceId declaration)

/-- The `bind` of one call of `declare`. -/
def reserve (sourceId : Nat) (config : RelayAudioBusSourceConfig) :
    RelayAudioBusSourceFactory × Except RelayAudioBusSourceError Unit :=
  { factory with declared := factory.declared + 1 }.bind sourceId
    { config := config, declaration := factory.declared }

/-- The part of `prepare` that consumes the reservation, with the source id of the session. -/
def consume (session : Option Nat) :
    RelayAudioBusSourceFactory × Except String PendingSource :=
  match session with
  | none => (factory, .error "Relay AudioBus Source requires Session identity")
  | some sourceId =>
    match factory.pending sourceId with
    | none => (factory, .error "Relay AudioBus Source reservation is absent or consumed")
    | some pending => (factory.store sourceId none (.consumed sourceId pending), .ok pending)

/-- What the Session answers to `declare`. -/
structure SessionAnswers where
  /-- `SourceTypeId::new` for the type of Relay audio sources. -/
  sourceType : Except String Unit := .ok ()
  /-- The id of the source that the Session made. -/
  source : Except String Nat
  output : Except String Unit := .ok ()

/-- `declare`, with nothing between its steps. It returns the number of the declaration, by which
the observations of its handle are known. -/
def declare (coreSessionId sessionId : Nat) (config : RelayAudioBusSourceConfig)
    (answers : SessionAnswers) :
    RelayAudioBusSourceFactory × Except RelayAudioBusSourceError Nat :=
  if sessionId ≠ coreSessionId then (factory, .error .wrongSession)
  else
    match config.validate, answers.sourceType, answers.source with
    | .error error, _, _ => (factory, .error error)
    | .ok (), .error message, _ => (factory, .error (.manifest message))
    | .ok (), .ok (), .error message => (factory, .error (.session message))
    | .ok (), .ok (), .ok sourceId =>
      match factory.reserve sourceId config with
      | (factory, .error error) => (factory, .error error)
      | (after, .ok ()) =>
        match answers.output with
        | .error message => (after.cancel sourceId factory.declared, .error (.session message))
        | .ok () => (after, .ok factory.declared)

/-- What is done under the mutex. -/
inductive Call where
  | bind (sourceId : Nat) (config : RelayAudioBusSourceConfig)
  | cancel (sourceId declaration : Nat)
  | consume (session : Option Nat)
  deriving DecidableEq, Repr

def step : Call → RelayAudioBusSourceFactory
  | .bind sourceId config => (factory.reserve sourceId config).1
  | .cancel sourceId declaration => factory.cancel sourceId declaration
  | .consume session => (factory.consume session).1

/-- The factory after a sequence of calls, from its installation on. -/
def run (calls : List Call) : RelayAudioBusSourceFactory := calls.foldl step {}

variable {factory}

@[simp] theorem run_concat (calls : List Call) (call : Call) :
    run (calls ++ [call]) = (run calls).step call := by
  rw [run, List.foldl_append]
  rfl

/-- The steps of a call of `declare` are calls of a run. -/
theorem declare_run (calls : List Call) (coreSessionId sessionId : Nat)
    (config : RelayAudioBusSourceConfig) (answers : SessionAnswers) :
    ∃ more, ((run calls).declare coreSessionId sessionId config answers).1 =
      run (calls ++ more) := by
  unfold declare
  split
  · exact ⟨[], by rw [List.append_nil]⟩
  split
  · exact ⟨[], by rw [List.append_nil]⟩
  · exact ⟨[], by rw [List.append_nil]⟩
  · exact ⟨[], by rw [List.append_nil]⟩
  next sourceId _ _ _ =>
    have bound : ((run calls).reserve sourceId config).1 =
        run (calls ++ [.bind sourceId config]) :=
      (run_concat calls (.bind sourceId config)).symm
    split
    next after _ reserved =>
      rw [reserved] at bound
      exact ⟨_, bound⟩
    next after reserved =>
      rw [reserved] at bound
      split
      · refine ⟨[.bind sourceId config] ++ [.cancel sourceId (run calls).declared], ?_⟩
        rw [← List.append_assoc, run_concat, ← bound]
        rfl
      · exact ⟨_, bound⟩

/-! ### What a step can do -/

/-- The outcomes of a step: it reserves, whether an error is returned or not, it removes what is
under a source id, or it does nothing. -/
inductive Stepped (factory : RelayAudioBusSourceFactory) :
    Call → RelayAudioBusSourceFactory → Prop where
  | bound {sourceId : Nat} {config : RelayAudioBusSourceConfig} {pending : PendingSource}
      (free : factory.pending sourceId = none)
      (made : pending = { config := config, declaration := factory.declared }) :
      Stepped factory (.bind sourceId config)
        ({ factory with declared := factory.declared + 1 }.store sourceId (some pending)
          (.bound sourceId pending))
  | refused {sourceId : Nat} {config : RelayAudioBusSourceConfig} {pending older : PendingSource}
      (taken : factory.pending sourceId = some older)
      (made : pending = { config := config, declaration := factory.declared }) :
      Stepped factory (.bind sourceId config)
        ({ factory with declared := factory.declared + 1 }.store sourceId (some pending)
          (.refused sourceId pending))
  | cancelled (sourceId declaration : Nat) :
      Stepped factory (.cancel sourceId declaration)
        (factory.store sourceId none (.cancelled sourceId declaration))
  | consumed {sourceId : Nat} {pending : PendingSource}
      (found : factory.pending sourceId = some pending) :
      Stepped factory (.consume (some sourceId))
        (factory.store sourceId none (.consumed sourceId pending))
  | absent (session : Option Nat) : Stepped factory (.consume session) factory

theorem stepped (factory : RelayAudioBusSourceFactory) (call : Call) :
    Stepped factory call (factory.step call) := by
  cases call with
  | bind sourceId config =>
    unfold step reserve bind
    dsimp only
    cases found : factory.pending sourceId with
    | none => exact .bound found rfl
    | some older => exact .refused found rfl
  | cancel sourceId declaration => exact .cancelled sourceId declaration
  | consume session =>
    unfold step consume
    dsimp only
    split
    · exact .absent none
    next sourceId =>
      split
      · exact .absent (some sourceId)
      next pending found => exact .consumed found

theorem store_pending_self (sourceId : Nat) (entry : Option PendingSource)
    (event : ReservationEvent) : (factory.store sourceId entry event).pending sourceId = entry :=
  Function.update_self ..

variable {sourceId other : Nat} {event : ReservationEvent} {pending older : PendingSource}
  {calls : List Call}

theorem store_pending_of_ne (differs : other ≠ sourceId) (entry : Option PendingSource)
    (event : ReservationEvent) :
    (factory.store sourceId entry event).pending other = factory.pending other :=
  Function.update_of_ne differs ..

/-- What is pending after a step was put there by it, or is under another source id. -/
theorem pending_of_store {entry : Option PendingSource}
    (found : (factory.store sourceId entry event).pending other = some pending) :
    (other = sourceId ∧ entry = some pending) ∨
      (other ≠ sourceId ∧ factory.pending other = some pending) := by
  by_cases same : other = sourceId
  · subst same
    exact .inl ⟨rfl, (store_pending_self ..).symm.trans found⟩
  · exact .inr ⟨same, (store_pending_of_ne same ..).symm.trans found⟩

/-! ### What holds in every run -/

/-- A call of `bind` made a reservation, whatever it returned. -/
def Made (sourceId : Nat) (pending : PendingSource) (log : List ReservationEvent) : Prop :=
  .bound sourceId pending ∈ log ∨ .refused sourceId pending ∈ log

theorem made_cons_iff {log : List ReservationEvent}
    (entered : event = .bound sourceId pending ∨ event = .refused sourceId pending) :
    Made other older (event :: log) ↔
      (other = sourceId ∧ older = pending) ∨ Made other older log := by
  rcases entered with rfl | rfl
  all_goals
    simp only [Made, List.mem_cons, ReservationEvent.bound.injEq, ReservationEvent.refused.injEq,
      reduceCtorEq, false_or]
    tauto

theorem made_cons_of_removes {log : List ReservationEvent}
    (removes : event.removes sourceId = true) :
    Made other older (event :: log) ↔ Made other older log := by
  cases event with
  | bound | refused => cases removes
  | cancelled | consumed => simp only [Made, List.mem_cons, reduceCtorEq, false_or]

/-- Reservations are known by their declarations, and what is pending was neither consumed nor
removed since it was made. -/
structure Sound (factory : RelayAudioBusSourceFactory) : Prop where
  numbered : ∀ {sourceId pending}, Made sourceId pending factory.log →
    pending.declaration < factory.declared
  unique : ∀ {sourceId other pending same}, Made sourceId pending factory.log →
    Made other same factory.log → same.declaration = pending.declaration →
    other = sourceId ∧ same = pending
  reserved : ∀ {sourceId pending}, factory.pending sourceId = some pending →
    Made sourceId pending factory.log
  taken : ∀ {sourceId pending}, .consumed sourceId pending ∈ factory.log →
    Made sourceId pending factory.log
  unconsumed : ∀ {sourceId pending}, factory.pending sourceId = some pending →
    factory.log.countP (·.consumes pending.declaration) = 0
  once : ∀ declaration, factory.log.countP (·.consumes declaration) ≤ 1
  since : ∀ {sourceId pending later earlier}, factory.pending sourceId = some pending →
    factory.log = later ++ .bound sourceId pending :: earlier →
    ∀ event ∈ later, event.removes sourceId = false

namespace Sound

theorem unmade (sound : Sound factory) {sourceId : Nat} {pending : PendingSource}
    (new : pending.declaration = factory.declared) : ¬Made sourceId pending factory.log := by
  intro made
  have older := sound.numbered made
  omega

theorem countP_consumes_declared (sound : Sound factory) :
    factory.log.countP (·.consumes factory.declared) = 0 := by
  refine List.countP_eq_zero.mpr fun event member => ?_
  cases event with
  | consumed sourceId pending =>
    have older := sound.numbered (sound.taken member)
    rw [ReservationEvent.consumes, beq_iff_eq]
    omega
  | bound | refused | cancelled => exact Bool.false_ne_true

/-- A reservation is made, whatever was under its source id. -/
theorem reserve (sound : Sound factory) {sourceId : Nat} {pending : PendingSource}
    {event : ReservationEvent} (new : pending.declaration = factory.declared)
    (entered : event = .bound sourceId pending ∨ event = .refused sourceId pending) :
    Sound ({ factory with declared := factory.declared + 1 }.store sourceId (some pending)
      event) := by
  have made_cons : ∀ {other older}, Made other older (event :: factory.log) ↔
      (other = sourceId ∧ older = pending) ∨ Made other older factory.log := made_cons_iff entered
  have uncounted : ∀ declaration,
      (event :: factory.log).countP (·.consumes declaration) =
        factory.log.countP (·.consumes declaration) := by
    intro declaration
    rcases entered with rfl | rfl <;> exact List.countP_cons_of_neg Bool.false_ne_true
  have keeps : ∀ {other : Nat}, event.removes other = false := by
    intro other
    rcases entered with rfl | rfl <;> rfl
  refine ⟨?_, ?_, ?_, ?_, ?_, ?_, ?_⟩
  · intro other older made
    rcases made_cons.mp made with ⟨rfl, rfl⟩ | made
    · exact new ▸ Nat.lt_succ_self _
    · exact Nat.lt_succ_of_lt (sound.numbered made)
  · intro first second older same made other equal
    rcases made_cons.mp made with ⟨rfl, rfl⟩ | before
    · rcases made_cons.mp other with here | earlier
      · exact here
      · exact absurd earlier (sound.unmade (equal.trans new))
    · rcases made_cons.mp other with ⟨rfl, rfl⟩ | earlier
      · exact absurd before (sound.unmade (equal.symm.trans new))
      · exact sound.unique before earlier equal
  · intro other older found
    rcases pending_of_store found with ⟨rfl, ⟨⟩⟩ | ⟨-, before⟩
    · exact made_cons.mpr (.inl ⟨rfl, rfl⟩)
    · exact made_cons.mpr (.inr (sound.reserved before))
  · intro other older consumed
    refine made_cons.mpr (.inr (sound.taken ?_))
    rcases List.mem_cons.mp consumed with rfl | earlier
    · rcases entered with same | same <;> cases same
    · exact earlier
  · intro other older found
    refine (uncounted _).trans ?_
    rcases pending_of_store found with ⟨rfl, ⟨⟩⟩ | ⟨-, before⟩
    · exact new ▸ sound.countP_consumes_declared
    · exact sound.unconsumed before
  · exact fun declaration => (uncounted declaration).trans_le (sound.once declaration)
  · intro other older later earlier found split
    cases later with
    | nil => exact fun _ member => nomatch member
    | cons first rest =>
      obtain ⟨rfl, below⟩ := List.cons.inj split
      refine List.forall_mem_cons.mpr ⟨keeps, ?_⟩
      rcases pending_of_store found with ⟨rfl, ⟨⟩⟩ | ⟨-, before⟩
      · have member : .bound other pending ∈ factory.log := by
          rw [show factory.log = rest ++ .bound other pending :: earlier from below]
          exact List.mem_append_right _ (List.mem_cons_self ..)
        exact absurd (.inl member) (sound.unmade new)
      · exact sound.since before below

/-- What is under a source id is cancelled or consumed. -/
theorem remove (sound : Sound factory) {sourceId : Nat} {event : ReservationEvent}
    (entered : (∃ declaration, event = .cancelled sourceId declaration) ∨
      ∃ pending, event = .consumed sourceId pending ∧ factory.pending sourceId = some pending) :
    Sound (factory.store sourceId none event) := by
  have made_cons : ∀ {other older}, Made other older (event :: factory.log) ↔
      Made other older factory.log := by
    intro other older
    have removes : event.removes sourceId = true := by
      rcases entered with ⟨_, rfl⟩ | ⟨_, rfl, -⟩ <;> exact beq_self_eq_true sourceId
    exact made_cons_of_removes removes
  have remains : ∀ {other older}, (factory.store sourceId none event).pending other = some older →
      other ≠ sourceId ∧ factory.pending other = some older := by
    intro other older found
    exact (pending_of_store found).resolve_left fun here => nomatch here.2
  refine ⟨fun made => sound.numbered (made_cons.mp made),
    fun made other => sound.unique (made_cons.mp made) (made_cons.mp other),
    fun found => made_cons.mpr (sound.reserved (remains found).2), ?_, ?_, ?_, ?_⟩
  · intro other older consumed
    refine made_cons.mpr ?_
    rcases List.mem_cons.mp consumed with same | earlier
    · rcases entered with ⟨_, rfl⟩ | ⟨pending, rfl, found⟩
      · cases same
      · cases same
        exact sound.reserved found
    · exact sound.taken earlier
  · intro other older found
    obtain ⟨differs, remained⟩ := remains found
    refine (List.countP_cons_of_neg ?_).trans (sound.unconsumed remained)
    rcases entered with ⟨_, rfl⟩ | ⟨pending, rfl, under⟩
    · exact Bool.false_ne_true
    · rw [ReservationEvent.consumes, beq_iff_eq]
      intro equal
      exact differs (sound.unique (sound.reserved remained) (sound.reserved under) equal).1.symm
  · intro declaration
    rcases entered with ⟨_, rfl⟩ | ⟨pending, rfl, under⟩
    · exact (List.countP_cons_of_neg Bool.false_ne_true).trans_le (sound.once declaration)
    · by_cases same : pending.declaration = declaration
      · have counted : (ReservationEvent.consumed sourceId pending).consumes declaration = true :=
          beq_iff_eq.mpr same
        refine (List.countP_cons_of_pos counted).trans_le ?_
        rw [← same, sound.unconsumed under]
      · refine (List.countP_cons_of_neg ?_).trans_le (sound.once declaration)
        rwa [ReservationEvent.consumes, beq_iff_eq]
  · intro other older later earlier found split
    obtain ⟨differs, remained⟩ := remains found
    cases later with
    | nil => exact fun _ member => nomatch member
    | cons first rest =>
      obtain ⟨rfl, below⟩ := List.cons.inj split
      refine List.forall_mem_cons.mpr ⟨?_, sound.since remained below⟩
      rcases entered with ⟨_, rfl⟩ | ⟨pending, rfl, under⟩ <;>
        exact beq_eq_false_iff_ne.mpr (Ne.symm differs)

theorem step (sound : Sound factory) (call : Call) : Sound (factory.step call) := by
  have possible := factory.stepped call
  generalize factory.step call = after at possible
  cases possible with
  | bound free made => exact sound.reserve (by rw [made]) (.inl rfl)
  | refused found made => exact sound.reserve (by rw [made]) (.inr rfl)
  | cancelled sourceId declaration => exact sound.remove (.inl ⟨declaration, rfl⟩)
  | consumed found => exact sound.remove (.inr ⟨_, rfl, found⟩)
  | absent => exact sound

theorem run (calls : List Call) : Sound (run calls) := by
  induction calls using List.reverseRecOn with
  | nil =>
    refine ⟨?_, ?_, nofun, ?_, nofun, fun _ => Nat.zero_le _, nofun⟩
    · rintro _ _ (member | member) <;> cases member
    · rintro _ _ _ _ (member | member) <;> cases member
    · intro _ _ member
      cases member
  | append_singleton calls call hypothesis =>
    rw [run_concat]
    exact hypothesis.step call

end Sound

/-! ### Reservations are neither lost nor shared -/

/-- What the callers rely on, in a run of calls. -/
structure Kept (calls : List Call) : Prop where
  /-- A `bind` that returns an error leaves the map as it was. -/
  unchanged : ∀ before after sourceId config error,
    calls = before ++ .bind sourceId config :: after →
    ((run before).reserve sourceId config).2 = .error error →
    ((run before).reserve sourceId config).1.pending = (run before).pending
  /-- What was bound is consumed at most once, by a session with its source id. -/
  once : ∀ sourceId pending, .bound sourceId pending ∈ (run calls).log →
    (run calls).log.countP (·.consumes pending.declaration) ≤ 1 ∧
      ∀ other same, .consumed other same ∈ (run calls).log →
        same.declaration = pending.declaration → other = sourceId ∧ same = pending
  /-- What was bound is there until it is consumed or cancelled by its own declaration. -/
  available : ∀ before after sourceId pending later earlier, calls = before ++ after →
    (run before).log = later ++ .bound sourceId pending :: earlier →
    .consumed sourceId pending ∉ later → .cancelled sourceId pending.declaration ∉ later →
    (run before).pending sourceId = some pending

/-- A step finds under its source id what it expects: `bind` finds nothing, and `cancel` nothing
but the reservation of its own declaration. -/
def Expected (factory : RelayAudioBusSourceFactory) : Call → Prop
  | .bind sourceId _ => factory.pending sourceId = none
  | .cancel sourceId declaration => ∀ pending, factory.pending sourceId = some pending →
      pending.declaration = declaration
  | .consume _ => True

/-- Every step of a run finds what it expects. -/
def Undisturbed (calls : List Call) : Prop :=
  ∀ before call after, calls = before ++ call :: after → (run before).Expected call

theorem Undisturbed.of_append {more : List Call} (undisturbed : Undisturbed (calls ++ more)) :
    Undisturbed calls := by
  rintro before call after rfl
  exact undisturbed before call (after ++ more) (by rw [List.append_assoc, List.cons_append])

/-- The reservations that the log has left are there. -/
def Available (factory : RelayAudioBusSourceFactory) : Prop :=
  ∀ sourceId pending later earlier, factory.log = later ++ .bound sourceId pending :: earlier →
    .consumed sourceId pending ∉ later → .cancelled sourceId pending.declaration ∉ later →
    factory.pending sourceId = some pending

theorem Available.step (available : Available factory) {call : Call}
    (expected : factory.Expected call) : Available (factory.step call) := by
  have possible := factory.stepped call
  generalize factory.step call = after at possible
  -- An older reservation stays unless the step is about its source id.
  have older : ∀ {sourceId entry event other pending rest earlier declared},
      factory.log = rest ++ .bound other pending :: earlier →
      .consumed other pending ∉ event :: rest →
      .cancelled other pending.declaration ∉ event :: rest →
      (factory.pending sourceId = some pending → other ≠ sourceId) →
      ({ factory with declared := declared }.store sourceId entry event).pending other =
        some pending := by
    intro sourceId entry event other pending rest earlier declared split unconsumed uncancelled
      elsewhere
    have found := available other pending rest earlier split
      (fun member => unconsumed (List.mem_cons_of_mem _ member))
      fun member => uncancelled (List.mem_cons_of_mem _ member)
    refine (store_pending_of_ne ?_ ..).trans found
    rintro rfl
    exact elsewhere found rfl
  intro sourceId pending later earlier split unconsumed uncancelled
  cases possible with
  | absent => exact available sourceId pending later earlier split unconsumed uncancelled
  | @bound bound config new free made =>
    cases later with
    | nil =>
      obtain ⟨same, -⟩ := List.cons.inj split
      cases same
      exact store_pending_self ..
    | cons first rest =>
      obtain ⟨rfl, below⟩ := List.cons.inj split
      refine older below unconsumed uncancelled fun found => ?_
      cases free.symm.trans found
  | refused found made => cases (show factory.pending _ = none from expected).symm.trans found
  | cancelled cancelled declaration =>
    cases later with
    | nil => cases (List.cons.inj split).1
    | cons first rest =>
      obtain ⟨rfl, below⟩ := List.cons.inj split
      refine older below unconsumed uncancelled ?_
      rintro found rfl
      rw [expected pending found] at uncancelled
      exact uncancelled (List.mem_cons_self ..)
  | @consumed consumed taken found =>
    cases later with
    | nil => cases (List.cons.inj split).1
    | cons first rest =>
      obtain ⟨rfl, below⟩ := List.cons.inj split
      refine older below unconsumed uncancelled ?_
      rintro under rfl
      obtain rfl := Option.some.inj (found.symm.trans under)
      exact unconsumed (List.mem_cons_self ..)

theorem Undisturbed.available (undisturbed : Undisturbed calls) : Available (run calls) := by
  induction calls using List.reverseRecOn with
  | nil =>
    intro sourceId pending later earlier split
    cases later <;> cases split
  | append_singleton calls call hypothesis =>
    rw [run_concat]
    exact (hypothesis undisturbed.of_append).step (undisturbed calls call [] rfl)

theorem reserve_of_none (free : factory.pending sourceId = none)
    (config : RelayAudioBusSourceConfig) : (factory.reserve sourceId config).2 = .ok () := by
  unfold reserve bind
  simp only [free, Option.isSome_none, Bool.false_eq_true, if_false]

theorem Undisturbed.kept (undisturbed : Undisturbed calls) : Kept calls where
  unchanged before after sourceId config error split failed := by
    have free : (run before).pending sourceId = none := undisturbed before _ after split
    rw [reserve_of_none free] at failed
    cases failed
  once sourceId pending bound :=
    ⟨(Sound.run calls).once _, fun other same consumed equal =>
      (Sound.run calls).unique (.inl bound) ((Sound.run calls).taken consumed) equal⟩
  available before after sourceId pending later earlier split := by
    subst split
    exact undisturbed.of_append.available sourceId pending later earlier

/-- A `bind` that finds a reservation returns an error and puts the new one in its place. -/
theorem reserve_of_some (taken : factory.pending sourceId = some older)
    (config : RelayAudioBusSourceConfig) :
    (factory.reserve sourceId config).2 = .error .reservationConflict ∧
      (factory.reserve sourceId config).1.pending sourceId =
        some { config := config, declaration := factory.declared } := by
  unfold reserve bind
  simp only [taken, Option.isSome_some, if_true]
  exact ⟨trivial, store_pending_self ..⟩

theorem Kept.free {before after : List Call} {config : RelayAudioBusSourceConfig}
    (kept : Kept calls) (split : calls = before ++ .bind sourceId config :: after) :
    (run before).pending sourceId = none := by
  cases found : (run before).pending sourceId with
  | none => rfl
  | some older =>
    obtain ⟨failed, replaced⟩ := reserve_of_some found config
    rw [kept.unchanged before after sourceId config _ split failed, found] at replaced
    have earlier := (Sound.run before).numbered ((Sound.run before).reserved found)
    rw [Option.some.inj replaced] at earlier
    exact absurd earlier (Nat.lt_irrefl _)

/-- Without conflicts nothing was refused. -/
theorem refused_notMem_log
    (free : ∀ before after sourceId config, calls = before ++ .bind sourceId config :: after →
      (run before).pending sourceId = none) (sourceId : Nat) (pending : PendingSource) :
    .refused sourceId pending ∉ (run calls).log := by
  induction calls using List.reverseRecOn with
  | nil => exact List.not_mem_nil
  | append_singleton calls call hypothesis =>
    have before := hypothesis fun before after sourceId config split => by
      refine free before (after ++ [call]) sourceId config ?_
      rw [split, List.append_assoc, List.cons_append]
    have possible := (run calls).stepped call
    rw [run_concat]
    generalize (run calls).step call = last at possible
    cases possible with
    | refused taken => cases (free calls [] _ _ rfl).symm.trans taken
    | absent => exact before
    | bound | cancelled | consumed =>
      intro member
      rcases List.mem_cons.mp member with same | earlier
      · cases same
      · exact before earlier

theorem Kept.undisturbed (kept : Kept calls) : Undisturbed calls := by
  intro before call after split
  cases call with
  | bind sourceId config => exact kept.free split
  | consume session => trivial
  | cancel sourceId declaration =>
    intro pending found
    by_contra foreign
    have sound := Sound.run before
    have bound : .bound sourceId pending ∈ (run before).log := by
      rcases sound.reserved found with bound | refused
      · exact bound
      · refine absurd refused (refused_notMem_log (fun first last other config inside => ?_) _ _)
        have whole : calls = first ++ .bind other config ::
            (last ++ .cancel sourceId declaration :: after) := by
          rw [split, inside, List.append_assoc, List.cons_append]
        exact kept.free whole
    obtain ⟨later, earlier, log⟩ := List.append_of_mem bound
    have since := sound.since found log
    -- The cancelled reservation would still have to be there.
    have there := kept.available (before ++ [.cancel sourceId declaration]) after sourceId pending
      (.cancelled sourceId declaration :: later) earlier
      (by rw [split, List.append_assoc, List.singleton_append])
      (by rw [run_concat]; exact congrArg (List.cons _) log)
      (fun member => by
        rcases List.mem_cons.mp member with same | inside
        · cases same
        · exact absurd (since _ inside) (by simp [ReservationEvent.removes]))
      (fun member => by
        rcases List.mem_cons.mp member with same | inside
        · cases same
          exact foreign rfl
        · exact absurd (since _ inside) (by simp [ReservationEvent.removes]))
    rw [run_concat] at there
    cases (store_pending_self ..).symm.trans there

/-- Reservations are neither lost nor shared exactly in the runs in which no `bind` finds a
reservation under its source id and no `cancel` finds the reservation of another declaration. -/
theorem reservations_kept_iff (calls : List Call) : Kept calls ↔ Undisturbed calls :=
  ⟨Kept.undisturbed, Undisturbed.kept⟩

def sampleConfig (busId : String) : RelayAudioBusSourceConfig where
  relayUrl := "https://relay.example.test"
  relaySessionId := "session-7"
  busId := busId
  subscriberToken := "secret"
  sourceGeneration := 4

/-- The second `bind` under a source id returns an error, and the first reservation is lost: the
driver of that source gets the configuration that was refused. -/
theorem conflicting_bind_replaces :
    let calls : List Call := [.bind 7 (sampleConfig "first"), .bind 7 (sampleConfig "second")]
    (run calls).log.map (fun event => match event with
        | .bound _ pending => (true, pending.config.busId)
        | .refused _ pending => (false, pending.config.busId)
        | _ => (false, "")) = [(false, "second"), (true, "first")] ∧
      ((run calls).consume (some 7)).2 =
        .ok { config := sampleConfig "second", declaration := 1 } ∧
      ¬Kept calls := by
  intro calls
  refine ⟨by decide, by decide +kernel, fun kept => ?_⟩
  have free := kept.undisturbed [.bind 7 (sampleConfig "first")] _ [] rfl
  cases free

/-! ### Source ids that are given out once -/

/-- The source id of a `bind`. -/
def Call.boundId : Call → Option Nat
  | .bind sourceId _ => some sourceId
  | _ => none

theorem made_of_step {call : Call} (made : Made sourceId pending (factory.step call).log) :
    Made sourceId pending factory.log ∨
      call = .bind sourceId pending.config ∧
        pending = { config := pending.config, declaration := factory.declared } := by
  have possible := factory.stepped call
  generalize factory.step call = after at made possible
  cases possible with
  | absent => exact .inl made
  | bound _ new =>
    rcases (made_cons_iff (.inl rfl)).mp made with ⟨rfl, rfl⟩ | earlier
    · exact .inr (new ▸ ⟨rfl, rfl⟩)
    · exact .inl earlier
  | refused _ new =>
    rcases (made_cons_iff (.inr rfl)).mp made with ⟨rfl, rfl⟩ | earlier
    · exact .inr (new ▸ ⟨rfl, rfl⟩)
    · exact .inl earlier
  | cancelled | consumed => exact .inl ((made_cons_of_removes (beq_self_eq_true _)).mp made)

theorem mem_boundId_of_made (made : Made sourceId pending (run calls).log) :
    sourceId ∈ calls.filterMap Call.boundId := by
  induction calls using List.reverseRecOn with
  | nil => rcases made with member | member <;> cases member
  | append_singleton calls call hypothesis =>
    rw [run_concat] at made
    rw [List.filterMap_append, List.mem_append]
    rcases made_of_step made with earlier | ⟨rfl, -⟩
    · exact .inl (hypothesis earlier)
    · exact .inr (List.mem_singleton_self _)

/-- Under a source id that is given out once there is one reservation. -/
theorem made_unique (distinct : (calls.filterMap Call.boundId).Nodup) {first second : PendingSource}
    (one : Made sourceId first (run calls).log) (other : Made sourceId second (run calls).log) :
    first = second := by
  induction calls using List.reverseRecOn with
  | nil => rcases one with member | member <;> cases member
  | append_singleton calls call hypothesis =>
    rw [run_concat] at one other
    rw [List.filterMap_append] at distinct
    obtain ⟨before, -, apart⟩ := List.nodup_append.mp distinct
    have fresh : ∀ {config pending}, call = .bind sourceId config →
        ¬Made sourceId pending (run calls).log := by
      rintro config pending rfl made
      exact apart _ (mem_boundId_of_made made) _ (List.mem_singleton_self _) rfl
    rcases made_of_step one with earlier | ⟨bound, here⟩
    · rcases made_of_step other with older | ⟨again, -⟩
      · exact hypothesis before earlier older
      · exact absurd earlier (fresh again)
    · rcases made_of_step other with older | ⟨again, there⟩
      · exact absurd older (fresh bound)
      · rw [here, there, (Call.bind.inj (bound.symm.trans again)).2]

/-- Where Core gives out each source id once, and a declaration cancels only what it has bound,
every step finds what it expects. -/
theorem undisturbed_of_distinct (distinct : (calls.filterMap Call.boundId).Nodup)
    (own : ∀ before sourceId declaration after,
      calls = before ++ .cancel sourceId declaration :: after →
      ∃ pending, .bound sourceId pending ∈ (run before).log ∧
        pending.declaration = declaration) : Undisturbed calls := by
  intro before call after split
  have distinctBefore : (before.filterMap Call.boundId).Nodup := by
    rw [split, List.filterMap_append] at distinct
    exact (List.nodup_append.mp distinct).1
  cases call with
  | consume session => trivial
  | bind sourceId config =>
    cases found : (run before).pending sourceId with
    | none => exact found
    | some pending =>
      have earlier := mem_boundId_of_made ((Sound.run before).reserved found)
      rw [split, List.filterMap_append] at distinct
      exact absurd rfl ((List.nodup_append.mp distinct).2.2 _ earlier _ (List.mem_cons_self ..))
  | cancel sourceId declaration =>
    intro pending found
    obtain ⟨bound, member, rfl⟩ := own before sourceId declaration after split
    rw [made_unique distinctBefore ((Sound.run before).reserved found) (.inl member)]

end RelayAudioBusSourceFactory

end RelayConnector
