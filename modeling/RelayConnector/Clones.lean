/-
This file models the clones of one `RelayPublisherControl` in the hands of any number of
threads, and proves what holds for every interleaving of their calls.

`Control` models `replace` and `revoke` step by step. Here the other calls join them:
`revision`, `is_revoked`, `snapshot`, `claim` and the drop of a lease. Every access to an
atomic is a step; the clone of the credential under the mutex writes nothing and is one
step, which has to wait while a replacement has the mutex. The log has every call, every
step with what it found and left, and every answer, newest first.
-/

import RelayConnector.Audit
import RelayConnector.Configuration
import RelayConnector.Control

namespace RelayConnector

open Audit

/-! ### Threads and their calls -/

inductive Call where
  | replace (request : PublisherCredential)
  | revoke
  | revision
  | isRevoked
  | snapshot
  | claim
  /-- The drop of a lease that the thread has. -/
  | drop (lease : Nat)
  deriving DecidableEq, Repr

inductive Answer where
  | replaced (result : Except RelayPublisherControlError Unit)
  | revoked
  | revision (value : Nat)
  | isRevoked (value : Bool)
  | snapshot (result : Except RelayPublisherControlError PublisherCredential)
  | claimed (result : Except RelayPublisherControlError Nat)
  | dropped
  deriving DecidableEq

/-- What a step of `replace` or `revoke` returns. -/
@[simp] def Answer.ofControl : ControlEvent → Answer
  | .replaced _ => .replaced (.ok ())
  | .refused error => .replaced (.error error)
  | .revoked => .revoked

/-- Where a thread stands in a call that `SharedControl` does not know. -/
inductive ReaderPhase where
  | idle
  | revision
  | isRevoked
  /-- Inside `snapshot`, before the mutex. -/
  | locking
  /-- Inside `snapshot`, before the load of `revoked`. -/
  | checking (credential : PublisherCredential)
  /-- Inside `snapshot`, before `validate_expiry`. -/
  | expiring (credential : PublisherCredential)
  /-- Inside `claim`, before its exchange. -/
  | claiming
  /-- Inside the drop of a lease, before its store. -/
  | dropping (lease : Nat)
  deriving DecidableEq, Repr

/-- `PublisherLease`. It is alive until its drop has stored. -/
structure PublisherLease where
  number : Nat
  /-- Its owner has begun to drop it, so nobody else can. -/
  dropping : Bool := false
  deriving DecidableEq, Repr

/-- What the calls are about. -/
structure ControlData where
  credential : PublisherCredential
  revision : Nat
  revoked : Bool
  claimed : Bool
  deriving DecidableEq, Repr

inductive CloneEvent where
  | called (caller : Nat) (call : Call)
  /-- A step of a thread inside a call: what it found and what it left. -/
  | stepped (caller : Nat) (before after : ControlData)
  | returned (caller : Nat) (answer : Answer)
  deriving DecidableEq

/-- The control and all threads that hold a clone of it. -/
structure Clones where
  now : Nat
  control : SharedControl
  claimed : Bool := false
  leases : List PublisherLease := []
  /-- How many leases there have been. -/
  leased : Nat := 0
  readers : Nat → ReaderPhase := fun _ => .idle
  log : List CloneEvent := []

inductive CloneAction where
  | tick (elapsed : Nat)
  | call (caller : Nat) (call : Call)
  | advance (caller : Nat)
  deriving DecidableEq, Repr

namespace Clones

/-- `RelayPublisherControl::new_with_revision`. -/
def newWithRevision (configuration : RelayRouteConfiguration) (validUntil revision now : Nat) :
    Except RelayPublisherControlError Clones :=
  if revision = 0 then .error .staleReplacement
  else if configuration.transport ≠ .webSocket then .error .unsupportedTransport
  else match validateExpiry validUntil now with
    | .error error => .error error
    | .ok () => .ok
      { now
        control := { credential := ⟨configuration.sourceToken, validUntil, revision⟩, revision } }

def data (clones : Clones) : ControlData where
  credential := clones.control.credential
  revision := clones.control.revision
  revoked := clones.control.revoked
  claimed := clones.claimed

/-- The thread is in no call. -/
def quiet (clones : Clones) (caller : Nat) : Bool :=
  clones.control.free caller && clones.readers caller == .idle

def setReader (clones : Clones) (caller : Nat) (phase : ReaderPhase) : Clones :=
  { clones with readers := Function.update clones.readers caller phase }

/-- A thread that is in no call starts one. Only a lease that nobody is dropping can be dropped. -/
def begin (clones : Clones) (caller : Nat) : Call → Clones
  | .replace request =>
    { clones with control := (clones.control.act clones.now (.replace caller request)).1 }
  | .revoke => { clones with control := (clones.control.act clones.now (.revoke caller)).1 }
  | .revision => clones.setReader caller .revision
  | .isRevoked => clones.setReader caller .isRevoked
  | .snapshot => clones.setReader caller .locking
  | .claim => clones.setReader caller .claiming
  | .drop lease =>
    { clones.setReader caller (.dropping lease) with
      leases := clones.leases.map fun alive =>
        if alive.number = lease then { alive with dropping := true } else alive }

def canBegin (clones : Clones) (caller : Nat) (call : Call) : Bool :=
  clones.quiet caller && match call with
    | .drop lease => clones.leases.any fun alive => alive.number == lease && !alive.dropping
    | _ => true

/-- The next step of a thread that is in a call of this module. -/
def read (clones : Clones) (caller : Nat) : ReaderPhase → Clones × Option Answer
  | .idle => (clones, none)
  | .revision => (clones.setReader caller .idle, some (.revision clones.control.revision))
  | .isRevoked => (clones.setReader caller .idle, some (.isRevoked clones.control.revoked))
  | .locking =>
    if clones.control.lock.isNone then
      (clones.setReader caller (.checking clones.control.credential), none)
    else (clones, none)
  | .checking credential =>
    if clones.control.revoked then
      (clones.setReader caller .idle, some (.snapshot (.error .revoked)))
    else (clones.setReader caller (.expiring credential), none)
  | .expiring credential =>
    match validateExpiry credential.validUntil clones.now with
    | .error error => (clones.setReader caller .idle, some (.snapshot (.error error)))
    | .ok () => (clones.setReader caller .idle, some (.snapshot (.ok credential)))
  | .claiming =>
    if clones.claimed then
      (clones.setReader caller .idle, some (.claimed (.error .alreadyPublishing)))
    else
      ({ clones.setReader caller .idle with
          claimed := true
          leases := ⟨clones.leased, false⟩ :: clones.leases
          leased := clones.leased + 1 }, some (.claimed (.ok clones.leased)))
  | .dropping lease =>
    ({ clones.setReader caller .idle with
        claimed := false
        leases := clones.leases.filter (·.number != lease) }, some .dropped)

/-- The next step of a thread. -/
def step (clones : Clones) (caller : Nat) : Clones × Option Answer :=
  if clones.readers caller = .idle then
    let (control, event) := clones.control.act clones.now (.advance caller)
    ({ clones with control }, event.map Answer.ofControl)
  else clones.read caller (clones.readers caller)

def withLog (clones : Clones) (log : List CloneEvent) : Clones := { clones with log }

def act (clones : Clones) : CloneAction → Clones
  | .tick elapsed => { clones with now := clones.now + elapsed }
  | .call caller call =>
    if clones.canBegin caller call then
      (clones.begin caller call).withLog (.called caller call :: clones.log)
    else clones
  | .advance caller =>
    if clones.quiet caller then clones
    else
      let (after, answer) := clones.step caller
      after.withLog ((answer.map (.returned caller)).toList ++
        .stepped caller clones.data after.data :: clones.log)

/-- Any interleaving. -/
def run (clones : Clones) (actions : List CloneAction) : Clones := actions.foldl act clones

end Clones

/-! ### Reading the log -/

def CloneEvent.isCallOf (caller : Nat) : CloneEvent → Bool
  | .called other _ => other == caller
  | _ => false

/-- The call that a thread is in, or was in last. -/
def lastCall (caller : Nat) (log : List CloneEvent) : Option Call :=
  log.findSome? fun
    | .called other call => if other = caller then some call else none
    | _ => none

/-- What was logged since that call. -/
def sinceCall (caller : Nat) (log : List CloneEvent) : List CloneEvent :=
  since (·.isCallOf caller) log

/-- What had been logged before that call. -/
def beforeCall (caller : Nat) (log : List CloneEvent) : List CloneEvent :=
  upTo (·.isCallOf caller) log

section Log

variable {caller : Nat} {new log : List CloneEvent}

theorem sinceCall_called (caller : Nat) (call : Call) (log : List CloneEvent) :
    sinceCall caller (.called caller call :: log) = [] :=
  since_cons_of_marked (by simp [CloneEvent.isCallOf])

theorem lastCall_called (caller : Nat) (call : Call) (log : List CloneEvent) :
    lastCall caller (.called caller call :: log) = some call := by
  simp [lastCall]

section Others

variable (others : ∀ event ∈ new, event.isCallOf caller = false)

include others

theorem beforeCall_append : beforeCall caller (new ++ log) = beforeCall caller log :=
  upTo_append others

theorem sinceCall_append : sinceCall caller (new ++ log) = new ++ sinceCall caller log :=
  since_append others

theorem lastCall_append : lastCall caller (new ++ log) = lastCall caller log := by
  induction new with
  | nil => rfl
  | cons event rest hypothesis =>
    obtain ⟨first, others⟩ := List.forall_mem_cons.mp others
    rw [← hypothesis others]
    cases event with
    | called other call => simp_all [lastCall, CloneEvent.isCallOf]
    | _ => simp [lastCall]

end Others

end Log

/-! ### Where a thread stands -/

/-- The credential is not newer: neither its revision nor its expiry is later, and they are the
same only together. -/
def PublisherCredential.NoNewer (first second : PublisherCredential) : Prop :=
  first.revision ≤ second.revision ∧ first.validUntil ≤ second.validUntil ∧
    (first.revision = second.revision ↔ first.validUntil = second.validUntil)

/-- Both the revision and the expiry are later. -/
def PublisherCredential.Older (first second : PublisherCredential) : Prop :=
  first.revision < second.revision ∧ first.validUntil < second.validUntil

theorem PublisherCredential.NoNewer.refl (credential : PublisherCredential) :
    credential.NoNewer credential := by
  simp [NoNewer]

theorem PublisherCredential.NoNewer.trans {first second third : PublisherCredential}
    (left : first.NoNewer second) (right : second.NoNewer third) : first.NoNewer third := by
  unfold NoNewer at *
  omega

theorem PublisherCredential.Older.noNewer {first second : PublisherCredential}
    (older : first.Older second) : first.NoNewer second := by
  unfold NoNewer Older at *
  omega

/-- Where a thread stands: in a call of this module, or in `replace` or `revoke`. -/
inductive Place where
  | reader (phase : ReaderPhase)
  | caller (phase : CallerPhase)
  | critical (stage : Critical)
  deriving DecidableEq, Repr

/-- Where a thread stands in `replace` or `revoke`. -/
def SharedControl.place (control : SharedControl) (caller : Nat) : Place :=
  match control.lock with
  | some (holder, stage) =>
    if holder = caller then .critical stage else .caller (control.callers caller)
  | none => .caller (control.callers caller)

def Clones.place (clones : Clones) (caller : Nat) : Place :=
  if clones.readers caller = .idle then clones.control.place caller
  else .reader (clones.readers caller)

namespace Place

/-- Inside `replace`, before anything is written. -/
def unwritten : Place → Bool
  | .caller (.validating _) | .caller (.locking _) | .critical (.checking _)
  | .critical (.comparing _) => true
  | _ => false

/-- Inside `replace`, after the credential is written. -/
def written : Place → Bool
  | .critical (.storing _) | .critical (.unlocking _) => true
  | _ => false

/-- Inside `replace` or `snapshot`, after `revoked` has been found unset. -/
def passed : Place → Bool
  | .critical (.comparing _) | .critical (.storing _) | .critical (.unlocking _)
  | .reader (.expiring _) => true
  | _ => false

/-- The credential that `snapshot` has cloned. -/
def clone : Place → Option PublisherCredential
  | .reader (.checking credential) | .reader (.expiring credential) => some credential
  | _ => none

/-- The place belongs to the call. -/
@[simp] def serves : Place → Call → Bool
  | .reader .revision, .revision | .reader .isRevoked, .isRevoked | .reader .locking, .snapshot
  | .reader (.checking _), .snapshot | .reader (.expiring _), .snapshot
  | .reader .claiming, .claim | .caller .revoking, .revoke => true
  | .reader (.dropping lease), .drop other => lease == other
  | .caller (.validating request), .replace other | .caller (.locking request), .replace other
  | .critical (.checking request), .replace other
  | .critical (.comparing request), .replace other => request == other
  | .critical (.storing _), .replace _ | .critical (.unlocking _), .replace _ => true
  | _, _ => false

theorem eq_of_comparing {request : PublisherCredential} {call : Call}
    (served : (Place.critical (.comparing request)).serves call = true) :
    call = .replace request := by
  cases call with
  | replace other => rw [beq_iff_eq.mp served]
  | _ => exact absurd served (by simp)

end Place

/-- The answer belongs to the call. -/
@[simp] def Answer.answers : Answer → Call → Bool
  | .replaced _, .replace _ | .revoked, .revoke | .revision _, .revision
  | .isRevoked _, .isRevoked | .snapshot _, .snapshot | .claimed _, .claim
  | .dropped, .drop _ => true
  | _, _ => false

/-! ### One step of a thread -/

namespace SharedControl

variable {control : SharedControl} {caller other now : Nat}

/-- The thread that has the mutex is in no call outside it. -/
def Separate (control : SharedControl) : Prop :=
  ∀ holder stage, control.lock = some (holder, stage) → control.callers holder = .idle

theorem place_eq_critical {stage : Critical} (place : control.place caller = .critical stage) :
    control.lock = some (caller, stage) := by
  unfold SharedControl.place at place
  split at place
  next holder held lock =>
    split at place
    next same => simp_all
    next => simp at place
  next => simp at place

theorem place_eq_caller {phase : CallerPhase} (place : control.place caller = .caller phase) :
    (∀ stage, control.lock ≠ some (caller, stage)) ∧ control.callers caller = phase := by
  unfold SharedControl.place at place
  split at place
  next holder held lock =>
    split at place
    next => simp at place
    next different => simp_all
  next lock => simp_all

theorem place_of_outside (outside : ∀ stage, control.lock ≠ some (caller, stage)) :
    control.place caller = .caller (control.callers caller) := by
  unfold SharedControl.place
  split
  next holder stage held =>
    rw [if_neg]
    rintro rfl
    exact outside stage held
  next => rfl

theorem setCaller_place (outside : ∀ stage, control.lock ≠ some (caller, stage))
    (phase : CallerPhase) : (control.setCaller caller phase).place caller = .caller phase := by
  have unlocked : ∀ stage, (control.setCaller caller phase).lock ≠ some (caller, stage) := outside
  rw [place_of_outside unlocked]
  simp [setCaller]

theorem free_iff : control.free caller = true ↔ control.place caller = .caller .idle := by
  unfold free SharedControl.place
  cases control.lock with
  | none => simp
  | some held => by_cases same : held.1 = caller <;> simp [same]

theorem place_ne_reader (phase : ReaderPhase) : control.place caller ≠ .reader phase := by
  unfold SharedControl.place
  split
  · split <;> simp
  · simp

theorem act_of_critical {stage : Critical} (place : control.place caller = .critical stage) :
    control.act now (.advance caller) = control.advanceCritical caller stage := by
  simp [act, place_eq_critical place]

theorem act_of_caller {phase : CallerPhase} (place : control.place caller = .caller phase) :
    control.act now (.advance caller) = control.advanceCaller now caller phase := by
  obtain ⟨outside, phase⟩ := place_eq_caller place
  simp only [act, phase]
  split
  next holder stage held =>
    split
    next same => exact absurd (same ▸ held) (outside stage)
    next => rfl
  next => rfl

end SharedControl

/-- What a step that gives this answer has done, and where the thread stood. -/
def Answer.Given (place : Place) (before after : ControlData) : Answer → Prop
  | .replaced (.ok ()) => place.written = true ∧ place.passed = true
  | .replaced (.error _) => place.unwritten = true ∧ after = before
  | .snapshot (.ok credential) => place.clone = some credential ∧ place.passed = true
  | .revision value => after = before ∧ value = before.revision
  | .revoked => after.revoked = true
  | _ => True

/-- What the step of a thread from one place to another can do. -/
structure Moved (place next : Place) (before after : ControlData) (answer : Option Answer) :
    Prop where
  unwritten : next.unwritten = true → place.unwritten = true ∧ after = before
  written : next.written = true → place.written = true ∨
    place = .critical (.comparing after.credential) ∧ before.credential.Older after.credential
  passed : next.passed = true → place.passed = true ∨ before.revoked = false
  clone : ∀ credential, next.clone = some credential →
    place.clone = some credential ∨ credential = before.credential
  serves : ∀ call, place.serves call = true → next.serves call = true ∨ next = .caller .idle
  answers : ∀ given ∈ answer, ∀ call, place.serves call = true → given.answers call = true
  given : ∀ given ∈ answer, given.Given place before after

/-- A step that ends the call. -/
theorem Moved.returns {place next : Place} {before after : ControlData} {answer : Answer}
    (ended : next = .caller .idle)
    (answers : ∀ call, place.serves call = true → answer.answers call = true)
    (given : answer.Given place before after) :
    Moved place next before after (some answer) := by
  subst ended
  refine ⟨nofun, nofun, nofun, nofun, fun _ _ => .inr rfl, ?_, ?_⟩
  · intro other same
    rwa [← Option.mem_some.mp same]
  · intro other same
    rwa [← Option.mem_some.mp same]

/-- A step that changes nothing. -/
theorem Moved.proceeds {place next : Place} {data : ControlData}
    (unwritten : next.unwritten = true → place.unwritten = true)
    (written : next.written = true → place.written = true)
    (passed : next.passed = true → place.passed = true ∨ data.revoked = false)
    (clone : ∀ credential, next.clone = some credential →
      place.clone = some credential ∨ credential = data.credential)
    (serves : ∀ call, place.serves call = true → next.serves call = true) :
    Moved place next data data none where
  unwritten still := ⟨unwritten still, rfl⟩
  written still := .inl (written still)
  passed := passed
  clone := clone
  serves call served := .inl (serves call served)
  answers := by simp
  given := by simp

/-- A thread that finds the mutex taken stays where it is. -/
theorem Moved.waits (place : Place) (data : ControlData) : Moved place place data data none :=
  .proceeds id id .inl (fun _ => .inl) (fun _ => id)

namespace Clones

variable {clones : Clones} {caller other : Nat}

theorem place_of_idle (idle : clones.readers caller = .idle) :
    clones.place caller = clones.control.place caller := by
  simp [place, idle]

theorem place_of_busy (busy : clones.readers caller ≠ .idle) :
    clones.place caller = .reader (clones.readers caller) := by
  simp [place, busy]

theorem quiet_iff : clones.quiet caller = true ↔ clones.place caller = .caller .idle := by
  by_cases idle : clones.readers caller = .idle
  · simp [quiet, idle, place_of_idle idle, SharedControl.free_iff]
  · simp [quiet, idle, place_of_busy idle]

theorem read_moved (free : clones.control.free caller = true)
    (busy : clones.readers caller ≠ .idle) :
    Moved (.reader (clones.readers caller))
      ((clones.read caller (clones.readers caller)).1.place caller) clones.data
      (clones.read caller (clones.readers caller)).1.data
      (clones.read caller (clones.readers caller)).2 := by
  have ended : ∀ {after : Clones}, after.control = clones.control →
      after.readers = Function.update clones.readers caller .idle →
      after.place caller = .caller .idle := by
    intro after control readers
    rw [place_of_idle (by simp [readers]), control]
    exact SharedControl.free_iff.mp free
  generalize hphase : clones.readers caller = phase at *
  cases phase with
  | idle => exact absurd rfl busy
  | revision =>
    simp only [read]
    exact .returns (ended rfl rfl) (by rintro ⟨⟩ <;> simp) ⟨rfl, rfl⟩
  | isRevoked =>
    simp only [read]
    exact .returns (ended rfl rfl) (by rintro ⟨⟩ <;> simp) trivial
  | locking =>
    simp only [read]
    split
    · rw [place_of_busy (by simp [setReader])]
      simp only [setReader, Function.update_self]
      exact .proceeds nofun nofun nofun (by simp [Place.clone, data])
        (by rintro ⟨⟩ <;> simp)
    · rw [place_of_busy (by simp [hphase]), hphase]
      exact .waits _ _
  | checking credential =>
    simp only [read]
    split
    · exact .returns (ended rfl rfl) (by rintro ⟨⟩ <;> simp) trivial
    next unrevoked =>
      rw [place_of_busy (by simp [setReader])]
      simp only [setReader, Function.update_self]
      exact .proceeds nofun nofun (fun _ => .inr (by simpa [data] using unrevoked))
        (fun _ => .inl) (by rintro ⟨⟩ <;> simp)
  | expiring credential =>
    simp only [read]
    split
    · exact .returns (ended rfl rfl) (by rintro ⟨⟩ <;> simp) trivial
    · exact .returns (ended rfl rfl) (by rintro ⟨⟩ <;> simp)
        ⟨rfl, rfl⟩
  | claiming =>
    simp only [read]
    split
    · exact .returns (ended rfl rfl) (by rintro ⟨⟩ <;> simp) trivial
    · exact .returns (ended rfl rfl) (by rintro ⟨⟩ <;> simp) trivial
  | dropping lease =>
    simp only [read]
    exact .returns (ended rfl rfl) (by rintro ⟨⟩ <;> simp) trivial

/-- The clones after a step of `SharedControl`. -/
def withControl (clones : Clones) (control : SharedControl) : Clones := { clones with control }

theorem withControl_place (idle : clones.readers caller = .idle) (control : SharedControl) :
    (clones.withControl control).place caller = control.place caller :=
  place_of_idle idle

theorem advanceCritical_moved {stage : Critical} (separate : clones.control.Separate)
    (held : clones.control.lock = some (caller, stage)) :
    Moved (.critical stage) ((clones.control.advanceCritical caller stage).1.place caller)
      clones.data (clones.withControl (clones.control.advanceCritical caller stage).1).data
      ((clones.control.advanceCritical caller stage).2.map Answer.ofControl) := by
  have ended : ∀ {control : SharedControl}, control.lock = none →
      control.callers = clones.control.callers → control.place caller = .caller .idle := by
    intro control lock callers
    simp [SharedControl.place, lock, callers, separate caller stage held]
  cases stage with
  | checking request =>
    simp only [SharedControl.advanceCritical]
    split
    · exact .returns (ended rfl rfl)
        (by rintro ⟨⟩ <;> simp) ⟨rfl, rfl⟩
    next unrevoked =>
      simp only [SharedControl.place, if_pos]
      exact .proceeds (fun _ => rfl) (by simp [Place.written])
        (fun _ => .inr (by simpa [data] using unrevoked)) (by simp [Place.clone])
        (by rintro ⟨⟩ <;> simp)
  | comparing request =>
    simp only [SharedControl.advanceCritical]
    split
    · exact .returns (ended rfl rfl)
        (by rintro ⟨⟩ <;> simp) ⟨rfl, rfl⟩
    next fresh =>
      rw [not_or, Nat.not_le, Nat.not_le] at fresh
      simp only [SharedControl.place, if_pos]
      refine ⟨by simp [Place.unwritten], fun _ => .inr ⟨rfl, fresh⟩, fun _ => .inl rfl,
        by simp [Place.clone], ?_, by simp, by simp⟩
      rintro ⟨⟩ <;> simp
  | storing previous =>
    simp only [SharedControl.advanceCritical, SharedControl.place, if_pos]
    refine ⟨by simp [Place.unwritten], fun _ => .inl rfl, fun _ => .inl rfl,
      by simp [Place.clone], ?_, by simp, by simp⟩
    rintro ⟨⟩ <;> simp
  | unlocking previous =>
    exact .returns (ended rfl rfl)
      (by rintro ⟨⟩ <;> simp) ⟨rfl, rfl⟩

theorem advanceCaller_moved {phase : CallerPhase}
    (place : clones.control.place caller = .caller phase) :
    Moved (.caller phase)
      ((clones.control.advanceCaller clones.now caller phase).1.place caller) clones.data
      (clones.withControl (clones.control.advanceCaller clones.now caller phase).1).data
      ((clones.control.advanceCaller clones.now caller phase).2.map Answer.ofControl) := by
  obtain ⟨outside, callers⟩ := SharedControl.place_eq_caller place
  cases phase with
  | idle =>
    rw [show (clones.control.advanceCaller clones.now caller .idle).1.place caller = _ from place]
    exact .waits _ _
  | validating request =>
    simp only [SharedControl.advanceCaller]
    split
    · exact .returns (SharedControl.setCaller_place outside _)
        (by rintro ⟨⟩ <;> simp) ⟨rfl, rfl⟩
    · rw [SharedControl.setCaller_place outside]
      exact .proceeds (fun _ => rfl) (by simp [Place.written]) (by simp [Place.passed])
        (by simp [Place.clone]) (by rintro ⟨⟩ <;> simp)
  | locking request =>
    simp only [SharedControl.advanceCaller]
    split
    · simp only [SharedControl.place, if_pos]
      exact .proceeds (fun _ => rfl) (by simp [Place.written]) (by simp [Place.passed])
        (by simp [Place.clone]) (by rintro ⟨⟩ <;> simp)
    · rw [place]
      exact .waits _ _
  | revoking =>
    exact .returns (SharedControl.setCaller_place outside _)
      (by rintro ⟨⟩ <;> simp) rfl

/-- A thread inside a call of this module is in none of `SharedControl`. -/
structure Separate (clones : Clones) : Prop where
  control : clones.control.Separate
  readers : ∀ caller, clones.readers caller ≠ .idle → clones.control.free caller = true

theorem step_of_idle (idle : clones.readers caller = .idle) :
    clones.step caller =
      (clones.withControl (clones.control.act clones.now (.advance caller)).1,
        (clones.control.act clones.now (.advance caller)).2.map Answer.ofControl) := by
  simp [step, idle, withControl]

theorem step_of_busy (busy : clones.readers caller ≠ .idle) :
    clones.step caller = clones.read caller (clones.readers caller) := by
  simp [step, busy]

theorem step_moved (separate : clones.Separate) (caller : Nat) :
    Moved (clones.place caller) ((clones.step caller).1.place caller) clones.data
      (clones.step caller).1.data (clones.step caller).2 := by
  by_cases idle : clones.readers caller = .idle
  · rw [place_of_idle idle, step_of_idle idle, withControl_place idle]
    cases place : clones.control.place caller with
    | reader phase => exact absurd place (SharedControl.place_ne_reader phase)
    | caller phase =>
      rw [SharedControl.act_of_caller place]
      exact advanceCaller_moved place
    | critical stage =>
      rw [SharedControl.act_of_critical place]
      exact advanceCritical_moved separate.control (SharedControl.place_eq_critical place)
  · rw [place_of_busy idle, step_of_busy idle]
    exact read_moved (separate.readers caller idle) idle

/-! ### What a step leaves alone -/

theorem read_control (phase : ReaderPhase) :
    (clones.read caller phase).1.control = clones.control := by
  cases phase <;> simp only [read] <;> (try split) <;> rfl

theorem read_readers (phase : ReaderPhase) (different : other ≠ caller) :
    (clones.read caller phase).1.readers other = clones.readers other := by
  cases phase <;> simp only [read] <;> (try split) <;> simp [setReader, different]

end Clones

namespace SharedControl

variable {control : SharedControl} {caller other now : Nat}

theorem act_advance_place (different : other ≠ caller) :
    (control.act now (.advance caller)).1.place other = control.place other := by
  cases place : control.place caller with
  | reader phase => exact absurd place (place_ne_reader phase)
  | caller phase =>
    rw [act_of_caller place]
    cases phase <;> simp only [advanceCaller] <;> (try split) <;>
      simp_all [SharedControl.place, setCaller, different.symm]
  | critical stage =>
    rw [act_of_critical place]
    have held := place_eq_critical place
    cases stage <;> simp only [advanceCritical] <;> (try split) <;>
      simp [SharedControl.place, held, different.symm]

theorem act_advance_separate (separate : control.Separate) :
    (control.act now (.advance caller)).1.Separate := by
  cases place : control.place caller with
  | reader phase => exact absurd place (place_ne_reader phase)
  | caller phase =>
    rw [act_of_caller place]
    obtain ⟨outside, -⟩ := place_eq_caller place
    cases phase <;> simp only [advanceCaller] <;> (try split) <;> intro holder stage held <;>
      simp_all [setCaller, Function.update_apply, Separate]
  | critical stage =>
    rw [act_of_critical place]
    have held := place_eq_critical place
    have callers := separate caller stage held
    cases stage <;> simp only [advanceCritical] <;> (try split) <;> intro holder stage held <;>
      simp_all

theorem act_advance_credential (control : SharedControl) (now caller : Nat) :
    (control.act now (.advance caller)).1.credential = control.credential ∨
      control.credential.Older (control.act now (.advance caller)).1.credential := by
  cases place : control.place caller with
  | reader phase => exact absurd place (place_ne_reader phase)
  | caller phase =>
    rw [act_of_caller place]
    left
    cases phase <;> simp only [advanceCaller] <;> (try split) <;> rfl
  | critical stage =>
    rw [act_of_critical place]
    cases stage with
    | comparing request =>
      simp only [advanceCritical]
      split
      · exact .inl rfl
      next fresh => exact .inr (by simpa [PublisherCredential.Older] using fresh)
    | checking request =>
      left
      simp only [advanceCritical]
      split <;> rfl
    | _ => exact .inl rfl

end SharedControl

end RelayConnector
