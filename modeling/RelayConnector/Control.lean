/-
This file models `publisher_control.rs`: the capability a management worker hands to
a running publisher.

Any number of threads call `replace` and `revoke`. Every load, store, lock and unlock
is a step of its own, so a publisher can look at the control between any two of them.
The credential is guarded by a mutex; the stage of a replacement that has the mutex is
part of the mutex, so two replacements cannot be inside at once. The revision is
stored after the credential and before the mutex is released, which is why three
credentials have to be told apart: the one stored, the one whose revision is visible
and the one of the latest replacement that has returned.
-/

import Mathlib.Logic.Function.Basic

namespace RelayConnector

/-- `PublisherCredential`. Instants are nanoseconds of the monotonic clock. -/
structure PublisherCredential where
  token : String
  validUntil : Nat
  revision : Nat
  deriving DecidableEq, Repr

inductive RelayPublisherControlError where
  | unsupportedTransport
  | invalidExpiry
  | staleReplacement
  | revoked
  | unavailable
  | alreadyPublishing
  deriving DecidableEq, Repr

/-- `MAX_CAPABILITY_LIFETIME`: twenty-four hours. -/
def maxCapabilityLifetime : Nat := 24 * 60 * 60 * 1000000000

/-- `validate_expiry`: an expiry in the future, at most twenty-four hours away. -/
def validateExpiry (validUntil now : Nat) : Except RelayPublisherControlError Unit :=
  if now < validUntil ∧ validUntil - now ≤ maxCapabilityLifetime then .ok ()
  else .error .invalidExpiry

/-- Where a calling thread stands while it does not have the mutex. -/
inductive CallerPhase where
  | idle
  /-- Inside `replace`, before `validate_expiry`. -/
  | validating (request : PublisherCredential)
  /-- Inside `replace`, before the mutex. -/
  | locking (request : PublisherCredential)
  /-- Inside `revoke`, before its store. -/
  | revoking
  deriving DecidableEq, Repr

/-- Where the thread that has the mutex stands inside `replace`. -/
inductive Critical where
  /-- Before the load of `revoked`. -/
  | checking (request : PublisherCredential)
  /-- Before the comparison with the stored credential. -/
  | comparing (request : PublisherCredential)
  /-- The credential is written, its revision is not yet stored. -/
  | storing (previous : PublisherCredential)
  /-- The revision is stored, the mutex is still held. -/
  | unlocking (previous : PublisherCredential)
  deriving DecidableEq, Repr

/-- `SharedControl`, with the calls in progress. -/
structure SharedControl where
  credential : PublisherCredential
  revision : Nat
  revoked : Bool := false
  /-- The thread that has the mutex, if any. -/
  lock : Option (Nat × Critical) := none
  callers : Nat → CallerPhase := fun _ => .idle

/-- What a call returned. -/
inductive ControlEvent where
  | replaced (revision : Nat)
  | refused (error : RelayPublisherControlError)
  | revoked
  deriving DecidableEq, Repr

inductive ControlAction where
  /-- The thread calls `replace`. -/
  | replace (caller : Nat) (request : PublisherCredential)
  /-- The thread calls `revoke`. -/
  | revoke (caller : Nat)
  /-- The thread takes its next step. -/
  | advance (caller : Nat)
  deriving DecidableEq, Repr

namespace SharedControl

/-- A thread can start a call when it is in none. -/
def free (control : SharedControl) (caller : Nat) : Bool :=
  control.lock.all (·.1 != caller) && control.callers caller == .idle

def setCaller (control : SharedControl) (caller : Nat) (phase : CallerPhase) : SharedControl :=
  { control with callers := Function.update control.callers caller phase }

/-- The steps of `replace` between taking and releasing the mutex. -/
def advanceCritical (control : SharedControl) (caller : Nat) :
    Critical → SharedControl × Option ControlEvent
  | .checking request =>
    if control.revoked then ({ control with lock := none }, some (.refused .revoked))
    else ({ control with lock := some (caller, .comparing request) }, none)
  | .comparing request =>
    if request.revision ≤ control.credential.revision ∨
        request.validUntil ≤ control.credential.validUntil then
      ({ control with lock := none }, some (.refused .staleReplacement))
    else
      ({ control with
          credential := request
          lock := some (caller, .storing control.credential) }, none)
  | .storing previous =>
    ({ control with
        revision := control.credential.revision
        lock := some (caller, .unlocking previous) }, none)
  | .unlocking _ =>
    ({ control with lock := none }, some (.replaced control.credential.revision))

/-- The steps of `replace` before the mutex, and of `revoke`. -/
def advanceCaller (control : SharedControl) (now caller : Nat) :
    CallerPhase → SharedControl × Option ControlEvent
  | .idle => (control, none)
  | .validating request =>
    match validateExpiry request.validUntil now with
    | .error error => (control.setCaller caller .idle, some (.refused error))
    | .ok () => (control.setCaller caller (.locking request), none)
  | .locking request =>
    -- a thread that finds the mutex taken waits
    if control.lock.isNone then
      ({ control.setCaller caller .idle with lock := some (caller, .checking request) }, none)
    else (control, none)
  | .revoking => ({ control.setCaller caller .idle with revoked := true }, some .revoked)

/-- One step of a thread that holds the control. -/
def act (control : SharedControl) (now : Nat) :
    ControlAction → SharedControl × Option ControlEvent
  | .replace caller request =>
    if control.free caller then (control.setCaller caller (.validating request), none)
    else (control, none)
  | .revoke caller =>
    if control.free caller then (control.setCaller caller .revoking, none) else (control, none)
  | .advance caller =>
    match control.lock with
    | some (holder, critical) =>
      if holder = caller then control.advanceCritical caller critical
      else control.advanceCaller now caller (control.callers caller)
    | none => control.advanceCaller now caller (control.callers caller)

/-- The credential of the latest `replace` that has returned. -/
def renewed (control : SharedControl) : PublisherCredential :=
  match control.lock with
  | some (_, .storing previous) => previous
  | some (_, .unlocking previous) => previous
  | _ => control.credential

/-- How the visible revision, the stored credential and the latest returned replacement belong
together at each stage. -/
def Coherent (control : SharedControl) : Prop :=
  match control.lock with
  | some (_, .storing previous) =>
    control.revision = previous.revision ∧ previous.revision < control.credential.revision ∧
      previous.validUntil < control.credential.validUntil
  | some (_, .unlocking previous) =>
    control.revision = control.credential.revision ∧
      previous.revision < control.credential.revision ∧
      previous.validUntil < control.credential.validUntil
  | _ => control.revision = control.credential.revision

/-! ### What a step can change -/

/-- Every step of a coherent control is one of five: it changes nothing a publisher can learn of,
or it revokes, writes the credential, stores the revision or returns from `replace`. -/
inductive Changes (before after : SharedControl) : Option ControlEvent → Prop
  | quiet {event : Option ControlEvent} (credential : after.credential = before.credential)
      (revision : after.revision = before.revision) (revoked : after.revoked = before.revoked)
      (renewed : after.renewed = before.renewed)
      (noReplacement : ∀ revision, event ≠ some (.replaced revision))
      (noRevocation : event ≠ some .revoked) : Changes before after event
  | revokes (credential : after.credential = before.credential)
      (revision : after.revision = before.revision) (revoked : after.revoked = true)
      (renewed : after.renewed = before.renewed) : Changes before after (some .revoked)
  | writes (newer : before.credential.revision < after.credential.revision)
      (revision : after.revision = before.revision) (revoked : after.revoked = before.revoked)
      (renewed : after.renewed = before.renewed) : Changes before after none
  | stores (credential : after.credential = before.credential)
      (revision : after.revision = before.credential.revision)
      (newer : before.revision < after.revision) (revoked : after.revoked = before.revoked)
      (renewed : after.renewed = before.renewed) : Changes before after none
  | returns (credential : after.credential = before.credential)
      (revision : after.revision = before.revision) (revoked : after.revoked = before.revoked)
      (renewed : after.renewed = before.credential)
      (newer : before.renewed.revision < after.renewed.revision)
      (visible : after.renewed.revision = after.revision) :
      Changes before after (some (.replaced after.revision))

variable {control : SharedControl}

theorem advanceCritical_changes {caller : Nat} {critical : Critical}
    (held : control.lock = some (caller, critical)) (coherent : control.Coherent) :
    (control.advanceCritical caller critical).1.Coherent ∧
      Changes control (control.advanceCritical caller critical).1
        (control.advanceCritical caller critical).2 := by
  rw [Coherent, held] at coherent
  cases critical with
  | checking request =>
    simp only [advanceCritical]
    split
    · exact ⟨coherent, .quiet rfl rfl rfl (by simp [renewed, held]) (by simp) (by simp)⟩
    · exact ⟨coherent, .quiet rfl rfl rfl (by simp [renewed, held]) (by simp) (by simp)⟩
  | comparing request =>
    simp only [advanceCritical]
    split
    · exact ⟨coherent, .quiet rfl rfl rfl (by simp [renewed, held]) (by simp) (by simp)⟩
    next fresh =>
      rw [not_or, Nat.not_le, Nat.not_le] at fresh
      exact ⟨⟨coherent, fresh.1, fresh.2⟩, .writes fresh.1 rfl rfl (by simp [renewed, held])⟩
  | storing previous =>
    obtain ⟨old, newer, later⟩ := coherent
    refine ⟨⟨rfl, newer, later⟩, .stores rfl rfl ?_ rfl (by simp [renewed, held, advanceCritical])⟩
    rw [old]
    exact newer
  | unlocking previous =>
    obtain ⟨visible, newer, later⟩ := coherent
    have event : (control.advanceCritical caller (.unlocking previous)).2 =
        some (.replaced (control.advanceCritical caller (.unlocking previous)).1.revision) := by
      simp [advanceCritical, visible]
    rw [event]
    refine ⟨visible, .returns rfl rfl rfl rfl ?_ visible.symm⟩
    simpa [renewed, held, advanceCritical] using newer

/-- A step outside the mutex touches the control only to take the mutex or to revoke. -/
theorem advanceCaller_changes (now caller : Nat) (phase : CallerPhase)
    (coherent : control.Coherent) :
    (control.advanceCaller now caller phase).1.Coherent ∧
      Changes control (control.advanceCaller now caller phase).1
        (control.advanceCaller now caller phase).2 := by
  cases phase with
  | idle =>
    exact ⟨coherent, .quiet rfl rfl rfl rfl (by simp [advanceCaller]) (by simp [advanceCaller])⟩
  | validating request =>
    simp only [advanceCaller]
    split
    · exact ⟨coherent, .quiet rfl rfl rfl rfl (by simp) (by simp)⟩
    · exact ⟨coherent, .quiet rfl rfl rfl rfl (by simp) (by simp)⟩
  | locking request =>
    simp only [advanceCaller]
    split
    next free =>
      rw [Option.isNone_iff_eq_none] at free
      rw [Coherent, free] at coherent
      exact ⟨coherent, .quiet rfl rfl rfl (by simp [renewed, free, setCaller]) (by simp) (by simp)⟩
    next => exact ⟨coherent, .quiet rfl rfl rfl rfl (by simp) (by simp)⟩
  | revoking => exact ⟨coherent, .revokes rfl rfl rfl rfl⟩

theorem act_changes (now : Nat) (action : ControlAction) (coherent : control.Coherent) :
    (control.act now action).1.Coherent ∧
      Changes control (control.act now action).1 (control.act now action).2 := by
  have idle : ∀ caller phase, (control.setCaller caller phase).Coherent ∧
      Changes control (control.setCaller caller phase) none :=
    fun _ _ => ⟨coherent, .quiet rfl rfl rfl rfl (by simp) (by simp)⟩
  have busy : control.Coherent ∧ Changes control control none :=
    ⟨coherent, .quiet rfl rfl rfl rfl (by simp) (by simp)⟩
  cases action with
  | replace caller request =>
    simp only [act]
    split
    · exact idle _ _
    · exact busy
  | revoke caller =>
    simp only [act]
    split
    · exact idle _ _
    · exact busy
  | advance caller =>
    simp only [act]
    split
    next holder critical held =>
      split
      next same => exact advanceCritical_changes (same ▸ held) coherent
      next => exact advanceCaller_changes now caller _ coherent
    next => exact advanceCaller_changes now caller _ coherent

/-- The latest returned replacement is never newer than what is visible, which is never newer
than what is stored. -/
theorem Coherent.ordered (coherent : control.Coherent) :
    control.renewed.revision ≤ control.revision ∧
      control.revision ≤ control.credential.revision := by
  unfold Coherent at coherent
  unfold renewed
  split at coherent <;> simp_all <;> omega

/-- A credential that some returned replacement had stored: no newer than the latest one, and
the latest one itself if their revisions agree. -/
def Knows (control : SharedControl) (credential : PublisherCredential) : Prop :=
  credential.revision ≤ control.renewed.revision ∧
    (credential.revision = control.renewed.revision → credential = control.renewed)

/-- While no thread has the mutex, the stored credential is the latest one. -/
theorem knows_credential (free : control.lock = none) : control.Knows control.credential := by
  have latest : control.renewed = control.credential := by rw [renewed, free]
  rw [Knows, latest]
  exact ⟨Nat.le_refl _, fun _ => rfl⟩

/-- A known credential is not newer than the visible revision. -/
theorem Knows.revision_le {credential : PublisherCredential} (known : control.Knows credential)
    (coherent : control.Coherent) : credential.revision ≤ control.revision :=
  Nat.le_trans known.1 coherent.ordered.1

/-- A known credential whose revision is the visible one is the latest one. -/
theorem Knows.eq_renewed {credential : PublisherCredential} (known : control.Knows credential)
    (coherent : control.Coherent) (visible : control.revision = credential.revision) :
    credential = control.renewed :=
  known.2 (Nat.le_antisymm known.1 (visible ▸ coherent.ordered.1))

namespace Changes

variable {before after : SharedControl} {event : Option ControlEvent}

theorem revision_le (changes : Changes before after event) : before.revision ≤ after.revision := by
  cases changes with
  | stores _ _ newer => exact Nat.le_of_lt newer
  | _ => exact Nat.le_of_eq (Eq.symm (by assumption))

/-- Revocation is terminal. -/
theorem revoked_of_revoked (changes : Changes before after event)
    (revoked : before.revoked = true) : after.revoked = true := by
  cases changes with
  | revokes => assumption
  | _ => exact Eq.trans (by assumption) revoked

theorem knows (changes : Changes before after event) {credential : PublisherCredential}
    (known : before.Knows credential) : after.Knows credential := by
  unfold Knows at known ⊢
  cases changes with
  | returns _ _ _ _ newer => exact ⟨by omega, fun same => by omega⟩
  | _ => simp_all

end Changes

end SharedControl

end RelayConnector
