/-
This file proves what holds for every interleaving of calls on the clones of one
`RelayPublisherControl`.

For every thread an invariant says what its place in its call tells about the log: whether
it has written yet, whether a revocation had returned before its call, and how the
credential it has cloned compares with what other calls had answered by then. An answer is
then judged at the moment it is given, against the log below it.
-/

import RelayConnector.Clones

namespace RelayConnector

open Audit

/-! ### Steps of the whole system -/

namespace Clones

variable {clones : Clones} {caller other : Nat}

theorem place_congr {first second : Clones} (readers : first.readers other = second.readers other)
    (control : first.control.place other = second.control.place other) :
    first.place other = second.place other := by
  simp [place, readers, control]

theorem step_place (different : other ≠ caller) :
    (clones.step caller).1.place other = clones.place other := by
  by_cases idle : clones.readers caller = .idle
  · rw [step_of_idle idle]
    exact place_congr rfl (SharedControl.act_advance_place different)
  · rw [step_of_busy idle]
    exact place_congr (read_readers _ different) (by rw [read_control])

theorem step_separate (separate : clones.Separate) (caller : Nat) :
    (clones.step caller).1.Separate := by
  by_cases idle : clones.readers caller = .idle
  · rw [step_of_idle idle]
    refine ⟨SharedControl.act_advance_separate separate.control, fun other busy => ?_⟩
    have different : other ≠ caller := by
      rintro rfl
      exact busy idle
    rw [SharedControl.free_iff]
    exact (SharedControl.act_advance_place different).trans
      (SharedControl.free_iff.mp (separate.readers other busy))
  · rw [step_of_busy idle]
    refine ⟨?_, fun other busy => ?_⟩
    · rw [read_control]
      exact separate.control
    · rw [read_control]
      by_cases same : other = caller
      · exact separate.readers other (same ▸ idle)
      · rw [read_readers _ same] at busy
        exact separate.readers other busy

/-- What a step does to the control, whichever call it belongs to. -/
structure Succeeds (before after : SharedControl) : Prop where
  coherent : after.Coherent
  revision : before.revision ≤ after.revision
  revoked : before.revoked = true → after.revoked = true
  credential : after.credential = before.credential ∨ before.credential.Older after.credential

theorem step_succeeds (coherent : clones.control.Coherent) (caller : Nat) :
    Succeeds clones.control (clones.step caller).1.control := by
  by_cases idle : clones.readers caller = .idle
  · rw [step_of_idle idle]
    obtain ⟨coherent, changes⟩ :=
      SharedControl.act_changes clones.now (.advance caller) coherent
    exact ⟨coherent, changes.revision_le, changes.revoked_of_revoked,
      SharedControl.act_advance_credential _ _ _⟩
  · rw [step_of_busy idle, read_control]
    exact ⟨coherent, Nat.le_refl _, id, .inl rfl⟩

theorem Succeeds.noNewer {before after : SharedControl} (succeeds : Succeeds before after) :
    before.credential.NoNewer after.credential := by
  rcases succeeds.credential with same | older
  · rw [same]
    exact .refl _
  · exact older.noNewer

/-! ### Leases -/

/-- At most one lease is alive, `claimed` says whether there is one, and a thread that drops a
lease is the only one to do so. -/
structure Leased (clones : Clones) : Prop where
  claimed : clones.claimed = !clones.leases.isEmpty
  single : clones.leases.length ≤ 1
  dropping : ∀ caller lease, clones.readers caller = .dropping lease →
    clones.leases = [⟨lease, true⟩]
  alone : ∀ caller other lease, clones.readers caller = .dropping lease →
    clones.readers other = .dropping lease → caller = other

/-- A thread that goes on to anything but a drop leaves the leases in order. -/
theorem Leased.moves (leased : clones.Leased) {after : Clones} {phase : ReaderPhase}
    (claimed : after.claimed = clones.claimed) (leases : after.leases = clones.leases)
    (readers : after.readers = Function.update clones.readers caller phase)
    (keeps : ∀ lease, phase ≠ .dropping lease) : after.Leased := by
  have before : ∀ other lease, after.readers other = .dropping lease →
      clones.readers other = .dropping lease := by
    intro other lease dropping
    rw [readers, Function.update_apply] at dropping
    split at dropping
    · exact absurd dropping (keeps lease)
    · exact dropping
  refine ⟨?_, ?_, fun other lease dropping => ?_, fun first second lease one two => ?_⟩
  · rw [claimed, leases]
    exact leased.claimed
  · rw [leases]
    exact leased.single
  · rw [leases]
    exact leased.dropping other lease (before other lease dropping)
  · exact leased.alone first second lease (before _ _ one) (before _ _ two)

/-- While no lease is being dropped, the leases are in order if there is at most one. -/
theorem Leased.of_none {after : Clones} (claimed : after.claimed = !after.leases.isEmpty)
    (single : after.leases.length ≤ 1)
    (none : ∀ caller lease, after.readers caller ≠ .dropping lease) : after.Leased :=
  ⟨claimed, single, fun caller lease dropping => absurd dropping (none caller lease),
    fun caller _ lease dropping => absurd dropping (none caller lease)⟩

theorem read_leased (leased : clones.Leased) {phase : ReaderPhase}
    (reading : clones.readers caller = phase) : (clones.read caller phase).1.Leased := by
  cases phase with
  | idle => exact leased
  | revision => exact leased.moves rfl rfl rfl (by simp)
  | isRevoked => exact leased.moves rfl rfl rfl (by simp)
  | locking =>
    simp only [read]
    split
    · exact leased.moves rfl rfl rfl (by simp)
    · exact leased
  | checking credential =>
    simp only [read]
    split <;> exact leased.moves rfl rfl rfl (by simp)
  | expiring credential =>
    simp only [read]
    split <;> exact leased.moves rfl rfl rfl (by simp)
  | claiming =>
    simp only [read]
    split
    · exact leased.moves rfl rfl rfl (by simp)
    next unclaimed =>
      have empty : clones.leases = [] := by simpa [leased.claimed] using unclaimed
      refine .of_none (by simp) (by simp [empty]) fun other lease dropping => ?_
      simp only [setReader, Function.update_apply] at dropping
      split at dropping
      · simp at dropping
      · simpa [empty] using leased.dropping other lease dropping
  | dropping lease =>
    have only := leased.dropping caller lease reading
    refine .of_none (by simp [read, only]) (by simp [read, only]) fun other second dropping => ?_
    simp only [read, setReader, Function.update_apply] at dropping
    split at dropping
    · simp at dropping
    next different =>
      have same : lease = second := by
        simpa [only] using leased.dropping other second dropping
      subst same
      exact different (leased.alone other caller lease dropping reading)

theorem step_leased (leased : clones.Leased) (caller : Nat) : (clones.step caller).1.Leased := by
  by_cases idle : clones.readers caller = .idle
  · rw [step_of_idle idle]
    exact ⟨leased.claimed, leased.single, leased.dropping, leased.alone⟩
  · rw [step_of_busy idle]
    exact read_leased leased rfl

theorem begin_leased (leased : clones.Leased) {call : Call}
    (able : clones.canBegin caller call = true) : (clones.begin caller call).Leased := by
  cases call with
  | replace request => exact ⟨leased.claimed, leased.single, leased.dropping, leased.alone⟩
  | revoke => exact ⟨leased.claimed, leased.single, leased.dropping, leased.alone⟩
  | drop lease =>
    have alive := (Bool.and_eq_true_iff.mp able).2
    simp only [List.any_eq_true, Bool.and_eq_true, beq_iff_eq, Bool.not_eq_true'] at alive
    obtain ⟨found, member, rfl, undropped⟩ := alive
    have only : clones.leases = [found] := by
      obtain ⟨first, leases⟩ := List.length_eq_one_iff.mp
        (Nat.le_antisymm leased.single (List.length_pos_of_mem member))
      rw [leases, List.mem_singleton] at member
      rw [leases, member]
    have nobody : ∀ other number, clones.readers other ≠ .dropping number := by
      intro other number dropping
      have dropped := leased.dropping other number dropping
      rw [only, List.cons.injEq] at dropped
      rw [dropped.1] at undropped
      exact absurd undropped (by simp)
    have dropper : ∀ other number,
        Function.update clones.readers caller (.dropping found.number) other = .dropping number →
        other = caller ∧ number = found.number := by
      intro other number dropping
      rw [Function.update_apply] at dropping
      split at dropping
      next same => exact ⟨same, (ReaderPhase.dropping.inj dropping).symm⟩
      next => exact absurd dropping (nobody other number)
    refine ⟨?_, ?_, fun other number dropping => ?_, fun first second number one two => ?_⟩
    · simp [begin, setReader, leased.claimed]
    · simpa [begin, setReader] using leased.single
    · obtain ⟨-, rfl⟩ := dropper other number dropping
      simp [begin, only]
    · exact (dropper first number one).1.trans (dropper second number two).1.symm
  | _ => exact leased.moves rfl rfl rfl (by simp)

/-! ### The start of a call -/

theorem begin_control (clones : Clones) (caller : Nat) (call : Call) :
    (clones.begin caller call).control.credential = clones.control.credential ∧
      (clones.begin caller call).control.revision = clones.control.revision ∧
      (clones.begin caller call).control.revoked = clones.control.revoked ∧
      (clones.begin caller call).control.lock = clones.control.lock := by
  cases call with
  | replace request =>
    simp only [begin, SharedControl.act]
    split <;> exact ⟨rfl, rfl, rfl, rfl⟩
  | revoke =>
    simp only [begin, SharedControl.act]
    split <;> exact ⟨rfl, rfl, rfl, rfl⟩
  | _ => exact ⟨rfl, rfl, rfl, rfl⟩

theorem begin_callers (call : Call) (different : other ≠ caller) :
    (clones.begin caller call).control.callers other = clones.control.callers other := by
  cases call with
  | replace request =>
    simp only [begin, SharedControl.act]
    split
    · exact Function.update_of_ne different _ _
    · rfl
  | revoke =>
    simp only [begin, SharedControl.act]
    split
    · exact Function.update_of_ne different _ _
    · rfl
  | _ => rfl

theorem begin_readers (call : Call) (different : other ≠ caller) :
    (clones.begin caller call).readers other = clones.readers other := by
  cases call with
  | replace request => rfl
  | revoke => rfl
  | _ => exact Function.update_of_ne different _ _

theorem begin_coherent (coherent : clones.control.Coherent) (call : Call) :
    (clones.begin caller call).control.Coherent := by
  obtain ⟨credential, revision, -, lock⟩ := clones.begin_control caller call
  simpa only [SharedControl.Coherent, credential, revision, lock] using coherent

theorem begin_place_other (call : Call) (different : other ≠ caller) :
    (clones.begin caller call).place other = clones.place other := by
  refine place_congr (begin_readers call different) ?_
  simp only [SharedControl.place, (begin_control _ _ call).2.2.2, begin_callers call different]

/-- A thread that starts a call has done nothing in it. -/
structure Fresh (place : Place) (call : Call) : Prop where
  serves : place.serves call = true
  written : place.written = false
  passed : place.passed = false
  clone : place.clone = none

theorem begin_fresh (quiet : clones.quiet caller = true) (call : Call) :
    Fresh ((clones.begin caller call).place caller) call := by
  obtain ⟨free, idle⟩ := Bool.and_eq_true_iff.mp quiet
  rw [beq_iff_eq] at idle
  obtain ⟨outside, -⟩ := SharedControl.place_eq_caller (SharedControl.free_iff.mp free)
  have starts : ∀ phase : CallerPhase,
      (clones.withControl (clones.control.setCaller caller phase)).place caller =
        .caller phase := by
    intro phase
    rw [withControl_place idle, SharedControl.setCaller_place outside]
  cases call with
  | replace request =>
    have began : clones.begin caller (.replace request) =
        clones.withControl (clones.control.setCaller caller (.validating request)) := by
      simp [begin, SharedControl.act, free, withControl]
    rw [began, starts]
    exact ⟨by simp, rfl, rfl, rfl⟩
  | revoke =>
    have began : clones.begin caller .revoke =
        clones.withControl (clones.control.setCaller caller .revoking) := by
      simp [begin, SharedControl.act, free, withControl]
    rw [began, starts]
    exact ⟨rfl, rfl, rfl, rfl⟩
  | _ =>
    rw [place_of_busy (by simp [begin, setReader])]
    simp only [begin, setReader, Function.update_self]
    exact ⟨by simp, rfl, rfl, rfl⟩

theorem begin_separate (separate : clones.Separate) (quiet : clones.quiet caller = true)
    (call : Call) : (clones.begin caller call).Separate := by
  obtain ⟨free, idle⟩ := Bool.and_eq_true_iff.mp quiet
  rw [beq_iff_eq] at idle
  obtain ⟨outside, -⟩ := SharedControl.place_eq_caller (SharedControl.free_iff.mp free)
  refine ⟨fun holder stage held => ?_, fun other busy => ?_⟩
  · rw [(begin_control _ _ call).2.2.2] at held
    have different : holder ≠ caller := by
      rintro rfl
      exact outside stage held
    rw [begin_callers call different]
    exact separate.control holder stage held
  · by_cases same : other = caller
    · subst same
      cases call with
      | replace request => exact absurd idle busy
      | revoke => exact absurd idle busy
      | _ => exact free
    · rw [begin_readers call same] at busy
      have before := separate.readers other busy
      simpa only [SharedControl.free, (begin_control _ _ call).2.2.2, begin_callers call same]
        using before

end Clones

/-! ### What a place tells about the log -/

/-- What is known of a thread from where it stands. -/
structure Thread (caller : Nat) (place : Place) (stored : PublisherCredential)
    (log : List CloneEvent) : Prop where
  called : place = .caller .idle ∨
    ∃ call, lastCall caller log = some call ∧ place.serves call = true
  unwritten : place.unwritten = true →
    ∀ before after, .stepped caller before after ∈ sinceCall caller log → after = before
  written : place.written = true → ∃ before after,
    .stepped caller before after ∈ sinceCall caller log ∧
      before.credential.Older after.credential ∧
      lastCall caller log = some (.replace after.credential)
  passed : place.passed = true → ∀ other, .returned other .revoked ∉ beforeCall caller log
  clone : ∀ credential, place.clone = some credential → credential.NoNewer stored ∧
    ∀ other earlier, .returned other (.snapshot (.ok earlier)) ∈ beforeCall caller log →
      earlier.NoNewer credential

/-- What the step of a thread enters, newest first: the step, and the answer if its call returns. -/
def stepEvents (caller : Nat) (before after : ControlData) (answer : Option Answer) :
    List CloneEvent :=
  (answer.map (.returned caller)).toList ++ [.stepped caller before after]

theorem mem_stepEvents {caller : Nat} {before after : ControlData} {answer : Option Answer}
    {event : CloneEvent} :
    event ∈ stepEvents caller before after answer ↔
      (∃ given, answer = some given ∧ event = .returned caller given) ∨
        event = .stepped caller before after := by
  simp [stepEvents, Option.map_eq_some_iff, @eq_comm _ event]

namespace Thread

variable {caller : Nat} {place next : Place} {stored : PublisherCredential}
  {log new : List CloneEvent}

/-- What other threads do. -/
theorem others (thread : Thread caller place stored log) {later : PublisherCredential}
    (newer : stored.NoNewer later)
    (foreign : ∀ event ∈ new, event.isCallOf caller = false ∧
      ∀ before after, event ≠ .stepped caller before after) :
    Thread caller place later (new ++ log) := by
  have uncalled : ∀ event ∈ new, event.isCallOf caller = false :=
    fun event member => (foreign event member).1
  have before : beforeCall caller (new ++ log) = _ := beforeCall_append uncalled
  have since : sinceCall caller (new ++ log) = _ := sinceCall_append uncalled
  have last : lastCall caller (new ++ log) = _ := lastCall_append uncalled
  constructor
  · rw [last]
    exact thread.called
  · intro unwritten before after member
    rw [since] at member
    rcases List.mem_append.mp member with recent | old
    · exact absurd rfl ((foreign _ recent).2 before after)
    · exact thread.unwritten unwritten before after old
  · intro written
    obtain ⟨before, after, member, older, request⟩ := thread.written written
    rw [since, last]
    exact ⟨before, after, List.mem_append_right _ member, older, request⟩
  · rw [before]
    exact thread.passed
  · rw [before]
    intro credential cloned
    obtain ⟨current, newest⟩ := thread.clone credential cloned
    exact ⟨current.trans newer, newest⟩

/-- The thread starts a call. -/
theorem starts {call : Call} (fresh : Clones.Fresh place call) (stored : PublisherCredential)
    (log : List CloneEvent) : Thread caller place stored (.called caller call :: log) where
  called := .inr ⟨call, lastCall_called caller call log, fresh.serves⟩
  unwritten := by simp [sinceCall_called]
  written written := by simp [fresh.written] at written
  passed passed := by simp [fresh.passed] at passed
  clone credential cloned := by simp [fresh.clone] at cloned

/-- The thread takes a step. -/
theorem advances {before after : ControlData} {answer : Option Answer}
    (thread : Thread caller place before.credential log) (busy : place ≠ .caller .idle)
    (moved : Moved place next before after answer)
    (newer : before.credential.NoNewer after.credential)
    (revoked : ∀ other, .returned other .revoked ∈ log → before.revoked = true)
    (snapshots : ∀ other credential, .returned other (.snapshot (.ok credential)) ∈ log →
      credential.NoNewer before.credential) :
    Thread caller next after.credential
      (stepEvents caller before after answer ++ log) := by
  have uncalled : ∀ event ∈ stepEvents caller before after answer,
      event.isCallOf caller = false := by
    intro event member
    rcases mem_stepEvents.mp member with ⟨given, -, rfl⟩ | rfl
    · rfl
    · rfl
  constructor
  · rw [lastCall_append uncalled]
    obtain ⟨call, last, serves⟩ := thread.called.resolve_left busy
    exact (moved.serves call serves).symm.imp id fun still => ⟨call, last, still⟩
  · rw [sinceCall_append uncalled]
    intro unwritten first second member
    obtain ⟨still, rfl⟩ := moved.unwritten unwritten
    rcases List.mem_append.mp member with recent | old
    · rcases mem_stepEvents.mp recent with ⟨given, -, answered⟩ | stepped
      · cases answered
      · cases stepped
        rfl
    · exact thread.unwritten still first second old
  · rw [sinceCall_append uncalled, lastCall_append uncalled]
    intro written
    rcases moved.written written with still | ⟨rfl, older⟩
    · obtain ⟨first, second, member, older, request⟩ := thread.written still
      exact ⟨first, second, List.mem_append_right _ member, older, request⟩
    · obtain ⟨call, last, served⟩ := thread.called.resolve_left busy
      refine ⟨before, after, List.mem_append_left _ (mem_stepEvents.mpr (.inr rfl)), older, ?_⟩
      rw [last, Place.eq_of_comparing served]
  · rw [beforeCall_append uncalled]
    intro passed other member
    rcases moved.passed passed with still | unrevoked
    · exact thread.passed still other member
    · have set := revoked other (mem_of_mem_upTo member)
      rw [unrevoked] at set
      exact absurd set (by simp)
  · rw [beforeCall_append uncalled]
    intro credential cloned
    rcases moved.clone credential cloned with held | rfl
    · obtain ⟨current, newest⟩ := thread.clone credential held
      exact ⟨current.trans newer, newest⟩
    · exact ⟨newer, fun other earlier member =>
        snapshots other earlier (mem_of_mem_upTo member)⟩

end Thread

/-! ### Answers -/

/-- What an answer means for the calls and answers before it.

A replacement that succeeded has written the credential it was called with, later in both
respects than the one it found; one that failed has changed nothing in any of its steps.
Neither a replacement nor a snapshot succeeds if a revocation had returned before its call.
A snapshot is not older than any snapshot that had returned before its call. The revision
is the one its only step found, and not less than any returned before. -/
def Answer.Sound (caller : Nat) (earlier : List CloneEvent) : Answer → Prop
  | .replaced (.ok ()) =>
    (∃ before after, .stepped caller before after ∈ sinceCall caller earlier ∧
      before.credential.Older after.credential ∧
      lastCall caller earlier = some (.replace after.credential)) ∧
    ∀ other, .returned other .revoked ∉ beforeCall caller earlier
  | .replaced (.error _) =>
    ∀ before after, .stepped caller before after ∈ sinceCall caller earlier → after = before
  | .snapshot (.ok credential) =>
    (∀ other, .returned other .revoked ∉ beforeCall caller earlier) ∧
    ∀ other previous, .returned other (.snapshot (.ok previous)) ∈ beforeCall caller earlier →
      previous.NoNewer credential
  | .revision value =>
    (∃ data : ControlData, earlier.head? = some (.stepped caller data data) ∧
      value = data.revision) ∧
    ∀ other previous, .returned other (.revision previous) ∈ earlier → previous ≤ value
  | _ => True

/-- A step never lowers the visible revision, leaves it no newer than the stored one, and keeps
the credential or replaces it by one that is later in both respects. An answer belongs to the
latest call of its thread. -/
def CloneEvent.Sound (event : CloneEvent) (earlier : List CloneEvent) : Prop :=
  match event with
  | .called _ _ => True
  | .stepped _ before after =>
    before.revision ≤ after.revision ∧ after.revision ≤ after.credential.revision ∧
      (after.credential = before.credential ∨ before.credential.Older after.credential)
  | .returned caller answer =>
    (∃ call, lastCall caller earlier = some call ∧ answer.answers call = true) ∧
      answer.Sound caller earlier

theorem Thread.answer_sound {caller : Nat} {place next : Place} {log : List CloneEvent}
    {before after : ControlData} {answer : Answer}
    (thread : Thread caller place before.credential log)
    (moved : Moved place next before after (some answer))
    (revisions : ∀ other previous, .returned other (.revision previous) ∈ log →
      previous ≤ before.revision) :
    answer.Sound caller (.stepped caller before after :: log) := by
  have since : sinceCall caller (.stepped caller before after :: log) =
      .stepped caller before after :: sinceCall caller log := rfl
  have last : lastCall caller (.stepped caller before after :: log) = lastCall caller log := rfl
  have beforehand : beforeCall caller (.stepped caller before after :: log) =
      beforeCall caller log := rfl
  have given := moved.given answer rfl
  match answer with
  | .replaced (.ok ()) =>
    obtain ⟨written, passed⟩ := given
    obtain ⟨first, second, member, older, request⟩ := thread.written written
    exact ⟨⟨first, second, List.mem_cons_of_mem _ member, older, request⟩, thread.passed passed⟩
  | .replaced (.error error) =>
    obtain ⟨unwritten, rfl⟩ := given
    intro first second member
    rw [since] at member
    rcases List.mem_cons.mp member with recent | old
    · obtain ⟨-, rfl, rfl⟩ := CloneEvent.stepped.inj recent
      rfl
    · exact thread.unwritten unwritten first second old
  | .snapshot (.ok credential) =>
    obtain ⟨cloned, passed⟩ := given
    exact ⟨thread.passed passed, (thread.clone credential cloned).2⟩
  | .revision value =>
    obtain ⟨rfl, rfl⟩ := given
    refine ⟨⟨after, rfl, rfl⟩, fun other previous member => ?_⟩
    exact revisions other previous (by simpa using member)
  | .revoked | .isRevoked _ | .snapshot (.error _) | .claimed _ | .dropped => trivial

/-! ### Every interleaving -/

/-- What every interleaving of calls keeps. -/
structure Clones.Invariant (clones : Clones) : Prop where
  coherent : clones.control.Coherent
  separate : clones.Separate
  leased : clones.Leased
  revoked : ∀ other, .returned other .revoked ∈ clones.log → clones.control.revoked = true
  snapshots : ∀ other credential, .returned other (.snapshot (.ok credential)) ∈ clones.log →
    credential.NoNewer clones.control.credential
  revisions : ∀ other previous, .returned other (.revision previous) ∈ clones.log →
    previous ≤ clones.control.revision
  threads : ∀ caller, Thread caller (clones.place caller) clones.control.credential clones.log
  audited : Audited CloneEvent.Sound clones.log

namespace Clones

variable {clones : Clones} {caller : Nat}

theorem withLog_place (log : List CloneEvent) :
    (clones.withLog log).place caller = clones.place caller := rfl

theorem withLog_control (log : List CloneEvent) : (clones.withLog log).control = clones.control :=
  rfl

theorem withLog_log (log : List CloneEvent) : (clones.withLog log).log = log := rfl

theorem Separate.withLog (separate : clones.Separate) (log : List CloneEvent) :
    (clones.withLog log).Separate :=
  ⟨separate.control, separate.readers⟩

theorem Leased.withLog (leased : clones.Leased) (log : List CloneEvent) :
    (clones.withLog log).Leased :=
  ⟨leased.claimed, leased.single, leased.dropping, leased.alone⟩

theorem call_invariant (invariant : clones.Invariant) {call : Call}
    (able : clones.canBegin caller call = true) :
    ((clones.begin caller call).withLog (.called caller call :: clones.log)).Invariant := by
  have quiet := (Bool.and_eq_true_iff.mp able).1
  obtain ⟨credential, revision, revoked, -⟩ := clones.begin_control caller call
  refine ⟨begin_coherent invariant.coherent call,
    (begin_separate invariant.separate quiet call).withLog _,
    (begin_leased invariant.leased able).withLog _, ?_, ?_, ?_, fun other => ?_, trivial,
    invariant.audited⟩
  · intro other member
    rw [withLog_control, revoked]
    exact invariant.revoked other (by simpa [withLog_log] using member)
  · intro other snapshot member
    rw [withLog_control, credential]
    exact invariant.snapshots other snapshot (by simpa [withLog_log] using member)
  · intro other previous member
    rw [withLog_control, revision]
    exact invariant.revisions other previous (by simpa [withLog_log] using member)
  · by_cases same : other = caller
    · subst same
      exact .starts (begin_fresh quiet call) _ _
    · have foreign : ∀ event ∈ [CloneEvent.called caller call], event.isCallOf other = false ∧
          ∀ before after, event ≠ .stepped other before after := by
        simp [CloneEvent.isCallOf, Ne.symm same]
      rw [withLog_place, begin_place_other call same]
      exact (invariant.threads other).others (credential ▸ .refl _) foreign

theorem advance_invariant (invariant : clones.Invariant) (busy : clones.quiet caller = false) :
    (clones.act (.advance caller)).Invariant := by
  have working : clones.place caller ≠ .caller .idle := by
    rw [Ne, ← quiet_iff, busy]
    simp
  have moved := step_moved invariant.separate caller
  have succeeds := step_succeeds invariant.coherent caller
  have separate := step_separate invariant.separate caller
  have leased := step_leased invariant.leased caller
  have elsewhere : ∀ other, other ≠ caller →
      (clones.step caller).1.place other = clones.place other := fun _ => step_place
  have acted : clones.act (.advance caller) = (clones.step caller).1.withLog
      (stepEvents caller clones.data (clones.step caller).1.data (clones.step caller).2 ++
        clones.log) := by
    simp [act, busy, stepEvents]
  rw [acted]
  generalize (clones.step caller).1 = after at *
  generalize (clones.step caller).2 = answer at *
  have returned : ∀ other given, .returned other given ∈
      stepEvents caller clones.data after.data answer ++ clones.log →
      answer = some given ∨ .returned other given ∈ clones.log := by
    intro other given member
    refine (List.mem_append.mp member).imp_left fun recent => ?_
    rcases mem_stepEvents.mp recent with ⟨value, same, event⟩ | stepped
    · cases event
      exact same
    · cases stepped
  have thread := (invariant.threads caller).advances working moved succeeds.noNewer
    invariant.revoked invariant.snapshots
  refine ⟨succeeds.coherent, separate.withLog _, leased.withLog _, ?_, ?_, ?_, ?_, ?_⟩
  · intro other member
    rcases returned other _ member with rfl | old
    · exact moved.given _ rfl
    · exact succeeds.revoked (invariant.revoked other old)
  · intro other credential member
    rcases returned other _ member with rfl | old
    · obtain ⟨cloned, -⟩ := moved.given _ rfl
      exact ((invariant.threads caller).clone credential cloned).1.trans succeeds.noNewer
    · exact (invariant.snapshots other credential old).trans succeeds.noNewer
  · intro other previous member
    rcases returned other _ member with rfl | old
    · obtain ⟨-, rfl⟩ := moved.given _ rfl
      exact succeeds.revision
    · exact Nat.le_trans (invariant.revisions other previous old) succeeds.revision
  · intro other
    by_cases same : other = caller
    · subst same
      exact thread
    · have foreign : ∀ event ∈ stepEvents caller clones.data after.data answer,
          event.isCallOf other = false ∧ ∀ first second, event ≠ .stepped other first second := by
        intro event member
        rcases mem_stepEvents.mp member with ⟨given, -, rfl⟩ | rfl
        · simp [CloneEvent.isCallOf]
        · simp [CloneEvent.isCallOf, Ne.symm same]
      rw [withLog_place, elsewhere other same]
      exact (invariant.threads other).others succeeds.noNewer foreign
  · have stepped : CloneEvent.Sound (.stepped caller clones.data after.data) clones.log :=
      ⟨succeeds.revision, succeeds.coherent.ordered.2, succeeds.credential⟩
    cases answer with
    | none => exact ⟨stepped, invariant.audited⟩
    | some value =>
      obtain ⟨call, last, served⟩ := (invariant.threads caller).called.resolve_left working
      refine ⟨⟨⟨call, last, moved.answers value rfl call served⟩, ?_⟩, stepped, invariant.audited⟩
      exact (invariant.threads caller).answer_sound moved invariant.revisions

theorem act_invariant (invariant : clones.Invariant) (action : CloneAction) :
    (clones.act action).Invariant := by
  cases action with
  | tick elapsed =>
    exact ⟨invariant.coherent, ⟨invariant.separate.control, invariant.separate.readers⟩,
      ⟨invariant.leased.claimed, invariant.leased.single, invariant.leased.dropping,
        invariant.leased.alone⟩, invariant.revoked, invariant.snapshots, invariant.revisions,
      invariant.threads, invariant.audited⟩
  | call caller call =>
    simp only [act]
    split
    next able => exact call_invariant invariant able
    next => exact invariant
  | advance caller =>
    cases busy : clones.quiet caller with
    | true => simpa [act, busy] using invariant
    | false => exact advance_invariant invariant busy

theorem run_invariant (invariant : clones.Invariant) (actions : List CloneAction) :
    (clones.run actions).Invariant := by
  induction actions generalizing clones with
  | nil => exact invariant
  | cons action rest hypothesis =>
    exact hypothesis (act_invariant invariant action)

theorem newWithRevision_invariant {configuration : RelayRouteConfiguration}
    {validUntil revision now : Nat}
    (created : newWithRevision configuration validUntil revision now = .ok clones) :
    clones.Invariant := by
  unfold newWithRevision at created
  split at created
  · contradiction
  split at created
  · contradiction
  split at created
  · contradiction
  obtain rfl := Except.ok.inj created
  refine ⟨rfl, ⟨nofun, fun _ busy => absurd rfl busy⟩, .of_none rfl (by simp) nofun, nofun, nofun,
    nofun, fun caller => ⟨.inl rfl, nofun, nofun, nofun, nofun⟩, trivial⟩

theorem act_revision_le (invariant : clones.Invariant) (action : CloneAction) :
    clones.control.revision ≤ (clones.act action).control.revision := by
  cases action with
  | tick elapsed => exact Nat.le_refl _
  | call caller call =>
    simp only [act]
    split
    · exact Nat.le_of_eq (clones.begin_control caller call).2.1.symm
    · exact Nat.le_refl _
  | advance caller =>
    simp only [act]
    split
    · exact Nat.le_refl _
    · exact (step_succeeds invariant.coherent caller).revision

theorem run_revision_le (invariant : clones.Invariant) (actions : List CloneAction) :
    clones.control.revision ≤ (clones.run actions).control.revision := by
  induction actions generalizing clones with
  | nil => exact Nat.le_refl _
  | cons action rest hypothesis =>
    exact Nat.le_trans (act_revision_le invariant action)
      (hypothesis (act_invariant invariant action))

/-- What holds at every moment: the visible revision is not newer than the stored one and is the
stored one while no replacement is inside the mutex, it never falls later on, at most one lease
is alive, and every step and answer so far is sound for what came before it. -/
structure Disciplined (clones : Clones) : Prop where
  visible : clones.control.revision ≤ clones.control.credential.revision
  settled : clones.control.lock = none →
    clones.control.revision = clones.control.credential.revision
  rising : ∀ more, clones.control.revision ≤ (clones.run more).control.revision
  single : clones.leases.length ≤ 1
  sound : ∀ later event earlier, clones.log = later ++ event :: earlier → event.Sound earlier

/-- Every interleaving of any number of threads on the clones of one control is disciplined. -/
theorem publisher_control_disciplined (configuration : RelayRouteConfiguration)
    (validUntil revision now : Nat) (clones : Clones)
    (created : newWithRevision configuration validUntil revision now = .ok clones)
    (actions : List CloneAction) : (clones.run actions).Disciplined := by
  have invariant := run_invariant (newWithRevision_invariant created) actions
  refine ⟨invariant.coherent.ordered.2, fun free => ?_, run_revision_le invariant,
    invariant.leased.single, fun later event earlier => invariant.audited.at_split⟩
  have coherent := invariant.coherent
  rwa [SharedControl.Coherent, free] at coherent

/-- A control that can be renewed. -/
def renewable : RelayRouteConfiguration where
  relayUrl := "https://relay.example"
  relaySessionId := "session"
  sourceToken := "token"
  busId := "bus"
  publisherGroupId := "group"
  transport := .webSocket

/-- One thread claims and drops a lease, one renews, one takes two snapshots around the
renewal and a third after a revocation; the steps of all of them are interleaved. -/
def renewableActions : List CloneAction :=
  [.call 0 .claim, .call 1 (.replace ⟨"next", 90, 2⟩), .call 2 .snapshot, .advance 2, .advance 1,
    .advance 0, .advance 2, .advance 2, .advance 1, .call 2 .snapshot, .advance 2, .advance 1,
    .advance 1, .advance 1, .call 3 .revision, .advance 3, .advance 1, .advance 2, .advance 2,
    .advance 2, .call 0 (.drop 0), .call 3 .revoke, .advance 3, .advance 0, .call 2 .snapshot,
    .advance 2, .advance 2, .call 0 (.replace ⟨"last", 95, 3⟩), .advance 0, .advance 0,
    .advance 0]

theorem publisher_control_disciplined_renewable :
    ∃ clones, newWithRevision renewable 80 1 0 = .ok clones ∧
      (clones.run renewableActions).Disciplined ∧
      .returned 1 (.replaced (.ok ())) ∈ (clones.run renewableActions).log ∧
      .returned 2 (.snapshot (.ok ⟨"token", 80, 1⟩)) ∈ (clones.run renewableActions).log ∧
      .returned 2 (.snapshot (.ok ⟨"next", 90, 2⟩)) ∈ (clones.run renewableActions).log ∧
      .returned 2 (.snapshot (.error .revoked)) ∈ (clones.run renewableActions).log ∧
      .returned 3 (.revision 2) ∈ (clones.run renewableActions).log ∧
      .returned 0 (.replaced (.error .revoked)) ∈ (clones.run renewableActions).log :=
  ⟨_, rfl, publisher_control_disciplined renewable 80 1 0 _ rfl renewableActions,
    by decide +kernel⟩

end Clones

end RelayConnector
