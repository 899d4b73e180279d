/-
This file asks when a run that ends with the credential failure is right to do so: when
the control is revoked, or the credential of the latest replacement has expired.

An error of the guarded send is looked at again before it ends a run, and so is an error
of an admission round: a replacement in between leads to another attempt. Two places do
not look again. The head of the loop compares the revision first and the expiry of the
held credential afterwards, and an admission round that passes its own deadline reports
it as a credential failure.
-/

import RelayConnector.Launch

namespace RelayConnector

open GatewayWorld

/-! ### The credentials in hand -/

/-- The credential that an attempt works with. -/
def Phase.credential : Phase → Option PublisherCredential
  | .renewing _ credential => some credential
  | .admitting round | .dialling round _ _ _ | .offered round _ | .checking round _ =>
    some round.plan.credential
  | .failed _ plan _ | .rejected _ plan _ | .unstopped _ plan _ | .installing plan _ _ _
  | .resuming plan => some plan.credential
  | _ => none

/-- The held credential and the one in hand were given out by the control. -/
structure Known (phase : Phase) (world : GatewayWorld) : Prop where
  held : ∀ recovery, world.publisher.recovery = some recovery →
    world.shared.control.Knows recovery.credential
  inHand : ∀ credential, phase.credential = some credential →
    world.shared.control.Knows credential

namespace Known

variable {phase next : Phase} {world after : GatewayWorld}

/-- What was given out stays given out. -/
theorem knows_perform {credential : PublisherCredential}
    (known : world.shared.control.Knows credential) (coherent : world.shared.control.Coherent)
    (action : Action) : (world.perform action).shared.control.Knows credential := by
  cases action with
  | control call => exact (SharedControl.act_changes _ call coherent).2.knows known
  | _ => exact known

theorem act (known : Known phase world) (coherent : world.shared.control.Coherent)
    (action : Action) : Known phase (world.perform action) where
  held recovery has := knows_perform (known.held recovery has) coherent action
  inHand credential has := knows_perform (known.inHand credential has) coherent action

/-- A credential comes from the control only while its mutex is free. -/
theorem step (known : Known phase world) (step : Step phase world next after) :
    Known next after := by
  cases step with
  | snapshot _ _ _ free =>
    refine ⟨known.held, fun credential same => ?_⟩
    cases same
    exact SharedControl.knows_credential free
  | adopt =>
    refine ⟨fun recovery has => ?_, known.inHand⟩
    obtain ⟨before, _, rfl⟩ := Option.map_eq_some_iff.mp has
    exact known.inHand _ rfl
  | begin | deny | dial | ready | prepareFails | prepared | refuse | advance | withdraw | late
    | accept | admitAll | reject | goOn | install | socket => exact ⟨known.held, known.inHand⟩
  | _ => exact ⟨known.held, nofun⟩

theorem of_reach {recovery : Option PreparedIngressRecovery} {launch : Launch recovery}
    (reached : Reach launch.world phase world) : Known phase world :=
  reached.invariant (motive := Known) ⟨launch.known, nofun⟩
    (fun _ _ action reached known => known.act (reached.coherent launch.coherent) action)
    fun _ _ _ _ _ known step => known.step step

end Known

/-! ### What a credential error says -/

/-- The credential can no longer be used: the control is revoked or has moved on, or the
credential has expired. -/
def Spent (world : GatewayWorld) (credential : PublisherCredential) : Prop :=
  world.shared.control.revoked = true ∨ world.shared.control.revision ≠ credential.revision ∨
    credential.validUntil ≤ world.shared.now

/-- The control is revoked, or the credential of its latest replacement has expired. -/
def Truth (control : SharedControl) (now : Nat) : Prop :=
  control.revoked = true ∨ control.renewed.validUntil ≤ now

section Spent

variable {world : GatewayWorld} {credential : PublisherCredential}

/-- A spent credential stays spent: revocation and expiry are final, and the visible revision
only grows. -/
theorem Spent.act (spent : Spent world credential)
    (known : world.shared.control.Knows credential) (coherent : world.shared.control.Coherent)
    (action : Action) : Spent (world.perform action) credential := by
  rcases spent with revoked | superseded | expired
  · exact .inl (world.perform_revoked action coherent revoked)
  · cases action with
    | control call =>
      have bounded := known.revision_le coherent
      have grows := (SharedControl.act_changes world.shared.now call coherent).2.revision_le
      refine .inr (.inl ?_)
      show (world.shared.control.act world.shared.now call).1.revision ≠ credential.revision
      omega
    | _ => exact .inr (.inl superseded)
  · exact .inr (.inr (expired.trans (world.now_le_perform action)))

/-- If the spent credential is still the visible one, its end is the truth. -/
theorem Spent.truth (spent : Spent world credential)
    (known : world.shared.control.Knows credential) (coherent : world.shared.control.Coherent)
    (visible : world.shared.control.revision = credential.revision) :
    Truth world.shared.control world.shared.now := by
  rcases spent with revoked | superseded | expired
  · exact .inl revoked
  · exact absurd visible superseded
  · exact .inr (known.eq_renewed coherent visible ▸ expired)

theorem spent_of_invalid {recovery : PreparedIngressRecovery} (invalid : Invalid world)
    (held : world.publisher.recovery = some recovery) : Spent world recovery.credential := by
  rcases invalid with revoked | ⟨other, has, reason⟩
  · exact .inl revoked
  · cases held.symm.trans has
    exact .inr (reason.imp_left Ne.symm)

end Spent

/-- What justifies the error at each point of the lifecycle. -/
def ExcusedAt (world : GatewayWorld) : Phase → Prop
  | .broken error => credentialChanged error = true →
      ∀ recovery, world.publisher.recovery = some recovery → Spent world recovery.credential
  | .failed _ plan error | .rejected _ plan error => credentialChanged error = true →
      Spent world plan.credential ∨ StopRequested world
  | .unstopped _ plan error => credentialChanged error = true → Spent world plan.credential
  | .ended error control now => error = some (.failure .credential) → Truth control now
  | _ => True

/-- The two places that do not look again did not have to: an admission round that was late had a
credential that was expired, and a held credential that was found expired was the latest one. -/
def GatewayNote.punctual : GatewayNote → Bool
  | .late validUntil now => validUntil ≤ now
  | .expired renewed held => renewed = held
  | _ => true

def Punctual (notes : List GatewayNote) : Prop := ∀ entry ∈ notes, entry.punctual = true

/-- The invariant of a punctual run with recovery. -/
structure Excused (phase : Phase) (world : GatewayWorld) : Prop where
  excuse : ExcusedAt world phase
  ends : ∀ control now, .ended (some (.failure .credential)) control now ∈ world.notes →
    Truth control now

theorem Punctual.of_append {entries notes : List GatewayNote}
    (punctual : Punctual (entries ++ notes)) : Punctual notes :=
  fun entry member => punctual entry (List.mem_append_right _ member)

namespace Excused

variable {phase next : Phase} {world after : GatewayWorld}

theorem act (excused : Excused phase world) (known : Known phase world)
    (coherent : world.shared.control.Coherent) (action : Action) :
    Excused phase (world.perform action) := by
  have excuse := excused.excuse
  refine ⟨?_, by simpa using excused.ends⟩
  cases phase with
  | broken error =>
    intro changed recovery held
    exact (excuse changed recovery held).act (known.held recovery held) coherent action
  | failed made plan error | rejected made plan error =>
    intro changed
    refine (excuse changed).imp (fun spent => spent.act (known.inHand _ rfl) coherent action)
      fun requested => ?_
    obtain ⟨context, stop⟩ := Bool.and_eq_true_iff.mp requested
    exact Bool.and_eq_true_iff.mpr ⟨context, world.perform_stopRequested action stop⟩
  | unstopped made plan error =>
    exact fun changed => (excuse changed).act (known.inHand _ rfl) coherent action
  | ended => exact excuse
  | _ => trivial

/-- A step that does not report the end of the run. -/
theorem move (excused : Excused phase world) (entries : List GatewayNote)
    (notes : after.notes = entries ++ world.notes)
    (silent : ∀ error control now, .ended error control now ∉ entries)
    (excuse : ExcusedAt after next) : Excused next after := by
  refine ⟨excuse, fun control now member => ?_⟩
  rw [notes] at member
  exact excused.ends control now ((List.mem_append.mp member).resolve_left (silent _ control now))

/-- A run gives up over an error of the guarded send only if the revision is still the held one. -/
theorem giveUp {error : IngressError} (excused : Excused (.broken error) world)
    (known : Known (.broken error) world) (coherent : world.shared.control.Coherent)
    (renewable : world.publisher.recovery.isSome = true)
    (final : world.publisher.recovery = none ∨
      recoverable error = false ∧ ¬(Changed world ∧ credentialChanged error = true))
    (same : some error = some (.failure .credential)) :
    Truth world.shared.control world.shared.now := by
  obtain ⟨recovery, held⟩ := Option.isSome_iff_exists.mp renewable
  cases same
  have visible : world.shared.control.revision = recovery.credential.revision := by
    rcases final with none | ⟨_, unchanged⟩
    · rw [none] at held
      cases held
    · by_contra differs
      exact unchanged ⟨⟨recovery, held, Ne.symm differs⟩, rfl⟩
  exact (excused.excuse rfl recovery held).truth (known.held recovery held) coherent visible

/-- Every step of a punctual run keeps the invariant. -/
theorem step (excused : Excused phase world) (known : Known phase world)
    (coherent : world.shared.control.Coherent)
    (renewable : world.publisher.recovery.isSome = true) (punctual : Punctual after.notes)
    (step : Step phase world next after) : Excused next after := by
  have excuse := excused.excuse
  cases step with
  | foundRevoked _ revoked => exact excused.move [] rfl (by simp) fun _ => .inl revoked
  | foundExpired _ recovery held expired =>
    refine excused.move [_] rfl (by simp) fun _ => .inr ?_
    have latest : world.shared.control.renewed.revision = recovery.credential.revision :=
      of_decide_eq_true (punctual _ (List.mem_cons_self ..))
    rw [← (known.held recovery held).2 latest.symm]
    exact expired
  | readFails _ _ other =>
    exact excused.move [] rfl (by simp) fun changed => by simp [other] at changed
  | unencodable => exact excused.move [_] rfl (by simp) fun changed => by cases changed
  | disconnected => exact excused.move [] rfl (by simp) fun changed => by cases changed
  | abandon _ _ _ _ _ _ truthful _ =>
    exact excused.move [_] rfl (by simp) fun changed _ held =>
      spent_of_invalid (truthful changed) held
  | giveUp _ _ final =>
    exact excused.move [] rfl (by simp) (excused.giveUp known coherent renewable final)
  | revokedWhileWaiting _ _ revoked => exact excused.move [] rfl (by simp) fun _ => .inl revoked
  | leave | stop | exhausted | snapshotFails | outOfTime =>
    exact excused.move [] rfl (by simp) nofun
  | stopRejected => exact excused.move [_] rfl (by simp) nofun
  | deny _ _ truthful =>
    refine excused.move [] rfl (by simp) fun _ => ?_
    rcases truthful with revoked | superseded | requested
    · exact .inl (.inl revoked)
    · exact .inl (.inr (.inl superseded))
    · exact .inr requested
  | prepareFails _ _ _ _ _ _ other =>
    exact excused.move [_] rfl (by simp) fun changed => by simp [other] at changed
  | refuse => exact excused.move [_] rfl (by simp) fun changed => by cases changed
  | withdraw _ _ _ truthful =>
    exact excused.move [] rfl (by simp) fun _ => .inl (truthful.imp_right .inl)
  | late _ round =>
    have expired : round.plan.credential.validUntil ≤ world.shared.now :=
      of_decide_eq_true (punctual _ (List.mem_cons_self ..))
    exact excused.move [_] rfl (by simp) fun _ => .inl (.inr (.inr expired))
  | reject | socket => exact excused.move [_] rfl (by simp) excuse
  | goOn _ _ _ _ running =>
    exact excused.move [] rfl (by simp) fun changed => (excuse changed).resolve_right running
  | revokedRejected _ _ _ _ revoked => exact excused.move [_] rfl (by simp) fun _ => .inl revoked
  | terminal _ _ _ _ _ same =>
    refine excused.move [] rfl (by simp) fun credential => ?_
    cases credential
    have visible := same.resolve_left (by simp [credentialChanged])
    exact (excuse rfl).truth (known.inHand _ rfl) coherent visible
  | report =>
    refine ⟨trivial, fun control now member => ?_⟩
    rcases List.mem_cons.mp member with reported | before
    · cases reported
      exact excuse rfl
    · exact excused.ends control now before
  | install => exact excused.move [_, _] rfl (by simp) trivial
  | cancelled | superseded | stale | write | flushed | pause | ready | admitAll =>
    exact excused.move [_] rfl (by simp) trivial
  | _ => exact excused.move [] rfl (by simp) trivial

/-- Wherever a punctual run with recovery is, by induction along it. -/
theorem of_reach {held : PreparedIngressRecovery} {launch : Launch (some held)}
    (reached : Reach launch.world phase world) (punctual : Punctual world.notes) :
    Excused phase world := by
  refine reached.invariant (motive := fun phase world => Punctual world.notes →
    Excused phase world) ?_ ?_ ?_ punctual
  · refine fun _ => ⟨trivial, fun control now member => ?_⟩
    obtain ⟨_, _, _, same⟩ := launch.mem_notes_world.mp member
    cases same
  · intro phase world action reached excused punctual
    rw [World.perform_notes] at punctual
    exact (excused punctual).act (Known.of_reach reached) (reached.coherent launch.coherent) action
  · intro phase world next after reached excused step punctual
    obtain ⟨entries, notes⟩ := step.notes
    exact (excused (notes ▸ punctual).of_append).step (Known.of_reach reached)
      (reached.coherent launch.coherent) reached.isSome_recovery punctual step

end Excused

/-- The error that a run returns was noted, with the control and the clock of that moment, when
`publish_group` returned it. -/
theorem Reach.reported {recovery : Option PreparedIngressRecovery} {launch : Launch recovery}
    {error : Option IngressError} {world : GatewayWorld}
    (reached : Reach launch.world (.finished error) world) :
    ∃ control now, .ended error control now ∈ world.notes := by
  refine reached.invariant (motive := fun phase world => ∀ error, phase = .finished error →
    ∃ control now, .ended error control now ∈ world.notes) nofun ?_ ?_ error rfl
  · intro phase world action _ reported error same
    rw [World.perform_notes]
    exact reported error same
  · intro phase world next after _ reported step error same
    cases step with
    | report =>
      cases same
      exact ⟨_, _, List.mem_cons_self ..⟩
    | pauseForGood | recordInputDrops | closeDown => exact reported error same
    | socket =>
      obtain ⟨control, now, noted⟩ := reported error same
      exact ⟨control, now, List.mem_cons_of_mem _ noted⟩
    | _ => cases same

/-- In every run with recovery that is punctual: if it returns the credential failure, then at the
moment it ended the control was revoked or the credential of the latest replacement had expired.
Punctual means that no admission round was found late while its credential was valid, and that no
held credential was found expired after a newer one had replaced it. -/
theorem credential_failure_truthful {held : PreparedIngressRecovery} (launch : Launch (some held))
    (schedule : List Turn)
    (punctual : ∀ entry ∈ (launch.last schedule).notes, entry.punctual = true)
    (result : IngressRunResult) (returns : (launch.run schedule).1 = .ok result)
    (failure : result.error = some (.failure .credential)) :
    (∃ control now,
      .ended (some (.failure .credential)) control now ∈ (launch.last schedule).notes) ∧
    ∀ control now,
      .ended (some (.failure .credential)) control now ∈ (launch.last schedule).notes →
      control.revoked = true ∨ control.renewed.validUntil ≤ now := by
  obtain ⟨reached, _⟩ := launch.returned returns
  refine ⟨?_, (Excused.of_reach reached punctual).ends⟩
  rw [failure] at reached
  exact reached.reported

/-- The control is revoked before the loop looks at it. -/
def revokedRun : List Turn :=
  {} :: { before := [.control (.revoke 0), .control (.advance 0)] } :: quietTurns 8

theorem credential_failure_truthful_revoked :
    ∃ control now,
      .ended (some (.failure .credential)) control now ∈
        ((sampleLaunch 1).last revokedRun).notes ∧
      (control.revoked = true ∨ control.renewed.validUntil ≤ now) := by
  have punctual : ((sampleLaunch 1).last revokedRun).notes.all GatewayNote.punctual = true := by
    decide +kernel
  have fails : ((sampleLaunch 1).run revokedRun).1.toOption.map (·.error) =
      some (some (.failure .credential)) := by decide +kernel
  cases returns : ((sampleLaunch 1).run revokedRun).1 with
  | error halt =>
    rw [returns] at fails
    cases fails
  | ok result =>
    rw [returns] at fails
    obtain ⟨⟨control, now, ended⟩, truthful⟩ := credential_failure_truthful (sampleLaunch 1)
      revokedRun (List.all_eq_true.mp punctual) result returns (Option.some.inj fails)
    exact ⟨control, now, ended, truthful control now ended⟩

/-- The run ends with the credential failure while the control is not revoked and its latest
credential is valid. -/
def GatewayNote.untruthful : GatewayNote → Bool
  | .ended (some (.failure .credential)) control now =>
    !control.revoked && now < control.renewed.validUntil
  | _ => false

/-- Two runs that fail although the capability is valid. In the first, READY comes in time and the
deadline of the attachment passes before the check that follows it. In the second, a replacement
returns after the revision was compared, and the credential it replaced expires before the clock
is read. -/
theorem credential_failure_of_valid_capability :
    ((sampleLaunch 1).last (untilReady ++ readyTurn 2 :: quietTurns 6 ++
      { before := [.tick 1000000000] } :: quietTurns 12)).notes.any GatewayNote.untruthful = true ∧
    ((sampleLaunch 1).last (quietTurns 3 ++
      [{ before := .control (.replace 0 { sampleCredential with
            revision := 2
            validUntil := 2 * sampleCredential.validUntil }) ::
          List.replicate 6 (.control (.advance 0)) ++
          [.tick sampleCredential.validUntil] }])).notes.any GatewayNote.untruthful = true := by
  decide +kernel

end RelayConnector
