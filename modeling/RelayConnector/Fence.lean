/-
This file proves that revoking or replacing the capability fences the publisher: once
the call has returned, at most one more media packet goes out under the old authority.

A packet passes the check of `send_until` before it is written, and the control may
change in between; that packet is the one. The invariant therefore keeps an allowance:
one packet, or none while a packet stands between its check and its write. Passing the
check needs a control that has not changed, so no second packet can use the allowance.
-/

import RelayConnector.Coherence

namespace RelayConnector

open GatewayWorld Audit

/-- A media packet is handed over. -/
def Event.isMedia : Event GatewayNote → Bool
  | .note entry => entry.isMedia
  | _ => false

/-- A media packet is handed to a connection that was admitted under a revision below `bound`. -/
def Event.isMediaBelow (bound : Nat) : Event GatewayNote → Bool
  | .note (.media bus _ _ gateway _) =>
    (gateway.active bus).connection.any (·.admission.revision < bound)
  | _ => false

theorem Event.isMediaBelow_of_not_isMedia {bound : Nat} {event : Event GatewayNote}
    (other : event.isMedia = false) : event.isMediaBelow bound = false := by
  cases event with
  | note entry =>
    cases entry with
    | media => cases other
    | _ => rfl
  | _ => rfl

/-! ### The allowances -/

/-- The control was found not revoked, and the packet is not yet written. -/
def Stage.pastRevocation : Stage → Bool
  | .unrevoked | .current | .cleared => true
  | .packed | .written => false

/-- The revision was found to be the held one, and the packet is not yet written. -/
def Stage.pastRevision : Stage → Bool
  | .current | .cleared => true
  | .packed | .unrevoked | .written => false

/-- How many packets may have followed a revocation. -/
def revocationAllowance : Phase → Nat
  | .sending _ _ _ stage => if stage.pastRevocation then 0 else 1
  | _ => 1

/-- How many packets under a revision below `bound` may have followed the replacement by
`bound`. -/
def replacementAllowance (held : Option Nat) (bound : Nat) : Phase → Nat
  | .sending _ _ _ stage => if stage.pastRevision && held.any (· < bound) then 0 else 1
  | _ => 1

theorem revocationAllowance_le (phase : Phase) : revocationAllowance phase ≤ 1 := by
  unfold revocationAllowance
  split
  · split <;> simp
  · exact Nat.le_refl _

theorem replacementAllowance_le (held : Option Nat) (bound : Nat) (phase : Phase) :
    replacementAllowance held bound phase ≤ 1 := by
  unfold replacementAllowance
  split
  · split <;> simp
  · exact Nat.le_refl _

/-- The invariant of a run with recovery. -/
structure Fenced (phase : Phase) (world : GatewayWorld) : Prop where
  known : .control .revoked ∈ world.journal → world.shared.control.revoked = true
  visible : ∀ revision, .control (.replaced revision) ∈ world.journal →
    revision ≤ world.shared.control.revision
  revoked : AtMostAfter (.control .revoked) Event.isMedia (revocationAllowance phase) world.journal
  replaced : ∀ revision, AtMostAfter (.control (.replaced revision))
    (Event.isMediaBelow revision)
    (replacementAllowance world.publisher.heldRevision revision phase) world.journal

namespace Fenced

variable {phase next : Phase} {world after : GatewayWorld}

/-! ### What other threads do -/

/-- What happens on the buses does not concern the fence. -/
theorem elsewhere (fenced : Fenced phase world)
    (control : after.shared.control = world.shared.control)
    (publisher : after.publisher = world.publisher) {entries : List (Event GatewayNote)}
    (journal : after.journal = entries ++ world.journal)
    (buses : ∀ entry ∈ entries, entry.onBuses = true) : Fenced phase after := by
  have silent : ∀ entry ∈ entries, entry.isMedia = false := by
    intro entry member
    cases entry with
    | note => exact absurd (buses _ member) Bool.false_ne_true
    | _ => rfl
  have older : ∀ event, .control event ∈ after.journal → .control event ∈ world.journal := by
    intro event member
    rw [journal] at member
    exact (List.mem_append.mp member).resolve_left fun new =>
      absurd (buses _ new) Bool.false_ne_true
  refine ⟨fun member => ?_, fun revision member => ?_, ?_, fun revision => ?_⟩
  · rw [control]
    exact fenced.known (older _ member)
  · rw [control]
    exact fenced.visible revision (older _ member)
  · rw [journal]
    exact fenced.revoked.of_append silent
  · rw [journal, publisher]
    exact (fenced.replaced revision).of_append fun event member =>
      Event.isMediaBelow_of_not_isMedia (silent event member)

/-- A call on the control makes a step: it returns only when its change is visible. -/
theorem call (fenced : Fenced phase world) (coherent : world.shared.control.Coherent)
    (action : ControlAction) : Fenced phase (world.perform (.control action)) := by
  have changes := (SharedControl.act_changes world.shared.now action coherent).2
  have silent : ∀ event ∈
      ((world.shared.control.act world.shared.now action).2.map
        (Event.control : ControlEvent → Event GatewayNote)).toList, event.isMedia = false := by
    simp [Event.isMedia]
  refine ⟨fun member => ?_, fun revision member => ?_, fenced.revoked.of_append silent,
    fun revision => (fenced.replaced revision).of_append fun event member =>
      Event.isMediaBelow_of_not_isMedia (silent event member)⟩
  · rcases (world.mem_perform_control action _).mp member with event | before
    · rw [event] at changes
      cases changes with
      | quiet _ _ _ _ _ noRevocation => exact absurd rfl noRevocation
      | revokes _ _ revoked => exact revoked
    · exact changes.revoked_of_revoked (fenced.known before)
  · rcases (world.mem_perform_control action _).mp member with event | before
    · have visible : revision = (world.shared.control.act world.shared.now action).1.revision := by
        generalize (world.shared.control.act world.shared.now action).2 = returned at changes event
        cases changes with
        | quiet _ _ _ _ noReplacement => exact absurd event (noReplacement revision)
        | returns => simpa using event.symm
        | _ => cases event
      exact Nat.le_of_eq visible
    · exact Nat.le_trans (fenced.visible revision before) changes.revision_le

theorem act (fenced : Fenced phase world) (coherent : world.shared.control.Coherent)
    (action : Action) : Fenced phase (world.perform action) := by
  by_cases calls : ∃ call, action = .control call
  · obtain ⟨action, rfl⟩ := calls
    exact fenced.call coherent action
  · obtain ⟨control, entries, journal, buses⟩ :=
      world.perform_elsewhere fun call same => calls ⟨call, same⟩
    exact fenced.elsewhere control rfl journal buses

/-! ### What the publisher does -/

/-- A step that ends outside the guarded send and hands nothing over. -/
theorem move (fenced : Fenced phase world) (control : after.shared.control = world.shared.control)
    (entries : List GatewayNote) (journal : after.journal = entries.map .note ++ world.journal)
    (silent : ∀ entry ∈ entries, entry.isMedia = false)
    (free : ∀ held bound, revocationAllowance next = 1 ∧ replacementAllowance held bound next = 1) :
    Fenced next after := by
  have uncounted : ∀ event ∈ entries.map (Event.note : GatewayNote → Event GatewayNote),
      event.isMedia = false := by
    intro event member
    obtain ⟨entry, noted, rfl⟩ := List.mem_map.mp member
    exact silent entry noted
  refine ⟨fun member => ?_, fun revision member => ?_, ?_, fun revision => ?_⟩
  · rw [control]
    exact fenced.known (by simpa [journal] using member)
  · rw [control]
    exact fenced.visible revision (by simpa [journal] using member)
  · rw [journal, (free none 0).1]
    exact (fenced.revoked.mono (revocationAllowance_le _)).of_append uncounted
  · rw [journal, (free _ _).2]
    exact ((fenced.replaced revision).mono (replacementAllowance_le _ _ _)).of_append
      fun event member => Event.isMediaBelow_of_not_isMedia (uncounted event member)

/-- A note that hands nothing over leaves the allowance, wherever the publisher is. -/
theorem note (fenced : Fenced phase world) {entry : GatewayNote} (silent : entry.isMedia = false) :
    Fenced phase (world.note entry) := by
  have uncounted : ∀ event ∈ [Event.note entry], event.isMedia = false := by
    simpa [Event.isMedia] using silent
  refine ⟨fun member => ?_, fun revision member => ?_, fenced.revoked.of_append uncounted,
    fun revision => (fenced.replaced revision).of_append fun event member =>
      Event.isMediaBelow_of_not_isMedia (uncounted event member)⟩
  · exact fenced.known (by simpa [World.note] using member)
  · exact fenced.visible revision (by simpa [World.note] using member)

/-- The check of `send_until` goes on: the allowance is used up only where the control has just
been found unchanged. -/
theorem check {bus : Nat} {frame : EncodedAudioFrame} {packet : List UInt8} {stage passed : Stage}
    (fenced : Fenced (.sending bus frame packet stage) world)
    (revocation : passed.pastRevocation = true → stage.pastRevocation = true ∨
      world.shared.control.revoked = false)
    (revision : passed.pastRevision = true → stage.pastRevision = true ∨ ¬Changed world) :
    Fenced (.sending bus frame packet passed) world where
  known := fenced.known
  visible := fenced.visible
  revoked := by
    cases past : passed.pastRevocation with
    | false =>
      refine fenced.revoked.mono ?_
      simp only [revocationAllowance, past]
      exact revocationAllowance_le (.sending bus frame packet stage)
    | true =>
      rcases revocation past with before | unrevoked
      · have unused := fenced.revoked
        simpa only [revocationAllowance, past, before] using unused
      · refine AtMostAfter.of_notMem fun member => ?_
        rw [fenced.known member] at unrevoked
        cases unrevoked
  replaced bound := by
    cases past : passed.pastRevision with
    | false =>
      refine (fenced.replaced bound).mono ?_
      simp only [replacementAllowance, past, Bool.false_and]
      exact replacementAllowance_le _ bound (.sending bus frame packet stage)
    | true =>
      rcases revision past with before | current
      · have unused := fenced.replaced bound
        simpa only [replacementAllowance, past, before] using unused
      · -- the held revision is the visible one, which no returned replacement exceeds
        cases old : world.publisher.heldRevision.any (· < bound) with
        | false =>
          refine (fenced.replaced bound).mono ?_
          simp only [replacementAllowance, past, old, Bool.and_false]
          split <;> simp
        | true =>
          refine AtMostAfter.of_notMem fun member => current ?_
          obtain ⟨revision, held, below⟩ := Option.any_eq_true .. |>.mp old
          obtain ⟨recovery, has, rfl⟩ := Option.map_eq_some_iff.mp held
          have visible := fenced.visible bound member
          refine ⟨recovery, has, fun same => ?_⟩
          have below : recovery.credential.revision < bound := by simpa using below
          omega

/-- The packet is written: it uses the allowance that was set aside for it. A packet on a
connection of the held revision is not below the bound unless that revision is. -/
theorem write {bus : Nat} {frame : EncodedAudioFrame} {packet : List UInt8}
    (fenced : Fenced (.sending bus frame packet .cleared) world)
    (inside : bus < world.publisher.buses)
    (coherent : Coherent world.publisher world.shared.paused world.notes) :
    Fenced (.sending bus frame packet .written) (handOver bus frame packet world) where
  known member := fenced.known (by simpa [handOver, World.note] using member)
  visible revision member := fenced.visible revision (by simpa [handOver, World.note] using member)
  revoked := fenced.revoked.of_cons_counted
  replaced bound := by
    obtain ⟨_, round, credential, held, _, uniform, _⟩ := coherent
    have held : world.publisher.heldRevision = some credential.revision := by
      obtain ⟨recovery, has, rfl⟩ := Option.map_eq_some_iff.mp held
      rw [Gateway.heldRevision, has, Option.map_some]
    obtain ⟨connection, installed, admission⟩ := uniform bus inside
    refine (fenced.replaced bound).of_cons ?_
    by_cases below : credential.revision < bound <;>
      simp [replacementAllowance, Stage.pastRevision, held, Event.isMediaBelow, installed,
        admission, below]

/-- Every step of the lifecycle keeps the invariant. -/
theorem step (fenced : Fenced phase world) (grouped : Grouped phase world)
    (renewable : world.publisher.recovery.isSome = true) (step : Step phase world next after) :
    Fenced next after := by
  cases step with
  | seeUnrevoked _ _ _ _ unrevoked => exact fenced.check (fun _ => .inr unrevoked) nofun
  | seeCurrent _ _ _ _ current => exact fenced.check (fun _ => .inl rfl) fun _ => .inr current
  | seeUnexpired => exact fenced.check (fun _ => .inl rfl) fun _ => .inl rfl
  | unguarded _ _ _ _ static =>
    rw [static] at renewable
    cases renewable
  | write => exact fenced.write grouped.group.1 grouped.group.2
  | socket => exact fenced.note rfl
  | foundExpired | cancelled | superseded | stale | unencodable | flushed | abandon | pause | ready
    | prepareFails | refuse | late | admitAll | reject | stopRejected | revokedRejected | report =>
    exact fenced.move rfl [_] rfl (by simp [GatewayNote.isMedia]) fun _ _ => ⟨rfl, rfl⟩
  | install =>
    exact fenced.move rfl [_, _] rfl (by simp [GatewayNote.isMedia]) fun _ _ => ⟨rfl, rfl⟩
  | _ => exact fenced.move rfl [] rfl (by simp) fun _ _ => ⟨rfl, rfl⟩

theorem start {held : PreparedIngressRecovery} (launch : Launch (some held)) :
    Fenced .attached launch.world := by
  have quiet : ∀ event, .control event ∉ launch.world.journal := by
    intro event member
    obtain ⟨bus, _, same⟩ := List.mem_mapIdx.mp member
    cases same
  exact ⟨fun member => absurd member (quiet _), fun _ member => absurd member (quiet _),
    AtMostAfter.of_notMem (quiet _), fun _ => AtMostAfter.of_notMem (quiet _)⟩

/-- Wherever a run with recovery is, by induction along it. -/
theorem of_reach {held : PreparedIngressRecovery} {launch : Launch (some held)}
    (reached : Reach launch.world phase world) : Fenced phase world :=
  reached.invariant (motive := Fenced) (start launch)
    (fun _ _ action reached fenced => fenced.act (reached.coherent launch.coherent) action)
    (fun _ _ _ _ reached fenced step =>
      fenced.step (Grouped.of_reach reached) reached.isSome_recovery step)

end Fenced

/-- In every run with recovery, however the calls on the control interleave with the publisher:
once a `revoke` has returned, at most one more media packet is handed to a socket, on whatever
bus; and once a `replace` by a revision has returned, at most one more is handed to a connection
admitted under a smaller revision. -/
theorem media_after_control_change {held : PreparedIngressRecovery} (launch : Launch (some held))
    (schedule : List Turn) (later earlier : List (Event GatewayNote)) :
    ((launch.last schedule).journal = later ++ .control .revoked :: earlier →
      later.countP Event.isMedia ≤ 1) ∧
    ∀ revision, (launch.last schedule).journal = later ++ .control (.replaced revision) :: earlier →
      later.countP (Event.isMediaBelow revision) ≤ 1 := by
  obtain ⟨phase, reached⟩ := launch.reached schedule
  have fenced := Fenced.of_reach reached
  refine ⟨fun split => ?_, fun revision split => ?_⟩
  · exact (fenced.revoked later earlier split).trans (revocationAllowance_le phase)
  · exact (fenced.replaced revision later earlier split).trans (replacementAllowance_le _ _ _)

/-- One thread renews the capability and another revokes it while a packet is between its check
and its write. -/
def overtakenPacket : List Turn :=
  { before := firstFrame 0 } :: quietTurns 12 ++
    [{ before :=
        .control (.replace 0 { sampleCredential with
          revision := 2
          validUntil := sampleCredential.validUntil + 1 }) ::
        List.replicate 6 (.control (.advance 0)) ++
        [.control (.revoke 1), .control (.advance 1)] }]

/-- The one packet that each fence lets through. -/
theorem media_after_control_change_overtaken :
    (∃ later earlier,
      ((sampleLaunch 2).last overtakenPacket).journal =
        later ++ .control .revoked :: earlier ∧ later.countP Event.isMedia ≤ 1) ∧
    ∃ later earlier,
      ((sampleLaunch 2).last overtakenPacket).journal =
        later ++ .control (.replaced 2) :: earlier ∧
      later.countP (Event.isMediaBelow 2) ≤ 1 := by
  have returned : ∀ event, event = .revoked ∨ event = .replaced 2 →
      .control event ∈ ((sampleLaunch 2).last overtakenPacket).journal := by
    have calls : ((sampleLaunch 2).last overtakenPacket).journal.filterMap (fun
        | .control event => some event
        | _ => none) = [.revoked, .replaced 2] := by decide +kernel
    intro event either
    have member : event ∈ [ControlEvent.revoked, .replaced 2] := by simpa using either
    rw [← calls] at member
    obtain ⟨entry, inside, same⟩ := List.mem_filterMap.mp member
    cases entry with
    | control entry => exact Option.some.inj same ▸ inside
    | _ => cases same
  constructor
  · obtain ⟨later, earlier, split⟩ := List.append_of_mem (returned .revoked (.inl rfl))
    exact ⟨later, earlier, split, (media_after_control_change _ _ later earlier).1 split⟩
  · obtain ⟨later, earlier, split⟩ := List.append_of_mem (returned (.replaced 2) (.inr rfl))
    exact ⟨later, earlier, split, (media_after_control_change _ _ later earlier).2 2 split⟩

end RelayConnector
