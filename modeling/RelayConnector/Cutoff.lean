/-
This file shows that a new attachment carries no audio from before it.

The feeder raises `capture_end_ns` to the end of every frame before it does anything else
with the frame. A reattachment loads it as the cutoff of the new attachment, and the
gateway compares the cutoff with the stamp of a packet, which is the time of its first
sample. A packet with a sample of a frame that was stamped before the load began in that
frame or in one before it, so its stamp lies below the cutoff.
-/

import RelayConnector.Cancellation
import RelayConnector.Drive
import RelayConnector.Exposure

namespace RelayConnector

open Audit Words Subsequence GatewayWorld

/-! ### The stamps of a bus -/

/-- The stamps entered in a history, oldest first: the index of a frame and the end of its
capture. -/
def stampedIn (events : List PipeEvent) : List (Nat × Nat) :=
  events.reverse.filterMap fun
    | .stamped index captureEndNs => some (index, captureEndNs)
    | _ => none

theorem stampedIn_append (new events : List PipeEvent) :
    stampedIn (new ++ events) = stampedIn events ++ stampedIn new := by
  simp [stampedIn]

theorem mem_stampedIn {events : List PipeEvent} {index captureEndNs : Nat} :
    (index, captureEndNs) ∈ stampedIn events ↔ .stamped index captureEndNs ∈ events := by
  simp only [stampedIn, List.mem_filterMap, List.mem_reverse]
  constructor
  · rintro ⟨event, member, same⟩
    cases event with
    | stamped => cases same; exact member
    | _ => cases same
  · exact fun member => ⟨_, member, rfl⟩

def SourceFrame.stamp (frame : SourceFrame) : Nat × Nat := (frame.index, frame.captureEndNs)

/-- The frame that was received last, until it is stamped. -/
def FeederPhase.unstamped : FeederPhase → List SourceFrame
  | .stamping frame => [frame]
  | _ => []

namespace Pipe

/-- Frames are stamped in the order in which they are received, and `capture_end_ns` is not below
any of the stamps. -/
structure Stamps (events : List PipeEvent) (pipe : Pipe) : Prop where
  order : stampedIn events ++ pipe.feeder.unstamped.map SourceFrame.stamp =
    (receivedIn events).map SourceFrame.stamp
  bounded : ∀ stamp ∈ stampedIn events, stamp.2 ≤ pipe.captureEndNs

/-- What the encoder has to do with the stamps: nothing. -/
theorem encode_stamps (pipe : Pipe) (ambient : Ambient) (codec : Option (List UInt8)) :
    (pipe.encode ambient codec).1.feeder = pipe.feeder ∧
      (pipe.encode ambient codec).1.captureEndNs = pipe.captureEndNs ∧
      stampedIn (pipe.encode ambient codec).2 = [] ∧
      receivedIn (pipe.encode ambient codec).2 = [] := by
  have resumed : ∀ (other : Pipe) (next : Resume), (other.resume next).feeder = other.feeder ∧
      (other.resume next).captureEndNs = other.captureEndNs := by
    intro other next
    cases next <;> exact ⟨rfl, rfl⟩
  have kept : (pipe.encode ambient codec).1.feeder = pipe.feeder ∧
      (pipe.encode ambient codec).1.captureEndNs = pipe.captureEndNs := by
    unfold encode finishTail admitFrame pushRound sendEncoded
    split <;> repeat' split
    all_goals first | exact ⟨rfl, rfl⟩ | exact resumed _ _
  refine ⟨kept.1, kept.2, ?_, pipe.receivedIn_encode ambient codec⟩
  refine List.filterMap_eq_nil_iff.mpr fun event member => ?_
  have own := pipe.encode_entries ambient codec event (List.mem_reverse.mp member)
  cases event <;> first | rfl | cases own

namespace Stamps

variable {pipe after : Pipe} {events entries : List PipeEvent}

/-- A step that neither receives nor stamps. -/
theorem keep (stamps : Stamps events pipe) (feeder : after.feeder.unstamped = pipe.feeder.unstamped)
    (captureEnd : after.captureEndNs = pipe.captureEndNs) (unstamped : stampedIn entries = [])
    (unreceived : receivedIn entries = []) : Stamps (entries ++ events) after where
  order := by
    rw [stampedIn_append, receivedIn_append, unstamped, unreceived, List.append_nil,
      List.append_nil, feeder]
    exact stamps.order
  bounded := by
    rw [stampedIn_append, unstamped, List.append_nil, captureEnd]
    exact stamps.bounded

/-- With recovery a received frame is stamped next. -/
theorem feed (stamps : Stamps events pipe) {ambient : Ambient} (recovers : ambient.paused.isSome)
    (arrival : Option (AudioFrame UInt32)) :
    Stamps ((pipe.feed ambient arrival).2 ++ events) (pipe.feed ambient arrival).1 := by
  unfold Pipe.feed
  split
  next phase => split <;> exact stamps.keep (by rw [phase]; rfl) rfl rfl rfl
  next phase =>
    split
    next captured =>
      simp only [recovers, if_true]
      have complete := stamps.order
      rw [phase] at complete
      simp only [FeederPhase.unstamped, List.map_nil, List.append_nil] at complete
      refine ⟨?_, ?_⟩
      · rw [stampedIn_append, receivedIn_append, List.map_append, ← complete]
        simp [stampedIn, receivedIn, FeederPhase.unstamped]
      · rw [stampedIn_append]
        simpa [stampedIn] using stamps.bounded
    next => exact stamps.keep (by rw [phase]; rfl) rfl rfl rfl
  next frame phase =>
    have complete := stamps.order
    rw [phase] at complete
    refine ⟨?_, ?_⟩
    · rw [stampedIn_append, receivedIn_append, List.map_append, ← complete]
      simp [stampedIn, receivedIn, FeederPhase.unstamped, SourceFrame.stamp]
    · intro stamp member
      rw [stampedIn_append] at member
      rcases List.mem_append.mp member with old | new
      · exact (stamps.bounded stamp old).trans (Nat.le_max_left _ _)
      · rw [List.mem_singleton.mp new]
        exact Nat.le_max_right _ _
  next phase => split <;> exact stamps.keep (by rw [phase]; rfl) rfl rfl rfl
  next phase =>
    split
    · exact stamps.keep (by rw [phase]; rfl) rfl rfl rfl
    · split <;> exact stamps.keep (by rw [phase]; rfl) rfl rfl rfl
  next phase => split <;> exact stamps.keep (by rw [phase]; rfl) rfl rfl rfl
  next => exact stamps.keep rfl rfl rfl rfl

theorem of_history {first : Pipe} (initially : Stamps [] first)
    (history : History (fun ambient => ambient.paused.isSome) first pipe events) :
    Stamps events pipe := by
  induction history with
  | start => exact initially
  | feed _ ambient recovers arrival hypothesis =>
    exact hypothesis.feed recovers arrival
  | @encode pipe _ _ ambient _ codec hypothesis =>
    obtain ⟨feeder, captureEnd, unstamped, unreceived⟩ := pipe.encode_stamps ambient codec
    exact hypothesis.keep (congrArg FeederPhase.unstamped feeder) captureEnd unstamped unreceived
  | @receive pipe _ _ hypothesis =>
    unfold Pipe.tryRecv
    split <;> exact ⟨hypothesis.order, hypothesis.bounded⟩
  | count _ _ hypothesis =>
    exact ⟨hypothesis.order, hypothesis.bounded⟩

/-- When a frame has been stamped, so have the frames received before it. -/
theorem earlier (stamps : Stamps (entries ++ events) pipe)
    (enumerated : Enumerated SourceFrame.index (receivedIn (entries ++ events)))
    {frame : SourceFrame} (received : frame ∈ receivedIn (entries ++ events))
    {index captureEndNs : Nat} (stamped : (index, captureEndNs) ∈ stampedIn events)
    (le : frame.index ≤ index) : frame.stamp ∈ stampedIn events := by
  have prefixed : stampedIn events <+:
      (receivedIn (entries ++ events)).map SourceFrame.stamp := by
    rw [← stamps.order, stampedIn_append, List.append_assoc]
    exact List.prefix_append _ _
  rw [List.prefix_iff_eq_take.mp prefixed, ← List.map_take] at stamped ⊢
  obtain ⟨last, member, same⟩ := List.mem_map.mp stamped
  refine List.mem_map_of_mem (enumerated.mem_take member received ?_)
  rw [show last.index = index from congrArg Prod.fst same]
  exact le

end Stamps

end Pipe

theorem BusLayout.stamps_pipe (layout : BusLayout) : Pipe.Stamps [] layout.pipe where
  order := rfl
  bounded _ impossible := nomatch impossible

/-! ### Packets and cutoffs -/

/-- Neither the duration of the frame nor its end needs more than a 64-bit word. -/
def SourceFrame.Representable (frame : SourceFrame) : Prop :=
  frame.samples.length / frame.channels * 1000000000 < 2 ^ 64 ∧
    frame.timestampNs + frame.samples.length / frame.channels * 1000000000 / 48000 < 2 ^ 64

instance (frame : SourceFrame) : Decidable frame.Representable :=
  inferInstanceAs (Decidable (_ ∧ _))

/-- A packet is stamped before the end of the frame it begins in. -/
theorem Drawn.lt_captureEndNs {generation : Option Nat} {channels timestampNs : Nat}
    {first : SourceFrame} {rest : List SourceFrame} {stream : List PcmSample}
    (drawn : Drawn generation channels timestampNs first rest stream)
    (representable : first.Representable) : timestampNs < first.captureEndNs := by
  obtain ⟨offset, inside, rfl, -⟩ := drawn.starts
  obtain ⟨width, aligned⟩ := drawn.fits
  obtain ⟨duration, ends⟩ := representable
  have place : offset / channels < first.samples.length / first.channels := by
    rw [width]
    refine Nat.div_lt_of_lt_mul ?_
    rw [Nat.mul_div_cancel' (Nat.dvd_of_mod_eq_zero aligned)]
    exact inside
  simp only [AudioFrame.captureEndNs, offsetNs]
  generalize offset / channels = before at place ⊢
  generalize first.samples.length / first.channels = sampleFrames at place duration ends ⊢
  have sooner : before * 1000000000 / 48000 < sampleFrames * 1000000000 / 48000 := by omega
  have whole : saturatingMul sampleFrames 1000000000 = sampleFrames * 1000000000 :=
    saturatingMul_of_le (Nat.le_sub_one_of_lt duration)
  have part : saturatingMul before 1000000000 = before * 1000000000 :=
    saturatingMul_of_le (by unfold u64Max; omega)
  have fits : first.timestampNs + sampleFrames * 1000000000 / 48000 ≤ u64Max :=
    Nat.le_sub_one_of_lt ends
  rw [whole, part]
  calc saturatingAdd first.timestampNs (before * 1000000000 / 48000)
      ≤ first.timestampNs + before * 1000000000 / 48000 := saturatingAdd_le _ _
    _ < first.timestampNs + sampleFrames * 1000000000 / 48000 := Nat.add_lt_add_left sooner _
    _ = saturatingAdd first.timestampNs (sampleFrames * 1000000000 / 48000) :=
      (saturatingAdd_of_le fits).symm

/-- The end of no frame that was stamped before lies above the limit. -/
def CutOff (bus : Nat) (limit : Option Nat) (earlier : List (Event GatewayNote)) : Prop :=
  ∃ cutoff, limit = some cutoff ∧
    ∀ stamp ∈ stampedIn (World.pipeEvents bus earlier), stamp.2 ≤ cutoff

/-- What is known of a packet when it is handed over: it is not stamped before the end of a frame
that was stamped before some cutoff was loaded. -/
def afterCutoffs (bus : Nat) : Event GatewayNote → List (Event GatewayNote) → Prop
  | .note (.media other frame _ _ _), log => other = bus →
    Before (.note (.cutoff bus)) (fun earlier =>
      ∀ stamp ∈ stampedIn (World.pipeEvents bus earlier), stamp.2 ≤ frame.captureTimestampNs) log
  | _, _ => True

/-- The limit below which a packet of the bus is dropped. -/
def GatewayWorld.limit (bus : Nat) (world : GatewayWorld) : Option Nat :=
  (world.publisher.active bus).notBeforeCaptureNs

structure Limited (bus : Nat) (phase : Phase) (world : GatewayWorld) : Prop where
  cutoffs : Before (.note (.cutoff bus)) (CutOff bus (world.limit bus)) world.journal
  vetted : ∀ frame, phase.vetted = some (bus, frame) →
    (world.limit bus).all (· ≤ frame.captureTimestampNs) = true
  handed : Audited (afterCutoffs bus) world.journal

namespace Limited

variable {bus : Nat} {phase next : Phase} {world after : GatewayWorld}

/-- A step that loads no cutoff of the bus and hands nothing over. -/
theorem keep (limited : Limited bus phase world) (same : after.limit bus = world.limit bus)
    (entries : List (Event GatewayNote)) (journal : after.journal = entries ++ world.journal)
    (cutoff : .note (.cutoff bus) ∉ entries)
    (silent : ∀ entry ∈ entries, ∀ earlier, afterCutoffs bus entry earlier)
    (vetted : next.vetted = none ∨ next.vetted = phase.vetted) : Limited bus next after where
  cutoffs := by
    rw [journal, same]
    exact limited.cutoffs.append cutoff
  vetted frame held := by
    rw [same]
    rcases vetted with none | kept
    · rw [none] at held
      cases held
    · exact limited.vetted frame (kept ▸ held)
  handed := by
    rw [journal]
    exact limited.handed.append silent

theorem perform (limited : Limited bus phase world) (action : Action) :
    Limited bus phase (world.perform action) := by
  refine limited.keep rfl _ rfl (World.note_not_mem_perform world.shared action _) ?_ (.inr rfl)
  intro entry member earlier
  cases entry with
  | note entry => exact absurd member (World.note_not_mem_perform world.shared action entry)
  | _ => trivial

/-- The cutoff of the bus is loaded. -/
theorem install (limited : Limited bus phase world) {loaded : Nat} {connection : IngressConnection}
    {revision : Nat} {renewed : Bool} (idle : next.vetted = none)
    (bounded : ∀ stamp ∈ stampedIn (World.pipeEvents bus world.journal),
      stamp.2 ≤ (world.shared.pipes bus).captureEndNs) :
    Limited bus next (GatewayWorld.install loaded connection revision renewed world) := by
  by_cases same : loaded = bus
  · subst same
    have limit : (GatewayWorld.install loaded connection revision renewed world).limit loaded =
        some (world.shared.pipes loaded).captureEndNs := by
      simp [GatewayWorld.limit, GatewayWorld.install, updateGateway, World.note,
        Gateway.setActive, ActiveIngress.install]
    refine ⟨?_, fun frame held => ?_, ?_⟩
    · intro later earlier split
      refine ⟨_, limit, fun stamp member => bounded stamp ?_⟩
      have shown :
          stampedIn (World.pipeEvents loaded (later ++ .note (.cutoff loaded) :: earlier)) =
          stampedIn (World.pipeEvents loaded world.journal) := by
        rw [← split]
        rfl
      rw [← shown, World.pipeEvents_append, stampedIn_append]
      exact List.mem_append_left _ member
    · rw [idle] at held
      cases held
    · exact ⟨trivial, trivial, limited.handed⟩
  · refine limited.keep ?_ [.note (.installed loaded connection), .note (.cutoff loaded)] rfl ?_ ?_
      (.inl idle)
    · simp [GatewayWorld.limit, GatewayWorld.install, updateGateway, World.note,
        Gateway.setActive, Ne.symm same]
    · simp [Ne.symm same]
    · simp [afterCutoffs]

/-- The packet in hand is handed over. -/
theorem write {other : Nat} {frame : EncodedAudioFrame} {packet : List UInt8}
    (limited : Limited bus (.sending other frame packet .cleared) world) :
    Limited bus (.sending other frame packet .written) (handOver other frame packet world) := by
  have silent : Event.note (.cutoff bus) ∉ [Event.note
      (GatewayNote.media other frame packet world.publisher world.shared.paused)] := by
    simp
  refine ⟨limited.cutoffs.append silent, nofun, ?_, limited.handed⟩
  intro same
  subst same
  refine limited.cutoffs.imp fun earlier cutOff stamp member => ?_
  obtain ⟨cutoff, limit, bounded⟩ := cutOff
  have fresh := limited.vetted frame rfl
  rw [limit] at fresh
  exact (bounded stamp member).trans (of_decide_eq_true fresh)

theorem step (limited : Limited bus phase world)
    (bounded : ∀ stamp ∈ stampedIn (World.pipeEvents bus world.journal),
      stamp.2 ≤ (world.shared.pipes bus).captureEndNs)
    (step : Step phase world next after) : Limited bus next after := by
  have counted : ∀ (active : ActiveIngress) change,
      (active.count change).notBeforeCaptureNs = active.notBeforeCaptureNs := fun _ _ => rfl
  cases step with
  | want _ other frame _ fresh =>
    refine ⟨limited.cutoffs, fun packet held => ?_, limited.handed⟩
    obtain ⟨rfl, rfl⟩ := Prod.mk.inj (Option.some.inj held)
    exact fresh
  | write => exact limited.write
  | install => exact limited.install rfl bounded
  | pack | seeUnrevoked | seeCurrent | seeUnexpired | unguarded =>
    exact limited.keep rfl [] rfl (by simp) (by simp) (.inr rfl)
  | socket => exact limited.keep rfl [_] rfl (by simp) (by simp [afterCutoffs]) (.inr rfl)
  | disconnect | advance | recordInputDrops =>
    refine limited.keep ?_ [] rfl (by simp) (by simp) (.inl rfl)
    refine view_setActive (·.notBeforeCaptureNs) ?_ bus
    rfl
  | cancelled | superseded | stale | flushed | abandon =>
    refine limited.keep ?_ [_] rfl (by simp) (by simp [afterCutoffs]) (.inl rfl)
    exact view_settleFrame (·.notBeforeCaptureNs) counted _ _ _ world bus
  | foundExpired | unencodable | pause | ready | prepareFails | refuse | late | admitAll | reject
    | stopRejected | revokedRejected | report =>
    exact limited.keep rfl [_] rfl (by simp) (by simp [afterCutoffs]) (.inl rfl)
  | _ => exact limited.keep rfl [] rfl (by simp) (by simp) (.inl rfl)

end Limited

/-- With recovery there is a delivery state throughout. -/
theorem Reach.isSome_paused {start : GatewayWorld} (initially : start.shared.paused.isSome = true)
    {phase : Phase} {world : GatewayWorld} (reached : Reach start phase world) :
    world.shared.paused.isSome = true := by
  refine reached.invariant (motive := fun _ world => world.shared.paused.isSome = true) initially
    (fun _ world action _ some => ?_) fun _ _ _ _ _ some step => ?_
  · rw [world.perform_paused]
    exact some
  · cases step with
    | pause | resume | pauseForGood => rfl
    | _ => exact some

section Launched

variable {held : PreparedIngressRecovery} (launch : Launch (some held))

theorem Launch.stamps {phase : Phase} {world : GatewayWorld}
    (reached : Reach launch.world phase world) (bus : Nat) :
    Pipe.Stamps (World.pipeEvents bus world.journal) (world.shared.pipes bus) :=
  .of_history (launch.lane bus).stamps_pipe
    (reached.histories (fun _ _ reached => reached.isSome_paused rfl)
      (launch.histories_world fun ambient => ambient.paused.isSome) bus)

theorem Launch.limited {phase : Phase} {world : GatewayWorld}
    (reached : Reach launch.world phase world) (bus : Nat) : Limited bus phase world := by
  refine reached.invariant (motive := Limited bus) ?_
    (fun _ _ action _ limited => limited.perform action)
    fun _ _ _ _ reached limited step => limited.step (launch.stamps reached bus).bounded step
  have ready : ∀ entry ∈ launch.world.journal, ∃ bus session generation,
      entry = .note (.ready bus session generation) := by
    intro entry member
    obtain ⟨_, _, rfl⟩ := List.mem_mapIdx.mp member
    exact ⟨_, _, _, rfl⟩
  refine ⟨Before.of_notMem fun member => ?_, nofun, Audited.of_forall fun entry member _ => ?_⟩
  · obtain ⟨_, _, _, same⟩ := ready _ member
    cases same
  · obtain ⟨_, _, _, rfl⟩ := ready entry member
    trivial

/-- In every run with recovery, on every bus and however feeder, encoder and publisher interleave:
a packet handed over after a reattachment that loaded `capture_end_ns` holds no sample of a frame
that was stamped before that load. -/
theorem no_audio_from_before_cutoff (schedule : List Turn) (bus : Nat)
    (representable : ∀ frame ∈ (launch.last schedule).receivedOn bus, frame.Representable)
    (later earlier : List (Event GatewayNote))
    (reattached : (launch.last schedule).journal = later ++ .note (.cutoff bus) :: earlier)
    (frame : EncodedAudioFrame) (packet : List UInt8) (gateway : Gateway) (paused : Option Bool)
    (handed : .note (.media bus frame packet gateway paused) ∈ later)
    (index captureEndNs : Nat) (stamped : .pipe bus (.stamped index captureEndNs) ∈ earlier) :
    ∀ sample ∈ frame.samples, sample.origin ≠ some index := by
  obtain ⟨phase, reached⟩ := launch.reached schedule
  have stamps := launch.stamps reached bus
  have sourced := Pipe.Sourced.of_history (launch.lane bus).sourced_pipe
    (reached.histories (fun _ _ _ => trivial) (launch.histories_world fun _ => True) bus)
  -- the packet was encoded on the bus, hence drawn from a run of received frames
  have transmitted : frame ∈ (launch.last schedule).transmitted (GatewayNote.sentOn bus) := by
    refine List.mem_filterMap.mpr ⟨_, List.mem_reverse.mpr (List.mem_filterMap.mpr
      ⟨.note (.media bus frame packet gateway paused), ?_, rfl⟩), ?_⟩
    · rw [reattached]
      exact List.mem_append_left _ handed
    · simp [GatewayNote.sentOn, GatewayNote.handedOver]
  have encoded : frame ∈ (launch.last schedule).encodedOn bus :=
    ((launch.transmitted_sublist schedule bus).trans
      (launch.numbered schedule bus).taken_sublist).subset transmitted
  obtain ⟨first, rest, stream, padding, listed, drawn, cut⟩ := sourced.made frame encoded
  intro sample member origin
  obtain ⟨source, inRun, inSource⟩ := drawn.origin (mem_of_cut cut member origin)
  have index_eq : source.index = index :=
    Option.some.inj ((source.tagged sample inSource).symm.trans origin)
  -- it begins no later than in the frame of the sample
  have le : first.index ≤ index := by
    rw [← index_eq]
    rcases List.mem_cons.mp inRun with rfl | further
    · exact Nat.le_refl _
    · have increasing := sourced.enumerated.increasing listed
      rw [List.map_cons, List.pairwise_cons] at increasing
      exact (increasing.1 _ (List.mem_map_of_mem further)).le
  -- so that frame was stamped before the load as well
  have events : World.pipeEvents bus (launch.last schedule).journal =
      World.pipeEvents bus (later ++ [.note (.cutoff bus)]) ++ World.pipeEvents bus earlier := by
    rw [← World.pipeEvents_append, List.append_assoc, List.singleton_append, reattached]
  have before : first.stamp ∈ stampedIn (World.pipeEvents bus earlier) := by
    have received := listed.subset (List.mem_cons_self ..)
    have enumerated := sourced.enumerated
    rw [events] at stamps received enumerated
    have entered : (index, captureEndNs) ∈ stampedIn (World.pipeEvents bus earlier) :=
      mem_stampedIn.mpr (World.mem_pipeEvents.mpr stamped)
    exact stamps.earlier enumerated received entered le
  -- and the packet, found not older than the cutoff, would not be stamped before its end
  obtain ⟨newer, older, split⟩ := List.append_of_mem handed
  have checked : afterCutoffs bus (.note (.media bus frame packet gateway paused))
      (older ++ .note (.cutoff bus) :: earlier) := by
    have whole : (launch.last schedule).journal =
        newer ++ .note (.media bus frame packet gateway paused) ::
          (older ++ .note (.cutoff bus) :: earlier) := by
      rw [reattached, split, List.append_assoc, List.cons_append]
    exact (launch.limited reached bus).handed.at_split whole
  have late := checked rfl older earlier rfl _ before
  exact absurd (drawn.lt_captureEndNs (representable first (listed.subset
    (List.mem_cons_self ..)))) (Nat.not_lt.mpr late)

end Launched

/-! ### Two runs -/

def Event.isCutoff (bus : Nat) : Event GatewayNote → Bool
  | .note (.cutoff other) => other == bus
  | _ => false

/-- The journal before and after the latest cutoff of a bus. -/
theorem exists_cutoff_split {bus : Nat} {journal : List (Event GatewayNote)}
    (found : journal.any (Event.isCutoff bus) = true) :
    journal = journal.takeWhile (fun event => !event.isCutoff bus) ++ .note (.cutoff bus) ::
      (journal.dropWhile fun event => !event.isCutoff bus).tail := by
  induction journal with
  | nil => cases found
  | cons event rest hypothesis =>
    cases cutoff : event.isCutoff bus with
    | false =>
      rw [List.any_cons, cutoff, Bool.false_or] at found
      simpa [cutoff] using hypothesis found
    | true =>
      have same : event = .note (.cutoff bus) := by
        cases event with
        | note entry =>
          cases entry with
          | cutoff other => rw [beq_iff_eq.mp cutoff]
          | _ => cases cutoff
        | _ => cases cutoff
      subst same
      simp [cutoff]

/-- The frames handed over on a bus, newest first. -/
def handedIn (bus : Nat) (journal : List (Event GatewayNote)) : List EncodedAudioFrame :=
  journal.filterMap fun
    | .note entry => entry.sentOn bus
    | _ => none

theorem exists_media_of_handedIn {bus : Nat} {journal : List (Event GatewayNote)}
    {frame : EncodedAudioFrame} (handed : frame ∈ handedIn bus journal) :
    ∃ packet gateway paused, .note (.media bus frame packet gateway paused) ∈ journal := by
  obtain ⟨event, member, sent⟩ := List.mem_filterMap.mp handed
  cases event with
  | note entry =>
    cases entry with
    | media other sentFrame packet gateway paused =>
      have both : other = bus ∧ sentFrame = frame := by
        simpa [GatewayNote.sentOn, GatewayNote.handedOver] using sent
      obtain ⟨rfl, rfl⟩ := both
      exact ⟨packet, gateway, paused, member⟩
    | _ => cases sent
  | _ => cases sent

/-- A frame is dropped while delivery is paused; the one after it is sent on the new connection. -/
theorem no_audio_from_before_cutoff_paused :
    ∃ later earlier frame packet gateway paused,
      ((sampleLaunch 1).last frameWhilePaused).journal =
        later ++ .note (.cutoff 0) :: earlier ∧
      .note (.media 0 frame packet gateway paused) ∈ later ∧
      .pipe 0 (.stamped 1 40000000) ∈ earlier ∧
      ∀ sample ∈ frame.samples, sample.origin ≠ some 1 := by
  have attached :
      ((sampleLaunch 1).last frameWhilePaused).journal.any (Event.isCutoff 0) = true := by
    decide +kernel
  have split := exists_cutoff_split attached
  have handed : handedIn 0 (((sampleLaunch 1).last frameWhilePaused).journal.takeWhile fun event =>
      !event.isCutoff 0) ≠ [] := by
    decide +kernel
  obtain ⟨frame, member⟩ := List.exists_mem_of_ne_nil _ handed
  obtain ⟨packet, gateway, paused, media⟩ := exists_media_of_handedIn member
  have stamped : .pipe 0 (.stamped 1 40000000) ∈
      (((sampleLaunch 1).last frameWhilePaused).journal.dropWhile fun event =>
        !event.isCutoff 0).tail := by
    have entered : (1, 40000000) ∈ stampedIn (World.pipeEvents 0
        (((sampleLaunch 1).last frameWhilePaused).journal.dropWhile fun event =>
          !event.isCutoff 0).tail) := by
      decide +kernel
    exact World.mem_pipeEvents.mp (mem_stampedIn.mp entered)
  exact ⟨_, _, frame, packet, gateway, paused, split, media, stamped,
    no_audio_from_before_cutoff (sampleLaunch 1) frameWhilePaused 0 (by decide +kernel) _ _ split
      frame packet gateway paused media 1 40000000 stamped⟩

/-- The delivery state of a group that is attached. -/
def delivering : Ambient := { paused := some false }

/-- A mono bus whose first frame is with the encoder, so many packets into it. -/
def longView (frame : SourceFrame) (number : Nat) : PipeView where
  frameDepth := 1
  encodedDepth := 1
  deliveryPolicy := .dropNewest
  channels := 1
  written := 0
  feeder := .checking
  received := 1
  captureEndNs := max 0 frame.captureEndNs
  frames := []
  encoder := .pushing frame (opusFrameSamples * number)
  packetOutput := none
  rtpSampleCount := 0
  encodedCount := 0
  encoded := []
  taken := []

/-- The packet after so many others, the first that the codec encodes. -/
def packetOf (frame : SourceFrame) (number : Nat) : EncodedAudioFrame where
  payload := [1]
  wallclock := 0
  rtpTime := 0
  durationSamples := opusFrameSamples
  captureTimestampNs :=
    saturatingAdd frame.timestampNs (offsetNs (opusFrameSamples * number / 1))
  outputGeneration := none
  number := 0
  samples := (frame.samples.drop (opusFrameSamples * number)).take opusFrameSamples

/-- The feeder moves a frame into the channel. -/
def captureFrame (captured : AudioFrame UInt32) : List PipeAction :=
  List.replicate 5 (.feeder (some captured))

/-- The encoder takes it. -/
def takeFrame : List PipeAction := List.replicate 3 (.encoder (some [1]))

/-- The codec fails on a packet. -/
def failPacket : List PipeAction := List.replicate 3 (.encoder none)

def passPacket : List PipeAction := List.replicate 5 (.encoder (some [1]))

theorem view_takeFrame (captured : AudioFrame UInt32) (rate : captured.sampleRateHz = 48000)
    (mono : captured.channels = 1) (ungrouped : captured.outputGeneration = none) :
    ((default : BusLayout).pipe.drive delivering (captureFrame captured ++ takeFrame)).1.view =
      longView (captured.numbered 0) 0 := by
  simp only [captureFrame, takeFrame, List.replicate, List.cons_append, List.nil_append,
    Pipe.drive_cons_fst, Pipe.act_feeder, Pipe.act_encoder, Pipe.drive_nil_fst]
  have checked := Pipe.view_feed_checking delivering (some captured)
    (rfl : (default : BusLayout).pipe.view = _) rfl rfl rfl
  have received := Pipe.view_feed_receiving delivering checked captured rfl
  have stamped := Pipe.view_feed_stamping delivering (some captured) received rfl
  have gated := Pipe.view_feed_gating delivering (some captured) stamped rfl nofun
  have sent := Pipe.view_feed_sending delivering (some captured) gated rfl rfl Nat.one_pos
  have started := Pipe.view_encode_starting delivering sent [1] rfl
  have taken := Pipe.view_encode_receiving delivering (some [1]) started rfl rfl
  exact Pipe.view_encode_admitting delivering (some [1]) taken rfl rate mono ungrouped rfl rfl
    (Nat.mod_one _)

section Long

variable {pipe : Pipe} {frame : SourceFrame} {number : Nat}

/-- The next packet of the frame is filled and comes to the codec. -/
theorem view_fillPacket (codec : Option (List UInt8)) (seen : pipe.view = longView frame number)
    (enough : opusFrameSamples * (number + 1) ≤ frame.samples.length) :
    (pipe.drive delivering (List.replicate 2 (.encoder codec))).1.view =
      { longView frame number with
        written := opusFrameSamples
        encoder := .encoding ⟨(packetOf frame number).samples,
            (packetOf frame number).captureTimestampNs⟩
          (some (frame, opusFrameSamples * (number + 1))) } := by
  simp only [List.replicate, Pipe.drive_cons_fst, Pipe.act_encoder, Pipe.drive_nil_fst]
  have filled := Pipe.view_encode_pushing delivering codec seen rfl rfl enough
  exact Pipe.view_encode_vetting delivering codec filled rfl rfl

theorem view_failPacket (seen : pipe.view = longView frame number)
    (enough : opusFrameSamples * (number + 1) ≤ frame.samples.length) :
    (pipe.drive delivering failPacket).1.view = longView frame (number + 1) := by
  have filled := view_fillPacket none seen enough
  rw [failPacket, List.replicate_succ', Pipe.drive_append_fst, Pipe.drive_cons_fst,
    Pipe.drive_nil_fst]
  exact Pipe.view_encode_failing delivering filled rfl

theorem view_passPacket (seen : pipe.view = longView frame number)
    (enough : opusFrameSamples * (number + 1) ≤ frame.samples.length) :
    (pipe.drive delivering passPacket).1.view =
      { longView frame (number + 1) with
        rtpSampleCount := saturatingAdd 0 opusFrameSamples
        encodedCount := 1
        encoded := [packetOf frame number] } := by
  have filled := view_fillPacket (some [1]) seen enough
  have encoded := Pipe.view_encode_encoding delivering filled [1] rfl
  have delivered := Pipe.view_encode_delivering delivering (some [1]) encoded rfl rfl
  have queued := Pipe.view_encode_sending delivering (some [1]) delivered rfl Nat.one_pos
  rw [passPacket, show (5 : Nat) = 2 + 3 from rfl, List.replicate_add, Pipe.drive_append_fst]
  simp only [List.replicate, Pipe.drive_cons_fst, Pipe.act_encoder, Pipe.drive_nil_fst]
  exact queued

end Long

/-- So many packets come before one whose place in the frame, in nanoseconds, takes more than a
word to compute. -/
def packetsBeforeLast : Nat := 19215359

/-- A frame of more than four days of audio. -/
def giantFrame : AudioFrame UInt32 :=
  capturedSilence (opusFrameSamples * (packetsBeforeLast + 1)) 0 0

def giant : SourceFrame := giantFrame.numbered 0

theorem samples_giant :
    giant.samples = List.replicate (opusFrameSamples * (packetsBeforeLast + 1))
      { bits := 0, origin := some 0 } := List.map_replicate

theorem length_giantFrame :
    giantFrame.samples.length = opusFrameSamples * (packetsBeforeLast + 1) := List.length_replicate

theorem length_giant : giant.samples.length = opusFrameSamples * (packetsBeforeLast + 1) := by
  rw [samples_giant, List.length_replicate]

/-- The last packet of the frame; both the stamp and the end of the frame come from the largest
word. -/
def giantPacket : EncodedAudioFrame where
  payload := [1]
  wallclock := 0
  rtpTime := 0
  durationSamples := opusFrameSamples
  captureTimestampNs := u64Max / 48000
  outputGeneration := none
  number := 0
  samples := List.replicate opusFrameSamples { bits := 0, origin := some 0 }

theorem packetOf_giant : packetOf giant packetsBeforeLast = giantPacket := by
  have stamp : saturatingAdd giant.timestampNs
      (offsetNs (opusFrameSamples * packetsBeforeLast / 1)) = u64Max / 48000 := by
    rw [show giant.timestampNs = 0 from rfl]
    decide +kernel
  have samples : (giant.samples.drop (opusFrameSamples * packetsBeforeLast)).take
      opusFrameSamples = List.replicate opusFrameSamples { bits := 0, origin := some 0 } := by
    rw [samples_giant, List.drop_replicate, List.take_replicate, Nat.mul_succ,
      Nat.add_sub_cancel_left, Nat.min_self]
  rw [packetOf, stamp, samples, giantPacket]

theorem captureEndNs_giant : giant.captureEndNs = u64Max / 48000 := by
  rw [AudioFrame.captureEndNs, length_giant, show giant.channels = 1 from rfl,
    show giant.timestampNs = 0 from rfl]
  decide +kernel

/-- The codec fails on every packet of the frame but the last. -/
def driveGiant : List PipeAction :=
  (captureFrame giantFrame ++ takeFrame) ++
    ((List.replicate packetsBeforeLast failPacket).flatten ++ passPacket)

theorem view_driveGiant :
    ((default : BusLayout).pipe.drive delivering driveGiant).1.view =
      { longView giant (packetsBeforeLast + 1) with
        captureEndNs := u64Max / 48000
        rtpSampleCount := saturatingAdd 0 opusFrameSamples
        encodedCount := 1
        encoded := [giantPacket] } := by
  have taken : ((default : BusLayout).pipe.drive delivering
      (captureFrame giantFrame ++ takeFrame)).1.view = longView giant 0 :=
    view_takeFrame giantFrame rfl rfl rfl
  have failed : ∀ count, count ≤ packetsBeforeLast →
      opusFrameSamples * (count + 1) ≤ giant.samples.length := by
    intro count le
    rw [length_giant]
    exact Nat.mul_le_mul_left _ (Nat.succ_le_succ le)
  have keeps : ∀ count (pipe : Pipe),
      (count ≤ packetsBeforeLast → pipe.view = longView giant count) →
      count + 1 ≤ packetsBeforeLast →
      (pipe.drive delivering failPacket).1.view = longView giant (count + 1) :=
    fun count pipe seen le =>
      view_failPacket (seen (Nat.le_of_succ_le le)) (failed count (Nat.le_of_succ_le le))
  have arrived := Pipe.drive_repeated
    (motive := fun count pipe => count ≤ packetsBeforeLast → pipe.view = longView giant count)
    keeps packetsBeforeLast (fun _ => taken) (Nat.le_of_eq (Nat.zero_add _))
  rw [Nat.zero_add] at arrived
  have passed := view_passPacket arrived (failed _ (Nat.le_refl _))
  rw [packetOf_giant] at passed
  rw [driveGiant, Pipe.drive_append_fst, Pipe.drive_append_fst, passed]
  simp only [longView, captureEndNs_giant, Nat.zero_max]

/-- The relay closes the connection, and the group is reattached. -/
def afterGiant : List Turn := untilReady.tail ++ readyTurn 2 :: quietTurns 24

def giantRun : List Turn := { before := driveGiant.map (PipeAction.on 0) } :: afterGiant

theorem run_giantRun : (sampleLaunch 1).run giantRun =
    runWithRecovery (sampleLaunch 1).connections (some (sampleRecovery 1)) true ({} :: afterGiant)
      ((sampleLaunch 1).world.driven 0
        ((default : BusLayout).pipe.drive delivering driveGiant)) := by
  rw [Launch.run, giantRun, runWithRecovery_settle, World.settle_on]
  rfl

/-- A captured frame ends within a word. -/
def Action.endsInWord : Action → Bool
  | .feeder _ (some frame) =>
    frame.timestampNs + frame.samples.length / frame.channels * 1000000000 / 48000 < 2 ^ 64
  | _ => true

theorem endsInWord_feeder {frame : AudioFrame UInt32}
    (ends : frame.timestampNs + frame.samples.length / frame.channels * 1000000000 / 48000 <
      2 ^ 64) : ((PipeAction.feeder (some frame)).on 0).endsInWord = true := decide_eq_true ends

theorem endsInWord_driveGiant : ∀ action ∈ driveGiant, (action.on 0).endsInWord = true := by
  have quiet : ∀ codec : Option (List UInt8),
      ((PipeAction.encoder codec).on 0).endsInWord = true := fun _ => rfl
  intro action member
  simp only [driveGiant, List.mem_append] at member
  rcases member with (captured | taken) | failed | passed
  · rw [List.eq_of_mem_replicate captured]
    refine endsInWord_feeder ?_
    rw [length_giantFrame, show giantFrame.channels = 1 from rfl,
      show giantFrame.timestampNs = 0 from rfl]
    decide +kernel
  · rw [List.eq_of_mem_replicate taken]
    exact quiet _
  · obtain ⟨piece, replicated, inside⟩ := List.mem_flatten.mp failed
    rw [List.eq_of_mem_replicate replicated] at inside
    rw [List.eq_of_mem_replicate inside]
    exact quiet _
  · rw [List.eq_of_mem_replicate passed]
    exact quiet _

/-- The frame is stamped before anything else happens to it. -/
theorem stamped_driveGiant :
    .stamped 0 giant.captureEndNs ∈
      ((default : BusLayout).pipe.drive delivering driveGiant).2 := by
  have captured : .stamped 0 giant.captureEndNs ∈
      ((default : BusLayout).pipe.drive delivering (captureFrame giantFrame)).2 := by
    simp [captureFrame, Pipe.drive, Pipe.feed, BusLayout.pipe, delivering, giant,
      AudioFrame.numbered]
  rw [driveGiant, List.append_assoc, Pipe.drive_append_snd]
  exact List.mem_append_right _ captured

/-- A run only adds to the journal. -/
theorem journal_suffix_runWithRecovery (connections : List IngressConnection)
    (recovery : Option PreparedIngressRecovery) (context : Bool) (world : GatewayWorld)
    (grouped : ∀ held, recovery = some held → held.configurations.length = connections.length)
    (schedule : List Turn) :
    world.journal <:+
      (runWithRecovery connections recovery context schedule world).2.2.journal := by
  obtain ⟨phase, reached⟩ :=
    (runWithRecovery_reaches connections recovery context world grouped schedule).anywhere
      (fun _ => id) (fun _ _ ends => ends.1.located) fun _ _ none => none.elim
  exact reached.journal_suffix

theorem journal_giantRun :
    .pipe 0 (.stamped 0 giant.captureEndNs) ∈ ((sampleLaunch 1).last giantRun).journal := by
  rw [Launch.last, run_giantRun]
  refine (journal_suffix_runWithRecovery _ _ _ _ (sampleLaunch 1).grouped _).subset ?_
  exact List.mem_append_left _ (List.mem_map_of_mem stamped_driveGiant)

/-- Although every frame ends within a word, the last packet of a frame that was stamped before the
reattachment is handed to the new connection: its stamp is computed from the largest word, and so
is the end of the frame. -/
theorem giant_frame_after_cutoff :
    (∀ turn ∈ giantRun, ∀ action ∈ turn.before, action.endsInWord = true) ∧
    ∃ later earlier frame packet gateway paused,
      ((sampleLaunch 1).last giantRun).journal = later ++ .note (.cutoff 0) :: earlier ∧
      .note (.media 0 frame packet gateway paused) ∈ later ∧
      .pipe 0 (.stamped 0 giant.captureEndNs) ∈ earlier ∧
      ∃ sample ∈ frame.samples, sample.origin = some 0 := by
  refine ⟨?_, ?_⟩
  · intro turn member
    rcases List.mem_cons.mp member with rfl | later
    · simpa using endsInWord_driveGiant
    · have quiet : ∀ turn ∈ afterGiant, ∀ action ∈ turn.before, action.endsInWord = true := by
        decide
      exact quiet turn later
  · -- only what the publisher reads of the bus is evaluated
    have evaluated : ((sampleLaunch 1).last giantRun).journal.any (Event.isCutoff 0) = true ∧
        handedIn 0 (((sampleLaunch 1).last giantRun).journal.takeWhile fun event =>
          !event.isCutoff 0) = [giantPacket] ∧
        stampedIn (World.pipeEvents 0 (((sampleLaunch 1).last giantRun).journal.takeWhile
          fun event => !event.isCutoff 0)) = [] := by
      rw [Launch.last, run_giantRun, World.driven, Pipe.eq_of_view view_driveGiant]
      decide +kernel
    obtain ⟨found, handed, unstamped⟩ := evaluated
    have split := exists_cutoff_split found
    obtain ⟨packet, gateway, paused, media⟩ := exists_media_of_handedIn
      (handed ▸ List.mem_singleton.mpr rfl : giantPacket ∈ handedIn 0 _)
    have stamped := journal_giantRun
    rw [split] at stamped
    rcases List.mem_append.mp stamped with new | old
    · have impossible := mem_stampedIn.mpr (World.mem_pipeEvents.mpr new)
      rw [unstamped] at impossible
      cases impossible
    · refine ⟨_, _, giantPacket, packet, gateway, paused, split, media, ?_, ?_⟩
      · exact (List.mem_cons.mp old).resolve_left (by simp)
      · exact ⟨{ bits := 0, origin := some 0 }, List.mem_replicate.mpr ⟨by decide, rfl⟩, rfl⟩

end RelayConnector
