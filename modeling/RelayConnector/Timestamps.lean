/-
This file proves that the timestamps of received frames do not drift, and that they do not go
back within an epoch.

The driver places a frame by its distance from an anchor: the first frame, or the first since
the RTP timestamps went back. The anchor is a function of the log, and it changes only with a
regression, which the epoch counts.
-/

import RelayConnector.Continuity

namespace RelayConnector

open Words Audit

/-! ### Anchors -/

/-- Where a run of timestamps begins, in the ticks of the stream and in local time. -/
structure Anchor where
  rtpTimestamp : Nat
  localNs : Nat
  deriving DecidableEq, Repr

/-- The timestamp of a frame is below the one of the frame before it. -/
def regressed (log : List SourceEvent) (encoded : ReceivedOpusFrame) : Bool :=
  (framesIn log).head?.any (encoded.rtpTimestamp < ·.rtpTimestamp)

/-- The anchor that a log has come to: a regression takes it away, and the next frame that is
decoded becomes the anchor. -/
def anchorOf : List SourceEvent → Option Anchor
  | [] => none
  | .received encoded :: log => if regressed log encoded then none else anchorOf log
  | .decoded frame :: log =>
    (anchorOf log).or ((framesIn log).head?.map fun encoded =>
      { rtpTimestamp := encoded.rtpTimestamp, localNs := frame.decodedAtNs })
  | .undecodable :: log | .dropped _ :: log | .emitted _ :: log | .unemitted _ :: log =>
    anchorOf log

theorem regressedAmong_cons_received (encoded : ReceivedOpusFrame) (new base : List SourceEvent) :
    regressedAmong (framesIn base) (framesIn (.received encoded :: new)) =
      regressedAmong (framesIn base) (framesIn new) +
        if regressed (new ++ base) encoded then 1 else 0 := by
  rw [regressed, framesIn_append]
  rfl

variable {encoded : ReceivedOpusFrame} {new base log : List SourceEvent}

theorem forward_of_regressedAmong_eq_zero
    (forward : regressedAmong (framesIn base) (framesIn (.received encoded :: new)) = 0) :
    regressedAmong (framesIn base) (framesIn new) = 0 ∧
      regressed (new ++ base) encoded = false := by
  rw [regressedAmong_cons_received, Nat.add_eq_zero_iff] at forward
  refine ⟨forward.1, ?_⟩
  by_contra back
  simp [back] at forward

theorem le_of_not_regressed {previous : ReceivedOpusFrame} (steady : regressed log encoded = false)
    (newest : (framesIn log).head? = some previous) :
    previous.rtpTimestamp ≤ encoded.rtpTimestamp := by
  rw [regressed, newest] at steady
  simpa using steady

/-- Without a regression the anchor stays. -/
theorem anchorOf_append {anchor : Anchor} (anchored : anchorOf base = some anchor)
    (forward : regressedAmong (framesIn base) (framesIn new) = 0) :
    anchorOf (new ++ base) = some anchor := by
  induction new with
  | nil => exact anchored
  | cons event rest hypothesis =>
    cases event with
    | received encoded =>
      obtain ⟨before, steady⟩ := forward_of_regressedAmong_eq_zero forward
      rw [List.cons_append, anchorOf, steady]
      exact hypothesis before
    | decoded frame =>
      rw [List.cons_append, anchorOf, hypothesis forward]
      rfl
    | undecodable | dropped | emitted | unemitted => exact hypothesis forward

/-- Without a regression the timestamps do not fall. -/
theorem le_of_regressedAmong {older newest : ReceivedOpusFrame}
    (below : (framesIn base).head? = some older)
    (forward : regressedAmong (framesIn base) (framesIn new) = 0)
    (above : (framesIn (new ++ base)).head? = some newest) :
    older.rtpTimestamp ≤ newest.rtpTimestamp := by
  induction new generalizing newest with
  | nil =>
    obtain rfl := Option.some.inj (below.symm.trans above)
    exact le_rfl
  | cons event rest hypothesis =>
    cases event with
    | received encoded =>
      obtain rfl := Option.some.inj above
      obtain ⟨before, steady⟩ := forward_of_regressedAmong_eq_zero forward
      obtain ⟨previous, head⟩ : ∃ previous, (framesIn (rest ++ base)).head? = some previous := by
        rw [framesIn_append, List.head?_append, below]
        cases (framesIn rest).head? <;> exact ⟨_, rfl⟩
      exact (hypothesis before head).trans (le_of_not_regressed steady head)
    | _ => exact hypothesis forward above

/-! ### What every step keeps -/

/-- The nanoseconds from an anchor to a frame. -/
def Anchor.toFrame (anchor : Anchor) (encoded : ReceivedOpusFrame) : Nat :=
  SourceDriver.ticksToNs (encoded.rtpTimestamp - anchor.rtpTimestamp) encoded.rtpClockHz

/-- A frame is placed by its distance from the anchor. -/
def SourceEvent.Placed (event : SourceEvent) (earlier : List SourceEvent) : Prop :=
  match event with
  | .decoded frame => ∃ encoded older anchor, earlier = .received encoded :: older ∧
      anchorOf (.decoded frame :: earlier) = some anchor ∧
      anchor.rtpTimestamp ≤ encoded.rtpTimestamp ∧
      frame.timestampNs = saturatingAdd anchor.localNs (anchor.toFrame encoded)
  | _ => True

/-- The driver's anchor is the one its log has come to. -/
structure Anchored (driver : SourceDriver) : Prop where
  rtp : driver.firstRtpTimestamp = (anchorOf driver.log).map (·.rtpTimestamp)
  localNs : driver.firstLocalTimestampNs = (anchorOf driver.log).map (·.localNs)
  previous : driver.previousRtpTimestamp = (framesIn driver.log).head?.map (·.rtpTimestamp)
  behind : ∀ anchor, anchorOf driver.log = some anchor →
    ∃ newest, (framesIn driver.log).head? = some newest ∧
      anchor.rtpTimestamp ≤ newest.rtpTimestamp
  placed : Audited SourceEvent.Placed driver.log

namespace SourceDriver

variable {driver : SourceDriver}

theorem receive_firstRtpTimestamp (encoded : ReceivedOpusFrame) :
    (driver.receive encoded).firstRtpTimestamp =
      if driver.previousRtpTimestamp.any (encoded.rtpTimestamp < ·) then none
      else driver.firstRtpTimestamp := by
  unfold receive
  dsimp only [observe, enter]
  split <;> split <;> simp_all

theorem receive_firstLocalTimestampNs (encoded : ReceivedOpusFrame) :
    (driver.receive encoded).firstLocalTimestampNs =
      if driver.previousRtpTimestamp.any (encoded.rtpTimestamp < ·) then none
      else driver.firstLocalTimestampNs := by
  unfold receive
  dsimp only [observe, enter]
  split <;> split <;> simp_all

end SourceDriver

namespace Anchored

variable {driver : SourceDriver}

theorem connected : Anchored SourceDriver.connected := by
  constructor <;> simp [SourceDriver.connected, anchorOf, framesIn, Audited]

theorem receive (anchored : Anchored driver) (encoded : ReceivedOpusFrame) :
    Anchored (driver.receive encoded) := by
  have back : driver.previousRtpTimestamp.any (encoded.rtpTimestamp < ·) =
      regressed driver.log encoded := by
    rw [anchored.previous, Option.any_map]
    rfl
  constructor <;> rw [driver.receive_log]
  case rtp =>
    rw [driver.receive_firstRtpTimestamp, back, anchored.rtp, anchorOf, apply_ite (Option.map _)]
    rfl
  case localNs =>
    rw [driver.receive_firstLocalTimestampNs, back, anchored.localNs, anchorOf,
      apply_ite (Option.map _)]
    rfl
  case previous => exact driver.receive_previousRtpTimestamp encoded
  case behind =>
    intro anchor found
    rw [anchorOf] at found
    split at found
    · cases found
    next steady =>
      obtain ⟨newest, head, behind⟩ := anchored.behind anchor found
      have forward := le_of_not_regressed (Bool.eq_false_iff.mpr steady) head
      exact ⟨encoded, rfl, behind.trans forward⟩
  case placed => exact ⟨trivial, anchored.placed⟩

theorem undecodable (anchored : Anchored driver) : Anchored driver.undecodable :=
  ⟨anchored.rtp, anchored.localNs, anchored.previous, anchored.behind, trivial, anchored.placed⟩

theorem place {encoded : ReceivedOpusFrame} {older : List SourceEvent}
    (log : driver.log = .received encoded :: older) (anchored : Anchored driver) (nowNs : Nat) :
    Anchored (driver.place encoded nowNs).1 := by
  have newest : (framesIn driver.log).head? = some encoded := by
    rw [log]
    rfl
  obtain ⟨anchor, found, rtp, localNs, behind⟩ : ∃ anchor,
      anchorOf (driver.place encoded nowNs).1.log = some anchor ∧
      driver.firstRtpTimestamp.getD encoded.rtpTimestamp = anchor.rtpTimestamp ∧
      driver.firstLocalTimestampNs.getD nowNs = anchor.localNs ∧
      anchor.rtpTimestamp ≤ encoded.rtpTimestamp := by
    have here : anchorOf (driver.place encoded nowNs).1.log =
        (anchorOf driver.log).or ((framesIn driver.log).head?.map fun encoded =>
          { rtpTimestamp := encoded.rtpTimestamp, localNs := nowNs }) := rfl
    rw [here, anchored.rtp, anchored.localNs, newest]
    cases before : anchorOf driver.log with
    | none => exact ⟨_, rfl, rfl, rfl, le_rfl⟩
    | some anchor =>
      obtain ⟨frame, head, behind⟩ := anchored.behind anchor before
      obtain rfl := Option.some.inj (newest.symm.trans head)
      exact ⟨anchor, rfl, rfl, rfl, behind⟩
  constructor
  case rtp =>
    rw [found]
    exact congrArg some rtp
  case localNs =>
    rw [found]
    exact congrArg some localNs
  case previous => exact anchored.previous
  case behind =>
    intro other same
    obtain rfl := Option.some.inj (found.symm.trans same)
    exact ⟨encoded, newest, behind⟩
  case placed =>
    refine ⟨⟨encoded, older, anchor, log, found, behind, ?_⟩, anchored.placed⟩
    show saturatingAdd _ (SourceDriver.ticksToNs _ _) = _
    rw [rtp, localNs]
    rfl

theorem emits (anchored : Anchored driver) (turn : SourceTurn) (decoded : DecodedFrame) :
    Anchored (driver.emission turn decoded).1 := by
  unfold SourceDriver.emission
  split
  · exact ⟨anchored.rtp, anchored.localNs, anchored.previous, anchored.behind, trivial,
      anchored.placed⟩
  · exact ⟨anchored.rtp, anchored.localNs, anchored.previous, anchored.behind, trivial,
      anchored.placed⟩

theorem keeps : SourceDriver.Keeps (fun _ => True) Anchored (fun driver _ => Anchored driver) where
  undecodable _ encoded anchored := (anchored.receive encoded).undecodable
  decodes driver encoded nowNs anchored :=
    (anchored.receive encoded).place (driver.receive_log encoded) nowNs
  emits _ turn decoded _ _ anchored := anchored.emits turn decoded
  drops _ _ anchored :=
    ⟨anchored.rtp, anchored.localNs, anchored.previous, anchored.behind, trivial, anchored.placed⟩
  fails _ anchored :=
    ⟨anchored.rtp, anchored.localNs, anchored.previous, anchored.behind, anchored.placed⟩

theorem placed_of_run {answers : SourceDriver.StartupAnswers} {turns : List SourceTurn}
    (prepared : SourceDriver.prepare answers turns = (driver, some (.ok ())))
    (noFrameTimeoutMs : Nat) (calls : List (List SourceTurn)) :
    Audited SourceEvent.Placed (driver.run noFrameTimeoutMs calls).log := by
  have first : ∀ driver : SourceDriver, ∀ _ : DecodedFrame, Anchored driver →
      Anchored (driver.observe fun totals =>
        { totals with firstFrameTotal := wrappingAdd totals.firstFrameTotal 1 }) :=
    fun _ _ anchored =>
      ⟨anchored.rtp, anchored.localNs, anchored.previous, anchored.behind, anchored.placed⟩
  have start : SourceDriver.Between Anchored (fun driver _ => Anchored driver) driver :=
    keeps.prepare first connected prepared
  have last : SourceDriver.Between Anchored (fun driver _ => Anchored driver)
      (driver.run noFrameTimeoutMs calls) :=
    keeps.run noFrameTimeoutMs (fun _ turn decoded _ anchored => anchored.emits turn decoded)
      (fun _ _ _ _ => trivial) start
  unfold SourceDriver.Between at last
  split at last
  · exact last.placed
  · exact last.placed

end Anchored

/-! ### Runs of timestamps -/

/-- A frame begins a run: the timestamps went back since any frame that was decoded before. -/
def BeginsRun (first : ReceivedOpusFrame) (before : List SourceEvent) : Prop :=
  ∀ later frame earlier, before = later ++ .decoded frame :: earlier →
    0 < regressedAmong (framesIn earlier) (framesIn (.received first :: later))

/-- The run that a log has come to began with `anchor`, which was decoded from `first`. -/
def RunBegan (log : List SourceEvent) (anchor : DecodedFrame) (first : ReceivedOpusFrame) : Prop :=
  ∃ between before, log = between ++ .decoded anchor :: .received first :: before ∧
    regressedAmong (framesIn (.received first :: before)) (framesIn between) = 0 ∧
    BeginsRun first before

theorem beginsRun_of_anchorOf {first : ReceivedOpusFrame} {before : List SourceEvent}
    (audited : Audited SourceEvent.Sound before)
    (none : anchorOf (.received first :: before) = none) : BeginsRun first before := by
  rintro later frame earlier rfl
  obtain ⟨⟨encoded, newest⟩, -⟩ := audited.at_split rfl
  obtain ⟨older, rfl⟩ := List.head?_eq_some_iff.mp newest
  by_contra back
  obtain ⟨anchor, anchored⟩ : ∃ anchor,
      anchorOf (.decoded frame :: .received encoded :: older) = some anchor := by
    rw [anchorOf]
    cases anchorOf (.received encoded :: older) <;> exact ⟨_, rfl⟩
  have forward : regressedAmong (framesIn (.decoded frame :: .received encoded :: older))
      (framesIn (.received first :: later)) = 0 := Nat.eq_zero_of_not_pos back
  exact nomatch none.symm.trans (anchorOf_append anchored forward)

theorem runBegan_of_anchorOf {anchor : Anchor} (audited : Audited SourceEvent.Sound log)
    (found : anchorOf log = some anchor) :
    ∃ frame first, RunBegan log frame first ∧
      anchor = { rtpTimestamp := first.rtpTimestamp, localNs := frame.decodedAtNs } := by
  induction log with
  | nil => cases found
  | cons event rest hypothesis =>
    obtain ⟨sound, audited⟩ := audited
    -- an entry that neither sets the anchor nor goes back
    have later (found : anchorOf rest = some anchor)
        (steady : ∀ encoded, event = .received encoded → regressed rest encoded = false) :
        ∃ frame first, RunBegan (event :: rest) frame first ∧
          anchor = { rtpTimestamp := first.rtpTimestamp, localNs := frame.decodedAtNs } := by
      obtain ⟨frame, first, ⟨between, before, rfl, forward, begins⟩, rfl⟩ :=
        hypothesis audited found
      refine ⟨frame, first, ⟨event :: between, before, rfl, ?_, begins⟩, rfl⟩
      cases event with
      | received encoded =>
        have steady : regressed (between ++ .received first :: before) encoded = false := by
          have steady := steady encoded rfl
          rw [regressed, framesIn_append] at steady ⊢
          exact steady
        rw [regressedAmong_cons_received, forward, steady]
        rfl
      | _ => exact forward
    cases event with
    | received encoded =>
      rw [anchorOf] at found
      split at found
      · cases found
      next steady =>
        refine later found ?_
        rintro _ ⟨⟩
        exact Bool.eq_false_iff.mpr steady
    | decoded frame =>
      rw [anchorOf] at found
      cases before : anchorOf rest with
      | some earlier =>
        rw [before] at found
        exact later (before.trans found) nofun
      | none =>
        obtain ⟨⟨encoded, newest⟩, -⟩ := sound
        obtain ⟨older, rfl⟩ := List.head?_eq_some_iff.mp newest
        rw [before] at found
        obtain rfl := Option.some.inj found
        exact ⟨frame, encoded, ⟨[], older, rfl, rfl, beginsRun_of_anchorOf audited.2 before⟩, rfl⟩
    | undecodable | dropped | emitted | unemitted => exact later found nofun

/-! ### Timestamps -/

/-- The timestamps of a log, for a stream with one clock rate. -/
structure Timestamps (clockHz : Nat) (log : List SourceEvent) : Prop where
  /-- The timestamp of a frame is counted from the frame that its run began with, with one
  rounding; the product fits its double word and the clock rate is not zero. -/
  anchored : ∀ later frame earlier, log = later ++ .decoded frame :: earlier →
    ∃ encoded older anchor first, earlier = .received encoded :: older ∧
      RunBegan (.decoded frame :: earlier) anchor first ∧
      first.rtpTimestamp ≤ encoded.rtpTimestamp ∧
      (encoded.rtpTimestamp - first.rtpTimestamp) * 1000000000 ≤ SourceDriver.u128Max ∧
      encoded.rtpClockHz ≠ 0 ∧
      frame.timestampNs =
        min (anchor.decodedAtNs +
          (encoded.rtpTimestamp - first.rtpTimestamp) * 1000000000 / clockHz) u64Max
  monotone : ∀ later second between first earlier,
    log = later ++ .decoded second :: (between ++ .decoded first :: earlier) →
    first.discontinuityEpoch = second.discontinuityEpoch → first.discontinuityEpoch < u64Max →
    first.timestampNs ≤ second.timestampNs

/-- A word of ticks makes a double word of nanoseconds. -/
theorem ticks_fit {ticks : Nat} (word : ticks ≤ u64Max) :
    ticks * 1000000000 ≤ SourceDriver.u128Max := by
  unfold u64Max at word
  unfold SourceDriver.u128Max
  omega

theorem toFrame_eq {anchor : Anchor} (word : encoded.rtpTimestamp ≤ u64Max) :
    saturatingAdd anchor.localNs (anchor.toFrame encoded) =
      min (anchor.localNs + (encoded.rtpTimestamp - anchor.rtpTimestamp) * 1000000000 /
        encoded.rtpClockHz) u64Max := by
  have fits := ticks_fit ((Nat.sub_le encoded.rtpTimestamp anchor.rtpTimestamp).trans word)
  rw [Anchor.toFrame, SourceDriver.ticksToNs, Nat.min_eq_left fits, saturatingAdd]
  omega

/-- Two frames of one epoch belong to one run. -/
theorem forward_of_epoch_eq {first second : DecodedFrame} {between earlier : List SourceEvent}
    (audited : Audited SourceEvent.Sound
      (.decoded second :: (between ++ .decoded first :: earlier)))
    (same : first.discontinuityEpoch = second.discontinuityEpoch)
    (unsaturated : first.discontinuityEpoch < u64Max) :
    regressedAmong (framesIn (.decoded first :: earlier)) (framesIn between) = 0 := by
  obtain ⟨⟨-, -, secondEpoch⟩, audited⟩ := audited
  obtain ⟨⟨⟨encoded, newest⟩, -, firstEpoch⟩, -⟩ := audited.of_append
  obtain ⟨older, rfl⟩ := List.head?_eq_some_iff.mp newest
  have some : framesIn (.decoded first :: .received encoded :: older) ≠ [] :=
    List.cons_ne_nil _ _
  rw [breaks_append some between] at secondEpoch
  have here : breaks (.decoded first :: .received encoded :: older) =
    breaks (.received encoded :: older) := rfl
  omega

theorem timestamps_of_audited {clockHz : Nat} (nonzero : clockHz ≠ 0)
    (profile : ∀ encoded ∈ framesIn log,
      encoded.rtpClockHz = clockHz ∧ encoded.rtpTimestamp ≤ u64Max)
    (sound : Audited SourceEvent.Sound log) (placed : Audited SourceEvent.Placed log) :
    Timestamps clockHz log where
  anchored := by
    rintro later frame earlier rfl
    obtain ⟨encoded, older, anchor, rfl, found, behind, timestamp⟩ := placed.at_split rfl
    obtain ⟨frame, first, began, rfl⟩ := runBegan_of_anchorOf sound.of_append found
    obtain ⟨rate, word⟩ := profile encoded (mem_framesIn (by simp))
    have fits := ticks_fit ((Nat.sub_le encoded.rtpTimestamp first.rtpTimestamp).trans word)
    rw [toFrame_eq word, rate] at timestamp
    exact ⟨encoded, older, frame, first, rfl, began, behind, fits, rate.trans_ne nonzero, timestamp⟩
  monotone := by
    rintro later second between first earlier rfl same unsaturated
    have forward := forward_of_epoch_eq sound.of_append same unsaturated
    obtain ⟨⟨newer, before, anchor, arrived, newAnchor, -, newTimestamp⟩, placed⟩ :=
      placed.of_append
    obtain ⟨⟨older, start, firstAnchor, rfl, oldAnchor, -, oldTimestamp⟩, -⟩ := placed.of_append
    have kept : anchorOf (.decoded second :: (between ++ .decoded first :: .received older ::
        start)) = some firstAnchor := by
      rw [anchorOf, anchorOf_append oldAnchor forward]
      rfl
    obtain rfl := Option.some.inj (newAnchor.symm.trans kept)
    have newest : (framesIn (between ++ .decoded first :: .received older :: start)).head? =
        some newer := by
      rw [arrived]
      rfl
    have order := le_of_regressedAmong rfl forward newest
    obtain ⟨oldRate, oldWord⟩ := profile older (mem_framesIn (by simp))
    obtain ⟨newRate, newWord⟩ := profile newer (mem_framesIn (by simp [arrived]))
    rw [oldTimestamp, newTimestamp, toFrame_eq oldWord, toFrame_eq newWord, oldRate, newRate]
    gcongr

/-- In every run over a stream with one clock rate, timestamps are counted from the beginning of
their run with one rounding, and they do not go back within an epoch. -/
theorem received_timestamps_anchored {driver : SourceDriver}
    {answers : SourceDriver.StartupAnswers} {turns : List SourceTurn}
    (prepared : SourceDriver.prepare answers turns = (driver, some (.ok ())))
    (noFrameTimeoutMs : Nat) (calls : List (List SourceTurn)) {clockHz : Nat}
    (nonzero : clockHz ≠ 0)
    (profile : ∀ encoded ∈ framesIn (driver.run noFrameTimeoutMs calls).log,
      encoded.rtpClockHz = clockHz ∧ encoded.rtpTimestamp ≤ u64Max) :
    Timestamps clockHz (driver.run noFrameTimeoutMs calls).log :=
  timestamps_of_audited nonzero profile
    (Lineage.of_run prepared noFrameTimeoutMs calls).audited
    (Anchored.placed_of_run prepared noFrameTimeoutMs calls)

/-- Two frames, and a third that begins a run of its own. -/
theorem received_timestamps_anchored_regression :
    let driver := (SourceDriver.prepare {} [arrival 960 true]).1
    let calls := [[arrival 0 true], [arrival 1921 true], [{ arrival 0 true with nowNs := 7 }]]
    (decodedIn (driver.run 2000 calls).log).map (·.timestampNs) = [7, 20020833, 0] ∧
      Timestamps 48000 (driver.run 2000 calls).log := by
  have prepared : SourceDriver.prepare {} [arrival 960 true] =
    ((SourceDriver.prepare {} [arrival 960 true]).1, some (.ok ())) := rfl
  exact ⟨by decide +kernel,
    received_timestamps_anchored prepared 2000 _ (by decide) (by decide +kernel)⟩

/-! ### Epochs without an end -/

/-- A driver with its anchor at the origin, after so many gaps. -/
structure Gaps (count : Nat) (driver : SourceDriver) : Prop where
  pending : driver.pendingFrame = none
  rtp : driver.firstRtpTimestamp = some 0
  localNs : driver.firstLocalTimestampNs = some 0
  previous : driver.previousRtpTimestamp = some 48000
  seen : driver.seenFrame = true
  epoch : driver.discontinuityEpoch = min count u64Max

namespace Gaps

variable {count : Nat} {driver : SourceDriver}

theorem receive_gap (gaps : Gaps count driver) :
    (driver.receive (frameAt 48000 false)).discontinuityEpoch = min (count + 1) u64Max := by
  rw [← saturatingAdd_min, ← gaps.epoch]
  simp [SourceDriver.receive, SourceDriver.observe, SourceDriver.enter, gaps.seen, gaps.previous,
    frameAt]

theorem receive_first (gaps : Gaps count driver) :
    (driver.receive (frameAt 48000 false)).firstRtpTimestamp = some 0 ∧
      (driver.receive (frameAt 48000 false)).firstLocalTimestampNs = some 0 := by
  have steady : driver.previousRtpTimestamp.any ((frameAt 48000 false).rtpTimestamp < ·) =
      false := by
    rw [gaps.previous]
    rfl
  rw [driver.receive_firstRtpTimestamp, driver.receive_firstLocalTimestampNs, steady]
  exact ⟨gaps.rtp, gaps.localNs⟩

theorem next (gaps : Gaps count driver) :
    Gaps (count + 1) (driver.next 2000 [arrival 48000 false]).1 := by
  obtain ⟨rtp, localNs⟩ := gaps.receive_first
  have kept : some ((driver.receive (frameAt 48000 false)).firstRtpTimestamp.getD 48000) =
      some 0 := by
    rw [rtp]
    rfl
  have origin : some ((driver.receive (frameAt 48000 false)).firstLocalTimestampNs.getD 0) =
      some 0 := by
    rw [localNs]
    rfl
  rw [next_arrival gaps.pending]
  exact ⟨(driver.receive_pendingFrame _).trans gaps.pending, kept, origin,
    driver.receive_previousRtpTimestamp (frameAt 48000 false),
    driver.receive_seenFrame (frameAt 48000 false), gaps.receive_gap⟩

theorem run (gaps : Gaps 1 driver) (count : Nat) :
    Gaps (count + 1) (driver.run 2000 (List.replicate count [arrival 48000 false])) := by
  induction count with
  | zero => exact gaps
  | succ count hypothesis =>
    rw [List.replicate_succ', SourceDriver.run, List.foldl_append]
    exact hypothesis.next

/-- The timestamps go back once more. -/
theorem next_back (gaps : Gaps count driver) :
    let decoded := ((driver.receive (frameAt 0 true)).place (frameAt 0 true) 0).2
    decoded.timestampNs = 0 ∧ decoded.discontinuityEpoch = min (count + 1) u64Max := by
  have back : driver.previousRtpTimestamp.any ((frameAt 0 true).rtpTimestamp < ·) = true := by
    rw [gaps.previous]
    rfl
  have rtp : (driver.receive (frameAt 0 true)).firstRtpTimestamp = none := by
    rw [driver.receive_firstRtpTimestamp, back]
    rfl
  have localNs : (driver.receive (frameAt 0 true)).firstLocalTimestampNs = none := by
    rw [driver.receive_firstLocalTimestampNs, back]
    rfl
  have epoch : (driver.receive (frameAt 0 true)).discontinuityEpoch = min (count + 1) u64Max := by
    rw [← saturatingAdd_min, ← gaps.epoch]
    simp [SourceDriver.receive, SourceDriver.observe, SourceDriver.enter, gaps.previous, frameAt]
  refine ⟨?_, epoch⟩
  dsimp only [SourceDriver.place]
  rw [rtp, localNs]
  decide +kernel

/-- The frame after a gap is placed a second after the origin. -/
theorem next_timestamp (gaps : Gaps count driver) :
    let decoded := ((driver.receive (frameAt 48000 false)).place (frameAt 48000 false) 0).2
    decoded.timestampNs = 1000000000 ∧ decoded.discontinuityEpoch = min (count + 1) u64Max := by
  obtain ⟨rtp, localNs⟩ := gaps.receive_first
  refine ⟨?_, gaps.receive_gap⟩
  dsimp only [SourceDriver.place]
  rw [rtp, localNs]
  decide +kernel

end Gaps

/-- Many gaps, and a regression after them. -/
def gapsThenBack (count : Nat) : List (List SourceTurn) :=
  [arrival 0 true] :: (List.replicate count [arrival 48000 false] ++ [[arrival 0 true]])

theorem run_gapsThenBack (count : Nat) :
    ∃ later second between first earlier,
      ((SourceDriver.prepare {} [arrival 0 true]).1.run 2000 (gapsThenBack (count + 2))).log =
        later ++ .decoded second :: (between ++ .decoded first :: earlier) ∧
      first.discontinuityEpoch = min (count + 2) u64Max ∧
      second.discontinuityEpoch = min (count + 3) u64Max ∧
      first.timestampNs = 1000000000 ∧ second.timestampNs = 0 := by
  let start := (((SourceDriver.prepare {} [arrival 0 true]).1.next 2000 [arrival 0 true]).1.next
    2000 [arrival 48000 false]).1
  have begins : Gaps 1 start := by
    constructor <;> decide +kernel
  let middle := start.run 2000 (List.replicate count [arrival 48000 false])
  let last := (middle.next 2000 [arrival 48000 false]).1
  have before : Gaps (count + 1) middle := begins.run count
  have after : Gaps (count + 2) last := before.next
  let first := ((middle.receive (frameAt 48000 false)).place (frameAt 48000 false) 0).2
  let second := ((last.receive (frameAt 0 true)).place (frameAt 0 true) 0).2
  have firstLog := (next_arrival_log before.pending 2000 48000 false).2
  have secondLog := (next_arrival_log after.pending 2000 0 true).2
  refine ⟨[.emitted second], second, [.received (frameAt 0 true), .emitted first],
    first, .received (frameAt 48000 false) :: middle.log, ?_, before.next_timestamp.2,
    after.next_back.2, before.next_timestamp.1, after.next_back.1⟩
  rw [gapsThenBack, List.replicate_succ, List.replicate_succ', SourceDriver.run, List.foldl_cons,
    List.cons_append, List.foldl_cons, List.append_assoc, List.foldl_append]
  exact secondLog.trans
    (congrArg (.emitted second :: .decoded second :: .received (frameAt 0 true) :: ·) firstLog)

/-- When the epochs have run out, a regression leaves the epoch as it is. -/
theorem timestamps_back_in_saturated_epoch :
    ∃ count later second between first earlier,
      ((SourceDriver.prepare {} [arrival 0 true]).1.run 2000 (gapsThenBack count)).log =
        later ++ .decoded second :: (between ++ .decoded first :: earlier) ∧
      first.discontinuityEpoch = second.discontinuityEpoch ∧
      second.timestampNs < first.timestampNs := by
  obtain ⟨later, second, between, first, earlier, log, firstEpoch, secondEpoch, late, early⟩ :=
    run_gapsThenBack u64Max
  refine ⟨u64Max + 2, later, second, between, first, earlier, log, ?_, ?_⟩
  · rw [firstEpoch, secondEpoch]
    omega
  · omega

end RelayConnector
