/-
This file proves that the epochs and sequence numbers of received frames tell what was lost.

Every frame that is decoded gets the next sequence number and the epoch of the moment; nothing
happens between its decoding and its emission or loss. So two frames that are emitted one after
the other differ by what the log has between them: the frames that were skipped, the gaps that
the connection flagged, the timestamps that went back.
-/

import RelayConnector.Audit
import RelayConnector.Source

namespace RelayConnector

open Words Audit

/-! ### Reading the log -/

namespace SourceEvent

def asReceived : SourceEvent → Option ReceivedOpusFrame
  | .received frame => some frame
  | _ => none

def asDecoded : SourceEvent → Option DecodedFrame
  | .decoded frame => some frame
  | _ => none

def asDropped : SourceEvent → Option DecodedFrame
  | .dropped frame => some frame
  | _ => none

def asUnemitted : SourceEvent → Option DecodedFrame
  | .unemitted frame => some frame
  | _ => none

def asEmitted : SourceEvent → Option DecodedFrame
  | .emitted frame => some frame
  | _ => none

def asSkipped : SourceEvent → Option DecodedFrame
  | .dropped frame | .unemitted frame => some frame
  | _ => none

def asSettled : SourceEvent → Option DecodedFrame
  | .dropped frame | .unemitted frame | .emitted frame => some frame
  | _ => none

def isUndecodable : SourceEvent → Bool
  | .undecodable => true
  | _ => false

end SourceEvent

def framesIn (log : List SourceEvent) : List ReceivedOpusFrame :=
  log.filterMap SourceEvent.asReceived

def decodedIn (log : List SourceEvent) : List DecodedFrame := log.filterMap SourceEvent.asDecoded

def droppedIn (log : List SourceEvent) : List DecodedFrame := log.filterMap SourceEvent.asDropped

def unemittedIn (log : List SourceEvent) : List DecodedFrame :=
  log.filterMap SourceEvent.asUnemitted

def emittedIn (log : List SourceEvent) : List DecodedFrame := log.filterMap SourceEvent.asEmitted

/-- The frames that were dropped by the pool or whose emission failed. -/
def skippedIn (log : List SourceEvent) : List DecodedFrame := log.filterMap SourceEvent.asSkipped

/-- The frames that have left the driver in one way or another. -/
def settledIn (log : List SourceEvent) : List DecodedFrame := log.filterMap SourceEvent.asSettled

def undecodableIn (log : List SourceEvent) : List SourceEvent :=
  log.filter SourceEvent.isUndecodable

variable {log : List SourceEvent} {driver : SourceDriver}

theorem mem_framesIn {encoded : ReceivedOpusFrame} (member : .received encoded ∈ log) :
    encoded ∈ framesIn log :=
  List.mem_filterMap.mpr ⟨_, member, rfl⟩

theorem framesIn_append (newer older : List SourceEvent) :
    framesIn (newer ++ older) = framesIn newer ++ framesIn older := List.filterMap_append

theorem decodedIn_append (newer older : List SourceEvent) :
    decodedIn (newer ++ older) = decodedIn newer ++ decodedIn older := List.filterMap_append

theorem droppedIn_append (newer older : List SourceEvent) :
    droppedIn (newer ++ older) = droppedIn newer ++ droppedIn older := List.filterMap_append

/-- How many frames the connection flagged as not contiguous. -/
def flaggedAmong (frames : List ReceivedOpusFrame) : Nat := frames.countP (!·.contiguous)

/-- How many of the newer frames have a timestamp below the one of the frame before them. -/
def regressedAmong (older : List ReceivedOpusFrame) : List ReceivedOpusFrame → Nat
  | [] => 0
  | frame :: rest =>
    regressedAmong older rest +
      if (rest ++ older).head?.any (frame.rtpTimestamp < ·.rtpTimestamp) then 1 else 0

/-- The discontinuities of a stream: every frame but the first can be one, or two. -/
def jumps : List ReceivedOpusFrame → Nat
  | [] => 0
  | frame :: rest =>
    jumps rest + (if !rest.isEmpty && !frame.contiguous then 1 else 0) +
      if rest.head?.any (frame.rtpTimestamp < ·.rtpTimestamp) then 1 else 0

theorem jumps_append {older : List ReceivedOpusFrame} (some : older ≠ [])
    (newer : List ReceivedOpusFrame) :
    jumps (newer ++ older) =
      jumps older + flaggedAmong newer + regressedAmong older newer := by
  induction newer with
  | nil => simp [flaggedAmong, regressedAmong]
  | cons frame rest hypothesis =>
    have present : (rest ++ older).isEmpty = false := by simp [some]
    rw [List.cons_append, jumps, hypothesis, present]
    simp only [flaggedAmong, regressedAmong, List.countP_cons, Bool.not_false, Bool.true_and]
    omega

/-- How often the epoch has been advanced. -/
def breaks (log : List SourceEvent) : Nat := jumps (framesIn log) + (droppedIn log).length

theorem breaks_append {older : List SourceEvent} (some : framesIn older ≠ [])
    (newer : List SourceEvent) :
    breaks (newer ++ older) = breaks older + (droppedIn newer).length +
      flaggedAmong (framesIn newer) + regressedAmong (framesIn older) (framesIn newer) := by
  rw [breaks, breaks, framesIn_append, droppedIn_append, jumps_append some, List.length_append]
  omega

/-! ### What is known of every entry -/

/-- A frame is decoded as soon as it is received, with the number of frames decoded before it and
the epoch of the moment, and it is emitted or lost as soon as the driver turns to the next. -/
def SourceEvent.Sound (event : SourceEvent) (earlier : List SourceEvent) : Prop :=
  match event with
  | .received _ => ∀ frame, earlier.head? ≠ some (.decoded frame)
  | .undecodable => ∃ frame, earlier.head? = some (.received frame)
  | .decoded frame => (∃ received, earlier.head? = some (.received received)) ∧
      frame.sequenceNumber = min (decodedIn earlier).length u64Max ∧
      frame.discontinuityEpoch = min (breaks earlier) u64Max
  | .dropped frame | .emitted frame | .unemitted frame =>
      earlier.head? = some (.decoded frame)

/-- Whatever follows a moment with no frame in hand, each frame decoded since is settled, except
one that was decoded last. -/
theorem decodedIn_of_audited {new base : List SourceEvent}
    (audited : Audited SourceEvent.Sound (new ++ base))
    (settled : ∀ frame, base.head? ≠ some (.decoded frame)) :
    (∀ frame rest, new = .decoded frame :: rest → decodedIn new = frame :: settledIn new) ∧
      ((∀ frame, new.head? ≠ some (.decoded frame)) → decodedIn new = settledIn new) := by
  induction new with
  | nil => exact ⟨nofun, fun _ => rfl⟩
  | cons event rest hypothesis =>
    obtain ⟨sound, audited⟩ := audited
    obtain ⟨decoded, idle⟩ := hypothesis audited
    -- the entry below is the newest of `rest`, or of `base`, which has no frame in hand
    have below : ∀ frame, (rest ++ base).head? = some (.decoded frame) →
        decodedIn rest = frame :: settledIn rest := by
      intro frame head
      cases rest with
      | nil => exact absurd head (settled frame)
      | cons first others =>
        obtain rfl := Option.some.inj head
        exact decoded frame others rfl
    have clear : (∀ frame, (rest ++ base).head? ≠ some (.decoded frame)) →
        decodedIn rest = settledIn rest := by
      intro head
      refine idle fun frame newest => ?_
      cases rest with
      | nil => simp at newest
      | cons first others => exact head frame newest
    refine ⟨?_, fun head => ?_⟩
    · rintro frame _ ⟨⟩
      obtain ⟨⟨received, newest⟩, -, -⟩ := sound
      exact congrArg _ (clear fun other same => nomatch newest.symm.trans same)
    · cases event with
      | received frame => exact clear sound
      | undecodable =>
        obtain ⟨received, newest⟩ := sound
        exact clear fun other same => nomatch newest.symm.trans same
      | decoded frame => exact absurd rfl (head frame)
      | dropped frame => exact below frame sound
      | emitted frame => exact below frame sound
      | unemitted frame => exact below frame sound

/-! ### What every step keeps -/

/-- The totals that frames are counted in. -/
structure FrameTotals where
  received : Nat
  emitted : Nat
  dropped : Nat
  undecodable : Nat

def ObservationState.frameTotals (totals : ObservationState) : FrameTotals where
  received := totals.receivedFramesTotal
  emitted := totals.emittedFramesTotal
  dropped := totals.poolDroppedFramesTotal
  undecodable := totals.decodeFailuresTotal

/-- The totals that belong to a log: words that wrap. -/
def frameTotalsOf (log : List SourceEvent) : FrameTotals where
  received := (framesIn log).length % 2 ^ 64
  emitted := (emittedIn log).length % 2 ^ 64
  dropped := (droppedIn log).length % 2 ^ 64
  undecodable := (undecodableIn log).length % 2 ^ 64

/-- The driver's fields and totals are what its log says, and `held` is the frame in hand. -/
structure Lineage (held : Option DecodedFrame) (driver : SourceDriver) : Prop where
  sequence : driver.nextSequence = min (decodedIn driver.log).length u64Max
  epoch : driver.discontinuityEpoch = min (breaks driver.log) u64Max
  previous : driver.previousRtpTimestamp = (framesIn driver.log).head?.map (·.rtpTimestamp)
  seen : driver.seenFrame = !(framesIn driver.log).isEmpty
  hand : ∀ frame, driver.log.head? = some (.decoded frame) ↔ held = some frame
  audited : Audited SourceEvent.Sound driver.log
  balance : (framesIn driver.log).length =
    (settledIn driver.log).length + (undecodableIn driver.log).length + held.toList.length
  totals : driver.observations.frameTotals = frameTotalsOf driver.log

theorem wrappingAdd_mod (count : Nat) : wrappingAdd (count % 2 ^ 64) 1 = (count + 1) % 2 ^ 64 := by
  simp [wrappingAdd]

/-- What an entry adds to the totals. -/
def FrameTotals.count (totals : FrameTotals) : SourceEvent → FrameTotals
  | .received _ => { totals with received := wrappingAdd totals.received 1 }
  | .undecodable => { totals with undecodable := wrappingAdd totals.undecodable 1 }
  | .dropped _ => { totals with dropped := wrappingAdd totals.dropped 1 }
  | .emitted _ => { totals with emitted := wrappingAdd totals.emitted 1 }
  | .decoded _ | .unemitted _ => totals

theorem frameTotalsOf_cons (event : SourceEvent) (log : List SourceEvent) :
    frameTotalsOf (event :: log) = (frameTotalsOf log).count event := by
  cases event <;> simp only [frameTotalsOf, FrameTotals.count, wrappingAdd_mod] <;> rfl

namespace SourceDriver

variable {driver : SourceDriver}

theorem receive_log (encoded : ReceivedOpusFrame) :
    (driver.receive encoded).log = .received encoded :: driver.log := by
  unfold receive
  dsimp only [observe, enter]
  split <;> split <;> rfl

theorem receive_nextSequence (encoded : ReceivedOpusFrame) :
    (driver.receive encoded).nextSequence = driver.nextSequence := by
  unfold receive
  dsimp only [observe, enter]
  split <;> split <;> rfl

theorem receive_totals (encoded : ReceivedOpusFrame) :
    (driver.receive encoded).observations.frameTotals =
      driver.observations.frameTotals.count (.received encoded) := by
  unfold receive
  dsimp only [observe, enter]
  split <;> split <;> rfl

theorem receive_discontinuityEpoch (lineage : Lineage none driver) (encoded : ReceivedOpusFrame) :
    (driver.receive encoded).discontinuityEpoch =
      min (breaks (.received encoded :: driver.log)) u64Max := by
  have total : breaks (.received encoded :: driver.log) = breaks driver.log +
      (if !(framesIn driver.log).isEmpty && !encoded.contiguous then 1 else 0) +
      (if (framesIn driver.log).head?.any (encoded.rtpTimestamp < ·.rtpTimestamp) then 1
        else 0) := by
    show jumps (encoded :: framesIn driver.log) + (droppedIn driver.log).length = _
    rw [jumps, breaks]
    omega
  have back : driver.previousRtpTimestamp.any (encoded.rtpTimestamp < ·) =
      (framesIn driver.log).head?.any (encoded.rtpTimestamp < ·.rtpTimestamp) := by
    rw [lineage.previous, Option.any_map]
  rw [total, ← back, ← lineage.seen, ← saturatingAdd_min, ← saturatingAdd_min, ← lineage.epoch]
  have bounded : saturatingAdd driver.discontinuityEpoch 0 = driver.discontinuityEpoch := by
    rw [lineage.epoch, saturatingAdd_min, Nat.add_zero]
  have advanced : saturatingAdd (saturatingAdd driver.discontinuityEpoch 1) 0 =
      saturatingAdd driver.discontinuityEpoch 1 := by
    unfold saturatingAdd
    omega
  unfold receive
  dsimp only [observe, enter]
  split <;> split <;> simp_all

theorem receive_previousRtpTimestamp (encoded : ReceivedOpusFrame) :
    (driver.receive encoded).previousRtpTimestamp = some encoded.rtpTimestamp := by
  unfold receive
  rfl

theorem receive_seenFrame (encoded : ReceivedOpusFrame) :
    (driver.receive encoded).seenFrame = true := by
  unfold receive
  rfl

end SourceDriver

namespace Lineage

variable {driver : SourceDriver} {decoded : DecodedFrame}

theorem connected : Lineage none SourceDriver.connected := by
  constructor <;> simp [SourceDriver.connected, decodedIn, breaks, framesIn, droppedIn, jumps,
    emittedIn, settledIn, undecodableIn, Audited, frameTotalsOf, ObservationState.frameTotals]

theorem not_decoded (lineage : Lineage none driver) (frame : DecodedFrame) :
    driver.log.head? ≠ some (.decoded frame) := by
  simp [lineage.hand frame]

theorem undecodable (lineage : Lineage none driver) (encoded : ReceivedOpusFrame) :
    Lineage none (driver.receive encoded).undecodable := by
  have log : (driver.receive encoded).undecodable.log =
      .undecodable :: .received encoded :: driver.log :=
    congrArg _ (driver.receive_log encoded)
  constructor <;> (try rw [log])
  case sequence => exact (driver.receive_nextSequence encoded).trans lineage.sequence
  case epoch => exact driver.receive_discontinuityEpoch lineage encoded
  case previous => exact driver.receive_previousRtpTimestamp encoded
  case seen => exact driver.receive_seenFrame encoded
  case hand => simp
  case audited => exact ⟨⟨encoded, rfl⟩, lineage.not_decoded, lineage.audited⟩
  case balance => exact congrArg (· + 1) lineage.balance
  case totals =>
    rw [frameTotalsOf_cons, frameTotalsOf_cons, ← lineage.totals, ← driver.receive_totals]
    rfl

theorem decodes (lineage : Lineage none driver) (encoded : ReceivedOpusFrame) (nowNs : Nat) :
    Lineage (some ((driver.receive encoded).place encoded nowNs).2)
      ((driver.receive encoded).place encoded nowNs).1 := by
  have sequence := (driver.receive_nextSequence encoded).trans lineage.sequence
  have epoch := driver.receive_discontinuityEpoch lineage encoded
  have log : ((driver.receive encoded).place encoded nowNs).1.log =
      .decoded ((driver.receive encoded).place encoded nowNs).2 :: .received encoded ::
        driver.log :=
    congrArg _ (driver.receive_log encoded)
  constructor <;> (try rw [log])
  case sequence => exact (congrArg (saturatingAdd · 1) sequence).trans (saturatingAdd_min _ _)
  case epoch => exact epoch
  case previous => exact driver.receive_previousRtpTimestamp encoded
  case seen => exact driver.receive_seenFrame encoded
  case hand => simp [eq_comm]
  case audited =>
    exact ⟨⟨⟨encoded, rfl⟩, sequence, epoch⟩, lineage.not_decoded, lineage.audited⟩
  case balance => exact congrArg (· + 1) lineage.balance
  case totals =>
    rw [frameTotalsOf_cons, frameTotalsOf_cons, ← lineage.totals, ← driver.receive_totals]
    rfl

theorem first (lineage : Lineage (some decoded) driver) :
    Lineage (some decoded) (driver.observe fun totals =>
      { totals with firstFrameTotal := wrappingAdd totals.firstFrameTotal 1 }) :=
  ⟨lineage.sequence, lineage.epoch, lineage.previous, lineage.seen, lineage.hand,
    lineage.audited, lineage.balance, lineage.totals⟩

theorem fails (lineage : Lineage none driver) : Lineage none driver.observeRuntimeFailure :=
  ⟨lineage.sequence, lineage.epoch, lineage.previous, lineage.seen, lineage.hand,
    lineage.audited, lineage.balance, lineage.totals⟩

/-- The frame in hand leaves the driver. -/
theorem settles {after : SourceDriver} {event : SourceEvent}
    (lineage : Lineage (some decoded) driver) (settled : event.asSettled = some decoded)
    (log : after.log = event :: driver.log) (sequence : after.nextSequence = driver.nextSequence)
    (epoch : after.discontinuityEpoch = min (breaks (event :: driver.log)) u64Max)
    (previous : after.previousRtpTimestamp = driver.previousRtpTimestamp)
    (seen : after.seenFrame = driver.seenFrame)
    (totals : after.observations.frameTotals = driver.observations.frameTotals.count event) :
    Lineage none after := by
  have newest := (lineage.hand decoded).mpr rfl
  have balance := lineage.balance
  constructor <;> (try rw [log])
  case epoch => exact epoch
  case totals => rw [totals, frameTotalsOf_cons, lineage.totals]
  all_goals
    cases event <;> obtain ⟨⟩ := settled
  case sequence.dropped | sequence.emitted | sequence.unemitted =>
    exact sequence.trans lineage.sequence
  case previous.dropped | previous.emitted | previous.unemitted =>
    exact previous.trans lineage.previous
  case seen.dropped | seen.emitted | seen.unemitted => exact seen.trans lineage.seen
  case hand.dropped | hand.emitted | hand.unemitted => simp
  case audited.dropped | audited.emitted | audited.unemitted => exact ⟨newest, lineage.audited⟩
  case balance.dropped | balance.emitted | balance.unemitted =>
    exact balance.trans (Nat.add_right_comm _ _ _)

theorem emits (lineage : Lineage (some decoded) driver) (turn : SourceTurn) :
    Lineage none (driver.emission turn decoded).1 := by
  have lost : (SourceEvent.unemitted decoded).asSettled = some decoded := rfl
  have sent : (SourceEvent.emitted decoded).asSettled = some decoded := rfl
  unfold SourceDriver.emission
  split
  · exact lineage.settles lost rfl rfl lineage.epoch rfl rfl rfl
  · exact lineage.settles sent rfl rfl lineage.epoch rfl rfl rfl

theorem drops (lineage : Lineage (some decoded) driver) : Lineage none (driver.drop decoded) := by
  have epoch : (driver.drop decoded).discontinuityEpoch =
      min (breaks (.dropped decoded :: driver.log)) u64Max :=
    (congrArg (saturatingAdd · 1) lineage.epoch).trans (saturatingAdd_min _ _)
  exact lineage.settles rfl rfl rfl epoch rfl rfl rfl

theorem keeps : SourceDriver.Keeps (fun _ => True) (Lineage none)
    (fun driver decoded => Lineage (some decoded) driver) where
  undecodable _ encoded lineage := lineage.undecodable encoded
  decodes _ encoded nowNs lineage := lineage.decodes encoded nowNs
  emits _ turn _ _ _ lineage := lineage.emits turn
  drops _ _ lineage := lineage.drops
  fails _ lineage := lineage.fails

/-- The driver's fields tell its log in every run. -/
theorem of_run {answers : SourceDriver.StartupAnswers} {turns : List SourceTurn}
    (prepared : SourceDriver.prepare answers turns = (driver, some (.ok ())))
    (noFrameTimeoutMs : Nat) (calls : List (List SourceTurn)) :
    Lineage (driver.run noFrameTimeoutMs calls).pendingFrame
      { driver.run noFrameTimeoutMs calls with pendingFrame := none } := by
  have start : SourceDriver.Between (Lineage none)
      (fun driver decoded => Lineage (some decoded) driver) driver :=
    keeps.prepare (fun _ _ lineage => lineage.first) connected prepared
  have last : SourceDriver.Between (Lineage none)
      (fun driver decoded => Lineage (some decoded) driver) (driver.run noFrameTimeoutMs calls) :=
    keeps.run noFrameTimeoutMs (fun _ turn _ _ lineage => lineage.emits turn)
      (fun _ _ _ _ => trivial) start
  generalize driver.run noFrameTimeoutMs calls = after at last
  unfold SourceDriver.Between at last
  split at last
  next none =>
    have same : { after with pendingFrame := .none } = after := by rw [← none]
    rw [none, same]
    exact last
  next frame pending => rwa [pending]

end Lineage

/-! ### Two emissions -/

theorem settledIn_eq_skippedIn (none : emittedIn log = []) : settledIn log = skippedIn log := by
  refine List.filterMap_congr fun event mem => ?_
  have unsent := List.filterMap_eq_nil_iff.mp none event mem
  cases event <;> first | rfl | cases unsent

theorem settledIn_length (log : List SourceEvent) :
    (settledIn log).length =
      (emittedIn log).length + (droppedIn log).length + (unemittedIn log).length := by
  induction log with
  | nil => rfl
  | cons event rest hypothesis =>
    cases event with
    | received | undecodable | decoded => exact hypothesis
    | dropped =>
      show (settledIn rest).length + 1 =
        (emittedIn rest).length + ((droppedIn rest).length + 1) + (unemittedIn rest).length
      omega
    | emitted =>
      show (settledIn rest).length + 1 =
        (emittedIn rest).length + 1 + (droppedIn rest).length + (unemittedIn rest).length
      omega
    | unemitted => exact congrArg (· + 1) hypothesis

/-- What the second of two successive emissions tells of what lies between them. -/
structure Successive (first second : DecodedFrame) (between earlier : List SourceEvent) : Prop where
  /-- The frames that were decoded since the first and not emitted are those that were lost. -/
  skipped : decodedIn between = second :: skippedIn between
  sequence : second.sequenceNumber =
    min (first.sequenceNumber + 1 + (skippedIn between).length) u64Max
  increasing : first.sequenceNumber < u64Max → first.sequenceNumber < second.sequenceNumber
  epoch : second.discontinuityEpoch =
    min (first.discontinuityEpoch + (droppedIn between).length +
      flaggedAmong (framesIn between) +
      regressedAmong (framesIn earlier) (framesIn between)) u64Max
  equal : first.discontinuityEpoch < u64Max →
    (second.discontinuityEpoch = first.discontinuityEpoch ↔
      (droppedIn between).length = 0 ∧ flaggedAmong (framesIn between) = 0 ∧
        regressedAmong (framesIn earlier) (framesIn between) = 0)

/-- An entry for a frame that was emitted stands on the entries for its arrival and decoding. -/
theorem emitted_cases {frame : DecodedFrame}
    (audited : Audited SourceEvent.Sound (.emitted frame :: log)) :
    ∃ encoded before, log = .decoded frame :: .received encoded :: before ∧
      frame.sequenceNumber = min (decodedIn before).length u64Max ∧
      frame.discontinuityEpoch = min (breaks (.received encoded :: before)) u64Max := by
  obtain ⟨newest, audited⟩ := audited
  obtain ⟨rest, rfl⟩ := List.head?_eq_some_iff.mp newest
  obtain ⟨⟨⟨encoded, newest⟩, sequence, epoch⟩, -⟩ := audited
  obtain ⟨before, rfl⟩ := List.head?_eq_some_iff.mp newest
  exact ⟨encoded, before, rfl, sequence, epoch⟩

theorem successive_of_audited {first second : DecodedFrame} {between earlier : List SourceEvent}
    (audited : Audited SourceEvent.Sound
      (.emitted second :: (between ++ .emitted first :: earlier)))
    (none : emittedIn between = []) : Successive first second between earlier := by
  obtain ⟨encoded, before, same, sequence, epoch⟩ := emitted_cases audited
  have chain := decodedIn_of_audited audited.2 nofun
  obtain ⟨arrival, start, rfl, firstSequence, firstEpoch⟩ := emitted_cases audited.2.of_append
  cases between with
  | nil => simp at same
  | cons newest rest =>
    obtain ⟨rfl, below⟩ := List.cons.inj same
    have same : rest ++ .emitted first :: .decoded first :: .received arrival :: start =
      .received encoded :: before := below
    have skipped := chain.1 second rest rfl
    rw [settledIn_eq_skippedIn none] at skipped
    have numbers : (decodedIn before).length =
        (skippedIn (.decoded second :: rest)).length + (1 + (decodedIn start).length) := by
      have decoded : decodedIn (.received encoded :: before) =
          decodedIn rest ++ first :: decodedIn start := by
        rw [← same, decodedIn_append]
        rfl
      have others : decodedIn rest = skippedIn (.decoded second :: rest) :=
        (List.cons.inj skipped).2
      show (decodedIn (.received encoded :: before)).length = _
      rw [decoded, others, List.length_append, List.length_cons]
      omega
    have some : framesIn (.emitted first :: .decoded first :: .received arrival :: start) ≠ [] :=
      List.cons_ne_nil _ _
    have total : breaks (.received encoded :: before) =
        breaks (.received arrival :: start) + (droppedIn rest).length +
          flaggedAmong (framesIn rest) +
          regressedAmong (framesIn (.received arrival :: start)) (framesIn rest) := by
      rw [← same]
      exact breaks_append some rest
    have dropped : droppedIn (.decoded second :: rest) = droppedIn rest := rfl
    have frames : framesIn (.decoded second :: rest) = framesIn rest := rfl
    have arrived : framesIn (.decoded first :: .received arrival :: start) =
      framesIn (.received arrival :: start) := rfl
    rw [numbers] at sequence
    rw [total] at epoch
    constructor
    · exact skipped
    · omega
    · omega
    · rw [dropped, frames, arrived]
      omega
    · rw [dropped, frames, arrived]
      omega

/-! ### Runs in which only the pool can fail -/

/-- A buffer can be acquired when there is a slot, and nothing else stops an emission. -/
structure SourceTurn.PoolOnly (turn : SourceTurn) : Prop where
  output : turn.output = true
  acquire : turn.acquire = turn.available
  copy : turn.copy = .ok ()
  audioFrame : turn.audioFrame = .ok ()
  lineage : turn.lineage = .ok ()
  timing : turn.timing = .ok ()

/-- An emission fails before the first frame has been emitted, or not at all. -/
def SourceEvent.Early (event : SourceEvent) (earlier : List SourceEvent) : Prop :=
  match event with
  | .unemitted _ => emittedIn earlier = []
  | _ => True

theorem emissionAnswer_of_poolOnly {turn : SourceTurn} (only : turn.PoolOnly)
    (available : turn.available = true) : SourceDriver.emissionAnswer turn = .ok () := by
  simp [SourceDriver.emissionAnswer, only.output, only.acquire.trans available, only.copy,
    only.audioFrame, only.lineage, only.timing, bind, Except.bind]

theorem early_keeps : SourceDriver.Keeps SourceTurn.PoolOnly
    (fun driver => Audited SourceEvent.Early driver.log)
    (fun driver _ => Audited SourceEvent.Early driver.log) where
  undecodable driver encoded early := by
    show Audited _ (.undecodable :: (driver.receive encoded).log)
    rw [driver.receive_log]
    exact ⟨trivial, trivial, early⟩
  decodes driver encoded nowNs early := by
    show Audited _ (.decoded _ :: (driver.receive encoded).log)
    rw [driver.receive_log]
    exact ⟨trivial, trivial, early⟩
  emits driver turn decoded only available early := by
    rw [SourceDriver.emission, emissionAnswer_of_poolOnly only available]
    exact ⟨trivial, early⟩
  drops _ _ early := ⟨trivial, early⟩
  fails _ early := early

/-- Before the first emission. -/
def Silent (driver : SourceDriver) : Prop :=
  emittedIn driver.log = [] ∧ Audited SourceEvent.Early driver.log

theorem silent_decodes : SourceDriver.Decodes Silent (fun driver _ => Silent driver) where
  undecodable driver encoded silent := by
    show emittedIn (.undecodable :: (driver.receive encoded).log) = [] ∧
      Audited _ (.undecodable :: (driver.receive encoded).log)
    rw [driver.receive_log]
    exact ⟨silent.1, trivial, trivial, silent.2⟩
  decodes driver encoded nowNs silent := by
    show emittedIn (.decoded _ :: (driver.receive encoded).log) = [] ∧
      Audited _ (.decoded _ :: (driver.receive encoded).log)
    rw [driver.receive_log]
    exact ⟨silent.1, trivial, trivial, silent.2⟩

theorem silent_presents (turn : SourceTurn) (decoded : DecodedFrame) (silent : Silent driver) :
    Audited SourceEvent.Early (driver.emission turn decoded).1.log := by
  unfold SourceDriver.emission
  split
  · exact ⟨silent.1, silent.2⟩
  · exact ⟨trivial, silent.2⟩

theorem early_of_run {answers : SourceDriver.StartupAnswers} {turns : List SourceTurn}
    (prepared : SourceDriver.prepare answers turns = (driver, some (.ok ())))
    (noFrameTimeoutMs : Nat) {calls : List (List SourceTurn)}
    (only : ∀ turns ∈ calls, ∀ turn ∈ turns, turn.PoolOnly) :
    Audited SourceEvent.Early (driver.run noFrameTimeoutMs calls).log := by
  have start : SourceDriver.Between (fun driver => Audited SourceEvent.Early driver.log)
      (fun driver _ => Silent driver) driver :=
    silent_decodes.prepare (fun _ _ => id) ⟨rfl, trivial⟩ prepared
  have last := early_keeps.run noFrameTimeoutMs
    (fun _ turn decoded _ silent => silent_presents turn decoded silent) only start
  unfold SourceDriver.Between at last
  split at last
  · exact last
  · exact last.2

theorem unemittedIn_of_early {first : DecodedFrame} {between earlier : List SourceEvent}
    (early : Audited SourceEvent.Early (between ++ .emitted first :: earlier)) :
    unemittedIn between = [] := by
  induction between with
  | nil => rfl
  | cons event rest hypothesis =>
    have others := hypothesis early.2
    cases event with
    | unemitted frame =>
      have silent : emittedIn (rest ++ .emitted first :: earlier) = [] := early.1
      simp [emittedIn, SourceEvent.asEmitted] at silent
    | _ => exact others

theorem skippedIn_of_unemittedIn (none : unemittedIn log = []) : skippedIn log = droppedIn log := by
  refine List.filterMap_congr fun event mem => ?_
  have sent := List.filterMap_eq_nil_iff.mp none event mem
  cases event <;> first | rfl | cases sent

/-! ### Continuity -/

/-- What the numbers, the epochs and the totals of a driver tell of its log. -/
structure Continuity (driver : SourceDriver) : Prop where
  numbered : ∀ later frame earlier, driver.log = later ++ .decoded frame :: earlier →
    frame.sequenceNumber = min (decodedIn earlier).length u64Max
  successive : ∀ later second between first earlier,
    driver.log = later ++ .emitted second :: (between ++ .emitted first :: earlier) →
    emittedIn between = [] → Successive first second between earlier
  balanced : driver.observations.receivedFramesTotal =
    (driver.observations.emittedFramesTotal + driver.observations.poolDroppedFramesTotal +
      driver.observations.decodeFailuresTotal + (unemittedIn driver.log).length +
      driver.pendingFrame.toList.length) % 2 ^ 64

theorem Lineage.continuity
    (lineage : Lineage driver.pendingFrame { driver with pendingFrame := none }) :
    Continuity driver where
  numbered later frame earlier split := (lineage.audited.at_split split).2.1
  successive later second between first earlier split none := by
    have audited := lineage.audited
    rw [split] at audited
    exact successive_of_audited audited.of_append none
  balanced := by
    have balance := lineage.balance
    rw [settledIn_length] at balance
    have received := congrArg FrameTotals.received lineage.totals
    have emitted := congrArg FrameTotals.emitted lineage.totals
    have dropped := congrArg FrameTotals.dropped lineage.totals
    have undecodable := congrArg FrameTotals.undecodable lineage.totals
    simp only [ObservationState.frameTotals, frameTotalsOf] at *
    omega

/-- In every run, the sequence numbers and epochs of two successive emissions tell what was lost
between them, and every frame that was received is accounted for; where only the pool can fail,
the frames that are skipped are those it dropped. -/
theorem received_frames_continuous {driver : SourceDriver}
    {answers : SourceDriver.StartupAnswers} {turns : List SourceTurn}
    (prepared : SourceDriver.prepare answers turns = (driver, some (.ok ())))
    (noFrameTimeoutMs : Nat) (calls : List (List SourceTurn)) :
    Continuity (driver.run noFrameTimeoutMs calls) ∧
      ((∀ turns ∈ calls, ∀ turn ∈ turns, turn.PoolOnly) →
        ∀ later second between first earlier,
          (driver.run noFrameTimeoutMs calls).log =
            later ++ .emitted second :: (between ++ .emitted first :: earlier) →
          skippedIn between = droppedIn between) := by
  refine ⟨(Lineage.of_run prepared noFrameTimeoutMs calls).continuity, ?_⟩
  intro only later second between first earlier split
  have early := early_of_run prepared noFrameTimeoutMs only
  rw [split] at early
  exact skippedIn_of_unemittedIn (unemittedIn_of_early early.of_append.2)

/-- A frame of the qualified profile, without its payload. -/
def frameAt (rtpTimestamp : Nat) (contiguous : Bool) : ReceivedOpusFrame where
  payload := []
  rtpTimestamp := rtpTimestamp
  rtpClockHz := 48000
  contiguous := contiguous

/-- A turn in which a frame arrives. -/
def arrival (rtpTimestamp : Nat) (contiguous : Bool) : SourceTurn where
  poll := .ok (some (frameAt rtpTimestamp contiguous))

/-- A frame, then one that the pool drops, then one after a gap that goes back in time. -/
theorem received_frames_continuous_drop :
    let driver := (SourceDriver.prepare {} [arrival 960 true]).1
    let full := { arrival 1920 true with available := false, acquire := false }
    let calls := [[arrival 0 true], [full, arrival 0 false]]
    (emittedIn (driver.run 2000 calls).log).map (·.sequenceNumber) = [2, 0] ∧
      (emittedIn (driver.run 2000 calls).log).map (·.discontinuityEpoch) = [3, 0] ∧
      Continuity (driver.run 2000 calls) := by
  have prepared : SourceDriver.prepare {} [arrival 960 true] =
    ((SourceDriver.prepare {} [arrival 960 true]).1, some (.ok ())) := rfl
  exact ⟨by decide +kernel, by decide +kernel, (received_frames_continuous prepared 2000 _).1⟩

/-! ### Runs without an end -/

section Steady

variable {driver : SourceDriver}

/-- With a frame in its turn and a buffer for it, a call decodes the frame and emits it. -/
theorem next_arrival (none : driver.pendingFrame = .none) (noFrameTimeoutMs rtpTimestamp : Nat)
    (contiguous : Bool) :
    (driver.next noFrameTimeoutMs [arrival rtpTimestamp contiguous]).1 =
      let encoded := frameAt rtpTimestamp contiguous
      let (after, decoded) := (driver.receive encoded).place encoded 0
      (after.emission (arrival rtpTimestamp contiguous) decoded).1 := by
  rw [SourceDriver.next, none]
  rfl

theorem next_arrival_log (none : driver.pendingFrame = .none)
    (noFrameTimeoutMs rtpTimestamp : Nat) (contiguous : Bool) :
    let encoded := frameAt rtpTimestamp contiguous
    let decoded := ((driver.receive encoded).place encoded 0).2
    (driver.next noFrameTimeoutMs [arrival rtpTimestamp contiguous]).1.pendingFrame = .none ∧
      (driver.next noFrameTimeoutMs [arrival rtpTimestamp contiguous]).1.log =
        .emitted decoded :: .decoded decoded :: .received encoded :: driver.log := by
  intro encoded decoded
  rw [next_arrival none]
  refine ⟨(driver.receive_pendingFrame encoded).trans none, ?_⟩
  rw [← driver.receive_log encoded]
  rfl

theorem run_arrivals (none : driver.pendingFrame = .none) (noFrameTimeoutMs count : Nat) :
    (driver.run noFrameTimeoutMs (List.replicate count [arrival 0 true])).pendingFrame = .none ∧
      (decodedIn (driver.run noFrameTimeoutMs
        (List.replicate count [arrival 0 true])).log).length =
        (decodedIn driver.log).length + count := by
  induction count generalizing driver with
  | zero => exact ⟨none, rfl⟩
  | succ count hypothesis =>
    obtain ⟨waiting, log⟩ := next_arrival_log none noFrameTimeoutMs 0 true
    obtain ⟨last, total⟩ := hypothesis waiting
    refine ⟨last, total.trans ?_⟩
    rw [log]
    show (decodedIn driver.log).length + 1 + count = _
    omega

theorem run_prepared_arrivals (count : Nat) :
    ∃ frame earlier,
      ((SourceDriver.prepare {} [arrival 0 true]).1.run 2000
        (List.replicate (count + 2) [arrival 0 true])).log =
        [.emitted frame] ++ .decoded frame :: earlier ∧
      (decodedIn earlier).length = count + 1 := by
  let start := ((SourceDriver.prepare {} [arrival 0 true]).1.next 2000 [arrival 0 true]).1
  have calls : List.replicate (count + 2) [arrival 0 true] =
      [arrival 0 true] :: (List.replicate count [arrival 0 true] ++ [[arrival 0 true]]) := by
    rw [List.replicate_succ, List.replicate_succ']
  have waiting : start.pendingFrame = none := rfl
  have one : (decodedIn start.log).length = 1 := by decide +kernel
  obtain ⟨pending, total⟩ := run_arrivals waiting 2000 count
  let last := start.run 2000 (List.replicate count [arrival 0 true])
  have log := (next_arrival_log pending 2000 0 true).2
  refine ⟨((last.receive (frameAt 0 true)).place (frameAt 0 true) 0).2,
    .received (frameAt 0 true) :: last.log, ?_, ?_⟩
  · rw [calls, SourceDriver.run, List.foldl_cons, List.foldl_append]
    exact log
  · refine total.trans ?_
    omega

/-- There are more frames than numbers. -/
theorem sequence_numbers_saturate :
    ∃ calls : List (List SourceTurn), (∀ turns ∈ calls, ∀ turn ∈ turns, turn.PoolOnly) ∧
      ∃ later frame earlier,
        ((SourceDriver.prepare {} [arrival 0 true]).1.run 2000 calls).log =
          later ++ .decoded frame :: earlier ∧
        (decodedIn earlier).length = 2 ^ 64 ∧ frame.sequenceNumber = 2 ^ 64 - 1 := by
  have prepared : SourceDriver.prepare {} [arrival 0 true] =
    ((SourceDriver.prepare {} [arrival 0 true]).1, some (.ok ())) := rfl
  refine ⟨List.replicate (u64Max + 2) [arrival 0 true], ?_, ?_⟩
  · intro turns member turn inside
    obtain rfl := List.eq_of_mem_replicate member
    obtain rfl := List.mem_singleton.mp inside
    exact ⟨rfl, rfl, rfl, rfl, rfl, rfl⟩
  · obtain ⟨frame, earlier, log, total⟩ := run_prepared_arrivals u64Max
    have continuity :=
      (Lineage.of_run prepared 2000 (List.replicate (u64Max + 2) [arrival 0 true])).continuity
    refine ⟨[.emitted frame], frame, earlier, log, total, ?_⟩
    rw [continuity.numbered _ frame earlier log, total]
    rfl

end Steady

end RelayConnector
