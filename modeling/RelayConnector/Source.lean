/-
This file models `RelayAudioBusSourceDriver` of `source.rs`, from the moment `prepare` has
consumed its reservation: the startup, `next`, and what both make of a received frame.

A turn has what one round of a polling loop meets: the connection, the decoder, the clock,
the buffer pool and the constructors of Core. The driver keeps a log of what became of each
frame, newest entry first.
-/

import RelayConnector.Publisher
import RelayConnector.Words

namespace RelayConnector

open Words

/-! ### State -/

/-- `DecodedFrame`, without its samples. Besides, it has the reading of the clock at its decoding,
which the source only keeps in `latest_frame_at_ns`. -/
structure DecodedFrame where
  timestampNs : Nat
  durationNs : Nat
  sequenceNumber : Nat
  discontinuityEpoch : Nat
  decodedAtNs : Nat
  deriving DecidableEq, Repr

/-- `ObservationState`. The totals are words that wrap. -/
structure ObservationState where
  preparedTotal : Nat := 0
  startupFailuresTotal : Nat := 0
  connectedTotal : Nat := 0
  firstFrameTotal : Nat := 0
  receivedFramesTotal : Nat := 0
  emittedFramesTotal : Nat := 0
  noncontiguousFramesTotal : Nat := 0
  poolDroppedFramesTotal : Nat := 0
  decodeFailuresTotal : Nat := 0
  runtimeFailuresTotal : Nat := 0
  closedTotal : Nat := 0
  latestFrameAtNs : Nat := 0
  closed : Bool := false
  deriving DecidableEq, Repr

/-- What became of a frame. -/
inductive SourceEvent where
  | received (frame : ReceivedOpusFrame)
  | undecodable
  | decoded (frame : DecodedFrame)
  /-- The pool had no slot. -/
  | dropped (frame : DecodedFrame)
  | emitted (frame : DecodedFrame)
  /-- `emission` returned an error. -/
  | unemitted (frame : DecodedFrame)
  deriving DecidableEq, Repr

/-- `RelayAudioBusSourceDriver` with its reservation. -/
structure SourceDriver where
  observations : ObservationState := {}
  pendingFrame : Option DecodedFrame := none
  firstRtpTimestamp : Option Nat := none
  firstLocalTimestampNs : Option Nat := none
  previousRtpTimestamp : Option Nat := none
  nextSequence : Nat := 0
  discontinuityEpoch : Nat := 0
  seenFrame : Bool := false
  log : List SourceEvent := []
  deriving DecidableEq, Repr

/-- What one round of a polling loop meets. -/
structure SourceTurn where
  /-- The startup deadline has passed. -/
  expired : Bool := false
  cancelled : Bool := false
  /-- What `poll_frame` returns. -/
  poll : Except String (Option ReceivedOpusFrame) := .ok none
  /-- What `decode_into` returns: how many samples there are. -/
  decode : Except String Nat := .ok 960
  /-- `monotonic_timestamp_ns`. -/
  nowNs : Nat := 0
  /-- `available_slots` is not zero. -/
  available : Bool := true
  /-- The Session knows the output port. -/
  output : Bool := true
  /-- `acquire` returns a buffer. -/
  acquire : Bool := true
  copy : Except String Unit := .ok ()
  audioFrame : Except String Unit := .ok ()
  lineage : Except String Unit := .ok ()
  timing : Except String Unit := .ok ()
  /-- The last delivery was at least `no_frame_timeout` ago. -/
  starved : Bool := false

def maxPacketSamples : Nat := 960

def sampleRateHz : Nat := 48000

namespace SourceDriver

variable (driver : SourceDriver)

def observe (update : ObservationState → ObservationState) : SourceDriver :=
  { driver with observations := update driver.observations }

def enter (event : SourceEvent) : SourceDriver := { driver with log := event :: driver.log }

/-- The part of `decode` before the decoder: the frame is compared with the one before it. -/
def receive (encoded : ReceivedOpusFrame) : SourceDriver :=
  let driver := (driver.enter (.received encoded)).observe fun totals =>
    { totals with receivedFramesTotal := wrappingAdd totals.receivedFramesTotal 1 }
  let driver :=
    if driver.seenFrame && !encoded.contiguous then
      { driver with discontinuityEpoch := saturatingAdd driver.discontinuityEpoch 1 }.observe
        fun totals =>
          { totals with
            noncontiguousFramesTotal := wrappingAdd totals.noncontiguousFramesTotal 1 }
    else driver
  let driver :=
    if driver.previousRtpTimestamp.any (encoded.rtpTimestamp < ·) then
      { driver with
        discontinuityEpoch := saturatingAdd driver.discontinuityEpoch 1
        firstRtpTimestamp := none
        firstLocalTimestampNs := none }
    else driver
  { driver with previousRtpTimestamp := some encoded.rtpTimestamp, seenFrame := true }

def undecodable : SourceDriver :=
  (driver.enter .undecodable).observe fun totals =>
    { totals with decodeFailuresTotal := wrappingAdd totals.decodeFailuresTotal 1 }

/-- The largest double word. -/
def u128Max : Nat := 2 ^ 128 - 1

/-- Nanoseconds of so many ticks: a product of double words that saturates, and a quotient that is
cut off at the largest word. -/
def ticksToNs (ticks clockHz : Nat) : Nat :=
  min (min (ticks * 1000000000) u128Max / clockHz) u64Max

/-- The part of `decode` after the decoder: the frame gets its place and its time. -/
def place (encoded : ReceivedOpusFrame) (nowNs : Nat) : SourceDriver × DecodedFrame :=
  let firstRtp := driver.firstRtpTimestamp.getD encoded.rtpTimestamp
  let firstLocal := driver.firstLocalTimestampNs.getD nowNs
  let decoded : DecodedFrame :=
    { timestampNs := saturatingAdd firstLocal
        (ticksToNs (encoded.rtpTimestamp - firstRtp) encoded.rtpClockHz)
      durationNs := ticksToNs maxPacketSamples sampleRateHz
      sequenceNumber := driver.nextSequence
      discontinuityEpoch := driver.discontinuityEpoch
      decodedAtNs := nowNs }
  let driver :=
    { driver with
      firstRtpTimestamp := some firstRtp
      firstLocalTimestampNs := some firstLocal
      nextSequence := saturatingAdd driver.nextSequence 1 }
  ((driver.observe fun totals => { totals with latestFrameAtNs := nowNs }).enter (.decoded decoded),
    decoded)

def decode (turn : SourceTurn) (encoded : ReceivedOpusFrame) :
    SourceDriver × Except String DecodedFrame :=
  let driver := driver.receive encoded
  match turn.decode with
  | .error message => (driver.undecodable, .error message)
  | .ok samples =>
    if samples ≠ maxPacketSamples then
      (driver.undecodable, .error ("unsupported decoded Opus frame size: " ++ toString samples ++
        " mono samples; expected the qualified 20 ms / 960-sample profile"))
    else
      let (driver, decoded) := driver.place encoded turn.nowNs
      (driver, .ok decoded)

/-- What `emission` meets on its way, in its order. -/
def emissionAnswer (turn : SourceTurn) : Except String Unit := do
  if !turn.output then .error "Relay AudioBus output identity is absent"
  if !turn.acquire then .error "Relay AudioBus audio pool is exhausted"
  turn.copy
  turn.audioFrame
  turn.lineage
  turn.timing

/-- `emission`. The emission has the sequence number, the epoch and the time of the frame. -/
def emission (turn : SourceTurn) (decoded : DecodedFrame) :
    SourceDriver × Except String DecodedFrame :=
  match emissionAnswer turn with
  | .error message => (driver.enter (.unemitted decoded), .error message)
  | .ok () =>
    ((driver.enter (.emitted decoded)).observe fun totals =>
      { totals with emittedFramesTotal := wrappingAdd totals.emittedFramesTotal 1 }, .ok decoded)

def drop (decoded : DecodedFrame) : SourceDriver :=
  ({ driver with discontinuityEpoch := saturatingAdd driver.discontinuityEpoch 1 }.enter
    (.dropped decoded)).observe fun totals =>
      { totals with poolDroppedFramesTotal := wrappingAdd totals.poolDroppedFramesTotal 1 }

def emissionOrDrop (turn : SourceTurn) (decoded : DecodedFrame) :
    SourceDriver × Except String (Option DecodedFrame) :=
  if !turn.available then (driver.drop decoded, .ok none)
  else
    let (driver, result) := driver.emission turn decoded
    (driver, result.map some)

def observeRuntimeFailure : SourceDriver :=
  driver.observe fun totals =>
    { totals with runtimeFailuresTotal := wrappingAdd totals.runtimeFailuresTotal 1 }

/-- One round of the loop of `next`; without a result the loop goes on. -/
def round (noFrameTimeoutMs : Nat) (turn : SourceTurn) :
    SourceDriver × Option (Except String (Option DecodedFrame)) :=
  if turn.cancelled then (driver, some (.ok none))
  else
    match turn.poll with
    | .error message => (driver.observeRuntimeFailure, some (.error message))
    | .ok (some encoded) =>
      match driver.decode turn encoded with
      | (driver, .error message) => (driver.observeRuntimeFailure, some (.error message))
      | (driver, .ok decoded) =>
        match driver.emissionOrDrop turn decoded with
        | (driver, .error message) => (driver, some (.error message))
        | (driver, .ok (some emission)) => (driver, some (.ok (some emission)))
        | (driver, .ok none) => (driver, none)
    | .ok none =>
      if turn.starved then
        (driver.observeRuntimeFailure,
          some (.error ("Relay AudioBus delivered no media frame for " ++
            toString noFrameTimeoutMs ++ " ms")))
      else (driver, none)

/-- The loop of `next`, for as long as there are turns. -/
def poll (noFrameTimeoutMs : Nat) :
    SourceDriver → List SourceTurn → SourceDriver × Option (Except String (Option DecodedFrame))
  | driver, [] => (driver, none)
  | driver, turn :: rest =>
    match driver.round noFrameTimeoutMs turn with
    | (driver, some result) => (driver, some result)
    | (driver, none) => poll noFrameTimeoutMs driver rest

/-- `next`. There is no result if it has not returned when the turns are over. -/
def next (noFrameTimeoutMs : Nat) (turns : List SourceTurn) :
    SourceDriver × Option (Except String (Option DecodedFrame)) :=
  match driver.pendingFrame with
  | none => driver.poll noFrameTimeoutMs turns
  | some decoded =>
    match turns with
    | [] => (driver, none)
    | turn :: _ =>
      let (driver, result) := { driver with pendingFrame := none }.emission turn decoded
      (driver, some (result.map some))

/-! ### Startup -/

def observeClosed : SourceDriver :=
  if driver.observations.closed then driver
  else
    driver.observe fun totals =>
      { totals with closed := true, closedTotal := wrappingAdd totals.closedTotal 1 }

/-- `fail_startup`; the connection, if there is one, is closed whatever comes of it. -/
def failStartup (message : String) : SourceDriver × Option (Except String Unit) :=
  let driver := driver.observe fun totals =>
    { totals with startupFailuresTotal := wrappingAdd totals.startupFailuresTotal 1 }
  (driver.observeClosed, some (.error message))

/-- The loop of `prepare` that waits for the first frame. -/
def awaitFirst : SourceDriver → List SourceTurn → SourceDriver × Option (Except String Unit)
  | driver, [] => (driver, none)
  | driver, turn :: rest =>
    if turn.expired then
      driver.failStartup
        "Relay AudioBus connected but delivered no Opus frame before startup timeout"
    else
      match turn.poll with
      | .error message => driver.failStartup message
      | .ok none => awaitFirst driver rest
      | .ok (some encoded) =>
        match driver.decode turn encoded with
        | (driver, .error message) => driver.failStartup message
        | (driver, .ok decoded) =>
          ({ driver with pendingFrame := some decoded }.observe fun totals =>
            { totals with firstFrameTotal := wrappingAdd totals.firstFrameTotal 1 },
            some (.ok ()))

/-- What `prepare` meets before its loop. -/
structure StartupAnswers where
  handshake : Except String Unit := .ok ()
  connection : Except String Unit := .ok ()
  decoder : Except String Unit := .ok ()
  /-- The startup timeout can be added to the clock. -/
  deadlineFits : Bool := true

/-- `prepare` from the reservation on, for a driver that may have been prepared before. -/
def startUp (reserved : ObservationState) (answers : StartupAnswers) (turns : List SourceTurn) :
    SourceDriver × Option (Except String Unit) :=
  let driver := { driver with
    observations := { reserved with preparedTotal := wrappingAdd reserved.preparedTotal 1 } }
  match answers.handshake with
  | .error message => driver.failStartup message
  | .ok () =>
    match answers.connection with
    | .error message => driver.failStartup message
    | .ok () =>
      let driver := driver.observe fun totals =>
        { totals with connectedTotal := wrappingAdd totals.connectedTotal 1 }
      match answers.decoder with
      | .error message => driver.failStartup message
      | .ok () =>
        if !answers.deadlineFits then driver.failStartup "startup deadline overflow"
        else driver.awaitFirst turns

/-- `prepare` of a new driver, once it has consumed the reservation. -/
def prepare (answers : StartupAnswers) (turns : List SourceTurn) :
    SourceDriver × Option (Except String Unit) :=
  startUp {} {} answers turns

/-- Calls of `next`, one after the other. A call that has not returned when its turns are over
goes on with the turns of the next. -/
def run (noFrameTimeoutMs : Nat) (calls : List (List SourceTurn)) : SourceDriver :=
  calls.foldl (fun driver turns => (driver.next noFrameTimeoutMs turns).1) driver

/-! ### What every run keeps -/

variable {driver} {idle : SourceDriver → Prop}
  {holding waiting : SourceDriver → DecodedFrame → Prop} {allowed : SourceTurn → Prop}

/-- The driver that waits for its first frame. -/
def connected : SourceDriver := { observations := { preparedTotal := 1, connectedTotal := 1 } }

/-- The two moments of a driver: it has no frame in hand, or it has decoded one that is not yet
emitted or lost. `Decodes` says that `decode` leads from the first to the second, or back. -/
structure Decodes (idle : SourceDriver → Prop) (holding : SourceDriver → DecodedFrame → Prop) :
    Prop where
  undecodable : ∀ driver encoded, idle driver → idle (driver.receive encoded).undecodable
  decodes : ∀ driver encoded nowNs, idle driver →
    holding ((driver.receive encoded).place encoded nowNs).1
      ((driver.receive encoded).place encoded nowNs).2

/-- The steps of `next` lead from each of the two moments to the other. -/
structure Keeps (allowed : SourceTurn → Prop) (idle : SourceDriver → Prop)
    (holding : SourceDriver → DecodedFrame → Prop) : Prop extends Decodes idle holding where
  emits : ∀ driver turn decoded, allowed turn → turn.available → holding driver decoded →
    idle (driver.emission turn decoded).1
  drops : ∀ driver decoded, holding driver decoded → idle (driver.drop decoded)
  fails : ∀ driver, idle driver → idle driver.observeRuntimeFailure

/-- A driver between two calls; its first frame waits to be emitted. -/
def Between (idle : SourceDriver → Prop) (waiting : SourceDriver → DecodedFrame → Prop)
    (driver : SourceDriver) : Prop :=
  match driver.pendingFrame with
  | none => idle driver
  | some decoded => waiting { driver with pendingFrame := none } decoded

theorem Between.of_none (none : driver.pendingFrame = .none) (kept : idle driver) :
    Between idle waiting driver := by
  rw [Between, none]
  exact kept

theorem receive_pendingFrame (encoded : ReceivedOpusFrame) :
    (driver.receive encoded).pendingFrame = driver.pendingFrame := by
  unfold receive
  dsimp only [observe, enter]
  split <;> split <;> rfl

theorem emission_pendingFrame (turn : SourceTurn) (decoded : DecodedFrame) :
    (driver.emission turn decoded).1.pendingFrame = driver.pendingFrame := by
  unfold emission
  split <;> rfl

theorem Decodes.decode (decodes : Decodes idle holding) (turn : SourceTurn)
    (encoded : ReceivedOpusFrame) (none : driver.pendingFrame = .none) (kept : idle driver) :
    (driver.decode turn encoded).1.pendingFrame = .none ∧
      match (driver.decode turn encoded).2 with
      | .error _ => idle (driver.decode turn encoded).1
      | .ok decoded => holding (driver.decode turn encoded).1 decoded := by
  have pending := (driver.receive_pendingFrame encoded).trans none
  unfold SourceDriver.decode
  dsimp only
  split
  · exact ⟨pending, decodes.undecodable driver encoded kept⟩
  split
  · exact ⟨pending, decodes.undecodable driver encoded kept⟩
  · exact ⟨pending, decodes.decodes driver encoded turn.nowNs kept⟩

/-- A `prepare` that succeeds leaves a frame that waits. -/
theorem Decodes.awaitFirst {turns : List SourceTurn} {after : SourceDriver}
    {settled : SourceDriver → Prop} (decodes : Decodes idle holding)
    (first : ∀ driver decoded, holding driver decoded → waiting (driver.observe fun totals =>
      { totals with firstFrameTotal := wrappingAdd totals.firstFrameTotal 1 }) decoded)
    (none : driver.pendingFrame = .none) (kept : idle driver)
    (prepared : driver.awaitFirst turns = (after, some (.ok ()))) :
    Between settled waiting after := by
  induction turns generalizing driver with
  | nil => simp [SourceDriver.awaitFirst] at prepared
  | cons turn rest hypothesis =>
    unfold SourceDriver.awaitFirst at prepared
    split at prepared
    · simp [failStartup] at prepared
    split at prepared
    · simp [failStartup] at prepared
    · exact hypothesis none kept prepared
    next encoded _ =>
      have decoded := decodes.decode turn encoded none kept
      generalize driver.decode turn encoded = result at decoded prepared
      obtain ⟨last, outcome⟩ := result
      cases outcome with
      | error message => simp [failStartup] at prepared
      | ok frame =>
        obtain ⟨rfl, -⟩ := Prod.mk.inj prepared
        obtain ⟨pending, held⟩ := decoded
        have same : { last with pendingFrame := .none } = last := by rw [← pending]
        have kept := first last frame held
        rw [← same] at kept
        exact kept

theorem Decodes.prepare {answers : StartupAnswers} {turns : List SourceTurn}
    {settled : SourceDriver → Prop} (decodes : Decodes idle holding)
    (first : ∀ driver decoded, holding driver decoded → waiting (driver.observe fun totals =>
      { totals with firstFrameTotal := wrappingAdd totals.firstFrameTotal 1 }) decoded)
    (starts : idle connected)
    (prepared : SourceDriver.prepare answers turns = (driver, some (.ok ()))) :
    Between settled waiting driver := by
  unfold SourceDriver.prepare startUp at prepared
  dsimp only at prepared
  split at prepared
  · simp [failStartup] at prepared
  split at prepared
  · simp [failStartup] at prepared
  split at prepared
  · simp [failStartup] at prepared
  split at prepared
  · simp [failStartup] at prepared
  · exact decodes.awaitFirst first rfl starts prepared

namespace Keeps

variable (keeps : Keeps allowed idle holding)
include keeps

theorem emissionOrDrop {turn : SourceTurn} {decoded : DecodedFrame} (allows : allowed turn)
    (none : driver.pendingFrame = .none) (held : holding driver decoded) :
    (driver.emissionOrDrop turn decoded).1.pendingFrame = .none ∧
      idle (driver.emissionOrDrop turn decoded).1 := by
  unfold SourceDriver.emissionOrDrop
  split
  · exact ⟨none, keeps.drops driver decoded held⟩
  next available =>
    exact ⟨(emission_pendingFrame turn decoded).trans none,
      keeps.emits driver turn decoded allows (by simpa using available) held⟩

theorem round (noFrameTimeoutMs : Nat) {turn : SourceTurn} (allows : allowed turn)
    (none : driver.pendingFrame = .none) (kept : idle driver) :
    (driver.round noFrameTimeoutMs turn).1.pendingFrame = .none ∧
      idle (driver.round noFrameTimeoutMs turn).1 := by
  unfold SourceDriver.round
  split
  · exact ⟨none, kept⟩
  split
  · exact ⟨none, keeps.fails driver kept⟩
  next encoded _ =>
    have decoded := keeps.decode turn encoded none kept
    generalize driver.decode turn encoded = result at decoded
    obtain ⟨after, outcome⟩ := result
    cases outcome with
    | error message => exact ⟨decoded.1, keeps.fails after decoded.2⟩
    | ok frame =>
      have settled := keeps.emissionOrDrop allows decoded.1 decoded.2
      dsimp only
      generalize after.emissionOrDrop turn frame = result at settled
      obtain ⟨last, outcome⟩ := result
      split <;> simp_all
  · split
    · exact ⟨none, keeps.fails driver kept⟩
    · exact ⟨none, kept⟩

theorem poll (noFrameTimeoutMs : Nat) {turns : List SourceTurn}
    (allows : ∀ turn ∈ turns, allowed turn) (none : driver.pendingFrame = .none)
    (kept : idle driver) :
    (SourceDriver.poll noFrameTimeoutMs driver turns).1.pendingFrame = .none ∧
      idle (SourceDriver.poll noFrameTimeoutMs driver turns).1 := by
  induction turns generalizing driver with
  | nil => exact ⟨none, kept⟩
  | cons turn rest hypothesis =>
    obtain ⟨allows, others⟩ := List.forall_mem_cons.mp allows
    have after := keeps.round noFrameTimeoutMs allows none kept
    unfold SourceDriver.poll
    generalize driver.round noFrameTimeoutMs turn = result at after
    obtain ⟨last, outcome⟩ := result
    cases outcome with
    | some result => exact after
    | none => exact hypothesis others after.1 after.2

theorem next (noFrameTimeoutMs : Nat) {turns : List SourceTurn}
    (presents : ∀ driver turn decoded, allowed turn → waiting driver decoded →
      idle (driver.emission turn decoded).1)
    (allows : ∀ turn ∈ turns, allowed turn) (kept : Between idle waiting driver) :
    Between idle waiting (driver.next noFrameTimeoutMs turns).1 := by
  unfold SourceDriver.next
  split
  next none =>
    rw [Between, none] at kept
    obtain ⟨pending, after⟩ := keeps.poll noFrameTimeoutMs allows none kept
    exact .of_none pending after
  next decoded pending =>
    cases turns with
    | nil => exact kept
    | cons turn rest =>
      rw [Between, pending] at kept
      exact .of_none (emission_pendingFrame turn decoded)
        (presents _ turn decoded (allows turn (List.mem_cons_self ..)) kept)

theorem run (noFrameTimeoutMs : Nat) {calls : List (List SourceTurn)}
    (presents : ∀ driver turn decoded, allowed turn → waiting driver decoded →
      idle (driver.emission turn decoded).1)
    (allows : ∀ turns ∈ calls, ∀ turn ∈ turns, allowed turn)
    (kept : Between idle waiting driver) :
    Between idle waiting (driver.run noFrameTimeoutMs calls) := by
  induction calls generalizing driver with
  | nil => exact kept
  | cons turns rest hypothesis =>
    obtain ⟨allows, others⟩ := List.forall_mem_cons.mp allows
    exact hypothesis others (keeps.next noFrameTimeoutMs presents allows kept)

end Keeps

end SourceDriver

end RelayConnector
