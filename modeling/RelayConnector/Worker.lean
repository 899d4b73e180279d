/-
This file models the parts of `runtime.rs` that do not touch the receipt registry: the
checks of `prepare`, the preparation and the run of the native transport, and the outcome
that a run yields for each route.

What the operating system, the relay and other threads answer is a parameter of each
function. A receipt state is known by the `prepare` call that made it and by its route.
-/

import RelayConnector.Encoding
import RelayConnector.Publisher

namespace RelayConnector

open Rtc (PublishStats)

/-! ### Errors -/

inductive ConnectorErrorStage where
  | configuration
  | prepare
  | startup
  | delivery
  | shutdown
  | join
  deriving DecidableEq, Repr

inductive ConnectorRetryability where
  | never
  | retryable
  | retryAfterReconfiguration
  deriving DecidableEq, Repr

structure ConnectorError where
  code : String
  stage : ConnectorErrorStage
  retryability : ConnectorRetryability
  message : String
  deriving DecidableEq, Repr

/-- The texts of `RelayConfigurationError`; the last one is the text of the error that it wraps. -/
def RelayConfigurationError.text (wrapped : String) : RelayConfigurationError → String
  | .invalidTransport => "relay transport must be 'webrtc' or 'websocket'"
  | .insecureIngress => "WebSocket Opus ingress requires HTTPS outside loopback"
  | .invalidProxy => "relay proxy must be a valid HTTP or HTTPS CONNECT proxy origin"
  | .invalidRelayUrl => "relay URL must be an absolute HTTP or HTTPS origin"
  | .invalidIdentity =>
    "relay Session and publisher group identifiers must be non-empty and bounded"
  | .invalidBusId => "AudioBus identifier is invalid"
  | .invalidLatencyProfile => "relay latency profile must be 'standard' or 'low'"
  | .invalidStartupTimeout => "relay startup timeout must be finite and between 1 ms and 120 s"
  | .invalidIceServerCount => "ICE server count is outside the finite package limit"
  | .invalidIceServerUrl =>
    "this connector version supports only a valid stun: UDP server authority"
  | .invalidIceCredential => "STUN server configuration must not contain TURN credentials"
  | .invalidIceServerEncoding => "ICE server configuration could not be encoded or decoded"
  | .missingField key => s!"relay connector configuration is missing required field '{key}'"
  | .secretNotSensitive key => s!"relay connector secret field '{key}' was not marked sensitive"
  | .connectorConfiguration => wrapped

def RelayPublisherControlError.text : RelayPublisherControlError → String
  | .unsupportedTransport => "renewable publication requires WebSocket ingress"
  | .invalidExpiry => "publisher capability expiry must be in the next 24 hours"
  | .staleReplacement => "publisher replacement revision and expiry must strictly advance"
  | .revoked => "publisher capability was terminally revoked"
  | .unavailable => "publisher credential state is unavailable"
  | .alreadyPublishing => "publisher control already has an active grouped publication"

/-! ### Inputs and routes -/

inductive SampleFormat where
  | f32Interleaved
  | other
  deriving DecidableEq, Repr

structure SampleSpec where
  sampleRateHz : Nat
  channels : Nat
  format : SampleFormat
  deriving DecidableEq, Repr

structure RelayPublishReceiptKey where
  endpointId : Nat
  routeId : Nat
  deriving DecidableEq, Repr

/-- The identity of a `RelayPublishReceiptState`: the call of `prepare` and the route in it. -/
structure RelayPublishReceiptState where
  publication : Nat
  index : Nat
  deriving DecidableEq, Repr

/-- `EndpointPortInput`; only an audio receiver has a sample specification. -/
structure EndpointPortInput where
  key : RelayPublishReceiptKey
  nodeConfiguration : NodeConfig
  audio : Option SampleSpec

structure PreparedRelayRoute where
  key : RelayPublishReceiptKey
  state : RelayPublishReceiptState
  deriving DecidableEq, Repr

/-- `RelayTransportPreparation`; of the control only its presence matters here. -/
structure RelayTransportPreparation where
  configuration : RelayRouteConfiguration
  sampleSpec : SampleSpec
  control : Bool := false
  deriving DecidableEq, Repr

/-- `RelayConnectorFactory` with the native transport, apart from its registry. -/
structure RelayConnectorFactory where
  receiptCapacity : Nat
  /-- The configuration that the publisher control is bound to. -/
  control : Option RelayRouteConfiguration
  libraries : Libraries
  /-- `MAX_CONNECTOR_ERROR_MESSAGE_BYTES`. -/
  maxMessageBytes : Nat
  /-- The text of the error of a secret that is not accepted. -/
  secretErrorText : String

def maxGroupedBuses : Nat := 16

/-- The longest beginning of a text that has at most so many bytes. -/
def truncate : Nat → List Char → List Char
  | _, [] => []
  | bytes, character :: rest =>
    if character.utf8Size ≤ bytes then
      character :: truncate (bytes - character.utf8Size) rest
    else []

namespace RelayConnectorFactory

variable (factory : RelayConnectorFactory)

/-- `relay_error`. -/
def relayError (code : String) (stage : ConnectorErrorStage)
    (retryability : ConnectorRetryability) (message : String) : ConnectorError where
  code := code
  stage := stage
  retryability := retryability
  message := String.ofList (truncate factory.maxMessageBytes message.toList)

def controlError (error : RelayPublisherControlError) : ConnectorError :=
  factory.relayError "relay.publisher_control_unavailable" .configuration .never error.text

/-! ### The checks of a preparation -/

/-- One round of the loop of `prepare` over its inputs. -/
def prepareRoute (publication index : Nat) (input : EndpointPortInput) :
    Except ConnectorError (PreparedRelayRoute × RelayTransportPreparation) :=
  match RelayRouteConfiguration.fromNodeConfig factory.libraries input.nodeConfiguration with
  | .error error =>
    .error (factory.relayError "relay.invalid_configuration" .configuration
      .retryAfterReconfiguration (error.text factory.secretErrorText))
  | .ok configuration =>
    match input.audio with
    | none =>
      .error (factory.relayError "relay.audio_input_required" .prepare
        .retryAfterReconfiguration "relay publisher requires audio inputs")
    | some sampleSpec => .ok (⟨input.key, ⟨publication, index⟩⟩, { configuration, sampleSpec })

def prepareRoutes (publication : Nat) :
    Nat → List EndpointPortInput →
      Except ConnectorError (List (PreparedRelayRoute × RelayTransportPreparation))
  | _, [] => .ok []
  | index, input :: rest =>
    match factory.prepareRoute publication index input with
    | .error error => .error error
    | .ok route =>
      match prepareRoutes publication (index + 1) rest with
      | .error error => .error error
      | .ok routes => .ok (route :: routes)

/-- The loop of `validate_grouped_routes`. -/
def validateGroupedRoutes (first : RelayRouteConfiguration) :
    List String → List RelayTransportPreparation → Except ConnectorError Unit
  | _, [] => .ok ()
  | buses, route :: rest =>
    if !first.samePublisher route.configuration then
      .error (factory.relayError "relay.publisher_group_mismatch" .prepare
        .retryAfterReconfiguration
        ("grouped relay routes must share one Relay origin, Session, credential, publisher " ++
          "group, ICE configuration and startup deadline"))
    else if route.configuration.busId ∈ buses then
      .error (factory.relayError "relay.duplicate_bus" .prepare .retryAfterReconfiguration
        "grouped relay routes contain a duplicate AudioBus identifier")
    else validateGroupedRoutes first (route.configuration.busId :: buses) rest

/-- `RelayPublisherControl::matches`. -/
def controlMatches (bound configuration : RelayRouteConfiguration) : Bool :=
  bound.relayUrl == configuration.relayUrl &&
    bound.relaySessionId == configuration.relaySessionId &&
    bound.publisherGroupId == configuration.publisherGroupId &&
    configuration.transport == .webSocket

def bindControl (routes : List RelayTransportPreparation) :
    Except ConnectorError (List RelayTransportPreparation) :=
  match factory.control with
  | none => .ok routes
  | some bound =>
    if routes.any (!controlMatches bound ·.configuration) then
      .error (factory.relayError "relay.publisher_control_scope_mismatch" .configuration .never
        ("publisher control must match every route's Relay origin, Session, group and " ++
          "WebSocket transport"))
    else .ok (routes.map ({ · with control := true }))

/-- Everything that `prepare` does before it reserves receipts. -/
def checkInputs (publication : Nat) (inputs : List EndpointPortInput) :
    Except ConnectorError (List PreparedRelayRoute × List RelayTransportPreparation) :=
  if inputs.isEmpty ∨ inputs.length > maxGroupedBuses then
    .error (factory.relayError "relay.invalid_bus_count" .prepare .retryAfterReconfiguration
      "relay publisher requires between 1 and 16 grouped AudioBus inputs")
  else
    match factory.prepareRoutes publication 0 inputs with
    | .error error => .error error
    -- there is an input, so there is a route
    | .ok [] => .ok ([], [])
    | .ok (first :: rest) =>
      let transportInputs := (first :: rest).map Prod.snd
      match factory.validateGroupedRoutes first.2.configuration [] transportInputs with
      | .error error => .error error
      | .ok () =>
        match factory.bindControl transportInputs with
        | .error error => .error error
        | .ok bound => .ok ((first :: rest).map Prod.fst, bound)

theorem prepareRoutes_keys {publication index : Nat} {inputs : List EndpointPortInput}
    {routes : List (PreparedRelayRoute × RelayTransportPreparation)}
    (prepared : factory.prepareRoutes publication index inputs = .ok routes) :
    routes.map (·.1.key) = inputs.map (·.key) ∧
      routes.map (·.1.state) =
        (List.range' index inputs.length).map (⟨publication, ·⟩) := by
  induction inputs generalizing index routes with
  | nil =>
    obtain rfl := Except.ok.inj prepared
    exact ⟨rfl, rfl⟩
  | cons input rest hypothesis =>
    simp only [prepareRoutes] at prepared
    split at prepared
    · contradiction
    next route routed =>
      split at prepared
      · contradiction
      next others prepares =>
        obtain rfl := Except.ok.inj prepared
        obtain ⟨keys, states⟩ := hypothesis prepares
        have own : route.1 = ⟨input.key, ⟨publication, index⟩⟩ := by
          simp only [prepareRoute] at routed
          split at routed
          · contradiction
          split at routed
          · contradiction
          obtain rfl := Except.ok.inj routed
          rfl
        simp [own, keys, states, List.range'_succ]

/-- The routes have the keys of the inputs, and a state each. -/
theorem checkInputs_keys {publication : Nat} {inputs : List EndpointPortInput}
    {routes : List PreparedRelayRoute} {preparations : List RelayTransportPreparation}
    (checked : factory.checkInputs publication inputs = .ok (routes, preparations)) :
    routes.map (·.key) = inputs.map (·.key) ∧
      routes.map (·.state) = (List.range' 0 inputs.length).map (⟨publication, ·⟩) := by
  simp only [checkInputs] at checked
  split at checked
  · contradiction
  split at checked
  · contradiction
  next prepares =>
    obtain ⟨rfl, -⟩ := Prod.mk.inj (Except.ok.inj checked)
    simpa using factory.prepareRoutes_keys prepares
  next first rest prepares =>
    split at checked
    · contradiction
    split at checked
    · contradiction
    obtain ⟨rfl, -⟩ := Prod.mk.inj (Except.ok.inj checked)
    simpa [Function.comp_def] using factory.prepareRoutes_keys prepares

/-! ### The native transport prepares -/

end RelayConnectorFactory

inductive StreamProfile where
  | voiceMono20ms
  | musicStereo20ms
  deriving DecidableEq, Repr

structure PreparedFrameStream where
  profile : StreamProfile
  latencyProfile : RelayLatencyProfile
  deriving DecidableEq, Repr

/-- `PreparedFramePublisher`, without its connections. -/
structure PreparedFramePublisher where
  streams : List PreparedFrameStream
  ingressRecovery : Bool
  deriving DecidableEq, Repr

/-- What the native transport meets while it prepares. -/
structure TransportAnswers where
  claim : Except RelayPublisherControlError Unit := .ok ()
  snapshot : Except RelayPublisherControlError Unit := .ok ()
  /-- What `gateway::prepare` returns for a route: an error with its retryability. -/
  connect : Nat → Except (String × ConnectorRetryability) Unit := fun _ => .ok ()
  /-- Whether the capability has changed, expired or been revoked after a route. -/
  changed : Nat → Bool := fun _ => false
  handshake : Except String Unit := .ok ()

namespace RelayConnectorFactory

variable (factory : RelayConnectorFactory)

def relayStreamProfile (sampleSpec : SampleSpec) : Except ConnectorError StreamProfile :=
  if sampleSpec.sampleRateHz ≠ 48000 then
    .error (factory.relayError "relay.unsupported_sample_rate" .prepare
      .retryAfterReconfiguration
      ("relay input sample rate is " ++ toString sampleSpec.sampleRateHz ++
        " Hz; expected 48000 Hz"))
  else if sampleSpec.format ≠ .f32Interleaved then
    .error (factory.relayError "relay.unsupported_sample_format" .prepare
      .retryAfterReconfiguration "relay input must use interleaved f32 PCM")
  else if sampleSpec.channels = 1 then .ok .voiceMono20ms
  else if sampleSpec.channels = 2 then .ok .musicStereo20ms
  else
    .error (factory.relayError "relay.unsupported_channel_count" .prepare
      .retryAfterReconfiguration
      ("relay input has unsupported channel count " ++ toString sampleSpec.channels))

/-- The capability of a controlled group is claimed, then read. -/
def claimControl (answers : TransportAnswers) (controlled : Bool) : Except ConnectorError Unit :=
  if controlled then
    match answers.claim, answers.snapshot with
    | .error error, _ => .error (factory.controlError error)
    | .ok (), .error error => .error (factory.controlError error)
    | .ok (), .ok () => .ok ()
  else .ok ()

/-- The loop of the native `prepare` over its routes and their profiles. -/
def prepareStreams (answers : TransportAnswers) (controlled ingress : Bool) :
    Nat → List (RelayTransportPreparation × StreamProfile) →
      Except ConnectorError (List PreparedFrameStream)
  | _, [] => .ok []
  | index, (route, profile) :: rest =>
    match if ingress then answers.connect index else .ok () with
    | .error (message, retryability) =>
      .error (factory.relayError "relay.ingress_start_failed" .startup retryability message)
    | .ok () =>
      if ingress && controlled && answers.changed index then
        .error (factory.relayError "relay.publisher_control_changed" .startup .never
          "publisher capability changed, expired or was revoked during admission")
      else
        match prepareStreams answers controlled ingress (index + 1) rest with
        | .error error => .error error
        | .ok streams => .ok (⟨profile, route.configuration.latencyProfile⟩ :: streams)

/-- `NativeRelayPublishTransport::prepare`. -/
def nativePrepare (answers : TransportAnswers) :
    List RelayTransportPreparation → Except ConnectorError PreparedFramePublisher
  | [] =>
    .error (factory.relayError "relay.empty_group" .prepare .never "relay route group is empty")
  | first :: rest => do
    factory.claimControl answers first.control
    let profiles ← (first :: rest).mapM fun route => factory.relayStreamProfile route.sampleSpec
    let ingress := first.configuration.transport == .webSocket
    let streams ← factory.prepareStreams answers first.control ingress 0
      ((first :: rest).zip profiles)
    match if ingress then .ok () else answers.handshake with
    | .error message =>
      .error (factory.relayError "relay.handshake_failed" .startup .retryable
        ("relay handshake failed: " ++ message))
    | .ok () => .ok { streams, ingressRecovery := first.control }

end RelayConnectorFactory

/-! ### The native transport runs -/

/-- `EdgeObservations`, as far as this package reads it. -/
structure EdgeObservations where
  framesDroppedTotal : Nat := 0
  discontinuitiesTotal : Nat := 0
  deriving DecidableEq, Repr

structure RelayPublishStatistics where
  ingressFramesSentTotal : Nat := 0
  ingressPayloadBytesSentTotal : Nat := 0
  ingressSourceGeneration : Nat := 0
  ingressAttachmentsTotal : Nat := 0
  ingressRenewalsTotal : Nat := 0
  ingressReconnectsTotal : Nat := 0
  ingressReconnectAttemptsTotal : Nat := 0
  ingressRecoveryInputFramesDroppedTotal : Nat := 0
  ingressRecoveryOpusPacketsDroppedTotal : Nat := 0
  ingressDiscontinuitiesTotal : Nat := 0
  ingressCredentialRevision : Nat := 0
  rtpPacketsSentTotal : Nat := 0
  rtpPayloadBytesSentTotal : Nat := 0
  rtcPollDrainsTotal : Nat := 0
  rtcWriterWritesTotal : Nat := 0
  elapsedMs : Nat := 0
  opusPacketsEncodedTotal : Nat := 0
  opusEncodeErrorsTotal : Nat := 0
  encoderChannelDropsTotal : Nat := 0
  publisherStaleDropsTotal : Nat := 0
  ingressQueueDropsTotal : Nat := 0
  cancelledOutputFramesTotal : Nat := 0
  cancelledOutputSamplesTotal : Nat := 0
  normalizationPartialSamplesDiscardedTotal : Nat := 0
  deriving DecidableEq, Repr

structure RelayTransportOutcome where
  statistics : RelayPublishStatistics
  edgeObservations : EdgeObservations
  error : Option ConnectorError
  deriving DecidableEq, Repr

/-- `FramePublisherExecution`. -/
structure FramePublisherExecution where
  result : Except String PublishStats
  /-- The text and the retryability of `ingress_error`. -/
  ingressError : Option (String × ConnectorRetryability)
  /-- Whether each encoder thread could be joined. -/
  encoderThreads : List Bool

/-- What the native transport meets while it runs. What belongs to a route is found by its state,
what belongs to a stream by its place. -/
structure RunAnswers where
  /-- The error of spawning the feeder of a route, if any. -/
  spawn : RelayPublishReceiptState → Option String := fun _ => none
  execution : Except String FramePublisherExecution
  /-- The receiver that the joined feeder of a route gives back, unless the feeder panicked: what
  it observed, which depends on whether a failure was marked. -/
  joined : RelayPublishReceiptState → Option (Bool → EdgeObservations) := fun _ => none
  /-- What the receiver of a route has observed before any feeder ran. -/
  observations : RelayPublishReceiptState → EdgeObservations := fun _ => {}
  ingressQueueDropsTotal : RelayPublishReceiptState → Nat := fun _ => 0
  counters : Nat → EncoderCounters := fun _ => {}
  /-- `IngressDeliveryState::input_drops`, after the feeders are joined. -/
  inputDrops : Nat → Nat := fun _ => 0

/-- `statistics`. -/
def statistics (counters : EncoderCounters) (ingressQueueDropsTotal : Nat)
    (publish : Option PublishStats) (stream : Option PublishStreamStats) :
    RelayPublishStatistics where
  ingressFramesSentTotal := stream.elim 0 (·.ingressFramesSent)
  ingressPayloadBytesSentTotal := stream.elim 0 (·.ingressPayloadBytesSent)
  ingressSourceGeneration := stream.elim 0 (·.ingressSourceGeneration)
  ingressAttachmentsTotal := stream.elim 0 (·.ingressAttachments)
  ingressRenewalsTotal := stream.elim 0 (·.ingressRenewals)
  ingressReconnectsTotal := stream.elim 0 (·.ingressReconnects)
  ingressReconnectAttemptsTotal := stream.elim 0 (·.ingressReconnectAttempts)
  ingressRecoveryInputFramesDroppedTotal := stream.elim 0 (·.ingressRecoveryInputDrops)
  ingressRecoveryOpusPacketsDroppedTotal := stream.elim 0 (·.ingressRecoveryOpusDrops)
  ingressDiscontinuitiesTotal := stream.elim 0 (·.ingressDiscontinuities)
  ingressCredentialRevision := stream.elim 0 (·.ingressCredentialRevision)
  rtpPacketsSentTotal := stream.elim 0 (·.rtpSent)
  rtpPayloadBytesSentTotal := stream.elim 0 (·.bytesSent)
  rtcPollDrainsTotal := publish.elim 0 (·.drains)
  rtcWriterWritesTotal := publish.elim 0 (·.writes)
  elapsedMs := publish.elim 0 fun stats => min (asMillis stats.elapsed) Words.u64Max
  opusPacketsEncodedTotal := counters.opusPacketsOut
  opusEncodeErrorsTotal := counters.opusEncodeErrors
  encoderChannelDropsTotal := counters.encodedChannelDrops
  publisherStaleDropsTotal := counters.publisherStaleDrops
  ingressQueueDropsTotal := ingressQueueDropsTotal
  cancelledOutputFramesTotal := counters.cancelledOutputFrames
  cancelledOutputSamplesTotal := counters.cancelledOutputSamples
  normalizationPartialSamplesDiscardedTotal := counters.normalizationPartialSamplesDiscarded

namespace RelayConnectorFactory

variable (factory : RelayConnectorFactory) (answers : RunAnswers)

/-- `failed_outcomes`. -/
def failedOutcomes (routes : List PreparedRelayRoute) (error : ConnectorError) :
    List RelayTransportOutcome :=
  routes.map fun route => ⟨{}, answers.observations route.state, some error⟩

/-- The loop that spawns a feeder for each route stops at the first error. -/
def spawnFeeders : List PreparedRelayRoute → Option String
  | [] => none
  | route :: rest => (answers.spawn route.state).or (spawnFeeders rest)

/-- The statistics and the shared error that the publisher and the encoder threads leave. -/
def settleExecution (ingressRecovery : Bool) : Option PublishStats × Option ConnectorError :=
  match answers.execution with
  | .error message =>
    (none, some (factory.relayError "relay.publisher_start_failed" .startup .retryable message))
  | .ok execution =>
    let ingressError := execution.ingressError.map fun (message, retryability) =>
      factory.relayError "relay.publisher_failed" .delivery retryability message
    match execution.result with
    | .error message =>
      (none, some (factory.relayError "relay.publisher_failed" .delivery .retryable message))
    | .ok stats =>
      let stats : PublishStats :=
        if ingressRecovery then
          { stats with
            streams := stats.streams.mapIdx fun index stream =>
              { stream with ingressRecoveryInputDrops := answers.inputDrops index } }
        else stats
      if execution.encoderThreads.any (! ·) then
        (some stats, ingressError.or (some (factory.relayError "relay.encoder_panicked"
          .delivery .retryable "relay encoder thread panicked")))
      else (some stats, ingressError)

/-- What a run that got as far as its publisher yields for one route. -/
def routeOutcome (stats : Option PublishStats) (shared : Option ConnectorError) (index : Nat)
    (state : RelayPublishReceiptState) : RelayTransportOutcome :=
  let counters := answers.counters index
  let stream := stats.bind (·.streams[index]?)
  let recovered := stream.any (0 < ·.ingressDiscontinuities)
  let error := if shared.isNone && (0 < counters.opusEncodeErrors ||
      (0 < counters.normalizationPartialSamplesDiscarded && !recovered)) then
    some (factory.relayError "relay.audio_processing_failed" .delivery .retryable
      ("relay audio processing failed: " ++ toString counters.opusEncodeErrors ++
        " Opus encode errors, " ++ toString counters.normalizationPartialSamplesDiscarded ++
        " partial PCM samples discarded"))
    else shared
  { statistics := statistics counters (answers.ingressQueueDropsTotal state) stats stream
    edgeObservations := ((answers.joined state).map (· error.isSome)).getD {}
    error }

/-- `NativePreparedRelayPublishTransport::run`. -/
def nativeRun (publisher : PreparedFramePublisher) (routes : List PreparedRelayRoute) :
    List RelayTransportOutcome :=
  if publisher.streams.length ≠ routes.length then
    failedOutcomes answers routes (factory.relayError "relay.prepared_stream_mismatch" .delivery
      .never "relay prepared stream count does not match grouped routes")
  else
    match spawnFeeders answers routes with
    | some message =>
      routes.mapIdx fun index route =>
        ⟨statistics (answers.counters index) (answers.ingressQueueDropsTotal route.state) none none,
          {}, some (factory.relayError "relay.feeder_spawn_failed" .startup .retryable
            ("relay feeder spawn failed: " ++ message))⟩
    | none =>
      let (stats, shared) := factory.settleExecution answers publisher.ingressRecovery
      let feederFailed := routes.any fun route => (answers.joined route.state).isNone
      let shared := if feederFailed && shared.isNone then
          some (factory.relayError "relay.feeder_panicked" .delivery .retryable
            "relay feeder thread panicked")
        else shared
      routes.mapIdx fun index route => factory.routeOutcome answers stats shared index route.state

end RelayConnectorFactory

/-- The outcome is about this route: its statistics are the route's own, or it has none because
the run never started. -/
def RelayTransportOutcome.Reports (answers : RunAnswers) (index : Nat)
    (route : PreparedRelayRoute) (outcome : RelayTransportOutcome) : Prop :=
  (outcome.statistics = {} ∧ outcome.edgeObservations = answers.observations route.state) ∨
    ∃ stats : Option PublishStats,
      outcome.statistics = RelayConnector.statistics (answers.counters index)
        (answers.ingressQueueDropsTotal route.state) stats (stats.bind (·.streams[index]?)) ∧
      (outcome.edgeObservations = {} ∨ ∃ observed marked,
        answers.joined route.state = some observed ∧ outcome.edgeObservations = observed marked)

namespace RelayConnectorFactory

variable (factory : RelayConnectorFactory) (answers : RunAnswers)

theorem nativeRun_length (publisher : PreparedFramePublisher) (routes : List PreparedRelayRoute) :
    (factory.nativeRun answers publisher routes).length = routes.length := by
  unfold nativeRun
  split
  · simp [failedOutcomes]
  split <;> simp

theorem routeOutcome_reports (stats : Option PublishStats) (shared : Option ConnectorError)
    (index : Nat) (route : PreparedRelayRoute) :
    (factory.routeOutcome answers stats shared index route.state).Reports answers index route := by
  refine .inr ⟨stats, rfl, ?_⟩
  cases joined : answers.joined route.state with
  | none => simp [routeOutcome, joined]
  | some observed =>
    let outcome := factory.routeOutcome answers stats shared index route.state
    refine .inr ⟨observed, outcome.error.isSome, rfl, ?_⟩
    simp only [outcome, routeOutcome, joined]
    rfl

/-- On every path the outcomes are those of the routes, in their order. -/
theorem nativeRun_reports {publisher : PreparedFramePublisher} {routes : List PreparedRelayRoute}
    {index : Nat} {route : PreparedRelayRoute} (found : routes[index]? = some route) :
    ∃ outcome, (factory.nativeRun answers publisher routes)[index]? = some outcome ∧
      outcome.Reports answers index route := by
  unfold nativeRun
  split
  · rw [failedOutcomes, List.getElem?_map, found]
    exact ⟨_, rfl, .inl ⟨rfl, rfl⟩⟩
  split
  · rw [List.getElem?_mapIdx, found]
    exact ⟨_, rfl, .inr ⟨none, rfl, .inl rfl⟩⟩
  · rw [List.getElem?_mapIdx, found]
    exact ⟨_, rfl, factory.routeOutcome_reports ..⟩

end RelayConnectorFactory

end RelayConnector
