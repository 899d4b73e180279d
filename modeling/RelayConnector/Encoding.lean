/-
This file models the rest of `configuration.rs`: the builders of a route configuration,
its encoding for the connector, and the decoder that reads it back.

The JSON library and the check that a secret has to pass are used by the source and not
read here. Like the URL parser they are parameters, and `Libraries.Lawful` says what is
assumed of them.
-/

import Mathlib.Algebra.Ring.Nat
import RelayConnector.Configuration
import RelayConnector.Text

namespace RelayConnector

open Text

/-! ### The libraries -/

/-- `WireIceServer`. -/
structure WireIceServer where
  urls : List String
  username : Option String
  credential : Option String
  deriving DecidableEq, Repr

/-- The functions of other libraries. -/
structure Libraries where
  /-- `Url::parse`. -/
  parseUrl : String → Option Url
  /-- Whether `ConnectorSecret::new` accepts a text. -/
  acceptsSecret : String → Bool
  /-- `serde_json::to_string`. -/
  encodeJson : List WireIceServer → Option String
  /-- `serde_json::from_str`. -/
  decodeJson : String → Option (List WireIceServer)

/-- A URL without a base starts with its scheme, so a blank text is none; and what the JSON
library encoded it decodes. -/
structure Libraries.Lawful (libraries : Libraries) : Prop where
  unblank : ∀ text, isBlank text = true → libraries.parseUrl text = none
  decodes : ∀ servers, ∃ text,
    libraries.encodeJson servers = some text ∧ libraries.decodeJson text = some servers

/-! ### Guards -/

/-- Return an error if a condition holds. -/
def refuseIf (condition : Bool) (error : RelayConfigurationError) :
    Except RelayConfigurationError Unit :=
  if condition then .error error else .ok ()

@[simp] theorem refuseIf_eq_ok {condition : Bool} {error : RelayConfigurationError}
    {value : Unit} : refuseIf condition error = .ok value ↔ condition = false := by
  cases condition <;> simp [refuseIf]

/-- Return an error if there is no value. -/
def getOr {Value : Type} (value : Option Value) (error : RelayConfigurationError) :
    Except RelayConfigurationError Value :=
  match value with
  | some value => .ok value
  | none => .error error

@[simp] theorem getOr_eq_ok {Value : Type} {value : Option Value} {found : Value}
    {error : RelayConfigurationError} : getOr value error = .ok found ↔ value = some found := by
  cases value <;> simp [getOr]

/-- `ConnectorSecret::new`. -/
def ConnectorSecret.new (libraries : Libraries) (text : String) :
    Except RelayConfigurationError ConnectorSecret := do
  refuseIf (!libraries.acceptsSecret text) .connectorConfiguration
  return text

theorem ConnectorSecret.new_eq_ok {libraries : Libraries} {text : String}
    {secret : ConnectorSecret} :
    ConnectorSecret.new libraries text = .ok secret ↔
      libraries.acceptsSecret text = true ∧ text = secret := by
  simp [ConnectorSecret.new, bind_eq_ok, pure, Except.pure]

/-! ### Names of the choices -/

namespace RelayPublicationTransport

def asStr : RelayPublicationTransport → String
  | .webRtc => "webrtc"
  | .webSocket => "websocket"

def parse (value : String) : Except RelayConfigurationError RelayPublicationTransport :=
  if value = "webrtc" then .ok .webRtc
  else if value = "websocket" then .ok .webSocket
  else .error .invalidTransport

theorem parse_asStr (transport : RelayPublicationTransport) :
    parse transport.asStr = .ok transport := by
  cases transport <;> rfl

end RelayPublicationTransport

namespace RelayLatencyProfile

def asStr : RelayLatencyProfile → String
  | .standard => "standard"
  | .low => "low"

def parse (value : String) : Except RelayConfigurationError RelayLatencyProfile :=
  if value = "standard" then .ok .standard
  else if value = "low" then .ok .low
  else .error .invalidLatencyProfile

theorem parse_asStr (profile : RelayLatencyProfile) : parse profile.asStr = .ok profile := by
  cases profile <;> rfl

end RelayLatencyProfile

def defaultStartupTimeoutMs : Nat := 30000

/-- `Duration::as_millis`. -/
def asMillis (duration : Nat) : Nat := duration / 1000000

/-- `Duration::from_millis`. -/
def fromMillis (milliseconds : Nat) : Nat := milliseconds * 1000000

theorem asMillis_fromMillis (milliseconds : Nat) :
    asMillis (fromMillis milliseconds) = milliseconds :=
  Nat.mul_div_cancel _ (by decide)

/-! ### The checks of a configuration -/

/-- `RelayIceServer::new`. -/
def RelayIceServer.new (urls : List String) : Except RelayConfigurationError RelayIceServer := do
  RelayIceServer.validate ⟨urls⟩
  return ⟨urls⟩

theorem RelayIceServer.new_eq_ok {urls : List String} {server : RelayIceServer} :
    RelayIceServer.new urls = .ok server ↔ server.validate = .ok () ∧ server.urls = urls := by
  simp only [RelayIceServer.new, bind_eq_ok, pure, Except.pure, Except.ok.injEq]
  constructor
  · rintro ⟨_, valid, rfl⟩
    exact ⟨valid, rfl⟩
  · rintro ⟨valid, rfl⟩
    exact ⟨(), valid, rfl⟩

namespace RelayRouteConfiguration

variable {libraries : Libraries} {configuration : RelayRouteConfiguration}

section Builders

variable (libraries : Libraries) (configuration : RelayRouteConfiguration)

/-- A configuration is returned when it has passed its checks. -/
def checked : Except RelayConfigurationError RelayRouteConfiguration := do
  configuration.validate libraries.parseUrl
  return configuration

/-- `RelayRouteConfiguration::new`. -/
def new (relayUrl relaySessionId : String) (sourceToken : ConnectorSecret) (busId : String) :
    Except RelayConfigurationError RelayRouteConfiguration :=
  checked libraries
    { relayUrl
      relaySessionId
      sourceToken
      busId
      publisherGroupId := relaySessionId
      latencyProfile := .standard
      iceServers := []
      startupTimeout := fromMillis defaultStartupTimeoutMs
      transport := .webRtc
      httpProxy := none }

def withPublisherGroup (publisherGroupId : String) :
    Except RelayConfigurationError RelayRouteConfiguration :=
  checked libraries { configuration with publisherGroupId }

def withIceServers (iceServers : List RelayIceServer) :
    Except RelayConfigurationError RelayRouteConfiguration :=
  checked libraries { configuration with iceServers }

def withWebsocketIngress : Except RelayConfigurationError RelayRouteConfiguration :=
  checked libraries { configuration with transport := .webSocket }

def withHttpProxy (proxy : ConnectorSecret) :
    Except RelayConfigurationError RelayRouteConfiguration := do
  refuseIf (!(checkedProxy libraries.parseUrl proxy).isOk) .invalidProxy
  checked libraries { configuration with httpProxy := some proxy }

/-- The one builder that checks nothing. -/
def withLowLatency : RelayRouteConfiguration :=
  { configuration with latencyProfile := .low }

def withStartupTimeout (startupTimeout : Nat) :
    Except RelayConfigurationError RelayRouteConfiguration :=
  checked libraries { configuration with startupTimeout }

end Builders

/-- The configurations that `new` and any sequence of builders make. A secret that they are given
was accepted when it was made. -/
inductive Built (libraries : Libraries) : RelayRouteConfiguration → Prop
  | new {relayUrl relaySessionId busId : String} {sourceToken : ConnectorSecret}
      {built : RelayRouteConfiguration} (secret : libraries.acceptsSecret sourceToken = true)
      (makes : new libraries relayUrl relaySessionId sourceToken busId = .ok built) :
      Built libraries built
  | withPublisherGroup {before built : RelayRouteConfiguration} {group : String}
      (earlier : Built libraries before)
      (makes : before.withPublisherGroup libraries group = .ok built) : Built libraries built
  | withIceServers {before built : RelayRouteConfiguration} {servers : List RelayIceServer}
      (earlier : Built libraries before)
      (makes : before.withIceServers libraries servers = .ok built) : Built libraries built
  | withWebsocketIngress {before built : RelayRouteConfiguration}
      (earlier : Built libraries before)
      (makes : before.withWebsocketIngress libraries = .ok built) : Built libraries built
  | withHttpProxy {before built : RelayRouteConfiguration} {proxy : ConnectorSecret}
      (earlier : Built libraries before) (secret : libraries.acceptsSecret proxy = true)
      (makes : before.withHttpProxy libraries proxy = .ok built) : Built libraries built
  | withLowLatency {before : RelayRouteConfiguration} (earlier : Built libraries before) :
      Built libraries before.withLowLatency
  | withStartupTimeout {before built : RelayRouteConfiguration} {timeout : Nat}
      (earlier : Built libraries before)
      (makes : before.withStartupTimeout libraries timeout = .ok built) : Built libraries built

theorem checked_eq_ok {built : RelayRouteConfiguration} :
    checked libraries configuration = .ok built ↔
      configuration.Valid libraries.parseUrl ∧ configuration = built := by
  simp only [checked, bind_eq_ok, pure, Except.pure, Except.ok.injEq]
  exact ⟨fun ⟨_, valid, same⟩ => ⟨validate_eq_ok.mp valid, same⟩,
    fun ⟨valid, same⟩ => ⟨(), validate_eq_ok.mpr valid, same⟩⟩

/-- The secrets of a configuration were accepted. -/
def SecretsAccepted (libraries : Libraries) (configuration : RelayRouteConfiguration) : Prop :=
  libraries.acceptsSecret configuration.sourceToken = true ∧
    ∀ proxy, configuration.httpProxy = some proxy → libraries.acceptsSecret proxy = true

theorem Built.valid (built : Built libraries configuration) :
    configuration.Valid libraries.parseUrl ∧ configuration.SecretsAccepted libraries := by
  induction built with
  | new secret makes =>
    obtain ⟨valid, rfl⟩ := checked_eq_ok.mp makes
    exact ⟨valid, secret, nofun⟩
  | withLowLatency _ hypothesis =>
    exact ⟨{ hypothesis.1 with }, hypothesis.2⟩
  | withHttpProxy _ secret makes hypothesis =>
    obtain ⟨_, _, makes⟩ := bind_eq_ok.mp makes
    obtain ⟨valid, rfl⟩ := checked_eq_ok.mp makes
    refine ⟨valid, hypothesis.2.1, ?_⟩
    rintro _ ⟨⟩
    exact secret
  | withPublisherGroup _ makes hypothesis | withIceServers _ makes hypothesis
    | withWebsocketIngress _ makes hypothesis
    | withStartupTimeout _ makes hypothesis =>
    obtain ⟨valid, rfl⟩ := checked_eq_ok.mp makes
    exact ⟨valid, hypothesis.2⟩

/-- `same_publisher`: the routes can share one publisher. -/
def samePublisher (configuration other : RelayRouteConfiguration) : Bool :=
  configuration.relayUrl == other.relayUrl &&
    configuration.relaySessionId == other.relaySessionId &&
    configuration.sourceToken == other.sourceToken &&
    configuration.publisherGroupId == other.publisherGroupId &&
    configuration.iceServers == other.iceServers &&
    configuration.startupTimeout == other.startupTimeout &&
    configuration.transport == other.transport &&
    configuration.httpProxy == other.httpProxy

end RelayRouteConfiguration

/-! ### The encoding -/

inductive ConnectorConfigurationValue where
  | text (value : String)
  | secret (value : ConnectorSecret)
  | durationMilliseconds (value : Nat)
  deriving DecidableEq, Repr

/-- `ConnectorConfiguration`: the values by their keys, the newest first. -/
structure ConnectorConfiguration where
  entries : List (String × ConnectorConfigurationValue) := []
  deriving DecidableEq, Repr

namespace ConnectorConfiguration

/-- `with` and `insert`. -/
def insert (configuration : ConnectorConfiguration) (key : String)
    (value : ConnectorConfigurationValue) : ConnectorConfiguration :=
  ⟨(key, value) :: configuration.entries⟩

def get (configuration : ConnectorConfiguration) (key : String) :
    Option ConnectorConfigurationValue :=
  configuration.entries.lookup key

theorem get_insert_self (configuration : ConnectorConfiguration) (key : String)
    (value : ConnectorConfigurationValue) :
    (configuration.insert key value).get key = some value := by
  simp [get, insert]

theorem get_insert_of_ne (configuration : ConnectorConfiguration) {key other : String}
    (value : ConnectorConfigurationValue) (different : other ≠ key) :
    (configuration.insert key value).get other = configuration.get other := by
  simp only [get, insert, List.lookup_cons, beq_eq_false_iff_ne.mpr different]

end ConnectorConfiguration

def relayUrlKey : String := "relay_url"
def relaySessionIdKey : String := "relay_session_id"
def sourceTokenKey : String := "source_token"
def busIdKey : String := "bus_id"
def publisherGroupIdKey : String := "publisher_group_id"
def latencyProfileKey : String := "latency_profile"
def iceServersKey : String := "ice_servers"
def startupTimeoutMsKey : String := "startup_timeout_ms"
def transportKey : String := "transport"
def httpProxyKey : String := "http_proxy"

/-- What the JSON library is given for a server. -/
def RelayIceServer.wire (server : RelayIceServer) : WireIceServer where
  urls := server.urls
  username := none
  credential := none

def encodeIceServers (libraries : Libraries) (servers : List RelayIceServer) :
    Except RelayConfigurationError String :=
  getOr (libraries.encodeJson (servers.map RelayIceServer.wire)) .invalidIceServerEncoding

namespace RelayRouteConfiguration

/-- The values that every configuration has. -/
def requiredValues (configuration : RelayRouteConfiguration) : ConnectorConfiguration :=
  ({} : ConnectorConfiguration)
    |>.insert relayUrlKey (.text configuration.relayUrl)
    |>.insert relaySessionIdKey (.text configuration.relaySessionId)
    |>.insert sourceTokenKey (.secret configuration.sourceToken)
    |>.insert busIdKey (.text configuration.busId)
    |>.insert publisherGroupIdKey (.text configuration.publisherGroupId)
    |>.insert latencyProfileKey (.text configuration.latencyProfile.asStr)
    |>.insert startupTimeoutMsKey (.durationMilliseconds (asMillis configuration.startupTimeout))
    |>.insert transportKey (.text configuration.transport.asStr)

/-- The proxy has a value if there is one. -/
def withProxyValue (configuration : RelayRouteConfiguration) (values : ConnectorConfiguration) :
    ConnectorConfiguration :=
  match configuration.httpProxy with
  | some proxy => values.insert httpProxyKey (.secret proxy)
  | none => values

/-- `connector_configuration`. -/
def connectorConfiguration (libraries : Libraries) (configuration : RelayRouteConfiguration) :
    Except RelayConfigurationError ConnectorConfiguration := do
  configuration.validate libraries.parseUrl
  refuseIf (2 ^ 64 ≤ asMillis configuration.startupTimeout) .invalidStartupTimeout
  let values := configuration.withProxyValue configuration.requiredValues
  if configuration.iceServers.isEmpty then return values
  else
    let text ← encodeIceServers libraries configuration.iceServers
    let secret ← ConnectorSecret.new libraries text
    return values.insert iceServersKey (.secret secret)

end RelayRouteConfiguration

/-! ### The decoding -/

/-- `NodeConfig`: the resolved texts, and which of them are sensitive. -/
structure NodeConfig where
  get : String → Option String
  isSensitive : String → Bool

/-- `required`: a text that is there and not blank. -/
def required (node : NodeConfig) (key : String) : Except RelayConfigurationError String :=
  getOr ((node.get key).filter fun value => !isBlank value) (.missingField key)

def requiredSensitive (node : NodeConfig) (key : String) :
    Except RelayConfigurationError String := do
  let value ← required node key
  refuseIf (!node.isSensitive key) (.secretNotSensitive key)
  return value

/-- One server of `decode_ice_servers`. -/
def WireIceServer.decode (server : WireIceServer) :
    Except RelayConfigurationError RelayIceServer := do
  refuseIf (server.username.isSome || server.credential.isSome) .invalidIceCredential
  RelayIceServer.new server.urls

def decodeIceServers (libraries : Libraries) (encoded : String) :
    Except RelayConfigurationError (List RelayIceServer) := do
  let wire ← getOr (libraries.decodeJson encoded) .invalidIceServerEncoding
  refuseIf (maxIceServers < wire.length) .invalidIceServerCount
  wire.mapM WireIceServer.decode

/-- The servers of a node; without the key there are none. -/
def nodeIceServers (libraries : Libraries) (node : NodeConfig) :
    Except RelayConfigurationError (List RelayIceServer) :=
  match node.get iceServersKey with
  | some encoded => decodeIceServers libraries encoded
  | none => .ok []

/-- The proxy of a node; its text must be sensitive. -/
def nodeHttpProxy (libraries : Libraries) (node : NodeConfig) :
    Except RelayConfigurationError (Option ConnectorSecret) :=
  match node.get httpProxyKey with
  | some _ => do
    let text ← requiredSensitive node httpProxyKey
    let secret ← ConnectorSecret.new libraries text
    return some secret
  | none => .ok none

/-- `from_node_config`. -/
def RelayRouteConfiguration.fromNodeConfig (libraries : Libraries) (node : NodeConfig) :
    Except RelayConfigurationError RelayRouteConfiguration := do
  let token ← requiredSensitive node sourceTokenKey
  let startupTimeoutMs ← getOr
    (parseUnsigned (2 ^ 64) ((node.get startupTimeoutMsKey).getD "30000").toList)
    .invalidStartupTimeout
  let iceServers ← nodeIceServers libraries node
  let relayUrl ← required node relayUrlKey
  let relaySessionId ← required node relaySessionIdKey
  let sourceToken ← ConnectorSecret.new libraries token
  let busId ← required node busIdKey
  let publisherGroupId ← required node publisherGroupIdKey
  let latencyProfile ← RelayLatencyProfile.parse ((node.get latencyProfileKey).getD "standard")
  let transport ← RelayPublicationTransport.parse ((node.get transportKey).getD "webrtc")
  let httpProxy ← nodeHttpProxy libraries node
  checked libraries
    { relayUrl
      relaySessionId
      sourceToken
      busId
      publisherGroupId
      latencyProfile
      iceServers
      startupTimeout := fromMillis startupTimeoutMs
      transport
      httpProxy }

end RelayConnector
