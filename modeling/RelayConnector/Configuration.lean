/-
This file models `configuration.rs`: the settings of one route and the check that every
accepted configuration has passed.

Parsing a URL is the business of the `url` crate. What it returns is a record here, and
the parser is a parameter of whatever depends on it.
-/

namespace RelayConnector

/-- The text of a `ConnectorSecret`. -/
abbrev ConnectorSecret := String

/-- `url::Host`. An IPv4 address is its four octets, an IPv6 address its number. -/
inductive Host where
  | domain (name : String)
  | ipv4 (first second third fourth : UInt8)
  | ipv6 (address : Nat)
  deriving DecidableEq, Repr

/-- `eq_ignore_ascii_case`. -/
def eqIgnoreAsciiCase (left right : String) : Bool :=
  left.toList.map Char.toLower == right.toList.map Char.toLower

/-- Loopback as `validate` decides it. -/
def Host.isLoopback : Host → Bool
  | .domain name => eqIgnoreAsciiCase name "localhost"
  | .ipv4 first _ _ _ => first == 127
  | .ipv6 address => address == 1

/-- `url::Url`. -/
structure Url where
  scheme : String
  host : Option Host
  port : Option Nat := none
  path : String := "/"
  query : Option String := none
  fragment : Option String := none
  username : String := ""
  password : Option String := none
  cannotBeABase : Bool := false
  deriving DecidableEq, Repr

/-- `port_or_known_default` for the schemes in use. -/
def Url.portOrKnownDefault (url : Url) : Option Nat :=
  url.port.or <|
    if url.scheme = "http" ∨ url.scheme = "ws" then some 80
    else if url.scheme = "https" ∨ url.scheme = "wss" then some 443
    else none

inductive RelayPublicationTransport where
  | webRtc
  | webSocket
  deriving DecidableEq, Repr

inductive RelayLatencyProfile where
  | standard
  | low
  deriving DecidableEq, Repr

structure RelayIceServer where
  urls : List String
  deriving DecidableEq, Repr

structure RelayRouteConfiguration where
  relayUrl : String
  relaySessionId : String
  sourceToken : ConnectorSecret
  busId : String
  publisherGroupId : String
  latencyProfile : RelayLatencyProfile := .standard
  iceServers : List RelayIceServer := []
  /-- In nanoseconds. -/
  startupTimeout : Nat := 30000 * 1000000
  transport : RelayPublicationTransport := .webRtc
  httpProxy : Option ConnectorSecret := none
  deriving DecidableEq, Repr

inductive RelayConfigurationError where
  | invalidTransport
  | insecureIngress
  | invalidProxy
  | invalidRelayUrl
  | invalidIdentity
  | invalidBusId
  | invalidLatencyProfile
  | invalidStartupTimeout
  | invalidIceServerCount
  | invalidIceServerUrl
  | invalidIceCredential
  | invalidIceServerEncoding
  | missingField (key : String)
  | secretNotSensitive (key : String)
  /-- An error of the connector's own configuration, such as a text that is refused as a secret. -/
  | connectorConfiguration
  deriving DecidableEq, Repr

def maxIceServers : Nat := 16

def maxIceServerUrls : Nat := 8

def maxStartupTimeoutMs : Nat := 120000

def busMaxLen : Nat := 64

/-- `char::is_whitespace`: the Unicode property `White_Space`. -/
def isWhitespace (character : Char) : Bool :=
  let point := character.toNat
  (9 ≤ point && point ≤ 13) || point == 32 || point == 0x85 || point == 0xa0 ||
    point == 0x1680 || (0x2000 ≤ point && point ≤ 0x200a) || point == 0x2028 ||
    point == 0x2029 || point == 0x202f || point == 0x205f || point == 0x3000

/-- Whether `trim` leaves nothing. -/
def isBlank (text : String) : Bool := text.toList.all isWhitespace

/-- Whether `trim` leaves the text as it is. -/
def isTrimmed (text : String) : Bool :=
  !text.toList.head?.any isWhitespace && !text.toList.getLast?.any isWhitespace

/-- `stun_authority`: what follows `stun:`, without the two slashes if they are there. -/
def stunAuthority (raw : String) : Option String :=
  if raw.startsWith "stun:" then
    let afterScheme := raw.toList.drop 5
    let authority :=
      if "//".toList.isPrefixOf afterScheme then String.ofList (afterScheme.drop 2)
      else String.ofList afterScheme
    if authority = "" || authority.toList.any (fun character =>
        character == '/' || character == '?' || character == '#' || character == '@') ||
        !isTrimmed authority then none
    else some authority
  else none

def RelayIceServer.validate (server : RelayIceServer) : Except RelayConfigurationError Unit :=
  if server.urls.isEmpty || maxIceServerUrls < server.urls.length then
    .error .invalidIceServerCount
  else if server.urls.all fun raw => (stunAuthority raw).isSome then .ok ()
  else .error .invalidIceServerUrl

/-- `validate_bus`, without the text of its errors, which `validate` replaces. -/
def validateBus (bus : String) : Bool :=
  !(bus = "" || busMaxLen < bus.utf8ByteSize) && bus.toList.all fun character =>
    character.isAlphanum || character == '.' || character == '_' || character == '-'

/-- `checked_proxy`: an HTTP or HTTPS origin. -/
def checkedProxy (parse : String → Option Url) (raw : String) : Except String Url :=
  match parse raw with
  | none => .error "Relay proxy URL is invalid"
  | some proxy =>
    if ¬(proxy.scheme = "http" ∨ proxy.scheme = "https") ∨ proxy.host = none ∨
        ¬(proxy.path = "" ∨ proxy.path = "/") ∨ proxy.query ≠ none ∨ proxy.fragment ≠ none then
      .error "Relay proxy must be an HTTP or HTTPS CONNECT proxy origin; SOCKS is unsupported"
    else .ok proxy

/-- A sequence succeeds when both of its parts do. -/
theorem bind_eq_ok {Value Result : Type} {first : Except RelayConfigurationError Value}
    {next : Value → Except RelayConfigurationError Result} {result : Result} :
    (first >>= next) = .ok result ↔ ∃ value, first = .ok value ∧ next value = .ok result := by
  cases first <;> simp [bind, Except.bind]

namespace RelayRouteConfiguration

/-- The checks on the relay origin: an absolute HTTP or HTTPS origin without credentials. -/
def originAccepted (relay : Url) : Bool :=
  (relay.scheme == "http" || relay.scheme == "https") && relay.host.isSome &&
    !relay.cannotBeABase && (relay.path == "" || relay.path == "/") && relay.query.isNone &&
    relay.fragment.isNone && relay.username == "" && relay.password.isNone

/-- WebSocket ingress over plain HTTP is for loopback hosts only. -/
def ingressExposed (configuration : RelayRouteConfiguration) (relay : Url) : Bool :=
  configuration.transport == .webSocket && relay.scheme != "https" &&
    !relay.host.any Host.isLoopback

def validate (parse : String → Option Url) (configuration : RelayRouteConfiguration) :
    Except RelayConfigurationError Unit := do
  let some relay := parse configuration.relayUrl | .error .invalidRelayUrl
  if !originAccepted relay then .error .invalidRelayUrl
  if configuration.ingressExposed relay then .error .insecureIngress
  if configuration.httpProxy.any fun proxy => !(checkedProxy parse proxy).isOk then
    .error .invalidProxy
  if isBlank configuration.relaySessionId || isBlank configuration.publisherGroupId ||
      256 < configuration.publisherGroupId.utf8ByteSize then .error .invalidIdentity
  if !validateBus configuration.busId then .error .invalidBusId
  if maxIceServers < configuration.iceServers.length then .error .invalidIceServerCount
  configuration.iceServers.forM RelayIceServer.validate
  let startupTimeoutMs := configuration.startupTimeout / 1000000
  if startupTimeoutMs = 0 ∨ maxStartupTimeoutMs < startupTimeoutMs then
    .error .invalidStartupTimeout

/-! ### What a valid configuration satisfies -/

variable {parse : String → Option Url} {configuration : RelayRouteConfiguration}

/-- What `validate` checks. -/
structure Valid (parse : String → Option Url) (configuration : RelayRouteConfiguration) : Prop where
  relay : ∃ relay, parse configuration.relayUrl = some relay ∧
    originAccepted relay = true ∧ configuration.ingressExposed relay = false
  proxy : ∀ proxy, configuration.httpProxy = some proxy →
    (checkedProxy parse proxy).isOk = true
  session : isBlank configuration.relaySessionId = false
  group : isBlank configuration.publisherGroupId = false
  groupLength : configuration.publisherGroupId.utf8ByteSize ≤ 256
  bus : validateBus configuration.busId = true
  serverCount : configuration.iceServers.length ≤ maxIceServers
  servers : ∀ server ∈ configuration.iceServers, server.validate = .ok ()
  timeout : 1 ≤ configuration.startupTimeout / 1000000 ∧
    configuration.startupTimeout / 1000000 ≤ maxStartupTimeoutMs

theorem forM_eq_ok {Item : Type} {check : Item → Except RelayConfigurationError Unit}
    {items : List Item} {value : Unit} :
    items.forM check = .ok value ↔ ∀ item ∈ items, check item = .ok () := by
  induction items with
  | nil => simp [List.forM, pure, Except.pure]
  | cons item rest hypothesis =>
    change (check item >>= fun _ => rest.forM check) = _ ↔ _
    rw [bind_eq_ok, List.forall_mem_cons]
    simp only [hypothesis]
    exact ⟨fun ⟨_, first, others⟩ => ⟨first, others⟩, fun ⟨first, others⟩ => ⟨(), first, others⟩⟩

theorem validate_eq_ok : configuration.validate parse = .ok () ↔ configuration.Valid parse := by
  have guarded : ∀ {condition : Prop} [Decidable condition] {error : RelayConfigurationError}
      {rest : Except RelayConfigurationError Unit},
      (if condition then (Except.error error >>= fun _ : Unit => rest) else rest) = .ok () ↔
        ¬condition ∧ rest = .ok () := by
    intro condition _ error rest
    split <;> simp_all [bind, Except.bind]
  have last : ∀ {condition : Prop} [Decidable condition] {error : RelayConfigurationError},
      (if condition then Except.error error else pure ()) = .ok () ↔ ¬condition := by
    intro condition _ error
    split <;> simp_all [pure, Except.pure]
  unfold validate
  split
  next relay parsed =>
    simp only [guarded, bind_eq_ok, forM_eq_ok, last, exists_const]
    constructor
    · rintro ⟨origin, exposed, proxy, identity, bus, count, servers, timeout⟩
      simp only [Bool.or_eq_true, not_or, decide_eq_true_eq, Nat.not_lt] at identity timeout
      refine ⟨⟨relay, parsed, by simpa using origin, by simpa using exposed⟩, ?_,
        by simpa using identity.1.1, by simpa using identity.1.2, identity.2, by simpa using bus,
        Nat.not_lt.mp count, servers, Nat.pos_of_ne_zero timeout.1, timeout.2⟩
      intro secret isSecret
      rw [isSecret] at proxy
      simpa using proxy
    · rintro ⟨⟨other, isOther, origin, exposed⟩, proxy, session, group, length, bus, count, servers,
        timeout⟩
      obtain rfl : relay = other := Option.some.inj (parsed.symm.trans isOther)
      refine ⟨by simpa using origin, by simpa using exposed, ?_,
        by simpa [session, group] using length, by simpa using bus, Nat.not_lt.mpr count, servers,
        ?_⟩
      · cases given : configuration.httpProxy with
        | none => simp
        | some secret => simpa using proxy secret given
      · exact not_or.mpr ⟨Nat.ne_of_gt timeout.1, Nat.not_lt.mpr timeout.2⟩
  next parsed =>
    refine ⟨nofun, fun valid => ?_⟩
    obtain ⟨relay, isRelay, -⟩ := valid.relay
    exact (parsed relay isRelay).elim

end RelayRouteConfiguration

end RelayConnector
