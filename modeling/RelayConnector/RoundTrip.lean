/-
This file proves that a route configuration survives the connector's encoding.

The argument is cut at the resolved node: `Carries` says which value the encoding has
under each key, and the decoder reads them back one by one. A configuration that passed
its checks has no blank field apart from its token, and that is all the decoder asks for
on top of the checks themselves.
-/

import Mathlib
import RelayConnector.Encoding

namespace RelayConnector

open Text

/-! ### Core's resolution -/

/-- How Core resolves the value of a key. -/
def NodeConfig.Shows (node : NodeConfig) (key : String) :
    Option ConnectorConfigurationValue → Prop
  | none => node.get key = none
  | some (.text value) => node.get key = some value
  | some (.secret value) => node.get key = some value ∧ node.isSensitive key = true
  | some (.durationMilliseconds value) => node.get key = some (toString value)

/-- The node is what Core makes of an encoded configuration. -/
def ConnectorConfiguration.Resolves (encoded : ConnectorConfiguration) (node : NodeConfig) : Prop :=
  ∀ key, node.Shows key (encoded.get key)

/-! ### No field is blank -/

theorem isWhitespace_of_isAlphanum {character : Char}
    (alphanumeric : character.isAlphanum = true) : isWhitespace character = false := by
  simp only [Char.isAlphanum, Char.isAlpha, Char.isUpper, Char.isLower, Char.isDigit, ge_iff_le,
    Bool.or_eq_true, Bool.and_eq_true, decide_eq_true_eq, UInt32.le_iff_toNat_le] at alphanumeric
  simp only [isWhitespace, Bool.or_eq_false_iff, Bool.and_eq_false_iff, decide_eq_false_iff_not,
    beq_eq_false_iff_ne]
  have upper : 'A'.val.toNat = 65 ∧ 'Z'.val.toNat = 90 := ⟨rfl, rfl⟩
  have lower : 'a'.val.toNat = 97 ∧ 'z'.val.toNat = 122 := ⟨rfl, rfl⟩
  have digit : '0'.val.toNat = 48 ∧ '9'.val.toNat = 57 := ⟨rfl, rfl⟩
  have code : character.toNat = character.val.toNat := rfl
  omega

theorem isBlank_of_validateBus {bus : String} (valid : validateBus bus = true) :
    isBlank bus = false := by
  simp only [validateBus, Bool.and_eq_true, Bool.not_eq_true', Bool.or_eq_false_iff,
    decide_eq_false_iff_not, List.all_eq_true, Bool.or_eq_true, beq_iff_eq] at valid
  obtain ⟨⟨some, -⟩, all⟩ := valid
  have characters : bus.toList ≠ [] := by simpa using some
  obtain ⟨first, rest, split⟩ := List.exists_cons_of_ne_nil characters
  have member : first ∈ bus.toList := by
    rw [split]
    exact List.mem_cons_self
  rw [isBlank, List.all_eq_false]
  refine ⟨first, member, Bool.not_eq_true _ ▸ ?_⟩
  rcases all first member with ((alphanumeric | rfl) | rfl) | rfl
  · exact isWhitespace_of_isAlphanum alphanumeric
  · rfl
  · rfl
  · rfl

theorem required_eq_ok {node : NodeConfig} {key value : String} :
    required node key = .ok value ↔ node.get key = some value ∧ isBlank value = false := by
  simp [required, Option.filter_eq_some_iff]

theorem requiredSensitive_eq_ok {node : NodeConfig} {key value : String} :
    requiredSensitive node key = .ok value ↔
      node.get key = some value ∧ isBlank value = false ∧ node.isSensitive key = true := by
  simp [requiredSensitive, bind_eq_ok, required_eq_ok, pure, Except.pure, and_assoc]

namespace RelayRouteConfiguration

variable {libraries : Libraries} {configuration : RelayRouteConfiguration}

theorem Valid.relayUrl_unblank (valid : configuration.Valid libraries.parseUrl)
    (lawful : libraries.Lawful) : isBlank configuration.relayUrl = false := by
  obtain ⟨relay, parsed, -⟩ := valid.relay
  cases blank : isBlank configuration.relayUrl with
  | false => rfl
  | true =>
    rw [lawful.unblank _ blank] at parsed
    cases parsed

theorem Valid.proxy_unblank (valid : configuration.Valid libraries.parseUrl)
    (lawful : libraries.Lawful) {proxy : ConnectorSecret}
    (given : configuration.httpProxy = some proxy) : isBlank proxy = false := by
  have checks := valid.proxy proxy given
  cases blank : isBlank proxy with
  | false => rfl
  | true =>
    rw [checkedProxy, lawful.unblank _ blank] at checks
    cases checks

/-! ### What the encoding carries -/

/-- The values of an encoded configuration. -/
structure Carries (libraries : Libraries) (configuration : RelayRouteConfiguration)
    (encoded : ConnectorConfiguration) : Prop where
  relayUrl : encoded.get relayUrlKey = some (.text configuration.relayUrl)
  relaySessionId : encoded.get relaySessionIdKey = some (.text configuration.relaySessionId)
  sourceToken : encoded.get sourceTokenKey = some (.secret configuration.sourceToken)
  busId : encoded.get busIdKey = some (.text configuration.busId)
  publisherGroupId : encoded.get publisherGroupIdKey = some (.text configuration.publisherGroupId)
  latencyProfile : encoded.get latencyProfileKey =
    some (.text configuration.latencyProfile.asStr)
  startupTimeout : encoded.get startupTimeoutMsKey =
    some (.durationMilliseconds (asMillis configuration.startupTimeout))
  transport : encoded.get transportKey = some (.text configuration.transport.asStr)
  httpProxy : encoded.get httpProxyKey = configuration.httpProxy.map .secret
  iceServers : encoded.get iceServersKey = none ∧ configuration.iceServers = [] ∨
    ∃ text, encoded.get iceServersKey = some (.secret text) ∧
      libraries.decodeJson text = some (configuration.iceServers.map RelayIceServer.wire)

/-- The connector accepts the text that the servers are encoded to. -/
def IceTextAccepted (libraries : Libraries) (configuration : RelayRouteConfiguration) : Prop :=
  ∀ text, encodeIceServers libraries configuration.iceServers = .ok text →
    libraries.acceptsSecret text = true

/-- The values without the servers. -/
theorem carries_of_get {encoded : ConnectorConfiguration} (same : ∀ key, key ≠ iceServersKey →
      encoded.get key = (configuration.withProxyValue configuration.requiredValues).get key)
    (iceServers : encoded.get iceServersKey = none ∧ configuration.iceServers = [] ∨
      ∃ text, encoded.get iceServersKey = some (.secret text) ∧
        libraries.decodeJson text = some (configuration.iceServers.map RelayIceServer.wire)) :
    configuration.Carries libraries encoded := by
  refine ⟨?_, ?_, ?_, ?_, ?_, ?_, ?_, ?_, ?_, iceServers⟩ <;>
    rw [same _ (by decide), withProxyValue] <;>
    cases configuration.httpProxy <;> rfl

theorem get_iceServersKey :
    (configuration.withProxyValue configuration.requiredValues).get iceServersKey = none := by
  rw [withProxyValue]
  cases configuration.httpProxy <;> rfl

theorem carries_connectorConfiguration (valid : configuration.Valid libraries.parseUrl)
    (lawful : libraries.Lawful) (accepted : configuration.IceTextAccepted libraries) :
    ∃ encoded, configuration.connectorConfiguration libraries = .ok encoded ∧
      configuration.Carries libraries encoded := by
  have fits : ¬2 ^ 64 ≤ asMillis configuration.startupTimeout := by
    have bounded : asMillis configuration.startupTimeout ≤ maxStartupTimeoutMs := valid.timeout.2
    rw [maxStartupTimeoutMs] at bounded
    omega
  have checks := validate_eq_ok.mpr valid
  simp only [connectorConfiguration, bind_eq_ok, refuseIf_eq_ok, decide_eq_false_iff_not]
  by_cases none : configuration.iceServers = []
  · refine ⟨_, ⟨(), checks, (), fits, by rw [none]; rfl⟩, ?_⟩
    exact carries_of_get (fun _ _ => rfl) (.inl ⟨get_iceServersKey, none⟩)
  · obtain ⟨text, encodes, decodes⟩ :=
      lawful.decodes (configuration.iceServers.map RelayIceServer.wire)
    have encoded : encodeIceServers libraries configuration.iceServers = .ok text :=
      getOr_eq_ok.mpr encodes
    have secret : ConnectorSecret.new libraries text = .ok text :=
      ConnectorSecret.new_eq_ok.mpr ⟨accepted text encoded, rfl⟩
    refine ⟨(configuration.withProxyValue configuration.requiredValues).insert iceServersKey
      (.secret text), ⟨(), checks, (), fits, ?_⟩, ?_⟩
    · rw [if_neg (by simpa using none), encoded]
      simp only [bind, Except.bind, secret]
      rfl
    · refine carries_of_get (fun key other => ConnectorConfiguration.get_insert_of_ne _ _ other)
        (.inr ⟨text, ConnectorConfiguration.get_insert_self _ _ _, decodes⟩)

/-! ### What the decoder makes of it -/

/-- The configuration with its timeout in whole milliseconds. -/
def truncated (configuration : RelayRouteConfiguration) : RelayRouteConfiguration :=
  { configuration with startupTimeout := fromMillis (asMillis configuration.startupTimeout) }

theorem Valid.truncated (valid : configuration.Valid libraries.parseUrl) :
    configuration.truncated.Valid libraries.parseUrl := by
  have same : asMillis configuration.truncated.startupTimeout =
      asMillis configuration.startupTimeout := asMillis_fromMillis _
  refine { valid with timeout := ?_ }
  change 1 ≤ asMillis _ ∧ asMillis _ ≤ _
  rw [same]
  exact valid.timeout

/-- The servers come back from the JSON library's text. -/
theorem decodeIceServers_of_wire {text : String} (valid : configuration.Valid libraries.parseUrl)
    (decodes : libraries.decodeJson text =
      some (configuration.iceServers.map RelayIceServer.wire)) :
    decodeIceServers libraries text = .ok configuration.iceServers := by
  have each : ∀ servers : List RelayIceServer, (∀ server ∈ servers, server.validate = .ok ()) →
      (servers.map RelayIceServer.wire).mapM WireIceServer.decode = .ok servers := by
    intro servers
    induction servers with
    | nil => exact fun _ => rfl
    | cons server rest hypothesis =>
      intro all
      obtain ⟨first, others⟩ := List.forall_mem_cons.mp all
      have decoded : server.wire.decode = .ok server := by
        rw [WireIceServer.decode, bind_eq_ok]
        exact ⟨(), by simp [RelayIceServer.wire], RelayIceServer.new_eq_ok.mpr ⟨first, rfl⟩⟩
      rw [List.map_cons, List.mapM_cons, decoded]
      simp only [bind, Except.bind, hypothesis others]
      rfl
  rw [decodeIceServers, bind_eq_ok]
  refine ⟨_, getOr_eq_ok.mpr decodes, bind_eq_ok.mpr ⟨(), ?_, each _ valid.servers⟩⟩
  rw [refuseIf_eq_ok, decide_eq_false_iff_not, List.length_map, Nat.not_lt]
  exact valid.serverCount

theorem fromNodeConfig_of_carries {encoded : ConnectorConfiguration} {node : NodeConfig}
    (valid : configuration.Valid libraries.parseUrl)
    (secrets : configuration.SecretsAccepted libraries)
    (lawful : libraries.Lawful) (token : isBlank configuration.sourceToken = false)
    (carries : configuration.Carries libraries encoded) (resolves : encoded.Resolves node) :
    fromNodeConfig libraries node = .ok configuration.truncated := by
  have shows : ∀ {key value}, encoded.get key = value → node.Shows key value :=
    fun given => given ▸ resolves _
  have timeout : node.get startupTimeoutMsKey =
      some (toString (asMillis configuration.startupTimeout)) := shows carries.startupTimeout
  have profile : node.get latencyProfileKey = some configuration.latencyProfile.asStr :=
    shows carries.latencyProfile
  have transport : node.get transportKey = some configuration.transport.asStr :=
    shows carries.transport
  have parsed : parseUnsigned (2 ^ 64) (toString (asMillis configuration.startupTimeout)).toList =
      some (asMillis configuration.startupTimeout) := by
    refine parseUnsigned_toString ?_
    have bounded : asMillis configuration.startupTimeout ≤ maxStartupTimeoutMs := valid.timeout.2
    rw [maxStartupTimeoutMs] at bounded
    omega
  have servers : nodeIceServers libraries node = .ok configuration.iceServers := by
    rw [nodeIceServers]
    rcases carries.iceServers with ⟨absent, none⟩ | ⟨text, given, decodes⟩
    · rw [show node.get iceServersKey = Option.none from shows absent, none]
    · rw [(show node.get iceServersKey = some text ∧ _ from shows given).1]
      exact decodeIceServers_of_wire valid decodes
  have proxy : nodeHttpProxy libraries node = .ok configuration.httpProxy := by
    have shown := shows carries.httpProxy
    rw [nodeHttpProxy]
    cases given : configuration.httpProxy with
    | none =>
      rw [given] at shown
      rw [show node.get httpProxyKey = none from shown]
    | some secret =>
      rw [given] at shown
      obtain ⟨text, sensitive⟩ : node.get httpProxyKey = some secret ∧
        node.isSensitive httpProxyKey = true := shown
      have needed := requiredSensitive_eq_ok.mpr
        ⟨text, valid.proxy_unblank lawful given, sensitive⟩
      have made := ConnectorSecret.new_eq_ok.mpr ⟨secrets.2 secret given, rfl⟩
      simp only [text, needed, made, bind, Except.bind]
      rfl
  obtain ⟨tokenText, sensitive⟩ : node.get sourceTokenKey = some configuration.sourceToken ∧
    node.isSensitive sourceTokenKey = true := shows carries.sourceToken
  simp only [fromNodeConfig, bind_eq_ok]
  refine ⟨_, requiredSensitive_eq_ok.mpr ⟨tokenText, token, sensitive⟩,
    _, getOr_eq_ok.mpr (by rw [timeout]; exact parsed), _, servers,
    _, required_eq_ok.mpr ⟨shows carries.relayUrl, valid.relayUrl_unblank lawful⟩,
    _, required_eq_ok.mpr ⟨shows carries.relaySessionId, valid.session⟩,
    _, ConnectorSecret.new_eq_ok.mpr ⟨secrets.1, rfl⟩,
    _, required_eq_ok.mpr ⟨shows carries.busId, isBlank_of_validateBus valid.bus⟩,
    _, required_eq_ok.mpr ⟨shows carries.publisherGroupId, valid.group⟩,
    _, by rw [profile]; exact RelayLatencyProfile.parse_asStr _,
    _, by rw [transport]; exact RelayPublicationTransport.parse_asStr _, _, proxy, ?_⟩
  exact checked_eq_ok.mpr ⟨valid.truncated, rfl⟩

/-- What is known of a decoded configuration. -/
theorem of_fromNodeConfig {node : NodeConfig}
    (decodes : fromNodeConfig libraries node = .ok configuration) :
    configuration.Valid libraries.parseUrl ∧ configuration.SecretsAccepted libraries ∧
      isBlank configuration.sourceToken = false ∧ configuration.truncated = configuration := by
  simp only [fromNodeConfig, bind_eq_ok] at decodes
  obtain ⟨token, isToken, milliseconds, -, servers, -, relayUrl, -, session, -, secret, isSecret,
    bus, -, group, -, profile, -, transport, -, proxy, isProxy, checks⟩ := decodes
  obtain ⟨valid, rfl⟩ := checked_eq_ok.mp checks
  obtain ⟨-, unblank, -⟩ := requiredSensitive_eq_ok.mp isToken
  obtain ⟨accepted, rfl⟩ := ConnectorSecret.new_eq_ok.mp isSecret
  refine ⟨valid, ⟨accepted, ?_⟩, unblank, ?_⟩
  · rintro other ⟨⟩
    rw [nodeHttpProxy] at isProxy
    split at isProxy
    · obtain ⟨text, -, isProxy⟩ := bind_eq_ok.mp isProxy
      obtain ⟨made, isMade, same⟩ := bind_eq_ok.mp isProxy
      obtain rfl : made = other := Option.some.inj (Except.ok.inj same)
      obtain ⟨accepted, rfl⟩ := ConnectorSecret.new_eq_ok.mp isMade
      exact accepted
    · cases isProxy
  · simp only [truncated, asMillis_fromMillis]

/-- Two routes that can share a publisher still can when their timeouts are truncated. -/
theorem samePublisher_truncated {first second : RelayRouteConfiguration}
    (same : first.samePublisher second = true) :
    first.truncated.samePublisher second.truncated = true := by
  simp only [samePublisher, Bool.and_eq_true, beq_iff_eq] at same ⊢
  obtain ⟨⟨⟨⟨⟨⟨⟨url, session⟩, token⟩, group⟩, servers⟩, timeout⟩, transport⟩, proxy⟩ := same
  simp only [truncated, url, session, token, group, servers, timeout, transport, proxy, and_self]

/-- Encoding succeeds, and whatever Core resolves the encoding to is decoded to `result`. -/
def DecodesTo (libraries : Libraries) (configuration result : RelayRouteConfiguration) : Prop :=
  ∃ encoded, configuration.connectorConfiguration libraries = .ok encoded ∧
    ∀ node, encoded.Resolves node → fromNodeConfig libraries node = .ok result

theorem decodesTo_truncated (lawful : libraries.Lawful)
    (valid : configuration.Valid libraries.parseUrl)
    (secrets : configuration.SecretsAccepted libraries)
    (token : isBlank configuration.sourceToken = false)
    (accepted : configuration.IceTextAccepted libraries) :
    configuration.DecodesTo libraries configuration.truncated := by
  obtain ⟨encoded, encodes, carries⟩ := carries_connectorConfiguration valid lawful accepted
  exact ⟨encoded, encodes, fun node resolves =>
    fromNodeConfig_of_carries valid secrets lawful token carries resolves⟩

end RelayRouteConfiguration

open RelayRouteConfiguration

/-- A configuration that was decoded is encoded and decoded to itself; a configuration that was
built comes back with its timeout in whole milliseconds, so that two of them that can share a
publisher still can. -/
theorem configuration_survives_encoding {libraries : Libraries} (lawful : libraries.Lawful) :
    (∀ node configuration, fromNodeConfig libraries node = .ok configuration →
      configuration.IceTextAccepted libraries →
        configuration.DecodesTo libraries configuration) ∧
    (∀ configuration, Built libraries configuration →
      isBlank configuration.sourceToken = false → configuration.IceTextAccepted libraries →
        configuration.DecodesTo libraries configuration.truncated) ∧
    ∀ first second, Built libraries first → Built libraries second →
      isBlank first.sourceToken = false → isBlank second.sourceToken = false →
      first.IceTextAccepted libraries → second.IceTextAccepted libraries →
      first.samePublisher second = true →
        ∃ firstDecoded secondDecoded, first.DecodesTo libraries firstDecoded ∧
          second.DecodesTo libraries secondDecoded ∧
          firstDecoded.samePublisher secondDecoded = true := by
  have survives : ∀ configuration, Built libraries configuration →
      isBlank configuration.sourceToken = false → configuration.IceTextAccepted libraries →
        configuration.DecodesTo libraries configuration.truncated := by
    intro configuration built token accepted
    exact decodesTo_truncated lawful built.valid.1 built.valid.2 token accepted
  refine ⟨?_, survives, ?_⟩
  · intro node configuration decodes accepted
    obtain ⟨valid, secrets, token, whole⟩ := of_fromNodeConfig decodes
    have decoded := decodesTo_truncated lawful valid secrets token accepted
    rw [whole] at decoded
    exact decoded
  · intro first second firstBuilt secondBuilt firstToken secondToken firstText secondText same
    exact ⟨first.truncated, second.truncated, survives first firstBuilt firstToken firstText,
      survives second secondBuilt secondToken secondText, samePublisher_truncated same⟩

/-! ### A library for a sample -/

instance encodableChar : Encodable Char := .ofLeftInverse Char.toNat Char.ofNat Char.ofNat_toNat

instance encodableString : Encodable String :=
  .ofLeftInverse String.toList String.ofList fun _ => String.ofList_toList

instance encodableWireIceServer : Encodable WireIceServer :=
  .ofLeftInverse (fun server => (server.urls, server.username, server.credential))
    (fun parts => ⟨parts.1, parts.2.1, parts.2.2⟩) fun _ => rfl

/-- The servers of the sample. -/
def sampleServers : List WireIceServer := [⟨["stun:stun.example"], none, none⟩]

/-- What `serde_json` makes of them. -/
def sampleJson : String :=
  "[\x7b\"urls\":[\"stun:stun.example\"],\"username\":null,\"credential\":null\x7d]"

/-- One relay, every secret, and numbers for other servers. -/
def sampleLibraries : Libraries where
  parseUrl text :=
    if text = "https://relay.example" then
      some { scheme := "https", host := some (.domain "relay.example") }
    else none
  acceptsSecret _ := true
  encodeJson servers :=
    some (if servers = sampleServers then sampleJson else toString (Encodable.encode servers))
  decodeJson text :=
    if text = sampleJson then some sampleServers
    else Encodable.decode (Nat.ofDigitChars 10 text.toList 0)

theorem lawful_sampleLibraries : sampleLibraries.Lawful where
  unblank text blank := by
    have different : text ≠ "https://relay.example" := by
      rintro rfl
      exact absurd blank (by decide +kernel)
    exact if_neg different
  decodes servers := by
    refine ⟨_, rfl, ?_⟩
    by_cases same : servers = sampleServers
    · rw [if_pos same, same]
      rfl
    · have number : toString (Encodable.encode servers) ≠ sampleJson := by
        intro equal
        have bracket : '[' ∈ Nat.toDigits 10 (Encodable.encode servers) := by
          rw [← String.toList_ofList (l := Nat.toDigits 10 _), ← Nat.toString_eq_ofList_toDigits,
            equal]
          decide +kernel
        exact absurd (Nat.isDigit_of_mem_toDigits (by decide) (by decide) bracket) (by decide)
      rw [if_neg same]
      refine (if_neg number).trans ?_
      rw [Nat.toString_eq_ofList_toDigits, String.toList_ofList, Nat.ofDigitChars_ten_toDigits]
      exact Encodable.encodek servers

/-- Two buses of one group: a server, and a timeout of one and a half milliseconds. -/
def sampleRoute (second : Bool) : RelayRouteConfiguration where
  relayUrl := "https://relay.example"
  relaySessionId := "session"
  sourceToken := "token"
  busId := if second then "second" else "first"
  publisherGroupId := "session"
  iceServers := [⟨["stun:stun.example"]⟩]
  startupTimeout := 1500000

theorem built_sampleRoute (second : Bool) : Built sampleLibraries (sampleRoute second) := by
  have made : new sampleLibraries "https://relay.example" "session" "token"
      (sampleRoute second).busId = .ok { sampleRoute second with
        iceServers := [], startupTimeout := fromMillis defaultStartupTimeoutMs } := by
    cases second <;> decide +kernel
  have served : withIceServers sampleLibraries { sampleRoute second with
      iceServers := [], startupTimeout := fromMillis defaultStartupTimeoutMs }
      (sampleRoute second).iceServers = .ok { sampleRoute second with
        startupTimeout := fromMillis defaultStartupTimeoutMs } := by
    cases second <;> decide +kernel
  have timed : withStartupTimeout sampleLibraries { sampleRoute second with
      startupTimeout := fromMillis defaultStartupTimeoutMs } 1500000 =
        .ok (sampleRoute second) := by
    cases second <;> decide +kernel
  exact .withStartupTimeout (.withIceServers (.new rfl made) served) timed

/-- A node with nothing but the required keys. -/
def sampleNode : NodeConfig where
  get key :=
    if key = sourceTokenKey then some "token"
    else if key = relayUrlKey then some "https://relay.example"
    else if key = relaySessionIdKey ∨ key = publisherGroupIdKey then some "session"
    else if key = busIdKey then some "first"
    else none
  isSensitive key := key == sourceTokenKey

theorem configuration_survives_encoding_sample :
    (∃ configuration, fromNodeConfig sampleLibraries sampleNode = .ok configuration ∧
      configuration.startupTimeout = 30000000000 ∧
      configuration.DecodesTo sampleLibraries configuration) ∧
    (sampleRoute false).truncated.startupTimeout = 1000000 ∧
    (sampleRoute false).DecodesTo sampleLibraries (sampleRoute false).truncated ∧
    (sampleRoute false).samePublisher (sampleRoute true) = true ∧
    ∃ first second, (sampleRoute false).DecodesTo sampleLibraries first ∧
      (sampleRoute true).DecodesTo sampleLibraries second ∧ first.samePublisher second = true := by
  obtain ⟨decoded, built, shared⟩ := configuration_survives_encoding lawful_sampleLibraries
  refine ⟨⟨{ sampleRoute false with iceServers := [], startupTimeout := 30000000000 },
    by decide +kernel, rfl, decoded sampleNode _ (by decide +kernel) fun _ _ => rfl⟩, by decide,
    built _ (built_sampleRoute false) (by decide +kernel) fun _ _ => rfl, by decide +kernel, ?_⟩
  exact shared _ _ (built_sampleRoute false) (built_sampleRoute true) (by decide +kernel)
    (by decide +kernel) (fun _ _ => rfl) (fun _ _ => rfl) (by decide +kernel)

end RelayConnector
