/-
This file proves who can read the source capability of an ingress.

Everything a connection attempt writes before its WebSocket handshake is independent of
the token, so the writes of an attempt are a common part and at most one request. Which
layers that request goes through decides the rest: with an HTTPS relay it is inside the
relay's TLS session, without a proxy it goes to the relay itself, and otherwise the proxy
reads it.
-/

import RelayConnector.Proxy

namespace RelayConnector

open Connecting

/-! ### Who can read what -/

/-- Who can read what is written: the end of the innermost TLS session, or, without one, the TCP
peer and, unless it is this machine, everyone on the way. -/
def Channel.readableBy (reader : Host) (channel : Channel) : Bool :=
  match channel.relayTls.or channel.proxyTls with
  | some host => host == reader
  | none => channel.peer == reader || !channel.peer.isLoopback

/-- A TLS session that ends at the relay, or a plain connection to this machine. -/
def Channel.Protects (relay : Host) (channel : Channel) : Prop :=
  channel.relayTls = some relay ∨
    channel.relayTls = none ∧ channel.proxyTls = none ∧ channel.peer.isLoopback = true

def Content.authorization : Content → Option String
  | .connect _ => none
  | .upgrade _ authorization _ => authorization

/-- What the size of a message can tell: everything but the token, of which the length. -/
def Content.shape : Content → String × Option Nat × Option String
  | .connect request => (request, none, none)
  | .upgrade url authorization subprotocol =>
    (url, authorization.map String.utf8ByteSize, subprotocol)

/-- The messages that a host can read. -/
def readable (reader : Host) (writes : List Write) : List Content :=
  (writes.filter (·.channel.readableBy reader)).map (·.content)

/-- What a connection attempt of an ingress writes. -/
def ingressWrites (libraries : NetLibraries) (environment : String → Option String)
    (outcomes : Outcomes) (configuration : RelayRouteConfiguration) : List Write :=
  (connectIngress libraries environment outcomes configuration []).2

/-- The configuration with another token. -/
def RelayRouteConfiguration.withToken (configuration : RelayRouteConfiguration)
    (token : ConnectorSecret) : RelayRouteConfiguration :=
  { configuration with sourceToken := token }

/-- The URL library parses an address that it made, and a header may have every visible ASCII
character. -/
structure NetLibraries.Lawful (libraries : NetLibraries)
    (configuration : RelayRouteConfiguration) : Prop where
  reparses : ∀ relay, libraries.parseUrl configuration.relayUrl = some relay →
      RelayRouteConfiguration.originAccepted relay = true →
        libraries.parseUrl (libraries.printUrl (ingressUrl libraries configuration relay)) =
          some (ingressUrl libraries configuration relay)
  visible : ∀ text : String, (∀ character ∈ text.toList,
    32 ≤ character.toNat ∧ character.toNat < 127) → libraries.acceptsHeader text = true

/-! ### The common part -/

namespace Connecting

variable {Value Result : Type} {writes : List Write}

/-- An attempt that sends nothing. -/
def Silent (attempt : Connecting Value) : Prop := ∀ writes, (attempt writes).2 = writes

theorem bind_eq (first : Connecting Value) (next : Value → Connecting Result)
    (writes : List Write) :
    (first >>= next) writes = match first writes with
      | (.ok value, writes) => next value writes
      | (.error error, writes) => (.error error, writes) := rfl

theorem silent_done (value : Value) : Silent (done value) := fun _ => rfl

theorem silent_fail (error : DialError) : Silent (fail error : Connecting Value) := fun _ => rfl

theorem silent_call (succeeds : Bool) (error : DialError) : Silent (call succeeds error) := by
  intro writes
  cases succeeds <;> rfl

theorem silent_heed (failure : Option DialError) : Silent (heed failure) := by
  intro writes
  cases failure <;> rfl

theorem silent_demand (value : Option Value) (error : DialError) : Silent (demand value error) := by
  intro writes
  cases value <;> rfl

variable {first : Connecting Value} {next : Value → Connecting Result} {after : List Write}

theorem Silent.bind (left : Silent first) (right : ∀ value, Silent (next value)) :
    Silent (first >>= next) := by
  intro writes
  have kept := left writes
  rw [bind_eq]
  rcases run : first writes with ⟨result, after⟩
  rw [run] at kept
  obtain rfl : after = writes := kept
  cases result with
  | ok value => exact right value _
  | error error => rfl

theorem bind_ends {result : Result} :
    (first >>= next) writes = (.ok result, after) ↔
      ∃ value middle, first writes = (.ok value, middle) ∧
        next value middle = (.ok result, after) := by
  rw [bind_eq]
  rcases first writes with ⟨outcome, middle⟩
  cases outcome with
  | error error => simp
  | ok value =>
    constructor
    · exact fun ends => ⟨value, middle, rfl, ends⟩
    · rintro ⟨_, _, ⟨⟩, ends⟩
      exact ends

theorem done_ends {value result : Value} :
    done value writes = (.ok result, after) ↔ value = result ∧ writes = after := by
  simp [done]

theorem demand_ends {value : Option Value} {error : DialError} {result : Value} :
    demand value error writes = (.ok result, after) ↔ value = some result ∧ writes = after := by
  cases value <;> simp [demand, done, fail]

theorem call_ends {succeeds : Bool} {error : DialError} {result : Unit} :
    call succeeds error writes = (.ok result, after) ↔ succeeds = true ∧ writes = after := by
  cases succeeds <;> simp [call, done, fail]

theorem heed_ends {failure : Option DialError} {result : Unit} :
    heed failure writes = (.ok result, after) ↔ failure = none ∧ writes = after := by
  cases failure <;> simp [heed, done, fail]

/-- What follows in silence changes nothing. -/
theorem writes_bind_of_silent (right : ∀ value, Silent (next value)) (writes : List Write) :
    ((first >>= next) writes).2 = (first writes).2 := by
  rw [bind_eq]
  rcases first writes with ⟨result, after⟩
  cases result with
  | ok value => exact right value after
  | error error => rfl

theorem writes_bind_congr (first : Connecting Value) {other : Value → Connecting Result}
    (same : ∀ value writes, (next value writes).2 = (other value writes).2) (writes : List Write) :
    ((first >>= next) writes).2 = ((first >>= other) writes).2 := by
  rw [bind_eq, bind_eq]
  rcases first writes with ⟨result, after⟩
  cases result with
  | ok value => exact same value after
  | error error => rfl

theorem bind_assoc {Last : Type} (first : Connecting Value) (next : Value → Connecting Result)
    (last : Result → Connecting Last) :
    (first >>= next >>= last) = first >>= fun value => next value >>= last := by
  funext writes
  simp only [bind_eq]
  rcases first writes with ⟨result, after⟩
  cases result <;> rfl

/-- A call that fails ends the attempt, any other one is passed. -/
theorem call_bind (succeeds : Bool) (error : DialError) (next : Unit → Connecting Result)
    (writes : List Write) :
    ((call succeeds error >>= next) writes).2 =
      if succeeds then (next () writes).2 else writes := by
  cases succeeds <;> rfl

end Connecting

theorem silent_authority (url : Url) : Silent (authority url) :=
  (silent_demand _ _).bind fun _ => (silent_demand _ _).bind fun _ => silent_done _

theorem silent_chosenProxy (libraries : NetLibraries) (environment : String → Option String)
    (target : Url) (explicitProxy : Option ConnectorSecret) :
    Silent (chosenProxy libraries environment target explicitProxy) := by
  unfold chosenProxy
  split
  · exact silent_done _
  · split
    · exact silent_done _
    · exact silent_fail _

theorem silent_connectTcp (libraries : NetLibraries) (environment : String → Option String)
    (outcomes : Outcomes) (wsUrl : String) (explicitProxy : Option ConnectorSecret) :
    Silent (connectTcp libraries environment outcomes wsUrl explicitProxy) := by
  refine (silent_demand _ _).bind fun target => (silent_authority _).bind fun address =>
    (silent_chosenProxy _ _ _ _).bind fun proxy => Silent.bind ?_ fun _ =>
      (silent_heed _).bind fun _ => (silent_call _ _).bind fun _ => silent_done _
  cases proxy with
  | none => exact silent_done _
  | some proxy => exact silent_authority _

namespace Connecting

variable {Value Result : Type}

/-- An attempt that sends nothing but CONNECT requests. -/
def Tokenless (attempt : Connecting Value) : Prop :=
  ∀ writes, ∃ sent, (attempt writes).2 = sent ++ writes ∧
    ∀ write ∈ sent, write.content.authorization = none

theorem Silent.tokenless {attempt : Connecting Value} (silent : Silent attempt) :
    Tokenless attempt :=
  fun writes => ⟨[], silent writes, by simp⟩

theorem Tokenless.bind {first : Connecting Value} {next : Value → Connecting Result}
    (left : Tokenless first) (right : ∀ value, Tokenless (next value)) :
    Tokenless (first >>= next) := by
  intro writes
  obtain ⟨sent, after, plain⟩ := left writes
  rw [bind_eq]
  rcases run : first writes with ⟨result, middle⟩
  rw [run] at after
  cases result with
  | error error => exact ⟨sent, after, plain⟩
  | ok value =>
    obtain ⟨more, last, alsoPlain⟩ := right value middle
    refine ⟨more ++ sent, ?_, ?_⟩
    · rw [List.append_assoc, ← after]
      exact last
    · intro write member
      rcases List.mem_append.mp member with later | earlier
      · exact alsoPlain write later
      · exact plain write earlier

end Connecting

theorem silent_connectProxyStream (outcomes : Outcomes) (peer : Host) (proxy : Option Url) :
    Silent (connectProxyStream outcomes peer proxy) := by
  unfold connectProxyStream
  split
  · exact silent_done _
  · refine (silent_heed _).bind fun _ => (silent_demand _ _).bind fun _ =>
      (silent_call _ _).bind fun _ => ?_
    split
    · exact silent_done _
    · exact silent_fail _

theorem tokenless_establishTunnel (libraries : NetLibraries) (outcomes : Outcomes)
    (channel : Channel) (target : Host × Nat) (proxy : Url) :
    Tokenless (establishTunnel libraries outcomes channel target proxy) := by
  refine (silent_demand _ _).tokenless.bind fun _ => (silent_heed _).tokenless.bind fun _ =>
    Tokenless.bind ?_ fun _ => (silent_call _ _).tokenless.bind fun _ => Silent.tokenless ?_
  · intro writes
    refine ⟨[_], rfl, fun write member => ?_⟩
    obtain rfl := List.mem_singleton.mp member
    rfl
  · split
    · exact silent_fail _
    · split
      · split
        · exact silent_done _
        · exact silent_fail _
      · exact silent_fail _

theorem tokenless_openStream (libraries : NetLibraries) (outcomes : Outcomes) (peer : Host)
    (target : Host × Nat) (proxy : Option Url) :
    Tokenless (openStream libraries outcomes peer target proxy) := by
  refine (silent_connectProxyStream _ _ _).tokenless.bind fun channel => Tokenless.bind ?_ fun _ =>
    ((silent_heed _).bind fun _ => (silent_call _ _).bind fun _ => silent_done _).tokenless
  cases proxy with
  | none => exact (silent_done _).tokenless
  | some proxy => exact tokenless_establishTunnel _ _ _ _ _

/-! ### The request -/

/-- The channel that the request is written to, if it is. -/
def requestChannel (libraries : NetLibraries) (outcomes : Outcomes) (target : Url)
    (channel : Channel) : Option Channel :=
  if libraries.acceptsHeader ingressSubprotocol = false then none
  else if target.scheme = "wss" then
    match classifyRelayTlsError outcomes.relayTls with
    | none => some { channel with relayTls := target.host }
    | some _ => none
  else some channel

/-- The request with a token. -/
def requestOf (wsUrl : String) (token : ConnectorSecret) : Content :=
  .upgrade wsUrl (some (bearer token)) (some ingressSubprotocol)

theorem writes_upgrade (libraries : NetLibraries) (outcomes : Outcomes) (wsUrl : String)
    (target : Url) (token : ConnectorSecret) (channel : Channel) (writes : List Write) :
    (upgrade libraries outcomes wsUrl target (some token) (some ingressSubprotocol) channel
      writes).2 =
      match requestChannel libraries outcomes target channel with
      | some last =>
        if libraries.acceptsHeader (bearer token) then ⟨last, requestOf wsUrl token⟩ :: writes
        else writes
      | none => writes := by
  have answer : Silent (readAnswer outcomes (some token) (some ingressSubprotocol)) := by
    unfold readAnswer
    split
    · exact silent_fail _
    · exact silent_call _ _
  rw [upgrade, call_bind, call_bind, writes_bind_of_silent fun _ => answer]
  simp only [Option.all_some, requestChannel, sendRequest]
  by_cases protocol : libraries.acceptsHeader ingressSubprotocol = true
  · by_cases secure : target.scheme = "wss"
    · cases classifyRelayTlsError outcomes.relayTls <;>
        simp [protocol, secure, send, fail, requestOf]
    · simp [protocol, secure, send, requestOf]
  · simp [protocol]

/-- A stream that the request can be written to. -/
structure Dialled where
  wsUrl : String
  route : Route
  channel : Channel

/-- `connectIngress` up to the request. -/
def dial (libraries : NetLibraries) (environment : String → Option String) (outcomes : Outcomes)
    (configuration : RelayRouteConfiguration) : Connecting Dialled := do
  let relay ← demand (libraries.parseUrl configuration.relayUrl) .system
  call (relay.scheme == "http" || relay.scheme == "https")
    (.text "Relay ingress scheme is invalid")
  call (!relay.cannotBeABase) (.text "Relay ingress URL cannot contain paths")
  let wsUrl := libraries.printUrl (ingressUrl libraries configuration relay)
  let route ← connectTcp libraries environment outcomes wsUrl configuration.httpProxy
  heed (outcomes.watchdog.map DeadlineError.dial)
  let channel ← openStream libraries outcomes route.peer route.targetAuthority route.proxy
  return { wsUrl, route, channel }

/-- Up to the request nothing depends on the token, and after it nothing is written. -/
theorem ingressWrites_withToken (libraries : NetLibraries) (environment : String → Option String)
    (outcomes : Outcomes) (configuration : RelayRouteConfiguration) (token : ConnectorSecret) :
    ingressWrites libraries environment outcomes (configuration.withToken token) =
      ((dial libraries environment outcomes configuration >>= fun dialled =>
        upgrade libraries outcomes dialled.wsUrl dialled.route.target (some token)
          (some ingressSubprotocol) dialled.channel) []).2 := by
  rw [ingressWrites, connectIngress, dial, bind_assoc]
  refine writes_bind_congr _ (fun relay writes => ?_) _
  rw [bind_assoc]
  refine writes_bind_congr _ (fun _ writes => ?_) _
  rw [bind_assoc]
  refine writes_bind_congr _ (fun _ writes => ?_) _
  rw [connectWithTls, bind_assoc]
  refine writes_bind_congr _ (fun route writes => ?_) _
  rw [Connecting.beforeDeadline, bind_assoc]
  refine writes_bind_congr _ (fun _ writes => ?_) _
  rw [bind_assoc]
  exact writes_bind_congr _ (fun channel writes => rfl) _

/-! ### The layers -/

/-- The proxy in effect, if it is one that a connection can go through. -/
def usableProxy (libraries : NetLibraries) (environment : String → Option String) (target : Url)
    (explicitProxy : Option ConnectorSecret) : Option Url :=
  ((proxyText libraries environment target explicitProxy).bind fun raw =>
    (checkedProxy libraries.parseUrl raw).toOption).filter fun proxy =>
      (proxyCredentials libraries proxy).isSome

variable {writes after : List Write} {libraries : NetLibraries} {outcomes : Outcomes}

theorem authority_ends {url : Url} {address : Host × Nat} :
    authority url writes = (.ok address, after) ↔
      url.host = some address.1 ∧ url.portOrKnownDefault = some address.2 ∧ writes = after := by
  rw [authority]
  simp only [bind_ends, demand_ends, pure, done_ends]
  constructor
  · rintro ⟨host, _, ⟨isHost, rfl⟩, port, _, ⟨isPort, rfl⟩, rfl, rfl⟩
    exact ⟨isHost, isPort, rfl⟩
  · rintro ⟨isHost, isPort, rfl⟩
    exact ⟨_, _, ⟨isHost, rfl⟩, _, _, ⟨isPort, rfl⟩, rfl, rfl⟩

/-- A TCP connection goes to the target, or to the proxy in effect. -/
theorem connectTcp_ends {environment : String → Option String} {wsUrl : String}
    {explicitProxy : Option ConnectorSecret} {route : Route}
    (ends : connectTcp libraries environment outcomes wsUrl explicitProxy writes =
      (.ok route, after)) :
    libraries.parseUrl wsUrl = some route.target ∧
      match route.proxy with
      | none => proxyText libraries environment route.target explicitProxy = none ∧
        route.target.host = some route.peer
      | some proxy => ∃ raw, proxyText libraries environment route.target explicitProxy = some raw ∧
        checkedProxy libraries.parseUrl raw = .ok proxy ∧ proxy.host = some route.peer := by
  rw [connectTcp] at ends
  simp only [bind_ends, demand_ends, call_ends, heed_ends, authority_ends, pure, done_ends] at ends
  obtain ⟨target, _, ⟨parsed, rfl⟩, address, _, ⟨host, port, rfl⟩, proxy, _, chosen, peer, _,
    toPeer, _, _, -, _, _, -, rfl, rfl⟩ := ends
  refine ⟨parsed, ?_⟩
  cases given : proxyText libraries environment target explicitProxy with
  | none =>
    rw [chosenProxy, given] at chosen
    obtain ⟨rfl, rfl⟩ := done_ends.mp chosen
    obtain ⟨rfl, rfl⟩ := done_ends.mp toPeer
    exact ⟨rfl, host⟩
  | some raw =>
    cases checks : checkedProxy libraries.parseUrl raw with
    | error message =>
      rw [chosenProxy, given] at chosen
      simp only [checks] at chosen
      cases chosen
    | ok found =>
      rw [chosenProxy, given] at chosen
      simp only [checks] at chosen
      obtain ⟨rfl, rfl⟩ := done_ends.mp chosen
      exact ⟨raw, rfl, checks, (authority_ends.mp toPeer).1⟩

/-- The layers of the stream. -/
theorem openStream_ends {peer : Host} {target : Host × Nat} {proxy : Option Url} {channel : Channel}
    (ends : openStream libraries outcomes peer target proxy writes = (.ok channel, after)) :
    channel = { peer, proxyTls := (proxy.filter (·.scheme == "https")).bind (·.host) } ∧
      ∀ other, proxy = some other → (proxyCredentials libraries other).isSome = true := by
  rw [openStream] at ends
  simp only [bind_ends, call_ends, heed_ends, pure, done_ends] at ends
  obtain ⟨stream, middle, opened, _, _, tunnelled, _, _, -, _, _, -, rfl, rfl⟩ := ends
  constructor
  · cases given : proxy.filter (·.scheme == "https") with
    | none =>
      rw [connectProxyStream, given] at opened
      obtain ⟨rfl, rfl⟩ := done_ends.mp opened
      rfl
    | some found =>
      rw [connectProxyStream, given] at opened
      simp only [bind_ends, call_ends, heed_ends, demand_ends] at opened
      obtain ⟨_, _, -, host, _, ⟨isHost, rfl⟩, _, _, -, opened⟩ := opened
      cases handshake : classifyProxyTlsError outcomes.proxyTls with
      | none =>
        simp only [handshake] at opened
        obtain ⟨rfl, rfl⟩ := done_ends.mp opened
        rw [Option.bind_some, isHost]
      | some error =>
        simp only [handshake] at opened
        cases opened
  · rintro other rfl
    rw [tunnelThrough, establishTunnel] at tunnelled
    simp only [bind_ends, demand_ends] at tunnelled
    obtain ⟨credentials, _, ⟨decoded, rfl⟩, -⟩ := tunnelled
    rw [decoded]
    rfl

/-- What is known of a stream to the relay of a valid configuration. -/
theorem dial_ends {environment : String → Option String} {configuration : RelayRouteConfiguration}
    {relay : Url} {dialled : Dialled} (lawful : libraries.Lawful configuration)
    (parsed : libraries.parseUrl configuration.relayUrl = some relay)
    (origin : RelayRouteConfiguration.originAccepted relay = true)
    (ends : dial libraries environment outcomes configuration writes = (.ok dialled, after)) :
    dialled.route.target = ingressUrl libraries configuration relay ∧
      match usableProxy libraries environment (ingressUrl libraries configuration relay)
        configuration.httpProxy with
      | none => ∃ peer, relay.host = some peer ∧ dialled.channel = { peer }
      | some proxy => ∃ peer, proxy.host = some peer ∧
        dialled.channel =
          { peer, proxyTls := if proxy.scheme = "https" then some peer else none } := by
  rw [dial] at ends
  simp only [bind_ends, demand_ends, call_ends, heed_ends, pure, done_ends] at ends
  obtain ⟨other, _, ⟨isOther, rfl⟩, _, _, -, _, _, -, route, _, connected, _, _, ⟨-, rfl⟩, channel,
    _, opened, rfl, rfl⟩ := ends
  obtain rfl : relay = other := Option.some.inj (parsed.symm.trans isOther)
  obtain ⟨target, proxied⟩ := connectTcp_ends connected
  rw [lawful.reparses relay parsed origin] at target
  obtain same : ingressUrl libraries configuration relay = route.target := Option.some.inj target
  obtain ⟨layers, credentials⟩ := openStream_ends opened
  refine ⟨same.symm, ?_⟩
  rw [← same] at proxied
  cases chosen : route.proxy with
  | none =>
    rw [chosen] at proxied layers
    obtain ⟨none, host⟩ := proxied
    rw [usableProxy, none]
    exact ⟨route.peer, host, layers⟩
  | some proxy =>
    rw [chosen] at proxied layers
    obtain ⟨raw, given, checks, host⟩ := proxied
    have usable : usableProxy libraries environment (ingressUrl libraries configuration relay)
        configuration.httpProxy = some proxy := by
      rw [usableProxy, given, Option.bind_some, checks]
      exact Option.filter_eq_some_iff.mpr ⟨rfl, credentials proxy chosen⟩
    rw [usable]
    refine ⟨route.peer, host, layers.trans ?_⟩
    by_cases secure : proxy.scheme = "https"
    · simp [secure, host, Option.filter]
    · simp [secure, Option.filter]

theorem tokenless_dial (libraries : NetLibraries) (environment : String → Option String)
    (outcomes : Outcomes) (configuration : RelayRouteConfiguration) :
    Tokenless (dial libraries environment outcomes configuration) :=
  (silent_demand _ _).tokenless.bind fun _ => (silent_call _ _).tokenless.bind fun _ =>
    (silent_call _ _).tokenless.bind fun _ => (silent_connectTcp _ _ _ _ _).tokenless.bind fun _ =>
      (silent_heed _).tokenless.bind fun _ => (tokenless_openStream _ _ _ _ _).bind fun _ =>
        (silent_done _).tokenless

/-- The writes of an attempt: a part without the token, and at most one request. -/
theorem ingressWrites_cases (libraries : NetLibraries) (environment : String → Option String)
    (outcomes : Outcomes) (configuration : RelayRouteConfiguration) :
    ∃ base, (∀ write ∈ base, write.content.authorization = none) ∧
      ((∀ token, ingressWrites libraries environment outcomes (configuration.withToken token) =
        base) ∨
      ∃ dialled channel,
        dial libraries environment outcomes configuration [] = (.ok dialled, base) ∧
        requestChannel libraries outcomes dialled.route.target dialled.channel = some channel ∧
        ∀ token, ingressWrites libraries environment outcomes (configuration.withToken token) =
          if libraries.acceptsHeader (bearer token) then
            ⟨channel, requestOf dialled.wsUrl token⟩ :: base
          else base) := by
  obtain ⟨sent, all, plain⟩ := tokenless_dial libraries environment outcomes configuration []
  rw [List.append_nil] at all
  refine ⟨sent, plain, ?_⟩
  rcases run : dial libraries environment outcomes configuration [] with ⟨result, writes⟩
  rw [run] at all
  obtain rfl : writes = sent := all
  cases result with
  | error error =>
    left
    intro token
    rw [ingressWrites_withToken, bind_eq, run]
  | ok dialled =>
    cases request : requestChannel libraries outcomes dialled.route.target dialled.channel with
    | none =>
      left
      intro token
      rw [ingressWrites_withToken, bind_eq, run]
      simp only [writes_upgrade, request]
    | some channel =>
      right
      refine ⟨dialled, channel, rfl, request, fun token => ?_⟩
      rw [ingressWrites_withToken, bind_eq, run]
      simp only [writes_upgrade, request]

/-! ### Confidentiality -/

/-- Whatever happens: the token is written only where it is protected, no host but the relay and
this machine reads anything that depends on it, and what the messages' sizes can tell depends on
nothing but its length. -/
def CapabilityConfidential (libraries : NetLibraries) (environment : String → Option String)
    (configuration : RelayRouteConfiguration) (relay : Host) : Prop :=
  ∀ (outcomes : Outcomes) (first second : ConnectorSecret),
    let written := fun token =>
      ingressWrites libraries environment outcomes (configuration.withToken token)
    (∀ write ∈ written first, write.content.authorization.isSome = true →
      write.channel.Protects relay) ∧
    (∀ reader, reader ≠ relay →
      (∀ write ∈ written first ++ written second, write.channel.peer = reader →
        reader.isLoopback = false) →
      readable reader (written first) = readable reader (written second)) ∧
    (first.utf8ByteSize = second.utf8ByteSize →
      libraries.acceptsHeader (bearer first) = libraries.acceptsHeader (bearer second) →
      (written first).map (fun write => (write.channel, write.content.shape)) =
        (written second).map fun write => (write.channel, write.content.shape))

/-- The relay has TLS of its own, or every proxy in effect that can be used is this machine and is
spoken to without TLS. -/
def ProxyHarmless (libraries : NetLibraries) (environment : String → Option String)
    (configuration : RelayRouteConfiguration) (relay : Url) : Prop :=
  relay.scheme = "https" ∨
    ∀ proxy, usableProxy libraries environment (ingressUrl libraries configuration relay)
        configuration.httpProxy = some proxy →
      proxy.scheme = "http" ∧ proxy.host.any Host.isLoopback = true

/-- No other host reads a protected channel. -/
theorem Channel.Protects.readableBy_eq_false {channel : Channel} {relay reader : Host}
    (protects : channel.Protects relay) (other : reader ≠ relay)
    (remote : channel.peer = reader → reader.isLoopback = false) :
    channel.readableBy reader = false := by
  rw [Channel.readableBy]
  rcases protects with secure | ⟨plain, direct, loopback⟩
  · rw [secure]
    exact beq_eq_false_iff_ne.mpr other.symm
  · rw [plain, direct]
    have different : channel.peer ≠ reader := by
      intro same
      rw [same, remote same] at loopback
      cases loopback
    simp [different, loopback]

section

variable {libraries : NetLibraries} {environment : String → Option String}
  {configuration : RelayRouteConfiguration} {relay : Url} {host : Host}

/-- A URL of the web has an address. -/
theorem exists_authority (url : Url) (host : url.host.isSome = true)
    (scheme : url.scheme = "http" ∨ url.scheme = "https" ∨ url.scheme = "ws" ∨ url.scheme = "wss") :
    ∃ address, ∀ writes, authority url writes = (.ok address, writes) := by
  obtain ⟨name, isName⟩ := Option.isSome_iff_exists.mp host
  have port : url.portOrKnownDefault.isSome = true := by
    rw [Url.portOrKnownDefault]
    cases url.port with
    | some port => rfl
    | none => rcases scheme with given | given | given | given <;> rw [given] <;> rfl
  obtain ⟨number, isNumber⟩ := Option.isSome_iff_exists.mp port
  exact ⟨(name, number), fun writes => authority_ends.mpr ⟨isName, isNumber, rfl⟩⟩

variable {proxy : Url}

theorem of_checkedProxy {raw : String} (checks : checkedProxy libraries.parseUrl raw = .ok proxy) :
    (proxy.scheme = "http" ∨ proxy.scheme = "https") ∧ proxy.host.isSome = true := by
  unfold checkedProxy at checks
  split at checks
  · cases checks
  · split at checks
    · cases checks
    next fine =>
      obtain rfl := Except.ok.inj checks
      exact ⟨Decidable.not_not.mp fun other => fine (.inl other),
        Option.isSome_iff_ne_none.mpr fun none => fine (.inr (.inl none))⟩

/-- If every call succeeds, the tunnel is established. -/
theorem exists_openStream (libraries : NetLibraries) (peer : Host) (target : Host × Nat)
    (writes : List Write) (host : proxy.host.isSome = true)
    (credentials : (proxyCredentials libraries proxy).isSome = true) :
    ∃ channel after, openStream libraries {} peer target (some proxy) writes =
      (.ok channel, after) := by
  obtain ⟨name, isName⟩ := Option.isSome_iff_exists.mp host
  obtain ⟨text, isText⟩ := Option.isSome_iff_exists.mp credentials
  have stream : ∃ channel, connectProxyStream {} peer (some proxy) writes =
      (.ok channel, writes) := by
    rw [connectProxyStream]
    by_cases secure : proxy.scheme = "https"
    · refine ⟨{ peer, proxyTls := some name }, ?_⟩
      simp [Option.filter, secure, bind_eq, call, heed, done, demand, isName, classifyProxyTlsError,
        pure]
    · exact ⟨{ peer }, by simp [Option.filter, secure, done]⟩
  obtain ⟨channel, opened⟩ := stream
  have headers : (readReply [] ({} : Outcomes).response).1 = .ok ({} : Outcomes).response := by
    decide +kernel
  have status : responseStatus ({} : Outcomes).response = some 200 := by decide +kernel
  have tunnel : (establishTunnel libraries {} channel target proxy writes).1 = .ok () := by
    simp only [establishTunnel, isText, bind_eq, demand, call, heed, done, send, headers, status,
      Option.map_none, if_true]
    rfl
  have tunnelled : establishTunnel libraries {} channel target proxy writes =
      (.ok (), (establishTunnel libraries {} channel target proxy writes).2) := Prod.ext tunnel rfl
  refine ⟨channel, (establishTunnel libraries {} channel target proxy writes).2, ?_⟩
  rw [openStream, bind_eq, opened]
  simp only [tunnelThrough, bind_eq]
  rw [tunnelled]
  rfl

theorem of_usableProxy {target : Url} {explicitProxy : Option ConnectorSecret}
    (usable : usableProxy libraries environment target explicitProxy = some proxy) :
    ∃ raw, proxyText libraries environment target explicitProxy = some raw ∧
      checkedProxy libraries.parseUrl raw = .ok proxy ∧
      (proxyCredentials libraries proxy).isSome = true := by
  rw [usableProxy, Option.filter_eq_some_iff, Option.bind_eq_some_iff] at usable
  obtain ⟨⟨raw, given, passes⟩, credentials⟩ := usable
  refine ⟨raw, given, ?_, credentials⟩
  cases checks : checkedProxy libraries.parseUrl raw with
  | error message => rw [checks] at passes; cases passes
  | ok found => rw [checks] at passes; exact congrArg Except.ok (Option.some.inj passes)

/-- A token that every header accepts. -/
theorem visible_bearer (lawful : libraries.Lawful configuration) :
    libraries.acceptsHeader (bearer "token") = true ∧
      libraries.acceptsHeader ingressSubprotocol = true :=
  ⟨lawful.visible _ (by decide +kernel), lawful.visible _ (by decide +kernel)⟩

variable (lawful : libraries.Lawful configuration)
  (parsed : libraries.parseUrl configuration.relayUrl = some relay)
  (origin : RelayRouteConfiguration.originAccepted relay = true)

include lawful parsed origin

/-- The request is protected. -/
theorem protects_requestChannel {outcomes : Outcomes} {dialled : Dialled}
    {writes after : List Write} {channel : Channel}
    (isHost : relay.host = some host) (loopback : relay.scheme ≠ "https" → host.isLoopback = true)
    (harmless : ProxyHarmless libraries environment configuration relay)
    (ends : dial libraries environment outcomes configuration writes = (.ok dialled, after))
    (request : requestChannel libraries outcomes dialled.route.target dialled.channel =
      some channel) : channel.Protects host := by
  obtain ⟨target, layers⟩ := dial_ends lawful parsed origin ends
  rw [target, requestChannel] at request
  by_cases secure : relay.scheme = "https"
  · -- the request is inside the relay's session
    have wss : (ingressUrl libraries configuration relay).scheme = "wss" := if_pos secure
    left
    rw [if_pos wss] at request
    split at request
    · cases request
    · split at request
      · obtain rfl := Option.some.inj request
        exact isHost
      · cases request
  · have ws : (ingressUrl libraries configuration relay).scheme ≠ "wss" := by
      simp [ingressUrl, secure]
    right
    rw [if_neg ws] at request
    split at request
    · cases request
    · obtain rfl := Option.some.inj request
      split at layers
      next =>
        obtain ⟨peer, isPeer, same⟩ := layers
        obtain rfl : host = peer := Option.some.inj (isHost.symm.trans isPeer)
        rw [same]
        exact ⟨rfl, rfl, loopback secure⟩
      next proxy usable =>
        obtain ⟨plain, machine⟩ := (harmless.resolve_left secure) proxy usable
        obtain ⟨peer, isPeer, same⟩ := layers
        rw [isPeer] at machine
        rw [same]
        exact ⟨rfl, if_neg (by rw [plain]; decide), machine⟩

theorem confidential_of_harmless
    (isHost : relay.host = some host) (loopback : relay.scheme ≠ "https" → host.isLoopback = true)
    (harmless : ProxyHarmless libraries environment configuration relay) :
    CapabilityConfidential libraries environment configuration host := by
  intro outcomes first second written
  obtain ⟨base, plain, same | ⟨dialled, channel, dials, request, sent⟩⟩ :=
    ingressWrites_cases libraries environment outcomes configuration
  · simp only [written, same]
    refine ⟨fun write member carries => ?_, fun _ _ _ => trivial, fun _ _ => trivial⟩
    rw [plain write member] at carries
    cases carries
  · have protects := protects_requestChannel lawful parsed origin isHost loopback harmless dials
      request
    have either : ∀ token, written token = base ∨
        written token = ⟨channel, requestOf dialled.wsUrl token⟩ :: base := by
      intro token
      simp only [written, sent]
      split
      · exact .inr rfl
      · exact .inl rfl
    refine ⟨fun write member carries => ?_, fun reader other remote => ?_, fun sizes accepts => ?_⟩
    · have earlier : write ∈ base → write.channel.Protects host := by
        intro old
        rw [plain write old] at carries
        cases carries
      rcases either first with sends | sends
      · exact earlier (sends ▸ member)
      · rw [sends] at member
        rcases List.mem_cons.mp member with rfl | old
        · exact protects
        · exact earlier old
    · -- the reader sees the part without the token at most
      have common : ∀ token, (∀ write ∈ written token, write.channel.peer = reader →
          reader.isLoopback = false) → readable reader (written token) = readable reader base := by
        intro token remote
        rcases either token with sends | sends
        · rw [sends]
        · have blind := protects.readableBy_eq_false other
            (remote _ (by rw [sends]; exact List.mem_cons_self))
          simp only [sends, readable, List.filter_cons, blind, Bool.false_eq_true, if_false]
      rw [common first fun write member => remote write (List.mem_append_left _ member),
        common second fun write member => remote write (List.mem_append_right _ member)]
    · have size : (bearer first).utf8ByteSize = (bearer second).utf8ByteSize := by
        simp [bearer, sizes]
      simp only [written, sent, accepts]
      split
      · simp only [List.map_cons, requestOf, Content.shape, Option.map_some, size]
      · rfl

/-- If every call succeeds, a relay is reached through every usable proxy. -/
theorem exists_dial
    (usable : usableProxy libraries environment (ingressUrl libraries configuration relay)
      configuration.httpProxy = some proxy) :
    ∃ dialled base, dial libraries environment {} configuration [] = (.ok dialled, base) := by
  have reparsed := lawful.reparses relay parsed origin
  simp only [RelayRouteConfiguration.originAccepted, Bool.and_eq_true, Bool.or_eq_true,
    Bool.not_eq_true'] at origin
  obtain ⟨⟨⟨⟨⟨⟨⟨scheme, host⟩, base⟩, -⟩, -⟩, -⟩, -⟩, -⟩ := origin
  obtain ⟨raw, given, checks, credentials⟩ := of_usableProxy usable
  obtain ⟨proxyScheme, proxyHost⟩ := of_checkedProxy checks
  obtain ⟨target, toTarget⟩ := exists_authority (ingressUrl libraries configuration relay)
    host (by by_cases secure : relay.scheme = "https" <;> simp [ingressUrl, secure])
  obtain ⟨peer, toPeer⟩ := exists_authority proxy proxyHost (by tauto)
  obtain ⟨channel, after, opened⟩ := exists_openStream libraries peer.1 target [] proxyHost
    credentials
  have chosen : chosenProxy libraries environment (ingressUrl libraries configuration relay)
      configuration.httpProxy [] = (.ok (some proxy), []) := by
    rw [chosenProxy, given]
    simp only [checks]
    rfl
  refine ⟨⟨libraries.printUrl (ingressUrl libraries configuration relay),
    ⟨ingressUrl libraries configuration relay, target, some proxy, peer.1⟩, channel⟩, after, ?_⟩
  rw [dial, bind_ends]
  refine ⟨relay, [], demand_ends.mpr ⟨parsed, rfl⟩, ?_⟩
  rw [bind_ends]
  refine ⟨(), [], call_ends.mpr ⟨by simpa using scheme, rfl⟩, ?_⟩
  rw [bind_ends]
  refine ⟨(), [], call_ends.mpr ⟨by simpa using base, rfl⟩, ?_⟩
  rw [bind_ends]
  refine ⟨⟨ingressUrl libraries configuration relay, target, some proxy, peer.1⟩, [], ?_, ?_⟩
  · rw [connectTcp, bind_ends]
    refine ⟨_, [], demand_ends.mpr ⟨reparsed, rfl⟩, bind_ends.mpr ⟨_, [], toTarget [], ?_⟩⟩
    refine bind_ends.mpr ⟨_, [], chosen, bind_ends.mpr ⟨_, [], toPeer [], rfl⟩⟩
  · refine bind_ends.mpr ⟨(), [], rfl, bind_ends.mpr ⟨channel, after, opened, ?_⟩⟩
    exact done_ends.mpr ⟨rfl, rfl⟩

theorem harmless_of_confidential
    (confidential : CapabilityConfidential libraries environment configuration host) :
    ProxyHarmless libraries environment configuration relay := by
  by_cases secure : relay.scheme = "https"
  · exact .inl secure
  right
  intro proxy usable
  obtain ⟨dialled, base, dials⟩ := exists_dial lawful parsed origin usable
  obtain ⟨accepts, protocol⟩ := visible_bearer lawful
  obtain ⟨target, layers⟩ := dial_ends lawful parsed origin dials
  rw [usable] at layers
  obtain ⟨peer, isPeer, channel⟩ := layers
  have request : requestChannel libraries {} dialled.route.target dialled.channel =
      some dialled.channel := by
    rw [target, requestChannel]
    simp [protocol, ingressUrl, secure]
  have sent : ⟨dialled.channel, requestOf dialled.wsUrl "token"⟩ ∈
      ingressWrites libraries environment {} (configuration.withToken "token") := by
    rw [ingressWrites_withToken, bind_eq, dials]
    simp only [writes_upgrade, request, accepts, if_true]
    exact List.mem_cons_self
  rcases (confidential {} "token" "token").1 _ sent rfl with relays | ⟨-, direct, loopback⟩
  · rw [channel] at relays
    cases relays
  · rw [channel] at direct loopback
    have plain : proxy.scheme ≠ "https" := by
      intro https
      simp [https] at direct
    obtain ⟨raw, -, checks, -⟩ := of_usableProxy usable
    refine ⟨(of_checkedProxy checks).1.resolve_right plain, ?_⟩
    rw [isPeer]
    exact loopback

end

/-- The capability of a valid WebSocket ingress is confidential, whatever proxy is set explicitly or
in the environment and however the attempt ends, if and only if the proxy is harmless. -/
theorem capability_confidential_iff {libraries : NetLibraries}
    (environment : String → Option String) (configuration : RelayRouteConfiguration)
    (lawful : libraries.Lawful configuration)
    (valid : configuration.validate libraries.parseUrl = .ok ())
    (websocket : configuration.transport = .webSocket) :
    ∃ relay host, libraries.parseUrl configuration.relayUrl = some relay ∧
      relay.host = some host ∧
      (CapabilityConfidential libraries environment configuration host ↔
        ProxyHarmless libraries environment configuration relay) := by
  obtain ⟨relay, parsed, origin, unexposed⟩ :=
    (RelayRouteConfiguration.validate_eq_ok.mp valid).relay
  have named : relay.host.isSome = true := by
    simp only [RelayRouteConfiguration.originAccepted, Bool.and_eq_true] at origin
    exact origin.1.1.1.1.1.1.2
  obtain ⟨host, isHost⟩ := Option.isSome_iff_exists.mp named
  have loopback : relay.scheme ≠ "https" → host.isLoopback = true := by
    intro plain
    simpa [RelayRouteConfiguration.ingressExposed, websocket, plain, isHost] using unexposed
  exact ⟨relay, host, parsed, isHost, harmless_of_confidential lawful parsed origin,
    confidential_of_harmless lawful parsed origin isHost loopback⟩

/-! ### A relay on this machine -/

/-- A relay on this machine and a proxy elsewhere. Paths and queries are those of names that need
no escapes. -/
def sampleNet : NetLibraries where
  parseUrl text :=
    if text = "http://localhost" then
      some { scheme := "http", host := some (.domain "localhost") }
    else if text = "http://proxy.example" then
      some { scheme := "http", host := some (.domain "proxy.example") }
    else if text = "ws://localhost/v1/sessions/session/audio?bus=bus" then
      some { scheme := "ws", host := some (.domain "localhost"),
             path := "/v1/sessions/session/audio", query := some "bus=bus" }
    else none
  printUrl url := url.scheme ++ "://" ++ (match url.host with
    | some (.domain name) => name
    | _ => "") ++ url.path ++ (url.query.elim "" ("?" ++ ·))
  displayHost
    | .domain name => name
    | _ => ""
  encodeBase64 text := text
  acceptsHeader text := text.toList.all fun character =>
    32 ≤ character.toNat && character.toNat < 127
  extendPath path segments :=
    (if path = "/" then "" else path) ++ String.join (segments.map ("/" ++ ·))
  appendPair query name value := query.elim "" (· ++ "&") ++ name ++ "=" ++ value

/-- An ingress of the relay on this machine. -/
def localIngress (proxy : Option ConnectorSecret) : RelayRouteConfiguration where
  relayUrl := "http://localhost"
  relaySessionId := "session"
  sourceToken := "token"
  busId := "bus"
  publisherGroupId := "session"
  transport := .webSocket
  httpProxy := proxy

theorem lawful_sampleNet (proxy : Option ConnectorSecret) :
    sampleNet.Lawful (localIngress proxy) where
  reparses relay parsed _ := by
    obtain rfl := Option.some.inj parsed
    -- the proxy is no part of the address
    have reads : sampleNet.parseUrl (sampleNet.printUrl (ingressUrl sampleNet (localIngress none)
        { scheme := "http", host := some (.domain "localhost") })) =
          some (ingressUrl sampleNet (localIngress none)
            { scheme := "http", host := some (.domain "localhost") }) := by
      decide +kernel
    exact reads
  visible text visible := by
    simp only [sampleNet, List.all_eq_true, Bool.and_eq_true, decide_eq_true_eq]
    exact visible

theorem capability_confidential_direct :
    CapabilityConfidential sampleNet (fun _ => none) (localIngress none) (.domain "localhost") := by
  obtain ⟨relay, host, parsed, isHost, iff⟩ := capability_confidential_iff (fun _ => none)
    (localIngress none) (lawful_sampleNet none) (by decide +kernel) rfl
  obtain rfl := Option.some.inj parsed
  obtain rfl := Option.some.inj isHost
  have direct : usableProxy sampleNet (fun _ => none) (ingressUrl sampleNet (localIngress none)
      { scheme := "http", host := some (.domain "localhost") }) (localIngress none).httpProxy =
        none := by decide +kernel
  refine iff.mpr (.inr fun proxy usable => ?_)
  rw [direct] at usable
  cases usable

/-- The relay is on this machine and its address has passed `validate`; with an explicit proxy
elsewhere the token is written to the proxy in plain text. -/
theorem proxy_reads_capability :
    sampleNet.Lawful (localIngress (some "http://proxy.example")) ∧
      (localIngress (some "http://proxy.example")).validate sampleNet.parseUrl = .ok () ∧
      (localIngress (some "http://proxy.example")).transport = .webSocket ∧
      readable (.domain "proxy.example") (ingressWrites sampleNet (fun _ => none) {}
        ((localIngress (some "http://proxy.example")).withToken "token")) =
          [.upgrade "ws://localhost/v1/sessions/session/audio?bus=bus" (some "Bearer token")
              (some "pks-opus-v1"),
            .connect "CONNECT localhost:80 HTTP/1.1\r\nHost: localhost:80\r\n\r\n"] ∧
      ¬CapabilityConfidential sampleNet (fun _ => none)
        (localIngress (some "http://proxy.example")) (.domain "localhost") := by
  refine ⟨lawful_sampleNet _, by decide +kernel, rfl, by decide +kernel, fun confidential => ?_⟩
  have same := (confidential {} "token" "other").2.1 (.domain "proxy.example") (by decide)
    fun _ _ _ => by decide
  exact absurd same (by decide +kernel)

end RelayConnector
