/-
This file models `proxy.rs`: how a WebSocket connection to the relay is opened, directly
or through a CONNECT proxy, and what is written on the way.

A connection attempt is a function of the settings and of `Outcomes`, which says how each
call of the operating system, of the TLS library and of the WebSocket library ends. The
bytes it writes are recorded with the layers they are written through: the TCP peer, the
TLS session with the proxy and the TLS session with the relay.
-/

import RelayConnector.Configuration
import RelayConnector.Ingress
import RelayConnector.Text

namespace RelayConnector

open Text

/-! ### Errors and outcomes -/

/-- What the boxed error of a connection attempt holds. -/
inductive DialError where
  | text (message : String)
  | proxy (error : ProxyConnectError)
  /-- An error of the operating system or of a library that is passed on. -/
  | system
  deriving DecidableEq, Repr

/-- Why a step under the deadline fails: the deadline has passed, or a call of the system fails. -/
inductive DeadlineError where
  | exceeded
  | system
  deriving DecidableEq, Repr

def DeadlineError.dial : DeadlineError → DialError
  | .exceeded => .text "Relay connection exceeded its startup deadline"
  | .system => .system

/-- Why `connect_tcp` fails: in `resolve_before_deadline`, at the deadline, or at every address. -/
inductive TcpError where
  | resolutionExceeded
  | noAddresses
  | resolverExited
  | deadline (error : DeadlineError)
  | unreachable
  deriving DecidableEq, Repr

def TcpError.dial : TcpError → DialError
  | .resolutionExceeded => .text "relay name resolution exceeded its startup deadline"
  | .noAddresses => .text "relay name resolved to no addresses"
  | .resolverExited => .text "relay name resolver exited without a result"
  | .deadline error => error.dial
  | .unreachable => .text "Relay connection failed within its startup deadline"

/-- How the TLS handshake with the proxy ends; an error may have a transport cause. -/
inductive ProxyTlsOutcome where
  | established
  | wouldBlock
  | failure (transportCause : Bool)
  deriving DecidableEq, Repr

/-- How the TLS handshake with the relay ends. -/
inductive RelayTlsOutcome where
  | established
  | failure (transportCause : Bool)
  deriving DecidableEq, Repr

/-- How the WebSocket handshake ends once its request is written. -/
inductive UpgradeOutcome where
  | accepted (subprotocol : Option String)
  | http (status : Nat)
  | io
  | interrupted
  | other
  deriving DecidableEq, Repr

/-- How the calls of a connection attempt end. -/
structure Outcomes where
  tcp : Option TcpError := none
  cloned : Bool := true
  watchdog : Option DeadlineError := none
  proxyDeadline : Option DeadlineError := none
  proxyConnector : Bool := true
  proxyTls : ProxyTlsOutcome := .established
  connectDeadline : Option DeadlineError := none
  connectWritten : Bool := true
  /-- The bytes that the proxy answers before its connection fails. -/
  response : List UInt8 := "HTTP/1.1 200 OK\r\n\r\n".toUTF8.toList
  requestDeadline : Option DeadlineError := none
  request : Bool := true
  relayTls : RelayTlsOutcome := .established
  /-- The relay has read the token when it answers. -/
  upgrade : Option String → UpgradeOutcome := fun _ => .accepted (some "pks-opus-v1")
  joined : Bool := true
  inTime : Bool := true

/-- The functions of other libraries. -/
structure NetLibraries where
  /-- `Url::parse`. -/
  parseUrl : String → Option Url
  /-- `Url::as_str`. -/
  printUrl : Url → String
  /-- A host as it stands in a URL. -/
  displayHost : Host → String
  /-- The base64 of a text. -/
  encodeBase64 : String → String
  /-- Whether `HeaderValue::from_str` accepts a text. -/
  acceptsHeader : String → Bool
  /-- Segments appended to a path. -/
  extendPath : String → List String → String
  /-- A pair appended to a query. -/
  appendPair : Option String → String → String → String

/-- Libraries that are not asked for anything. -/
def plainLibraries : NetLibraries where
  parseUrl _ := none
  printUrl _ := ""
  displayHost _ := "relay"
  encodeBase64 text := text
  acceptsHeader _ := true
  extendPath path _ := path
  appendPair query _ _ := query.getD ""

/-! ### What is written, and through which layers -/

/-- The layers of a connection: the TCP peer, and the hosts that the TLS sessions end at. -/
structure Channel where
  peer : Host
  proxyTls : Option Host := none
  relayTls : Option Host := none
  deriving DecidableEq, Repr

inductive Content where
  /-- The CONNECT request. -/
  | connect (request : String)
  /-- The WebSocket handshake with its headers. -/
  | upgrade (url : String) (authorization subprotocol : Option String)
  deriving DecidableEq, Repr

structure Write where
  channel : Channel
  content : Content
  deriving DecidableEq, Repr

/-- A connection attempt: its result and what it has written, newest first. -/
def Connecting (Value : Type) : Type := List Write → Except DialError Value × List Write

namespace Connecting

variable {Value Result : Type}

def done (value : Value) : Connecting Value := fun writes => (.ok value, writes)

def fail (error : DialError) : Connecting Value := fun writes => (.error error, writes)

def andThen (first : Connecting Value) (next : Value → Connecting Result) : Connecting Result :=
  fun writes => match first writes with
    | (.ok value, writes) => next value writes
    | (.error error, writes) => (.error error, writes)

instance : Monad Connecting where
  pure := done
  bind := andThen

/-- A call whose outcome is given. -/
def call (succeeds : Bool) (error : DialError) : Connecting Unit :=
  if succeeds then done () else fail error

/-- A call that may have failed. -/
def heed (failure : Option DialError) : Connecting Unit :=
  match failure with
  | none => done ()
  | some error => fail error

def demand (value : Option Value) (error : DialError) : Connecting Value :=
  match value with
  | some value => done value
  | none => fail error

def send (write : Write) : Connecting Unit := fun writes => (.ok (), write :: writes)

end Connecting

open Connecting

/-! ### The proxy in effect -/

/-- `authority`: the host and port a connection is opened to. -/
def authority (url : Url) : Connecting (Host × Nat) := do
  let host ← demand url.host (.text "WebSocket or proxy URL has no host")
  let port ← demand url.portOrKnownDefault (.text "WebSocket or proxy URL has no port")
  return (host, port)

def isBracket (character : Char) : Bool := character == '[' || character == ']'

/-- The host and the port of an entry of `no_proxy`, if it ends in a port. -/
def entryWithPort (entry : List Char) : Option (List Char × List Char) :=
  if entry.head? = some '[' then
    (splitAtLast "]:".toList entry).map fun (host, port) => (host.dropWhile (· == '['), port)
  else if entry.count ':' = 1 then splitAtLast ":".toList entry
  else none

/-- Whether an entry of `no_proxy` covers a host and port. -/
def entryMatches (host : List Char) (port : Option Nat) (entry : List Char) : Bool :=
  if entry = "*".toList then true
  else
    let (entryHost, entryPort) :=
      match (entryWithPort entry).filter fun (_, port) => (parseUnsigned (2 ^ 16) port).isSome with
      | some (host, port) => (host, parseUnsigned (2 ^ 16) port)
      | none => (entry, none)
    if entryPort.isSome && entryPort != port then false
    else
      let entryHost := trimMatches isBracket (entryHost.dropWhile (· == '.'))
      toAsciiLowercase host == toAsciiLowercase entryHost ||
        ('.' :: toAsciiLowercase entryHost).isSuffixOf (toAsciiLowercase host)

def bypassProxy (libraries : NetLibraries) (target : Url) (exclusions : String) : Bool :=
  match target.host with
  | none => false
  | some host =>
    (((splitOn ',' exclusions.toList).map (trimMatches isWhitespace)).filter (!·.isEmpty)).any
      (entryMatches (trimMatches isBracket (libraries.displayHost host).toList)
        target.portOrKnownDefault)

/-- `environment_proxy`: the first of four variables that is not empty. -/
def environmentProxy (libraries : NetLibraries) (environment : String → Option String)
    (target : Url) : Option String :=
  let exclusion := ((environment "no_proxy").or (environment "NO_PROXY")).getD ""
  if bypassProxy libraries target exclusion then none
  else ["https_proxy", "HTTPS_PROXY", "all_proxy", "ALL_PROXY"].findSome? fun name =>
    (environment name).filter (!·.isEmpty)

/-- The text of the proxy in effect: an explicit one overrides the environment. -/
def proxyText (libraries : NetLibraries) (environment : String → Option String) (target : Url)
    (explicitProxy : Option ConnectorSecret) : Option String :=
  match explicitProxy with
  | some proxy => some proxy
  | none => environmentProxy libraries environment target

/-- The proxy in effect must be an origin. -/
def chosenProxy (libraries : NetLibraries) (environment : String → Option String) (target : Url)
    (explicitProxy : Option ConnectorSecret) : Connecting (Option Url) :=
  match proxyText libraries environment target explicitProxy with
  | none => done none
  | some raw => match checkedProxy libraries.parseUrl raw with
    | .ok proxy => done (some proxy)
    | .error message => fail (.text message)

/-! ### The tunnel -/

/-- `classify_proxy_tls_error`. -/
def classifyProxyTlsError : ProxyTlsOutcome → Option ProxyConnectError
  | .established => none
  | .wouldBlock | .failure true => some .transport
  | .failure false => some .proxyTlsHandshake

/-- `connect_proxy_stream`: TLS to an HTTPS proxy, and nothing to another one. -/
def connectProxyStream (outcomes : Outcomes) (peer : Host) (proxy : Option Url) :
    Connecting Channel :=
  match proxy.filter (·.scheme == "https") with
  | none => done { peer }
  | some proxy => do
    heed (outcomes.proxyDeadline.map DeadlineError.dial)
    let host ← demand proxy.host (.text "Relay proxy URL has no host")
    call outcomes.proxyConnector (.proxy .proxyTlsHandshake)
    match classifyProxyTlsError outcomes.proxyTls with
    | none => return { peer, proxyTls := some host }
    | some error => fail (.proxy error)

/-- `char::to_digit(16)` of a byte. -/
def hexDigit (byte : UInt8) : Option Nat :=
  let code := byte.toNat
  if 48 ≤ code ∧ code ≤ 57 then some (code - 48)
  else if 65 ≤ code ∧ code ≤ 70 then some (code - 55)
  else if 97 ≤ code ∧ code ≤ 102 then some (code - 87)
  else none

/-- `u8::try_from`. -/
def tryU8 (value : Nat) : Option UInt8 :=
  if value < 256 then some (UInt8.ofNat value) else none

/-- The bytes of `decode_userinfo`. -/
def percentDecode : List UInt8 → Option (List UInt8)
  | [] => some []
  | byte :: rest =>
    if byte = 37 then
      match rest with
      | high :: low :: rest => do
        let high ← hexDigit high
        let low ← hexDigit low
        let value ← tryU8 (high * 16 + low)
        let decoded ← percentDecode rest
        return value :: decoded
      | _ => none
    else do
      let decoded ← percentDecode rest
      return byte :: decoded

/-- `decode_userinfo`. -/
def decodeUserinfo (raw : String) : Option String :=
  (percentDecode raw.toUTF8.toList).bind fun bytes => String.fromUTF8? ⟨bytes.toArray⟩

/-- The credentials that the CONNECT request carries; none if they do not decode. -/
def proxyCredentials (libraries : NetLibraries) (proxy : Url) : Option String :=
  if proxy.username != "" || proxy.password.isSome then do
    let username ← decodeUserinfo proxy.username
    let password ← decodeUserinfo (proxy.password.getD "")
    return "Proxy-Authorization: Basic " ++ libraries.encodeBase64 (username ++ ":" ++ password) ++
      "\r\n"
  else some ""

/-- `MAX_PROXY_HEADERS_BYTES`. -/
def maxProxyHeadersBytes : Nat := 16384

/-- The end of a header. -/
abbrev blankLine : List UInt8 := "\r\n\r\n".toUTF8.toList

/-- The bytes up to the blank line, read one by one, and what is left of the stream. -/
def readReply : List UInt8 → List UInt8 → Except DialError (List UInt8) × List UInt8
  | response, stream =>
    if blankLine.isSuffixOf response then (.ok response, stream)
    else if maxProxyHeadersBytes ≤ response.length then
      (.error (.text "Relay proxy headers exceeded 16384 bytes"), stream)
    else match stream with
      | [] => (.error (.text "Relay proxy CONNECT response failed"), [])
      | byte :: stream => readReply (response ++ [byte]) stream

/-- The status of a CONNECT response. -/
def responseStatus (response : List UInt8) : Option Nat := do
  let text ← String.fromUTF8? ⟨response.toArray⟩
  match words isWhitespace (text.toList.takeWhile (· != '\n')) with
  | protocol :: status :: _ =>
    if protocol = "HTTP/1.0".toList ∨ protocol = "HTTP/1.1".toList then
      parseUnsigned (2 ^ 16) status
    else none
  | _ => none

/-- `establish_tunnel`. -/
def establishTunnel (libraries : NetLibraries) (outcomes : Outcomes) (channel : Channel)
    (target : Host × Nat) (proxy : Url) : Connecting Unit := do
  let address := libraries.displayHost target.1 ++ ":" ++ toString target.2
  let credentials ← demand (proxyCredentials libraries proxy)
    (.text "Relay proxy credentials are invalid")
  heed (outcomes.connectDeadline.map DeadlineError.dial)
  send ⟨channel, .connect ("CONNECT " ++ address ++ " HTTP/1.1\r\nHost: " ++ address ++ "\r\n" ++
    credentials ++ "\r\n")⟩
  call outcomes.connectWritten (.text "Relay proxy CONNECT write failed")
  match (readReply [] outcomes.response).1 with
  | .error error => fail error
  | .ok response => match responseStatus response with
    | some status =>
      if 200 ≤ status ∧ status ≤ 299 then done ()
      else fail (.proxy (.connectRejected status))
    | none => fail (.text "Relay proxy CONNECT response is invalid")

/-! ### The connection -/

/-- Without a proxy there is no tunnel. -/
def tunnelThrough (libraries : NetLibraries) (outcomes : Outcomes) (channel : Channel)
    (target : Host × Nat) : Option Url → Connecting Unit
  | some proxy => establishTunnel libraries outcomes channel target proxy
  | none => done ()

/-- The stream that the WebSocket handshake is written to. -/
def openStream (libraries : NetLibraries) (outcomes : Outcomes) (peer : Host)
    (target : Host × Nat) (proxy : Option Url) : Connecting Channel := do
  let channel ← connectProxyStream outcomes peer proxy
  tunnelThrough libraries outcomes channel target proxy
  heed (outcomes.requestDeadline.map DeadlineError.dial)
  call outcomes.request (.text "Relay WebSocket request is invalid")
  return channel

/-- The header of a bearer token. -/
def bearer (token : String) : String := "Bearer " ++ token

/-- `classify_relay_tls_error`. -/
def classifyRelayTlsError : RelayTlsOutcome → Option ProxyConnectError
  | .established => none
  | .failure true => some .transport
  | .failure false => some .relayTlsHandshake

/-- The errors of a WebSocket handshake. -/
def classifyUpgrade : UpgradeOutcome → Except ProxyConnectError (Option String)
  | .accepted subprotocol => .ok subprotocol
  | .http status => .error (if status = 401 ∨ status = 403 then .authorization else .rejected)
  | .io | .interrupted => .error .transport
  | .other => .error .rejected

/-- The request goes through TLS with the relay if the scheme says so. -/
def sendRequest (outcomes : Outcomes) (target : Url) (channel : Channel) (request : Content) :
    Connecting Unit :=
  if target.scheme = "wss" then
    match classifyRelayTlsError outcomes.relayTls with
    | none => send ⟨{ channel with relayTls := target.host }, request⟩
    | some error => fail (.proxy error)
  else send ⟨channel, request⟩

/-- The relay's answer must name the subprotocol that was asked for. -/
def readAnswer (outcomes : Outcomes) (bearerToken subprotocol : Option String) :
    Connecting Unit :=
  match classifyUpgrade (outcomes.upgrade bearerToken) with
  | .error error => fail (.proxy error)
  | .ok answered => call (subprotocol.isNone || answered == subprotocol) (.proxy .rejected)

/-- The handshake of the WebSocket library. -/
def upgrade (libraries : NetLibraries) (outcomes : Outcomes) (wsUrl : String) (target : Url)
    (bearerToken subprotocol : Option String) (channel : Channel) : Connecting Unit := do
  call (bearerToken.all fun token => libraries.acceptsHeader (bearer token))
    (.text "Relay source capability is invalid")
  call (subprotocol.all libraries.acceptsHeader) .system
  sendRequest outcomes target channel (.upgrade wsUrl (bearerToken.map bearer) subprotocol)
  readAnswer outcomes bearerToken subprotocol

/-- When an operation has ended, its watchdog is joined and the deadline is looked at once more. -/
def endInTime {Value : Type} (outcomes : Outcomes) (operation : Connecting Value) :
    Connecting Value := fun writes =>
  (if !outcomes.joined then .error (.text "Relay connection deadline worker failed")
    else if !outcomes.inTime then .error (.text "Relay connection exceeded its startup deadline")
    else (operation writes).1,
    (operation writes).2)

/-- `before_deadline`: a watchdog closes the socket at the deadline. -/
def Connecting.beforeDeadline {Value : Type} (outcomes : Outcomes) (operation : Connecting Value) :
    Connecting Value := do
  heed (outcomes.watchdog.map DeadlineError.dial)
  endInTime outcomes operation

/-- Where a connection goes: its target, the proxy in effect and the TCP peer. -/
structure Route where
  target : Url
  targetAuthority : Host × Nat
  proxy : Option Url
  peer : Host

/-- The TCP connection goes to the proxy if there is one. -/
def peerAuthority (targetAuthority : Host × Nat) : Option Url → Connecting (Host × Nat)
  | some proxy => authority proxy
  | none => done targetAuthority

/-- `connect_with_tls` up to its TCP connection. -/
def connectTcp (libraries : NetLibraries) (environment : String → Option String)
    (outcomes : Outcomes) (wsUrl : String) (explicitProxy : Option ConnectorSecret) :
    Connecting Route := do
  let target ← demand (libraries.parseUrl wsUrl) (.text "Relay WebSocket URL is invalid")
  let targetAuthority ← authority target
  let proxy ← chosenProxy libraries environment target explicitProxy
  let peer ← peerAuthority targetAuthority proxy
  heed (outcomes.tcp.map TcpError.dial)
  call outcomes.cloned .system
  return { target, targetAuthority, proxy, peer := peer.1 }

/-- `connect_with_tls`. -/
def connectWithTls (libraries : NetLibraries) (environment : String → Option String)
    (outcomes : Outcomes) (wsUrl : String) (explicitProxy : Option ConnectorSecret)
    (bearerToken subprotocol : Option String) : Connecting Unit := do
  let route ← connectTcp libraries environment outcomes wsUrl explicitProxy
  Connecting.beforeDeadline outcomes do
    let channel ← openStream libraries outcomes route.peer route.targetAuthority route.proxy
    upgrade libraries outcomes wsUrl route.target bearerToken subprotocol channel

/-! ### The connection of an ingress -/

/-- `SUBPROTOCOL`. -/
def ingressSubprotocol : String := "pks-opus-v1"

/-- The address of an ingress: the relay's origin with the WebSocket scheme, a path for the
session and a query for the bus. -/
def ingressUrl (libraries : NetLibraries) (configuration : RelayRouteConfiguration)
    (relay : Url) : Url :=
  { relay with
    scheme := if relay.scheme = "https" then "wss" else "ws"
    path := libraries.extendPath relay.path
      ["v1", "sessions", configuration.relaySessionId, "audio"]
    query := some (libraries.appendPair relay.query "bus" configuration.busId) }

/-- The first half of `prepare` of `gateway.rs`, up to the connection. -/
def connectIngress (libraries : NetLibraries) (environment : String → Option String)
    (outcomes : Outcomes) (configuration : RelayRouteConfiguration) : Connecting Unit := do
  let relay ← demand (libraries.parseUrl configuration.relayUrl) .system
  -- `set_scheme` stays among the schemes of the web, and `validate` has let two of them pass
  call (relay.scheme == "http" || relay.scheme == "https")
    (.text "Relay ingress scheme is invalid")
  call (!relay.cannotBeABase) (.text "Relay ingress URL cannot contain paths")
  connectWithTls libraries environment outcomes
    (libraries.printUrl (ingressUrl libraries configuration relay)) configuration.httpProxy
    (some configuration.sourceToken) (some ingressSubprotocol)

end RelayConnector
