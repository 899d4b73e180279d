/-
This file is about the addresses that are made from the URL of the relay. The check of a
configuration and the ingress of `rtc/gateway.rs` take the URL apart with the `url` crate, while
`run_handshake` and `probe_local_ip` of `rtc/handshake.rs` edit its text.

The crate follows the URL Standard. Of the many ways to write an origin, the theorem of this
file says which ones come out of the edits as the same host, port and path.
-/

import RelayConnector.Proxy
import RelayConnector.UrlStandard

namespace RelayConnector

open Text UrlStandard

/-! ### The edits of the handshake -/

/-- The address of the signaling connection. -/
def signalingUrl (relayUrl : List Char) : List Char :=
  let wsBase := replaceFirst "http://".toList "ws://".toList
    (replaceFirst "https://".toList "wss://".toList relayUrl)
  wsBase ++ "/v1/signal".toList

/-- The mark of a scheme at the beginning of an address. -/
def mark (scheme : List Char) : List Char := scheme ++ ':' :: '/' :: ['/']

def probeHostPart (relayUrl : List Char) : List Char :=
  trimStartMatches "ws://".toList (trimStartMatches "wss://".toList
    (trimStartMatches "http://".toList (trimStartMatches "https://".toList relayUrl)))

/-- The text that `probe_local_ip` resolves. -/
def probeAddress (relayUrl : List Char) : List Char :=
  let hostAndPort := (probeHostPart relayUrl).takeWhile fun character => character != '/'
  if hostAndPort.contains ':' then hostAndPort else hostAndPort ++ ":80".toList

/-- The host in it: `to_socket_addrs` takes a port behind the last colon. -/
def probeHost (relayUrl : List Char) : Option (List Char) := do
  let (host, port) ← splitAtLast [':'] (probeAddress relayUrl)
  let _ ← parseUnsigned 65536 port
  some host

/-! ### The URL crate -/

/-- What is read of a text and what the crate returns are the same. -/
structure Reads (url : Url) (reading : Reading Host) : Prop where
  scheme : url.scheme.toList = reading.scheme
  host : url.host = some reading.host
  port : url.port = reading.port
  path : url.path.toList = reading.path
  query : url.query.isSome = reading.hasQuery
  fragment : url.fragment.isSome = reading.hasFragment

/-- The crate follows the standard on the addresses of the web, and takes `ws` and `http` for
two hosts. -/
structure Conforms (parse : String → Option Url) (library : Library Host) : Prop where
  lawful : library.Lawful
  hosts : library.readHost "ws".toList ≠ library.readHost "http".toList
  reads : ∀ text url, parse text = some url → (defaultPort url.scheme.toList).isSome = true →
    ∃ reading, library.read text.toList = some reading ∧ Reads url reading
  parses : ∀ text reading, library.read text.toList = some reading →
    ∃ url, parse text = some url ∧ Reads url reading

/-! ### The right endpoints -/

/-- An address leads to the relay over WebSocket. -/
structure LeadsTo (relay url : Url) : Prop where
  scheme : url.scheme = if relay.scheme = "https" then "wss" else "ws"
  host : url.host = relay.host
  port : url.portOrKnownDefault = relay.portOrKnownDefault

/-- The signaling address leads to the relay, as the address of an ingress does, and has its own
path; and the probe asks for the host of the relay, in any case of its letters. -/
structure RightEndpoints (libraries : NetLibraries) (library : Library Host)
    (configuration : RelayRouteConfiguration) (relay : Url) : Prop where
  signal : ∃ signal, libraries.parseUrl
      (String.ofList (signalingUrl configuration.relayUrl.toList)) = some signal ∧
    LeadsTo relay signal ∧ signal.path = "/v1/signal"
  ingress : LeadsTo relay (ingressUrl libraries configuration relay)
  probe : ∃ name host, probeHost configuration.relayUrl.toList = some name ∧
    relay.host = some host ∧ toAsciiLowercase name = library.displayHost host

/-- Without tabs and line breaks, a text does not end with a slash, a backslash or a blank. -/
def EndsOpen (text : List Char) : Prop :=
  ∀ character, (withoutBreaks text).getLast? = some character →
    isSlash character = false ∧ isC0ControlOrSpace character = false

/-- The schemes, in the order in which the probe removes them. -/
def schemes : List (List Char) := ["https".toList, "http".toList, "wss".toList, "ws".toList]

/-- The schemes that the probe removes behind a scheme. -/
def removed (scheme : List Char) : List (List Char) :=
  if scheme = "https".toList then schemes else schemes.tail

/-- A name, with a port behind it or without one. An IPv6 address without a port has colons of its
own. -/
def Written (authority name : List Char) : Prop :=
  authority = name ∧ ':' ∉ name ∨
    ∃ port value, authority = name ++ ':' :: port ∧ parseUnsigned 65536 port = some value

/-- A text in parts: its scheme, other schemes in the order in which the probe removes them, a name
with or without a port, and a path. -/
structure Parts (text scheme : List Char) (others : List (List Char))
    (authority name path : List Char) : Prop where
  known : scheme = "http".toList ∨ scheme = "https".toList
  whole : text = mark scheme ++ (others.flatMap mark ++ (authority ++ path))
  turn : InTurn (removed scheme) others
  written : Written authority name
  rooted : Rooted path

/-- The ways to write an origin that come out right. The host is the name, or another scheme if
there is one, and the name is that host as it is displayed. -/
def WellSpelled (library : Library Host) (relayUrl : List Char) : Prop :=
  ∃ scheme others authority name path host, Parts relayUrl scheme others authority name path ∧
    EndsOpen relayUrl ∧ (scheme = "https".toList → others.head? ≠ some "http".toList) ∧
    library.readHost (others.head?.getD name) = some host ∧
    toAsciiLowercase name = library.displayHost host

/-! ### Texts with a scheme and an authority -/

/-- A text in its parts. -/
structure Framed (text scheme authority path : List Char) : Prop where
  known : scheme = "http".toList ∨ scheme = "https".toList
  whole : text = scheme ++ ':' :: '/' :: '/' :: (authority ++ path)
  good : Authority authority
  rooted : Rooted path

def socketScheme (scheme : List Char) : List Char :=
  if scheme = "https".toList then "wss".toList else "ws".toList

def otherScheme (scheme : List Char) : List Char :=
  if scheme = "https".toList then "http".toList else "https".toList

section Framed

variable {text scheme authority path : List Char}

theorem rooted_dropWhile (text : List Char) :
    Rooted (text.dropWhile fun character => character != '/') := by
  cases rest : text.dropWhile fun character => character != '/' with
  | nil => exact .inl rfl
  | cons first others =>
    have ends := List.head?_dropWhile_not (fun character => character != '/') text
    rw [rest] at ends
    simp only [List.head?_cons, bne_eq_false_iff_eq] at ends
    exact .inr ⟨others, by rw [ends]⟩

theorem takeWhile_slash {authority path : List Char} (fresh : '/' ∉ authority)
    (rooted : Rooted path) :
    (authority ++ path).takeWhile (fun character => character != '/') = authority := by
  have every : ∀ character ∈ authority, (character != '/') = true := by
    intro character member
    rw [bne_iff_ne]
    rintro rfl
    exact fresh member
  rw [List.takeWhile_append_of_pos every]
  rcases rooted with rfl | ⟨rest, rfl⟩ <;> exact List.append_nil _

/-- An occurrence of a scheme in an authority and a path is at the end of the authority, or
begins in the path. -/
theorem occurrence_eq {word ending path : List Char} (wordly : '/' ∉ word) (fresh : '/' ∉ ending)
    (rooted : Rooted path) (begins : mark word <+: ending ++ path) :
    ending = word ++ [':'] := by
  obtain ⟨rest, split⟩ := begins
  have front :
      (word ++ [':'] ++ '/' :: ('/' :: rest)).takeWhile (fun character => character != '/') =
      word ++ [':'] := takeWhile_slash (by simpa using wordly) (.inr ⟨_, rfl⟩)
  rw [← takeWhile_slash fresh rooted, ← split, ← front]
  simp [mark]

/-- The edits change the scheme, and the path only besides. -/
theorem signalingUrl_of_framed (framed : Framed text scheme authority path)
    (apart : ¬otherScheme scheme ++ [':'] <:+ authority) :
    signalingUrl text = socketScheme scheme ++ ':' :: '/' :: '/' :: (authority ++
      (replaceFirst (otherScheme scheme ++ ':' :: '/' :: ['/'])
        (socketScheme (otherScheme scheme) ++ ':' :: '/' :: ['/']) path ++
          "/v1/signal".toList)) := by
  obtain ⟨known, rfl, good, rooted⟩ := framed
  have kept : ∀ word replacement : List Char, '/' ∉ word → ¬word ++ [':'] <:+ authority →
      replaceFirst (word ++ ':' :: '/' :: ['/']) replacement (authority ++ path) =
        authority ++ replaceFirst (word ++ ':' :: '/' :: ['/']) replacement path := by
    intro word replacement wordly apart
    refine replaceFirst_append fun ending _ inside begins => apart ?_
    rw [← occurrence_eq wordly (fun member => good.slash (inside.subset member)) rooted begins]
    exact inside
  have regroup : ∀ start first second third : List Char,
      start ++ ':' :: '/' :: '/' :: (first ++ second) ++ third =
        start ++ ':' :: '/' :: '/' :: (first ++ (second ++ third)) := by simp
  rcases known with rfl | rfl
  · -- the first edit passes the scheme by, the second one hits it
    have passed : ∀ rest : List Char, replaceFirst "https://".toList "wss://".toList
        ("http".toList ++ ':' :: '/' :: '/' :: rest) = "http".toList ++ ':' :: '/' :: '/' ::
          replaceFirst ("https".toList ++ ':' :: '/' :: ['/']) "wss://".toList rest := fun _ => rfl
    have hit : ∀ rest : List Char, replaceFirst "http://".toList "ws://".toList
        ("http".toList ++ ':' :: '/' :: '/' :: rest) =
          "ws".toList ++ ':' :: '/' :: '/' :: rest := fun _ => rfl
    rw [signalingUrl, passed, hit, kept "https".toList "wss://".toList (by decide) apart]
    exact regroup _ _ _ _
  · -- the first edit hits the scheme, the second one passes the new one by
    have hit : ∀ rest : List Char, replaceFirst "https://".toList "wss://".toList
        ("https".toList ++ ':' :: '/' :: '/' :: rest) =
          "wss".toList ++ ':' :: '/' :: '/' :: rest := fun _ => rfl
    have passed : ∀ rest : List Char, replaceFirst "http://".toList "ws://".toList
        ("wss".toList ++ ':' :: '/' :: '/' :: rest) = "wss".toList ++ ':' :: '/' :: '/' ::
          replaceFirst ("http".toList ++ ':' :: '/' :: ['/']) "ws://".toList rest := fun _ => rfl
    rw [signalingUrl, hit, passed, kept "http".toList "ws://".toList (by decide) apart]
    exact regroup _ _ _ _

/-- What replaces one scheme by another in a path leaves it rooted, and does not change where it
leads. -/
theorem replaced_path {word other : List Char}
    (first : Solid word ∧ ∀ character ∈ word, endsAuthority character = false)
    (second : Solid other ∧ ∀ character ∈ other, endsAuthority character = false)
    (rooted : Rooted path) :
    let edited := replaceFirst (word ++ ':' :: '/' :: ['/']) (other ++ ':' :: '/' :: ['/']) path
    Rooted edited ∧
      (resolve (segments (withoutBreaks edited)) = [] ↔
        resolve (segments (withoutBreaks path)) = []) ∧
      ∀ character ∈ edited, endsPath character = true → character ∈ path := by
  intro edited
  have slashless : ∀ {text : List Char}, (∀ character ∈ text, endsAuthority character = false) →
      ∀ character ∈ text, isSlash character = false ∧ endsPath character = false := by
    intro text inside character member
    exact Bool.or_eq_false_iff.mp (inside character member)
  rcases replaceFirst_cases (word ++ ':' :: '/' :: ['/']) (other ++ ':' :: '/' :: ['/']) path with
    same | ⟨before, after, split, changed⟩
  · have unchanged : edited = path := same
    rw [unchanged]
    exact ⟨rooted, Iff.rfl, fun _ member _ => member⟩
  · have replaced : edited = before ++ (other ++ ':' :: '/' :: ['/'] ++ after) := changed
    obtain ⟨inner, rfl⟩ : ∃ inner, before = '/' :: inner := by
      rcases rooted with rfl | ⟨rest, rfl⟩
      · simp at split
      · cases before with
        | cons start inner => exact ⟨inner, by rw [(List.cons.inj split).1]⟩
        | nil =>
          cases word with
          | nil => cases (List.cons.inj split).1
          | cons start inner =>
            have slash := (slashless first.2 start List.mem_cons_self).1
            rw [← (List.cons.inj split).1] at slash
            cases slash
    have cleaned : ∀ text : List Char, Solid text →
        withoutBreaks ('/' :: inner ++ (text ++ ':' :: '/' :: ['/'] ++ after)) =
          '/' :: (withoutBreaks inner ++ text ++ ':' :: '/' :: '/' :: withoutBreaks after) := by
      intro text solid
      have marks : withoutBreaks (':' :: '/' :: ['/']) = ':' :: '/' :: ['/'] := rfl
      have start : withoutBreaks ('/' :: inner) = '/' :: withoutBreaks inner := rfl
      rw [withoutBreaks_append, withoutBreaks_append, withoutBreaks_append, start, marks,
        withoutBreaks_of_solid solid]
      simp
    refine ⟨.inr ⟨_, replaced⟩, ?_, ?_⟩
    · rw [replaced, split, cleaned other second.1, cleaned word first.1]
      exact ⟨resolve_segments_swap (fun character member => (slashless second.2 character member).1)
          fun character member => (slashless first.2 character member).1,
        resolve_segments_swap (fun character member => (slashless first.2 character member).1)
          fun character member => (slashless second.2 character member).1⟩
    · intro character member ends
      rw [replaced] at member
      rw [split]
      simp only [List.mem_append] at member ⊢
      rcases member with inside | (inside | marks) | inside
      · exact .inl inside
      · rw [(slashless second.2 character inside).2] at ends
        cases ends
      · simp only [List.mem_cons, List.not_mem_nil, or_false] at marks
        rcases marks with rfl | rfl | rfl <;> cases ends
      · exact .inr (.inr inside)

theorem defaultPort_of_framed (framed : Framed text scheme authority path) :
    ∃ standard, defaultPort scheme = some standard ∧
      defaultPort (socketScheme scheme) = some standard := by
  rcases framed.known with rfl | rfl
  · exact ⟨80, by decide, by decide⟩
  · exact ⟨443, by decide, by decide⟩

theorem endsOpen_iff (framed : Framed text scheme authority path) :
    EndsOpen text ↔ ∀ character, (withoutBreaks path).getLast? = some character →
      isSlash character = false ∧ isC0ControlOrSpace character = false := by
  obtain ⟨final, last⟩ : ∃ final, authority.getLast? = some final :=
    ⟨_, List.getLast?_eq_some_getLast framed.good.nonempty⟩
  have member : final ∈ authority := List.mem_of_getLast? last
  have whole : (withoutBreaks text).getLast? =
      (withoutBreaks path).getLast?.or (some final) := by
    have split : scheme ++ ':' :: '/' :: '/' :: (authority ++ path) =
        scheme ++ (':' :: '/' :: ['/']) ++ authority ++ path := by simp
    rw [framed.whole, split, withoutBreaks_append, withoutBreaks_append,
      withoutBreaks_of_solid framed.good.solid, List.getLast?_append, List.getLast?_append, last]
    cases (withoutBreaks path).getLast? <;> rfl
  have closed : isSlash final = false ∧ isC0ControlOrSpace final = false :=
    ⟨(Bool.or_eq_false_iff.mp (framed.good.inside _ member).1).1, framed.good.solid _ member⟩
  unfold EndsOpen
  rw [whole]
  cases (withoutBreaks path).getLast? with
  | none =>
    refine iff_of_true (fun character same => ?_) fun character impossible => nomatch impossible
    rw [← Option.some.inj same]
    exact closed
  | some character => exact Iff.rfl

end Framed

/-! ### The relay that is read -/

section Accepted

open RelayRouteConfiguration

variable {parse : String → Option Url} {library : Library Host} {text : String}
  {scheme authority path : List Char} {relay : Url} {standard : Nat}

/-- What the check of the origin asks for. -/
structure Origin (relay : Url) : Prop where
  scheme : relay.scheme = "http" ∨ relay.scheme = "https"
  path : relay.path = "" ∨ relay.path = "/"
  query : relay.query.isSome = false
  fragment : relay.fragment.isSome = false

theorem origin_of_originAccepted (accepted : originAccepted relay = true) : Origin relay := by
  simp only [originAccepted, Bool.and_eq_true, Bool.or_eq_true, beq_iff_eq,
    Option.isNone_iff_eq_none] at accepted
  obtain ⟨⟨⟨⟨⟨⟨⟨scheme, -⟩, -⟩, path⟩, query⟩, fragment⟩, -⟩, -⟩ := accepted
  exact ⟨scheme, path, by rw [query]; rfl, by rw [fragment]; rfl⟩

theorem Origin.known (origin : Origin relay) : (defaultPort relay.scheme.toList).isSome = true := by
  rcases origin.scheme with same | same <;> rw [same] <;> decide

/-- What is known of the parts of a text that was accepted. -/
structure Shown (library : Library Host) (relay : Url) (scheme authority path : List Char)
    (standard : Nat) : Prop where
  scheme : relay.scheme.toList = scheme
  host : library.readHost (splitPort false authority).1 = relay.host ∧ relay.host.isSome = true
  port : readPort standard (splitPort false authority).2 = some relay.port
  root : normalize (segments (withoutBreaks (path.rdropWhile isC0ControlOrSpace))) = [[]]
  whole : ∀ character ∈ path, endsPath character = false

theorem shown_of_framed (conforms : Conforms parse library)
    (framed : Framed text.toList scheme authority path)
    (known : defaultPort scheme = some standard) (parsed : parse text = some relay)
    (origin : Origin relay) : Shown library relay scheme authority path standard := by
  obtain ⟨reading, read, reads⟩ := conforms.reads text relay parsed origin.known
  have evaluated := library.read_address known framed.good framed.rooted
  simp only at evaluated
  rw [framed.whole, evaluated] at read
  obtain ⟨host, hosted, read⟩ := Option.bind_eq_some_iff.mp read
  obtain ⟨port, ported, rfl⟩ := Option.map_eq_some_iff.mp read
  have complete : ∀ character ∈ withoutBreaks (path.rdropWhile isC0ControlOrSpace),
      endsPath character = false :=
    endsPath_of_none (reads.query.symm.trans origin.query)
      (reads.fragment.symm.trans origin.fragment)
  have taken : (withoutBreaks (path.rdropWhile isC0ControlOrSpace)).takeWhile
      (fun character => !endsPath character) =
        withoutBreaks (path.rdropWhile isC0ControlOrSpace) :=
    List.takeWhile_eq_self_iff.mpr fun character member => by
      rw [complete character member]
      rfl
  refine ⟨reads.scheme, ⟨hosted.trans reads.host.symm, by rw [reads.host]; rfl⟩, ?_, ?_, ?_⟩
  · rw [ported, reads.port]
  · have root := reads.path
    simp only [taken] at root
    rcases origin.path with same | same
    · rw [same] at root
      cases root
    · rw [same] at root
      exact Library.normalize_of_pathText conforms.lawful root.symm
  · intro character member
    refine Bool.eq_false_iff.mpr fun ends => ?_
    have solid : isC0ControlOrSpace character = false := by
      simp only [endsPath, Bool.or_eq_true, beq_iff_eq] at ends
      rcases ends with rfl | rfl <;> decide
    rw [complete character (mem_withoutBreaks_rdropWhile member solid)] at ends
    cases ends

theorem signalNames_plainly : Plainly ["v1".toList, "signal".toList] :=
  ⟨by decide, by decide, by decide⟩

theorem scheme_words (known : scheme = "http".toList ∨ scheme = "https".toList) :
    (Solid (otherScheme scheme) ∧
      ∀ character ∈ otherScheme scheme, endsAuthority character = false) ∧
    Solid (socketScheme (otherScheme scheme)) ∧
      ∀ character ∈ socketScheme (otherScheme scheme), endsAuthority character = false := by
  unfold Solid
  rcases known with rfl | rfl <;> decide

/-- The signaling address of a text in its parts is always read; its path is the right one
exactly when the text does not end with a slash or a blank. -/
theorem read_signalingUrl (conforms : Conforms parse library)
    (framed : Framed text.toList scheme authority path)
    (apart : ¬otherScheme scheme ++ [':'] <:+ authority)
    (known : defaultPort (socketScheme scheme) = some standard)
    (shown : Shown library relay scheme authority path standard) :
    ∃ reading, library.read (signalingUrl text.toList) = some reading ∧
      reading.scheme = socketScheme scheme ∧ some reading.host = relay.host ∧
      reading.port = relay.port ∧
      (reading.path = "/v1/signal".toList ↔ EndsOpen text.toList) := by
  obtain ⟨host, isHost⟩ := Option.isSome_iff_exists.mp shown.host.2
  obtain ⟨rooted, leads, marks⟩ :=
    replaced_path (scheme_words framed.known).1 (scheme_words framed.known).2 framed.rooted
  rw [signalingUrl_of_framed framed apart]
  generalize replaceFirst _ _ path = edited at rooted leads marks ⊢
  have extended : Rooted (edited ++ "/v1/signal".toList) := by
    rcases rooted with rfl | ⟨rest, rfl⟩
    · exact .inr ⟨_, rfl⟩
    · exact .inr ⟨_, rfl⟩
  have visible : withoutBreaks ((edited ++ "/v1/signal".toList).rdropWhile isC0ControlOrSpace) =
      withoutBreaks edited ++ below ["v1".toList, "signal".toList] := by
    have last : (edited ++ "/v1/signal".toList).getLast? = some 'l' := by
      rw [List.getLast?_append]
      rfl
    have whole := rdropWhile_append_of_last last (rfl : isC0ControlOrSpace 'l' = false) []
    rw [List.rdropWhile_nil, List.append_nil] at whole
    rw [whole, withoutBreaks_append]
    rfl
  have complete : ∀ character ∈ withoutBreaks edited ++ below ["v1".toList, "signal".toList],
      (!endsPath character) = true := by
    intro character member
    rw [Bool.not_eq_true']
    rcases List.mem_append.mp member with inside | name
    · refine Bool.eq_false_iff.mpr fun ends => ?_
      rw [shown.whole character (marks character (List.mem_filter.mp inside).1 ends)] at ends
      cases ends
    · have names : ∀ character ∈ below ["v1".toList, "signal".toList],
          endsPath character = false := by decide
      exact names character name
  have evaluated := library.read_address known framed.good extended
  simp only [visible] at evaluated
  rw [evaluated, shown.host.1, isHost, shown.port, List.takeWhile_eq_self_iff.mpr complete,
    List.dropWhile_eq_nil_iff.mpr complete]
  refine ⟨_, rfl, rfl, rfl, rfl, ?_⟩
  change library.pathText _ = below ["v1".toList, "signal".toList] ↔ _
  rw [Library.pathText_below_iff conforms.lawful signalNames_plainly rooted.withoutBreaks, leads,
    endsOpen_iff framed]
  constructor
  · exact last_of_resolve_nil framed.rooted.withoutBreaks
  · intro ends
    have root := shown.root
    rw [withoutBreaks_rdropWhile fun character last => (ends character last).2] at root
    exact resolve_nil_of_normalize framed.rooted.withoutBreaks root
      fun character last => (ends character last).1

theorem portOrKnownDefault_eq (url : Url) :
    url.portOrKnownDefault = url.port.or (defaultPort url.scheme.toList) := by
  simp only [Url.portOrKnownDefault, defaultPort, String.toList_inj]

theorem toList_socketScheme (relay : Url) :
    (if relay.scheme = "https" then "wss" else "ws").toList = socketScheme relay.scheme.toList := by
  simp only [socketScheme, String.toList_inj]
  split <;> rfl

/-- The signaling address is right exactly when the text of the relay's URL does not end with a
slash or a blank. -/
theorem signal_iff (conforms : Conforms parse library)
    (framed : Framed text.toList scheme authority path)
    (apart : ¬otherScheme scheme ++ [':'] <:+ authority) (parsed : parse text = some relay)
    (origin : Origin relay) :
    (∃ signal, parse (String.ofList (signalingUrl text.toList)) = some signal ∧
      LeadsTo relay signal ∧ signal.path = "/v1/signal") ↔ EndsOpen text.toList := by
  obtain ⟨standard, known, socket⟩ := defaultPort_of_framed framed
  have shown := shown_of_framed conforms framed known parsed origin
  obtain ⟨reading, read, isScheme, isHost, isPort, isPath⟩ :=
    read_signalingUrl conforms framed apart socket shown
  obtain ⟨signal, found, reads⟩ := conforms.parses
    (String.ofList (signalingUrl text.toList)) reading (by rw [String.toList_ofList]; exact read)
  rw [← isPath, ← reads.path]
  constructor
  · rintro ⟨other, isOther, -, path⟩
    rw [Option.some.inj (found.symm.trans isOther), path]
  · intro path
    refine ⟨signal, found, ⟨?_, reads.host.trans isHost, ?_⟩, String.toList_inj.mp path⟩
    · rw [← String.toList_inj, reads.scheme, isScheme, toList_socketScheme, shown.scheme]
    · rw [portOrKnownDefault_eq, portOrKnownDefault_eq, reads.port, isPort, reads.scheme, isScheme,
        shown.scheme, socket, known]

end Accepted

/-! ### The host of the probe -/

section Probe

variable {library : Library Host} {text scheme authority name path : List Char}
  {others : List (List Char)} {host : Host} {standard : Nat}

/-- The edits of the probe behind a scheme. -/
theorem probeHostPart_mark (known : scheme = "http".toList ∨ scheme = "https".toList)
    (rest : List Char) :
    probeHostPart (mark scheme ++ rest) = trimInTurn mark (removed scheme) rest := by
  rcases known with rfl | rfl
  · have passed : trimStartMatches "https://".toList (mark "http".toList ++ rest) =
        mark "http".toList ++ rest :=
      trimStartMatches_eq_self fun begins => by
        rw [← List.isPrefixOf_iff_prefix] at begins
        cases begins
    rw [probeHostPart, passed]
    exact congrArg (fun text => trimStartMatches "ws://".toList
      (trimStartMatches "wss://".toList text)) (trimStartMatches_append (by decide) rest)
  · exact congrArg (trimInTurn mark schemes.tail) (trimStartMatches_append (by decide) rest)

theorem schemes_slashless : ∀ word ∈ schemes, '/' ∉ word := by decide

theorem removed_subset (scheme : List Char) : removed scheme ⊆ schemes := by
  unfold removed
  split
  · exact List.Subset.refl _
  · exact (List.tail_sublist _).subset

/-- No scheme begins another. -/
theorem removed_apart (scheme : List Char) : (removed scheme).Pairwise fun first second =>
    ∀ rest, ¬mark first <+: mark second ++ rest := by
  have distinct : (removed scheme).Nodup := by
    unfold removed
    split <;> decide
  refine distinct.imp_of_mem fun {first second} one two differs rest begins => differs ?_
  have split : mark second ++ rest = (second ++ [':']) ++ '/' :: '/' :: rest := by simp [mark]
  rw [split] at begins
  have slashless : ∀ word ∈ removed scheme, '/' ∉ word :=
    fun word member => schemes_slashless word (removed_subset scheme member)
  have same := occurrence_eq (slashless first one) (by simpa using slashless second two)
    (.inr ⟨_, rfl⟩) begins
  exact (List.append_cancel_right same).symm

section HostAndPort

variable (left : probeHostPart text = authority ++ path) (fresh : '/' ∉ authority)
  (rooted : Rooted path)

include left fresh rooted

/-- Without a port the probe adds one. -/
theorem probeHost_of_fresh (bare : ':' ∉ authority) : probeHost text = some authority := by
  have whole : probeAddress text = authority ++ ':' :: "80".toList := by
    rw [probeAddress, left, takeWhile_slash fresh rooted, if_neg (by simpa using bare)]
    rfl
  rw [probeHost, whole, splitAtLast_append authority (by decide)]
  rfl

theorem probeHost_of_port {port : List Char} (split : authority = name ++ ':' :: port)
    (last : ':' ∉ port) :
    probeHost text = (parseUnsigned 65536 port).map fun _ => name := by
  have whole : probeAddress text = name ++ ':' :: port := by
    rw [probeAddress, left, takeWhile_slash fresh rooted, if_pos (by simp [split]), split]
  rw [probeHost, whole, splitAtLast_append name last]
  simp only [Option.bind_eq_bind, Option.bind_some]
  cases parseUnsigned 65536 port <;> rfl

theorem probeHost_eq_some : probeHost text = some name ↔ Written authority name := by
  constructor
  · intro probed
    by_cases colon : ':' ∈ authority
    · cases split : splitAtLast [':'] authority with
      | none => exact absurd colon (splitAtLast_eq_none.mp split)
      | some parts =>
        obtain ⟨whole, last⟩ := splitAtLast_eq_some split
        rw [probeHost_of_port left fresh rooted whole last] at probed
        obtain ⟨value, parsed, rfl⟩ := Option.map_eq_some_iff.mp probed
        exact .inr ⟨parts.2, value, whole, parsed⟩
    · rw [probeHost_of_fresh left fresh rooted colon] at probed
      cases probed
      exact .inl ⟨rfl, colon⟩
  · rintro (⟨rfl, bare⟩ | ⟨port, value, whole, parsed⟩)
    · exact probeHost_of_fresh left fresh rooted bare
    · have last : ':' ∉ port := fun member =>
        absurd ((digits_of_parseUnsigned parsed).2 ':' member) (by decide)
      rw [probeHost_of_port left fresh rooted whole last, parsed]
      rfl

end HostAndPort

/-- A port that is read is what stands behind the last colon, unless the host ends with a
bracket. -/
theorem splitPort_of_last (lawful : library.Lawful) {port : List Char}
    (split : authority = name ++ ':' :: port) (last : ':' ∉ port)
    (host : (library.readHost (splitPort false authority).1).isSome = true)
    (read : (readPort standard (splitPort false authority).2).isSome = true)
    (ends : authority.getLast? ≠ some ']') : splitPort false authority = (name, some port) := by
  have whole := splitPort_eq false authority
  obtain ⟨found, isFound⟩ := Option.isSome_iff_exists.mp host
  cases digits : (splitPort false authority).2 with
  | none =>
    rw [digits, Option.elim_none, List.append_nil] at whole
    rw [← whole] at isFound
    exact absurd (lawful.colon authority found isFound (by rw [split]; simp)).2 ends
  | some behind =>
    rw [digits, Option.elim_some] at whole
    rw [digits] at read
    have later : ':' ∉ behind := fun member =>
      absurd ((digits_of_readPort read).1 ':' member) (by decide)
    have same := (splitAtLast_append name last).symm.trans
      ((congrArg (splitAtLast [':']) (split.symm.trans whole)).trans (splitAtLast_append _ later))
    obtain ⟨first, second⟩ := Prod.mk.inj (Option.some.inj same)
    rw [first, second, ← digits]

/-- A sign or a digit may stand in an authority. -/
theorem inside_of_number {character : Char} (number : character = '+' ∨ character.isDigit = true) :
    isC0ControlOrSpace character = false ∧ endsAuthority character = false ∧ character ≠ '@' ∧
      character ≠ ']' ∧ character ≠ ':' := by
  rcases number with rfl | digit
  · decide
  · have solid : isC0ControlOrSpace character = false := by
      have zero : '0'.val.toNat ≤ character.val.toNat :=
        UInt32.le_iff_toNat_le.mp (of_decide_eq_true (Bool.and_eq_true_iff.mp digit).1)
      have code : '0'.val.toNat = 48 := rfl
      exact decide_eq_false (by change ¬character.val.toNat ≤ 32; omega)
    have other : ∀ mark : Char, mark.isDigit = false → character ≠ mark := by
      rintro mark none rfl
      rw [none] at digit
      cases digit
    refine ⟨solid, ?_, other '@' rfl, other ']' rfl, other ':' rfl⟩
    simp [endsAuthority, isSlash, endsPath, other '/' rfl, other '\\' rfl, other '?' rfl,
      other '#' rfl]

theorem getLast?_of_number {port : List Char} (some : port ≠ [])
    (number : ∀ character ∈ port, character = '+' ∨ character.isDigit = true) :
    (name ++ ':' :: port).getLast? ≠ Option.some ']' ∧
      (name ++ ':' :: port).getLast? ≠ Option.some ':' := by
  have last := (inside_of_number (number _ (List.getLast_mem some))).2.2.2
  rw [List.getLast?_append, List.getLast?_cons, List.getLast?_eq_some_getLast some]
  exact ⟨fun bracket => last.1 (Option.some.inj bracket),
    fun colon => last.2 (Option.some.inj colon)⟩

theorem Written.getLast? (written : Written authority name) : authority.getLast? ≠ some ':' := by
  rcases written with ⟨rfl, bare⟩ | ⟨port, value, rfl, parsed⟩
  · exact fun last => bare (List.mem_of_getLast? last)
  · obtain ⟨some, number⟩ := digits_of_parseUnsigned parsed
    exact (getLast?_of_number some number).2

/-- What is written with a host is an authority. -/
theorem Written.good (written : Written authority name) (lawful : library.Lawful)
    (read : library.readHost name = some host) : Authority authority := by
  have some : name ≠ [] := by
    rintro rfl
    rw [lawful.empty] at read
    cases read
  have inside : ∀ character ∈ authority, isC0ControlOrSpace character = false ∧
      endsAuthority character = false ∧ character ≠ '@' := by
    intro character member
    rcases written with ⟨rfl, -⟩ | ⟨port, value, rfl, parsed⟩
    · exact lawful.allowed _ host read character member
    · rcases List.mem_append.mp member with front | behind
      · exact lawful.allowed name host read character front
      · rcases List.mem_cons.mp behind with rfl | digit
        · decide
        · obtain ⟨solid, inner, other, -⟩ :=
            inside_of_number ((digits_of_parseUnsigned parsed).2 character digit)
          exact ⟨solid, inner, other⟩
  refine ⟨?_, fun character member => (inside character member).1,
    fun character member => (inside character member).2⟩
  rcases written with ⟨rfl, -⟩ | ⟨port, value, rfl, -⟩
  · exact some
  · simp

/-- The host of what is written is the name. -/
theorem Written.splitPort (written : Written authority name) (lawful : library.Lawful)
    (host : (library.readHost (splitPort false authority).1).isSome = true)
    (port : (readPort standard (splitPort false authority).2).isSome = true) :
    (splitPort false authority).1 = name := by
  rcases written with ⟨rfl, bare⟩ | ⟨digits, value, whole, parsed⟩
  · rw [splitPort_of_fresh bare]
  · obtain ⟨some, number⟩ := digits_of_parseUnsigned parsed
    have last : ':' ∉ digits := fun member => absurd (number ':' member) (by decide)
    rw [splitPort_of_last lawful whole last host port (whole ▸ (getLast?_of_number some number).1)]

/-- The parts of a text are what the probe sees in it. -/
theorem exists_parts (known : scheme = "http".toList ∨ scheme = "https".toList)
    {rest : List Char} (whole : text = mark scheme ++ rest)
    (probed : probeHost text = some name) :
    ∃ others authority path, Parts text scheme others authority name path := by
  obtain ⟨others, turn, split⟩ := exists_trimInTurn mark (removed scheme) rest
  have left := probeHostPart_mark known rest
  rw [← whole] at left
  generalize trimInTurn mark (removed scheme) rest = remaining at split left
  have parts := List.takeWhile_append_dropWhile (p := fun character => character != '/')
    (l := remaining)
  have slashless : '/' ∉ remaining.takeWhile fun character => character != '/' :=
    fun member => absurd (List.mem_takeWhile_imp member) (by decide)
  have rooted := rooted_dropWhile remaining
  refine ⟨others, _, _, known, ?_, turn,
    (probeHost_eq_some (left.trans parts.symm) slashless rooted).mp probed, rooted⟩
  rw [parts, ← split, whole]

theorem Parts.probeHost (parts : Parts text scheme others authority name path)
    (slashless : '/' ∉ authority) : probeHost text = some name := by
  refine (probeHost_eq_some ?_ slashless parts.rooted).mpr parts.written
  rw [parts.whole, probeHostPart_mark parts.known]
  refine trimInTurn_append (removed_apart scheme) (by simp [mark]) parts.turn ?_
  intro word member begins
  have ends := occurrence_eq (schemes_slashless word (removed_subset scheme member)) slashless
    parts.rooted begins
  exact parts.written.getLast? (by rw [ends, List.getLast?_concat])

end Probe

end RelayConnector
