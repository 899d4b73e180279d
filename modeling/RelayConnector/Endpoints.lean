/-
This file proves in which spellings the URL of a relay comes out of the edits of `run_handshake`
and `probe_local_ip` as the same host, port and path, that is, as what the check of the
configuration and the ingress read in it.

A spelling without a scheme at its beginning is taken for a host with a port by the probe, and
the edits leave its scheme. Behind a scheme, the probe and the edits agree with the standard as
long as the host is written as it is displayed; a path must not end with a slash.
-/

import Mathlib
import RelayConnector.Origins

namespace RelayConnector

open Text UrlStandard

/-! ### Texts without a scheme of their own -/

theorem slash_notMem_takeWhile (text : List Char) :
    '/' ∉ text.takeWhile fun character => character != '/' := by
  intro member
  exact absurd (List.mem_takeWhile_imp member) (by decide)

section Unmarked

variable {library : Library Host} {text : List Char}

/-- The scheme is all of the web. -/
theorem fresh_of_scheme {before : List Char} {mark : Char}
    (scheme : toAsciiLowercase (withoutBreaks (before.dropWhile isC0ControlOrSpace)) =
        "http".toList ∨
      toAsciiLowercase (withoutBreaks (before.dropWhile isC0ControlOrSpace)) = "https".toList)
    (solid : isC0ControlOrSpace mark = false)
    (foreign : mark.toLower ∉ "https".toList) : mark ∉ before := by
  intro member
  have inside : mark.toLower ∈
      toAsciiLowercase (withoutBreaks (before.dropWhile isC0ControlOrSpace)) :=
    List.mem_map_of_mem (mem_withoutBreaks_dropWhile member solid)
  rcases scheme with same | same
  · rw [same] at inside
    have smaller : ∀ character ∈ "http".toList, character ∈ "https".toList := by decide
    exact foreign (smaller _ inside)
  · rw [same] at inside
    exact foreign inside

/-- Where the text begins with no scheme, the probe takes the scheme for the host, and the digits
of a port stand behind it. -/
theorem port_of_unmarked (lawful : library.Lawful) {before after name : List Char} {host : Host}
    (unmarked : ∀ word ∈ schemes, ¬mark word <+: before ++ ':' :: after)
    (fresh : ':' ∉ before)
    (scheme : toAsciiLowercase (withoutBreaks (before.dropWhile isC0ControlOrSpace)) =
        "http".toList ∨
      toAsciiLowercase (withoutBreaks (before.dropWhile isC0ControlOrSpace)) = "https".toList)
    (probed : probeHost (before ++ ':' :: after) = some name)
    (read : library.readHost name = some host) :
    ∃ digit rest, after = digit :: rest ∧ (digit = '+' ∨ digit.isDigit = true) := by
  have slash : '/' ∉ before := fresh_of_scheme scheme rfl (by decide)
  have bracket : '[' ∉ before := fresh_of_scheme scheme rfl (by decide)
  have some : before ≠ [] := by
    rintro rfl
    rcases scheme with same | same <;> cases same
  have whole : probeHostPart (before ++ ':' :: after) =
      (before ++ ':' :: after.takeWhile (fun character => character != '/')) ++
        after.dropWhile (fun character => character != '/') := by
    rw [List.append_assoc, List.cons_append, List.takeWhile_append_dropWhile]
    exact trimInTurn_eq_self unmarked
  have outside : '/' ∉ before ++ ':' :: after.takeWhile (fun character => character != '/') := by
    simpa [slash] using slash_notMem_takeWhile after
  obtain ⟨⟨front, port⟩, split⟩ : ∃ parts, splitAtLast [':']
      (before ++ ':' :: after.takeWhile (fun character => character != '/')) = Option.some parts :=
    Option.ne_none_iff_exists'.mp fun none => splitAtLast_eq_none.mp none (by simp)
  obtain ⟨parts, last⟩ := splitAtLast_eq_some split
  rw [probeHost_of_port whole outside (rooted_dropWhile after) parts last] at probed
  obtain ⟨value, parsed, rfl⟩ := Option.map_eq_some_iff.mp probed
  have bare : ':' ∉ front := by
    intro colon
    have begins := (lawful.colon front host read colon).1
    have head : (before ++ ':' :: after.takeWhile (fun character => character != '/')).head? =
        Option.some '[' := by
      rw [parts, List.head?_append, begins]
      rfl
    rw [List.head?_append_of_ne_nil _ some] at head
    exact bracket (List.mem_of_head? head)
  have same := (splitOnce_append fresh _).symm.trans
    ((congrArg (splitOnce ':') parts).trans (splitOnce_append bare port))
  obtain ⟨-, taken⟩ := Prod.mk.inj (Option.some.inj same)
  obtain ⟨nonempty, number⟩ := digits_of_parseUnsigned parsed
  cases after with
  | nil => exact absurd taken.symm nonempty
  | cons digit rest =>
    refine ⟨digit, rest, rfl, number digit ?_⟩
    rw [← taken, List.takeWhile_cons]
    split
    · exact List.mem_cons_self ..
    next slash =>
      rw [List.takeWhile_cons, if_neg slash] at taken
      exact absurd taken.symm nonempty

/-- A digit or a sign is in neither of the schemes. -/
theorem foreign_of_number {digit : Char} (number : digit = '+' ∨ digit.isDigit = true) :
    digit ∉ "https://".toList ∧ digit ∉ "http://".toList ∧ digit ≠ '/' := by
  have plain : ∀ character ∈ '/' :: "https://".toList,
      character ≠ '+' ∧ character.isDigit = false := by
    decide
  have outside : digit ∉ '/' :: "https://".toList := by
    intro member
    obtain ⟨other, none⟩ := plain digit member
    rcases number with same | isDigit
    · exact other same
    · rw [isDigit] at none
      cases none
  have smaller : ∀ character ∈ "http://".toList, character ∈ "https://".toList := by decide
  exact ⟨fun member => outside (List.mem_cons_of_mem _ member),
    fun member => outside (List.mem_cons_of_mem _ (smaller _ member)),
    fun same => outside (same ▸ List.mem_cons_self)⟩

/-- The edits pass by a scheme with digits behind its colon. -/
theorem signalingUrl_of_number {before rest : List Char} {digit : Char} (slash : '/' ∉ before)
    (number : digit = '+' ∨ digit.isDigit = true) :
    ∃ edited, signalingUrl (before ++ ':' :: digit :: rest) =
      before ++ ':' :: digit :: edited := by
  obtain ⟨https, http, other⟩ := foreign_of_number number
  have regroup : ∀ ending : List Char,
      before ++ ':' :: digit :: ending = before ++ [':', digit] ++ ending := by simp
  have last : (before ++ [':', digit]).getLast? = some digit := by
    rw [List.getLast?_append]
    rfl
  have fresh : '/' ∉ before ++ [':', digit] := by simp [slash, other.symm]
  rw [signalingUrl, regroup, replaceFirst_append_of_foreign last https (by decide) fresh,
    replaceFirst_append_of_foreign last http (by decide) fresh, List.append_assoc, ← regroup]
  exact ⟨_, rfl⟩

end Unmarked

section Endpoints

variable {parse : String → Option Url} {library : Library Host} {text : String}
  {relay signal : Url}

theorem LeadsTo.known (leads : LeadsTo relay signal) :
    (defaultPort signal.scheme.toList).isSome = true := by
  rw [leads.scheme]
  split <;> decide

/-- A text that begins with no scheme does not come out right. -/
theorem not_unmarked (conforms : Conforms parse library) (parsed : parse text = some relay)
    (origin : Origin relay)
    (signaled : parse (String.ofList (signalingUrl text.toList)) = some signal)
    (leads : LeadsTo relay signal) {name : List Char} {host : Host}
    (probed : probeHost text.toList = some name) (read : library.readHost name = some host) :
    ∃ word ∈ schemes, mark word <+: text.toList := by
  by_contra none
  have unmarked : ∀ word ∈ schemes, ¬mark word <+: text.toList :=
    fun word member begins => none ⟨word, member, begins⟩
  obtain ⟨reading, isRead, reads⟩ := conforms.reads text relay parsed origin.known
  obtain ⟨⟨before, after⟩, split⟩ : ∃ parts, splitOnce ':' text.toList = some parts :=
    Option.ne_none_iff_exists'.mp fun none =>
      splitOnce_eq_none.mp none (Library.colon_of_read isRead)
  obtain ⟨whole, fresh⟩ := splitOnce_eq_some split
  rw [whole] at isRead unmarked probed
  have scheme : relay.scheme.toList = _ :=
    reads.scheme.trans (Library.scheme_of_read fresh isRead)
  have web : relay.scheme.toList = "http".toList ∨ relay.scheme.toList = "https".toList := by
    rcases origin.scheme with same | same
    · exact .inl (by rw [same])
    · exact .inr (by rw [same])
  rw [scheme] at web
  obtain ⟨digit, rest, rfl, number⟩ :=
    port_of_unmarked conforms.lawful unmarked fresh web probed read
  obtain ⟨edited, kept⟩ := signalingUrl_of_number (fresh_of_scheme web rfl (by decide)) number
  obtain ⟨address, addressed, shows⟩ := conforms.reads _ signal signaled leads.known
  rw [String.toList_ofList, whole, kept] at addressed
  have same : signal.scheme = relay.scheme := by
    rw [← String.toList_inj, scheme, shows.scheme, Library.scheme_of_read fresh addressed]
  have changed := leads.scheme
  rw [same] at changed
  rcases origin.scheme with http | https
  · rw [http] at changed
    exact absurd changed (by decide)
  · rw [https] at changed
    exact absurd changed (by decide)

/-- The scheme that a text begins with is the one that is read. -/
theorem scheme_of_marked (conforms : Conforms parse library) (parsed : parse text = some relay)
    (origin : Origin relay) {word rest : List Char} (member : word ∈ schemes)
    (whole : text.toList = word ++ ':' :: rest) :
    word = "http".toList ∨ word = "https".toList := by
  obtain ⟨reading, read, reads⟩ := conforms.reads text relay parsed origin.known
  have plain : ∀ word ∈ schemes, ':' ∉ word ∧
      toAsciiLowercase (withoutBreaks (word.dropWhile isC0ControlOrSpace)) = word := by
    decide
  obtain ⟨fresh, lower⟩ := plain word member
  rw [whole] at read
  have same : relay.scheme.toList = word :=
    (reads.scheme.trans (Library.scheme_of_read fresh read)).trans lower
  rcases origin.scheme with http | https
  · exact .inl (by rw [← same, http])
  · exact .inr (by rw [← same, https])

/-- The ingress is built from the parts of the URL. -/
theorem ingress_leadsTo (libraries : NetLibraries) (configuration : RelayRouteConfiguration)
    (origin : Origin relay) : LeadsTo relay (ingressUrl libraries configuration relay) := by
  refine ⟨rfl, rfl, ?_⟩
  rw [portOrKnownDefault_eq, portOrKnownDefault_eq]
  refine congrArg (relay.port.or ·) ?_
  show defaultPort (if relay.scheme = "https" then "wss" else "ws").toList = _
  rcases origin.scheme with same | same <;> rw [same] <;> decide

/-- A scheme with an empty port is an authority. -/
theorem scheme_authority {word : List Char} (member : word ∈ schemes) :
    Authority (word ++ [':']) ∧ splitPort false (word ++ [':']) = (word, some []) := by
  have plain : ∀ word ∈ schemes, (word ++ [':'] ≠ [] ∧
      (∀ character ∈ word ++ [':'], isC0ControlOrSpace character = false) ∧
      ∀ character ∈ word ++ [':'], endsAuthority character = false ∧ character ≠ '@') ∧
      splitPort false (word ++ [':']) = (word, some []) := by
    decide
  obtain ⟨⟨nonempty, solid, inside⟩, bare⟩ := plain word member
  exact ⟨⟨nonempty, solid, inside⟩, bare⟩

theorem host_of_address (conforms : Conforms parse library) {address : String} {url : Url}
    {scheme authority path : List Char} {standard : Nat}
    (known : defaultPort scheme = some standard) (good : Authority authority)
    (rooted : Rooted path)
    (whole : address.toList = scheme ++ ':' :: '/' :: '/' :: (authority ++ path))
    (parsed : parse address = some url)
    (web : (defaultPort url.scheme.toList).isSome = true) :
    library.readHost (splitPort false authority).1 = url.host := by
  obtain ⟨reading, read, reads⟩ := conforms.reads address url parsed web
  have evaluated := library.read_address known good rooted
  simp only at evaluated
  rw [whole, evaluated] at read
  obtain ⟨host, hosted, read⟩ := Option.bind_eq_some_iff.mp read
  obtain ⟨port, -, rfl⟩ := Option.map_eq_some_iff.mp read
  exact hosted.trans reads.host.symm

/-- Of the two schemes in `https://http://` the edits change both, and with them the host. -/
theorem not_doubled (conforms : Conforms parse library) (parsed : parse text = some relay)
    (origin : Origin relay)
    (signaled : parse (String.ofList (signalingUrl text.toList)) = some signal)
    (leads : LeadsTo relay signal) {tail : List Char}
    (whole : text.toList = "https".toList ++ ':' :: '/' :: '/' ::
      ("http".toList ++ ':' :: '/' :: '/' :: tail)) : False := by
  obtain ⟨good, bare⟩ := scheme_authority (by decide : "http".toList ∈ schemes)
  have host := host_of_address conforms (rfl : defaultPort "https".toList = some 443) good
    (.inr ⟨'/' :: tail, rfl⟩) whole parsed origin.known
  have edited : ∀ rest : List Char, signalingUrl ("https".toList ++ ':' :: '/' :: '/' ::
      ("http".toList ++ ':' :: '/' :: '/' :: rest)) = "wss".toList ++ ':' :: '/' :: '/' ::
        ("ws".toList ++ [':'] ++ '/' :: '/' :: (rest ++ "/v1/signal".toList)) := fun _ => rfl
  obtain ⟨goodSocket, bareSocket⟩ := scheme_authority (by decide : "ws".toList ∈ schemes)
  have socket := host_of_address conforms (rfl : defaultPort "wss".toList = some 443) goodSocket
    (.inr ⟨'/' :: (tail ++ "/v1/signal".toList), rfl⟩)
    (by rw [String.toList_ofList, whole, edited]) signaled leads.known
  rw [bare] at host
  rw [bareSocket, leads.host, ← host] at socket
  exact conforms.hosts socket

/-- What is taken for the authority of a text in parts. -/
def authorityOf (others : List (List Char)) (authority : List Char) : List Char :=
  others.head?.elim authority (· ++ [':'])

section Parts

variable {scheme authority name path : List Char} {others : List (List Char)}
  (parts : Parts text.toList scheme others authority name path)
include parts

theorem Parts.framed {host : Host} (lawful : library.Lawful)
    (read : library.readHost name = some host) :
    ∃ path, Framed text.toList scheme (authorityOf others authority) path := by
  have whole := parts.whole
  cases others with
  | nil =>
    exact ⟨path, parts.known, by rw [whole]; simp [mark, authorityOf],
      parts.written.good lawful read, parts.rooted⟩
  | cons word more =>
    have member := removed_subset scheme (parts.turn.mem List.mem_cons_self)
    refine ⟨'/' :: '/' :: (more.flatMap mark ++ (authority ++ path)), parts.known, ?_,
      (scheme_authority member).1, .inr ⟨_, rfl⟩⟩
    rw [whole]
    simp [mark, authorityOf]

/-- The edits pass by the authority, unless `https://http://` begins the text. -/
theorem Parts.apart (single : scheme = "https".toList → others.head? ≠ some "http".toList) :
    ¬otherScheme scheme ++ [':'] <:+ authorityOf others authority := by
  cases others with
  | nil =>
    rintro ⟨front, whole⟩
    refine parts.written.getLast? ?_
    rw [← show front ++ (otherScheme scheme ++ [':']) = authority from whole,
      ← List.append_assoc, List.getLast?_concat]
  | cons word more =>
    have passed : ∀ scheme ∈ ["http".toList, "https".toList], ∀ word ∈ removed scheme,
        (scheme = "https".toList → word ≠ "http".toList) →
        ¬otherScheme scheme ++ [':'] <:+ word ++ [':'] := by
      decide
    exact passed scheme (by simpa using parts.known) word (parts.turn.mem List.mem_cons_self)
      fun https same => single https (congrArg some same)

theorem Parts.host {standard : Nat} {back : List Char} (lawful : library.Lawful)
    (shown : Shown library relay scheme (authorityOf others authority) back standard) :
    library.readHost (others.head?.getD name) = relay.host := by
  rw [← shown.host.1]
  refine congrArg library.readHost (Eq.symm ?_)
  cases others with
  | nil =>
    have hosted : (library.readHost (splitPort false authority).1).isSome = true :=
      shown.host.1 ▸ shown.host.2
    have ported : (readPort standard (splitPort false authority).2).isSome = true :=
      Option.isSome_iff_exists.mpr ⟨_, shown.port⟩
    exact parts.written.splitPort lawful hosted ported
  | cons word more =>
    have member := removed_subset scheme (parts.turn.mem List.mem_cons_self)
    exact congrArg Prod.fst (scheme_authority member).2

end Parts

section Right

variable {libraries : NetLibraries} {configuration : RelayRouteConfiguration}
  (conforms : Conforms libraries.parseUrl library)
  (parsed : libraries.parseUrl configuration.relayUrl = some relay) (origin : Origin relay)
include conforms parsed origin

theorem wellSpelled_of_rightEndpoints
    (right : RightEndpoints libraries library configuration relay) :
    WellSpelled library configuration.relayUrl.toList := by
  obtain ⟨signal, signaled, leads, -⟩ := right.signal
  obtain ⟨name, host, probed, isHost, displayed⟩ := right.probe
  obtain ⟨reading, isRead, reads⟩ := conforms.reads _ relay parsed origin.known
  obtain ⟨spelling, spelled⟩ := Library.host_of_read isRead
  have read : library.readHost name = some host := by
    rw [← conforms.lawful.lowercase, displayed]
    rw [← Option.some.inj (isHost.symm.trans reads.host)] at spelled
    exact conforms.lawful.displayed spelling host spelled
  obtain ⟨scheme, marked, rest, split⟩ :=
    not_unmarked conforms parsed origin signaled leads probed read
  have known := scheme_of_marked conforms parsed origin marked
    (by rw [← split, mark, List.append_assoc]; rfl)
  obtain ⟨others, authority, path, parts⟩ := exists_parts known split.symm probed
  have single : scheme = "https".toList → others.head? ≠ some "http".toList := by
    rintro rfl doubled
    obtain ⟨more, rfl⟩ := List.head?_eq_some_iff.mp doubled
    have whole : configuration.relayUrl.toList = "https".toList ++ ':' :: '/' :: '/' ::
        ("http".toList ++ ':' :: '/' :: '/' :: (more.flatMap mark ++ (authority ++ path))) := by
      rw [parts.whole]
      simp [mark]
    exact not_doubled conforms parsed origin signaled leads whole
  obtain ⟨back, framed⟩ := parts.framed conforms.lawful read
  obtain ⟨standard, isKnown, -⟩ := defaultPort_of_framed framed
  have shown := shown_of_framed conforms framed isKnown parsed origin
  exact ⟨scheme, others, authority, name, path, host, parts,
    (signal_iff conforms framed (parts.apart single) parsed origin).mp right.signal, single,
    (parts.host conforms.lawful shown).trans isHost, displayed⟩

theorem rightEndpoints_of_wellSpelled
    (spelled : WellSpelled library configuration.relayUrl.toList) :
    RightEndpoints libraries library configuration relay := by
  obtain ⟨scheme, others, authority, name, path, host, parts, ends, single, hosted, displayed⟩ :=
    spelled
  have read : library.readHost name = some host := by
    rw [← conforms.lawful.lowercase, displayed]
    exact conforms.lawful.displayed _ host hosted
  obtain ⟨back, framed⟩ := parts.framed conforms.lawful read
  obtain ⟨standard, isKnown, -⟩ := defaultPort_of_framed framed
  have shown := shown_of_framed conforms framed isKnown parsed origin
  have slashless := (parts.written.good conforms.lawful read).slash
  exact ⟨(signal_iff conforms framed (parts.apart single) parsed origin).mpr ends,
    ingress_leadsTo libraries configuration origin, name, host, parts.probeHost slashless,
    (parts.host conforms.lawful shown).symm.trans hosted, displayed⟩

end Right

end Endpoints

/-- The endpoints of an accepted configuration are right exactly when the URL of the relay is
written in one of the ways that come out of the edits. -/
theorem relay_origin_endpoints_iff (libraries : NetLibraries) (library : Library Host)
    (conforms : Conforms libraries.parseUrl library) (configuration : RelayRouteConfiguration)
    (accepted : configuration.validate libraries.parseUrl = .ok ()) :
    ∃ relay, libraries.parseUrl configuration.relayUrl = some relay ∧
      (RightEndpoints libraries library configuration relay ↔
        WellSpelled library configuration.relayUrl.toList) := by
  obtain ⟨relay, parsed, isOrigin, -⟩ :=
    (RelayRouteConfiguration.validate_eq_ok.mp accepted).relay
  have origin := origin_of_originAccepted isOrigin
  exact ⟨relay, parsed, wellSpelled_of_rightEndpoints conforms parsed origin,
    rightEndpoints_of_wellSpelled conforms parsed origin⟩

/-! ### A library of domains -/

/-- The URL that is read. -/
def urlOf (reading : Reading Host) : Url where
  scheme := String.ofList reading.scheme
  host := some reading.host
  port := reading.port
  path := String.ofList reading.path
  query := if reading.hasQuery then some "" else none
  fragment := if reading.hasFragment then some "" else none

theorem reads_urlOf (reading : Reading Host) : Reads (urlOf reading) reading := by
  refine ⟨String.toList_ofList, rfl, rfl, String.toList_ofList, ?_, ?_⟩
  · cases query : reading.hasQuery <;> simp [urlOf, query]
  · cases fragment : reading.hasFragment <;> simp [urlOf, fragment]

/-- Every text without a mark of the syntax is a domain, and no character needs an escape. -/
def domains : Library Host where
  readHost text :=
    if toAsciiLowercase text ≠ [] ∧ ∀ character ∈ toAsciiLowercase text,
        isC0ControlOrSpace character = false ∧ endsAuthority character = false ∧
          character ≠ '@' ∧ character ≠ ':' then
      some (.domain (String.ofList (toAsciiLowercase text)))
    else none
  displayHost
    | .domain name => name.toList
    | _ => []
  encode segment := segment

theorem toAsciiLowercase_idem (text : List Char) :
    toAsciiLowercase (toAsciiLowercase text) = toAsciiLowercase text := by
  simp [toAsciiLowercase, Char.toLower_toLower_eq_toLower]

theorem domains_lowercase (text : List Char) :
    domains.readHost (toAsciiLowercase text) = domains.readHost text := by
  simp only [domains, toAsciiLowercase_idem]

/-- The characters of a domain. -/
theorem domains_allowed {text : List Char} {host : Host} (read : domains.readHost text = some host)
    {character : Char} (member : character ∈ text) :
    isC0ControlOrSpace character = false ∧ endsAuthority character = false ∧ character ≠ '@' ∧
      character ≠ ':' := by
  unfold domains at read
  dsimp only at read
  split at read
  next good =>
    have lower := good.2 character.toLower (List.mem_map_of_mem member)
    by_cases upper : character.isUpper = true
    · have other : ∀ mark : Char, mark.isUpper = false → character ≠ mark := by
        rintro mark none rfl
        rw [none] at upper
        cases upper
      have above : 'A'.val.toNat ≤ character.val.toNat :=
        UInt32.le_iff_toNat_le.mp (of_decide_eq_true upper).1
      have code : 'A'.val.toNat = 65 := rfl
      refine ⟨decide_eq_false (by change ¬character.val.toNat ≤ 32; omega), ?_, other '@' rfl,
        other ':' rfl⟩
      simp [endsAuthority, isSlash, endsPath, other '/' rfl, other '\\' rfl, other '?' rfl,
        other '#' rfl]
    · rwa [Char.toLower_eq_of_not_isUpper upper] at lower
  next => cases read

theorem domains_lawful : domains.Lawful where
  empty := rfl
  allowed text host read character member := by
    obtain ⟨solid, inner, other, -⟩ := domains_allowed read member
    exact ⟨solid, inner, other⟩
  colon text host read colon := absurd rfl (domains_allowed read colon).2.2.2
  lowercase := domains_lowercase
  displayed text host read := by
    refine Eq.trans ?_ ((domains_lowercase text).trans read)
    unfold domains at read
    dsimp only at read
    split at read
    next =>
      rw [← Option.some.inj read]
      exact congrArg domains.readHost String.toList_ofList
    next => cases read
  encode_eq_nil _ empty := empty
  encode_slash _ fresh := fresh
  encode_alphanum _ _ := rfl

def domainLibraries : NetLibraries :=
  { plainLibraries with parseUrl := fun text => (domains.read text.toList).map urlOf }

theorem domainLibraries_conforms : Conforms domainLibraries.parseUrl domains where
  lawful := domains_lawful
  hosts := by decide
  reads text url parsed _ := by
    obtain ⟨reading, read, rfl⟩ := Option.map_eq_some_iff.mp parsed
    exact ⟨reading, read, reads_urlOf reading⟩
  parses text reading read :=
    ⟨urlOf reading, congrArg (Option.map urlOf) read, reads_urlOf reading⟩

def routeTo (relayUrl : String) : RelayRouteConfiguration where
  relayUrl := relayUrl
  relaySessionId := "session"
  sourceToken := "token"
  busId := "bus"
  publisherGroupId := "group"

theorem relay_origin_endpoints_iff_domain :
    (routeTo "https://relay.example").validate domainLibraries.parseUrl = .ok () ∧
      ∃ relay, domainLibraries.parseUrl "https://relay.example" = some relay ∧
        RightEndpoints domainLibraries domains (routeTo "https://relay.example") relay := by
  have accepted : (routeTo "https://relay.example").validate domainLibraries.parseUrl = .ok () := by
    decide +kernel
  obtain ⟨relay, parsed, right⟩ := relay_origin_endpoints_iff domainLibraries domains
    domainLibraries_conforms (routeTo "https://relay.example") accepted
  refine ⟨accepted, relay, parsed, right.mpr ⟨"https".toList, [], "relay.example".toList,
    "relay.example".toList, [], .domain "relay.example",
    ⟨.inr rfl, rfl, .done _, .inl ⟨rfl, by decide⟩, .inl rfl⟩, ?_, nofun, by decide, by decide⟩⟩
  intro character last
  obtain rfl : 'e' = character := Option.some.inj last
  decide

/-- An origin with the slash that a browser shows behind it is accepted, and the path of its
signaling address begins with two. -/
theorem trailing_slash_doubled :
    let configuration := routeTo "https://relay.example/"
    configuration.validate domainLibraries.parseUrl = .ok () ∧
      (domainLibraries.parseUrl (String.ofList (signalingUrl configuration.relayUrl.toList))).map
        (·.path) = some "//v1/signal" ∧
      ∀ relay, ¬RightEndpoints domainLibraries domains configuration relay := by
  intro configuration
  have doubled : (domainLibraries.parseUrl
      (String.ofList (signalingUrl configuration.relayUrl.toList))).map (·.path) =
        some "//v1/signal" := by
    decide +kernel
  refine ⟨by decide +kernel, doubled, fun relay right => ?_⟩
  obtain ⟨signal, parsed, -, path⟩ := right.signal
  rw [parsed, Option.map_some, path] at doubled
  exact absurd (Option.some.inj doubled) (by decide)

end RelayConnector
