/-
This file is about the reply to a CONNECT request: which bytes of the proxy's stream are consumed,
and what the consumed header comes to.
-/

import RelayConnector.Proxy

namespace RelayConnector

open Text Connecting

/-! ### What is left of the stream -/

/-- A text that ends with the first blank line in it. -/
def EndsHeader (header : List UInt8) : Prop :=
  blankLine.isSuffixOf header ∧
    ∀ count < header.length, ¬blankLine.isSuffixOf (header.take count)

/-- The loop stops right behind the first blank line. -/
theorem readReply_of_header {response more rest : List UInt8} (ends : EndsHeader (response ++ more))
    (bounded : (response ++ more).length ≤ maxProxyHeadersBytes) :
    readReply response (more ++ rest) = (.ok (response ++ more), rest) := by
  induction more generalizing response with
  | nil =>
    rw [List.append_nil] at ends ⊢
    unfold readReply
    rw [if_pos ends.1]
    rfl
  | cons byte more hypothesis =>
    have same : response ++ byte :: more = response ++ [byte] ++ more := by simp
    have early : ¬blankLine.isSuffixOf response := by
      have before := ends.2 response.length (by simp)
      rwa [List.take_left] at before
    have room : ¬maxProxyHeadersBytes ≤ response.length := by
      rw [List.length_append, List.length_cons] at bounded
      omega
    rw [same] at ends bounded ⊢
    unfold readReply
    rw [if_neg early, if_neg room]
    exact hypothesis ends bounded

/-- What the loop has consumed, whether it finds a blank line or not. -/
theorem readReply_consumed {response stream : List UInt8}
    (early : ∀ count < response.length, ¬blankLine.isSuffixOf (response.take count))
    (bounded : response.length ≤ maxProxyHeadersBytes) :
    ∃ consumed, stream = consumed ++ (readReply response stream).2 ∧
      (response ++ consumed).length ≤ maxProxyHeadersBytes ∧
      ∀ header, (readReply response stream).1 = .ok header →
        header = response ++ consumed ∧ EndsHeader header := by
  induction stream generalizing response with
  | nil =>
    unfold readReply
    split
    next ended =>
      refine ⟨[], rfl, by simpa using bounded, ?_⟩
      rintro _ ⟨⟩
      exact ⟨by simp, ended, early⟩
    next => split <;> exact ⟨[], rfl, by simpa using bounded, nofun⟩
  | cons byte stream hypothesis =>
    unfold readReply
    split
    next ended =>
      refine ⟨[], rfl, by simpa using bounded, ?_⟩
      rintro _ ⟨⟩
      exact ⟨by simp, ended, early⟩
    next unended =>
      split
      next => exact ⟨[], rfl, by simpa using bounded, nofun⟩
      next room =>
        have later : ∀ count < (response ++ [byte]).length,
            ¬blankLine.isSuffixOf ((response ++ [byte]).take count) := by
          intro count inside
          rw [List.length_append, List.length_singleton] at inside
          rw [List.take_append_of_le_length (by omega)]
          rcases Nat.lt_or_eq_of_le (Nat.le_of_lt_succ inside) with shorter | rfl
          · exact early count shorter
          · rwa [List.take_length]
        obtain ⟨consumed, split, size, found⟩ := hypothesis later (by simp; omega)
        refine ⟨byte :: consumed, congrArg _ split, by simpa using size, ?_⟩
        intro header result
        obtain ⟨same, ends⟩ := found header result
        exact ⟨by simpa using same, ends⟩

theorem readReply_error {response stream : List UInt8} {error : DialError}
    (failed : (readReply response stream).1 = .error error) :
    error = .text "Relay proxy headers exceeded 16384 bytes" ∨
      error = .text "Relay proxy CONNECT response failed" := by
  induction stream generalizing response with
  | nil =>
    unfold readReply at failed
    split at failed
    · cases failed
    split at failed
    · exact .inl (Except.error.inj failed).symm
    · exact .inr (Except.error.inj failed).symm
  | cons byte stream hypothesis =>
    unfold readReply at failed
    split at failed
    · cases failed
    split at failed
    · exact .inl (Except.error.inj failed).symm
    · exact hypothesis failed

/-! ### The reply of a proxy -/

/-- The header is a text, and the first two words of its first line are the protocol and a number
that `parse::<u16>` reads. -/
def RepliesWith (header : List UInt8) (status : Nat) : Prop :=
  ∃ text protocol word others, String.fromUTF8? ⟨header.toArray⟩ = some text ∧
    words isWhitespace (text.toList.takeWhile (· != '\n')) = protocol :: word :: others ∧
    (protocol = "HTTP/1.0".toList ∨ protocol = "HTTP/1.1".toList) ∧
    parseUnsigned (2 ^ 16) word = some status

theorem responseStatus_eq_some {header : List UInt8} {status : Nat} :
    responseStatus header = some status ↔ RepliesWith header status := by
  unfold responseStatus
  constructor
  · intro found
    obtain ⟨text, decoded, found⟩ := Option.bind_eq_some_iff.mp found
    split at found
    next protocol word others split =>
      split at found
      next supported => exact ⟨text, protocol, word, others, decoded, split, supported, found⟩
      next => cases found
    next => cases found
  · rintro ⟨text, protocol, word, others, decoded, split, supported, number⟩
    refine Option.bind_eq_some_iff.mpr ⟨text, decoded, ?_⟩
    rw [split]
    exact (if_pos supported).trans number

/-- What a consumed header comes to. -/
def replyResult (header : List UInt8) : Except DialError Unit :=
  match responseStatus header with
  | some status =>
    if 200 ≤ status ∧ status ≤ 299 then .ok ()
    else .error (.proxy (.connectRejected status))
  | none => .error (.text "Relay proxy CONNECT response is invalid")

section Reply

variable {libraries : NetLibraries} {outcomes : Outcomes} {proxy : Url}

/-- Once the request is written, the result is the one of the reply. -/
theorem establishTunnel_result (channel : Channel) (target : Host × Nat) (writes : List Write)
    (credentials : (proxyCredentials libraries proxy).isSome)
    (deadline : outcomes.connectDeadline = none) (written : outcomes.connectWritten = true) :
    (establishTunnel libraries outcomes channel target proxy writes).1 =
      match (readReply [] outcomes.response).1 with
      | .error error => .error error
      | .ok header => replyResult header := by
  obtain ⟨text, isText⟩ := Option.isSome_iff_exists.mp credentials
  unfold establishTunnel
  rw [isText, deadline, written]
  show (Connecting.andThen _ _ _).1 = _
  simp only [Connecting.andThen, demand, done, bind, call, heed, send, Option.map_none, if_true]
  cases (readReply [] outcomes.response).1 with
  | error error => rfl
  | ok header =>
    dsimp only
    unfold replyResult
    cases responseStatus header with
    | none => rfl
    | some status =>
      dsimp only
      split <;> rfl

end Reply

theorem replyResult_cases (header : List UInt8) :
    (replyResult header = .ok () ↔
      ∃ status, RepliesWith header status ∧ 200 ≤ status ∧ status ≤ 299) ∧
    (∀ status, replyResult header = .error (.proxy (.connectRejected status)) ↔
      RepliesWith header status ∧ ¬(200 ≤ status ∧ status ≤ 299)) ∧
    (replyResult header = .error (.text "Relay proxy CONNECT response is invalid") ↔
      ∀ status, ¬RepliesWith header status) := by
  simp only [← responseStatus_eq_some]
  unfold replyResult
  cases responseStatus header with
  | none => simp
  | some status =>
    by_cases accepted : 200 ≤ status ∧ status ≤ 299
    · simp [accepted]
    · simp [accepted]
      omega

/-- The reply to a CONNECT request is consumed up to its first blank line and not further. If it
ends in time, its first line decides; otherwise no more than the limit is consumed. -/
theorem connect_reply_exact (libraries : NetLibraries) (outcomes : Outcomes) (channel : Channel)
    (target : Host × Nat) (proxy : Url) (writes : List Write)
    (credentials : (proxyCredentials libraries proxy).isSome)
    (deadline : outcomes.connectDeadline = none) (written : outcomes.connectWritten = true) :
    let result := (establishTunnel libraries outcomes channel target proxy writes).1
    let rest := (readReply [] outcomes.response).2
    (∀ header following, outcomes.response = header ++ following → EndsHeader header →
      header.length ≤ 16384 →
      rest = following ∧
      (result = .ok () ↔ ∃ status, RepliesWith header status ∧ 200 ≤ status ∧ status ≤ 299) ∧
      (∀ status, result = .error (.proxy (.connectRejected status)) ↔
        RepliesWith header status ∧ ¬(200 ≤ status ∧ status ≤ 299)) ∧
      (result = .error (.text "Relay proxy CONNECT response is invalid") ↔
        ∀ status, ¬RepliesWith header status)) ∧
    ((∀ header following, outcomes.response = header ++ following → EndsHeader header →
      16384 < header.length) →
      (∃ message, result = .error (.text message) ∧
        message ≠ "Relay proxy CONNECT response is invalid") ∧
      ∃ consumed, outcomes.response = consumed ++ rest ∧ consumed.length ≤ 16384) := by
  have reply := establishTunnel_result channel target writes credentials deadline written
  refine ⟨?_, ?_⟩
  · intro header following split ends bounded
    have read : readReply [] outcomes.response = (.ok header, following) := by
      rw [split]
      exact readReply_of_header ends bounded
    rw [read] at reply
    refine ⟨congrArg Prod.snd read, ?_⟩
    rw [reply]
    exact replyResult_cases header
  · intro unended
    have early : ∀ count < ([] : List UInt8).length,
        ¬blankLine.isSuffixOf (([] : List UInt8).take count) := nofun
    obtain ⟨consumed, split, size, found⟩ := readReply_consumed early (Nat.zero_le _)
    refine ⟨?_, consumed, split, size⟩
    cases read : (readReply [] outcomes.response).1 with
    | error error =>
      rw [read] at reply
      rw [reply]
      rcases readReply_error read with rfl | rfl <;> exact ⟨_, rfl, by decide⟩
    | ok header =>
      obtain ⟨rfl, ends⟩ := found header read
      exact absurd size (Nat.not_le.mpr (unended _ _ split ends))

/-- A reply with the first bytes of the tunnel right behind it. -/
def acceptedReply : List UInt8 := "HTTP/1.1 200 OK\r\n\r\n".toUTF8.toList

theorem connect_reply_exact_tunnel :
    let outcomes : Outcomes := { response := acceptedReply ++ [22, 3, 1] }
    let proxy : Url := { scheme := "http", host := some (.domain "proxy") }
    (readReply [] outcomes.response).2 = [22, 3, 1] ∧
      (establishTunnel plainLibraries outcomes { peer := .domain "proxy" }
        (.domain "relay", 443) proxy []).1 = .ok () := by
  intro outcomes proxy
  have ends : EndsHeader acceptedReply := by
    unfold EndsHeader
    decide +kernel
  have status : RepliesWith acceptedReply 200 := responseStatus_eq_some.mp (by decide +kernel)
  obtain ⟨rest, accepted, -⟩ := (connect_reply_exact plainLibraries outcomes
    { peer := .domain "proxy" } (.domain "relay", 443) proxy [] rfl rfl rfl).1
    acceptedReply [22, 3, 1] rfl ends (by decide +kernel)
  exact ⟨rest, accepted.mpr ⟨200, status, by decide, by decide⟩⟩

end RelayConnector
