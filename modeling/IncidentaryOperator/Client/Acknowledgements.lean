import IncidentaryOperator.Client.Exchange
import IncidentaryOperator.Client.RetryLoop

/-!
# Acknowledgements of the ingest server

`doRequest` of `internal/client/ingest.go` reads at most one MiB of a response and decodes it.
Unlike the other two clients it retries when the read fails, so only the limit cuts a body. Unless
only blanks are lost, a body that is cut is no JSON value any more and the request fails for good.

So the counts a `Flush` call returns are those the server sent in answer to the last request, and
no part of them is lost or made up (`flush_counts_acknowledged`). The dropped counters of the
batcher are driven by these counts.
-/

set_option autoImplicit false
set_option relaxedAutoImplicit false

namespace IncidentaryOperator.Client

open Foundation

/-! ### Decoding -/

/-- One member decoded into a map of counts, over a new integer. -/
def insertCount (counts : DropReasons) (member : String × Json) : Option DropReasons :=
  (decodeInt 0 member.2).map fun count ↦ counts.insert member.1 count

/-- A value decoded over a map of counts: null leaves a nil map, and an object adds its members. -/
def decodeCounts (held : DropReasons) : Json → Option DropReasons
  | .null => some ∅
  | .object members => members.foldlM insertCount held
  | _ => none

/-- A member decoded over an `IngestResponse`. -/
def IngestResponse.decodeMember (held : IngestResponse) (member : String × Json) :
    Option IngestResponse :=
  if equalFold "accepted" member.1 then
    (decodeInt held.accepted member.2).map fun value ↦ { held with accepted := value }
  else if equalFold "dropped" member.1 then
    (decodeInt held.dropped member.2).map fun value ↦ { held with dropped := value }
  else if equalFold "drop_reasons" member.1 then
    (decodeCounts held.dropReasons member.2).map fun value ↦ { held with dropReasons := value }
  else some held

/-- A value decoded into a new `IngestResponse`. -/
def decodeIngestResponse : Json → Option IngestResponse
  | .null => some {}
  | .object members => members.foldlM IngestResponse.decodeMember {}
  | _ => none

/-! ### Exchanges -/

/-- A response as the server sends it: its status, its body, what the body says, and the header with
the capture mode. A response that accepts a batch has no body or one with the counts. -/
structure Acknowledgement where
  statusCode : ℤ
  body : String
  counts : IngestResponse
  captureModeRequested : String := ""
  wellFormed : statusCode = 200 ∨ statusCode = 202 →
    body = "" ∧ counts = {} ∨ unmarshal decodeIngestResponse body = some counts

/-- What the server says to a batch. -/
def Acknowledgement.result (ack : Acknowledgement) : FlushResult :=
  ack.counts.result ack.captureModeRequested

/-- What comes of an ingest request: no response, one whose body breaks off, or all of one. -/
inductive IngestExchange
  | failed (text : String)
  | broken (statusCode : ℤ) (text : String)
  | answered (ack : Acknowledgement)

section Exchanges

variable (describe : String → String)

/-- `json.Unmarshal(respBody, &parsed)`. -/
def parseIngestResponse (respBody : String) : Except String IngestResponse :=
  match unmarshal decodeIngestResponse respBody with
  | none => .error (describe respBody)
  | some parsed => .ok parsed

/-- The answer as `doRequest` reads it. -/
def IngestExchange.answer : IngestExchange → Answer
  | .failed text => .failed text
  | .broken statusCode text => .unreadable statusCode text
  | .answered ack =>
    .read
      { statusCode := ack.statusCode
        body := readBody ack.body
        parsed := parseIngestResponse describe (readBody ack.body)
        captureModeRequested := ack.captureModeRequested }

/-- A round of `Flush` with what comes of its request. -/
def Round.asking (round : Round) (exchange : IngestExchange) : Round :=
  { round with answer := exchange.answer describe }

end Exchanges

/-! ### What is read of a response -/

/-- Something is read of every body that is not empty. -/
theorem eq_empty_of_readBody {body : String} (hread : readBody body = "") : body = "" := by
  have hkept := congrArg String.toList hread
  rw [toList_readBody] at hkept
  cases hbody : body.toList with
  | nil => exact String.toList_eq_nil_iff.mp hbody
  | cons c rest =>
    have hfits : 0 + c.utf8Size ≤ 2 ^ 20 := by
      have hsize := c.utf8Size_le_four
      omega
    obtain ⟨more, hmore, -⟩ := exists_prefix_foldl_clipStep (2 ^ 20) (0 + c.utf8Size) [c] rest
    rw [hbody, List.foldl_cons, clipStep, if_pos hfits, List.nil_append, hmore] at hkept
    cases hkept

variable {describe : String → String}

/-- What is decoded from a response that accepts a batch is what the server sent. -/
theorem parseIngestResponse_readBody {ack : Acknowledgement}
    (haccepts : ack.statusCode = 200 ∨ ack.statusCode = 202) (hread : readBody ack.body ≠ "")
    {parsed : IngestResponse}
    (hparsed : parseIngestResponse describe (readBody ack.body) = .ok parsed) :
    parsed = ack.counts := by
  have hdecoded : unmarshal decodeIngestResponse (readBody ack.body) = some parsed := by
    unfold parseIngestResponse at hparsed
    split at hparsed
    · cases hparsed
    · next held hheld => rw [hheld, Except.ok.inj hparsed]
  rcases ack.wellFormed haccepts with ⟨hempty, -⟩ | hwhole
  · exact absurd (by rw [hempty]; rfl) hread
  · obtain ⟨rest, hrest⟩ := readBody_begins ack.body
    rcases unmarshal_of_prefix (fun _ ↦ rfl) hrest hwhole with hnone | ⟨hsome, -⟩
    · rw [hnone] at hdecoded
      cases hdecoded
    · exact Option.some.inj (hdecoded.symm.trans hsome)

/-- A request that succeeds returns what the server said. -/
theorem doRequest_succeeded {c : HTTPClient} {exchange : IngestExchange} {res : FlushResult}
    (hsucceeded : c.doRequest (exchange.answer describe) = .succeeded res) :
    ∃ ack, exchange = .answered ack ∧ (ack.statusCode = 200 ∨ ack.statusCode = 202) ∧
      res = ack.result := by
  cases exchange with
  | failed text => cases hsucceeded
  | broken statusCode text => cases hsucceeded
  | answered ack =>
    refine ⟨ack, rfl, ?_⟩
    simp only [IngestExchange.answer, HTTPClient.doRequest] at hsucceeded
    split_ifs at hsucceeded with haccepts hbody
    · refine ⟨haccepts, ?_⟩
      have hread : readBody ack.body ≠ "" := by
        intro hempty
        rw [hempty] at hbody
        exact absurd hbody (by decide)
      cases hparsed : parseIngestResponse describe (readBody ack.body) with
      | error text =>
        rw [hparsed] at hsucceeded
        cases hsucceeded
      | ok parsed =>
        rw [hparsed] at hsucceeded
        rw [← Attempted.succeeded.inj hsucceeded, Acknowledgement.result,
          parseIngestResponse_readBody haccepts hread hparsed]
    · refine ⟨haccepts, ?_⟩
      have hempty : ack.body = "" := by
        refine eq_empty_of_readBody (String.utf8ByteSize_eq_zero_iff.mp ?_)
        omega
      rcases ack.wellFormed haccepts with ⟨-, hcounts⟩ | hwhole
      · rw [← Attempted.succeeded.inj hsucceeded, Acknowledgement.result, hcounts]
      · rw [hempty] at hwhole
        cases hwhole

/-! ### The whole call -/

theorem doRequest_of_request {c : HTTPClient} {round : Round} {res : FlushResult}
    (hsucceeded : c.request round = .succeeded res) :
    c.doRequest round.answer = .succeeded res := by
  unfold HTTPClient.request at hsucceeded
  split at hsucceeded
  · cases hsucceeded
  · exact hsucceeded

/-- The loop of `Flush` is entered at its first round. -/
theorem HTTPClient.Sane.atRound_zero {c : HTTPClient} (hsane : c.Sane) (start : ℤ) :
    AtRound c start 0 { deadline := start + c.maxRetryWindow, backoff := c.initialBackoff } where
  attempt := rfl
  bound := by
    have hnonneg := hsane.maxRetries
    omega
  lastErr := by omega
  deadline := rfl
  backoff := fun hinitial _ ↦ ⟨hsane.initialBackoff, hinitial⟩

/-- The counts of a flush are the server's. Every `Flush` call returns, whatever comes of its
requests, and if it returns a result, then its last request was accepted and the result is what the
server said to it, in full. Assumes: the retry count is not the largest `int`. -/
theorem flush_counts_acknowledged (describe : String → String) (apiKey : String)
    (opts : List HTTPClientOption)
    (hretries : (newHTTPClient apiKey opts).maxRetries < 2 ^ 63 - 1) (body : List UInt8)
    (script : ℕ → Round) (exchanges : ℕ → IngestExchange) (start : ℤ) :
    ∃ trace,
      (∀ fuel : ℕ, (newHTTPClient apiKey opts).maxRetries + 2 ≤ fuel →
        (newHTTPClient apiKey opts).flush body
          (fun index ↦ (script index).asking describe (exchanges index)) start fuel = some trace) ∧
      ∀ res, trace.outcome = .ok res → ∃ last ack, trace.attempts.length = last + 1 ∧
        exchanges last = .answered ack ∧ (ack.statusCode = 200 ∨ ack.statusCode = 202) ∧
        res = ack.result := by
  have hsane := newHTTPClient_sane apiKey opts
  generalize newHTTPClient apiKey opts = c at hretries hsane ⊢
  obtain ⟨trace, hfaithful, htrace⟩ := HTTPClient.flushLoop_faithful hsane hretries body
    (fun index ↦ (script index).asking describe (exchanges index)) (hsane.atRound_zero start) start
    (c.maxRetries + 2).toNat (by omega)
  refine ⟨trace, fun fuel hfuel ↦ ?_, fun res hres ↦ ?_⟩
  · obtain ⟨extra, rfl⟩ := Nat.exists_eq_add_of_le (Int.toNat_le.mpr hfuel)
    exact htrace extra
  · obtain ⟨made, hlast, hsucceeded⟩ := (hfaithful.result res).mp hres
    rw [List.getLast?_eq_getElem?] at hlast
    have hlength := (List.getElem?_eq_some_iff.mp hlast).1
    rw [(hfaithful.made _ made hlast).outcome, Nat.zero_add] at hsucceeded
    obtain ⟨ack, hanswered, haccepts, hresult⟩ :=
      doRequest_succeeded (doRequest_of_request hsucceeded)
    exact ⟨_, ack, by omega, hanswered, haccepts, hresult⟩

/-- A server that is overloaded at first and then accepts three events of four. -/
def overloadedOnce : ℕ → IngestExchange
  | 0 =>
    .answered
      { statusCode := 503
        body := "overloaded"
        counts := {}
        wellFormed := by decide }
  | _ =>
    .answered
      { statusCode := 202
        body := "\x7b\"accepted\":3,\"dropped\":1\x7d"
        counts := { accepted := 3, dropped := 1 }
        wellFormed := fun _ ↦ .inr rfl }

/-- A round that takes no time. -/
def instantRound : Round where
  elapsed := 0
  factor := evenJitter
  answer := .failed ""

theorem flush_counts_acknowledged_retried :
    ∃ trace, (newHTTPClient "key" []).flush [123, 125]
        (fun index ↦ instantRound.asking id (overloadedOnce index)) 0 7 = some trace ∧
      trace.attempts.length = 2 ∧ trace.outcome = .ok { accepted := 3, dropped := 1 } := by
  obtain ⟨trace, htrace, hresult⟩ := flush_counts_acknowledged id "key" [] (by decide) [123, 125]
    (fun _ ↦ instantRound) overloadedOnce 0
  have hrun : ((newHTTPClient "key" []).flush [123, 125]
      (fun index ↦ instantRound.asking id (overloadedOnce index)) 0 7).map
        (fun trace ↦ (trace.attempts.length, trace.outcome.isOk)) = some (2, true) := by
    decide +kernel
  rw [htrace 7 (by decide), Option.map_some, Option.some_inj] at hrun
  obtain ⟨hlength, hok⟩ := Prod.mk.inj hrun
  refine ⟨trace, htrace 7 (by decide), hlength, ?_⟩
  cases houtcome : trace.outcome with
  | error text =>
    rw [houtcome] at hok
    cases hok
  | ok res =>
    obtain ⟨last, ack, hlast, hanswered, -, rfl⟩ := hresult res houtcome
    obtain rfl : last = 1 := by omega
    rw [← IngestExchange.answered.inj hanswered]
    rfl

end IncidentaryOperator.Client
