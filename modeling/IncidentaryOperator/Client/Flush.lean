import IncidentaryOperator.Client.Ingest

/-!
# The retry loop of the ingest client

`HTTPClient.Flush` and `doRequest` of `internal/client/ingest.go`, cut at the points where the call
waits: `enterFlush` up to the loop, `attempt` from the head of the loop to the request, `receive`
from the answer back to the head of the loop. Between them the call is a `FlushState`.

The environment supplies the readings of the monotonic clock, the jittered backoff, whatever the
floating-point product comes to, the context, and the answers. What the JSON decoder makes of a body
comes with the body.
-/

set_option autoImplicit false
set_option relaxedAutoImplicit false

namespace IncidentaryOperator.Client

open Foundation WireFormat

/-! ### Answers -/

/-- `IngestResponse`. -/
structure IngestResponse where
  accepted : ℤ := 0
  dropped : ℤ := 0
  dropReasons : DropReasons := ∅
  deriving DecidableEq

/-- A response: its status, what was read of its body, at most one MiB, what the decoder makes of
that, and the header with the capture mode. -/
structure Response where
  statusCode : ℤ
  body : String := ""
  parsed : Except String IngestResponse := .ok {}
  captureModeRequested : String := ""

/-- What comes of a request: no response, one whose body cannot be read, or one that is read. -/
inductive Answer
  | failed (text : String)
  | unreadable (statusCode : ℤ) (text : String)
  | read (response : Response)

/-- The status a request was answered with. -/
def Answer.statusCode : Answer → Option ℤ
  | .failed _ => none
  | .unreadable statusCode _ => some statusCode
  | .read response => some response.statusCode

/-- What `doRequest` returns: a result, or an error that is or is not worth a retry. -/
inductive Attempted
  | succeeded (res : FlushResult)
  | retryable (text : String)
  | permanent (text : String)

/-- The characters of a text within its first `max` bytes. -/
def clipBytes (text : String) (max : ℕ) : String :=
  let step (state : ℕ × List Char) (c : Char) : ℕ × List Char :=
    let size := state.1 + c.utf8Size
    (size, if size ≤ max then state.2 ++ [c] else state.2)
  String.ofList (text.toList.foldl step (0, [])).2

/-- The part of an error body that goes into the error. -/
def snippet (body : String) : String :=
  if body.utf8ByteSize > 256 then clipBytes body 256 ++ "..." else body

/-- The result of a successful request. -/
def IngestResponse.result (parsed : IngestResponse) (captureModeRequested : String) :
    FlushResult where
  accepted := parsed.accepted
  dropped := parsed.dropped
  dropReasons := parsed.dropReasons
  captureModeRequested := captureModeRequested

/-- `doRequest`, from the answer on. -/
def HTTPClient.doRequest (c : HTTPClient) : Answer → Attempted
  | .failed text => .retryable s!"post {c.endpoint}: {text}"
  | .unreadable _ text => .retryable s!"read response: {text}"
  | .read response =>
    let status := response.statusCode
    if status = 200 ∨ status = 202 then
      if response.body.utf8ByteSize > 0 then
        match response.parsed with
        | .error text => .permanent s!"parse response: {text}"
        | .ok parsed => .succeeded (parsed.result response.captureModeRequested)
      else .succeeded (IngestResponse.result {} response.captureModeRequested)
    else if status = 429 ∨ status ≥ 500 then .retryable s!"ingest returned HTTP {status}"
    else .permanent s!"ingest returned HTTP {status}: {snippet response.body}"

/-! ### The loop -/

/-- The variables of a `Flush` call in its loop. -/
structure FlushCall where
  deadline : ℤ
  backoff : ℤ
  attempt : ℤ := 0
  lastErr : Option String := none

/-- Where a `Flush` call stands: not entered, at the head of the loop, waiting for the answer to its
request, or about to return. -/
inductive FlushState
  | idle
  | pausing (call : FlushCall)
  | waiting (call : FlushCall)
  | returning (outcome : FlushOutcome)

/-- What happens before an attempt: the clock, the jittered backoff, the error of the context when
the select receives its end, and whether the request can be built. -/
structure Pause where
  now : ℤ
  jittered : ℤ
  done : Option String := none
  built : Except String Unit := .ok ()

/-- `Flush` up to its loop. -/
def HTTPClient.enterFlush (c : HTTPClient) (now : ℤ) (marshalled : Except String Unit) :
    FlushState :=
  match marshalled with
  | .error text => .returning (.error s!"client: marshal batch: {text}")
  | .ok () => .pausing { deadline := now + c.maxRetryWindow, backoff := c.initialBackoff }

/-- `Flush` after its loop. -/
def FlushCall.giveUp (call : FlushCall) : FlushState :=
  let lastErr := call.lastErr.getD "client: retry budget exhausted"
  .returning (.error s!"client: flush failed after retries: {lastErr}")

/-- The request of an attempt. -/
def FlushCall.sendRequest (call : FlushCall) (pause : Pause) : FlushState :=
  match pause.built with
  | .error text => .returning (.error s!"build request: {text}")
  | .ok () => .waiting call

/-- The backoff after a retry: twice as long, up to the maximum. -/
def HTTPClient.nextBackoff (c : HTTPClient) (backoff : ℤ) : ℤ :=
  let doubled := wrapped 64 (2 * backoff)
  if doubled > c.maxBackoff then c.maxBackoff else doubled

/-- From the head of the loop to the request. -/
def HTTPClient.attempt (c : HTTPClient) (call : FlushCall) (pause : Pause) : FlushState :=
  if call.attempt > c.maxRetries then call.giveUp
  else if call.attempt > 0 then
    let sleep := min pause.jittered c.maxBackoff
    if pause.now + sleep > call.deadline then call.giveUp
    else
      match pause.done with
      | some text => .returning (.error text)
      | none => { call with backoff := c.nextBackoff call.backoff }.sendRequest pause
  else call.sendRequest pause

/-- From the answer back to the head of the loop, with the error of the context after the request if
it has one. -/
def HTTPClient.receive (c : HTTPClient) (call : FlushCall) (answer : Answer)
    (ctxErr : Option String) : FlushState :=
  match c.doRequest answer with
  | .succeeded res => .returning (.ok res)
  | .permanent text => .returning (.error text)
  | .retryable text =>
    match ctxErr with
    | some cause => .returning (.error cause)
    | none =>
      .pausing { call with attempt := wrapped 64 (call.attempt + 1), lastErr := some text }

/-- A status of 401 whose body is read ends the call. -/
theorem HTTPClient.receive_unauthorized (c : HTTPClient) (call : FlushCall) {response : Response}
    (hstatus : response.statusCode = 401) (ctxErr : Option String) :
    ∃ outcome, c.receive call (.read response) ctxErr = .returning outcome := by
  have hpermanent : ∃ text, c.doRequest (.read response) = .permanent text := by
    unfold HTTPClient.doRequest
    dsimp only
    rw [if_neg (by omega), if_neg (by omega)]
    exact ⟨_, rfl⟩
  obtain ⟨text, htext⟩ := hpermanent
  refine ⟨.error text, ?_⟩
  unfold HTTPClient.receive
  rw [htext]

/-- The first attempt makes its request. Assumes: retries are not negative and the request can be
built. -/
theorem HTTPClient.attempt_first {c : HTTPClient} (hretries : 0 ≤ c.maxRetries) {call : FlushCall}
    (hfirst : call.attempt = 0) {pause : Pause} (hbuilt : pause.built = .ok ()) :
    c.attempt call pause = .waiting call := by
  unfold HTTPClient.attempt FlushCall.sendRequest
  rw [if_neg (by omega), if_neg (by omega), hbuilt]

end IncidentaryOperator.Client
