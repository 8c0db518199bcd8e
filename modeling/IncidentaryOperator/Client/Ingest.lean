import IncidentaryOperator.WireFormat.Schema

/-!
# The ingest client

The configuration of the HTTP ingest client of `internal/client/ingest.go` and what a flush returns.
Durations are nanoseconds. The transport, `*http.Client`, is not part of the configuration that any
modelled function reads.
-/

set_option autoImplicit false
set_option relaxedAutoImplicit false

namespace IncidentaryOperator.Client

open Foundation WireFormat

/-- One second in nanoseconds. -/
def second : ℤ :=
  1000000000

/-- The default ingest endpoint. -/
def defaultEndpoint : String :=
  "https://api.incidentary.com/api/v2/ingest"

/-- The agent version sent by default. -/
def defaultAgentVersion : String :=
  "0.1.1"

/-- The configuration of an `HTTPClient`, with the package defaults. -/
structure HTTPClient where
  endpoint : String := defaultEndpoint
  apiKey : String
  version : String := defaultAgentVersion
  maxRetries : ℤ := 5
  initialBackoff : ℤ := second / 2
  maxBackoff : ℤ := 15 * second
  maxRetryWindow : ℤ := 60 * second
  deriving DecidableEq

/-- The options of `NewHTTPClient` that touch the configuration. -/
inductive HTTPClientOption
  | withEndpoint (url : String)
  | withAgentVersion (version : String)
  | withMaxRetries (n : ℤ)
  | withRetryBackoff (initial maxBackoff window : ℤ)

/-- What an option does to a client. -/
def HTTPClientOption.apply : HTTPClientOption → HTTPClient → HTTPClient
  | .withEndpoint url, c => if url ≠ "" then { c with endpoint := url } else c
  | .withAgentVersion version, c => if version ≠ "" then { c with version := version } else c
  | .withMaxRetries n, c => if n ≥ 0 then { c with maxRetries := n } else c
  | .withRetryBackoff initial maxBackoff window, c =>
    { c with
      initialBackoff := if initial > 0 then initial else c.initialBackoff
      maxBackoff := if maxBackoff > 0 then maxBackoff else c.maxBackoff
      maxRetryWindow := if window > 0 then window else c.maxRetryWindow }

/-- `NewHTTPClient`. -/
def newHTTPClient (apiKey : String) (opts : List HTTPClientOption) : HTTPClient :=
  opts.foldl (fun c opt ↦ opt.apply c) { apiKey := apiKey }

theorem HTTPClientOption.apiKey_apply (opt : HTTPClientOption) (c : HTTPClient) :
    (opt.apply c).apiKey = c.apiKey := by
  cases opt <;> simp only [HTTPClientOption.apply] <;> split_ifs <;> rfl

/-- No option touches the key a client was built from. -/
@[simp] theorem newHTTPClient_apiKey (apiKey : String) (opts : List HTTPClientOption) :
    (newHTTPClient apiKey opts).apiKey = apiKey :=
  List.foldlRecOn opts _ (motive := fun c ↦ c.apiKey = apiKey) rfl fun c hkey opt _ ↦
    (opt.apiKey_apply c).trans hkey

/-- `map[string]int` of the response. -/
abbrev DropReasons := AList (fun _ : String ↦ ℤ)

/-- `FlushResult`: the counts the server reported and the capture mode it asks for. -/
structure FlushResult where
  accepted : ℤ := 0
  dropped : ℤ := 0
  dropReasons : DropReasons := ∅
  captureModeRequested : String := ""
  deriving DecidableEq

/-- What `Flush` returns: an error, by its text, or a result. -/
abbrev FlushOutcome := Except String FlushResult

end IncidentaryOperator.Client
