import IncidentaryOperator.Foundation.GoStandard

/-!
# Wire format v2

The types of `internal/wireformat/v2.go` that the operator fills: the closed set of event kinds with
their wire texts, severities, capture mode and agent identity, attribute maps, events with their
series block, and the batch envelope.

The kinds are a closed set in the source and a closed type here; `Kind.text` is the string that goes
on the wire, and `Kind.domain` reads the domain off that string by its first characters, as the
source does. An attribute value is a string, kept as bytes because clipped text need not be valid
UTF-8, or an integer. The clipping itself is `truncate` of `internal/mapper/infrastructure.go`.
-/

set_option autoImplicit false
set_option relaxedAutoImplicit false

namespace IncidentaryOperator.WireFormat

open Foundation

/-! ### Enumerations -/

/-- The event kinds the operator produces. -/
inductive Kind
  | k8sPodCrash
  | k8sOOMKill
  | k8sEviction
  | k8sScheduleFail
  | k8sImagePullFail
  | k8sNodePressure
  | k8sHPAScale
  | k8sPodStarted
  | k8sPodTerminated
  | k8sDeployRollout
  | deployStarted
  | deploySucceeded
  | deployFailed
  | deployCancelled
  | deployRolledBack
  deriving DecidableEq

/-- The kinds are finitely many, so that counts can be summed over them. -/
instance : Fintype Kind where
  elems := {.k8sPodCrash, .k8sOOMKill, .k8sEviction, .k8sScheduleFail, .k8sImagePullFail,
    .k8sNodePressure, .k8sHPAScale, .k8sPodStarted, .k8sPodTerminated, .k8sDeployRollout,
    .deployStarted, .deploySucceeded, .deployFailed, .deployCancelled, .deployRolledBack}
  complete := by
    intro kind
    cases kind <;> decide

/-- The text of a kind on the wire. -/
def Kind.text : Kind → String
  | .k8sPodCrash => "K8S_POD_CRASH"
  | .k8sOOMKill => "K8S_OOM_KILL"
  | .k8sEviction => "K8S_EVICTION"
  | .k8sScheduleFail => "K8S_SCHEDULE_FAIL"
  | .k8sImagePullFail => "K8S_IMAGE_PULL_FAIL"
  | .k8sNodePressure => "K8S_NODE_PRESSURE"
  | .k8sHPAScale => "K8S_HPA_SCALE"
  | .k8sPodStarted => "K8S_POD_STARTED"
  | .k8sPodTerminated => "K8S_POD_TERMINATED"
  | .k8sDeployRollout => "K8S_DEPLOY_ROLLOUT"
  | .deployStarted => "DEPLOY_STARTED"
  | .deploySucceeded => "DEPLOY_SUCCEEDED"
  | .deployFailed => "DEPLOY_FAILED"
  | .deployCancelled => "DEPLOY_CANCELLED"
  | .deployRolledBack => "DEPLOY_ROLLED_BACK"

/-- The domain of a kind. -/
inductive Domain
  | application
  | infrastructure
  | deployment
  | incident
  deriving DecidableEq

/-- `strings.HasPrefix`. -/
def hasPrefix (text start : String) : Bool :=
  start.toList.isPrefixOf text.toList

/-- `Kind.Domain`: the domain of a kind, read off the first characters of its text. -/
def Kind.domain (kind : Kind) : Domain :=
  if hasPrefix kind.text "K8S_" || hasPrefix kind.text "CLOUD_" then .infrastructure
  else if hasPrefix kind.text "DEPLOY_" then .deployment
  else if hasPrefix kind.text "INCIDENT_" then .incident
  else .application

/-- Every kind the operator produces is of the infrastructure or the deployment domain: the last
resort `application` and the incident domain are never reached. -/
theorem Kind.domain_infrastructure_or_deployment (kind : Kind) :
    kind.domain = .infrastructure ∨ kind.domain = .deployment := by
  cases kind <;> decide

/-- The severities of wire format v2. -/
inductive Severity
  | trace
  | debug
  | info
  | warning
  | error
  | fatal
  deriving DecidableEq

/-- The text of a severity on the wire. -/
def Severity.text : Severity → String
  | .trace => "trace"
  | .debug => "debug"
  | .info => "info"
  | .warning => "warning"
  | .error => "error"
  | .fatal => "fatal"

/-- The capture mode of a batch. -/
inductive CaptureMode
  | skeleton
  | full
  deriving DecidableEq

/-- The implementation identity of the sending agent. -/
inductive AgentType
  | k8sOperator
  deriving DecidableEq

/-- The fidelity-contract identity of the ingest surface. -/
inductive AgentSurface
  | exporter
  | processor
  | sdk
  | operator
  deriving DecidableEq

/-! ### Attributes -/

/-- An attribute value: a Go string by its bytes, or a Go integer. -/
inductive AttrValue
  | bytes (value : ByteArray)
  | int (value : ℤ)
  deriving DecidableEq

/-- The attribute value of a string. -/
def AttrValue.str (text : String) : AttrValue :=
  .bytes text.toByteArray

/-- Different strings are different attribute values. -/
theorem AttrValue.str_injective : Function.Injective AttrValue.str := by
  intro first second hsame
  exact String.toByteArray_inj.mp (AttrValue.bytes.inj hsame)

/-- `map[string]any` as the operator fills it. -/
abbrev Attributes := AList (fun _ : String ↦ AttrValue)

/-! ### Events and batches -/

/-- The repetition block of an event. -/
structure Series where
  count : ℤ
  firstAt : ℤ
  lastAt : ℤ
  deriving DecidableEq

/-- A single wire event. -/
structure Event where
  id : String
  kind : Kind
  severity : Severity
  occurredAt : ℤ
  serviceID : String
  attributes : Attributes
  series : Option Series := none
  deriving DecidableEq

/-- The resource block of a batch. -/
structure Resource where
  attributes : StringMap := ∅
  deriving DecidableEq

/-- The agent block of a batch; the operator never sets the telemetry block. -/
structure Agent where
  type : AgentType
  version : String
  workspaceID : String
  surface : AgentSurface
  deriving DecidableEq

/-- The batch envelope. -/
structure IngestBatch where
  specVersion : String
  resource : Resource
  agent : Agent
  captureMode : CaptureMode
  flushedAt : ℤ
  events : List Event
  deriving DecidableEq

/-- The only spec version the server accepts. -/
def specVersion : String :=
  "2"

/-- `TimeToUnixNano`: nanoseconds since the epoch, and zero for the zero time. -/
def timeToUnixNano (instant : Time) : ℤ :=
  if instant.isZero then 0 else instant.unixNano

end IncidentaryOperator.WireFormat
