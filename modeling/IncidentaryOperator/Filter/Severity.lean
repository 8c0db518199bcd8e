import IncidentaryOperator.WireFormat.Schema

/-!
# The severity filter

`internal/filter/severity.go`: deployment events and the kinds of tier one always pass, everything
else passes from a configured severity on.
-/

set_option autoImplicit false
set_option relaxedAutoImplicit false

namespace IncidentaryOperator.FilterPolicy

open WireFormat

/-- `SeverityLevel`. -/
inductive SeverityLevel
  | trace
  | debug
  | info
  | warning
  | error
  | fatal
  deriving DecidableEq

/-- The number of a level, as `iota` counts them. -/
def SeverityLevel.rank : SeverityLevel → ℕ
  | .trace => 0
  | .debug => 1
  | .info => 2
  | .warning => 3
  | .error => 4
  | .fatal => 5

/-- `ParseSeverity`: the level of a severity text, warning when it is unknown. -/
def parseSeverity (text : String) : SeverityLevel :=
  if text = Severity.trace.text then .trace
  else if text = Severity.debug.text then .debug
  else if text = Severity.info.text then .info
  else if text = Severity.warning.text then .warning
  else if text = Severity.error.text then .error
  else if text = Severity.fatal.text then .fatal
  else .warning

/-- `tier1Kinds`: the kinds that pass whatever the threshold. -/
def tier1Kinds : List Kind :=
  [.k8sPodCrash, .k8sOOMKill, .k8sEviction, .k8sScheduleFail, .k8sImagePullFail, .k8sNodePressure,
    .k8sHPAScale]

/-- `IsTier1`. -/
def isTier1 (kind : Kind) : Bool :=
  kind ∈ tier1Kinds

/-- `Filter`. -/
structure SeverityFilter where
  minSeverity : SeverityLevel

/-- `NewFromString`. -/
def newFromString (minSeverity : String) : SeverityFilter :=
  ⟨parseSeverity minSeverity⟩

/-- `Filter.Accept`. -/
def SeverityFilter.accept (f : SeverityFilter) (ev : Event) : Bool :=
  if ev.kind.domain = .deployment then true
  else if isTier1 ev.kind then true
  else (parseSeverity ev.severity.text).rank ≥ f.minSeverity.rank

/-- A kind of tier one passes every filter. -/
theorem accept_of_isTier1 (f : SeverityFilter) {ev : Event} (htier : isTier1 ev.kind = true) :
    f.accept ev = true := by
  unfold SeverityFilter.accept
  split_ifs <;> rfl

end IncidentaryOperator.FilterPolicy
