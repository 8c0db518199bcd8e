import IncidentaryOperator.Discovery.Loop
import IncidentaryOperator.Filter.Severity

/-!
# The configuration of the process

The environment variables of `cmd/config.go` and what `cmd/main.go` builds from them: the severity
filter of the pipeline handler and the options of the discovery loop. The exclude list goes to the
options of the loop and nowhere else.
-/

set_option autoImplicit false
set_option relaxedAutoImplicit false

namespace IncidentaryOperator.Pipeline

open Foundation Client FilterPolicy Discovery

/-- `os.Getenv`: the value of each variable, empty when it is not set. -/
abbrev Environment := String → String

/-- `getEnvOrDefault`. -/
def getEnvOrDefault (env : Environment) (key fallback : String) : String :=
  if env key ≠ "" then env key else fallback

/-- One turn of the loop of `parseStringSliceEnv`. -/
def keepTrimmed (result : List String) (part : String) : List String :=
  if trimSpace part ≠ "" then result ++ [trimSpace part] else result

/-- `parseStringSliceEnv`, with none for the nil slice. -/
def parseStringSliceEnv (env : Environment) (key : String) : Option (List String) :=
  let v := trimSpace (env key)
  if v = "" then none
  else
    let result := (splitText v ',').foldl keepTrimmed []
    if result.length = 0 then none else some result

/-- `parseDurationEnv`, in nanoseconds. -/
def parseDurationEnv (env : Environment) (key : String) (fallback : ℤ) : ℤ :=
  if env key = "" then fallback
  else
    match atoi (env key) with
    | none => fallback
    | some secs => if secs ≤ 0 then fallback else wrapped 64 (secs * second)

/-- The filter of the pipeline handler. -/
def severityFilter (env : Environment) : SeverityFilter :=
  newFromString (getEnvOrDefault env "INCIDENTARY_MIN_SEVERITY" "warning")

/-- The namespaces of the exclude list. -/
def excludeNamespaces (env : Environment) : List String :=
  (parseStringSliceEnv env "INCIDENTARY_EXCLUDE_NAMESPACES").getD []

/-- The options of the discovery loop. -/
def discoveryOptions (env : Environment) : Options where
  clusterName := getEnvOrDefault env "K8S_CLUSTER_NAME" "unknown"
  interval := parseDurationEnv env "INCIDENTARY_RECONCILIATION_INTERVAL_SECONDS" (300 * second)
  excludeNamespaces := excludeNamespaces env

example : parseStringSliceEnv (fun _ ↦ " ns1 , , ns2 ") "" = some ["ns1", "ns2"] := by
  decide

end IncidentaryOperator.Pipeline
