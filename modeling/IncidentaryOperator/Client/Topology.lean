import IncidentaryOperator.Client.Provider

/-!
# Topology reports

`internal/client/topology.go`: the report of the workloads of a cluster and the clients that send
it. A report is compared as what is sent, so its annotations are a map without an order.
-/

set_option autoImplicit false
set_option relaxedAutoImplicit false

namespace IncidentaryOperator.Client

open Foundation

/-- `WorkloadCond`: a condition of a workload, reduced to its type and status. -/
structure WorkloadCond where
  type : String
  status : String
  deriving DecidableEq

/-- `TopologyWorkload`: one workload of a report. Without annotations to send, the map is nil. -/
structure TopologyWorkload where
  serviceID : String
  serviceIDSource : String
  kind : String
  namespaceName : String
  replicas : ℤ
  availableReplicas : ℤ
  image : String
  labels : StringMap
  annotations : Option (Finmap fun _ : String ↦ String)
  createdAt : ℤ
  conditions : List WorkloadCond
  deriving DecidableEq

/-- `TopologyReport`. -/
structure TopologyReport where
  clusterName : String
  clusterUID : String
  observedAt : ℤ
  workloads : List TopologyWorkload
  deriving DecidableEq

/-- `TopologyResponse`. -/
structure TopologyResponse where
  accepted : ℤ := 0
  createdGhostServices : ℤ := 0
  updatedServices : ℤ := 0
  deriving DecidableEq

/-- What `Report` returns: an error, by its text, or the response. -/
abbrev ReportOutcome := Except String TopologyResponse

/-- What `Report` of a client returns: for the HTTP client whatever the network and the server make
of the request, for the dropping stub always an empty response. -/
def TopologyClient.report (client : TopologyClient) (answer : ReportOutcome) : ReportOutcome :=
  match client with
  | .http _ _ => answer
  | .dropping => .ok { accepted := 0 }

end IncidentaryOperator.Client
