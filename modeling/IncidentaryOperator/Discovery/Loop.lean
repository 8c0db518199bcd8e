import IncidentaryOperator.Client.Topology
import IncidentaryOperator.Identity.Workload

/-!
# The discovery loop

`internal/discovery/loop.go`: each cycle lists the Deployments, StatefulSets and DaemonSets of the
cluster, leaves out excluded namespaces and system workloads, and hands a report of the rest to the
topology client.

A cycle is a function of the state of the loop and of what the calls of the cycle answer (`Cycle`):
the read of the `kube-system` Namespace, the three lists, the reads of the resolver, and the report.
Durations are nanoseconds.
-/

set_option autoImplicit false
set_option relaxedAutoImplicit false

namespace IncidentaryOperator.Discovery

open Foundation WireFormat Kubernetes Identity Client

/-! ### The loop and its options -/

/-- The default interval, five minutes. -/
def defaultInterval : ℤ :=
  5 * 60 * second

/-- The namespaces skipped by default. -/
def defaultExcludedNamespaces : Finset String :=
  {"kube-system", "kube-public", "kube-node-lease"}

/-- `Options`. -/
structure Options where
  interval : ℤ := 0
  clusterName : String := ""
  clusterUID : String := ""
  excludeNamespaces : List String := []

/-- `Loop`, with the two metrics only the loop writes: the gauge of watched workloads and the
counter of topology reports. -/
structure Loop where
  clusterName : String
  clusterUID : String
  interval : ℤ
  excludes : Finset String
  lastReport : Time
  workloadsGauge : ℤ
  watchedWorkloads : ℕ
  topologyReportsTotal : ℕ
  deriving DecidableEq

/-- `NewLoop`. -/
def newLoop (opts : Options) : Loop where
  clusterName := opts.clusterName
  clusterUID := opts.clusterUID
  interval := if opts.interval ≤ 0 then defaultInterval else opts.interval
  excludes := opts.excludeNamespaces.foldl (fun excludes ns ↦ insert ns excludes)
    defaultExcludedNamespaces
  lastReport := .zero
  workloadsGauge := 0
  watchedWorkloads := 0
  topologyReportsTotal := 0

/-! ### Entries of a report -/

/-- `isSystemWorkload`: infrastructure workloads, by their labels. -/
def isSystemWorkload (labels : StringMap) : Bool :=
  labels.at "app.kubernetes.io/component" = "controller-manager" || labels.at "k8s-app" ≠ ""

/-- The allowlist of the annotations that are forwarded, by how their keys begin. -/
def safeAnnotationPrefixes : List String :=
  ["incidentary.com/", "app.kubernetes.io/", "kubernetes.io/managed-by",
    "meta.helm.sh/release-name", "meta.helm.sh/release-namespace"]

/-- The test of a key in the loop of `filterSafeAnnotations`. -/
def isSafeAnnotation (key : String) : Bool :=
  safeAnnotationPrefixes.any fun start ↦ key = start || hasPrefix key start

/-- One turn of the loop of `filterSafeAnnotations`. -/
def keepSafe (out : Finmap fun _ : String ↦ String) (entry : Sigma fun _ : String ↦ String) :
    Finmap fun _ : String ↦ String :=
  if isSafeAnnotation entry.1 then out.insert entry.1 entry.2 else out

/-- `filterSafeAnnotations`: a copy of the allowlisted entries, nil when there is none. -/
def filterSafeAnnotations (annotations : StringMap) :
    Option (Finmap fun _ : String ↦ String) :=
  if annotations.entries.length = 0 then none
  else
    let out := annotations.entries.foldl keepSafe ∅
    if out = ∅ then none else some out

/-- `conditionsFromDeployment`. -/
def conditionsFromDeployment (conds : List DeploymentCondition) : List WorkloadCond :=
  conds.map fun cond ↦ ⟨cond.type, cond.status⟩

/-- `fallbackName`. -/
def fallbackName (preferred fallback : String) : String :=
  if preferred ≠ "" then preferred else fallback

/-- `sourceString`: an unset source is reported as the workload name. -/
def sourceString : Source → String
  | .unset => "workload_name"
  | .annotated => "annotation"
  | .workloadName => "workload_name"

/-- `deref`: a nil count is zero. -/
def deref (count : Option ℤ) : ℤ :=
  count.getD 0

/-- `primaryImage`: the image of the first container. -/
def primaryImage (containers : List Container) : String :=
  match containers with
  | [] => ""
  | container :: _ => container.image

/-- The result of `ResolveRef` with its error ignored: an error comes with the empty result. -/
def resolvedOrEmpty (reader : Reader) (kind : WorkloadKind) (metadata : ObjectMeta) : Result :=
  match (resolveRef reader kind.text metadata.namespaceName metadata.name).outcome with
  | .ok res => res
  | .error _ => {}

/-- The entry of a workload, by its kind and the fields that the three kinds read differently. -/
def toWorkload (reader : Reader) (kind : WorkloadKind) (metadata : ObjectMeta)
    (replicas availableReplicas : ℤ) (containers : List Container)
    (conditions : List WorkloadCond) : TopologyWorkload :=
  let res := resolvedOrEmpty reader kind metadata
  { serviceID := fallbackName res.serviceID metadata.name
    serviceIDSource := sourceString res.source
    kind := kind.text
    namespaceName := metadata.namespaceName
    replicas := replicas
    availableReplicas := availableReplicas
    image := primaryImage containers
    labels := metadata.labels
    annotations := filterSafeAnnotations metadata.annotations
    createdAt := metadata.creationTimestamp.unixNano
    conditions := conditions }

/-- `Loop.deploymentToWorkload`. -/
def deploymentToWorkload (reader : Reader) (d : Deployment) : TopologyWorkload :=
  toWorkload reader .deployment d.metadata (deref d.replicas) d.availableReplicas d.containers
    (conditionsFromDeployment d.conditions)

/-- `Loop.statefulSetToWorkload`: the ready replicas stand for the available ones. -/
def statefulSetToWorkload (reader : Reader) (s : StatefulSet) : TopologyWorkload :=
  toWorkload reader .statefulSet s.metadata (deref s.replicas) s.readyReplicas s.containers []

/-- `Loop.daemonSetToWorkload`: the counts are those of its pods. -/
def daemonSetToWorkload (reader : Reader) (d : DaemonSet) : TopologyWorkload :=
  toWorkload reader .daemonSet d.metadata d.desiredNumberScheduled d.numberReady d.containers []

/-! ### One cycle -/

/-- One of the three loops of `collectWorkloads`: appends the entries of the listed items that
neither `continue` skips. -/
def appendWorkloads {α : Type} (excludes : Finset String) (metadata : α → ObjectMeta)
    (entry : α → TopologyWorkload) (out : List TopologyWorkload) (items : List α) :
    List TopologyWorkload :=
  items.foldl (fun out item ↦
    if (metadata item).namespaceName ∈ excludes then out
    else if isSystemWorkload (metadata item).labels then out
    else out ++ [entry item]) out

/-- `Loop.collectWorkloads`: the entries of the three lists, or the error of the first failing
one. -/
def collectWorkloads (excludes : Finset String) (reader : Reader) (listing : Listing) :
    Except String (List TopologyWorkload) := do
  let deps ← listing.deployments
  let out := appendWorkloads excludes Deployment.metadata (deploymentToWorkload reader) [] deps
  let sts ← listing.statefulSets
  let out := appendWorkloads excludes StatefulSet.metadata (statefulSetToWorkload reader) out sts
  let ds ← listing.daemonSets
  return appendWorkloads excludes DaemonSet.metadata (daemonSetToWorkload reader) out ds

/-- What the calls of one cycle answer, each on its own: the UID of the `kube-system` Namespace or
an error, the three lists, the reads of the resolver, the active topology client and what the server
makes of the report, and the two readings of the clock. -/
structure Cycle where
  namespaceUID : Except String String
  listing : Listing
  reader : Reader
  topology : TopologyClient
  answer : ReportOutcome
  observedAt : Time
  reportedAt : Time

/-- `Loop.resolveClusterUID`: empty on any failure. -/
def resolveClusterUID (namespaceUID : Except String String) : String :=
  match namespaceUID with
  | .ok uid => uid
  | .error _ => ""

/-- The first step of a cycle: looks the cluster UID up while it is not known. -/
def Loop.withClusterUID (loop : Loop) (namespaceUID : Except String String) : Loop :=
  if loop.clusterUID = "" then
    let uid := resolveClusterUID namespaceUID
    if uid ≠ "" then { loop with clusterUID := uid } else loop
  else loop

/-- Stores the number of collected workloads in the two gauges, the first a 32-bit integer. -/
def Loop.countWorkloads (loop : Loop) (count : ℕ) : Loop :=
  { loop with workloadsGauge := (count : ℤ).bmod (2 ^ 32), watchedWorkloads := count }

/-- The report of a cycle. -/
def Loop.topologyReport (loop : Loop) (observedAt : Time) (workloads : List TopologyWorkload) :
    TopologyReport where
  clusterName := loop.clusterName
  clusterUID := loop.clusterUID
  observedAt := observedAt.unixNano
  workloads := workloads

/-- Records a successful report. -/
def Loop.recordReport (loop : Loop) (reportedAt : Time) : Loop :=
  { loop with
    topologyReportsTotal := loop.topologyReportsTotal + 1
    lastReport := reportedAt }

/-- What a cycle does to the outside: the report it hands to the topology client, if any, and what
it returns. -/
structure CycleOutput where
  handed : Option TopologyReport
  returned : Except String Unit

/-- `Loop.runOnce`. -/
def runOnce (loop : Loop) (cycle : Cycle) : Loop × CycleOutput :=
  let loop := loop.withClusterUID cycle.namespaceUID
  match collectWorkloads loop.excludes cycle.reader cycle.listing with
  | .error text => (loop, ⟨none, .error text⟩)
  | .ok workloads =>
    let loop := loop.countWorkloads workloads.length
    if workloads.length = 0 then (loop, ⟨none, .ok ()⟩)
    else
      let report := loop.topologyReport cycle.observedAt workloads
      match cycle.topology.report cycle.answer with
      | .error text => (loop, ⟨some report, .error text⟩)
      | .ok _ => (loop.recordReport cycle.reportedAt, ⟨some report, .ok ()⟩)

/-! ### What the cycle computes -/

/-- A workload that belongs in a report: its namespace is not excluded and it is no system
workload. -/
def eligible (excludes : Finset String) (metadata : ObjectMeta) : Bool :=
  metadata.namespaceName ∉ excludes && !isSystemWorkload metadata.labels

/-- The entries of the eligible workloads, Deployments first, then StatefulSets, then DaemonSets,
each kind in the order of its list. -/
def eligibleWorkloads (excludes : Finset String) (reader : Reader) (deps : List Deployment)
    (sts : List StatefulSet) (ds : List DaemonSet) : List TopologyWorkload :=
  (deps.filter fun d ↦ eligible excludes d.metadata).map (deploymentToWorkload reader) ++
    (sts.filter fun s ↦ eligible excludes s.metadata).map (statefulSetToWorkload reader) ++
    (ds.filter fun d ↦ eligible excludes d.metadata).map (daemonSetToWorkload reader)

/-- The listed workloads, in the same order, whether or not they are eligible. -/
def listedWorkloads (deps : List Deployment) (sts : List StatefulSet) (ds : List DaemonSet) :
    List Workload :=
  deps.map (fun d ↦ ⟨.deployment, d.metadata⟩) ++ sts.map (fun s ↦ ⟨.statefulSet, s.metadata⟩) ++
    ds.map (fun d ↦ ⟨.daemonSet, d.metadata⟩)

theorem length_listedWorkloads (deps : List Deployment) (sts : List StatefulSet)
    (ds : List DaemonSet) :
    (listedWorkloads deps sts ds).length = deps.length + sts.length + ds.length := by
  simp only [listedWorkloads, List.length_append, List.length_map]

/-- What the entries of a report have in common across the kinds is read off the eligible
workloads. -/
theorem map_eligibleWorkloads {Field : Type} (reader : Reader) (field : TopologyWorkload → Field)
    (ofWorkload : Workload → Field)
    (hentry : ∀ kind metadata replicas available containers conditions,
      field (toWorkload reader kind metadata replicas available containers conditions) =
        ofWorkload ⟨kind, metadata⟩)
    (excludes : Finset String) (deps : List Deployment) (sts : List StatefulSet)
    (ds : List DaemonSet) :
    (eligibleWorkloads excludes reader deps sts ds).map field =
      ((listedWorkloads deps sts ds).filter fun w ↦ eligible excludes w.metadata).map
        ofWorkload := by
  unfold eligibleWorkloads listedWorkloads
  simp only [List.map_append, List.filter_append, List.filter_map, List.map_map]
  congr 1
  · congr 1
    · exact List.map_congr_left fun d _ ↦ hentry _ _ _ _ _ _
    · exact List.map_congr_left fun s _ ↦ hentry _ _ _ _ _ _
  · exact List.map_congr_left fun d _ ↦ hentry _ _ _ _ _ _

theorem length_eligibleWorkloads (excludes : Finset String) (reader : Reader)
    (deps : List Deployment) (sts : List StatefulSet) (ds : List DaemonSet) :
    (eligibleWorkloads excludes reader deps sts ds).length =
      (listedWorkloads deps sts ds).countP fun w ↦ eligible excludes w.metadata := by
  have hentries := map_eligibleWorkloads reader (fun _ ↦ ()) (fun _ ↦ ())
    (fun _ _ _ _ _ _ ↦ rfl) excludes deps sts ds
  have hlength := congrArg List.length hentries
  rwa [List.length_map, List.length_map, ← List.countP_eq_length_filter] at hlength

theorem appendWorkloads_eq {α : Type} (excludes : Finset String) (metadata : α → ObjectMeta)
    (entry : α → TopologyWorkload) (out : List TopologyWorkload) (items : List α) :
    appendWorkloads excludes metadata entry out items =
      out ++ (items.filter fun item ↦ eligible excludes (metadata item)).map entry := by
  unfold appendWorkloads
  induction items generalizing out with
  | nil => simp
  | cons item rest ih =>
    rw [List.foldl_cons, ih]
    by_cases hexcluded : (metadata item).namespaceName ∈ excludes
    · simp [hexcluded, eligible]
    · by_cases hsystem : isSystemWorkload (metadata item).labels = true
      · simp [hexcluded, hsystem, eligible]
      · simp [hexcluded, hsystem, eligible]

/-- The lists are answered independently, and the first error is the error of all. -/
theorem collectWorkloads_eq (excludes : Finset String) (reader : Reader) (listing : Listing) :
    collectWorkloads excludes reader listing = do
      let deps ← listing.deployments
      let sts ← listing.statefulSets
      let ds ← listing.daemonSets
      return eligibleWorkloads excludes reader deps sts ds := by
  unfold collectWorkloads eligibleWorkloads
  simp only [appendWorkloads_eq, List.nil_append]

/-- The workloads are collected exactly when all three lists are answered, and are then the eligible
ones. -/
theorem collectWorkloads_eq_ok {excludes : Finset String} {reader : Reader} {listing : Listing}
    {workloads : List TopologyWorkload} :
    collectWorkloads excludes reader listing = .ok workloads ↔
      ∃ deps sts ds, listing = ⟨.ok deps, .ok sts, .ok ds⟩ ∧
        workloads = eligibleWorkloads excludes reader deps sts ds := by
  obtain ⟨deployments, statefulSets, daemonSets⟩ := listing
  rw [collectWorkloads_eq]
  constructor
  · intro hcollected
    cases deployments with
    | error text => exact absurd hcollected (by simp [bind, Except.bind])
    | ok deps =>
      cases statefulSets with
      | error text => exact absurd hcollected (by simp [bind, Except.bind])
      | ok sts =>
        cases daemonSets with
        | error text => exact absurd hcollected (by simp [bind, Except.bind])
        | ok ds => exact ⟨deps, sts, ds, rfl, (Except.ok.inj hcollected).symm⟩
  · rintro ⟨deps, sts, ds, hlisting, rfl⟩
    cases hlisting
    rfl

end IncidentaryOperator.Discovery
