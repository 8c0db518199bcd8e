import IncidentaryOperator.Client.Services
import IncidentaryOperator.Discovery.Loop

/-!
# The reconciler

`internal/discovery/reconciler.go`: each cycle fetches the services registered in the workspace,
lists the three kinds of workloads, and classifies each workload by whether its service id is
registered. The service id is derived from the listed object, without the resolver and its reads
(`resolvedServiceID`). While no service is registered the reconciler backs off.

A cycle is a function of the state and of what the calls of the cycle answer (`ReconcilerCycle`).
The clock is read once for each workload whose id is not registered, so a cycle comes with a reading
for each position. Durations are nanoseconds in 64-bit arithmetic, and the counters have 32 bits.
The log is not modelled, apart from the suggestion for a mismatched workload, which is in
`Discovery.FuzzyMatch`.
-/

set_option autoImplicit false
set_option relaxedAutoImplicit false

namespace IncidentaryOperator.Discovery

open Foundation Kubernetes Identity Client

/-! ### Listed workloads -/

/-- `resolvedServiceID`: the annotation-or-name rule, without the walk to an owner. -/
def resolvedServiceID (annotations : StringMap) (fallback : String) : String :=
  let v := annotations.at serviceIDAnnotation
  if v ≠ "" then v else fallback

theorem resolvedServiceID_eq (metadata : ObjectMeta) :
    resolvedServiceID metadata.annotations metadata.name = ownServiceID metadata :=
  rfl

/-- `workloadInfo`: what the reconciler keeps of a workload. -/
structure WorkloadInfo where
  kind : String
  namespaceName : String
  name : String
  serviceID : String
  createdAt : Time
  deriving DecidableEq

/-- The entry of a listed workload. -/
def workloadInfo (kind : String) (metadata : ObjectMeta) : WorkloadInfo where
  kind := kind
  namespaceName := metadata.namespaceName
  name := metadata.name
  serviceID := resolvedServiceID metadata.annotations metadata.name
  createdAt := metadata.creationTimestamp

/-- `Reconciler.listWorkloads`: every listed workload, or the error of the first failing list. -/
def listWorkloads (listing : Listing) : Except String (List WorkloadInfo) := do
  let deps ← listing.deployments
  let sts ← listing.statefulSets
  let ds ← listing.daemonSets
  return deps.map (fun d ↦ workloadInfo "Deployment" d.metadata) ++
    sts.map (fun s ↦ workloadInfo "StatefulSet" s.metadata) ++
    ds.map (fun d ↦ workloadInfo "DaemonSet" d.metadata)

/-! ### Classification -/

/-- `Classification`. -/
inductive Classification
  | matched
  | ghost
  | mismatched
  | new
  deriving DecidableEq

/-- `registeredByID`: the entries by their id, a later entry of an id in place of an earlier one. -/
def registeredByID (registered : List ServiceEntry) : AList (fun _ : String ↦ ServiceEntry) :=
  registered.foldl (fun byID s ↦ byID.insert s.serviceID s) ∅

/-- `Reconciler.classify`, with the reading of the clock. -/
def classify (w : WorkloadInfo) (byID : AList (fun _ : String ↦ ServiceEntry)) (gracePeriod : ℤ)
    (now : Time) : Classification :=
  match byID.lookup w.serviceID with
  | some entry => if entry.instrumented then .matched else .ghost
  | none => if now.sub w.createdAt < gracePeriod then .new else .mismatched

/-- The four counters of a cycle. -/
structure Counts where
  matched : ℤ := 0
  ghost : ℤ := 0
  mismatched : ℤ := 0
  newCount : ℤ := 0
  deriving DecidableEq

/-- Counts a workload under its class, in 32 bits. -/
def Counts.add (counts : Counts) : Classification → Counts
  | .matched => { counts with matched := wrapped 32 (counts.matched + 1) }
  | .ghost => { counts with ghost := wrapped 32 (counts.ghost + 1) }
  | .mismatched => { counts with mismatched := wrapped 32 (counts.mismatched + 1) }
  | .new => { counts with newCount := wrapped 32 (counts.newCount + 1) }

/-! ### One cycle -/

/-- `NewWorkloadGraceExtra`. -/
def newWorkloadGraceExtra : ℤ :=
  30 * second

/-- `ReconcilerMaxBackoff`. -/
def reconcilerMaxBackoff : ℤ :=
  30 * 60 * second

/-- `Reconciler`, with the four gauges `Counts()` returns and the three metrics only the reconciler
writes. -/
structure Reconciler where
  interval : ℤ
  currentBackoff : ℤ
  gauges : Counts := {}
  matchedServices : ℤ := 0
  ghostServices : ℤ := 0
  unmatchedWorkloads : ℤ := 0
  deriving DecidableEq

/-- `NewReconciler`. -/
def newReconciler (interval : ℤ) : Reconciler :=
  let interval := if interval ≤ 0 then defaultInterval else interval
  { interval := interval, currentBackoff := interval }

/-- What the calls of one cycle answer: the active services client and what the server makes of its
request, the three lists, and the clock while each workload is classified. -/
structure ReconcilerCycle where
  services : ServicesClient
  answer : ServicesOutcome
  listing : Listing
  clock : ℕ → Time

/-- The services the client of the cycle returns. -/
def ReconcilerCycle.registered (cycle : ReconcilerCycle) : ServicesOutcome :=
  cycle.services.list cycle.answer

/-- The response was empty: the wait is doubled, up to the ceiling. -/
def Reconciler.backOff (r : Reconciler) : Reconciler :=
  let doubled := wrapped 64 (r.currentBackoff * 2)
  { r with
    currentBackoff := if doubled > reconcilerMaxBackoff then reconcilerMaxBackoff else doubled }

/-- The response was not empty: the wait is the interval again. -/
def Reconciler.resetBackoff (r : Reconciler) : Reconciler :=
  { r with currentBackoff := r.interval }

/-- The counters of the classification loop. -/
def countClasses (workloads : List WorkloadInfo) (byID : AList (fun _ : String ↦ ServiceEntry))
    (gracePeriod : ℤ) (clock : ℕ → Time) : Counts :=
  (workloads.mapIdx fun index w ↦ classify w byID gracePeriod (clock index)).foldl Counts.add {}

/-- Stores the counters in the gauges and the metrics. -/
def Reconciler.store (r : Reconciler) (counts : Counts) : Reconciler :=
  { r with
    gauges := counts
    matchedServices := counts.matched
    ghostServices := counts.ghost
    unmatchedWorkloads := counts.mismatched }

/-- `Reconciler.runOnce`. -/
def Reconciler.runOnce (r : Reconciler) (cycle : ReconcilerCycle) :
    Reconciler × Except String Unit :=
  match cycle.registered with
  | .error text => (r, .error s!"reconciler: list services: {text}")
  | .ok registered =>
    if registered.length = 0 then (r.backOff, .ok ())
    else
      let r := r.resetBackoff
      match listWorkloads cycle.listing with
      | .error text => (r, .error text)
      | .ok workloads =>
        let gracePeriod := wrapped 64 (r.interval + newWorkloadGraceExtra)
        (r.store (countClasses workloads (registeredByID registered) gracePeriod cycle.clock),
          .ok ())

/-! ### What a cycle can do -/

/-- The cases of a cycle: the services cannot be fetched, none is registered, a list fails, or every
listed workload is classified. -/
inductive ReconcilerRun (r : Reconciler) (cycle : ReconcilerCycle) :
    Reconciler × Except String Unit → Prop
  | servicesFailed {text : String} (hregistered : cycle.registered = .error text) :
      ReconcilerRun r cycle (r, .error s!"reconciler: list services: {text}")
  | noServices (hregistered : cycle.registered = .ok []) :
      ReconcilerRun r cycle (r.backOff, .ok ())
  | listFailed {registered : List ServiceEntry} {text : String}
      (hregistered : cycle.registered = .ok registered) (hsome : registered ≠ [])
      (hlist : listWorkloads cycle.listing = .error text) :
      ReconcilerRun r cycle (r.resetBackoff, .error text)
  | classified {registered : List ServiceEntry} {workloads : List WorkloadInfo}
      (hregistered : cycle.registered = .ok registered) (hsome : registered ≠ [])
      (hlist : listWorkloads cycle.listing = .ok workloads) :
      ReconcilerRun r cycle (r.resetBackoff.store (countClasses workloads
        (registeredByID registered) (wrapped 64 (r.interval + newWorkloadGraceExtra))
        cycle.clock), .ok ())

theorem reconcilerRun_runOnce (r : Reconciler) (cycle : ReconcilerCycle) :
    ReconcilerRun r cycle (r.runOnce cycle) := by
  unfold Reconciler.runOnce
  cases hregistered : cycle.registered with
  | error text => exact .servicesFailed hregistered
  | ok registered =>
    by_cases hnone : registered = []
    · rw [hnone] at hregistered ⊢
      exact .noServices hregistered
    · dsimp only
      rw [if_neg (fun hlength ↦ hnone (List.eq_nil_of_length_eq_zero hlength))]
      cases hlist : listWorkloads cycle.listing with
      | error text => exact .listFailed hregistered hnone hlist
      | ok workloads => exact .classified hregistered hnone hlist

/-- The entry of a listed workload, by its kind and metadata. -/
def workloadInfoOf (w : Workload) : WorkloadInfo :=
  workloadInfo w.kind.text w.metadata

/-- The reconciler leaves no listed workload out. -/
theorem listWorkloads_ok (deps : List Deployment) (sts : List StatefulSet) (ds : List DaemonSet) :
    listWorkloads ⟨.ok deps, .ok sts, .ok ds⟩ =
      .ok ((listedWorkloads deps sts ds).map workloadInfoOf) := by
  unfold listedWorkloads
  simp only [List.map_append, List.map_map]
  rfl

/-- The workloads are listed exactly when all three lists are answered. -/
theorem listWorkloads_eq_ok {listing : Listing} {workloads : List WorkloadInfo} :
    listWorkloads listing = .ok workloads ↔
      ∃ deps sts ds, listing = ⟨.ok deps, .ok sts, .ok ds⟩ ∧
        workloads = (listedWorkloads deps sts ds).map workloadInfoOf := by
  obtain ⟨deployments, statefulSets, daemonSets⟩ := listing
  constructor
  · intro hlisted
    cases deployments with
    | error text => exact absurd hlisted (by simp [listWorkloads, bind, Except.bind])
    | ok deps =>
      cases statefulSets with
      | error text => exact absurd hlisted (by simp [listWorkloads, bind, Except.bind])
      | ok sts =>
        cases daemonSets with
        | error text => exact absurd hlisted (by simp [listWorkloads, bind, Except.bind])
        | ok ds =>
          rw [listWorkloads_ok] at hlisted
          exact ⟨deps, sts, ds, rfl, (Except.ok.inj hlisted).symm⟩
  · rintro ⟨deps, sts, ds, hlisting, rfl⟩
    rw [hlisting, listWorkloads_ok]

end IncidentaryOperator.Discovery
