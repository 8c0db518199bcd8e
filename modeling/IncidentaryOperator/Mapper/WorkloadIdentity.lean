import IncidentaryOperator.Identity.Workload
import IncidentaryOperator.Mapper.Emission

/-!
# The service id of workload events

The rollout event of a Deployment takes its service id from the object in hand. The `DEPLOY_*`
events of the three workload kinds re-read the workload from the cache, and take the service id from
what the cache holds at that moment, or the bare name when it holds nothing, as after a deletion.
So the events of a notification carry the identity of the notified object exactly when the cache
agrees with it, or nothing is reported that is read from the cache
(`workload_events_own_serviceID_iff`).
-/

set_option autoImplicit false
set_option relaxedAutoImplicit false

namespace IncidentaryOperator.Mapper

open Foundation WireFormat Kubernetes Identity

/-! ### The cache and the object in hand -/

/-- The object a notification is about: the new one, or the last known one for a delete. -/
def notified (oldObj newObj : Option Object) : Option Object :=
  newObj.or oldObj

/-- The service id under which the cache knows a workload, its bare name when it is not there, and
nothing when the read fails. -/
def cachedServiceID (reader : Reader) (workload : Workload) : Option String :=
  let name := workload.metadata.name
  if name = "" then some name
  else
    match readWorkload reader workload.kind workload.metadata.namespaceName name with
    | .ok cached => some (if ownServiceID cached = "" then name else ownServiceID cached)
    | .error .notFound => some name
    | .error (.failed _) => none

/-- The cache knows the workload under its own service id, or cannot be read. -/
def CacheAgrees (reader : Reader) (workload : Workload) : Prop :=
  ∀ serviceID, cachedServiceID reader workload = some serviceID →
    serviceID = ownServiceID workload.metadata

/-- `resolveWorkloadServiceID` is what the cache says. -/
theorem resolveWorkloadServiceID_eq_ok {reader : Reader} (workload : Workload)
    {serviceID : String} :
    resolveWorkloadServiceID reader workload.kind.text workload.metadata.namespaceName
      workload.metadata.name = .ok serviceID ↔
        cachedServiceID reader workload = some serviceID := by
  unfold resolveWorkloadServiceID cachedServiceID
  rw [resolveRef_workload]
  by_cases hname : workload.metadata.name = ""
  · simp [hname, fallbackServiceID]
  · simp only [hname, if_false]
    cases readWorkload reader workload.kind workload.metadata.namespaceName
      workload.metadata.name with
    | ok cached => simp [referenceOutcome, fallbackServiceID]
    | error failure =>
      cases failure with
      | notFound => simp [referenceOutcome, fallbackServiceID]
      | failed text => simp [referenceOutcome]

/-- The rollout event carries the identity of the object in hand. -/
theorem rolloutServiceID_eq (n : Deployment) : rolloutServiceID n = ownServiceID n.metadata := by
  unfold rolloutServiceID fallbackServiceID
  rw [resolveFromWorkload_serviceID]
  split_ifs with hempty
  · have hname : n.metadata.name = "" := by
      unfold ownServiceID at hempty
      split_ifs at hempty with hannotated
      · exact absurd hempty hannotated
      · exact hempty
    rw [hempty, hname]
  · rfl

/-! ### What is read from the cache -/

/-- The notification is reported by an event whose service id is read from the cache. -/
def lifecycleReported (oldObj newObj : Option Object) : Prop :=
  match newObj with
  | none =>
    match oldObj with
    | some (.deployment d) => isMidRollout d = true
    | _ => False
  | some (.deployment n) =>
    rolledBack (oldObj.bind asDeployment) n = true ∨
      deployOutcomes (oldObj.bind asDeployment) n ≠ []
  | some (.statefulSet n) => isStatefulSetStarted (oldObj.bind asStatefulSet) n = true ∨
    isStatefulSetSucceeded (oldObj.bind asStatefulSet) n = true
  | some (.daemonSet n) => isDaemonSetStarted (oldObj.bind asDaemonSet) n = true ∨
    isDaemonSetSucceeded (oldObj.bind asDaemonSet) n = true
  | some _ => False

/-- Events built with the service id read from the cache, when something is reported. -/
theorem cached_events_serviceID_iff {reader : Reader} (workload : Workload)
    {builds : String → List (ℕ → Event)} {seq : ℕ} {reported : Prop}
    (hbuilds : ∀ serviceID, ∀ build ∈ builds serviceID, ∀ number,
      (build number).serviceID = serviceID)
    (hreported : ∀ serviceID, builds serviceID ≠ [] ↔ reported) :
    (∀ serviceID, resolveWorkloadServiceID reader workload.kind.text
        workload.metadata.namespaceName workload.metadata.name = .ok serviceID →
      ∀ ev ∈ numbered seq (builds serviceID),
        ev.serviceID = ownServiceID workload.metadata) ↔
      (reported → CacheAgrees reader workload) := by
  have hpaths : ∀ serviceID, (∀ ev ∈ numbered seq (builds serviceID),
      ev.serviceID = ownServiceID workload.metadata) ↔
        (reported → serviceID = ownServiceID workload.metadata) := by
    intro serviceID
    rw [forall_mem_numbered_const (· = ownServiceID workload.metadata) (hbuilds serviceID),
      hreported serviceID]
  simp only [hpaths, resolveWorkloadServiceID_eq_ok, CacheAgrees]
  exact ⟨fun hall hrep serviceID hcached ↦ hall serviceID hcached hrep,
    fun hall serviceID hcached hrep ↦ hall hrep serviceID hcached⟩

theorem lifecycleBuilds_serviceID {rt : Runtime} {old : Option Deployment} {n : Deployment}
    {serviceID : String} : ∀ build ∈ lifecycleBuilds rt old n serviceID, ∀ number,
      (build number).serviceID = serviceID := by
  unfold lifecycleBuilds
  split_ifs with hrollback
  · intro build hbuild number
    rw [List.mem_singleton.mp hbuild]
    rfl
  · simp only [List.forall_mem_map]
    intro outcome _ number
    rfl

theorem rolloutBuilds_serviceID {rt : Runtime} {old : Option Deployment} {n : Deployment} :
    ∀ build ∈ rolloutBuilds rt old n, ∀ number,
      (build number).serviceID = ownServiceID n.metadata := by
  unfold rolloutBuilds
  split_ifs with hsame
  · simp
  · intro build hbuild number
    rw [List.mem_singleton.mp hbuild, ← rolloutServiceID_eq n]
    rfl

/-- Deployments: the rollout event is always right, the others as far as the cache agrees. -/
theorem deployment_serviceID_iff (rt : Runtime) (reader : Reader) (seq : ℕ)
    (old : Option Deployment) (n : Deployment) :
    (∀ ev ∈ returned (dispatchDeployment rt reader seq old n),
      ev.serviceID = ownServiceID n.metadata) ↔
      (rolledBack old n = true ∨ deployOutcomes old n ≠ [] →
        CacheAgrees reader ⟨.deployment, n.metadata⟩) := by
  have hrollout : ∀ ev ∈ numbered seq (rolloutBuilds rt old n),
      ev.serviceID = ownServiceID n.metadata :=
    (forall_mem_numbered_const (· = ownServiceID n.metadata) rolloutBuilds_serviceID).mpr
      fun _ ↦ rfl
  rw [dispatchDeployment_eq]
  refine forall_mem_resolved.trans ?_
  simp only [numbered_append, List.forall_mem_append, and_iff_right hrollout]
  exact cached_events_serviceID_iff ⟨.deployment, n.metadata⟩ (fun _ ↦ lifecycleBuilds_serviceID)
    fun _ ↦ lifecycleBuilds_ne_nil

/-- Deleted Deployments: the cache no longer holds the object, or another one of its name. -/
theorem deleted_serviceID_iff (rt : Runtime) (reader : Reader) (seq : ℕ) (d : Deployment) :
    (∀ ev ∈ returned ((fromDeploymentDelete rt reader seq d).map Option.toList),
      ev.serviceID = ownServiceID d.metadata) ↔
      (isMidRollout d = true → CacheAgrees reader ⟨.deployment, d.metadata⟩) := by
  constructor
  · intro hall hrunning serviceID hcached
    exact hall (deploymentEvent rt d serviceID .deployCancelled "DeletedMidRollout" seq)
      (mem_returned_toList.mpr (fromDeploymentDelete_eq_some.mpr
        ⟨hrunning, serviceID, (resolveWorkloadServiceID_eq_ok _).mpr hcached, rfl⟩))
  · intro hagrees ev hev
    obtain ⟨hrunning, serviceID, hres, rfl⟩ :=
      fromDeploymentDelete_eq_some.mp (mem_returned_toList.mp hev)
    exact hagrees hrunning serviceID
      ((resolveWorkloadServiceID_eq_ok ⟨.deployment, d.metadata⟩).mp hres)

theorem statefulSet_serviceID_iff (rt : Runtime) (reader : Reader) (seq : ℕ)
    (old : Option StatefulSet) (n : StatefulSet) :
    (∀ ev ∈ returned (fromStatefulSetChange rt reader seq old n),
      ev.serviceID = ownServiceID n.metadata) ↔
      (isStatefulSetStarted old n = true ∨ isStatefulSetSucceeded old n = true →
        CacheAgrees reader ⟨.statefulSet, n.metadata⟩) := by
  rw [fromStatefulSetChange_eq]
  refine forall_mem_resolved.trans ?_
  refine cached_events_serviceID_iff ⟨.statefulSet, n.metadata⟩ (fun serviceID ↦ ?_)
    fun _ ↦ statefulSetBuilds_ne_nil
  unfold statefulSetBuilds
  split_ifs <;> simp [statefulSetEvent, buildDeployEvent]

theorem daemonSet_serviceID_iff (rt : Runtime) (reader : Reader) (seq : ℕ)
    (old : Option DaemonSet) (n : DaemonSet) :
    (∀ ev ∈ returned (fromDaemonSetChange rt reader seq old n),
      ev.serviceID = ownServiceID n.metadata) ↔
      (isDaemonSetStarted old n = true ∨ isDaemonSetSucceeded old n = true →
        CacheAgrees reader ⟨.daemonSet, n.metadata⟩) := by
  rw [fromDaemonSetChange_eq]
  refine forall_mem_resolved.trans ?_
  refine cached_events_serviceID_iff ⟨.daemonSet, n.metadata⟩ (fun serviceID ↦ ?_)
    fun _ ↦ daemonSetBuilds_ne_nil
  unfold daemonSetBuilds
  split_ifs <;> simp [daemonSetEvent, buildDeployEvent]

/-! ### All notifications -/

/-- For every notification about a Deployment, StatefulSet or DaemonSet and every content of the
cache, all events `Dispatch` returns carry the service id of the notified object exactly when
nothing is reported from the cache or the cache agrees with the object. Assumes: the notification is
about such a workload. -/
theorem workload_events_own_serviceID_iff (rt : Runtime) (reader : Reader) (seq : ℕ)
    (oldObj newObj : Option Object) {workload : Workload}
    (hworkload : (notified oldObj newObj).bind Workload.ofObject = some workload) :
    (∀ ev ∈ returned (dispatch rt reader seq oldObj newObj),
      ev.serviceID = ownServiceID workload.metadata) ↔
      (lifecycleReported oldObj newObj → CacheAgrees reader workload) := by
  cases newObj with
  | none =>
    cases oldObj with
    | none => simp [notified] at hworkload
    | some old =>
      cases old with
      | deployment d =>
        obtain rfl := Option.some.inj hworkload
        exact deleted_serviceID_iff rt reader seq d
      | _ => simp [dispatch, dispatchDelete, lifecycleReported]
  | some new =>
    cases new with
    | deployment n =>
      obtain rfl := Option.some.inj hworkload
      exact deployment_serviceID_iff rt reader seq (oldObj.bind asDeployment) n
    | statefulSet n =>
      obtain rfl := Option.some.inj hworkload
      exact statefulSet_serviceID_iff rt reader seq (oldObj.bind asStatefulSet) n
    | daemonSet n =>
      obtain rfl := Option.some.inj hworkload
      exact daemonSet_serviceID_iff rt reader seq (oldObj.bind asDaemonSet) n
    | _ => simp [notified, Workload.ofObject] at hworkload

/-- A Deployment in the middle of its first rollout. -/
def midRollout (annotations : StringMap) : Deployment where
  metadata :=
    { name := "api"
      namespaceName := "prod"
      annotations := annotations.insert revisionAnnotation "1" }
  conditions := [{ type := "Progressing", status := "True", reason := reasonNewReplicaSetCreated }]

/-- A cache that holds one version of the Deployment. -/
def cacheOf (d : Deployment) : Reader :=
  { Reader.empty with deployment := fun _ _ ↦ .ok d }

/-- The deletion of a Deployment without the annotation, which the cache no longer holds: the
cancellation carries the name, as it should. -/
theorem workload_events_own_serviceID_iff_unannotated :
    lifecycleReported (some (.deployment (midRollout ∅))) none ∧
    ∀ ev ∈ returned (dispatch ⟨fun _ ↦ 1, fun _ ↦ "evt"⟩ Reader.empty 0
      (some (.deployment (midRollout ∅))) none), ev.serviceID = "api" := by
  refine ⟨rfl, ?_⟩
  refine (workload_events_own_serviceID_iff _ Reader.empty 0 (some (.deployment (midRollout ∅)))
    none rfl).mpr fun _ serviceID hcached ↦ ?_
  obtain rfl := Option.some.inj hcached
  rfl

/-- A Deployment of the service `payments` is deleted in the middle of a rollout, and the
cancellation goes to the service `api`. The same Deployment is added while the cache already holds a
version that belongs to `billing`, and the two events of the one notification go to two services. -/
theorem workload_events_under_other_serviceID :
    ownServiceID (midRollout (AList.singleton serviceIDAnnotation "payments")).metadata =
      "payments" ∧
    (returned (dispatch ⟨fun _ ↦ 1, fun _ ↦ "evt"⟩ Reader.empty 0
      (some (.deployment (midRollout (AList.singleton serviceIDAnnotation "payments"))))
      none)).map Event.serviceID = ["api"] ∧
    (returned (dispatch ⟨fun _ ↦ 1, fun _ ↦ "evt"⟩
      (cacheOf (midRollout (AList.singleton serviceIDAnnotation "billing"))) 0 none
      (some (.deployment (midRollout (AList.singleton serviceIDAnnotation "payments")))))).map
        Event.serviceID = ["payments", "billing"] :=
  ⟨by decide, by decide, by decide⟩

end IncidentaryOperator.Mapper
