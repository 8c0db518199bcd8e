import IncidentaryOperator.Mapper.WorkloadIdentity

/-!
# Adds of stable workloads

A restart, a change of leader and a relist deliver every object of the cluster as an add. For a
workload with no rollout under way such an add is no news.

StatefulSets and DaemonSets are indeed silent, and of the five outcomes of a Deployment four are.
The fifth is the rollback: a change cause counts as new when it differs from the old one, and on an
add the old one is empty. So each Deployment that was once rolled back and says so in its change
cause is reported again as rolled back at each add (`stable_add_silent_iff`).
-/

set_option autoImplicit false
set_option relaxedAutoImplicit false

namespace IncidentaryOperator.Mapper

open Foundation WireFormat Kubernetes Identity

/-- A workload with no rollout under way. -/
def Stable : Object → Prop
  | .deployment d => stable d = true
  | .statefulSet s => s.updateRevision = s.currentRevision
  | .daemonSet d => d.updatedNumberScheduled = d.desiredNumberScheduled
  | _ => False

/-- The change cause of a Deployment speaks of a rollback. -/
def mentionsRollback (d : Deployment) : Bool :=
  containsLower (d.metadata.annotations.at changeCauseAnnotation) "rollback"

/-! ### Deployments -/

/-- On an add every change cause is new, and no revision decreases. -/
theorem rolledBack_add (d : Deployment) : rolledBack none d = mentionsRollback d := by
  have hempty : containsLower "" "rollback" = false := by decide
  unfold rolledBack isRollback annotationBefore mentionsRollback
  by_cases hcause : d.metadata.annotations.at changeCauseAnnotation = ""
  · simp [hcause, hempty]
  · simp [hcause]

/-- The add of a Deployment whose new ReplicaSet is available has no other outcome. -/
theorem deployOutcomes_add_of_stable {d : Deployment} (hstable : Stable (.deployment d)) :
    deployOutcomes none d = [] := by
  obtain ⟨progressing, hcond, hprogress⟩ := Option.any_eq_true _ _ |>.mp hstable
  obtain ⟨hstatus, hreason⟩ : progressing.status = "True" ∧
      progressing.reason = reasonNewReplicaSetAvailable := by simpa using hprogress
  have hcreated : reasonNewReplicaSetAvailable ≠ reasonNewReplicaSetCreated := by decide
  have hstarted : ∀ oldRev newRev, isDeployStarted none d oldRev newRev = false := by
    intro oldRev newRev
    simp [isDeployStarted, hcond, progressingCreated, hreason, hcreated]
  have hsucceeded : isDeploySucceeded none d = false := by
    unfold isDeploySucceeded
    cases findDeploymentCondition d.conditions "Available" <;> simp [hcond]
  have hfailed : isDeployFailed none d = false := by
    simp [isDeployFailed, hcond, hstatus]
  have hcancelled : isDeployCancelled none d = false := rfl
  simp [deployOutcomes, hstarted, hsucceeded, hfailed, hcancelled]

theorem domain_rolloutBuilds {rt : Runtime} {old : Option Deployment} {n : Deployment} :
    ∀ build ∈ rolloutBuilds rt old n, ∀ number,
      (build number).kind.domain = .infrastructure := by
  unfold rolloutBuilds
  split_ifs with hsame
  · simp
  · intro build hbuild number
    rw [List.mem_singleton.mp hbuild]
    exact (by decide : Kind.k8sDeployRollout.domain = .infrastructure)

/-- Deployments: silent unless the change cause speaks of a rollback and the cache can be read. -/
theorem deployment_add_silent_iff (rt : Runtime) (reader : Reader) (seq : ℕ) {d : Deployment}
    (hstable : Stable (.deployment d)) :
    (∀ ev ∈ returned (dispatchDeployment rt reader seq none d), ev.kind.domain ≠ .deployment) ↔
      (mentionsRollback d = true → cachedServiceID reader ⟨.deployment, d.metadata⟩ = none) := by
  have hrollout : ∀ ev ∈ numbered seq (rolloutBuilds rt none d), ev.kind.domain ≠ .deployment := by
    refine (forall_mem_numbered_const (· ≠ Domain.deployment) domain_rolloutBuilds).mpr fun _ ↦ ?_
    decide
  have hlifecycle : ∀ serviceID start, (∀ ev ∈ numbered start (lifecycleBuilds rt none d serviceID),
      ev.kind.domain ≠ .deployment) ↔ ¬ mentionsRollback d = true := by
    intro serviceID start
    rw [forall_mem_numbered_const (· ≠ Domain.deployment) domain_lifecycleBuilds,
      lifecycleBuilds_ne_nil, rolledBack_add, deployOutcomes_add_of_stable hstable]
    simp
  rw [dispatchDeployment_eq]
  refine forall_mem_resolved.trans ?_
  simp only [numbered_append, List.forall_mem_append, and_iff_right hrollout, hlifecycle]
  constructor
  · intro hsilent hmentions
    by_contra hread
    obtain ⟨serviceID, hcached⟩ := Option.ne_none_iff_exists'.mp hread
    exact hsilent serviceID ((resolveWorkloadServiceID_eq_ok ⟨.deployment, d.metadata⟩).mpr hcached)
      hmentions
  · intro hunread serviceID hres hmentions
    have hcached := (resolveWorkloadServiceID_eq_ok ⟨.deployment, d.metadata⟩).mp hres
    rw [hunread hmentions] at hcached
    exact absurd hcached (by simp)

/-! ### StatefulSets and DaemonSets -/

theorem statefulSetBuilds_add_of_stable (rt : Runtime) {s : StatefulSet}
    (hstable : Stable (.statefulSet s)) (serviceID : String) :
    statefulSetBuilds rt none s serviceID = [] := by
  have hcurrent : s.updateRevision = s.currentRevision := hstable
  have hstarted : isStatefulSetStarted none s = false := by
    simp [isStatefulSetStarted, hcurrent]
  have hsucceeded : isStatefulSetSucceeded none s = false := rfl
  simp [statefulSetBuilds, hstarted, hsucceeded]

theorem daemonSetBuilds_add_of_stable (rt : Runtime) {d : DaemonSet}
    (hstable : Stable (.daemonSet d)) (serviceID : String) :
    daemonSetBuilds rt none d serviceID = [] := by
  have hupdated : d.updatedNumberScheduled = d.desiredNumberScheduled := hstable
  have hstarted : isDaemonSetStarted none d = false := by
    simp [isDaemonSetStarted, hupdated]
  have hsucceeded : isDaemonSetSucceeded none d = false := rfl
  simp [daemonSetBuilds, hstarted, hsucceeded]

/-- The add of a stable workload makes the mapper emit no `DEPLOY_*` event if and only if it is not
a Deployment whose change cause speaks of a rollback and whose cached version can be read. Assumes:
the object is a Deployment whose `Progressing` condition is true with the reason
`NewReplicaSetAvailable`, a StatefulSet at its update revision, or a DaemonSet with all pods
updated. -/
theorem stable_add_silent_iff (rt : Runtime) (reader : Reader) (seq : ℕ) {obj : Object}
    (hstable : Stable obj) :
    (∀ ev ∈ returned (dispatch rt reader seq none (some obj)), ev.kind.domain ≠ .deployment) ↔
      ∀ d, obj = .deployment d → mentionsRollback d = true →
        cachedServiceID reader ⟨.deployment, d.metadata⟩ = none := by
  cases obj with
  | deployment d =>
    refine (deployment_add_silent_iff rt reader seq hstable).trans ⟨?_, fun h ↦ h d rfl⟩
    rintro hsilent _ ⟨⟩
    exact hsilent
  | statefulSet s =>
    refine iff_of_true ?_ fun d hd ↦ nomatch hd
    change ∀ ev ∈ returned (fromStatefulSetChange rt reader seq none s), _
    rw [fromStatefulSetChange_eq]
    refine forall_mem_resolved.mpr fun serviceID _ ↦ ?_
    rw [statefulSetBuilds_add_of_stable rt hstable]
    simp
  | daemonSet d =>
    refine iff_of_true ?_ fun d hd ↦ nomatch hd
    change ∀ ev ∈ returned (fromDaemonSetChange rt reader seq none d), _
    rw [fromDaemonSetChange_eq]
    refine forall_mem_resolved.mpr fun serviceID _ ↦ ?_
    rw [daemonSetBuilds_add_of_stable rt hstable]
    simp
  | _ => exact absurd hstable (by simp [Stable])

/-- A Deployment whose rollout is long finished, by its change cause. -/
def settled (changeCause : String) : Deployment where
  metadata :=
    { name := "api"
      namespaceName := "prod"
      annotations := (AList.singleton revisionAnnotation "7").insert changeCauseAnnotation
        changeCause }
  conditions :=
    [{ type := "Progressing", status := "True", reason := reasonNewReplicaSetAvailable }]

/-- After a restart, a Deployment with an ordinary change cause. -/
theorem stable_add_silent_iff_restarted :
    Stable (.deployment (settled "image 1.4")) ∧
    ∀ ev ∈ returned (dispatch ⟨fun _ ↦ 1, fun _ ↦ "evt"⟩ (cacheOf (settled "image 1.4")) 0 none
      (some (.deployment (settled "image 1.4")))), ev.kind.domain ≠ .deployment := by
  have hstable : Stable (.deployment (settled "image 1.4")) := rfl
  refine ⟨hstable, (stable_add_silent_iff _ _ 0 hstable).mpr ?_⟩
  rintro _ ⟨⟩ hmentions
  exact absurd hmentions (by decide)

/-- After a restart, a Deployment that was rolled back long ago is reported as rolled back. -/
theorem stable_add_reports_rollback :
    Stable (.deployment (settled "Rollback to 1.3")) ∧
    (returned (dispatch ⟨fun _ ↦ 1, fun _ ↦ "evt"⟩ (cacheOf (settled "Rollback to 1.3")) 0 none
      (some (.deployment (settled "Rollback to 1.3"))))).map Event.kind =
        [.k8sDeployRollout, .deployRolledBack] :=
  ⟨rfl, by decide⟩

end IncidentaryOperator.Mapper
