import IncidentaryOperator.Mapper.Emission

/-!
# Well-formed events

Every event `Dispatch` returns for a named object is one the server accepts the shape of: it has a
service id, a kind of the two domains the operator reports, the severity of its kind, and a series
block only for a count of at least two, starting at the event's own time and not ending before it.

The service id cannot be empty because each path ends in the name of the notified object, or of the
object an event regards, whatever the resolver finds. The series block is the same construction in
all three places (`seriesOf`), so the order of its times does not depend on the times the event
carries, out of order, absent or wrapped as they may be.
-/

set_option autoImplicit false
set_option relaxedAutoImplicit false

namespace IncidentaryOperator.Mapper

open Foundation WireFormat Kubernetes Identity

/-- What the server checks of an event. -/
structure WellFormed (ev : Event) : Prop where
  serviceID : ev.serviceID ≠ ""
  domain : ev.kind.domain = .infrastructure ∨ ev.kind.domain = .deployment
  severity : ev.severity = severityForKind ev.kind
  series : ∀ series, ev.series = some series →
    2 ≤ series.count ∧ series.firstAt = ev.occurredAt ∧ series.firstAt ≤ series.lastAt

/-- An object with a name, or an event whose regarding object has one. -/
def Named : Object → Prop
  | .k8sEvent ev => ev.regarding.name ≠ ""
  | .coreEvent ev => ev.involvedObject.name ≠ ""
  | .node n => n.metadata.name ≠ ""
  | .pod n => n.metadata.name ≠ ""
  | .hpa n => n.metadata.name ≠ ""
  | .deployment n => n.metadata.name ≠ ""
  | .statefulSet n => n.metadata.name ≠ ""
  | .daemonSet n => n.metadata.name ≠ ""
  | .replicaSet n => n.metadata.name ≠ ""
  | .other metadata => metadata.name ≠ ""

/-! ### Service ids -/

/-- The fallback to a name that is not empty is not empty. -/
theorem fallbackServiceID_ne_empty (res : Result) {name : String} (hname : name ≠ "") :
    fallbackServiceID res name ≠ "" := by
  unfold fallbackServiceID
  split_ifs with hempty
  · exact hname
  · exact hempty

/-- So is what a workload resolves to. -/
theorem resolveWorkloadServiceID_ne_empty {reader : Reader}
    {kind namespaceName name serviceID : String} (hname : name ≠ "")
    (hres : resolveWorkloadServiceID reader kind namespaceName name = .ok serviceID) :
    serviceID ≠ "" := by
  unfold resolveWorkloadServiceID at hres
  split at hres
  · exact absurd hres (by simp)
  · next res _ =>
    obtain rfl : fallbackServiceID res name = serviceID := by simpa using hres
    exact fallbackServiceID_ne_empty res hname

/-! ### Series -/

/-- The series block of a count of at least two. -/
theorem seriesOf_valid {count : ℤ} (hcount : 2 ≤ count) (lastAt occurredAt : ℤ) :
    2 ≤ (seriesOf count lastAt occurredAt).count ∧
      (seriesOf count lastAt occurredAt).firstAt = occurredAt ∧
      (seriesOf count lastAt occurredAt).firstAt ≤ (seriesOf count lastAt occurredAt).lastAt :=
  ⟨hcount, rfl, Int.le_max_right _ _⟩

/-- The series block of `FromK8sEvent`. -/
theorem k8sEventSeries_valid {ev : K8sEvent} {occurredAt : ℤ} {series : Series}
    (hseries : k8sEventSeries ev occurredAt = some series) :
    2 ≤ series.count ∧ series.firstAt = occurredAt ∧ series.firstAt ≤ series.lastAt := by
  unfold k8sEventSeries at hseries
  split at hseries
  · split_ifs at hseries with hcount
    rw [← Option.some.inj hseries]
    exact seriesOf_valid hcount _ _
  · exact absurd hseries (by simp)

/-- The two series blocks of `FromCoreEvent`. -/
theorem coreEventSeries_valid {ev : CoreEvent} {occurredAt : ℤ} {series : Series}
    (hseries : coreEventSeries ev occurredAt = some series) :
    2 ≤ series.count ∧ series.firstAt = occurredAt ∧ series.firstAt ≤ series.lastAt := by
  unfold coreEventSeries at hseries
  split_ifs at hseries with htop
  · rw [← Option.some.inj hseries]
    exact seriesOf_valid htop _ _
  · split at hseries
    · split_ifs at hseries with hcount
      rw [← Option.some.inj hseries]
      exact seriesOf_valid hcount _ _
    · exact absurd hseries (by simp)

/-! ### Builders -/

/-- An event with the severity of its kind and no series block is well formed when its service id is
not empty. -/
theorem wellFormed_of_no_series {ev : Event} (hserviceID : ev.serviceID ≠ "")
    (hseverity : ev.severity = severityForKind ev.kind) (hseries : ev.series = none) :
    WellFormed ev :=
  ⟨hserviceID, Kind.domain_infrastructure_or_deployment ev.kind, hseverity, by simp [hseries]⟩

/-- `DEPLOY_*` events. -/
theorem wellFormed_buildDeployEvent (rt : Runtime) (seq : ℕ) (metadata : ObjectMeta)
    {serviceID : String} (kind : Kind) (reason : String) (occurredAt : ℤ)
    (extra : List (String × AttrValue)) (hserviceID : serviceID ≠ "") :
    WellFormed (buildDeployEvent rt seq metadata serviceID kind reason occurredAt extra) :=
  wellFormed_of_no_series hserviceID rfl rfl

/-- A list of builders of well-formed events gives well-formed events. -/
theorem wellFormed_numbered {seq : ℕ} {builds : List (ℕ → Event)}
    (hbuilds : ∀ build ∈ builds, ∀ number, WellFormed (build number)) :
    ∀ ev ∈ numbered seq builds, WellFormed ev := by
  intro ev hev
  obtain ⟨index, hindex, rfl⟩ := mem_numbered.mp hev
  exact hbuilds _ (List.getElem_mem hindex) _

/-! ### One path after the other -/

/-- Events of the events API. -/
theorem wellFormed_k8sWireEvent (rt : Runtime) (seq : ℕ) {ev : K8sEvent} (kind : Kind)
    (res : Result) (hname : ev.regarding.name ≠ "") :
    WellFormed (k8sWireEvent rt seq ev kind res) :=
  ⟨fallbackServiceID_ne_empty res hname, Kind.domain_infrastructure_or_deployment kind, rfl,
    fun _ hseries ↦ k8sEventSeries_valid hseries⟩

/-- Events of the core API. -/
theorem wellFormed_coreWireEvent (rt : Runtime) (seq : ℕ) {ev : CoreEvent} (kind : Kind)
    (res : Result) (hname : ev.involvedObject.name ≠ "") :
    WellFormed (coreWireEvent rt seq ev kind res) :=
  ⟨fallbackServiceID_ne_empty res hname, Kind.domain_infrastructure_or_deployment kind, rfl,
    fun _ hseries ↦ coreEventSeries_valid hseries⟩

/-- Nodes. -/
theorem wellFormed_fromNodeConditionChange (rt : Runtime) (seq : ℕ) (old : Option Node) {n : Node}
    (hname : n.metadata.name ≠ "") :
    ∀ ev ∈ fromNodeConditionChange rt seq old n, WellFormed ev := by
  rw [fromNodeConditionChange_eq]
  refine wellFormed_numbered ?_
  simp only [List.forall_mem_map]
  intro transition _ number
  exact wellFormed_of_no_series hname rfl rfl

/-- Autoscalers: the target's name, or the autoscaler's own. -/
theorem wellFormed_hpaScaleEvent (rt : Runtime) (seq : ℕ) (old : HorizontalPodAutoscaler)
    {n : HorizontalPodAutoscaler} (hname : n.metadata.name ≠ "") :
    WellFormed (hpaScaleEvent rt seq old n) := by
  refine wellFormed_of_no_series ?_ rfl rfl
  show (if n.scaleTargetName = "" then n.metadata.name else n.scaleTargetName) ≠ ""
  split_ifs with hempty
  · exact hname
  · exact hempty

/-- Pods. -/
theorem wellFormed_podLifecycleEvent (rt : Runtime) (seq : ℕ) {pod : Pod} (kind : Kind)
    (reason : String) (res : Result) (hname : pod.metadata.name ≠ "") :
    WellFormed (podLifecycleEvent rt seq pod kind reason res) :=
  wellFormed_of_no_series (fallbackServiceID_ne_empty res hname) rfl rfl

/-- Deployments. -/
theorem wellFormed_dispatchDeployment (rt : Runtime) (reader : Reader) (seq : ℕ)
    (old : Option Deployment) {n : Deployment} (hname : n.metadata.name ≠ "") :
    ∀ ev ∈ returned (dispatchDeployment rt reader seq old n), WellFormed ev := by
  rw [dispatchDeployment_eq]
  refine forall_mem_resolved.mpr fun serviceID hres ↦ wellFormed_numbered ?_
  have hserviceID := resolveWorkloadServiceID_ne_empty hname hres
  refine List.forall_mem_append.mpr ⟨?_, ?_⟩
  · unfold rolloutBuilds
    split_ifs
    · simp
    · intro build hbuild number
      rw [List.mem_singleton.mp hbuild]
      exact wellFormed_of_no_series (fallbackServiceID_ne_empty _ hname) rfl rfl
  · unfold lifecycleBuilds
    split_ifs
    · intro build hbuild number
      rw [List.mem_singleton.mp hbuild]
      exact wellFormed_buildDeployEvent _ _ _ _ _ _ _ hserviceID
    · simp only [List.forall_mem_map]
      intro outcome _ number
      exact wellFormed_buildDeployEvent _ _ _ _ _ _ _ hserviceID

/-- StatefulSets. -/
theorem wellFormed_fromStatefulSetChange (rt : Runtime) (reader : Reader) (seq : ℕ)
    (old : Option StatefulSet) {n : StatefulSet} (hname : n.metadata.name ≠ "") :
    ∀ ev ∈ returned (fromStatefulSetChange rt reader seq old n), WellFormed ev := by
  rw [fromStatefulSetChange_eq]
  refine forall_mem_resolved.mpr fun serviceID hres ↦ wellFormed_numbered ?_
  have hevent : ∀ kind reason extra number,
      WellFormed (statefulSetEvent rt n serviceID kind reason extra number) :=
    fun _ _ _ _ ↦ wellFormed_buildDeployEvent _ _ _ _ _ _ _
      (resolveWorkloadServiceID_ne_empty hname hres)
  unfold statefulSetBuilds
  split_ifs <;> simp [hevent]

/-- DaemonSets. -/
theorem wellFormed_fromDaemonSetChange (rt : Runtime) (reader : Reader) (seq : ℕ)
    (old : Option DaemonSet) {n : DaemonSet} (hname : n.metadata.name ≠ "") :
    ∀ ev ∈ returned (fromDaemonSetChange rt reader seq old n), WellFormed ev := by
  rw [fromDaemonSetChange_eq]
  refine forall_mem_resolved.mpr fun serviceID hres ↦ wellFormed_numbered ?_
  have hevent : ∀ kind reason number,
      WellFormed (daemonSetEvent rt n serviceID kind reason number) :=
    fun _ _ _ ↦ wellFormed_buildDeployEvent _ _ _ _ _ _ _
      (resolveWorkloadServiceID_ne_empty hname hres)
  unfold daemonSetBuilds
  split_ifs <;> simp [hevent]

/-! ### All paths -/

/-- For every notification of named objects, every store and every clock, every event `Dispatch`
returns is well formed. Assumes: the notified objects have a name, and an event's regarding object
has one. -/
theorem dispatched_events_wellFormed (rt : Runtime) (reader : Reader) (seq : ℕ)
    {oldObj newObj : Option Object} (hold : ∀ obj ∈ oldObj, Named obj)
    (hnew : ∀ obj ∈ newObj, Named obj) :
    ∀ ev ∈ returned (dispatch rt reader seq oldObj newObj), WellFormed ev := by
  cases newObj with
  | none =>
    cases oldObj with
    | none => simp [dispatch]
    | some old =>
      cases old with
      | deployment d =>
        intro ev hev
        obtain ⟨-, serviceID, hres, rfl⟩ :=
          fromDeploymentDelete_eq_some.mp (mem_returned_toList.mp hev)
        have hname : d.metadata.name ≠ "" := hold _ rfl
        exact wellFormed_buildDeployEvent _ _ _ _ _ _ _
          (resolveWorkloadServiceID_ne_empty hname hres)
      | _ => simp [dispatch, dispatchDelete]
  | some new =>
    have hname : Named new := hnew new rfl
    cases new with
    | k8sEvent ev =>
      intro wire hwire
      obtain ⟨-, kind, res, -, -, rfl⟩ := fromK8sEvent_eq_some.mp (mem_returned_toList.mp hwire)
      exact wellFormed_k8sWireEvent rt seq kind res hname
    | coreEvent ev =>
      intro wire hwire
      obtain ⟨-, kind, res, -, -, rfl⟩ := fromCoreEvent_eq_some.mp (mem_returned_toList.mp hwire)
      exact wellFormed_coreWireEvent rt seq kind res hname
    | node n => exact wellFormed_fromNodeConditionChange rt seq _ hname
    | pod n =>
      intro ev hev
      obtain ⟨-, kind, reason, res, -, -, rfl⟩ := mem_fromPodStatusChange.mp hev
      exact wellFormed_podLifecycleEvent rt seq kind reason res hname
    | hpa n =>
      intro ev hev
      obtain ⟨before, -, -, rfl⟩ := fromHPAScale_eq_some.mp (Option.mem_toList.mp hev)
      exact wellFormed_hpaScaleEvent rt seq before hname
    | deployment n => exact wellFormed_dispatchDeployment rt reader seq _ hname
    | statefulSet n => exact wellFormed_fromStatefulSetChange rt reader seq _ hname
    | daemonSet n => exact wellFormed_fromDaemonSetChange rt reader seq _ hname
    | replicaSet rs => simp [dispatch]
    | other metadata => simp [dispatch]

/-- A crash-looping Pod that is gone from the cache, seen twelve times with all its times unset. -/
def repeatedBackOff : CoreEvent where
  reason := "BackOff"
  involvedObject := { kind := "Pod", namespaceName := "prod", name := "api-1" }
  count := 12

/-- Its event is well formed, series block included. -/
theorem dispatched_events_wellFormed_repeatedBackOff :
    (returned (dispatch ⟨fun _ ↦ 5, fun _ ↦ "evt"⟩ Reader.empty 0 none
      (some (.coreEvent repeatedBackOff)))).map Event.series = [some ⟨12, 5, 5⟩] ∧
    ∀ ev ∈ returned (dispatch ⟨fun _ ↦ 5, fun _ ↦ "evt"⟩ Reader.empty 0 none
      (some (.coreEvent repeatedBackOff))), WellFormed ev := by
  refine ⟨by decide, dispatched_events_wellFormed _ _ _ (by simp) ?_⟩
  rintro obj ⟨rfl⟩
  show repeatedBackOff.involvedObject.name ≠ ""
  decide

end IncidentaryOperator.Mapper
