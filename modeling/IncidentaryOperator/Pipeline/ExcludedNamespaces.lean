import IncidentaryOperator.Discovery.Cycles
import IncidentaryOperator.Mapper.OccurredAt
import IncidentaryOperator.Pipeline.Config
import IncidentaryOperator.Pipeline.RecordUpload

/-!
# Excluded namespaces

One exclude list is configured for the operator, and the discovery loop heeds it: no report names a
workload of an excluded namespace. The pipeline handler is built without it. A notification from an
excluded namespace is treated as any other, so it enqueues nothing only if it is one that would
enqueue nothing from anywhere (`excluded_silent_iff`).

`Reportable` describes, object kind by object kind, the notifications that enqueue something: a
transition between the two snapshots that the mapper reports, an object that resolves, and a kind
the severity filter lets through.
-/

set_option autoImplicit false
set_option relaxedAutoImplicit false

namespace IncidentaryOperator.Pipeline

open Foundation WireFormat Kubernetes Identity FilterPolicy Mapper Discovery

/-! ### The excluded namespaces -/

/-- The namespaces the operator is told not to watch: the default ones and the configured ones. -/
def excludedNamespaces (env : Environment) : Finset String :=
  defaultExcludedNamespaces ∪ (excludeNamespaces env).toFinset

theorem foldl_insert_eq (names : List String) (start : Finset String) :
    names.foldl (fun excludes ns ↦ insert ns excludes) start = start ∪ names.toFinset := by
  induction names generalizing start with
  | nil => simp
  | cons name rest ih =>
    rw [List.foldl_cons, ih, List.toFinset_cons, Finset.insert_union, Finset.union_insert]

theorem discoveryOptions_excludeNamespaces (env : Environment) :
    (discoveryOptions env).excludeNamespaces = excludeNamespaces env := by
  rw [discoveryOptions]

theorem newLoop_excludes (opts : Options) :
    (newLoop opts).excludes = defaultExcludedNamespaces ∪ opts.excludeNamespaces.toFinset := by
  rw [← foldl_insert_eq]
  rfl

/-- The namespaces an object belongs to: its own and, for an event, the one of the object it
regards. The own namespace of an event, which no code reads, is given beside it. -/
def objectNamespaces (eventNamespace : String) : Object → List String
  | .k8sEvent ev => [eventNamespace, ev.regarding.namespaceName]
  | .coreEvent ev => [eventNamespace, ev.involvedObject.namespaceName]
  | .node n => [n.metadata.namespaceName]
  | .pod n => [n.metadata.namespaceName]
  | .hpa n => [n.metadata.namespaceName]
  | .deployment n => [n.metadata.namespaceName]
  | .statefulSet n => [n.metadata.namespaceName]
  | .daemonSet n => [n.metadata.namespaceName]
  | .replicaSet n => [n.metadata.namespaceName]
  | .other metadata => [metadata.namespaceName]

/-- A notification is about an object in one of the namespaces. -/
def Concerns (namespaces : Finset String) (eventNamespace : String) (notification : Notification) :
    Prop :=
  ∃ obj ∈ notification.oldObj.toList ++ notification.newObj.toList,
    ∃ ns ∈ objectNamespaces eventNamespace obj, ns ∈ namespaces

/-! ### Discovery -/

theorem namespaceName_eligibleWorkloads {excludes : Finset String} {reader : Reader}
    {deps : List Deployment} {sts : List StatefulSet} {ds : List DaemonSet} :
    ∀ workload ∈ eligibleWorkloads excludes reader deps sts ds,
      workload.namespaceName ∉ excludes := by
  have hnames := map_eligibleWorkloads reader Client.TopologyWorkload.namespaceName
    (fun w ↦ w.metadata.namespaceName) (fun _ _ _ _ _ _ ↦ rfl) excludes deps sts ds
  intro workload hworkload
  have hname := List.mem_map_of_mem (f := Client.TopologyWorkload.namespaceName) hworkload
  rw [hnames] at hname
  obtain ⟨listed, hlisted, heq⟩ := List.mem_map.mp hname
  have heligible := (List.mem_filter.mp hlisted).2
  rw [← heq]
  simp only [eligible, Bool.and_eq_true, decide_eq_true_eq] at heligible
  exact heligible.1

/-- No report of a cycle names a workload of a namespace its loop excludes. -/
theorem handed_namespaces {loop : Loop} {cycle : Cycle} {report : Client.TopologyReport}
    (hhanded : (runOnce loop cycle).2.handed = some report) :
    ∀ workload ∈ report.workloads, workload.namespaceName ∉ loop.excludes := by
  obtain ⟨deps, sts, ds, hlists, hfound⟩ :=
    (handed_isSome_iff loop cycle).mp (by rw [hhanded]; rfl)
  have hmap := handed_of_lists loop hlists
  rw [if_neg hfound, hhanded, Option.map_some] at hmap
  rw [Option.some.inj hmap]
  exact namespaceName_eligibleWorkloads

/-! ### What a notification enqueues -/

/-- The filter lets the events of a kind pass, by the one severity of the kind. -/
def passes (f : SeverityFilter) (kind : Kind) : Bool :=
  kind.domain = .deployment || isTier1 kind ||
    (parseSeverity (severityForKind kind).text).rank ≥ f.minSeverity.rank

theorem accept_eq_passes (f : SeverityFilter) {ev : Event}
    (hseverity : ev.severity = severityForKind ev.kind) : f.accept ev = passes f ev.kind := by
  unfold SeverityFilter.accept passes
  rw [hseverity]
  by_cases hdomain : ev.kind.domain = .deployment
  · simp [hdomain]
  · by_cases htier : isTier1 ev.kind = true
    · simp [htier]
    · simp [hdomain, htier]

/-- The notifications that enqueue an event, whatever the namespace. -/
def Reportable (reader : Reader) (f : SeverityFilter) (oldObj newObj : Option Object) : Prop :=
  match newObj with
  | none =>
    match oldObj with
    | some (.deployment d) => isMidRollout d = true ∧ Resolvable reader "Deployment" d.metadata
    | _ => False
  | some (.k8sEvent ev) => RecordMapped reader ev.reason ev.regarding
  | some (.coreEvent ev) => RecordMapped reader ev.reason ev.involvedObject
  | some (.node n) => nodeTransitions (oldObj.bind asNode) n ≠ []
  | some (.pod n) => podPhase (oldObj.bind asPod) ≠ n.phase ∧
      (∃ kind reason, podTransition n = some (kind, reason) ∧ passes f kind = true) ∧
      ∃ res, (resolve reader (.pod n)).outcome = .ok res
  | some (.hpa n) => ∃ before, oldObj.bind asHPA = some before ∧
      before.currentReplicas ≠ n.currentReplicas
  | some (.deployment n) => Resolvable reader "Deployment" n.metadata ∧
      ((deploymentRolloutStatus n ≠ rolloutStatus (oldObj.bind asDeployment) ∧
          passes f .k8sDeployRollout = true) ∨
        rolledBack (oldObj.bind asDeployment) n = true ∨
        deployOutcomes (oldObj.bind asDeployment) n ≠ [])
  | some (.statefulSet n) => Resolvable reader "StatefulSet" n.metadata ∧
      (isStatefulSetStarted (oldObj.bind asStatefulSet) n = true ∨
        isStatefulSetSucceeded (oldObj.bind asStatefulSet) n = true)
  | some (.daemonSet n) => Resolvable reader "DaemonSet" n.metadata ∧
      (isDaemonSetStarted (oldObj.bind asDaemonSet) n = true ∨
        isDaemonSetSucceeded (oldObj.bind asDaemonSet) n = true)
  | _ => False

/-! ### The paths of the mapper -/

section Paths

variable {rt : Runtime} {reader : Reader} {f : SeverityFilter} {seq : ℕ}

/-- Builders whose events all pass the filter, or all do not. -/
theorem exists_accept_numbered {builds : List (ℕ → Event)} {value : Bool}
    (hfield : ∀ build ∈ builds, ∀ number, f.accept (build number) = value) :
    (∃ ev ∈ numbered seq builds, f.accept ev = true) ↔ builds ≠ [] ∧ value = true := by
  have hnone : (∀ ev ∈ numbered seq builds, f.accept ev = false) ↔ (builds ≠ [] → value = false) :=
    forall_mem_numbered_const (· = false) hfield
  simpa using not_congr hnone

theorem exists_mem_resolved {resolved : Except String String} {wrap : String → String}
    {builds : String → List (ℕ → Event)} {property : Event → Prop} :
    (∃ ev ∈ returned (match resolved with
      | .error text => .error (wrap text)
      | .ok serviceID => .ok (numbered seq (builds serviceID))), property ev) ↔
      ∃ serviceID, resolved = .ok serviceID ∧
        ∃ ev ∈ numbered seq (builds serviceID), property ev := by
  cases resolved with
  | error text => simp
  | ok serviceID => simp

/-- A workload mapper whose events all pass. Assumes: the builders give such events, and there are
builders exactly when something is reported. -/
theorem resolved_reportable {kind : String} {metadata : ObjectMeta} {wrap : String → String}
    {builds : String → List (ℕ → Event)} {reported : Prop}
    (haccept : ∀ serviceID, ∀ build ∈ builds serviceID, ∀ number, f.accept (build number) = true)
    (hreported : ∀ serviceID, builds serviceID ≠ [] ↔ reported) :
    (∃ ev ∈ returned (match resolveWorkloadServiceID reader kind metadata.namespaceName
        metadata.name with
      | .error text => .error (wrap text)
      | .ok serviceID => .ok (numbered seq (builds serviceID))), f.accept ev = true) ↔
      Resolvable reader kind metadata ∧ reported := by
  rw [exists_mem_resolved]
  simp only [exists_accept_numbered (haccept _), hreported, and_true, Resolvable]
  exact exists_and_right

theorem accept_of_deployment {ev : Event} (hdomain : ev.kind.domain = .deployment) :
    f.accept ev = true := by
  unfold SeverityFilter.accept
  rw [if_pos hdomain]

/-- A guarded builder of a kind of the deployment domain. -/
theorem domain_guarded {holds : Bool} {build : ℕ → Event} {kind : Kind}
    (hkind : ∀ number, (build number).kind = kind) (hdomain : kind.domain = .deployment) :
    ∀ other ∈ (if holds then [build] else []), ∀ number,
      (other number).kind.domain = .deployment := by
  intro other hother number
  cases holds with
  | false => exact absurd hother List.not_mem_nil
  | true =>
    rw [List.mem_singleton.mp hother, hkind]
    exact hdomain

theorem domain_statefulSetBuilds {old : Option StatefulSet} {n : StatefulSet} {serviceID : String} :
    ∀ build ∈ statefulSetBuilds rt old n serviceID, ∀ number,
      (build number).kind.domain = .deployment := by
  refine List.forall_mem_append.mpr ⟨domain_guarded (fun _ ↦ rfl) ?_,
    domain_guarded (fun _ ↦ rfl) ?_⟩
  · exact (by decide : Kind.deployStarted.domain = .deployment)
  · exact (by decide : Kind.deploySucceeded.domain = .deployment)

theorem domain_daemonSetBuilds {old : Option DaemonSet} {n : DaemonSet} {serviceID : String} :
    ∀ build ∈ daemonSetBuilds rt old n serviceID, ∀ number,
      (build number).kind.domain = .deployment := by
  refine List.forall_mem_append.mpr ⟨domain_guarded (fun _ ↦ rfl) ?_,
    domain_guarded (fun _ ↦ rfl) ?_⟩
  · exact (by decide : Kind.deployStarted.domain = .deployment)
  · exact (by decide : Kind.deploySucceeded.domain = .deployment)

theorem statefulSet_reportable {old : Option StatefulSet} {n : StatefulSet} :
    (∃ ev ∈ returned (fromStatefulSetChange rt reader seq old n), f.accept ev = true) ↔
      Resolvable reader "StatefulSet" n.metadata ∧
        (isStatefulSetStarted old n = true ∨ isStatefulSetSucceeded old n = true) := by
  rw [fromStatefulSetChange_eq]
  refine resolved_reportable ?_ fun serviceID ↦ statefulSetBuilds_ne_nil
  intro serviceID build hbuild number
  exact accept_of_deployment (domain_statefulSetBuilds build hbuild number)

theorem daemonSet_reportable {old : Option DaemonSet} {n : DaemonSet} :
    (∃ ev ∈ returned (fromDaemonSetChange rt reader seq old n), f.accept ev = true) ↔
      Resolvable reader "DaemonSet" n.metadata ∧
        (isDaemonSetStarted old n = true ∨ isDaemonSetSucceeded old n = true) := by
  rw [fromDaemonSetChange_eq]
  refine resolved_reportable ?_ fun serviceID ↦ daemonSetBuilds_ne_nil
  intro serviceID build hbuild number
  exact accept_of_deployment (domain_daemonSetBuilds build hbuild number)

theorem accept_rolloutBuilds {old : Option Deployment} {n : Deployment} :
    ∀ build ∈ rolloutBuilds rt old n, ∀ number,
      f.accept (build number) = passes f .k8sDeployRollout := by
  unfold rolloutBuilds
  split_ifs with hsame
  · simp
  · intro build hbuild number
    rw [List.mem_singleton.mp hbuild]
    exact accept_eq_passes f rfl

theorem deployment_reportable {old : Option Deployment} {n : Deployment} :
    (∃ ev ∈ returned (dispatchDeployment rt reader seq old n), f.accept ev = true) ↔
      Resolvable reader "Deployment" n.metadata ∧
        ((deploymentRolloutStatus n ≠ rolloutStatus old ∧ passes f .k8sDeployRollout = true) ∨
          rolledBack old n = true ∨ deployOutcomes old n ≠ []) := by
  have hlifecycle : ∀ serviceID, ∀ build ∈ lifecycleBuilds rt old n serviceID, ∀ number,
      f.accept (build number) = true := fun serviceID build hbuild number ↦
    accept_of_deployment (domain_lifecycleBuilds build hbuild number)
  rw [dispatchDeployment_eq]
  refine exists_mem_resolved.trans ?_
  simp only [numbered_append, List.mem_append, or_and_right, exists_or,
    exists_accept_numbered accept_rolloutBuilds, exists_accept_numbered (hlifecycle _),
    rolloutBuilds_ne_nil, lifecycleBuilds_ne_nil, and_true, Resolvable]
  exact exists_and_right

theorem deleted_reportable {d : Deployment} :
    (∃ ev ∈ returned ((fromDeploymentDelete rt reader seq d).map Option.toList),
      f.accept ev = true) ↔
      isMidRollout d = true ∧ Resolvable reader "Deployment" d.metadata := by
  constructor
  · rintro ⟨ev, hev, -⟩
    obtain ⟨hrunning, serviceID, hres, -⟩ :=
      fromDeploymentDelete_eq_some.mp (mem_returned_toList.mp hev)
    exact ⟨hrunning, serviceID, hres⟩
  · rintro ⟨hrunning, serviceID, hres⟩
    refine ⟨_, mem_returned_toList.mpr
      (fromDeploymentDelete_eq_some.mpr ⟨hrunning, serviceID, hres, rfl⟩), ?_⟩
    exact accept_of_deployment (by decide : Kind.deployCancelled.domain = .deployment)

/-- The two event mappers: all kinds of the reason table pass. Assumes: the mapper emits exactly for
a mapped reason whose object resolves, and the event is of the mapped kind. -/
theorem mapped_reportable {outcome : Except String (Option Event)} {reason : String}
    {ref : ObjectReference} {build : Kind → Result → Event}
    (hspec : ∀ wire, outcome = .ok (some wire) ↔ reason ≠ "" ∧
      ∃ kind res, matchReason reason ref.kind = some kind ∧
        (resolveRef reader ref.kind ref.namespaceName ref.name).outcome = .ok res ∧
        wire = build kind res)
    (hkind : ∀ kind res, (build kind res).kind = kind) :
    (∃ wire ∈ returned (outcome.map Option.toList), f.accept wire = true) ↔
      RecordMapped reader reason ref := by
  constructor
  · rintro ⟨wire, hwire, -⟩
    obtain ⟨-, kind, res, hmatch, hres, -⟩ := (hspec wire).mp (mem_returned_toList.mp hwire)
    exact ⟨⟨kind, hmatch⟩, res, hres⟩
  · intro hmapped
    have hreason := hmapped.reason_ne
    obtain ⟨⟨kind, hmatch⟩, res, hres⟩ := hmapped
    refine ⟨build kind res, mem_returned_toList.mpr
      ((hspec _).mpr ⟨hreason, kind, res, hmatch, hres, rfl⟩), accept_of_isTier1 f ?_⟩
    rw [hkind]
    exact isTier1_of_matchReason hmatch

theorem k8sEvent_reportable {ev : K8sEvent} :
    (∃ wire ∈ returned ((fromK8sEvent rt reader seq ev).map Option.toList),
      f.accept wire = true) ↔ RecordMapped reader ev.reason ev.regarding :=
  mapped_reportable (fun _ ↦ fromK8sEvent_eq_some) fun _ _ ↦ rfl

theorem coreEvent_reportable {ev : CoreEvent} :
    (∃ wire ∈ returned ((fromCoreEvent rt reader seq ev).map Option.toList),
      f.accept wire = true) ↔ RecordMapped reader ev.reason ev.involvedObject :=
  mapped_reportable (fun _ ↦ fromCoreEvent_eq_some) fun _ _ ↦ rfl

theorem node_reportable {old : Option Node} {n : Node} :
    (∃ ev ∈ fromNodeConditionChange rt seq old n, f.accept ev = true) ↔
      nodeTransitions old n ≠ [] := by
  rw [fromNodeConditionChange_eq]
  have haccept : ∀ build ∈ (nodeTransitions old n).map (nodeBuild rt n), ∀ number,
      f.accept (build number) = true := by
    simp only [List.forall_mem_map]
    intro transition _ number
    exact accept_of_isTier1 f (by decide : isTier1 .k8sNodePressure = true)
  rw [exists_accept_numbered haccept]
  simp

theorem hpa_reportable {old : Option HorizontalPodAutoscaler} {n : HorizontalPodAutoscaler} :
    (∃ ev ∈ (fromHPAScale rt seq old n).toList, f.accept ev = true) ↔
      ∃ before, old = some before ∧ before.currentReplicas ≠ n.currentReplicas := by
  constructor
  · rintro ⟨ev, hev, -⟩
    obtain ⟨before, hold, hchanged, -⟩ := fromHPAScale_eq_some.mp (Option.mem_toList.mp hev)
    exact ⟨before, hold, hchanged⟩
  · rintro ⟨before, hold, hchanged⟩
    refine ⟨_, Option.mem_toList.mpr (fromHPAScale_eq_some.mpr ⟨before, hold, hchanged, rfl⟩), ?_⟩
    exact accept_of_isTier1 f (by decide : isTier1 .k8sHPAScale = true)

theorem pod_reportable {old : Option Pod} {n : Pod} :
    (∃ ev ∈ returned (fromPodStatusChange rt reader seq old n), f.accept ev = true) ↔
      podPhase old ≠ n.phase ∧
        (∃ kind reason, podTransition n = some (kind, reason) ∧ passes f kind = true) ∧
        ∃ res, (resolve reader (.pod n)).outcome = .ok res := by
  have haccept : ∀ kind reason res,
      f.accept (podLifecycleEvent rt seq n kind reason res) = passes f kind :=
    fun kind reason res ↦ accept_eq_passes f rfl
  constructor
  · rintro ⟨ev, hev, hpass⟩
    obtain ⟨hphase, kind, reason, res, htransition, hres, rfl⟩ := mem_fromPodStatusChange.mp hev
    rw [haccept] at hpass
    exact ⟨hphase, ⟨kind, reason, htransition, hpass⟩, res, hres⟩
  · rintro ⟨hphase, ⟨kind, reason, htransition, hpass⟩, res, hres⟩
    refine ⟨_, mem_fromPodStatusChange.mpr
      ⟨hphase, kind, reason, res, htransition, hres, rfl⟩, ?_⟩
    rw [haccept]
    exact hpass

end Paths

/-- A dispatch returns an event that passes the filter exactly for the reportable notifications. -/
theorem exists_accept_dispatch (rt : Runtime) (reader : Reader) (f : SeverityFilter) (seq : ℕ)
    (oldObj newObj : Option Object) :
    (∃ ev ∈ returned (dispatch rt reader seq oldObj newObj), f.accept ev = true) ↔
      Reportable reader f oldObj newObj := by
  cases newObj with
  | none =>
    cases oldObj with
    | none => simp [dispatch, Reportable]
    | some old =>
      cases old with
      | deployment d => exact deleted_reportable
      | _ => simp [dispatch, dispatchDelete, Reportable]
  | some new =>
    cases new with
    | k8sEvent ev => exact k8sEvent_reportable
    | coreEvent ev => exact coreEvent_reportable
    | node n => exact node_reportable
    | pod n => exact pod_reportable
    | hpa n => exact hpa_reportable
    | deployment n => exact deployment_reportable
    | statefulSet n => exact statefulSet_reportable
    | daemonSet n => exact daemonSet_reportable
    | replicaSet n => simp [dispatch, Reportable]
    | other metadata => simp [dispatch, Reportable]

theorem enqueued_eq_nil_iff (rt : Runtime) (reader : Reader) (f : SeverityFilter) (seq : ℕ)
    (notification : Notification) :
    (handle rt reader f seq notification).enqueued = [] ↔
      ¬ Reportable reader f notification.oldObj notification.newObj := by
  rw [handle_enqueued, List.filter_eq_nil_iff, ← exists_accept_dispatch rt reader f seq]
  push Not
  rfl

/-! ### Both consumers -/

/-- For every environment, no cycle of the discovery loop reports a workload of an excluded
namespace. A notification about an object in an excluded namespace enqueues nothing if and only if
it is none that the mapper and the filter report from any namespace. -/
theorem excluded_silent_iff (env : Environment) (cycles : List Cycle) (rt : Runtime)
    (reader : Reader) (seq : ℕ) (eventNamespace : String) (notification : Notification) :
    (∀ step ∈ stepsFrom runOnce (newLoop (discoveryOptions env)) cycles,
      ∀ report, step.output.handed = some report →
        ∀ workload ∈ report.workloads, workload.namespaceName ∉ excludedNamespaces env) ∧
    ((Concerns (excludedNamespaces env) eventNamespace notification →
        (handle rt reader (severityFilter env) seq notification).enqueued = []) ↔
      ¬ (Concerns (excludedNamespaces env) eventNamespace notification ∧
        Reportable reader (severityFilter env) notification.oldObj notification.newObj)) := by
  constructor
  · intro step hstep report hhanded
    have hkept := keeps_before Keeps.refl Keeps.trans keeps_runOnce _ cycles step hstep
    have hown : ∀ step ∈ stepsFrom runOnce (newLoop (discoveryOptions env)) cycles,
        ∀ report, step.output.handed = some report →
          ∀ workload ∈ report.workloads, workload.namespaceName ∉ step.before.excludes :=
      forall_mem_stepsFrom (fun _ _ _ _ hhanded ↦ handed_namespaces hhanded) _
    rw [excludedNamespaces, ← discoveryOptions_excludeNamespaces, ← newLoop_excludes, ← hkept.1]
    exact hown step hstep report hhanded
  · rw [enqueued_eq_nil_iff, not_and]

/-- A crash-looping Pod of the cluster's own namespace. -/
def systemBackOff : CoreEvent where
  reason := "BackOff"
  involvedObject := { kind := "Pod", namespaceName := "kube-system", name := "coredns-1" }

/-- With nothing configured, an event about a Pod in `kube-system` is enqueued. -/
theorem excluded_event_enqueued :
    Concerns (excludedNamespaces fun _ ↦ "") "kube-system" (.added (.coreEvent systemBackOff)) ∧
    (handle ⟨fun _ ↦ 1, fun _ ↦ "evt"⟩ Reader.empty (severityFilter fun _ ↦ "") 0
      (.added (.coreEvent systemBackOff))).enqueued.map Event.kind = [.k8sPodCrash] := by
  refine ⟨⟨.coreEvent systemBackOff, by simp [Notification.oldObj, Notification.newObj],
    "kube-system", by simp [objectNamespaces], ?_⟩, by decide⟩
  decide

end IncidentaryOperator.Pipeline
