import IncidentaryOperator.Mapper.Emission

/-!
# Edge-triggered events over whole runs

One object is delivered as an add of its first snapshot and an update for each later one. The events
of the whole run are then facts about the run of snapshots: the pressure events of a Node count the
rising edges of each condition, the lifecycle events of a Pod are those of its phase changes, the
rollout statuses of a Deployment are its statuses with repeats removed, and the scale events of an
autoscaler are its changes of the replica count (`events_are_edges_of_run`).

The step is one delivery: what the mapper reports for a pair of snapshots. The run is the induction
over the deliveries, done once for all observations of a batch of events (`deliver_observations`).
-/

set_option autoImplicit false
set_option relaxedAutoImplicit false

namespace IncidentaryOperator.Mapper

open Foundation WireFormat Kubernetes Identity

/-! ### Runs of one object -/

/-- The events of each delivery of a run, after the snapshot `prev`, or the first error. The store
may change from one delivery to the next, and each numbers its events after those before it. -/
def deliver (rt : Runtime) :
    ℕ → Option Object → List (Reader × Object) → Except String (List (List Event))
  | _, _, [] => .ok []
  | seq, prev, (reader, obj) :: rest =>
    match dispatch rt reader seq prev (some obj) with
    | .error text => .error text
    | .ok events =>
      match deliver rt (seq + events.length) (some obj) rest with
      | .error text => .error text
      | .ok later => .ok (events :: later)

section Deliveries

variable (rt : Runtime) (reader : Reader) (seq : ℕ)

theorem dispatch_node (prev : Option Node) (n : Node) :
    dispatch rt reader seq (prev.map Object.node) (some (.node n)) =
      .ok (fromNodeConditionChange rt seq prev n) := by
  cases prev <;> rfl

theorem dispatch_pod (prev : Option Pod) (n : Pod) :
    dispatch rt reader seq (prev.map Object.pod) (some (.pod n)) =
      fromPodStatusChange rt reader seq prev n := by
  cases prev <;> rfl

theorem dispatch_hpa (prev : Option HorizontalPodAutoscaler) (n : HorizontalPodAutoscaler) :
    dispatch rt reader seq (prev.map Object.hpa) (some (.hpa n)) =
      .ok (fromHPAScale rt seq prev n).toList := by
  cases prev <;> rfl

theorem dispatch_deployment (prev : Option Deployment) (n : Deployment) :
    dispatch rt reader seq (prev.map Object.deployment) (some (.deployment n)) =
      dispatchDeployment rt reader seq prev n := by
  cases prev <;> rfl

theorem dispatch_statefulSet (prev : Option StatefulSet) (n : StatefulSet) :
    dispatch rt reader seq (prev.map Object.statefulSet) (some (.statefulSet n)) =
      fromStatefulSetChange rt reader seq prev n := by
  cases prev <;> rfl

theorem dispatch_daemonSet (prev : Option DaemonSet) (n : DaemonSet) :
    dispatch rt reader seq (prev.map Object.daemonSet) (some (.daemonSet n)) =
      fromDaemonSetChange rt reader seq prev n := by
  cases prev <;> rfl

end Deliveries

/-- A run without an error is a delivery without an error and a run without an error. -/
theorem deliver_cons {rt : Runtime} {seq : ℕ} {prev : Option Object} {reader : Reader}
    {obj : Object} {rest : List (Reader × Object)} {batches : List (List Event)}
    (hrun : deliver rt seq prev ((reader, obj) :: rest) = .ok batches) :
    ∃ events later, dispatch rt reader seq prev (some obj) = .ok events ∧
      deliver rt (seq + events.length) (some obj) rest = .ok later ∧ batches = events :: later := by
  simp only [deliver] at hrun
  split at hrun
  · exact absurd hrun (by simp)
  · next events hevents =>
    split at hrun
    · exact absurd hrun (by simp)
    · next later hlater => exact ⟨events, later, hevents, hlater, by simpa using hrun.symm⟩

/-- If what is observed of the events of one delivery depends on its pair of snapshots alone, then
what is observed over a run depends on the deliveries of the run alone. -/
theorem deliver_observations {Snapshot Observation : Type} (wrap : Snapshot → Object)
    (observe : List Event → Observation) (expected : Option Snapshot × Snapshot → Observation)
    {rt : Runtime}
    (hstep : ∀ reader seq (prev : Option Snapshot) snapshot events,
      dispatch rt reader seq (prev.map wrap) (some (wrap snapshot)) = .ok events →
        observe events = expected (prev, snapshot))
    {seq : ℕ} {prev : Option Snapshot} {snapshots : List (Reader × Snapshot)}
    {batches : List (List Event)}
    (hrun : deliver rt seq (prev.map wrap) (snapshots.map fun s ↦ (s.1, wrap s.2)) = .ok batches) :
    batches.map observe = (deliveriesFrom prev (snapshots.map Prod.snd)).map expected := by
  induction snapshots generalizing seq prev batches with
  | nil =>
    obtain rfl : [] = batches := by simpa [deliver] using hrun
    rfl
  | cons head rest ih =>
    obtain ⟨reader, snapshot⟩ := head
    obtain ⟨events, later, hevents, hlater, rfl⟩ := deliver_cons hrun
    have hhead := hstep reader seq prev snapshot events hevents
    have htail := ih (show deliver rt (seq + events.length) ((some snapshot).map wrap) _ =
      .ok later from hlater)
    rw [List.map_cons, hhead, htail]
    rfl

/-- The same for a run from its add on. -/
theorem deliver_observations_of_run {Snapshot Observation : Type} (wrap : Snapshot → Object)
    (observe : List Event → Observation) (expected : Option Snapshot × Snapshot → Observation)
    {rt : Runtime}
    (hstep : ∀ reader seq (prev : Option Snapshot) snapshot events,
      dispatch rt reader seq (prev.map wrap) (some (wrap snapshot)) = .ok events →
        observe events = expected (prev, snapshot))
    {seq : ℕ} {snapshots : List (Reader × Snapshot)} {batches : List (List Event)}
    (hrun : deliver rt seq none (snapshots.map fun s ↦ (s.1, wrap s.2)) = .ok batches) :
    batches.map observe = (deliveries (snapshots.map Prod.snd)).map expected :=
  deliver_observations wrap observe expected hstep
    (show deliver rt seq ((none : Option Snapshot).map wrap) _ = .ok batches from hrun)

/-! ### Attributes -/

/-- A guarded assignment leaves the other keys alone. -/
theorem lookup_setUnlessEmpty_of_ne (attrs : Attributes) {key other : String} (text : String)
    (hkey : key ≠ other) : (setUnlessEmpty attrs other text).lookup key = attrs.lookup key := by
  unfold setUnlessEmpty
  split_ifs
  · exact AList.lookup_insert_ne hkey
  · rfl

@[inherit_doc lookup_setUnlessEmpty_of_ne]
theorem lookup_setTruncated_of_ne (attrs : Attributes) {key other : String} (text : String)
    (max : ℕ) (hkey : key ≠ other) :
    (setTruncated attrs other text max).lookup key = attrs.lookup key := by
  unfold setTruncated
  split_ifs
  · exact AList.lookup_insert_ne hkey
  · rfl

/-- A property that does not depend on the number of an event is counted on what the events are
built from. -/
theorem countP_numbered_map {Item : Type} {build : Item → ℕ → Event} {holds : Event → Bool}
    {ofItem : Item → Bool} (hnumber : ∀ item number, holds (build item number) = ofItem item)
    (seq : ℕ) (items : List Item) :
    (numbered seq (items.map build)).countP holds = items.countP ofItem := by
  calc (numbered seq (items.map build)).countP holds
      = ((numbered seq (items.map build)).map holds).countP id := by rw [List.countP_map]; rfl
    _ = (items.map ofItem).countP id := by rw [map_numbered_map hnumber seq items]
    _ = items.countP ofItem := by rw [List.countP_map]; rfl

/-! ### Nodes -/

/-- A pressure event of a reason. -/
def pressureEventOf (reason : String) (ev : Event) : Bool :=
  ev.kind = .k8sNodePressure && ev.attributes.lookup "k8s.reason" = some (.str reason)

/-- The reason of a node event is the one it was built with. -/
theorem pressureEventOf_nodeBuild (rt : Runtime) (n : Node) (transition : String × NodeCondition)
    (reason : String) (number : ℕ) :
    pressureEventOf reason (nodeBuild rt n transition number) = decide (transition.1 = reason) := by
  have hreason : (nodeBuild rt n transition number).attributes.lookup "k8s.reason" =
      some (.str transition.1) := by
    simp only [nodeBuild, nodePressureEvent]
    rw [lookup_setTruncated_of_ne _ _ _ (by decide), lookup_setUnlessEmpty_of_ne _ _ (by decide)]
    exact AList.lookup_insert _
  have hkind : (nodeBuild rt n transition number).kind = .k8sNodePressure := rfl
  simp only [pressureEventOf, hreason, hkind, Option.some.injEq, AttrValue.str_injective.eq_iff,
    decide_true, Bool.true_and]

/-- The pressure loop reports a reason for its own condition only. -/
theorem countP_pressureTransitions (old : Option Node) (n : Node) (types : List String)
    (reason : String) :
    ((types.filterMap fun type ↦ (pressureTransition old n type).map fun cond ↦
      (type, cond)).countP fun transition ↦ transition.1 = reason) =
        if (pressureTransition old n reason).isSome then types.count reason else 0 := by
  induction types with
  | nil => simp
  | cons type rest ih =>
    by_cases htype : type = reason
    · subst htype
      cases htransition : pressureTransition old n type with
      | none =>
        rw [List.filterMap_cons_none (by simp [htransition]), ih]
        simp [htransition]
      | some cond =>
        rw [List.filterMap_cons_some (by rw [htransition]; rfl), List.countP_cons, ih]
        simp [htransition]
    · cases htransition : pressureTransition old n type with
      | none =>
        rw [List.filterMap_cons_none (by simp [htransition]), ih,
          List.count_cons_of_ne (by simpa using htype)]
      | some cond =>
        rw [List.filterMap_cons_some (by rw [htransition]; rfl), List.countP_cons, ih,
          List.count_cons_of_ne (by simpa using htype)]
        simp [htype]

/-- One delivery of a Node: a pressure reason is reported once on a rising edge of its condition. -/
theorem countP_nodeTransitions (old : Option Node) (n : Node) {reason : String}
    (hreason : reason ∈ pressureConditions) :
    (nodeTransitions old n).countP (fun transition ↦ transition.1 = reason) =
      if risingEdge (conditionTrue reason) (old, n) then 1 else 0 := by
  have hnodup : pressureConditions.Nodup := by decide
  have hother : "NotReady" ≠ reason := by
    rintro rfl
    exact absurd hreason (by decide)
  rw [nodeTransitions, List.countP_append, countP_pressureTransitions,
    List.count_eq_one_of_mem hnodup hreason, pressureTransition_isSome]
  cases notReadyTransition old n <;> simp [hother]

/-- One delivery of a Node: it is reported as not ready once when it becomes so. -/
theorem countP_nodeTransitions_notReady (old : Option Node) (n : Node) :
    (nodeTransitions old n).countP (fun transition ↦ transition.1 = "NotReady") =
      if risingEdge notReady (old, n) then 1 else 0 := by
  have habsent : pressureConditions.count "NotReady" = 0 := by decide
  rw [nodeTransitions, List.countP_append, countP_pressureTransitions, habsent,
    ← notReadyTransition_isSome]
  cases notReadyTransition old n <;> simp

/-- A run of a Node: the events of a reason are as many as the deliveries it is reported on. -/
theorem node_run_countP (rt : Runtime) (seq : ℕ) {reason : String} {holds : Node → Bool}
    (hcount : ∀ old n, (nodeTransitions old n).countP (fun transition ↦ transition.1 = reason) =
      if risingEdge holds (old, n) then 1 else 0)
    {snapshots : List (Reader × Node)} {batches : List (List Event)}
    (hrun : deliver rt seq none (snapshots.map fun s ↦ (s.1, .node s.2)) = .ok batches) :
    batches.flatten.countP (pressureEventOf reason) =
      (deliveries (snapshots.map Prod.snd)).countP (risingEdge holds) := by
  have hstep : ∀ reader seq (prev : Option Node) n events,
      dispatch rt reader seq (prev.map Object.node) (some (.node n)) = .ok events →
      events.countP (pressureEventOf reason) = if risingEdge holds (prev, n) then 1 else 0 := by
    intro reader seq prev n events hevents
    rw [dispatch_node] at hevents
    obtain rfl := Except.ok.inj hevents
    rw [fromNodeConditionChange_eq,
      countP_numbered_map (fun transition number ↦
        pressureEventOf_nodeBuild rt n transition reason number), hcount]
  rw [List.countP_flatten, deliver_observations_of_run Object.node _
    (fun delivery ↦ if risingEdge holds delivery then 1 else 0) hstep hrun, sum_map_indicator]

/-! ### Pods -/

/-- The kind of the event of a Pod that has just reached its phase, if the phase is reported. -/
def phaseKind (n : Pod) : Option Kind :=
  if n.phase = "Running" then some .k8sPodStarted
  else if n.phase = "Succeeded" then some .k8sPodTerminated
  else if n.phase = "Failed" then
    if n.containerStatuses.any (fun status ↦
      status.terminated.any fun terminated ↦ terminated.reason = "OOMKilled") then some .k8sOOMKill
    else some .k8sPodTerminated
  else none

/-- The kinds of the events of one delivery of a Pod. -/
def phaseChangeKinds (delivery : Option Pod × Pod) : List Kind :=
  if delivery.2.phase = podPhase delivery.1 then [] else (phaseKind delivery.2).toList

/-- The mapper reports the kind of the phase. -/
theorem podTransition_kind (n : Pod) : (podTransition n).map Prod.fst = phaseKind n := by
  have hkilled : podContainerOOMKilled n = n.containerStatuses.any (fun status ↦
      status.terminated.any fun terminated ↦ terminated.reason = "OOMKilled") := by
    unfold podContainerOOMKilled containerReasonOOMKilled
    congr 1
    funext status
    cases status.terminated <;> rfl
  unfold podTransition phaseKind
  rw [hkilled]
  by_cases hrunning : n.phase = "Running"
  · simp [hrunning]
  · by_cases hfailed : n.phase = "Failed"
    · simp only [hfailed]
      split_ifs <;> simp_all
    · by_cases hsucceeded : n.phase = "Succeeded" <;> simp [hrunning, hfailed, hsucceeded]

/-- One delivery of a Pod. -/
theorem pod_delivery_kinds {rt : Runtime} {reader : Reader} {seq : ℕ} {prev : Option Pod} {n : Pod}
    {events : List Event} (hevents : fromPodStatusChange rt reader seq prev n = .ok events) :
    events.map Event.kind = phaseChangeKinds (prev, n) := by
  unfold fromPodStatusChange at hevents
  unfold phaseChangeKinds podPhase
  dsimp only at hevents ⊢
  split_ifs at hevents with hsame
  · obtain rfl : [] = events := by simpa using hevents
    simp [hsame]
  · rw [if_neg (fun heq ↦ hsame heq.symm), ← podTransition_kind]
    cases htransition : podTransition n with
    | none =>
      obtain rfl : [] = events := by simpa [htransition] using hevents
      rfl
    | some found =>
      obtain ⟨kind, reason⟩ := found
      rw [htransition] at hevents
      unfold buildPodLifecycleEvent at hevents
      cases hres : (resolve reader (.pod n)).outcome with
      | error text => simp [hres, Except.map] at hevents
      | ok res =>
        obtain rfl : [podLifecycleEvent rt seq n kind reason res] = events := by
          simpa [hres, Except.map] using hevents
        rfl

/-- A run of a Pod: one event at each reported change of the phase. -/
theorem pod_run_kinds (rt : Runtime) (seq : ℕ) {snapshots : List (Reader × Pod)}
    {batches : List (List Event)}
    (hrun : deliver rt seq none (snapshots.map fun s ↦ (s.1, .pod s.2)) = .ok batches) :
    (batches.map fun events ↦ events.map Event.kind) =
      (deliveries (snapshots.map Prod.snd)).map phaseChangeKinds := by
  refine deliver_observations_of_run Object.pod (List.map Event.kind) phaseChangeKinds ?_ hrun
  intro reader seq prev n events hevents
  rw [dispatch_pod] at hevents
  exact pod_delivery_kinds hevents

/-! ### Deployments -/

/-- The rollout statuses a list of events reports, in order. -/
def reportedStatuses (events : List Event) : List (Option AttrValue) :=
  (events.filter fun ev ↦ ev.kind = .k8sDeployRollout).map fun ev ↦
    ev.attributes.lookup "k8s.rollout.status"

/-- No lifecycle event is a rollout event. -/
theorem kind_lifecycleBuilds {rt : Runtime} {old : Option Deployment} {n : Deployment}
    {serviceID : String} : ∀ build ∈ lifecycleBuilds rt old n serviceID, ∀ number,
      (build number).kind ≠ .k8sDeployRollout := by
  intro build hbuild number hkind
  have hdomain := domain_lifecycleBuilds build hbuild number
  rw [hkind] at hdomain
  exact absurd hdomain (by decide)

/-- The status of a rollout event is the one it was built with. -/
theorem lookup_status_rolloutEvent (rt : Runtime) (number : ℕ) (n : Deployment)
    (status serviceID : String) :
    (rolloutEvent rt number n status serviceID).attributes.lookup "k8s.rollout.status" =
      some (.str status) := by
  unfold rolloutEvent
  dsimp only
  split
  · rw [AList.lookup_insert_ne (by decide)]
    exact AList.lookup_insert _
  · exact AList.lookup_insert _

/-- One delivery of a Deployment: the rollout status is reported when it changed. -/
theorem deployment_delivery_statuses {rt : Runtime} {reader : Reader} {seq : ℕ}
    {prev : Option Deployment} {n : Deployment} {events : List Event}
    (hevents : dispatchDeployment rt reader seq prev n = .ok events) :
    reportedStatuses events =
      (if deploymentRolloutStatus n = (prev.map deploymentRolloutStatus).getD "" then []
        else [deploymentRolloutStatus n]).map fun status ↦ some (.str status) := by
  rw [dispatchDeployment_eq] at hevents
  cases hres : resolveWorkloadServiceID reader "Deployment" n.metadata.namespaceName
    n.metadata.name with
  | error text => simp [hres] at hevents
  | ok serviceID =>
    obtain rfl : numbered seq (rolloutBuilds rt prev n ++ lifecycleBuilds rt prev n serviceID) =
        events := by
      simpa [hres] using hevents
    have hlifecycle : ∀ number, (numbered number (lifecycleBuilds rt prev n serviceID)).filter
        (fun ev ↦ ev.kind = .k8sDeployRollout) = [] := by
      intro number
      rw [List.filter_eq_nil_iff]
      intro ev hev
      obtain ⟨index, hindex, rfl⟩ := mem_numbered.mp hev
      simpa using kind_lifecycleBuilds _ (List.getElem_mem hindex) _
    rw [reportedStatuses, numbered_append, List.filter_append, hlifecycle, List.append_nil]
    unfold rolloutBuilds rolloutStatus
    split_ifs with hsame
    · rfl
    · rw [numbered_singleton, List.filter_cons_of_pos (by rfl), List.filter_nil, List.map_singleton,
        lookup_status_rolloutEvent]
      rfl

/-- A run of a Deployment: the reported statuses are the statuses of the snapshots, after the empty
one, with consecutive repeats removed. -/
theorem deployment_run_statuses (rt : Runtime) (seq : ℕ) {snapshots : List (Reader × Deployment)}
    {batches : List (List Event)}
    (hrun : deliver rt seq none (snapshots.map fun s ↦ (s.1, .deployment s.2)) = .ok batches) :
    reportedStatuses batches.flatten =
      ((("" :: snapshots.map fun s ↦ deploymentRolloutStatus s.2).destutter (· ≠ ·)).tail).map
        fun status ↦ some (.str status) := by
  have hstep : ∀ reader seq (prev : Option Deployment) n events,
      dispatch rt reader seq (prev.map Object.deployment) (some (.deployment n)) = .ok events →
      reportedStatuses events =
        (if deploymentRolloutStatus n = (prev.map deploymentRolloutStatus).getD "" then []
          else [deploymentRolloutStatus n]).map fun status ↦ some (.str status) := by
    intro reader seq prev n events hevents
    rw [dispatch_deployment] at hevents
    exact deployment_delivery_statuses hevents
  have hflatten : reportedStatuses batches.flatten = (batches.map reportedStatuses).flatten := by
    simp only [reportedStatuses, List.filter_flatten, List.map_flatten, List.map_map]
    rfl
  have hchanges := flatMap_deliveriesFrom_changes deploymentRolloutStatus "" none
    (snapshots.map Prod.snd)
  rw [List.map_map] at hchanges
  rw [hflatten, deliver_observations_of_run Object.deployment reportedStatuses
    (fun delivery ↦ (if deploymentRolloutStatus delivery.2 =
      (delivery.1.map deploymentRolloutStatus).getD "" then []
        else [deploymentRolloutStatus delivery.2]).map fun status ↦ some (.str status)) hstep hrun,
    ← List.flatMap_def, ← List.map_flatMap, deliveries, hchanges]
  rfl

/-! ### Autoscalers -/

/-- The kinds of the events of one delivery of an autoscaler: one when an update changed the replica
count. -/
def scaleKinds (delivery : Option HorizontalPodAutoscaler × HorizontalPodAutoscaler) : List Kind :=
  if delivery.1.any (fun before ↦ before.currentReplicas ≠ delivery.2.currentReplicas) then
    [.k8sHPAScale]
  else []

/-- A run of an autoscaler: one event at each change of the replica count. -/
theorem hpa_run_kinds (rt : Runtime) (seq : ℕ)
    {snapshots : List (Reader × HorizontalPodAutoscaler)} {batches : List (List Event)}
    (hrun : deliver rt seq none (snapshots.map fun s ↦ (s.1, .hpa s.2)) = .ok batches) :
    (batches.map fun events ↦ events.map Event.kind) =
      (deliveries (snapshots.map Prod.snd)).map scaleKinds := by
  refine deliver_observations_of_run Object.hpa (List.map Event.kind) scaleKinds ?_ hrun
  intro reader seq prev n events hevents
  rw [dispatch_hpa] at hevents
  obtain rfl := Except.ok.inj hevents
  cases prev with
  | none => rfl
  | some before =>
    by_cases hsame : before.currentReplicas = n.currentReplicas
    · simp [fromHPAScale, scaleKinds, hsame]
    · simp [fromHPAScale, scaleKinds, hsame, hpaScaleEvent]

/-! ### All runs -/

/-- For every run of one object, delivered as an add of its first snapshot and an update for each
later one, without an error of the resolver:
* a Node has as many pressure events of each pressure condition as that condition has rising edges,
  and as many `NotReady` events as the node becomes not ready;
* a Pod has one event at each change of its phase, from the empty one on, to a reported phase, of
  the kind of that phase, and no other event;
* the rollout statuses reported for a Deployment are its statuses, after the empty one, with
  consecutive repeats removed;
* an autoscaler has one event at each update that changed its replica count, and no other. -/
theorem events_are_edges_of_run (rt : Runtime) (seq : ℕ) :
    (∀ (snapshots : List (Reader × Node)) (batches : List (List Event)),
      deliver rt seq none (snapshots.map fun s ↦ (s.1, .node s.2)) = .ok batches →
      (∀ reason ∈ ["MemoryPressure", "DiskPressure", "PIDPressure"],
        batches.flatten.countP (pressureEventOf reason) =
          (deliveries (snapshots.map Prod.snd)).countP (risingEdge (conditionTrue reason))) ∧
      batches.flatten.countP (pressureEventOf "NotReady") =
        (deliveries (snapshots.map Prod.snd)).countP (risingEdge notReady)) ∧
    (∀ (snapshots : List (Reader × Pod)) (batches : List (List Event)),
      deliver rt seq none (snapshots.map fun s ↦ (s.1, .pod s.2)) = .ok batches →
      (batches.map fun events ↦ events.map Event.kind) =
        (deliveries (snapshots.map Prod.snd)).map phaseChangeKinds) ∧
    (∀ (snapshots : List (Reader × Deployment)) (batches : List (List Event)),
      deliver rt seq none (snapshots.map fun s ↦ (s.1, .deployment s.2)) = .ok batches →
      reportedStatuses batches.flatten =
        ((("" :: snapshots.map fun s ↦ deploymentRolloutStatus s.2).destutter (· ≠ ·)).tail).map
          fun status ↦ some (.str status)) ∧
    (∀ (snapshots : List (Reader × HorizontalPodAutoscaler)) (batches : List (List Event)),
      deliver rt seq none (snapshots.map fun s ↦ (s.1, .hpa s.2)) = .ok batches →
      (batches.map fun events ↦ events.map Event.kind) =
        (deliveries (snapshots.map Prod.snd)).map scaleKinds) := by
  refine ⟨fun snapshots batches hrun ↦ ⟨fun reason hreason ↦ ?_, ?_⟩,
    fun snapshots batches hrun ↦ pod_run_kinds rt seq hrun,
    fun snapshots batches hrun ↦ deployment_run_statuses rt seq hrun,
    fun snapshots batches hrun ↦ hpa_run_kinds rt seq hrun⟩
  · exact node_run_countP rt seq (fun old n ↦ countP_nodeTransitions old n hreason) hrun
  · exact node_run_countP rt seq countP_nodeTransitions_notReady hrun

/-- A Node with the statuses of two of its conditions. -/
def conditionedNode (pressure ready : String) : Node where
  metadata := { name := "node-1" }
  conditions := [{ type := "MemoryPressure", status := pressure },
    { type := "Ready", status := ready }]

/-- A Node under memory pressure twice, the first time in two snapshots, that is then not ready. -/
def nodeSnapshots : List (Reader × Node) :=
  [conditionedNode "True" "True", conditionedNode "True" "True", conditionedNode "False" "True",
    conditionedNode "True" "Unknown"].map fun n ↦ (Reader.empty, n)

/-- A Pod in a phase, with the reason its container was terminated for, if it was. -/
def phasedPod (phase : String) (terminated : Option String) : Pod where
  metadata := { name := "api-0", namespaceName := "prod" }
  phase := phase
  containerStatuses := [{ terminated := terminated.map fun reason ↦ { reason := reason } }]

/-- A Pod that starts and is killed for its memory, with a repeated snapshot. -/
def podSnapshots : List (Reader × Pod) :=
  [phasedPod "Pending" none, phasedPod "Running" none, phasedPod "Running" none,
    phasedPod "Failed" (some "OOMKilled")].map fun n ↦ (Reader.empty, n)

/-- A Deployment with a `Progressing` condition of a reason. -/
def progressingDeployment (reason : String) : Deployment where
  metadata := { name := "api", namespaceName := "prod" }
  conditions := [{ type := "Progressing", status := "True", reason := reason }]

/-- A rollout seen in three snapshots, the first two alike. -/
def rolloutSnapshots : List (Reader × Deployment) :=
  [progressingDeployment "ReplicaSetUpdated", progressingDeployment "ReplicaSetUpdated",
    progressingDeployment "NewReplicaSetAvailable"].map fun n ↦ (Reader.empty, n)

/-- Runs of a Node, a Pod and a Deployment with the events of their edges. -/
theorem events_are_edges_of_run_node_pod_rollout :
    (∃ batches, deliver ⟨fun _ ↦ 1, fun _ ↦ "evt"⟩ 0 none
        (nodeSnapshots.map fun s ↦ (s.1, .node s.2)) = .ok batches ∧
      batches.flatten.countP (pressureEventOf "MemoryPressure") = 2 ∧
      batches.flatten.countP (pressureEventOf "NotReady") = 1) ∧
    (∃ batches, deliver ⟨fun _ ↦ 1, fun _ ↦ "evt"⟩ 0 none
        (podSnapshots.map fun s ↦ (s.1, .pod s.2)) = .ok batches ∧
      (batches.map fun events ↦ events.map Event.kind) =
        [[], [.k8sPodStarted], [], [.k8sOOMKill]]) ∧
    ∃ batches, deliver ⟨fun _ ↦ 1, fun _ ↦ "evt"⟩ 0 none
        (rolloutSnapshots.map fun s ↦ (s.1, .deployment s.2)) = .ok batches ∧
      reportedStatuses batches.flatten = [some (.str "progressing"), some (.str "complete")] := by
  have hnode : ∃ batches, deliver ⟨fun _ ↦ 1, fun _ ↦ "evt"⟩ 0 none
      (nodeSnapshots.map fun s ↦ (s.1, .node s.2)) = .ok batches := ⟨_, rfl⟩
  have hpod : ∃ batches, deliver ⟨fun _ ↦ 1, fun _ ↦ "evt"⟩ 0 none
      (podSnapshots.map fun s ↦ (s.1, .pod s.2)) = .ok batches := ⟨_, rfl⟩
  have hrollout : ∃ batches, deliver ⟨fun _ ↦ 1, fun _ ↦ "evt"⟩ 0 none
      (rolloutSnapshots.map fun s ↦ (s.1, .deployment s.2)) = .ok batches := ⟨_, rfl⟩
  obtain ⟨nodeRun, podRun, rolloutRun, -⟩ := events_are_edges_of_run ⟨fun _ ↦ 1, fun _ ↦ "evt"⟩ 0
  refine ⟨?_, ?_, ?_⟩
  · obtain ⟨batches, hbatches⟩ := hnode
    obtain ⟨hpressure, hready⟩ := nodeRun nodeSnapshots batches hbatches
    exact ⟨batches, hbatches, (hpressure "MemoryPressure" (by decide)).trans (by decide),
      hready.trans (by decide)⟩
  · obtain ⟨batches, hbatches⟩ := hpod
    exact ⟨batches, hbatches, (podRun podSnapshots batches hbatches).trans (by decide)⟩
  · obtain ⟨batches, hbatches⟩ := hrollout
    exact ⟨batches, hbatches, (rolloutRun rolloutSnapshots batches hbatches).trans (by decide)⟩

end IncidentaryOperator.Mapper
