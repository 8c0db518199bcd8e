import IncidentaryOperator.Mapper.Emission

/-!
# The timestamps of emitted events

The server drops an event whose `occurred_at` is not positive. The two event mappers fall back to
the clock on every timestamp that is not positive, so theirs always is. The node and pod mappers
fall back only on zero, so a time before the epoch goes through. The autoscaler mapper falls back
only on an absent field, and the workload mappers not at all: a rollout, lifecycle or deletion event
of an object without usable times is emitted with zero.

`UsableStamps` is the exact condition on a notification, and `occurredAt_pos_iff_usableStamps` says
so for every path of `Dispatch` at once.
-/

set_option autoImplicit false
set_option relaxedAutoImplicit false

namespace IncidentaryOperator.Mapper

open Foundation WireFormat Kubernetes Identity

/-! ### Stamps -/

/-- The first of some times that is set: neither the zero time nor the epoch itself. -/
def firstSet (times : List Time) : Option ℤ :=
  (times.map timeToUnixNano).find? (· ≠ 0)

/-- Some time is set, and the first that is lies after the epoch. -/
def SetAfterEpoch (times : List Time) : Prop :=
  ∃ stamp, firstSet times = some stamp ∧ 0 < stamp

/-- The first time that is set, if there is one, lies after the epoch. -/
def NotSetBeforeEpoch (times : List Time) : Prop :=
  ∀ stamp, firstSet times = some stamp → 0 < stamp

/-- The times of a Pod that an event of a kind looks at, in order: the start, or the finish of the
first terminated container, and the creation. -/
def podTimes (pod : Pod) (kind : Kind) : List Time :=
  (match kind with
    | .k8sPodStarted => pod.startTime
    | .k8sPodTerminated | .k8sOOMKill =>
      (pod.containerStatuses.filterMap ContainerStatus.terminated).head?.map
        ContainerTerminated.finishedAt
    | _ => none).toList ++ [pod.metadata.creationTimestamp]

/-- The times of a Deployment that a rollout event looks at, in order: the last update of the first
`Progressing` condition, and the creation. -/
def rolloutTimes (n : Deployment) : List Time :=
  ((n.conditions.find? fun cond ↦ cond.type = "Progressing").map
    DeploymentCondition.lastUpdateTime).toList ++ [n.metadata.creationTimestamp]

/-- A transition of some condition of a Deployment, or its creation, lies after the epoch. -/
def LifecycleAfterEpoch (d : Deployment) : Prop :=
  (∃ cond ∈ d.conditions, 0 < timeToUnixNano cond.lastTransitionTime) ∨
    0 < timeToUnixNano d.metadata.creationTimestamp

/-- A workload can be re-read: the resolver does not fail on it. -/
def Resolvable (reader : Reader) (kind : String) (metadata : ObjectMeta) : Prop :=
  ∃ serviceID, resolveWorkloadServiceID reader kind metadata.namespaceName metadata.name =
    .ok serviceID

/-- The condition on a notification: on each path that emits, the times of the object that the path
looks at supply one after the epoch, or, where the path falls back to the clock, none before it. -/
def UsableStamps (reader : Reader) (oldObj newObj : Option Object) : Prop :=
  match newObj with
  | none =>
    match oldObj with
    | some (.deployment d) => isMidRollout d = true →
        Resolvable reader "Deployment" d.metadata → LifecycleAfterEpoch d
    | _ => True
  | some (.node n) => ∀ transition ∈ nodeTransitions (oldObj.bind asNode) n,
      NotSetBeforeEpoch [transition.2.lastTransitionTime, transition.2.lastHeartbeatTime]
  | some (.pod n) => podPhase (oldObj.bind asPod) ≠ n.phase →
      ∀ kind reason res, podTransition n = some (kind, reason) →
        (resolve reader (.pod n)).outcome = .ok res → NotSetBeforeEpoch (podTimes n kind)
  | some (.hpa n) => ∀ before, oldObj.bind asHPA = some before →
      before.currentReplicas ≠ n.currentReplicas →
        ∀ instant, n.lastScaleTime = some instant → 0 < timeToUnixNano instant
  | some (.deployment n) => Resolvable reader "Deployment" n.metadata →
      (deploymentRolloutStatus n ≠ rolloutStatus (oldObj.bind asDeployment) →
        SetAfterEpoch (rolloutTimes n)) ∧
      (rolledBack (oldObj.bind asDeployment) n = true ∨
        deployOutcomes (oldObj.bind asDeployment) n ≠ [] → LifecycleAfterEpoch n)
  | some (.statefulSet n) => Resolvable reader "StatefulSet" n.metadata →
      isStatefulSetStarted (oldObj.bind asStatefulSet) n = true ∨
        isStatefulSetSucceeded (oldObj.bind asStatefulSet) n = true →
      0 < timeToUnixNano n.metadata.creationTimestamp
  | some (.daemonSet n) => Resolvable reader "DaemonSet" n.metadata →
      isDaemonSetStarted (oldObj.bind asDaemonSet) n = true ∨
        isDaemonSetSucceeded (oldObj.bind asDaemonSet) n = true →
      0 < timeToUnixNano n.metadata.creationTimestamp
  | _ => True

/-! ### Fallbacks -/

/-- A fallback on zero makes up for zero only. -/
theorem pos_of_fallback_on_zero {now : ℤ} (hnow : 0 < now) (stamp : ℤ) :
    0 < (if stamp = 0 then now else stamp) ↔ 0 ≤ stamp := by
  split_ifs with hzero <;> omega

/-- A fallback on everything that is not positive makes up for all of it. -/
theorem pos_of_fallback_on_nonpos {now : ℤ} (hnow : 0 < now) (stamp : ℤ) :
    0 < (if stamp ≤ 0 then now else stamp) := by
  split_ifs with hstamp
  · exact hnow
  · exact Int.not_le.mp hstamp

/-- A time with a second one to fall back to on zero is the first of the two that is set. -/
theorem fallback_eq_firstSet (first : Option Time) (last : Time) :
    (if (first.map timeToUnixNano).getD 0 = 0 then timeToUnixNano last
      else (first.map timeToUnixNano).getD 0) = (firstSet (first.toList ++ [last])).getD 0 := by
  unfold firstSet
  cases first with
  | none => by_cases hlast : timeToUnixNano last = 0 <;> simp [hlast]
  | some time =>
    by_cases htime : timeToUnixNano time = 0 <;> by_cases hlast : timeToUnixNano last = 0 <;>
      simp [htime, hlast]

/-- Without a clock to fall back to, some time must be set after the epoch. -/
theorem getD_firstSet_pos_iff (times : List Time) :
    0 < (firstSet times).getD 0 ↔ SetAfterEpoch times := by
  unfold SetAfterEpoch
  cases firstSet times <;> simp

/-- With a clock to fall back to on zero, none may be set before it. -/
theorem getD_firstSet_nonneg_iff (times : List Time) :
    0 ≤ (firstSet times).getD 0 ↔ NotSetBeforeEpoch times := by
  unfold NotSetBeforeEpoch
  cases hset : firstSet times with
  | none => simp
  | some stamp =>
    have hstamp : stamp ≠ 0 := by
      simpa using List.find?_some hset
    simp only [Option.getD_some, Option.some.injEq, forall_eq']
    omega

/-- The latest of some transitions, from zero on, is positive exactly when one of them is. -/
theorem foldl_latest_pos_iff (conditions : List DeploymentCondition) {latest : ℤ}
    (hlatest : 0 ≤ latest) :
    0 < conditions.foldl
        (fun latest cond ↦ max latest (timeToUnixNano cond.lastTransitionTime)) latest ↔
      0 < latest ∨ ∃ cond ∈ conditions, 0 < timeToUnixNano cond.lastTransitionTime := by
  induction conditions generalizing latest with
  | nil => simp
  | cons cond rest ih =>
    rw [List.foldl_cons, ih (le_max_of_le_left hlatest), lt_max_iff]
    simp only [List.mem_cons, exists_eq_or_imp, or_assoc]

/-- The latest of some transitions, from zero on, is not negative. -/
theorem foldl_latest_nonneg (conditions : List DeploymentCondition) :
    0 ≤ conditions.foldl
      (fun latest cond ↦ max latest (timeToUnixNano cond.lastTransitionTime)) 0 :=
  List.foldlRecOn conditions _ le_rfl fun _ hlatest _ _ ↦ le_max_of_le_left hlatest

/-- A lifecycle event of a Deployment has a positive timestamp exactly when one of its transitions
or its creation does. -/
theorem deploymentOccurredAt_pos_iff (d : Deployment) :
    0 < deploymentOccurredAt d ↔ LifecycleAfterEpoch d := by
  have hlatest := foldl_latest_pos_iff d.conditions le_rfl
  have hnonneg := foldl_latest_nonneg d.conditions
  simp only [lt_irrefl, false_or] at hlatest
  unfold deploymentOccurredAt LifecycleAfterEpoch
  rw [← hlatest]
  dsimp only
  split_ifs with hzero <;> omega

/-- A rollout event has a positive timestamp exactly when one of its times is set, the first of them
after the epoch. -/
theorem rolloutOccurredAt_pos_iff (n : Deployment) :
    0 < rolloutOccurredAt n ↔ SetAfterEpoch (rolloutTimes n) := by
  have hchain := fallback_eq_firstSet
    ((n.conditions.find? fun cond ↦ cond.type = "Progressing").map
      DeploymentCondition.lastUpdateTime) n.metadata.creationTimestamp
  rw [Option.map_map] at hchain
  rw [← getD_firstSet_pos_iff]
  exact iff_of_eq (congrArg (0 < ·) hchain)

/-- The finish the termination scan stops at is that of the first terminated container. -/
theorem firstTerminated_finishedAt (pod : Pod) :
    ((firstTerminated pod).map fun found ↦ timeToUnixNano found.2.finishedAt) =
      ((pod.containerStatuses.filterMap ContainerStatus.terminated).head?.map
        ContainerTerminated.finishedAt).map timeToUnixNano := by
  unfold firstTerminated
  rw [List.head?_filterMap, Option.map_map, List.map_findSome?, List.map_findSome?]
  congr 1
  funext status
  exact Option.map_map _ _ status.terminated

/-- A pod event is stamped with the first of its times that is set, else with the clock. -/
theorem podOccurredAt_eq (rt : Runtime) (seq : ℕ) (pod : Pod) (kind : Kind) :
    podOccurredAt rt seq pod kind =
      if (firstSet (podTimes pod kind)).getD 0 = 0 then rt.now seq
      else (firstSet (podTimes pod kind)).getD 0 := by
  unfold podOccurredAt podTimes
  rw [← fallback_eq_firstSet, firstTerminated_finishedAt]
  cases kind <;> rfl

section Paths

variable {rt : Runtime} (hclock : ∀ number, 0 < rt.now number)

include hclock

/-- Both event mappers always have a positive timestamp. -/
theorem k8sEventOccurredAt_pos (seq : ℕ) (ev : K8sEvent) : 0 < k8sEventOccurredAt rt seq ev :=
  pos_of_fallback_on_nonpos (hclock seq) _

@[inherit_doc k8sEventOccurredAt_pos]
theorem coreEventOccurredAt_pos (seq : ℕ) (ev : CoreEvent) : 0 < coreEventOccurredAt rt seq ev :=
  pos_of_fallback_on_nonpos (hclock seq) _

/-- A node event has a positive timestamp unless its condition has a time before the epoch. -/
theorem nodePressureOccurredAt_pos_iff (seq : ℕ) (cond : NodeCondition) :
    0 < nodePressureOccurredAt rt seq cond ↔
      NotSetBeforeEpoch [cond.lastTransitionTime, cond.lastHeartbeatTime] := by
  have hchain := fallback_eq_firstSet (some cond.lastTransitionTime) cond.lastHeartbeatTime
  have hfallback := pos_of_fallback_on_zero (hclock seq)
    ((firstSet [cond.lastTransitionTime, cond.lastHeartbeatTime]).getD 0)
  rw [← getD_firstSet_nonneg_iff, ← hfallback]
  exact iff_of_eq (congrArg (fun stamp ↦ 0 < if stamp = 0 then rt.now seq else stamp) hchain)

/-- A pod event has a positive timestamp unless the Pod has a time before the epoch. -/
theorem podOccurredAt_pos_iff (seq : ℕ) (pod : Pod) (kind : Kind) :
    0 < podOccurredAt rt seq pod kind ↔ NotSetBeforeEpoch (podTimes pod kind) := by
  rw [podOccurredAt_eq, ← getD_firstSet_nonneg_iff]
  exact pos_of_fallback_on_zero (hclock seq) _

/-- An autoscaler event has a positive timestamp unless a last scale time is set that is not. -/
theorem hpaOccurredAt_pos_iff (seq : ℕ) (n : HorizontalPodAutoscaler) :
    0 < hpaOccurredAt rt seq n ↔
      ∀ instant, n.lastScaleTime = some instant → 0 < timeToUnixNano instant := by
  unfold hpaOccurredAt
  cases n.lastScaleTime with
  | none => simpa using hclock seq
  | some instant => simp

/-! ### One path after the other -/

/-- Nodes. -/
theorem node_occurredAt_pos_iff (seq : ℕ) (old : Option Node) (n : Node) :
    (∀ ev ∈ fromNodeConditionChange rt seq old n, 0 < ev.occurredAt) ↔
      ∀ transition ∈ nodeTransitions old n,
        NotSetBeforeEpoch [transition.2.lastTransitionTime, transition.2.lastHeartbeatTime] := by
  have hstamp : ∀ (transition : String × NodeCondition) number,
      0 < (nodeBuild rt n transition number).occurredAt ↔
        NotSetBeforeEpoch [transition.2.lastTransitionTime, transition.2.lastHeartbeatTime] :=
    fun transition number ↦ nodePressureOccurredAt_pos_iff hclock number transition.2
  rw [fromNodeConditionChange_eq, forall_mem_numbered]
  · simp only [List.forall_mem_map, hstamp]
  · simp only [List.forall_mem_map, hstamp, implies_true]

/-- Pods. -/
theorem pod_occurredAt_pos_iff (reader : Reader) (seq : ℕ) (old : Option Pod) (n : Pod) :
    (∀ ev ∈ returned (fromPodStatusChange rt reader seq old n), 0 < ev.occurredAt) ↔
      (podPhase old ≠ n.phase → ∀ kind reason res, podTransition n = some (kind, reason) →
        (resolve reader (.pod n)).outcome = .ok res → NotSetBeforeEpoch (podTimes n kind)) := by
  constructor
  · intro hall hphase kind reason res htransition hres
    have hpos := hall (podLifecycleEvent rt seq n kind reason res)
      (mem_fromPodStatusChange.mpr ⟨hphase, kind, reason, res, htransition, hres, rfl⟩)
    exact (podOccurredAt_pos_iff hclock seq n kind).mp hpos
  · intro hstamps ev hev
    obtain ⟨hphase, kind, reason, res, htransition, hres, rfl⟩ := mem_fromPodStatusChange.mp hev
    exact (podOccurredAt_pos_iff hclock seq n kind).mpr
      (hstamps hphase kind reason res htransition hres)

/-- Autoscalers. -/
theorem hpa_occurredAt_pos_iff (seq : ℕ) (old : Option HorizontalPodAutoscaler)
    (n : HorizontalPodAutoscaler) :
    (∀ ev ∈ (fromHPAScale rt seq old n).toList, 0 < ev.occurredAt) ↔
      ∀ before, old = some before → before.currentReplicas ≠ n.currentReplicas →
        ∀ instant, n.lastScaleTime = some instant → 0 < timeToUnixNano instant := by
  constructor
  · intro hall before hold hchanged
    have hpos := hall (hpaScaleEvent rt seq before n)
      (Option.mem_toList.mpr (fromHPAScale_eq_some.mpr ⟨before, hold, hchanged, rfl⟩))
    exact (hpaOccurredAt_pos_iff hclock seq n).mp hpos
  · intro hstamps ev hev
    obtain ⟨before, hold, hchanged, rfl⟩ := fromHPAScale_eq_some.mp (Option.mem_toList.mp hev)
    exact (hpaOccurredAt_pos_iff hclock seq n).mpr (hstamps before hold hchanged)

end Paths

/-- Every lifecycle event of a Deployment has the Deployment's timestamp. -/
theorem lifecycleBuilds_occurredAt {rt : Runtime} {old : Option Deployment} {n : Deployment}
    {serviceID : String} : ∀ build ∈ lifecycleBuilds rt old n serviceID, ∀ number,
      (build number).occurredAt = deploymentOccurredAt n := by
  unfold lifecycleBuilds
  split_ifs with hrollback
  · intro build hbuild number
    rw [List.mem_singleton.mp hbuild]
    rfl
  · simp only [List.forall_mem_map]
    intro outcome _ number
    rfl

/-- A workload mapper whose events all use one timestamp of the object. Assumes: the builders do so,
and there are builders exactly when something is reported. -/
theorem resolved_occurredAt_pos_iff {reader : Reader} {kind : String} {metadata : ObjectMeta}
    {builds : String → List (ℕ → Event)} {seq : ℕ} {stamp : ℤ} {reported : Prop}
    (hstamp : ∀ serviceID, ∀ build ∈ builds serviceID, ∀ number,
      (build number).occurredAt = stamp)
    (hreported : ∀ serviceID, builds serviceID ≠ [] ↔ reported) :
    (∀ serviceID, resolveWorkloadServiceID reader kind metadata.namespaceName metadata.name =
        .ok serviceID → ∀ ev ∈ numbered seq (builds serviceID), 0 < ev.occurredAt) ↔
      (Resolvable reader kind metadata → reported → 0 < stamp) := by
  have hpaths : ∀ serviceID, (∀ ev ∈ numbered seq (builds serviceID), 0 < ev.occurredAt) ↔
      (reported → 0 < stamp) := by
    intro serviceID
    rw [forall_mem_numbered_const (0 < ·) (hstamp serviceID), hreported serviceID]
  simp only [hpaths, Resolvable, forall_exists_index]

/-- The rollout event has the timestamp of the `Progressing` condition. -/
theorem rolloutBuilds_occurredAt {rt : Runtime} {old : Option Deployment} {n : Deployment} :
    ∀ build ∈ rolloutBuilds rt old n, ∀ number,
      (build number).occurredAt = rolloutOccurredAt n := by
  unfold rolloutBuilds
  split_ifs with hsame
  · simp
  · intro build hbuild number
    rw [List.mem_singleton.mp hbuild]
    rfl

/-- Deployments: the two kinds of events have timestamps of their own. -/
theorem deployment_occurredAt_pos_iff (rt : Runtime) (reader : Reader) (seq : ℕ)
    (old : Option Deployment) (n : Deployment) :
    (∀ ev ∈ returned (dispatchDeployment rt reader seq old n), 0 < ev.occurredAt) ↔
      (Resolvable reader "Deployment" n.metadata →
        (deploymentRolloutStatus n ≠ rolloutStatus old → SetAfterEpoch (rolloutTimes n)) ∧
        (rolledBack old n = true ∨ deployOutcomes old n ≠ [] → LifecycleAfterEpoch n)) := by
  rw [dispatchDeployment_eq, ← rolloutOccurredAt_pos_iff, ← deploymentOccurredAt_pos_iff]
  refine forall_mem_resolved.trans ?_
  simp only [numbered_append, List.forall_mem_append, forall_and,
    forall_mem_numbered_const (0 < ·) rolloutBuilds_occurredAt,
    forall_mem_numbered_const (0 < ·) lifecycleBuilds_occurredAt, rolloutBuilds_ne_nil,
    lifecycleBuilds_ne_nil, Resolvable, forall_exists_index]

/-- Deleted Deployments. -/
theorem deleted_occurredAt_pos_iff (rt : Runtime) (reader : Reader) (seq : ℕ) (d : Deployment) :
    (∀ ev ∈ returned ((fromDeploymentDelete rt reader seq d).map Option.toList),
      0 < ev.occurredAt) ↔
      (isMidRollout d = true → Resolvable reader "Deployment" d.metadata →
        LifecycleAfterEpoch d) := by
  rw [← deploymentOccurredAt_pos_iff]
  constructor
  · rintro hall hrunning ⟨serviceID, hres⟩
    exact hall (deploymentEvent rt d serviceID .deployCancelled "DeletedMidRollout" seq)
      (mem_returned_toList.mpr
        (fromDeploymentDelete_eq_some.mpr ⟨hrunning, serviceID, hres, rfl⟩))
  · intro hpos ev hev
    obtain ⟨hrunning, serviceID, hres, rfl⟩ :=
      fromDeploymentDelete_eq_some.mp (mem_returned_toList.mp hev)
    exact hpos hrunning ⟨serviceID, hres⟩

/-- StatefulSets. -/
theorem statefulSet_occurredAt_pos_iff (rt : Runtime) (reader : Reader) (seq : ℕ)
    (old : Option StatefulSet) (n : StatefulSet) :
    (∀ ev ∈ returned (fromStatefulSetChange rt reader seq old n), 0 < ev.occurredAt) ↔
      (Resolvable reader "StatefulSet" n.metadata →
        isStatefulSetStarted old n = true ∨ isStatefulSetSucceeded old n = true →
        0 < timeToUnixNano n.metadata.creationTimestamp) := by
  rw [fromStatefulSetChange_eq]
  refine forall_mem_resolved.trans (resolved_occurredAt_pos_iff ?_ ?_)
  · intro serviceID
    unfold statefulSetBuilds
    split_ifs <;> simp [statefulSetEvent, buildDeployEvent]
  · intro serviceID
    exact statefulSetBuilds_ne_nil

/-- DaemonSets. -/
theorem daemonSet_occurredAt_pos_iff (rt : Runtime) (reader : Reader) (seq : ℕ)
    (old : Option DaemonSet) (n : DaemonSet) :
    (∀ ev ∈ returned (fromDaemonSetChange rt reader seq old n), 0 < ev.occurredAt) ↔
      (Resolvable reader "DaemonSet" n.metadata →
        isDaemonSetStarted old n = true ∨ isDaemonSetSucceeded old n = true →
        0 < timeToUnixNano n.metadata.creationTimestamp) := by
  rw [fromDaemonSetChange_eq]
  refine forall_mem_resolved.trans (resolved_occurredAt_pos_iff ?_ ?_)
  · intro serviceID
    unfold daemonSetBuilds
    split_ifs <;> simp [daemonSetEvent, buildDeployEvent]
  · intro serviceID
    exact daemonSetBuilds_ne_nil

/-! ### All paths -/

/-- For every notification, every content of the resolver's store and every positive clock, all
events `Dispatch` returns have a positive `occurred_at` exactly when the notification has usable
stamps. Assumes: the clock is positive. -/
theorem occurredAt_pos_iff_usableStamps {rt : Runtime} (hclock : ∀ number, 0 < rt.now number)
    (reader : Reader) (seq : ℕ) (oldObj newObj : Option Object) :
    (∀ ev ∈ returned (dispatch rt reader seq oldObj newObj), 0 < ev.occurredAt) ↔
      UsableStamps reader oldObj newObj := by
  cases newObj with
  | none =>
    cases oldObj with
    | none => simp [dispatch, UsableStamps]
    | some old =>
      cases old with
      | deployment d => exact deleted_occurredAt_pos_iff rt reader seq d
      | _ => simp [dispatch, dispatchDelete, UsableStamps]
  | some new =>
    cases new with
    | k8sEvent ev =>
      simp only [UsableStamps, iff_true]
      intro wire hwire
      obtain ⟨-, kind, res, -, -, rfl⟩ := fromK8sEvent_eq_some.mp (mem_returned_toList.mp hwire)
      exact k8sEventOccurredAt_pos hclock seq ev
    | coreEvent ev =>
      simp only [UsableStamps, iff_true]
      intro wire hwire
      obtain ⟨-, kind, res, -, -, rfl⟩ := fromCoreEvent_eq_some.mp (mem_returned_toList.mp hwire)
      exact coreEventOccurredAt_pos hclock seq ev
    | node n => exact node_occurredAt_pos_iff hclock seq (oldObj.bind asNode) n
    | pod n => exact pod_occurredAt_pos_iff hclock reader seq (oldObj.bind asPod) n
    | hpa n => exact hpa_occurredAt_pos_iff hclock seq (oldObj.bind asHPA) n
    | deployment n =>
      exact deployment_occurredAt_pos_iff rt reader seq (oldObj.bind asDeployment) n
    | statefulSet n =>
      exact statefulSet_occurredAt_pos_iff rt reader seq (oldObj.bind asStatefulSet) n
    | daemonSet n => exact daemonSet_occurredAt_pos_iff rt reader seq (oldObj.bind asDaemonSet) n
    | replicaSet rs => simp [dispatch, UsableStamps]
    | other metadata => simp [dispatch, UsableStamps]

/-- A runtime whose clock stands still. -/
def frozenRuntime : Runtime where
  now := fun _ ↦ 1700000000000000000
  newID := fun _ ↦ "evt"

/-- A StatefulSet whose creation time is not set and whose update revision has just diverged. -/
def freshStatefulSet : StatefulSet where
  metadata := { name := "db", namespaceName := "prod" }
  updateRevision := "db-2"
  currentRevision := "db-1"

/-- The same StatefulSet with a creation time. -/
def createdStatefulSet : StatefulSet :=
  { freshStatefulSet with
    metadata := { name := "db", namespaceName := "prod", creationTimestamp := ⟨1⟩ } }

/-- A StatefulSet with a creation time: its one event has a positive timestamp. -/
theorem occurredAt_pos_iff_usableStamps_createdStatefulSet :
    (returned (dispatch frozenRuntime Reader.empty 0 none
      (some (.statefulSet createdStatefulSet)))).length = 1 ∧
    ∀ ev ∈ returned (dispatch frozenRuntime Reader.empty 0 none
      (some (.statefulSet createdStatefulSet))), 0 < ev.occurredAt := by
  have hclock : ∀ number, 0 < frozenRuntime.now number :=
    fun _ ↦ (by decide : (0 : ℤ) < 1700000000000000000)
  refine ⟨by decide, (occurredAt_pos_iff_usableStamps hclock _ _ _ _).mpr ?_⟩
  intro _ _
  decide

/-- A StatefulSet without a creation time: its start is reported at zero. -/
theorem statefulSet_started_at_zero :
    ∃ ev ∈ returned (dispatch frozenRuntime Reader.empty 0 none
      (some (.statefulSet freshStatefulSet))), ev.kind = .deployStarted ∧ ev.occurredAt = 0 := by
  decide

end IncidentaryOperator.Mapper
