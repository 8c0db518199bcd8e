import IncidentaryOperator.Mapper.Emission

/-!
# Resyncs are silent

An informer repeats its cache from time to time as updates from an object to itself. Each transition
predicate of the mappers compares its two snapshots in its own way: the first condition of a type, a
revision text, a change cause, a replica count, a generation. All of them are irreflexive, so such
an update emits nothing, whatever the object looks like and whatever the resolver finds
(`resync_emits_nothing`).
-/

set_option autoImplicit false
set_option relaxedAutoImplicit false

namespace IncidentaryOperator.Mapper

open Foundation WireFormat Kubernetes Identity

/-! ### Nodes, autoscalers and Pods -/

/-- A condition that is true was already true in the same node. -/
theorem pressureTransition_self (n : Node) (type : String) :
    pressureTransition (some n) n type = none := by
  have hedge := pressureTransition_isSome (some n) n type
  rw [risingEdge_self] at hedge
  exact Option.isSome_eq_false_iff.mp hedge |> Option.isNone_iff_eq_none.mp

/-- A node that is not ready was already not ready. -/
theorem notReadyTransition_self (n : Node) : notReadyTransition (some n) n = none := by
  have hedge := notReadyTransition_isSome (some n) n
  rw [risingEdge_self] at hedge
  exact Option.isSome_eq_false_iff.mp hedge |> Option.isNone_iff_eq_none.mp

/-- A node reports no transition to itself. -/
theorem nodeTransitions_self (n : Node) : nodeTransitions (some n) n = [] := by
  simp [nodeTransitions, pressureTransition_self, notReadyTransition_self]

/-- An autoscaler reports no change to itself. -/
theorem fromHPAScale_self (rt : Runtime) (seq : ℕ) (n : HorizontalPodAutoscaler) :
    fromHPAScale rt seq (some n) n = none := by
  simp [fromHPAScale]

/-- A Pod reports no change to itself. -/
theorem fromPodStatusChange_self (rt : Runtime) (reader : Reader) (seq : ℕ) (n : Pod) :
    fromPodStatusChange rt reader seq (some n) n = .ok [] := by
  simp [fromPodStatusChange]

/-! ### Deployments -/

/-- No revision is less than itself, as an integer or as a text. -/
theorem revisionLess_self (revision : String) : revisionLess revision revision = false := by
  unfold revisionLess
  cases sscanfDecimal revision with
  | none => simp
  | some value => simp

/-- A snapshot is no rollback of itself: the revision did not decrease and the change cause is not
new. -/
theorem isRollback_self (revision changeCause : String) :
    isRollback revision revision changeCause changeCause = false := by
  simp [isRollback, revisionLess_self]

/-- A rollout does not start again: a fresh ReplicaSet in the condition was already there. -/
theorem isDeployStarted_self (n : Deployment) (revision : String) :
    isDeployStarted (some n) n revision revision = false := by
  unfold isDeployStarted
  cases hcond : progressingCondition n with
  | none => simp
  | some progressing =>
    by_cases hcreated : progressing.reason = reasonNewReplicaSetCreated
    · simp [hcond, hcreated]
    · simp [hcond, hcreated, progressingCreated]

/-- A rollout does not complete again. -/
theorem isDeploySucceeded_self (n : Deployment) : isDeploySucceeded (some n) n = false := by
  unfold isDeploySucceeded alreadyProgressing
  cases findDeploymentCondition n.conditions "Available" with
  | none => rfl
  | some available =>
    cases hcond : progressingCondition n with
    | none => simp
    | some progressing =>
      by_cases havailable : progressing.reason = reasonNewReplicaSetAvailable
      · simp [hcond, havailable]
      · simp [havailable]

/-- A rollout does not fail again. -/
theorem isDeployFailed_self (n : Deployment) : isDeployFailed (some n) n = false := by
  unfold isDeployFailed alreadyProgressing
  cases hcond : progressingCondition n with
  | none => rfl
  | some progressing =>
    by_cases hexceeded : progressing.reason = reasonProgressDeadlineExceeded
    · simp [hcond, hexceeded]
    · simp [hexceeded]

/-- A Deployment is not scaled to zero from zero, nor to zero without being at zero. -/
theorem isDeployCancelled_self (n : Deployment) : isDeployCancelled (some n) n = false := by
  unfold isDeployCancelled
  by_cases hzero : specReplicas n.replicas = 0
  · simp [hzero]
  · simp [hzero]

/-- A Deployment reports no outcome for itself. -/
theorem lifecycleBuilds_self (rt : Runtime) (n : Deployment) (serviceID : String) :
    lifecycleBuilds rt (some n) n serviceID = [] := by
  have hrollback : rolledBack (some n) n = false := isRollback_self _ _
  have houtcomes : deployOutcomes (some n) n = [] := by
    have hstarted : isDeployStarted (some n) n (annotationBefore (some n) revisionAnnotation)
        (n.metadata.annotations.at revisionAnnotation) = false := isDeployStarted_self n _
    simp [deployOutcomes, hstarted, isDeploySucceeded_self, isDeployFailed_self,
      isDeployCancelled_self]
  simp [lifecycleBuilds, hrollback, houtcomes]

/-- A Deployment's rollout status did not change. -/
theorem rolloutBuilds_self (rt : Runtime) (n : Deployment) : rolloutBuilds rt (some n) n = [] :=
  if_pos rfl

/-! ### StatefulSets and DaemonSets -/

/-- A StatefulSet reports no outcome for itself. -/
theorem statefulSetBuilds_self (rt : Runtime) (n : StatefulSet) (serviceID : String) :
    statefulSetBuilds rt (some n) n serviceID = [] := by
  have hstarted : isStatefulSetStarted (some n) n = false := by
    by_cases hdiverged : n.updateRevision = n.currentRevision <;>
      simp [isStatefulSetStarted, hdiverged]
  have hsucceeded : isStatefulSetSucceeded (some n) n = false := by
    by_cases hdiverged : n.updateRevision = n.currentRevision <;>
      simp [isStatefulSetSucceeded, hdiverged]
  simp [statefulSetBuilds, hstarted, hsucceeded]

/-- A DaemonSet reports no outcome for itself. -/
theorem daemonSetBuilds_self (rt : Runtime) (n : DaemonSet) (serviceID : String) :
    daemonSetBuilds rt (some n) n serviceID = [] := by
  have hstarted : isDaemonSetStarted (some n) n = false := by
    simp [isDaemonSetStarted]
  have hsucceeded : isDaemonSetSucceeded (some n) n = false := by
    by_cases hupdated : n.updatedNumberScheduled = n.desiredNumberScheduled <;>
      simp [isDaemonSetSucceeded, hupdated]
  simp [daemonSetBuilds, hstarted, hsucceeded]

/-! ### Resyncs -/

/-- The objects whose updates are reported by comparing two snapshots. -/
def Stateful : Object → Bool
  | .node _ | .pod _ | .hpa _ | .deployment _ | .statefulSet _ | .daemonSet _ => true
  | _ => false

/-- An update of a Node, Pod, autoscaler, Deployment, StatefulSet or DaemonSet from the object to
itself emits nothing, for every store and every clock. Assumes: the object is one of these. -/
theorem resync_emits_nothing (rt : Runtime) (reader : Reader) (seq : ℕ) {x : Object}
    (hstateful : Stateful x = true) :
    returned (dispatch rt reader seq (some x) (some x)) = [] := by
  cases x with
  | node n =>
    show fromNodeConditionChange rt seq (some n) n = []
    rw [fromNodeConditionChange_eq, nodeTransitions_self]
    rfl
  | pod n =>
    show returned (fromPodStatusChange rt reader seq (some n) n) = []
    rw [fromPodStatusChange_self]
    rfl
  | hpa n =>
    show (fromHPAScale rt seq (some n) n).toList = []
    rw [fromHPAScale_self]
    rfl
  | deployment n =>
    show returned (dispatchDeployment rt reader seq (some n) n) = []
    rw [dispatchDeployment_eq, rolloutBuilds_self]
    cases resolveWorkloadServiceID reader "Deployment" n.metadata.namespaceName n.metadata.name with
    | error text => rfl
    | ok serviceID => simp [lifecycleBuilds_self]
  | statefulSet n =>
    show returned (fromStatefulSetChange rt reader seq (some n) n) = []
    rw [fromStatefulSetChange_eq]
    cases resolveWorkloadServiceID reader "StatefulSet" n.metadata.namespaceName
      n.metadata.name with
    | error text => rfl
    | ok serviceID => simp [statefulSetBuilds_self]
  | daemonSet n =>
    show returned (fromDaemonSetChange rt reader seq (some n) n) = []
    rw [fromDaemonSetChange_eq]
    cases resolveWorkloadServiceID reader "DaemonSet" n.metadata.namespaceName n.metadata.name with
    | error text => rfl
    | ok serviceID => simp [daemonSetBuilds_self]
  | k8sEvent _ | coreEvent _ | replicaSet _ | other _ => exact absurd hstateful (by simp [Stateful])

/-- A node under pressure with a repeated condition type. -/
def pressedNode : Node where
  metadata := { name := "worker-1" }
  conditions := [{ type := "MemoryPressure", status := "True" },
    { type := "MemoryPressure", status := "False" }]

/-- Its resync is silent, while its add is not. -/
theorem resync_emits_nothing_pressedNode :
    (returned (dispatch ⟨fun _ ↦ 1, fun _ ↦ "evt"⟩ Reader.empty 0 none
      (some (.node pressedNode)))).length = 1 ∧
    returned (dispatch ⟨fun _ ↦ 1, fun _ ↦ "evt"⟩ Reader.empty 0 (some (.node pressedNode))
      (some (.node pressedNode))) = [] :=
  ⟨by decide, resync_emits_nothing _ _ _ rfl⟩

end IncidentaryOperator.Mapper
