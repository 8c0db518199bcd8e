import IncidentaryOperator.Mapper.Infrastructure

/-!
# Deployment-domain mappers

`internal/mapper/deployment.go`: the `DEPLOY_*` lifecycle events of Deployments, StatefulSets and
DaemonSets, read off transitions between two snapshots by one predicate for each outcome.
-/

set_option autoImplicit false
set_option relaxedAutoImplicit false

namespace IncidentaryOperator.Mapper

open Foundation WireFormat Kubernetes Identity

/-! ### Detection helpers -/

/-- The condition reasons the helpers look for. -/
def reasonNewReplicaSetCreated : String :=
  "NewReplicaSetCreated"

@[inherit_doc reasonNewReplicaSetCreated]
def reasonNewReplicaSetAvailable : String :=
  "NewReplicaSetAvailable"

@[inherit_doc reasonNewReplicaSetCreated]
def reasonProgressDeadlineExceeded : String :=
  "ProgressDeadlineExceeded"

/-- The annotation with the cause of the last change of a workload. -/
def changeCauseAnnotation : String :=
  "kubernetes.io/change-cause"

/-- `revisionLess`: compares revisions as integers, or as text when either does not parse. -/
def revisionLess (a b : String) : Bool :=
  match sscanfDecimal a, sscanfDecimal b with
  | some first, some second => first < second
  | _, _ => a < b

/-- `isRollback`: the revision decreased, or a new change cause speaks of a rollback. -/
def isRollback (oldRev newRev oldCC newCC : String) : Bool :=
  (newRev ≠ "" && oldRev ≠ "" && revisionLess newRev oldRev) ||
    (newCC ≠ "" && newCC ≠ oldCC && containsLower newCC "rollback")

/-- The `Progressing` condition is true with the reason of a fresh ReplicaSet. -/
def progressingCreated (cond : DeploymentCondition) : Bool :=
  cond.status = "True" && cond.reason = reasonNewReplicaSetCreated

/-- `isDeployStarted`: a rollout just started. On an add only a fresh ReplicaSet counts, later a new
revision is enough. -/
def isDeployStarted (old : Option Deployment) (n : Deployment) (oldRev newRev : String) : Bool :=
  if newRev = "" then false
  else
    match progressingCondition n with
    | none => false
    | some progressing =>
      match old with
      | none => progressingCreated progressing
      | some old =>
        if oldRev ≠ newRev then true
        else
          match progressingCondition old with
          | none => progressingCreated progressing
          | some oldProgressing =>
            if oldProgressing.reason ≠ reasonNewReplicaSetCreated then
              progressingCreated progressing
            else false

/-- `specReplicas`: a replica count, one when it is not set. -/
def specReplicas (replicas : Option ℤ) : ℤ :=
  replicas.getD 1

/-- The `Progressing` condition of an old snapshot, when there is one, already has a reason. -/
def alreadyProgressing (old : Deployment) (reason : String) : Bool :=
  match progressingCondition old with
  | some progressing => progressing.reason = reason
  | none => false

/-- `isDeploySucceeded`: the rollout just completed. Never on an add. -/
def isDeploySucceeded (old : Option Deployment) (n : Deployment) : Bool :=
  match findDeploymentCondition n.conditions "Available" with
  | none => false
  | some available =>
    if available.status ≠ "True" then false
    else
      match progressingCondition n with
      | none => false
      | some progressing =>
        if progressing.reason ≠ reasonNewReplicaSetAvailable then false
        else
          let want := specReplicas n.replicas
          if n.updatedReplicas ≠ want ∨ n.readyReplicas ≠ want then false
          else
            match old with
            | none => false
            | some old => !alreadyProgressing old reasonNewReplicaSetAvailable

/-- `isDeployFailed`: the progress deadline was just exceeded. -/
def isDeployFailed (old : Option Deployment) (n : Deployment) : Bool :=
  match progressingCondition n with
  | none => false
  | some progressing =>
    if progressing.status ≠ "False" ∨ progressing.reason ≠ reasonProgressDeadlineExceeded then false
    else
      match old with
      | none => true
      | some old => !alreadyProgressing old reasonProgressDeadlineExceeded

/-- `isDeployCancelled`: just scaled to zero while the old snapshot was progressing. -/
def isDeployCancelled (old : Option Deployment) (n : Deployment) : Bool :=
  match old with
  | none => false
  | some old =>
    if specReplicas old.replicas = 0 ∨ specReplicas n.replicas ≠ 0 then false
    else
      match progressingCondition old with
      | none => false
      | some progressing => progressing.status = "True"

/-- `deploymentOccurredAt`: the latest transition over all conditions that is after the epoch, else
the creation time. -/
def deploymentOccurredAt (d : Deployment) : ℤ :=
  let latest := d.conditions.foldl
    (fun latest cond ↦ max latest (timeToUnixNano cond.lastTransitionTime)) 0
  if latest = 0 then timeToUnixNano d.metadata.creationTimestamp else latest

/-! ### Building events -/

/-- One assignment of `buildDeployEvent` from the extra attributes: an empty string is skipped. -/
def setExtra (attrs : Attributes) (entry : String × AttrValue) : Attributes :=
  match entry.2 with
  | .bytes value => if value.size = 0 then attrs else attrs.insert entry.1 (.bytes value)
  | .int value => attrs.insert entry.1 (.int value)

/-- `buildDeployEvent`. -/
def buildDeployEvent (rt : Runtime) (seq : ℕ) (metadata : ObjectMeta) (serviceID : String)
    (kind : Kind) (reason : String) (occurredAt : ℤ) (extra : List (String × AttrValue)) : Event :=
  let attrs : Attributes := (∅ : Attributes)
    |>.insert "k8s.namespace.name" (.str metadata.namespaceName)
    |>.insert "k8s.workload.name" (.str metadata.name)
    |>.insert "k8s.reason" (.str reason)
  let attrs := setUnlessEmpty attrs "deployment.environment"
    (metadata.labels.at "app.kubernetes.io/part-of")
  let attrs := setUnlessEmpty attrs "deployment.environment" (metadata.labels.at "environment")
  let attrs := setTruncated attrs "k8s.change_cause" (metadata.annotations.at changeCauseAnnotation)
    512
  { id := rt.newID seq
    kind := kind
    severity := severityForKind kind
    occurredAt := occurredAt
    serviceID := serviceID
    attributes := extra.foldl setExtra attrs }

/-- `resolveWorkloadServiceID`: re-reads a workload through the resolver, with its name as the last
resort. -/
def resolveWorkloadServiceID (reader : Reader) (kind namespaceName name : String) :
    Except String String :=
  match (resolveRef reader kind namespaceName name).outcome with
  | .error text => .error text
  | .ok res => .ok (fallbackServiceID res name)

/-- The guarded append of the change functions: `if holds { out = append(out, build()) }`, with the
number of the next event. -/
def appendWhen (holds : Bool) (build : ℕ → Event) (seq : ℕ) (out : List Event) : List Event :=
  if holds then out ++ [build (seq + out.length)] else out

/-! ### Deployments -/

/-- A `DEPLOY_*` event of a Deployment with its revision as the extra attribute. -/
def deploymentEvent (rt : Runtime) (n : Deployment) (serviceID : String) (kind : Kind)
    (reason : String) (seq : ℕ) : Event :=
  buildDeployEvent rt seq n.metadata serviceID kind reason (deploymentOccurredAt n)
    [("k8s.rollout.revision", revisionAttr (n.metadata.annotations.at revisionAnnotation))]

/-- `FromDeploymentChange`. A rollback is reported alone; the other outcomes are tested one after
the other. -/
def fromDeploymentChange (rt : Runtime) (reader : Reader) (seq : ℕ) (old : Option Deployment)
    (n : Deployment) : Except String (List Event) :=
  match resolveWorkloadServiceID reader "Deployment" n.metadata.namespaceName n.metadata.name with
  | .error text => .error s!"mapper.FromDeploymentChange: {text}"
  | .ok serviceID =>
    let before (key : String) : String := (old.map fun d ↦ d.metadata.annotations.at key).getD ""
    let newRevision := n.metadata.annotations.at revisionAnnotation
    let newChangeCause := n.metadata.annotations.at changeCauseAnnotation
    let oldRevision := before revisionAnnotation
    let oldChangeCause := before changeCauseAnnotation
    if isRollback oldRevision newRevision oldChangeCause newChangeCause then
      .ok [buildDeployEvent rt seq n.metadata serviceID .deployRolledBack "RolledBack"
        (deploymentOccurredAt n)
        [("k8s.rollout.revision", revisionAttr newRevision),
         ("k8s.rollout.prev_revision", revisionAttr oldRevision),
         ("k8s.rollout.change_cause", .str newChangeCause)]]
    else
      let event := deploymentEvent rt n serviceID
      .ok (appendWhen (isDeployCancelled old n) (event .deployCancelled "ScaleToZero") seq
        (appendWhen (isDeployFailed old n) (event .deployFailed reasonProgressDeadlineExceeded) seq
          (appendWhen (isDeploySucceeded old n) (event .deploySucceeded "Succeeded") seq
            (appendWhen (isDeployStarted old n oldRevision newRevision)
              (event .deployStarted "Started") seq []))))

/-- `FromDeploymentDelete`: a rollout was in progress, that is `Progressing` is true for another
reason than a completed rollout. -/
def fromDeploymentDelete (rt : Runtime) (reader : Reader) (seq : ℕ) (d : Deployment) :
    Except String (Option Event) :=
  match progressingCondition d with
  | none => .ok none
  | some progressing =>
    if progressing.status ≠ "True" then .ok none
    else if progressing.reason = reasonNewReplicaSetAvailable then .ok none
    else
      match resolveWorkloadServiceID reader "Deployment" d.metadata.namespaceName
        d.metadata.name with
      | .error text => .error s!"mapper.FromDeploymentDelete: {text}"
      | .ok serviceID =>
        .ok (some (deploymentEvent rt d serviceID .deployCancelled "DeletedMidRollout" seq))

/-! ### StatefulSets and DaemonSets -/

/-- The update revision just diverged from the current one, or moved on while diverged. -/
def isStatefulSetStarted (old : Option StatefulSet) (n : StatefulSet) : Bool :=
  n.updateRevision ≠ "" && n.updateRevision ≠ n.currentRevision &&
    match old with
    | none => true
    | some old => old.updateRevision = old.currentRevision || old.updateRevision ≠ n.updateRevision

/-- The update revision converged to the current one after diverging, and all replicas are ready. -/
def isStatefulSetSucceeded (old : Option StatefulSet) (n : StatefulSet) : Bool :=
  match old with
  | none => false
  | some old =>
    old.updateRevision ≠ "" && old.updateRevision ≠ old.currentRevision &&
      n.updateRevision = n.currentRevision && n.updateRevision ≠ "" &&
      n.readyReplicas = specReplicas n.replicas

/-- `FromStatefulSetChange`. -/
def fromStatefulSetChange (rt : Runtime) (reader : Reader) (seq : ℕ) (old : Option StatefulSet)
    (n : StatefulSet) : Except String (List Event) :=
  match resolveWorkloadServiceID reader "StatefulSet" n.metadata.namespaceName n.metadata.name with
  | .error text => .error s!"mapper.FromStatefulSetChange: {text}"
  | .ok serviceID =>
    let event (kind : Kind) (reason : String) (extra : List (String × AttrValue)) (seq : ℕ) :=
      buildDeployEvent rt seq n.metadata serviceID kind reason
        (timeToUnixNano n.metadata.creationTimestamp) extra
    .ok (appendWhen (isStatefulSetSucceeded old n)
      (event .deploySucceeded "Succeeded"
        [("k8s.rollout.revision", .str n.updateRevision),
         ("k8s.resource.kind", .str "StatefulSet")]) seq
      (appendWhen (isStatefulSetStarted old n)
        (event .deployStarted "Started"
          [("k8s.rollout.revision", .str n.updateRevision),
           ("k8s.rollout.current", .str n.currentRevision),
           ("k8s.resource.kind", .str "StatefulSet")]) seq []))

/-- The observed generation increased and not all pods are updated yet. -/
def isDaemonSetStarted (old : Option DaemonSet) (n : DaemonSet) : Bool :=
  n.observedGeneration > (old.map DaemonSet.observedGeneration).getD 0 &&
    n.updatedNumberScheduled < n.desiredNumberScheduled

/-- All pods are updated where some were not before. -/
def isDaemonSetSucceeded (old : Option DaemonSet) (n : DaemonSet) : Bool :=
  match old with
  | none => false
  | some old =>
    old.updatedNumberScheduled < old.desiredNumberScheduled &&
      n.updatedNumberScheduled = n.desiredNumberScheduled && n.desiredNumberScheduled > 0

/-- `FromDaemonSetChange`. -/
def fromDaemonSetChange (rt : Runtime) (reader : Reader) (seq : ℕ) (old : Option DaemonSet)
    (n : DaemonSet) : Except String (List Event) :=
  match resolveWorkloadServiceID reader "DaemonSet" n.metadata.namespaceName n.metadata.name with
  | .error text => .error s!"mapper.FromDaemonSetChange: {text}"
  | .ok serviceID =>
    let event (kind : Kind) (reason : String) (seq : ℕ) :=
      buildDeployEvent rt seq n.metadata serviceID kind reason
        (timeToUnixNano n.metadata.creationTimestamp)
        [("k8s.rollout.generation", .int n.observedGeneration),
         ("k8s.resource.kind", .str "DaemonSet")]
    .ok (appendWhen (isDaemonSetSucceeded old n) (event .deploySucceeded "Succeeded") seq
      (appendWhen (isDaemonSetStarted old n) (event .deployStarted "Started") seq []))

end IncidentaryOperator.Mapper
