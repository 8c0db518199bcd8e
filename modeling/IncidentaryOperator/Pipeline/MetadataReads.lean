import IncidentaryOperator.Pipeline.Handler

/-!
# What the mapper reads of an object's metadata

Annotations and labels hold whatever the people of a cluster put there. Of the annotations of an
object, in hand or in the store of the resolver, the mapper reads three, and of the labels two; of
the containers of a pod template it reads nothing. Taking all else away changes no event of any run
(`events_from_read_keys`), so no other annotation, no other label and no image name can reach the
server in an event, be it as a value or through what it causes.

An object is redacted to what is read (`redact`), and each function of the mapper is shown to
return the same for the redacted object and store.
-/

set_option autoImplicit false
set_option relaxedAutoImplicit false

namespace IncidentaryOperator.Pipeline

open Foundation WireFormat Kubernetes Identity FilterPolicy Mapper

/-! ### Redaction -/

/-- The entries of a map under some keys. -/
def keepKeys (keys : List String) (entries : StringMap) : StringMap :=
  keys.foldr (fun key kept ↦
    match entries.lookup key with
    | some value => kept.insert key value
    | none => kept) ∅

theorem lookup_keepKeys_of_notMem {keys : List String} (entries : StringMap) {key : String}
    (hkey : key ∉ keys) : (keepKeys keys entries).lookup key = none := by
  induction keys with
  | nil => rfl
  | cons first rest ih =>
    obtain ⟨hfirst, hrest⟩ := List.ne_and_not_mem_of_not_mem_cons hkey
    simp only [keepKeys, List.foldr_cons]
    split
    · rw [AList.lookup_insert_ne hfirst]
      exact ih hrest
    · exact ih hrest

/-- Under a kept key the map is as before. -/
theorem lookup_keepKeys {keys : List String} (entries : StringMap) {key : String}
    (hkey : key ∈ keys) : (keepKeys keys entries).lookup key = entries.lookup key := by
  induction keys with
  | nil => exact absurd hkey List.not_mem_nil
  | cons first rest ih =>
    simp only [keepKeys, List.foldr_cons]
    by_cases hfirst : key = first
    · subst hfirst
      split
      · next value hvalue => rw [AList.lookup_insert, hvalue]
      · next hnone =>
        by_cases hrest : key ∈ rest
        · exact ih hrest
        · exact (lookup_keepKeys_of_notMem entries hrest).trans hnone.symm
    · have hrest := (List.mem_cons.mp hkey).resolve_left hfirst
      split
      · rw [AList.lookup_insert_ne hfirst]
        exact ih hrest
      · exact ih hrest

/-- The annotations the mapper and its resolver read. -/
def readAnnotations : List String :=
  serviceIDAnnotation :: revisionAnnotation :: changeCauseAnnotation :: []

/-- The labels the mapper reads. -/
def readLabels : List String :=
  ["app.kubernetes.io/part-of", "environment"]

/-- The metadata with no other annotation and no other label. -/
def redactMeta (metadata : ObjectMeta) : ObjectMeta :=
  { metadata with
    annotations := keepKeys readAnnotations metadata.annotations
    labels := keepKeys readLabels metadata.labels }

def redactDeployment (d : Deployment) : Deployment :=
  { d with metadata := redactMeta d.metadata, containers := [] }

def redactStatefulSet (s : StatefulSet) : StatefulSet :=
  { s with metadata := redactMeta s.metadata, containers := [] }

def redactDaemonSet (d : DaemonSet) : DaemonSet :=
  { d with metadata := redactMeta d.metadata, containers := [] }

def redactReplicaSet (rs : ReplicaSet) : ReplicaSet :=
  { rs with metadata := redactMeta rs.metadata }

def redactPod (p : Pod) : Pod :=
  { p with metadata := redactMeta p.metadata }

def redactNode (n : Node) : Node :=
  { n with metadata := redactMeta n.metadata }

def redactHPA (h : HorizontalPodAutoscaler) : HorizontalPodAutoscaler :=
  { h with metadata := redactMeta h.metadata }

/-- An object with what the mapper reads of it. -/
def redact : Object → Object
  | .node n => .node (redactNode n)
  | .pod p => .pod (redactPod p)
  | .hpa h => .hpa (redactHPA h)
  | .deployment d => .deployment (redactDeployment d)
  | .statefulSet s => .statefulSet (redactStatefulSet s)
  | .daemonSet d => .daemonSet (redactDaemonSet d)
  | .replicaSet rs => .replicaSet (redactReplicaSet rs)
  | .other metadata => .other (redactMeta metadata)
  | obj => obj

/-- A store of redacted objects. -/
def redactReader (reader : Reader) : Reader where
  deployment := fun ns name ↦ (reader.deployment ns name).map redactDeployment
  statefulSet := fun ns name ↦ (reader.statefulSet ns name).map redactStatefulSet
  daemonSet := fun ns name ↦ (reader.daemonSet ns name).map redactDaemonSet
  replicaSet := fun ns name ↦ (reader.replicaSet ns name).map redactReplicaSet
  pod := fun ns name ↦ (reader.pod ns name).map redactPod

section Fields

variable (metadata : ObjectMeta)

@[simp] theorem redactMeta_name : (redactMeta metadata).name = metadata.name :=
  rfl

@[simp] theorem redactMeta_namespaceName :
    (redactMeta metadata).namespaceName = metadata.namespaceName :=
  rfl

@[simp] theorem redactMeta_ownerReferences :
    (redactMeta metadata).ownerReferences = metadata.ownerReferences :=
  rfl

theorem lookup_redactMeta_annotations {key : String} (hkey : key ∈ readAnnotations) :
    (redactMeta metadata).annotations.lookup key = metadata.annotations.lookup key :=
  lookup_keepKeys _ hkey

theorem at_redactMeta_annotations {key : String} (hkey : key ∈ readAnnotations) :
    (redactMeta metadata).annotations.at key = metadata.annotations.at key := by
  unfold StringMap.at
  rw [lookup_redactMeta_annotations metadata hkey]

theorem at_redactMeta_labels {key : String} (hkey : key ∈ readLabels) :
    (redactMeta metadata).labels.at key = metadata.labels.at key := by
  unfold StringMap.at
  rw [redactMeta, lookup_keepKeys _ hkey]

@[simp] theorem resolveFromWorkload_redactMeta (kind name ns : String) :
    resolveFromWorkload kind name ns (redactMeta metadata).annotations =
      resolveFromWorkload kind name ns metadata.annotations := by
  unfold resolveFromWorkload
  rw [lookup_redactMeta_annotations metadata (by decide)]

end Fields

/-! ### The resolver -/

section Resolver

variable (reader : Reader)

theorem resolveFromReplicaSet_redact (rs : ReplicaSet) :
    resolveFromReplicaSet (redactReader reader) (redactReplicaSet rs) =
      resolveFromReplicaSet reader rs := by
  unfold resolveFromReplicaSet
  simp only [redactReplicaSet, resolveFromWorkload_redactMeta, redactMeta_name,
    redactMeta_namespaceName, redactMeta_ownerReferences]
  cases controllerOwner rs.metadata.ownerReferences with
  | none => rfl
  | some owner =>
    simp only [redactReader]
    cases reader.deployment rs.metadata.namespaceName owner.name with
    | ok d => simp [Except.map, redactDeployment]
    | error failure => rfl

theorem resolveFromPod_redact (p : Pod) :
    resolveFromPod (redactReader reader) (redactPod p) = resolveFromPod reader p := by
  unfold resolveFromPod
  simp only [redactPod, resolveFromWorkload_redactMeta, redactMeta_name,
    redactMeta_namespaceName, redactMeta_ownerReferences]
  cases controllerOwner p.metadata.ownerReferences with
  | none => rfl
  | some owner =>
    dsimp only
    split_ifs
    · simp only [redactReader]
      cases reader.replicaSet p.metadata.namespaceName owner.name with
      | ok rs => exact congrArg _ (resolveFromReplicaSet_redact reader rs)
      | error failure => cases failure <;> rfl
    · simp only [redactReader]
      cases reader.statefulSet p.metadata.namespaceName owner.name with
      | ok s => simp [Except.map, redactStatefulSet]
      | error failure => rfl
    · simp only [redactReader]
      cases reader.daemonSet p.metadata.namespaceName owner.name with
      | ok d => simp [Except.map, redactDaemonSet]
      | error failure => rfl
    · rfl

theorem resolveFetched_map {α : Type} (get : Get) (read : Except ReadError α) (change : α → α)
    {found found' : α → Walk} (hfound : ∀ object, found' (change object) = found object) :
    resolveFetched get (read.map change) found' = resolveFetched get read found := by
  cases read with
  | ok object => exact congrArg _ (hfound object)
  | error failure => cases failure <;> rfl

theorem resolveRef_redact (kind ns name : String) :
    resolveRef (redactReader reader) kind ns name = resolveRef reader kind ns name := by
  unfold resolveRef
  split_ifs
  · rfl
  · exact resolveFetched_map _ _ _ fun d ↦ by simp [redactDeployment]
  · exact resolveFetched_map _ _ _ fun s ↦ by simp [redactStatefulSet]
  · exact resolveFetched_map _ _ _ fun d ↦ by simp [redactDaemonSet]
  · exact resolveFetched_map _ _ _ fun rs ↦ resolveFromReplicaSet_redact reader rs
  · exact resolveFetched_map _ _ _ fun p ↦ resolveFromPod_redact reader p
  · rfl
  · rfl

theorem resolveWorkloadServiceID_redact (kind ns name : String) :
    resolveWorkloadServiceID (redactReader reader) kind ns name =
      resolveWorkloadServiceID reader kind ns name := by
  unfold resolveWorkloadServiceID
  rw [resolveRef_redact]

end Resolver

/-! ### The mapper -/

section Mapper

variable (rt : Runtime) (reader : Reader) (seq : ℕ)

theorem fromK8sEvent_redact (ev : K8sEvent) :
    fromK8sEvent rt (redactReader reader) seq ev = fromK8sEvent rt reader seq ev := by
  unfold fromK8sEvent
  simp only [resolveRef_redact]

theorem fromCoreEvent_redact (ev : CoreEvent) :
    fromCoreEvent rt (redactReader reader) seq ev = fromCoreEvent rt reader seq ev := by
  unfold fromCoreEvent
  simp only [resolveRef_redact]

theorem fromNodeConditionChange_redact (old : Option Node) (n : Node) :
    fromNodeConditionChange rt seq (old.map redactNode) (redactNode n) =
      fromNodeConditionChange rt seq old n := by
  cases old <;> rfl

theorem fromHPAScale_redact (old : Option HorizontalPodAutoscaler) (n : HorizontalPodAutoscaler) :
    fromHPAScale rt seq (old.map redactHPA) (redactHPA n) = fromHPAScale rt seq old n := by
  cases old <;> rfl

theorem fromPodStatusChange_redact (old : Option Pod) (n : Pod) :
    fromPodStatusChange rt (redactReader reader) seq (old.map redactPod) (redactPod n) =
      fromPodStatusChange rt reader seq old n := by
  have hbuild : ∀ kind reason,
      buildPodLifecycleEvent rt (redactReader reader) seq (redactPod n) kind reason =
        buildPodLifecycleEvent rt reader seq n kind reason := by
    intro kind reason
    unfold buildPodLifecycleEvent
    simp only [resolve, resolveFromPod_redact]
    rfl
  unfold fromPodStatusChange
  simp only [hbuild]
  cases old <;> rfl

theorem buildDeployEvent_redactMeta (metadata : ObjectMeta) (serviceID : String) (kind : Kind)
    (reason : String) (occurredAt : ℤ) (extra : List (String × AttrValue)) :
    buildDeployEvent rt seq (redactMeta metadata) serviceID kind reason occurredAt extra =
      buildDeployEvent rt seq metadata serviceID kind reason occurredAt extra := by
  unfold buildDeployEvent
  simp only [redactMeta_name, redactMeta_namespaceName]
  rw [at_redactMeta_annotations metadata (by decide), at_redactMeta_labels metadata (by decide),
    at_redactMeta_labels metadata (by decide)]

theorem deploymentEvent_redact (n : Deployment) :
    deploymentEvent rt (redactDeployment n) = deploymentEvent rt n := by
  funext serviceID kind reason seq
  unfold deploymentEvent
  simp only [redactDeployment, buildDeployEvent_redactMeta]
  rw [at_redactMeta_annotations n.metadata (by decide)]
  rfl

theorem rolloutEvent_redact (n : Deployment) :
    rolloutEvent rt seq (redactDeployment n) = rolloutEvent rt seq n := by
  funext status serviceID
  unfold rolloutEvent
  simp only [redactDeployment, lookup_redactMeta_annotations n.metadata
    (show revisionAnnotation ∈ readAnnotations by decide)]
  rfl

theorem fromDeploymentRollout_redact (old : Option Deployment) (n : Deployment) :
    fromDeploymentRollout rt (redactReader reader) seq (old.map redactDeployment)
      (redactDeployment n) = fromDeploymentRollout rt reader seq old n := by
  have hresolve : resolve (redactReader reader) (.deployment (redactDeployment n)) =
      resolve reader (.deployment n) := by
    simp [resolve, redactDeployment]
  unfold fromDeploymentRollout
  rw [hresolve, rolloutEvent_redact]
  cases old <;> rfl

/-- The tests of the rollout read its conditions, its replicas and the two revisions. -/
theorem fromDeploymentChange_redact (old : Option Deployment) (n : Deployment) :
    fromDeploymentChange rt (redactReader reader) seq (old.map redactDeployment)
      (redactDeployment n) = fromDeploymentChange rt reader seq old n := by
  have hnew : ∀ key ∈ readAnnotations, (redactDeployment n).metadata.annotations.at key =
      n.metadata.annotations.at key :=
    fun key hkey ↦ at_redactMeta_annotations n.metadata hkey
  have hbefore : ∀ key ∈ readAnnotations,
      ((old.map redactDeployment).map fun d ↦ d.metadata.annotations.at key).getD "" =
        (old.map fun d ↦ d.metadata.annotations.at key).getD "" := by
    intro key hkey
    cases old with
    | none => rfl
    | some d => exact at_redactMeta_annotations d.metadata hkey
  have hrevision : revisionAnnotation ∈ readAnnotations := by decide
  have hcause : changeCauseAnnotation ∈ readAnnotations := by decide
  unfold fromDeploymentChange
  simp only [hnew _ hrevision, hnew _ hcause, hbefore _ hrevision, hbefore _ hcause,
    resolveWorkloadServiceID_redact, deploymentEvent_redact]
  simp only [redactDeployment, buildDeployEvent_redactMeta]
  cases old <;> rfl

theorem fromDeploymentDelete_redact (d : Deployment) :
    fromDeploymentDelete rt (redactReader reader) seq (redactDeployment d) =
      fromDeploymentDelete rt reader seq d := by
  unfold fromDeploymentDelete
  simp only [resolveWorkloadServiceID_redact, deploymentEvent_redact]
  rfl

theorem fromStatefulSetChange_redact (old : Option StatefulSet) (n : StatefulSet) :
    fromStatefulSetChange rt (redactReader reader) seq (old.map redactStatefulSet)
      (redactStatefulSet n) = fromStatefulSetChange rt reader seq old n := by
  unfold fromStatefulSetChange
  simp only [resolveWorkloadServiceID_redact, redactStatefulSet, buildDeployEvent_redactMeta]
  cases old <;> rfl

theorem fromDaemonSetChange_redact (old : Option DaemonSet) (n : DaemonSet) :
    fromDaemonSetChange rt (redactReader reader) seq (old.map redactDaemonSet)
      (redactDaemonSet n) = fromDaemonSetChange rt reader seq old n := by
  unfold fromDaemonSetChange
  simp only [resolveWorkloadServiceID_redact, redactDaemonSet, buildDeployEvent_redactMeta]
  cases old <;> rfl

theorem dispatchDeployment_redact (old : Option Deployment) (n : Deployment) :
    dispatchDeployment rt (redactReader reader) seq (old.map redactDeployment)
      (redactDeployment n) = dispatchDeployment rt reader seq old n := by
  unfold dispatchDeployment
  simp only [fromDeploymentRollout_redact, fromDeploymentChange_redact]

theorem dispatchDelete_redact (obj : Object) :
    dispatchDelete rt (redactReader reader) seq (redact obj) =
      dispatchDelete rt reader seq obj := by
  cases obj with
  | deployment d => simp only [redact, dispatchDelete, fromDeploymentDelete_redact]
  | _ => rfl

/-- A type assertion on a redacted object gives the redacted object of that type. -/
theorem bind_redact {α : Type} {assert : Object → Option α} (change : α → α)
    (hassert : ∀ obj, assert (redact obj) = (assert obj).map change) (oldObj : Option Object) :
    (oldObj.map redact).bind assert = (oldObj.bind assert).map change := by
  cases oldObj with
  | none => rfl
  | some obj => exact hassert obj

/-- `Dispatch` returns the same for redacted objects and a redacted store. -/
theorem dispatch_redact (oldObj newObj : Option Object) :
    dispatch rt (redactReader reader) seq (oldObj.map redact) (newObj.map redact) =
      dispatch rt reader seq oldObj newObj := by
  cases newObj with
  | none =>
    cases oldObj with
    | none => rfl
    | some old => exact dispatchDelete_redact rt reader seq old
  | some obj =>
    cases obj with
    | k8sEvent ev => simp only [Option.map_some, redact, dispatch, fromK8sEvent_redact]
    | coreEvent ev => simp only [Option.map_some, redact, dispatch, fromCoreEvent_redact]
    | node n =>
      simp only [Option.map_some, redact, dispatch]
      rw [bind_redact redactNode (by rintro ⟨⟩ <;> rfl), fromNodeConditionChange_redact]
    | pod n =>
      simp only [Option.map_some, redact, dispatch]
      rw [bind_redact redactPod (by rintro ⟨⟩ <;> rfl), fromPodStatusChange_redact]
    | hpa n =>
      simp only [Option.map_some, redact, dispatch]
      rw [bind_redact redactHPA (by rintro ⟨⟩ <;> rfl), fromHPAScale_redact]
    | deployment n =>
      simp only [Option.map_some, redact, dispatch]
      rw [bind_redact redactDeployment (by rintro ⟨⟩ <;> rfl), dispatchDeployment_redact]
    | statefulSet n =>
      simp only [Option.map_some, redact, dispatch]
      rw [bind_redact redactStatefulSet (by rintro ⟨⟩ <;> rfl), fromStatefulSetChange_redact]
    | daemonSet n =>
      simp only [Option.map_some, redact, dispatch]
      rw [bind_redact redactDaemonSet (by rintro ⟨⟩ <;> rfl), fromDaemonSetChange_redact]
    | replicaSet rs => rfl
    | other metadata => rfl

end Mapper

/-! ### The pipeline -/

/-- A notification of redacted objects. -/
def redactNotification : Notification → Notification
  | .added obj => .added (redact obj)
  | .updated old new => .updated (redact old) (redact new)
  | .deleted obj => .deleted (redact obj)

theorem dispatch_redactNotification (rt : Runtime) (reader : Reader) (seq : ℕ)
    (notification : Notification) :
    dispatch rt (redactReader reader) seq (redactNotification notification).oldObj
        (redactNotification notification).newObj =
      dispatch rt reader seq notification.oldObj notification.newObj := by
  cases notification with
  | added obj => exact dispatch_redact rt reader seq none (some obj)
  | updated old new => exact dispatch_redact rt reader seq (some old) (some new)
  | deleted obj => exact dispatch_redact rt reader seq (some obj) none

/-- Every run of notifications enqueues the same events, in the same order and with the same ids,
when of every object, delivered or in the store, all annotations and labels but the five that are
read and all containers of its template are taken away. So two clusters that differ in nothing else
give the same events, whatever the threshold of the filter. -/
theorem events_from_read_keys (rt : Runtime) (f : SeverityFilter) (seq : ℕ)
    (run : List (Reader × Notification)) :
    enqueuedBy rt f seq (run.map fun step ↦ (redactReader step.1, redactNotification step.2)) =
      enqueuedBy rt f seq run := by
  induction run generalizing seq with
  | nil => rfl
  | cons step rest ih =>
    have hdispatch := dispatch_redactNotification rt step.1 seq step.2
    simp only [List.map_cons, enqueuedBy]
    rw [handle_enqueued, handle_enqueued, dispatchedCount, dispatchedCount, hdispatch, ih]

end IncidentaryOperator.Pipeline
