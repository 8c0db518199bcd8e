import IncidentaryOperator.Foundation.GoStandard

/-!
# The Kubernetes objects the operator reads

The API types as the operator's code reads them: every field a modelled function looks at, with the
Go zero value as its default, and no other. Condition types, statuses, phases and kinds are open
strings in the API and stay strings here, since the code must cope with any text in them.

`Reader` is the cached reader behind the identity resolver. Each read returns the object, answers
that it does not exist, or fails in another way, whose text ends up in the resolver's error.

`Listing` is what the three `List` calls of a discovery cycle answer, each its items or an error.

`CoreEvent.project` is the view of a stored event record through the newer API group, field by field
as the API server converts it.
-/

set_option autoImplicit false
set_option relaxedAutoImplicit false

namespace IncidentaryOperator.Kubernetes

open Foundation

/-! ### Metadata -/

/-- An owner reference; `controller` is nil, false or true. -/
structure OwnerReference where
  kind : String := ""
  name : String := ""
  controller : Option Bool := none
  deriving DecidableEq

/-- Object metadata. -/
structure ObjectMeta where
  name : String := ""
  namespaceName : String := ""
  labels : StringMap := ∅
  annotations : StringMap := ∅
  creationTimestamp : Time := .zero
  ownerReferences : List OwnerReference := []
  deriving DecidableEq

/-! ### Workloads -/

/-- A condition of a Deployment. -/
structure DeploymentCondition where
  type : String := ""
  status : String := ""
  reason : String := ""
  lastUpdateTime : Time := .zero
  lastTransitionTime : Time := .zero
  deriving DecidableEq

/-- A container of a pod template. -/
structure Container where
  image : String := ""
  deriving DecidableEq

/-- A Deployment; `replicas` is nil when the field is not set. -/
structure Deployment where
  metadata : ObjectMeta := {}
  replicas : Option ℤ := none
  containers : List Container := []
  updatedReplicas : ℤ := 0
  readyReplicas : ℤ := 0
  availableReplicas : ℤ := 0
  conditions : List DeploymentCondition := []
  deriving DecidableEq

/-- A StatefulSet. -/
structure StatefulSet where
  metadata : ObjectMeta := {}
  replicas : Option ℤ := none
  containers : List Container := []
  updateRevision : String := ""
  currentRevision : String := ""
  readyReplicas : ℤ := 0
  deriving DecidableEq

/-- A DaemonSet. -/
structure DaemonSet where
  metadata : ObjectMeta := {}
  containers : List Container := []
  observedGeneration : ℤ := 0
  updatedNumberScheduled : ℤ := 0
  desiredNumberScheduled : ℤ := 0
  numberReady : ℤ := 0
  deriving DecidableEq

/-- A ReplicaSet, read only on the way from a Pod to its Deployment. -/
structure ReplicaSet where
  metadata : ObjectMeta := {}
  deriving DecidableEq

/-! ### Pods, nodes and autoscalers -/

/-- The terminated state of a container. -/
structure ContainerTerminated where
  reason : String := ""
  exitCode : ℤ := 0
  finishedAt : Time := .zero
  deriving DecidableEq

/-- The status of a container; `terminated` is nil while it runs or waits. -/
structure ContainerStatus where
  name : String := ""
  restartCount : ℤ := 0
  terminated : Option ContainerTerminated := none
  deriving DecidableEq

/-- A Pod. -/
structure Pod where
  metadata : ObjectMeta := {}
  nodeName : String := ""
  phase : String := ""
  startTime : Option Time := none
  containerStatuses : List ContainerStatus := []
  deriving DecidableEq

/-- A condition of a Node. -/
structure NodeCondition where
  type : String := ""
  status : String := ""
  reason : String := ""
  message : String := ""
  lastHeartbeatTime : Time := .zero
  lastTransitionTime : Time := .zero
  deriving DecidableEq

/-- A Node. -/
structure Node where
  metadata : ObjectMeta := {}
  conditions : List NodeCondition := []
  deriving DecidableEq

/-- A HorizontalPodAutoscaler. -/
structure HorizontalPodAutoscaler where
  metadata : ObjectMeta := {}
  minReplicas : Option ℤ := none
  maxReplicas : ℤ := 0
  scaleTargetName : String := ""
  currentReplicas : ℤ := 0
  desiredReplicas : ℤ := 0
  lastScaleTime : Option Time := none
  deriving DecidableEq

/-! ### Events -/

/-- A reference to the object an event is about. -/
structure ObjectReference where
  kind : String := ""
  namespaceName : String := ""
  name : String := ""
  deriving DecidableEq

/-- The repetition block of an event record. -/
structure EventSeries where
  count : ℤ := 0
  lastObservedTime : Time := .zero
  deriving DecidableEq

/-- An event served through `events.k8s.io/v1`. -/
structure K8sEvent where
  reason : String := ""
  regarding : ObjectReference := {}
  reportingController : String := ""
  note : String := ""
  action : String := ""
  eventTime : Time := .zero
  series : Option EventSeries := none
  deprecatedFirstTimestamp : Time := .zero
  deprecatedLastTimestamp : Time := .zero
  deprecatedCount : ℤ := 0
  deriving DecidableEq

/-- An event served through `core/v1`. -/
structure CoreEvent where
  reason : String := ""
  involvedObject : ObjectReference := {}
  reportingController : String := ""
  message : String := ""
  action : String := ""
  sourceComponent : String := ""
  sourceHost : String := ""
  firstTimestamp : Time := .zero
  lastTimestamp : Time := .zero
  eventTime : Time := .zero
  count : ℤ := 0
  series : Option EventSeries := none
  deriving DecidableEq

/-- The view of a stored event record through `events.k8s.io/v1`, as the API server converts it. -/
def CoreEvent.project (event : CoreEvent) : K8sEvent where
  reason := event.reason
  regarding := event.involvedObject
  reportingController := event.reportingController
  note := event.message
  action := event.action
  eventTime := event.eventTime
  series := event.series
  deprecatedFirstTimestamp := event.firstTimestamp
  deprecatedLastTimestamp := event.lastTimestamp
  deprecatedCount := event.count

/-! ### Objects in hand and the cached reader -/

/-- An object an informer delivers, by its runtime type. The kinds of the watch set that no code
looks into are `other`. -/
inductive Object
  | k8sEvent (event : K8sEvent)
  | coreEvent (event : CoreEvent)
  | node (node : Node)
  | pod (pod : Pod)
  | hpa (hpa : HorizontalPodAutoscaler)
  | deployment (deployment : Deployment)
  | statefulSet (statefulSet : StatefulSet)
  | daemonSet (daemonSet : DaemonSet)
  | replicaSet (replicaSet : ReplicaSet)
  | other (metadata : ObjectMeta)
  deriving DecidableEq

/-- How a read fails: the object does not exist, or the read itself failed. -/
inductive ReadError
  | notFound
  | failed (text : String)
  deriving DecidableEq

/-- A read by namespace and name. -/
abbrev Read (α : Type) := String → String → Except ReadError α

/-- The cached reader the resolver works on, one read for each kind it asks for. -/
structure Reader where
  deployment : Read Deployment
  statefulSet : Read StatefulSet
  daemonSet : Read DaemonSet
  replicaSet : Read ReplicaSet
  pod : Read Pod

/-- The reader of an empty cache. -/
def Reader.empty : Reader where
  deployment := fun _ _ ↦ .error .notFound
  statefulSet := fun _ _ ↦ .error .notFound
  daemonSet := fun _ _ ↦ .error .notFound
  replicaSet := fun _ _ ↦ .error .notFound
  pod := fun _ _ ↦ .error .notFound

/-- The answers to the `List` calls for the workloads of the cluster, each independent of the
others: the items, or the text of the error. -/
structure Listing where
  deployments : Except String (List Deployment)
  statefulSets : Except String (List StatefulSet)
  daemonSets : Except String (List DaemonSet)

end IncidentaryOperator.Kubernetes
