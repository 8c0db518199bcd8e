import IncidentaryOperator.Mapper.Deployment

/-!
# Dispatch

`internal/mapper/mapper.go`: an informer notification is an old and a new object, either of which
may be missing, and goes to the mapper function of the new object's type; a deletion concerns
Deployments only. An old object of another type counts as missing.
-/

set_option autoImplicit false
set_option relaxedAutoImplicit false

namespace IncidentaryOperator.Mapper

open Foundation WireFormat Kubernetes Identity

/-- The type assertions `old, _ := oldObj.(*T)`. -/
def asNode : Object → Option Node
  | .node node => some node
  | _ => none

@[inherit_doc asNode]
def asPod : Object → Option Pod
  | .pod pod => some pod
  | _ => none

@[inherit_doc asNode]
def asHPA : Object → Option HorizontalPodAutoscaler
  | .hpa hpa => some hpa
  | _ => none

@[inherit_doc asNode]
def asDeployment : Object → Option Deployment
  | .deployment deployment => some deployment
  | _ => none

@[inherit_doc asNode]
def asStatefulSet : Object → Option StatefulSet
  | .statefulSet statefulSet => some statefulSet
  | _ => none

@[inherit_doc asNode]
def asDaemonSet : Object → Option DaemonSet
  | .daemonSet daemonSet => some daemonSet
  | _ => none

/-- The branch of `Dispatch` for a Deployment: the rollout event first, then the lifecycle events.
An error of either loses both. -/
def dispatchDeployment (rt : Runtime) (reader : Reader) (seq : ℕ) (old : Option Deployment)
    (n : Deployment) : Except String (List Event) :=
  match fromDeploymentRollout rt reader seq old n with
  | .error text => .error text
  | .ok infra =>
    match fromDeploymentChange rt reader (seq + infra.length) old n with
    | .error text => .error text
    | .ok deploy => .ok (infra ++ deploy)

/-- `dispatchDelete`: only the deletion of a Deployment can produce an event. -/
def dispatchDelete (rt : Runtime) (reader : Reader) (seq : ℕ) :
    Object → Except String (List Event)
  | .deployment d => (fromDeploymentDelete rt reader seq d).map Option.toList
  | _ => .ok []

/-- `Mapper.Dispatch`, with `seq` the number of the first event it may build. -/
def dispatch (rt : Runtime) (reader : Reader) (seq : ℕ) (oldObj newObj : Option Object) :
    Except String (List Event) :=
  match newObj with
  | none =>
    match oldObj with
    | some old => dispatchDelete rt reader seq old
    | none => .ok []
  | some (.k8sEvent ev) => (fromK8sEvent rt reader seq ev).map Option.toList
  | some (.coreEvent ev) => (fromCoreEvent rt reader seq ev).map Option.toList
  | some (.node n) => .ok (fromNodeConditionChange rt seq (oldObj.bind asNode) n)
  | some (.pod n) => fromPodStatusChange rt reader seq (oldObj.bind asPod) n
  | some (.hpa n) => .ok (fromHPAScale rt seq (oldObj.bind asHPA) n).toList
  | some (.deployment n) => dispatchDeployment rt reader seq (oldObj.bind asDeployment) n
  | some (.statefulSet n) => fromStatefulSetChange rt reader seq (oldObj.bind asStatefulSet) n
  | some (.daemonSet n) => fromDaemonSetChange rt reader seq (oldObj.bind asDaemonSet) n
  | some (.replicaSet _) => .ok []
  | some (.other _) => .ok []

/-- The event list a call returns: an error comes with a nil list. -/
def returned (outcome : Except String (List Event)) : List Event :=
  match outcome with
  | .ok events => events
  | .error _ => []

end IncidentaryOperator.Mapper
