import IncidentaryOperator.Kubernetes.Objects

/-!
# The identity resolver

`internal/identity/resolver.go`: from an object, or a loose reference to one, to the service
identity of the workload that owns it. A Pod is walked to its ReplicaSet and Deployment, or to its
StatefulSet or DaemonSet; the service id is the workload's annotation when it is set and its name
otherwise.

Every function returns a `Walk`: the reads it issued, in order, and what it returned. A missing
object on the way is a partial success, any other read failure is the error of the walk.
-/

set_option autoImplicit false
set_option relaxedAutoImplicit false

namespace IncidentaryOperator.Identity

open Foundation Kubernetes

/-- The annotation that overrides the service id of a workload. -/
def serviceIDAnnotation : String :=
  "incidentary.com/service-id"

/-- How a service id was derived; `unset` is the zero value of an empty result. -/
inductive Source
  | unset
  | annotated
  | workloadName
  deriving DecidableEq

/-- What the resolver returns. -/
structure Result where
  serviceID : String := ""
  source : Source := .unset
  ownerKind : String := ""
  ownerName : String := ""
  namespaceName : String := ""
  deriving DecidableEq

/-- A read the resolver issued. -/
structure Get where
  kind : String
  namespaceName : String
  name : String
  deriving DecidableEq

/-- A resolution: the reads it issued, oldest first, and the pair it returned, a result and the text
of the error, none for nil. -/
structure Walk where
  gets : List Get
  result : Result
  err : Option String

namespace Walk

/-- What a caller that checks the error sees: the error, or the result when there is none. -/
def outcome (walk : Walk) : Except String Result :=
  match walk.err with
  | none => .ok walk.result
  | some text => .error text

/-- A resolution that needs no read. -/
def done (result : Result) : Walk :=
  ⟨[], result, none⟩

/-- A resolution preceded by one more read. -/
def after (get : Get) (walk : Walk) : Walk :=
  ⟨get :: walk.gets, walk.result, walk.err⟩

/-- A resolution that stops at a failed read. The text is the source's wrapping of the read's own
error. -/
def fetchError (get : Get) (text : String) : Walk :=
  ⟨[], {}, some s!"identity.Resolver: fetch {get.kind} {get.namespaceName}/{get.name}: {text}"⟩

@[simp]
theorem outcome_done (result : Result) : (done result).outcome = .ok result :=
  rfl

@[simp]
theorem outcome_after (get : Get) (walk : Walk) : (after get walk).outcome = walk.outcome :=
  rfl

end Walk

/-- `resolveFromWorkload`: the identity of a known workload, from its annotation or its name. -/
def resolveFromWorkload (kind name namespaceName : String) (annotations : StringMap) : Result :=
  match annotations.lookup serviceIDAnnotation with
  | some id =>
    if id ≠ "" then ⟨id, .annotated, kind, name, namespaceName⟩
    else ⟨name, .workloadName, kind, name, namespaceName⟩
  | none => ⟨name, .workloadName, kind, name, namespaceName⟩

/-- `controllerOwner`: the first reference marked as controller, else the first reference. -/
def controllerOwner (refs : List OwnerReference) : Option OwnerReference :=
  match refs.find? (fun ref ↦ ref.controller = some true) with
  | some ref => some ref
  | none => refs.head?

/-- `resolveFromReplicaSet`: walks a ReplicaSet to its Deployment, or stops at the ReplicaSet when
it has no Deployment or the Deployment is gone. -/
def resolveFromReplicaSet (reader : Reader) (rs : ReplicaSet) : Walk :=
  let self := resolveFromWorkload "ReplicaSet" rs.metadata.name rs.metadata.namespaceName
    rs.metadata.annotations
  match controllerOwner rs.metadata.ownerReferences with
  | none => .done self
  | some owner =>
    if owner.kind ≠ "Deployment" then .done self
    else
      let get : Get := ⟨"Deployment", rs.metadata.namespaceName, owner.name⟩
      Walk.after get <|
        match reader.deployment rs.metadata.namespaceName owner.name with
        | .ok d => .done (resolveFromWorkload "Deployment" d.metadata.name d.metadata.namespaceName
            d.metadata.annotations)
        | .error .notFound => .done self
        | .error (.failed text) => .fetchError get text

/-- `resolveFromPod`: walks a Pod to the workload that owns it. Without an owner, with an unknown
kind of owner or with a ReplicaSet that is gone, the Pod stands for itself; a StatefulSet or
DaemonSet that is gone still gives its name. -/
def resolveFromPod (reader : Reader) (p : Pod) : Walk :=
  let self := resolveFromWorkload "Pod" p.metadata.name p.metadata.namespaceName
    p.metadata.annotations
  match controllerOwner p.metadata.ownerReferences with
  | none => .done self
  | some owner =>
    let get : Get := ⟨owner.kind, p.metadata.namespaceName, owner.name⟩
    if owner.kind = "ReplicaSet" then
      Walk.after get <|
        match reader.replicaSet p.metadata.namespaceName owner.name with
        | .ok rs => resolveFromReplicaSet reader rs
        | .error .notFound => .done self
        | .error (.failed text) => .fetchError get text
    else if owner.kind = "StatefulSet" then
      Walk.after get <|
        match reader.statefulSet p.metadata.namespaceName owner.name with
        | .ok ss => .done (resolveFromWorkload "StatefulSet" ss.metadata.name
            ss.metadata.namespaceName ss.metadata.annotations)
        | .error .notFound =>
          .done (resolveFromWorkload "StatefulSet" owner.name p.metadata.namespaceName ∅)
        | .error (.failed text) => .fetchError get text
    else if owner.kind = "DaemonSet" then
      Walk.after get <|
        match reader.daemonSet p.metadata.namespaceName owner.name with
        | .ok ds => .done (resolveFromWorkload "DaemonSet" ds.metadata.name
            ds.metadata.namespaceName ds.metadata.annotations)
        | .error .notFound =>
          .done (resolveFromWorkload "DaemonSet" owner.name p.metadata.namespaceName ∅)
        | .error (.failed text) => .fetchError get text
    else .done self

/-- `Resolver.Resolve`: the identity of an object in hand. Objects that are no workload carry no
identity of their own. -/
def resolve (reader : Reader) : Object → Walk
  | .deployment d => .done (resolveFromWorkload "Deployment" d.metadata.name
      d.metadata.namespaceName d.metadata.annotations)
  | .statefulSet s => .done (resolveFromWorkload "StatefulSet" s.metadata.name
      s.metadata.namespaceName s.metadata.annotations)
  | .daemonSet d => .done (resolveFromWorkload "DaemonSet" d.metadata.name d.metadata.namespaceName
      d.metadata.annotations)
  | .replicaSet rs => resolveFromReplicaSet reader rs
  | .pod p => resolveFromPod reader p
  | _ => .done {}

/-- `handleFetchError` around the read a reference starts with: a missing object is the empty
result, any other failure the error, and an object found goes on to `found`. -/
def resolveFetched {α : Type} (get : Get) (read : Except ReadError α) (found : α → Walk) : Walk :=
  Walk.after get <|
    match read with
    | .ok object => found object
    | .error .notFound => .done {}
    | .error (.failed text) => .fetchError get text

/-- `Resolver.ResolveRef`: the identity behind a loose (kind, namespace, name) reference. The switch
on the kind is case sensitive. -/
def resolveRef (reader : Reader) (kind namespaceName name : String) : Walk :=
  if name = "" then .done {}
  else if kind = "Deployment" then
    resolveFetched ⟨kind, namespaceName, name⟩ (reader.deployment namespaceName name) fun d ↦
      .done (resolveFromWorkload "Deployment" d.metadata.name d.metadata.namespaceName
        d.metadata.annotations)
  else if kind = "StatefulSet" then
    resolveFetched ⟨kind, namespaceName, name⟩ (reader.statefulSet namespaceName name) fun s ↦
      .done (resolveFromWorkload "StatefulSet" s.metadata.name s.metadata.namespaceName
        s.metadata.annotations)
  else if kind = "DaemonSet" then
    resolveFetched ⟨kind, namespaceName, name⟩ (reader.daemonSet namespaceName name) fun ds ↦
      .done (resolveFromWorkload "DaemonSet" ds.metadata.name ds.metadata.namespaceName
        ds.metadata.annotations)
  else if kind = "ReplicaSet" then
    resolveFetched ⟨kind, namespaceName, name⟩ (reader.replicaSet namespaceName name) fun rs ↦
      resolveFromReplicaSet reader rs
  else if kind = "Pod" then
    resolveFetched ⟨kind, namespaceName, name⟩ (reader.pod namespaceName name) fun p ↦
      resolveFromPod reader p
  else if kind = "Node" then .done ⟨name, .workloadName, "Node", name, ""⟩
  else .done {}

end IncidentaryOperator.Identity
