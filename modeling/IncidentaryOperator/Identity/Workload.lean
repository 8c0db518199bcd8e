import IncidentaryOperator.Identity.Resolver

/-!
# What the resolver computes

The identity of a workload is a function of its metadata: the value of the service-id annotation
when it is not empty, and the name otherwise (`ownServiceID`). The resolver arrives at it on several
paths, from an object in hand, from a loose reference and along owner references, and each path gets
one statement here in terms of `ownServiceID` and of what the reader returns
(`resolveFromWorkload_serviceID`, `resolve_workload`, `resolveRef_workload`). Later proofs use these
and not the bodies of the resolver.

The three kinds of top-level workloads differ for the resolver in their name alone, so they are
taken together as a `Workload`, a kind and the metadata.
-/

set_option autoImplicit false
set_option relaxedAutoImplicit false

namespace IncidentaryOperator.Identity

open Foundation Kubernetes

/-- The service id an object carries itself: its service-id annotation when that is not empty, and
its name otherwise. -/
def ownServiceID (metadata : ObjectMeta) : String :=
  if metadata.annotations.at serviceIDAnnotation ≠ "" then
    metadata.annotations.at serviceIDAnnotation
  else metadata.name

/-- The service id of a workload is the one it carries itself. -/
theorem resolveFromWorkload_serviceID (kind : String) (metadata : ObjectMeta) :
    (resolveFromWorkload kind metadata.name metadata.namespaceName metadata.annotations).serviceID =
      ownServiceID metadata := by
  unfold resolveFromWorkload ownServiceID StringMap.at
  cases metadata.annotations.lookup serviceIDAnnotation with
  | none => rfl
  | some id => by_cases hid : id = "" <;> simp [hid]

/-! ### Top-level workloads -/

/-- The kinds of top-level workloads. -/
inductive WorkloadKind
  | deployment
  | statefulSet
  | daemonSet
  deriving DecidableEq

/-- The name of a kind in references. -/
def WorkloadKind.text : WorkloadKind → String
  | .deployment => "Deployment"
  | .statefulSet => "StatefulSet"
  | .daemonSet => "DaemonSet"

/-- A top-level workload as the resolver sees it. -/
structure Workload where
  kind : WorkloadKind
  metadata : ObjectMeta
  deriving DecidableEq

/-- The workload an object is, if it is one. -/
def Workload.ofObject : Object → Option Workload
  | .deployment d => some ⟨.deployment, d.metadata⟩
  | .statefulSet s => some ⟨.statefulSet, s.metadata⟩
  | .daemonSet d => some ⟨.daemonSet, d.metadata⟩
  | _ => none

/-- The result of resolving a workload. -/
def Workload.result (workload : Workload) : Result :=
  resolveFromWorkload workload.kind.text workload.metadata.name workload.metadata.namespaceName
    workload.metadata.annotations

@[simp] theorem Workload.result_serviceID (workload : Workload) :
    workload.result.serviceID = ownServiceID workload.metadata :=
  resolveFromWorkload_serviceID _ _

/-- The read of a workload by its kind, reduced to the metadata the resolver looks at. -/
def readWorkload (reader : Reader) : WorkloadKind → Read ObjectMeta
  | .deployment => fun ns name ↦ (reader.deployment ns name).map Deployment.metadata
  | .statefulSet => fun ns name ↦ (reader.statefulSet ns name).map StatefulSet.metadata
  | .daemonSet => fun ns name ↦ (reader.daemonSet ns name).map DaemonSet.metadata

/-- A workload in hand resolves without a read. -/
theorem resolve_workload (reader : Reader) {object : Object} {workload : Workload}
    (hobject : Workload.ofObject object = some workload) :
    resolve reader object = .done workload.result := by
  cases object with
  | deployment | statefulSet | daemonSet =>
    obtain rfl := Option.some.inj hobject
    rfl
  | _ => exact absurd hobject (by simp [Workload.ofObject])

/-- The outcome of a reference to a workload, by what the read of it returns. -/
def referenceOutcome (kind : WorkloadKind) (namespaceName name : String) :
    Except ReadError ObjectMeta → Except String Result
  | .ok metadata => .ok (Workload.result ⟨kind, metadata⟩)
  | .error .notFound => .ok {}
  | .error (.failed text) =>
    .error s!"identity.Resolver: fetch {kind.text} {namespaceName}/{name}: {text}"

/-- The read a reference starts with, when what it finds resolves as a workload. -/
theorem resolveFetched_workload {α : Type} (kind : WorkloadKind) (namespaceName name : String)
    (read : Except ReadError α) (metadata : α → ObjectMeta) :
    (resolveFetched ⟨kind.text, namespaceName, name⟩ read fun object ↦
      .done (Workload.result ⟨kind, metadata object⟩)).outcome =
        referenceOutcome kind namespaceName name (read.map metadata) := by
  cases read with
  | ok object => rfl
  | error failure => cases failure <;> rfl

/-- A reference to a workload with a name is read once; one without a name is not read at all. -/
theorem resolveRef_workload (reader : Reader) (kind : WorkloadKind) (namespaceName name : String) :
    (resolveRef reader kind.text namespaceName name).outcome =
      if name = "" then .ok {}
      else referenceOutcome kind namespaceName name
        (readWorkload reader kind namespaceName name) := by
  unfold resolveRef
  by_cases hname : name = ""
  · rw [if_pos hname, if_pos hname]
    rfl
  · rw [if_neg hname, if_neg hname]
    cases kind <;> exact resolveFetched_workload _ _ _ _ _

end IncidentaryOperator.Identity
