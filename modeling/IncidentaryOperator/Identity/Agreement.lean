import IncidentaryOperator.Discovery.Reconciler

/-!
# One workload, one identity

A service id is derived in three places: from an object in hand, from a reference to it, and from a
listed workload by the reconciler. Over a store whose reads return the object under the key asked
for, or that there is none, the three agree (`one_workload_one_identity`): a reference to a stored
object resolves as the object does, a Pod resolves as the workload at the top of its owner chain,
the reconciler's shortcut is the service id of that workload, and the order of the owner references
does not matter once a single one is marked as controller.

`Store` carries what is assumed of the reads, so that no store breaks it.
-/

set_option autoImplicit false
set_option relaxedAutoImplicit false

namespace IncidentaryOperator.Identity

open Foundation Kubernetes Discovery

/-! ### Stores -/

/-- A read that returns the object with the name and namespace asked for, whose name is not empty,
or that there is none. -/
structure Keyed {α : Type} (metadata : α → ObjectMeta) (read : Read α) : Prop where
  key : ∀ {ns name object}, read ns name = .ok object →
    (metadata object).namespaceName = ns ∧ (metadata object).name = name ∧ name ≠ ""
  notFound : ∀ {ns name failure}, read ns name = .error failure → failure = .notFound

/-- A store of objects with names. -/
structure Store extends Reader where
  deployments : Keyed Deployment.metadata deployment
  statefulSets : Keyed StatefulSet.metadata statefulSet
  daemonSets : Keyed DaemonSet.metadata daemonSet
  replicaSets : Keyed ReplicaSet.metadata replicaSet
  pods : Keyed Pod.metadata pod

/-- The object is in the store, under its own key. -/
def Store.Holds (store : Store) : Object → Prop
  | .deployment d => store.deployment d.metadata.namespaceName d.metadata.name = .ok d
  | .statefulSet s => store.statefulSet s.metadata.namespaceName s.metadata.name = .ok s
  | .daemonSet d => store.daemonSet d.metadata.namespaceName d.metadata.name = .ok d
  | .replicaSet rs => store.replicaSet rs.metadata.namespaceName rs.metadata.name = .ok rs
  | .pod p => store.pod p.metadata.namespaceName p.metadata.name = .ok p
  | _ => False

/-- The reference to an object: its kind and its metadata. -/
def objectRef : Object → String × ObjectMeta
  | .deployment d => ("Deployment", d.metadata)
  | .statefulSet s => ("StatefulSet", s.metadata)
  | .daemonSet d => ("DaemonSet", d.metadata)
  | .replicaSet rs => ("ReplicaSet", rs.metadata)
  | .pod p => ("Pod", p.metadata)
  | .node n => ("Node", n.metadata)
  | .hpa h => ("HorizontalPodAutoscaler", h.metadata)
  | .other metadata => ("", metadata)
  | .k8sEvent _ | .coreEvent _ => ("Event", {})

/-- A reference to a stored object resolves as the object in hand. -/
theorem resolveRef_of_holds (store : Store) {object : Object} (hholds : store.Holds object) :
    (resolveRef store.toReader (objectRef object).1 (objectRef object).2.namespaceName
      (objectRef object).2.name).outcome = (resolve store.toReader object).outcome := by
  cases object with
  | deployment d =>
    have hread : store.deployment d.metadata.namespaceName d.metadata.name = .ok d := hholds
    have hname := (store.deployments.key hread).2.2
    simp [resolveRef, objectRef, resolveFetched, resolve, hname, hread]
  | statefulSet s =>
    have hread : store.statefulSet s.metadata.namespaceName s.metadata.name = .ok s := hholds
    have hname := (store.statefulSets.key hread).2.2
    simp [resolveRef, objectRef, resolveFetched, resolve, hname, hread]
  | daemonSet d =>
    have hread : store.daemonSet d.metadata.namespaceName d.metadata.name = .ok d := hholds
    have hname := (store.daemonSets.key hread).2.2
    simp [resolveRef, objectRef, resolveFetched, resolve, hname, hread]
  | replicaSet rs =>
    have hread : store.replicaSet rs.metadata.namespaceName rs.metadata.name = .ok rs := hholds
    have hname := (store.replicaSets.key hread).2.2
    simp [resolveRef, objectRef, resolveFetched, resolve, hname, hread]
  | pod p =>
    have hread : store.pod p.metadata.namespaceName p.metadata.name = .ok p := hholds
    have hname := (store.pods.key hread).2.2
    simp [resolveRef, objectRef, resolveFetched, resolve, hname, hread]
  | _ => exact absurd hholds id

/-! ### Owner chains -/

/-- The workload at the top of the chain of controller owners of a Pod, all of it readable: a
Deployment through a ReplicaSet, or a StatefulSet or DaemonSet at once. -/
inductive TopWorkload (reader : Reader) (p : Pod) : Object → Prop
  | deployment {owner rsOwner : OwnerReference} {rs : ReplicaSet} {d : Deployment}
      (howner : controllerOwner p.metadata.ownerReferences = some owner)
      (hkind : owner.kind = "ReplicaSet")
      (hrs : reader.replicaSet p.metadata.namespaceName owner.name = .ok rs)
      (hrsOwner : controllerOwner rs.metadata.ownerReferences = some rsOwner)
      (hrsKind : rsOwner.kind = "Deployment")
      (hd : reader.deployment rs.metadata.namespaceName rsOwner.name = .ok d) :
      TopWorkload reader p (.deployment d)
  | statefulSet {owner : OwnerReference} {s : StatefulSet}
      (howner : controllerOwner p.metadata.ownerReferences = some owner)
      (hkind : owner.kind = "StatefulSet")
      (hs : reader.statefulSet p.metadata.namespaceName owner.name = .ok s) :
      TopWorkload reader p (.statefulSet s)
  | daemonSet {owner : OwnerReference} {d : DaemonSet}
      (howner : controllerOwner p.metadata.ownerReferences = some owner)
      (hkind : owner.kind = "DaemonSet")
      (hd : reader.daemonSet p.metadata.namespaceName owner.name = .ok d) :
      TopWorkload reader p (.daemonSet d)

/-- A Pod resolves as the workload at the top of its chain. -/
theorem resolve_pod_of_topWorkload {reader : Reader} {p : Pod} {top : Object}
    (htop : TopWorkload reader p top) :
    (resolve reader (.pod p)).outcome = (resolve reader top).outcome := by
  cases htop with
  | deployment howner hkind hrs hrsOwner hrsKind hd =>
    simp [resolve, resolveFromPod, howner, hkind, hrs, resolveFromReplicaSet, hrsOwner, hrsKind, hd]
  | statefulSet howner hkind hs => simp [resolve, resolveFromPod, howner, hkind, hs]
  | daemonSet howner hkind hd => simp [resolve, resolveFromPod, howner, hkind, hd]

/-! ### The order of owner references -/

/-- A single reference marked as controller is the controller owner, wherever it stands. -/
theorem controllerOwner_eq_of_unique {refs : List OwnerReference} {owner : OwnerReference}
    (hmem : owner ∈ refs) (hmarked : owner.controller = some true)
    (honly : ∀ ref ∈ refs, ref.controller = some true → ref = owner) :
    controllerOwner refs = some owner := by
  unfold controllerOwner
  cases hfind : refs.find? (fun ref ↦ ref.controller = some true) with
  | none =>
    have hunmarked := List.find?_eq_none.mp hfind owner hmem
    exact absurd hmarked (by simpa using hunmarked)
  | some ref =>
    have hfound := List.find?_some hfind
    rw [honly ref (List.mem_of_find?_eq_some hfind) (by simpa using hfound)]

/-- Reordering owner references, one of them marked as controller, keeps the controller owner. -/
theorem controllerOwner_perm {first second : List OwnerReference} (hperm : first.Perm second)
    (hone : second.countP (fun ref ↦ ref.controller = some true) = 1) :
    controllerOwner first = controllerOwner second := by
  obtain ⟨owner, hmarkedOnly⟩ := List.length_eq_one_iff.mp
    ((List.countP_eq_length_filter ..).symm.trans hone)
  have hmem : ∀ ref, ref ∈ second ∧ ref.controller = some true ↔ ref = owner := by
    intro ref
    simpa using congrArg (ref ∈ ·) hmarkedOnly
  obtain ⟨hsecond, hmarked⟩ := (hmem owner).mpr rfl
  rw [controllerOwner_eq_of_unique hsecond hmarked fun ref hin hctl ↦ (hmem ref).mp ⟨hin, hctl⟩,
    controllerOwner_eq_of_unique (hperm.mem_iff.mpr hsecond) hmarked
      fun ref hin hctl ↦ (hmem ref).mp ⟨hperm.mem_iff.mp hin, hctl⟩]

/-- An object with other owner references. The event types carry none. -/
def withOwnerReferences (refs : List OwnerReference) : Object → Object
  | .deployment d => .deployment { d with metadata.ownerReferences := refs }
  | .statefulSet s => .statefulSet { s with metadata.ownerReferences := refs }
  | .daemonSet d => .daemonSet { d with metadata.ownerReferences := refs }
  | .replicaSet rs => .replicaSet { rs with metadata.ownerReferences := refs }
  | .pod p => .pod { p with metadata.ownerReferences := refs }
  | .node n => .node { n with metadata.ownerReferences := refs }
  | .hpa h => .hpa { h with metadata.ownerReferences := refs }
  | .other metadata => .other { metadata with ownerReferences := refs }
  | .k8sEvent ev => .k8sEvent ev
  | .coreEvent ev => .coreEvent ev

/-- Owner references with the same controller owner resolve the same way, read by read. -/
theorem resolve_withOwnerReferences (reader : Reader) (object : Object)
    {refs : List OwnerReference}
    (howner : controllerOwner refs =
      controllerOwner (objectRef object).2.ownerReferences) :
    resolve reader (withOwnerReferences refs object) = resolve reader object := by
  cases object with
  | replicaSet rs =>
    have hself : controllerOwner refs = controllerOwner rs.metadata.ownerReferences := howner
    simp only [withOwnerReferences, resolve, resolveFromReplicaSet, hself]
  | pod p =>
    have hself : controllerOwner refs = controllerOwner p.metadata.ownerReferences := howner
    simp only [withOwnerReferences, resolve, resolveFromPod, hself]
  | _ => rfl

/-! ### Agreement -/

/-- Over every store of named objects:
* a reference to a stored Deployment, StatefulSet, DaemonSet, ReplicaSet or Pod resolves as the
  object itself;
* a Pod whose owner chain is in the store resolves as the workload at its top, so all Pods of a
  workload have one identity;
* the service id of a workload is the one the reconciler derives from its annotations and name;
* reordering the owner references of an object changes nothing, when exactly one of them is marked
  as controller. -/
theorem one_workload_one_identity (store : Store) :
    (∀ object, store.Holds object →
      (resolveRef store.toReader (objectRef object).1 (objectRef object).2.namespaceName
        (objectRef object).2.name).outcome = (resolve store.toReader object).outcome) ∧
    (∀ p top, TopWorkload store.toReader p top →
      (resolve store.toReader (.pod p)).outcome = (resolve store.toReader top).outcome) ∧
    (∀ p q top, TopWorkload store.toReader p top → TopWorkload store.toReader q top →
      (resolve store.toReader (.pod p)).outcome = (resolve store.toReader (.pod q)).outcome) ∧
    (∀ object workload, Workload.ofObject object = some workload →
      ∃ res, (resolve store.toReader object).outcome = .ok res ∧
        res.serviceID = resolvedServiceID workload.metadata.annotations workload.metadata.name) ∧
    (∀ object refs, refs.Perm (objectRef object).2.ownerReferences →
      (objectRef object).2.ownerReferences.countP (fun ref ↦ ref.controller = some true) = 1 →
        (resolve store.toReader (withOwnerReferences refs object)).outcome =
          (resolve store.toReader object).outcome) := by
  refine ⟨fun object hholds ↦ resolveRef_of_holds store hholds,
    fun p top htop ↦ resolve_pod_of_topWorkload htop, fun p q top hp hq ↦ ?_,
    fun object workload hobject ↦ ?_, fun object refs hperm hone ↦ ?_⟩
  · rw [resolve_pod_of_topWorkload hp, resolve_pod_of_topWorkload hq]
  · refine ⟨workload.result, ?_, ?_⟩
    · rw [resolve_workload _ hobject]
      rfl
    · rw [Workload.result_serviceID, resolvedServiceID_eq]
  · rw [resolve_withOwnerReferences _ _ (controllerOwner_perm hperm hone)]

/-- A read that knows a single object. -/
def readOnly {α : Type} (metadata : α → ObjectMeta) (object : α) : Read α := fun ns name ↦
  if ns = (metadata object).namespaceName ∧ name = (metadata object).name then .ok object
  else .error .notFound

theorem keyed_readOnly {α : Type} (metadata : α → ObjectMeta) (object : α)
    (hname : (metadata object).name ≠ "") : Keyed metadata (readOnly metadata object) := by
  constructor
  · intro ns name found hread
    unfold readOnly at hread
    split_ifs at hread with hkey
    obtain rfl := Except.ok.inj hread
    exact ⟨hkey.1.symm, hkey.2.symm, hkey.2 ▸ hname⟩
  · intro ns name failure hread
    unfold readOnly at hread
    split_ifs at hread with hkey
    exact (Except.error.inj hread).symm

/-- A Deployment with a service id of its own, its ReplicaSet, and a Pod of it whose first owner
reference is not the controller. -/
def paymentsDeployment : Deployment where
  metadata :=
    { name := "api"
      namespaceName := "prod"
      annotations := AList.singleton serviceIDAnnotation "payments" }

@[inherit_doc paymentsDeployment]
def paymentsReplicaSet : ReplicaSet where
  metadata :=
    { name := "api-7f"
      namespaceName := "prod"
      ownerReferences := [⟨"Deployment", "api", some true⟩] }

@[inherit_doc paymentsDeployment]
def paymentsPod : Pod where
  metadata :=
    { name := "api-7f-x"
      namespaceName := "prod"
      ownerReferences := [⟨"Job", "warmup", none⟩, ⟨"ReplicaSet", "api-7f", some true⟩] }

/-- The store of the three. -/
def paymentsStore : Store where
  deployment := readOnly Deployment.metadata paymentsDeployment
  statefulSet := Reader.empty.statefulSet
  daemonSet := Reader.empty.daemonSet
  replicaSet := readOnly ReplicaSet.metadata paymentsReplicaSet
  pod := readOnly Pod.metadata paymentsPod
  deployments := keyed_readOnly _ _ (by decide)
  statefulSets := ⟨fun hread ↦ (nomatch hread), fun hread ↦ (Except.error.inj hread).symm⟩
  daemonSets := ⟨fun hread ↦ (nomatch hread), fun hread ↦ (Except.error.inj hread).symm⟩
  replicaSets := keyed_readOnly _ _ (by decide)
  pods := keyed_readOnly _ _ (by decide)

/-- The Pod, a reference to it, and the Pod with its owner references swapped all resolve as the
Deployment. -/
theorem one_workload_one_identity_payments :
    (resolve paymentsStore.toReader (.pod paymentsPod)).outcome =
      (resolve paymentsStore.toReader (.deployment paymentsDeployment)).outcome ∧
    (resolveRef paymentsStore.toReader "Pod" "prod" "api-7f-x").outcome =
      (resolve paymentsStore.toReader (.pod paymentsPod)).outcome ∧
    (resolve paymentsStore.toReader (withOwnerReferences
      [⟨"ReplicaSet", "api-7f", some true⟩, ⟨"Job", "warmup", none⟩] (.pod paymentsPod))).outcome =
      (resolve paymentsStore.toReader (.pod paymentsPod)).outcome := by
  obtain ⟨hreference, htop, -, -, horder⟩ := one_workload_one_identity paymentsStore
  refine ⟨htop paymentsPod (.deployment paymentsDeployment) ?_,
    hreference (.pod paymentsPod) rfl, horder (.pod paymentsPod) _ (List.Perm.swap _ _ _) rfl⟩
  exact @TopWorkload.deployment _ _ _ _ paymentsReplicaSet _ rfl rfl rfl rfl rfl rfl

end IncidentaryOperator.Identity
