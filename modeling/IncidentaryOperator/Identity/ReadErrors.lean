import IncidentaryOperator.Identity.Agreement

/-!
# The resolver fails on read errors only

The resolver reads its way from an object to the workload that owns it. A read finds the object
asked for, finds nothing, or fails. Only a failed read is an error of the resolver, it is the last
read of the walk, and the result beside the error is the zero result. Without a failed read the
result identifies an owner, whatever was missing on the way (`resolver_fails_on_read_errors`).

`Climb` says once what a walk from an object can do: stop at the object, or read the owner and go on
from there, fall back to the object, keep the name of the owner, or fail. The level of the kind
drops with every owner, which bounds the reads and keeps the kinds on a walk apart.

A nil object is resolved to the zero result without a read, as an object that is no workload is. No
two reads of a walk ask for the same kind, so a reader that answers each key once is as general as
one that answers each read.
-/

set_option autoImplicit false
set_option relaxedAutoImplicit false

namespace IncidentaryOperator.Identity

open Foundation Kubernetes

/-! ### Reads -/

/-- What a read of the resolver answers, an object found reduced to its metadata. -/
def answer (reader : Reader) (get : Get) : Except ReadError ObjectMeta :=
  if get.kind = "Deployment" then
    (reader.deployment get.namespaceName get.name).map Deployment.metadata
  else if get.kind = "StatefulSet" then
    (reader.statefulSet get.namespaceName get.name).map StatefulSet.metadata
  else if get.kind = "DaemonSet" then
    (reader.daemonSet get.namespaceName get.name).map DaemonSet.metadata
  else if get.kind = "ReplicaSet" then
    (reader.replicaSet get.namespaceName get.name).map ReplicaSet.metadata
  else if get.kind = "Pod" then (reader.pod get.namespaceName get.name).map Pod.metadata
  else .error .notFound

/-- Objects are found under the key asked for. -/
def ReturnsRequested (reader : Reader) : Prop :=
  ∀ get metadata, answer reader get = .ok metadata →
    metadata.namespaceName = get.namespaceName ∧ metadata.name = get.name

/-- The read fails with something other than that the object does not exist. -/
def Failed (reader : Reader) (get : Get) : Prop :=
  ∃ text, answer reader get = .error (.failed text)

/-- The objects the reads found, each with its kind. -/
def found (reader : Reader) (gets : List Get) : List (String × ObjectMeta) :=
  gets.filterMap fun get ↦ (answer reader get).toOption.map fun metadata ↦ (get.kind, metadata)

theorem found_after_ok {reader : Reader} {get : Get} {metadata : ObjectMeta}
    (hread : answer reader get = .ok metadata) (walk : Walk) :
    found reader (Walk.after get walk).gets = (get.kind, metadata) :: found reader walk.gets := by
  simp [found, Walk.after, hread, Except.toOption]

theorem found_after_done {reader : Reader} {get : Get} {failure : ReadError}
    (hread : answer reader get = .error failure) (result : Result) :
    found reader (Walk.after get (.done result)).gets = [] := by
  simp [found, Walk.after, Walk.done, hread, Except.toOption]

theorem not_failed_of_ok {reader : Reader} {get : Get} {metadata : ObjectMeta}
    (hread : answer reader get = .ok metadata) : ¬ Failed reader get := by
  rintro ⟨text, hfailed⟩
  cases hread.symm.trans hfailed

theorem not_failed_of_notFound {reader : Reader} {get : Get}
    (hread : answer reader get = .error .notFound) : ¬ Failed reader get := by
  rintro ⟨text, hfailed⟩
  cases hread.symm.trans hfailed

/-- A walk makes few reads, a failed one is its last, and it returns an error exactly if there is
one, with the zero result. -/
structure ReadsToFailure (reader : Reader) (limit : ℕ) (walk : Walk) : Prop where
  bounded : walk.gets.length ≤ limit
  last : ∀ earlier get later, walk.gets = earlier ++ get :: later → Failed reader get → later = []
  err_iff : walk.err.isSome ↔ ∃ get ∈ walk.gets, Failed reader get
  zero : walk.err.isSome → walk.result = {}

theorem readsToFailure_done (reader : Reader) (limit : ℕ) (result : Result) :
    ReadsToFailure reader limit (.done result) where
  bounded := Nat.zero_le _
  last := by
    intro earlier get later hgets _
    simp [Walk.done] at hgets
  err_iff := by simp [Walk.done]
  zero := by simp [Walk.done]

theorem ReadsToFailure.mono {reader : Reader} {limit limit' : ℕ} {walk : Walk}
    (hwalk : ReadsToFailure reader limit walk) (hlimit : limit ≤ limit') :
    ReadsToFailure reader limit' walk :=
  ⟨hwalk.bounded.trans hlimit, hwalk.last, hwalk.err_iff, hwalk.zero⟩

theorem ReadsToFailure.after {reader : Reader} {limit : ℕ} {walk : Walk} {get : Get}
    (hwalk : ReadsToFailure reader limit walk) (hread : ¬ Failed reader get) :
    ReadsToFailure reader (limit + 1) (.after get walk) where
  bounded := Nat.succ_le_succ hwalk.bounded
  last := by
    intro earlier failed later hgets hfailed
    cases earlier with
    | nil =>
      obtain ⟨rfl, -⟩ := List.cons.inj hgets
      exact absurd hfailed hread
    | cons first earlier => exact hwalk.last earlier failed later (List.cons.inj hgets).2 hfailed
  err_iff := by
    show walk.err.isSome ↔ ∃ failed ∈ get :: walk.gets, Failed reader failed
    rw [hwalk.err_iff]
    simp [hread]
  zero := hwalk.zero

theorem readsToFailure_fetchError {reader : Reader} {limit : ℕ} {get : Get} {text : String}
    (hread : Failed reader get) (hlimit : 0 < limit) :
    ReadsToFailure reader limit (.after get (.fetchError get text)) where
  bounded := hlimit
  last := by
    intro earlier failed later hgets _
    cases earlier with
    | nil => exact (List.cons.inj hgets).2.symm
    | cons first earlier => simp [Walk.after, Walk.fetchError] at hgets
  err_iff := by simp [Walk.after, Walk.fetchError, hread]
  zero := fun _ ↦ rfl

/-! ### Climbing to the owner -/

/-- The kinds of objects the resolver identifies. -/
def resolvedKinds : List String :=
  ["Pod", "ReplicaSet", "Deployment", "StatefulSet", "DaemonSet"]

/-- How many owners are above an object of a kind at most. -/
def level (kind : String) : ℕ :=
  if kind = "Pod" then 2 else if kind = "ReplicaSet" then 1 else 0

/-- The read of the owner of an object. -/
def ownerGet (metadata : ObjectMeta) (owner : OwnerReference) : Get :=
  ⟨owner.kind, metadata.namespaceName, owner.name⟩

/-- What the resolver reports of an object it stops at. -/
def ownResult (kind : String) (metadata : ObjectMeta) : Result :=
  resolveFromWorkload kind metadata.name metadata.namespaceName metadata.annotations

/-- The object is owned by another of a lower level. -/
structure OwnedBy (kind : String) (metadata : ObjectMeta) (owner : OwnerReference) : Prop where
  controls : controllerOwner metadata.ownerReferences = some owner
  lower : level owner.kind < level kind
  resolved : owner.kind ∈ resolvedKinds

/-- The walks from an object: it stops there, or it reads the owner, and the owner is found, is gone
and the object or the name of the owner stands for it, or the read fails. -/
inductive Climb (reader : Reader) : String → ObjectMeta → Walk → Prop
  | stays (kind : String) (metadata : ObjectMeta) :
      Climb reader kind metadata (.done (ownResult kind metadata))
  | finds {kind : String} {metadata above : ObjectMeta} {owner : OwnerReference} {walk : Walk}
      (howned : OwnedBy kind metadata owner)
      (hread : answer reader (ownerGet metadata owner) = .ok above)
      (hclimb : Climb reader owner.kind above walk) :
      Climb reader kind metadata (.after (ownerGet metadata owner) walk)
  | misses {kind : String} {metadata : ObjectMeta} {owner : OwnerReference}
      (howned : OwnedBy kind metadata owner)
      (hread : answer reader (ownerGet metadata owner) = .error .notFound) :
      Climb reader kind metadata
        (.after (ownerGet metadata owner) (.done (ownResult kind metadata)))
  | keepsName {kind : String} {metadata : ObjectMeta} {owner : OwnerReference}
      (howned : OwnedBy kind metadata owner)
      (hread : answer reader (ownerGet metadata owner) = .error .notFound) :
      Climb reader kind metadata (.after (ownerGet metadata owner)
        (.done (resolveFromWorkload owner.kind owner.name metadata.namespaceName ∅)))
  | fails {kind : String} {metadata : ObjectMeta} {owner : OwnerReference} {text : String}
      (howned : OwnedBy kind metadata owner)
      (hread : answer reader (ownerGet metadata owner) = .error (.failed text)) :
      Climb reader kind metadata
        (.after (ownerGet metadata owner) (.fetchError (ownerGet metadata owner) text))

/-- A read and what follows it: an object found is walked from, and a missing one gives the
fallback. -/
def fetch {α : Type} (get : Get) (read : Except ReadError α) (walk : α → Walk)
    (fallback : Result) : Walk :=
  .after get <|
    match read with
    | .ok object => walk object
    | .error .notFound => .done fallback
    | .error (.failed text) => .fetchError get text

theorem climb_fetch {α : Type} {reader : Reader} {kind : String} {metadata : ObjectMeta}
    {owner : OwnerReference} (read : Except ReadError α) (metadataOf : α → ObjectMeta)
    {walk : α → Walk} {fallback : Result} (howned : OwnedBy kind metadata owner)
    (hanswer : answer reader (ownerGet metadata owner) = read.map metadataOf)
    (hwalk : ∀ object, Climb reader owner.kind (metadataOf object) (walk object))
    (hfallback : fallback = ownResult kind metadata ∨
      fallback = resolveFromWorkload owner.kind owner.name metadata.namespaceName ∅) :
    Climb reader kind metadata (fetch (ownerGet metadata owner) read walk fallback) := by
  cases read with
  | ok object => exact .finds howned hanswer (hwalk object)
  | error failure =>
    cases failure with
    | notFound =>
      rcases hfallback with rfl | rfl
      · exact .misses howned hanswer
      · exact .keepsName howned hanswer
    | failed text => exact .fails howned hanswer

theorem ownedBy {kind ownerKind name : String} {controller : Option Bool} {metadata : ObjectMeta}
    (howner : controllerOwner metadata.ownerReferences = some ⟨ownerKind, name, controller⟩)
    (hlower : level ownerKind < level kind) (hresolved : ownerKind ∈ resolvedKinds) :
    OwnedBy kind metadata ⟨ownerKind, name, controller⟩ :=
  ⟨howner, hlower, hresolved⟩

theorem climb_replicaSet (reader : Reader) (rs : ReplicaSet) :
    Climb reader "ReplicaSet" rs.metadata (resolveFromReplicaSet reader rs) := by
  unfold resolveFromReplicaSet
  cases howner : controllerOwner rs.metadata.ownerReferences with
  | none => exact .stays _ _
  | some owner =>
    obtain ⟨ownerKind, name, controller⟩ := owner
    dsimp only
    split_ifs with hkind
    · exact .stays _ _
    · obtain rfl : ownerKind = "Deployment" := not_not.mp hkind
      have howned := @ownedBy "ReplicaSet" _ _ _ _ howner (by decide) (by decide)
      convert climb_fetch (reader.deployment rs.metadata.namespaceName name) Deployment.metadata
        howned rfl (fun d ↦ .stays _ d.metadata) (.inl rfl) using 1
      rcases reader.deployment rs.metadata.namespaceName name with (_ | _) | _ <;> rfl

theorem climb_pod (reader : Reader) (p : Pod) :
    Climb reader "Pod" p.metadata (resolveFromPod reader p) := by
  unfold resolveFromPod
  cases howner : controllerOwner p.metadata.ownerReferences with
  | none => exact .stays _ _
  | some owner =>
    obtain ⟨ownerKind, name, controller⟩ := owner
    dsimp only
    split_ifs with hrs hss hds
    · subst hrs
      have howned := @ownedBy "Pod" _ _ _ _ howner (by decide) (by decide)
      convert climb_fetch (reader.replicaSet p.metadata.namespaceName name) ReplicaSet.metadata
        howned rfl (climb_replicaSet reader) (.inl rfl) using 1
      rcases reader.replicaSet p.metadata.namespaceName name with (_ | _) | _ <;> rfl
    · subst hss
      have howned := @ownedBy "Pod" _ _ _ _ howner (by decide) (by decide)
      convert climb_fetch (reader.statefulSet p.metadata.namespaceName name) StatefulSet.metadata
        howned rfl (fun ss ↦ .stays _ ss.metadata) (.inr rfl) using 1
      rcases reader.statefulSet p.metadata.namespaceName name with (_ | _) | _ <;> rfl
    · subst hds
      have howned := @ownedBy "Pod" _ _ _ _ howner (by decide) (by decide)
      convert climb_fetch (reader.daemonSet p.metadata.namespaceName name) DaemonSet.metadata
        howned rfl (fun ds ↦ .stays _ ds.metadata) (.inr rfl) using 1
      rcases reader.daemonSet p.metadata.namespaceName name with (_ | _) | _ <;> rfl
    · exact .stays _ _

theorem Climb.readsToFailure {reader : Reader} {kind : String} {metadata : ObjectMeta}
    {walk : Walk} (hclimb : Climb reader kind metadata walk) :
    ReadsToFailure reader (level kind) walk := by
  induction hclimb with
  | stays => exact readsToFailure_done _ _ _
  | finds howned hread _ ih => exact (ih.after (not_failed_of_ok hread)).mono howned.lower
  | misses howned hread | keepsName howned hread =>
    have hdone := readsToFailure_done reader 0
    exact ((hdone _).after (not_failed_of_notFound hread)).mono
      (Nat.succ_le_of_lt (Nat.zero_lt_of_lt howned.lower))
  | fails howned hread =>
    exact readsToFailure_fetchError ⟨_, hread⟩ (Nat.zero_lt_of_lt howned.lower)

/-! ### The owner a walk identifies -/

/-- The service id of the result is the non-empty annotation of the owner it names, an object that
was given or found. -/
def TakenFromAnnotation (seen : List (String × ObjectMeta)) (result : Result) : Prop :=
  ∃ metadata, (result.ownerKind, metadata) ∈ seen ∧ metadata.name = result.ownerName ∧
    metadata.annotations.at serviceIDAnnotation = result.serviceID ∧ result.serviceID ≠ ""

/-- The result identifies an owner in the namespace, and its source says where the service id is
from. -/
structure Identified (seen : List (String × ObjectMeta)) (namespaceName : String)
    (result : Result) : Prop where
  serviceID : result.serviceID ≠ ""
  ownerName : result.ownerName ≠ ""
  ownerKind : result.ownerKind ≠ ""
  namespaceName : result.namespaceName = namespaceName
  source : result.source = .annotated ↔ TakenFromAnnotation seen result

/-- The controller owners of the objects have names. -/
def OwnersNamed (seen : List (String × ObjectMeta)) : Prop :=
  ∀ kind metadata owner, (kind, metadata) ∈ seen →
    controllerOwner metadata.ownerReferences = some owner → owner.name ≠ ""

theorem resolvedKinds_ne_empty {kind : String} (hkind : kind ∈ resolvedKinds) : kind ≠ "" := by
  rintro rfl
  exact absurd hkind (by decide)

theorem resolveFromWorkload_source (kind name namespaceName : String) (annotations : StringMap) :
    (resolveFromWorkload kind name namespaceName annotations).source = .annotated ↔
      annotations.at serviceIDAnnotation ≠ "" := by
  unfold resolveFromWorkload StringMap.at
  cases annotations.lookup serviceIDAnnotation with
  | none => simp
  | some id => by_cases hid : id = "" <;> simp [hid]

theorem resolveFromWorkload_owner (kind name namespaceName : String) (annotations : StringMap) :
    (resolveFromWorkload kind name namespaceName annotations).ownerKind = kind ∧
      (resolveFromWorkload kind name namespaceName annotations).ownerName = name ∧
      (resolveFromWorkload kind name namespaceName annotations).namespaceName = namespaceName := by
  unfold resolveFromWorkload
  split
  · split_ifs <;> exact ⟨rfl, rfl, rfl⟩
  · exact ⟨rfl, rfl, rfl⟩

theorem ownServiceID_ne_empty {metadata : ObjectMeta} (hname : metadata.name ≠ "") :
    ownServiceID metadata ≠ "" := by
  unfold ownServiceID
  split_ifs with hannotated
  · exact hannotated
  · exact hname

theorem identified_ownResult {kind : String} {metadata : ObjectMeta} (hkind : kind ≠ "")
    (hname : metadata.name ≠ "") :
    Identified [(kind, metadata)] metadata.namespaceName (ownResult kind metadata) := by
  obtain ⟨hownerKind, hownerName, hns⟩ := resolveFromWorkload_owner kind metadata.name
    metadata.namespaceName metadata.annotations
  have hid := resolveFromWorkload_serviceID kind metadata
  have hnonempty := ownServiceID_ne_empty hname
  refine ⟨hid.trans_ne hnonempty, hownerName.trans_ne hname, hownerKind.trans_ne hkind, hns, ?_⟩
  unfold TakenFromAnnotation ownResult
  rw [resolveFromWorkload_source, hownerKind, hownerName, hid]
  unfold ownServiceID
  constructor
  · intro hannotated
    refine ⟨metadata, List.mem_singleton_self _, rfl, ?_, ?_⟩
    · rw [if_pos hannotated]
    · rwa [if_pos hannotated]
  · rintro ⟨seen, hmem, -, hvalue, hvalue'⟩ hempty
    obtain rfl : seen = metadata := by simpa using hmem
    rw [if_neg (not_not.mpr hempty)] at hvalue
    exact hname (hvalue.symm.trans hempty)

/-- An owner that is gone is identified by its name. -/
theorem identified_name {kind ownerKind name namespaceName : String} {metadata : ObjectMeta}
    (hkind : ownerKind ≠ "") (hne : kind ≠ ownerKind) (hname : name ≠ "") :
    Identified [(kind, metadata)] namespaceName
      (resolveFromWorkload ownerKind name namespaceName ∅) := by
  refine ⟨hname, hname, hkind, rfl, ?_⟩
  constructor
  · intro hsource
    cases hsource
  · rintro ⟨seen, hmem, -⟩
    have hsame : ownerKind = kind := congrArg Prod.fst (List.mem_singleton.mp hmem)
    exact absurd hsame.symm hne

theorem Identified.cons {seen : List (String × ObjectMeta)} {namespaceName kind : String}
    {result : Result} {metadata : ObjectMeta} (hresult : Identified seen namespaceName result)
    (hne : result.ownerKind ≠ kind) :
    Identified ((kind, metadata) :: seen) namespaceName result := by
  refine ⟨hresult.serviceID, hresult.ownerName, hresult.ownerKind, hresult.namespaceName, ?_⟩
  rw [hresult.source]
  unfold TakenFromAnnotation
  simp [hne]

/-- A climb without a failed read ends at an owner, not below the object it starts from. -/
theorem Climb.identified {reader : Reader} {kind : String} {metadata : ObjectMeta} {walk : Walk}
    (hclimb : Climb reader kind metadata walk) (hkeyed : ReturnsRequested reader)
    (hkind : kind ∈ resolvedKinds) (hname : metadata.name ≠ "")
    (howners : OwnersNamed ((kind, metadata) :: found reader walk.gets))
    (hreads : ∀ get ∈ walk.gets, ¬ Failed reader get) :
    Identified ((kind, metadata) :: found reader walk.gets) metadata.namespaceName walk.result ∧
      (walk.result.ownerKind = kind ∨ level walk.result.ownerKind < level kind) := by
  induction hclimb with
  | stays kind metadata =>
    exact ⟨identified_ownResult (resolvedKinds_ne_empty hkind) hname,
      .inl (resolveFromWorkload_owner _ _ _ _).1⟩
  | @finds kind metadata above owner walk howned hread hclimb ih =>
    obtain ⟨hns, habove⟩ := hkeyed _ _ hread
    have hownerName : owner.name ≠ "" :=
      howners kind metadata owner List.mem_cons_self howned.controls
    rw [found_after_ok hread] at howners ⊢
    obtain ⟨hidentified, hlevel⟩ := ih howned.resolved (habove ▸ hownerName)
      (fun kind metadata owner hmem ↦ howners kind metadata owner (List.mem_cons_of_mem _ hmem))
      (fun get hget ↦ hreads get (List.mem_cons_of_mem _ hget))
    have hlower : level walk.result.ownerKind < level kind := by
      rcases hlevel with hsame | hless
      · exact hsame ▸ howned.lower
      · exact hless.trans howned.lower
    rw [hns] at hidentified
    refine ⟨hidentified.cons ?_, .inr hlower⟩
    rintro rfl
    exact lt_irrefl _ hlower
  | misses howned hread =>
    rw [found_after_done hread]
    exact ⟨identified_ownResult (resolvedKinds_ne_empty hkind) hname,
      .inl (resolveFromWorkload_owner _ _ _ _).1⟩
  | @keepsName kind metadata owner howned hread =>
    have hownerName : owner.name ≠ "" :=
      howners kind metadata owner List.mem_cons_self howned.controls
    rw [found_after_done hread]
    refine ⟨identified_name (resolvedKinds_ne_empty howned.resolved) ?_ hownerName,
      .inr howned.lower⟩
    rintro rfl
    exact lt_irrefl _ howned.lower
  | fails howned hread => exact absurd ⟨_, hread⟩ (hreads _ List.mem_cons_self)

/-! ### The two entry points -/

theorem climb_resolve {reader : Reader} {object : Object}
    (hkind : (objectRef object).1 ∈ resolvedKinds) :
    Climb reader (objectRef object).1 (objectRef object).2 (resolve reader object) := by
  cases object with
  | deployment d => exact .stays _ d.metadata
  | statefulSet s => exact .stays _ s.metadata
  | daemonSet d => exact .stays _ d.metadata
  | replicaSet rs => exact climb_replicaSet reader rs
  | pod p => exact climb_pod reader p
  | _ => exact absurd hkind (by simp [objectRef, resolvedKinds])

theorem level_le_two (kind : String) : level kind ≤ 2 := by
  unfold level
  split_ifs <;> omega

theorem resolve_readsToFailure (reader : Reader) (object : Object) :
    ReadsToFailure reader 3 (resolve reader object) := by
  by_cases hkind : (objectRef object).1 ∈ resolvedKinds
  · have hlevel := level_le_two (objectRef object).1
    exact (climb_resolve hkind).readsToFailure.mono (hlevel.trans (by decide))
  · cases object with
    | deployment | statefulSet | daemonSet | replicaSet | pod =>
      exact absurd (by simp [objectRef, resolvedKinds]) hkind
    | _ => exact readsToFailure_done _ _ _

/-- The walks from a reference: its object is found and walked from, is gone, or cannot be read. -/
inductive ReferenceWalk (reader : Reader) (get : Get) : Walk → Prop
  | finds {metadata : ObjectMeta} {walk : Walk} (hread : answer reader get = .ok metadata)
      (hclimb : Climb reader get.kind metadata walk) : ReferenceWalk reader get (.after get walk)
  | misses (hread : answer reader get = .error .notFound) :
      ReferenceWalk reader get (.after get (.done {}))
  | fails {text : String} (hread : answer reader get = .error (.failed text)) :
      ReferenceWalk reader get (.after get (.fetchError get text))

theorem referenceWalk_resolveFetched {α : Type} {reader : Reader} {get : Get}
    {read : Except ReadError α} (metadataOf : α → ObjectMeta) {walk : α → Walk}
    (hanswer : answer reader get = read.map metadataOf)
    (hwalk : ∀ object, Climb reader get.kind (metadataOf object) (walk object)) :
    ReferenceWalk reader get (resolveFetched get read walk) := by
  cases read with
  | ok object => exact .finds hanswer (hwalk object)
  | error failure =>
    cases failure with
    | notFound => exact .misses hanswer
    | failed text => exact .fails hanswer

theorem referenceWalk_resolveRef (reader : Reader) {kind namespaceName name : String}
    (hkind : kind ∈ resolvedKinds) (hname : name ≠ "") :
    ReferenceWalk reader ⟨kind, namespaceName, name⟩
      (resolveRef reader kind namespaceName name) := by
  unfold resolveRef
  rw [if_neg hname]
  split_ifs with hdeployment hstatefulSet hdaemonSet hreplicaSet hpod hnode
  · subst hdeployment
    exact referenceWalk_resolveFetched Deployment.metadata rfl fun d ↦ .stays _ d.metadata
  · subst hstatefulSet
    exact referenceWalk_resolveFetched StatefulSet.metadata rfl fun s ↦ .stays _ s.metadata
  · subst hdaemonSet
    exact referenceWalk_resolveFetched DaemonSet.metadata rfl fun ds ↦ .stays _ ds.metadata
  · subst hreplicaSet
    exact referenceWalk_resolveFetched ReplicaSet.metadata rfl (climb_replicaSet reader)
  · subst hpod
    exact referenceWalk_resolveFetched Pod.metadata rfl (climb_pod reader)
  · subst hnode
    exact absurd hkind (by decide)
  · simp [resolvedKinds, *] at hkind

theorem ReferenceWalk.readsToFailure {reader : Reader} {get : Get} {walk : Walk}
    (hwalk : ReferenceWalk reader get walk) : ReadsToFailure reader 3 walk := by
  cases hwalk with
  | finds hread hclimb =>
    exact (hclimb.readsToFailure.after (not_failed_of_ok hread)).mono
      (Nat.succ_le_succ (level_le_two _))
  | misses hread =>
    exact ((readsToFailure_done reader 2 _).after (not_failed_of_notFound hread))
  | fails hread => exact readsToFailure_fetchError ⟨_, hread⟩ (by decide)

theorem resolveRef_readsToFailure (reader : Reader) (kind namespaceName name : String) :
    ReadsToFailure reader 3 (resolveRef reader kind namespaceName name) := by
  by_cases hname : name = ""
  · rw [resolveRef, if_pos hname]
    exact readsToFailure_done _ _ _
  · by_cases hkind : kind ∈ resolvedKinds
    · exact (referenceWalk_resolveRef reader hkind hname).readsToFailure
    · simp only [resolvedKinds, List.mem_cons, List.not_mem_nil, or_false, not_or] at hkind
      obtain ⟨hpod, hreplicaSet, hdeployment, hstatefulSet, hdaemonSet⟩ := hkind
      unfold resolveRef
      rw [if_neg hname, if_neg hdeployment, if_neg hstatefulSet, if_neg hdaemonSet,
        if_neg hreplicaSet, if_neg hpod]
      split_ifs <;> exact readsToFailure_done _ _ _

theorem resolveRef_identified {reader : Reader} {kind namespaceName name : String}
    {metadata : ObjectMeta} (hkeyed : ReturnsRequested reader) (hkind : kind ∈ resolvedKinds)
    (hfound : answer reader ⟨kind, namespaceName, name⟩ = .ok metadata)
    (hname : metadata.name ≠ "")
    (howners : OwnersNamed (found reader (resolveRef reader kind namespaceName name).gets))
    (hreads : ∀ get ∈ (resolveRef reader kind namespaceName name).gets, ¬ Failed reader get) :
    Identified (found reader (resolveRef reader kind namespaceName name).gets)
      metadata.namespaceName (resolveRef reader kind namespaceName name).result := by
  have hrequested : metadata.name = name := (hkeyed _ _ hfound).2
  have hwalk := @referenceWalk_resolveRef reader kind namespaceName name hkind (hrequested ▸ hname)
  generalize resolveRef reader kind namespaceName name = walk at hwalk howners hreads ⊢
  cases hwalk with
  | finds hread hclimb =>
    obtain rfl := Except.ok.inj (hfound.symm.trans hread)
    rw [found_after_ok hread] at howners ⊢
    exact (hclimb.identified hkeyed hkind hname howners
      fun get hget ↦ hreads get (List.mem_cons_of_mem _ hget)).1
  | misses hread => cases hfound.symm.trans hread
  | fails hread => cases hfound.symm.trans hread

/-- The resolver fails on read errors only. `Resolve` and `ResolveRef` make at most three reads,
stop at the first that fails, and return an error, with the zero result, exactly if one failed. With
no failed read an object with a name that was given or found, all controller owners on the way with
a name, is identified.

Assumes: objects are found under the key asked for. -/
theorem resolver_fails_on_read_errors {reader : Reader} (hkeyed : ReturnsRequested reader) :
    (∀ object, ReadsToFailure reader 3 (resolve reader object)) ∧
    (∀ kind namespaceName name,
      ReadsToFailure reader 3 (resolveRef reader kind namespaceName name)) ∧
    (∀ object, (objectRef object).1 ∈ resolvedKinds → (objectRef object).2.name ≠ "" →
      OwnersNamed (objectRef object :: found reader (resolve reader object).gets) →
      (∀ get ∈ (resolve reader object).gets, ¬ Failed reader get) →
      Identified (objectRef object :: found reader (resolve reader object).gets)
        (objectRef object).2.namespaceName (resolve reader object).result) ∧
    ∀ kind namespaceName name metadata, kind ∈ resolvedKinds →
      answer reader ⟨kind, namespaceName, name⟩ = .ok metadata → metadata.name ≠ "" →
      OwnersNamed (found reader (resolveRef reader kind namespaceName name).gets) →
      (∀ get ∈ (resolveRef reader kind namespaceName name).gets, ¬ Failed reader get) →
      Identified (found reader (resolveRef reader kind namespaceName name).gets)
        metadata.namespaceName (resolveRef reader kind namespaceName name).result := by
  refine ⟨resolve_readsToFailure reader, resolveRef_readsToFailure reader, ?_, ?_⟩
  · intro object hkind hname howners hreads
    exact ((climb_resolve hkind).identified hkeyed hkind hname howners hreads).1
  · intro kind namespaceName name metadata hkind hfound hname howners hreads
    exact resolveRef_identified hkeyed hkind hfound hname howners hreads

theorem Store.returnsRequested (store : Store) : ReturnsRequested store.toReader := by
  intro get metadata hread
  unfold answer at hread
  have hkey {α : Type} {metadataOf : α → ObjectMeta} {read : Read α}
      (hkeyed : Keyed metadataOf read)
      (hmap : (read get.namespaceName get.name).map metadataOf = .ok metadata) :
      metadata.namespaceName = get.namespaceName ∧ metadata.name = get.name := by
    cases hobject : read get.namespaceName get.name with
    | error failure =>
      rw [hobject] at hmap
      cases hmap
    | ok object =>
      rw [hobject] at hmap
      cases hmap
      obtain ⟨hns, hname, -⟩ := hkeyed.key hobject
      exact ⟨hns, hname⟩
  split_ifs at hread
  · exact hkey store.deployments hread
  · exact hkey store.statefulSets hread
  · exact hkey store.daemonSets hread
  · exact hkey store.replicaSets hread
  · exact hkey store.pods hread

/-- The Pod whose Deployment is two reads away is identified, from a reference in three reads. -/
theorem resolver_fails_on_read_errors_payments :
    (resolveRef paymentsStore.toReader "Pod" "prod" "api-7f-x").gets.length = 3 ∧
      Identified (found paymentsStore.toReader
          (resolveRef paymentsStore.toReader "Pod" "prod" "api-7f-x").gets) "prod"
        (resolveRef paymentsStore.toReader "Pod" "prod" "api-7f-x").result := by
  obtain ⟨-, -, -, hidentified⟩ := resolver_fails_on_read_errors paymentsStore.returnsRequested
  refine ⟨rfl, hidentified "Pod" "prod" "api-7f-x" paymentsPod.metadata (by decide) rfl (by decide)
    ?_ ?_⟩
  · intro kind metadata owner hmem howner
    have hseen : (kind, metadata) ∈ [("Pod", paymentsPod.metadata),
      ("ReplicaSet", paymentsReplicaSet.metadata), ("Deployment", paymentsDeployment.metadata)] :=
      hmem
    simp only [List.mem_cons, Prod.mk.injEq, List.not_mem_nil, or_false] at hseen
    rcases hseen with ⟨-, rfl⟩ | ⟨-, rfl⟩ | ⟨-, rfl⟩
    · obtain rfl := Option.some.inj howner
      decide
    · obtain rfl := Option.some.inj howner
      decide
    · cases howner
  · intro get hget hfailed
    obtain ⟨text, hanswer⟩ := hfailed
    have hget : get ∈ ([⟨"Pod", "prod", "api-7f-x"⟩, ⟨"ReplicaSet", "prod", "api-7f"⟩,
      ⟨"Deployment", "prod", "api"⟩] : List Get) := hget
    simp only [List.mem_cons, List.not_mem_nil, or_false] at hget
    rcases hget with rfl | rfl | rfl <;> cases hanswer

end IncidentaryOperator.Identity
