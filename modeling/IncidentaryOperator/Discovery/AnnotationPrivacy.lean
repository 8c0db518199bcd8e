import IncidentaryOperator.Discovery.Loop

/-!
# Annotations that are not forwarded

Annotations are a common place for credentials. Two states of the cluster that are equal except for
annotations outside the allowlist give equal topology reports
(`unforwarded_annotations_never_reported`).

Annotations enter a report in two ways, as the filtered copy and through the service id, which the
resolver reads from its own store. The first is a function of the forwarded entries
(`filterSafeAnnotations_congr`), and the second reads one key, which is on the allowlist
(`workloadResult_congr`).
-/

set_option autoImplicit false
set_option relaxedAutoImplicit false

namespace IncidentaryOperator.Discovery

open Foundation WireFormat Kubernetes Identity Client

/-! ### The filter -/

/-- A key that starts as the allowlist says. -/
def Forwarded (key : String) : Prop :=
  ∃ start ∈ safeAnnotationPrefixes, hasPrefix key start = true

instance : DecidablePred Forwarded := fun key ↦
  inferInstanceAs (Decidable (∃ start ∈ safeAnnotationPrefixes, hasPrefix key start = true))

theorem isSafeAnnotation_iff {key : String} : isSafeAnnotation key = true ↔ Forwarded key := by
  have hself : hasPrefix key key = true := by simp [hasPrefix]
  unfold isSafeAnnotation Forwarded
  rw [List.any_eq_true]
  refine exists_congr fun start ↦ and_congr_right fun _ ↦ ?_
  constructor
  · intro hkey
    rcases (Bool.or_eq_true _ _).mp hkey with hequal | hstarts
    · obtain rfl := of_decide_eq_true hequal
      exact hself
    · exact hstarts
  · intro hstarts
    rw [hstarts, Bool.or_true]

/-- Two annotation maps with the same forwarded entries. -/
def AgreeOnForwarded (first second : StringMap) : Prop :=
  ∀ key, Forwarded key → first.lookup key = second.lookup key

/-- An entry that is not forwarded may be added or given another value. -/
theorem agreeOnForwarded_insert {key : String} (hkey : ¬ Forwarded key) (annotations : StringMap)
    (value : String) : AgreeOnForwarded (annotations.insert key value) annotations := by
  intro other hother
  refine AList.lookup_insert_ne ?_
  rintro rfl
  exact hkey hother

/-- The loop of the filter keeps the forwarded entries and what was there before. -/
theorem lookup_foldl_keepSafe {entries : List (Sigma fun _ : String ↦ String)}
    (hkeys : entries.NodupKeys) (out : Finmap fun _ : String ↦ String) (key : String) :
    (entries.foldl keepSafe out).lookup key =
      if isSafeAnnotation key then (entries.dlookup key).or (out.lookup key)
      else out.lookup key := by
  induction entries generalizing out with
  | nil => simp
  | cons entry rest ih =>
    obtain ⟨other, value⟩ := entry
    obtain ⟨hnew, hrest⟩ := List.nodupKeys_cons.mp hkeys
    rw [List.foldl_cons, ih hrest]
    by_cases hkey : key = other
    · subst hkey
      rw [List.dlookup_cons_eq, List.dlookup_eq_none.mpr hnew]
      by_cases hsafe : isSafeAnnotation key = true <;> simp [keepSafe, hsafe]
    · have hout : (keepSafe out ⟨other, value⟩).lookup key = out.lookup key := by
        unfold keepSafe
        split_ifs
        · exact Finmap.lookup_insert_of_ne out hkey
        · rfl
      rw [List.dlookup_cons_ne _ _ hkey, hout]

/-- The early return for an empty map is the same nil as the late one. -/
theorem filterSafeAnnotations_eq (annotations : StringMap) :
    filterSafeAnnotations annotations =
      if annotations.entries.foldl keepSafe ∅ = ∅ then none
      else some (annotations.entries.foldl keepSafe ∅) := by
  unfold filterSafeAnnotations
  by_cases hempty : annotations.entries.length = 0
  · rw [if_pos hempty, List.eq_nil_of_length_eq_zero hempty]
    rfl
  · rw [if_neg hempty]

theorem filterSafeAnnotations_congr {first second : StringMap}
    (hagree : AgreeOnForwarded first second) :
    filterSafeAnnotations first = filterSafeAnnotations second := by
  have hout : first.entries.foldl keepSafe ∅ = second.entries.foldl keepSafe ∅ := by
    apply Finmap.ext_lookup
    intro key
    rw [lookup_foldl_keepSafe first.nodupKeys, lookup_foldl_keepSafe second.nodupKeys]
    split_ifs with hsafe
    · congr 1
      exact hagree key (isSafeAnnotation_iff.mp hsafe)
    · rfl
  rw [filterSafeAnnotations_eq, filterSafeAnnotations_eq, hout]

/-! ### States that differ in other annotations -/

/-- Two objects that are equal except for annotations that are not forwarded. -/
def SameForwarded {α : Type} (annotate : StringMap → α → α) (first second : α) : Prop :=
  ∃ object annotations others, AgreeOnForwarded annotations others ∧
    first = annotate annotations object ∧ second = annotate others object

/-- Sets the annotations in metadata. -/
def annotateMeta (annotations : StringMap) (metadata : ObjectMeta) : ObjectMeta :=
  { metadata with annotations := annotations }

/-- Sets the annotations of a Deployment. -/
def annotateDeployment (annotations : StringMap) (d : Deployment) : Deployment :=
  { d with metadata := annotateMeta annotations d.metadata }

/-- Sets the annotations of a StatefulSet. -/
def annotateStatefulSet (annotations : StringMap) (s : StatefulSet) : StatefulSet :=
  { s with metadata := annotateMeta annotations s.metadata }

/-- Sets the annotations of a DaemonSet. -/
def annotateDaemonSet (annotations : StringMap) (d : DaemonSet) : DaemonSet :=
  { d with metadata := annotateMeta annotations d.metadata }

theorem SameForwarded.metadata {α : Type} {annotate : StringMap → α → α}
    {metadata : α → ObjectMeta}
    (hannotate : ∀ annotations object,
      metadata (annotate annotations object) = annotateMeta annotations (metadata object))
    {first second : α} (hsame : SameForwarded annotate first second) :
    SameForwarded annotateMeta (metadata first) (metadata second) := by
  obtain ⟨object, annotations, others, hagree, rfl, rfl⟩ := hsame
  exact ⟨metadata object, annotations, others, hagree, hannotate _ _, hannotate _ _⟩

/-- Two answers of a call: the same error, or related values. -/
inductive SameAnswer {ε α : Type} (related : α → α → Prop) : Except ε α → Except ε α → Prop
  | error (failure : ε) : SameAnswer related (.error failure) (.error failure)
  | ok {first second : α} (hrelated : related first second) :
      SameAnswer related (.ok first) (.ok second)

theorem SameAnswer.map {ε α β : Type} {related : α → α → Prop} {image : β → β → Prop} {f : α → β}
    {first second : Except ε α} (hanswer : SameAnswer related first second)
    (himage : ∀ a b, related a b → image (f a) (f b)) :
    SameAnswer image (first.map f) (second.map f) := by
  cases hanswer with
  | error failure => exact .error failure
  | ok hrelated => exact .ok (himage _ _ hrelated)

/-- Two stores of the resolver whose workloads are equal except for annotations that are not
forwarded. -/
structure StoresAgree (first second : Reader) : Prop where
  deployment : ∀ ns name, SameAnswer (SameForwarded annotateDeployment)
    (first.deployment ns name) (second.deployment ns name)
  statefulSet : ∀ ns name, SameAnswer (SameForwarded annotateStatefulSet)
    (first.statefulSet ns name) (second.statefulSet ns name)
  daemonSet : ∀ ns name, SameAnswer (SameForwarded annotateDaemonSet)
    (first.daemonSet ns name) (second.daemonSet ns name)

/-- Two listings that are equal except for annotations that are not forwarded. -/
structure ListingsAgree (first second : Listing) : Prop where
  deployments : SameAnswer (List.Forall₂ (SameForwarded annotateDeployment))
    first.deployments second.deployments
  statefulSets : SameAnswer (List.Forall₂ (SameForwarded annotateStatefulSet))
    first.statefulSets second.statefulSets
  daemonSets : SameAnswer (List.Forall₂ (SameForwarded annotateDaemonSet))
    first.daemonSets second.daemonSets

/-! ### Entries -/

theorem forwarded_serviceIDAnnotation : Forwarded serviceIDAnnotation :=
  ⟨"incidentary.com/", by decide, by decide⟩

/-- The resolver reads one annotation of a workload, and it is forwarded. -/
theorem workloadResult_congr (kind : WorkloadKind) {first second : ObjectMeta}
    (hmeta : SameForwarded annotateMeta first second) :
    Workload.result ⟨kind, first⟩ = Workload.result ⟨kind, second⟩ := by
  obtain ⟨metadata, annotations, others, hagree, rfl, rfl⟩ := hmeta
  unfold Workload.result resolveFromWorkload annotateMeta
  rw [hagree _ forwarded_serviceIDAnnotation]

section Entries

variable {first second : Reader} (hstores : StoresAgree first second)

include hstores

theorem readWorkload_agree (kind : WorkloadKind) (ns name : String) :
    SameAnswer (SameForwarded annotateMeta) (readWorkload first kind ns name)
      (readWorkload second kind ns name) := by
  cases kind with
  | deployment =>
    exact (hstores.deployment ns name).map fun _ _ hsame ↦ hsame.metadata fun _ _ ↦ rfl
  | statefulSet =>
    exact (hstores.statefulSet ns name).map fun _ _ hsame ↦ hsame.metadata fun _ _ ↦ rfl
  | daemonSet =>
    exact (hstores.daemonSet ns name).map fun _ _ hsame ↦ hsame.metadata fun _ _ ↦ rfl

theorem referenceOutcome_agree (kind : WorkloadKind) (ns name : String) :
    referenceOutcome kind ns name (readWorkload first kind ns name) =
      referenceOutcome kind ns name (readWorkload second kind ns name) := by
  have hanswer := readWorkload_agree hstores kind ns name
  generalize readWorkload first kind ns name = before at hanswer ⊢
  generalize readWorkload second kind ns name = after at hanswer ⊢
  cases hanswer with
  | error failure => rfl
  | ok hmeta => exact congrArg Except.ok (workloadResult_congr kind hmeta)

/-- The entry of a workload does not depend on annotations that are not forwarded. -/
theorem toWorkload_congr (kind : WorkloadKind) {metadata other : ObjectMeta}
    (hmeta : SameForwarded annotateMeta metadata other) (replicas availableReplicas : ℤ)
    (containers : List Container) (conditions : List WorkloadCond) :
    toWorkload first kind metadata replicas availableReplicas containers conditions =
      toWorkload second kind other replicas availableReplicas containers conditions := by
  obtain ⟨object, annotations, others, hagree, rfl, rfl⟩ := hmeta
  have hresolved : resolvedOrEmpty first kind (annotateMeta annotations object) =
      resolvedOrEmpty second kind (annotateMeta others object) := by
    unfold resolvedOrEmpty annotateMeta
    rw [resolveRef_workload, resolveRef_workload, referenceOutcome_agree hstores]
  unfold toWorkload
  rw [hresolved]
  simp only [annotateMeta, filterSafeAnnotations_congr hagree]

theorem deploymentToWorkload_congr {d other : Deployment}
    (hsame : SameForwarded annotateDeployment d other) :
    deploymentToWorkload first d = deploymentToWorkload second other := by
  obtain ⟨object, annotations, others, hagree, rfl, rfl⟩ := hsame
  exact toWorkload_congr hstores _ ⟨object.metadata, annotations, others, hagree, rfl, rfl⟩ _ _ _ _

theorem statefulSetToWorkload_congr {s other : StatefulSet}
    (hsame : SameForwarded annotateStatefulSet s other) :
    statefulSetToWorkload first s = statefulSetToWorkload second other := by
  obtain ⟨object, annotations, others, hagree, rfl, rfl⟩ := hsame
  exact toWorkload_congr hstores _ ⟨object.metadata, annotations, others, hagree, rfl, rfl⟩ _ _ _ _

theorem daemonSetToWorkload_congr {d other : DaemonSet}
    (hsame : SameForwarded annotateDaemonSet d other) :
    daemonSetToWorkload first d = daemonSetToWorkload second other := by
  obtain ⟨object, annotations, others, hagree, rfl, rfl⟩ := hsame
  exact toWorkload_congr hstores _ ⟨object.metadata, annotations, others, hagree, rfl, rfl⟩ _ _ _ _

end Entries

/-! ### Reports -/

/-- Whether a workload is eligible does not depend on its annotations. -/
theorem eligible_congr (excludes : Finset String) {first second : ObjectMeta}
    (hmeta : SameForwarded annotateMeta first second) :
    eligible excludes first = eligible excludes second := by
  obtain ⟨metadata, annotations, others, -, rfl, rfl⟩ := hmeta
  rfl

/-- Related lists give the same entries when related items are eligible together and have the same
entry. -/
theorem entries_congr {α : Type} {related : α → α → Prop} {holds : α → Bool}
    {entry other : α → TopologyWorkload} {items others : List α}
    (hitems : List.Forall₂ related items others) (hholds : ∀ a b, related a b → holds a = holds b)
    (hentry : ∀ a b, related a b → entry a = other b) :
    (items.filter holds).map entry = (others.filter holds).map other := by
  induction hitems with
  | nil => rfl
  | cons hhead _ ih =>
    rw [List.filter_cons, List.filter_cons, hholds _ _ hhead]
    split_ifs
    · rw [List.map_cons, List.map_cons, hentry _ _ hhead, ih]
    · exact ih

theorem eligibleWorkloads_congr (excludes : Finset String) {firstStore secondStore : Reader}
    (hstores : StoresAgree firstStore secondStore) {deps otherDeps : List Deployment}
    {sts otherSts : List StatefulSet} {ds otherDs : List DaemonSet}
    (hdeps : List.Forall₂ (SameForwarded annotateDeployment) deps otherDeps)
    (hsts : List.Forall₂ (SameForwarded annotateStatefulSet) sts otherSts)
    (hds : List.Forall₂ (SameForwarded annotateDaemonSet) ds otherDs) :
    eligibleWorkloads excludes firstStore deps sts ds =
      eligibleWorkloads excludes secondStore otherDeps otherSts otherDs := by
  unfold eligibleWorkloads
  congr 1
  · congr 1
    · refine entries_congr hdeps (fun _ _ hsame ↦ ?_) fun _ _ ↦ deploymentToWorkload_congr hstores
      exact eligible_congr excludes (hsame.metadata fun _ _ ↦ rfl)
    · refine entries_congr hsts (fun _ _ hsame ↦ ?_) fun _ _ ↦ statefulSetToWorkload_congr hstores
      exact eligible_congr excludes (hsame.metadata fun _ _ ↦ rfl)
  · refine entries_congr hds (fun _ _ hsame ↦ ?_) fun _ _ ↦ daemonSetToWorkload_congr hstores
    exact eligible_congr excludes (hsame.metadata fun _ _ ↦ rfl)

/-- Annotations that are not forwarded never influence a topology report: two states of the cluster
that are equal except for annotations whose keys start with none of `safeAnnotationPrefixes`, in the
lists and in the store of the resolver alike, give equal outcomes. Such annotations may be added,
removed or changed. Assumes: the two states are related in this way. -/
theorem unforwarded_annotations_never_reported (excludes : Finset String)
    {firstStore secondStore : Reader} (hstores : StoresAgree firstStore secondStore)
    {first second : Listing} (hlistings : ListingsAgree first second) :
    collectWorkloads excludes firstStore first = collectWorkloads excludes secondStore second := by
  obtain ⟨deployments, statefulSets, daemonSets⟩ := first
  obtain ⟨otherDeployments, otherStatefulSets, otherDaemonSets⟩ := second
  obtain ⟨hdeployments, hstatefulSets, hdaemonSets⟩ := hlistings
  rw [collectWorkloads_eq, collectWorkloads_eq]
  dsimp only at hdeployments hstatefulSets hdaemonSets ⊢
  cases hdeployments with
  | error failure => rfl
  | ok hdeps =>
    cases hstatefulSets with
    | error failure => rfl
    | ok hsts =>
      cases hdaemonSets with
      | error failure => rfl
      | ok hds =>
        exact congrArg Except.ok (eligibleWorkloads_congr excludes hstores hdeps hsts hds)

/-- A Deployment with a service id and a token in its annotations. -/
def withToken (token : String) : Deployment :=
  annotateDeployment
    ((AList.singleton serviceIDAnnotation "payments").insert "vault.example/token" token)
    { metadata := { name := "api", namespaceName := "prod" } }

/-- The lists of a cluster with one Deployment. -/
def listOf (d : Deployment) : Listing :=
  ⟨.ok [d], .ok [], .ok []⟩

/-- The store of a cluster with one Deployment. -/
def storeOf (d : Deployment) : Reader :=
  { Reader.empty with deployment := fun _ _ ↦ .ok d }

/-- Another token, the same entry. -/
theorem unforwarded_annotations_never_reported_token :
    collectWorkloads defaultExcludedNamespaces (storeOf (withToken "old"))
        (listOf (withToken "old")) =
      collectWorkloads defaultExcludedNamespaces (storeOf (withToken "new"))
        (listOf (withToken "new")) := by
  have hsame : SameForwarded annotateDeployment (withToken "old") (withToken "new") := by
    refine ⟨_, _, _, fun key hkey ↦ ?_, rfl, rfl⟩
    have hother : ¬ Forwarded "vault.example/token" := by decide
    rw [agreeOnForwarded_insert hother _ _ key hkey, agreeOnForwarded_insert hother _ _ key hkey]
  exact unforwarded_annotations_never_reported _
    ⟨fun _ _ ↦ .ok hsame, fun _ _ ↦ .error _, fun _ _ ↦ .error _⟩
    ⟨.ok (.cons hsame .nil), .ok .nil, .ok .nil⟩

end IncidentaryOperator.Discovery
