import IncidentaryOperator.Mapper.DeployOutcome
import IncidentaryOperator.Mapper.OOMKill
import IncidentaryOperator.Mapper.WorkloadIdentity

/-!
# Free text in events

Three attributes carry text that people and programs write freely: the message of an event or of a
node condition, and the change cause of a workload, which a rollback reports under two keys. The
wire format allows a message 2048 bytes and a change cause 512.

`truncate` keeps one byte less than the limit and appends an ellipsis, which takes three, so a text
that is clipped comes out two bytes over the limit; and the second key of a rollback is not clipped
at all. So the limits are kept exactly by the notifications whose reported texts all fit to begin
with (`free_text_limits_iff`).
-/

set_option autoImplicit false
set_option relaxedAutoImplicit false

namespace IncidentaryOperator.Mapper

open Foundation WireFormat Kubernetes Identity

/-! ### Clipping -/

theorem truncate_of_le {text : String} {max : ℕ} (hfits : text.utf8ByteSize ≤ max) :
    truncate text max = text.toByteArray :=
  if_pos hfits

/-- A clipped text is two bytes over the limit. -/
theorem size_truncate_of_lt {text : String} {max : ℕ} (hmax : 0 < max)
    (hlong : max < text.utf8ByteSize) : (truncate text max).size = max + 2 := by
  have hellipsis : "…".toByteArray.size = 3 := by decide
  unfold truncate
  rw [if_neg (by omega), ByteArray.size_append, ByteArray.size_extract, String.size_toByteArray,
    hellipsis]
  omega

/-! ### Limits -/

/-- A value respects a limit: it is text of at most so many bytes, valid UTF-8, and the original
when that fits. -/
def WithinLimit (value : AttrValue) (limit : ℕ) (original : String) : Prop :=
  ∃ bytes, value = .bytes bytes ∧ bytes.size ≤ limit ∧ bytes.IsValidUTF8 ∧
    (original.utf8ByteSize ≤ limit → bytes = original.toByteArray)

theorem withinLimit_str_iff {text : String} {limit : ℕ} :
    WithinLimit (.str text) limit text ↔ text.utf8ByteSize ≤ limit := by
  constructor
  · rintro ⟨bytes, hbytes, hsize, -, -⟩
    rwa [← AttrValue.bytes.inj hbytes, String.size_toByteArray] at hsize
  · intro hfits
    exact ⟨_, rfl, by rwa [String.size_toByteArray], text.isValidUTF8, fun _ ↦ rfl⟩

theorem withinLimit_truncate_iff {text : String} {limit : ℕ} (hlimit : 0 < limit) :
    WithinLimit (.bytes (truncate text limit)) limit text ↔ text.utf8ByteSize ≤ limit := by
  constructor
  · rintro ⟨bytes, hbytes, hsize, -, -⟩
    by_contra hlong
    rw [← AttrValue.bytes.inj hbytes, size_truncate_of_lt hlimit (by omega)] at hsize
    omega
  · intro hfits
    rw [truncate_of_le hfits]
    exact withinLimit_str_iff.mpr hfits

/-- The two texts an event may be made from. -/
structure FreeText where
  message : String := ""
  changeCause : String := ""

/-- The attributes of an event that carry free text respect their limits. -/
structure RespectsLimits (ev : Event) (text : FreeText) : Prop where
  message : ∀ value, ev.attributes.lookup "k8s.message" = some value →
    WithinLimit value 2048 text.message
  changeCause : ∀ value, ev.attributes.lookup "k8s.change_cause" = some value →
    WithinLimit value 512 text.changeCause
  rolloutChangeCause : ∀ value, ev.attributes.lookup "k8s.rollout.change_cause" = some value →
    WithinLimit value 512 text.changeCause

/-- What an event carries of its texts: a message and a change cause are clipped, the change cause
of a rollback is not, and an empty text is left out. -/
structure Carries (ev : Event) (text : FreeText) : Prop where
  message : ev.attributes.lookup "k8s.message" =
    if text.message = "" then none else some (.bytes (truncate text.message 2048))
  changeCause : ev.attributes.lookup "k8s.change_cause" =
    if text.changeCause = "" then none else some (.bytes (truncate text.changeCause 512))
  rolloutChangeCause : ∀ value, ev.attributes.lookup "k8s.rollout.change_cause" = some value →
    value = .str text.changeCause

/-- An attribute that is left out when its text is empty respects its limit when the text fits. -/
theorem withinLimit_of_lookup_iff {attrs : Attributes} {key text : String} {limit : ℕ}
    (hlimit : 0 < limit)
    (hlookup : attrs.lookup key =
      if text = "" then none else some (.bytes (truncate text limit))) :
    (∀ value, attrs.lookup key = some value → WithinLimit value limit text) ↔
      text.utf8ByteSize ≤ limit := by
  by_cases hempty : text = ""
  · simp [hlookup, hempty]
  · simp [hlookup, hempty, withinLimit_truncate_iff hlimit]

theorem Carries.respectsLimits_iff {ev : Event} {text : FreeText} (hcarries : Carries ev text) :
    RespectsLimits ev text ↔
      text.message.utf8ByteSize ≤ 2048 ∧ text.changeCause.utf8ByteSize ≤ 512 := by
  have hmessage := withinLimit_of_lookup_iff (by omega) hcarries.message
  have hchangeCause := withinLimit_of_lookup_iff (by omega) hcarries.changeCause
  constructor
  · intro hrespects
    exact ⟨hmessage.mp hrespects.message, hchangeCause.mp hrespects.changeCause⟩
  · rintro ⟨hmessageFits, hcauseFits⟩
    refine ⟨hmessage.mpr hmessageFits, hchangeCause.mpr hcauseFits, fun value hvalue ↦ ?_⟩
    rw [hcarries.rolloutChangeCause value hvalue]
    exact withinLimit_str_iff.mpr hcauseFits

/-! ### Attributes of the builders -/

theorem lookup_setTruncated_self (attrs : Attributes) (key text : String) (max : ℕ) :
    (setTruncated attrs key text max).lookup key =
      if text = "" then attrs.lookup key else some (.bytes (truncate text max)) := by
  unfold setTruncated
  by_cases hempty : text = ""
  · simp [hempty]
  · rw [if_pos hempty, if_neg hempty]
    exact AList.lookup_insert _

theorem lookup_setPodAttrs_of_ne (attrs : Attributes) (ref : ObjectReference) {key : String}
    (hkey : key ≠ "k8s.pod.name") : (setPodAttrs attrs ref).lookup key = attrs.lookup key := by
  unfold setPodAttrs
  split_ifs
  · exact AList.lookup_insert_ne hkey
  · rfl

theorem lookup_setExtra_of_ne (attrs : Attributes) (entry : String × AttrValue) {key : String}
    (hkey : key ≠ entry.1) : (setExtra attrs entry).lookup key = attrs.lookup key := by
  unfold setExtra
  split
  · split_ifs
    · rfl
    · exact AList.lookup_insert_ne hkey
  · exact AList.lookup_insert_ne hkey

theorem lookup_setExtra_self (attrs : Attributes) (key text : String) :
    (setExtra attrs (key, .str text)).lookup key =
      if text.toByteArray.size = 0 then attrs.lookup key else some (.str text) := by
  unfold setExtra AttrValue.str
  dsimp only
  split_ifs
  · rfl
  · exact AList.lookup_insert _

theorem lookup_foldl_setExtra_of_notMem (extra : List (String × AttrValue)) (attrs : Attributes)
    {key : String} (hkey : key ∉ extra.map Prod.fst) :
    (extra.foldl setExtra attrs).lookup key = attrs.lookup key := by
  induction extra generalizing attrs with
  | nil => rfl
  | cons entry extra ih =>
    rw [List.map_cons, List.mem_cons, not_or] at hkey
    rw [List.foldl_cons, ih _ hkey.2, lookup_setExtra_of_ne _ _ hkey.1]

/-- The attributes the two event mappers share. -/
theorem lookup_regardingAttrs_message (reason reportingController message : String)
    (ref : ObjectReference) :
    (regardingAttrs reason reportingController message ref).lookup "k8s.message" =
      if message = "" then none else some (.bytes (truncate message 2048)) := by
  unfold regardingAttrs
  dsimp only
  rw [lookup_setTruncated_self, lookup_setPodAttrs_of_ne _ _ (by decide),
    lookup_setUnlessEmpty_of_ne _ _ (by decide)]
  rfl

theorem lookup_regardingAttrs_changeCause (reason reportingController message : String)
    (ref : ObjectReference) {key : String}
    (hkey : key = "k8s.change_cause" ∨ key = "k8s.rollout.change_cause") :
    (regardingAttrs reason reportingController message ref).lookup key = none := by
  unfold regardingAttrs
  dsimp only
  rcases hkey with rfl | rfl
  · rw [lookup_setTruncated_of_ne _ _ _ (by decide), lookup_setPodAttrs_of_ne _ _ (by decide),
      lookup_setUnlessEmpty_of_ne _ _ (by decide)]
    rfl
  · rw [lookup_setTruncated_of_ne _ _ _ (by decide), lookup_setPodAttrs_of_ne _ _ (by decide),
      lookup_setUnlessEmpty_of_ne _ _ (by decide)]
    rfl

/-! ### What each event carries -/

theorem carries_k8sWireEvent (rt : Runtime) (seq : ℕ) (ev : K8sEvent) (kind : Kind)
    (res : Result) : Carries (k8sWireEvent rt seq ev kind res) { message := ev.note } := by
  unfold k8sWireEvent
  constructor
  · rw [lookup_setUnlessEmpty_of_ne _ _ (by decide), lookup_regardingAttrs_message]
  · rw [lookup_setUnlessEmpty_of_ne _ _ (by decide),
      lookup_regardingAttrs_changeCause _ _ _ _ (.inl rfl)]
    rfl
  · rw [lookup_setUnlessEmpty_of_ne _ _ (by decide),
      lookup_regardingAttrs_changeCause _ _ _ _ (.inr rfl)]
    simp

theorem carries_coreWireEvent (rt : Runtime) (seq : ℕ) (ev : CoreEvent) (kind : Kind)
    (res : Result) : Carries (coreWireEvent rt seq ev kind res) { message := ev.message } := by
  unfold coreWireEvent
  constructor
  · rw [lookup_setUnlessEmpty_of_ne _ _ (by decide), lookup_setUnlessEmpty_of_ne _ _ (by decide),
      lookup_regardingAttrs_message]
  · rw [lookup_setUnlessEmpty_of_ne _ _ (by decide), lookup_setUnlessEmpty_of_ne _ _ (by decide),
      lookup_regardingAttrs_changeCause _ _ _ _ (.inl rfl)]
    rfl
  · rw [lookup_setUnlessEmpty_of_ne _ _ (by decide), lookup_setUnlessEmpty_of_ne _ _ (by decide),
      lookup_regardingAttrs_changeCause _ _ _ _ (.inr rfl)]
    simp

theorem carries_nodePressureEvent (rt : Runtime) (seq : ℕ) (n : Node) (reason : String)
    (cond : NodeCondition) :
    Carries (nodePressureEvent rt seq n reason cond) { message := cond.message } := by
  unfold nodePressureEvent
  constructor
  · rw [lookup_setTruncated_self, lookup_setUnlessEmpty_of_ne _ _ (by decide)]
    rfl
  · rw [lookup_setTruncated_of_ne _ _ _ (by decide), lookup_setUnlessEmpty_of_ne _ _ (by decide)]
    rfl
  · rw [lookup_setTruncated_of_ne _ _ _ (by decide), lookup_setUnlessEmpty_of_ne _ _ (by decide)]
    exact fun value hvalue ↦ (nomatch hvalue)

/-- A lifecycle event carries the change cause of its workload. Assumes: its extra attributes name
neither of the clipped keys, and under the other one they have the change cause. -/
theorem carries_buildDeployEvent (rt : Runtime) (seq : ℕ) (metadata : ObjectMeta)
    (serviceID : String) (kind : Kind) (reason : String) (occurredAt : ℤ)
    {extra : List (String × AttrValue)} (hmessage : "k8s.message" ∉ extra.map Prod.fst)
    (hchangeCause : "k8s.change_cause" ∉ extra.map Prod.fst)
    (hrollout : ∀ attrs : Attributes, attrs.lookup "k8s.rollout.change_cause" = none →
      ∀ value, (extra.foldl setExtra attrs).lookup "k8s.rollout.change_cause" = some value →
        value = .str (metadata.annotations.at changeCauseAnnotation)) :
    Carries (buildDeployEvent rt seq metadata serviceID kind reason occurredAt extra)
      { changeCause := metadata.annotations.at changeCauseAnnotation } := by
  unfold buildDeployEvent
  constructor
  · rw [lookup_foldl_setExtra_of_notMem _ _ hmessage, lookup_setTruncated_of_ne _ _ _ (by decide),
      lookup_setUnlessEmpty_of_ne _ _ (by decide), lookup_setUnlessEmpty_of_ne _ _ (by decide)]
    rfl
  · rw [lookup_foldl_setExtra_of_notMem _ _ hchangeCause, lookup_setTruncated_self,
      lookup_setUnlessEmpty_of_ne _ _ (by decide), lookup_setUnlessEmpty_of_ne _ _ (by decide)]
    rfl
  · apply hrollout
    rw [lookup_setTruncated_of_ne _ _ _ (by decide), lookup_setUnlessEmpty_of_ne _ _ (by decide),
      lookup_setUnlessEmpty_of_ne _ _ (by decide)]
    rfl

/-- The same for extra attributes that do not name the third key either. -/
theorem carries_buildDeployEvent_of_notMem (rt : Runtime) (seq : ℕ) (metadata : ObjectMeta)
    (serviceID : String) (kind : Kind) (reason : String) (occurredAt : ℤ)
    {extra : List (String × AttrValue)} (hmessage : "k8s.message" ∉ extra.map Prod.fst)
    (hchangeCause : "k8s.change_cause" ∉ extra.map Prod.fst)
    (hrollout : "k8s.rollout.change_cause" ∉ extra.map Prod.fst) :
    Carries (buildDeployEvent rt seq metadata serviceID kind reason occurredAt extra)
      { changeCause := metadata.annotations.at changeCauseAnnotation } := by
  refine carries_buildDeployEvent rt seq metadata serviceID kind reason occurredAt hmessage
    hchangeCause fun attrs hnone value hvalue ↦ ?_
  rw [lookup_foldl_setExtra_of_notMem _ _ hrollout, hnone] at hvalue
  exact nomatch hvalue

theorem carries_deploymentEvent (rt : Runtime) (n : Deployment) (serviceID : String) (kind : Kind)
    (reason : String) (seq : ℕ) :
    Carries (deploymentEvent rt n serviceID kind reason seq)
      { changeCause := n.metadata.annotations.at changeCauseAnnotation } :=
  carries_buildDeployEvent_of_notMem rt seq n.metadata serviceID kind reason _ (by simp) (by simp)
    (by simp)

/-- A rollback reports the change cause a second time, as it is. -/
theorem carries_rolledBackEvent (rt : Runtime) (old : Option Deployment) (n : Deployment)
    (serviceID : String) (seq : ℕ) :
    Carries (rolledBackEvent rt old n serviceID seq)
      { changeCause := n.metadata.annotations.at changeCauseAnnotation } := by
  refine carries_buildDeployEvent rt seq n.metadata serviceID _ _ _ (by simp) (by simp)
    fun attrs hnone value hvalue ↦ ?_
  rw [List.foldl_cons, List.foldl_cons, List.foldl_cons, List.foldl_nil, lookup_setExtra_self,
    lookup_setExtra_of_ne _ _ (by simp), lookup_setExtra_of_ne _ _ (by simp), hnone] at hvalue
  split_ifs at hvalue
  exact (Option.some.inj hvalue).symm

theorem carries_lifecycleBuilds {rt : Runtime} {old : Option Deployment} {n : Deployment}
    {serviceID : String} : ∀ build ∈ lifecycleBuilds rt old n serviceID, ∀ number,
      Carries (build number)
        { changeCause := n.metadata.annotations.at changeCauseAnnotation } := by
  unfold lifecycleBuilds
  split_ifs with hrollback
  · intro build hbuild number
    rw [List.mem_singleton.mp hbuild]
    exact carries_rolledBackEvent rt old n serviceID number
  · simp only [List.forall_mem_map]
    intro outcome _ number
    exact carries_deploymentEvent rt n serviceID outcome.1 outcome.2 number

theorem carries_of_mem_ite {condition : Prop} [Decidable condition] {event : ℕ → Event}
    {text : FreeText} (hevent : ∀ number, Carries (event number) text) :
    ∀ build ∈ (if condition then [event] else []), ∀ number, Carries (build number) text := by
  intro build hbuild number
  split_ifs at hbuild
  · rw [List.mem_singleton.mp hbuild]
    exact hevent number
  · cases hbuild

theorem carries_statefulSetBuilds {rt : Runtime} {old : Option StatefulSet} {n : StatefulSet}
    {serviceID : String} : ∀ build ∈ statefulSetBuilds rt old n serviceID, ∀ number,
      Carries (build number)
        { changeCause := n.metadata.annotations.at changeCauseAnnotation } := by
  unfold statefulSetBuilds
  simp only [List.forall_mem_append]
  constructor
  · refine carries_of_mem_ite fun number ↦ ?_
    exact carries_buildDeployEvent_of_notMem rt number n.metadata serviceID _ _ _ (by simp)
      (by simp) (by simp)
  · refine carries_of_mem_ite fun number ↦ ?_
    exact carries_buildDeployEvent_of_notMem rt number n.metadata serviceID _ _ _ (by simp)
      (by simp) (by simp)

theorem carries_daemonSetBuilds {rt : Runtime} {old : Option DaemonSet} {n : DaemonSet}
    {serviceID : String} : ∀ build ∈ daemonSetBuilds rt old n serviceID, ∀ number,
      Carries (build number)
        { changeCause := n.metadata.annotations.at changeCauseAnnotation } := by
  have hevent : ∀ kind reason number, Carries (daemonSetEvent rt n serviceID kind reason number)
      { changeCause := n.metadata.annotations.at changeCauseAnnotation } :=
    fun kind reason number ↦ carries_buildDeployEvent_of_notMem rt number n.metadata serviceID kind
      reason _ (by simp) (by simp) (by simp)
  unfold daemonSetBuilds
  simp only [List.forall_mem_append]
  constructor
  · exact carries_of_mem_ite fun number ↦ hevent _ _ number
  · exact carries_of_mem_ite fun number ↦ hevent _ _ number

/-! ### Events without free text -/

/-- The keys of free text. -/
def freeTextKeys : List String :=
  ["k8s.message", "k8s.change_cause", "k8s.rollout.change_cause"]

/-- None of the keys is set. -/
def NoFreeText (attrs : Attributes) : Prop :=
  ∀ key ∈ freeTextKeys, attrs.lookup key = none

/-- An event with none of the keys respects every limit. -/
theorem NoFreeText.respectsLimits {ev : Event} (hnone : NoFreeText ev.attributes)
    (text : FreeText) : RespectsLimits ev text := by
  constructor
  · simp [hnone "k8s.message" (by decide)]
  · simp [hnone "k8s.change_cause" (by decide)]
  · simp [hnone "k8s.rollout.change_cause" (by decide)]

theorem noFreeText_empty : NoFreeText ∅ :=
  fun key _ ↦ AList.lookup_empty key

theorem NoFreeText.insert {attrs : Attributes} (hnone : NoFreeText attrs) {other : String}
    (hother : other ∉ freeTextKeys) (value : AttrValue) :
    NoFreeText (attrs.insert other value) := by
  intro key hkey
  rw [AList.lookup_insert_ne (by rintro rfl; exact hother hkey)]
  exact hnone key hkey

theorem NoFreeText.setUnlessEmpty {attrs : Attributes} (hnone : NoFreeText attrs) {other : String}
    (hother : other ∉ freeTextKeys) (text : String) :
    NoFreeText (setUnlessEmpty attrs other text) := by
  unfold Mapper.setUnlessEmpty
  split_ifs
  · exact hnone.insert hother _
  · exact hnone

theorem NoFreeText.setTerminatedAttrs {attrs : Attributes} (hnone : NoFreeText attrs) (pod : Pod)
    (kind : Kind) : NoFreeText (setTerminatedAttrs attrs pod kind) := by
  unfold Mapper.setTerminatedAttrs
  split
  · cases firstTerminated pod with
    | none => exact hnone
    | some found =>
      refine NoFreeText.insert ?_ (by decide) _
      exact (hnone.setUnlessEmpty (by decide) _).setUnlessEmpty (by decide) _
  · cases firstTerminated pod with
    | none => exact hnone
    | some found =>
      refine NoFreeText.insert ?_ (by decide) _
      exact (hnone.setUnlessEmpty (by decide) _).setUnlessEmpty (by decide) _
  · exact hnone

theorem noFreeText_podLifecycleEvent (rt : Runtime) (seq : ℕ) (pod : Pod) (kind : Kind)
    (reason : String) (res : Result) :
    NoFreeText (podLifecycleEvent rt seq pod kind reason res).attributes := by
  have hstart : NoFreeText (podAttrs pod reason res) := by
    iterate 3 refine NoFreeText.setUnlessEmpty ?_ (by decide) _
    iterate 4 refine NoFreeText.insert ?_ (by decide) _
    exact noFreeText_empty
  unfold podLifecycleEvent
  dsimp only
  split_ifs
  · exact (hstart.setTerminatedAttrs pod kind).insert (by decide) _
  · exact hstart.setTerminatedAttrs pod kind

theorem noFreeText_hpaScaleEvent (rt : Runtime) (seq : ℕ) (old n : HorizontalPodAutoscaler) :
    NoFreeText (hpaScaleEvent rt seq old n).attributes := by
  unfold hpaScaleEvent
  refine NoFreeText.insert ?_ (by decide) _
  cases n.minReplicas with
  | none =>
    iterate 5 refine NoFreeText.insert ?_ (by decide) _
    exact noFreeText_empty
  | some replicas =>
    iterate 6 refine NoFreeText.insert ?_ (by decide) _
    exact noFreeText_empty

theorem noFreeText_rolloutBuilds {rt : Runtime} {old : Option Deployment} {n : Deployment} :
    ∀ build ∈ rolloutBuilds rt old n, ∀ number, NoFreeText (build number).attributes := by
  unfold rolloutBuilds
  split_ifs with hsame
  · simp
  · intro build hbuild number
    rw [List.mem_singleton.mp hbuild]
    unfold rolloutEvent
    dsimp only
    split
    · iterate 5 refine NoFreeText.insert ?_ (by decide) _
      exact noFreeText_empty
    · iterate 4 refine NoFreeText.insert ?_ (by decide) _
      exact noFreeText_empty

/-! ### The text behind an event -/

theorem mem_nodeTransitions {old : Option Node} {n : Node} {transition : String × NodeCondition} :
    transition ∈ nodeTransitions old n ↔
      (transition.1 ∈ pressureConditions ∧
        pressureTransition old n transition.1 = some transition.2) ∨
      (transition.1 = "NotReady" ∧ notReadyTransition old n = some transition.2) := by
  obtain ⟨type, cond⟩ := transition
  simp only [nodeTransitions, List.mem_append, List.mem_filterMap, Option.map_eq_some_iff,
    Prod.mk.injEq, Option.mem_toList]
  constructor
  · rintro (⟨_, hmem, _, hcond, rfl, rfl⟩ | ⟨_, hcond, rfl, rfl⟩)
    · exact .inl ⟨hmem, hcond⟩
    · exact .inr ⟨rfl, hcond⟩
  · rintro (⟨hmem, hcond⟩ | ⟨rfl, hcond⟩)
    · exact .inl ⟨type, hmem, cond, hcond, rfl, rfl⟩
    · exact .inr ⟨cond, hcond, rfl, rfl⟩

/-- The reason of a reported condition tells which one it is. -/
theorem eq_of_mem_nodeTransitions {old : Option Node} {n : Node}
    {first second : String × NodeCondition} (hfirst : first ∈ nodeTransitions old n)
    (hsecond : second ∈ nodeTransitions old n) (hreason : first.1 = second.1) : first = second := by
  have hnotReady : "NotReady" ∉ pressureConditions := by decide
  refine Prod.ext hreason (Option.some.inj ?_)
  rcases mem_nodeTransitions.mp hfirst with ⟨hmem, hcond⟩ | ⟨hname, hcond⟩ <;>
    rcases mem_nodeTransitions.mp hsecond with ⟨hmem', hcond'⟩ | ⟨hname', hcond'⟩
  · rw [← hcond, ← hcond', hreason]
  · exact absurd (hreason.trans hname' ▸ hmem) hnotReady
  · exact absurd (hreason.symm.trans hname ▸ hmem') hnotReady
  · rw [← hcond, ← hcond']

/-- The reported condition an event of a Node is about, by its reason. -/
def conditionOf (old : Option Node) (n : Node) (ev : Event) : Option NodeCondition :=
  ((nodeTransitions old n).find? fun transition ↦
    ev.attributes.lookup "k8s.reason" = some (.str transition.1)).map Prod.snd

theorem conditionOf_nodeBuild (rt : Runtime) {old : Option Node} {n : Node}
    {transition : String × NodeCondition} (hmem : transition ∈ nodeTransitions old n)
    (number : ℕ) : conditionOf old n (nodeBuild rt n transition number) = some transition.2 := by
  have hreason : (nodeBuild rt n transition number).attributes.lookup "k8s.reason" =
      some (.str transition.1) := by
    simp only [nodeBuild, nodePressureEvent]
    rw [lookup_setTruncated_of_ne _ _ _ (by decide), lookup_setUnlessEmpty_of_ne _ _ (by decide)]
    exact AList.lookup_insert _
  unfold conditionOf
  simp only [hreason, Option.some.injEq, AttrValue.str_injective.eq_iff]
  cases hfind : (nodeTransitions old n).find? fun other ↦ decide (transition.1 = other.1) with
  | none => simpa using List.find?_eq_none.mp hfind transition hmem
  | some found =>
    have hsame : transition.1 = found.1 := by simpa using List.find?_some hfind
    rw [eq_of_mem_nodeTransitions hmem (List.mem_of_find?_eq_some hfind) hsame]
    rfl

/-- The texts an event of a notification is made from: the note or the message of the event record,
the message of the condition it is about, or the change cause of the workload. -/
def freeText (oldObj newObj : Option Object) (ev : Event) : FreeText :=
  match notified oldObj newObj with
  | some (.k8sEvent record) => { message := record.note }
  | some (.coreEvent record) => { message := record.message }
  | some (.node n) =>
    { message := ((conditionOf (oldObj.bind asNode) n ev).map NodeCondition.message).getD "" }
  | some object =>
    { changeCause := ((Workload.ofObject object).map fun workload ↦
        workload.metadata.annotations.at changeCauseAnnotation).getD "" }
  | none => {}

/-- The texts a notification reports fit: the message of a record that is mapped and whose object
resolves, the messages of the conditions a Node reports, and the change cause of a workload that can
be re-read and is reported by a lifecycle event. -/
def TextFits (reader : Reader) (oldObj newObj : Option Object) : Prop :=
  match newObj with
  | some (.k8sEvent record) => RecordMapped reader record.reason record.regarding →
      record.note.utf8ByteSize ≤ 2048
  | some (.coreEvent record) => RecordMapped reader record.reason record.involvedObject →
      record.message.utf8ByteSize ≤ 2048
  | some (.node n) => ∀ transition ∈ nodeTransitions (oldObj.bind asNode) n,
      transition.2.message.utf8ByteSize ≤ 2048
  | _ => ∀ workload, (notified oldObj newObj).bind Workload.ofObject = some workload →
      lifecycleReported oldObj newObj → Resolvable reader workload.kind.text workload.metadata →
        (workload.metadata.annotations.at changeCauseAnnotation).utf8ByteSize ≤ 512

/-! ### One path after the other -/

section Paths

variable {rt : Runtime} {reader : Reader} {seq : ℕ}

/-- The two event mappers. Assumes: the mapper emits exactly for a mapped reason whose object
resolves, and the event carries the message. -/
theorem mapped_limits_iff {outcome : Except String (Option Event)} {reason message : String}
    {ref : ObjectReference} {build : Kind → Result → Event}
    (hspec : ∀ wire, outcome = .ok (some wire) ↔ reason ≠ "" ∧
      ∃ kind res, matchReason reason ref.kind = some kind ∧
        (resolveRef reader ref.kind ref.namespaceName ref.name).outcome = .ok res ∧
        wire = build kind res)
    (hcarries : ∀ kind res, Carries (build kind res) { message := message }) :
    (∀ wire ∈ returned (outcome.map Option.toList), RespectsLimits wire { message := message }) ↔
      (RecordMapped reader reason ref → message.utf8ByteSize ≤ 2048) := by
  have hlimits : ∀ kind res, RespectsLimits (build kind res) { message := message } ↔
      message.utf8ByteSize ≤ 2048 := fun kind res ↦ by
    rw [(hcarries kind res).respectsLimits_iff]
    simp
  constructor
  · intro hall hmapped
    have hreason := hmapped.reason_ne
    obtain ⟨⟨kind, hkind⟩, res, hres⟩ := hmapped
    exact (hlimits kind res).mp (hall _ (mem_returned_toList.mpr
      ((hspec _).mpr ⟨hreason, kind, res, hkind, hres, rfl⟩)))
  · intro hfits wire hwire
    obtain ⟨-, kind, res, hkind, hres, rfl⟩ := (hspec wire).mp (mem_returned_toList.mp hwire)
    exact (hlimits kind res).mpr (hfits ⟨⟨kind, hkind⟩, res, hres⟩)

/-- Nodes. -/
theorem node_limits_iff (old : Option Node) (n : Node) :
    (∀ ev ∈ fromNodeConditionChange rt seq old n, RespectsLimits ev
      { message := ((conditionOf old n ev).map NodeCondition.message).getD "" }) ↔
      ∀ transition ∈ nodeTransitions old n, transition.2.message.utf8ByteSize ≤ 2048 := by
  have hbuild : ∀ transition ∈ nodeTransitions old n, ∀ number,
      RespectsLimits (nodeBuild rt n transition number)
        { message := ((conditionOf old n (nodeBuild rt n transition number)).map
          NodeCondition.message).getD "" } ↔ transition.2.message.utf8ByteSize ≤ 2048 := by
    intro transition hmem number
    rw [conditionOf_nodeBuild rt hmem number, Option.map_some, Option.getD_some]
    have hcarries := carries_nodePressureEvent rt number n transition.1 transition.2
    refine hcarries.respectsLimits_iff.trans ?_
    simp
  rw [fromNodeConditionChange_eq, forall_mem_numbered]
  · simp only [List.forall_mem_map]
    exact forall₂_congr fun transition hmem ↦ hbuild transition hmem seq
  · simp only [List.forall_mem_map]
    intro transition hmem number
    rw [hbuild transition hmem number, hbuild transition hmem seq]

/-- A workload mapper whose events carry the change cause. Assumes: the builders do so, and there
are builders exactly when something is reported. -/
theorem resolved_limits_iff {kind changeCause : String} {metadata : ObjectMeta}
    {builds : String → List (ℕ → Event)} {lifecycle : Prop}
    (hcarries : ∀ serviceID, ∀ build ∈ builds serviceID, ∀ number,
      Carries (build number) { changeCause := changeCause })
    (hreported : ∀ serviceID, builds serviceID ≠ [] ↔ lifecycle) :
    (∀ serviceID, resolveWorkloadServiceID reader kind metadata.namespaceName metadata.name =
        .ok serviceID → ∀ ev ∈ numbered seq (builds serviceID),
          RespectsLimits ev { changeCause := changeCause }) ↔
      (lifecycle → Resolvable reader kind metadata → changeCause.utf8ByteSize ≤ 512) := by
  have hpaths : ∀ serviceID, (∀ ev ∈ numbered seq (builds serviceID),
      RespectsLimits ev { changeCause := changeCause }) ↔
        (lifecycle → changeCause.utf8ByteSize ≤ 512) := by
    intro serviceID
    rw [forall_mem_numbered_iff, hreported serviceID]
    intro build hbuild number
    rw [(hcarries serviceID build hbuild number).respectsLimits_iff]
    simp
  simp only [hpaths, Resolvable]
  constructor
  · intro hall hlifecycle hresolvable
    obtain ⟨serviceID, hresolved⟩ := hresolvable
    exact hall serviceID hresolved hlifecycle
  · intro hall serviceID hresolved hlifecycle
    exact hall hlifecycle ⟨serviceID, hresolved⟩

/-- Deployments: the rollout event has no free text. -/
theorem deployment_limits_iff (old : Option Deployment) (n : Deployment) :
    (∀ ev ∈ returned (dispatchDeployment rt reader seq old n),
      RespectsLimits ev
        { changeCause := n.metadata.annotations.at changeCauseAnnotation }) ↔
      (rolledBack old n = true ∨ deployOutcomes old n ≠ [] →
        Resolvable reader "Deployment" n.metadata →
          (n.metadata.annotations.at changeCauseAnnotation).utf8ByteSize ≤ 512) := by
  have hrollout : ∀ ev ∈ numbered seq (rolloutBuilds rt old n), RespectsLimits ev
      { changeCause := n.metadata.annotations.at changeCauseAnnotation } := by
    rw [forall_mem_numbered_iff]
    · exact fun _ ↦ trivial
    · intro build hbuild number
      exact iff_true_intro ((noFreeText_rolloutBuilds build hbuild number).respectsLimits _)
  rw [dispatchDeployment_eq]
  refine forall_mem_resolved.trans ?_
  simp only [numbered_append, List.forall_mem_append, and_iff_right hrollout]
  exact resolved_limits_iff (fun _ ↦ carries_lifecycleBuilds) fun _ ↦ lifecycleBuilds_ne_nil

/-- Deleted Deployments. -/
theorem deleted_limits_iff (d : Deployment) :
    (∀ ev ∈ returned ((fromDeploymentDelete rt reader seq d).map Option.toList),
      RespectsLimits ev
        { changeCause := d.metadata.annotations.at changeCauseAnnotation }) ↔
      (isMidRollout d = true → Resolvable reader "Deployment" d.metadata →
        (d.metadata.annotations.at changeCauseAnnotation).utf8ByteSize ≤ 512) := by
  have hlimits : ∀ serviceID, RespectsLimits
      (deploymentEvent rt d serviceID .deployCancelled "DeletedMidRollout" seq)
        { changeCause := d.metadata.annotations.at changeCauseAnnotation } ↔
      (d.metadata.annotations.at changeCauseAnnotation).utf8ByteSize ≤ 512 := by
    intro serviceID
    rw [(carries_deploymentEvent rt d serviceID _ _ seq).respectsLimits_iff]
    simp
  constructor
  · rintro hall hrunning ⟨serviceID, hres⟩
    exact (hlimits serviceID).mp (hall _ (mem_returned_toList.mpr
      (fromDeploymentDelete_eq_some.mpr ⟨hrunning, serviceID, hres, rfl⟩)))
  · intro hfits ev hev
    obtain ⟨hrunning, serviceID, hres, rfl⟩ :=
      fromDeploymentDelete_eq_some.mp (mem_returned_toList.mp hev)
    exact (hlimits serviceID).mpr (hfits hrunning ⟨serviceID, hres⟩)

theorem statefulSet_limits_iff (old : Option StatefulSet) (n : StatefulSet) :
    (∀ ev ∈ returned (fromStatefulSetChange rt reader seq old n),
      RespectsLimits ev
        { changeCause := n.metadata.annotations.at changeCauseAnnotation }) ↔
      (isStatefulSetStarted old n = true ∨ isStatefulSetSucceeded old n = true →
        Resolvable reader "StatefulSet" n.metadata →
          (n.metadata.annotations.at changeCauseAnnotation).utf8ByteSize ≤ 512) := by
  rw [fromStatefulSetChange_eq]
  exact forall_mem_resolved.trans (resolved_limits_iff (fun _ ↦ carries_statefulSetBuilds)
    fun _ ↦ statefulSetBuilds_ne_nil)

theorem daemonSet_limits_iff (old : Option DaemonSet) (n : DaemonSet) :
    (∀ ev ∈ returned (fromDaemonSetChange rt reader seq old n),
      RespectsLimits ev
        { changeCause := n.metadata.annotations.at changeCauseAnnotation }) ↔
      (isDaemonSetStarted old n = true ∨ isDaemonSetSucceeded old n = true →
        Resolvable reader "DaemonSet" n.metadata →
          (n.metadata.annotations.at changeCauseAnnotation).utf8ByteSize ≤ 512) := by
  rw [fromDaemonSetChange_eq]
  exact forall_mem_resolved.trans (resolved_limits_iff (fun _ ↦ carries_daemonSetBuilds)
    fun _ ↦ daemonSetBuilds_ne_nil)

end Paths

/-! ### All paths -/

/-- For every notification and every content of the store, the free text in all events `Dispatch`
returns respects its limits exactly when the texts the notification reports fit. -/
theorem free_text_limits_iff (rt : Runtime) (reader : Reader) (seq : ℕ)
    (oldObj newObj : Option Object) :
    (∀ ev ∈ returned (dispatch rt reader seq oldObj newObj),
      RespectsLimits ev (freeText oldObj newObj ev)) ↔ TextFits reader oldObj newObj := by
  cases newObj with
  | none =>
    cases oldObj with
    | none => simp [dispatch, TextFits, notified]
    | some old =>
      cases old with
      | deployment d =>
        refine (deleted_limits_iff d).trans ?_
        simp [TextFits, notified, Workload.ofObject, lifecycleReported, WorkloadKind.text]
      | _ => simp [dispatch, dispatchDelete, TextFits, lifecycleReported]
  | some new =>
    cases new with
    | k8sEvent record =>
      exact mapped_limits_iff (fun wire ↦ fromK8sEvent_eq_some)
        (carries_k8sWireEvent rt seq record)
    | coreEvent record =>
      exact mapped_limits_iff (fun wire ↦ fromCoreEvent_eq_some)
        (carries_coreWireEvent rt seq record)
    | node n => exact node_limits_iff (oldObj.bind asNode) n
    | pod n =>
      have hsilent : TextFits reader oldObj (some (.pod n)) := by
        simp [TextFits, notified, Workload.ofObject]
      simp only [hsilent, iff_true]
      intro ev hev
      obtain ⟨-, kind, reason, res, -, -, rfl⟩ := mem_fromPodStatusChange.mp hev
      exact (noFreeText_podLifecycleEvent rt seq n kind reason res).respectsLimits _
    | hpa n =>
      have hsilent : TextFits reader oldObj (some (.hpa n)) := by
        simp [TextFits, notified, Workload.ofObject]
      simp only [hsilent, iff_true]
      intro ev hev
      obtain ⟨before, -, -, rfl⟩ := fromHPAScale_eq_some.mp (Option.mem_toList.mp hev)
      exact (noFreeText_hpaScaleEvent rt seq before n).respectsLimits _
    | deployment n =>
      refine (deployment_limits_iff (oldObj.bind asDeployment) n).trans ?_
      simp [TextFits, notified, Workload.ofObject, lifecycleReported, WorkloadKind.text]
    | statefulSet n =>
      refine (statefulSet_limits_iff (oldObj.bind asStatefulSet) n).trans ?_
      simp [TextFits, notified, Workload.ofObject, lifecycleReported, WorkloadKind.text]
    | daemonSet n =>
      refine (daemonSet_limits_iff (oldObj.bind asDaemonSet) n).trans ?_
      simp [TextFits, notified, Workload.ofObject, lifecycleReported, WorkloadKind.text]
    | replicaSet rs => simp [dispatch, TextFits, notified, Workload.ofObject]
    | other metadata => simp [dispatch, TextFits, notified, Workload.ofObject]

/-- A crash loop with a message. -/
def backOffSaying (message : String) : CoreEvent where
  reason := "BackOff"
  involvedObject := { kind := "Pod", namespaceName := "prod", name := "api-7f-x" }
  message := message

/-- A text of so many letters. -/
def padding : ℕ → String
  | 0 => ""
  | n + 1 => (padding n).push 'a'

theorem utf8ByteSize_padding (n : ℕ) : (padding n).utf8ByteSize = n := by
  induction n with
  | zero => rfl
  | succ n ih =>
    have hletter : 'a'.utf8Size = 1 := by decide
    rw [padding, String.utf8ByteSize_push, ih, hletter]

/-- A message of 2049 bytes is clipped to 2050, which is more than 2048 and more than it had. -/
theorem clipped_message_over_limit :
    ∃ ev bytes, dispatch ⟨fun _ ↦ 1, fun _ ↦ "evt"⟩ Reader.empty 0 none
        (some (.coreEvent (backOffSaying (padding 2049)))) = .ok [ev] ∧
      ev.attributes.lookup "k8s.message" = some (.bytes bytes) ∧ bytes.size = 2050 ∧
      ¬ RespectsLimits ev
        (freeText none (some (.coreEvent (backOffSaying (padding 2049)))) ev) := by
  have hsize := utf8ByteSize_padding 2049
  revert hsize
  generalize padding 2049 = message
  intro hsize
  have hne : message ≠ "" := by
    rintro rfl
    exact absurd hsize (by decide)
  have hcarries := carries_coreWireEvent ⟨fun _ ↦ 1, fun _ ↦ "evt"⟩ 0 (backOffSaying message)
    .k8sPodCrash {}
  have hmapped : fromCoreEvent ⟨fun _ ↦ 1, fun _ ↦ "evt"⟩ Reader.empty 0 (backOffSaying message) =
      .ok (some (coreWireEvent ⟨fun _ ↦ 1, fun _ ↦ "evt"⟩ 0 (backOffSaying message)
        .k8sPodCrash {})) :=
    fromCoreEvent_eq_some.mpr ⟨by simp [backOffSaying], .k8sPodCrash, {},
      (by decide : matchReason "BackOff" "Pod" = some .k8sPodCrash), rfl, rfl⟩
  refine ⟨coreWireEvent ⟨fun _ ↦ 1, fun _ ↦ "evt"⟩ 0 (backOffSaying message) .k8sPodCrash {},
    truncate message 2048, ?_, ?_, size_truncate_of_lt (by omega) (by omega), ?_⟩
  · exact congrArg (Except.map Option.toList) hmapped
  · exact hcarries.message.trans (if_neg hne)
  · intro hrespects
    have hfits : message.utf8ByteSize ≤ 2048 := (hcarries.respectsLimits_iff.mp hrespects).1
    omega

end IncidentaryOperator.Mapper
