import IncidentaryOperator.Identity.Agreement
import IncidentaryOperator.Mapper.Emission

/-!
# The spelling of a kind

The reason table and the pod attributes compare the kind of the regarding object without regard to
case, the resolver compares it as it is written. So an event on an object of kind `pod` is mapped as
an event on a Pod, and the resolver, which knows no such kind, leaves it to the name of the Pod. The
service id is then that of the owning workload only when resolving the Pod gives its name as well
(`kind_spelling_iff`). For Nodes the two agree, since a Node is identified by its name.
-/

set_option autoImplicit false
set_option relaxedAutoImplicit false

namespace IncidentaryOperator.Mapper

open Foundation WireFormat Kubernetes Identity

/-! ### Kinds of the reason table -/

theorem regardingKinds_eq : ∀ entry ∈ k8sEventReasonMappings, ∀ kind ∈ entry.2.regardingKinds,
    kind = "Pod" ∨ kind = "Node" := by
  decide

/-- Only events on Pods and Nodes are mapped. -/
theorem equalFold_of_matchReason {reason regardingKind : String} {kind : Kind}
    (hmatch : matchReason reason regardingKind = some kind) :
    equalFold "Pod" regardingKind = true ∨ equalFold "Node" regardingKind = true := by
  unfold matchReason at hmatch
  cases hlookup : k8sEventReasonMappings.lookup reason with
  | none => simp [hlookup] at hmatch
  | some mapping =>
    simp only [hlookup] at hmatch
    split_ifs at hmatch with hany
    obtain ⟨tableKind, hmem, hfold⟩ := List.any_eq_true.mp hany
    obtain ⟨above, below, htable, -⟩ := List.lookup_eq_some_iff.mp hlookup
    have hentry : (reason, mapping) ∈ k8sEventReasonMappings := by simp [htable]
    rcases regardingKinds_eq _ hentry tableKind hmem with rfl | rfl
    · exact .inl hfold
    · exact .inr hfold

theorem matchReason_backOff (regardingKind : String) :
    matchReason "BackOff" regardingKind =
      if equalFold "Pod" regardingKind then some .k8sPodCrash else none := by
  have hlookup : k8sEventReasonMappings.lookup "BackOff" = some ⟨["Pod"], .k8sPodCrash⟩ := rfl
  unfold matchReason
  simp [hlookup]

/-- Two spellings the reason table does not tell apart. -/
def SameKind (first second : String) : Prop :=
  ∀ reason, matchReason reason first = matchReason reason second

/-- Spellings that are equal under case folding are the same to the table. -/
theorem sameKind_of_fold {first second : String}
    (hfold : first.toList.map foldRune = second.toList.map foldRune) : SameKind first second := by
  intro reason
  unfold matchReason equalFold
  rw [hfold]

theorem SameKind.equalFold_pod {first second : String} (hsame : SameKind first second) :
    equalFold "Pod" first = equalFold "Pod" second := by
  have hreason := hsame "BackOff"
  rw [matchReason_backOff, matchReason_backOff] at hreason
  revert hreason
  cases equalFold "Pod" first <;> cases equalFold "Pod" second <;> simp

/-! ### The service id of a reference -/

/-- The service id an event gets from its reference: what the resolver finds, else the name. -/
def serviceIdentity (reader : Reader) (kind : String) (ref : ObjectReference) :
    Except String String :=
  (resolveRef reader kind ref.namespaceName ref.name).outcome.map (fallbackServiceID · ref.name)

/-- A kind the resolver does not know leaves the event to the name. -/
theorem serviceIdentity_unknown (reader : Reader) {kind : String} (ref : ObjectReference)
    (hkind : kind ∉ ["Deployment", "StatefulSet", "DaemonSet", "ReplicaSet", "Pod", "Node"]) :
    serviceIdentity reader kind ref = .ok ref.name := by
  simp only [List.mem_cons, List.not_mem_nil, or_false, not_or] at hkind
  obtain ⟨hdeployment, hstatefulSet, hdaemonSet, hreplicaSet, hpod, hnode⟩ := hkind
  unfold serviceIdentity resolveRef
  simp only [hdeployment, hstatefulSet, hdaemonSet, hreplicaSet, hpod, hnode, if_false, ite_self]
  rfl

theorem serviceIdentity_node (reader : Reader) {kind : String} (ref : ObjectReference)
    (hfold : equalFold "Node" kind = true) : serviceIdentity reader kind ref = .ok ref.name := by
  by_cases hnode : kind = "Node"
  · subst hnode
    unfold serviceIdentity resolveRef
    by_cases hname : ref.name = "" <;>
      simp [hname, Except.map, fallbackServiceID]
  · apply serviceIdentity_unknown
    intro hmem
    have hothers : ∀ other ∈ ["Deployment", "StatefulSet", "DaemonSet", "ReplicaSet", "Pod"],
        equalFold "Node" other = false := by decide
    have hother : kind ∈ ["Deployment", "StatefulSet", "DaemonSet", "ReplicaSet", "Pod"] := by
      simpa [hnode] using hmem
    simp [hothers kind hother] at hfold

theorem serviceIdentity_pod_respelled (reader : Reader) {kind : String} (ref : ObjectReference)
    (hfold : equalFold "Pod" kind = true) (hpod : kind ≠ "Pod") :
    serviceIdentity reader kind ref = .ok ref.name := by
  apply serviceIdentity_unknown
  intro hmem
  have hothers : ∀ other ∈ ["Deployment", "StatefulSet", "DaemonSet", "ReplicaSet", "Node"],
      equalFold "Pod" other = false := by decide
  have hother : kind ∈ ["Deployment", "StatefulSet", "DaemonSet", "ReplicaSet", "Node"] := by
    simpa [hpod] using hmem
  simp [hothers kind hother] at hfold

/-! ### What a mapper reports under a spelling -/

/-- The identity of an event. -/
structure EventIdentity where
  kind : Kind
  severity : Severity
  serviceID : String
  deriving DecidableEq

/-- The identity an event mapper returns: none when it fails, and none of none when it does not map
the event. -/
def reported (outcome : Except String (Option Event)) : Option (Option EventIdentity) :=
  outcome.toOption.map (Option.map fun ev ↦ ⟨ev.kind, ev.severity, ev.serviceID⟩)

/-- The identity of an event with a reason on an object of a kind. -/
def mappedIdentity (reader : Reader) (reason kind : String) (ref : ObjectReference) :
    Option (Option EventIdentity) :=
  match matchReason reason kind with
  | none => some none
  | some mapped =>
    (serviceIdentity reader kind ref).toOption.map fun serviceID ↦
      some ⟨mapped, severityForKind mapped, serviceID⟩

/-- The event with another spelling of the kind of its regarding object. -/
def spelled (ev : K8sEvent) (kind : String) : K8sEvent :=
  { ev with regarding := { ev.regarding with kind := kind } }

/-- The event with another spelling of the kind of its involved object. -/
def spelledCore (ev : CoreEvent) (kind : String) : CoreEvent :=
  { ev with involvedObject := { ev.involvedObject with kind := kind } }

theorem reported_fromK8sEvent (rt : Runtime) (reader : Reader) (seq : ℕ) (ev : K8sEvent)
    (kind : String) :
    reported (fromK8sEvent rt reader seq (spelled ev kind)) =
      mappedIdentity reader ev.reason kind ev.regarding := by
  unfold fromK8sEvent mappedIdentity serviceIdentity
  by_cases hreason : ev.reason = ""
  · have hunmapped : matchReason "" kind = none := rfl
    simp [spelled, hreason, hunmapped, reported, Except.toOption]
  · simp only [spelled, hreason, if_false]
    cases matchReason ev.reason kind with
    | none => rfl
    | some mapped =>
      cases (resolveRef reader kind ev.regarding.namespaceName ev.regarding.name).outcome <;> rfl

theorem reported_fromCoreEvent (rt : Runtime) (reader : Reader) (seq : ℕ) (ev : CoreEvent)
    (kind : String) :
    reported (fromCoreEvent rt reader seq (spelledCore ev kind)) =
      mappedIdentity reader ev.reason kind ev.involvedObject := by
  unfold fromCoreEvent mappedIdentity serviceIdentity
  by_cases hreason : ev.reason = ""
  · have hunmapped : matchReason "" kind = none := rfl
    simp [spelledCore, hreason, hunmapped, reported, Except.toOption]
  · simp only [spelledCore, hreason, if_false]
    cases matchReason ev.reason kind with
    | none => rfl
    | some mapped =>
      cases (resolveRef reader kind ev.involvedObject.namespaceName
        ev.involvedObject.name).outcome <;> rfl

/-! ### When the spelling matters -/

/-- The spelling does not matter: the mapper returns the same identity under both, and an event it
maps on a Pod goes under the service id the resolver finds for the Pod. -/
structure SpellingImmaterial (reader : Reader) (ref : ObjectReference)
    (outcome : String → Except String (Option Event)) (first second : String) : Prop where
  same : reported (outcome first) = reported (outcome second)
  attributed : ∀ kind, kind = first ∨ kind = second → equalFold "Pod" kind = true →
    ∀ ev, outcome kind = .ok (some ev) → serviceIdentity reader "Pod" ref = .ok ev.serviceID

/-- A mapped event on a Pod whose kind is not spelled `Pod` in both, where the resolver does not
give the Pod its own name. -/
structure MisreadPod (reader : Reader) (reason : String) (ref : ObjectReference)
    (first second : String) : Prop where
  mapped : (matchReason reason first).isSome = true
  pod : equalFold "Pod" first = true
  respelled : first ≠ "Pod" ∨ second ≠ "Pod"
  owned : serviceIdentity reader "Pod" ref ≠ .ok ref.name

theorem reported_eq_some {outcome : Except String (Option Event)} {identity : EventIdentity} :
    reported outcome = some (some identity) ↔
      ∃ ev, outcome = .ok (some ev) ∧ (⟨ev.kind, ev.severity, ev.serviceID⟩ : EventIdentity) =
        identity := by
  cases outcome with
  | error text => simp [reported, Except.toOption]
  | ok result => cases result <;> simp [reported, Except.toOption]

theorem mappedIdentity_eq_some {reader : Reader} {reason kind : String} {ref : ObjectReference}
    {identity : EventIdentity} :
    mappedIdentity reader reason kind ref = some (some identity) ↔
      ∃ mapped, matchReason reason kind = some mapped ∧ identity.kind = mapped ∧
        identity.severity = severityForKind mapped ∧
        serviceIdentity reader kind ref = .ok identity.serviceID := by
  obtain ⟨eventKind, severity, serviceID⟩ := identity
  unfold mappedIdentity
  cases matchReason reason kind with
  | none => simp
  | some mapped =>
    cases serviceIdentity reader kind ref with
    | error text => simp [Except.toOption]
    | ok found =>
      simp only [Except.toOption, Option.map_some, Option.some.injEq, EventIdentity.mk.injEq,
        Except.ok.injEq]
      constructor
      · rintro ⟨rfl, rfl, rfl⟩
        exact ⟨_, rfl, rfl, rfl, rfl⟩
      · rintro ⟨_, rfl, rfl, rfl, rfl⟩
        exact ⟨rfl, rfl, rfl⟩

section Spellings

variable {reader : Reader} {reason : String} {ref : ObjectReference} {first second kind : String}
variable {outcome : String → Except String (Option Event)}
variable (houtcome : ∀ kind, reported (outcome kind) = mappedIdentity reader reason kind ref)

theorem SameKind.eq_first (hsame : SameKind first second) (reason : String)
    (hkind : kind = first ∨ kind = second) :
    matchReason reason kind = matchReason reason first ∧
      equalFold "Pod" kind = equalFold "Pod" first := by
  rcases hkind with rfl | rfl
  · exact ⟨rfl, rfl⟩
  · exact ⟨(hsame reason).symm, hsame.equalFold_pod.symm⟩

include houtcome in
/-- The spelling the resolver does not know is mapped under the name of the Pod. -/
theorem MisreadPod.not_immaterial (hmisread : MisreadPod reader reason ref first second)
    (hsame : SameKind first second) : ¬ SpellingImmaterial reader ref outcome first second := by
  intro himmaterial
  obtain ⟨mapped, hmapped⟩ := Option.isSome_iff_exists.mp hmisread.mapped
  obtain ⟨kind, hkind, hrespelled⟩ : ∃ kind, (kind = first ∨ kind = second) ∧ kind ≠ "Pod" := by
    rcases hmisread.respelled with hfirst | hsecond
    · exact ⟨first, .inl rfl, hfirst⟩
    · exact ⟨second, .inr rfl, hsecond⟩
  obtain ⟨hreason, hfold⟩ := hsame.eq_first reason hkind
  have hpod : equalFold "Pod" kind = true := hfold.trans hmisread.pod
  have hidentity : reported (outcome kind) =
      some (some ⟨mapped, severityForKind mapped, ref.name⟩) := by
    rw [houtcome, mappedIdentity_eq_some]
    exact ⟨mapped, hreason.trans hmapped, rfl, rfl,
      serviceIdentity_pod_respelled reader ref hpod hrespelled⟩
  obtain ⟨ev, hev, hfields⟩ := reported_eq_some.mp hidentity
  have hname : ev.serviceID = ref.name := congrArg EventIdentity.serviceID hfields
  have hattributed := himmaterial.attributed kind hkind hpod ev hev
  rw [hname] at hattributed
  exact hmisread.owned hattributed

variable (hread : ¬ MisreadPod reader reason ref first second) (hsame : SameKind first second)

include hread hsame

/-- Under either spelling a mapped event on a Pod gets what the resolver gives under `Pod`. -/
theorem serviceIdentity_pod (hkind : kind = first ∨ kind = second)
    (hmapped : (matchReason reason kind).isSome = true) (hpod : equalFold "Pod" kind = true) :
    serviceIdentity reader kind ref = serviceIdentity reader "Pod" ref := by
  obtain ⟨hreason, hfold⟩ := hsame.eq_first reason hkind
  by_cases hexact : kind = "Pod"
  · rw [hexact]
  · rw [serviceIdentity_pod_respelled reader ref hpod hexact]
    by_contra howned
    refine hread ⟨hreason ▸ hmapped, hfold ▸ hpod, ?_, fun hsome ↦ howned hsome.symm⟩
    rcases hkind with rfl | rfl
    · exact .inl hexact
    · exact .inr hexact

/-- A reason is only mapped on a Pod or a Node, and for a Node the spelling never matters. -/
theorem serviceIdentity_agree {mapped : Kind} (hmatch : matchReason reason first = some mapped) :
    serviceIdentity reader first ref = serviceIdentity reader second ref := by
  have hmapped : ∀ kind, kind = first ∨ kind = second → matchReason reason kind = some mapped :=
    fun kind hkind ↦ (hsame.eq_first reason hkind).1.trans hmatch
  cases hpod : equalFold "Pod" first with
  | true =>
    have hfirst : (matchReason reason first).isSome = true := by rw [hmatch]; rfl
    have hsecond : (matchReason reason second).isSome = true := by
      rw [hmapped second (.inr rfl)]
      rfl
    rw [serviceIdentity_pod hread hsame (.inl rfl) hfirst hpod,
      serviceIdentity_pod hread hsame (.inr rfl) hsecond (hsame.equalFold_pod ▸ hpod)]
  | false =>
    have hnode : ∀ kind, kind = first ∨ kind = second → equalFold "Node" kind = true := by
      intro kind hkind
      refine (equalFold_of_matchReason (hmapped kind hkind)).resolve_left ?_
      rw [(hsame.eq_first reason hkind).2, hpod]
      exact Bool.false_ne_true
    rw [serviceIdentity_node reader ref (hnode first (.inl rfl)),
      serviceIdentity_node reader ref (hnode second (.inr rfl))]

omit hread

include houtcome

/-- The condition for one mapper, by the identity it returns. -/
theorem spellingImmaterial_iff :
    SpellingImmaterial reader ref outcome first second ↔
      ¬ MisreadPod reader reason ref first second := by
  constructor
  · intro himmaterial hmisread
    exact hmisread.not_immaterial houtcome hsame himmaterial
  · intro hread
    constructor
    · rw [houtcome, houtcome]
      unfold mappedIdentity
      rw [← hsame reason]
      cases hmatch : matchReason reason first with
      | none => rfl
      | some mapped => rw [serviceIdentity_agree hread hsame hmatch]
    · intro kind hkind hpod ev hev
      have hreported := houtcome kind
      rw [hev] at hreported
      obtain ⟨mapped, hmatch, -, -, hserviceID⟩ := mappedIdentity_eq_some.mp hreported.symm
      rw [← serviceIdentity_pod hread hsame hkind (by rw [hmatch]; rfl) hpod, hserviceID]

end Spellings

/-- For every event of either type, every store and any two spellings the reason table does not tell
apart, the spelling of the kind is immaterial exactly when the event is not one of a Pod that is
misread. -/
theorem kind_spelling_iff (rt : Runtime) (reader : Reader) (seq : ℕ) (ev : K8sEvent)
    (core : CoreEvent) {first second : String} (hsame : SameKind first second) :
    (SpellingImmaterial reader ev.regarding
        (fun kind ↦ fromK8sEvent rt reader seq (spelled ev kind)) first second ↔
      ¬ MisreadPod reader ev.reason ev.regarding first second) ∧
    (SpellingImmaterial reader core.involvedObject
        (fun kind ↦ fromCoreEvent rt reader seq (spelledCore core kind)) first second ↔
      ¬ MisreadPod reader core.reason core.involvedObject first second) :=
  ⟨spellingImmaterial_iff (reported_fromK8sEvent rt reader seq ev) hsame,
    spellingImmaterial_iff (reported_fromCoreEvent rt reader seq core) hsame⟩

/-- A crash loop of the Pod of the payments Deployment. -/
def podBackOff : CoreEvent where
  reason := "BackOff"
  involvedObject := { kind := "Pod", namespaceName := "prod", name := "api-7f-x" }

/-- A crash loop of a Pod that is gone is reported under its name in any spelling. -/
theorem kind_spelling_iff_gone :
    reported (fromCoreEvent ⟨fun _ ↦ 1, fun _ ↦ "evt"⟩ Reader.empty 0
      (spelledCore podBackOff "Pod")) =
    reported (fromCoreEvent ⟨fun _ ↦ 1, fun _ ↦ "evt"⟩ Reader.empty 0
      (spelledCore podBackOff "POD")) := by
  have hsame : SameKind "Pod" "POD" := sameKind_of_fold (by decide)
  have hiff := (kind_spelling_iff ⟨fun _ ↦ 1, fun _ ↦ "evt"⟩ Reader.empty 0 podBackOff.project
    podBackOff hsame).2
  exact (hiff.mpr fun hmisread ↦ hmisread.owned rfl).same

/-- The same crash loop, spelled `pod`, is mapped and goes under the name of the Pod, where the
resolver knows the service of its Deployment. -/
theorem respelled_pod_loses_owner :
    SameKind "Pod" "pod" ∧
    reported (fromCoreEvent ⟨fun _ ↦ 1, fun _ ↦ "evt"⟩ paymentsStore.toReader 0
      (spelledCore podBackOff "Pod")) = some (some ⟨.k8sPodCrash, .error, "payments"⟩) ∧
    reported (fromCoreEvent ⟨fun _ ↦ 1, fun _ ↦ "evt"⟩ paymentsStore.toReader 0
      (spelledCore podBackOff "pod")) = some (some ⟨.k8sPodCrash, .error, "api-7f-x"⟩) ∧
    reported (fromK8sEvent ⟨fun _ ↦ 1, fun _ ↦ "evt"⟩ paymentsStore.toReader 0
      (spelled podBackOff.project "Pod")) = some (some ⟨.k8sPodCrash, .error, "payments"⟩) ∧
    reported (fromK8sEvent ⟨fun _ ↦ 1, fun _ ↦ "evt"⟩ paymentsStore.toReader 0
      (spelled podBackOff.project "pod")) = some (some ⟨.k8sPodCrash, .error, "api-7f-x"⟩) := by
  exact ⟨sameKind_of_fold (by decide), by decide, by decide, by decide, by decide⟩

end IncidentaryOperator.Mapper
