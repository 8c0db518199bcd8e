import IncidentaryOperator.Foundation.Edges
import IncidentaryOperator.Mapper.Dispatch

/-!
# What a notification emits

One specification for each mapper function: which events it returns, under which conditions on the
two snapshots and on the resolver. The statements about all events of `Dispatch` are proved from
these and never unfold a mapper function again.

The functions that may return several events build them one after the other and number them as they
go. `numbered` is that pattern: a list of builders, each given the number of its event. It separates
what is emitted, a list of builders that depends on the snapshots alone, from the ids and the clock.
-/

set_option autoImplicit false
set_option relaxedAutoImplicit false

namespace IncidentaryOperator.Mapper

open Foundation WireFormat Kubernetes Identity

/-! ### Lists of builders -/

/-- The events of a list of builders, numbered from `seq` on. -/
def numbered (seq : ℕ) (builds : List (ℕ → Event)) : List Event :=
  builds.mapIdx fun index build ↦ build (seq + index)

@[simp] theorem numbered_nil (seq : ℕ) : numbered seq [] = [] :=
  rfl

@[simp] theorem numbered_singleton (seq : ℕ) (build : ℕ → Event) :
    numbered seq [build] = [build seq] :=
  rfl

@[simp] theorem length_numbered (seq : ℕ) (builds : List (ℕ → Event)) :
    (numbered seq builds).length = builds.length :=
  List.length_mapIdx

/-- Appending builders numbers the later ones after the earlier ones. -/
theorem numbered_append (seq : ℕ) (first second : List (ℕ → Event)) :
    numbered seq (first ++ second) =
      numbered seq first ++ numbered (seq + first.length) second := by
  have hshift : ∀ index, seq + (index + first.length) = seq + first.length + index := by
    intro index
    omega
  simp only [numbered, List.mapIdx_append, hshift]

/-- One more event at the end of the list. -/
theorem numbered_concat (seq : ℕ) (builds : List (ℕ → Event)) (build : ℕ → Event) :
    numbered seq (builds ++ [build]) =
      numbered seq builds ++ [build (seq + (numbered seq builds).length)] := by
  rw [numbered_append, numbered_singleton, length_numbered]

/-- A field that does not depend on the number of an event is read off what the events are built
from. -/
theorem map_numbered_map {Item Field : Type} {build : Item → ℕ → Event} {field : Event → Field}
    {ofItem : Item → Field} (hnumber : ∀ item number, field (build item number) = ofItem item)
    (seq : ℕ) (items : List Item) :
    (numbered seq (items.map build)).map field = items.map ofItem := by
  induction items generalizing seq with
  | nil => rfl
  | cons item rest ih =>
    rw [List.map_cons, ← List.singleton_append, numbered_append, List.map_append, ih,
      numbered_singleton, List.map_singleton, hnumber, List.singleton_append, List.map_cons]

/-- An event of the list is built by one of the builders. -/
theorem mem_numbered {seq : ℕ} {builds : List (ℕ → Event)} {ev : Event} :
    ev ∈ numbered seq builds ↔ ∃ index, ∃ h : index < builds.length,
      builds[index] (seq + index) = ev :=
  List.mem_mapIdx

/-- A property that does not depend on the number of an event holds of all events when it holds of
all builders. -/
theorem forall_mem_numbered {property : Event → Prop} {seq : ℕ} {builds : List (ℕ → Event)}
    (hnumber : ∀ build ∈ builds, ∀ number, property (build number) ↔ property (build seq)) :
    (∀ ev ∈ numbered seq builds, property ev) ↔ ∀ build ∈ builds, property (build seq) := by
  constructor
  · intro hall build hmem
    obtain ⟨index, hindex, rfl⟩ := List.mem_iff_getElem.mp hmem
    exact (hnumber _ hmem _).mp (hall _ (mem_numbered.mpr ⟨index, hindex, rfl⟩))
  · intro hall ev hev
    obtain ⟨index, hindex, rfl⟩ := mem_numbered.mp hev
    exact (hnumber _ (List.getElem_mem hindex) _).mpr (hall _ (List.getElem_mem hindex))

/-- When a property comes to the same for all builders, it holds of all events when it does, or
there is no event. -/
theorem forall_mem_numbered_iff {property : Event → Prop} {value : Prop} {seq : ℕ}
    {builds : List (ℕ → Event)}
    (hvalue : ∀ build ∈ builds, ∀ number, property (build number) ↔ value) :
    (∀ ev ∈ numbered seq builds, property ev) ↔ (builds ≠ [] → value) := by
  rw [forall_mem_numbered fun build hbuild number ↦
    (hvalue build hbuild number).trans (hvalue build hbuild seq).symm]
  constructor
  · intro hall hsome
    obtain ⟨build, hbuild⟩ := List.exists_mem_of_ne_nil builds hsome
    exact (hvalue build hbuild seq).mp (hall build hbuild)
  · intro hholds build hbuild
    exact (hvalue build hbuild seq).mpr (hholds (List.ne_nil_of_mem hbuild))

/-- When all builders give a field one value, a property of the field holds of all events when it
holds of that value, or there is no event. -/
theorem forall_mem_numbered_const {Field : Type} {field : Event → Field} {value : Field}
    (property : Field → Prop) {seq : ℕ} {builds : List (ℕ → Event)}
    (hfield : ∀ build ∈ builds, ∀ number, field (build number) = value) :
    (∀ ev ∈ numbered seq builds, property (field ev)) ↔ (builds ≠ [] → property value) := by
  apply forall_mem_numbered_iff
  intro build hbuild number
  rw [hfield build hbuild number]

/-- The guarded append of the change functions adds a builder. -/
theorem appendWhen_numbered (holds : Bool) (build : ℕ → Event) (seq : ℕ)
    (builds : List (ℕ → Event)) :
    appendWhen holds build seq (numbered seq builds) =
      numbered seq (builds ++ if holds then [build] else []) := by
  cases holds with
  | true => exact (numbered_concat seq builds build).symm
  | false => simp [appendWhen]

/-! ### Returned events -/

@[simp] theorem returned_ok (events : List Event) : returned (.ok events) = events :=
  rfl

@[simp] theorem returned_error (text : String) : returned (.error text) = [] :=
  rfl

/-- The event of a function with at most one. -/
theorem mem_returned_toList {outcome : Except String (Option Event)} {ev : Event} :
    ev ∈ returned (outcome.map Option.toList) ↔ outcome = .ok (some ev) := by
  cases outcome with
  | error text => simp [Except.map]
  | ok result => simp [Except.map]

/-- The workload mappers return their events once the service id resolves, and none otherwise. -/
theorem forall_mem_resolved {resolved : Except String String} {wrap : String → String}
    {builds : String → List (ℕ → Event)} {seq : ℕ} {property : Event → Prop} :
    (∀ ev ∈ returned (match resolved with
      | .error text => .error (wrap text)
      | .ok serviceID => .ok (numbered seq (builds serviceID))), property ev) ↔
      ∀ serviceID, resolved = .ok serviceID →
        ∀ ev ∈ numbered seq (builds serviceID), property ev := by
  cases resolved with
  | error text => simp
  | ok serviceID => simp

/-- The events of a workload mapper that returned no error. -/
theorem resolved_eq_ok {resolved : Except String String} {wrap : String → String}
    {builds : String → List (ℕ → Event)} {seq : ℕ} {events : List Event}
    (hevents : (match resolved with
      | .error text => .error (wrap text)
      | .ok serviceID => .ok (numbered seq (builds serviceID))) = Except.ok events) :
    ∃ serviceID, resolved = .ok serviceID ∧ events = numbered seq (builds serviceID) := by
  cases resolved with
  | error text => exact absurd hevents (by simp)
  | ok serviceID => exact ⟨serviceID, rfl, (Except.ok.inj hevents).symm⟩

/-! ### Events of the two event types -/

/-- The two event mappers emit exactly for a mapped reason whose regarding object resolves. -/
theorem mapped_eq_some {reason regardingKind : String} {outcome : Except String Result}
    {wrap : String → String} {build : Kind → Result → Event} {wire : Event} :
    (if reason = "" then Except.ok none
      else
        match matchReason reason regardingKind with
        | none => .ok none
        | some kind =>
          match outcome with
          | .error text => .error (wrap text)
          | .ok res => .ok (some (build kind res))) = .ok (some wire) ↔
      reason ≠ "" ∧ ∃ kind res, matchReason reason regardingKind = some kind ∧
        outcome = .ok res ∧ wire = build kind res := by
  by_cases hreason : reason = ""
  · simp [hreason]
  · simp only [hreason, if_false, ne_eq, not_false_eq_true, true_and]
    cases matchReason reason regardingKind with
    | none => simp
    | some kind =>
      cases outcome with
      | error text => simp
      | ok res => simp [eq_comm]

/-- `FromK8sEvent`, by its regarding object. -/
theorem fromK8sEvent_eq_some {rt : Runtime} {reader : Reader} {seq : ℕ} {ev : K8sEvent}
    {wire : Event} :
    fromK8sEvent rt reader seq ev = .ok (some wire) ↔ ev.reason ≠ "" ∧
      ∃ kind res, matchReason ev.reason ev.regarding.kind = some kind ∧
        (resolveRef reader ev.regarding.kind ev.regarding.namespaceName
          ev.regarding.name).outcome = .ok res ∧
        wire = k8sWireEvent rt seq ev kind res :=
  mapped_eq_some

/-- `FromCoreEvent`, by its involved object. -/
theorem fromCoreEvent_eq_some {rt : Runtime} {reader : Reader} {seq : ℕ} {ev : CoreEvent}
    {wire : Event} :
    fromCoreEvent rt reader seq ev = .ok (some wire) ↔ ev.reason ≠ "" ∧
      ∃ kind res, matchReason ev.reason ev.involvedObject.kind = some kind ∧
        (resolveRef reader ev.involvedObject.kind ev.involvedObject.namespaceName
          ev.involvedObject.name).outcome = .ok res ∧
        wire = coreWireEvent rt seq ev kind res :=
  mapped_eq_some

/-- The reason of a record is mapped for the kind of its object, and the object resolves. -/
def RecordMapped (reader : Reader) (reason : String) (ref : ObjectReference) : Prop :=
  (∃ kind, matchReason reason ref.kind = some kind) ∧
    ∃ res, (resolveRef reader ref.kind ref.namespaceName ref.name).outcome = .ok res

/-- The empty reason is not mapped. -/
theorem RecordMapped.reason_ne {reader : Reader} {reason : String} {ref : ObjectReference}
    (hmapped : RecordMapped reader reason ref) : reason ≠ "" := by
  rintro rfl
  obtain ⟨⟨kind, hkind⟩, -⟩ := hmapped
  exact nomatch hkind

/-! ### Nodes -/

/-- The condition of a type, by its first entry, is true. -/
def conditionTrue (type : String) (n : Node) : Bool :=
  (n.conditions.find? fun cond ↦ cond.type = type).any fun cond ↦ cond.status = "True"

/-- The `Ready` condition, by its first entry, is present and not true. -/
def notReady (n : Node) : Bool :=
  (n.conditions.find? fun cond ↦ cond.type = "Ready").any fun cond ↦ cond.status ≠ "True"

/-- A pressure condition is reported exactly on its rising edges. -/
theorem pressureTransition_isSome (old : Option Node) (n : Node) (type : String) :
    (pressureTransition old n type).isSome = risingEdge (conditionTrue type) (old, n) := by
  unfold pressureTransition findNodeCondition risingEdge conditionTrue
  cases n.conditions.find? fun cond ↦ cond.type = type with
  | none => rfl
  | some cond =>
    cases old with
    | none => by_cases htrue : cond.status = "True" <;> simp [htrue]
    | some before =>
      cases hbefore : before.conditions.find? fun cond ↦ cond.type = type with
      | none => by_cases htrue : cond.status = "True" <;> simp [hbefore, htrue]
      | some oldCond =>
        by_cases htrue : cond.status = "True" <;> by_cases hold : oldCond.status = "True" <;>
          simp [hbefore, htrue, hold]

/-- Readiness is reported exactly when a node becomes not ready. -/
theorem notReadyTransition_isSome (old : Option Node) (n : Node) :
    (notReadyTransition old n).isSome = risingEdge notReady (old, n) := by
  unfold notReadyTransition findNodeCondition risingEdge notReady
  cases n.conditions.find? fun cond ↦ cond.type = "Ready" with
  | none => rfl
  | some cond =>
    cases old with
    | none => by_cases htrue : cond.status = "True" <;> simp [htrue]
    | some before =>
      cases hbefore : before.conditions.find? fun cond ↦ cond.type = "Ready" with
      | none => by_cases htrue : cond.status = "True" <;> simp [hbefore, htrue]
      | some oldCond =>
        by_cases htrue : cond.status = "True" <;> by_cases hold : oldCond.status = "True" <;>
          simp [hbefore, htrue, hold]

/-- The conditions a Node notification reports, with their reasons, in order. -/
def nodeTransitions (old : Option Node) (new : Node) : List (String × NodeCondition) :=
  pressureConditions.filterMap (fun type ↦ (pressureTransition old new type).map fun cond ↦
    (type, cond)) ++
  ((notReadyTransition old new).map fun cond ↦ ("NotReady", cond)).toList

/-- The builder of the event of a reported condition. -/
def nodeBuild (rt : Runtime) (new : Node) (transition : String × NodeCondition) : ℕ → Event :=
  fun number ↦ nodePressureEvent rt number new transition.1 transition.2

/-- The pressure loop collects the conditions that turned true. -/
theorem foldl_pressurePass (rt : Runtime) (seq : ℕ) (old : Option Node) (new : Node)
    (types : List String) (builds : List (ℕ → Event)) :
    types.foldl (pressurePass rt seq old new) (numbered seq builds) =
      numbered seq (builds ++ (types.filterMap fun type ↦
        (pressureTransition old new type).map fun cond ↦ (type, cond)).map (nodeBuild rt new)) := by
  induction types generalizing builds with
  | nil => simp
  | cons type rest ih =>
    rw [List.foldl_cons]
    cases htransition : pressureTransition old new type with
    | none =>
      have hpass : pressurePass rt seq old new (numbered seq builds) type =
          numbered seq builds := by
        simp [pressurePass, htransition]
      rw [hpass, ih, List.filterMap_cons_none (by simp [htransition])]
    | some cond =>
      have hpass : pressurePass rt seq old new (numbered seq builds) type =
          numbered seq (builds ++ [nodeBuild rt new (type, cond)]) := by
        rw [numbered_concat]
        simp [pressurePass, htransition, nodeBuild]
      rw [hpass, ih, List.filterMap_cons_some (by simp [htransition]; rfl), List.map_cons,
        List.append_assoc, List.singleton_append]

/-- `FromNodeConditionChange` reports the transitions in order. -/
theorem fromNodeConditionChange_eq (rt : Runtime) (seq : ℕ) (old : Option Node) (new : Node) :
    fromNodeConditionChange rt seq old new =
      numbered seq ((nodeTransitions old new).map (nodeBuild rt new)) := by
  have hloop := foldl_pressurePass rt seq old new pressureConditions []
  rw [numbered_nil, List.nil_append] at hloop
  unfold fromNodeConditionChange nodeTransitions
  rw [hloop, List.map_append]
  cases hready : notReadyTransition old new with
  | none => simp
  | some cond =>
    simp only [Option.map_some, Option.toList_some, List.map_cons, List.map_nil]
    rw [numbered_concat]
    rfl

/-! ### Autoscalers -/

/-- `FromHPAScale` emits exactly when the replica count changed since the old snapshot. -/
theorem fromHPAScale_eq_some {rt : Runtime} {seq : ℕ} {old : Option HorizontalPodAutoscaler}
    {n : HorizontalPodAutoscaler} {wire : Event} :
    fromHPAScale rt seq old n = some wire ↔ ∃ before, old = some before ∧
      before.currentReplicas ≠ n.currentReplicas ∧ wire = hpaScaleEvent rt seq before n := by
  cases old with
  | none => simp [fromHPAScale]
  | some before =>
    simp only [fromHPAScale, Option.some.injEq, exists_eq_left']
    split_ifs with hsame
    · simp [hsame]
    · simp [hsame, eq_comm]

/-! ### Pods -/

/-- The phase of the old snapshot of a Pod, empty when there is none. -/
def podPhase (old : Option Pod) : String :=
  (old.map Pod.phase).getD ""

/-- `FromPodStatusChange` emits exactly when the phase changed to a reported one and the Pod
resolves. -/
theorem mem_fromPodStatusChange {rt : Runtime} {reader : Reader} {seq : ℕ} {old : Option Pod}
    {n : Pod} {wire : Event} :
    wire ∈ returned (fromPodStatusChange rt reader seq old n) ↔ podPhase old ≠ n.phase ∧
      ∃ kind reason res, podTransition n = some (kind, reason) ∧
        (resolve reader (.pod n)).outcome = .ok res ∧
        wire = podLifecycleEvent rt seq n kind reason res := by
  unfold fromPodStatusChange
  by_cases hphase : podPhase old = n.phase
  · have hsame : (old.map Pod.phase).getD "" = n.phase := hphase
    simp [hsame, hphase]
  · have hdiffers : (old.map Pod.phase).getD "" ≠ n.phase := hphase
    simp only [hdiffers, if_false, ne_eq, hphase, not_false_eq_true, true_and]
    cases htransition : podTransition n with
    | none => simp
    | some found =>
      obtain ⟨kind, reason⟩ := found
      cases hres : (resolve reader (.pod n)).outcome with
      | error text => simp [buildPodLifecycleEvent, hres, Except.map]
      | ok res => simp [buildPodLifecycleEvent, hres, Except.map]

/-! ### Deployments -/

/-- The rollout status of the old snapshot of a Deployment, empty when there is none. -/
def rolloutStatus (old : Option Deployment) : String :=
  (old.map deploymentRolloutStatus).getD ""

/-- The identity of a Deployment in hand always resolves. -/
theorem resolve_deployment_outcome (reader : Reader) (n : Deployment) :
    (resolve reader (.deployment n)).outcome =
      .ok (resolveFromWorkload "Deployment" n.metadata.name n.metadata.namespaceName
        n.metadata.annotations) :=
  rfl

/-- The service id of a rollout event. -/
def rolloutServiceID (n : Deployment) : String :=
  fallbackServiceID (resolveFromWorkload "Deployment" n.metadata.name n.metadata.namespaceName
    n.metadata.annotations) n.metadata.name

/-- The builders of `FromDeploymentRollout`: one when the rollout status changed. -/
def rolloutBuilds (rt : Runtime) (old : Option Deployment) (n : Deployment) : List (ℕ → Event) :=
  if deploymentRolloutStatus n = rolloutStatus old then []
  else [fun number ↦ rolloutEvent rt number n (deploymentRolloutStatus n) (rolloutServiceID n)]

/-- A rollout event is emitted for a change of the rollout status. -/
theorem rolloutBuilds_ne_nil {rt : Runtime} {old : Option Deployment} {n : Deployment} :
    rolloutBuilds rt old n ≠ [] ↔ deploymentRolloutStatus n ≠ rolloutStatus old := by
  unfold rolloutBuilds
  split_ifs with hsame <;> simp [hsame]

/-- `FromDeploymentRollout` never fails, and reports a change of the rollout status. -/
theorem fromDeploymentRollout_eq (rt : Runtime) (reader : Reader) (seq : ℕ)
    (old : Option Deployment) (n : Deployment) :
    fromDeploymentRollout rt reader seq old n = .ok (numbered seq (rolloutBuilds rt old n)) := by
  unfold fromDeploymentRollout rolloutBuilds rolloutStatus
  simp only [resolve_deployment_outcome]
  split_ifs with hsame
  · rfl
  · rfl

/-- An annotation of the old snapshot of a Deployment, empty when there is none. -/
def annotationBefore (old : Option Deployment) (key : String) : String :=
  (old.map fun d ↦ d.metadata.annotations.at key).getD ""

/-- The notification is reported as a rollback. -/
def rolledBack (old : Option Deployment) (n : Deployment) : Bool :=
  isRollback (annotationBefore old revisionAnnotation)
    (n.metadata.annotations.at revisionAnnotation)
    (annotationBefore old changeCauseAnnotation) (n.metadata.annotations.at changeCauseAnnotation)

/-- The outcomes other than a rollback a Deployment notification reports, with their reasons, in
order. -/
def deployOutcomes (old : Option Deployment) (n : Deployment) : List (Kind × String) :=
  (if isDeployStarted old n (annotationBefore old revisionAnnotation)
      (n.metadata.annotations.at revisionAnnotation) then [(.deployStarted, "Started")] else []) ++
  (if isDeploySucceeded old n then [(.deploySucceeded, "Succeeded")] else []) ++
  (if isDeployFailed old n then [(.deployFailed, reasonProgressDeadlineExceeded)] else []) ++
  (if isDeployCancelled old n then [(.deployCancelled, "ScaleToZero")] else [])

/-- The event of a rollback. -/
def rolledBackEvent (rt : Runtime) (old : Option Deployment) (n : Deployment) (serviceID : String)
    (seq : ℕ) : Event :=
  buildDeployEvent rt seq n.metadata serviceID .deployRolledBack "RolledBack"
    (deploymentOccurredAt n)
    [("k8s.rollout.revision", revisionAttr (n.metadata.annotations.at revisionAnnotation)),
     ("k8s.rollout.prev_revision", revisionAttr (annotationBefore old revisionAnnotation)),
     ("k8s.rollout.change_cause", .str (n.metadata.annotations.at changeCauseAnnotation))]

/-- The builders of `FromDeploymentChange`. -/
def lifecycleBuilds (rt : Runtime) (old : Option Deployment) (n : Deployment) (serviceID : String) :
    List (ℕ → Event) :=
  if rolledBack old n then [rolledBackEvent rt old n serviceID]
  else (deployOutcomes old n).map fun outcome ↦
    deploymentEvent rt n serviceID outcome.1 outcome.2

/-- A lifecycle event is emitted for a rollback and for any other outcome. -/
theorem lifecycleBuilds_ne_nil {rt : Runtime} {old : Option Deployment} {n : Deployment}
    {serviceID : String} : lifecycleBuilds rt old n serviceID ≠ [] ↔
      rolledBack old n = true ∨ deployOutcomes old n ≠ [] := by
  unfold lifecycleBuilds
  split_ifs with hrollback <;> simp [hrollback]

theorem domain_deployOutcomes {old : Option Deployment} {n : Deployment} :
    ∀ outcome ∈ deployOutcomes old n, outcome.1.domain = .deployment := by
  unfold deployOutcomes
  simp only [List.forall_mem_append]
  refine ⟨⟨⟨?_, ?_⟩, ?_⟩, ?_⟩ <;> split_ifs <;> simp <;> decide

/-- Lifecycle events are of the deployment domain. -/
theorem domain_lifecycleBuilds {rt : Runtime} {old : Option Deployment} {n : Deployment}
    {serviceID : String} : ∀ build ∈ lifecycleBuilds rt old n serviceID, ∀ number,
      (build number).kind.domain = .deployment := by
  unfold lifecycleBuilds
  split_ifs with hrollback
  · intro build hbuild number
    rw [List.mem_singleton.mp hbuild]
    exact (by decide : Kind.deployRolledBack.domain = .deployment)
  · simp only [List.forall_mem_map]
    intro outcome houtcome number
    exact domain_deployOutcomes outcome houtcome

/-- `FromDeploymentChange` reports a rollback alone, or else the other outcomes in order. -/
theorem fromDeploymentChange_eq (rt : Runtime) (reader : Reader) (seq : ℕ)
    (old : Option Deployment) (n : Deployment) :
    fromDeploymentChange rt reader seq old n =
      match resolveWorkloadServiceID reader "Deployment" n.metadata.namespaceName
        n.metadata.name with
      | .error text => .error s!"mapper.FromDeploymentChange: {text}"
      | .ok serviceID => .ok (numbered seq (lifecycleBuilds rt old n serviceID)) := by
  unfold fromDeploymentChange
  cases resolveWorkloadServiceID reader "Deployment" n.metadata.namespaceName n.metadata.name with
  | error text => rfl
  | ok serviceID =>
    by_cases hrollback : rolledBack old n = true
    · have hsource : isRollback (annotationBefore old revisionAnnotation)
          (n.metadata.annotations.at revisionAnnotation)
          (annotationBefore old changeCauseAnnotation)
          (n.metadata.annotations.at changeCauseAnnotation) = true := hrollback
      simp only [annotationBefore] at hsource
      simp only [hsource, if_true, lifecycleBuilds, hrollback, numbered_singleton]
      rfl
    · have hsource : ¬ isRollback (annotationBefore old revisionAnnotation)
          (n.metadata.annotations.at revisionAnnotation)
          (annotationBefore old changeCauseAnnotation)
          (n.metadata.annotations.at changeCauseAnnotation) = true := hrollback
      simp only [annotationBefore] at hsource
      simp only [hsource, lifecycleBuilds, hrollback, Bool.false_eq_true, if_false]
      rw [← numbered_nil seq]
      simp only [appendWhen_numbered, deployOutcomes, List.map_append, List.nil_append]
      simp only [apply_ite (List.map _), List.map_cons, List.map_nil]
      rfl

/-- A Deployment notification reports the change of the rollout status and then the lifecycle
outcomes, when the Deployment resolves. -/
theorem dispatchDeployment_eq (rt : Runtime) (reader : Reader) (seq : ℕ) (old : Option Deployment)
    (n : Deployment) :
    dispatchDeployment rt reader seq old n =
      match resolveWorkloadServiceID reader "Deployment" n.metadata.namespaceName
        n.metadata.name with
      | .error text => .error s!"mapper.FromDeploymentChange: {text}"
      | .ok serviceID =>
        .ok (numbered seq (rolloutBuilds rt old n ++ lifecycleBuilds rt old n serviceID)) := by
  unfold dispatchDeployment
  rw [fromDeploymentRollout_eq]
  dsimp only
  rw [fromDeploymentChange_eq]
  cases resolveWorkloadServiceID reader "Deployment" n.metadata.namespaceName n.metadata.name with
  | error text => rfl
  | ok serviceID =>
    dsimp only
    rw [numbered_append, length_numbered]

/-- A rollout is in progress: `Progressing` is true for another reason than a finished rollout. -/
def isMidRollout (d : Deployment) : Bool :=
  (progressingCondition d).any fun progressing ↦
    progressing.status = "True" && progressing.reason ≠ reasonNewReplicaSetAvailable

/-- The last rollout is finished and `Progressing` is still true. -/
def stable (d : Deployment) : Bool :=
  (progressingCondition d).any fun progressing ↦
    progressing.status = "True" && progressing.reason = reasonNewReplicaSetAvailable

/-- `FromDeploymentDelete` emits exactly for a rollout in progress of a Deployment that resolves. -/
theorem fromDeploymentDelete_eq_some {rt : Runtime} {reader : Reader} {seq : ℕ} {d : Deployment}
    {wire : Event} :
    fromDeploymentDelete rt reader seq d = .ok (some wire) ↔ isMidRollout d = true ∧
      ∃ serviceID, resolveWorkloadServiceID reader "Deployment" d.metadata.namespaceName
          d.metadata.name = .ok serviceID ∧
        wire = deploymentEvent rt d serviceID .deployCancelled "DeletedMidRollout" seq := by
  unfold fromDeploymentDelete isMidRollout
  cases progressingCondition d with
  | none => simp
  | some progressing =>
    dsimp only
    split_ifs with hstatus hreason
    · simp [hstatus]
    · simp [hreason]
    · cases resolveWorkloadServiceID reader "Deployment" d.metadata.namespaceName
        d.metadata.name with
      | error text => simp
      | ok serviceID =>
        have hrunning : progressing.status = "True" := not_not.mp hstatus
        simp only [Option.any_some, hrunning, hreason, decide_true, ne_eq, not_false_eq_true,
          Bool.and_self, true_and, Except.ok.injEq, Option.some.injEq, exists_eq_left']
        exact eq_comm

/-! ### StatefulSets and DaemonSets -/

/-- A `DEPLOY_*` event of a StatefulSet. -/
def statefulSetEvent (rt : Runtime) (n : StatefulSet) (serviceID : String) (kind : Kind)
    (reason : String) (extra : List (String × AttrValue)) (seq : ℕ) : Event :=
  buildDeployEvent rt seq n.metadata serviceID kind reason
    (timeToUnixNano n.metadata.creationTimestamp) extra

/-- The builders of `FromStatefulSetChange`. -/
def statefulSetBuilds (rt : Runtime) (old : Option StatefulSet) (n : StatefulSet)
    (serviceID : String) : List (ℕ → Event) :=
  (if isStatefulSetStarted old n then
    [statefulSetEvent rt n serviceID .deployStarted "Started"
      [("k8s.rollout.revision", .str n.updateRevision),
       ("k8s.rollout.current", .str n.currentRevision),
       ("k8s.resource.kind", .str "StatefulSet")]] else []) ++
  (if isStatefulSetSucceeded old n then
    [statefulSetEvent rt n serviceID .deploySucceeded "Succeeded"
      [("k8s.rollout.revision", .str n.updateRevision),
       ("k8s.resource.kind", .str "StatefulSet")]] else [])

theorem statefulSetBuilds_ne_nil {rt : Runtime} {old : Option StatefulSet} {n : StatefulSet}
    {serviceID : String} : statefulSetBuilds rt old n serviceID ≠ [] ↔
      isStatefulSetStarted old n = true ∨ isStatefulSetSucceeded old n = true := by
  unfold statefulSetBuilds
  split_ifs with hstarted hsucceeded <;> simp_all

/-- `FromStatefulSetChange` reports its outcomes in order. -/
theorem fromStatefulSetChange_eq (rt : Runtime) (reader : Reader) (seq : ℕ)
    (old : Option StatefulSet) (n : StatefulSet) :
    fromStatefulSetChange rt reader seq old n =
      match resolveWorkloadServiceID reader "StatefulSet" n.metadata.namespaceName
        n.metadata.name with
      | .error text => .error s!"mapper.FromStatefulSetChange: {text}"
      | .ok serviceID => .ok (numbered seq (statefulSetBuilds rt old n serviceID)) := by
  unfold fromStatefulSetChange statefulSetBuilds
  cases resolveWorkloadServiceID reader "StatefulSet" n.metadata.namespaceName n.metadata.name with
  | error text => rfl
  | ok serviceID =>
    dsimp only
    rw [← numbered_nil seq, appendWhen_numbered, appendWhen_numbered, List.nil_append]
    rfl

/-- A `DEPLOY_*` event of a DaemonSet. -/
def daemonSetEvent (rt : Runtime) (n : DaemonSet) (serviceID : String) (kind : Kind)
    (reason : String) (seq : ℕ) : Event :=
  buildDeployEvent rt seq n.metadata serviceID kind reason
    (timeToUnixNano n.metadata.creationTimestamp)
    [("k8s.rollout.generation", .int n.observedGeneration),
     ("k8s.resource.kind", .str "DaemonSet")]

/-- The builders of `FromDaemonSetChange`. -/
def daemonSetBuilds (rt : Runtime) (old : Option DaemonSet) (n : DaemonSet) (serviceID : String) :
    List (ℕ → Event) :=
  (if isDaemonSetStarted old n then [daemonSetEvent rt n serviceID .deployStarted "Started"]
    else []) ++
  (if isDaemonSetSucceeded old n then [daemonSetEvent rt n serviceID .deploySucceeded "Succeeded"]
    else [])

theorem daemonSetBuilds_ne_nil {rt : Runtime} {old : Option DaemonSet} {n : DaemonSet}
    {serviceID : String} : daemonSetBuilds rt old n serviceID ≠ [] ↔
      isDaemonSetStarted old n = true ∨ isDaemonSetSucceeded old n = true := by
  unfold daemonSetBuilds
  split_ifs with hstarted hsucceeded <;> simp_all

/-- `FromDaemonSetChange` reports its outcomes in order. -/
theorem fromDaemonSetChange_eq (rt : Runtime) (reader : Reader) (seq : ℕ)
    (old : Option DaemonSet) (n : DaemonSet) :
    fromDaemonSetChange rt reader seq old n =
      match resolveWorkloadServiceID reader "DaemonSet" n.metadata.namespaceName
        n.metadata.name with
      | .error text => .error s!"mapper.FromDaemonSetChange: {text}"
      | .ok serviceID => .ok (numbered seq (daemonSetBuilds rt old n serviceID)) := by
  unfold fromDaemonSetChange daemonSetBuilds
  cases resolveWorkloadServiceID reader "DaemonSet" n.metadata.namespaceName n.metadata.name with
  | error text => rfl
  | ok serviceID =>
    dsimp only
    rw [← numbered_nil seq, appendWhen_numbered, appendWhen_numbered, List.nil_append]
    rfl

end IncidentaryOperator.Mapper
