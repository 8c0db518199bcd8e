import IncidentaryOperator.Mapper.Emission

/-!
# The ids of a notification's events

Every event gets an id of its own from `ids.NewID` when it is built. The events of one `Dispatch`
have consecutive numbers, so their ids are those of the numbers from `seq` on
(`numberedFrom_dispatch`), whichever mapper function built them.
-/

set_option autoImplicit false
set_option relaxedAutoImplicit false

namespace IncidentaryOperator.Mapper

open Foundation WireFormat Kubernetes Identity

/-- The ids of a list of events are those of consecutive numbers. -/
def NumberedFrom (rt : Runtime) (seq : ℕ) (events : List Event) : Prop :=
  events.map Event.id = (List.range' seq events.length).map rt.newID

variable {rt : Runtime} {seq : ℕ}

theorem numberedFrom_nil : NumberedFrom rt seq [] :=
  rfl

theorem numberedFrom_singleton {event : Event} (hid : event.id = rt.newID seq) :
    NumberedFrom rt seq [event] := by
  simp [NumberedFrom, hid]

/-- Builders that use the number they are given. -/
theorem numberedFrom_numbered {builds : List (ℕ → Event)}
    (hid : ∀ build ∈ builds, ∀ number, (build number).id = rt.newID number) :
    NumberedFrom rt seq (numbered seq builds) := by
  apply List.ext_getElem
  · simp
  · intro index hleft hright
    simp [numbered, hid]

/-- A mapper function with at most one event. -/
theorem numberedFrom_toList {outcome : Except String (Option Event)}
    (hid : ∀ wire, outcome = .ok (some wire) → wire.id = rt.newID seq) :
    NumberedFrom rt seq (returned (outcome.map Option.toList)) := by
  cases outcome with
  | error text => exact numberedFrom_nil
  | ok result =>
    cases result with
    | none => exact numberedFrom_nil
    | some wire => exact numberedFrom_singleton (hid wire rfl)

/-- A mapper function that builds its events once the service id resolves. -/
theorem numberedFrom_resolved {resolved : Except String String} {wrap : String → String}
    {builds : String → List (ℕ → Event)}
    (hid : ∀ serviceID, ∀ build ∈ builds serviceID, ∀ number,
      (build number).id = rt.newID number) :
    NumberedFrom rt seq (returned (match resolved with
      | .error text => .error (wrap text)
      | .ok serviceID => .ok (numbered seq (builds serviceID)))) := by
  cases resolved with
  | error text => exact numberedFrom_nil
  | ok serviceID => exact numberedFrom_numbered (hid serviceID)

theorem numberedFrom_fromPodStatusChange (reader : Reader) (old : Option Pod) (n : Pod) :
    NumberedFrom rt seq (returned (fromPodStatusChange rt reader seq old n)) := by
  unfold fromPodStatusChange
  dsimp only
  split_ifs
  · exact numberedFrom_nil
  · cases podTransition n with
    | none => exact numberedFrom_nil
    | some found =>
      unfold buildPodLifecycleEvent
      cases (resolve reader (.pod n)).outcome with
      | error text => exact numberedFrom_nil
      | ok res => exact numberedFrom_singleton rfl

theorem numberedFrom_dispatchDeployment (reader : Reader) (old : Option Deployment)
    (n : Deployment) :
    NumberedFrom rt seq (returned (dispatchDeployment rt reader seq old n)) := by
  rw [dispatchDeployment_eq]
  refine numberedFrom_resolved fun serviceID ↦ List.forall_mem_append.mpr ⟨?_, ?_⟩
  · unfold rolloutBuilds
    split_ifs
    · simp
    · exact List.forall_mem_singleton.mpr fun number ↦ rfl
  · unfold lifecycleBuilds
    split_ifs
    · exact List.forall_mem_singleton.mpr fun number ↦ rfl
    · exact List.forall_mem_map.mpr fun outcome _ number ↦ rfl

theorem numberedFrom_fromStatefulSetChange (reader : Reader) (old : Option StatefulSet)
    (n : StatefulSet) :
    NumberedFrom rt seq (returned (fromStatefulSetChange rt reader seq old n)) := by
  rw [fromStatefulSetChange_eq]
  refine numberedFrom_resolved fun serviceID ↦ ?_
  unfold statefulSetBuilds
  refine List.forall_mem_append.mpr ⟨?_, ?_⟩ <;> split_ifs <;>
    first
      | exact List.forall_mem_singleton.mpr fun number ↦ rfl
      | simp

theorem numberedFrom_fromDaemonSetChange (reader : Reader) (old : Option DaemonSet)
    (n : DaemonSet) :
    NumberedFrom rt seq (returned (fromDaemonSetChange rt reader seq old n)) := by
  rw [fromDaemonSetChange_eq]
  refine numberedFrom_resolved fun serviceID ↦ ?_
  unfold daemonSetBuilds
  refine List.forall_mem_append.mpr ⟨?_, ?_⟩ <;> split_ifs <;>
    first
      | exact List.forall_mem_singleton.mpr fun number ↦ rfl
      | simp

/-- The events of a `Dispatch` have the ids of the numbers from `seq` on. -/
theorem numberedFrom_dispatch (reader : Reader) (oldObj newObj : Option Object) :
    NumberedFrom rt seq (returned (dispatch rt reader seq oldObj newObj)) := by
  cases newObj with
  | none =>
    cases oldObj with
    | none => exact numberedFrom_nil
    | some old =>
      cases old with
      | deployment d =>
        refine numberedFrom_toList fun wire hwire ↦ ?_
        obtain ⟨-, serviceID, -, rfl⟩ := fromDeploymentDelete_eq_some.mp hwire
        rfl
      | _ => exact numberedFrom_nil
  | some new =>
    cases new with
    | k8sEvent ev =>
      refine numberedFrom_toList fun wire hwire ↦ ?_
      obtain ⟨-, kind, res, -, -, rfl⟩ := fromK8sEvent_eq_some.mp hwire
      rfl
    | coreEvent ev =>
      refine numberedFrom_toList fun wire hwire ↦ ?_
      obtain ⟨-, kind, res, -, -, rfl⟩ := fromCoreEvent_eq_some.mp hwire
      rfl
    | node n =>
      have hnode : returned (dispatch rt reader seq oldObj (some (.node n))) =
          numbered seq ((nodeTransitions (oldObj.bind asNode) n).map (nodeBuild rt n)) :=
        fromNodeConditionChange_eq rt seq (oldObj.bind asNode) n
      rw [hnode]
      exact numberedFrom_numbered (List.forall_mem_map.mpr fun transition _ number ↦ rfl)
    | pod n => exact numberedFrom_fromPodStatusChange reader _ n
    | hpa n =>
      have hhpa : returned (dispatch rt reader seq oldObj (some (.hpa n))) =
          (fromHPAScale rt seq (oldObj.bind asHPA) n).toList :=
        rfl
      rw [hhpa]
      cases hscale : fromHPAScale rt seq (oldObj.bind asHPA) n with
      | none => exact numberedFrom_nil
      | some wire =>
        obtain ⟨before, -, -, rfl⟩ := fromHPAScale_eq_some.mp hscale
        exact numberedFrom_singleton rfl
    | deployment n => exact numberedFrom_dispatchDeployment reader _ n
    | statefulSet n => exact numberedFrom_fromStatefulSetChange reader _ n
    | daemonSet n => exact numberedFrom_fromDaemonSetChange reader _ n
    | replicaSet n => exact numberedFrom_nil
    | other metadata => exact numberedFrom_nil

end IncidentaryOperator.Mapper
