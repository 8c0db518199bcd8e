import IncidentaryOperator.Mapper.EdgeTriggering
import IncidentaryOperator.Mapper.ResyncSilence

/-!
# Completed rollouts of Deployments

A rollout is complete when four fields have reached their final values: the status of `Available`,
the reason of `Progressing`, and the counts of updated and of ready replicas. `isDeploySucceeded`
tests all four in the new snapshot and only the reason in the old one. The fields may arrive in any
number of updates, and the completion is reported exactly when the reason is among the last of them
(`completed_rollout_reported_iff`): when a scale change or a late count comes after the reason, the
rollout completes unreported.
-/

set_option autoImplicit false
set_option relaxedAutoImplicit false

namespace IncidentaryOperator.Mapper

open Foundation WireFormat Kubernetes Identity

/-- The rollout of a Deployment is complete. -/
def rolloutComplete (d : Deployment) : Bool :=
  (findDeploymentCondition d.conditions "Available").any (·.status = "True") &&
    (progressingCondition d).any (·.reason = reasonNewReplicaSetAvailable) &&
    d.updatedReplicas = specReplicas d.replicas && d.readyReplicas = specReplicas d.replicas

/-- A completion is reported when the old snapshot had another reason. -/
theorem isDeploySucceeded_update (before n : Deployment) :
    isDeploySucceeded (some before) n =
      (rolloutComplete n && !alreadyProgressing before reasonNewReplicaSetAvailable) := by
  unfold isDeploySucceeded rolloutComplete
  cases findDeploymentCondition n.conditions "Available" with
  | none => rfl
  | some available =>
    by_cases havailable : available.status = "True"
    · cases progressingCondition n with
      | none => simp [havailable]
      | some progressing =>
        by_cases hreason : progressing.reason = reasonNewReplicaSetAvailable
        · by_cases hupdated : n.updatedReplicas = specReplicas n.replicas <;>
            by_cases hready : n.readyReplicas = specReplicas n.replicas <;>
            simp [havailable, hreason, hupdated, hready]
        · simp [havailable, hreason]
    · simp [havailable]

/-- Without a new revision or change cause an update is no rollback. -/
theorem rolledBack_of_same_annotations {before n : Deployment}
    (hrevision : before.metadata.annotations.at revisionAnnotation =
      n.metadata.annotations.at revisionAnnotation)
    (hcause : before.metadata.annotations.at changeCauseAnnotation =
      n.metadata.annotations.at changeCauseAnnotation) :
    rolledBack (some before) n = false := by
  unfold rolledBack annotationBefore
  rw [Option.map_some, Option.getD_some, Option.map_some, Option.getD_some, hrevision, hcause]
  exact isRollback_self _ _

/-! ### One delivery -/

/-- The events that report a completed rollout. -/
def successes (events : List Event) : ℕ :=
  events.countP fun ev ↦ ev.kind = .deploySucceeded

/-- The delivery reports a completed rollout. -/
def reportsSuccess (delivery : Option Deployment × Deployment) : Bool :=
  !rolledBack delivery.1 delivery.2 && isDeploySucceeded delivery.1 delivery.2

theorem countP_deployOutcomes (old : Option Deployment) (n : Deployment) :
    (deployOutcomes old n).countP (fun outcome ↦ outcome.1 = .deploySucceeded) =
      if isDeploySucceeded old n then 1 else 0 := by
  unfold deployOutcomes
  simp only [List.countP_append]
  split_ifs <;> simp

theorem successes_lifecycleBuilds (rt : Runtime) (old : Option Deployment) (n : Deployment)
    (serviceID : String) (seq : ℕ) :
    successes (numbered seq (lifecycleBuilds rt old n serviceID)) =
      if reportsSuccess (old, n) then 1 else 0 := by
  unfold lifecycleBuilds reportsSuccess
  by_cases hrollback : rolledBack old n = true
  · simp [hrollback, successes, rolledBackEvent, buildDeployEvent]
  · have hcount : (numbered seq ((deployOutcomes old n).map fun outcome ↦
        deploymentEvent rt n serviceID outcome.1 outcome.2)).countP
          (fun ev ↦ ev.kind = .deploySucceeded) =
        (deployOutcomes old n).countP fun outcome ↦ outcome.1 = .deploySucceeded := by
      apply countP_numbered_map
      exact fun _ _ ↦ rfl
    rw [countP_deployOutcomes] at hcount
    simpa [hrollback, successes] using hcount

theorem successes_rolloutBuilds (rt : Runtime) (old : Option Deployment) (n : Deployment)
    (seq : ℕ) : successes (numbered seq (rolloutBuilds rt old n)) = 0 := by
  unfold rolloutBuilds
  split_ifs <;> simp [successes, rolloutEvent]

/-- A delivery reports at most one completed rollout. -/
theorem successes_delivery {rt : Runtime} {reader : Reader} {seq : ℕ} {prev : Option Deployment}
    {n : Deployment} {events : List Event}
    (hevents : dispatchDeployment rt reader seq prev n = .ok events) :
    successes events = if reportsSuccess (prev, n) then 1 else 0 := by
  rw [dispatchDeployment_eq] at hevents
  obtain ⟨serviceID, -, rfl⟩ := resolved_eq_ok hevents
  have hrollout := successes_rolloutBuilds rt prev n seq
  have hlifecycle := successes_lifecycleBuilds rt prev n serviceID
    (seq + (rolloutBuilds rt prev n).length)
  unfold successes at hrollout hlifecycle ⊢
  rw [numbered_append, List.countP_append, hrollout, hlifecycle, Nat.zero_add]

/-! ### Runs of updates -/

/-- A run of updates reports as many completed rollouts as there are deliveries that do. -/
theorem successes_run {rt : Runtime} {seq : ℕ} {first : Deployment}
    {updates : List (Reader × Deployment)} {batches : List (List Event)}
    (hrun : deliver rt seq (some (.deployment first))
      (updates.map fun s ↦ (s.1, .deployment s.2)) = .ok batches) :
    successes batches.flatten =
      (deliveriesFrom (some first) (updates.map Prod.snd)).countP reportsSuccess := by
  have hstep : ∀ reader seq (prev : Option Deployment) n events,
      dispatch rt reader seq (prev.map Object.deployment) (some (.deployment n)) = .ok events →
      successes events = if reportsSuccess (prev, n) then 1 else 0 := by
    intro reader seq prev n events hevents
    rw [dispatch_deployment] at hevents
    exact successes_delivery hevents
  have hbatches := deliver_observations Object.deployment successes
    (fun delivery ↦ if reportsSuccess delivery then 1 else 0) hstep
    (show deliver rt seq ((some first).map Object.deployment) _ = .ok batches from hrun)
  rw [← sum_map_indicator, ← hbatches, successes, List.countP_flatten]
  rfl

/-- The last snapshot before the end of a run of updates. -/
def lastBefore (first : Deployment) (updates : List (Reader × Deployment)) : Deployment :=
  (updates.map Prod.snd).getLast?.getD first

/-- A run of updates ends with the delivery from the last snapshot before. -/
theorem deliveriesFrom_final (first : Deployment) (updates : List (Reader × Deployment))
    (final : Reader × Deployment) :
    deliveriesFrom (some first) ((updates ++ [final]).map Prod.snd) =
      deliveriesFrom (some first) (updates.map Prod.snd) ++
        [(some (lastBefore first updates), final.2)] := by
  rw [List.map_append, deliveriesFrom_append, lastBefore]
  cases (updates.map Prod.snd).getLast? <;> rfl

theorem lastBefore_mem (first : Deployment) (updates : List (Reader × Deployment)) :
    lastBefore first updates ∈ first :: updates.map Prod.snd := by
  unfold lastBefore
  cases hlast : (updates.map Prod.snd).getLast? with
  | none => exact List.mem_cons_self
  | some last => exact List.mem_cons_of_mem _ (List.mem_of_getLast? hlast)

/-- Over a run of updates of one Deployment that ends with the first complete snapshot, exactly one
completed rollout is reported if and only if the snapshot before the last does not have the reason
`NewReplicaSetAvailable` already. The store and every other field may change from one update to the
next. Assumes: the run is delivered without an error; revision and change cause are constant over
it; of the updates only the last is complete. -/
theorem completed_rollout_reported_iff (rt : Runtime) (seq : ℕ) (first : Deployment)
    {updates : List (Reader × Deployment)} {final : Reader × Deployment}
    {batches : List (List Event)}
    (hrun : deliver rt seq (some (.deployment first))
      ((updates ++ [final]).map fun s ↦ (s.1, .deployment s.2)) = .ok batches)
    (hrevision : ∀ s ∈ updates ++ [final], s.2.metadata.annotations.at revisionAnnotation =
      first.metadata.annotations.at revisionAnnotation)
    (hcause : ∀ s ∈ updates ++ [final], s.2.metadata.annotations.at changeCauseAnnotation =
      first.metadata.annotations.at changeCauseAnnotation)
    (hincomplete : ∀ s ∈ updates, rolloutComplete s.2 = false)
    (hcomplete : rolloutComplete final.2 = true) :
    successes batches.flatten = 1 ↔
      alreadyProgressing (lastBefore first updates) reasonNewReplicaSetAvailable = false := by
  have hearlier :
      (deliveriesFrom (some first) (updates.map Prod.snd)).countP reportsSuccess = 0 := by
    rw [List.countP_eq_zero]
    intro delivery hdelivery
    obtain ⟨before, -, hfrom, hto⟩ := exists_prev_of_mem_deliveriesFrom hdelivery
    obtain ⟨s, hs, hsnapshot⟩ := List.mem_map.mp hto
    rw [reportsSuccess, hfrom, isDeploySucceeded_update, ← hsnapshot, hincomplete s hs]
    simp
  have hsame : ∀ key, (∀ s ∈ updates ++ [final], s.2.metadata.annotations.at key =
        first.metadata.annotations.at key) →
      (lastBefore first updates).metadata.annotations.at key =
        final.2.metadata.annotations.at key := by
    intro key hkey
    rw [hkey final (by simp)]
    rcases List.mem_cons.mp (lastBefore_mem first updates) with hfirst | hlater
    · rw [hfirst]
    · obtain ⟨s, hs, hlast⟩ := List.mem_map.mp hlater
      rw [← hlast, hkey s (List.mem_append_left _ hs)]
  have hlast : reportsSuccess (some (lastBefore first updates), final.2) =
      !alreadyProgressing (lastBefore first updates) reasonNewReplicaSetAvailable := by
    rw [reportsSuccess, isDeploySucceeded_update, hcomplete,
      rolledBack_of_same_annotations (hsame _ hrevision) (hsame _ hcause)]
    rfl
  rw [successes_run hrun, deliveriesFrom_final, List.countP_append, hearlier, Nat.zero_add,
    List.countP_singleton, hlast]
  cases alreadyProgressing (lastBefore first updates) reasonNewReplicaSetAvailable <;> simp

/-- A Deployment in its second revision, by the reason of its progress, its replica count and its
ready replicas. -/
def rollingOut (reason : String) (replicas ready : ℤ) : Deployment where
  metadata :=
    { name := "api"
      namespaceName := "prod"
      annotations := AList.singleton revisionAnnotation "2" }
  replicas := some replicas
  updatedReplicas := ready
  readyReplicas := ready
  conditions :=
    [{ type := "Available", status := "True" },
     { type := "Progressing", status := "True", reason := reason }]

/-- The counts arrive first and the reason with the last update: the completion is reported. -/
theorem completed_rollout_reported_iff_reason_last : ∃ batches,
    deliver ⟨fun _ ↦ 1, fun _ ↦ "evt"⟩ 0 (some (.deployment (rollingOut "ReplicaSetUpdated" 3 2)))
      ([rollingOut "ReplicaSetUpdated" 3 3, rollingOut reasonNewReplicaSetAvailable 3 3].map
        fun d ↦ (Reader.empty, .deployment d)) = .ok batches ∧
    successes batches.flatten = 1 := by
  have hrun : ∃ batches, deliver ⟨fun _ ↦ 1, fun _ ↦ "evt"⟩ 0
      (some (.deployment (rollingOut "ReplicaSetUpdated" 3 2)))
      (([(Reader.empty, rollingOut "ReplicaSetUpdated" 3 3)] ++
        [(Reader.empty, rollingOut reasonNewReplicaSetAvailable 3 3)]).map
          fun s ↦ (s.1, .deployment s.2)) = .ok batches := ⟨_, rfl⟩
  obtain ⟨batches, hdelivered⟩ := hrun
  refine ⟨batches, hdelivered, (completed_rollout_reported_iff _ 0 _ hdelivered ?_ ?_ ?_ ?_).mpr ?_⟩
  · simp [rollingOut]
  · simp [rollingOut]
  · simp only [List.forall_mem_singleton]
    decide
  · decide
  · decide

/-- A scale from three to five replicas arrives with the reason of the finished rollout, and the
counts follow: the rollout completes and no success is reported. -/
theorem completed_rollout_unreported : ∃ batches,
    deliver ⟨fun _ ↦ 1, fun _ ↦ "evt"⟩ 0 (some (.deployment (rollingOut "ReplicaSetUpdated" 3 2)))
      ([rollingOut reasonNewReplicaSetAvailable 5 3,
        rollingOut reasonNewReplicaSetAvailable 5 5].map fun d ↦ (Reader.empty, .deployment d)) =
          .ok batches ∧
    rolloutComplete (rollingOut reasonNewReplicaSetAvailable 5 3) = false ∧
    rolloutComplete (rollingOut reasonNewReplicaSetAvailable 5 5) = true ∧
    successes batches.flatten = 0 :=
  ⟨_, rfl, by decide, by decide, rfl⟩

end IncidentaryOperator.Mapper
