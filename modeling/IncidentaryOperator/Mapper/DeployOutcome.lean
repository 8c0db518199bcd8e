import IncidentaryOperator.Mapper.OccurredAt
import IncidentaryOperator.Mapper.RolloutCompletion

/-!
# The outcome of a Deployment update

`FromDeploymentChange` reports a rollback alone and otherwise tests each outcome on its own. A
completed rollout and an exceeded deadline exclude each other, since both are read off the reason of
one condition. A cancellation is read off the replica counts and the status of the old condition,
and excludes neither: a scale to zero that arrives together with the end of a rollout has two
outcomes (`single_outcome_iff`). Kubernetes keeps `Progressing` true after a rollout, so its status
alone does not tell a rollout in progress from a finished one, and the scale to zero of a stable
Deployment is reported as cancelled (`cancelled_midRollout_iff`). The deletion path looks at the
reason as well.
-/

set_option autoImplicit false
set_option relaxedAutoImplicit false

namespace IncidentaryOperator.Mapper

open Foundation WireFormat Kubernetes Identity

/-! ### The kinds an update reports -/

/-- The kinds of the lifecycle events of an update, in order. -/
def lifecycleKinds (old : Option Deployment) (n : Deployment) : List Kind :=
  if rolledBack old n then [.deployRolledBack] else (deployOutcomes old n).map Prod.fst

theorem kinds_lifecycleBuilds (rt : Runtime) (seq : ℕ) (old : Option Deployment) (n : Deployment)
    (serviceID : String) :
    (numbered seq (lifecycleBuilds rt old n serviceID)).map Event.kind = lifecycleKinds old n := by
  unfold lifecycleBuilds lifecycleKinds
  split_ifs with hrollback
  · rfl
  · apply map_numbered_map
    exact fun _ _ ↦ rfl

theorem mem_guarded {holds : Bool} {outcome : Kind × String} {kind : Kind} :
    kind ∈ (if holds then [outcome] else []).map Prod.fst ↔ holds = true ∧ kind = outcome.1 := by
  cases holds <;> simp

theorem kinds_fromDeploymentChange (rt : Runtime) {reader : Reader} (seq : ℕ)
    (old : Option Deployment) {n : Deployment} (hn : Resolvable reader "Deployment" n.metadata) :
    (returned (fromDeploymentChange rt reader seq old n)).map Event.kind =
      lifecycleKinds old n := by
  obtain ⟨serviceID, hresolved⟩ := hn
  rw [fromDeploymentChange_eq, hresolved]
  exact kinds_lifecycleBuilds rt seq old n serviceID

/-! ### What the predicates look at -/

/-- The status of `Progressing` is true, whatever its reason. -/
def progressingTrue (d : Deployment) : Bool :=
  (progressingCondition d).any (·.status = "True")

/-- The progress deadline of a rollout is exceeded. -/
def deadlineExceeded (d : Deployment) : Bool :=
  (progressingCondition d).any fun progressing ↦
    progressing.status = "False" && progressing.reason = reasonProgressDeadlineExceeded

/-- The update takes the replica count to zero. -/
def scaledToZero (old n : Deployment) : Bool :=
  specReplicas old.replicas ≠ 0 && specReplicas n.replicas = 0

theorem isDeployCancelled_update (old n : Deployment) :
    isDeployCancelled (some old) n = (scaledToZero old n && progressingTrue old) := by
  unfold isDeployCancelled scaledToZero progressingTrue
  by_cases hold : specReplicas old.replicas = 0
  · simp [hold]
  · by_cases hn : specReplicas n.replicas = 0
    · simp only [hold, hn, ne_eq, not_true_eq_false, or_self, if_false]
      cases progressingCondition old <;> simp
    · simp [hn]

theorem isDeployFailed_update (old n : Deployment) :
    isDeployFailed (some old) n =
      (deadlineExceeded n && !alreadyProgressing old reasonProgressDeadlineExceeded) := by
  unfold isDeployFailed deadlineExceeded
  cases progressingCondition n with
  | none => rfl
  | some progressing =>
    by_cases hstatus : progressing.status = "False"
    · by_cases hreason : progressing.reason = reasonProgressDeadlineExceeded <;>
        simp [hstatus, hreason]
    · simp [hstatus]

/-- `Progressing` has one reason, so a rollout is not both complete and out of time. -/
theorem not_deadlineExceeded_of_complete {d : Deployment} (hcomplete : rolloutComplete d = true) :
    deadlineExceeded d = false := by
  unfold rolloutComplete at hcomplete
  unfold deadlineExceeded
  cases hprogressing : progressingCondition d with
  | none => rfl
  | some progressing =>
    have hreason : progressing.reason = reasonNewReplicaSetAvailable := by
      simp only [hprogressing, Option.any_some, Bool.and_eq_true, decide_eq_true_eq] at hcomplete
      exact hcomplete.1.1.2
    have hdiffers : reasonNewReplicaSetAvailable ≠ reasonProgressDeadlineExceeded := by decide
    simp [hreason, hdiffers]

/-- `Progressing` that is true without a rollout in progress is left over from a finished one. -/
theorem progressingTrue_and_not_midRollout (d : Deployment) :
    (progressingTrue d && !isMidRollout d) = stable d := by
  unfold progressingTrue isMidRollout stable
  cases progressingCondition d with
  | none => rfl
  | some progressing =>
    by_cases hstatus : progressing.status = "True" <;>
      by_cases hreason : progressing.reason = reasonNewReplicaSetAvailable <;>
      simp [hstatus, hreason]

/-! ### Cancellations -/

theorem mem_lifecycleKinds_cancelled {old : Option Deployment} {n : Deployment} :
    Kind.deployCancelled ∈ lifecycleKinds old n ↔
      rolledBack old n = false ∧ isDeployCancelled old n = true := by
  unfold lifecycleKinds deployOutcomes
  cases rolledBack old n with
  | true => simp
  | false =>
    simp only [Bool.false_eq_true, if_false, List.map_append, List.mem_append, mem_guarded]
    simp

/-- The deletion of a Deployment is reported as cancelled exactly when a rollout is in progress. -/
theorem fromDeploymentDelete_cancelled_iff (rt : Runtime) {reader : Reader} (seq : ℕ)
    {d : Deployment} (hresolved : Resolvable reader "Deployment" d.metadata) :
    (∃ ev, fromDeploymentDelete rt reader seq d = .ok (some ev) ∧ ev.kind = .deployCancelled) ↔
      isMidRollout d = true := by
  constructor
  · rintro ⟨ev, hev, -⟩
    exact (fromDeploymentDelete_eq_some.mp hev).1
  · intro hmid
    obtain ⟨serviceID, hserviceID⟩ := hresolved
    exact ⟨_, fromDeploymentDelete_eq_some.mpr ⟨hmid, serviceID, hserviceID, rfl⟩, rfl⟩

/-- A cancelled deployment was in the middle of a rollout, except for one kind of update: a stable
Deployment is scaled to zero, and the update is no rollback. The deletion path reports exactly the
rollouts in progress. Assumes: both Deployments can be re-read. -/
theorem cancelled_midRollout_iff (rt : Runtime) {reader : Reader} (seq : ℕ) {old n : Deployment}
    (hold : Resolvable reader "Deployment" old.metadata)
    (hn : Resolvable reader "Deployment" n.metadata) :
    (((∃ ev, fromDeploymentDelete rt reader seq old = .ok (some ev) ∧
        ev.kind = .deployCancelled) ↔ isMidRollout old = true) ∧
      ((∃ ev ∈ returned (fromDeploymentChange rt reader seq (some old) n),
        ev.kind = .deployCancelled) → isMidRollout old = true)) ↔
    ¬ (stable old = true ∧ scaledToZero old n = true ∧ rolledBack (some old) n = false) := by
  have hcancelled : (∃ ev ∈ returned (fromDeploymentChange rt reader seq (some old) n),
      ev.kind = .deployCancelled) ↔ rolledBack (some old) n = false ∧
        scaledToZero old n = true ∧ progressingTrue old = true := by
    rw [← List.mem_map, kinds_fromDeploymentChange rt seq (some old) hn,
      mem_lifecycleKinds_cancelled, isDeployCancelled_update, Bool.and_eq_true]
  rw [and_iff_right (fromDeploymentDelete_cancelled_iff rt seq hold), hcancelled,
    ← progressingTrue_and_not_midRollout, Bool.and_eq_true, Bool.not_eq_true']
  cases isMidRollout old with
  | true => simp
  | false =>
    simp only [Bool.false_eq_true, and_true, imp_false]
    exact not_congr ⟨fun h ↦ ⟨h.2.2, h.2.1, h.1⟩, fun h ↦ ⟨h.2.2, h.2.1, h.1⟩⟩

/-- A rollout that is scaled to zero before it is finished. -/
theorem cancelled_midRollout_iff_abandoned :
    (∃ ev ∈ returned (fromDeploymentChange ⟨fun _ ↦ 1, fun _ ↦ "evt"⟩ Reader.empty 0
      (some (rollingOut "ReplicaSetUpdated" 3 2)) (rollingOut "ReplicaSetUpdated" 0 0)),
      ev.kind = .deployCancelled) ∧
    isMidRollout (rollingOut "ReplicaSetUpdated" 3 2) = true := by
  have hemitted : ∃ ev ∈ returned (fromDeploymentChange ⟨fun _ ↦ 1, fun _ ↦ "evt"⟩ Reader.empty 0
      (some (rollingOut "ReplicaSetUpdated" 3 2)) (rollingOut "ReplicaSetUpdated" 0 0)),
      ev.kind = .deployCancelled := ⟨_, List.mem_singleton_self _, rfl⟩
  have hold : Resolvable Reader.empty "Deployment" (rollingOut "ReplicaSetUpdated" 3 2).metadata :=
    ⟨_, rfl⟩
  have hn : Resolvable Reader.empty "Deployment" (rollingOut "ReplicaSetUpdated" 0 0).metadata :=
    ⟨_, rfl⟩
  have hiff := cancelled_midRollout_iff ⟨fun _ ↦ 1, fun _ ↦ "evt"⟩ 0 hold hn
  exact ⟨hemitted, (hiff.mpr (by decide)).2 hemitted⟩

/-- A stable Deployment with three ready replicas is scaled to zero: one event, `DEPLOY_CANCELLED`,
though no rollout was in progress. -/
theorem stable_scaled_to_zero_cancelled :
    (returned (fromDeploymentChange ⟨fun _ ↦ 1, fun _ ↦ "evt"⟩ Reader.empty 0
      (some (rollingOut reasonNewReplicaSetAvailable 3 3))
      (rollingOut reasonNewReplicaSetAvailable 0 0))).map Event.kind = [.deployCancelled] ∧
    isMidRollout (rollingOut reasonNewReplicaSetAvailable 3 3) = false := by
  decide

/-! ### One outcome -/

/-- The kinds that say how a rollout ended. -/
def outcomeKinds : List Kind :=
  [.deploySucceeded, .deployFailed, .deployCancelled, .deployRolledBack]

/-- The events of an update report at most one outcome, and a rollback alone. -/
structure SingleOutcome (events : List Event) : Prop where
  atMostOne : events.countP (fun ev ↦ ev.kind ∈ outcomeKinds) ≤ 1
  rolledBack_alone : Kind.deployRolledBack ∈ events.map Event.kind → events.length = 1

/-- An update that takes a Deployment with `Progressing` true to zero replicas and brings the end of
its rollout at the same time: all of its zero replicas are ready, or its deadline is exceeded. -/
structure EndsWithScaleToZero (old n : Deployment) : Prop where
  noRollback : rolledBack (some old) n = false
  scaled : scaledToZero old n = true
  progressing : progressingTrue old = true
  ended : (rolloutComplete n = true ∧
      alreadyProgressing old reasonNewReplicaSetAvailable = false) ∨
    (deadlineExceeded n = true ∧ alreadyProgressing old reasonProgressDeadlineExceeded = false)

/-- The outcomes other than a rollback, each counted on its own. -/
theorem countP_outcomeKinds (old : Option Deployment) (n : Deployment) :
    ((deployOutcomes old n).map Prod.fst).countP (· ∈ outcomeKinds) =
      (isDeploySucceeded old n).toNat + (isDeployFailed old n).toNat +
        (isDeployCancelled old n).toNat := by
  unfold deployOutcomes
  simp only [List.map_append, List.countP_append]
  have hguarded : ∀ (holds : Bool) (outcome : Kind × String), outcome.1 ∈ outcomeKinds →
      ((if holds then [outcome] else []).map Prod.fst).countP (· ∈ outcomeKinds) =
        holds.toNat := by
    intro holds outcome hkind
    cases holds <;> simp [hkind]
  have hstarted : ∀ holds : Bool, (((if holds then [(Kind.deployStarted, "Started")] else []).map
      Prod.fst).countP (· ∈ outcomeKinds)) = 0 := by
    intro holds
    cases holds <;> decide
  rw [hstarted, hguarded _ _ (by decide), hguarded _ _ (by decide), hguarded _ _ (by decide),
    Nat.zero_add]

theorem not_mem_rolledBack_deployOutcomes (old : Option Deployment) (n : Deployment) :
    Kind.deployRolledBack ∉ (deployOutcomes old n).map Prod.fst := by
  unfold deployOutcomes
  simp only [List.map_append, List.mem_append, mem_guarded]
  simp

/-- An update has two outcomes exactly when it is cancelled and also succeeded or failed. -/
theorem countP_outcomes_le_one_iff (old n : Deployment) :
    (isDeploySucceeded (some old) n).toNat + (isDeployFailed (some old) n).toNat +
        (isDeployCancelled (some old) n).toNat ≤ 1 ↔
      ¬ (scaledToZero old n = true ∧ progressingTrue old = true ∧
        ((rolloutComplete n = true ∧
            alreadyProgressing old reasonNewReplicaSetAvailable = false) ∨
          (deadlineExceeded n = true ∧
            alreadyProgressing old reasonProgressDeadlineExceeded = false))) := by
  rw [isDeploySucceeded_update, isDeployFailed_update, isDeployCancelled_update]
  have hexclusive := @not_deadlineExceeded_of_complete n
  cases hcomplete : rolloutComplete n with
  | true =>
    rw [hexclusive hcomplete]
    cases scaledToZero old n <;> cases progressingTrue old <;>
      cases alreadyProgressing old reasonNewReplicaSetAvailable <;> simp
  | false =>
    cases scaledToZero old n <;> cases progressingTrue old <;> cases deadlineExceeded n <;>
      cases alreadyProgressing old reasonProgressDeadlineExceeded <;> simp

/-- One update of a Deployment reports at most one outcome, and a rollback alone, except for the
updates that bring the end of a rollout together with a scale to zero. -/
theorem single_outcome_iff (rt : Runtime) (reader : Reader) (seq : ℕ) (old n : Deployment) :
    SingleOutcome (returned (fromDeploymentChange rt reader seq (some old) n)) ↔
      ¬ (Resolvable reader "Deployment" n.metadata ∧ EndsWithScaleToZero old n) := by
  by_cases hn : Resolvable reader "Deployment" n.metadata
  · have hkinds := kinds_fromDeploymentChange rt seq (some old) hn
    generalize returned (fromDeploymentChange rt reader seq (some old) n) = events at hkinds
    have hcount : events.countP (fun ev ↦ ev.kind ∈ outcomeKinds) =
        (lifecycleKinds (some old) n).countP (· ∈ outcomeKinds) := by
      rw [← hkinds, List.countP_map]
      rfl
    have hlength : events.length = (lifecycleKinds (some old) n).length := by
      rw [← hkinds, List.length_map]
    cases hrollback : rolledBack (some old) n with
    | true =>
      have halone : lifecycleKinds (some old) n = [.deployRolledBack] := by
        simp [lifecycleKinds, hrollback]
      rw [halone] at hcount hlength
      refine iff_of_true ⟨hcount.le, fun _ ↦ hlength⟩ ?_
      rintro ⟨-, hends⟩
      exact absurd hends.noRollback (by simp [hrollback])
    | false =>
      have hothers : lifecycleKinds (some old) n = (deployOutcomes (some old) n).map Prod.fst := by
        simp [lifecycleKinds, hrollback]
      rw [hothers] at hcount hkinds
      rw [countP_outcomeKinds] at hcount
      constructor
      · rintro ⟨hone, -⟩ ⟨-, hends⟩
        rw [hcount, countP_outcomes_le_one_iff] at hone
        exact hone ⟨hends.scaled, hends.progressing, hends.ended⟩
      · intro hnot
        refine ⟨?_, fun hmem ↦ ?_⟩
        · rw [hcount, countP_outcomes_le_one_iff]
          rintro ⟨hscaled, hprogressing, hended⟩
          exact hnot ⟨hn, hrollback, hscaled, hprogressing, hended⟩
        · rw [hkinds] at hmem
          exact absurd hmem (not_mem_rolledBack_deployOutcomes _ _)
  · have hnone : returned (fromDeploymentChange rt reader seq (some old) n) = [] := by
      rw [fromDeploymentChange_eq]
      cases hresolved : resolveWorkloadServiceID reader "Deployment" n.metadata.namespaceName
          n.metadata.name with
      | error text => rfl
      | ok serviceID => exact absurd ⟨serviceID, hresolved⟩ hn
    rw [hnone]
    exact iff_of_true ⟨Nat.zero_le 1, fun hmem ↦ absurd hmem List.not_mem_nil⟩
      fun hends ↦ hn hends.1

/-- A rollout that is scaled to zero in the update that brings its end: it succeeded and was
cancelled. -/
theorem succeeded_and_cancelled :
    (returned (fromDeploymentChange ⟨fun _ ↦ 1, fun _ ↦ "evt"⟩ Reader.empty 0
      (some (rollingOut "ReplicaSetUpdated" 3 2))
      (rollingOut reasonNewReplicaSetAvailable 0 0))).map Event.kind =
        [.deploySucceeded, .deployCancelled] := by
  decide

end IncidentaryOperator.Mapper
