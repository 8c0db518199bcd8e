import IncidentaryOperator.Controller.LiveCredential

/-!
# Status, credential and requeue in step

A `Reconcile` that finds its config either installs the key of the Secret or installs the stubs, and
the status it submits says which. `InStep` lists what the call has to do in both cases: the one
`Rotate` call, the phase, the single `Ready` condition, the fields that stay, and the requeue.
`reconcile_in_step` proves it for every outcome of the reads and of the status update.

The credential is swapped before the status is written, so a failed update leaves the rotation in
place: `installed` holds whatever `update` answers.

The interval of the spec is an `int32`, so its product with a second fits the `int64` of a
duration, and it is taken as an integer here.
-/

set_option autoImplicit false
set_option relaxedAutoImplicit false

namespace IncidentaryOperator.Controller

open Foundation Kubernetes Client Discovery

/-! ### Conditions by type -/

/-- The conditions of a type. -/
def conditionsOf (conditions : List Condition) (type : String) : List Condition :=
  conditions.filter fun condition ↦ condition.type = type

/-- The conditions of the other types, in order. -/
def conditionsBut (conditions : List Condition) (type : String) : List Condition :=
  conditions.filter fun condition ↦ condition.type ≠ type

theorem conditionsOf_eq_nil {conditions : List Condition} {type : String}
    (habsent : ∀ condition ∈ conditions, condition.type ≠ type) :
    conditionsOf conditions type = [] := by
  unfold conditionsOf
  rw [List.filter_eq_nil_iff]
  simpa using habsent

theorem conditionsOf_append (first second : List Condition) (type : String) :
    conditionsOf (first ++ second) type = conditionsOf first type ++ conditionsOf second type :=
  List.filter_append ..

theorem conditionsBut_append (first second : List Condition) (type : String) :
    conditionsBut (first ++ second) type = conditionsBut first type ++ conditionsBut second type :=
  List.filter_append ..

theorem conditionsBut_cons_of_type {condition : Condition} {type : String}
    (htype : condition.type = type) (rest : List Condition) :
    conditionsBut (condition :: rest) type = conditionsBut rest type :=
  List.filter_cons_of_neg (by simpa using htype)

theorem conditionsOf_cons_of_type {condition : Condition} {type : String}
    (htype : condition.type = type) (rest : List Condition) :
    conditionsOf (condition :: rest) type = condition :: conditionsOf rest type :=
  List.filter_cons_of_pos (by simpa using htype)

/-- Setting a condition leaves those of the other types. -/
theorem conditionsBut_set (setter : StatusConditionSetter) (conditions : List Condition)
    (new : Condition) :
    conditionsBut (setter.set conditions new) new.type = conditionsBut conditions new.type := by
  rcases first_of_type_or_absent conditions new.type with
    ⟨before, existing, after, rfl, hbefore, htype⟩ | habsent
  · obtain ⟨time, hset, -⟩ := setter.set_found before after existing new hbefore htype
    rw [hset, conditionsBut_append, conditionsBut_append, conditionsBut_cons_of_type rfl,
      conditionsBut_cons_of_type htype]
  · obtain ⟨time, hset⟩ := setter.set_absent conditions new habsent
    rw [hset, conditionsBut_append, conditionsBut_cons_of_type rfl]
    exact List.append_nil _

/-- The condition of the type is replaced, or appended if there was none. -/
theorem conditionsOf_set (setter : StatusConditionSetter) {conditions : List Condition}
    (new : Condition) (hunique : (conditions.map Condition.type).Nodup) :
    ∃ time, conditionsOf (setter.set conditions new) new.type =
      [{ new with lastTransitionTime := time }] := by
  rcases first_of_type_or_absent conditions new.type with
    ⟨before, existing, after, rfl, hbefore, htype⟩ | habsent
  · obtain ⟨time, hset, -⟩ := setter.set_found before after existing new hbefore htype
    have hafter : ∀ condition ∈ after, condition.type ≠ new.type := by
      rw [List.map_append, List.map_cons, List.nodup_append, List.nodup_cons] at hunique
      rintro condition hcondition hsame
      exact hunique.2.1.1 (List.mem_map.mpr ⟨condition, hcondition, hsame.trans htype.symm⟩)
    refine ⟨time, ?_⟩
    rw [hset, conditionsOf_append, conditionsOf_eq_nil hbefore, conditionsOf_cons_of_type rfl,
      conditionsOf_eq_nil hafter, List.nil_append]
  · obtain ⟨time, hset⟩ := setter.set_absent conditions new habsent
    refine ⟨time, ?_⟩
    rw [hset, conditionsOf_append, conditionsOf_eq_nil habsent, conditionsOf_cons_of_type rfl]
    rfl

/-! ### What a call has to do -/

/-- The key a call can use: the value in the Secret, if the Secret was read and the value is not
empty. -/
def ReconcileCall.usableKey (call : ReconcileCall) (config : IncidentaryConfig) : Option String :=
  match call.secretOf config with
  | .error _ => none
  | .ok secret =>
    let value := secret.data.at config.spec.apiKeySecretRef.key
    if value = "" then none else some value

/-- Why a call has no key to use. -/
def ReconcileCall.keylessReason (call : ReconcileCall) (config : IncidentaryConfig) : String :=
  match call.secretOf config with
  | .error .notFound => "SecretNotFound"
  | .error (.failed _) => "ReadError"
  | .ok _ => "InvalidAPIKey"

/-- The submitted config is the given one with another status, which has the phase, a single `Ready`
condition with the status and the reason, and the other conditions of before. -/
structure Marked (config submitted : IncidentaryConfig) (phase status reason : String) : Prop where
  frame : submitted = { config with status := submitted.status }
  phase : submitted.status.phase = phase
  ready : ∃ ready : Condition,
    conditionsOf submitted.status.conditions "Ready" = [ready] ∧
      ready.status = status ∧ ready.reason = reason
  others : conditionsBut submitted.status.conditions "Ready" =
    conditionsBut config.status.conditions "Ready"

/-- The time of the last reconciliation and the counts are those of before. -/
structure SameObservations (before after : IncidentaryConfigStatus) : Prop where
  lastReconciliation : after.lastReconciliation = before.lastReconciliation
  watchedWorkloads : after.watchedWorkloads = before.watchedWorkloads
  matchedServices : after.matchedServices = before.matchedServices
  unmatchedWorkloads : after.unmatchedWorkloads = before.unmatchedWorkloads

/-- The rotation, the submitted status and what is returned agree on whether there is a key. -/
structure InStep (r : ConfigReconciler) (call : ReconcileCall) (config : IncidentaryConfig)
    (result : ConfigReconciler × ReconcileOutput) (submitted : IncidentaryConfig) : Prop where
  submits : result.2.submitted = some submitted
  keyed : ∀ value, call.usableKey config = some value →
    value ≠ "" ∧
      result.2.rotations =
        [{ apiKey := value
           workspaceID := config.spec.workspaceID
           ingestEP := r.ingestEndpoint
           topoEP := r.topologyEndpoint
           svcEP := r.servicesEndpoint }] ∧
      Marked config submitted "Running" "True" "Reconciled"
  keyless : call.usableKey config = none →
    result.2.rotations =
        [{ apiKey := "", workspaceID := "", ingestEP := "", topoEP := "", svcEP := "" }] ∧
      Marked config submitted "Degraded" "False" (call.keylessReason config) ∧
      SameObservations config.status submitted.status
  installed : ∃ provider, result.1 = { r with rotator := some provider } ∧
    UsesLive provider ((call.usableKey config).map fun value ↦ (config, value))
  requeued : call.update = .ok () → ∃ after, result.2.returned = .ok after ∧ 0 < after
  failed : ∀ text, call.update = .error text → result.2.returned = .error text

/-! ### The two outcomes -/

theorem marked_mark {config observed : IncidentaryConfig} {setter : StatusConditionSetter}
    {phase status reason message : String} {now : Time}
    (hframe : observed = { config with status := observed.status })
    (hconditions : observed.status.conditions = config.status.conditions)
    (hunique : (config.status.conditions.map Condition.type).Nodup) :
    Marked config (observed.mark setter phase status reason message now) phase status reason := by
  refine ⟨?_, rfl, ?_, ?_⟩
  · rw [hframe]
    rfl
  · rw [← hconditions] at hunique
    obtain ⟨time, hset⟩ := conditionsOf_set setter
      { type := conditionTypeReady
        status := status
        observedGeneration := observed.generation
        lastTransitionTime := now
        reason := reason
        message := message } hunique
    exact ⟨_, hset, rfl, rfl⟩
  · rw [← hconditions]
    exact conditionsBut_set setter _ _

theorem rotations_eq {r : ConfigReconciler} (hrotator : r.rotator.isSome) (rotation : Rotation) :
    r.rotations rotation = [rotation] := by
  unfold ConfigReconciler.rotations
  rw [if_pos hrotator]

theorem returned_requeueUnless {update : Except String Unit} {requeueAfter : ℤ}
    (hpositive : 0 < requeueAfter) :
    (update = .ok () → ∃ after, requeueUnless update requeueAfter = .ok after ∧ 0 < after) ∧
      ∀ text, update = .error text → requeueUnless update requeueAfter = .error text := by
  constructor
  · rintro rfl
    exact ⟨requeueAfter, rfl, hpositive⟩
  · rintro text rfl
    rfl

theorem reconciliationInterval_pos (config : IncidentaryConfig) :
    0 < reconciliationInterval config := by
  unfold reconciliationInterval defaultReconciliationIntervalSeconds
  dsimp only
  have hsecond : 0 < second := by decide
  split_ifs with hunset
  · exact mul_pos (by decide) hsecond
  · exact mul_pos (not_le.mp hunset) hsecond

/-- A rotation replaces the provider of a reconciler that has one. -/
theorem rotate_eq {r : ConfigReconciler} (hrotator : r.rotator.isSome) (rotation : Rotation) :
    r.rotate rotation = { r with rotator := some rotation.provider } := by
  obtain ⟨provider, hprovider⟩ := Option.isSome_iff_exists.mp hrotator
  unfold ConfigReconciler.rotate
  rw [hprovider]
  rfl

theorem inStep_degrade {r : ConfigReconciler} {call : ReconcileCall} {config : IncidentaryConfig}
    {reason message : String} (hrotator : r.rotator.isSome)
    (hunique : (config.status.conditions.map Condition.type).Nodup)
    (hkey : call.usableKey config = none) (hreason : call.keylessReason config = reason) :
    InStep r call config (r.degrade call config reason message)
      (config.mark call.conditionSetter phaseDegraded "False" reason message call.now) := by
  have hrotations := rotations_eq hrotator droppingRotation
  obtain ⟨hrequeued, hfailed⟩ := @returned_requeueUnless call.update requeueAfterError (by decide)
  refine ⟨rfl, ?_, ?_, ?_, hrequeued, hfailed⟩
  · intro value hvalue
    rw [hkey] at hvalue
    cases hvalue
  · intro _
    rw [hreason]
    exact ⟨hrotations, marked_mark rfl rfl hunique, rfl, rfl, rfl, rfl⟩
  · rw [hkey]
    exact ⟨_, rotate_eq hrotator droppingRotation, rfl, rfl, rfl⟩

theorem inStep_activate {r : ConfigReconciler} {call : ReconcileCall} {config : IncidentaryConfig}
    {value : String} (hrotator : r.rotator.isSome)
    (hunique : (config.status.conditions.map Condition.type).Nodup)
    (hvalue : value ≠ "") (hkey : call.usableKey config = some value) :
    ∃ submitted, InStep r call config (r.activate call config value) submitted := by
  have hrotations := rotations_eq hrotator (r.keyRotation config value)
  obtain ⟨hrequeued, hfailed⟩ :=
    @returned_requeueUnless call.update _ (reconciliationInterval_pos config)
  refine ⟨_, rfl, ?_, ?_, ?_, hrequeued, hfailed⟩
  · intro key hsome
    obtain rfl : value = key := Option.some.inj (hkey.symm.trans hsome)
    exact ⟨hvalue, hrotations, marked_mark rfl rfl hunique⟩
  · intro hnone
    rw [hkey] at hnone
    cases hnone
  · rw [hkey]
    exact ⟨_, rotate_eq hrotator (r.keyRotation config value), usesOnly_of_key hvalue,
      Rotation.provider_workspaceID _⟩

/-- Phase and `Ready` condition tell whether there was a key. -/
structure TellsKey (status : IncidentaryConfigStatus) (hasKey : Prop) : Prop where
  phase : status.phase = "Running" ↔ hasKey
  ready : ∀ condition ∈ status.conditions, condition.type = "Ready" →
    (condition.status = "True" ↔ hasKey)

theorem Marked.ready_status {config submitted : IncidentaryConfig} {phase status reason : String}
    (hmarked : Marked config submitted phase status reason) {condition : Condition}
    (hcondition : condition ∈ submitted.status.conditions)
    (hready : condition.type = "Ready") : condition.status = status := by
  obtain ⟨ready, hsingle, hstatus, -⟩ := hmarked.ready
  have hmem : condition ∈ conditionsOf submitted.status.conditions "Ready" :=
    List.mem_filter.mpr ⟨hcondition, by simpa using hready⟩
  rw [hsingle, List.mem_singleton] at hmem
  rw [hmem, hstatus]

theorem InStep.tellsKey {r : ConfigReconciler} {call : ReconcileCall} {config : IncidentaryConfig}
    {result : ConfigReconciler × ReconcileOutput} {submitted : IncidentaryConfig}
    (hstep : InStep r call config result submitted) :
    TellsKey submitted.status (call.usableKey config).isSome := by
  cases hkey : call.usableKey config with
  | some value =>
    obtain ⟨-, -, hmarked⟩ := hstep.keyed value hkey
    refine ⟨by simp [hmarked.phase], fun condition hcondition hready ↦ ?_⟩
    simp [hmarked.ready_status hcondition hready]
  | none =>
    obtain ⟨-, hmarked, -⟩ := hstep.keyless hkey
    refine ⟨by simp [hmarked.phase], ?_⟩
    intro condition hcondition hready
    simp [hmarked.ready_status hcondition hready]

/-- A `Reconcile` that finds its config keeps status, credential and requeue in step.

Assumes: the rotator is set and the types of the conditions are unique. -/
theorem reconcile_in_step {r : ConfigReconciler} {call : ReconcileCall} {config : IncidentaryConfig}
    (hrotator : r.rotator.isSome) (hconfig : call.config = .ok config)
    (hunique : (config.status.conditions.map Condition.type).Nodup) :
    ∃ submitted, InStep r call config (r.reconcile call) submitted ∧
      TellsKey submitted.status (call.usableKey config).isSome := by
  suffices hstep : ∃ submitted, InStep r call config (r.reconcile call) submitted by
    obtain ⟨submitted, hsubmitted⟩ := hstep
    exact ⟨submitted, hsubmitted, hsubmitted.tellsKey⟩
  have hrun := reconcileRun_reconcile r call
  generalize r.reconcile call = result at hrun ⊢
  cases hrun with
  | configMissing hmissing => cases hconfig.symm.trans hmissing
  | configUnreadable hunreadable => cases hconfig.symm.trans hunreadable
  | secretMissing hfound hsecret message =>
    cases hconfig.symm.trans hfound
    refine ⟨_, inStep_degrade hrotator hunique ?_ ?_⟩ <;>
      simp [ReconcileCall.usableKey, ReconcileCall.keylessReason, hsecret, reasonSecretNotFound]
  | secretUnreadable hfound hsecret message =>
    cases hconfig.symm.trans hfound
    refine ⟨_, inStep_degrade hrotator hunique ?_ ?_⟩ <;>
      simp [ReconcileCall.usableKey, ReconcileCall.keylessReason, hsecret, reasonReadError]
  | keyMissing hfound hsecret hkey message =>
    cases hconfig.symm.trans hfound
    refine ⟨_, inStep_degrade hrotator hunique ?_ ?_⟩ <;>
      simp [ReconcileCall.usableKey, ReconcileCall.keylessReason, hsecret, hkey,
        reasonInvalidAPIKey]
  | activated hfound hsecret hkey =>
    cases hconfig.symm.trans hfound
    exact inStep_activate hrotator hunique hkey (by simp [ReconcileCall.usableKey, hsecret, hkey])

/-- A config with another condition and the `Ready` condition of an earlier call. -/
def configBefore : IncidentaryConfig where
  namespaceName := "incidentary"
  spec := { apiKeySecretRef := ⟨"incidentary-api-key", "apiKey"⟩, workspaceID := "ws-1" }
  status :=
    { phase := phaseRunning
      conditions :=
        [{ type := "Synced", status := "True" }, { type := "Ready", status := "True" }] }

/-- A call that reads it, finds no Secret and fails to update the status. -/
def callWithoutSecret : ReconcileCall where
  config := .ok configBefore
  secret := fun _ _ ↦ .error .notFound
  now := .zero
  watchedWorkloads := none
  counts := none
  update := .error "conflict"

/-- A call that finds the Secret with a key and updates the status. -/
def callWithKey : ReconcileCall :=
  { callWithoutSecret with
    secret := fun _ _ ↦ .ok ⟨AList.singleton "apiKey" "sk_live_1"⟩
    update := .ok () }

/-- A reconciler whose provider holds stubs. -/
def stubbedReconciler : ConfigReconciler where
  rotator := some (buildInitialProvider droppingRotation)
  ingestEndpoint := "ingest.example"

/-- The call without a Secret degrades the config, the call with a key puts the key in use. -/
theorem reconcile_in_step_keyless_and_keyed :
    (∃ submitted, InStep stubbedReconciler callWithoutSecret configBefore
        (stubbedReconciler.reconcile callWithoutSecret) submitted ∧
      submitted.status.phase = "Degraded") ∧
    ∃ submitted, InStep stubbedReconciler callWithKey configBefore
        (stubbedReconciler.reconcile callWithKey) submitted ∧
      (stubbedReconciler.reconcile callWithKey).2.rotations =
        [{ apiKey := "sk_live_1", workspaceID := "ws-1", ingestEP := "ingest.example" }] ∧
      submitted.status.phase = "Running" := by
  obtain ⟨degraded, hdegraded, -⟩ := @reconcile_in_step stubbedReconciler callWithoutSecret
    configBefore rfl rfl (by decide)
  obtain ⟨running, hrunning, -⟩ := @reconcile_in_step stubbedReconciler callWithKey configBefore
    rfl rfl (by decide)
  obtain ⟨-, hrotations, hmarked⟩ := hrunning.keyed "sk_live_1" (by decide)
  exact ⟨⟨degraded, hdegraded, (hdegraded.keyless (by decide)).2.1.phase⟩,
    running, hrunning, hrotations, hmarked.phase⟩

end IncidentaryOperator.Controller
