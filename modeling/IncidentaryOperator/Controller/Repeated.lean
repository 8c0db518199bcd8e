import IncidentaryOperator.Controller.LiveCredential

/-!
# Repeated reconciliation

`Reconcile` runs again at every period, and again after each of its own status updates, since the
watch of the configs has no predicate. While nobody edits the config or its Secret, it should
settle: a second call finds the clients it would install, and writes the phase and the condition
that are there already.

It does, but for what it observes (`repeated_reconcile_only_observes`). Without a usable key nothing
at all changes, so the status update writes back what it read. With one the time of the last
reconciliation is written, and a call at another time changes the stored object, which queues the
next call.
-/

set_option autoImplicit false
set_option relaxedAutoImplicit false

namespace IncidentaryOperator.Controller

open Foundation Kubernetes Client Discovery

/-! ### Verdicts -/

/-- What `Reconcile` concludes from the read of the Secret: a degraded config, or the key to use. -/
inductive Verdict
  | degraded (reason message : String)
  | active (value : String)

/-- The verdict on a config after the read of its Secret. -/
def IncidentaryConfig.verdict (config : IncidentaryConfig) (read : Except ReadError Secret) :
    Verdict :=
  let ns := config.namespaceName
  let name := config.spec.apiKeySecretRef.name
  let key := config.spec.apiKeySecretRef.key
  match read with
  | .error .notFound =>
    .degraded reasonSecretNotFound s!"Secret {quoted name} not found in namespace {quoted ns}"
  | .error (.failed _) =>
    .degraded reasonReadError
      s!"error reading Secret {quoted name}; check operator logs for details"
  | .ok secret =>
    if secret.data.at key = "" then
      .degraded reasonInvalidAPIKey s!"Secret {quoted name} key {quoted key} is empty"
    else .active (secret.data.at key)

/-- The path of `Reconcile` a verdict leads to. -/
def Verdict.run (verdict : Verdict) (r : ConfigReconciler) (call : ReconcileCall)
    (config : IncidentaryConfig) : ConfigReconciler × ReconcileOutput :=
  match verdict with
  | .degraded reason message => r.degrade call config reason message
  | .active value => r.activate call config value

/-- A `Reconcile` that finds its config acts on its verdict. -/
theorem reconcile_of_found (r : ConfigReconciler) {call : ReconcileCall}
    {config : IncidentaryConfig} (hconfig : call.config = .ok config) :
    r.reconcile call = (config.verdict (call.secretOf config)).run r call config := by
  unfold ConfigReconciler.reconcile IncidentaryConfig.verdict ReconcileCall.secretOf
  rw [hconfig]
  dsimp only
  cases call.secret config.namespaceName config.spec.apiKeySecretRef.name with
  | error failure => cases failure <;> rfl
  | ok secret =>
    dsimp only
    unfold StringMap.at
    cases secret.data.lookup config.spec.apiKeySecretRef.key with
    | none => rfl
    | some rawValue =>
      simp only [Option.getD_some, String.utf8ByteSize_eq_zero_iff]
      split_ifs <;> rfl

/-! ### The condition -/

/-- Setting a condition again, at another time, changes nothing. -/
theorem set_twice (setter setter' : StatusConditionSetter) (conditions : List Condition)
    (new : Condition) (later : Time) :
    setter'.set (setter.set conditions new) { new with lastTransitionTime := later } =
      setter.set conditions new := by
  have hagain : ∀ (before after : List Condition) (time : Time),
      (∀ condition ∈ before, condition.type ≠ new.type) →
      setter.set conditions new = before ++ { new with lastTransitionTime := time } :: after →
      setter'.set (setter.set conditions new) { new with lastTransitionTime := later } =
        setter.set conditions new := by
    intro before after time hbefore hset
    obtain ⟨kept, hkept, hsame⟩ := setter'.set_found before after
      { new with lastTransitionTime := time } { new with lastTransitionTime := later } hbefore rfl
    rw [hset, hkept, hsame rfl]
  rcases first_of_type_or_absent conditions new.type with
    ⟨before, existing, after, rfl, hbefore, htype⟩ | habsent
  · obtain ⟨time, hset, -⟩ := setter.set_found before after existing new hbefore htype
    exact hagain before after time hbefore hset
  · obtain ⟨time, hset⟩ := setter.set_absent conditions new habsent
    exact hagain conditions [] time habsent hset

theorem mark_mark (config : IncidentaryConfig) (setter setter' : StatusConditionSetter)
    (phase status reason message : String) (now later : Time) :
    (config.mark setter phase status reason message now).mark setter' phase status reason message
        later =
      config.mark setter phase status reason message now := by
  have htwice := set_twice setter setter' config.status.conditions
    { type := conditionTypeReady
      status := status
      observedGeneration := config.generation
      lastTransitionTime := now
      reason := reason
      message := message } later
  dsimp only at htwice
  simp only [IncidentaryConfig.mark, htwice]

/-! ### What a verdict writes -/

/-- A config without what `Reconcile` observes: the time of the last reconciliation and the
counts. -/
def IncidentaryConfig.unobserved (config : IncidentaryConfig) : IncidentaryConfig :=
  { config with
    status := { config.status with
      lastReconciliation := none
      watchedWorkloads := 0
      matchedServices := 0
      unmatchedWorkloads := 0 } }

/-- A verdict that leaves the config without a key. -/
def Verdict.isDegraded : Verdict → Bool
  | .degraded _ _ => true
  | .active _ => false

/-- A config whose status was submitted on a verdict. -/
def WrittenBy (verdict : Verdict) (config : IncidentaryConfig) : Prop :=
  ∃ r call before, (verdict.run r call before).2.submitted = some config

/-- What is submitted is a config of the same namespace and spec. -/
theorem Verdict.exists_submitted (verdict : Verdict) (r : ConfigReconciler) (call : ReconcileCall)
    (config : IncidentaryConfig) :
    ∃ after, (verdict.run r call config).2.submitted = some after ∧
      after.namespaceName = config.namespaceName ∧ after.spec = config.spec := by
  cases verdict with
  | degraded reason message => exact ⟨_, rfl, rfl, rfl⟩
  | active value => exact ⟨_, rfl, rfl, rfl⟩

/-- Submitted again on the same verdict, the config changes in what is observed only, and without a
key not at all. -/
theorem WrittenBy.submitted {verdict : Verdict} {config : IncidentaryConfig}
    (hwritten : WrittenBy verdict config) (r : ConfigReconciler) (call : ReconcileCall) :
    ∃ after, (verdict.run r call config).2.submitted = some after ∧
      after.unobserved = config.unobserved ∧ (verdict.isDegraded = true → after = config) := by
  obtain ⟨r₀, call₀, before, hbefore⟩ := hwritten
  cases verdict with
  | degraded reason message =>
    obtain rfl := Option.some.inj hbefore
    have hsame := mark_mark before call₀.conditionSetter call.conditionSetter phaseDegraded "False"
      reason message call₀.now call.now
    exact ⟨_, rfl, congrArg _ hsame, fun _ ↦ hsame⟩
  | active value =>
    obtain rfl := Option.some.inj hbefore
    exact ⟨_, rfl, mark_mark before.unobserved _ _ _ _ _ _ call₀.now call.now, (by rintro ⟨⟩)⟩

/-! ### Worlds that are reconciled -/

/-- The verdict does not depend on why a read failed. -/
theorem verdict_readSecret (world : World) (config : IncidentaryConfig)
    {failure failure' : Option String} (hsame : failure.isSome = failure'.isSome)
    (ns name : String) :
    config.verdict (world.readSecret failure ns name) =
      config.verdict (world.readSecret failure' ns name) := by
  cases failure <;> cases failure' <;> first | rfl | cases hsame

/-- The clients a verdict installs. -/
def Verdict.installed (verdict : Verdict) (r : ConfigReconciler) (config : IncidentaryConfig) :
    Provider :=
  match verdict with
  | .degraded _ _ => droppingRotation.provider
  | .active value => (r.keyRotation config value).provider

/-- A world in which a verdict is carried out: it is the verdict on the config whenever reads fail
as they did, the status was written on it, and the clients are those it installs. -/
structure CarriedOut (verdict : Verdict) (failed : Bool) (world : World) : Prop where
  verdict_eq : ∀ config, world.config = some config → ∀ failure : Option String,
    failure.isSome = failed → config.verdict (world.readSecret failure config.namespaceName
      config.spec.apiKeySecretRef.name) = verdict
  written : ∀ config, world.config = some config → WrittenBy verdict config
  provider : ∀ config, world.config = some config →
    world.provider = verdict.installed world.controller config

/-- A `Reconcile` of a world with a config, by the verdict. -/
theorem next_reconcile {world : World} {config : IncidentaryConfig}
    (hconfig : world.config = some config) {circumstances : Circumstances} {verdict : Verdict}
    (hverdict : config.verdict (world.readSecret circumstances.failure config.namespaceName
      config.spec.apiKeySecretRef.name) = verdict) :
    (world.next (.reconcile circumstances)).1 =
      { world with
        provider := verdict.installed world.controller config
        config := storedConfig (some config)
          (verdict.run world.controller (world.call circumstances) config).2.submitted
          circumstances.update } := by
  have hrun : world.controller.reconcile (world.call circumstances) =
      verdict.run world.controller (world.call circumstances) config := by
    rw [reconcile_of_found _ (call_config_of_some hconfig), ← hverdict]
    rfl
  have hrotator : (verdict.run world.controller (world.call circumstances) config).1.rotator =
      some (verdict.installed world.controller config) := by
    cases verdict <;> rfl
  simp only [World.next, hrun, hrotator, hconfig, Option.getD_some]

theorem next_reconcile_of_none {world : World} (hconfig : world.config = none)
    (circumstances : Circumstances) : (world.next (.reconcile circumstances)).1 = world := by
  obtain ⟨_, secrets, provider, ingestEndpoint, topologyEndpoint, servicesEndpoint⟩ := world
  obtain rfl : _ = none := hconfig
  obtain ⟨failure, conditionSetter, now, watchedWorkloads, counts, update⟩ := circumstances
  cases update <;> rfl

/-! ### Every further call -/

/-- Two worlds that differ at most in what `Reconcile` observes. -/
structure OnlyObserved (before after : World) : Prop where
  provider : after.provider = before.provider
  config : after.config.map IncidentaryConfig.unobserved =
    before.config.map IncidentaryConfig.unobserved

section Step

variable {verdict : Verdict} {failed : Bool} {world : World} {circumstances : Circumstances}

/-- A verdict that is carried out stays so when the status is submitted on it again. -/
theorem CarriedOut.of_submitted {config after : IncidentaryConfig} {provider : Provider}
    (hprovider : provider = verdict.installed world.controller config)
    (hverdict : ∀ failure : Option String, failure.isSome = failed →
      config.verdict (world.readSecret failure config.namespaceName
        config.spec.apiKeySecretRef.name) = verdict)
    (hns : after.namespaceName = config.namespaceName) (hspec : after.spec = config.spec)
    (hwritten : WrittenBy verdict after) :
    CarriedOut verdict failed { world with provider := provider, config := some after } := by
  refine ⟨?_, ?_, ?_⟩
  · rintro _ ⟨rfl⟩ failure hfailure
    rw [← hverdict failure hfailure]
    unfold IncidentaryConfig.verdict World.readSecret
    simp only [hns, hspec]
  · rintro _ ⟨rfl⟩
    exact hwritten
  · rintro _ ⟨rfl⟩
    rw [hprovider]
    unfold Verdict.installed ConfigReconciler.keyRotation World.controller
    simp only [hspec]

/-- A successful `Reconcile` carries out its verdict. Assumes: its status update succeeds. -/
theorem exists_carriedOut (hupdate : circumstances.update = .ok ()) :
    ∃ verdict, CarriedOut verdict circumstances.failure.isSome
        (world.next (.reconcile circumstances)).1 ∧
      (world.live circumstances.failure = none → world.config ≠ none →
        verdict.isDegraded = true) := by
  cases hconfig : world.config with
  | none =>
    rw [next_reconcile_of_none hconfig]
    refine ⟨.degraded "" "", ⟨?_, ?_, ?_⟩, fun _ h ↦ absurd rfl h⟩ <;> simp [hconfig]
  | some config =>
    obtain ⟨verdict, hverdict⟩ : ∃ verdict, config.verdict (world.readSecret circumstances.failure
      config.namespaceName config.spec.apiKeySecretRef.name) = verdict := ⟨_, rfl⟩
    obtain ⟨after, hafter, hns, hspec⟩ :=
      verdict.exists_submitted world.controller (world.call circumstances) config
    refine ⟨verdict, ?_, ?_⟩
    · rw [next_reconcile hconfig hverdict, hupdate, hafter]
      refine CarriedOut.of_submitted rfl ?_ hns hspec ⟨_, _, _, hafter⟩
      intro failure hfailure
      rw [verdict_readSecret world config hfailure, hverdict]
    · intro hlive _
      rw [← hverdict]
      unfold World.live at hlive
      rw [hconfig] at hlive
      dsimp only at hlive
      unfold IncidentaryConfig.verdict
      cases hread : world.readSecret circumstances.failure config.namespaceName
        config.spec.apiKeySecretRef.name with
      | error failure => cases failure <;> rfl
      | ok secret =>
        simp only [hread] at hlive
        split_ifs at hlive with hempty
        simp only [hempty, if_true]
        rfl

/-- A further `Reconcile` changes what it observes only, and without a key nothing. -/
theorem CarriedOut.step (hworld : CarriedOut verdict failed world)
    (hfailure : circumstances.failure.isSome = failed) :
    CarriedOut verdict failed (world.next (.reconcile circumstances)).1 ∧
      OnlyObserved world (world.next (.reconcile circumstances)).1 ∧
      (verdict.isDegraded = true → (world.next (.reconcile circumstances)).1 = world) := by
  cases hconfig : world.config with
  | none =>
    rw [next_reconcile_of_none hconfig]
    exact ⟨hworld, ⟨rfl, rfl⟩, fun _ ↦ rfl⟩
  | some config =>
    have hverdict := hworld.verdict_eq config hconfig
    have hprovider := hworld.provider config hconfig
    obtain ⟨after, hafter, hunobserved, hsame⟩ := (hworld.written config hconfig).submitted
      world.controller (world.call circumstances)
    obtain ⟨_, hsubmitted, hns, hspec⟩ :=
      verdict.exists_submitted world.controller (world.call circumstances) config
    obtain rfl := Option.some.inj (hafter.symm.trans hsubmitted)
    rw [next_reconcile hconfig (hverdict _ hfailure), hafter, ← hprovider]
    cases hupdate : circumstances.update with
    | ok done =>
      refine ⟨CarriedOut.of_submitted hprovider hverdict hns hspec ⟨_, _, _, hafter⟩,
        ⟨rfl, ?_⟩, fun hdegraded ↦ ?_⟩
      · rw [hconfig]
        exact congrArg some hunobserved
      · rw [hsame hdegraded]
        exact congrArg (fun config ↦ { world with config := config }) hconfig.symm
    | error text =>
      have hkept : { world with
          provider := world.provider
          config := storedConfig (some config) (some after) (.error text) } = world :=
        congrArg (fun config ↦ { world with config := config }) hconfig.symm
      rw [hkept]
      exact ⟨hworld, ⟨rfl, rfl⟩, fun _ ↦ rfl⟩

end Step

/-- Reconciliation settles. After a `Reconcile` whose status update succeeded, and as long as
nobody edits the config or its Secrets, every further one leaves the clients and the stored config
as they are, but for the time of the last reconciliation and the counts, and changes nothing at all
when there is no usable key. Assumes: the first update succeeds, and the further reads of the Secret
fail or not as the first did. -/
theorem repeated_reconcile_only_observes (world : World) {first : Circumstances}
    {rest : List Circumstances} (hupdate : first.update = .ok ())
    (hfailures : ∀ circumstances ∈ rest, circumstances.failure.isSome = first.failure.isSome) :
    ∀ step ∈ stepsFrom World.next (world.next (.reconcile first)).1 (rest.map Edit.reconcile),
      OnlyObserved step.before step.after ∧
        (world.live first.failure = none → step.after = step.before) := by
  obtain ⟨verdict, hcarried, hdegraded⟩ := @exists_carriedOut world first hupdate
  refine forall_mem_stepsFrom_of_invariant (fun state ↦
    CarriedOut verdict first.failure.isSome state ∧ (world.config = none → state.config = none))
    ?_ ?_ ⟨hcarried, fun hnone ↦ by rw [next_reconcile_of_none hnone]; exact hnone⟩
  · rintro state ⟨hstate, hnone⟩ edit hedit
    obtain ⟨circumstances, hmem, rfl⟩ := List.mem_map.mp hedit
    refine ⟨(hstate.step (hfailures circumstances hmem)).1, fun hconfig ↦ ?_⟩
    rw [next_reconcile_of_none (hnone hconfig)]
    exact hnone hconfig
  · rintro state ⟨hstate, hnone⟩ edit hedit
    obtain ⟨circumstances, hmem, rfl⟩ := List.mem_map.mp hedit
    obtain ⟨-, hobserved, hsame⟩ := hstate.step (hfailures circumstances hmem)
    refine ⟨hobserved, fun hlive ↦ ?_⟩
    by_cases hconfig : world.config = none
    · exact next_reconcile_of_none (hnone hconfig) circumstances
    · exact hsame (hdegraded hlive hconfig)

/-- The config of the payments team, with a Secret that has its key. -/
def keyedWorld : World where
  config := some paymentsConfig
  secrets := fun _ _ ↦ some ⟨AList.singleton "key" "sk_live_1"⟩
  provider := droppingRotation.provider

/-- A second `Reconcile` of the payments config, a moment later, stores another time. -/
theorem repeated_reconcile_only_observes_payments :
    (∃ step ∈ stepsFrom World.next (keyedWorld.next (.reconcile {})).1
        ([{ now := ⟨1⟩ }].map Edit.reconcile), step.after.config ≠ step.before.config) ∧
      ∀ step ∈ stepsFrom World.next (keyedWorld.next (.reconcile {})).1
        ([{ now := ⟨1⟩ }].map Edit.reconcile), OnlyObserved step.before step.after := by
  refine ⟨⟨_, List.mem_of_getElem? (i := 0) rfl, by decide⟩, fun step hstep ↦ ?_⟩
  exact (repeated_reconcile_only_observes keyedWorld rfl (by simp) step hstep).1

end IncidentaryOperator.Controller
