import IncidentaryOperator.Controller.Reconcile
import IncidentaryOperator.Foundation.Transducer

/-!
# The credential follows the live configuration

A history of one `IncidentaryConfig` name: the config and the Secrets are created, edited and
deleted, and `Reconcile` runs in between. After a `Reconcile` that read a key, all three clients of
the provider should be built from it, and after any other all three should be stubs.

Each path of `Reconcile` that finds the config does this. The path of a deleted config returns
before anything is rotated, so it does so only if the provider held stubs already
(`credential_live_iff`). A key in use when its config is deleted stays in use
(`key_survives_deletion`).
-/

set_option autoImplicit false
set_option relaxedAutoImplicit false

namespace IncidentaryOperator.Controller

open Foundation Kubernetes Client Discovery

/-! ### The key of a provider -/

/-- The key an ingest client sends, none for the stub. -/
def ingestKey : IngestClient → Option String
  | .http client => some client.apiKey
  | .dropping => none

/-- The key a topology client sends. -/
def topologyKey : TopologyClient → Option String
  | .http apiKey _ => some apiKey
  | .dropping => none

/-- The key a services client sends. -/
def servicesKey : ServicesClient → Option String
  | .http apiKey _ => some apiKey
  | .empty => none

/-- All three clients are built from one key, or all three are stubs. -/
structure UsesOnly (provider : Provider) (key : Option String) : Prop where
  ingest : ingestKey provider.ingest = key
  topo : topologyKey provider.topo = key
  svc : servicesKey provider.svc = key

theorem usesOnly_of_key {rotation : Rotation} (hkey : rotation.apiKey ≠ "") :
    UsesOnly rotation.provider (some rotation.apiKey) := by
  unfold Rotation.provider
  rw [if_neg hkey]
  refine ⟨?_, rfl, rfl⟩
  simp only [ingestKey, newHTTPClient_apiKey]

theorem usesOnly_dropping (provider : Provider) :
    UsesOnly (provider.rotate droppingRotation) none :=
  ⟨rfl, rfl, rfl⟩

/-! ### Histories -/

/-- The cluster as far as one config name goes, with the provider and the endpoints of the
controller. -/
structure World where
  config : Option IncidentaryConfig := none
  secrets : String → String → Option Secret := fun _ _ ↦ none
  provider : Provider
  ingestEndpoint : String := ""
  topologyEndpoint : String := ""
  servicesEndpoint : String := ""

/-- What the environment decides of a `Reconcile`: whether the read of the Secret fails, how a
condition is set, the clock, the observers, and the outcome of the status update. -/
structure Circumstances where
  failure : Option String := none
  conditionSetter : StatusConditionSetter := .first
  now : Time := .zero
  watchedWorkloads : Option ℤ := none
  counts : Option Counts := none
  update : Except String Unit := .ok ()

/-- A step of a history. -/
inductive Edit
  | setConfig (config : IncidentaryConfig)
  | deleteConfig
  | setSecret (ns name : String) (secret : Secret)
  | deleteSecret (ns name : String)
  | reconcile (circumstances : Circumstances)

/-- The read of a Secret. -/
def World.readSecret (world : World) (failure : Option String) : Read Secret := fun ns name ↦
  match failure with
  | some text => .error (.failed text)
  | none =>
    match world.secrets ns name with
    | some secret => .ok secret
    | none => .error .notFound

/-- What the calls of a `Reconcile` answer. -/
def World.call (world : World) (circumstances : Circumstances) : ReconcileCall where
  config :=
    match world.config with
    | some config => .ok config
    | none => .error .notFound
  secret := world.readSecret circumstances.failure
  conditionSetter := circumstances.conditionSetter
  now := circumstances.now
  watchedWorkloads := circumstances.watchedWorkloads
  counts := circumstances.counts
  update := circumstances.update

/-- The controller as `cmd/main.go` wires it. -/
def World.controller (world : World) : ConfigReconciler where
  rotator := some world.provider
  ingestEndpoint := world.ingestEndpoint
  topologyEndpoint := world.topologyEndpoint
  servicesEndpoint := world.servicesEndpoint

/-- The stored config after a status update: what was submitted, if the update succeeded. -/
def storedConfig (config submitted : Option IncidentaryConfig) (update : Except String Unit) :
    Option IncidentaryConfig :=
  match update with
  | .ok () => submitted.or config
  | .error _ => config

/-- One step, with the output of the `Reconcile` call if it is one. -/
def World.next (world : World) : Edit → World × Option ReconcileOutput
  | .setConfig config => ({ world with config := some config }, none)
  | .deleteConfig => ({ world with config := none }, none)
  | .setSecret ns name secret =>
    ({ world with
      secrets := Function.update world.secrets ns
        (Function.update (world.secrets ns) name (some secret)) }, none)
  | .deleteSecret ns name =>
    ({ world with
      secrets := Function.update world.secrets ns
        (Function.update (world.secrets ns) name none) }, none)
  | .reconcile circumstances =>
    let (controller, output) := world.controller.reconcile (world.call circumstances)
    ({ world with
      provider := controller.rotator.getD world.provider
      config := storedConfig world.config output.submitted circumstances.update }, some output)

/-! ### The live configuration -/

/-- The config and the key a `Reconcile` should put in use: the config exists and the entry it
refers to is read and not empty. -/
def World.live (world : World) (failure : Option String) : Option (IncidentaryConfig × String) :=
  match world.config with
  | none => none
  | some config =>
    match world.readSecret failure config.namespaceName config.spec.apiKeySecretRef.name with
    | .error _ => none
    | .ok secret =>
      if secret.data.at config.spec.apiKeySecretRef.key = "" then none
      else some (config, secret.data.at config.spec.apiKeySecretRef.key)

/-- The clients use the live key, with the workspace id of the config, or are stubs when there is
none. -/
def UsesLive (provider : Provider) : Option (IncidentaryConfig × String) → Prop
  | some (config, key) =>
    UsesOnly provider (some key) ∧ provider.workspaceID = config.spec.workspaceID
  | none => UsesOnly provider none

/-- After a `Reconcile` the provider uses what was live when it was called. -/
def Live (step : RunStep World Edit (Option ReconcileOutput)) : Prop :=
  ∀ circumstances, step.input = .reconcile circumstances →
    UsesLive step.after.provider (step.before.live circumstances.failure)

/-- A `Reconcile` that finds no config finds stubs. -/
def StubsWithoutConfig (step : RunStep World Edit (Option ReconcileOutput)) : Prop :=
  ∀ circumstances, step.input = .reconcile circumstances →
    step.before.config = none → UsesOnly step.before.provider none

/-! ### One `Reconcile` -/

section Reconcile

variable {world : World} {circumstances : Circumstances} {config : IncidentaryConfig}
  {result : ConfigReconciler × ReconcileOutput}

theorem call_config_of_some (hconfig : world.config = some config) :
    (world.call circumstances).config = .ok config := by
  simp [World.call, hconfig]

theorem call_config_of_none (hconfig : world.config = none) :
    (world.call circumstances).config = .error .notFound := by
  simp [World.call, hconfig]

theorem live_of_some (hconfig : world.config = some config) :
    world.live circumstances.failure =
      match (world.call circumstances).secretOf config with
      | .error _ => none
      | .ok secret =>
        if secret.data.at config.spec.apiKeySecretRef.key = "" then none
        else some (config, secret.data.at config.spec.apiKeySecretRef.key) := by
  unfold World.live
  rw [hconfig]
  rfl

/-- Every path that finds the config leaves the live credential in use. Assumes: the config
exists. -/
theorem usesLive_of_run (hconfig : world.config = some config)
    (hrun : ReconcileRun world.controller (world.call circumstances) result) :
    UsesLive (result.1.rotator.getD world.provider) (world.live circumstances.failure) := by
  have hcall : (world.call circumstances).config = .ok config := call_config_of_some hconfig
  rw [live_of_some hconfig]
  cases hrun with
  | configMissing hread =>
    rw [hread] at hcall
    cases hcall
  | configUnreadable hread =>
    rw [hread] at hcall
    cases hcall
  | secretMissing hread hsecret message =>
    obtain rfl := Except.ok.inj (hread.symm.trans hcall)
    rw [hsecret]
    exact usesOnly_dropping world.provider
  | secretUnreadable hread hsecret message =>
    obtain rfl := Except.ok.inj (hread.symm.trans hcall)
    rw [hsecret]
    exact usesOnly_dropping world.provider
  | keyMissing hread hsecret hkey message =>
    obtain rfl := Except.ok.inj (hread.symm.trans hcall)
    simp only [hsecret, hkey, if_true]
    exact usesOnly_dropping world.provider
  | activated hread hsecret hkey =>
    obtain rfl := Except.ok.inj (hread.symm.trans hcall)
    simp only [hsecret, hkey, if_false]
    exact ⟨usesOnly_of_key hkey, Rotation.provider_workspaceID _⟩

/-- Without a config nothing is rotated. -/
theorem rotator_of_missing (hconfig : world.config = none) :
    (world.controller.reconcile (world.call circumstances)).1.rotator = some world.provider := by
  unfold ConfigReconciler.reconcile
  rw [call_config_of_none hconfig]
  rfl

end Reconcile

theorem live_stepOn_iff (world : World) (edit : Edit) :
    Live (stepOn World.next world edit) ↔ StubsWithoutConfig (stepOn World.next world edit) := by
  refine forall_congr' fun circumstances ↦ forall_congr' fun hedit ↦ ?_
  change edit = _ at hedit
  subst hedit
  change UsesLive ((world.controller.reconcile (world.call circumstances)).1.rotator.getD
      world.provider) (world.live circumstances.failure) ↔
    (world.config = none → UsesOnly world.provider none)
  cases hconfig : world.config with
  | none =>
    have hlive : world.live circumstances.failure = none := by
      unfold World.live
      rw [hconfig]
    rw [rotator_of_missing hconfig, hlive]
    exact ⟨fun huses _ ↦ huses, fun huses ↦ huses rfl⟩
  | some config =>
    have huses := usesLive_of_run hconfig (reconcileRun_reconcile _ (world.call circumstances))
    exact iff_of_true huses fun hnone ↦ nomatch hnone

/-! ### Every history -/

/-- In a history from any provider, any config and any Secrets, every `Reconcile` leaves the live
credential in use exactly when every `Reconcile` that finds no config finds stubs. -/
theorem credential_live_iff (world : World) (edits : List Edit) :
    (∀ step ∈ stepsFrom World.next world edits, Live step) ↔
      ∀ step ∈ stepsFrom World.next world edits, StubsWithoutConfig step := by
  have hstep : ∀ step ∈ stepsFrom World.next world edits, (Live step ↔ StubsWithoutConfig step) :=
    forall_mem_stepsFrom (fun state edit _ ↦ live_stepOn_iff state edit) world
  exact forall₂_congr hstep

/-- A config that refers to the entry `key` of the Secret `incidentary`. -/
def paymentsConfig : IncidentaryConfig where
  namespaceName := "ops"
  spec := { apiKeySecretRef := ⟨"incidentary", "key"⟩, workspaceID := "org_1" }

/-- The config is installed with its Secret, reconciled, deleted, and reconciled again. -/
def installThenDelete : List Edit :=
  [.setSecret "ops" "incidentary" ⟨AList.singleton "key" "sk_live_1"⟩, .setConfig paymentsConfig,
    .reconcile {}, .deleteConfig, .reconcile {}]

/-- The key of a deleted config stays in use: the `Reconcile` after the deletion leaves all three
clients built from it. -/
theorem key_survives_deletion :
    ∃ step ∈ stepsFrom World.next { provider := droppingRotation.provider } installThenDelete,
      step.input = .reconcile {} ∧ step.before.config = none ∧
      UsesOnly step.after.provider (some "sk_live_1") ∧ ¬ Live step := by
  refine ⟨_, List.mem_of_getElem? (i := 4) rfl, rfl, rfl, ⟨rfl, rfl, rfl⟩, fun hlive ↦ ?_⟩
  have hstubs : some "sk_live_1" = none := (hlive {} rfl).ingest
  cases hstubs

end IncidentaryOperator.Controller
