import IncidentaryOperator.Controller.LiveCredential
import IncidentaryOperator.Foundation.Machine
import IncidentaryOperator.Foundation.WorkQueue

/-!
# The controller's work queue

`SetupWithManager` wires `Reconcile` to two watches: a change of an `IncidentaryConfig` queues its
name, and a change of a Secret queues the configs that `findConfigsForSecret` finds for it. One
worker takes names from the queue, and what `Reconcile` returns may queue the name again later.

The machine has the cache the reads answer from, the changes the handlers have not seen yet, the
queue, and the worker, which reads the config and the Secret at different times. The queue is the
one of the controller runtime, of which only the documented behaviour is assumed (`WorkQueue`). The
cache changes at any moment; a status update reaches it as such a change.

`step` is the executable step, and `Move` says once, case by case, what it can do (`move_of_step`).
-/

set_option autoImplicit false
set_option relaxedAutoImplicit false

namespace IncidentaryOperator.Controller

open Foundation Kubernetes Client Discovery

/-! ### The machine -/

/-- `types.NamespacedName`. -/
structure NamespacedName where
  ns : String
  name : String
  deriving DecidableEq

/-- The configs in the cache. -/
abbrev Configs := AList (fun _ : NamespacedName ↦ IncidentaryConfig)

/-- The Secret a config refers to. -/
def IncidentaryConfig.secretKey (config : IncidentaryConfig) : NamespacedName :=
  ⟨config.namespaceName, config.spec.apiKeySecretRef.name⟩

/-- `findConfigsForSecret`: the configs in the namespace of the Secret that refer to it, none when
they cannot be listed. -/
def findConfigsForSecret (listed : Except String Configs) (obj : NamespacedName) :
    List NamespacedName :=
  match listed with
  | .error _ => []
  | .ok configs =>
    (configs.entries.filter fun entry ↦ entry.2.namespaceName = obj.ns ∧
      entry.2.spec.apiKeySecretRef.name = obj.name).map Sigma.fst

/-- What a `Reconcile` that found its config read. -/
structure Reading where
  config : IncidentaryConfig
  secret : Except ReadError Secret

/-- Where the worker stands: between names, before the read of the config, or after it. -/
inductive Worker
  | idle
  | started (key : NamespacedName)
  | fetched (key : NamespacedName) (config : Except ReadError IncidentaryConfig)

/-- The name the worker has. -/
def Worker.key : Worker → Option NamespacedName
  | .idle => none
  | .started key => some key
  | .fetched key _ => some key

/-- The controller: the cache, the changes not handled yet in order, the queue, the worker, and the
provider with the endpoints. `last` is what the last `Reconcile` of each name read, `lastFound` the
last that found its config, and `lost` the names that were not queued for a change of their Secret
because the configs could not be listed, and that the worker has not taken since; no step reads
them. -/
structure ControlPlane (names : WorkQueue NamespacedName) where
  configs : Configs := ∅
  secrets : String → String → Option Secret := fun _ _ ↦ none
  configNotices : List NamespacedName := []
  secretNotices : List NamespacedName := []
  queue : names.State := names.empty
  worker : Worker := .idle
  provider : Provider
  ingestEndpoint : String := ""
  topologyEndpoint : String := ""
  servicesEndpoint : String := ""
  last : NamespacedName → Option (Except ReadError Reading) := fun _ ↦ none
  lastFound : Option (NamespacedName × Reading) := none
  lost : Finset NamespacedName := ∅

/-- A step: the cache changes, a handler sees a change, the worker moves on, or a wait is over. -/
inductive QueueAction
  | setConfig (name : String) (config : IncidentaryConfig)
  | deleteConfig (key : NamespacedName)
  | setSecret (key : NamespacedName) (secret : Option Secret)
  | handleConfig
  | handleSecret (listError : Option String)
  | start (key : NamespacedName)
  | fetch (failure : Option String)
  | conclude (circumstances : Circumstances)
  | fire (key : NamespacedName)

namespace ControlPlane

variable {names : WorkQueue NamespacedName}

/-- The cluster as `Reconcile` sees it after its read of the config. -/
def world (s : ControlPlane names) (config : Except ReadError IncidentaryConfig) : World where
  config := config.toOption
  secrets := s.secrets
  provider := s.provider
  ingestEndpoint := s.ingestEndpoint
  topologyEndpoint := s.topologyEndpoint
  servicesEndpoint := s.servicesEndpoint

/-- What the calls of a `Reconcile` answer. -/
def call (s : ControlPlane names) (config : Except ReadError IncidentaryConfig)
    (circumstances : Circumstances) : ReconcileCall :=
  { (s.world config).call circumstances with config := config }

/-- The read of a config. -/
def readConfig (s : ControlPlane names) (key : NamespacedName) (failure : Option String) :
    Except ReadError IncidentaryConfig :=
  match failure with
  | some text => .error (.failed text)
  | none =>
    match s.configs.lookup key with
    | some config => .ok config
    | none => .error .notFound

/-- What a `Reconcile` read. -/
def reading (s : ControlPlane names) (config : Except ReadError IncidentaryConfig)
    (circumstances : Circumstances) : Except ReadError Reading :=
  config.map fun found ↦ ⟨found, (s.call config circumstances).secretOf found⟩

/-- The controller queues a name again after an error, and after the interval it is given. -/
def requeues : Except String ℤ → Bool
  | .error _ => true
  | .ok requeueAfter => requeueAfter > 0

/-- `Reconcile` from its read of the Secret on. -/
def finish (s : ControlPlane names) (key : NamespacedName)
    (config : Except ReadError IncidentaryConfig) (circumstances : Circumstances) :
    ControlPlane names :=
  let (controller, output) := (s.world config).controller.reconcile (s.call config circumstances)
  { s with
    worker := .idle
    provider := controller.rotator.getD s.provider
    queue := if requeues output.returned then names.addAfter s.queue key else s.queue
    last := Function.update s.last key (some (s.reading config circumstances))
    lastFound :=
      match s.reading config circumstances with
      | .ok reading => some (key, reading)
      | .error _ => s.lastFound }

/-- The configs `findConfigsForSecret` lists. -/
def listed (s : ControlPlane names) (listError : Option String) : Except String Configs :=
  match listError with
  | some text => .error text
  | none => .ok s.configs

/-- A config is created or edited in the cache. -/
def setConfig (s : ControlPlane names) (key : NamespacedName) (config : IncidentaryConfig) :
    ControlPlane names :=
  { s with
    configs := s.configs.insert key config
    configNotices := s.configNotices ++ [key] }

/-- A config is deleted. -/
def deleteConfig (s : ControlPlane names) (key : NamespacedName) : ControlPlane names :=
  { s with
    configs := s.configs.erase key
    configNotices := s.configNotices ++ [key] }

/-- A Secret is created, edited or deleted. -/
def setSecret (s : ControlPlane names) (key : NamespacedName) (secret : Option Secret) :
    ControlPlane names :=
  { s with
    secrets := Function.update s.secrets key.ns
      (Function.update (s.secrets key.ns) key.name secret)
    secretNotices := s.secretNotices ++ [key] }

/-- The handler of the configs queues the name of the first change. -/
def queueConfig (s : ControlPlane names) (key : NamespacedName) (rest : List NamespacedName) :
    ControlPlane names :=
  { s with
    configNotices := rest
    queue := names.add s.queue key }

/-- The handler of the Secrets queues the names `findConfigsForSecret` maps the first change to. The
names it would have found are lost when the configs cannot be listed. -/
def queueForSecret (s : ControlPlane names) (key : NamespacedName) (rest : List NamespacedName)
    (listError : Option String) : ControlPlane names :=
  { s with
    secretNotices := rest
    queue := names.addAll s.queue (findConfigsForSecret (s.listed listError) key)
    lost :=
      if listError.isSome then s.lost ∪ (findConfigsForSecret (.ok s.configs) key).toFinset
      else s.lost }

/-- The worker takes a name from the queue, which is then in the given state. -/
def take (s : ControlPlane names) (key : NamespacedName) (queue : names.State) :
    ControlPlane names :=
  { s with
    worker := .started key
    queue := queue
    lost := s.lost.erase key }

/-- The worker reads the config. -/
def fetch (s : ControlPlane names) (key : NamespacedName) (failure : Option String) :
    ControlPlane names :=
  { s with worker := .fetched key (s.readConfig key failure) }

/-- One step, `none` when it is not enabled. -/
def step (s : ControlPlane names) : QueueAction → Option (ControlPlane names)
  | .setConfig name config => some (s.setConfig ⟨config.namespaceName, name⟩ config)
  | .deleteConfig key => some (s.deleteConfig key)
  | .setSecret key secret => some (s.setSecret key secret)
  | .handleConfig =>
    match s.configNotices with
    | [] => none
    | key :: rest => some (s.queueConfig key rest)
  | .handleSecret listError =>
    match s.secretNotices with
    | [] => none
    | key :: rest => some (s.queueForSecret key rest listError)
  | .start key =>
    match s.worker with
    | .idle => (names.get s.queue key).map (s.take key)
    | _ => none
  | .fetch failure =>
    match s.worker with
    | .started key => some (s.fetch key failure)
    | _ => none
  | .conclude circumstances =>
    match s.worker with
    | .fetched key config => some (s.finish key config circumstances)
    | _ => none
  | .fire key => (names.elapse s.queue key).map fun queue ↦ { s with queue := queue }

end ControlPlane

/-- The controller as a machine, from any provider and any endpoints, with an empty cache. -/
def queueMachine (names : WorkQueue NamespacedName) : Machine (ControlPlane names) QueueAction where
  start := fun s ↦ ∃ provider ingest topology services, s =
    { provider := provider
      ingestEndpoint := ingest
      topologyEndpoint := topology
      servicesEndpoint := services }
  step := ControlPlane.step

/-! ### What a step can do -/

section Moves

variable {names : WorkQueue NamespacedName}

/-- The cases of an enabled step. -/
inductive Move (s : ControlPlane names) : ControlPlane names → Prop
  | setConfig (key : NamespacedName) (config : IncidentaryConfig) : Move s (s.setConfig key config)
  | deleteConfig (key : NamespacedName) : Move s (s.deleteConfig key)
  | setSecret (key : NamespacedName) (secret : Option Secret) : Move s (s.setSecret key secret)
  | queueConfig {key : NamespacedName} {rest : List NamespacedName}
      (hnotices : s.configNotices = key :: rest) : Move s (s.queueConfig key rest)
  | queueForSecret {key : NamespacedName} {rest : List NamespacedName}
      (hnotices : s.secretNotices = key :: rest) (listError : Option String) :
      Move s (s.queueForSecret key rest listError)
  | take {key : NamespacedName} {queue : names.State} (hworker : s.worker = .idle)
      (hget : names.get s.queue key = some queue) : Move s (s.take key queue)
  | fetch {key : NamespacedName} (hworker : s.worker = .started key) (failure : Option String) :
      Move s (s.fetch key failure)
  | finish {key : NamespacedName} {config : Except ReadError IncidentaryConfig}
      (hworker : s.worker = .fetched key config) (circumstances : Circumstances) :
      Move s (s.finish key config circumstances)
  | fire {key : NamespacedName} {queue : names.State}
      (helapse : names.elapse s.queue key = some queue) : Move s { s with queue := queue }

theorem move_of_step {s next : ControlPlane names} {action : QueueAction}
    (hstep : s.step action = some next) : Move s next := by
  cases action with
  | setConfig name config =>
    cases hstep
    exact .setConfig _ config
  | deleteConfig key =>
    cases hstep
    exact .deleteConfig key
  | setSecret key secret =>
    cases hstep
    exact .setSecret key secret
  | handleConfig =>
    simp only [ControlPlane.step] at hstep
    split at hstep
    · cases hstep
    · next hnotices =>
      cases hstep
      exact .queueConfig hnotices
  | handleSecret listError =>
    simp only [ControlPlane.step] at hstep
    split at hstep
    · cases hstep
    · next hnotices =>
      cases hstep
      exact .queueForSecret hnotices listError
  | start key =>
    simp only [ControlPlane.step] at hstep
    split at hstep
    · next hworker =>
      obtain ⟨queue, hget, rfl⟩ := Option.map_eq_some_iff.mp hstep
      exact .take hworker hget
    · cases hstep
  | fetch failure =>
    simp only [ControlPlane.step] at hstep
    split at hstep
    · next hworker =>
      cases hstep
      exact .fetch hworker failure
    · cases hstep
  | conclude circumstances =>
    simp only [ControlPlane.step] at hstep
    split at hstep
    · next hworker =>
      cases hstep
      exact .finish hworker circumstances
    · cases hstep
  | fire key =>
    obtain ⟨queue, helapse, rfl⟩ := Option.map_eq_some_iff.mp hstep
    exact .fire helapse

/-- The invariant rule of the controller, by cases of `Move`. -/
theorem queue_invariant {motive : ControlPlane names → Prop}
    (hinitial : ∀ provider ingest topology services, motive
      { provider := provider
        ingestEndpoint := ingest
        topologyEndpoint := topology
        servicesEndpoint := services })
    (hstep : ∀ s next, motive s → Move s next → motive next)
    {s : ControlPlane names} (hreach : (queueMachine names).Reachable s) : motive s := by
  refine hreach.invariant ?_ fun state action next _ hmotive hnext ↦
    hstep state next hmotive (move_of_step hnext)
  rintro state ⟨provider, ingest, topology, services, rfl⟩
  exact hinitial provider ingest topology services

end Moves

end IncidentaryOperator.Controller
