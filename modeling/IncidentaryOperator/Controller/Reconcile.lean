import IncidentaryOperator.Client.Provider
import IncidentaryOperator.Discovery.Reconciler

/-!
# The controller

`internal/controller/incidentaryconfig_controller.go`: `Reconcile` reads an `IncidentaryConfig` and
the Secret it refers to, rotates the credentials of the provider to the key it finds, or to none,
and submits the status.

A call is a function of the provider and of what the calls it makes answer (`ReconcileCall`). What
it does to the outside is its output: the `Rotate` calls, the object whose status it submits, and
what it returns. `ReconcileRun` says once, case by case, what a call can do.

The rotator is the provider, as `cmd/main.go` wires it, or nil. The value of a Secret entry is taken
as the string the code converts it to. The fields of the resource that the call does not read are
left out, and so is the log.
-/

set_option autoImplicit false
set_option relaxedAutoImplicit false

namespace IncidentaryOperator.Controller

open Foundation Kubernetes Client Discovery

/-! ### The resources -/

/-- `SecretKeyRef`. -/
structure SecretKeyRef where
  name : String
  key : String
  deriving DecidableEq

/-- `metav1.Condition`. -/
structure Condition where
  type : String
  status : String
  observedGeneration : ℤ := 0
  lastTransitionTime : Time := .zero
  reason : String := ""
  message : String := ""
  deriving DecidableEq

/-- `IncidentaryConfigSpec`, as far as it is read. -/
structure IncidentaryConfigSpec where
  apiKeySecretRef : SecretKeyRef
  workspaceID : String
  reconciliationIntervalSeconds : ℤ := 0
  deriving DecidableEq

/-- `IncidentaryConfigStatus`. -/
structure IncidentaryConfigStatus where
  phase : String := ""
  lastReconciliation : Option Time := none
  watchedWorkloads : ℤ := 0
  matchedServices : ℤ := 0
  unmatchedWorkloads : ℤ := 0
  conditions : List Condition := []
  deriving DecidableEq

/-- `IncidentaryConfig`. -/
structure IncidentaryConfig where
  namespaceName : String
  generation : ℤ := 0
  spec : IncidentaryConfigSpec
  status : IncidentaryConfigStatus := {}
  deriving DecidableEq

/-- A Secret, by its data. -/
structure Secret where
  data : StringMap
  deriving DecidableEq

/-! ### The status -/

/-- The phase of a config that was reconciled. -/
def phaseRunning : String :=
  "Running"

/-- The phase of a config without a usable key. -/
def phaseDegraded : String :=
  "Degraded"

/-- The type of the condition the controller sets. -/
def conditionTypeReady : String :=
  "Ready"

/-- The reasons of the `Ready` condition. -/
def reasonReconciled : String :=
  "Reconciled"

@[inherit_doc reasonReconciled]
def reasonSecretNotFound : String :=
  "SecretNotFound"

@[inherit_doc reasonReconciled]
def reasonInvalidAPIKey : String :=
  "InvalidAPIKey"

@[inherit_doc reasonReconciled]
def reasonReadError : String :=
  "ReadError"

/-- The wait before a retry of a degraded config. -/
def requeueAfterError : ℤ :=
  30 * second

/-- The interval in seconds when the spec sets none. -/
def defaultReconciliationIntervalSeconds : ℤ :=
  300

/-- `informers.WatchSet`, by the kinds of its entries. -/
def watchSet : List String :=
  ["Pod", "core Event", "Event", "Node", "Service", "Namespace", "Deployment", "StatefulSet",
    "DaemonSet", "ReplicaSet", "HorizontalPodAutoscaler", "Job", "CronJob", "Ingress"]

/-- What is assumed of `meta.SetStatusCondition`, as it is documented. The first condition of the
type gets the fields of the new one, its transition time only when the status changes. Without a
condition of the type the new one is appended. -/
structure StatusConditionSetter where
  set : List Condition → Condition → List Condition
  set_found : ∀ (before after : List Condition) (existing new : Condition),
    (∀ condition ∈ before, condition.type ≠ new.type) → existing.type = new.type →
    ∃ time, set (before ++ existing :: after) new =
        before ++ { new with lastTransitionTime := time } :: after ∧
      (existing.status = new.status → time = existing.lastTransitionTime)
  set_absent : ∀ (conditions : List Condition) (new : Condition),
    (∀ condition ∈ conditions, condition.type ≠ new.type) →
    ∃ time, set conditions new = conditions ++ [{ new with lastTransitionTime := time }]

/-- The condition list with the first condition of the type updated, or the new one appended. -/
def updateFirst : List Condition → Condition → List Condition
  | [], new => [new]
  | existing :: rest, new =>
    if existing.type = new.type then
      { new with
        lastTransitionTime :=
          if existing.status = new.status then existing.lastTransitionTime
          else new.lastTransitionTime } :: rest
    else existing :: updateFirst rest new

/-- The scan for the type passes the conditions of other types. -/
theorem updateFirst_append {before : List Condition} {new : Condition}
    (hbefore : ∀ condition ∈ before, condition.type ≠ new.type) (rest : List Condition) :
    updateFirst (before ++ rest) new = before ++ updateFirst rest new := by
  induction before with
  | nil => rfl
  | cons condition others ih =>
    rw [List.cons_append, updateFirst, if_neg (hbefore condition List.mem_cons_self),
      ih fun other hother ↦ hbefore other (List.mem_cons_of_mem _ hother), List.cons_append]

/-- A setter with the documented behaviour. -/
def StatusConditionSetter.first : StatusConditionSetter where
  set := updateFirst
  set_found before after existing new hbefore htype := by
    refine ⟨if existing.status = new.status then existing.lastTransitionTime
      else new.lastTransitionTime, ?_, fun hstatus ↦ if_pos hstatus⟩
    rw [updateFirst_append hbefore, updateFirst, if_pos htype]
  set_absent conditions new habsent := by
    refine ⟨new.lastTransitionTime, ?_⟩
    have hscan := updateFirst_append habsent []
    rwa [List.append_nil] at hscan

/-- A condition list has a first condition of a type, or none. -/
theorem first_of_type_or_absent (conditions : List Condition) (type : String) :
    (∃ before existing after, conditions = before ++ existing :: after ∧
        (∀ condition ∈ before, condition.type ≠ type) ∧ existing.type = type) ∨
      ∀ condition ∈ conditions, condition.type ≠ type := by
  cases hfind : conditions.find? (fun condition ↦ condition.type = type) with
  | none =>
    right
    simpa using hfind
  | some existing =>
    obtain ⟨htype, before, after, hsplit, hbefore⟩ := List.find?_eq_some_iff_append.mp hfind
    exact .inl ⟨before, existing, after, hsplit, by simpa using hbefore, by simpa using htype⟩

/-- `reconciliationInterval`. -/
def reconciliationInterval (config : IncidentaryConfig) : ℤ :=
  let seconds := config.spec.reconciliationIntervalSeconds
  (if seconds ≤ 0 then defaultReconciliationIntervalSeconds else seconds) * second

/-- Sets the phase and the `Ready` condition. -/
def IncidentaryConfig.mark (config : IncidentaryConfig) (setter : StatusConditionSetter)
    (phase status reason message : String) (now : Time) : IncidentaryConfig :=
  { config with
    status := { config.status with
      phase := phase
      conditions := setter.set config.status.conditions
        { type := conditionTypeReady
          status := status
          observedGeneration := config.generation
          lastTransitionTime := now
          reason := reason
          message := message } } }

/-! ### One call -/

/-- The part of `IncidentaryConfigReconciler` that a call reads or changes: the rotator, if there is
one, and the endpoints captured at startup. -/
structure ConfigReconciler where
  rotator : Option Provider
  ingestEndpoint : String := ""
  topologyEndpoint : String := ""
  servicesEndpoint : String := ""
  deriving DecidableEq

/-- What the calls of one `Reconcile` answer: the read of the config, the reads of Secrets, the
setter of conditions, the clock, the two observers, nil when they are not wired, and the update of
the status. -/
structure ReconcileCall where
  conditionSetter : StatusConditionSetter := .first
  config : Except ReadError IncidentaryConfig
  secret : Read Secret
  now : Time
  watchedWorkloads : Option ℤ
  counts : Option Counts
  update : Except String Unit

/-- What a call does: the `Rotate` calls it makes, the config whose status it submits, and the
requeue interval or the error it returns. -/
structure ReconcileOutput where
  rotations : List Rotation := []
  submitted : Option IncidentaryConfig := none
  returned : Except String ℤ

/-- The arguments of `rotateToDroppingStubs`. -/
def droppingRotation : Rotation where
  apiKey := ""
  workspaceID := ""

/-- The arguments of the rotation to a key. -/
def ConfigReconciler.keyRotation (r : ConfigReconciler) (config : IncidentaryConfig)
    (value : String) : Rotation where
  apiKey := value
  workspaceID := config.spec.workspaceID
  ingestEP := r.ingestEndpoint
  topoEP := r.topologyEndpoint
  svcEP := r.servicesEndpoint

/-- `Rotator.Rotate`, unless the rotator is nil. -/
def ConfigReconciler.rotate (r : ConfigReconciler) (rotation : Rotation) : ConfigReconciler :=
  { r with rotator := r.rotator.map fun provider ↦ provider.rotate rotation }

/-- The calls a guarded rotation makes. -/
def ConfigReconciler.rotations (r : ConfigReconciler) (rotation : Rotation) : List Rotation :=
  if r.rotator.isSome then [rotation] else []

/-- What a call returns for the outcome of the status update. -/
def requeueUnless (update : Except String Unit) (requeueAfter : ℤ) : Except String ℤ :=
  update.map fun _ ↦ requeueAfter

/-- A degraded path: the stubs are installed and `markDegraded` submits the status. The time of the
last reconciliation and the counts stay. -/
def ConfigReconciler.degrade (r : ConfigReconciler) (call : ReconcileCall)
    (config : IncidentaryConfig) (reason message : String) :
    ConfigReconciler × ReconcileOutput :=
  (r.rotate droppingRotation,
    { rotations := r.rotations droppingRotation
      submitted := some
        (config.mark call.conditionSetter phaseDegraded "False" reason message call.now)
      returned := requeueUnless call.update requeueAfterError })

/-- The status fields the observers fill, those of an observer that is not wired left as they
are. -/
def IncidentaryConfigStatus.observe (status : IncidentaryConfigStatus) (call : ReconcileCall) :
    IncidentaryConfigStatus :=
  { status with
    lastReconciliation := some call.now
    watchedWorkloads := call.watchedWorkloads.getD status.watchedWorkloads
    matchedServices := (call.counts.map Counts.matched).getD status.matchedServices
    unmatchedWorkloads := (call.counts.map Counts.mismatched).getD status.unmatchedWorkloads }

/-- The happy path: the key is installed and the status submitted. -/
def ConfigReconciler.activate (r : ConfigReconciler) (call : ReconcileCall)
    (config : IncidentaryConfig) (value : String) : ConfigReconciler × ReconcileOutput :=
  (r.rotate (r.keyRotation config value),
    { rotations := r.rotations (r.keyRotation config value)
      submitted := some
        (IncidentaryConfig.mark { config with status := config.status.observe call }
          call.conditionSetter phaseRunning "True" reasonReconciled
          s!"informers watching {watchSet.length} resource types" call.now)
      returned := requeueUnless call.update (reconciliationInterval config) })

/-- `IncidentaryConfigReconciler.Reconcile`. -/
def ConfigReconciler.reconcile (r : ConfigReconciler) (call : ReconcileCall) :
    ConfigReconciler × ReconcileOutput :=
  match call.config with
  | .error .notFound => (r, { returned := .ok 0 })
  | .error (.failed text) => (r, { returned := .error text })
  | .ok config =>
    let ns := config.namespaceName
    let name := config.spec.apiKeySecretRef.name
    let key := config.spec.apiKeySecretRef.key
    match call.secret ns name with
    | .error .notFound =>
      r.degrade call config reasonSecretNotFound
        s!"Secret {quoted name} not found in namespace {quoted ns}"
    | .error (.failed _) =>
      r.degrade call config reasonReadError
        s!"error reading Secret {quoted name}; check operator logs for details"
    | .ok secret =>
      match secret.data.lookup key with
      | none =>
        r.degrade call config reasonInvalidAPIKey
          s!"Secret {quoted name} key {quoted key} is empty"
      | some rawValue =>
        if rawValue.utf8ByteSize = 0 then
          r.degrade call config reasonInvalidAPIKey
            s!"Secret {quoted name} key {quoted key} is empty"
        else r.activate call config rawValue

/-! ### What a call can do -/

/-- The read of the Secret a config refers to. -/
def ReconcileCall.secretOf (call : ReconcileCall) (config : IncidentaryConfig) :
    Except ReadError Secret :=
  call.secret config.namespaceName config.spec.apiKeySecretRef.name

/-- The cases of a call: there is no config, it cannot be read, its Secret is missing, unreadable or
without a key, or the key is installed. -/
inductive ReconcileRun (r : ConfigReconciler) (call : ReconcileCall) :
    ConfigReconciler × ReconcileOutput → Prop
  | configMissing (hconfig : call.config = .error .notFound) :
      ReconcileRun r call (r, { returned := .ok 0 })
  | configUnreadable {text : String} (hconfig : call.config = .error (.failed text)) :
      ReconcileRun r call (r, { returned := .error text })
  | secretMissing {config : IncidentaryConfig} (hconfig : call.config = .ok config)
      (hsecret : call.secretOf config = .error .notFound) (message : String) :
      ReconcileRun r call (r.degrade call config reasonSecretNotFound message)
  | secretUnreadable {config : IncidentaryConfig} {text : String}
      (hconfig : call.config = .ok config) (hsecret : call.secretOf config = .error (.failed text))
      (message : String) : ReconcileRun r call (r.degrade call config reasonReadError message)
  | keyMissing {config : IncidentaryConfig} {secret : Secret} (hconfig : call.config = .ok config)
      (hsecret : call.secretOf config = .ok secret)
      (hkey : secret.data.at config.spec.apiKeySecretRef.key = "") (message : String) :
      ReconcileRun r call (r.degrade call config reasonInvalidAPIKey message)
  | activated {config : IncidentaryConfig} {secret : Secret} (hconfig : call.config = .ok config)
      (hsecret : call.secretOf config = .ok secret)
      (hkey : secret.data.at config.spec.apiKeySecretRef.key ≠ "") :
      ReconcileRun r call
        (r.activate call config (secret.data.at config.spec.apiKeySecretRef.key))

theorem reconcileRun_reconcile (r : ConfigReconciler) (call : ReconcileCall) :
    ReconcileRun r call (r.reconcile call) := by
  unfold ConfigReconciler.reconcile
  cases hconfig : call.config with
  | error failure =>
    cases failure with
    | notFound => exact .configMissing hconfig
    | failed text => exact .configUnreadable hconfig
  | ok config =>
    dsimp only
    cases hsecret : call.secret config.namespaceName config.spec.apiKeySecretRef.name with
    | error failure =>
      cases failure with
      | notFound => exact .secretMissing hconfig hsecret _
      | failed text => exact .secretUnreadable hconfig hsecret _
    | ok secret =>
      cases hvalue : secret.data.lookup config.spec.apiKeySecretRef.key with
      | none =>
        simp only [hvalue]
        exact .keyMissing hconfig hsecret (by simp [StringMap.at, hvalue]) _
      | some rawValue =>
        have hat : secret.data.at config.spec.apiKeySecretRef.key = rawValue := by
          simp [StringMap.at, hvalue]
        simp only [hvalue]
        split_ifs with hempty
        · rw [String.utf8ByteSize_eq_zero_iff] at hempty
          exact .keyMissing hconfig hsecret (hat.trans hempty) _
        · rw [String.utf8ByteSize_eq_zero_iff, ← hat] at hempty
          have hrun := ReconcileRun.activated (r := r) hconfig hsecret hempty
          rwa [hat] at hrun

end IncidentaryOperator.Controller
