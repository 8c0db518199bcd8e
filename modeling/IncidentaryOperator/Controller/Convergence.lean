import IncidentaryOperator.Controller.StatusInStep
import IncidentaryOperator.Controller.WorkQueue

/-!
# Every configuration is reconciled

The handlers, the queue and the worker lose no change. When nothing is on its way, every config is
due again, and its last `Reconcile` read it and its Secret as they are, unless a read failed, or
`findConfigsForSecret` could not list the configs when its Secret changed and it was not reconciled
since (`settled_config_reconciled`). And then the clients use the live credential of the config that
was reconciled last (`settled_credential_live`).

The invariant is `Covered`: a config is in the queue, with the worker, or settled. The worker's case
stands apart because the config may change back, after the worker read it, to what the record says:
then only the queue tells that it has to be read again.
-/

set_option autoImplicit false
set_option relaxedAutoImplicit false

namespace IncidentaryOperator.Controller

open Foundation Kubernetes Client Discovery

variable {names : WorkQueue NamespacedName}

/-! ### Names that are on their way -/

/-- The read of the Secret of a config. -/
def ControlPlane.readSecret (s : ControlPlane names) (config : IncidentaryConfig) :
    Except ReadError Secret :=
  (s.world (.ok config)).readSecret none config.namespaceName config.spec.apiKeySecretRef.name

/-- The last `Reconcile` of a name read the config and its Secret as they are. -/
def ReadCurrent (s : ControlPlane names) (key : NamespacedName) (config : IncidentaryConfig) :
    Prop :=
  s.last key = some (.ok ⟨config, s.readSecret config⟩)

/-- The last `Reconcile` of a name could not read the config or its Secret. -/
def ReadFailed (s : ControlPlane names) (key : NamespacedName) : Prop :=
  ∃ text, s.last key = some (.error (.failed text)) ∨
    ∃ config, s.last key = some (.ok ⟨config, .error (.failed text)⟩)

/-- A name is in the queue or about to be. -/
def Scheduled (s : ControlPlane names) (key : NamespacedName) : Prop :=
  names.Queued s.queue key ∨ key ∈ s.configNotices

/-- The worker has the name, and has not read the config yet, or read it as it is, or failed to. -/
def Worker.covers (worker : Worker) (key : NamespacedName) (config : IncidentaryConfig) : Prop :=
  worker = .started key ∨ worker = .fetched key (.ok config) ∨
    ∃ text, worker = .fetched key (.error (.failed text))

/-- The worker is elsewhere and the name waits for its next period, after a `Reconcile` that knew
what there is to know, but for a change of the Secret that is on its way, or for which the name was
not queued. -/
structure Settled (s : ControlPlane names) (key : NamespacedName) (config : IncidentaryConfig) :
    Prop where
  away : s.worker.key ≠ some key
  waiting : names.Waiting s.queue key
  known : config.secretKey ∈ s.secretNotices ∨ key ∈ s.lost ∨
    ReadCurrent s key config ∨ ReadFailed s key

/-- Every config is in the queue, with the worker, or settled. -/
def Covered (s : ControlPlane names) : Prop :=
  ∀ key config, s.configs.lookup key = some config →
    Scheduled s key ∨ s.worker.covers key config ∨ Settled s key config

/-! ### One step -/

section Step

variable {s next : ControlPlane names} {key other : NamespacedName} {config : IncidentaryConfig}

theorem Worker.key_of_covers {worker : Worker} (hcovers : worker.covers key config) :
    worker.key = some key := by
  rcases hcovers with rfl | rfl | ⟨text, rfl⟩ <;> rfl

/-- What settles a name is kept by a step that leaves its reads and its wait alone. -/
theorem Settled.keep (hsettled : Settled s key config) (haway : next.worker.key ≠ some key)
    (hwaiting : names.Waiting next.queue key) (hlast : next.last key = s.last key)
    (hsecret : next.readSecret config = s.readSecret config)
    (hnotices : config.secretKey ∈ s.secretNotices → config.secretKey ∈ next.secretNotices)
    (hlost : key ∈ s.lost → key ∈ next.lost) : Settled next key config := by
  refine ⟨haway, hwaiting, ?_⟩
  unfold ReadCurrent ReadFailed
  rw [hlast, hsecret]
  exact hsettled.known.imp hnotices (Or.imp_left hlost)

theorem covered_setConfig (hcovered : Covered s) (new : IncidentaryConfig) :
    Covered (s.setConfig other new) := by
  intro key config hconfig
  by_cases hsame : key = other
  · subst hsame
    exact .inl (.inr (List.mem_append_right _ List.mem_cons_self))
  · have hbefore : s.configs.lookup key = some config :=
      (AList.lookup_insert_ne hsame).symm.trans hconfig
    rcases hcovered key config hbefore with hscheduled | hworker | hsettled
    · exact .inl (hscheduled.imp_right (List.mem_append_left _))
    · exact .inr (.inl hworker)
    · exact .inr (.inr (hsettled.keep hsettled.away hsettled.waiting rfl rfl id id))

theorem covered_deleteConfig (hcovered : Covered s) : Covered (s.deleteConfig other) := by
  intro key config hconfig
  by_cases hsame : key = other
  · subst hsame
    exact absurd ((AList.lookup_erase key s.configs).symm.trans hconfig) (by simp)
  · have hbefore : s.configs.lookup key = some config :=
      (AList.lookup_erase_ne hsame).symm.trans hconfig
    rcases hcovered key config hbefore with hscheduled | hworker | hsettled
    · exact .inl (hscheduled.imp_right (List.mem_append_left _))
    · exact .inr (.inl hworker)
    · exact .inr (.inr (hsettled.keep hsettled.away hsettled.waiting rfl rfl id id))

/-- A change of another Secret does not show in the read of a config's own. -/
theorem readSecret_setSecret (hother : config.secretKey ≠ other) (secret : Option Secret) :
    (s.setSecret other secret).readSecret config = s.readSecret config := by
  have hread : (s.setSecret other secret).secrets config.namespaceName
      config.spec.apiKeySecretRef.name =
        s.secrets config.namespaceName config.spec.apiKeySecretRef.name := by
    unfold ControlPlane.setSecret
    by_cases hns : config.namespaceName = other.ns
    · have hname : config.spec.apiKeySecretRef.name ≠ other.name := by
        intro hname
        exact hother (by rw [IncidentaryConfig.secretKey, hns, hname])
      simp [hns, Function.update_of_ne hname]
    · simp [Function.update_of_ne hns]
  unfold ControlPlane.readSecret World.readSecret ControlPlane.world
  simp only [hread]

theorem covered_setSecret (hcovered : Covered s) (secret : Option Secret) :
    Covered (s.setSecret other secret) := by
  intro key config hconfig
  rcases hcovered key config hconfig with hscheduled | hworker | hsettled
  · exact .inl hscheduled
  · exact .inr (.inl hworker)
  · right
    right
    by_cases hsecret : config.secretKey = other
    · refine ⟨hsettled.away, hsettled.waiting, .inl ?_⟩
      rw [hsecret]
      exact List.mem_append_right _ List.mem_cons_self
    · exact hsettled.keep hsettled.away hsettled.waiting rfl (readSecret_setSecret hsecret secret)
        (List.mem_append_left _) id

theorem covered_queueConfig (hcovered : Covered s) {rest : List NamespacedName}
    (hnotices : s.configNotices = other :: rest) : Covered (s.queueConfig other rest) := by
  intro key config hconfig
  rcases hcovered key config hconfig with (hqueued | hnotice) | hworker | hsettled
  · exact .inl (.inl ((names.queued_add _ _ _).mpr (.inr hqueued)))
  · rw [hnotices] at hnotice
    rcases List.mem_cons.mp hnotice with rfl | hrest
    · exact .inl (.inl ((names.queued_add _ _ _).mpr (.inl rfl)))
    · exact .inl (.inr hrest)
  · exact .inr (.inl hworker)
  · have hwaiting := (names.waiting_add s.queue other key).mpr hsettled.waiting
    exact .inr (.inr (hsettled.keep hsettled.away hwaiting rfl rfl id id))

/-- A config that refers to a Secret is found for it. -/
theorem mem_findConfigsForSecret {configs : Configs} (hconfig : configs.lookup key = some config) :
    key ∈ findConfigsForSecret (.ok configs) config.secretKey := by
  have hentry : (⟨key, config⟩ : Sigma fun _ : NamespacedName ↦ IncidentaryConfig) ∈
      configs.entries :=
    AList.mem_lookup_iff.mp hconfig
  exact List.mem_map.mpr ⟨_, List.mem_filter.mpr ⟨hentry, by simp [IncidentaryConfig.secretKey]⟩,
    rfl⟩

theorem covered_queueForSecret (hcovered : Covered s) {rest : List NamespacedName}
    (hnotices : s.secretNotices = other :: rest) (listError : Option String) :
    Covered (s.queueForSecret other rest listError) := by
  intro key config hconfig
  rcases hcovered key config hconfig with (hqueued | hnotice) | hworker | hsettled
  · exact .inl (.inl ((names.queued_addAll _ _ _).mpr (.inr hqueued)))
  · exact .inl (.inr hnotice)
  · exact .inr (.inl hworker)
  · have hwaiting : names.Waiting (s.queueForSecret other rest listError).queue key :=
      (names.waiting_addAll _ _ _).mpr hsettled.waiting
    by_cases hsecret : config.secretKey = other
    · subst hsecret
      have hfound := mem_findConfigsForSecret hconfig
      cases listError with
      | none => exact .inl (.inl ((names.queued_addAll _ _ _).mpr (.inl hfound)))
      | some text =>
        refine .inr (.inr ⟨hsettled.away, hwaiting, .inr (.inl ?_)⟩)
        exact Finset.mem_union_right _ (List.mem_toFinset.mpr hfound)
    · refine .inr (.inr (hsettled.keep hsettled.away hwaiting rfl rfl ?_ ?_))
      · intro hnotice
        rw [hnotices] at hnotice
        exact (List.mem_cons.mp hnotice).resolve_left hsecret
      · intro hlost
        cases listError with
        | none => exact hlost
        | some text => exact Finset.mem_union_left _ hlost

theorem covered_take (hcovered : Covered s) (hworker : s.worker = .idle) {queue : names.State}
    (hget : names.get s.queue other = some queue) : Covered (s.take other queue) := by
  intro key config hconfig
  by_cases hsame : key = other
  · subst hsame
    exact .inr (.inl (.inl rfl))
  · rcases hcovered key config hconfig with (hqueued | hnotice) | hbusy | hsettled
    · exact .inl (.inl (((names.queued_of_get hget).2 key).mpr ⟨hsame, hqueued⟩))
    · exact .inl (.inr hnotice)
    · have hkey := Worker.key_of_covers hbusy
      rw [hworker] at hkey
      exact absurd hkey (by simp [Worker.key])
    · have hwaiting := (names.waiting_of_get hget key).mpr hsettled.waiting
      refine .inr (.inr (hsettled.keep ?_ hwaiting rfl rfl id ?_))
      · simpa [ControlPlane.take, Worker.key] using Ne.symm hsame
      · exact fun hlost ↦ Finset.mem_erase.mpr ⟨hsame, hlost⟩

theorem covered_fetch (hcovered : Covered s) (hworker : s.worker = .started other)
    (failure : Option String) : Covered (s.fetch other failure) := by
  intro key config hconfig
  by_cases hsame : key = other
  · subst hsame
    right
    left
    right
    cases failure with
    | some text => exact .inr ⟨text, rfl⟩
    | none =>
      left
      have hread : s.readConfig key none = .ok config := by
        unfold ControlPlane.readConfig
        change s.configs.lookup key = some config at hconfig
        simp only [hconfig]
      rw [ControlPlane.fetch, hread]
  · rcases hcovered key config hconfig with hscheduled | hbusy | hsettled
    · exact .inl hscheduled
    · have hkey := Worker.key_of_covers hbusy
      rw [hworker] at hkey
      exact absurd (Option.some.inj hkey).symm hsame
    · refine .inr (.inr (hsettled.keep ?_ hsettled.waiting rfl rfl id id))
      simpa [ControlPlane.fetch, Worker.key] using Ne.symm hsame

/-- A `Reconcile` that finds its config, or cannot read it, is queued again. -/
theorem requeues_reconcile {r : ConfigReconciler} {call : ReconcileCall}
    (hconfig : call.config ≠ .error .notFound) :
    ControlPlane.requeues (r.reconcile call).2.returned = true := by
  have hpositive : ∀ update : Except String Unit, ∀ requeueAfter : ℤ, 0 < requeueAfter →
      ControlPlane.requeues (requeueUnless update requeueAfter) = true := by
    intro update requeueAfter hafter
    cases update with
    | error text => rfl
    | ok done => exact decide_eq_true hafter
  have herror : (0 : ℤ) < requeueAfterError := by decide
  have hrun := reconcileRun_reconcile r call
  generalize r.reconcile call = result at hrun
  cases hrun with
  | configMissing hmissing => exact absurd hmissing hconfig
  | configUnreadable hunreadable => rfl
  | secretMissing hread hsecret message => exact hpositive _ _ herror
  | secretUnreadable hread hsecret message => exact hpositive _ _ herror
  | keyMissing hread hsecret hkey message => exact hpositive _ _ herror
  | activated hread hsecret hkey => exact hpositive _ _ (reconciliationInterval_pos _)

theorem waiting_finish {fetched : Except ReadError IncidentaryConfig}
    (hfetched : fetched ≠ .error .notFound) (circumstances : Circumstances) :
    names.Waiting (s.finish key fetched circumstances).queue key := by
  have hcall : (s.call fetched circumstances).config ≠ .error .notFound := hfetched
  have hrequeues := @requeues_reconcile (s.world fetched).controller _ hcall
  simp only [ControlPlane.finish, hrequeues, if_true]
  exact (names.waiting_addAfter _ _ _).mpr (.inl rfl)

theorem waiting_finish_of_waiting {fetched : Except ReadError IncidentaryConfig}
    (circumstances : Circumstances) (hwaiting : names.Waiting s.queue key) :
    names.Waiting (s.finish other fetched circumstances).queue key := by
  simp only [ControlPlane.finish]
  split_ifs
  · exact (names.waiting_addAfter _ _ _).mpr (.inr hwaiting)
  · exact hwaiting

theorem scheduled_finish {fetched : Except ReadError IncidentaryConfig}
    (circumstances : Circumstances) (hscheduled : Scheduled s key) :
    Scheduled (s.finish other fetched circumstances) key := by
  refine hscheduled.imp_left fun hqueued ↦ ?_
  simp only [ControlPlane.finish]
  split_ifs
  · exact (names.queued_addAfter _ _ _).mpr hqueued
  · exact hqueued

theorem last_finish_self {fetched : Except ReadError IncidentaryConfig}
    (circumstances : Circumstances) :
    (s.finish key fetched circumstances).last key =
      some (s.reading fetched circumstances) := by
  simp only [ControlPlane.finish, Function.update_self]

theorem covered_finish (hcovered : Covered s) {fetched : Except ReadError IncidentaryConfig}
    (hworker : s.worker = .fetched other fetched) (circumstances : Circumstances) :
    Covered (s.finish other fetched circumstances) := by
  intro key config hconfig
  by_cases hsame : key = other
  · subst hsame
    rcases hcovered key config hconfig with hscheduled | hbusy | hsettled
    · exact .inl (scheduled_finish circumstances hscheduled)
    · rw [hworker] at hbusy
      right
      right
      rcases hbusy with hstarted | hcurrent | ⟨text, hfailed⟩
      · cases hstarted
      · cases hcurrent
        refine ⟨(by rintro ⟨⟩), waiting_finish (by simp) circumstances, ?_⟩
        right
        right
        cases hfailure : circumstances.failure with
        | none =>
          left
          rw [ReadCurrent, last_finish_self]
          simp [ControlPlane.reading, ReconcileCall.secretOf, ControlPlane.call, World.call,
            hfailure, ControlPlane.readSecret, Except.map, ControlPlane.world,
            World.readSecret, ControlPlane.finish]
        | some text =>
          right
          refine ⟨text, .inr ⟨config, ?_⟩⟩
          rw [last_finish_self]
          simp [ControlPlane.reading, ReconcileCall.secretOf, ControlPlane.call, World.call,
            hfailure, Except.map, World.readSecret]
      · cases hfailed
        refine ⟨(by rintro ⟨⟩), waiting_finish (by simp) circumstances, ?_⟩
        exact .inr (.inr (.inr ⟨text, .inl (last_finish_self circumstances)⟩))
    · exact absurd (by rw [hworker]; rfl) hsettled.away
  · rcases hcovered key config hconfig with hscheduled | hbusy | hsettled
    · exact .inl (scheduled_finish circumstances hscheduled)
    · have hkey := Worker.key_of_covers hbusy
      rw [hworker] at hkey
      exact absurd (Option.some.inj hkey).symm hsame
    · refine .inr (.inr (hsettled.keep (by rintro ⟨⟩)
        (waiting_finish_of_waiting circumstances hsettled.waiting) ?_ rfl id id))
      simp only [ControlPlane.finish, Function.update_of_ne hsame]

theorem covered_fire (hcovered : Covered s) {queue : names.State}
    (helapse : names.elapse s.queue other = some queue) : Covered { s with queue := queue } := by
  intro key config hconfig
  by_cases hsame : key = other
  · subst hsame
    exact .inl (.inl ((names.queued_of_elapse helapse key).mpr (.inl rfl)))
  · rcases hcovered key config hconfig with hscheduled | hbusy | hsettled
    · refine .inl (hscheduled.imp_left fun hqueued ↦ ?_)
      exact (names.queued_of_elapse helapse key).mpr (.inr hqueued)
    · exact .inr (.inl hbusy)
    · have hwaiting := ((names.waiting_of_elapse helapse).2 key).mpr ⟨hsame, hsettled.waiting⟩
      exact .inr (.inr (hsettled.keep hsettled.away hwaiting rfl rfl id id))

end Step

/-! ### Every run -/

/-- Every config of every reachable state is covered. -/
theorem covered {s : ControlPlane names} (hreach : (queueMachine names).Reachable s) :
    Covered s := by
  refine queue_invariant ?_ ?_ hreach
  · intro provider ingest topology services key config hconfig
    cases hconfig
  · intro s next hcovered hmove
    cases hmove with
    | setConfig key config => exact covered_setConfig hcovered config
    | deleteConfig key => exact covered_deleteConfig hcovered
    | setSecret key secret => exact covered_setSecret hcovered secret
    | queueConfig hnotices => exact covered_queueConfig hcovered hnotices
    | queueForSecret hnotices listError => exact covered_queueForSecret hcovered hnotices listError
    | take hworker hget => exact covered_take hcovered hworker hget
    | fetch hworker failure => exact covered_fetch hcovered hworker failure
    | finish hworker circumstances => exact covered_finish hcovered hworker circumstances
    | fire helapse => exact covered_fire hcovered helapse

/-- Nothing is on its way: no change is unhandled, the queue is empty and the worker idle. -/
structure Quiet (s : ControlPlane names) : Prop where
  configs : s.configNotices = []
  secrets : s.secretNotices = []
  queue : ∀ key, ¬ names.Queued s.queue key
  worker : s.worker = .idle

/-- A config in a quiet state is settled. -/
theorem settled_of_quiet {s : ControlPlane names} (hreach : (queueMachine names).Reachable s)
    (hquiet : Quiet s) {key : NamespacedName} {config : IncidentaryConfig}
    (hconfig : s.configs.lookup key = some config) : Settled s key config := by
  rcases covered hreach key config hconfig with (hqueued | hnotice) | hworker | hsettled
  · exact absurd hqueued (hquiet.queue key)
  · rw [hquiet.configs] at hnotice
    cases hnotice
  · have hkey := Worker.key_of_covers hworker
    rw [hquiet.worker] at hkey
    cases hkey
  · exact hsettled

theorem known_of_quiet {s : ControlPlane names} (hreach : (queueMachine names).Reachable s)
    (hquiet : Quiet s) {key : NamespacedName} {config : IncidentaryConfig}
    (hconfig : s.configs.lookup key = some config) :
    ReadCurrent s key config ∨ ReadFailed s key ∨ key ∈ s.lost := by
  rcases (settled_of_quiet hreach hquiet hconfig).known with hnotice | hlost | hcurrent | hfailed
  · rw [hquiet.secrets] at hnotice
    cases hnotice
  · exact .inr (.inr hlost)
  · exact .inl hcurrent
  · exact .inr (.inl hfailed)

/-- No configuration is forgotten. When nothing is on its way, every config is due again, and
the last `Reconcile` of it read it and its Secret as they are, unless one of them could not be read
then, or the configs could not be listed when its Secret changed and the worker has not taken its
name since. Assumes: the state is reachable and nothing is on its way. -/
theorem settled_config_reconciled {s : ControlPlane names}
    (hreach : (queueMachine names).Reachable s) (hquiet : Quiet s) {key : NamespacedName}
    {config : IncidentaryConfig} (hconfig : s.configs.lookup key = some config) :
    names.Waiting s.queue key ∧ (ReadCurrent s key config ∨ ReadFailed s key ∨ key ∈ s.lost) :=
  ⟨(settled_of_quiet hreach hquiet hconfig).waiting, known_of_quiet hreach hquiet hconfig⟩

/-- The config of the payments team is created with its Secret and reconciled, then the key in the
Secret is rotated and the config reconciled again. -/
def rotateKey : List QueueAction :=
  [.setSecret ⟨"ops", "incidentary"⟩ (some ⟨AList.singleton "key" "sk_live_1"⟩),
    .setConfig "payments" paymentsConfig, .handleSecret none, .handleConfig,
    .start ⟨"ops", "payments"⟩, .fetch none, .conclude {},
    .setSecret ⟨"ops", "incidentary"⟩ (some ⟨AList.singleton "key" "sk_live_2"⟩),
    .handleSecret none, .start ⟨"ops", "payments"⟩, .fetch none, .conclude {}]

/-- What the rotation leads to. -/
def rotated : Option (ControlPlane (setQueue NamespacedName)) :=
  (queueMachine _).replay { provider := droppingRotation.provider } rotateKey

theorem reachable_rotated {s : ControlPlane (setQueue NamespacedName)}
    (hrotated : rotated = some s) : (queueMachine _).Reachable s :=
  Machine.reachable_of_replay ⟨_, "", "", "", rfl⟩ hrotated

/-- The rotation leaves nothing on its way, and the config due again. -/
theorem settled_config_reconciled_rotated :
    ∃ s, rotated = some s ∧ Quiet s ∧
      s.configs.lookup ⟨"ops", "payments"⟩ = some paymentsConfig ∧
      (setQueue NamespacedName).Waiting s.queue ⟨"ops", "payments"⟩ := by
  have hquiet : ∃ s, rotated = some s ∧ Quiet s ∧
      s.configs.lookup ⟨"ops", "payments"⟩ = some paymentsConfig :=
    ⟨_, rfl, ⟨rfl, rfl, fun _ ↦ Finset.notMem_empty _, rfl⟩, rfl⟩
  obtain ⟨s, hrotated, hquiet, hconfig⟩ := hquiet
  exact ⟨s, hrotated, hquiet, hconfig,
    (settled_config_reconciled (reachable_rotated hrotated) hquiet hconfig).1⟩

/-! ### The credential in use -/

/-- The config and the key a `Reconcile` puts in use after its reads. -/
def Reading.live (reading : Reading) : Option (IncidentaryConfig × String) :=
  match reading.secret with
  | .error _ => none
  | .ok secret =>
    if secret.data.at reading.config.spec.apiKeySecretRef.key = "" then none
    else some (reading.config, secret.data.at reading.config.spec.apiKeySecretRef.key)

/-- The clients use what the last `Reconcile` that found its config read, and it is on record for
its name, unless a later one of the name found none. -/
structure InUse (s : ControlPlane names) : Prop where
  provider : ∀ key reading, s.lastFound = some (key, reading) → UsesLive s.provider reading.live
  record : ∀ key reading found, s.last key = some (.ok reading) →
    s.lastFound = some (key, found) → found = reading

/-- A `Reconcile` that finds its config puts in use what it read. -/
theorem usesLive_finish (s : ControlPlane names) (key : NamespacedName) (config : IncidentaryConfig)
    (circumstances : Circumstances) :
    UsesLive (s.finish key (.ok config) circumstances).provider
      (Reading.live ⟨config, (s.call (.ok config) circumstances).secretOf config⟩) := by
  have hconfig : (s.world (.ok config)).config = some config := rfl
  have huses := usesLive_of_run hconfig
    (reconcileRun_reconcile _ ((s.world (.ok config)).call circumstances))
  rw [live_of_some hconfig] at huses
  exact huses

theorem inUse_finish {s : ControlPlane names} (hinUse : InUse s) (key : NamespacedName)
    (fetched : Except ReadError IncidentaryConfig) (circumstances : Circumstances) :
    InUse (s.finish key fetched circumstances) := by
  cases fetched with
  | ok config =>
    refine ⟨?_, ?_⟩
    · rintro found reading hfound
      cases hfound
      exact usesLive_finish s key config circumstances
    · rintro found reading last hlast hfound
      cases hfound
      rw [last_finish_self] at hlast
      exact Except.ok.inj (Option.some.inj hlast)
  | error failure =>
    have hprovider : (s.finish key (.error failure) circumstances).provider = s.provider := by
      cases failure <;> rfl
    refine ⟨?_, ?_⟩
    · rw [hprovider]
      exact hinUse.provider
    · intro found reading last hlast hfound
      by_cases hsame : found = key
      · subst hsame
        rw [last_finish_self] at hlast
        cases hlast
      · simp only [ControlPlane.finish, Function.update_of_ne hsame] at hlast
        exact hinUse.record found reading last hlast hfound

theorem inUse {s : ControlPlane names} (hreach : (queueMachine names).Reachable s) : InUse s := by
  refine queue_invariant ?_ ?_ hreach
  · intro provider ingest topology services
    exact ⟨(fun _ _ h ↦ nomatch h), (fun _ _ _ h ↦ nomatch h)⟩
  · intro s next hinUse hmove
    cases hmove with
    | finish hworker circumstances => exact inUse_finish hinUse _ _ circumstances
    | _ => exact ⟨hinUse.provider, hinUse.record⟩

/-- The credential follows the configuration. When nothing is on its way, the clients use the
live key of the config that was reconciled last, with its workspace id, or are stubs when it has
none. Assumes: the state is reachable and nothing is on its way, the config exists and was the last
that a `Reconcile` found, neither it nor its Secret failed to be read then, and its name was queued
for every change of the Secret since. -/
theorem settled_credential_live {s : ControlPlane names} (hreach : (queueMachine names).Reachable s)
    (hquiet : Quiet s) {key : NamespacedName} {config : IncidentaryConfig}
    (hconfig : s.configs.lookup key = some config) (hlast : s.lastFound.map Prod.fst = some key)
    (hread : ¬ ReadFailed s key) (hlisted : key ∉ s.lost) :
    UsesLive s.provider ((s.world (.ok config)).live none) := by
  obtain ⟨⟨found, reading⟩, hfound, rfl⟩ := Option.map_eq_some_iff.mp hlast
  have hcurrent : ReadCurrent s found config :=
    (known_of_quiet hreach hquiet hconfig).resolve_right (not_or.mpr ⟨hread, hlisted⟩)
  obtain rfl := (inUse hreach).record found _ reading hcurrent hfound
  exact (inUse hreach).provider found _ hfound

/-- After the rotation the clients use the new key. -/
theorem settled_credential_live_rotated :
    ∃ s, rotated = some s ∧
      (s.world (.ok paymentsConfig)).live none = some (paymentsConfig, "sk_live_2") ∧
      UsesLive s.provider ((s.world (.ok paymentsConfig)).live none) := by
  have hfacts : ∃ s, rotated = some s ∧ Quiet s ∧
      s.configs.lookup ⟨"ops", "payments"⟩ = some paymentsConfig ∧
      s.lastFound.map Prod.fst = some ⟨"ops", "payments"⟩ ∧
      s.last ⟨"ops", "payments"⟩ =
        some (.ok ⟨paymentsConfig, .ok ⟨AList.singleton "key" "sk_live_2"⟩⟩) ∧ s.lost = ∅ ∧
      (s.world (.ok paymentsConfig)).live none = some (paymentsConfig, "sk_live_2") :=
    ⟨_, rfl, ⟨rfl, rfl, fun _ ↦ Finset.notMem_empty _, rfl⟩, rfl, rfl, rfl, rfl, rfl⟩
  obtain ⟨s, hrotated, hquiet, hconfig, hlast, hread, hlost, hlive⟩ := hfacts
  refine ⟨s, hrotated, hlive,
    settled_credential_live (reachable_rotated hrotated) hquiet hconfig hlast ?_ ?_⟩
  · rintro ⟨text, hfailed | ⟨config, hfailed⟩⟩
    · rw [hread] at hfailed
      cases hfailed
    · rw [hread] at hfailed
      cases hfailed
  · rw [hlost]
    exact Finset.notMem_empty _

end IncidentaryOperator.Controller
