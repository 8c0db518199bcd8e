import IncidentaryOperator.Discovery.Cycles
import IncidentaryOperator.Discovery.Reconciler

/-!
# Classification counts

What the four gauges of the reconciler hold after a cycle, in terms of the services and the listed
workloads alone: the numbers of workloads of the four classes, in 32 bits
(`classification_counts`). With ids that are distinct, the map of the services says no more than
which ids are registered, so no order matters. The gauges change only in cycles that classify.

The discovery loop counts the same lists, but leaves out excluded namespaces and system workloads,
and the reconciler does not. The two counts agree exactly when there is nothing to leave out
(`counts_agree_iff`).
-/

set_option autoImplicit false
set_option relaxedAutoImplicit false

namespace IncidentaryOperator.Discovery

open Foundation Kubernetes Identity Client

/-! ### The counters -/

/-- The counters after a list of classes: the number of each, in 32 bits. -/
def Counts.ofClasses (classes : List Classification) : Counts where
  matched := wrapped 32 (classes.count .matched)
  ghost := wrapped 32 (classes.count .ghost)
  mismatched := wrapped 32 (classes.count .mismatched)
  newCount := wrapped 32 (classes.count .new)

theorem foldl_add_classes (classes : List Classification) :
    classes.foldl Counts.add {} = Counts.ofClasses classes := by
  induction classes using List.reverseRecOn with
  | nil => rfl
  | append_singleton earlier last ih =>
    rw [List.foldl_append, ih]
    cases last <;>
      simp [Counts.ofClasses, Counts.add, List.count_append, wrapped_add_left]

theorem sum_count_classes (classes : List Classification) :
    classes.count .matched + classes.count .ghost + classes.count .mismatched +
      classes.count .new = classes.length := by
  induction classes with
  | nil => rfl
  | cons first rest ih =>
    cases first <;> simp <;> omega

/-- Below the bound of 32 bits the counters are exact. -/
theorem Counts.ofClasses_of_lt {classes : List Classification} (hlength : classes.length < 2 ^ 31) :
    Counts.ofClasses classes =
      { matched := classes.count .matched
        ghost := classes.count .ghost
        mismatched := classes.count .mismatched
        newCount := classes.count .new } := by
  have hexact : ∀ cls, wrapped 32 (classes.count cls : ℤ) = classes.count cls := by
    intro cls
    have hcount := (List.count_le_length (a := cls) (l := classes)).trans_lt hlength
    exact wrapped_of_fits (by omega) (by omega)
  unfold Counts.ofClasses
  simp only [hexact]

/-- The classes of the listed workloads, in order. -/
def classes (registered : List ServiceEntry) (gracePeriod : ℤ) (clock : ℕ → Time)
    (workloads : List Workload) : List Classification :=
  (workloads.map workloadInfoOf).mapIdx fun index w ↦
    classify w (registeredByID registered) gracePeriod (clock index)

@[simp] theorem length_classes (registered : List ServiceEntry) (gracePeriod : ℤ)
    (clock : ℕ → Time) (workloads : List Workload) :
    (classes registered gracePeriod clock workloads).length = workloads.length := by
  simp [classes]

section Step

variable {r : Reconciler} {cycle : ReconcilerCycle} {result : Reconciler × Except String Unit}
  (hrun : ReconcilerRun r cycle result)

include hrun

/-- A cycle with services and all lists answered counts every listed workload under its class. -/
theorem ReconcilerRun.gauges_eq {registered : List ServiceEntry} {deps : List Deployment}
    {sts : List StatefulSet} {ds : List DaemonSet}
    (hregistered : cycle.registered = .ok registered) (hsome : registered ≠ [])
    (hlisting : cycle.listing = ⟨.ok deps, .ok sts, .ok ds⟩) :
    result.2 = .ok () ∧
    result.1.gauges = Counts.ofClasses (classes registered
      (wrapped 64 (r.interval + newWorkloadGraceExtra)) cycle.clock
      (listedWorkloads deps sts ds)) := by
  have hlist : listWorkloads cycle.listing =
      .ok ((listedWorkloads deps sts ds).map workloadInfoOf) := by
    rw [hlisting, listWorkloads_ok]
  cases hrun with
  | servicesFailed herror => exact absurd (hregistered.symm.trans herror) (by simp)
  | noServices hnone => exact absurd (Except.ok.inj (hregistered.symm.trans hnone)) hsome
  | listFailed _ _ hfailed => exact absurd (hlist.symm.trans hfailed) (by simp)
  | classified hok _ hlisted =>
    obtain rfl := Except.ok.inj (hregistered.symm.trans hok)
    obtain rfl := Except.ok.inj (hlist.symm.trans hlisted)
    exact ⟨rfl, foldl_add_classes _⟩

/-- The gauges change only in cycles that classify. -/
theorem ReconcilerRun.gauges_kept
    (hnot : (∃ text, cycle.registered = .error text) ∨ cycle.registered = .ok [] ∨
      ¬ ∃ deps sts ds, cycle.listing = ⟨.ok deps, .ok sts, .ok ds⟩) :
    result.1.gauges = r.gauges := by
  cases hrun with
  | servicesFailed | noServices | listFailed => rfl
  | classified hok hsome hlisted =>
    obtain ⟨deps, sts, ds, hlisting, -⟩ := listWorkloads_eq_ok.mp hlisted
    rcases hnot with ⟨text, herror⟩ | hnone | hfailed
    · exact absurd (hok.symm.trans herror) (by simp)
    · exact absurd (Except.ok.inj (hok.symm.trans hnone)) hsome
    · exact absurd ⟨deps, sts, ds, hlisting⟩ hfailed

end Step

/-! ### The classes, by the services alone -/

/-- The id of a workload is registered, with this state of instrumentation. -/
def registeredAs (instrumented : Bool) (registered : List ServiceEntry) (w : Workload) : Bool :=
  registered.any fun s ↦ s.serviceID = ownServiceID w.metadata && s.instrumented == instrumented

/-- The id of a workload is registered. -/
def isRegistered (registered : List ServiceEntry) (w : Workload) : Bool :=
  registered.any fun s ↦ s.serviceID = ownServiceID w.metadata

/-- The time since a workload was created. -/
def age (now : Time) (w : Workload) : ℤ :=
  now.nanos - w.metadata.creationTimestamp.nanos

/-- The workloads of a class, as the classes are meant. -/
def inClass (registered : List ServiceEntry) (gracePeriod : ℤ) (now : Time) (w : Workload) :
    Classification → Bool
  | .matched => registeredAs true registered w
  | .ghost => registeredAs false registered w
  | .new => !isRegistered registered w && age now w < gracePeriod
  | .mismatched => !isRegistered registered w && gracePeriod ≤ age now w

/-- With distinct ids the map of the services holds each entry under its id. -/
theorem lookup_registeredByID {registered : List ServiceEntry}
    (hdistinct : (registered.map ServiceEntry.serviceID).Nodup) {id : String} {s : ServiceEntry} :
    (registeredByID registered).lookup id = some s ↔ s ∈ registered ∧ s.serviceID = id := by
  unfold registeredByID
  induction registered using List.reverseRecOn with
  | nil => simp
  | append_singleton earlier last ih =>
    rw [List.map_append, List.nodup_append] at hdistinct
    obtain ⟨hearlier, -, hdisjoint⟩ := hdistinct
    rw [List.foldl_append, List.foldl_cons, List.foldl_nil, List.mem_append, List.mem_singleton]
    by_cases hid : id = last.serviceID
    · rw [hid, AList.lookup_insert, Option.some.injEq]
      constructor
      · rintro rfl
        exact ⟨.inr rfl, rfl⟩
      · rintro ⟨hmem | rfl, hsame⟩
        · exact absurd hsame (hdisjoint _ (List.mem_map_of_mem hmem) _ (by simp))
        · rfl
    · rw [AList.lookup_insert_ne hid, ih hearlier]
      constructor
      · rintro ⟨hmem, hsame⟩
        exact ⟨.inl hmem, hsame⟩
      · rintro ⟨hmem | rfl, hsame⟩
        · exact ⟨hmem, hsame⟩
        · exact absurd hsame.symm hid

theorem registeredAs_eq_true {registered : List ServiceEntry}
    (hdistinct : (registered.map ServiceEntry.serviceID).Nodup) {s : ServiceEntry} {w : Workload}
    (hlookup : (registeredByID registered).lookup (ownServiceID w.metadata) = some s)
    (instrumented : Bool) :
    registeredAs instrumented registered w = (s.instrumented == instrumented) := by
  obtain ⟨hmem, hid⟩ := (lookup_registeredByID hdistinct).mp hlookup
  rw [Bool.eq_iff_iff]
  unfold registeredAs
  rw [List.any_eq_true]
  constructor
  · rintro ⟨other, hother, hsame⟩
    rw [Bool.and_eq_true, decide_eq_true_eq] at hsame
    have hlookup' := (lookup_registeredByID hdistinct).mpr ⟨hother, hsame.1⟩
    rw [hlookup] at hlookup'
    obtain rfl := Option.some.inj hlookup'
    exact hsame.2
  · intro hsame
    exact ⟨s, hmem, by simp [hid, hsame]⟩

theorem isRegistered_eq {registered : List ServiceEntry}
    (hdistinct : (registered.map ServiceEntry.serviceID).Nodup) (w : Workload) :
    isRegistered registered w =
      ((registeredByID registered).lookup (ownServiceID w.metadata)).isSome := by
  rw [Bool.eq_iff_iff, Option.isSome_iff_exists]
  unfold isRegistered
  rw [List.any_eq_true]
  simp only [lookup_registeredByID hdistinct, decide_eq_true_eq]

theorem registeredAs_of_not_isRegistered {registered : List ServiceEntry} {w : Workload}
    (hnot : isRegistered registered w = false) (instrumented : Bool) :
    registeredAs instrumented registered w = false := by
  unfold isRegistered at hnot
  unfold registeredAs
  rw [List.any_eq_false] at hnot ⊢
  intro s hs
  have hid := hnot s hs
  rw [decide_eq_true_eq] at hid
  simp [hid]

/-- `classify` puts a workload in the class it belongs to and in no other. Assumes: the ids are
distinct and the grace period is a duration. -/
theorem classify_eq_iff {registered : List ServiceEntry}
    (hdistinct : (registered.map ServiceEntry.serviceID).Nodup) {gracePeriod : ℤ}
    (hlow : -2 ^ 63 < gracePeriod) (hhigh : gracePeriod < 2 ^ 63) (now : Time) (w : Workload)
    (cls : Classification) :
    (classify (workloadInfoOf w) (registeredByID registered) gracePeriod now == cls) =
      inClass registered gracePeriod now w cls := by
  have hserviceID : (workloadInfoOf w).serviceID = ownServiceID w.metadata := rfl
  have hregistered := isRegistered_eq hdistinct w
  unfold classify
  rw [hserviceID]
  cases hlookup : (registeredByID registered).lookup (ownServiceID w.metadata) with
  | some s =>
    rw [hlookup, Option.isSome_some] at hregistered
    have has := registeredAs_eq_true hdistinct hlookup
    cases hinstrumented : s.instrumented <;> cases cls <;>
      simp [inClass, has, hregistered, hinstrumented]
  | none =>
    rw [hlookup, Option.isSome_none] at hregistered
    have has := registeredAs_of_not_isRegistered hregistered
    have hage : now.sub (workloadInfoOf w).createdAt < gracePeriod ↔ age now w < gracePeriod :=
      Time.sub_lt_iff now _ hlow hhigh
    by_cases hyoung : age now w < gracePeriod
    · cases cls <;> simp [inClass, has, hregistered, hage, hyoung, not_le.mpr hyoung]
    · cases cls <;> simp [inClass, has, hregistered, hage, hyoung, not_lt.mp hyoung]

/-- The number of workloads of each class, under a clock that does not move during the cycle. -/
theorem count_classes {registered : List ServiceEntry}
    (hdistinct : (registered.map ServiceEntry.serviceID).Nodup) {gracePeriod : ℤ}
    (hlow : -2 ^ 63 < gracePeriod) (hhigh : gracePeriod < 2 ^ 63) {clock : ℕ → Time} {now : Time}
    (hclock : ∀ index, clock index = now) (workloads : List Workload) (cls : Classification) :
    (classes registered gracePeriod clock workloads).count cls =
      workloads.countP fun w ↦ inClass registered gracePeriod now w cls := by
  have hfixed : classes registered gracePeriod clock workloads = workloads.map fun w ↦
      classify (workloadInfoOf w) (registeredByID registered) gracePeriod now := by
    unfold classes
    simp only [hclock]
    induction workloads with
    | nil => rfl
    | cons w rest ih => rw [List.map_cons, List.mapIdx_cons, ih, List.map_cons]
  rw [hfixed, List.count_eq_countP, List.countP_map]
  exact List.countP_congr fun w _ ↦ by
    rw [Function.comp_apply, classify_eq_iff hdistinct hlow hhigh]

theorem inClass_perm {registered reordered : List ServiceEntry} (hperm : registered.Perm reordered)
    (gracePeriod : ℤ) (now : Time) (w : Workload) (cls : Classification) :
    inClass registered gracePeriod now w cls = inClass reordered gracePeriod now w cls := by
  cases cls <;> simp only [inClass, registeredAs, isRegistered, hperm.any_eq]

theorem listedWorkloads_perm {deps deps' : List Deployment} {sts sts' : List StatefulSet}
    {ds ds' : List DaemonSet} (hdeps : deps.Perm deps') (hsts : sts.Perm sts')
    (hds : ds.Perm ds') :
    (listedWorkloads deps sts ds).Perm (listedWorkloads deps' sts' ds') :=
  ((hdeps.map _).append (hsts.map _)).append (hds.map _)

/-! ### One cycle -/

/-- What a cycle sees: these services, these lists, and a clock that stands still. -/
structure ReconcilerCycle.Sees (cycle : ReconcilerCycle) (registered : List ServiceEntry)
    (deps : List Deployment) (sts : List StatefulSet) (ds : List DaemonSet) (now : Time) :
    Prop where
  services : cycle.registered = .ok registered
  lists : cycle.listing = ⟨.ok deps, .ok sts, .ok ds⟩
  clock : ∀ index, cycle.clock index = now

/-- The number of listed workloads of a class, for a reconciler with its grace period. -/
def numberIn (r : Reconciler) (registered : List ServiceEntry) (now : Time)
    (workloads : List Workload) (cls : Classification) : ℕ :=
  workloads.countP fun w ↦ inClass registered (r.interval + newWorkloadGraceExtra) now w cls

section Cycle

variable {r : Reconciler} (hinterval : -2 ^ 63 ≤ r.interval)
  (hgrace : r.interval + newWorkloadGraceExtra < 2 ^ 63) {registered : List ServiceEntry}
  (hdistinct : (registered.map ServiceEntry.serviceID).Nodup) {deps : List Deployment}
  {sts : List StatefulSet} {ds : List DaemonSet} {now : Time} {cycle : ReconcilerCycle}

include hinterval hgrace hdistinct

theorem count_classes_cycle (hclock : ∀ index, cycle.clock index = now) (workloads : List Workload)
    (cls : Classification) :
    (classes registered (wrapped 64 (r.interval + newWorkloadGraceExtra)) cycle.clock
      workloads).count cls = numberIn r registered now workloads cls := by
  have hextra : 0 < newWorkloadGraceExtra := by decide
  rw [wrapped_of_fits (by omega) (by omega)]
  exact count_classes hdistinct (by omega) hgrace hclock workloads cls

theorem gauges_of_sees (hsome : registered ≠ []) (hsees : cycle.Sees registered deps sts ds now) :
    (r.runOnce cycle).1.gauges =
      { matched := wrapped 32 (numberIn r registered now (listedWorkloads deps sts ds) .matched)
        ghost := wrapped 32 (numberIn r registered now (listedWorkloads deps sts ds) .ghost)
        mismatched :=
          wrapped 32 (numberIn r registered now (listedWorkloads deps sts ds) .mismatched)
        newCount :=
          wrapped 32 (numberIn r registered now (listedWorkloads deps sts ds) .new) } := by
  rw [((reconcilerRun_runOnce r cycle).gauges_eq hsees.services hsome hsees.lists).2,
    Counts.ofClasses]
  simp only [count_classes_cycle hinterval hgrace hdistinct hsees.clock]

end Cycle

/-- The order of the services and of the lists does not matter. -/
theorem numberIn_perm (r : Reconciler) {registered registered' : List ServiceEntry}
    (hregistered : registered.Perm registered') (now : Time) {workloads workloads' : List Workload}
    (hworkloads : workloads.Perm workloads') (cls : Classification) :
    numberIn r registered now workloads cls = numberIn r registered' now workloads' cls := by
  unfold numberIn
  rw [hworkloads.countP_eq]
  exact List.countP_congr fun w _ ↦ by rw [inClass_perm hregistered]

/-- A successful cycle leaves the four gauges at the numbers of listed workloads of the four
classes, in 32 bits, and so at those numbers themselves when fewer than 2³¹ workloads are listed.
The numbers add up to the number of listed workloads. The gauges do not depend on the order of the
services or of the lists, and a cycle that cannot fetch the services, finds none or fails at a list
leaves them. Assumes: the grace period is a duration, some service is registered, and the ids of the
services are distinct. -/
theorem classification_counts {r : Reconciler} (hinterval : -2 ^ 63 ≤ r.interval)
    (hgrace : r.interval + newWorkloadGraceExtra < 2 ^ 63) {registered : List ServiceEntry}
    (hsome : registered ≠ []) (hdistinct : (registered.map ServiceEntry.serviceID).Nodup)
    {deps : List Deployment} {sts : List StatefulSet} {ds : List DaemonSet} {now : Time}
    {cycle : ReconcilerCycle} (hsees : cycle.Sees registered deps sts ds now) :
    (r.runOnce cycle).2 = .ok () ∧
    (r.runOnce cycle).1.gauges =
      { matched := wrapped 32 (numberIn r registered now (listedWorkloads deps sts ds) .matched)
        ghost := wrapped 32 (numberIn r registered now (listedWorkloads deps sts ds) .ghost)
        mismatched :=
          wrapped 32 (numberIn r registered now (listedWorkloads deps sts ds) .mismatched)
        newCount :=
          wrapped 32 (numberIn r registered now (listedWorkloads deps sts ds) .new) } ∧
    (deps.length + sts.length + ds.length < 2 ^ 31 → (r.runOnce cycle).1.gauges =
      { matched := numberIn r registered now (listedWorkloads deps sts ds) .matched
        ghost := numberIn r registered now (listedWorkloads deps sts ds) .ghost
        mismatched := numberIn r registered now (listedWorkloads deps sts ds) .mismatched
        newCount := numberIn r registered now (listedWorkloads deps sts ds) .new }) ∧
    numberIn r registered now (listedWorkloads deps sts ds) .matched +
        numberIn r registered now (listedWorkloads deps sts ds) .ghost +
        numberIn r registered now (listedWorkloads deps sts ds) .mismatched +
        numberIn r registered now (listedWorkloads deps sts ds) .new =
      deps.length + sts.length + ds.length ∧
    (∀ (other : ReconcilerCycle) (registered' : List ServiceEntry) (deps' : List Deployment)
      (sts' : List StatefulSet) (ds' : List DaemonSet), registered.Perm registered' →
        deps.Perm deps' → sts.Perm sts' → ds.Perm ds' →
        other.Sees registered' deps' sts' ds' now →
          (r.runOnce other).1.gauges = (r.runOnce cycle).1.gauges) ∧
    ∀ other : ReconcilerCycle,
      ((∃ text, other.registered = .error text) ∨ other.registered = .ok [] ∨
        ¬ ∃ deps sts ds, other.listing = ⟨.ok deps, .ok sts, .ok ds⟩) →
          (r.runOnce other).1.gauges = r.gauges := by
  have hrun := (reconcilerRun_runOnce r cycle).gauges_eq hsees.services hsome hsees.lists
  have hcount := count_classes_cycle hinterval hgrace hdistinct hsees.clock
    (listedWorkloads deps sts ds)
  have hlength := length_classes registered (wrapped 64 (r.interval + newWorkloadGraceExtra))
    cycle.clock (listedWorkloads deps sts ds)
  have hgauges := gauges_of_sees hinterval hgrace hdistinct hsome hsees
  rw [length_listedWorkloads] at hlength
  refine ⟨hrun.1, hgauges, fun hfits ↦ ?_, ?_, ?_, fun other hnot ↦ ?_⟩
  · rw [hrun.2, Counts.ofClasses_of_lt (hlength.trans_lt hfits)]
    simp only [hcount]
  · simp only [← hcount]
    rw [sum_count_classes, hlength]
  · intro other registered' deps' sts' ds' hregistered hdeps hsts hds hother
    have hdistinct' : (registered'.map ServiceEntry.serviceID).Nodup :=
      (hregistered.map _).nodup_iff.mp hdistinct
    have hsome' : registered' ≠ [] := by
      rintro rfl
      exact hsome hregistered.eq_nil
    rw [gauges_of_sees hinterval hgrace hdistinct' hsome' hother, hgauges]
    simp only [numberIn_perm r hregistered now (listedWorkloads_perm hdeps hsts hds)]
  · exact (reconcilerRun_runOnce r other).gauges_kept hnot

/-- A Deployment by its name and its creation time. -/
def createdAt (name : String) (created : Time) : Deployment where
  metadata := { name := name, namespaceName := "prod", creationTimestamp := created }

/-- A cycle an hour after the epoch that sees these services and Deployments. -/
def deploymentsCycle (registered : List ServiceEntry) (deps : List Deployment) :
    ReconcilerCycle where
  services := .http "key" defaultServicesEndpoint
  answer := .ok registered
  listing := ⟨.ok deps, .ok [], .ok []⟩
  clock := fun _ ↦ ⟨3600 * second⟩

theorem sees_deploymentsCycle (registered : List ServiceEntry) (deps : List Deployment) :
    (deploymentsCycle registered deps).Sees registered deps [] [] ⟨3600 * second⟩ :=
  ⟨rfl, rfl, fun _ ↦ rfl⟩

/-- One workload of each class. -/
theorem classification_counts_each_class :
    ((newReconciler defaultInterval).runOnce (deploymentsCycle
      [{ serviceID := "api", instrumented := true }, { serviceID := "web" }]
      [createdAt "api" ⟨0⟩, createdAt "web" ⟨0⟩, createdAt "cron" ⟨0⟩,
        createdAt "job" ⟨3500 * second⟩])).1.gauges =
      { matched := 1, ghost := 1, mismatched := 1, newCount := 1 } := by
  refine ((classification_counts ?_ ?_ ?_ ?_ (sees_deploymentsCycle _ _)).2.2.1 ?_).trans ?_ <;>
    decide

/-- A cluster of equal workloads that are all instrumented. -/
theorem gauges_replicate (n : ℕ) :
    numberIn (newReconciler defaultInterval) [{ serviceID := "api", instrumented := true }]
      ⟨3600 * second⟩ (listedWorkloads (List.replicate n (createdAt "api" ⟨0⟩)) [] []) .matched =
        n ∧
    ((newReconciler defaultInterval).runOnce (deploymentsCycle
      [{ serviceID := "api", instrumented := true }]
      (List.replicate n (createdAt "api" ⟨0⟩)))).1.gauges.matched = wrapped 32 n := by
  have hnumber : numberIn (newReconciler defaultInterval)
      [{ serviceID := "api", instrumented := true }] ⟨3600 * second⟩
      (listedWorkloads (List.replicate n (createdAt "api" ⟨0⟩)) [] []) .matched = n := by
    unfold numberIn listedWorkloads
    rw [List.map_nil, List.map_nil, List.append_nil, List.append_nil, List.map_replicate,
      List.countP_replicate, if_pos (by decide)]
  refine ⟨hnumber, ?_⟩
  rw [gauges_of_sees (by decide) (by decide) (by decide) (by decide) (sees_deploymentsCycle _ _),
    hnumber]

/-- With 2³¹ matched workloads the gauge of 32 bits overflows. -/
theorem matched_gauge_overflows :
    numberIn (newReconciler defaultInterval) [{ serviceID := "api", instrumented := true }]
      ⟨3600 * second⟩ (listedWorkloads (List.replicate (2 ^ 31) (createdAt "api" ⟨0⟩)) [] [])
        .matched = 2 ^ 31 ∧
    ((newReconciler defaultInterval).runOnce (deploymentsCycle
      [{ serviceID := "api", instrumented := true }]
      (List.replicate (2 ^ 31) (createdAt "api" ⟨0⟩)))).1.gauges.matched = -2 ^ 31 := by
  obtain ⟨hnumber, hgauge⟩ := gauges_replicate (2 ^ 31)
  refine ⟨hnumber, hgauge.trans ?_⟩
  decide

/-! ### The two counts -/

/-- The sum of the four counts. -/
def Counts.total (counts : Counts) : ℤ :=
  counts.matched + counts.ghost + counts.mismatched + counts.newCount

/-- Each listed workload is counted once, in 32 bits. -/
theorem Counts.total_ofClasses (classes : List Classification) :
    wrapped 32 (Counts.ofClasses classes).total = wrapped 32 classes.length := by
  rw [wrapped_eq_wrapped_iff]
  have hdvd : ∀ cls, ∃ turns : ℤ, wrapped 32 (classes.count cls : ℤ) - classes.count cls =
      2 ^ 32 * turns := fun cls ↦ dvd_wrapped_sub 32 _
  obtain ⟨a, hmatched⟩ := hdvd .matched
  obtain ⟨b, hghost⟩ := hdvd .ghost
  obtain ⟨c, hmismatched⟩ := hdvd .mismatched
  obtain ⟨d, hnew⟩ := hdvd .new
  have hsum := sum_count_classes classes
  refine ⟨a + b + c + d, ?_⟩
  unfold Counts.total Counts.ofClasses
  dsimp only
  omega

theorem Counts.total_ofClasses_of_lt {classes : List Classification}
    (hlength : classes.length < 2 ^ 31) : (Counts.ofClasses classes).total = classes.length := by
  have hsum := sum_count_classes classes
  rw [Counts.ofClasses_of_lt hlength]
  unfold Counts.total
  dsimp only
  omega

/-- The gauge of the loop is the number of eligible workloads, in 32 bits. -/
theorem workloadsGauge_runOnce (loop : Loop) {cycle : Cycle} {deps : List Deployment}
    {sts : List StatefulSet} {ds : List DaemonSet} (hlists : cycle.Lists deps sts ds) :
    (runOnce loop cycle).1.workloadsGauge = wrapped 32
      ((listedWorkloads deps sts ds).countP fun w ↦ eligible loop.excludes w.metadata) := by
  obtain ⟨uid, huid⟩ := loop.exists_withClusterUID cycle.namespaceUID
  rw [((cycleRun_runOnce loop cycle).of_lists hlists (by rw [huid])).1,
    Loop.countWorkloads_workloadsGauge, length_eligibleWorkloads]

/-- The workloads the loop leaves out. -/
def leftOut (excludes : Finset String) (workloads : List Workload) : List Workload :=
  workloads.filter fun w ↦ !eligible excludes w.metadata

theorem length_leftOut (excludes : Finset String) (workloads : List Workload) :
    (workloads.countP fun w ↦ eligible excludes w.metadata) + (leftOut excludes workloads).length =
      workloads.length := by
  unfold leftOut
  rw [← List.countP_eq_length_filter, List.length_eq_countP_add_countP
    (fun w : Workload ↦ eligible excludes w.metadata)]
  simp

theorem leftOut_eq_nil_iff (excludes : Finset String) (workloads : List Workload) :
    leftOut excludes workloads = [] ↔ ∀ w ∈ workloads, eligible excludes w.metadata = true := by
  simp [leftOut, List.filter_eq_nil_iff]

/-- On one snapshot of the cluster, the four counts of the reconciler add up to the number of
watched workloads of the loop, in 32 bits, if and only if the number of workloads the loop leaves
out is a multiple of 2³². When fewer than 2³¹ workloads are listed that is to say that it leaves out
none, and then the matched and the mismatched workloads are no more than the watched ones. Assumes:
all three lists are answered and some service is registered. -/
theorem counts_agree_iff (loop : Loop) (r : Reconciler) {cycle : Cycle} {rcycle : ReconcilerCycle}
    {registered : List ServiceEntry} {deps : List Deployment} {sts : List StatefulSet}
    {ds : List DaemonSet} (hlists : cycle.Lists deps sts ds)
    (hsame : rcycle.listing = cycle.listing) (hregistered : rcycle.registered = .ok registered)
    (hsome : registered ≠ []) :
    (wrapped 32 (r.runOnce rcycle).1.gauges.total = (runOnce loop cycle).1.workloadsGauge ↔
      2 ^ 32 ∣ (leftOut loop.excludes (listedWorkloads deps sts ds)).length) ∧
    (deps.length + sts.length + ds.length < 2 ^ 31 →
      ((r.runOnce rcycle).1.gauges.total = (runOnce loop cycle).1.workloadsGauge ↔
        ∀ w ∈ listedWorkloads deps sts ds, eligible loop.excludes w.metadata = true) ∧
      ((∀ w ∈ listedWorkloads deps sts ds, eligible loop.excludes w.metadata = true) →
        (r.runOnce rcycle).1.gauges.matched + (r.runOnce rcycle).1.gauges.mismatched ≤
          (runOnce loop cycle).1.workloadsGauge)) := by
  have hgauges := ((reconcilerRun_runOnce r rcycle).gauges_eq hregistered hsome
    (hsame.trans hlists)).2
  have hclasses := length_classes registered (wrapped 64 (r.interval + newWorkloadGraceExtra))
    rcycle.clock (listedWorkloads deps sts ds)
  have hleft := length_leftOut loop.excludes (listedWorkloads deps sts ds)
  rw [hgauges, workloadsGauge_runOnce loop hlists]
  generalize classes registered (wrapped 64 (r.interval + newWorkloadGraceExtra)) rcycle.clock
    (listedWorkloads deps sts ds) = classes at hclasses
  refine ⟨?_, fun hfits ↦ ?_⟩
  · rw [Counts.total_ofClasses, wrapped_eq_wrapped_iff, hclasses, ← hleft]
    push_cast
    rw [add_sub_cancel_left]
    exact_mod_cast Iff.rfl
  · rw [← length_listedWorkloads] at hfits
    have hfew : classes.length < 2 ^ 31 := hclasses.trans_lt hfits
    have hnone := leftOut_eq_nil_iff loop.excludes (listedWorkloads deps sts ds)
    rw [← List.length_eq_zero_iff] at hnone
    rw [wrapped_of_fits (by omega) (by omega), Counts.total_ofClasses_of_lt hfew, hclasses,
      ← hnone]
    refine ⟨by omega, fun hzero ↦ ?_⟩
    have hsum := sum_count_classes classes
    rw [Counts.ofClasses_of_lt hfew]
    dsimp only
    omega

/-- A cycle of the loop over the Deployments of a cluster. -/
def loopCycle (deps : List Deployment) : Cycle :=
  deploymentCycle (.ok "uid") (.ok deps)

/-- Two Deployments in a namespace that is not excluded. -/
theorem counts_agree_iff_nothing_excluded :
    ((newReconciler defaultInterval).runOnce (deploymentsCycle [{ serviceID := "api" }]
      [createdAt "api" ⟨0⟩, createdAt "web" ⟨0⟩])).1.gauges.total =
      (runOnce (newLoop {})
        (loopCycle [createdAt "api" ⟨0⟩, createdAt "web" ⟨0⟩])).1.workloadsGauge := by
  have hlists : (loopCycle [createdAt "api" ⟨0⟩, createdAt "web" ⟨0⟩]).Lists
      [createdAt "api" ⟨0⟩, createdAt "web" ⟨0⟩] [] [] := rfl
  have hregistered : (deploymentsCycle [{ serviceID := "api" }]
      [createdAt "api" ⟨0⟩, createdAt "web" ⟨0⟩]).registered = .ok [{ serviceID := "api" }] := rfl
  have hagree := counts_agree_iff (newLoop {}) (newReconciler defaultInterval) hlists rfl
    hregistered (List.cons_ne_nil _ _)
  exact (hagree.2 (by decide)).1.mpr (by decide)

/-- A Deployment of the control plane, in an excluded namespace. -/
def coredns : Deployment where
  metadata := { name := "coredns", namespaceName := "kube-system", creationTimestamp := ⟨0⟩ }

/-- The only Deployment is one of the control plane: the loop watches no workload, and the
reconciler counts one that does not match. -/
theorem unmatched_exceeds_watched :
    ((newReconciler defaultInterval).runOnce
      (deploymentsCycle [{ serviceID := "api" }] [coredns])).1.gauges =
        { matched := 0, ghost := 0, mismatched := 1, newCount := 0 } ∧
    (runOnce (newLoop {}) (loopCycle [coredns])).1.workloadsGauge = 0 := by
  decide

end IncidentaryOperator.Discovery
