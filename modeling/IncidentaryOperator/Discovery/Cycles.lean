import IncidentaryOperator.Foundation.Transducer
import IncidentaryOperator.Discovery.Loop

/-!
# Runs of discovery cycles

A run of the discovery loop is a list of cycles, each with its own answers to the calls it makes,
any of which may fail. `CycleRun` says once what a cycle can do: fail at a list, find nothing, fail
at the report, or report. From it follow what each cycle of a run hands over and counts, and that a
cluster UID, once known, stays (`topology_cycles_exact`).
-/

set_option autoImplicit false
set_option relaxedAutoImplicit false

namespace IncidentaryOperator.Discovery

open Foundation WireFormat Kubernetes Identity Client

/-! ### One cycle -/

/-- The lookup of the cluster UID changes nothing else. -/
theorem Loop.exists_withClusterUID (loop : Loop) (namespaceUID : Except String String) :
    ∃ uid, loop.withClusterUID namespaceUID = { loop with clusterUID := uid } := by
  unfold Loop.withClusterUID
  dsimp only
  split_ifs
  · exact ⟨_, rfl⟩
  · exact ⟨loop.clusterUID, rfl⟩
  · exact ⟨loop.clusterUID, rfl⟩

/-- A UID that is known is not looked up again. -/
theorem Loop.withClusterUID_of_known {loop : Loop} (hknown : loop.clusterUID ≠ "")
    (namespaceUID : Except String String) : loop.withClusterUID namespaceUID = loop :=
  if_neg hknown

section Fields

variable (loop : Loop) (count : ℕ)

@[simp] theorem Loop.countWorkloads_excludes :
    (loop.countWorkloads count).excludes = loop.excludes := by
  unfold Loop.countWorkloads
  rfl

@[simp] theorem Loop.countWorkloads_clusterUID :
    (loop.countWorkloads count).clusterUID = loop.clusterUID := by
  unfold Loop.countWorkloads
  rfl

@[simp] theorem Loop.countWorkloads_lastReport :
    (loop.countWorkloads count).lastReport = loop.lastReport := by
  unfold Loop.countWorkloads
  rfl

@[simp] theorem Loop.countWorkloads_watchedWorkloads :
    (loop.countWorkloads count).watchedWorkloads = count := by
  unfold Loop.countWorkloads
  rfl

theorem Loop.countWorkloads_workloadsGauge :
    (loop.countWorkloads count).workloadsGauge = wrapped 32 count := by
  unfold Loop.countWorkloads wrapped
  dsimp only

/-- The 32-bit gauge is exact below its bound. -/
theorem Loop.countWorkloads_workloadsGauge_of_lt {count : ℕ} (hcount : count < 2 ^ 31) :
    (loop.countWorkloads count).workloadsGauge = count := by
  rw [Loop.countWorkloads_workloadsGauge]
  exact wrapped_of_fits (by omega) (by omega)

end Fields

/-- What a cycle can do from a state, once the cluster UID was looked up. -/
inductive CycleRun (loop : Loop) (cycle : Cycle) : Loop × CycleOutput → Prop
  | listFailed {text : String}
      (hcollect : collectWorkloads loop.excludes cycle.reader cycle.listing = .error text) :
      CycleRun loop cycle (loop, ⟨none, .error text⟩)
  | nothingFound
      (hcollect : collectWorkloads loop.excludes cycle.reader cycle.listing = .ok []) :
      CycleRun loop cycle (loop.countWorkloads 0, ⟨none, .ok ()⟩)
  | reportFailed {workloads : List TopologyWorkload} {text : String}
      (hcollect : collectWorkloads loop.excludes cycle.reader cycle.listing = .ok workloads)
      (hfound : workloads ≠ []) (hreport : cycle.topology.report cycle.answer = .error text) :
      CycleRun loop cycle (loop.countWorkloads workloads.length,
        ⟨some ((loop.countWorkloads workloads.length).topologyReport cycle.observedAt workloads),
          .error text⟩)
  | reported {workloads : List TopologyWorkload} {response : TopologyResponse}
      (hcollect : collectWorkloads loop.excludes cycle.reader cycle.listing = .ok workloads)
      (hfound : workloads ≠ []) (hreport : cycle.topology.report cycle.answer = .ok response) :
      CycleRun loop cycle ((loop.countWorkloads workloads.length).recordReport cycle.reportedAt,
        ⟨some ((loop.countWorkloads workloads.length).topologyReport cycle.observedAt workloads),
          .ok ()⟩)

theorem cycleRun_runOnce (loop : Loop) (cycle : Cycle) :
    CycleRun (loop.withClusterUID cycle.namespaceUID) cycle (runOnce loop cycle) := by
  unfold runOnce
  generalize loop.withClusterUID cycle.namespaceUID = known
  dsimp only
  cases hcollect : collectWorkloads known.excludes cycle.reader cycle.listing with
  | error text => exact .listFailed hcollect
  | ok workloads =>
    by_cases hempty : workloads = []
    · rw [hempty] at hcollect ⊢
      exact .nothingFound hcollect
    · dsimp only
      rw [if_neg (fun hlength ↦ hempty (List.eq_nil_of_length_eq_zero hlength))]
      cases hreport : cycle.topology.report cycle.answer with
      | error text => exact .reportFailed hcollect hempty hreport
      | ok response => exact .reported hcollect hempty hreport

/-- The three lists of a cycle are all answered, with these items. -/
def Cycle.Lists (cycle : Cycle) (deps : List Deployment) (sts : List StatefulSet)
    (ds : List DaemonSet) : Prop :=
  cycle.listing = ⟨.ok deps, .ok sts, .ok ds⟩

/-- A cycle does what it is for: it reports exactly the eligible workloads of its own lists, and the
gauges, the time of the last report and the cluster UID follow its own answers. -/
structure CycleExact (excludes : Finset String) (before : Loop) (cycle : Cycle) (after : Loop)
    (output : CycleOutput) : Prop where
  /-- A report is handed over exactly when all lists are answered and some workload is eligible. -/
  handed_iff : output.handed.isSome = true ↔ ∃ deps sts ds, cycle.Lists deps sts ds ∧
    eligibleWorkloads excludes cycle.reader deps sts ds ≠ []
  /-- A report lists exactly the eligible workloads. -/
  workloads_eq : ∀ report, output.handed = some report → ∀ deps sts ds, cycle.Lists deps sts ds →
    report.workloads = eligibleWorkloads excludes cycle.reader deps sts ds
  /-- Its entries have the kinds, the namespaces and the labels of those workloads. -/
  entries_eq : ∀ report, output.handed = some report → ∀ deps sts ds, cycle.Lists deps sts ds →
    report.workloads.map (fun entry ↦ (entry.kind, entry.namespaceName, entry.labels)) =
      ((listedWorkloads deps sts ds).filter fun w ↦ eligible excludes w.metadata).map
        fun w ↦ (w.kind.text, w.metadata.namespaceName, w.metadata.labels)
  /-- The gauges change only in cycles whose lists are all answered. -/
  gauge_kept : (¬ ∃ deps sts ds, cycle.Lists deps sts ds) →
    after.workloadsGauge = before.workloadsGauge ∧ after.watchedWorkloads = before.watchedWorkloads
  /-- In those they are the number of eligible workloads. -/
  gauge_eq : ∀ deps sts ds, cycle.Lists deps sts ds →
    after.workloadsGauge = (eligibleWorkloads excludes cycle.reader deps sts ds).length ∧
      after.watchedWorkloads = (eligibleWorkloads excludes cycle.reader deps sts ds).length
  /-- The time of the last report changes only when a report succeeds. -/
  lastReport_changed : after.lastReport ≠ before.lastReport →
    output.handed.isSome = true ∧ ∃ response, cycle.topology.report cycle.answer = .ok response
  /-- A known cluster UID is kept. -/
  clusterUID_kept : before.clusterUID ≠ "" → after.clusterUID = before.clusterUID
  /-- A report carries the cluster UID. -/
  clusterUID_carried : ∀ report, output.handed = some report →
    report.clusterUID = after.clusterUID

section Step

variable {loop : Loop} {cycle : Cycle} {result : Loop × CycleOutput}
  (hrun : CycleRun loop cycle result)

include hrun

theorem CycleRun.excludes_eq : result.1.excludes = loop.excludes := by
  cases hrun <;> simp [Loop.recordReport]

theorem CycleRun.clusterUID_eq : result.1.clusterUID = loop.clusterUID := by
  cases hrun <;> simp [Loop.recordReport]

theorem CycleRun.clusterUID_carried {report : TopologyReport}
    (hhanded : result.2.handed = some report) : report.clusterUID = loop.clusterUID := by
  cases hrun with
  | listFailed | nothingFound => exact absurd hhanded (by simp)
  | reportFailed | reported =>
    obtain rfl := Option.some.inj hhanded
    simp [Loop.topologyReport]

theorem CycleRun.lastReport_changed (hchanged : result.1.lastReport ≠ loop.lastReport) :
    result.2.handed.isSome = true ∧
      ∃ response, cycle.topology.report cycle.answer = .ok response := by
  cases hrun with
  | listFailed | nothingFound | reportFailed => exact absurd hchanged (by simp)
  | reported _ _ hreport => exact ⟨rfl, _, hreport⟩

/-- With a list that fails, nothing is handed over and the state stays. -/
theorem CycleRun.of_not_lists (hfailed : ¬ ∃ deps sts ds, cycle.Lists deps sts ds) :
    result.1 = loop ∧ result.2.handed = none := by
  have hcollect : ∀ workloads,
      collectWorkloads loop.excludes cycle.reader cycle.listing ≠ .ok workloads := by
    intro workloads hok
    obtain ⟨deps, sts, ds, hlists, -⟩ := collectWorkloads_eq_ok.mp hok
    exact hfailed ⟨deps, sts, ds, hlists⟩
  cases hrun with
  | listFailed => exact ⟨rfl, rfl⟩
  | nothingFound hok | reportFailed hok | reported hok => exact absurd hok (hcollect _)

/-- With all lists answered, the eligible workloads are counted, and reported if there are any. -/
theorem CycleRun.of_lists {deps : List Deployment} {sts : List StatefulSet} {ds : List DaemonSet}
    (hlists : cycle.Lists deps sts ds) {workloads : List TopologyWorkload}
    (heligible : eligibleWorkloads loop.excludes cycle.reader deps sts ds = workloads) :
    result.1.workloadsGauge = (loop.countWorkloads workloads.length).workloadsGauge ∧
    result.1.watchedWorkloads = workloads.length ∧
    result.2.handed.map TopologyReport.workloads =
      if workloads = [] then none else some workloads := by
  have hcollect : collectWorkloads loop.excludes cycle.reader cycle.listing = .ok workloads :=
    collectWorkloads_eq_ok.mpr ⟨deps, sts, ds, hlists, heligible.symm⟩
  cases hrun with
  | listFailed hfailed => exact absurd (hcollect.symm.trans hfailed) (by simp)
  | nothingFound hok =>
    obtain rfl := Except.ok.inj (hcollect.symm.trans hok)
    simp
  | reportFailed hok hfound | reported hok hfound =>
    obtain rfl := Except.ok.inj (hcollect.symm.trans hok)
    simp [hfound, Loop.topologyReport, Loop.recordReport]

end Step

theorem length_eligibleWorkloads_le (excludes : Finset String) (reader : Reader)
    (deps : List Deployment) (sts : List StatefulSet) (ds : List DaemonSet) :
    (eligibleWorkloads excludes reader deps sts ds).length ≤
      deps.length + sts.length + ds.length := by
  rw [length_eligibleWorkloads, ← length_listedWorkloads]
  exact List.countP_le_length

/-- Fewer workloads are listed than the 32-bit gauge can count. -/
def Cycle.Countable (cycle : Cycle) : Prop :=
  ∀ deps sts ds, cycle.Lists deps sts ds → deps.length + sts.length + ds.length < 2 ^ 31

/-- What is handed over in a cycle whose lists are all answered. -/
theorem handed_of_lists (loop : Loop) {cycle : Cycle} {deps : List Deployment}
    {sts : List StatefulSet} {ds : List DaemonSet} (hlists : cycle.Lists deps sts ds) :
    (runOnce loop cycle).2.handed.map TopologyReport.workloads =
      if eligibleWorkloads loop.excludes cycle.reader deps sts ds = [] then none
      else some (eligibleWorkloads loop.excludes cycle.reader deps sts ds) := by
  obtain ⟨uid, huid⟩ := loop.exists_withClusterUID cycle.namespaceUID
  exact ((cycleRun_runOnce loop cycle).of_lists hlists (by rw [huid])).2.2

theorem handed_isSome_iff (loop : Loop) (cycle : Cycle) :
    (runOnce loop cycle).2.handed.isSome = true ↔ ∃ deps sts ds, cycle.Lists deps sts ds ∧
      eligibleWorkloads loop.excludes cycle.reader deps sts ds ≠ [] := by
  constructor
  · intro hhanded
    by_cases hlists : ∃ deps sts ds, cycle.Lists deps sts ds
    · obtain ⟨deps, sts, ds, hlists⟩ := hlists
      refine ⟨deps, sts, ds, hlists, fun hnone ↦ ?_⟩
      have hmap := handed_of_lists loop hlists
      rw [if_pos hnone, Option.map_eq_none_iff] at hmap
      exact absurd hhanded (by simp [hmap])
    · have hnone := ((cycleRun_runOnce loop cycle).of_not_lists hlists).2
      exact absurd hhanded (by simp [hnone])
  · rintro ⟨deps, sts, ds, hlists, hfound⟩
    have hmap := handed_of_lists loop hlists
    rw [if_neg hfound, Option.map_eq_some_iff] at hmap
    obtain ⟨report, hreport, -⟩ := hmap
    exact Option.isSome_iff_exists.mpr ⟨report, hreport⟩

/-- One cycle from any state. Assumes: fewer than 2³¹ workloads are listed. -/
theorem cycleExact_runOnce (loop : Loop) {cycle : Cycle} (hcountable : cycle.Countable) :
    CycleExact loop.excludes loop cycle (runOnce loop cycle).1 (runOnce loop cycle).2 := by
  have hrun := cycleRun_runOnce loop cycle
  obtain ⟨uid, huid⟩ := loop.exists_withClusterUID cycle.namespaceUID
  have hworkloads : ∀ report, (runOnce loop cycle).2.handed = some report → ∀ deps sts ds,
      cycle.Lists deps sts ds →
      report.workloads = eligibleWorkloads loop.excludes cycle.reader deps sts ds := by
    intro report hhanded deps sts ds hlists
    have hmap := handed_of_lists loop hlists
    rw [hhanded, Option.map_some] at hmap
    split_ifs at hmap with hnone
    exact Option.some.inj hmap
  refine
    { handed_iff := handed_isSome_iff loop cycle
      workloads_eq := hworkloads
      entries_eq := ?_
      gauge_kept := ?_
      gauge_eq := ?_
      lastReport_changed := ?_
      clusterUID_kept := ?_
      clusterUID_carried := ?_ }
  · intro report hhanded deps sts ds hlists
    rw [hworkloads report hhanded deps sts ds hlists]
    exact map_eligibleWorkloads cycle.reader _
      (fun w ↦ (w.kind.text, w.metadata.namespaceName, w.metadata.labels))
      (fun _ _ _ _ _ _ ↦ rfl) loop.excludes deps sts ds
  · intro hlists
    rw [(hrun.of_not_lists hlists).1, huid]
    exact ⟨rfl, rfl⟩
  · intro deps sts ds hlists
    obtain ⟨hgauge, hwatched, -⟩ := hrun.of_lists hlists (by rw [huid])
    have hfits := (length_eligibleWorkloads_le loop.excludes cycle.reader deps sts ds).trans_lt
      (hcountable deps sts ds hlists)
    rw [Loop.countWorkloads_workloadsGauge_of_lt _ hfits] at hgauge
    exact ⟨hgauge, hwatched⟩
  · intro hchanged
    apply hrun.lastReport_changed
    rw [huid]
    exact hchanged
  · intro hknown
    rw [hrun.clusterUID_eq, Loop.withClusterUID_of_known hknown]
  · intro report hhanded
    exact (hrun.clusterUID_carried hhanded).trans hrun.clusterUID_eq.symm

/-! ### Runs -/

/-- What later cycles keep of a state: the excluded namespaces, and the cluster UID once known. -/
def Keeps (loop later : Loop) : Prop :=
  later.excludes = loop.excludes ∧ (loop.clusterUID ≠ "" → later.clusterUID = loop.clusterUID)

theorem Keeps.refl (loop : Loop) : Keeps loop loop :=
  ⟨rfl, fun _ ↦ rfl⟩

theorem Keeps.trans (first second third : Loop) (hfirst : Keeps first second)
    (hsecond : Keeps second third) : Keeps first third := by
  refine ⟨hsecond.1.trans hfirst.1, fun hknown ↦ ?_⟩
  have hsame := hfirst.2 hknown
  rw [hsecond.2 (by rwa [hsame]), hsame]

theorem keeps_runOnce (loop : Loop) (cycle : Cycle) : Keeps loop (runOnce loop cycle).1 := by
  have hrun := cycleRun_runOnce loop cycle
  refine ⟨?_, fun hknown ↦ ?_⟩
  · obtain ⟨uid, huid⟩ := loop.exists_withClusterUID cycle.namespaceUID
    rw [hrun.excludes_eq, huid]
  · rw [hrun.clusterUID_eq, Loop.withClusterUID_of_known hknown]

/-- Topology cycles are complete, exact and independent. In every run of cycles from any state of
the loop, whatever calls fail in whatever cycles, each cycle does what its own answers say
(`CycleExact`), and a cluster UID, once known after a cycle, is the one of the loop after every
later cycle and of every later report. Assumes: no cycle lists 2³¹ workloads or more. -/
theorem topology_cycles_exact (loop : Loop) {cycles : List Cycle}
    (hcountable : ∀ cycle ∈ cycles, cycle.Countable) :
    (∀ step ∈ stepsFrom runOnce loop cycles,
      CycleExact loop.excludes step.before step.input step.after step.output) ∧
    (stepsFrom runOnce loop cycles).Pairwise fun earlier later ↦
      earlier.after.clusterUID ≠ "" → later.after.clusterUID = earlier.after.clusterUID ∧
        ∀ report, later.output.handed = some report →
          report.clusterUID = earlier.after.clusterUID := by
  have hexact : ∀ step ∈ stepsFrom runOnce loop cycles,
      CycleExact loop.excludes step.before step.input step.after step.output := by
    have hself : ∀ step ∈ stepsFrom runOnce loop cycles,
        CycleExact step.before.excludes step.before step.input step.after step.output :=
      forall_mem_stepsFrom (fun state cycle hcycle ↦
        cycleExact_runOnce state (hcountable cycle hcycle)) loop
    intro step hstep
    rw [← (keeps_before Keeps.refl Keeps.trans keeps_runOnce loop cycles step hstep).1]
    exact hself step hstep
  refine ⟨hexact, ?_⟩
  refine (pairwise_stepsFrom Keeps.refl Keeps.trans keeps_runOnce loop cycles).imp_of_mem ?_
  intro earlier later _ hlater hkept hknown
  have hbefore := hkept.2 hknown
  have hafter : later.after.clusterUID = earlier.after.clusterUID := by
    rw [(hexact later hlater).clusterUID_kept (by rwa [hbefore]), hbefore]
  refine ⟨hafter, fun report hhanded ↦ ?_⟩
  rw [(hexact later hlater).clusterUID_carried report hhanded, hafter]

/-- A cycle in a cluster without StatefulSets and DaemonSets whose report succeeds. -/
def deploymentCycle (namespaceUID : Except String String)
    (deployments : Except String (List Deployment)) : Cycle where
  namespaceUID := namespaceUID
  listing := ⟨deployments, .ok [], .ok []⟩
  reader := Reader.empty
  topology := .http "key" defaultTopologyEndpoint
  answer := .ok { accepted := 1 }
  observedAt := ⟨0⟩
  reportedAt := ⟨1⟩

/-- Three cycles with one eligible Deployment. In the first the Namespace cannot be read, in the
second the list fails, in the third the Namespace again cannot be read: two reports, the second with
the UID learned in between. -/
def recovery : List Cycle :=
  let api : Deployment := { metadata := { name := "api", namespaceName := "prod" } }
  [deploymentCycle (.error "denied") (.ok [api]), deploymentCycle (.ok "uid") (.error "timeout"),
    deploymentCycle (.error "denied") (.ok [api])]

theorem topology_cycles_exact_recovery :
    ((stepsFrom runOnce (newLoop {}) recovery).map fun step ↦
      step.output.handed.map TopologyReport.clusterUID) = [some "", none, some "uid"] ∧
    ∀ step ∈ stepsFrom runOnce (newLoop {}) recovery,
      CycleExact (newLoop {}).excludes step.before step.input step.after step.output := by
  refine ⟨by decide, (topology_cycles_exact (newLoop {}) ?_).1⟩
  have hcountable : ∀ namespaceUID (deployments : Except String (List Deployment)),
      (∀ deps, deployments = .ok deps → deps.length ≤ 1) →
        (deploymentCycle namespaceUID deployments).Countable := by
    rintro namespaceUID deployments hone deps sts ds ⟨⟩
    exact (hone deps rfl).trans_lt (by norm_num)
  simp only [recovery, List.forall_mem_cons]
  refine ⟨hcountable _ _ ?_, hcountable _ _ ?_, hcountable _ _ ?_, List.forall_mem_nil _⟩ <;>
    rintro deps ⟨⟩ <;> simp

end IncidentaryOperator.Discovery
