import IncidentaryOperator.Foundation.Transducer
import IncidentaryOperator.Discovery.Reconciler

/-!
# The backoff of the reconciler

While no service is registered the reconciler doubles its wait, up to a ceiling of thirty minutes.
The wait starts at the interval, and the interval may be longer than the ceiling: the first empty
response then takes the wait below the interval, to the ceiling or, when the doubling overflows, to
a negative duration. With an interval up to the ceiling the wait stays between the two in every run.
`backoff_law_iff` says for every run when the wait only backs off.
-/

set_option autoImplicit false
set_option relaxedAutoImplicit false

namespace IncidentaryOperator.Discovery

open Foundation Kubernetes Client

/-! ### One cycle -/

theorem backOff_currentBackoff (r : Reconciler) :
    r.backOff.currentBackoff = min (wrapped 64 (r.currentBackoff * 2)) reconcilerMaxBackoff := by
  unfold Reconciler.backOff
  dsimp only
  split_ifs with hceiling
  · exact (min_eq_right hceiling.le).symm
  · exact (min_eq_left (not_lt.mp hceiling)).symm

/-- Up to the ceiling the wait does not decrease. -/
theorem le_backOff {r : Reconciler} (hpos : 0 ≤ r.currentBackoff)
    (hceiling : r.currentBackoff ≤ reconcilerMaxBackoff) :
    r.currentBackoff ≤ r.backOff.currentBackoff ∧
      r.backOff.currentBackoff ≤ reconcilerMaxBackoff := by
  have hsmall : reconcilerMaxBackoff < 2 ^ 61 := by decide
  rw [backOff_currentBackoff, wrapped_of_fits (by omega) (by omega)]
  exact ⟨le_min (by omega) hceiling, min_le_right _ _⟩

/-- A wait above the ceiling decreases: to the ceiling, or below zero when the doubling
overflows. -/
theorem backOff_lt {r : Reconciler} (hceiling : reconcilerMaxBackoff < r.currentBackoff) :
    r.backOff.currentBackoff < r.currentBackoff := by
  rw [backOff_currentBackoff]
  exact (min_le_right _ _).trans_lt hceiling

section Step

variable {r : Reconciler} {cycle : ReconcilerCycle} {result : Reconciler × Except String Unit}
  (hrun : ReconcilerRun r cycle result)

include hrun

theorem ReconcilerRun.interval_eq : result.1.interval = r.interval := by
  cases hrun <;> rfl

theorem ReconcilerRun.backoff_of_error {text : String} (herror : cycle.registered = .error text) :
    result.1.currentBackoff = r.currentBackoff := by
  cases hrun with
  | servicesFailed => rfl
  | noServices hregistered => exact absurd (herror.symm.trans hregistered) (by simp)
  | listFailed hregistered | classified hregistered =>
    exact absurd (herror.symm.trans hregistered) (by simp)

theorem ReconcilerRun.backoff_of_nonempty {registered : List ServiceEntry}
    (hregistered : cycle.registered = .ok registered) (hsome : registered ≠ []) :
    result.1.currentBackoff = r.interval := by
  cases hrun with
  | servicesFailed herror => exact absurd (hregistered.symm.trans herror) (by simp)
  | noServices hnone => exact absurd (Except.ok.inj (hregistered.symm.trans hnone)) hsome
  | listFailed | classified => rfl

theorem ReconcilerRun.backoff_of_empty (hnone : cycle.registered = .ok []) :
    result.1.currentBackoff = r.backOff.currentBackoff := by
  cases hrun with
  | servicesFailed herror => exact absurd (hnone.symm.trans herror) (by simp)
  | noServices => rfl
  | listFailed hregistered hsome | classified hregistered hsome =>
    exact absurd (Except.ok.inj (hregistered.symm.trans hnone)) hsome

end Step

/-- The law of the backoff for one cycle: the wait is at least the interval, an empty response does
not decrease it, an error leaves it, and a response that is not empty resets it. -/
structure BackoffLaw (interval : ℤ)
    (step : RunStep Reconciler ReconcilerCycle (Except String Unit)) : Prop where
  atLeast : interval ≤ step.after.currentBackoff
  nondecreasing : step.input.registered = .ok [] →
    step.before.currentBackoff ≤ step.after.currentBackoff
  kept : ∀ text, step.input.registered = .error text →
    step.after.currentBackoff = step.before.currentBackoff
  reset : ∀ registered, step.input.registered = .ok registered → registered ≠ [] →
    step.after.currentBackoff = interval

/-- Only the first two parts of the law depend on the state of the wait. -/
theorem backoffLaw_stepOn {r : Reconciler} {cycle : ReconcilerCycle}
    (hatLeast : r.interval ≤ r.currentBackoff)
    (hempty : cycle.registered = .ok [] → r.currentBackoff ≤ r.backOff.currentBackoff) :
    BackoffLaw r.interval (stepOn Reconciler.runOnce r cycle) := by
  have hrun := reconcilerRun_runOnce r cycle
  refine
    { atLeast := ?_
      nondecreasing := fun hnone ↦ ?_
      kept := fun text herror ↦ hrun.backoff_of_error herror
      reset := fun registered hregistered hsome ↦ hrun.backoff_of_nonempty hregistered hsome }
  · change r.interval ≤ (r.runOnce cycle).1.currentBackoff
    cases hregistered : cycle.registered with
    | error text => rwa [hrun.backoff_of_error hregistered]
    | ok registered =>
      by_cases hnone : registered = []
      · rw [hnone] at hregistered
        rw [hrun.backoff_of_empty hregistered]
        exact hatLeast.trans (hempty hregistered)
      · exact (hrun.backoff_of_nonempty hregistered hnone).ge
  · exact (hempty hnone).trans (hrun.backoff_of_empty hnone).ge

/-! ### Runs -/

/-- The wait lies between the interval and the ceiling. -/
def WithinCeiling (interval : ℤ) (r : Reconciler) : Prop :=
  r.interval = interval ∧ interval ≤ r.currentBackoff ∧ r.currentBackoff ≤ reconcilerMaxBackoff

theorem withinCeiling_runOnce {interval : ℤ} (hpos : 0 < interval)
    (hceiling : interval ≤ reconcilerMaxBackoff) {r : Reconciler} (hr : WithinCeiling interval r)
    (cycle : ReconcilerCycle) : WithinCeiling interval (r.runOnce cycle).1 := by
  obtain ⟨hinterval, hatLeast, hatMost⟩ := hr
  have hrun := reconcilerRun_runOnce r cycle
  refine ⟨hrun.interval_eq.trans hinterval, ?_⟩
  cases hregistered : cycle.registered with
  | error text =>
    rw [hrun.backoff_of_error hregistered]
    exact ⟨hatLeast, hatMost⟩
  | ok registered =>
    by_cases hnone : registered = []
    · rw [hnone] at hregistered
      rw [hrun.backoff_of_empty hregistered]
      obtain ⟨hle, hmost⟩ := le_backOff (hpos.le.trans hatLeast) hatMost
      exact ⟨hatLeast.trans hle, hmost⟩
    · rw [hrun.backoff_of_nonempty hregistered hnone, hinterval]
      exact ⟨le_rfl, hceiling⟩

/-- Until the first empty response the wait is the interval. -/
theorem currentBackoff_runOnce {r : Reconciler} (hr : r.currentBackoff = r.interval)
    {cycle : ReconcilerCycle} (hsome : cycle.registered ≠ .ok []) :
    (r.runOnce cycle).1.currentBackoff = (r.runOnce cycle).1.interval := by
  have hrun := reconcilerRun_runOnce r cycle
  rw [hrun.interval_eq]
  cases hregistered : cycle.registered with
  | error text => rw [hrun.backoff_of_error hregistered, hr]
  | ok registered =>
    refine hrun.backoff_of_nonempty hregistered fun hnone ↦ hsome ?_
    rw [hregistered, hnone]

/-- With an interval above the ceiling the first empty response breaks the law, so a run that keeps
it has none. -/
theorem no_empty_of_backoffLaw {interval : ℤ} (hceiling : reconcilerMaxBackoff < interval)
    {r : Reconciler} (hinterval : r.interval = interval) (hr : r.currentBackoff = r.interval)
    {cycles : List ReconcilerCycle}
    (hlaw : ∀ step ∈ stepsFrom Reconciler.runOnce r cycles, BackoffLaw interval step) :
    ∀ cycle ∈ cycles, cycle.registered ≠ .ok [] := by
  induction cycles generalizing r with
  | nil => exact List.forall_mem_nil _
  | cons cycle rest ih =>
    rw [stepsFrom, List.forall_mem_cons] at hlaw
    have hrun := reconcilerRun_runOnce r cycle
    have hfirst : cycle.registered ≠ .ok [] := by
      intro hnone
      have hatLeast : interval ≤ (r.runOnce cycle).1.currentBackoff := hlaw.1.atLeast
      have hless := backOff_lt (hceiling.trans_eq (hinterval.symm.trans hr.symm))
      rw [hrun.backoff_of_empty hnone] at hatLeast
      omega
    refine List.forall_mem_cons.mpr ⟨hfirst, ?_⟩
    exact ih (hrun.interval_eq.trans hinterval) (currentBackoff_runOnce hr hfirst) hlaw.2

theorem newReconciler_of_pos {interval : ℤ} (hpos : 0 < interval) :
    newReconciler interval = { interval := interval, currentBackoff := interval } := by
  unfold newReconciler
  rw [if_neg (not_le.mpr hpos)]

/-- In a run of the reconciler the wait is at least the interval in every state, does not decrease
on an empty response, is left by an error of the services list and is reset by a response that is
not empty, if and only if the interval is at most the ceiling or no response of the run is empty.
Assumes: the interval is a positive duration. -/
theorem backoff_law_iff {interval : ℤ} (hpos : 0 < interval) (cycles : List ReconcilerCycle) :
    (interval ≤ (newReconciler interval).currentBackoff ∧
      ∀ step ∈ stepsFrom Reconciler.runOnce (newReconciler interval) cycles,
        BackoffLaw interval step) ↔
    interval ≤ reconcilerMaxBackoff ∨ ∀ cycle ∈ cycles, cycle.registered ≠ .ok [] := by
  rw [newReconciler_of_pos hpos, and_iff_right le_rfl]
  constructor
  · intro hlaw
    by_cases hceiling : interval ≤ reconcilerMaxBackoff
    · exact .inl hceiling
    · exact .inr (no_empty_of_backoffLaw (not_le.mp hceiling) rfl rfl hlaw)
  · rintro (hceiling | hsome)
    · refine forall_mem_stepsFrom_of_invariant (WithinCeiling interval)
        (fun r hr cycle _ ↦ withinCeiling_runOnce hpos hceiling hr cycle) ?_
        ⟨rfl, le_rfl, hceiling⟩
      rintro r ⟨rfl, hatLeast, hatMost⟩ cycle -
      exact backoffLaw_stepOn hatLeast fun _ ↦ (le_backOff (hpos.le.trans hatLeast) hatMost).1
    · refine forall_mem_stepsFrom_of_invariant
        (fun r ↦ r.interval = interval ∧ r.currentBackoff = r.interval) ?_ ?_
        ⟨rfl, rfl⟩
      · rintro r ⟨hinterval, hr⟩ cycle hcycle
        exact ⟨(reconcilerRun_runOnce r cycle).interval_eq.trans hinterval,
          currentBackoff_runOnce hr (hsome cycle hcycle)⟩
      · rintro r ⟨rfl, hr⟩ cycle hcycle
        exact backoffLaw_stepOn hr.ge fun hnone ↦ absurd hnone (hsome cycle hcycle)

/-- A cycle in an empty cluster, by the response of the services list. -/
def emptyClusterCycle (answer : ServicesOutcome) : ReconcilerCycle where
  services := .http "key" defaultServicesEndpoint
  answer := answer
  listing := ⟨.ok [], .ok [], .ok []⟩
  clock := fun _ ↦ ⟨0⟩

/-- Ten minutes, doubled twice and capped, left by an error and then reset. -/
theorem backoff_law_iff_ten_minutes :
    ((stepsFrom Reconciler.runOnce (newReconciler (10 * 60 * second))
      [emptyClusterCycle (.ok []), emptyClusterCycle (.ok []), emptyClusterCycle (.error "refused"),
        emptyClusterCycle (.ok [{ serviceID := "api" }])]).map fun step ↦
          step.after.currentBackoff / second) = [1200, 1800, 1800, 600] ∧
    ∀ step ∈ stepsFrom Reconciler.runOnce (newReconciler (10 * 60 * second))
      [emptyClusterCycle (.ok []), emptyClusterCycle (.ok []), emptyClusterCycle (.error "refused"),
        emptyClusterCycle (.ok [{ serviceID := "api" }])], BackoffLaw (10 * 60 * second) step :=
  ⟨by decide, ((backoff_law_iff (by decide) _).mpr (.inl (by decide))).2⟩

/-- An interval of one hour, which the resource definition allows: the first empty response takes
the wait to half an hour. -/
theorem backoff_below_interval :
    ((stepsFrom Reconciler.runOnce (newReconciler (3600 * second))
      [emptyClusterCycle (.ok [])]).map fun step ↦ step.after.currentBackoff / second) =
        [1800] := by
  decide

end IncidentaryOperator.Discovery
