import IncidentaryOperator.Discovery.Backoff
import IncidentaryOperator.Discovery.Cycles
import IncidentaryOperator.Foundation.Machine
import IncidentaryOperator.Foundation.Ticker

/-!
# How often the discovery loops run

`Loop.Start` runs one cycle, starts a ticker and then runs a cycle for every tick it receives.
`Reconciler.Start` waits for its current backoff after every cycle. Here both run on a clock: a
cycle may take any time, and time may pass between any two steps.

`topology_cadence`: the loop never begins more cycles than one and one for every interval since its
start, so a slow cycle is not followed by a burst; and while it waits with no tick to receive, its
last cycle returned less than an interval ago. `reconciler_cadence`: with an interval up to the
ceiling of the backoff, two cycles begin at least an interval apart, and the next one is due at most
half an hour after the last one returned.
-/

set_option autoImplicit false
set_option relaxedAutoImplicit false

namespace IncidentaryOperator.Discovery

open Foundation WireFormat Kubernetes Identity Client

/-- What happens to a loop that runs cycles: time passes, the running cycle returns after what its
calls answered, the timer wakes the loop, the context ends, and the loop receives its end. -/
inductive LoopAction (Answers : Type)
  | pass (elapsed : ℕ)
  | finish (answers : Answers)
  | wake
  | cancel
  | receiveDone

/-! ### The topology loop -/

/-- Where `Loop.Start` stands: in the cycle before the ticker is started, in a later cycle, at its
select since a cycle returned, or returned. -/
inductive TopologyPhase
  | initialCycle (now : ℤ)
  | cycle (ticker : Ticker)
  | select (ticker : Ticker) (finishedAt : ℤ)
  | stopped (now : ℤ)

def TopologyPhase.now : TopologyPhase → ℤ
  | .initialCycle now => now
  | .cycle ticker => ticker.now
  | .select ticker _ => ticker.now
  | .stopped now => now

/-- `Loop.Start`, called at `begun`, with the number of cycles begun. -/
structure TopologyStart where
  loop : Loop
  begun : ℤ
  phase : TopologyPhase
  cycles : ℕ := 1
  cancelled : Bool := false

def TopologyPhase.pass (elapsed : ℕ) : TopologyPhase → TopologyPhase
  | .initialCycle now => .initialCycle (now + elapsed)
  | .cycle ticker => .cycle (ticker.advance elapsed)
  | .select ticker finishedAt => .select (ticker.advance elapsed) finishedAt
  | .stopped now => .stopped (now + elapsed)

/-- One step. `time.NewTicker` panics on a period that is not positive, and no state follows. -/
def TopologyStart.step (run : TopologyStart) : LoopAction Cycle → Option TopologyStart
  | .pass elapsed => some { run with phase := run.phase.pass elapsed }
  | .finish cycle =>
    match run.phase with
    | .initialCycle now =>
      if hpos : 0 < run.loop.interval then
        some { run with
          loop := (runOnce run.loop cycle).1
          phase := .select (Ticker.start run.loop.interval now hpos) now }
      else none
    | .cycle ticker =>
      some { run with
        loop := (runOnce run.loop cycle).1
        phase := .select ticker ticker.now }
    | _ => none
  | .wake =>
    match run.phase with
    | .select ticker _ =>
      if ticker.pending then
        some { run with phase := .cycle ticker.receive, cycles := run.cycles + 1 }
      else none
    | _ => none
  | .cancel => if run.cancelled then none else some { run with cancelled := true }
  | .receiveDone =>
    match run.phase with
    | .select ticker _ =>
      if run.cancelled then some { run with phase := .stopped ticker.now } else none
    | _ => none

/-- `Loop.Start` on a loop as `NewLoop` leaves it, for all options and every time of the call. -/
def topologyMachine : Machine TopologyStart (LoopAction Cycle) where
  start := fun run ↦ ∃ opts begun,
    run = { loop := newLoop opts, begun := begun, phase := .initialCycle begun }
  step := TopologyStart.step

theorem newLoop_interval_pos (opts : Options) : 0 < (newLoop opts).interval := by
  unfold newLoop
  dsimp only
  split_ifs with hdefault
  · decide
  · exact not_le.mp hdefault

theorem Loop.countWorkloads_interval (loop : Loop) (count : ℕ) :
    (loop.countWorkloads count).interval = loop.interval := by
  unfold Loop.countWorkloads
  rfl

/-- A cycle leaves the interval. -/
theorem runOnce_interval (loop : Loop) (cycle : Cycle) :
    (runOnce loop cycle).1.interval = loop.interval := by
  have hkept : ∀ known result, CycleRun known cycle result →
      result.1.interval = known.interval := by
    intro known result hrun
    cases hrun <;> simp [Loop.recordReport, Loop.countWorkloads_interval]
  obtain ⟨uid, huid⟩ := loop.exists_withClusterUID cycle.namespaceUID
  rw [hkept _ _ (cycleRun_runOnce loop cycle), huid]

/-- The ticker has the interval as its period, and has woken the loop once for every cycle after the
first. -/
structure Driven (interval begun : ℤ) (cycles : ℕ) (ticker : Ticker) : Prop where
  period : ticker.period = interval
  paced : ∃ received, cycles = received + 1 ∧ ticker.Paced begun received

section Driven

variable {interval begun : ℤ} {cycles : ℕ} {ticker : Ticker}

theorem Driven.advance (hdriven : Driven interval begun cycles ticker) (elapsed : ℕ) :
    Driven interval begun cycles (ticker.advance elapsed) := by
  obtain ⟨received, hcycles, hpaced⟩ := hdriven.paced
  exact ⟨(Ticker.advance_period _ _).trans hdriven.period, received, hcycles,
    hpaced.advance elapsed⟩

theorem Driven.receive (hdriven : Driven interval begun cycles ticker)
    (hpending : ticker.pending = true) : Driven interval begun (cycles + 1) ticker.receive := by
  obtain ⟨received, hcycles, hpaced⟩ := hdriven.paced
  exact ⟨hdriven.period, received + 1, congrArg (· + 1) hcycles, hpaced.receive hpending⟩

/-- The cycles after the first take an interval each of the time since the start. -/
theorem Driven.mul_interval_le (hdriven : Driven interval begun cycles ticker) :
    (cycles - 1 : ℤ) * interval ≤ ticker.now - begun := by
  obtain ⟨received, hcycles, hpaced⟩ := hdriven.paced
  have hpace := hpaced.mul_period_le
  rw [hdriven.period] at hpace
  simpa [hcycles] using hpace

end Driven

/-- What holds in each phase. -/
def TopologyPhase.Timely (interval begun : ℤ) (cycles : ℕ) : TopologyPhase → Prop
  | .initialCycle now => cycles = 1 ∧ begun ≤ now
  | .cycle ticker => Driven interval begun cycles ticker
  | .select ticker finishedAt =>
    Driven interval begun cycles ticker ∧ ticker.FreshSince finishedAt
  | .stopped now => (cycles - 1 : ℤ) * interval ≤ now - begun

theorem TopologyPhase.Timely.pass {interval begun : ℤ} {cycles : ℕ} {phase : TopologyPhase}
    (htimely : phase.Timely interval begun cycles) (elapsed : ℕ) :
    (phase.pass elapsed).Timely interval begun cycles := by
  cases phase with
  | initialCycle now => exact ⟨htimely.1, htimely.2.trans (by omega)⟩
  | cycle ticker => exact Driven.advance htimely elapsed
  | select ticker finishedAt => exact ⟨htimely.1.advance elapsed, htimely.2.advance elapsed⟩
  | stopped now =>
    simp only [TopologyPhase.Timely] at htimely
    simp only [TopologyPhase.pass, TopologyPhase.Timely]
    omega

/-- The interval is positive and what its phase needs holds. -/
def TopologyStart.Timely (run : TopologyStart) : Prop :=
  0 < run.loop.interval ∧ run.phase.Timely run.loop.interval run.begun run.cycles

/-- One step. -/
theorem TopologyStart.Timely.step {run next : TopologyStart} {action : LoopAction Cycle}
    (htimely : run.Timely) (hstep : run.step action = some next) : next.Timely := by
  obtain ⟨loop, begun, phase, cycles, cancelled⟩ := run
  obtain ⟨hpos, hphase⟩ := htimely
  cases action with
  | pass elapsed =>
    cases hstep
    exact ⟨hpos, hphase.pass elapsed⟩
  | finish cycle =>
    have hinterval := runOnce_interval loop cycle
    cases phase with
    | initialCycle now =>
      simp only [TopologyStart.step, dif_pos hpos] at hstep
      cases hstep
      obtain ⟨hcycles, hbegun⟩ := hphase
      refine ⟨hpos.trans_eq hinterval.symm, ⟨hinterval.symm, 0, hcycles, ?_⟩, ?_⟩
      · exact Ticker.paced_start hpos hbegun
      · exact Ticker.freshSince_now _
    | cycle ticker =>
      cases hstep
      have hdriven : Driven loop.interval begun cycles ticker := hphase
      refine ⟨hpos.trans_eq hinterval.symm, ?_, ticker.freshSince_now⟩
      exact ⟨hdriven.period.trans hinterval.symm, hdriven.paced⟩
    | select | stopped => cases hstep
  | wake =>
    cases phase with
    | select ticker finishedAt =>
      simp only [TopologyStart.step] at hstep
      split_ifs at hstep with hpending
      cases hstep
      exact ⟨hpos, hphase.1.receive hpending⟩
    | initialCycle | cycle | stopped => cases hstep
  | cancel =>
    simp only [TopologyStart.step] at hstep
    split_ifs at hstep
    cases hstep
    exact ⟨hpos, hphase⟩
  | receiveDone =>
    cases phase with
    | select ticker finishedAt =>
      simp only [TopologyStart.step] at hstep
      split_ifs at hstep
      cases hstep
      exact ⟨hpos, hphase.1.mul_interval_le⟩
    | initialCycle | cycle | stopped => cases hstep

theorem timely {run : TopologyStart} (hreach : topologyMachine.Reachable run) : run.Timely := by
  refine hreach.invariant ?_ fun run action next _ htimely hstep ↦ htimely.step hstep
  rintro run ⟨opts, begun, rfl⟩
  exact ⟨newLoop_interval_pos opts, rfl, le_rfl⟩

/-- In every run of `Loop.Start`, with cycles and waits of any length, the interval suits a ticker,
the cycles begun after the first are at most one for every interval since the start, and while the
loop waits with no tick to receive its last cycle returned less than an interval ago. Assumes: a
reachable state. -/
theorem topology_cadence {run : TopologyStart} (hreach : topologyMachine.Reachable run) :
    0 < run.loop.interval ∧
      (run.cycles - 1 : ℤ) * run.loop.interval ≤ run.phase.now - run.begun ∧
      ∀ ticker finishedAt, run.phase = .select ticker finishedAt → ticker.pending = false →
        ticker.now - finishedAt < run.loop.interval := by
  obtain ⟨hpos, hphase⟩ := timely hreach
  refine ⟨hpos, ?_, ?_⟩
  · cases hrun : run.phase with
    | initialCycle now =>
      rw [hrun] at hphase
      obtain ⟨hcycles, hbegun⟩ := hphase
      simpa [hcycles, TopologyPhase.now] using hbegun
    | cycle ticker =>
      rw [hrun] at hphase
      exact Driven.mul_interval_le hphase
    | select ticker finishedAt =>
      rw [hrun] at hphase
      exact hphase.1.mul_interval_le
    | stopped now =>
      rw [hrun] at hphase
      exact hphase
  · intro ticker finishedAt hselect hpending
    rw [hselect] at hphase
    exact hphase.1.period ▸ hphase.2.young hpending

/-- An initial cycle of three intervals, a wait of two, and a cycle: two cycles in six intervals. -/
theorem topology_cadence_slowStart : ∃ run, topologyMachine.Reachable run ∧ run.cycles = 2 ∧
    (run.cycles - 1 : ℤ) * run.loop.interval ≤ run.phase.now - run.begun := by
  have hrun : ∃ run, topologyMachine.replay
      { loop := newLoop { interval := 10 }, begun := 0, phase := .initialCycle 0 }
      [.pass 30, .finish (deploymentCycle (.ok "uid") (.ok [])), .pass 25, .wake, .pass 5] =
        some run ∧ run.cycles = 2 :=
    ⟨_, rfl, rfl⟩
  obtain ⟨run, hreplay, hcycles⟩ := hrun
  have hreach : topologyMachine.Reachable run :=
    Machine.reachable_of_replay ⟨{ interval := 10 }, 0, rfl⟩ hreplay
  exact ⟨run, hreach, hcycles, (topology_cadence hreach).2.1⟩

/-! ### The reconciler -/

/-- Where `Reconciler.Start` stands: in a cycle, waiting since a cycle returned until the timer
fires, or returned. -/
inductive ReconcilerPhase
  | cycle
  | select (finishedAt deadline : ℤ)
  | stopped

/-- `Reconciler.Start`, with the times at which its cycles began, the latest first. -/
structure ReconcilerStart where
  reconciler : Reconciler
  now : ℤ
  begunAt : List ℤ
  phase : ReconcilerPhase := .cycle
  cancelled : Bool := false

/-- One step. The timer is started anew after every cycle, with the wait the cycle left. -/
def ReconcilerStart.step (run : ReconcilerStart) :
    LoopAction ReconcilerCycle → Option ReconcilerStart
  | .pass elapsed => some { run with now := run.now + elapsed }
  | .finish cycle =>
    match run.phase with
    | .cycle =>
      let after := (run.reconciler.runOnce cycle).1
      some { run with
        reconciler := after
        phase := .select run.now (run.now + after.currentBackoff) }
    | _ => none
  | .wake =>
    match run.phase with
    | .select _ deadline =>
      if deadline ≤ run.now then
        some { run with phase := .cycle, begunAt := run.now :: run.begunAt }
      else none
    | _ => none
  | .cancel => if run.cancelled then none else some { run with cancelled := true }
  | .receiveDone =>
    match run.phase with
    | .select _ _ => if run.cancelled then some { run with phase := .stopped } else none
    | _ => none

/-- `Reconciler.Start` on a reconciler as `NewReconciler` leaves it, for every time of the call. -/
def reconcilerMachine (interval : ℤ) : Machine ReconcilerStart (LoopAction ReconcilerCycle) where
  start := fun run ↦ ∃ now,
    run = { reconciler := newReconciler interval, now := now, begunAt := [now] }
  step := ReconcilerStart.step

/-- What holds in each phase, of the cycles begun and the timer. -/
def ReconcilerPhase.Timely (interval now : ℤ) (begunAt : List ℤ) : ReconcilerPhase → Prop
  | .cycle => ∀ time ∈ begunAt, time ≤ now
  | .select finishedAt deadline => (∀ time ∈ begunAt, time ≤ finishedAt) ∧ finishedAt ≤ now ∧
      finishedAt + interval ≤ deadline ∧ deadline ≤ finishedAt + reconcilerMaxBackoff
  | .stopped => True

/-- Two of the times are an interval apart. -/
def Apart (interval : ℤ) (begunAt : List ℤ) : Prop :=
  begunAt.Pairwise fun later earlier ↦ earlier + interval ≤ later

/-- The wait lies between the interval and the ceiling, the cycles begin an interval apart, and what
the phase needs holds. -/
structure ReconcilerStart.Timely (interval : ℤ) (run : ReconcilerStart) : Prop where
  within : WithinCeiling interval run.reconciler
  apart : Apart interval run.begunAt
  phase : run.phase.Timely interval run.now run.begunAt

/-- One step. -/
theorem ReconcilerStart.Timely.step {interval : ℤ} (hpos : 0 < interval)
    (hceiling : interval ≤ reconcilerMaxBackoff) {run next : ReconcilerStart}
    {action : LoopAction ReconcilerCycle} (htimely : run.Timely interval)
    (hstep : run.step action = some next) : next.Timely interval := by
  obtain ⟨reconciler, now, begunAt, phase, cancelled⟩ := run
  obtain ⟨hwithin, hapart, hphase⟩ := htimely
  cases action with
  | pass elapsed =>
    cases hstep
    refine ⟨hwithin, hapart, ?_⟩
    cases phase with
    | cycle => exact fun time htime ↦ (hphase time htime).trans (by simp)
    | select finishedAt deadline =>
      exact ⟨hphase.1, hphase.2.1.trans (by simp), hphase.2.2⟩
    | stopped => trivial
  | finish cycle =>
    cases phase with
    | cycle =>
      cases hstep
      have hafter := withinCeiling_runOnce hpos hceiling hwithin cycle
      refine ⟨hafter, hapart, hphase, le_rfl, ?_, ?_⟩
      · exact Int.add_le_add_left hafter.2.1 now
      · exact Int.add_le_add_left hafter.2.2 now
    | select | stopped => cases hstep
  | wake =>
    cases phase with
    | select finishedAt deadline =>
      simp only [ReconcilerStart.step] at hstep
      split_ifs at hstep with hfired
      cases hstep
      obtain ⟨hbegun, hfinished, hwait, -⟩ := hphase
      refine ⟨hwithin, List.pairwise_cons.mpr ⟨fun time htime ↦ ?_, hapart⟩, fun time htime ↦ ?_⟩
      · have hbefore := hbegun time htime
        omega
      · rcases List.mem_cons.mp htime with rfl | hold
        · exact le_rfl
        · exact (hbegun time hold).trans hfinished
    | cycle | stopped => cases hstep
  | cancel =>
    simp only [ReconcilerStart.step] at hstep
    split_ifs at hstep
    cases hstep
    exact ⟨hwithin, hapart, hphase⟩
  | receiveDone =>
    cases phase with
    | select finishedAt deadline =>
      simp only [ReconcilerStart.step] at hstep
      split_ifs at hstep
      cases hstep
      exact ⟨hwithin, hapart, trivial⟩
    | cycle | stopped => cases hstep

theorem newReconciler_interval_pos (interval : ℤ) : 0 < (newReconciler interval).interval := by
  unfold newReconciler
  dsimp only
  split_ifs with hdefault
  · decide
  · exact not_le.mp hdefault

/-- In every run of `Reconciler.Start`, with cycles and waits of any length, two cycles begin at
least an interval apart, and the timer the reconciler waits for is due between an interval and half
an hour after the last cycle returned. Assumes: the interval of the reconciler is at most the
ceiling of the backoff; above it an empty services list shortens the wait below the interval. -/
theorem reconciler_cadence {interval : ℤ}
    (hceiling : (newReconciler interval).interval ≤ reconcilerMaxBackoff) {run : ReconcilerStart}
    (hreach : (reconcilerMachine interval).Reachable run) :
    (run.begunAt.Pairwise fun later earlier ↦
      earlier + (newReconciler interval).interval ≤ later) ∧
    ∀ finishedAt deadline, run.phase = .select finishedAt deadline →
      finishedAt + (newReconciler interval).interval ≤ deadline ∧
        deadline ≤ finishedAt + 30 * 60 * second := by
  have htimely : run.Timely (newReconciler interval).interval := by
    refine hreach.invariant ?_ fun run action next _ htimely hstep ↦
      htimely.step (newReconciler_interval_pos interval) hceiling hstep
    rintro run ⟨now, rfl⟩
    refine ⟨⟨rfl, le_rfl, hceiling⟩, List.pairwise_singleton _ _, fun time htime ↦ ?_⟩
    exact (List.mem_singleton.mp htime).le
  refine ⟨htimely.apart, fun finishedAt deadline hselect ↦ ?_⟩
  have hphase := htimely.phase
  rw [hselect] at hphase
  exact hphase.2.2

/-- The default interval and an empty list of services: the second cycle begins ten minutes after
the first one returned. -/
theorem reconciler_cadence_empty : ∃ run, (reconcilerMachine 0).Reachable run ∧
    run.begunAt.map (· / second) = [600, 0] ∧
    run.begunAt.Pairwise fun later earlier ↦ earlier + (newReconciler 0).interval ≤ later := by
  have hrun : ∃ run, (reconcilerMachine 0).replay
      { reconciler := newReconciler 0, now := 0, begunAt := [0] }
      [.finish (emptyClusterCycle (.ok [])), .pass 600000000000, .wake] = some run ∧
        run.begunAt.map (· / second) = [600, 0] :=
    ⟨_, rfl, by decide⟩
  obtain ⟨run, hreplay, hbegun⟩ := hrun
  have hreach : (reconcilerMachine 0).Reachable run :=
    Machine.reachable_of_replay ⟨0, rfl⟩ hreplay
  exact ⟨run, hreach, hbegun, (reconciler_cadence (by decide) hreach).1⟩

end IncidentaryOperator.Discovery
