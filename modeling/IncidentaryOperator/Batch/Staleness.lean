import IncidentaryOperator.Batch.WakeUp
import IncidentaryOperator.Foundation.Ticker

/-!
# How old a buffered event gets

The package comment of `internal/batch` promises a flush when the buffer reaches its eager threshold
or when the flush interval has elapsed, whichever happens first. Here the machine of the batcher is
put on a clock: `Start` runs a ticker with the flush interval as its period, a tick can be received
only when one is in the channel, and time may pass between any two steps, so a flush may last as
long as it likes and the goroutines may be delayed anywhere. The clock starts with `Start`; an event
enqueued earlier has the time of `Start`.

`idle_buffer_small_and_young`: whenever the loop waits at its select with nothing to receive, and no
call is about to signal, the buffer is below the threshold and every event in it was admitted less
than one flush interval ago. The ticker is not reset by an eager flush, so the interval counts from
the admission of the event and not from the last flush.

What carries it is that the last tick fired before every event of the buffer was admitted, unless a
tick waits in the channel or the loop is on its way to the swap: a tick is only ever taken by the
loop, which then swaps the whole buffer out.
-/

set_option autoImplicit false
set_option relaxedAutoImplicit false

namespace IncidentaryOperator.Batch

open Foundation WireFormat Client

/-! ### The batcher on a clock -/

/-- Options leave a positive flush interval. -/
theorem newBatcher_flushInterval_pos (opts : List BatcherOption) :
    0 < (newBatcher opts).flushInterval := by
  refine newBatcher_induction (motive := fun b ↦ 0 < b.flushInterval) (by decide) ?_ opts
  intro b opt hb
  cases opt with
  | withFlushInterval d =>
    simp only [BatcherOption.apply]
    split_ifs with hset
    · exact hset
    · exact hb
  | withMaxBatchSize n =>
    simp only [BatcherOption.apply]
    split_ifs <;> exact hb

/-- The batcher, the ticker of `Start`, and the times at which the events of the buffer were
admitted, in order. -/
structure Timed where
  system : System
  ticker : Ticker
  admittedAt : List ℤ := []

/-- Time passes, or the batcher takes a step. -/
inductive TimedAction
  | pass (elapsed : ℕ)
  | act (action : Action)

/-- The times of the buffer after a step: the events a lock section appended are admitted now, and
the swap leaves an empty buffer. -/
def admittedAfter (now : ℤ) (size : ℕ) (times : List ℤ) : Action → List ℤ
  | .lock _ => times ++ List.replicate (size - times.length) now
  | .swap => []
  | _ => times

/-- One step. A tick is received from the channel of the ticker. -/
def Timed.step (timed : Timed) : TimedAction → Option Timed
  | .pass elapsed => some { timed with ticker := timed.ticker.advance elapsed }
  | .act .receiveTick =>
    if timed.ticker.pending then
      (timed.system.step .receiveTick).map fun next ↦
        { timed with system := next, ticker := timed.ticker.receive }
    else none
  | .act action =>
    (timed.system.step action).map fun next ↦
      { timed with
        system := next
        admittedAt := admittedAfter timed.ticker.now next.batcher.buffer.length
          timed.admittedAt action }

/-- The batcher as `NewBatcher` leaves it, with the ticker of `Start` started now. -/
def Timed.initial (opts : List BatcherOption) (rotation : Rotation) (now : ℤ) : Timed where
  system := System.initial opts rotation
  ticker := Ticker.start (newBatcher opts).flushInterval now (newBatcher_flushInterval_pos opts)

/-- The batcher on a clock, for every option list, every bootstrap configuration and every time of
`Start`. -/
def timedMachine : Machine Timed TimedAction where
  start := fun timed ↦ ∃ opts rotation now, timed = Timed.initial opts rotation now
  step := Timed.step

/-! ### What a step can do -/

/-- The cases of an enabled step. -/
inductive TimedTransition (timed : Timed) : Timed → Prop
  | passed (elapsed : ℕ) :
      TimedTransition timed { timed with ticker := timed.ticker.advance elapsed }
  | ticked (hloop : timed.system.loop = .selecting) (hpending : timed.ticker.pending = true) :
      TimedTransition timed
        { timed with
          system := timed.system.wake .scheduled
          ticker := timed.ticker.receive }
  | acted (action : Action) (next : System) (hstep : Transition timed.system action next)
      (htick : action ≠ .receiveTick) :
      TimedTransition timed
        { timed with
          system := next
          admittedAt := admittedAfter timed.ticker.now next.batcher.buffer.length
            timed.admittedAt action }

theorem timedTransition_of_step {timed next : Timed} {action : TimedAction}
    (hstep : timed.step action = some next) : TimedTransition timed next := by
  unfold Timed.step at hstep
  split at hstep
  · cases hstep
    exact .passed _
  · split_ifs at hstep with hpending
    obtain ⟨system, hsystem, rfl⟩ := Option.map_eq_some_iff.mp hstep
    cases transition_of_step hsystem with
    | ticked hloop => exact .ticked hloop hpending
  · next action htick =>
    obtain ⟨system, hsystem, rfl⟩ := Option.map_eq_some_iff.mp hstep
    exact .acted action system (transition_of_step hsystem) htick

/-- The invariant rule of the batcher on a clock. -/
theorem timed_invariant {motive : Timed → Prop}
    (hinitial : ∀ opts rotation now, motive (Timed.initial opts rotation now))
    (hstep : ∀ timed next, timedMachine.Reachable timed → motive timed →
      TimedTransition timed next → motive next)
    {timed : Timed} (hreach : timedMachine.Reachable timed) : motive timed := by
  refine hreach.invariant ?_ fun state action next hbefore hmotive hnext ↦
    hstep state next hbefore hmotive (timedTransition_of_step hnext)
  rintro state ⟨opts, rotation, now, rfl⟩
  exact hinitial opts rotation now

/-- On a clock the batcher takes steps of the batcher. -/
theorem reachable_system {timed : Timed} (hreach : timedMachine.Reachable timed) :
    batcherMachine.Reachable timed.system := by
  refine timed_invariant (motive := fun timed ↦ batcherMachine.Reachable timed.system) ?_ ?_ hreach
  · intro opts rotation now
    exact .start ⟨opts, rotation, rfl⟩
  · intro timed next _ hsystem hstep
    cases hstep with
    | passed elapsed => exact hsystem
    | ticked hloop hpending => exact (Transition.ticked hloop).reachable hsystem
    | acted action next hstep htick => exact hstep.reachable hsystem

/-! ### The settings and the times -/

/-- The flush interval is set once and for all. -/
theorem Transition.flushInterval_eq {sys next : System} {action : Action}
    (hstep : Transition sys action next) :
    next.batcher.flushInterval = sys.batcher.flushInterval := by
  cases hstep <;> rfl

/-- The period of the ticker is the flush interval of the batcher. -/
theorem ticker_period {timed : Timed} (hreach : timedMachine.Reachable timed) :
    timed.ticker.period = timed.system.batcher.flushInterval := by
  refine timed_invariant
    (motive := fun timed ↦ timed.ticker.period = timed.system.batcher.flushInterval) ?_ ?_ hreach
  · intro opts rotation now
    rfl
  · intro timed next _ hperiod hstep
    cases hstep with
    | passed elapsed => exact (Ticker.advance_period _ _).trans hperiod
    | ticked hloop hpending => exact hperiod
    | acted action next hstep htick => exact hperiod.trans hstep.flushInterval_eq.symm

/-- What a step does to the buffer: a lock section appends to it, the swap leaves it empty, and no
other step changes it. -/
theorem Transition.buffer_cases {sys next : System} {action : Action}
    (hstep : Transition sys action next) :
    (∃ index admitted, action = .lock index ∧
      next.batcher.buffer = sys.batcher.buffer ++ admitted) ∨
    (action = .swap ∧ next.batcher.buffer = []) ∨
    ((∀ index, action ≠ .lock index) ∧ action ≠ .swap ∧
      next.batcher.buffer = sys.batcher.buffer) := by
  cases hstep with
  | returnedEmpty index hcall | shed index events hcall hevents hfull =>
    exact Or.inl ⟨index, [], rfl, (List.append_nil _).symm⟩
  | admitted index events hcall hevents hroom => exact Or.inl ⟨index, _, rfl, rfl⟩
  | skipped trigger hloop hempty => exact Or.inr (Or.inl ⟨rfl, hempty⟩)
  | swappedOut trigger hloop hbuffer => exact Or.inr (Or.inl ⟨rfl, rfl⟩)
  | called | countedShed | signalled | contextEnded | ticked | tokenTaken | doneReceived | built
  | handedOver | completed | rotated =>
    exact Or.inr (Or.inr ⟨fun _ ↦ Action.noConfusion, Action.noConfusion, rfl⟩)

/-- The step that is neither a lock section nor the swap keeps the times. -/
theorem admittedAfter_of_ne {now : ℤ} {size : ℕ} {times : List ℤ} {action : Action}
    (hlock : ∀ index, action ≠ .lock index) (hswap : action ≠ .swap) :
    admittedAfter now size times action = times := by
  unfold admittedAfter
  split
  · next index => exact absurd rfl (hlock index)
  · exact absurd rfl hswap
  · rfl

/-- Every event of the buffer has a time. -/
theorem length_admittedAt {timed : Timed} (hreach : timedMachine.Reachable timed) :
    timed.admittedAt.length = timed.system.batcher.buffer.length := by
  refine timed_invariant
    (motive := fun timed ↦ timed.admittedAt.length = timed.system.batcher.buffer.length) ?_ ?_
    hreach
  · intro opts rotation now
    exact (congrArg List.length (newBatcher_buffer opts)).symm
  · intro timed next _ hlength hstep
    cases hstep with
    | passed elapsed => exact hlength
    | ticked hloop hpending => exact hlength
    | acted action next hstep htick =>
      rcases hstep.buffer_cases with ⟨index, admitted, rfl, hbuffer⟩ | ⟨rfl, hbuffer⟩ |
        ⟨hlock, hswap, hbuffer⟩
      · simp only [admittedAfter, hbuffer, List.length_append, List.length_replicate]
        omega
      · rw [hbuffer]
        rfl
      · rw [admittedAfter_of_ne hlock hswap, hbuffer, hlength]

/-! ### The invariant -/

/-- The events of the buffer were admitted since the last tick, unless one waits in the channel. -/
def Fresh (timed : Timed) : Prop :=
  ∀ time ∈ timed.admittedAt, time ≤ timed.ticker.now ∧ timed.ticker.FreshSince time

/-- The loop has received and is about to swap the buffer. -/
def SwapDue (timed : Timed) : Prop :=
  ∃ trigger, timed.system.loop = .entered trigger

/-- The loop is on its way to the swap after a step of the batcher that is not the swap, if it was
before. -/
theorem Transition.entered_of_ne_swap {sys next : System} {action : Action} {trigger : Trigger}
    (hstep : Transition sys action next) (hloop : sys.loop = .entered trigger)
    (hswap : action ≠ .swap) : next.loop = .entered trigger := by
  cases hstep with
  | skipped | swappedOut => exact absurd rfl hswap
  | called | returnedEmpty | shed | admitted | countedShed | signalled | contextEnded | rotated =>
    exact hloop
  | ticked hother | tokenTaken hother | doneReceived hother | built _ _ _ _ hother
  | handedOver _ _ hother | completed _ _ _ _ _ hother =>
    exact absurd (hloop.symm.trans hother) Loop.noConfusion

theorem fresh_admittedAfter {timed : Timed} (hfresh : Fresh timed) (next : System)
    (action : Action) :
    Fresh { timed with
      system := next
      admittedAt := admittedAfter timed.ticker.now next.batcher.buffer.length
        timed.admittedAt action } := by
  intro time htime
  cases action with
  | lock index =>
    rcases List.mem_append.mp htime with hold | hnew
    · exact hfresh time hold
    · obtain ⟨-, rfl⟩ := List.mem_replicate.mp hnew
      exact ⟨le_rfl, timed.ticker.freshSince_now⟩
  | swap => exact absurd htime List.not_mem_nil
  | _ => exact hfresh time htime

theorem fresh_or_swapDue {timed : Timed} (hreach : timedMachine.Reachable timed) :
    Fresh timed ∨ SwapDue timed := by
  refine timed_invariant (motive := fun timed ↦ Fresh timed ∨ SwapDue timed) ?_ ?_ hreach
  · intro opts rotation now
    exact Or.inl fun time htime ↦ absurd htime List.not_mem_nil
  · intro timed next _ hinv hstep
    cases hstep with
    | passed elapsed =>
      refine hinv.imp_left fun hfresh time htime ↦ ?_
      obtain ⟨hpast, hsince⟩ := hfresh time htime
      exact ⟨by simp only [Ticker.advance_now]; omega, hsince.advance elapsed⟩
    | ticked hloop hpending => exact Or.inr ⟨_, rfl⟩
    | acted action next hstep htick =>
      rcases hinv with hfresh | ⟨trigger, hloop⟩
      · exact Or.inl (fresh_admittedAfter hfresh next action)
      · by_cases hswap : action = .swap
        · subst hswap
          exact Or.inl fun time htime ↦ absurd htime List.not_mem_nil
        · exact Or.inr ⟨trigger, hstep.entered_of_ne_swap hloop hswap⟩

/-! ### The buffer of an idle loop -/

/-- The loop waits at its select with no tick and no token to receive, and no call is between its
unlock and its send with a size that reaches the threshold. -/
structure Idle (timed : Timed) : Prop where
  selecting : timed.system.loop = .selecting
  noTick : timed.ticker.pending = false
  noToken : timed.system.batcher.flushCh = false
  noSignal : ¬ SignalPending timed.system

/-- Whenever the loop waits with nothing to receive, the buffer is below the eager threshold and
each of its events was admitted less than one flush interval ago, in every run from `Start` and with
time passing anywhere. An event that was in the buffer before counts from `Start`. Assumes: a
reachable state, in which the loop is idle. -/
theorem idle_buffer_small_and_young {timed : Timed} (hreach : timedMachine.Reachable timed)
    (hidle : Idle timed) :
    timed.system.batcher.buffer.length < timed.system.batcher.maxBatchSize ∧
      timed.admittedAt.length = timed.system.batcher.buffer.length ∧
      ∀ time ∈ timed.admittedAt, time ≤ timed.ticker.now ∧
        timed.ticker.now - time < timed.system.batcher.flushInterval := by
  have hselecting := hidle.selecting
  have hsystem := reachable_system hreach
  refine ⟨not_le.mp fun hsize ↦ ?_, length_admittedAt hreach, fun time htime ↦ ?_⟩
  · have hlive : timed.system.loop.cancellationObserved = false := by rw [hselecting]; rfl
    rcases flushDue_of_reached hsystem ⟨hlive, hsize⟩ with htoken | hsignal | ⟨trigger, hloop⟩
    · exact absurd (hidle.noToken.symm.trans htoken) (by decide)
    · exact hidle.noSignal hsignal
    · exact absurd (hselecting.symm.trans hloop) Loop.noConfusion
  · rcases fresh_or_swapDue hreach with hfresh | ⟨trigger, hloop⟩
    · obtain ⟨hpast, hsince⟩ := hfresh time htime
      exact ⟨hpast, ticker_period hreach ▸ hsince.young hidle.noTick⟩
    · exact absurd (hselecting.symm.trans hloop) Loop.noConfusion

/-- An interval of ten: an event is admitted at seven and flushed by the tick of ten, which the loop
receives at twelve, when another event is admitted. -/
def flushedAndRefilled : List TimedAction :=
  [.pass 7] ++ (enqueueRun [podStarted]).map .act ++ [.pass 5] ++
    (flushRun .receiveTick (.error "refused")).map .act ++ (enqueueRun [podStarted]).map .act ++
    [.pass 3]

/-- The loop is idle at fifteen, with one event in a buffer that is flushed at three. -/
theorem idle_buffer_small_and_young_refilled : ∃ timed, timedMachine.Reachable timed ∧
    Idle timed ∧ timed.ticker.now = 15 ∧ timed.admittedAt = [12] ∧
    timed.system.batcher.buffer.length < timed.system.batcher.maxBatchSize ∧
    ∀ time ∈ timed.admittedAt, timed.ticker.now - time < timed.system.batcher.flushInterval := by
  have hrun : ∃ timed, timedMachine.replay
      (Timed.initial [.withFlushInterval 10, .withMaxBatchSize 3] bootstrap 0) flushedAndRefilled =
        some timed ∧ timed.system.loop = .selecting ∧ timed.ticker.pending = false ∧
      timed.system.batcher.flushCh = false ∧ timed.system.calls = [] ∧ timed.ticker.now = 15 ∧
      timed.admittedAt = [12] :=
    ⟨_, rfl, rfl, rfl, rfl, rfl, rfl, rfl⟩
  obtain ⟨timed, hreplay, hloop, htick, htoken, hcalls, hnow, htimes⟩ := hrun
  have hreach : timedMachine.Reachable timed :=
    Machine.reachable_of_replay ⟨_, _, _, rfl⟩ hreplay
  have hidle : Idle timed :=
    ⟨hloop, htick, htoken, fun ⟨_, hmem, _⟩ ↦ by rw [hcalls] at hmem; exact List.not_mem_nil hmem⟩
  obtain ⟨hsmall, -, hyoung⟩ := idle_buffer_small_and_young hreach hidle
  exact ⟨timed, hreach, hidle, hnow, htimes, hsmall, fun time htime ↦ (hyoung time htime).2⟩

end IncidentaryOperator.Batch
