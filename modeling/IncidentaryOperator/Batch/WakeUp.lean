import IncidentaryOperator.Batch.Batcher
import IncidentaryOperator.Batch.Conservation

/-!
# No lost wake-up

`Enqueue` tests the size it saw under the lock after it released the lock, its send on the eager
channel is dropped when a token is pending, a tick may drain the buffer a token was sent for, and a
call that sheds its whole list never signals. Still a buffer that has reached the eager threshold is
never left waiting for the ticker: until the loop has received the end of the context, the channel
holds a token, or a call that saw the threshold reached is about to send, or the loop is about to
swap the buffer (`threshold_reached_wakes_loop`).

The step that carries it is the append: it is the only one that lengthens the buffer, and the same
lock section leaves its call with a size at least as large. Every other step that takes one of the
three away gives another: a send leaves a token, a receive enters `flushNow`, the swap empties the
buffer.
-/

set_option autoImplicit false
set_option relaxedAutoImplicit false

namespace IncidentaryOperator.Batch

open Foundation WireFormat Client

/-! ### The threshold -/

/-- The threshold is set once and for all. -/
theorem maxBatchSize_bounds {sys : System} (hreach : batcherMachine.Reachable sys) :
    1 ≤ sys.batcher.maxBatchSize ∧ sys.batcher.maxBatchSize ≤ absoluteMaxBatchSize := by
  refine batcher_invariant (motive := fun sys ↦
    1 ≤ sys.batcher.maxBatchSize ∧ sys.batcher.maxBatchSize ≤ absoluteMaxBatchSize) ?_ ?_ hreach
  · intro opts rotation
    exact newBatcher_maxBatchSize opts
  · intro sys action next _ hbounds hstep
    cases hstep <;> exact hbounds

/-! ### Signals on their way -/

/-- An `Enqueue` call is between its unlock and its send, with a size that reaches the threshold. -/
def SignalPending (sys : System) : Prop :=
  ∃ size : ℕ, EnqueueCall.signalling size ∈ sys.calls ∧ sys.batcher.maxBatchSize ≤ size

/-- A call other than the one at an index is found elsewhere in the list. -/
theorem exists_position_ne {calls : List EnqueueCall} {index : ℕ} {call other : EnqueueCall}
    (hmem : call ∈ calls) (hother : calls[index]? = some other) (hne : call ≠ other) :
    ∃ position, position ≠ index ∧ calls[position]? = some call := by
  obtain ⟨position, hposition⟩ := List.mem_iff_getElem?.mp hmem
  refine ⟨position, ?_, hposition⟩
  rintro rfl
  exact hne (Option.some.inj (hposition.symm.trans hother))

/-- A call stays in the list when another one is replaced. -/
theorem mem_set_of_mem_of_ne {calls : List EnqueueCall} {index : ℕ} {call other : EnqueueCall}
    (hmem : call ∈ calls) (hother : calls[index]? = some other) (hne : call ≠ other)
    (call' : EnqueueCall) : call ∈ calls.set index call' := by
  obtain ⟨position, hapart, hposition⟩ := exists_position_ne hmem hother hne
  refine List.mem_iff_getElem?.mpr ⟨position, ?_⟩
  rw [List.getElem?_set_ne hapart.symm, hposition]

/-- A call stays in the list when another one returns. -/
theorem mem_eraseIdx_of_mem_of_ne {calls : List EnqueueCall} {index : ℕ} {call other : EnqueueCall}
    (hmem : call ∈ calls) (hother : calls[index]? = some other) (hne : call ≠ other) :
    call ∈ calls.eraseIdx index :=
  List.mem_eraseIdx_iff_getElem?.mpr (exists_position_ne hmem hother hne)

/-- A signal stays on its way in a step that keeps the signalling calls and the threshold. -/
theorem SignalPending.mono {sys next : System} (hsignal : SignalPending sys)
    (hcalls : ∀ size, EnqueueCall.signalling size ∈ sys.calls → .signalling size ∈ next.calls)
    (hmax : next.batcher.maxBatchSize = sys.batcher.maxBatchSize) : SignalPending next := by
  obtain ⟨size, hmem, hsize⟩ := hsignal
  exact ⟨size, hcalls size hmem, by rwa [hmax]⟩

/-! ### The invariant -/

/-- Something makes the loop swap the buffer: a token, a signal on its way, or the loop itself. -/
def FlushDue (sys : System) : Prop :=
  sys.batcher.flushCh = true ∨ SignalPending sys ∨ ∃ trigger, sys.loop = .entered trigger

/-- The loop has not received the end of the context, and the buffer has reached the threshold. -/
def ThresholdReached (sys : System) : Prop :=
  sys.loop.cancellationObserved = false ∧ sys.batcher.maxBatchSize ≤ sys.batcher.buffer.length

/-- An empty buffer has not reached the threshold. -/
theorem not_thresholdReached_of_empty {sys : System} (hmax : 1 ≤ sys.batcher.maxBatchSize)
    (hempty : sys.batcher.buffer = []) : ¬ ThresholdReached sys := by
  rintro ⟨-, hreached⟩
  rw [hempty, List.length_nil] at hreached
  omega

/-- A token or a signal on its way is still there when the loop moves on inside or out of
`flushNow`. -/
theorem FlushDue.of_not_entered {sys next : System} (hdue : FlushDue sys)
    (hloop : ∀ trigger, sys.loop ≠ .entered trigger) (hbatcher : next.batcher.flushCh =
      sys.batcher.flushCh) (hmax : next.batcher.maxBatchSize = sys.batcher.maxBatchSize)
    (hcalls : next.calls = sys.calls) : FlushDue next := by
  rcases hdue with htoken | hsignal | ⟨trigger, hentered⟩
  · exact Or.inl (hbatcher.trans htoken)
  · exact Or.inr (Or.inl (hsignal.mono (fun size hmem ↦ by rwa [hcalls]) hmax))
  · exact absurd hentered (hloop trigger)

/-- A step that only changes the calls, keeping the signals on their way, keeps a flush due. -/
theorem FlushDue.of_signals {sys next : System} (hdue : FlushDue sys)
    (htoken : sys.batcher.flushCh = true → next.batcher.flushCh = true)
    (hsignals : SignalPending sys → next.batcher.flushCh = true ∨ SignalPending next)
    (hloop : next.loop = sys.loop) : FlushDue next := by
  rcases hdue with hheld | hsignal | hentered
  · exact Or.inl (htoken hheld)
  · exact (hsignals hsignal).elim Or.inl fun h ↦ Or.inr (Or.inl h)
  · exact Or.inr (Or.inr (by rwa [hloop]))

/-- One step: a buffer at the threshold has a flush due after the step if it had one before. A call
that appends is itself about to signal, with the size the buffer has then. -/
theorem flushDue_transition {sys next : System} {action : Action}
    (hmax : 1 ≤ sys.batcher.maxBatchSize) (hinv : ThresholdReached sys → FlushDue sys)
    (hstep : Transition sys action next) (hreached : ThresholdReached next) : FlushDue next := by
  cases hstep with
  | called events =>
    refine (hinv hreached).of_signals id (fun hsignal ↦ Or.inr (hsignal.mono ?_ rfl)) rfl
    exact fun size hmem ↦ List.mem_append_left _ hmem
  | returnedEmpty index hcall =>
    refine (hinv hreached).of_signals id (fun hsignal ↦ Or.inr (hsignal.mono ?_ rfl)) rfl
    exact fun size hmem ↦ mem_eraseIdx_of_mem_of_ne hmem hcall EnqueueCall.noConfusion
  | shed index events hcall hevents hfull =>
    refine (hinv hreached).of_signals id (fun hsignal ↦ Or.inr (hsignal.mono ?_ rfl)) rfl
    exact fun size hmem ↦ mem_set_of_mem_of_ne hmem hcall EnqueueCall.noConfusion _
  | admitted index events hcall hevents hroom =>
    refine Or.inr (Or.inl ⟨_, List.mem_set ?_ _, hreached.2⟩)
    exact (List.getElem?_eq_some_iff.mp hcall).1
  | countedShed index count hcall =>
    refine (hinv hreached).of_signals id (fun hsignal ↦ Or.inr (hsignal.mono ?_ rfl)) rfl
    exact fun size hmem ↦ mem_eraseIdx_of_mem_of_ne hmem hcall EnqueueCall.noConfusion
  | signalled index size hcall =>
    refine (hinv hreached).of_signals (fun htoken ↦ by simp [System.signal, htoken]) ?_ rfl
    rintro ⟨size', hmem, hsize⟩
    by_cases hsame : size' = size
    · subst hsame
      exact Or.inl (by simp [System.signal, hsize])
    · exact Or.inr ⟨size', mem_eraseIdx_of_mem_of_ne hmem hcall (by simpa using hsame), hsize⟩
  | contextEnded hlive => exact hinv hreached
  | ticked hloop => exact Or.inr (Or.inr ⟨_, rfl⟩)
  | tokenTaken hloop htoken => exact Or.inr (Or.inr ⟨_, rfl⟩)
  | doneReceived hloop hcancelled => exact Or.inr (Or.inr ⟨_, rfl⟩)
  | skipped trigger hloop hempty =>
    exact absurd hreached (not_thresholdReached_of_empty hmax hempty)
  | swappedOut trigger hloop hbuffer =>
    exact absurd hreached (not_thresholdReached_of_empty hmax rfl)
  | built trigger events resource flushedAt hloop =>
    have hbefore : ThresholdReached sys := ⟨by rw [hloop]; exact hreached.1, hreached.2⟩
    exact (hinv hbefore).of_not_entered (by simp [hloop]) rfl rfl rfl
  | handedOver trigger batch hloop =>
    have hbefore : ThresholdReached sys := ⟨by rw [hloop]; exact hreached.1, hreached.2⟩
    exact (hinv hbefore).of_not_entered (by simp [hloop]) rfl rfl rfl
  | completed trigger client batch answer dropped hloop hdropped =>
    have hbefore : ThresholdReached sys := by
      refine ⟨?_, hreached.2⟩
      rw [hloop]
      exact (resume_drained trigger).2.symm.trans hreached.1
    exact (hinv hbefore).of_not_entered (by simp [hloop]) rfl rfl rfl
  | rotated rotation => exact hinv hreached

/-- A buffer at the threshold has a flush due, in every reachable state. -/
theorem flushDue_of_reached {sys : System} (hreach : batcherMachine.Reachable sys)
    (hreached : ThresholdReached sys) : FlushDue sys := by
  refine batcher_invariant (motive := fun sys ↦ ThresholdReached sys → FlushDue sys) ?_ ?_ hreach
    hreached
  · intro opts rotation hinitial
    exact absurd hinitial (not_thresholdReached_of_empty (newBatcher_maxBatchSize opts).1
      (newBatcher_buffer opts))
  · intro sys action next hbefore hinv hstep
    exact flushDue_transition (maxBatchSize_bounds hbefore).1 hinv hstep

/-- In every reachable state before the loop has received the end of the context, a buffer that has
reached the eager threshold has a flush due: the channel holds a token, or an `Enqueue` call is
between its unlock and its send with a size that reaches the threshold, or the loop has received a
tick or a token and not yet swapped the buffer. So has a buffer at which `Enqueue` sheds its list
without signalling. Assumes: a reachable state, and that the loop has not received the end of the
context. -/
theorem threshold_reached_wakes_loop {sys : System} (hreach : batcherMachine.Reachable sys)
    (hlive : sys.loop.cancellationObserved = false) :
    (sys.batcher.maxBatchSize ≤ sys.batcher.buffer.length →
      sys.batcher.flushCh = true ∨
        (∃ size : ℕ, EnqueueCall.signalling size ∈ sys.calls ∧ sys.batcher.maxBatchSize ≤ size) ∨
        sys.loop = .entered .scheduled ∨ sys.loop = .entered .eager) ∧
    (bufferDropThreshold ≤ sys.batcher.buffer.length →
      sys.batcher.flushCh = true ∨
        (∃ size : ℕ, EnqueueCall.signalling size ∈ sys.calls ∧ sys.batcher.maxBatchSize ≤ size) ∨
        sys.loop = .entered .scheduled ∨ sys.loop = .entered .eager) := by
  have hreached : sys.batcher.maxBatchSize ≤ sys.batcher.buffer.length →
      sys.batcher.flushCh = true ∨
        (∃ size : ℕ, EnqueueCall.signalling size ∈ sys.calls ∧ sys.batcher.maxBatchSize ≤ size) ∨
        sys.loop = .entered .scheduled ∨ sys.loop = .entered .eager := by
    intro hsize
    rcases flushDue_of_reached hreach ⟨hlive, hsize⟩ with htoken | hsignal | ⟨trigger, hloop⟩
    · exact Or.inl htoken
    · exact Or.inr (Or.inl hsignal)
    · cases trigger with
      | scheduled => exact Or.inr (Or.inr (Or.inl hloop))
      | eager => exact Or.inr (Or.inr (Or.inr hloop))
      | drain => exact absurd hlive (by simp [hloop, Loop.cancellationObserved])
  refine ⟨hreached, fun hfull ↦ hreached ?_⟩
  have hmax := (maxBatchSize_bounds hreach).2
  have hlimits : absoluteMaxBatchSize ≤ bufferDropThreshold := by decide
  omega

/-- A threshold of one and one call that has not sent yet: its signal is on its way. -/
theorem threshold_reached_wakes_loop_oneCall : ∃ sys, batcherMachine.Reachable sys ∧
    sys.loop.cancellationObserved = false ∧
    sys.batcher.maxBatchSize ≤ sys.batcher.buffer.length ∧
    (sys.batcher.flushCh = true ∨
      (∃ size : ℕ, EnqueueCall.signalling size ∈ sys.calls ∧ sys.batcher.maxBatchSize ≤ size) ∨
      sys.loop = .entered .scheduled ∨ sys.loop = .entered .eager) := by
  have hrun : ∃ sys, batcherMachine.replay (System.initial [.withMaxBatchSize 1] bootstrap)
      [.call [podStarted], .lock 0] = some sys ∧ sys.loop.cancellationObserved = false ∧
      sys.batcher.maxBatchSize = 1 ∧ sys.batcher.buffer = [podStarted] :=
    ⟨_, rfl, rfl, rfl, rfl⟩
  obtain ⟨sys, hreplay, hlive, hmax, hbuffer⟩ := hrun
  have hreach := reachable_of_run hreplay
  have hsize : sys.batcher.maxBatchSize ≤ sys.batcher.buffer.length := by
    rw [hmax, hbuffer]
    decide
  exact ⟨sys, hreach, hlive, hsize, (threshold_reached_wakes_loop hreach hlive).1 hsize⟩

end IncidentaryOperator.Batch
