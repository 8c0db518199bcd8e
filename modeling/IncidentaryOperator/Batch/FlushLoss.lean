import IncidentaryOperator.Batch.Conservation

/-!
# What a failed flush loses

`flushNow` swaps the buffer out before it calls `Flush`, and returns the error of a failed `Flush`
without putting the events back and without counting them. So outside `flushNow` every admitted
event is accounted for exactly when no flush has failed (`accounted_iff_no_failed_flush`): a single
failed flush loses its batch for good.

Events are told apart by their number in admission order. The completed flushes cut the numbers of
the events handed over into consecutive spans (`FlushLog`), which is what makes a lost event lost:
no later flush has its number again.
-/

set_option autoImplicit false
set_option relaxedAutoImplicit false

namespace IncidentaryOperator.Batch

open Foundation WireFormat Client

/-- The flush returned no error. -/
def Completion.succeeded (completion : Completion) : Bool :=
  completion.outcome.isOk

/-- An admitted event, by its number, is still in the buffer. -/
def System.InBuffer (sys : System) (number : ℕ) : Prop :=
  sys.history.handedEvents.length + sys.loop.pending.length ≤ number

/-- An admitted event, by its number, is still in the buffer, or was in a batch whose flush returned
no error, or an addition to a dropped counter was made for it. -/
def System.Accounted (sys : System) (number : ℕ) : Prop :=
  sys.InBuffer number ∨
    (∃ completion ∈ sys.history.completed,
      completion.succeeded = true ∧ number ∈ completion.positions) ∨
    number ∈ sys.history.counted

/-- The numbers of a completed flush start where the flush before it ended. -/
@[simp] theorem mem_positions {completion : Completion} {number : ℕ} :
    number ∈ completion.positions ↔ completion.first ≤ number ∧
      number < completion.first + completion.batch.events.length := by
  rw [Completion.positions, List.mem_range'_1]

/-- A loop outside `flushNow` keeps no client busy. -/
@[simp] theorem handing_resume (trigger : Trigger) : trigger.resume.handing = [] := by
  cases trigger <;> rfl

/-- The number of events a client is busy with. -/
def Loop.handingCount (loop : Loop) : ℕ :=
  (loop.handing.map fun batch ↦ batch.events.length).sum

/-! ### The log of completed flushes -/

/-- The completed flushes divide the numbers below their total among them, each gets at least one
number, only those of successful flushes are counted, and what is handed over is completed or in the
hands of a client. -/
structure FlushLog (sys : System) : Prop where
  covered : ∀ number < sys.history.completedCount,
    ∃ completion ∈ sys.history.completed, number ∈ completion.positions
  below : ∀ completion ∈ sys.history.completed, ∀ number ∈ completion.positions,
    number < sys.history.completedCount
  apart : ∀ first ∈ sys.history.completed, ∀ second ∈ sys.history.completed, ∀ number,
    number ∈ first.positions → number ∈ second.positions → first = second
  nonempty : ∀ completion ∈ sys.history.completed, completion.batch.events ≠ []
  counted : ∀ number ∈ sys.history.counted, ∃ completion ∈ sys.history.completed,
    completion.succeeded = true ∧ number ∈ completion.positions
  handed : sys.history.completedCount + sys.loop.handingCount = sys.history.handedEvents.length

/-- A step that completes no flush and hands nothing over keeps the log. -/
theorem FlushLog.of_eq {sys next : System} (hlog : FlushLog sys)
    (hcompleted : next.history.completed = sys.history.completed)
    (hcounted : next.history.counted = sys.history.counted)
    (hhanded : next.history.handedEvents.length + sys.loop.handingCount =
      sys.history.handedEvents.length + next.loop.handingCount) : FlushLog next := by
  have hcount : next.history.completedCount = sys.history.completedCount := by
    simp only [History.completedCount, hcompleted]
  have htotal := hlog.handed
  constructor
  · rw [hcount, hcompleted]
    exact hlog.covered
  · rw [hcount, hcompleted]
    exact hlog.below
  · rw [hcompleted]
    exact hlog.apart
  · rw [hcompleted]
    exact hlog.nonempty
  · rw [hcompleted, hcounted]
    exact hlog.counted
  · rw [hcount]
    omega

/-- Additions to dropped counters are made for events of successful flushes only. -/
theorem succeeded_of_mem_countedBy {completion : Completion} {number : ℕ}
    (hnumber : number ∈ countedBy completion) :
    completion.succeeded = true ∧ number ∈ completion.positions := by
  unfold countedBy at hnumber
  cases houtcome : completion.outcome with
  | ok res =>
    rw [houtcome] at hnumber
    dsimp only at hnumber
    split_ifs at hnumber with hreasons
    · exact absurd hnumber (List.not_mem_nil)
    · exact ⟨by rw [Completion.succeeded, houtcome]; rfl, hnumber⟩
  | error text =>
    rw [houtcome] at hnumber
    exact absurd hnumber (List.not_mem_nil)

/-- A flush that returns extends the log by the next span of numbers. -/
theorem FlushLog.complete {sys : System} (hlog : FlushLog sys) {trigger : Trigger}
    {client : IngestClient} {batch : IngestBatch}
    (hloop : sys.loop = .flushing trigger client batch)
    (hbatch : batch.events ≠ []) (outcome : FlushOutcome) (dropped : CounterVec String) :
    FlushLog (sys.completeFlush trigger batch outcome dropped) := by
  have hcount : (sys.completeFlush trigger batch outcome dropped).history.completedCount =
      sys.history.completedCount + batch.events.length := by
    simp [System.completeFlush, History.completedCount, System.completion]
  have hmem : ∀ completion,
      completion ∈ (sys.completeFlush trigger batch outcome dropped).history.completed ↔
        completion ∈ sys.history.completed ∨ completion = sys.completion batch outcome := by
    intro completion
    simp [System.completeFlush]
  have hnew : ∀ number, number ∈ (sys.completion batch outcome).positions ↔
      sys.history.completedCount ≤ number ∧
        number < sys.history.completedCount + batch.events.length :=
    fun number ↦ mem_positions
  constructor
  · intro number hnumber
    rw [hcount] at hnumber
    by_cases hold : number < sys.history.completedCount
    · obtain ⟨completion, hcompletion, hpositions⟩ := hlog.covered number hold
      exact ⟨completion, (hmem _).mpr (Or.inl hcompletion), hpositions⟩
    · exact ⟨_, (hmem _).mpr (Or.inr rfl), (hnew number).mpr ⟨not_lt.mp hold, hnumber⟩⟩
  · intro completion hcompletion number hpositions
    rw [hcount]
    rcases (hmem _).mp hcompletion with hold | rfl
    · exact Nat.lt_add_right _ (hlog.below completion hold number hpositions)
    · exact ((hnew number).mp hpositions).2
  · intro first hfirst second hsecond number hinFirst hinSecond
    rcases (hmem _).mp hfirst with hfirst | rfl <;> rcases (hmem _).mp hsecond with hsecond | rfl
    · exact hlog.apart first hfirst second hsecond number hinFirst hinSecond
    · have hlow := hlog.below first hfirst number hinFirst
      exact absurd ((hnew number).mp hinSecond).1 (not_le.mpr hlow)
    · have hlow := hlog.below second hsecond number hinSecond
      exact absurd ((hnew number).mp hinFirst).1 (not_le.mpr hlow)
    · rfl
  · intro completion hcompletion
    rcases (hmem _).mp hcompletion with hold | rfl
    · exact hlog.nonempty completion hold
    · exact hbatch
  · intro number hnumber
    rcases List.mem_append.mp hnumber with hold | hcounted
    · obtain ⟨completion, hcompletion, hspan⟩ := hlog.counted number hold
      exact ⟨completion, (hmem _).mpr (Or.inl hcompletion), hspan⟩
    · exact ⟨_, (hmem _).mpr (Or.inr rfl), succeeded_of_mem_countedBy hcounted⟩
  · have hhanded := hlog.handed
    rw [hloop] at hhanded
    have hidle : (sys.completeFlush trigger batch outcome dropped).loop.handingCount = 0 := by
      simp [System.completeFlush, Loop.handingCount]
    rw [hcount, hidle]
    exact hhanded

/-- The log is kept by every step. -/
theorem flushLog {sys : System} (hreach : batcherMachine.Reachable sys) : FlushLog sys := by
  refine batcher_invariant ?_ ?_ hreach
  · intro opts rotation
    constructor <;> simp [System.initial, History.completedCount, History.handedEvents,
      Loop.handingCount, Loop.handing]
  · intro sys action next hbefore hlog hstep
    cases hstep with
    | ticked hloop => exact hlog.of_eq rfl rfl (by rw [hloop]; rfl)
    | tokenTaken hloop htoken => exact hlog.of_eq rfl rfl (by rw [hloop]; rfl)
    | doneReceived hloop hcancelled => exact hlog.of_eq rfl rfl (by rw [hloop]; rfl)
    | skipped trigger hloop hempty =>
      refine hlog.of_eq rfl rfl ?_
      rw [hloop]
      simp only [System.skipFlush, Loop.handingCount, handing_resume]
      rfl
    | swappedOut trigger hloop hbuffer => exact hlog.of_eq rfl rfl (by rw [hloop]; rfl)
    | built trigger events resource flushedAt hloop =>
      exact hlog.of_eq rfl rfl (by rw [hloop]; rfl)
    | handedOver trigger batch hloop =>
      refine hlog.of_eq rfl rfl ?_
      rw [hloop]
      simp [System.handBatch, History.handedEvents, Loop.handingCount, Loop.handing]
    | completed trigger client batch answer dropped hloop hdropped =>
      have hbatch : batch.events ≠ [] :=
        (noEmptyBatch hbefore).taken batch.events (by rw [hloop]; rfl)
      exact hlog.complete hloop hbatch _ dropped
    | called | returnedEmpty | shed | admitted | countedShed | signalled | contextEnded | rotated =>
      exact hlog.of_eq rfl rfl rfl

/-! ### Lost events -/

/-- A loop outside `flushNow` has no events of its own. -/
theorem nothing_out_of_idle {loop : Loop} (hidle : loop.flushInProgress = false) :
    loop.handingCount = 0 ∧ loop.pending.length = 0 := by
  cases loop with
  | selecting | entered | stopped => exact ⟨rfl, rfl⟩
  | swapped | prepared | flushing => exact absurd hidle (by simp [Loop.flushInProgress])

/-- Outside `flushNow` the events not in the buffer are those of the completed flushes. -/
theorem inBuffer_iff_of_idle {sys : System} (hreach : batcherMachine.Reachable sys)
    (hidle : sys.loop.flushInProgress = false) (number : ℕ) :
    sys.InBuffer number ↔ sys.history.completedCount ≤ number := by
  have hhanded := (flushLog hreach).handed
  have hnothing := nothing_out_of_idle hidle
  unfold System.InBuffer
  omega

/-- The events of a failed flush are not accounted for outside `flushNow`, ever after. -/
theorem not_accounted_of_failed {sys : System} (hreach : batcherMachine.Reachable sys)
    (hidle : sys.loop.flushInProgress = false) {failed : Completion}
    (hfailed : failed ∈ sys.history.completed) (herror : failed.succeeded = false) {number : ℕ}
    (hnumber : number ∈ failed.positions) : ¬ sys.Accounted number := by
  have hlog := flushLog hreach
  have honly : ∀ completion ∈ sys.history.completed, completion.succeeded = true →
      number ∉ completion.positions := by
    intro completion hcompletion hok hpositions
    have hsame := hlog.apart completion hcompletion failed hfailed number hpositions hnumber
    rw [hsame, herror] at hok
    exact Bool.false_ne_true hok
  rintro (hbuffer | ⟨completion, hcompletion, hok, hpositions⟩ | hcounted)
  · have hlow := hlog.below failed hfailed number hnumber
    exact absurd ((inBuffer_iff_of_idle hreach hidle number).mp hbuffer) (not_le.mpr hlow)
  · exact honly completion hcompletion hok hpositions
  · obtain ⟨completion, hcompletion, hok, hpositions⟩ := hlog.counted number hcounted
    exact honly completion hcompletion hok hpositions

/-- Outside `flushNow`, every admitted event is in the buffer, or was in a batch whose flush
returned no error, or was counted as dropped, exactly when no flush of the run has failed. Assumes:
a reachable state in which `flushNow` is not between its swap and its return. -/
theorem accounted_iff_no_failed_flush {sys : System} (hreach : batcherMachine.Reachable sys)
    (hidle : sys.loop.flushInProgress = false) :
    (∀ number < sys.history.admitted.length, sys.Accounted number) ↔
      ∀ completion ∈ sys.history.completed, completion.succeeded = true := by
  have hlog := flushLog hreach
  constructor
  · intro haccounted failed hfailed
    by_contra herror
    have hsome : 0 < failed.batch.events.length := List.length_pos_iff.mpr (hlog.nonempty _ hfailed)
    have hfirst : failed.first ∈ failed.positions := mem_positions.mpr ⟨le_rfl, by omega⟩
    have hadmitted : failed.first < sys.history.admitted.length := by
      have hlow := hlog.below failed hfailed _ hfirst
      have hhanded := hlog.handed
      rw [← handed_pending_buffer_eq_admitted hreach, List.length_append, List.length_append]
      omega
    exact not_accounted_of_failed hreach hidle hfailed (by simpa using herror) hfirst
      (haccounted failed.first hadmitted)
  · intro hsucceeded number _
    by_cases hbuffer : sys.history.completedCount ≤ number
    · exact Or.inl ((inBuffer_iff_of_idle hreach hidle number).mpr hbuffer)
    · obtain ⟨completion, hcompletion, hpositions⟩ := hlog.covered number (not_le.mp hbuffer)
      exact Or.inr (Or.inl ⟨completion, hcompletion, hsucceeded completion hcompletion,
        hpositions⟩)

/-- One event and one flush the server accepts: the event is accounted for. -/
theorem accounted_iff_no_failed_flush_acceptedRun : ∃ sys, batcherMachine.Reachable sys ∧
    sys.loop.flushInProgress = false ∧ sys.history.admitted = [podStarted] ∧
    (∀ number < sys.history.admitted.length, sys.Accounted number) := by
  have hrun : ∃ sys, batcherMachine.replay (System.initial [] bootstrap)
      (enqueueRun [podStarted] ++ flushRun .receiveTick (.ok { accepted := 1 })) = some sys ∧
      sys.loop.flushInProgress = false ∧ sys.history.admitted = [podStarted] ∧
      sys.history.completed.all Completion.succeeded = true :=
    ⟨_, rfl, rfl, rfl, rfl⟩
  obtain ⟨sys, hreplay, hidle, hadmitted, hsucceeded⟩ := hrun
  have hreach := reachable_of_run hreplay
  exact ⟨sys, hreach, hidle, hadmitted,
    (accounted_iff_no_failed_flush hreach hidle).mpr (List.all_eq_true.mp hsucceeded)⟩

/-- One event and one flush that fails: the buffer is empty, every dropped counter is zero, and the
event is not accounted for. -/
theorem failed_flush_loses_event : ∃ sys, batcherMachine.Reachable sys ∧
    sys.loop.flushInProgress = false ∧ sys.history.admitted = [podStarted] ∧
    sys.batcher.buffer = [] ∧ (∀ reason, sys.dropped reason = 0) ∧ ¬ sys.Accounted 0 := by
  have hrun : ∃ sys, batcherMachine.replay (System.initial [] bootstrap)
      (enqueueRun [podStarted] ++ flushRun .receiveTick (.error "status 503")) = some sys ∧
      sys.loop.flushInProgress = false ∧ sys.history.admitted = [podStarted] ∧
      sys.batcher.buffer = [] ∧ (∀ reason, sys.dropped reason = 0) ∧
      ∃ failed ∈ sys.history.completed, failed.succeeded = false ∧ 0 ∈ failed.positions :=
    ⟨_, rfl, rfl, rfl, rfl, fun _ ↦ rfl, _, List.mem_singleton.mpr rfl, rfl, by decide⟩
  obtain ⟨sys, hreplay, hidle, hadmitted, hempty, hcounters, failed, hfailed, herror, hzero⟩ := hrun
  have hreach := reachable_of_run hreplay
  exact ⟨sys, hreach, hidle, hadmitted, hempty, hcounters,
    not_accounted_of_failed hreach hidle hfailed herror hzero⟩

end IncidentaryOperator.Batch
