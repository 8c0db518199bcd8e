import IncidentaryOperator.Batch.Conservation

/-!
# The size of a batch

`WithMaxBatchSize` clamps the eager threshold to `AbsoluteMaxBatchSize`, but the threshold only
triggers a flush: `flushNow` sends the whole buffer as one batch, whatever its size, and the buffer
may hold a hundred times the ceiling. A batch is within the ceiling exactly when every `Enqueue`
call finds room for its list below the ceiling at the time it takes the lock (`FitsCeiling`): in a
run that keeps to this every batch is within the ceiling, and in a run that does not, the events in
excess stay together, in the buffer, then in the batch being prepared, then in a batch handed over.
-/

set_option autoImplicit false
set_option relaxedAutoImplicit false

namespace IncidentaryOperator.Batch

open Foundation WireFormat Client

/-- An `Enqueue` call that takes its lock finds room for its whole list below the ceiling. -/
def FitsCeiling (sys : System) : Action → Prop
  | .lock index => ∀ events, sys.calls[index]? = some (.called events) →
      sys.batcher.buffer.length + events.length ≤ absoluteMaxBatchSize
  | _ => True

/-! ### Runs that keep to the ceiling -/

/-- The buffer, the batch being prepared and the batches handed over are within the ceiling. -/
structure WithinCeiling (sys : System) : Prop where
  buffer : sys.batcher.buffer.length ≤ absoluteMaxBatchSize
  pending : sys.loop.pending.length ≤ absoluteMaxBatchSize
  handed : ∀ handoff ∈ sys.history.handed, handoff.batch.events.length ≤ absoluteMaxBatchSize

/-- A step that meets the condition keeps everything within the ceiling. -/
theorem WithinCeiling.transition {sys next : System} {action : Action} (hinv : WithinCeiling sys)
    (hfits : FitsCeiling sys action) (hstep : Transition sys action next) :
    WithinCeiling next := by
  cases hstep with
  | admitted index events hcall hevents hroom =>
    refine ⟨?_, hinv.pending, hinv.handed⟩
    have hroom' := hfits events hcall
    simp only [System.appendAdmitted, List.length_append, List.length_take]
    omega
  | ticked hloop => exact ⟨hinv.buffer, Nat.zero_le _, hinv.handed⟩
  | tokenTaken hloop htoken => exact ⟨hinv.buffer, Nat.zero_le _, hinv.handed⟩
  | doneReceived hloop hcancelled => exact ⟨hinv.buffer, Nat.zero_le _, hinv.handed⟩
  | skipped trigger hloop hempty =>
    refine ⟨hinv.buffer, ?_, hinv.handed⟩
    simp [System.skipFlush]
  | swappedOut trigger hloop hbuffer => exact ⟨Nat.zero_le _, hinv.buffer, hinv.handed⟩
  | built trigger events resource flushedAt hloop =>
    have hpending := hinv.pending
    rw [hloop] at hpending
    exact ⟨hinv.buffer, hpending, hinv.handed⟩
  | handedOver trigger batch hloop =>
    have hpending := hinv.pending
    rw [hloop] at hpending
    refine ⟨hinv.buffer, Nat.zero_le _, List.forall_mem_append.mpr ⟨hinv.handed, ?_⟩⟩
    exact List.forall_mem_singleton.mpr hpending
  | completed trigger client batch answer dropped hloop hdropped =>
    refine ⟨hinv.buffer, ?_, hinv.handed⟩
    simp [System.completeFlush]
  | called | returnedEmpty | shed | countedShed | signalled | contextEnded | rotated =>
    exact ⟨hinv.buffer, hinv.pending, hinv.handed⟩

/-- Runs that meet the condition stay within the ceiling. -/
theorem withinCeiling {sys : System} (hreach : batcherMachine.ReachableUnder FitsCeiling sys) :
    WithinCeiling sys := by
  refine hreach.invariant ?_ fun state action next _ hinv hfits hnext ↦
    hinv.transition hfits (transition_of_step hnext)
  rintro state ⟨opts, rotation, rfl⟩
  exact ⟨by simp [System.initial, newBatcher_buffer], Nat.zero_le _, by simp [System.initial]⟩

/-! ### Runs that do not -/

/-- More events than the ceiling are together in the buffer, in the batch being prepared, or in a
batch handed over. -/
def Oversized (sys : System) : Prop :=
  absoluteMaxBatchSize < sys.batcher.buffer.length ∨
    absoluteMaxBatchSize < sys.loop.pending.length ∨
    ∃ handoff ∈ sys.history.handed, absoluteMaxBatchSize < handoff.batch.events.length

/-- A lock section without room for its list below the ceiling leaves more than the ceiling in the
buffer: the threshold at which events are shed is far above it. -/
theorem oversized_of_not_fits {sys next : System} {action : Action}
    (hfits : ¬ FitsCeiling sys action) (hstep : Transition sys action next) : Oversized next := by
  have hlimits : absoluteMaxBatchSize < bufferDropThreshold := by decide
  have hexcess : ∀ {index : ℕ} {events : List Event}, action = .lock index →
      sys.calls[index]? = some (.called events) →
      absoluteMaxBatchSize < sys.batcher.buffer.length + events.length := by
    rintro index events rfl hcall
    by_contra hroom
    refine hfits fun events' hcall' ↦ ?_
    obtain rfl : events = events' := by simpa [hcall] using hcall'
    exact not_lt.mp hroom
  refine Or.inl ?_
  cases hstep with
  | returnedEmpty index hcall => simpa [System.dropCall] using hexcess rfl hcall
  | shed index events hcall hevents hfull => exact lt_of_lt_of_le hlimits hfull
  | admitted index events hcall hevents hroom =>
    have hmore := hexcess rfl hcall
    simp only [System.appendAdmitted, Batcher.available, List.length_append, List.length_take]
    omega
  | _ => exact absurd trivial hfits

/-- An excess outside `flushNow` is in the buffer or was handed over. -/
theorem Oversized.of_idle {sys next : System} (hover : Oversized sys)
    (hidle : sys.loop.pending = []) (hbuffer : next.batcher.buffer = sys.batcher.buffer)
    (hhanded : next.history.handed = sys.history.handed) : Oversized next := by
  rcases hover with hexcess | hexcess | hexcess
  · exact Or.inl (by rwa [hbuffer])
  · simp [hidle] at hexcess
  · exact Or.inr (Or.inr (by rwa [hhanded]))

/-- Nothing takes an excess apart again. -/
theorem Oversized.transition {sys next : System} {action : Action} (hover : Oversized sys)
    (hstep : Transition sys action next) : Oversized next := by
  cases hstep with
  | admitted index events hcall hevents hroom =>
    rcases hover with hbuffer | hrest
    · refine Or.inl (lt_of_lt_of_le hbuffer ?_)
      simp [System.appendAdmitted]
    · exact Or.inr hrest
  | ticked hloop => exact hover.of_idle (by rw [hloop]; rfl) rfl rfl
  | tokenTaken hloop htoken => exact hover.of_idle (by rw [hloop]; rfl) rfl rfl
  | doneReceived hloop hcancelled => exact hover.of_idle (by rw [hloop]; rfl) rfl rfl
  | skipped trigger hloop hempty => exact hover.of_idle (by rw [hloop]; rfl) rfl rfl
  | swappedOut trigger hloop hbuffer =>
    rcases hover with hexcess | hpending | hhanded
    · exact Or.inr (Or.inl hexcess)
    · exact absurd hpending (by simp [hloop, Loop.pending])
    · exact Or.inr (Or.inr hhanded)
  | built trigger events resource flushedAt hloop =>
    rcases hover with hbuffer | hpending | hhanded
    · exact Or.inl hbuffer
    · rw [hloop] at hpending
      exact Or.inr (Or.inl hpending)
    · exact Or.inr (Or.inr hhanded)
  | handedOver trigger batch hloop =>
    rcases hover with hbuffer | hpending | ⟨handoff, hhandoff, hexcess⟩
    · exact Or.inl hbuffer
    · rw [hloop] at hpending
      exact Or.inr (Or.inr ⟨_, List.mem_append_right _ (List.mem_singleton.mpr rfl), hpending⟩)
    · exact Or.inr (Or.inr ⟨handoff, List.mem_append_left _ hhandoff, hexcess⟩)
  | completed trigger client batch answer dropped hloop hdropped =>
    exact hover.of_idle (by rw [hloop]; rfl) rfl rfl
  | called | returnedEmpty | shed | countedShed | signalled | contextEnded | rotated => exact hover

/-! ### The exact condition -/

/-- In every run whose `Enqueue` calls each find room for their list below the ceiling, every batch
handed over has at least one and at most `AbsoluteMaxBatchSize` events. And only in those: when
everything admitted has been handed over, batches that are all within the ceiling mean that every
call found room. Assumes: a run from the start. -/
theorem handed_batch_size_iff_fits {opts : List BatcherOption} {rotation : Rotation}
    {actions : List Action} {sys : System}
    (hrun : batcherMachine.replay (System.initial opts rotation) actions = some sys) :
    (batcherMachine.Along FitsCeiling (System.initial opts rotation) actions →
      ∀ handoff ∈ sys.history.handed, 1 ≤ handoff.batch.events.length ∧
        handoff.batch.events.length ≤ absoluteMaxBatchSize) ∧
    (sys.batcher.buffer = [] → sys.loop.pending = [] →
      (∀ handoff ∈ sys.history.handed, 1 ≤ handoff.batch.events.length ∧
        handoff.batch.events.length ≤ absoluteMaxBatchSize) →
      batcherMachine.Along FitsCeiling (System.initial opts rotation) actions) := by
  constructor
  · intro halong handoff hhandoff
    have hwithin := withinCeiling
      (Machine.ReachableUnder.replay (.start ⟨opts, rotation, rfl⟩) halong hrun)
    have hsome := (noEmptyBatch (reachable_of_run hrun)).handed handoff hhandoff
    exact ⟨List.length_pos_iff.mpr hsome, hwithin.handed handoff hhandoff⟩
  · intro hbuffer hpending hsizes
    by_contra hnot
    have hover : Oversized sys := Machine.replay_of_not_along (motive := Oversized)
      (fun state action next hfits hnext ↦ oversized_of_not_fits hfits (transition_of_step hnext))
      (fun state action next hover hnext ↦ hover.transition (transition_of_step hnext)) hrun hnot
    rcases hover with hexcess | hexcess | ⟨handoff, hhandoff, hexcess⟩
    · simp [hbuffer] at hexcess
    · simp [hpending] at hexcess
    · exact absurd (hsizes handoff hhandoff).2 (not_le.mpr hexcess)

/-- One event, flushed: the run meets the condition and its batch is within the ceiling. -/
theorem handed_batch_size_iff_fits_smallRun : ∃ sys,
    batcherMachine.replay (System.initial [] bootstrap)
      (enqueueRun [podStarted] ++ flushRun .receiveTick (.ok { accepted := 1 })) = some sys ∧
    sys.history.handed.length = 1 ∧
    ∀ handoff ∈ sys.history.handed, 1 ≤ handoff.batch.events.length ∧
      handoff.batch.events.length ≤ absoluteMaxBatchSize := by
  have hrun : ∃ sys, batcherMachine.replay (System.initial [] bootstrap)
      (enqueueRun [podStarted] ++ flushRun .receiveTick (.ok { accepted := 1 })) = some sys ∧
      sys.history.handed.length = 1 :=
    ⟨_, rfl, rfl⟩
  obtain ⟨sys, hreplay, hone⟩ := hrun
  refine ⟨sys, hreplay, hone, (handed_batch_size_iff_fits hreplay).1 ?_⟩
  have hfits : FitsCeiling ((System.initial [] bootstrap).noteCall [podStarted]) (.lock 0) := by
    intro events hcall
    obtain rfl : [podStarted] = events := by simpa [System.noteCall, System.initial] using hcall
    decide
  exact And.intro trivial <| And.intro hfits <| And.intro trivial <| And.intro trivial <|
    And.intro trivial <| And.intro trivial <| And.intro trivial <| And.intro trivial trivial

/-- The batch of one flush after one `Enqueue` call is the whole list of the call. -/
theorem exists_handed_whole_list {events : List Event} (hevents : events ≠ [])
    (hlength : events.length ≤ bufferDropThreshold) : ∃ sys, batcherMachine.Reachable sys ∧
      ∃ handoff ∈ sys.history.handed, handoff.batch.events = events := by
  have hstart : batcherMachine.Reachable (System.initial [] bootstrap) :=
    .start ⟨[], bootstrap, rfl⟩
  have hcalled := (Transition.called events).reachable hstart
  have hempty : ((System.initial [] bootstrap).noteCall events).batcher.buffer.length <
      bufferDropThreshold := (by decide : 0 < bufferDropThreshold)
  have hadmitted := (Transition.admitted 0 events rfl hevents hempty).reachable hcalled
  have hbuffer :
      (((System.initial [] bootstrap).noteCall events).appendAdmitted 0 events).batcher.buffer =
        events := List.take_of_length_le hlength
  have hwoken := (Transition.ticked rfl).reachable hadmitted
  have hswapped := (Transition.swappedOut .scheduled rfl (by
    rw [System.wake, hbuffer]
    exact hevents)).reachable hwoken
  have hbuilt := (Transition.built .scheduled _ {} 1 rfl).reachable hswapped
  have hhanded := (Transition.handedOver .scheduled _ rfl).reachable hbuilt
  exact ⟨_, hhanded, _, List.mem_singleton.mpr rfl, hbuffer⟩

/-- One call with one event more than the ceiling, and one flush: the batch handed over is larger
than the ceiling. -/
theorem one_call_exceeds_ceiling : ∃ sys, batcherMachine.Reachable sys ∧
    ∃ handoff ∈ sys.history.handed, handoff.batch.events.length = absoluteMaxBatchSize + 1 := by
  have hmany : List.replicate (absoluteMaxBatchSize + 1) podStarted ≠ [] := by
    simp [List.replicate_succ]
  obtain ⟨sys, hreach, handoff, hhandoff, hbatch⟩ := exists_handed_whole_list hmany
    (by rw [List.length_replicate]; decide)
  exact ⟨sys, hreach, handoff, hhandoff, by rw [hbatch, List.length_replicate]⟩

end IncidentaryOperator.Batch
