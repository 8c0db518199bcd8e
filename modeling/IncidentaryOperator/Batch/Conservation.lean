import IncidentaryOperator.Batch.Batcher
import IncidentaryOperator.Foundation.Ledger

/-!
# The batcher keeps its events

Conservation and order over every interleaving of `Enqueue` calls with one `Start` loop.

The batcher refines the first-in first-out ledger (`batcherSimulation`), so the handed events, the
events swapped out and not yet handed, and the buffer are together the admitted events in
lock-acquisition order. The bound on the buffer, the balance of the `buffer_full` counter, the
prefix admitted of each list, the batches that are never empty and the final drain are invariants of
the same runs.

The `buffer_full` counter is shared: a response of the server may report drops under any reason, and
`flushNow` adds them to the counter of that name. So the counter is the number of events shed by
`Enqueue` plus what the server reported under the same name (`bufferFull_balance`), and only equals
the former when the server never uses the name.
-/

set_option autoImplicit false
set_option relaxedAutoImplicit false

namespace IncidentaryOperator.Batch

open Foundation WireFormat Client

/-! ### The batcher as a ledger -/

/-- The admitted events after one more lock section. -/
@[simp] theorem admitted_append (history : History) (admission : Admission) :
    History.admitted { history with admissions := history.admissions ++ [admission] } =
      history.admitted ++ admission.admitted := by
  simp [History.admitted]

/-- A loop outside `flushNow` has nothing pending. -/
@[simp] theorem pending_resume (trigger : Trigger) : trigger.resume.pending = [] := by
  cases trigger <;> rfl

/-- A state of the batcher and the ledger it stands for: the admitted events entered, what is handed
or swapped out has departed, the buffer is held. -/
structure LedgerOf (sys : System) (ledger : Ledger Event) : Prop where
  entered : ledger.entered = sys.history.admitted
  departed : ledger.departed = sys.history.handedEvents ++ sys.loop.pending
  held : ledger.held = sys.batcher.buffer

/-- A step that moves no event stands for no operation of the ledger. -/
theorem LedgerOf.of_eq {sys next : System} {ledger : Ledger Event} (h : LedgerOf sys ledger)
    (hadmitted : next.history.admitted = sys.history.admitted)
    (hmoved : next.history.handedEvents ++ next.loop.pending =
      sys.history.handedEvents ++ sys.loop.pending)
    (hbuffer : next.batcher.buffer = sys.batcher.buffer) : LedgerOf next ledger :=
  ⟨h.entered.trans hadmitted.symm, h.departed.trans hmoved.symm, h.held.trans hbuffer.symm⟩

/-- Each step of the batcher is at most one operation of the ledger: the admission of a lock section
is an entry, and the swap of `flushNow` a departure. -/
theorem ledgerOf_transition {sys next : System} {action : Action} {ledger : Ledger Event}
    (h : LedgerOf sys ledger) (hstep : Transition sys action next) :
    ∃ operations ledger', (ledgerMachine Event).replay ledger operations = some ledger' ∧
      LedgerOf next ledger' := by
  cases hstep with
  | called events => exact ⟨[], ledger, rfl, h.of_eq rfl rfl rfl⟩
  | returnedEmpty index hcall => exact ⟨[], ledger, rfl, h.of_eq rfl rfl rfl⟩
  | shed index events hcall hevents hfull =>
    exact ⟨[], ledger, rfl, h.of_eq (by simp [System.shedAll]) rfl rfl⟩
  | admitted index events hcall hevents hroom =>
    refine ⟨[.enter (events.take sys.batcher.available)], _, rfl, ?_, h.departed, ?_⟩
    · simp [System.appendAdmitted, Ledger.enter, h.entered]
    · simp [System.appendAdmitted, Ledger.enter, h.held]
  | countedShed index count hcall => exact ⟨[], ledger, rfl, h.of_eq rfl rfl rfl⟩
  | signalled index size hcall => exact ⟨[], ledger, rfl, h.of_eq rfl rfl rfl⟩
  | contextEnded hlive => exact ⟨[], ledger, rfl, h.of_eq rfl rfl rfl⟩
  | ticked hloop =>
    exact ⟨[], ledger, rfl, h.of_eq rfl (by rw [hloop]; rfl) rfl⟩
  | tokenTaken hloop htoken =>
    exact ⟨[], ledger, rfl, h.of_eq rfl (by rw [hloop]; rfl) rfl⟩
  | doneReceived hloop hcancelled =>
    exact ⟨[], ledger, rfl, h.of_eq rfl (by rw [hloop]; rfl) rfl⟩
  | skipped trigger hloop hempty =>
    refine ⟨[], ledger, rfl, h.of_eq rfl ?_ rfl⟩
    show sys.history.handedEvents ++ trigger.resume.pending = _
    rw [hloop, pending_resume]
    rfl
  | swappedOut trigger hloop hbuffer =>
    refine ⟨[.depart], _, rfl, h.entered, ?_, rfl⟩
    have hnothing : ledger.departed = sys.history.handedEvents := by
      rw [h.departed, hloop]
      exact List.append_nil _
    simp [System.swapBuffer, Ledger.depart, Loop.pending, hnothing, h.held]
  | built trigger events resource flushedAt hloop =>
    exact ⟨[], ledger, rfl, h.of_eq rfl (by rw [hloop]; rfl) rfl⟩
  | handedOver trigger batch hloop =>
    refine ⟨[], ledger, rfl, h.of_eq rfl ?_ rfl⟩
    rw [hloop]
    simp [System.handBatch, History.handedEvents, Loop.pending]
  | completed trigger client batch answer dropped hloop hdropped =>
    refine ⟨[], ledger, rfl, h.of_eq rfl ?_ rfl⟩
    show sys.history.handedEvents ++ trigger.resume.pending = _
    rw [hloop, pending_resume]
    rfl
  | rotated rotation => exact ⟨[], ledger, rfl, h.of_eq rfl rfl rfl⟩

/-- The batcher refines the ledger. -/
def batcherSimulation : Simulation batcherMachine (ledgerMachine Event) where
  related := LedgerOf
  start := by
    rintro sys ⟨opts, rotation, rfl⟩
    exact ⟨Ledger.empty, rfl, rfl, rfl, (newBatcher_buffer opts).symm⟩
  step := fun _ _ _ _ hledger hstep ↦ ledgerOf_transition hledger (transition_of_step hstep)

/-- In every reachable state the handed events, followed by what is swapped out and not yet handed,
followed by the buffer, are the admitted events in lock-acquisition order. -/
theorem handed_pending_buffer_eq_admitted {sys : System}
    (hreach : batcherMachine.Reachable sys) :
    sys.history.handedEvents ++ sys.loop.pending ++ sys.batcher.buffer = sys.history.admitted := by
  obtain ⟨ledger, -, hledger⟩ := batcherSimulation.exists_reachable hreach
  rw [← hledger.departed, ← hledger.held, ← hledger.entered, ledger.balanced]

/-! ### The bound on the buffer -/

/-- The buffer never grows past `BufferDropThreshold`. -/
theorem buffer_length_le {sys : System} (hreach : batcherMachine.Reachable sys) :
    sys.batcher.buffer.length ≤ bufferDropThreshold := by
  refine batcher_invariant (motive := fun sys ↦ sys.batcher.buffer.length ≤ bufferDropThreshold)
    ?_ ?_ hreach
  · intro opts rotation
    simp [System.initial, newBatcher_buffer]
  · intro sys action next _ hbound hstep
    cases hstep with
    | admitted index events hcall hevents hroom =>
      simp only [System.appendAdmitted, Batcher.available, List.length_append, List.length_take]
      omega
    | swappedOut trigger hloop hbuffer => exact Nat.zero_le _
    | _ => exact hbound

/-! ### The balance of the counter -/

/-- The events of a call that are neither admitted nor counted yet. -/
def EnqueueCall.outstanding : EnqueueCall → ℕ
  | .called events => events.length
  | .shedding count => count
  | .signalling _ => 0

/-- The events of the calls in progress that are neither admitted nor counted yet. -/
def outstanding (calls : List EnqueueCall) : ℕ :=
  (calls.map EnqueueCall.outstanding).sum

/-- The total of two lists of calls. -/
@[simp] theorem outstanding_append (first second : List EnqueueCall) :
    outstanding (first ++ second) = outstanding first + outstanding second := by
  rw [outstanding, List.map_append, List.sum_append]
  rfl

/-- The total with one more call in front. -/
@[simp] theorem outstanding_cons (call : EnqueueCall) (rest : List EnqueueCall) :
    outstanding (call :: rest) = call.outstanding + outstanding rest := by
  rw [outstanding, List.map_cons, List.sum_cons]
  rfl

/-- The total around one of the calls. -/
theorem outstanding_split {calls : List EnqueueCall} {index : ℕ} {call : EnqueueCall}
    (hcall : calls[index]? = some call) :
    outstanding calls = outstanding (calls.take index) +
      (call.outstanding + outstanding (calls.drop (index + 1))) := by
  obtain ⟨hindex, rfl⟩ := List.getElem?_eq_some_iff.mp hcall
  rw [← outstanding_cons, ← List.drop_eq_getElem_cons hindex, ← outstanding_append,
    List.take_append_drop]

/-- A call that moves on changes the total by what it itself has outstanding. -/
theorem outstanding_set {calls : List EnqueueCall} {index : ℕ} {call : EnqueueCall}
    (hcall : calls[index]? = some call) (call' : EnqueueCall) :
    outstanding (calls.set index call') + call.outstanding =
      outstanding calls + call'.outstanding := by
  obtain ⟨hindex, -⟩ := List.getElem?_eq_some_iff.mp hcall
  have hsplit := outstanding_split hcall
  rw [List.set_eq_take_append_cons_drop, if_pos hindex, outstanding_append, outstanding_cons]
  omega

/-- A call that returns takes what it has outstanding out of the total. -/
theorem outstanding_eraseIdx {calls : List EnqueueCall} {index : ℕ} {call : EnqueueCall}
    (hcall : calls[index]? = some call) :
    outstanding (calls.eraseIdx index) + call.outstanding = outstanding calls := by
  have hsplit := outstanding_split hcall
  rw [List.eraseIdx_eq_take_drop_succ, outstanding_append]
  omega

/-- What a completed flush reported under a drop reason. -/
def Completion.reported (reason : String) (completion : Completion) : ℕ :=
  match completion.outcome with
  | .ok res => ((res.dropReasons.lookup reason).getD 0).toNat
  | .error _ => 0

/-- What all completed flushes reported under a drop reason. -/
def History.reported (history : History) (reason : String) : ℕ :=
  (history.completed.map (Completion.reported reason)).sum

/-- What a completed flush added to the counter of a drop reason. -/
def Completion.added (reason : String) (completion : Completion) : ℕ :=
  natToDouble (completion.reported reason)

/-- What all completed flushes added to the counter of a drop reason. -/
def History.added (history : History) (reason : String) : ℕ :=
  (history.completed.map (Completion.added reason)).sum

/-- Counts that are small enough are added as they are reported. -/
theorem History.added_eq_reported {history : History} {reason : String}
    (hsmall : history.reported reason ≤ 2 ^ 53) :
    history.added reason = history.reported reason := by
  unfold History.added
  refine congrArg List.sum (List.map_congr_left fun completion hmem ↦ natToDouble_of_le ?_)
  exact (List.single_le_sum (fun _ _ ↦ Nat.zero_le _) _ (List.mem_map_of_mem hmem)).trans hsmall

/-- Adding to one counter of a vector. -/
theorem CounterVec.add_self {Label : Type} [DecidableEq Label] (counters : CounterVec Label)
    (label : Label) (count : ℕ) : counters.add label count label = counters label + count := by
  simp [CounterVec.add]

/-- The drop reasons of a response are added to the counters of their names. -/
theorem addDropReasons_apply {dropped dropped' : CounterVec String}
    {entries : List (Sigma fun _ : String ↦ ℤ)} (hkeys : entries.NodupKeys)
    (hadd : addDropReasons dropped entries = some dropped') (reason : String) :
    dropped' reason = dropped reason + natToDouble ((entries.dlookup reason).getD 0).toNat := by
  induction entries generalizing dropped with
  | nil =>
    obtain rfl : dropped = dropped' := by simpa [addDropReasons] using hadd
    simp [natToDouble_zero]
  | cons entry rest ih =>
    obtain ⟨name, count⟩ := entry
    obtain ⟨hfresh, hrest⟩ := List.nodupKeys_cons.mp hkeys
    simp only [addDropReasons] at hadd
    split_ifs at hadd with hnegative
    have htail := ih hrest hadd
    by_cases hname : reason = name
    · subst hname
      have hnone : rest.dlookup reason = none := List.dlookup_eq_none.mpr hfresh
      rw [htail, CounterVec.add_self, hnone, List.dlookup_cons_eq]
      simp [natToDouble_zero]
    · rw [htail, List.dlookup_cons_ne _ _ hname]
      simp [CounterVec.add, Function.update_of_ne hname]

/-- What an outcome adds to a dropped counter. -/
theorem droppedAfter_apply {sys : System} (batch : IngestBatch) {outcome : FlushOutcome}
    {dropped : CounterVec String} (hdropped : droppedAfter sys.dropped outcome = some dropped)
    (reason : String) :
    dropped reason = sys.dropped reason + (sys.completion batch outcome).added reason := by
  cases outcome with
  | ok res => exact addDropReasons_apply res.dropReasons.nodupKeys hdropped reason
  | error text =>
    obtain rfl : sys.dropped = dropped := by simpa [droppedAfter] using hdropped
    simp [Completion.added, Completion.reported, System.completion, natToDouble_zero]

/-- The `buffer_full` counter, the admitted events and the outstanding ones account for all events
offered and for what the flushes added under the same name. -/
theorem bufferFull_balance {sys : System} (hreach : batcherMachine.Reachable sys) :
    sys.dropped bufferFull + sys.history.admitted.length + outstanding sys.calls =
      sys.history.offered + sys.history.added bufferFull := by
  refine batcher_invariant (motive := fun sys ↦
    sys.dropped bufferFull + sys.history.admitted.length + outstanding sys.calls =
      sys.history.offered + sys.history.added bufferFull) ?_ ?_ hreach
  · intro opts rotation
    rfl
  · intro sys action next _ hbalance hstep
    cases hstep with
    | called events =>
      show sys.dropped bufferFull + sys.history.admitted.length +
        outstanding (sys.calls ++ [.called events]) = sys.history.offered + events.length +
          sys.history.added bufferFull
      have hmore : outstanding (sys.calls ++ [.called events]) =
          outstanding sys.calls + events.length :=
        outstanding_append _ _
      omega
    | returnedEmpty index hcall =>
      have hgone := outstanding_eraseIdx hcall
      simp only [EnqueueCall.outstanding, List.length_nil] at hgone
      simp only [System.dropCall]
      omega
    | shed index events hcall hevents hfull =>
      have hmoved := outstanding_set hcall (.shedding events.length)
      simp only [EnqueueCall.outstanding] at hmoved
      simp only [System.shedAll, admitted_append, List.append_nil]
      show _ = sys.history.offered + sys.history.added bufferFull
      omega
    | admitted index events hcall hevents hroom =>
      have hmoved := outstanding_set hcall
        (.signalling (sys.batcher.buffer ++ events.take sys.batcher.available).length)
      simp only [EnqueueCall.outstanding] at hmoved
      simp only [System.appendAdmitted, admitted_append, List.length_append, List.length_take]
        at hmoved ⊢
      show _ = sys.history.offered + sys.history.added bufferFull
      split_ifs with hover
      · rw [CounterVec.add_self]
        omega
      · omega
    | countedShed index count hcall =>
      have hgone := outstanding_eraseIdx hcall
      simp only [EnqueueCall.outstanding] at hgone
      simp only [System.countShed, CounterVec.add_self]
      omega
    | signalled index size hcall =>
      have hgone := outstanding_eraseIdx hcall
      simp only [EnqueueCall.outstanding] at hgone
      simp only [System.signal]
      omega
    | completed trigger client batch answer dropped hloop hdropped =>
      have hadded := droppedAfter_apply batch hdropped bufferFull
      show dropped bufferFull + sys.history.admitted.length + outstanding sys.calls =
        sys.history.offered + (List.map _ (sys.history.completed ++ [_])).sum
      rw [List.map_append, List.sum_append, List.map_singleton, List.sum_singleton]
      simp only [History.added] at hbalance
      omega
    | _ => exact hbalance

/-! ### What a call admits, and what is handed over -/

/-- A call admits a prefix of its list. -/
theorem admitted_prefix_offered {sys : System} (hreach : batcherMachine.Reachable sys) :
    ∀ admission ∈ sys.history.admissions, admission.admitted <+: admission.offered := by
  refine batcher_invariant (motive := fun sys ↦
    ∀ admission ∈ sys.history.admissions, admission.admitted <+: admission.offered) ?_ ?_ hreach
  · intro opts rotation admission hadmission
    simp [System.initial] at hadmission
  · intro sys action next _ hbegins hstep
    cases hstep with
    | shed index events hcall hevents hfull =>
      refine List.forall_mem_append.mpr ⟨hbegins, List.forall_mem_singleton.mpr ?_⟩
      exact List.nil_prefix
    | admitted index events hcall hevents hroom =>
      refine List.forall_mem_append.mpr ⟨hbegins, List.forall_mem_singleton.mpr ?_⟩
      exact List.take_prefix _ _
    | _ => exact hbegins

/-- The events `flushNow` took out of the buffer, while it runs. -/
def Loop.taken : Loop → Option (List Event)
  | .swapped _ events => some events
  | .prepared _ batch | .flushing _ _ batch => some batch.events
  | _ => none

/-- A loop outside `flushNow` has taken nothing. -/
@[simp] theorem taken_resume (trigger : Trigger) : trigger.resume.taken = none := by
  cases trigger <;> rfl

/-- No batch, handed over or being prepared, is empty. -/
structure NoEmptyBatch (sys : System) : Prop where
  taken : ∀ events, sys.loop.taken = some events → events ≠ []
  handed : ∀ handoff ∈ sys.history.handed, handoff.batch.events ≠ []

/-- The only way into `flushNow` past its test is a buffer that is not empty. -/
theorem noEmptyBatch {sys : System} (hreach : batcherMachine.Reachable sys) :
    NoEmptyBatch sys := by
  refine batcher_invariant ?_ ?_ hreach
  · intro opts rotation
    exact ⟨by simp [System.initial, Loop.taken], by simp [System.initial]⟩
  · intro sys action next _ hinv hstep
    cases hstep with
    | ticked hloop => exact ⟨by simp [System.wake, Loop.taken], hinv.handed⟩
    | tokenTaken hloop htoken => exact ⟨by simp [System.takeToken, Loop.taken], hinv.handed⟩
    | doneReceived hloop hcancelled => exact ⟨by simp [System.wake, Loop.taken], hinv.handed⟩
    | skipped trigger hloop hempty => exact ⟨by simp [System.skipFlush], hinv.handed⟩
    | swappedOut trigger hloop hbuffer =>
      refine ⟨?_, hinv.handed⟩
      rintro events ⟨rfl⟩
      exact hbuffer
    | built trigger events resource flushedAt hloop =>
      refine ⟨?_, hinv.handed⟩
      rintro taken ⟨rfl⟩
      exact hinv.taken events (by rw [hloop]; rfl)
    | handedOver trigger batch hloop =>
      have hbatch : batch.events ≠ [] := hinv.taken batch.events (by rw [hloop]; rfl)
      refine ⟨?_, List.forall_mem_append.mpr ⟨hinv.handed, List.forall_mem_singleton.mpr hbatch⟩⟩
      rintro taken ⟨rfl⟩
      exact hbatch
    | completed trigger client batch answer dropped hloop hdropped =>
      exact ⟨by simp [System.completeFlush], hinv.handed⟩
    | called | returnedEmpty | shed | admitted | countedShed | signalled | contextEnded | rotated =>
      exact ⟨hinv.taken, hinv.handed⟩

/-! ### The final drain -/

/-- The loop is past the swap of the final drain. -/
def Loop.drained : Loop → Bool
  | .swapped t _ | .prepared t _ | .flushing t _ _ => t = .drain
  | .stopped => true
  | _ => false

/-- The final drain only starts after the context ended, and from its swap on, what was admitted
before is handed over or about to be. -/
structure DrainInvariant (sys : System) : Prop where
  cancelled : sys.loop.cancellationObserved = true → sys.cancelled = true
  recorded : sys.cancelled = true → ∃ before, sys.history.atCancel = some before ∧
    before <+: sys.history.admitted
  drained : sys.loop.drained = true → ∀ before, sys.history.atCancel = some before →
    before <+: sys.history.handedEvents ++ sys.loop.pending

/-- What was admitted when the context ended begins what is admitted now. -/
theorem DrainInvariant.prefix_admitted {sys : System} (hinv : DrainInvariant sys)
    (hcancelled : sys.cancelled = true) {before : List Event}
    (hrecord : sys.history.atCancel = some before) : before <+: sys.history.admitted := by
  obtain ⟨recorded, hrecorded, hprefix⟩ := hinv.recorded hcancelled
  obtain rfl : recorded = before := Option.some.inj (hrecorded.symm.trans hrecord)
  exact hprefix

/-- A loop that is past the swap of the final drain has received the end of the context. -/
theorem cancellationObserved_of_drained {loop : Loop} (hdrained : loop.drained = true) :
    loop.cancellationObserved = true := by
  cases loop <;> simp_all [Loop.drained, Loop.cancellationObserved]

/-- The loop returns from the final drain by stopping, and from the other flushes by selecting. -/
theorem resume_drained (trigger : Trigger) :
    trigger.resume.drained = decide (trigger = .drain) ∧
      trigger.resume.cancellationObserved = decide (trigger = .drain) := by
  cases trigger <;> exact ⟨rfl, rfl⟩

/-- A step of the loop that admits nothing and keeps together what is handed over and what is about
to be. -/
theorem DrainInvariant.of_loop {sys next : System} (hinv : DrainInvariant sys)
    (hcancelled : next.cancelled = sys.cancelled)
    (hrecord : next.history.atCancel = sys.history.atCancel)
    (hadmitted : next.history.admitted = sys.history.admitted)
    (hobserved : next.loop.cancellationObserved = sys.loop.cancellationObserved)
    (hdrained : next.loop.drained = sys.loop.drained)
    (hout : next.history.handedEvents ++ next.loop.pending =
      sys.history.handedEvents ++ sys.loop.pending) : DrainInvariant next := by
  refine ⟨?_, ?_, ?_⟩
  · rw [hobserved, hcancelled]
    exact hinv.cancelled
  · rw [hcancelled, hrecord, hadmitted]
    exact hinv.recorded
  · rw [hdrained, hrecord, hout]
    exact hinv.drained

/-- The invariant of the final drain. -/
theorem drainInvariant {sys : System} (hreach : batcherMachine.Reachable sys) :
    DrainInvariant sys := by
  refine batcher_invariant ?_ ?_ hreach
  · intro opts rotation
    exact ⟨by simp [System.initial, Loop.cancellationObserved], by simp [System.initial],
      by simp [System.initial, Loop.drained]⟩
  · intro sys action next hbefore hinv hstep
    have hconserved := handed_pending_buffer_eq_admitted hbefore
    cases hstep with
    | shed index events hcall hevents hfull =>
      refine ⟨hinv.cancelled, fun hcancelled ↦ ?_, hinv.drained⟩
      obtain ⟨before, hrecord, hprefix⟩ := hinv.recorded hcancelled
      exact ⟨before, hrecord, by simpa [System.shedAll] using hprefix⟩
    | admitted index events hcall hevents hroom =>
      refine ⟨hinv.cancelled, fun hcancelled ↦ ?_, hinv.drained⟩
      obtain ⟨before, hrecord, hprefix⟩ := hinv.recorded hcancelled
      refine ⟨before, hrecord, ?_⟩
      simpa [System.appendAdmitted] using hprefix.trans (List.prefix_append _ _)
    | contextEnded hlive =>
      refine ⟨fun _ ↦ rfl, fun _ ↦ ⟨_, rfl, List.prefix_refl _⟩, fun hdrained ↦ ?_⟩
      have hcancelled := hinv.cancelled (cancellationObserved_of_drained hdrained)
      exact absurd hcancelled (by simp [hlive])
    | ticked hloop =>
      exact ⟨by simp [System.wake, Loop.cancellationObserved], hinv.recorded,
        by simp [System.wake, Loop.drained]⟩
    | tokenTaken hloop htoken =>
      exact ⟨by simp [System.takeToken, Loop.cancellationObserved], hinv.recorded,
        by simp [System.takeToken, Loop.drained]⟩
    | doneReceived hloop hcancelled =>
      exact ⟨fun _ ↦ hcancelled, hinv.recorded, by simp [System.wake, Loop.drained]⟩
    | skipped trigger hloop hempty =>
      have hobserved : sys.loop.cancellationObserved = decide (trigger = .drain) := by
        rw [hloop]; rfl
      refine ⟨fun hdone ↦ hinv.cancelled ?_, hinv.recorded, fun hdone before hrecord ↦ ?_⟩
      · rw [hobserved, ← (resume_drained trigger).2]
        exact hdone
      · have hcancelled := hinv.cancelled (by
          rw [hobserved, ← (resume_drained trigger).1]
          exact hdone)
        rw [hloop, hempty, List.append_nil] at hconserved
        show before <+: sys.history.handedEvents ++ trigger.resume.pending
        rw [pending_resume]
        exact hconserved ▸ hinv.prefix_admitted hcancelled hrecord
    | swappedOut trigger hloop hbuffer =>
      have hobserved : sys.loop.cancellationObserved = decide (trigger = .drain) := by
        rw [hloop]; rfl
      refine ⟨fun hdone ↦ hinv.cancelled (hobserved.trans hdone), hinv.recorded,
        fun hdone before hrecord ↦ ?_⟩
      have hprefix := hinv.prefix_admitted (hinv.cancelled (hobserved.trans hdone)) hrecord
      rw [hloop] at hconserved
      show before <+: sys.history.handedEvents ++ sys.batcher.buffer
      rw [show sys.history.handedEvents ++ Loop.pending (.entered trigger) =
        sys.history.handedEvents from List.append_nil _] at hconserved
      exact hconserved ▸ hprefix
    | built trigger events resource flushedAt hloop =>
      refine hinv.of_loop rfl rfl rfl ?_ ?_ ?_ <;> rw [hloop] <;> rfl
    | handedOver trigger batch hloop =>
      refine hinv.of_loop rfl rfl rfl ?_ ?_ ?_
      · rw [hloop]
        rfl
      · rw [hloop]
        rfl
      · rw [hloop]
        simp [System.handBatch, History.handedEvents, Loop.pending]
    | completed trigger client batch answer dropped hloop hdropped =>
      refine hinv.of_loop rfl rfl rfl ?_ ?_ ?_
      · rw [hloop]
        exact (resume_drained trigger).2
      · rw [hloop]
        exact (resume_drained trigger).1
      · rw [hloop]
        show sys.history.handedEvents ++ trigger.resume.pending = sys.history.handedEvents ++ []
        rw [pending_resume]
    | called | returnedEmpty | countedShed | signalled | rotated =>
      exact ⟨hinv.cancelled, hinv.recorded, hinv.drained⟩

/-- When `Start` has returned, every event admitted before the context ended is in a batch that was
handed over. -/
theorem atCancel_prefix_handedEvents {sys : System} (hreach : batcherMachine.Reachable sys)
    (hstopped : sys.loop = .stopped) :
    ∃ before, sys.history.atCancel = some before ∧ before <+: sys.history.handedEvents := by
  have hinv := drainInvariant hreach
  have hcancelled := hinv.cancelled (by rw [hstopped]; rfl)
  obtain ⟨before, hrecord, -⟩ := hinv.recorded hcancelled
  have hprefix := hinv.drained (by rw [hstopped]; rfl) before hrecord
  rw [hstopped] at hprefix
  exact ⟨before, hrecord, by simpa [Loop.pending] using hprefix⟩

/-! ### The contract of the batcher -/

/-- In every reachable state of every interleaving: what was handed over, what is on its way and the
buffer are the admitted events in order; the buffer is bounded; when no call is in progress the
`buffer_full` counter is what was offered and not admitted, plus what the server reported under that
name, as long as a double can hold that; a call admits a prefix of its list; no handed batch is
empty; and when `Start` has returned, everything admitted before the context ended was handed over.
Assumes: a reachable state. -/
theorem batcher_conserves_events {sys : System} (hreach : batcherMachine.Reachable sys) :
    sys.history.handedEvents ++ sys.loop.pending ++ sys.batcher.buffer = sys.history.admitted ∧
      sys.batcher.buffer.length ≤ bufferDropThreshold ∧
      (sys.calls = [] → sys.history.reported bufferFull ≤ 2 ^ 53 →
        sys.dropped bufferFull + sys.history.admitted.length =
          sys.history.offered + sys.history.reported bufferFull) ∧
      (∀ admission ∈ sys.history.admissions, admission.admitted <+: admission.offered) ∧
      (∀ handoff ∈ sys.history.handed, handoff.batch.events ≠ []) ∧
      (sys.loop = .stopped →
        ∃ before, sys.history.atCancel = some before ∧ before <+: sys.history.handedEvents) := by
  refine ⟨handed_pending_buffer_eq_admitted hreach, buffer_length_le hreach,
    fun hidle hsmall ↦ ?_, admitted_prefix_offered hreach, (noEmptyBatch hreach).handed,
    atCancel_prefix_handedEvents hreach⟩
  have hbalance := bufferFull_balance hreach
  rw [hidle, History.added_eq_reported hsmall] at hbalance
  exact hbalance

/-- One event, and a final drain whose flush fails: `Start` has returned, the event was handed over
and nothing was shed. -/
theorem batcher_conserves_events_drainRun : ∃ sys, batcherMachine.Reachable sys ∧
    sys.calls = [] ∧ sys.loop = .stopped ∧ sys.history.admitted = [podStarted] ∧
    sys.history.handedEvents ++ sys.loop.pending ++ sys.batcher.buffer = sys.history.admitted ∧
    sys.dropped bufferFull + sys.history.admitted.length =
      sys.history.offered + sys.history.reported bufferFull ∧
    ∃ before, sys.history.atCancel = some before ∧ before <+: sys.history.handedEvents := by
  have hrun : ∃ sys, batcherMachine.replay (System.initial [] bootstrap)
      (enqueueRun [podStarted] ++ .cancel :: flushRun .receiveDone (.error "status 503")) =
        some sys ∧ sys.calls = [] ∧ sys.loop = .stopped ∧ sys.history.admitted = [podStarted] ∧
      sys.history.reported bufferFull = 0 :=
    ⟨_, rfl, rfl, rfl, rfl, rfl⟩
  obtain ⟨sys, hreplay, hidle, hstopped, hadmitted, hreported⟩ := hrun
  have hreach := reachable_of_run hreplay
  have hcontract := batcher_conserves_events hreach
  exact ⟨sys, hreach, hidle, hstopped, hadmitted, hcontract.1,
    hcontract.2.2.1 hidle (hreported ▸ Nat.zero_le _), hcontract.2.2.2.2.2 hstopped⟩

/-- A response that reports one drop under `buffer_full` makes the counter differ from the number of
events offered and not admitted. -/
theorem bufferFull_reported_by_server : ∃ sys, batcherMachine.Reachable sys ∧ sys.calls = [] ∧
    sys.history.offered = 1 ∧ sys.history.admitted.length = 1 ∧ sys.dropped bufferFull = 1 := by
  have hrun : ∃ sys, batcherMachine.replay (System.initial [] bootstrap)
      (enqueueRun [podStarted] ++ flushRun .receiveTick
        (.ok { dropped := 1, dropReasons := AList.singleton bufferFull 1 })) = some sys ∧
      sys.calls = [] ∧ sys.history.offered = 1 ∧ sys.history.admitted.length = 1 ∧
      sys.history.reported bufferFull = 1 :=
    ⟨_, rfl, rfl, rfl, rfl, rfl⟩
  obtain ⟨sys, hreplay, hidle, hoffered, hadmitted, hreported⟩ := hrun
  have hreach := reachable_of_run hreplay
  have hsmall : sys.history.reported bufferFull ≤ 2 ^ 53 := hreported ▸ (by norm_num : 1 ≤ 2 ^ 53)
  have hbalance := bufferFull_balance hreach
  rw [hidle, History.added_eq_reported hsmall, hoffered, hadmitted, hreported] at hbalance
  exact ⟨sys, hreach, hidle, hoffered, hadmitted, Nat.succ_injective hbalance⟩

end IncidentaryOperator.Batch
