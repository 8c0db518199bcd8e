import IncidentaryOperator.Batch.FlushLoss
import IncidentaryOperator.Foundation.Tally

/-!
# What the sent and dropped counters say

After a flush without an error `flushNow` adds the whole batch to the sent counters, by kind, and
the drop reasons of the response to the dropped counters. The counts `accepted` and `dropped` of the
response reach neither. So the sent total is the number of events in the successful batches, and the
total of the dropped counters other than `buffer_full` is what the responses said under such
reasons, as doubles (`counters_tally`).

For responses whose counts add up, the counters are true after every flush of a run exactly when no
response of the run says that an event was dropped (`counters_true_iff_nothing_dropped`). The
dropping stub says so of every event.
-/

set_option autoImplicit false
set_option relaxedAutoImplicit false

namespace IncidentaryOperator.Batch

open Foundation WireFormat Client

/-! ### What responses say -/

/-- The events a successful response accepted; a failed flush has none. -/
def Completion.accepted (completion : Completion) : ℤ :=
  match completion.outcome with
  | .ok res => res.accepted
  | .error _ => 0

/-- The events a successful response dropped; a failed flush has none. -/
def Completion.droppedCount (completion : Completion) : ℤ :=
  match completion.outcome with
  | .ok res => res.dropped
  | .error _ => 0

/-- The drop reasons of a successful response. -/
def Completion.reasons (completion : Completion) : List (Sigma fun _ : String ↦ ℤ) :=
  match completion.outcome with
  | .ok res => res.dropReasons.entries
  | .error _ => []

theorem Completion.nodupKeys_reasons (completion : Completion) :
    completion.reasons.NodupKeys := by
  unfold Completion.reasons
  cases completion.outcome with
  | ok res => exact res.dropReasons.nodupKeys
  | error text => exact List.nodupKeys_nil

/-- The counts of a successful response add up: each event of the batch is accepted or dropped, and
the drop reasons, when there are any, account for the dropped ones. -/
def Completion.Consistent (completion : Completion) : Prop :=
  completion.succeeded = true →
    completion.accepted + completion.droppedCount = completion.batch.events.length ∧
    (completion.reasons ≠ [] →
      (completion.reasons.map Sigma.snd).sum = completion.droppedCount)

/-- The counters agree with the responses: the sent total is what was accepted, and the dropped
total, apart from what `Enqueue` shed, is what was dropped. -/
def System.CountersTrue (sys : System) : Prop :=
  ((∑ kind, sys.sent kind : ℕ) : ℤ) =
      (sys.history.completed.map Completion.accepted).sum ∧
    ((∑ᶠ reason ∈ {reason | reason ≠ bufferFull}, sys.dropped reason : ℕ) : ℤ) =
      (sys.history.completed.map Completion.droppedCount).sum

/-! ### What is added to the counters -/

/-- What a completed flush adds to the sent counter of a kind. -/
def Completion.sentOf (kind : Kind) (completion : Completion) : ℕ :=
  match completion.outcome with
  | .ok _ => completion.batch.events.countP fun event ↦ event.kind = kind
  | .error _ => 0

/-- What a completed flush adds to the sent total. -/
def Completion.sentCount (completion : Completion) : ℕ :=
  match completion.outcome with
  | .ok _ => completion.batch.events.length
  | .error _ => 0

theorem Completion.sum_sentOf (completion : Completion) :
    ∑ kind, completion.sentOf kind = completion.sentCount := by
  unfold Completion.sentOf Completion.sentCount
  cases completion.outcome with
  | ok res => exact sum_countP_fiber Event.kind completion.batch.events
  | error text => exact Finset.sum_const_zero

/-- What a count of a response adds to a counter. -/
def countAdded (count : ℤ) : ℕ :=
  natToDouble count.toNat

/-- What a completed flush adds to the dropped total, apart from `buffer_full`. -/
def Completion.addedCount (completion : Completion) : ℕ :=
  ((completion.reasons.filter fun entry ↦ entry.1 ≠ bufferFull).map fun entry ↦
    countAdded entry.2).sum

/-- A response with a negative count among its reasons completes no flush. -/
theorem nonneg_of_addDropReasons {dropped dropped' : CounterVec String}
    {entries : List (Sigma fun _ : String ↦ ℤ)}
    (hadd : addDropReasons dropped entries = some dropped') :
    ∀ entry ∈ entries, 0 ≤ entry.2 := by
  induction entries generalizing dropped with
  | nil => simp
  | cons entry rest ih =>
    simp only [addDropReasons] at hadd
    split_ifs at hadd with hnegative
    exact List.forall_mem_cons.mpr ⟨not_lt.mp hnegative, ih hadd⟩

/-- The counters as tallies of the completed flushes. -/
structure CounterTally (sys : System) : Prop where
  sent : ∀ kind, sys.sent kind = (sys.history.completed.map (Completion.sentOf kind)).sum
  dropped : ∀ reason, reason ≠ bufferFull → sys.dropped reason = sys.history.added reason
  reasons : ∀ completion ∈ sys.history.completed, ∀ entry ∈ completion.reasons, 0 ≤ entry.2

/-- A step that completes no flush and touches no counter but `buffer_full` keeps the tallies. -/
theorem CounterTally.of_eq {sys next : System} (htally : CounterTally sys)
    (hcompleted : next.history.completed = sys.history.completed) (hsent : next.sent = sys.sent)
    (hdropped : ∀ reason, reason ≠ bufferFull → next.dropped reason = sys.dropped reason) :
    CounterTally next := by
  constructor
  · rw [hcompleted, hsent]
    exact htally.sent
  · intro reason hreason
    rw [hdropped reason hreason, htally.dropped reason hreason, History.added, History.added,
      hcompleted]
  · rw [hcompleted]
    exact htally.reasons

/-- A flush that returns adds its batch and its reasons. -/
theorem CounterTally.complete {sys : System} (htally : CounterTally sys) (trigger : Trigger)
    (batch : IngestBatch) {outcome : FlushOutcome} {dropped : CounterVec String}
    (hdropped : droppedAfter sys.dropped outcome = some dropped) :
    CounterTally (sys.completeFlush trigger batch outcome dropped) := by
  constructor
  · intro kind
    have hnew : sentAfter sys.sent batch.events outcome kind =
        sys.sent kind + (sys.completion batch outcome).sentOf kind := by
      cases outcome <;> rfl
    simp only [System.completeFlush, hnew, htally.sent kind, List.map_append, List.map_singleton,
      List.sum_append, List.sum_singleton]
  · intro reason hreason
    simp only [System.completeFlush, History.added, List.map_append, List.map_singleton,
      List.sum_append, List.sum_singleton]
    rw [droppedAfter_apply batch hdropped reason, htally.dropped reason hreason, History.added]
  · simp only [System.completeFlush, List.forall_mem_append, List.forall_mem_singleton]
    refine ⟨htally.reasons, ?_⟩
    cases outcome with
    | ok res => exact nonneg_of_addDropReasons hdropped
    | error text => simp [System.completion, Completion.reasons]

/-- The tallies hold in every reachable state. -/
theorem counterTally {sys : System} (hreach : batcherMachine.Reachable sys) :
    CounterTally sys := by
  refine batcher_invariant ?_ ?_ hreach
  · intro opts rotation
    exact ⟨fun _ ↦ rfl, fun _ _ ↦ rfl, by simp [System.initial]⟩
  · intro sys action next _ htally hstep
    cases hstep with
    | admitted index events hcall hevents hroom =>
      refine htally.of_eq rfl rfl fun reason hreason ↦ ?_
      simp only [System.appendAdmitted]
      split_ifs
      · exact Function.update_of_ne hreason _ _
      · rfl
    | countedShed index count hcall =>
      exact htally.of_eq rfl rfl fun reason hreason ↦ Function.update_of_ne hreason _ _
    | completed trigger client batch answer dropped hloop hdropped =>
      exact htally.complete trigger batch hdropped
    | _ => exact htally.of_eq rfl rfl fun _ _ ↦ rfl

/-- What the counters add up to. -/
theorem counters_tally {sys : System} (hreach : batcherMachine.Reachable sys) :
    ∑ kind, sys.sent kind = (sys.history.completed.map Completion.sentCount).sum ∧
      ∑ᶠ reason ∈ {reason | reason ≠ bufferFull}, sys.dropped reason =
        (sys.history.completed.map Completion.addedCount).sum := by
  have htally := counterTally hreach
  constructor
  · simp only [htally.sent]
    induction sys.history.completed with
    | nil => simp
    | cons completion rest ih =>
      simp only [List.map_cons, List.sum_cons, Finset.sum_add_distrib, ih, completion.sum_sentOf]
  · have hentry : ∀ completion : Completion, ∀ reason,
        completion.added reason =
          entryAt countAdded completion.reasons reason := by
      intro completion reason
      unfold Completion.added Completion.reported Completion.reasons entryAt
      cases completion.outcome with
      | ok res =>
        dsimp only [AList.lookup]
        cases res.dropReasons.entries.dlookup reason with
        | none => exact natToDouble_zero
        | some count => rfl
      | error text => exact natToDouble_zero
    have hsummed := (finsum_mem_list_sum {reason | reason ≠ bufferFull}
      (fun completion : Completion ↦ entryAt countAdded completion.reasons)
      fun completion (_ : completion ∈ sys.history.completed) ↦
        support_entryAt_finite _ completion.reasons).1
    calc ∑ᶠ reason ∈ {reason | reason ≠ bufferFull}, sys.dropped reason
      _ = ∑ᶠ reason ∈ {reason | reason ≠ bufferFull}, (sys.history.completed.map
            fun completion ↦ entryAt countAdded completion.reasons reason).sum := by
        refine finsum_mem_congr rfl fun reason hreason ↦ ?_
        rw [htally.dropped reason hreason, History.added]
        congr 1
        exact List.map_congr_left fun completion _ ↦ hentry completion reason
      _ = _ := hsummed
      _ = (sys.history.completed.map Completion.addedCount).sum := by
        congr 1
        exact List.map_congr_left fun completion _ ↦
          finsum_mem_entryAt _ {reason | reason ≠ bufferFull} completion.nodupKeys_reasons

/-! ### When the counters are true -/

/-- The tallies of a list of completed flushes are what their responses say. -/
def TalliesTrue (completed : List Completion) : Prop :=
  (((completed.map Completion.sentCount).sum : ℕ) : ℤ) = (completed.map Completion.accepted).sum ∧
    (((completed.map Completion.addedCount).sum : ℕ) : ℤ) =
      (completed.map Completion.droppedCount).sum

theorem countersTrue_iff_talliesTrue {sys : System} (hreach : batcherMachine.Reachable sys) :
    sys.CountersTrue ↔ TalliesTrue sys.history.completed := by
  unfold System.CountersTrue TalliesTrue
  rw [(counters_tally hreach).1, (counters_tally hreach).2]

/-- Reasons that add up to nothing add nothing. -/
theorem Completion.addedCount_eq_zero {completion : Completion}
    (hreasons : ∀ entry ∈ completion.reasons, 0 ≤ entry.2)
    (hnothing : (completion.reasons.map Sigma.snd).sum = 0) : completion.addedCount = 0 := by
  have hzero : ∀ entry ∈ completion.reasons, entry.2 = 0 := by
    have hnonneg : ∀ count ∈ completion.reasons.map Sigma.snd, 0 ≤ count :=
      List.forall_mem_map.mpr hreasons
    intro entry hentry
    have hle := List.single_le_sum hnonneg _ (List.mem_map_of_mem hentry)
    exact le_antisymm (hle.trans hnothing.le) (hreasons entry hentry)
  refine List.sum_eq_zero fun count hcount ↦ ?_
  obtain ⟨entry, hentry, rfl⟩ := List.mem_map.mp hcount
  rw [hzero entry (List.mem_of_mem_filter hentry)]
  exact natToDouble_zero

/-- One more flush keeps the tallies true exactly when its response drops nothing. -/
theorem talliesTrue_concat {completed : List Completion} {completion : Completion}
    (hconsistent : completion.Consistent)
    (hreasons : ∀ entry ∈ completion.reasons, 0 ≤ entry.2) (htrue : TalliesTrue completed) :
    TalliesTrue (completed ++ [completion]) ↔ completion.droppedCount = 0 := by
  obtain ⟨hsent, hdropped⟩ := htrue
  simp only [TalliesTrue, List.map_append, List.map_singleton, List.sum_append, List.sum_singleton]
  cases houtcome : completion.outcome with
  | ok res =>
    have hok : completion.succeeded = true := by rw [Completion.succeeded, houtcome]; rfl
    have hwhole : completion.sentCount = completion.batch.events.length := by
      rw [Completion.sentCount, houtcome]
    obtain ⟨hcounts, hreported⟩ := hconsistent hok
    constructor
    · rintro ⟨hsent', -⟩
      omega
    · intro hnothing
      have hreasonless : (completion.reasons.map Sigma.snd).sum = 0 := by
        by_cases hempty : completion.reasons = []
        · simp [hempty]
        · rw [hreported hempty, hnothing]
      have hadded := Completion.addedCount_eq_zero hreasons hreasonless
      constructor <;> omega
  | error text =>
    have hsentNone : completion.sentCount = 0 := by rw [Completion.sentCount, houtcome]
    have hacceptedNone : completion.accepted = 0 := by rw [Completion.accepted, houtcome]
    have hdroppedNone : completion.droppedCount = 0 := by rw [Completion.droppedCount, houtcome]
    have hadded : completion.addedCount = 0 := by
      rw [Completion.addedCount, Completion.reasons, houtcome]
      rfl
    refine iff_of_true ⟨?_, ?_⟩ hdroppedNone <;> omega

/-- A step completes one flush or none. -/
theorem completed_of_transition {sys next : System} {action : Action}
    (hstep : Transition sys action next) :
    next.history.completed = sys.history.completed ∨
      ∃ completion, next.history.completed = sys.history.completed ++ [completion] := by
  cases hstep with
  | completed => exact Or.inr ⟨_, rfl⟩
  | _ => exact Or.inl rfl

/-- For every run with any clients whose successful responses add up, the counters are true in every
state of the run exactly when no successful response of the run reports a drop. Assumes: a run from
the start, with consistent responses. -/
theorem counters_true_iff_nothing_dropped {opts : List BatcherOption} {rotation : Rotation}
    {actions : List Action} {last : System}
    (hrun : batcherMachine.replay (System.initial opts rotation) actions = some last)
    (hconsistent : ∀ completion ∈ last.history.completed, completion.Consistent) :
    (∀ begun state, begun <+: actions →
      batcherMachine.replay (System.initial opts rotation) begun = some state →
        state.CountersTrue) ↔
      ∀ completion ∈ last.history.completed, completion.droppedCount = 0 := by
  induction actions using List.reverseRecOn generalizing last with
  | nil =>
    obtain rfl : System.initial opts rotation = last := by simpa [Machine.replay] using hrun
    have htrue : (System.initial opts rotation).CountersTrue :=
      (countersTrue_iff_talliesTrue (.start ⟨opts, rotation, rfl⟩)).mpr ⟨rfl, rfl⟩
    refine iff_of_true (fun begun state hbegun hstate ↦ ?_) (by simp [System.initial])
    rw [List.prefix_nil.mp hbegun] at hstate
    obtain rfl : System.initial opts rotation = state := by simpa [Machine.replay] using hstate
    exact htrue
  | append_singleton actions action ih =>
    obtain ⟨before, hbefore, hstep⟩ := Machine.replay_concat.mp hrun
    have hreach := reachable_of_run hrun
    have htransition := completed_of_transition (transition_of_step hstep)
    have hsubset : ∀ completion ∈ before.history.completed,
        completion ∈ last.history.completed := by
      rcases htransition with hsame | ⟨added, hadded⟩
      · exact fun completion hmem ↦ hsame ▸ hmem
      · exact fun completion hmem ↦ hadded ▸ List.mem_append_left _ hmem
    have hearlier := ih hbefore fun completion hmem ↦
      hconsistent completion (hsubset completion hmem)
    rw [Machine.forall_states_concat hrun, hearlier, countersTrue_iff_talliesTrue hreach]
    have htrue : (∀ completion ∈ before.history.completed, completion.droppedCount = 0) →
        TalliesTrue before.history.completed := by
      intro hnothing
      exact (countersTrue_iff_talliesTrue (reachable_of_run hbefore)).mp
        (hearlier.mpr hnothing actions before (List.prefix_refl _) hbefore)
    rcases htransition with hsame | ⟨added, hadded⟩
    · rw [hsame]
      exact and_iff_left_of_imp htrue
    · have hmem : added ∈ last.history.completed := by simp [hadded]
      have hadd : TalliesTrue before.history.completed →
          (TalliesTrue (before.history.completed ++ [added]) ↔ added.droppedCount = 0) :=
        talliesTrue_concat (hconsistent added hmem) ((counterTally hreach).reasons added hmem)
      rw [hadded, List.forall_mem_append, List.forall_mem_singleton]
      exact and_congr_right fun hnothing ↦ hadd (htrue hnothing)

/-- One event and one flush the server accepts: the counters are true throughout. -/
theorem counters_true_iff_nothing_dropped_accepted : ∃ last,
    batcherMachine.replay (System.initial [] bootstrap)
      (enqueueRun [podStarted] ++ flushRun .receiveTick (.ok { accepted := 1 })) = some last ∧
    (∀ completion ∈ last.history.completed, completion.Consistent) ∧
    last.CountersTrue := by
  have hrun : ∃ last, batcherMachine.replay (System.initial [] bootstrap)
      (enqueueRun [podStarted] ++ flushRun .receiveTick (.ok { accepted := 1 })) = some last ∧
      (∀ completion ∈ last.history.completed, completion.Consistent) ∧
      ∀ completion ∈ last.history.completed, completion.droppedCount = 0 :=
    ⟨_, rfl, List.forall_mem_singleton.mpr fun _ ↦ ⟨rfl, fun hsome ↦ absurd rfl hsome⟩,
      List.forall_mem_singleton.mpr rfl⟩
  obtain ⟨last, hreplay, hconsistent, hnothing⟩ := hrun
  exact ⟨last, hreplay, hconsistent,
    (counters_true_iff_nothing_dropped hreplay hconsistent).mpr hnothing _ last
      (List.prefix_refl _) hreplay⟩

/-- Without an API key the dropping stub drops the one event: it is counted as sent, and in no
dropped counter. -/
theorem dropped_event_counted_as_sent : ∃ last,
    batcherMachine.replay (System.initial [] { apiKey := "", workspaceID := "" })
      (enqueueRun [podStarted] ++ flushRun .receiveTick (.error "unused")) = some last ∧
    (∀ completion ∈ last.history.completed, completion.Consistent ∧ completion.accepted = 0 ∧
      completion.droppedCount = 1) ∧
    ∑ kind, last.sent kind = 1 ∧ (∀ reason, last.dropped reason = 0) ∧ ¬ last.CountersTrue := by
  have hrun : ∃ last, batcherMachine.replay
      (System.initial [] { apiKey := "", workspaceID := "" })
      (enqueueRun [podStarted] ++ flushRun .receiveTick (.error "unused")) = some last ∧
      (∀ completion ∈ last.history.completed, completion.Consistent ∧ completion.accepted = 0 ∧
        completion.droppedCount = 1) ∧
      (∑ kind, last.sent kind = 1) ∧ (∀ reason, last.dropped reason = 0) ∧
      (last.history.completed.map Completion.accepted).sum = 0 :=
    ⟨_, rfl, List.forall_mem_singleton.mpr ⟨fun _ ↦ ⟨rfl, fun hsome ↦ absurd rfl hsome⟩, rfl, rfl⟩,
      by decide, fun _ ↦ rfl, rfl⟩
  obtain ⟨last, hreplay, hresponses, hsent, hdropped, haccepted⟩ := hrun
  refine ⟨last, hreplay, hresponses, hsent, hdropped, fun htrue ↦ ?_⟩
  have hfirst := htrue.1
  rw [hsent, haccepted] at hfirst
  exact absurd hfirst (by decide)

end IncidentaryOperator.Batch
