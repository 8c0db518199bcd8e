import IncidentaryOperator.Informers.EventOrder

/-!
# Every event is accounted for

From the mapper to the clients: an event that `Dispatch` returned is counted as filtered, or is in
an `Enqueue` call, or is counted under `buffer_full`, or is downstream of `Enqueue`, that is in the
buffer, on its way or handed to a client. `returned_events_accounted` adds these up in every state
of every interleaving of the fourteen informers with the loop, so the two counters and the queue
lengths tell exactly how many of these events never reached a client.

What a `Dispatch` that fails had built is in none of these places, and in no counter.
-/

set_option autoImplicit false
set_option relaxedAutoImplicit false

namespace IncidentaryOperator.Informers

open Foundation WireFormat Kubernetes FilterPolicy Mapper Pipeline Batch

variable {rt : Runtime} {f : SeverityFilter} {op : Operator}

/-- The labels a callback counted filtered events under. -/
def Handled.filtered (rt : Runtime) (f : SeverityFilter) (handled : Handled) : List String :=
  match handled.callback.notification with
  | none => []
  | some notification => (handle rt handled.reader f handled.seq notification).filtered

/-- `EventsFilteredTotal`, by label. -/
def Operator.filteredTotal (rt : Runtime) (f : SeverityFilter) (op : Operator) :
    CounterVec String :=
  fun label ↦ ((op.handled.map Prod.snd).flatMap (Handled.filtered rt f)).count label

/-- Every label `emit` counts a filtered event under is that of tier two. -/
theorem handle_filtered_tier2 (reader : Reader) (seq : ℕ) (notification : Notification) :
    ∀ label ∈ (handle rt reader f seq notification).filtered, label = "tier2" := by
  intro label hlabel
  unfold handle emit at hlabel
  split at hlabel
  · exact absurd hlabel List.not_mem_nil
  · obtain ⟨ev, hev, rfl⟩ := List.mem_map.mp hlabel
    have hrejected : f.accept ev = false := by simpa using (List.mem_filter.mp hev).2
    unfold tierLabel
    rw [if_neg fun htier ↦ ?_]
    exact absurd ((accept_of_isTier1 f htier).symm.trans hrejected) (by decide)

/-- Every event the mapper returned is enqueued or counted as filtered. -/
theorem length_enqueued_add_filtered (rt : Runtime) (reader : Reader) (f : SeverityFilter) (seq : ℕ)
    (notification : Notification) :
    (handle rt reader f seq notification).enqueued.length +
        (handle rt reader f seq notification).filtered.length =
      dispatchedCount rt reader seq notification := by
  unfold dispatchedCount handle emit
  cases dispatch rt reader seq notification.oldObj notification.newObj with
  | error text => rfl
  | ok events =>
    simp only [returned, List.length_map]
    exact (List.length_eq_length_filter_add f.accept).symm

theorem length_accepted_add_filtered (rt : Runtime) (f : SeverityFilter) (handled : Handled) :
    (handled.accepted rt f).length + (handled.filtered rt f).length =
      (handled.returned rt).length := by
  unfold Handled.accepted Handled.filtered Handled.returned
  cases handled.callback.notification with
  | none => rfl
  | some notification => exact length_enqueued_add_filtered rt _ f _ notification

theorem Handled.filtered_tier2 {handled : Handled} :
    ∀ label ∈ handled.filtered rt f, label = "tier2" := by
  unfold Handled.filtered
  split
  · simp
  · exact handle_filtered_tier2 _ _ _

/-- The labels of all callbacks are those of tier two. -/
theorem forall_mem_filtered :
    ∀ label ∈ (op.handled.map Prod.snd).flatMap (Handled.filtered rt f), label = "tier2" := by
  intro label hlabel
  obtain ⟨handled, -, hmem⟩ := List.mem_flatMap.mp hlabel
  exact Handled.filtered_tier2 label hmem

/-- The events the mapper returned are accepted or filtered. -/
theorem length_accepted_add_filteredTotal (rt : Runtime) (f : SeverityFilter) (op : Operator) :
    (op.accepted rt f).length + op.filteredTotal rt f "tier2" = (op.returned rt).length := by
  have htotal : op.filteredTotal rt f "tier2" =
      ((op.handled.map Prod.snd).flatMap (Handled.filtered rt f)).length :=
    List.count_eq_length.mpr fun label hlabel ↦ (forall_mem_filtered label hlabel).symm
  rw [htotal, Operator.returned, Operator.accepted, List.length_map]
  generalize op.handled = handled
  induction handled with
  | nil => rfl
  | cons entry rest ih =>
    have hentry := length_accepted_add_filtered rt f entry.2
    simp only [List.map_cons, List.flatMap_cons, spread_cons, List.length_append, List.length_map]
    omega

/-- Every event that `Dispatch` returned is in one place. In every reachable state, the events
counted as filtered, those counted under `buffer_full`, those of calls that have not come to the
buffer or the counter, and those in the buffer, on their way or handed over add up to the events
returned and what the flushes added under `buffer_full`; and no filtered event was of tier one.
Assumes: the state is reachable. -/
theorem returned_events_accounted (hreach : (pipelineMachine rt f).Reachable op) :
    op.filteredTotal rt f "tier1" = 0 ∧
      op.filteredTotal rt f "tier2" + op.system.dropped bufferFull + outstanding op.system.calls +
          (downstream op.system).length =
        (op.returned rt).length + op.system.history.added bufferFull := by
  have hsystem := reachable_system hreach
  constructor
  · refine List.count_eq_zero.mpr fun hmem ↦ ?_
    exact absurd (forall_mem_filtered _ hmem) (by decide)
  · have hbalance := bufferFull_balance hsystem
    have hdownstream : (downstream op.system).length = op.system.history.admitted.length :=
      congrArg List.length (handed_pending_buffer_eq_admitted hsystem)
    have hcounted := (attributed hreach).counted
    have hfiltered := length_accepted_add_filteredTotal rt f op
    omega

/-- The two events of the crossing callbacks are in the buffer, and one call has not returned. -/
theorem returned_events_accounted_crossed :
    ∃ op, crossed = some op ∧ (op.returned growingIds).length = 2 ∧
      op.filteredTotal growingIds (newFromString "warning") "tier2" +
          op.system.dropped bufferFull + outstanding op.system.calls +
          (downstream op.system).length =
        (op.returned growingIds).length + op.system.history.added bufferFull := by
  have hlength : crossed.map (fun op ↦ (op.returned growingIds).length) = some 2 := by decide
  obtain ⟨op, hop, hlength⟩ := Option.map_eq_some_iff.mp hlength
  exact ⟨op, hop, hlength, (returned_events_accounted (reachable_crossed hop)).2⟩

end IncidentaryOperator.Informers
