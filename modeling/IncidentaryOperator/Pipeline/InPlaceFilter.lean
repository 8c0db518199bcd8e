import IncidentaryOperator.Batch.Batcher
import IncidentaryOperator.Foundation.Slices
import IncidentaryOperator.Pipeline.Handler

/-!
# The filter in place

`emit` of `cmd/pipeline.go` once more, at the level of the memory it works on. It appends the events
that pass to `events[:0]`, the array it is reading, and calls `Enqueue` with what was kept. The
dispatcher is an interface, so here it is any: it may panic, fail, or return any slice of events,
and the kind and the severity of an event are any texts. The threshold is any integer.

`Emits` says what comes of it. `emit_refined` connects the two levels: with the mapper as
the dispatcher, the filter in place makes the call of `Enqueue` and the additions to the counters
that the filter on lists of `Pipeline.Handler` stands for.

`Enqueue` is a parameter, a function of the state of the batcher and the events it is called with,
so that a call with no events would show. The option is the panic of an index out of range, which
the deferred function would recover from like one of the dispatcher; there is none.
-/

set_option autoImplicit false
set_option relaxedAutoImplicit false

namespace IncidentaryOperator.Pipeline

open Foundation WireFormat Kubernetes FilterPolicy Mapper Batch

/-! ### Events of any dispatcher -/

/-- An event of any dispatcher: the texts of its kind and its severity, and the rest, which is
passed on. -/
structure AnyEvent (Payload : Type) where
  kind : String
  severity : String
  payload : Payload

variable {Payload BatcherState : Type}

/-- `Kind.Domain` of a text. -/
def domainOfText (text : String) : Domain :=
  if hasPrefix text "K8S_" || hasPrefix text "CLOUD_" then .infrastructure
  else if hasPrefix text "DEPLOY_" then .deployment
  else if hasPrefix text "INCIDENT_" then .incident
  else .application

/-- `IsTier1` of a text. -/
def isTier1Text (text : String) : Bool :=
  text ∈ tier1Kinds.map Kind.text

/-- `Filter.Accept`. -/
def acceptAny (minSeverity : ℤ) (ev : AnyEvent Payload) : Bool :=
  if domainOfText ev.kind = .deployment then true
  else if isTier1Text ev.kind then true
  else ((parseSeverity ev.severity).rank : ℤ) ≥ minSeverity

/-- Counts a filtered event under its tier. -/
def countFiltered (filtered : CounterVec String) (ev : AnyEvent Payload) : CounterVec String :=
  filtered.add (if isTier1Text ev.kind then "tier1" else "tier2") 1

/-! ### One call -/

/-- What `Dispatch` does: it panics, returns an error, or returns a slice of events, which lies
within its array. -/
inductive Dispatched (Payload : Type)
  | panicked
  | failed (err : String)
  | returned (heap : Heap (AnyEvent Payload)) (events : Slice) (hwithin : events.Within heap)

/-- What a call changes: the batcher, and the counters of filtered events by tier. -/
structure Sink (BatcherState : Type) where
  batcher : BatcherState
  filtered : CounterVec String

/-- `emit`, with the loop on the array the dispatcher returned. -/
def emitInPlace (minSeverity : ℤ)
    (enqueue : BatcherState → List (AnyEvent Payload) → BatcherState) (sink : Sink BatcherState) :
    Dispatched Payload → Option (Sink BatcherState)
  | .panicked => some sink
  | .failed _ => some sink
  | .returned heap events _ =>
    if events.len = 0 then some sink
    else do
      let final ← filterInPlace (acceptAny minSeverity) countFiltered events heap sink.filtered
      if final.out.len = 0 then return { sink with filtered := final.acc }
      else
        return { batcher := enqueue sink.batcher (final.heap.contents final.out)
                 filtered := final.acc }

/-! ### What passes -/

/-- The texts of the kinds of tier one. -/
def tier1Texts : List String :=
  ["K8S_POD_CRASH", "K8S_OOM_KILL", "K8S_EVICTION", "K8S_SCHEDULE_FAIL", "K8S_IMAGE_PULL_FAIL",
    "K8S_NODE_PRESSURE", "K8S_HPA_SCALE"]

/-- The texts of the severities, from the lowest to the highest. -/
def severityOrder : List String :=
  ["trace", "debug", "info", "warning", "error", "fatal"]

/-- The place of a severity in the order; a text that is none counts as a warning. -/
def severityPlace (text : String) : ℕ :=
  severityOrder.idxOf (if text ∈ severityOrder then text else "warning")

/-- The events that always pass or are severe enough: a kind of the form `DEPLOY_*`, a kind of tier
one, or a severity at the threshold or above. -/
def Passes (minSeverity : ℤ) (ev : AnyEvent Payload) : Prop :=
  "DEPLOY_".toList <+: ev.kind.toList ∨ ev.kind ∈ tier1Texts ∨
    minSeverity ≤ severityPlace ev.severity

instance (minSeverity : ℤ) (ev : AnyEvent Payload) : Decidable (Passes minSeverity ev) := by
  unfold Passes
  infer_instance

theorem domainOfText_eq_deployment_iff (text : String) :
    domainOfText text = .deployment ↔ "DEPLOY_".toList <+: text.toList := by
  unfold domainOfText hasPrefix
  by_cases hdeploy : "DEPLOY_".toList <+: text.toList
  · have hk8s : "K8S_".toList.isPrefixOf text.toList = false := by
      obtain ⟨rest, hrest⟩ := hdeploy
      rw [← hrest]
      rfl
    have hcloud : "CLOUD_".toList.isPrefixOf text.toList = false := by
      obtain ⟨rest, hrest⟩ := hdeploy
      rw [← hrest]
      rfl
    rw [hk8s, hcloud, List.isPrefixOf_iff_prefix.mpr hdeploy]
    exact iff_of_true rfl hdeploy
  · have hfalse : "DEPLOY_".toList.isPrefixOf text.toList = false :=
      Bool.eq_false_iff.mpr fun htrue ↦ hdeploy (List.isPrefixOf_iff_prefix.mp htrue)
    rw [hfalse]
    split_ifs <;> simp_all

/-- The filter's kinds of tier one are those. -/
theorem map_text_tier1Kinds : tier1Kinds.map Kind.text = tier1Texts :=
  rfl

/-- The filter's levels are the places in the order. -/
theorem rank_parseSeverity (text : String) :
    (parseSeverity text).rank = severityPlace text := by
  by_cases hknown : text ∈ severityOrder
  · have htexts : ∀ known ∈ severityOrder, (parseSeverity known).rank = severityPlace known := by
      decide
    exact htexts text hknown
  · have hother : ∀ known ∈ severityOrder, text ≠ known := by
      rintro known hmem rfl
      exact hknown hmem
    simp only [severityOrder, List.forall_mem_cons] at hother
    simp only [severityPlace, if_neg hknown, parseSeverity, Severity.text, hother, if_false]
    decide

theorem acceptAny_iff (minSeverity : ℤ) (ev : AnyEvent Payload) :
    acceptAny minSeverity ev = true ↔ Passes minSeverity ev := by
  unfold acceptAny Passes isTier1Text
  rw [← domainOfText_eq_deployment_iff, map_text_tier1Kinds, rank_parseSeverity]
  split_ifs with hdeploy htier
  · simp [hdeploy]
  · simp [of_decide_eq_true htier]
  · have htier : ev.kind ∉ tier1Texts := by simpa using htier
    simp only [hdeploy, htier, false_or, ge_iff_le, decide_eq_true_eq]

theorem acceptAny_eq (minSeverity : ℤ) :
    @acceptAny Payload minSeverity = fun ev ↦ decide (Passes minSeverity ev) := by
  funext ev
  rw [Bool.eq_iff_iff, acceptAny_iff, decide_eq_true_iff]

/-! ### The counters -/

/-- Events that are not of tier one are counted under the other label. -/
theorem foldl_countFiltered (filtered : CounterVec String) {events : List (AnyEvent Payload)}
    (htier : ∀ ev ∈ events, isTier1Text ev.kind = false) :
    events.foldl countFiltered filtered = filtered.add "tier2" events.length := by
  induction events generalizing filtered with
  | nil => exact (CounterVec.add_zero filtered "tier2").symm
  | cons ev rest ih =>
    rw [List.foldl_cons, ih _ fun other hother ↦ htier other (List.mem_cons_of_mem _ hother)]
    unfold countFiltered
    rw [htier ev List.mem_cons_self, if_neg Bool.false_ne_true, CounterVec.add_add,
      List.length_cons, Nat.add_comm]

theorem not_tier1_of_rejected {minSeverity : ℤ} {ev : AnyEvent Payload}
    (hrejected : ¬ Passes minSeverity ev) : isTier1Text ev.kind = false := by
  unfold Passes at hrejected
  unfold isTier1Text
  rw [map_text_tier1Kinds, decide_eq_false_iff_not]
  exact fun htier ↦ hrejected (.inr (.inl htier))

/-! ### The call as a whole -/

/-- What a call should leave behind: nothing changed if the dispatcher panicked or failed, and
otherwise one `Enqueue` of the events that pass, if there are any, and the others counted, none of
them under tier one. -/
def Emits (minSeverity : ℤ) (enqueue : BatcherState → List (AnyEvent Payload) → BatcherState)
    (sink after : Sink BatcherState) : Dispatched Payload → Prop
  | .panicked => after = sink
  | .failed _ => after = sink
  | .returned heap events _ =>
    let offered := (heap.contents events).filter fun ev ↦ Passes minSeverity ev
    let rejected := (heap.contents events).filter fun ev ↦ ¬ Passes minSeverity ev
    after.batcher = (if offered = [] then sink.batcher else enqueue sink.batcher offered) ∧
      after.filtered = sink.filtered.add "tier2" rejected.length

theorem filterInPlace_accept {minSeverity : ℤ} {heap : Heap (AnyEvent Payload)} {events : Slice}
    (hwithin : events.Within heap) (filtered : CounterVec String) :
    ∃ final, filterInPlace (acceptAny minSeverity) countFiltered events heap filtered = some final ∧
      final.heap.contents final.out =
        (heap.contents events).filter (fun ev ↦ Passes minSeverity ev) ∧
      final.out.len = ((heap.contents events).filter fun ev ↦ Passes minSeverity ev).length ∧
      final.acc = filtered.add "tier2"
        ((heap.contents events).filter fun ev ↦ ¬ Passes minSeverity ev).length := by
  obtain ⟨final, hfinal, hcontents, hlen, hacc, -⟩ :=
    @filterInPlace_eq _ _ (acceptAny minSeverity) countFiltered events heap filtered hwithin
  simp only [acceptAny_eq, ← decide_not] at hcontents hlen hacc
  refine ⟨final, hfinal, hcontents, hlen, hacc.trans (foldl_countFiltered filtered ?_)⟩
  intro ev hev
  exact not_tier1_of_rejected (of_decide_eq_true (List.mem_filter.mp hev).2)

/-- What a call with returned events leaves behind. -/
theorem emitInPlace_returned (minSeverity : ℤ)
    (enqueue : BatcherState → List (AnyEvent Payload) → BatcherState) (sink : Sink BatcherState)
    {heap : Heap (AnyEvent Payload)} {events : Slice} (hwithin : events.Within heap) :
    emitInPlace minSeverity enqueue sink (.returned heap events hwithin) =
      some
        { batcher :=
            if ((heap.contents events).filter fun ev ↦ Passes minSeverity ev) = [] then sink.batcher
            else enqueue sink.batcher
              ((heap.contents events).filter fun ev ↦ Passes minSeverity ev)
          filtered := sink.filtered.add "tier2"
            ((heap.contents events).filter fun ev ↦ ¬ Passes minSeverity ev).length } := by
  unfold emitInPlace
  dsimp only
  by_cases hempty : events.len = 0
  · have hcontents : heap.contents events = [] := by
      rw [Heap.contents, hempty, List.take_zero]
    rw [if_pos hempty, hcontents, List.filter_nil, if_pos rfl, List.filter_nil, List.length_nil,
      CounterVec.add_zero]
  · obtain ⟨final, hfinal, hcontents, hlen, hacc⟩ :=
      @filterInPlace_accept _ minSeverity _ _ hwithin sink.filtered
    rw [if_neg hempty, hfinal, ← hacc]
    by_cases hnone : final.out.len = 0
    · rw [hnone] at hlen
      rw [if_pos (List.length_eq_zero_iff.mp hlen.symm)]
      simp [hnone]
    · rw [if_neg fun hnil ↦ hnone (by rw [hlen, hnil, List.length_nil]), ← hcontents]
      simp [hnone]

/-- The filter in place offers exactly the events that pass, in order, and counts the others. A
call in which the dispatcher fails or panics changes nothing. -/
theorem emit_in_place (minSeverity : ℤ)
    (enqueue : BatcherState → List (AnyEvent Payload) → BatcherState) (sink : Sink BatcherState)
    (dispatched : Dispatched Payload) :
    ∃ after, emitInPlace minSeverity enqueue sink dispatched = some after ∧
      Emits minSeverity enqueue sink after dispatched := by
  cases dispatched with
  | panicked => exact ⟨sink, rfl, rfl⟩
  | failed err => exact ⟨sink, rfl, rfl⟩
  | returned heap events hwithin =>
    exact ⟨_, emitInPlace_returned minSeverity enqueue sink hwithin, rfl, rfl⟩

/-! ### The mapper as the dispatcher -/

/-- An event of the mapper. -/
def anyEvent (ev : Event) : AnyEvent Event where
  kind := ev.kind.text
  severity := ev.severity.text
  payload := ev

/-- What the mapper returned, its events in an array of their own. -/
def dispatchedBy : Except String (List Event) → Dispatched Event
  | .error err => .failed err
  | .ok events =>
    .returned [events.map anyEvent]
      { array := 0, offset := 0, len := events.length, cap := events.length }
      ⟨le_rfl, _, rfl, by simp⟩

/-- The call of `Enqueue`, as a step of the batcher's machine. -/
def offer (sys : System) (events : List (AnyEvent Event)) : System :=
  sys.noteCall (events.map AnyEvent.payload)

theorem isTier1Text_text (kind : Kind) : isTier1Text kind.text = isTier1 kind := by
  cases kind <;> decide

theorem passes_anyEvent (f : SeverityFilter) (ev : Event) :
    Passes f.minSeverity.rank (anyEvent ev) ↔ f.accept ev = true := by
  rw [← acceptAny_iff]
  unfold acceptAny SeverityFilter.accept anyEvent
  dsimp only
  rw [isTier1Text_text]
  have hdomain : domainOfText ev.kind.text = ev.kind.domain := rfl
  rw [hdomain]
  simp

theorem filter_passes_map (f : SeverityFilter) (events : List Event) :
    ((events.map anyEvent).filter fun ev ↦ Passes f.minSeverity.rank ev) =
      (events.filter f.accept).map anyEvent := by
  rw [List.filter_map]
  congr 2
  funext ev
  rw [Function.comp_apply, Bool.eq_iff_iff, decide_eq_true_iff, passes_anyEvent]

theorem filter_not_passes_map (f : SeverityFilter) (events : List Event) :
    ((events.map anyEvent).filter fun ev ↦ ¬ Passes f.minSeverity.rank ev) =
      (events.filter fun ev ↦ !f.accept ev).map anyEvent := by
  rw [List.filter_map]
  congr 2
  funext ev
  rw [Function.comp_apply, Bool.eq_iff_iff, decide_eq_true_iff, passes_anyEvent, Bool.not_eq_true',
    Bool.not_eq_true]

/-- The labels of the filter on lists, counted one by one. -/
theorem foldl_tierLabel (f : SeverityFilter) (events : List Event) (filtered : CounterVec String) :
    ((events.filter fun ev ↦ !f.accept ev).map tierLabel).foldl
        (fun counters label ↦ counters.add label 1) filtered =
      filtered.add "tier2" (events.filter fun ev ↦ !f.accept ev).length := by
  have hlabel : ∀ (counters : CounterVec String) (ev : Event),
      counters.add (tierLabel ev) 1 = countFiltered counters (anyEvent ev) := by
    intro counters ev
    unfold countFiltered tierLabel anyEvent
    rw [isTier1Text_text]
  have hcount := @foldl_countFiltered Event filtered
    ((events.filter fun ev ↦ !f.accept ev).map anyEvent) (by
      intro ev hev
      rw [← filter_not_passes_map] at hev
      exact not_tier1_of_rejected (of_decide_eq_true (List.mem_filter.mp hev).2))
  rw [List.foldl_map, List.length_map] at hcount
  rw [List.foldl_map, ← hcount]
  simp only [hlabel]

/-- With the mapper as the dispatcher, the filter in place is the filter on lists: it makes the
same call of `Enqueue`, if any, and the same additions to the counters. -/
theorem emit_refined (rt : Runtime) (reader : Reader) (f : SeverityFilter) (seq : ℕ)
    (oldObj newObj : Option Object) (sys : System) (filtered : CounterVec String) :
    emitInPlace f.minSeverity.rank offer { batcher := sys, filtered := filtered }
        (dispatchedBy (dispatch rt reader seq oldObj newObj)) =
      some
        { batcher :=
            if (emit rt reader f seq oldObj newObj).enqueued = [] then sys
            else sys.noteCall (emit rt reader f seq oldObj newObj).enqueued
          filtered := (emit rt reader f seq oldObj newObj).filtered.foldl
            (fun counters label ↦ counters.add label 1) filtered } := by
  unfold emit
  cases dispatch rt reader seq oldObj newObj with
  | error err => rfl
  | ok events =>
    have hcontents : Heap.contents [events.map anyEvent]
        { array := 0, offset := 0, len := events.length, cap := events.length } =
          events.map anyEvent := by
      simp [Heap.contents]
    have hpayload : (AnyEvent.payload ∘ anyEvent : Event → Event) = id := rfl
    dsimp only [dispatchedBy]
    rw [emitInPlace_returned, hcontents, filter_passes_map, filter_not_passes_map,
      foldl_tierLabel, List.length_map]
    simp only [List.map_eq_nil_iff, offer, List.map_map, hpayload, List.map_id]

end IncidentaryOperator.Pipeline
