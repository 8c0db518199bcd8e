import IncidentaryOperator.Informers.Manager
import IncidentaryOperator.Mapper.EventIds

/-!
# Events from the informers to the server

Fourteen informers enqueue at the same time while the loop flushes. Whatever the interleaving, what
is handed to clients, waits to be handed or is in the buffer is a merge of what the callbacks of the
informers had accepted: what an informer's callbacks accepted is, in the order they ran, what its
calls admitted to the buffer, what they shed, and what still waits for the lock
(`informer_order_kept`). What they shed is what the operator counts under `buffer_full`.

The ids of the events are those of different numbers, so no two events of the merge share an id when
the source of ids never repeats one (`nodup_ids_downstream`).
-/

set_option autoImplicit false
set_option relaxedAutoImplicit false

namespace IncidentaryOperator.Informers

open Foundation WireFormat Kubernetes FilterPolicy Mapper Pipeline Batch

variable {rt : Runtime} {f : SeverityFilter}

/-! ### The events of each informer -/

/-- The events of a call that has not taken the lock. -/
def waitingEvents : EnqueueCall → List Event
  | .called events => events
  | _ => []

/-- The lists of the lock sections, by informer. -/
def Operator.offered (op : Operator) : List (Informer × Event) :=
  spread Admission.offered (op.admitters.zip op.system.history.admissions)

/-- What was admitted of them. -/
def Operator.admitted (op : Operator) : List (Informer × Event) :=
  spread Admission.admitted (op.admitters.zip op.system.history.admissions)

/-- The events of the calls that have not taken the lock, by informer. -/
def Operator.waiting (op : Operator) : List (Informer × Event) :=
  spread waitingEvents (op.owners.zip op.system.calls)

/-- The events the callbacks passed to `Enqueue`, by informer. -/
def Operator.accepted (rt : Runtime) (f : SeverityFilter) (op : Operator) :
    List (Informer × Event) :=
  spread (Handled.accepted rt f) op.handled

/-- Every call and every lock section has its informer, an informer has one call at a time, and what
an informer's calls offered, with what waits for the lock, is what its callbacks accepted. -/
structure Attributed (rt : Runtime) (f : SeverityFilter) (op : Operator) : Prop where
  calls : op.owners.length = op.system.calls.length
  single : op.owners.Nodup
  sections : op.admitters.length = op.system.history.admissions.length
  nonempty : ∀ events, EnqueueCall.called events ∈ op.system.calls → events ≠ []
  counted : op.system.history.offered = (op.accepted rt f).length
  order : ∀ informer, part informer (op.offered ++ op.waiting) =
    part informer (op.accepted rt f)

/-! ### One step -/

/-- The lock section of a call whose list is not empty. -/
theorem lock_effect {sys next : Batch.System} {index : ℕ}
    (hstep : Transition sys (.lock index) next)
    (hnonempty : ∀ events, EnqueueCall.called events ∈ sys.calls → events ≠ []) :
    ∃ events admitted call, sys.calls[index]? = some (.called events) ∧
      next.calls = sys.calls.set index call ∧ (∀ list, call ≠ .called list) ∧
      next.history.admissions = sys.history.admissions ++ [⟨events, admitted⟩] ∧
      next.history.offered = sys.history.offered := by
  cases hstep with
  | returnedEmpty _ hcall => exact absurd rfl (hnonempty [] (List.mem_of_getElem? hcall))
  | shed _ events hcall hevents hfull =>
    exact ⟨events, [], .shedding events.length, hcall, rfl, by simp, rfl, rfl⟩
  | admitted _ events hcall hevents hroom =>
    exact ⟨events, _, .signalling _, hcall, rfl, by simp, rfl, rfl⟩

/-- The end of a call. -/
theorem finish_effect {sys next : Batch.System} {index : ℕ}
    (hstep : Transition sys (.finish index) next) :
    ∃ call, sys.calls[index]? = some call ∧ waitingEvents call = [] ∧
      next.calls = sys.calls.eraseIdx index ∧
      next.history.admissions = sys.history.admissions ∧
      next.history.offered = sys.history.offered := by
  cases hstep with
  | countedShed _ count hcall => exact ⟨_, hcall, rfl, rfl, rfl, rfl⟩
  | signalled _ size hcall => exact ⟨_, hcall, rfl, rfl, rfl, rfl⟩

theorem waitingEvents_eq_nil {call : EnqueueCall} (hcall : ∀ list, call ≠ .called list) :
    waitingEvents call = [] := by
  cases call with
  | called list => exact absurd rfl (hcall list)
  | shedding count => rfl
  | signalling size => rfl

/-- A callback that enqueues nothing. -/
theorem Attributed.note {op : Operator} (hop : Attributed rt f op) (informer : Informer)
    {handled : Handled} (hnone : handled.accepted rt f = []) :
    Attributed rt f (op.note rt informer handled) := by
  have haccepted : (op.note rt informer handled).accepted rt f = op.accepted rt f := by
    simp [Operator.accepted, Operator.note, spread, hnone]
  refine ⟨hop.calls, hop.single, hop.sections, hop.nonempty, ?_, fun other ↦ ?_⟩
  · rw [haccepted]
    exact hop.counted
  · rw [haccepted]
    exact hop.order other

/-- A callback that calls `Enqueue`. -/
theorem Attributed.enqueue {op : Operator} (hop : Attributed rt f op) {informer : Informer}
    (hfree : informer ∉ op.owners) {handled : Handled} (hsome : handled.accepted rt f ≠ []) :
    Attributed rt f ((op.note rt informer handled).enqueue informer (handled.accepted rt f)) := by
  have haccepted : ((op.note rt informer handled).enqueue informer
      (handled.accepted rt f)).accepted rt f =
        op.accepted rt f ++ (handled.accepted rt f).map (Prod.mk informer) := by
    simp [Operator.accepted, Operator.note, Operator.enqueue, spread]
  refine ⟨?_, ?_, hop.sections, ?_, ?_, fun other ↦ ?_⟩
  · simp [Operator.enqueue, Operator.note, System.noteCall, hop.calls]
  · exact List.nodup_append.mpr ⟨hop.single, List.nodup_singleton informer, by
      rintro owner howner _ hlast rfl
      exact hfree (List.mem_singleton.mp hlast ▸ howner)⟩
  · intro events hcall
    rcases List.mem_append.mp hcall with hbefore | hnew
    · exact hop.nonempty events hbefore
    · rw [EnqueueCall.called.inj (List.mem_singleton.mp hnew)]
      exact hsome
  · rw [haccepted, List.length_append, List.length_map, ← hop.counted]
    rfl
  · have hwaiting : ((op.note rt informer handled).enqueue informer
        (handled.accepted rt f)).waiting =
          op.waiting ++ (handled.accepted rt f).map (Prod.mk informer) := by
      simp only [Operator.waiting, Operator.enqueue, Operator.note, System.noteCall]
      rw [List.zip_append hop.calls, spread_append]
      simp [spread, waitingEvents]
    rw [hwaiting, haccepted, ← List.append_assoc, part_append, part_append other (op.accepted rt f),
      ← hop.order other]
    rfl

/-- A lock section: the list moves from the waiting events of its informer to the offered ones. -/
theorem Attributed.locked {op : Operator} (hop : Attributed rt f op) {index : ℕ}
    {system : Batch.System} (hstep : Transition op.system (.lock index) system) :
    Attributed rt f (op.locked index system) := by
  obtain ⟨events, admitted, call, hcall, hcalls, hnew, hadmissions, hoffers⟩ :=
    lock_effect hstep hop.nonempty
  obtain ⟨informer, before, after, howner, hzip, hset, -⟩ := zip_split hop.calls hcall
  have hsingle :
      ((before ++ (informer, EnqueueCall.called events) :: after).map Prod.fst).Nodup := by
    rw [← hzip, List.map_fst_zip hop.calls.le]
    exact hop.single
  have hsingle' : ((before ++ (informer, call) :: after).map Prod.fst).Nodup := by
    simpa using hsingle
  refine ⟨?_, hop.single, ?_, ?_, hoffers.trans hop.counted, fun other ↦ ?_⟩
  · rw [Operator.locked, hcalls, List.length_set]
    exact hop.calls
  · rw [Operator.locked, hadmissions, howner]
    simp [hop.sections]
  · intro list hlist
    change EnqueueCall.called list ∈ system.calls at hlist
    rw [hcalls] at hlist
    rcases List.mem_or_eq_of_mem_set hlist with hbefore | heq
    · exact hop.nonempty list hbefore
    · exact absurd heq.symm (hnew list)
  · have hoffered : (op.locked index system).offered =
        op.offered ++ events.map (Prod.mk informer) := by
      simp only [Operator.offered, Operator.locked, hadmissions, howner, Option.toList_some]
      rw [List.zip_append hop.sections, spread_append]
      simp [spread]
    have hwaiting : part other op.waiting =
        (if informer = other then events else []) ++
          (part other (before ++ after)).flatMap waitingEvents := by
      rw [Operator.waiting, hzip, part_spread, part_remove hsingle]
      split_ifs <;> simp [waitingEvents]
    have hwaiting' : part other (op.locked index system).waiting =
        (part other (before ++ after)).flatMap waitingEvents := by
      simp only [Operator.waiting, Operator.locked, hcalls]
      rw [hset, part_spread, part_remove hsingle']
      split_ifs <;> simp [waitingEvents_eq_nil hnew]
    have hbefore := hop.order other
    rw [part_append, hwaiting] at hbefore
    rw [part_append, hoffered, part_append, part_map_mk, hwaiting', List.append_assoc]
    exact hbefore

/-- The end of a call. -/
theorem Attributed.finished {op : Operator} (hop : Attributed rt f op) {index : ℕ}
    {system : Batch.System} (hstep : Transition op.system (.finish index) system) :
    Attributed rt f (op.finished index system) := by
  obtain ⟨call, hcall, hdone, hcalls, hadmissions, hoffers⟩ := finish_effect hstep
  obtain ⟨informer, before, after, howner, hzip, -, herase⟩ := zip_split hop.calls hcall
  refine ⟨?_, hop.single.eraseIdx index, ?_, ?_, hoffers.trans hop.counted, fun other ↦ ?_⟩
  · rw [Operator.finished, hcalls, List.length_eraseIdx, List.length_eraseIdx, hop.calls]
  · rw [Operator.finished, hadmissions]
    exact hop.sections
  · intro list hlist
    change EnqueueCall.called list ∈ system.calls at hlist
    rw [hcalls] at hlist
    exact hop.nonempty list (List.mem_of_mem_eraseIdx hlist)
  · have hoffered : (op.finished index system).offered = op.offered := by
      simp only [Operator.offered, Operator.finished, hadmissions]
    have hwaiting : (op.finished index system).waiting = op.waiting := by
      simp only [Operator.waiting, Operator.finished, hcalls, herase, hzip]
      simp [spread, hdone]
    rw [hoffered, hwaiting]
    exact hop.order other

/-- Every reachable state attributes its events to their informers. -/
theorem attributed {op : Operator} (hreach : (pipelineMachine rt f).Reachable op) :
    Attributed rt f op := by
  refine pipeline_invariant ?_ ?_ hreach
  · intro opts rotation
    exact ⟨rfl, List.nodup_nil, rfl, by simp [System.initial], rfl, fun _ ↦ rfl⟩
  · intro op action next hop hprogress
    cases hprogress with
    | ignored informer callback reader hnone => exact hop.note informer hnone
    | called informer callback reader hfree hsome => exact hop.enqueue hfree hsome
    | locked index hstep => exact hop.locked hstep
    | finished index hstep => exact hop.finished hstep
    | other action hstep hsame =>
      refine ⟨?_, hop.single, ?_, ?_, hsame.offered.trans hop.counted, fun informer ↦ ?_⟩
      · rw [hsame.calls]
        exact hop.calls
      · rw [hsame.admissions]
        exact hop.sections
      · rw [hsame.calls]
        exact hop.nonempty
      · have horder := hop.order informer
        simp only [Operator.offered, Operator.waiting, Operator.accepted] at horder ⊢
        rw [hsame.calls, hsame.admissions]
        exact horder

/-! ### The merge -/

/-- The events the callbacks of an informer accepted, in order. -/
def Operator.acceptedBy (rt : Runtime) (f : SeverityFilter) (op : Operator) (informer : Informer) :
    List Event :=
  (part informer op.handled).flatMap (Handled.accepted rt f)

/-- The events of an informer that wait for the lock. -/
def Operator.waitingOf (op : Operator) (informer : Informer) : List Event :=
  part informer op.waiting

/-- The events that were handed to clients, wait to be handed or are in the buffer. -/
def downstream (sys : Batch.System) : List Event :=
  sys.history.handedEvents ++ sys.loop.pending ++ sys.batcher.buffer

/-- One lock section of an informer's `Enqueue` call: what of its list was admitted to the buffer,
and what after it was shed. -/
structure LockSection where
  admitted : List Event
  shed : List Event

/-- The whole list of the call. -/
def LockSection.events (portion : LockSection) : List Event :=
  portion.admitted ++ portion.shed

/-- The events a call in progress shed and has not counted yet. -/
def uncounted : EnqueueCall → ℕ
  | .shedding count => count
  | _ => 0

/-- The lock sections of the informers, in the order they took the lock, account for every event.
What they admitted is what was handed over, waits to be handed or is in the buffer. What an
informer's callbacks accepted is, in order, what its sections admitted and shed, and what waits for
the lock. What was shed is what the operator counted under `buffer_full` or is about to. -/
structure Merges (rt : Runtime) (f : SeverityFilter) (op : Operator)
    (sections : List (Informer × LockSection)) : Prop where
  admitted : sections.flatMap (fun entry ↦ entry.2.admitted) = downstream op.system
  accepted : ∀ informer, op.acceptedBy rt f informer =
    (part informer sections).flatMap LockSection.events ++ op.waitingOf informer
  shed : op.system.dropped bufferFull + (op.system.calls.map uncounted).sum =
    (sections.flatMap fun entry ↦ entry.2.shed).length + op.system.history.added bufferFull

variable {op : Operator}

theorem part_accepted (informer : Informer) :
    part informer (op.accepted rt f) = op.acceptedBy rt f informer :=
  part_spread _ _ _

theorem map_snd_admitted (hop : Attributed rt f op) :
    op.admitted.map Prod.snd = op.system.history.admitted := by
  rw [Operator.admitted, map_snd_spread, List.map_snd_zip hop.sections.ge]
  rfl

/-- What is admitted is among what is offered, in order. -/
theorem admitted_sublist_offered (hreach : (pipelineMachine rt f).Reachable op) :
    op.admitted.Sublist op.offered :=
  spread_sublist fun entry hentry ↦ (admitted_prefix_offered (reachable_system hreach) entry.2
    (List.of_mem_zip hentry).2).sublist

/-- A recorded lock section, with what it shed. -/
def lockSection (admission : Admission) : LockSection where
  admitted := admission.admitted
  shed := admission.offered.drop admission.admitted.length

/-- The lock sections, by informer. -/
def Operator.sections (op : Operator) : List (Informer × LockSection) :=
  (op.admitters.zip op.system.history.admissions).map (Prod.map id lockSection)

/-- An admitted list begins the offered one, and what follows is shed. -/
theorem lockSection_events (hreach : (pipelineMachine rt f).Reachable op) {admission : Admission}
    (hmem : admission ∈ op.system.history.admissions) :
    (lockSection admission).events = admission.offered :=
  (List.prefix_append_drop
    (admitted_prefix_offered (reachable_system hreach) admission hmem)).symm

theorem map_snd_sections (hop : Attributed rt f op) :
    op.sections.map Prod.snd = op.system.history.admissions.map lockSection := by
  have hsnd : Prod.snd ∘ Prod.map id lockSection =
      (lockSection ∘ Prod.snd : Informer × Admission → LockSection) := rfl
  rw [Operator.sections, List.map_map, hsnd, ← List.map_map, List.map_snd_zip hop.sections.ge]

/-- The events of the lock sections of an informer are those its calls offered. -/
theorem part_sections (hreach : (pipelineMachine rt f).Reachable op) (informer : Informer) :
    (part informer op.sections).flatMap LockSection.events = part informer op.offered := by
  rw [Operator.sections, part_map, Operator.offered, part_spread, List.flatMap_map]
  refine List.flatMap_congr fun admission hadmission ↦ lockSection_events hreach ?_
  exact (List.of_mem_zip (mem_of_mem_part hadmission)).2

/-- What the lock sections admitted and shed is what was offered to them. -/
theorem length_offered (hreach : (pipelineMachine rt f).Reachable op) :
    op.offered.length = op.system.history.admitted.length +
      (op.sections.flatMap fun entry ↦ entry.2.shed).length := by
  have hop := attributed hreach
  have hshed : (op.sections.flatMap fun entry ↦ entry.2.shed) =
      op.system.history.admissions.flatMap fun admission ↦ (lockSection admission).shed := by
    rw [← List.flatMap_map, map_snd_sections hop, List.flatMap_map]
  have hoffered : op.offered.length =
      (op.system.history.admissions.flatMap Admission.offered).length := by
    rw [← List.length_map Prod.snd, Operator.offered, map_snd_spread,
      List.map_snd_zip hop.sections.ge]
  have hsection : ∀ admission ∈ op.system.history.admissions, admission.offered.length =
      admission.admitted.length + (lockSection admission).shed.length := by
    intro admission hadmission
    rw [← lockSection_events hreach hadmission]
    exact List.length_append
  rw [hoffered, hshed, History.admitted, List.length_flatMap, List.length_flatMap,
    List.length_flatMap, ← List.sum_map_add, List.map_congr_left hsection]

theorem outstanding_eq (calls : List EnqueueCall) :
    outstanding calls = (calls.flatMap waitingEvents).length + (calls.map uncounted).sum := by
  induction calls with
  | nil => rfl
  | cons call rest ih =>
    rw [outstanding_cons, List.flatMap_cons, List.length_append, ih, List.map_cons, List.sum_cons]
    cases call with
    | called events =>
      simp only [EnqueueCall.outstanding, waitingEvents, uncounted]
      omega
    | shedding count =>
      simp only [EnqueueCall.outstanding, waitingEvents, uncounted, List.length_nil]
      omega
    | signalling size =>
      simp only [EnqueueCall.outstanding, waitingEvents, uncounted, List.length_nil]
      omega

/-- The events of one informer reach the clients in the order its callbacks ran, and every event its
callbacks accepted is admitted, shed or waiting. In every reachable state of every interleaving, the
lock sections merge what the informers' callbacks accepted (`Merges`). Assumes: the state is
reachable. -/
theorem informer_order_kept (hreach : (pipelineMachine rt f).Reachable op) :
    ∃ sections, Merges rt f op sections := by
  have hop := attributed hreach
  refine ⟨op.sections, ?_, fun informer ↦ ?_, ?_⟩
  · have hadmitted : op.sections.flatMap (fun entry ↦ entry.2.admitted) =
        op.system.history.admitted := by
      rw [← List.flatMap_map, map_snd_sections hop, List.flatMap_map]
      rfl
    rw [hadmitted, ← handed_pending_buffer_eq_admitted (reachable_system hreach)]
    rfl
  · rw [part_sections hreach, Operator.waitingOf, ← part_append, hop.order, part_accepted]
  · have hbalance := bufferFull_balance (reachable_system hreach)
    have hperm := (perm_of_part_eq hop.order).length_eq
    have hwaiting : op.waiting.length = (op.system.calls.flatMap waitingEvents).length := by
      rw [← List.length_map Prod.snd, Operator.waiting, map_snd_spread,
        List.map_snd_zip hop.calls.ge]
    rw [outstanding_eq] at hbalance
    rw [List.length_append, length_offered hreach] at hperm
    have hcounted := hop.counted
    omega

/-- Ids of growing length. -/
def growingIds : Runtime :=
  ⟨fun _ ↦ 1, fun number ↦ String.ofList (List.replicate number 'e')⟩

/-- The record of a container that failed to start. -/
def backOff : CoreEvent where
  reason := "BackOff"
  involvedObject := { kind := "Pod", namespaceName := "prod", name := "api-1" }

/-- The core event informer and the one of the events API deliver the record, and the second takes
the lock first. -/
def crossing : List Action :=
  [.callback ⟨1, by decide⟩ (.addFunc (.object (.coreEvent backOff))) Reader.empty,
    .callback ⟨2, by decide⟩ (.addFunc (.object (.k8sEvent backOff.project))) Reader.empty,
    .batcher (.lock 1), .batcher (.lock 0), .batcher (.finish 0)]

/-- What the crossing callbacks lead to. -/
def crossed : Option Operator :=
  (pipelineMachine growingIds (newFromString "warning")).replay
    { system := System.initial [] bootstrap } crossing

theorem reachable_crossed (hop : crossed = some op) :
    (pipelineMachine growingIds (newFromString "warning")).Reachable op :=
  Machine.reachable_of_replay ⟨[], bootstrap, rfl⟩ hop

/-- The two events are in the buffer in the order of the lock sections. -/
theorem crossed_ids : crossed.map (fun op ↦ (downstream op.system).map Event.id) =
    some ["e", ""] := by
  decide

/-- The merge of the crossing callbacks. -/
theorem informer_order_kept_crossed :
    ∃ op sections, crossed = some op ∧ (downstream op.system).map Event.id = ["e", ""] ∧
      Merges growingIds (newFromString "warning") op sections := by
  obtain ⟨op, hop, hids⟩ := Option.map_eq_some_iff.mp crossed_ids
  obtain ⟨sections, hmerges⟩ := informer_order_kept (reachable_crossed hop)
  exact ⟨op, sections, hop, hids, hmerges⟩

/-! ### Ids -/

theorem handled_accepted_sublist (handled : Handled) :
    (handled.accepted rt f).Sublist (handled.returned rt) := by
  unfold Handled.accepted Handled.returned
  split
  · exact List.Sublist.refl _
  · rw [handle_enqueued]
    exact List.filter_sublist

theorem numberedFrom_returned (handled : Handled) :
    NumberedFrom rt handled.seq (handled.returned rt) := by
  unfold Handled.returned
  split
  · exact numberedFrom_nil
  · exact numberedFrom_dispatch _ _ _

/-- The events the mapper returned so far. -/
def Operator.returned (rt : Runtime) (op : Operator) : List Event :=
  (spread (Handled.returned rt) op.handled).map Prod.snd

/-- The events the mapper returned so far have the ids of the numbers so far. -/
theorem returned_ids (hreach : (pipelineMachine rt f).Reachable op) :
    (op.returned rt).map Event.id = (List.range op.seq).map rt.newID := by
  refine pipeline_invariant (motive := fun op ↦
    (op.returned rt).map Event.id = (List.range op.seq).map rt.newID) (fun _ _ ↦ rfl) ?_ hreach
  have hnote : ∀ (op : Operator) (informer : Informer) (callback : Callback) (reader : Reader),
      (op.returned rt).map Event.id = (List.range op.seq).map rt.newID →
        ((op.note rt informer (op.handling callback reader)).returned rt).map Event.id =
          (List.range (op.note rt informer (op.handling callback reader)).seq).map rt.newID := by
    intro op informer callback reader hop
    have hnew : NumberedFrom rt op.seq ((op.handling callback reader).returned rt) :=
      numberedFrom_returned _
    unfold NumberedFrom at hnew
    simp only [Operator.returned, Operator.note, spread_append, List.map_append] at hop ⊢
    rw [hop, List.range_eq_range', List.range_eq_range', ← List.range'_append_1, List.map_append,
      Nat.zero_add]
    simp only [Operator.handling] at hnew ⊢
    rw [← hnew]
    simp [spread, Function.comp_def]
  intro op action next hop hprogress
  cases hprogress with
  | ignored informer callback reader hnone => exact hnote op informer callback reader hop
  | called informer callback reader hfree hsome => exact hnote op informer callback reader hop
  | locked index hstep => exact hop
  | finished index hstep => exact hop
  | other action hstep hsame => exact hop

/-- The events that were handed over, wait to be handed or are in the buffer have pairwise different
ids. Assumes: the source of ids never repeats one, and the state is reachable. -/
theorem nodup_ids_downstream (hfresh : Function.Injective rt.newID)
    (hreach : (pipelineMachine rt f).Reachable op) :
    ((downstream op.system).map Event.id).Nodup := by
  have hop := attributed hreach
  have hreturned : ((op.returned rt).map Event.id).Nodup := by
    rw [returned_ids hreach]
    exact List.nodup_range.map hfresh
  have haccepted : (op.accepted rt f).Sublist (spread (Handled.returned rt) op.handled) :=
    spread_sublist fun entry _ ↦ handled_accepted_sublist entry.2
  have hoffered : (op.admitted.map Prod.snd).Subperm ((op.offered ++ op.waiting).map Prod.snd) :=
    (((admitted_sublist_offered hreach).trans (List.sublist_append_left _ _)).map _).subperm
  have hsub : (op.admitted.map Prod.snd).Subperm (op.returned rt) :=
    (hoffered.trans ((perm_of_part_eq hop.order).map _).subperm).trans
      (haccepted.map Prod.snd).subperm
  have hids : ((op.admitted.map Prod.snd).map Event.id).Nodup := by
    obtain ⟨list, hlist, hsublist⟩ := hsub
    exact ((hlist.map Event.id).nodup_iff).mp ((hsublist.map Event.id).nodup hreturned)
  rw [map_snd_admitted hop, ← handed_pending_buffer_eq_admitted (reachable_system hreach)] at hids
  exact hids

end IncidentaryOperator.Informers
