import IncidentaryOperator.Batch.KeyRevocation
import IncidentaryOperator.Informers.EventOrder

/-!
# Requests and their ids

An HTTP client repeats a request that failed or was not answered in time, so a batch may be sent
several times. The ids of the events are there for that: `Event.ID` is used for deduplication on
retry, which is sound only if an id never stands for two events. Here the pipeline runs with the
requests of its flushes, whatever is answered to them.

`requests_repeat_only_retries`: whatever the interleaving, every request carries a batch that was
handed to an HTTP client, two requests with an event of the same id are attempts of one flush and
the event is the same, no batch has an id twice, and a flush that returned a result has made a
request.
-/

set_option autoImplicit false
set_option relaxedAutoImplicit false

namespace IncidentaryOperator.Informers

open Foundation WireFormat Kubernetes FilterPolicy Mapper Pipeline Batch Client

variable {rt : Runtime} {f : SeverityFilter}

/-! ### The machine -/

/-- A request: its batch, and the number of the hand-off it is made for. -/
structure Request where
  number : ℕ
  batch : IngestBatch

/-- The pipeline, where the `Flush` of an HTTP client stands, the requests made so far, and the
hand-offs whose `Flush` by an HTTP client returned a result. -/
structure Sending where
  op : Operator
  flight : FlushState := .idle
  sent : List Request := []
  confirmed : List Request := []

/-- A step of the pipeline, or a step of the `Flush` a batch was handed to. -/
inductive SendingAction
  | pipeline (action : Action)
  | flush (action : WireAction)

/-- The batcher with its requests. -/
def Sending.wire (d : Sending) : Wire :=
  { sys := d.op.system, flight := d.flight }

/-- The number of the last hand-off. -/
def lastHandoff (sys : Batch.System) : ℕ :=
  sys.history.handed.length - 1

/-- A `Flush` that has made a request: it waits for the answer, or is about to return a result. -/
def requestMade : FlushState → Bool
  | .waiting _ => true
  | .returning (.ok _) => true
  | _ => false

/-- The request a `Flush` makes with a step: an attempt that goes on to wait has made one. -/
def Sending.requested (d : Sending) (flight : FlushState) : List Request :=
  match flight with
  | .waiting _ => d.op.system.loop.handing.map (Request.mk (lastHandoff d.op.system))
  | _ => []

/-- The hand-off whose `Flush` is about to return a result. -/
def Sending.confirming (d : Sending) : List Request :=
  match d.op.system.loop, d.flight with
  | .flushing _ (.http _) batch, .returning (.ok _) => [⟨lastHandoff d.op.system, batch⟩]
  | _, _ => []

section Machine

variable (rt : Runtime) (f : SeverityFilter)

/-- One step. The batcher completes a flush with the outcome of the client's `Flush`. -/
def Sending.step (d : Sending) : SendingAction → Option Sending
  | .pipeline (.batcher (.complete _)) => none
  | .pipeline action => (d.op.step rt f action).map fun op ↦ { d with op := op }
  | .flush (.batcher _) => none
  | .flush .leaveFlush =>
    (d.wire.step .leaveFlush).map fun w ↦
      { d with
        op := { d.op with system := w.sys }
        flight := w.flight
        confirmed := d.confirmed ++ d.confirming }
  | .flush action =>
    (d.wire.step action).map fun w ↦
      { d with flight := w.flight, sent := d.sent ++ d.requested w.flight }

/-- The pipeline with its requests as a machine. -/
def sendingMachine : Machine Sending SendingAction where
  start := fun d ↦ ∃ op, (pipelineMachine rt f).start op ∧ d = { op := op }
  step := Sending.step rt f

end Machine

/-! ### What a step can do -/

/-- The cases of an enabled step, with their guards. -/
inductive Sends (rt : Runtime) (f : SeverityFilter) (d : Sending) : Sending → Prop
  | moved {action : Action} {op : Operator}
      (hongoing : ∀ answer, action ≠ .batcher (.complete answer))
      (hstep : d.op.step rt f action = some op) : Sends rt f d { d with op := op }
  | entered {trigger : Trigger} {c : HTTPClient} {batch : IngestBatch} (now : ℤ)
      (marshalled : Except String Unit)
      (hloop : d.op.system.loop = .flushing trigger (.http c) batch) :
      Sends rt f d { d with flight := c.enterFlush now marshalled }
  | attempted {trigger : Trigger} {c : HTTPClient} {batch : IngestBatch} {call : FlushCall}
      (pause : Pause) (hloop : d.op.system.loop = .flushing trigger (.http c) batch) :
      Sends rt f d
        { d with
          flight := c.attempt call pause
          sent := d.sent ++ d.requested (c.attempt call pause) }
  | received {trigger : Trigger} {c : HTTPClient} {batch : IngestBatch} {call : FlushCall}
      (answer : Answer) (ctxErr : Option String)
      (hloop : d.op.system.loop = .flushing trigger (.http c) batch)
      (hflight : d.flight = .waiting call) :
      Sends rt f d { d with flight := c.receive call answer ctxErr }
  | left {outcome : FlushOutcome} {system : Batch.System}
      (hstep : d.op.system.step (.complete outcome) = some system) :
      Sends rt f d
        { d with
          op := { d.op with system := system }
          flight := .idle
          confirmed := d.confirmed ++ d.confirming }

theorem not_waiting_enterFlush (d : Sending) (c : HTTPClient) (now : ℤ)
    (marshalled : Except String Unit) : d.requested (c.enterFlush now marshalled) = [] := by
  cases marshalled <;> rfl

theorem not_waiting_receive (d : Sending) (c : HTTPClient) (call : FlushCall) (answer : Answer)
    (ctxErr : Option String) : d.requested (c.receive call answer ctxErr) = [] := by
  unfold HTTPClient.receive
  cases c.doRequest answer <;> cases ctxErr <;> rfl

theorem flight_makeAttempt (w : Wire) (c : HTTPClient) (call : FlushCall) (pause : Pause) :
    (w.makeAttempt c call pause).flight = c.attempt call pause := by
  unfold Wire.makeAttempt
  cases c.attempt call pause <;> rfl

theorem sends_of_step {d next : Sending} {action : SendingAction}
    (hstep : d.step rt f action = some next) : Sends rt f d next := by
  cases action with
  | pipeline action =>
    by_cases hcomplete : ∃ answer, action = .batcher (.complete answer)
    · obtain ⟨answer, rfl⟩ := hcomplete
      cases hstep
    · have hmoved : (d.op.step rt f action).map (fun op ↦ { d with op := op }) = some next := by
        rw [← hstep, Sending.step]
        exact fun answer heq ↦ hcomplete ⟨answer, heq⟩
      obtain ⟨op, hop, rfl⟩ := Option.map_eq_some_iff.mp hmoved
      exact .moved (fun answer heq ↦ hcomplete ⟨answer, heq⟩) hop
  | flush action =>
    cases action with
    | batcher action => cases hstep
    | enterFlush now marshalled =>
      obtain ⟨w, hw, rfl⟩ := Option.map_eq_some_iff.mp hstep
      cases wireTransition_of_step hw with
      | entered _ _ hloop hflight =>
        rw [not_waiting_enterFlush, List.append_nil]
        exact .entered now marshalled hloop
    | attempt pause =>
      obtain ⟨w, hw, rfl⟩ := Option.map_eq_some_iff.mp hstep
      cases wireTransition_of_step hw with
      | attempted _ hloop hflight =>
        rw [flight_makeAttempt]
        exact .attempted pause hloop
    | receive answer ctxErr =>
      obtain ⟨w, hw, rfl⟩ := Option.map_eq_some_iff.mp hstep
      cases wireTransition_of_step hw with
      | received _ _ hloop hflight =>
        rw [Wire.takeAnswer, not_waiting_receive, List.append_nil]
        exact .received answer ctxErr hloop hflight
    | leaveFlush =>
      obtain ⟨w, hw, rfl⟩ := Option.map_eq_some_iff.mp hstep
      cases wireTransition_of_step hw with
      | left houtcome hsystem => exact .left hsystem

/-- The invariant rule of the pipeline with its requests, by cases of `Sends`. -/
theorem sending_invariant {motive : Sending → Prop}
    (hinitial : ∀ opts rotation, motive { op := { system := System.initial opts rotation } })
    (hstep : ∀ d next, (sendingMachine rt f).Reachable d → motive d → Sends rt f d next →
      motive next)
    {d : Sending} (hreach : (sendingMachine rt f).Reachable d) : motive d := by
  refine hreach.invariant ?_ fun state action next hbefore hmotive hnext ↦
    hstep state next hbefore hmotive (sends_of_step hnext)
  rintro state ⟨op, ⟨opts, rotation, rfl⟩, rfl⟩
  exact hinitial opts rotation

/-- With its requests the pipeline takes steps of the pipeline. -/
theorem reachable_op {d : Sending} (hreach : (sendingMachine rt f).Reachable d) :
    (pipelineMachine rt f).Reachable d.op := by
  refine sending_invariant (motive := fun d ↦ (pipelineMachine rt f).Reachable d.op) ?_ ?_ hreach
  · intro opts rotation
    exact .start ⟨opts, rotation, rfl⟩
  · intro d next _ hop hsends
    cases hsends with
    | moved hongoing hstep => exact hop.next hstep
    | @left outcome system hstep =>
      have hcompleted : (pipelineMachine rt f).step d.op (.batcher (.complete outcome)) =
          some { d.op with system := system } := by
        simp only [pipelineMachine, Operator.step, hstep, Option.map_some]
      exact hop.next hcompleted
    | entered | attempted | received => exact hop

/-- A step of the pipeline other than the completion of a flush takes at most one step of the
batcher, which is no completion either. -/
theorem system_of_step {op next : Operator} {action : Action}
    (hongoing : ∀ answer, action ≠ .batcher (.complete answer))
    (hstep : op.step rt f action = some next) :
    next.system = op.system ∨ ∃ move, (∀ answer, move ≠ .complete answer) ∧
      Transition op.system move next.system := by
  cases progress_of_step hstep with
  | ignored informer callback reader hnone => exact .inl rfl
  | called informer callback reader hfree hsome =>
    exact .inr ⟨_, fun _ ↦ Batch.Action.noConfusion, .called _⟩
  | locked index htransition => exact .inr ⟨_, fun _ ↦ Batch.Action.noConfusion, htransition⟩
  | finished index htransition => exact .inr ⟨_, fun _ ↦ Batch.Action.noConfusion, htransition⟩
  | other move htransition hsame =>
    exact .inr ⟨move, fun answer heq ↦ hongoing answer (congrArg _ heq), htransition⟩

/-! ### What was handed over -/

/-- The request is for a batch that was handed to an HTTP client. -/
def Handed (sys : Batch.System) (request : Request) : Prop :=
  ∃ client, sys.history.handed[request.number]? = some ⟨.http client, request.batch⟩

theorem Handed.mono {sys next : Batch.System} {action : Batch.Action} {request : Request}
    (hhanded : Handed sys request) (hstep : Transition sys action next) : Handed next request := by
  obtain ⟨client, hclient⟩ := hhanded
  refine ⟨client, ?_⟩
  cases hstep with
  | handedOver trigger batch hloop =>
    have hbelow := (List.getElem?_eq_some_iff.mp hclient).1
    exact (List.getElem?_append_left hbelow).trans hclient
  | _ => exact hclient

/-- The batch a client is busy with is the last one that was handed over. -/
theorem handed_of_flushing {sys : Batch.System} (hreach : batcherMachine.Reachable sys)
    {trigger : Trigger} {client : IngestClient} {batch : IngestBatch}
    (hloop : sys.loop = .flushing trigger client batch) :
    sys.history.handed[lastHandoff sys]? = some ⟨client, batch⟩ := by
  refine batcher_invariant (motive := fun sys ↦ ∀ trigger client batch,
    sys.loop = .flushing trigger client batch →
      sys.history.handed[lastHandoff sys]? = some ⟨client, batch⟩) ?_ ?_ hreach trigger client
    batch hloop
  · intro opts rotation trigger client batch hinitial
    cases hinitial
  · intro sys action next _ hinv hstep trigger client batch hnext
    cases hstep with
    | handedOver trigger' batch' hprepared =>
      obtain ⟨-, rfl, rfl⟩ := Loop.flushing.inj hnext
      simp [lastHandoff, System.handBatch]
    | completed trigger' | skipped trigger' => cases trigger' <;> cases hnext
    | ticked | tokenTaken | doneReceived | swappedOut | built => cases hnext
    | called | returnedEmpty | shed | admitted | countedShed | signalled | contextEnded
    | rotated => exact hinv trigger client batch hnext

/-- While a batch is in the hands of its client no other is handed over, and only the completion
takes it away. -/
theorem flushing_kept {sys next : Batch.System} {action : Batch.Action}
    (hstep : Transition sys action next) (hongoing : ∀ answer, action ≠ .complete answer)
    {trigger : Trigger} {client : IngestClient} {batch : IngestBatch}
    (hloop : sys.loop = .flushing trigger client batch) :
    next.loop = .flushing trigger client batch ∧ lastHandoff next = lastHandoff sys := by
  cases hstep with
  | completed _ _ _ answer _ _ _ => exact absurd rfl (hongoing answer)
  | ticked hother | tokenTaken hother | doneReceived hother | skipped _ hother
  | swappedOut _ hother | built _ _ _ _ hother | handedOver _ _ hother =>
    exact absurd (hloop.symm.trans hother) Loop.noConfusion
  | called | returnedEmpty | shed | admitted | countedShed | signalled | contextEnded | rotated =>
    exact ⟨hloop, rfl⟩

/-! ### The invariant -/

theorem requestMade_enterFlush (c : HTTPClient) (now : ℤ) (marshalled : Except String Unit) :
    requestMade (c.enterFlush now marshalled) = false := by
  cases marshalled <;> rfl

/-- An attempt waits for an answer or gives up. -/
theorem attempt_waits_or_gives_up (c : HTTPClient) (call : FlushCall) (pause : Pause) :
    (∃ next, c.attempt call pause = .waiting next) ∨
      ∃ text, c.attempt call pause = .returning (.error text) := by
  unfold HTTPClient.attempt FlushCall.giveUp FlushCall.sendRequest
  dsimp only
  split_ifs <;> (repeat' split) <;> simp

/-- The requests of an attempt. -/
theorem requested_attempt {d : Sending} {trigger : Trigger} {c : HTTPClient} {batch : IngestBatch}
    (hloop : d.op.system.loop = .flushing trigger (.http c) batch) (call : FlushCall)
    (pause : Pause) :
    d.requested (c.attempt call pause) =
      if requestMade (c.attempt call pause) then [⟨lastHandoff d.op.system, batch⟩] else [] := by
  rcases attempt_waits_or_gives_up c call pause with ⟨next, hnext⟩ | ⟨text, htext⟩
  · rw [hnext, Sending.requested, hloop]
    rfl
  · rw [htext]
    rfl

/-- A `Flush` runs for a batch in the hands of an HTTP client only; the requests are for batches
handed to such clients; a `Flush` that waits or is about to return a result has made a request, and
so has every one that returned a result. -/
structure Sound (d : Sending) : Prop where
  resting : (∀ trigger c batch, d.op.system.loop ≠ .flushing trigger (.http c) batch) →
    d.flight = .idle
  handed : ∀ request ∈ d.sent, Handed d.op.system request
  made : ∀ trigger c batch, d.op.system.loop = .flushing trigger (.http c) batch →
    requestMade d.flight = true → ⟨lastHandoff d.op.system, batch⟩ ∈ d.sent
  confirmed : d.confirmed ⊆ d.sent

theorem prepared_of_hand {sys next : Batch.System} (hstep : Transition sys .hand next) :
    ∃ trigger batch, sys.loop = .prepared trigger batch := by
  cases hstep with
  | handedOver trigger batch hloop => exact ⟨trigger, batch, hloop⟩

/-- A step of the pipeline other than the completion of a flush. -/
theorem Sound.moved {d : Sending} (hd : Sound d) {action : Action} {op : Operator}
    (hongoing : ∀ answer, action ≠ .batcher (.complete answer))
    (hstep : d.op.step rt f action = some op) : Sound { d with op := op } := by
  rcases system_of_step hongoing hstep with hsame | ⟨move, hmove, htransition⟩
  · obtain ⟨hresting, hhanded, hmade, hconfirmed⟩ := hd
    rw [← hsame] at hresting hhanded hmade
    exact ⟨hresting, hhanded, hmade, hconfirmed⟩
  · refine ⟨fun hnone ↦ hd.resting fun trigger c batch hloop ↦ ?_,
      fun request hrequest ↦ (hd.handed request hrequest).mono htransition,
      fun trigger c batch hloop hmade ↦ ?_, hd.confirmed⟩
    · exact hnone trigger c batch (flushing_kept htransition hmove hloop).1
    · rcases flushing_of_transition htransition hmove hloop with hbefore | ⟨rfl, -⟩
      · show ⟨lastHandoff op.system, batch⟩ ∈ d.sent
        rw [(flushing_kept htransition hmove hbefore).2]
        exact hd.made trigger c batch hbefore hmade
      · obtain ⟨trigger', batch', hprepared⟩ := prepared_of_hand htransition
        have hidle := hd.resting fun _ _ _ h ↦ absurd (hprepared.symm.trans h) Loop.noConfusion
        have hresting : requestMade d.flight = false := by rw [hidle]; rfl
        exact absurd (hmade.symm.trans hresting) (by decide)

/-- A step of a `Flush` whose batch is in the hands of an HTTP client. -/
theorem Sound.flown {d : Sending} (hd : Sound d) {trigger : Trigger} {c : HTTPClient}
    {batch : IngestBatch} (hloop : d.op.system.loop = .flushing trigger (.http c) batch)
    {flight : FlushState}
    (hmade : requestMade flight = true → ⟨lastHandoff d.op.system, batch⟩ ∈ d.sent) :
    Sound { d with flight := flight } := by
  refine ⟨fun hnone ↦ absurd hloop (hnone trigger c batch), hd.handed,
    fun trigger' c' batch' hloop' hflight ↦ ?_, hd.confirmed⟩
  obtain ⟨-, -, rfl⟩ := Loop.flushing.inj (hloop.symm.trans hloop')
  exact hmade hflight

/-- Requests for batches that were handed over are made. -/
theorem Sound.requested {d : Sending} (hd : Sound d) {requests : List Request}
    (hrequests : ∀ request ∈ requests, Handed d.op.system request) :
    Sound { d with sent := d.sent ++ requests } := by
  refine ⟨hd.resting, fun request hrequest ↦ ?_,
    fun trigger c batch hloop hmade ↦ List.mem_append_left _ (hd.made trigger c batch hloop hmade),
    fun request hrequest ↦ List.mem_append_left _ (hd.confirmed hrequest)⟩
  rcases List.mem_append.mp hrequest with hbefore | hnew
  · exact hd.handed request hbefore
  · exact hrequests request hnew

theorem mem_confirming {d : Sending} {request : Request} (hrequest : request ∈ d.confirming) :
    ∃ trigger c, d.op.system.loop = .flushing trigger (.http c) request.batch ∧
      requestMade d.flight = true ∧ request.number = lastHandoff d.op.system := by
  unfold Sending.confirming at hrequest
  split at hrequest
  · next trigger c batch res hloop hflight =>
    obtain rfl := List.mem_singleton.mp hrequest
    exact ⟨trigger, c, hloop, by rw [hflight]; rfl, rfl⟩
  · exact absurd hrequest List.not_mem_nil

/-- A flush completes. -/
theorem Sound.left {d : Sending} (hd : Sound d) {outcome : FlushOutcome} {system : Batch.System}
    (hstep : d.op.system.step (.complete outcome) = some system) :
    Sound { d with
      op := { d.op with system := system }
      flight := .idle
      confirmed := d.confirmed ++ d.confirming } := by
  refine ⟨fun _ ↦ rfl,
    fun request hrequest ↦ (hd.handed request hrequest).mono (transition_of_step hstep),
    fun _ _ _ _ hmade ↦ absurd hmade Bool.false_ne_true, fun request hrequest ↦ ?_⟩
  rcases List.mem_append.mp hrequest with hbefore | hnew
  · exact hd.confirmed hbefore
  · obtain ⟨trigger, c, hloop, hmade, hnumber⟩ := mem_confirming hnew
    have hsent := hd.made trigger c request.batch hloop hmade
    rwa [← hnumber] at hsent

theorem sound {d : Sending} (hreach : (sendingMachine rt f).Reachable d) : Sound d := by
  refine sending_invariant ?_ ?_ hreach
  · intro opts rotation
    exact ⟨fun _ ↦ rfl, by simp, fun _ _ _ _ hmade ↦ absurd hmade Bool.false_ne_true, by simp⟩
  · intro d next hbefore hd hsends
    have hsystem := reachable_system (reachable_op hbefore)
    cases hsends with
    | moved hongoing hstep => exact hd.moved hongoing hstep
    | entered now marshalled hloop =>
      refine hd.flown hloop fun hmade ↦ ?_
      exact absurd (hmade.symm.trans (requestMade_enterFlush _ now marshalled)) (by decide)
    | @attempted trigger c batch call pause hloop =>
      have hsent : Sound { d with sent := d.sent ++ d.requested (c.attempt call pause) } := by
        refine hd.requested fun request hrequest ↦ ?_
        rw [requested_attempt hloop] at hrequest
        split_ifs at hrequest with hmade
        · rw [List.mem_singleton.mp hrequest]
          exact ⟨c, handed_of_flushing hsystem hloop⟩
        · exact absurd hrequest List.not_mem_nil
      refine hsent.flown hloop fun hmade ↦ ?_
      rw [requested_attempt hloop, if_pos hmade]
      exact List.mem_append_right _ List.mem_cons_self
    | received answer ctxErr hloop hflight =>
      exact hd.flown hloop fun _ ↦ hd.made _ _ _ hloop (by rw [hflight]; rfl)
    | left hstep => exact hd.left hstep

/-! ### Ids -/

/-- Every request carries a batch that was handed to an HTTP client, and no batch has an id twice.
Two requests with an event of the same id are attempts for one hand-off, and the event is the same.
A flush that returned a result has made a request. -/
structure RetriesOnly (d : Sending) : Prop where
  handed : ∀ request ∈ d.sent, ∃ client,
    d.op.system.history.handed[request.number]? = some ⟨.http client, request.batch⟩
  distinct : ∀ request ∈ d.sent, (request.batch.events.map Event.id).Nodup
  identified : ∀ first ∈ d.sent, ∀ second ∈ d.sent, ∀ event ∈ first.batch.events,
    ∀ other ∈ second.batch.events, event.id = other.id → first = second ∧ event = other
  confirmed : d.confirmed ⊆ d.sent

/-- Lists whose concatenation has no entry twice share no entry at different places. -/
theorem index_eq_of_nodup_flatMap {α β : Type} {lists : List α} {entries : α → List β}
    (hnodup : (lists.flatMap entries).Nodup) {i j : ℕ} {first second : α} {entry : β}
    (hfirst : lists[i]? = some first) (hsecond : lists[j]? = some second)
    (hmem : entry ∈ entries first) (hmem' : entry ∈ entries second) : i = j := by
  obtain ⟨hi, rfl⟩ := List.getElem?_eq_some_iff.mp hfirst
  obtain ⟨hj, rfl⟩ := List.getElem?_eq_some_iff.mp hsecond
  have hpairwise := List.pairwise_iff_getElem.mp (List.nodup_flatMap.mp hnodup).2
  rcases lt_trichotomy i j with hlt | heq | hgt
  · exact absurd hmem' (hpairwise i j hi hj hlt hmem)
  · exact heq
  · exact absurd hmem (hpairwise j i hj hi hgt hmem')

/-- An id stands for one event in all requests. In every reachable state of the pipeline with its
retries, whatever is answered to the requests: an id that occurs in two requests is that of one
event, in two attempts of the same flush, so deduplication by id merges retries and nothing else.
Assumes: the source of ids never repeats one, and the state is reachable. -/
theorem requests_repeat_only_retries (hfresh : Function.Injective rt.newID) {d : Sending}
    (hreach : (sendingMachine rt f).Reachable d) : RetriesOnly d := by
  have hd := sound hreach
  have hids : (d.op.system.history.handed.flatMap
      fun handoff ↦ handoff.batch.events.map Event.id).Nodup := by
    have hall := nodup_ids_downstream hfresh (reachable_op hreach)
    simp only [downstream, List.map_append, List.append_assoc] at hall
    have hhanded := hall.of_append_left
    rwa [History.handedEvents, List.map_flatMap] at hhanded
  have hdistinct : ∀ request ∈ d.sent, (request.batch.events.map Event.id).Nodup := by
    intro request hrequest
    obtain ⟨client, hclient⟩ := hd.handed request hrequest
    exact (List.nodup_flatMap.mp hids).1 _ (List.mem_of_getElem? hclient)
  refine ⟨hd.handed, hdistinct,
    fun first hfirst second hsecond event hevent other hother hsame ↦ ?_, hd.confirmed⟩
  obtain ⟨client, hclient⟩ := hd.handed first hfirst
  obtain ⟨client', hclient'⟩ := hd.handed second hsecond
  have hnumber : first.number = second.number :=
    index_eq_of_nodup_flatMap hids hclient hclient' (List.mem_map_of_mem hevent)
      (hsame ▸ List.mem_map_of_mem hother)
  rw [hnumber, hclient'] at hclient
  have hbatch : second.batch = first.batch := (Handoff.mk.inj (Option.some.inj hclient)).2
  rw [hbatch] at hother
  refine ⟨?_, List.inj_on_of_nodup_map (hdistinct first hfirst) hevent hother hsame⟩
  obtain ⟨number, batch⟩ := first
  obtain ⟨number', batch'⟩ := second
  exact congrArg₂ Request.mk hnumber hbatch.symm

/-- The two events of the crossing callbacks are flushed. The first request is not answered in time,
and the client repeats it. -/
def retried : List SendingAction :=
  crossing.map .pipeline ++
    [.pipeline (.batcher .receiveTick), .pipeline (.batcher .swap),
      .pipeline (.batcher (.build {} 1)), .pipeline (.batcher .hand),
      .flush (.enterFlush 0 (.ok ())), .flush (.attempt { now := 0, jittered := 0 }),
      .flush (.receive (.failed "timeout") none), .flush (.attempt { now := 1, jittered := 0 }),
      .flush (.receive (.read { statusCode := 202 }) none), .flush .leaveFlush]

/-- Two requests with the same two events, for the one hand-off that was confirmed. -/
theorem requests_repeat_only_retries_retried : Function.Injective growingIds.newID ∧
    ∃ d, (sendingMachine growingIds (newFromString "warning")).replay
        { op := { system := System.initial [] bootstrap } } retried = some d ∧
      (d.sent.map fun request ↦ request.batch.events.map Event.id) = [["e", ""], ["e", ""]] ∧
      d.confirmed.length = 1 ∧ RetriesOnly d := by
  have hfresh : Function.Injective growingIds.newID := by
    intro first second hsame
    have hlists := String.ofList_injective hsame
    simpa using congrArg List.length hlists
  have hrun : ((sendingMachine growingIds (newFromString "warning")).replay
      { op := { system := System.initial [] bootstrap } } retried).map (fun d ↦
        (d.sent.map (fun request ↦ request.batch.events.map Event.id), d.confirmed.length)) =
      some ([["e", ""], ["e", ""]], 1) := by
    decide
  obtain ⟨d, hreplay, hcounts⟩ := Option.map_eq_some_iff.mp hrun
  obtain ⟨hsent, hconfirmed⟩ := Prod.mk.inj hcounts
  have hreach : (sendingMachine growingIds (newFromString "warning")).Reachable d :=
    Machine.reachable_of_replay ⟨_, ⟨[], bootstrap, rfl⟩, rfl⟩ hreplay
  exact ⟨hfresh, d, hreplay, hsent, hconfirmed, requests_repeat_only_retries hfresh hreach⟩

end IncidentaryOperator.Informers
