import IncidentaryOperator.Client.Provider
import IncidentaryOperator.Foundation.Float64
import IncidentaryOperator.Foundation.Machine

/-!
# The batcher

`internal/batch/batcher.go` as a machine. The parties are any number of `Enqueue` calls, one `Start`
loop with its ticker, its eager channel and its context, and the controller that rotates
credentials. Each lock-protected section of `Enqueue` and `flushNow`, each receive of the select of
`Start`, each call of a producer and each `Rotate` is one atomic step, and a run is any sequence of
enabled steps.

An `Enqueue` call is called, then either shedding or signalling, then gone (`EnqueueCall`). The loop
selects, enters `flushNow`, swaps the buffer out, builds the envelope with the agent producer,
resolves the client and hands it the batch, and goes back to the select or returns when the flush
completes (`Loop`). `step` is the executable step, and `Transition` says once, case by case, what a
step can do (`transition_of_step`); the invariants are proved from it.

A negative count among the drop reasons makes the metrics library panic, which takes the process
down; no state of the run follows, so the step is not enabled (`addDropReasons`). Counters are
natural numbers. What is added to them is converted to a double, which changes no count of events
but may change a count the server sent. The histograms and the log are not modelled.

`History` records what happened and is never read by a step.
-/

set_option autoImplicit false
set_option relaxedAutoImplicit false

namespace IncidentaryOperator.Batch

open Foundation WireFormat Client

/-! ### The batcher and its options -/

/-- The ceiling of the v2 spec on the size of a batch. -/
def absoluteMaxBatchSize : ℕ :=
  10000

/-- The hard ceiling on the buffer. -/
def bufferDropThreshold : ℕ :=
  absoluteMaxBatchSize * 100

/-- The default eager threshold. -/
def defaultMaxBatchSize : ℤ :=
  1000

/-- The default ticker period. -/
def defaultFlushInterval : ℤ :=
  10 * second

/-- The fields of `Batcher` that change or are read: its settings, the buffer, the capture mode last
asked for, and whether the eager channel, of capacity one, holds a token. -/
structure Batcher where
  flushInterval : ℤ := defaultFlushInterval
  maxBatchSize : ℤ := defaultMaxBatchSize
  buffer : List Event := []
  captureModeReq : String := ""
  flushCh : Bool := false

/-- The options of `NewBatcher`. -/
inductive BatcherOption
  | withFlushInterval (d : ℤ)
  | withMaxBatchSize (n : ℤ)

/-- What an option does: settings that are not positive are ignored, and the eager threshold is
clamped to the spec ceiling. -/
def BatcherOption.apply : BatcherOption → Batcher → Batcher
  | .withFlushInterval d, b => if d > 0 then { b with flushInterval := d } else b
  | .withMaxBatchSize n, b =>
    if n ≤ 0 then b
    else { b with maxBatchSize := if n > absoluteMaxBatchSize then absoluteMaxBatchSize else n }

/-- `NewBatcher`. -/
def newBatcher (opts : List BatcherOption) : Batcher :=
  opts.foldl (fun b opt ↦ opt.apply b) {}

/-- What holds of the defaults and is kept by every option holds of every new batcher. -/
theorem newBatcher_induction {motive : Batcher → Prop} (hdefaults : motive {})
    (hoption : ∀ b opt, motive b → motive (BatcherOption.apply opt b))
    (opts : List BatcherOption) : motive (newBatcher opts) :=
  List.foldlRecOn opts _ hdefaults fun b hb opt _ ↦ hoption b opt hb

/-- A batcher as `NewBatcher` leaves it holds nothing. -/
theorem newBatcher_buffer (opts : List BatcherOption) : (newBatcher opts).buffer = [] := by
  refine newBatcher_induction (motive := fun b ↦ b.buffer = []) rfl ?_ opts
  intro b opt hb
  cases opt <;> simp only [BatcherOption.apply] <;> split_ifs <;> exact hb

/-- Options leave an eager threshold between one and the spec ceiling. -/
theorem newBatcher_maxBatchSize (opts : List BatcherOption) :
    1 ≤ (newBatcher opts).maxBatchSize ∧
      (newBatcher opts).maxBatchSize ≤ absoluteMaxBatchSize := by
  refine newBatcher_induction
    (motive := fun b ↦ 1 ≤ b.maxBatchSize ∧ b.maxBatchSize ≤ absoluteMaxBatchSize)
    ⟨by decide, by decide⟩ ?_ opts
  intro b opt hb
  cases opt with
  | withFlushInterval d =>
    simp only [BatcherOption.apply]
    split_ifs <;> exact hb
  | withMaxBatchSize n =>
    simp only [BatcherOption.apply]
    split_ifs with hignored hclamped
    · exact hb
    · exact ⟨(by decide : (1 : ℤ) ≤ absoluteMaxBatchSize), Int.le_refl _⟩
    · exact ⟨Int.not_le.mp hignored, Int.not_lt.mp hclamped⟩

/-! ### The parties -/

/-- An `Enqueue` call in progress: called and before its lock, past its unlock after shedding its
whole list, or past its unlock with the size it saw and before its send. -/
inductive EnqueueCall
  | called (events : List Event)
  | shedding (count : ℕ)
  | signalling (size : ℕ)

/-- What woke the loop: the ticker, the eager channel, or the end of the context. -/
inductive Trigger
  | scheduled
  | eager
  | drain
  deriving DecidableEq

/-- Where the loop of `Start` stands. -/
inductive Loop
  | selecting
  | entered (trigger : Trigger)
  | swapped (trigger : Trigger) (events : List Event)
  | prepared (trigger : Trigger) (batch : IngestBatch)
  | flushing (trigger : Trigger) (client : IngestClient) (batch : IngestBatch)
  | stopped

/-- Where the loop goes when `flushNow` returns: after the final drain `Start` returns. -/
def Trigger.resume : Trigger → Loop
  | .drain => .stopped
  | _ => .selecting

/-- The events swapped out of the buffer and not yet handed to a client. -/
def Loop.pending : Loop → List Event
  | .swapped _ events => events
  | .prepared _ batch => batch.events
  | _ => []

/-- The batch a client is busy with. -/
def Loop.handing : Loop → List IngestBatch
  | .flushing _ _ batch => [batch]
  | _ => []

/-- `flushNow` is between its swap and its return. -/
def Loop.flushInProgress : Loop → Bool
  | .swapped _ _ | .prepared _ _ | .flushing _ _ _ => true
  | _ => false

/-- The loop has received the end of the context. -/
def Loop.cancellationObserved : Loop → Bool
  | .entered t | .swapped t _ | .prepared t _ | .flushing t _ _ => t = .drain
  | .selecting => false
  | .stopped => true

/-! ### Counters -/

/-- A counter vector of the metrics library, by label. -/
abbrev CounterVec (Label : Type) := Label → ℕ

/-- `WithLabelValues(label).Add(count)`. -/
def CounterVec.add {Label : Type} [DecidableEq Label] (counters : CounterVec Label) (label : Label)
    (count : ℕ) : CounterVec Label :=
  Function.update counters label (counters label + count)

theorem CounterVec.add_zero {Label : Type} [DecidableEq Label] (counters : CounterVec Label)
    (label : Label) : counters.add label 0 = counters :=
  Function.update_eq_self label counters

theorem CounterVec.add_add {Label : Type} [DecidableEq Label] (counters : CounterVec Label)
    (label : Label) (m n : ℕ) :
    (counters.add label m).add label n = counters.add label (m + n) := by
  unfold CounterVec.add
  simp [Nat.add_assoc]

/-- The label of the events `Enqueue` sheds. -/
def bufferFull : String :=
  "buffer_full"

/-- Adds the drop reasons of a response to the dropped counters, in the order of the map iteration,
each count as a double. A negative count makes the metrics library panic. -/
def addDropReasons : CounterVec String → List (Sigma fun _ : String ↦ ℤ) →
    Option (CounterVec String)
  | dropped, [] => some dropped
  | dropped, ⟨reason, count⟩ :: rest =>
    if count < 0 then none else addDropReasons (dropped.add reason (natToDouble count.toNat)) rest

/-- Adds the events of a batch to the sent counters, by kind. -/
def addSent (sent : CounterVec Kind) (events : List Event) : CounterVec Kind :=
  fun kind ↦ sent kind + events.countP (fun event ↦ event.kind = kind)

/-! ### What happened -/

/-- An `Enqueue` call that took the lock: its list and the events admitted to the buffer. -/
structure Admission where
  offered : List Event
  admitted : List Event

/-- A batch handed to a client. -/
structure Handoff where
  client : IngestClient
  batch : IngestBatch

/-- A flush that returned: the number of events admitted before the first event of its batch, the
batch, and what `Flush` returned. -/
structure Completion where
  first : ℕ
  batch : IngestBatch
  outcome : FlushOutcome

/-- The record of a run: the number of events passed to `Enqueue`, the lock sections of `Enqueue` in
the order they took the lock, the batches handed to clients and the flushes that returned in order,
the events admitted when the context ended, the `Rotate` calls, and the admission numbers of the
events that additions to the dropped counters were made for. -/
structure History where
  offered : ℕ := 0
  admissions : List Admission := []
  handed : List Handoff := []
  completed : List Completion := []
  atCancel : Option (List Event) := none
  rotations : List Rotation := []
  counted : List ℕ := []

/-- The admitted events in lock-acquisition order. -/
def History.admitted (history : History) : List Event :=
  history.admissions.flatMap Admission.admitted

/-- The events of the batches handed to clients, in order. -/
def History.handedEvents (history : History) : List Event :=
  history.handed.flatMap fun handoff ↦ handoff.batch.events

/-- The number of events in the batches whose flush returned. -/
def History.completedCount (history : History) : ℕ :=
  (history.completed.map fun completion ↦ completion.batch.events.length).sum

/-- The admission numbers of the events of a completed flush. -/
def Completion.positions (completion : Completion) : List ℕ :=
  List.range' completion.first completion.batch.events.length

/-! ### The machine -/

/-- The state of the whole: the batcher, the provider of credentials, the calls in progress, the
context, the loop, the counters and the record. -/
structure System where
  batcher : Batcher
  provider : Provider
  calls : List EnqueueCall := []
  cancelled : Bool := false
  loop : Loop := .selecting
  sent : CounterVec Kind := fun _ ↦ 0
  dropped : CounterVec String := fun _ ↦ 0
  history : History := {}

/-- A step. `lock` and `finish` are of the call in progress with that number. The environment
chooses the events of a call, the resource block and the time of an envelope, and what comes back
from the network. -/
inductive Action
  | call (events : List Event)
  | lock (index : ℕ)
  | finish (index : ℕ)
  | cancel
  | receiveTick
  | receiveToken
  | receiveDone
  | swap
  | build (resource : Resource) (flushedAt : ℤ)
  | hand
  | complete (answer : FlushOutcome)
  | rotate (rotation : Rotation)

/-- The agent block of `newOperatorAgentFactory` of `cmd/main.go`: the workspace id is the
provider's at the time of the call. -/
def operatorAgent (provider : Provider) : Agent where
  type := .k8sOperator
  version := defaultAgentVersion
  workspaceID := provider.workspaceID
  surface := .operator

/-! ### Effects of the steps -/

/-- A goroutine calls `Enqueue`. -/
def System.noteCall (sys : System) (events : List Event) : System :=
  { sys with
    calls := sys.calls ++ [.called events]
    history := { sys.history with offered := sys.history.offered + events.length } }

/-- A call returns without further effect: an empty list returns before the lock. -/
def System.dropCall (sys : System) (index : ℕ) : System :=
  { sys with calls := sys.calls.eraseIdx index }

/-- The lock section of `Enqueue` on a full buffer: the whole list is shed, to be counted after the
unlock. -/
def System.shedAll (sys : System) (index : ℕ) (events : List Event) : System :=
  { sys with
    calls := sys.calls.set index (.shedding events.length)
    history := { sys.history with admissions := sys.history.admissions ++ [⟨events, []⟩] } }

/-- The room left in the buffer. -/
def Batcher.available (b : Batcher) : ℕ :=
  bufferDropThreshold - b.buffer.length

/-- The lock section of `Enqueue` with room in the buffer: as much as fits is appended, the rest is
counted at once, and the call remembers the size it saw. -/
def System.appendAdmitted (sys : System) (index : ℕ) (events : List Event) : System :=
  let available := sys.batcher.available
  let admitted := events.take available
  let buffer := sys.batcher.buffer ++ admitted
  { sys with
    batcher := { sys.batcher with buffer := buffer }
    dropped := if events.length > available then
      sys.dropped.add bufferFull (events.length - available) else sys.dropped
    calls := sys.calls.set index (.signalling buffer.length)
    history := { sys.history with admissions := sys.history.admissions ++ [⟨events, admitted⟩] } }

/-- After the unlock of a call that shed its list: the list is counted and the call returns. -/
def System.countShed (sys : System) (index count : ℕ) : System :=
  { sys with
    calls := sys.calls.eraseIdx index
    dropped := sys.dropped.add bufferFull count }

/-- After the unlock of a call that appended: a send on the eager channel that never blocks, when
the size the call saw reaches the threshold, and the call returns. -/
def System.signal (sys : System) (index size : ℕ) : System :=
  { sys with
    calls := sys.calls.eraseIdx index
    batcher := { sys.batcher with
      flushCh := sys.batcher.flushCh || decide ((size : ℤ) ≥ sys.batcher.maxBatchSize) } }

/-- The context of `Start` ends. -/
def System.endContext (sys : System) : System :=
  { sys with
    cancelled := true
    history := { sys.history with atCancel := some sys.history.admitted } }

/-- The select receives and the loop calls `flushNow`. -/
def System.wake (sys : System) (trigger : Trigger) : System :=
  { sys with loop := .entered trigger }

/-- The select receives the token of the eager channel. -/
def System.takeToken (sys : System) : System :=
  { sys with
    loop := .entered .eager
    batcher := { sys.batcher with flushCh := false } }

/-- `flushNow` finds the buffer empty and returns. -/
def System.skipFlush (sys : System) (trigger : Trigger) : System :=
  { sys with loop := trigger.resume }

/-- `flushNow` swaps the buffer for an empty one. -/
def System.swapBuffer (sys : System) (trigger : Trigger) : System :=
  { sys with
    loop := .swapped trigger sys.batcher.buffer
    batcher := { sys.batcher with buffer := [] } }

/-- `flushNow` builds the envelope, calling the resource and the agent producer. -/
def System.buildBatch (sys : System) (trigger : Trigger) (events : List Event)
    (resource : Resource) (flushedAt : ℤ) : System :=
  { sys with
    loop := .prepared trigger
      { specVersion := specVersion
        resource := resource
        agent := operatorAgent sys.provider
        captureMode := .skeleton
        flushedAt := flushedAt
        events := events } }

/-- `flushNow` resolves the client and hands it the batch. -/
def System.handBatch (sys : System) (trigger : Trigger) (batch : IngestBatch) : System :=
  { sys with
    loop := .flushing trigger sys.provider.ingest batch
    history := { sys.history with
      handed := sys.history.handed ++ [⟨sys.provider.ingest, batch⟩] } }

/-- What a result does to the capture mode: a value that is not empty replaces it. -/
def captureModeAfter (mode : String) : FlushOutcome → String
  | .ok res => if res.captureModeRequested ≠ "" then res.captureModeRequested else mode
  | .error _ => mode

/-- What an outcome does to the sent counters: an error leaves them, a result adds the batch. -/
def sentAfter (sent : CounterVec Kind) (events : List Event) : FlushOutcome → CounterVec Kind
  | .ok _ => addSent sent events
  | .error _ => sent

/-- What an outcome does to the dropped counters: an error leaves them, a result adds its drop
reasons; `none` when the process panics. -/
def droppedAfter (dropped : CounterVec String) : FlushOutcome → Option (CounterVec String)
  | .ok res => addDropReasons dropped res.dropReasons.entries
  | .error _ => some dropped

/-- The admission numbers an addition of drop reasons is made for: those of the whole batch, since
the response does not say which of its events were dropped. -/
def countedBy (completion : Completion) : List ℕ :=
  match completion.outcome with
  | .ok res => if res.dropReasons.entries = [] then [] else completion.positions
  | .error _ => []

/-- The record of a flush that returns now. -/
def System.completion (sys : System) (batch : IngestBatch) (outcome : FlushOutcome) : Completion :=
  ⟨sys.history.completedCount, batch, outcome⟩

/-- `Flush` returned: the counters and the capture mode are updated and the loop resumes. -/
def System.completeFlush (sys : System) (trigger : Trigger) (batch : IngestBatch)
    (outcome : FlushOutcome) (dropped : CounterVec String) : System :=
  { sys with
    loop := trigger.resume
    sent := sentAfter sys.sent batch.events outcome
    dropped := dropped
    batcher := { sys.batcher with
      captureModeReq := captureModeAfter sys.batcher.captureModeReq outcome }
    history := { sys.history with
      completed := sys.history.completed ++ [sys.completion batch outcome]
      counted := sys.history.counted ++ countedBy (sys.completion batch outcome) } }

/-- The controller rotates the credentials. -/
def System.rotateTo (sys : System) (rotation : Rotation) : System :=
  { sys with
    provider := sys.provider.rotate rotation
    history := { sys.history with rotations := sys.history.rotations ++ [rotation] } }

/-! ### The step -/

/-- The step of an `Enqueue` call before its lock. -/
def System.lockSection (sys : System) (index : ℕ) (events : List Event) : System :=
  if events = [] then sys.dropCall index
  else if sys.batcher.buffer.length ≥ bufferDropThreshold then sys.shedAll index events
  else sys.appendAdmitted index events

/-- One atomic step, `none` when it is not enabled. -/
def System.step (sys : System) : Action → Option System
  | .call events => some (sys.noteCall events)
  | .lock index =>
    match sys.calls[index]? with
    | some (.called events) => some (sys.lockSection index events)
    | _ => none
  | .finish index =>
    match sys.calls[index]? with
    | some (.shedding count) => some (sys.countShed index count)
    | some (.signalling size) => some (sys.signal index size)
    | _ => none
  | .cancel => if sys.cancelled then none else some sys.endContext
  | .receiveTick =>
    match sys.loop with
    | .selecting => some (sys.wake .scheduled)
    | _ => none
  | .receiveToken =>
    match sys.loop with
    | .selecting => if sys.batcher.flushCh then some sys.takeToken else none
    | _ => none
  | .receiveDone =>
    match sys.loop with
    | .selecting => if sys.cancelled then some (sys.wake .drain) else none
    | _ => none
  | .swap =>
    match sys.loop with
    | .entered trigger =>
      if sys.batcher.buffer = [] then some (sys.skipFlush trigger)
      else some (sys.swapBuffer trigger)
    | _ => none
  | .build resource flushedAt =>
    match sys.loop with
    | .swapped trigger events => some (sys.buildBatch trigger events resource flushedAt)
    | _ => none
  | .hand =>
    match sys.loop with
    | .prepared trigger batch => some (sys.handBatch trigger batch)
    | _ => none
  | .complete answer =>
    match sys.loop with
    | .flushing trigger client batch =>
      match droppedAfter sys.dropped (client.flush batch answer) with
      | some dropped => some (sys.completeFlush trigger batch (client.flush batch answer) dropped)
      | none => none
    | _ => none
  | .rotate rotation => some (sys.rotateTo rotation)

/-- The state before the first step: a batcher as `NewBatcher` leaves it, and the provider rotated
to the bootstrap credentials. -/
def System.initial (opts : List BatcherOption) (rotation : Rotation) : System where
  batcher := newBatcher opts
  provider := buildInitialProvider rotation
  history := { rotations := [rotation] }

/-- The batcher as a machine, for every option list and every bootstrap configuration. -/
def batcherMachine : Machine System Action where
  start := fun sys ↦ ∃ opts rotation, sys = System.initial opts rotation
  step := System.step

/-! ### What a step can do -/

/-- The cases of an enabled step, with their guards. -/
inductive Transition (sys : System) : Action → System → Prop
  | called (events : List Event) : Transition sys (.call events) (sys.noteCall events)
  | returnedEmpty (index : ℕ) (hcall : sys.calls[index]? = some (.called [])) :
      Transition sys (.lock index) (sys.dropCall index)
  | shed (index : ℕ) (events : List Event) (hcall : sys.calls[index]? = some (.called events))
      (hevents : events ≠ []) (hfull : bufferDropThreshold ≤ sys.batcher.buffer.length) :
      Transition sys (.lock index) (sys.shedAll index events)
  | admitted (index : ℕ) (events : List Event)
      (hcall : sys.calls[index]? = some (.called events)) (hevents : events ≠ [])
      (hroom : sys.batcher.buffer.length < bufferDropThreshold) :
      Transition sys (.lock index) (sys.appendAdmitted index events)
  | countedShed (index count : ℕ) (hcall : sys.calls[index]? = some (.shedding count)) :
      Transition sys (.finish index) (sys.countShed index count)
  | signalled (index size : ℕ) (hcall : sys.calls[index]? = some (.signalling size)) :
      Transition sys (.finish index) (sys.signal index size)
  | contextEnded (hlive : sys.cancelled = false) : Transition sys .cancel sys.endContext
  | ticked (hloop : sys.loop = .selecting) : Transition sys .receiveTick (sys.wake .scheduled)
  | tokenTaken (hloop : sys.loop = .selecting) (htoken : sys.batcher.flushCh = true) :
      Transition sys .receiveToken sys.takeToken
  | doneReceived (hloop : sys.loop = .selecting) (hcancelled : sys.cancelled = true) :
      Transition sys .receiveDone (sys.wake .drain)
  | skipped (trigger : Trigger) (hloop : sys.loop = .entered trigger)
      (hempty : sys.batcher.buffer = []) : Transition sys .swap (sys.skipFlush trigger)
  | swappedOut (trigger : Trigger) (hloop : sys.loop = .entered trigger)
      (hbuffer : sys.batcher.buffer ≠ []) : Transition sys .swap (sys.swapBuffer trigger)
  | built (trigger : Trigger) (events : List Event) (resource : Resource) (flushedAt : ℤ)
      (hloop : sys.loop = .swapped trigger events) :
      Transition sys (.build resource flushedAt) (sys.buildBatch trigger events resource flushedAt)
  | handedOver (trigger : Trigger) (batch : IngestBatch)
      (hloop : sys.loop = .prepared trigger batch) :
      Transition sys .hand (sys.handBatch trigger batch)
  | completed (trigger : Trigger) (client : IngestClient) (batch : IngestBatch)
      (answer : FlushOutcome) (dropped : CounterVec String)
      (hloop : sys.loop = .flushing trigger client batch)
      (hdropped : droppedAfter sys.dropped (client.flush batch answer) = some dropped) :
      Transition sys (.complete answer)
        (sys.completeFlush trigger batch (client.flush batch answer) dropped)
  | rotated (rotation : Rotation) : Transition sys (.rotate rotation) (sys.rotateTo rotation)

/-- An enabled step is one of the cases of `Transition`. -/
theorem transition_of_step {sys next : System} {action : Action}
    (hstep : sys.step action = some next) : Transition sys action next := by
  cases action with
  | call events =>
    cases hstep
    exact .called events
  | lock index =>
    simp only [System.step] at hstep
    split at hstep
    · next events hcall =>
      cases hstep
      unfold System.lockSection
      split_ifs with hempty hfull
      · subst hempty
        exact .returnedEmpty index hcall
      · exact .shed index events hcall hempty hfull
      · exact .admitted index events hcall hempty (not_le.mp hfull)
    · cases hstep
  | finish index =>
    simp only [System.step] at hstep
    split at hstep
    · next count hcall =>
      cases hstep
      exact .countedShed index count hcall
    · next size hcall =>
      cases hstep
      exact .signalled index size hcall
    · cases hstep
  | cancel =>
    simp only [System.step] at hstep
    split_ifs at hstep with hcancelled
    cases hstep
    exact .contextEnded (by simpa using hcancelled)
  | receiveTick =>
    simp only [System.step] at hstep
    split at hstep
    · next hloop =>
      cases hstep
      exact .ticked hloop
    · cases hstep
  | receiveToken =>
    simp only [System.step] at hstep
    split at hstep
    · next hloop =>
      split_ifs at hstep with htoken
      cases hstep
      exact .tokenTaken hloop htoken
    · cases hstep
  | receiveDone =>
    simp only [System.step] at hstep
    split at hstep
    · next hloop =>
      split_ifs at hstep with hcancelled
      cases hstep
      exact .doneReceived hloop hcancelled
    · cases hstep
  | swap =>
    simp only [System.step] at hstep
    split at hstep
    · next trigger hloop =>
      split_ifs at hstep with hempty
      · cases hstep
        exact .skipped trigger hloop hempty
      · cases hstep
        exact .swappedOut trigger hloop hempty
    · cases hstep
  | build resource flushedAt =>
    simp only [System.step] at hstep
    split at hstep
    · next trigger events hloop =>
      cases hstep
      exact .built trigger events resource flushedAt hloop
    · cases hstep
  | hand =>
    simp only [System.step] at hstep
    split at hstep
    · next trigger batch hloop =>
      cases hstep
      exact .handedOver trigger batch hloop
    · cases hstep
  | complete answer =>
    simp only [System.step] at hstep
    split at hstep
    · next trigger client batch hloop =>
      split at hstep
      · next dropped hdropped =>
        cases hstep
        exact .completed trigger client batch answer dropped hloop hdropped
      · cases hstep
    · cases hstep
  | rotate rotation =>
    cases hstep
    exact .rotated rotation

/-- Each case of `Transition` is an enabled step. -/
theorem Transition.step_eq {sys next : System} {action : Action}
    (htransition : Transition sys action next) : sys.step action = some next := by
  cases htransition with
  | called events => rfl
  | returnedEmpty index hcall => simp [System.step, hcall, System.lockSection]
  | shed index events hcall hevents hfull =>
    simp [System.step, hcall, System.lockSection, hevents, hfull]
  | admitted index events hcall hevents hroom =>
    simp [System.step, hcall, System.lockSection, hevents, not_le.mpr hroom]
  | countedShed index count hcall => simp [System.step, hcall]
  | signalled index size hcall => simp [System.step, hcall]
  | contextEnded hlive => simp [System.step, hlive]
  | ticked hloop => simp [System.step, hloop]
  | tokenTaken hloop htoken => simp [System.step, hloop, htoken]
  | doneReceived hloop hcancelled => simp [System.step, hloop, hcancelled]
  | skipped trigger hloop hempty => simp [System.step, hloop, hempty]
  | swappedOut trigger hloop hbuffer => simp [System.step, hloop, hbuffer]
  | built trigger events resource flushedAt hloop => simp [System.step, hloop]
  | handedOver trigger batch hloop => simp [System.step, hloop]
  | completed trigger client batch answer dropped hloop hdropped =>
    simp [System.step, hloop, hdropped]
  | rotated rotation => rfl

/-- A case of `Transition` from a reachable state leads to a reachable state. -/
theorem Transition.reachable {sys next : System} {action : Action}
    (htransition : Transition sys action next) (hreach : batcherMachine.Reachable sys) :
    batcherMachine.Reachable next :=
  hreach.next htransition.step_eq

/-- The invariant rule of the batcher, by cases of `Transition`. -/
theorem batcher_invariant {motive : System → Prop}
    (hinitial : ∀ opts rotation, motive (System.initial opts rotation))
    (hstep : ∀ sys action next, batcherMachine.Reachable sys → motive sys →
      Transition sys action next → motive next)
    {sys : System} (hreach : batcherMachine.Reachable sys) : motive sys := by
  refine hreach.invariant ?_ fun state action next hbefore hmotive hnext ↦
    hstep state action next hbefore hmotive (transition_of_step hnext)
  rintro state ⟨opts, rotation, rfl⟩
  exact hinitial opts rotation

/-- A run from the start, replayed action by action, ends in a reachable state. -/
theorem reachable_of_run {opts : List BatcherOption} {rotation : Rotation} {actions : List Action}
    {sys : System}
    (hrun : batcherMachine.replay (System.initial opts rotation) actions = some sys) :
    batcherMachine.Reachable sys :=
  Machine.reachable_of_replay ⟨opts, rotation, rfl⟩ hrun

/-! ### Small runs -/

/-- An event of a started pod. -/
def podStarted : Event where
  id := "evt-1"
  kind := .k8sPodStarted
  severity := .info
  occurredAt := 1
  serviceID := "payments-api"
  attributes := ∅

/-- Bootstrap credentials. -/
def bootstrap : Rotation where
  apiKey := "sk_live_1"
  workspaceID := "org_1"

/-- One `Enqueue` call, from its call to its return, with no other call in progress. -/
def enqueueRun (events : List Event) : List Action :=
  [.call events, .lock 0, .finish 0]

/-- One flush, from the receive that triggers it to the return of `Flush`. -/
def flushRun (receive : Action) (answer : FlushOutcome) : List Action :=
  [receive, .swap, .build {} 1, .hand, .complete answer]

end IncidentaryOperator.Batch
