import IncidentaryOperator.Batch.Conservation
import IncidentaryOperator.Controller.Reconcile
import IncidentaryOperator.Foundation.Merge
import IncidentaryOperator.Pipeline.Handler

/-!
# The informers

`internal/informers`: for each entry of the watch set `Start` registers three callbacks, which
assert that the values they get are objects, unwrap the sentinel of a deletion that was only noticed
at a relist, and call the pipeline.

The whole pipeline is a machine over the batcher. An informer runs its callbacks one after the
other, and those of different informers run at the same time: a callback dispatches and filters, and
if something is accepted it is in `Enqueue` until that call returns. Dispatching touches no shared
state but the source of ids, so it is one step with the start of the `Enqueue` call; the steps of
the call and of the loop are those of the batcher (`Batch.System.step`).

`owners` and `admitters` name the informers of the calls in progress and of the lock sections, and
`handled` is the record of the callbacks. No step reads the latter two.
-/

set_option autoImplicit false
set_option relaxedAutoImplicit false

namespace IncidentaryOperator.Informers

open Foundation WireFormat Kubernetes FilterPolicy Mapper Pipeline Batch

/-! ### Callbacks -/

/-- A value an informer passes to a callback: an object, the sentinel of a deletion noticed at a
relist, which carries a value of its own, or anything else. -/
inductive Raw
  | object (obj : Object)
  | deletedFinalStateUnknown (key : String) (obj : Raw)
  | foreign

/-- The type assertion `raw.(client.Object)`. -/
def Raw.asObject : Raw → Option Object
  | .object obj => some obj
  | _ => none

/-- `unwrapTombstone`. One sentinel is unwrapped; a sentinel in a sentinel is no object. -/
def unwrapTombstone : Raw → Option Object
  | .deletedFinalStateUnknown _ obj => obj.asObject
  | raw => raw.asObject

/-- A call of one of the functions `Start` registers. -/
inductive Callback
  | addFunc (raw : Raw)
  | updateFunc (oldRaw newRaw : Raw)
  | deleteFunc (raw : Raw)

/-- What a callback passes on to the handler, if its values are objects. -/
def Callback.notification : Callback → Option Notification
  | .addFunc raw => raw.asObject.map .added
  | .updateFunc oldRaw newRaw =>
    match oldRaw.asObject, newRaw.asObject with
    | some oldObj, some newObj => some (.updated oldObj newObj)
    | _, _ => none
  | .deleteFunc raw => (unwrapTombstone raw).map .deleted

/-! ### The machine -/

/-- The informers, one for each entry of the watch set. -/
abbrev Informer := Fin Controller.watchSet.length

/-- A callback with what the resolver's store holds at its time and the number of its first
event. -/
structure Handled where
  callback : Callback
  reader : Reader
  seq : ℕ

/-- The events the mapper returns in a callback. -/
def Handled.returned (rt : Runtime) (handled : Handled) : List Event :=
  match handled.callback.notification with
  | none => []
  | some notification =>
    Mapper.returned (dispatch rt handled.reader handled.seq notification.oldObj
      notification.newObj)

/-- The events a callback passes to `Enqueue`. -/
def Handled.accepted (rt : Runtime) (f : SeverityFilter) (handled : Handled) : List Event :=
  match handled.callback.notification with
  | none => []
  | some notification => (handle rt handled.reader f handled.seq notification).enqueued

/-- The pipeline: the batcher, the number of events built so far, the informers whose `Enqueue`
calls are in progress, in the order of the calls, and the record. -/
structure Operator where
  system : Batch.System
  seq : ℕ := 0
  owners : List Informer := []
  admitters : List Informer := []
  handled : List (Informer × Handled) := []

/-- A step: an informer runs a callback up to its `Enqueue` call, or a step of the batcher. -/
inductive Action
  | callback (informer : Informer) (callback : Callback) (reader : Reader)
  | batcher (action : Batch.Action)

section Machine

variable (rt : Runtime) (f : SeverityFilter)

/-- A callback, run now. -/
def Operator.handling (op : Operator) (callback : Callback) (reader : Reader) : Handled :=
  ⟨callback, reader, op.seq⟩

/-- The mapper returns its events. -/
def Operator.note (op : Operator) (informer : Informer) (handled : Handled) : Operator :=
  { op with
    seq := op.seq + (handled.returned rt).length
    handled := op.handled ++ [(informer, handled)] }

/-- The accepted events are passed to `Enqueue`. -/
def Operator.enqueue (op : Operator) (informer : Informer) (events : List Event) : Operator :=
  { op with
    system := op.system.noteCall events
    owners := op.owners ++ [informer] }

/-- A callback up to its `Enqueue` call: nothing is enqueued when nothing is accepted. -/
def Operator.run (op : Operator) (informer : Informer) (handled : Handled) : Operator :=
  if handled.accepted rt f = [] then op.note rt informer handled
  else (op.note rt informer handled).enqueue informer (handled.accepted rt f)

/-- The lock section of a call, noted for its informer. -/
def Operator.locked (op : Operator) (index : ℕ) (system : Batch.System) : Operator :=
  { op with
    system := system
    admitters := op.admitters ++ op.owners[index]?.toList }

/-- A call returns, and with it its callback. -/
def Operator.finished (op : Operator) (index : ℕ) (system : Batch.System) : Operator :=
  { op with
    system := system
    owners := op.owners.eraseIdx index }

/-- One step. A callback runs when no other callback of its informer does, and only callbacks call
`Enqueue`. -/
def Operator.step (op : Operator) : Action → Option Operator
  | .callback informer callback reader =>
    if informer ∈ op.owners then none
    else some (op.run rt f informer (op.handling callback reader))
  | .batcher (.call _) => none
  | .batcher (.lock index) => (op.system.step (.lock index)).map (op.locked index)
  | .batcher (.finish index) => (op.system.step (.finish index)).map (op.finished index)
  | .batcher action => (op.system.step action).map fun system ↦ { op with system := system }

/-- The pipeline as a machine, for every option list and every bootstrap configuration. -/
def pipelineMachine : Machine Operator Action where
  start := fun op ↦ ∃ opts rotation, op = { system := System.initial opts rotation }
  step := Operator.step rt f

end Machine

/-! ### What a step can do -/

variable {rt : Runtime} {f : SeverityFilter}

/-- The calls in progress, the lock sections and the number of events passed to `Enqueue` are the
same in two states of the batcher. -/
structure SameCalls (sys next : Batch.System) : Prop where
  calls : next.calls = sys.calls
  admissions : next.history.admissions = sys.history.admissions
  offered : next.history.offered = sys.history.offered

/-- The cases of an enabled step. A step of the batcher that is no step of a call leaves the calls
as they are. -/
inductive Progress (rt : Runtime) (f : SeverityFilter) (op : Operator) : Action → Operator → Prop
  | ignored (informer : Informer) (callback : Callback) (reader : Reader)
      (hnone : (op.handling callback reader).accepted rt f = []) :
      Progress rt f op (.callback informer callback reader)
        (op.note rt informer (op.handling callback reader))
  | called (informer : Informer) (callback : Callback) (reader : Reader)
      (hfree : informer ∉ op.owners) (hsome : (op.handling callback reader).accepted rt f ≠ []) :
      Progress rt f op (.callback informer callback reader)
        ((op.note rt informer (op.handling callback reader)).enqueue informer
          ((op.handling callback reader).accepted rt f))
  | locked (index : ℕ) {system : Batch.System} (hstep : Transition op.system (.lock index) system) :
      Progress rt f op (.batcher (.lock index)) (op.locked index system)
  | finished (index : ℕ) {system : Batch.System}
      (hstep : Transition op.system (.finish index) system) :
      Progress rt f op (.batcher (.finish index)) (op.finished index system)
  | other (action : Batch.Action) {system : Batch.System}
      (hstep : Transition op.system action system) (hsame : SameCalls op.system system) :
      Progress rt f op (.batcher action) { op with system := system }

theorem progress_of_step {op next : Operator} {action : Action}
    (hstep : op.step rt f action = some next) : Progress rt f op action next := by
  cases action with
  | callback informer callback reader =>
    simp only [Operator.step] at hstep
    split_ifs at hstep with hbusy
    rw [← Option.some.inj hstep, Operator.run]
    split_ifs with hnone
    · exact .ignored informer callback reader hnone
    · exact .called informer callback reader hbusy hnone
  | batcher action =>
    cases action with
    | call events => cases hstep
    | lock index =>
      obtain ⟨system, hsystem, rfl⟩ := Option.map_eq_some_iff.mp hstep
      exact .locked index (transition_of_step hsystem)
    | finish index =>
      obtain ⟨system, hsystem, rfl⟩ := Option.map_eq_some_iff.mp hstep
      exact .finished index (transition_of_step hsystem)
    | _ =>
      simp only [Operator.step] at hstep
      obtain ⟨system, hsystem, rfl⟩ := Option.map_eq_some_iff.mp hstep
      have htransition := transition_of_step hsystem
      refine .other _ htransition ?_
      cases htransition <;> exact ⟨rfl, rfl, rfl⟩

/-- The invariant rule of the pipeline, by cases of `Progress`. -/
theorem pipeline_invariant {motive : Operator → Prop}
    (hinitial : ∀ opts rotation, motive { system := System.initial opts rotation })
    (hstep : ∀ op action next, motive op → Progress rt f op action next → motive next)
    {op : Operator} (hreach : (pipelineMachine rt f).Reachable op) : motive op := by
  refine hreach.invariant ?_ fun state action next _ hmotive hnext ↦
    hstep state action next hmotive (progress_of_step hnext)
  rintro state ⟨opts, rotation, rfl⟩
  exact hinitial opts rotation

/-- The batcher in a reachable state of the pipeline is in a reachable state of its own. -/
theorem reachable_system {op : Operator} (hreach : (pipelineMachine rt f).Reachable op) :
    batcherMachine.Reachable op.system := by
  refine pipeline_invariant (motive := fun op ↦ batcherMachine.Reachable op.system) ?_ ?_ hreach
  · intro opts rotation
    exact .start ⟨opts, rotation, rfl⟩
  · intro op action next hsystem hprogress
    cases hprogress with
    | ignored informer callback reader hnone => exact hsystem
    | called informer callback reader hfree hsome =>
      exact Transition.reachable (.called _) hsystem
    | locked index hstep => exact hstep.reachable hsystem
    | finished index hstep => exact hstep.reachable hsystem
    | other action hstep hsame => exact hstep.reachable hsystem

end IncidentaryOperator.Informers
