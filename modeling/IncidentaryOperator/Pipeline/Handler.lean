import IncidentaryOperator.Filter.Severity
import IncidentaryOperator.Mapper.Dispatch

/-!
# The pipeline

`cmd/pipeline.go` between the informers and the batcher: each notification is dispatched to the
mapper, the events are filtered in place, and the survivors go to `Enqueue` in one call.

`emit` recovers from a panic of the mapper; the modelled mapper is total and has none. The run of a
list of notifications numbers the events of each after those of the ones before, and each comes with
the content of the resolver's store at its time.
-/

set_option autoImplicit false
set_option relaxedAutoImplicit false

namespace IncidentaryOperator.Pipeline

open WireFormat Kubernetes FilterPolicy Mapper

/-- A notification of an informer. -/
inductive Notification
  | added (obj : Object)
  | updated (old new : Object)
  | deleted (obj : Object)

/-- The old object the handler passes on: none for an add. -/
def Notification.oldObj : Notification → Option Object
  | .added _ => none
  | .updated old _ => some old
  | .deleted obj => some obj

/-- The new object the handler passes on: none for a delete. -/
def Notification.newObj : Notification → Option Object
  | .added obj => some obj
  | .updated _ new => some new
  | .deleted _ => none

/-- What `emit` did: the events it enqueued, none when it did not call `Enqueue`, and the tier
labels it counted filtered events under. -/
structure Emitted where
  enqueued : List Event := []
  filtered : List String := []

/-- The label a filtered event is counted under. -/
def tierLabel (ev : Event) : String :=
  if isTier1 ev.kind then "tier1" else "tier2"

/-- `emit`. -/
def emit (rt : Runtime) (reader : Reader) (f : SeverityFilter) (seq : ℕ)
    (oldObj newObj : Option Object) : Emitted :=
  match dispatch rt reader seq oldObj newObj with
  | .error _ => {}
  | .ok events =>
    { enqueued := events.filter f.accept
      filtered := (events.filter fun ev ↦ !f.accept ev).map tierLabel }

/-- `OnAdd`, `OnUpdate` and `OnDelete`. -/
def handle (rt : Runtime) (reader : Reader) (f : SeverityFilter) (seq : ℕ)
    (notification : Notification) : Emitted :=
  emit rt reader f seq notification.oldObj notification.newObj

/-- The number of events the mapper returned for a notification. -/
def dispatchedCount (rt : Runtime) (reader : Reader) (seq : ℕ) (notification : Notification) : ℕ :=
  (returned (dispatch rt reader seq notification.oldObj notification.newObj)).length

/-- The events a list of notifications enqueues, in order, numbered from `seq` on. -/
def enqueuedBy (rt : Runtime) (f : SeverityFilter) :
    ℕ → List (Reader × Notification) → List Event
  | _, [] => []
  | seq, (reader, notification) :: rest =>
    (handle rt reader f seq notification).enqueued ++
      enqueuedBy rt f (seq + dispatchedCount rt reader seq notification) rest

/-- What a notification enqueues is what the mapper returned, filtered. -/
theorem handle_enqueued (rt : Runtime) (reader : Reader) (f : SeverityFilter) (seq : ℕ)
    (notification : Notification) :
    (handle rt reader f seq notification).enqueued =
      (returned (dispatch rt reader seq notification.oldObj notification.newObj)).filter
        f.accept := by
  unfold handle emit
  cases dispatch rt reader seq notification.oldObj notification.newObj <;> rfl

end IncidentaryOperator.Pipeline
