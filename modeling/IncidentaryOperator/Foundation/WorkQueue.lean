import Mathlib.Data.Finset.Erase
import Mathlib.Data.Finset.Insert
import Mathlib.Tactic.Tauto

/-!
# Work queues

A queue of keys as its users see it: a key is added, at once or after a wait, and handed to a worker
later. A key added many times before it is handed out is handed out once, and one added while a
worker has it is handed out again. Which of the queued keys comes next is up to the queue, and so is
when a wait is over.

`WorkQueue` has the operations, what they are documented to do, and nothing else. `setQueue` is the
least queue of this kind: two sets.
-/

set_option autoImplicit false
set_option relaxedAutoImplicit false

namespace IncidentaryOperator.Foundation

/-- A work queue: its states, the keys to be handed out and those that wait to be added, and what
the operations do to them. -/
structure WorkQueue (Key : Type) where
  State : Type
  empty : State
  Queued : State → Key → Prop
  Waiting : State → Key → Prop
  add : State → Key → State
  addAfter : State → Key → State
  get : State → Key → Option State
  elapse : State → Key → Option State
  not_queued_empty : ∀ key, ¬ Queued empty key
  not_waiting_empty : ∀ key, ¬ Waiting empty key
  queued_add : ∀ q key other, Queued (add q key) other ↔ other = key ∨ Queued q other
  waiting_add : ∀ q key other, Waiting (add q key) other ↔ Waiting q other
  queued_addAfter : ∀ q key other, Queued (addAfter q key) other ↔ Queued q other
  waiting_addAfter : ∀ q key other, Waiting (addAfter q key) other ↔ other = key ∨ Waiting q other
  queued_of_get : ∀ {q key next}, get q key = some next →
    Queued q key ∧ ∀ other, Queued next other ↔ other ≠ key ∧ Queued q other
  waiting_of_get : ∀ {q key next}, get q key = some next →
    ∀ other, Waiting next other ↔ Waiting q other
  queued_of_elapse : ∀ {q key next}, elapse q key = some next →
    ∀ other, Queued next other ↔ other = key ∨ Queued q other
  waiting_of_elapse : ∀ {q key next}, elapse q key = some next →
    Waiting q key ∧ ∀ other, Waiting next other ↔ other ≠ key ∧ Waiting q other

namespace WorkQueue

variable {Key : Type} (queue : WorkQueue Key)

/-- Adds some keys, one after the other. -/
def addAll (q : queue.State) (keys : List Key) : queue.State :=
  keys.foldl queue.add q

theorem queued_addAll (q : queue.State) (keys : List Key) (other : Key) :
    queue.Queued (queue.addAll q keys) other ↔ other ∈ keys ∨ queue.Queued q other := by
  unfold addAll
  induction keys generalizing q with
  | nil => simp
  | cons key rest ih =>
    rw [List.foldl_cons, ih, queue.queued_add, List.mem_cons]
    tauto

theorem waiting_addAll (q : queue.State) (keys : List Key) (other : Key) :
    queue.Waiting (queue.addAll q keys) other ↔ queue.Waiting q other := by
  unfold addAll
  induction keys generalizing q with
  | nil => rfl
  | cons key rest ih => rw [List.foldl_cons, ih, queue.waiting_add]

end WorkQueue

/-- The queue of two sets: the keys to be handed out, and those that wait. -/
def setQueue (Key : Type) [DecidableEq Key] : WorkQueue Key where
  State := Finset Key × Finset Key
  empty := (∅, ∅)
  Queued := fun q key ↦ key ∈ q.1
  Waiting := fun q key ↦ key ∈ q.2
  add := fun q key ↦ (insert key q.1, q.2)
  addAfter := fun q key ↦ (q.1, insert key q.2)
  get := fun q key ↦ if key ∈ q.1 then some (q.1.erase key, q.2) else none
  elapse := fun q key ↦ if key ∈ q.2 then some (insert key q.1, q.2.erase key) else none
  not_queued_empty := fun _ ↦ Finset.notMem_empty _
  not_waiting_empty := fun _ ↦ Finset.notMem_empty _
  queued_add := fun _ _ _ ↦ Finset.mem_insert
  waiting_add := fun _ _ _ ↦ Iff.rfl
  queued_addAfter := fun _ _ _ ↦ Iff.rfl
  waiting_addAfter := fun _ _ _ ↦ Finset.mem_insert
  queued_of_get := by
    intro q key next hget
    obtain ⟨hqueued, ⟨⟩⟩ := Option.ite_none_right_eq_some.mp hget
    exact ⟨hqueued, fun _ ↦ Finset.mem_erase⟩
  waiting_of_get := by
    intro q key next hget other
    obtain ⟨-, ⟨⟩⟩ := Option.ite_none_right_eq_some.mp hget
    rfl
  queued_of_elapse := by
    intro q key next helapse other
    obtain ⟨-, ⟨⟩⟩ := Option.ite_none_right_eq_some.mp helapse
    exact Finset.mem_insert
  waiting_of_elapse := by
    intro q key next helapse
    obtain ⟨hwaiting, ⟨⟩⟩ := Option.ite_none_right_eq_some.mp helapse
    exact ⟨hwaiting, fun _ ↦ Finset.mem_erase⟩

end IncidentaryOperator.Foundation
