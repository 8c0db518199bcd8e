import IncidentaryOperator.Foundation.Machine

/-!
# A first-in first-out ledger

The abstract purpose of a buffer between producers and a consumer: items enter in an order, the
consumer takes all that is held at once, and nothing is lost, duplicated or reordered on the way.
`Ledger` carries that balance as a field, so a ledger that forgets or invents an item cannot be
built, and `ledgerMachine` is the machine of its two operations. A concrete buffer is shown to keep
its items by simulating it with this machine.
-/

set_option autoImplicit false
set_option relaxedAutoImplicit false

namespace IncidentaryOperator.Foundation

/-- What entered, what has departed and what is still held, with the balance between them: the
departed items followed by the held ones are the entered ones, in order. -/
structure Ledger (α : Type*) where
  entered : List α
  departed : List α
  held : List α
  balanced : departed ++ held = entered

namespace Ledger

variable {α : Type*}

/-- The ledger nothing has entered. -/
def empty : Ledger α :=
  ⟨[], [], [], rfl⟩

/-- Items enter at the end of what is held. -/
def enter (ledger : Ledger α) (items : List α) : Ledger α where
  entered := ledger.entered ++ items
  departed := ledger.departed
  held := ledger.held ++ items
  balanced := by rw [← ledger.balanced, List.append_assoc]

/-- Everything held departs. -/
def depart (ledger : Ledger α) : Ledger α where
  entered := ledger.entered
  departed := ledger.departed ++ ledger.held
  held := []
  balanced := by rw [List.append_nil, ledger.balanced]

end Ledger

/-- An operation on a ledger. -/
inductive LedgerAction (α : Type*)
  | enter (items : List α)
  | depart

/-- The machine of a ledger, started empty. Both operations are always enabled. -/
def ledgerMachine (α : Type*) : Machine (Ledger α) (LedgerAction α) where
  start := fun ledger ↦ ledger = Ledger.empty
  step := fun ledger action ↦
    match action with
    | .enter items => some (ledger.enter items)
    | .depart => some ledger.depart

end IncidentaryOperator.Foundation
