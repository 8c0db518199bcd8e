import Mathlib

/-!
# Runs of a step with an output

A step takes a state and an input to the next state and an output, and is always enabled. A run over
a list of inputs is the list of its steps, each with the state before and after it
(`stepsFrom`). A property of single steps holds of every step of every run
(`forall_mem_stepsFrom`), also when it needs an invariant that the inputs of the run keep
(`forall_mem_stepsFrom_of_invariant`), and what every step keeps, in the sense of a reflexive and
transitive relation, is kept from any step of a run to any later one (`pairwise_stepsFrom`).
-/

set_option autoImplicit false
set_option relaxedAutoImplicit false

namespace IncidentaryOperator.Foundation

variable {State Input Output : Type*}

/-- One step of a run. -/
structure RunStep (State Input Output : Type*) where
  before : State
  input : Input
  after : State
  output : Output

/-- The step from a state on an input. -/
def stepOn (next : State → Input → State × Output) (state : State) (input : Input) :
    RunStep State Input Output :=
  ⟨state, input, (next state input).1, (next state input).2⟩

/-- The steps of a run, oldest first. -/
def stepsFrom (next : State → Input → State × Output) :
    State → List Input → List (RunStep State Input Output)
  | _, [] => []
  | state, input :: rest =>
    stepOn next state input :: stepsFrom next (next state input).1 rest

variable {next : State → Input → State × Output}

/-- What an invariant implies of single steps holds of every step of every run from a state with the
invariant. Assumes: the inputs of the run keep the invariant. -/
theorem forall_mem_stepsFrom_of_invariant (invariant : State → Prop)
    {property : RunStep State Input Output → Prop} {inputs : List Input}
    (hkept : ∀ state, invariant state → ∀ input ∈ inputs, invariant (next state input).1)
    (hstep : ∀ state, invariant state → ∀ input ∈ inputs, property (stepOn next state input))
    {state : State} (hstart : invariant state) :
    ∀ step ∈ stepsFrom next state inputs, property step := by
  induction inputs generalizing state with
  | nil => exact List.forall_mem_nil _
  | cons input rest ih =>
    refine List.forall_mem_cons.mpr ⟨hstep state hstart input List.mem_cons_self, ?_⟩
    apply ih
    · exact fun state hstate other hother ↦ hkept state hstate other (List.mem_cons_of_mem _ hother)
    · exact fun state hstate other hother ↦ hstep state hstate other (List.mem_cons_of_mem _ hother)
    · exact hkept state hstart input List.mem_cons_self

/-- Assumes: the property holds of the step from any state on any input of the run. -/
theorem forall_mem_stepsFrom {property : RunStep State Input Output → Prop} {inputs : List Input}
    (hstep : ∀ state, ∀ input ∈ inputs, property (stepOn next state input)) (state : State) :
    ∀ step ∈ stepsFrom next state inputs, property step :=
  forall_mem_stepsFrom_of_invariant (fun _ ↦ True) (fun _ _ _ _ ↦ trivial)
    (fun state _ ↦ hstep state) trivial

section Kept

variable {keeps : State → State → Prop} (hrefl : ∀ state, keeps state state)
  (htrans : ∀ first second third, keeps first second → keeps second third → keeps first third)
  (hstep : ∀ state input, keeps state (next state input).1)

include hrefl htrans hstep

/-- From the first state of a run to the state before each of its steps. -/
theorem keeps_before (state : State) (inputs : List Input) :
    ∀ step ∈ stepsFrom next state inputs, keeps state step.before := by
  induction inputs generalizing state with
  | nil => exact List.forall_mem_nil _
  | cons input rest ih =>
    refine List.forall_mem_cons.mpr ⟨hrefl state, fun step hmem ↦ ?_⟩
    exact htrans _ _ _ (hstep state input) (ih _ step hmem)

/-- From the state after a step of a run to the state before any later one. -/
theorem pairwise_stepsFrom (state : State) (inputs : List Input) :
    (stepsFrom next state inputs).Pairwise fun earlier later ↦
      keeps earlier.after later.before := by
  induction inputs generalizing state with
  | nil => exact List.Pairwise.nil
  | cons input rest ih =>
    exact List.Pairwise.cons (keeps_before hrefl htrans hstep _ rest) (ih _)

end Kept

end IncidentaryOperator.Foundation
