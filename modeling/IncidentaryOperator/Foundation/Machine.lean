import Mathlib

/-!
# Guarded machines, their runs and their invariants

A machine is a predicate on its starting states and an executable guarded step: `step state action`
is `some next` when the action is enabled in the state and `none` when it is not. An interleaving of
several parties is one list of actions, so a statement about every reachable state is a statement
about every interleaving.

`ReachableUnder guard` restricts the runs to those in which every step meets a condition on the
state before it and its action; `Reachable` is the unrestricted case. `ReachableUnder.invariant` is
the induction rule: a property of the starting states that every admitted step preserves holds in
every state reached. `replay` runs a concrete list of actions, and `reachable_of_replay` turns a
successful replay into a reachable state, which is how a single bad schedule is exhibited. `Along`
says that every step of such a list meets a condition; `ReachableUnder.replay` and
`replay_of_not_along` are the two halves of showing that the condition is exactly the right one.

`Simulation` is the forward simulation of one machine by another, each step of the first matched by
any finite number of steps of the second. `Simulation.exists_reachable` carries every reachable
state of the first to a reachable state of the second related to it.
-/

set_option autoImplicit false
set_option relaxedAutoImplicit false

namespace IncidentaryOperator.Foundation

/-- A machine: its starting states, and a guarded step that answers `none` when the action is not
enabled. -/
structure Machine (State Action : Type*) where
  start : State → Prop
  step : State → Action → Option State

namespace Machine

variable {State Action : Type*} (machine : Machine State Action)

/-- The states reached by runs all of whose steps meet `guard`, a condition on the state before the
step and on its action. -/
inductive ReachableUnder (guard : State → Action → Prop) : State → Prop
  | start {state : State} (hstart : machine.start state) : ReachableUnder guard state
  | step {state next : State} {action : Action} (hreach : ReachableUnder guard state)
      (hguard : guard state action) (hstep : machine.step state action = some next) :
      ReachableUnder guard next

/-- The states reached by runs with no condition on their steps. -/
def Reachable (state : State) : Prop :=
  machine.ReachableUnder (fun _ _ ↦ True) state

/-- Runs a list of actions from a state, oldest first; `none` as soon as one of them is not
enabled. -/
def replay : State → List Action → Option State
  | state, [] => some state
  | state, action :: rest =>
    match machine.step state action with
    | some next => replay next rest
    | none => none

/-- Every step of a run meets `guard`. -/
def Along (guard : State → Action → Prop) : State → List Action → Prop
  | _, [] => True
  | state, action :: rest => guard state action ∧
    match machine.step state action with
    | some next => Along guard next rest
    | none => True

variable {machine}

/-- The invariant rule for runs whose steps meet a condition. Assumes: the property holds in the
starting states, and every enabled step from a reached state that meets the condition preserves
it. -/
theorem ReachableUnder.invariant {guard : State → Action → Prop} {motive : State → Prop}
    (hstart : ∀ state, machine.start state → motive state)
    (hstep : ∀ state action next, machine.ReachableUnder guard state → motive state →
      guard state action → machine.step state action = some next → motive next)
    {state : State} (hreach : machine.ReachableUnder guard state) : motive state := by
  induction hreach with
  | start hbegin => exact hstart _ hbegin
  | step hbefore hguard hnext ih => exact hstep _ _ _ hbefore ih hguard hnext

/-- The invariant rule for all runs. Because the step may use that its state is reachable, an
invariant proved earlier is at hand in the proof of a later one. -/
theorem Reachable.invariant {motive : State → Prop}
    (hstart : ∀ state, machine.start state → motive state)
    (hstep : ∀ state action next, machine.Reachable state → motive state →
      machine.step state action = some next → motive next)
    {state : State} (hreach : machine.Reachable state) : motive state :=
  ReachableUnder.invariant hstart (fun state action next hbefore hmotive _ hnext ↦
    hstep state action next hbefore hmotive hnext) hreach

/-- A step from a reachable state reaches a reachable state. -/
theorem Reachable.next {state next : State} {action : Action} (hreach : machine.Reachable state)
    (hstep : machine.step state action = some next) : machine.Reachable next :=
  .step hreach trivial hstep

/-- A replay that succeeds begins with an enabled step and goes on from there. -/
theorem replay_cons {state last : State} {action : Action} {rest : List Action}
    (hreplay : machine.replay state (action :: rest) = some last) :
    ∃ next, machine.step state action = some next ∧ machine.replay next rest = some last := by
  simp only [Machine.replay] at hreplay
  split at hreplay
  · next next hnext => exact ⟨next, hnext, hreplay⟩
  · exact absurd hreplay (by simp)

theorem replay_singleton {state next : State} {action : Action}
    (hstep : machine.step state action = some next) :
    machine.replay state [action] = some next := by
  simp only [Machine.replay, hstep]

/-- A replay with one more action goes on from where the replay before it ended. -/
theorem replay_concat {state last : State} {actions : List Action} {action : Action} :
    machine.replay state (actions ++ [action]) = some last ↔
      ∃ before, machine.replay state actions = some before ∧
        machine.step before action = some last := by
  induction actions generalizing state with
  | nil =>
    simp only [List.nil_append, Machine.replay, Option.some.injEq, exists_eq_left']
    cases machine.step state action <;> simp
  | cons first rest ih =>
    simp only [List.cons_append, Machine.replay]
    cases machine.step state first with
    | none => simp
    | some next => exact ih

/-- The states of a run with one more action are those of the run before it and the last one. -/
theorem forall_states_concat {start last : State} {actions : List Action} {action : Action}
    (hrun : machine.replay start (actions ++ [action]) = some last) {property : State → Prop} :
    (∀ begun state, begun <+: actions ++ [action] → machine.replay start begun = some state →
      property state) ↔
      (∀ begun state, begun <+: actions → machine.replay start begun = some state →
        property state) ∧ property last := by
  constructor
  · intro hall
    exact ⟨fun begun state hbegun ↦ hall begun state (hbegun.trans (List.prefix_append _ _)),
      hall _ last (List.prefix_refl _) hrun⟩
  · rintro ⟨hshorter, hlast⟩ begun state hbegun hstate
    rcases List.prefix_concat_iff.mp hbegun with rfl | hshort
    · rw [hrun] at hstate
      exact Option.some.inj hstate ▸ hlast
    · exact hshorter begun state hshort hstate

/-- A run meets a condition when its first step does and the rest of it does. -/
theorem along_cons {guard : State → Action → Prop} {state next : State} {action : Action}
    {rest : List Action} (hnext : machine.step state action = some next) :
    machine.Along guard state (action :: rest) ↔
      guard state action ∧ machine.Along guard next rest := by
  simp only [Along, hnext]

/-- A successful replay all of whose steps meet a condition stays within the runs that meet it. -/
theorem ReachableUnder.replay {guard : State → Action → Prop} {state last : State}
    (hreach : machine.ReachableUnder guard state) {actions : List Action}
    (halong : machine.Along guard state actions)
    (hreplay : machine.replay state actions = some last) : machine.ReachableUnder guard last := by
  induction actions generalizing state with
  | nil =>
    simp only [Machine.replay, Option.some.injEq] at hreplay
    exact hreplay ▸ hreach
  | cons action rest ih =>
    obtain ⟨next, hnext, hrest⟩ := replay_cons hreplay
    obtain ⟨hguard, halong⟩ := (along_cons hnext).mp halong
    exact ih (.step hreach hguard hnext) halong hrest

/-- A condition that always holds is met by every run. -/
theorem along_true (state : State) (actions : List Action) :
    machine.Along (fun _ _ ↦ True) state actions := by
  induction actions generalizing state with
  | nil => exact trivial
  | cons action rest ih =>
    refine ⟨trivial, ?_⟩
    split
    · exact ih _
    · exact trivial

/-- A successful replay from a reachable state ends in a reachable state. -/
theorem Reachable.replay {state last : State} (hreach : machine.Reachable state)
    {actions : List Action} (hreplay : machine.replay state actions = some last) :
    machine.Reachable last :=
  ReachableUnder.replay hreach (along_true state actions) hreplay

/-- The rule for what follows from breaking a condition: if a step that does not meet it leads to
states with a property that no later step takes away, then every run that breaks it ends in such a
state. -/
theorem replay_of_not_along {guard : State → Action → Prop} {motive : State → Prop}
    (hbreak : ∀ state action next, ¬ guard state action →
      machine.step state action = some next → motive next)
    (hkeep : ∀ state action next, motive state → machine.step state action = some next →
      motive next)
    {state last : State} {actions : List Action}
    (hreplay : machine.replay state actions = some last)
    (hnot : ¬ machine.Along guard state actions) : motive last := by
  have hrest : ∀ (actions : List Action) (state : State), motive state →
      machine.replay state actions = some last → motive last := by
    intro actions
    induction actions with
    | nil =>
      intro state hmotive hdone
      simp only [Machine.replay, Option.some.injEq] at hdone
      exact hdone ▸ hmotive
    | cons action rest ih =>
      intro state hmotive hreplay
      obtain ⟨next, hnext, hrest⟩ := replay_cons hreplay
      exact ih next (hkeep state action next hmotive hnext) hrest
  induction actions generalizing state with
  | nil => exact absurd trivial hnot
  | cons action rest ih =>
    obtain ⟨next, hnext, hafter⟩ := replay_cons hreplay
    by_cases hguard : guard state action
    · exact ih hafter fun halong ↦ hnot ((along_cons hnext).mpr ⟨hguard, halong⟩)
    · exact hrest rest next (hbreak state action next hguard hnext) hafter

/-- A successful replay from a starting state ends in a reachable state. -/
theorem reachable_of_replay {state last : State} (hstart : machine.start state)
    {actions : List Action} (hreplay : machine.replay state actions = some last) :
    machine.Reachable last :=
  Reachable.replay (.start hstart) hreplay

end Machine

/-! ### Forward simulation -/

/-- A forward simulation of `concrete` by `abstract`: starting states are related to starting
states, and a step of the concrete machine from related states is matched by a replay of the
abstract one. -/
structure Simulation {State Action State' Action' : Type*} (concrete : Machine State Action)
    (abstract : Machine State' Action') where
  related : State → State' → Prop
  start : ∀ state, concrete.start state → ∃ image, abstract.start image ∧ related state image
  step : ∀ state image action next, related state image →
    concrete.step state action = some next →
      ∃ actions image', abstract.replay image actions = some image' ∧ related next image'

namespace Simulation

variable {State Action State' Action' : Type*} {concrete : Machine State Action}
  {abstract : Machine State' Action'}

/-- Every reachable state of the concrete machine is related to a reachable state of the abstract
one. -/
theorem exists_reachable (simulation : Simulation concrete abstract) {state : State}
    (hreach : concrete.Reachable state) :
    ∃ image, abstract.Reachable image ∧ simulation.related state image := by
  induction hreach with
  | start hbegin =>
    obtain ⟨image, himage, hrelated⟩ := simulation.start _ hbegin
    exact ⟨image, .start himage, hrelated⟩
  | step _ _ hnext ih =>
    obtain ⟨image, himage, hrelated⟩ := ih
    obtain ⟨actions, image', hreplay, hrelated'⟩ := simulation.step _ _ _ _ hrelated hnext
    exact ⟨image', himage.replay hreplay, hrelated'⟩

end Simulation

end IncidentaryOperator.Foundation
