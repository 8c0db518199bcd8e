import Mathlib

/-!
# Edges of a run of snapshots

A watcher that sees a run of snapshots one after the other sees each with the one before it, the
first with none. An edge-triggered observer reacts to such a pair alone, and what it has reported
over the whole run is then a fact about the run: a level that is reported when it changes is the run
of levels with repeats removed (`flatMap_deliveriesFrom_changes`), and a condition that is reported
when it becomes true is counted once for each rising edge (`sum_map_indicator`).
-/

set_option autoImplicit false
set_option relaxedAutoImplicit false

namespace IncidentaryOperator.Foundation

variable {α β : Type*}

/-- A run of snapshots as it is delivered after `prev`: each with the one before it. -/
def deliveriesFrom : Option α → List α → List (Option α × α)
  | _, [] => []
  | prev, snapshot :: rest => (prev, snapshot) :: deliveriesFrom (some snapshot) rest

/-- A run of snapshots as it is delivered from the start: an add, then updates. -/
def deliveries (snapshots : List α) : List (Option α × α) :=
  deliveriesFrom none snapshots

@[simp] theorem length_deliveriesFrom (prev : Option α) (snapshots : List α) :
    (deliveriesFrom prev snapshots).length = snapshots.length := by
  induction snapshots generalizing prev with
  | nil => rfl
  | cons snapshot rest ih => rw [deliveriesFrom, List.length_cons, ih, List.length_cons]

/-- A run goes on from the last snapshot of its first part. -/
theorem deliveriesFrom_append (prev : Option α) (first second : List α) :
    deliveriesFrom prev (first ++ second) =
      deliveriesFrom prev first ++ deliveriesFrom (first.getLast?.or prev) second := by
  induction first generalizing prev with
  | nil => rfl
  | cons snapshot rest ih =>
    have hlast : rest.getLast?.or (some snapshot) = (snapshot :: rest).getLast?.or prev := by
      rw [List.getLast?_cons]
      cases rest.getLast? <;> rfl
    rw [List.cons_append, deliveriesFrom, ih, deliveriesFrom, List.cons_append, hlast]

theorem take_deliveriesFrom (prev : Option α) (snapshots : List α) (n : ℕ) :
    (deliveriesFrom prev snapshots).take n = deliveriesFrom prev (snapshots.take n) := by
  induction snapshots generalizing prev n with
  | nil => simp [deliveriesFrom]
  | cons snapshot rest ih =>
    cases n with
    | zero => rfl
    | succ n => rw [deliveriesFrom, List.take_succ_cons, ih, List.take_succ_cons, deliveriesFrom]

/-- A run with one more snapshot has one more delivery, from the last snapshot before. -/
theorem deliveries_concat (snapshots : List α) (snapshot : α) :
    deliveries (snapshots ++ [snapshot]) =
      deliveries snapshots ++ [(snapshots.getLast?, snapshot)] := by
  rw [deliveries, deliveriesFrom_append, Option.or_none]
  rfl

/-- After a first snapshot, each delivery is from a snapshot of the run to a later one. -/
theorem exists_prev_of_mem_deliveriesFrom {snapshot : α} {rest : List α}
    {delivery : Option α × α} (hmem : delivery ∈ deliveriesFrom (some snapshot) rest) :
    ∃ prev ∈ snapshot :: rest, delivery.1 = some prev ∧ delivery.2 ∈ rest := by
  induction rest generalizing snapshot with
  | nil => exact absurd hmem (List.not_mem_nil)
  | cons next rest ih =>
    rcases List.mem_cons.mp hmem with rfl | hlater
    · exact ⟨snapshot, List.mem_cons_self, rfl, List.mem_cons_self⟩
    · obtain ⟨prev, hprev, hfrom, hto⟩ := ih hlater
      exact ⟨prev, List.mem_cons_of_mem _ hprev, hfrom, List.mem_cons_of_mem _ hto⟩

/-- What holds between each two adjacent snapshots holds between the two of each delivery. -/
theorem rel_of_mem_deliveriesFrom {rel : α → α → Prop} {prev : Option α} {snapshots : List α}
    (hchain : (prev.toList ++ snapshots).IsChain rel) {old new : α}
    (hmem : (some old, new) ∈ deliveriesFrom prev snapshots) : rel old new := by
  induction snapshots generalizing prev with
  | nil => exact absurd hmem List.not_mem_nil
  | cons snapshot rest ih =>
    have hrest : (snapshot :: rest).IsChain rel := hchain.right_of_append
    rcases List.mem_cons.mp hmem with hfirst | hlater
    · obtain ⟨rfl, rfl⟩ := Prod.mk.inj hfirst
      exact (List.isChain_cons_cons.mp hchain).1
    · exact @ih (some snapshot) hrest hlater

theorem rel_of_mem_deliveries {rel : α → α → Prop} {snapshots : List α}
    (hchain : snapshots.IsChain rel) {old new : α}
    (hmem : (some old, new) ∈ deliveries snapshots) : rel old new :=
  rel_of_mem_deliveriesFrom hchain hmem

/-- The condition holds in the new snapshot, and there was no old one or it did not hold there. -/
def risingEdge (holds : α → Bool) (delivery : Option α × α) : Bool :=
  holds delivery.2 && !delivery.1.any holds

theorem risingEdge_eq_true {holds : α → Bool} {prev : Option α} {snapshot : α} :
    risingEdge holds (prev, snapshot) = true ↔ holds snapshot = true ∧ ¬ prev.any holds = true := by
  simp [risingEdge]

/-- A snapshot repeated is no edge. -/
@[simp] theorem risingEdge_self (holds : α → Bool) (snapshot : α) :
    risingEdge holds (some snapshot, snapshot) = false := by
  cases hholds : holds snapshot <;> simp [risingEdge, hholds]

/-- A destuttered list begins with the element it starts from. -/
theorem exists_destutter'_eq_cons [DecidableEq β] (start : β) (items : List β) :
    ∃ tail, items.destutter' (· ≠ ·) start = start :: tail := by
  induction items with
  | nil => exact ⟨[], rfl⟩
  | cons item rest ih =>
    by_cases hdiffers : start ≠ item
    · exact ⟨_, List.destutter'_cons_pos _ hdiffers⟩
    · rw [List.destutter'_cons_neg _ hdiffers]
      exact ih

/-- Reporting a level whenever it differs from the one before, with `init` before the first, reports
the run of levels after `init` with consecutive repeats removed. -/
theorem flatMap_deliveriesFrom_changes [DecidableEq β] (level : α → β) (init : β)
    (prev : Option α) (snapshots : List α) :
    ((deliveriesFrom prev snapshots).flatMap fun delivery ↦
      if level delivery.2 = (delivery.1.map level).getD init then [] else [level delivery.2]) =
        (((prev.map level).getD init :: snapshots.map level).destutter (· ≠ ·)).tail := by
  induction snapshots generalizing prev with
  | nil => rfl
  | cons snapshot rest ih =>
    have hrest := ih (some snapshot)
    rw [Option.map_some, Option.getD_some, List.destutter_cons'] at hrest
    rw [deliveriesFrom, List.flatMap_cons, hrest, List.map_cons, List.destutter_cons']
    by_cases hsame : level snapshot = (prev.map level).getD init
    · rw [if_pos hsame, List.nil_append, ← hsame,
        List.destutter'_cons_neg _ (fun hne ↦ hne rfl)]
    · rw [if_neg hsame, List.destutter'_cons_pos _ (Ne.symm hsame), List.tail_cons]
      obtain ⟨tail, htail⟩ := exists_destutter'_eq_cons (level snapshot) (rest.map level)
      rw [htail]
      rfl

/-- Adding one for each element with a property counts them. -/
theorem sum_map_indicator (holds : α → Bool) (items : List α) :
    (items.map fun item ↦ if holds item then 1 else 0).sum = items.countP holds := by
  induction items with
  | nil => rfl
  | cons item rest ih =>
    rw [List.map_cons, List.sum_cons, ih, List.countP_cons, Nat.add_comm]

end IncidentaryOperator.Foundation
