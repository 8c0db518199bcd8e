import Mathlib

/-!
# Sums over labels

A vector of counters is a function from labels to numbers, with all but finitely many of them zero.
Its total over the labels of a set is a `finsum`, and what is added to the counters item by item
can be summed item by item: the labels of a finite type each item has one of
(`sum_countP_fiber`), functions of finite support added up over a list (`finsum_mem_list_sum`), and
the entries of an association list (`finsum_mem_entryAt`).
-/

set_option autoImplicit false
set_option relaxedAutoImplicit false

namespace IncidentaryOperator.Foundation

variable {α ι : Type*}

/-- Counting the items of each label counts all items. -/
theorem sum_countP_fiber [Fintype ι] [DecidableEq ι] (label : α → ι) (items : List α) :
    ∑ l, items.countP (fun item ↦ label item = l) = items.length := by
  induction items with
  | nil => simp
  | cons item rest ih =>
    simp only [List.countP_cons, Finset.sum_add_distrib, ih, List.length_cons, decide_eq_true_eq,
      Finset.sum_ite_eq, Finset.mem_univ, if_true]

/-- The total of a sum over a list is the sum of the totals. -/
theorem finsum_mem_list_sum (s : Set ι) (f : α → ι → ℕ) {items : List α}
    (hfinite : ∀ item ∈ items, (Function.support (f item)).Finite) :
    ∑ᶠ l ∈ s, (items.map fun item ↦ f item l).sum =
        (items.map fun item ↦ ∑ᶠ l ∈ s, f item l).sum ∧
      (Function.support fun l ↦ (items.map fun item ↦ f item l).sum).Finite := by
  induction items with
  | nil => simp
  | cons item rest ih =>
    obtain ⟨hitem, hrest⟩ := List.forall_mem_cons.mp hfinite
    obtain ⟨htotal, hsupport⟩ := ih hrest
    simp only [List.map_cons, List.sum_cons]
    constructor
    · rw [finsum_mem_add_distrib' (hitem.inter_of_right s) (hsupport.inter_of_right s), htotal]
    · exact (hitem.union hsupport).subset (Function.support_add _ _)

variable {β : Type*} [DecidableEq ι] (weight : β → ℕ)

/-- The weight of what an association list gives for a label, zero when it has nothing. -/
def entryAt (entries : List (Sigma fun _ : ι ↦ β)) (l : ι) : ℕ :=
  ((entries.dlookup l).map weight).getD 0

theorem support_entryAt_finite (entries : List (Sigma fun _ : ι ↦ β)) :
    (Function.support (entryAt weight entries)).Finite := by
  refine (List.finite_toSet entries.keys).subset fun l hl ↦ ?_
  by_contra hkey
  exact hl (by simp [entryAt, List.dlookup_eq_none.mpr hkey])

/-- The total of an association list over the labels of a set is the sum of the weights there. -/
theorem finsum_mem_entryAt (s : Set ι) [DecidablePred (· ∈ s)]
    {entries : List (Sigma fun _ : ι ↦ β)} (hkeys : entries.NodupKeys) :
    ∑ᶠ l ∈ s, entryAt weight entries l =
      ((entries.filter fun entry ↦ entry.1 ∈ s).map fun entry ↦ weight entry.2).sum := by
  induction entries with
  | nil => simp [entryAt]
  | cons entry rest ih =>
    obtain ⟨key, value⟩ := entry
    obtain ⟨hfresh, hrest⟩ := List.nodupKeys_cons.mp hkeys
    have hsplit : entryAt weight (⟨key, value⟩ :: rest) =
        fun l ↦ (if l = key then weight value else 0) + entryAt weight rest l := by
      funext l
      unfold entryAt
      by_cases hl : l = key
      · subst hl
        rw [List.dlookup_cons_eq, List.dlookup_eq_none.mpr hfresh]
        simp
      · rw [List.dlookup_cons_ne _ _ hl]
        simp [hl]
    have hsingle : (Function.support fun l ↦ if l = key then weight value else 0).Finite := by
      refine (Set.finite_singleton key).subset fun l hl ↦ ?_
      by_contra hne
      exact hl (if_neg hne)
    have hfirst : ∑ᶠ l ∈ s, (if l = key then weight value else 0) =
        if key ∈ s then weight value else 0 := by
      rw [finsum_mem_def, finsum_eq_single _ key fun l hl ↦ by simp [Set.indicator, hl]]
      simp [Set.indicator]
    rw [hsplit, finsum_mem_add_distrib' (hsingle.inter_of_right s)
      ((support_entryAt_finite weight rest).inter_of_right s), hfirst, ih hrest, List.filter_cons]
    split_ifs with hmem <;> simp_all

end IncidentaryOperator.Foundation
