import Mathlib

/-!
# Bound-checked slices and counted loops

An index outside a slice stops a Go program, so an access here is an option: `xs[i]?` reads, and
`store` writes. A loop over consecutive indices passes the option on (`countedLoop`), and
`countedLoop_invariant` is its rule: a property of the index and the state that every round
preserves, each round running to its end, holds after the loop, which runs to its end as well.

Slices can share a backing array. A `Heap` is the arrays by number and a `Slice` is a header into
one of them. `Heap.append` writes into the array while the slice has room and moves the slice to a
new array otherwise, so that an append can change what another slice reads. `filterInPlace` is the
idiom that relies on this: the elements of a slice that pass a test are appended to an empty slice
of the same array while the first one is read. `filterInPlace_eq` is its correctness, and the reason
is `Compacted`: the kept elements are no more than the elements read, so what is written was read
before.
-/

set_option autoImplicit false
set_option relaxedAutoImplicit false

namespace IncidentaryOperator.Foundation

universe u

variable {α σ : Type u}

/-- `xs[i] = x`, none when the index is out of range. -/
def store (xs : List α) (i : ℕ) (x : α) : Option (List α) :=
  if i < xs.length then some (xs.set i x) else none

theorem store_of_lt {xs : List α} {i : ℕ} (hi : i < xs.length) (x : α) :
    store xs i x = some (xs.set i x) :=
  if_pos hi

/-- `count` rounds of a loop whose index starts at `start`. -/
def countedLoop (round : ℕ → σ → Option σ) : ℕ → ℕ → σ → Option σ
  | _, 0, state => some state
  | start, count + 1, state => (round start state).bind (countedLoop round (start + 1) count)

/-- The invariant rule of a counted loop. Assumes: every round from a state with the property at its
index runs to its end, with the property at the next index. -/
theorem countedLoop_invariant {round : ℕ → σ → Option σ} {motive : ℕ → σ → Prop} {start count : ℕ}
    {state : σ} (hstart : motive start state)
    (hround : ∀ i state, start ≤ i → i < start + count → motive i state →
      ∃ next, round i state = some next ∧ motive (i + 1) next) :
    ∃ final, countedLoop round start count state = some final ∧ motive (start + count) final := by
  induction count generalizing start state with
  | zero => exact ⟨state, rfl, hstart⟩
  | succ count ih =>
    obtain ⟨next, hnext, hmotive⟩ := hround start state le_rfl (by omega) hstart
    obtain ⟨final, hfinal, hend⟩ := ih hmotive fun i state hlow hhigh hstate ↦
      hround i state (by omega) (by omega) hstate
    refine ⟨final, ?_, ?_⟩
    · rw [countedLoop, hnext]
      exact hfinal
    · rwa [Nat.add_right_comm] at hend

/-! ### Slices of a heap -/

/-- Backing arrays, by number. -/
abbrev Heap (α : Type u) := List (List α)

/-- A slice header: the array, where the slice starts in it, its length and its capacity. -/
structure Slice where
  array : ℕ
  offset : ℕ
  len : ℕ
  cap : ℕ
  deriving DecidableEq

/-- `s[i]`, none when the index is out of range. -/
def Heap.read (heap : Heap α) (s : Slice) (i : ℕ) : Option α :=
  if i < s.len then heap[s.array]?.bind fun cells ↦ cells[s.offset + i]? else none

/-- The elements of a slice. -/
def Heap.contents (heap : Heap α) (s : Slice) : List α :=
  ((heap[s.array]?.getD []).drop s.offset).take s.len

/-- `s[:0]`. -/
def Slice.truncate (s : Slice) : Slice :=
  { s with len := 0 }

/-- `append(s, x)`: in place while there is room, and otherwise in a new array. -/
def Heap.append (heap : Heap α) (s : Slice) (x : α) : Option (Heap α × Slice) :=
  if s.len < s.cap then do
    let cells ← heap[s.array]?
    let cells ← store cells (s.offset + s.len) x
    let heap ← store heap s.array cells
    return (heap, { s with len := s.len + 1 })
  else
    some (heap ++ [heap.contents s ++ [x]],
      { array := heap.length, offset := 0, len := s.len + 1, cap := s.len + 1 })

/-- The slice lies within its array. -/
structure Slice.Within (s : Slice) (heap : Heap α) : Prop where
  len_le : s.len ≤ s.cap
  fits : ∃ cells, heap[s.array]? = some cells ∧ s.offset + s.cap ≤ cells.length

/-! ### Filtering in place -/

/-- The heap, the slice of the elements kept so far, and what was made of the others. -/
structure Filtering (α σ : Type u) where
  heap : Heap α
  out : Slice
  acc : σ

/-- A round: the element is read, and appended or passed to `reject`. -/
def filterRound (keep : α → Bool) (reject : σ → α → σ) (s : Slice) (i : ℕ)
    (state : Filtering α σ) : Option (Filtering α σ) := do
  let x ← state.heap.read s i
  if keep x then
    let (heap, out) ← state.heap.append state.out x
    return { state with heap := heap, out := out }
  else return { state with acc := reject state.acc x }

/-- Filters the elements of a slice into `s[:0]`. -/
def filterInPlace (keep : α → Bool) (reject : σ → α → σ) (s : Slice) (heap : Heap α) (acc : σ) :
    Option (Filtering α σ) :=
  countedLoop (filterRound keep reject s) 0 s.len
    { heap := heap, out := s.truncate, acc := acc }

/-- After some rounds the array holds the kept elements, then cells that were read, then the cells
to be read as they were. -/
structure Compacted (keep : α → Bool) (reject : σ → α → σ) (s : Slice) (heap : Heap α) (acc : σ)
    (front xs back : List α) (i : ℕ) (state : Filtering α σ) : Prop where
  cells : ∃ gap, ((xs.take i).filter keep).length + gap.length = i ∧
    state.heap = heap.set s.array
      (front ++ (xs.take i).filter keep ++ (gap ++ (xs.drop i ++ back)))
  out : state.out = { s with len := ((xs.take i).filter keep).length }
  acc : state.acc = ((xs.take i).filter fun x ↦ !keep x).foldl reject acc

theorem getElem?_append_cons (left right : List α) (x : α) :
    (left ++ x :: right)[left.length]? = some x := by
  simp

/-- An append within the capacity writes the cell after the slice. -/
theorem append_set {heap : Heap α} {s : Slice} {left right : List α} {x y : α}
    (harray : s.array < heap.length) (hleft : s.offset + s.len = left.length)
    (hroom : s.len < s.cap) :
    Heap.append (heap.set s.array (left ++ y :: right)) s x =
      some (heap.set s.array (left ++ x :: right), { s with len := s.len + 1 }) := by
  unfold Heap.append
  rw [if_pos hroom, List.getElem?_set_self harray, hleft]
  simp only [Option.bind_eq_bind, Option.bind_some]
  rw [store_of_lt (by simp), Option.bind_some, store_of_lt (by simpa using harray),
    Option.bind_some, List.set_set]
  simp

section Rounds

variable {keep : α → Bool} {reject : σ → α → σ} {s : Slice} {heap : Heap α} {acc : σ}
  {front xs back : List α} {i : ℕ} {state : Filtering α σ}

/-- What a round reads is the original element. -/
theorem Compacted.read (hstate : Compacted keep reject s heap acc front xs back i state)
    (harray : s.array < heap.length) (hfront : front.length = s.offset) (hlen : s.len = xs.length)
    (hi : i < xs.length) : state.heap.read s i = some xs[i] := by
  obtain ⟨gap, hgap, hheap⟩ := hstate.cells
  have hposition : s.offset + i = (front ++ (xs.take i).filter keep ++ gap).length := by
    simp only [List.length_append]
    omega
  unfold Heap.read
  rw [if_pos (hlen ▸ hi), hheap, List.getElem?_set_self harray, Option.bind_some, hposition,
    List.drop_eq_getElem_cons hi, List.cons_append, ← List.append_assoc]
  exact getElem?_append_cons _ _ _

theorem filter_take_succ_of_pos {p : α → Bool} (hi : i < xs.length) (hp : p xs[i] = true) :
    (xs.take (i + 1)).filter p = (xs.take i).filter p ++ [xs[i]] := by
  rw [← List.take_append_getElem hi, List.filter_append, List.filter_cons_of_pos hp,
    List.filter_nil]

theorem filter_take_succ_of_neg {p : α → Bool} (hi : i < xs.length) (hp : ¬ p xs[i] = true) :
    (xs.take (i + 1)).filter p = (xs.take i).filter p := by
  rw [← List.take_append_getElem hi, List.filter_append, List.filter_cons_of_neg hp,
    List.filter_nil, List.append_nil]

/-- The cells from the first that may be written on begin with one that was read before, or with the
element itself. -/
theorem exists_free_cell (gap rest : List α) (x : α) :
    ∃ y gap', gap ++ x :: rest = y :: (gap' ++ rest) ∧ gap'.length = gap.length := by
  cases gap with
  | nil => exact ⟨x, [], rfl, rfl⟩
  | cons y gap => exact ⟨y, gap ++ [x], by simp, by simp⟩

theorem Compacted.round_kept (hstate : Compacted keep reject s heap acc front xs back i state)
    (harray : s.array < heap.length) (hfront : front.length = s.offset) (hlen : s.len = xs.length)
    (hcap : s.len ≤ s.cap) (hi : i < xs.length) (hkeep : keep xs[i] = true) :
    ∃ next, filterRound keep reject s i state = some next ∧
      Compacted keep reject s heap acc front xs back (i + 1) next := by
  have hread := hstate.read harray hfront hlen hi
  obtain ⟨⟨gap, hgap, hheap⟩, hout, hacc⟩ := hstate
  have hkept := filter_take_succ_of_pos hi hkeep
  have hrejected := @filter_take_succ_of_neg _ xs i (fun x ↦ !keep x) hi (by simp [hkeep])
  have hposition : s.offset + ((xs.take i).filter keep).length =
      (front ++ (xs.take i).filter keep).length := by
    rw [List.length_append, hfront]
  obtain ⟨y, gap', hcells, hlength⟩ := exists_free_cell gap (xs.drop (i + 1) ++ back) xs[i]
  rw [List.drop_eq_getElem_cons hi, List.cons_append, hcells] at hheap
  have happend : state.heap.append state.out xs[i] =
      some (heap.set s.array
          (front ++ (xs.take i).filter keep ++ xs[i] :: (gap' ++ (xs.drop (i + 1) ++ back))),
        { s with len := ((xs.take i).filter keep).length + 1 }) := by
    rw [hheap, hout]
    exact append_set harray hposition (by dsimp only; omega)
  unfold filterRound
  rw [hread]
  simp only [Option.bind_eq_bind, Option.bind_some, hkeep, if_true, happend]
  refine ⟨_, rfl, ⟨gap', ?_, ?_⟩, ?_, ?_⟩
  · rw [hkept, List.length_append, List.length_singleton]
    omega
  · rw [hkept]
    simp
  · rw [hkept, List.length_append, List.length_singleton]
  · rw [hrejected, hacc]

theorem Compacted.round_rejected (hstate : Compacted keep reject s heap acc front xs back i state)
    (harray : s.array < heap.length) (hfront : front.length = s.offset) (hlen : s.len = xs.length)
    (hi : i < xs.length) (hkeep : ¬ keep xs[i] = true) :
    ∃ next, filterRound keep reject s i state = some next ∧
      Compacted keep reject s heap acc front xs back (i + 1) next := by
  have hread := hstate.read harray hfront hlen hi
  obtain ⟨⟨gap, hgap, hheap⟩, hout, hacc⟩ := hstate
  rw [List.drop_eq_getElem_cons hi, List.cons_append] at hheap
  have hkept := filter_take_succ_of_neg hi hkeep
  have hrejected := @filter_take_succ_of_pos _ xs i (fun x ↦ !keep x) hi (by simpa using hkeep)
  unfold filterRound
  rw [hread]
  simp only [Option.bind_eq_bind, Option.bind_some, hkeep]
  refine ⟨{ state with acc := reject state.acc xs[i] }, rfl, ⟨gap ++ [xs[i]], ?_, ?_⟩, ?_, ?_⟩
  · rw [hkept, List.length_append, List.length_singleton]
    omega
  · rw [hkept, hheap, List.append_assoc gap, List.singleton_append]
  · rw [hkept, hout]
  · rw [hrejected, List.foldl_append, hacc]
    rfl

theorem filterRound_compacted
    (hstate : Compacted keep reject s heap acc front xs back i state)
    (harray : s.array < heap.length) (hfront : front.length = s.offset) (hlen : s.len = xs.length)
    (hcap : s.len ≤ s.cap) (hi : i < xs.length) :
    ∃ next, filterRound keep reject s i state = some next ∧
      Compacted keep reject s heap acc front xs back (i + 1) next := by
  by_cases hkeep : keep xs[i] = true
  · exact hstate.round_kept harray hfront hlen hcap hi hkeep
  · exact hstate.round_rejected harray hfront hlen hi hkeep

/-- The filter in place keeps what passes, in order, and rejects the rest, in order. The other
arrays are unchanged.

Assumes: the slice lies within its array. -/
theorem filterInPlace_eq (hwithin : s.Within heap) :
    ∃ final, filterInPlace keep reject s heap acc = some final ∧
      final.heap.contents final.out = (heap.contents s).filter keep ∧
      final.out.len = ((heap.contents s).filter keep).length ∧
      final.acc = ((heap.contents s).filter fun x ↦ !keep x).foldl reject acc ∧
      ∀ other ≠ s.array, final.heap[other]? = heap[other]? := by
  obtain ⟨hcap, cells, hcells, hfits⟩ := hwithin
  obtain ⟨harray, hcell⟩ := List.getElem?_eq_some_iff.mp hcells
  have hcontents : heap.contents s = (cells.drop s.offset).take s.len := by
    rw [Heap.contents, hcells, Option.getD_some]
  generalize hxs : heap.contents s = xs at hcontents ⊢
  have hlen : s.len = xs.length := by
    rw [hcontents, List.length_take, List.length_drop]
    omega
  have hfront : (cells.take s.offset).length = s.offset := by
    rw [List.length_take]
    omega
  have hwhole : cells.take s.offset ++ (xs ++ cells.drop (s.offset + s.len)) = cells := by
    rw [hcontents, ← List.drop_drop, List.take_append_drop, List.take_append_drop]
  have hstart : Compacted keep reject s heap acc (cells.take s.offset) xs
      (cells.drop (s.offset + s.len)) 0 { heap := heap, out := s.truncate, acc := acc } := by
    refine ⟨⟨[], rfl, ?_⟩, rfl, rfl⟩
    simp only [List.take_zero, List.filter_nil, List.append_nil, List.drop_zero, List.nil_append,
      hwhole]
    rw [← hcell, List.set_getElem_self]
  obtain ⟨final, hfinal, ⟨gap, -, hheap⟩, hout, hacc⟩ :=
    @countedLoop_invariant _ (filterRound keep reject s) _ 0 s.len _ hstart
      fun i state _ hi hstate ↦
        filterRound_compacted hstate harray hfront hlen hcap (by omega)
  rw [Nat.zero_add, hlen, List.take_length] at hheap hout hacc
  refine ⟨final, hfinal, ?_, by rw [hout], hacc, fun other hother ↦ ?_⟩
  · rw [Heap.contents, hheap, hout, List.getElem?_set_self harray, Option.getD_some,
      List.append_assoc, List.drop_left' hfront, List.take_left]
  · rw [hheap, List.getElem?_set_ne hother.symm]

end Rounds

end IncidentaryOperator.Foundation
