import Mathlib

/-!
# Merged lists

Several sources write to one list, and each entry of it is tagged with its source. `part` is what
one source wrote, in order. A merge is judged by its parts: two merged lists with the same parts
hold the same entries (`perm_of_part_eq`), and what is said of one source is said of its part.
-/

set_option autoImplicit false
set_option relaxedAutoImplicit false

namespace IncidentaryOperator.Foundation

variable {Source Item Piece : Type*}

/-! ### Entries in pieces -/

/-- A merged list whose entries are broken into pieces, each of the source of its entry. -/
def spread (pieces : Item → List Piece) (merged : List (Source × Item)) : List (Source × Piece) :=
  merged.flatMap fun entry ↦ (pieces entry.2).map (Prod.mk entry.1)

theorem spread_cons (pieces : Item → List Piece) (entry : Source × Item)
    (merged : List (Source × Item)) :
    spread pieces (entry :: merged) =
      (pieces entry.2).map (Prod.mk entry.1) ++ spread pieces merged :=
  List.flatMap_cons

@[simp] theorem spread_append (pieces : Item → List Piece) (first second : List (Source × Item)) :
    spread pieces (first ++ second) = spread pieces first ++ spread pieces second :=
  List.flatMap_append

/-- Without their sources, the pieces are those of the entries in order. -/
theorem map_snd_spread (pieces : Item → List Piece) (merged : List (Source × Item)) :
    (spread pieces merged).map Prod.snd = (merged.map Prod.snd).flatMap pieces := by
  induction merged with
  | nil => rfl
  | cons entry rest ih => simp [spread_cons, ih, Function.comp_def]

/-- Fewer pieces of each entry, in order, are fewer pieces of the whole, in order. -/
theorem spread_sublist {fewer more : Item → List Piece} {merged : List (Source × Item)}
    (hpieces : ∀ entry ∈ merged, (fewer entry.2).Sublist (more entry.2)) :
    (spread fewer merged).Sublist (spread more merged) :=
  List.Sublist.flatMap_right _ fun entry hentry ↦ (hpieces entry hentry).map (Prod.mk entry.1)

/-! ### The part of a source -/

section Part

variable [DecidableEq Source]

/-- What one source wrote to a merged list, in order. -/
def part (source : Source) (merged : List (Source × Item)) : List Item :=
  (merged.filter fun entry ↦ entry.1 = source).map Prod.snd

@[simp] theorem part_append (source : Source) (first second : List (Source × Item)) :
    part source (first ++ second) = part source first ++ part source second := by
  simp [part]

theorem part_cons (source : Source) (entry : Source × Item) (merged : List (Source × Item)) :
    part source (entry :: merged) =
      (if entry.1 = source then [entry.2] else []) ++ part source merged := by
  unfold part
  rw [List.filter_cons]
  split_ifs <;> simp_all

theorem part_cons_self (source : Source) (item : Item) (merged : List (Source × Item)) :
    part source ((source, item) :: merged) = item :: part source merged := by
  simp [part_cons]

theorem part_cons_of_ne {source other : Source} (hother : other ≠ source) (item : Item)
    (merged : List (Source × Item)) :
    part source ((other, item) :: merged) = part source merged := by
  simp [part_cons, hother]

theorem mem_of_mem_part {source : Source} {item : Item} {merged : List (Source × Item)}
    (hitem : item ∈ part source merged) : (source, item) ∈ merged := by
  obtain ⟨entry, hentry, rfl⟩ := List.mem_map.mp hitem
  obtain ⟨hmem, hsource⟩ := List.mem_filter.mp hentry
  rw [← of_decide_eq_true hsource]
  exact hmem

/-- A source that wrote nothing has an empty part. -/
theorem part_eq_nil {source : Source} {merged : List (Source × Item)}
    (hnone : source ∉ merged.map Prod.fst) : part source merged = [] := by
  rw [part, List.map_eq_nil_iff, List.filter_eq_nil_iff]
  intro entry hentry hsource
  exact hnone (List.mem_map.mpr ⟨entry, hentry, by simpa using hsource⟩)

theorem part_map_mk (source other : Source) (items : List Item) :
    part source (items.map (Prod.mk other)) = if other = source then items else [] := by
  induction items with
  | nil => split_ifs <;> rfl
  | cons item rest ih =>
    rw [List.map_cons, part_cons, ih]
    split_ifs <;> rfl

/-- What is done to each entry is done to each entry of a part. -/
theorem part_map (source : Source) (change : Item → Piece) (merged : List (Source × Item)) :
    part source (merged.map (Prod.map id change)) = (part source merged).map change := by
  induction merged with
  | nil => rfl
  | cons entry rest ih =>
    rw [List.map_cons, part_cons, ih, part_cons, List.map_append]
    by_cases hsource : entry.1 = source <;> simp [hsource]

theorem part_spread (source : Source) (pieces : Item → List Piece)
    (merged : List (Source × Item)) :
    part source (spread pieces merged) = (part source merged).flatMap pieces := by
  induction merged with
  | nil => rfl
  | cons entry rest ih =>
    rw [spread_cons, part_append, part_map_mk, ih, part_cons, List.flatMap_append]
    split_ifs <;> simp

/-- An entry taken out of a list in which no source occurs twice is all its source wrote. -/
theorem part_remove {before after : List (Source × Item)} {source : Source} {item : Item}
    (hsingle : ((before ++ (source, item) :: after).map Prod.fst).Nodup) (other : Source) :
    part other (before ++ (source, item) :: after) =
      (if source = other then [item] else []) ++ part other (before ++ after) := by
  by_cases hsame : source = other
  · subst hsame
    rw [List.map_append, List.map_cons, List.nodup_middle, List.nodup_cons,
      ← List.map_append] at hsingle
    have hnil : part source (before ++ after) = [] := part_eq_nil hsingle.1
    have hboth := List.append_eq_nil_iff.mp ((part_append source before after).symm.trans hnil)
    rw [hnil, part_append, part_cons_self, hboth.1, hboth.2, if_pos rfl]
    rfl
  · rw [part_append, part_cons_of_ne hsame, if_neg hsame, List.nil_append, part_append]

end Part

/-- Merged lists with the same parts hold the same entries. -/
theorem perm_of_part_eq [DecidableEq Source] {first second : List (Source × Item)}
    (hparts : ∀ source, part source first = part source second) : first.Perm second := by
  classical
  have hcount : ∀ (merged : List (Source × Item)) (source : Source) (item : Item),
      merged.count (source, item) = (part source merged).count item := by
    intro merged source item
    induction merged with
    | nil => rfl
    | cons entry rest ih =>
      obtain ⟨other, written⟩ := entry
      by_cases hsame : other = source
      · subst hsame
        rw [part_cons_self, List.count_cons, List.count_cons, ih]
        simp
      · rw [part_cons_of_ne hsame, ← ih, List.count_cons_of_ne]
        intro heq
        exact hsame (Prod.mk.inj heq).1
  refine List.perm_iff_count.mpr ?_
  rintro ⟨source, item⟩
  rw [hcount, hcount, hparts]

/-! ### Entries by their index -/

/-- An entry of the zip of two lists of one length, by its index: what is before and after it, and
the zips after the second list is changed there, or both lists lose the entry. -/
theorem zip_split {sources : List Source} {items : List Item} {index : ℕ} {item : Item}
    (hlength : sources.length = items.length) (hitem : items[index]? = some item) :
    ∃ source before after, sources[index]? = some source ∧
      sources.zip items = before ++ (source, item) :: after ∧
      (∀ item', sources.zip (items.set index item') = before ++ (source, item') :: after) ∧
      (sources.eraseIdx index).zip (items.eraseIdx index) = before ++ after := by
  induction items generalizing sources index with
  | nil => simp at hitem
  | cons first rest ih =>
    obtain ⟨head, tail, rfl⟩ := List.exists_cons_of_length_eq_add_one hlength
    cases index with
    | zero =>
      obtain rfl : first = item := by simpa using hitem
      exact ⟨head, [], tail.zip rest, rfl, rfl, fun _ ↦ rfl, rfl⟩
    | succ index =>
      obtain ⟨source, before, after, hsource, hzip, hset, herase⟩ :=
        ih (Nat.succ.inj hlength) (by simpa using hitem)
      refine ⟨source, (head, first) :: before, after, by simpa using hsource, ?_, ?_, ?_⟩
      · rw [List.zip_cons_cons, hzip, List.cons_append]
      · intro item'
        rw [List.set_cons_succ, List.zip_cons_cons, hset, List.cons_append]
      · rw [List.eraseIdx_cons_succ, List.eraseIdx_cons_succ, List.zip_cons_cons, herase,
          List.cons_append]

end IncidentaryOperator.Foundation
