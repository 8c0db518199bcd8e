import Mathlib

/-!
# Fields between separators

A text is a list over any alphabet, some letters of which are blanks. Its fields are the pieces
between the separators, without the blanks at their ends, and those that are empty then are left
out (`fields`). A list of fields that are not empty, have no separator in them and no blank at an
end is read back from the text that joins it (`fields_intercalate`), and the fields of every text
are such a list (`isField_of_mem_fields`). A text without fields has no letters but separators and
blanks (`fields_eq_nil_iff`).
-/

set_option autoImplicit false
set_option relaxedAutoImplicit false

namespace IncidentaryOperator.Foundation

universe u

variable {α : Type u} {blank : α → Bool}

/-! ### Trimming -/

/-- The text without the blanks at its ends. -/
def trim (blank : α → Bool) (text : List α) : List α :=
  (text.dropWhile blank).rdropWhile blank

/-- No blank is at an end of the text. -/
structure Trimmed (blank : α → Bool) (text : List α) : Prop where
  head : ∀ c ∈ text.head?, blank c = false
  last : ∀ c ∈ text.getLast?, blank c = false

/-- What trimming takes away are blanks. -/
theorem exists_eq_append_trim (blank : α → Bool) (text : List α) :
    ∃ before after, text = before ++ trim blank text ++ after ∧
      (∀ c ∈ before, blank c = true) ∧ ∀ c ∈ after, blank c = true := by
  refine ⟨text.takeWhile blank, (text.dropWhile blank).rtakeWhile blank, ?_, ?_, ?_⟩
  · rw [trim, List.append_assoc, List.rdropWhile_append_rtakeWhile, List.takeWhile_append_dropWhile]
  · intro c hc
    exact List.mem_takeWhile_imp hc
  · intro c hc
    exact List.mem_rtakeWhile_imp hc

theorem mem_of_mem_trim {text : List α} {c : α} (hc : c ∈ trim blank text) : c ∈ text := by
  obtain ⟨before, after, htext, -, -⟩ := exists_eq_append_trim blank text
  rw [htext]
  simp [hc]

theorem blank_or_mem_trim {text : List α} {c : α} (hc : c ∈ text) :
    blank c = true ∨ c ∈ trim blank text := by
  obtain ⟨before, after, htext, hbefore, hafter⟩ := exists_eq_append_trim blank text
  rw [htext] at hc
  rcases List.mem_append.mp hc with hc | hc
  · rcases List.mem_append.mp hc with hc | hc
    · exact .inl (hbefore c hc)
    · exact .inr hc
  · exact .inl (hafter c hc)

theorem trimmed_trim (blank : α → Bool) (text : List α) : Trimmed blank (trim blank text) where
  head := by
    intro c hc
    have hhead : (text.dropWhile blank).head? = some c := by
      obtain ⟨rest, hrest⟩ := List.rdropWhile_prefix blank (text.dropWhile blank)
      rw [← hrest, List.head?_append_of_ne_nil _ (by rintro hnil; simp [trim, hnil] at hc)]
      exact hc
    have hnot := List.head?_dropWhile_not blank text
    rwa [hhead] at hnot
  last := by
    intro c hc
    have hne : trim blank text ≠ [] := by
      rintro hnil
      simp [hnil] at hc
    have hlast := List.rdropWhile_last_not blank (text.dropWhile blank) hne
    rw [List.getLast?_eq_some_getLast hne, Option.mem_some_iff] at hc
    subst hc
    exact Bool.eq_false_iff.mpr hlast

theorem Trimmed.trim_eq {text : List α} (htext : Trimmed blank text) : trim blank text = text := by
  have hfront : text.dropWhile blank = text := by
    cases text with
    | nil => rfl
    | cons c rest => exact List.dropWhile_cons_of_neg (by simp [htext.head c rfl])
  rw [trim, hfront, List.rdropWhile_eq_self_iff]
  intro hne
  simp [htext.last _ (List.getLast?_eq_some_getLast hne)]

theorem trimmed_iff_trim_eq {text : List α} : Trimmed blank text ↔ trim blank text = text := by
  constructor
  · exact Trimmed.trim_eq
  · intro htrim
    rw [← htrim]
    exact trimmed_trim blank text

theorem trim_eq_nil_iff {text : List α} :
    trim blank text = [] ↔ ∀ c ∈ text, blank c = true := by
  constructor
  · intro hnil c hc
    rcases blank_or_mem_trim hc with hblank | hmem
    · exact hblank
    · simp [hnil] at hmem
  · intro hall
    rw [trim, List.dropWhile_eq_nil_iff.mpr hall, List.rdropWhile_nil]

/-! ### Splitting -/

section Fields

variable [BEq α] [LawfulBEq α] {sep : α}

theorem not_mem_of_mem_splitOn {text piece : List α} (hpiece : piece ∈ text.splitOn sep) :
    sep ∉ piece := by
  induction text generalizing piece with
  | nil =>
    obtain rfl : piece = [] := by simpa using hpiece
    exact List.not_mem_nil
  | cons c rest ih =>
    rw [List.splitOn_cons_eq_if_modifyHead] at hpiece
    split_ifs at hpiece with hsep
    · rcases List.mem_cons.mp hpiece with rfl | hpiece
      · exact List.not_mem_nil
      · exact ih hpiece
    · cases hsplit : rest.splitOn sep with
      | nil => simp [hsplit] at hpiece
      | cons first others =>
        rw [hsplit] at ih
        rw [hsplit, List.modifyHead_cons] at hpiece
        rcases List.mem_cons.mp hpiece with rfl | hpiece
        · have hfirst := ih List.mem_cons_self
          rintro hmem
          rcases List.mem_cons.mp hmem with rfl | hmem
          · exact hsep (beq_self_eq_true _)
          · exact hfirst hmem
        · exact ih (List.mem_cons_of_mem _ hpiece)

omit [BEq α] [LawfulBEq α] in
theorem eq_or_mem_of_mem_intercalate {pieces : List (List α)} {c : α}
    (hc : c ∈ [sep].intercalate pieces) : c = sep ∨ ∃ piece ∈ pieces, c ∈ piece := by
  induction pieces with
  | nil => simp at hc
  | cons piece rest ih =>
    cases rest with
    | nil => exact .inr ⟨piece, List.mem_cons_self, by simpa using hc⟩
    | cons next rest =>
      rw [List.intercalate_cons_cons, List.append_assoc, List.mem_append] at hc
      rcases hc with hc | hc
      · exact .inr ⟨piece, List.mem_cons_self, hc⟩
      · rcases List.mem_cons.mp hc with rfl | hc
        · exact .inl rfl
        · rcases ih hc with hsep | ⟨other, hother, hc⟩
          · exact .inl hsep
          · exact .inr ⟨other, List.mem_cons_of_mem _ hother, hc⟩

omit [BEq α] [LawfulBEq α] in
theorem mem_intercalate_of_mem {pieces : List (List α)} {piece : List α} {c : α}
    (hpiece : piece ∈ pieces) (hc : c ∈ piece) : c ∈ [sep].intercalate pieces := by
  induction pieces with
  | nil => cases hpiece
  | cons first rest ih =>
    cases rest with
    | nil =>
      obtain rfl : piece = first := by simpa using hpiece
      simpa using hc
    | cons next rest =>
      rw [List.intercalate_cons_cons, List.append_assoc, List.mem_append]
      rcases List.mem_cons.mp hpiece with rfl | hpiece
      · exact .inl hc
      · exact .inr (List.mem_cons_of_mem _ (ih hpiece))

/-- The fields of a text. -/
def fields (blank : α → Bool) (sep : α) (text : List α) : List (List α) :=
  ((text.splitOn sep).map (trim blank)).filter fun field ↦ !field.isEmpty

/-- What a field is: not empty, without a separator in it, and without a blank at an end. -/
structure IsField (blank : α → Bool) (sep : α) (field : List α) : Prop
    extends Trimmed blank field where
  ne_nil : field ≠ []
  not_mem : sep ∉ field

theorem isField_of_mem_fields {text field : List α} (hfield : field ∈ fields blank sep text) :
    IsField blank sep field := by
  obtain ⟨hmem, hne⟩ := List.mem_filter.mp hfield
  obtain ⟨piece, hpiece, rfl⟩ := List.mem_map.mp hmem
  refine ⟨trimmed_trim blank piece, by simpa using hne, fun hsep ↦ ?_⟩
  exact not_mem_of_mem_splitOn hpiece (mem_of_mem_trim hsep)

/-- A list of fields is read back from the text that joins it. -/
theorem fields_intercalate {names : List (List α)}
    (hnames : ∀ name ∈ names, IsField blank sep name) :
    fields blank sep ([sep].intercalate names) = names := by
  by_cases hnone : names = []
  · subst hnone
    rfl
  · have hsplit : ([sep].intercalate names).splitOn sep = names :=
      List.splitOn_intercalate sep (fun name hname ↦ (hnames name hname).not_mem) hnone
    have htrim : names.map (trim blank) = names := by
      refine (List.map_congr_left fun name hname ↦ ?_).trans (List.map_id names)
      exact (hnames name hname).trim_eq
    rw [fields, hsplit, htrim, List.filter_eq_self]
    intro name hname
    simpa using (hnames name hname).ne_nil

/-- A text has no fields when it has only separators and blanks. -/
theorem fields_eq_nil_iff {text : List α} :
    fields blank sep text = [] ↔ ∀ c ∈ text, c = sep ∨ blank c = true := by
  have hpieces : fields blank sep text = [] ↔
      ∀ piece ∈ text.splitOn sep, ∀ c ∈ piece, blank c = true := by
    simp [fields, List.filter_eq_nil_iff, trim_eq_nil_iff]
  rw [hpieces]
  have htext : [sep].intercalate (text.splitOn sep) = text := List.intercalate_splitOn sep
  constructor
  · intro hblank c hc
    rw [← htext] at hc
    rcases eq_or_mem_of_mem_intercalate hc with hsep | ⟨piece, hpiece, hmem⟩
    · exact .inl hsep
    · exact .inr (hblank piece hpiece c hmem)
  · intro hall piece hpiece c hc
    have hmem : c ∈ text := by
      rw [← htext]
      exact mem_intercalate_of_mem hpiece hc
    refine (hall c hmem).resolve_left ?_
    rintro rfl
    exact not_mem_of_mem_splitOn hpiece hc

omit [BEq α] [LawfulBEq α] in
/-- Fields that are joined have no blank at an end. -/
theorem trimmed_intercalate {names : List (List α)}
    (hnames : ∀ name ∈ names, IsField blank sep name) :
    Trimmed blank ([sep].intercalate names) := by
  induction names with
  | nil => exact ⟨by simp, by simp⟩
  | cons name rest ih =>
    have hname := hnames name List.mem_cons_self
    cases rest with
    | nil => simpa using hname.toTrimmed
    | cons next rest =>
      have hnext := hnames next (List.mem_cons_of_mem _ List.mem_cons_self)
      have hrest := ih fun other hother ↦ hnames other (List.mem_cons_of_mem _ hother)
      have hne : [sep].intercalate (next :: rest) ≠ [] := by
        obtain ⟨c, hc⟩ := List.exists_mem_of_ne_nil next hnext.ne_nil
        exact List.ne_nil_of_mem (mem_intercalate_of_mem List.mem_cons_self hc)
      rw [List.intercalate_cons_cons, List.append_assoc]
      constructor
      · rw [List.head?_append_of_ne_nil _ hname.ne_nil]
        exact hname.head
      · rw [List.getLast?_append_of_ne_nil _ (by simp), List.getLast?_append_of_ne_nil _ hne]
        exact hrest.last

end Fields

end IncidentaryOperator.Foundation
