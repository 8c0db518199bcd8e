import IncidentaryOperator.Foundation.JsonPrint

/-!
# Go maps and structs as JSON objects

A map is printed as an object with its keys in increasing order, so its text depends on what the map
holds and not on the order in which the map is walked (`mapMembers_eq_iff`). A map of strings is
decoded by inserting the members one by one, and comes back as it was
(`decodeStringMap_mapMembers`).

A struct is printed as an object of its fields, without those that are left out when they are empty.
The members show which fields were left out (`structMembers_inj`).
-/

set_option autoImplicit false
set_option relaxedAutoImplicit false

namespace IncidentaryOperator.Foundation

/-! ### Encoding -/

section Encoding

variable {Text β : Type} {toJson : β → JsonOf Text}

/-- The members of the object a map is printed as. -/
def mapMembers (toJson : β → JsonOf Text) (map : AList (fun _ : String ↦ β)) :
    List (String × JsonOf Text) :=
  (map.entries.map fun entry ↦ (entry.1, toJson entry.2)).insertionSort fun a b ↦ a.1 ≤ b.1

theorem mem_mapMembers_iff {map : AList (fun _ : String ↦ β)} {key : String} {value : JsonOf Text} :
    (key, value) ∈ mapMembers toJson map ↔ (map.lookup key).map toJson = some value := by
  have hentry : ∀ held, map.lookup key = some held ↔ ⟨key, held⟩ ∈ map.entries := fun held ↦
    List.mem_dlookup_iff map.nodupKeys
  rw [mapMembers, (List.perm_insertionSort _ _).mem_iff, List.mem_map, Option.map_eq_some_iff]
  constructor
  · rintro ⟨⟨held, content⟩, hmem, heq⟩
    obtain ⟨rfl, rfl⟩ := Prod.mk.inj heq
    exact ⟨content, (hentry content).mpr hmem, rfl⟩
  · rintro ⟨content, hlookup, rfl⟩
    exact ⟨⟨key, content⟩, (hentry content).mp hlookup, rfl⟩

theorem nodup_keys_mapMembers (map : AList (fun _ : String ↦ β)) :
    ((mapMembers toJson map).map Prod.fst).Nodup := by
  have hperm := (List.perm_insertionSort (fun a b : String × JsonOf Text ↦ a.1 ≤ b.1)
    (map.entries.map fun entry ↦ (entry.1, toJson entry.2))).map Prod.fst
  rw [mapMembers, hperm.nodup_iff, List.map_map]
  exact map.nodupKeys

theorem pairwise_mapMembers (map : AList (fun _ : String ↦ β)) :
    (mapMembers toJson map).Pairwise fun a b ↦ a.1 ≤ b.1 :=
  List.pairwise_insertionSort _ _

/-- Two maps are printed alike exactly when they hold values that are printed alike under the same
keys. -/
theorem mapMembers_eq_iff {first second : AList (fun _ : String ↦ β)} :
    mapMembers toJson first = mapMembers toJson second ↔
      ∀ key, (first.lookup key).map toJson = (second.lookup key).map toJson := by
  constructor
  · intro hsame key
    ext value
    rw [← mem_mapMembers_iff, hsame, mem_mapMembers_iff]
  · intro hlookup
    have hperm : (mapMembers toJson first).Perm (mapMembers toJson second) := by
      rw [List.perm_ext_iff_of_nodup (nodup_keys_mapMembers first).of_map
        (nodup_keys_mapMembers second).of_map]
      rintro ⟨key, value⟩
      rw [mem_mapMembers_iff, mem_mapMembers_iff, hlookup]
    refine hperm.eq_of_pairwise ?_ (pairwise_mapMembers first) (pairwise_mapMembers second)
    intro a b ha hb hle hge
    exact List.inj_on_of_nodup_map (nodup_keys_mapMembers second) (hperm.mem_iff.mp ha) hb
      (le_antisymm hle hge)

end Encoding

/-! ### Structs -/

section Structs

variable {Text : Type}

/-- The members of the object a struct is printed as, from its fields in order, a field that is left
out having no value. -/
def structMembers (fields : List (String × Option (JsonOf Text))) : List (String × JsonOf Text) :=
  fields.filterMap fun field ↦ field.2.map (Prod.mk field.1)

theorem name_mem_of_mem_structMembers {fields : List (String × Option (JsonOf Text))}
    {name : String} {value : JsonOf Text} (hmember : (name, value) ∈ structMembers fields) :
    name ∈ fields.map Prod.fst := by
  obtain ⟨field, hfield, hvalue⟩ := List.mem_filterMap.mp hmember
  obtain ⟨held, -, heq⟩ := Option.map_eq_some_iff.mp hvalue
  exact List.mem_map.mpr ⟨field, hfield, (Prod.mk.inj heq).1⟩

/-- Two structs of one type are printed alike only if their fields are alike. Assumes: the fields
have the same names in the same order, each once. -/
theorem structMembers_inj {first second : List (String × Option (JsonOf Text))}
    (hnames : first.map Prod.fst = second.map Prod.fst) (hnodup : (first.map Prod.fst).Nodup)
    (hsame : structMembers first = structMembers second) : first = second := by
  induction first generalizing second with
  | nil => exact (List.map_eq_nil_iff.mp hnames.symm).symm
  | cons field rest ih =>
    obtain ⟨name, value⟩ := field
    obtain ⟨⟨name', value'⟩, rest', rfl⟩ : ∃ other others, second = other :: others := by
      cases second with
      | nil => cases hnames
      | cons other others => exact ⟨other, others, rfl⟩
    obtain ⟨rfl, hrest⟩ := List.cons.inj hnames
    obtain ⟨hfresh, hdistinct⟩ := List.nodup_cons.mp hnodup
    cases value with
    | none =>
      cases value' with
      | none => rw [ih hrest hdistinct hsame]
      | some held =>
        have hmember : (name, held) ∈ structMembers rest := by
          have hmembers : structMembers rest = (name, held) :: structMembers rest' := hsame
          rw [hmembers]
          exact List.mem_cons_self
        exact absurd (name_mem_of_mem_structMembers hmember) hfresh
    | some held =>
      cases value' with
      | none =>
        have hmember : (name, held) ∈ structMembers rest' := by
          have hmembers : (name, held) :: structMembers rest = structMembers rest' := hsame
          rw [← hmembers]
          exact List.mem_cons_self
        exact absurd (hrest ▸ name_mem_of_mem_structMembers hmember) hfresh
      | some held' =>
        have hmembers : (name, held) :: structMembers rest =
            (name, held') :: structMembers rest' := hsame
        obtain ⟨hheld, htail⟩ := List.cons.inj hmembers
        rw [(Prod.mk.inj hheld).2, ih hrest hdistinct htail]

theorem structMembers_eq_iff {first second : List (String × Option (JsonOf Text))}
    (hnames : first.map Prod.fst = second.map Prod.fst) (hnodup : (first.map Prod.fst).Nodup) :
    structMembers first = structMembers second ↔ first = second :=
  ⟨structMembers_inj hnames hnodup, congrArg structMembers⟩

/-- The value of a field with `omitempty`. -/
def omitEmpty {α : Type} (empty : α) [∀ value : α, Decidable (value = empty)]
    (toJson : α → JsonOf Text) (value : α) : Option (JsonOf Text) :=
  if value = empty then none else some (toJson value)

theorem omitEmpty_injective {α : Type} {empty : α} [∀ value : α, Decidable (value = empty)]
    {toJson : α → JsonOf Text} (hjson : Function.Injective toJson) :
    Function.Injective (omitEmpty empty toJson) := by
  intro first second hsame
  unfold omitEmpty at hsame
  split_ifs at hsame with hfirst hsecond
  · rw [hfirst, hsecond]
  · exact hjson (Option.some.inj hsame)

/-! ### Nesting -/

theorem itemsDepth_le {items : List (JsonOf Text)} {depth : ℕ}
    (hitems : ∀ item ∈ items, item.depth ≤ depth) :
    itemsDepth items ≤ depth := by
  induction items with
  | nil => exact Nat.zero_le _
  | cons item rest ih =>
    rw [itemsDepth]
    exact max_le (hitems item List.mem_cons_self)
      (ih fun other hother ↦ hitems other (List.mem_cons_of_mem _ hother))

theorem membersDepth_le {members : List (String × JsonOf Text)} {depth : ℕ}
    (hmembers : ∀ member ∈ members, member.2.depth ≤ depth) : membersDepth members ≤ depth := by
  induction members with
  | nil => exact Nat.zero_le _
  | cons member rest ih =>
    rw [membersDepth]
    exact max_le (hmembers member List.mem_cons_self)
      (ih fun other hother ↦ hmembers other (List.mem_cons_of_mem _ hother))

theorem membersDepth_mapMembers_le {β : Type} {toJson : β → JsonOf Text} {depth : ℕ}
    (hvalue : ∀ value, (toJson value).depth ≤ depth) (map : AList (fun _ : String ↦ β)) :
    membersDepth (mapMembers toJson map) ≤ depth := by
  refine membersDepth_le ?_
  rintro ⟨key, value⟩ hmember
  obtain ⟨content, -, rfl⟩ := Option.map_eq_some_iff.mp (mem_mapMembers_iff.mp hmember)
  exact hvalue content

/-- How deep the value of a field is nested; a field that is left out is not nested. -/
def fieldDepth : Option (JsonOf Text) → ℕ
  | none => 0
  | some value => value.depth

theorem fieldDepth_omitEmpty_le {α : Type} {empty : α} [∀ value : α, Decidable (value = empty)]
    {toJson : α → JsonOf Text} {value : α} {depth : ℕ} (hvalue : (toJson value).depth ≤ depth) :
    fieldDepth (omitEmpty empty toJson value) ≤ depth := by
  unfold omitEmpty
  split_ifs
  · exact Nat.zero_le _
  · exact hvalue

theorem membersDepth_structMembers_le {fields : List (String × Option (JsonOf Text))} {depth : ℕ}
    (hfields : ∀ field ∈ fields, fieldDepth field.2 ≤ depth) :
    membersDepth (structMembers fields) ≤ depth := by
  refine membersDepth_le fun member hmember ↦ ?_
  obtain ⟨⟨name, value⟩, hfield, hvalue⟩ := List.mem_filterMap.mp hmember
  obtain ⟨held, rfl, rfl⟩ := Option.map_eq_some_iff.mp hvalue
  exact hfields _ hfield

end Structs

/-! ### Decoding -/

/-- A value decoded into a new string: null leaves it empty, and anything that is no string is an
error. -/
def decodeString : Json → Option String
  | .string text => some text
  | .null => some ""
  | _ => none

/-- One member decoded into a map of strings. -/
def insertString (map : AList (fun _ : String ↦ String)) (member : String × Json) :
    Option (AList (fun _ : String ↦ String)) :=
  (decodeString member.2).map fun text ↦ map.insert member.1 text

/-- A value decoded into a map of strings, a nil map as the empty one. -/
def decodeStringMap : Json → Option (AList (fun _ : String ↦ String))
  | .null => some ∅
  | .object members => members.foldlM insertString ∅
  | _ => none

/-- What the members of an object with distinct keys leave in a map. Assumes: they are strings. -/
theorem foldlM_insertString {members : List (String × Json)}
    (hstrings : ∀ member ∈ members, ∃ text, member.2 = .string text)
    (hkeys : (members.map Prod.fst).Nodup) (map : AList (fun _ : String ↦ String)) :
    ∃ read, members.foldlM insertString map = some read ∧ ∀ key,
      (∀ text, (key, JsonOf.string text) ∈ members → read.lookup key = some text) ∧
        (key ∉ members.map Prod.fst → read.lookup key = map.lookup key) := by
  induction members generalizing map with
  | nil => exact ⟨map, rfl, fun key ↦ ⟨fun text hmem ↦ (nomatch hmem), fun _ ↦ rfl⟩⟩
  | cons member rest ih =>
    obtain ⟨name, value⟩ := member
    obtain ⟨content, rfl⟩ := hstrings _ List.mem_cons_self
    obtain ⟨hfresh, hrest⟩ := List.nodup_cons.mp hkeys
    obtain ⟨read, hread, hlookup⟩ := ih
      (fun other hother ↦ hstrings other (List.mem_cons_of_mem _ hother)) hrest
      (map.insert name content)
    refine ⟨read, hread, fun key ↦ ⟨fun text hmem ↦ ?_, fun hnot ↦ ?_⟩⟩
    · rcases List.mem_cons.mp hmem with heq | hmem
      · obtain ⟨rfl, hvalue⟩ := Prod.mk.inj heq
        obtain rfl := JsonOf.string.inj hvalue
        rw [(hlookup key).2 hfresh, AList.lookup_insert]
      · exact (hlookup key).1 text hmem
    · rw [List.map_cons, List.mem_cons, not_or] at hnot
      rw [(hlookup key).2 hnot.2, AList.lookup_insert_ne hnot.1]

/-- A printed map of strings is decoded as it was. -/
theorem decodeStringMap_mapMembers (map : AList (fun _ : String ↦ String)) :
    ∃ read, decodeStringMap (.object (mapMembers .string map)) = some read ∧
      ∀ key, read.lookup key = map.lookup key := by
  have hstrings : ∀ member ∈ mapMembers JsonOf.string map, ∃ text, member.2 = .string text := by
    rintro ⟨key, value⟩ hmember
    obtain ⟨text, -, rfl⟩ := Option.map_eq_some_iff.mp (mem_mapMembers_iff.mp hmember)
    exact ⟨text, rfl⟩
  obtain ⟨read, hread, hlookup⟩ := foldlM_insertString hstrings (nodup_keys_mapMembers map) ∅
  refine ⟨read, hread, fun key ↦ ?_⟩
  cases hheld : map.lookup key with
  | some text =>
    refine (hlookup key).1 text (mem_mapMembers_iff.mpr ?_)
    rw [hheld]
    rfl
  | none =>
    rw [(hlookup key).2, AList.lookup_empty]
    rintro hmem
    obtain ⟨⟨name, value⟩, hmember, rfl⟩ := List.mem_map.mp hmem
    rw [mem_mapMembers_iff, hheld] at hmember
    cases hmember

end IncidentaryOperator.Foundation
