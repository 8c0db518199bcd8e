import IncidentaryOperator.Foundation.Decimal
import IncidentaryOperator.Foundation.JsonText

/-!
# Printed JSON

The encoder of Go's `encoding/json` and the round trip: what is printed is read back as it was,
whatever follows it (`readsBack_print`), as far as the reading of the strings tells. So values are
printed differently when some reading tells them apart (`print_injOn`). For values with strings of
bytes that is a reading of the elements, since the text does not show which bytes were replaced.
-/

set_option autoImplicit false
set_option relaxedAutoImplicit false

namespace IncidentaryOperator.Foundation

/-! ### Values -/

section Values

variable {Text Read Last : Type}

/-- A property of all values, by the values they are made of. -/
@[elab_as_elim]
theorem JsonOf.recOnParts {motive : JsonOf Text → Prop} (value : JsonOf Text)
    (null : motive .null) (bool : ∀ held, motive (.bool held))
    (number : ∀ held, motive (.number held)) (string : ∀ held, motive (.string held))
    (array : ∀ items, (∀ item ∈ items, motive item) → motive (.array items))
    (object : ∀ members, (∀ member ∈ members, motive member.2) → motive (.object members)) :
    motive value :=
  match value with
  | .null => null
  | .bool held => bool held
  | .number held => number held
  | .string held => string held
  | .array items => array items fun item _hitem ↦
    item.recOnParts null bool number string array object
  | .object members => object members fun member _hmember ↦
    member.2.recOnParts null bool number string array object
termination_by sizeOf value
decreasing_by
  · have hlt := List.sizeOf_lt_of_mem _hitem
    simp only [JsonOf.array.sizeOf_spec]
    omega
  · have hlt := List.sizeOf_lt_of_mem _hmember
    have hpair : sizeOf member = 1 + sizeOf member.1 + sizeOf member.2 := rfl
    simp only [JsonOf.object.sizeOf_spec]
    omega

mutual

/-- The value with its strings changed. -/
def JsonOf.map (f : Text → Read) : JsonOf Text → JsonOf Read
  | .null => .null
  | .bool value => .bool value
  | .number value => .number value
  | .string value => .string (f value)
  | .array items => .array (JsonOf.mapItems f items)
  | .object members => .object (JsonOf.mapMembers f members)

/-- The items of an array with their strings changed. -/
def JsonOf.mapItems (f : Text → Read) : List (JsonOf Text) → List (JsonOf Read)
  | [] => []
  | item :: rest => item.map f :: JsonOf.mapItems f rest

/-- The members of an object with the strings of their values changed. -/
def JsonOf.mapMembers (f : Text → Read) :
    List (String × JsonOf Text) → List (String × JsonOf Read)
  | [] => []
  | (key, value) :: rest => (key, value.map f) :: JsonOf.mapMembers f rest

end

/-- A member of an object with the strings of its value changed. -/
def JsonOf.mapMember (f : Text → Read) (member : String × JsonOf Text) : String × JsonOf Read :=
  (member.1, member.2.map f)

theorem JsonOf.mapItems_eq_map (f : Text → Read) (items : List (JsonOf Text)) :
    JsonOf.mapItems f items = items.map (JsonOf.map f) := by
  induction items with
  | nil => rfl
  | cons item rest ih => rw [JsonOf.mapItems, ih, List.map_cons]

theorem JsonOf.mapMembers_eq_map (f : Text → Read) (members : List (String × JsonOf Text)) :
    JsonOf.mapMembers f members = members.map (JsonOf.mapMember f) := by
  induction members with
  | nil => rfl
  | cons member rest ih => rw [JsonOf.mapMembers, ih, List.map_cons, JsonOf.mapMember]

theorem JsonOf.map_id (value : JsonOf Text) : value.map id = value := by
  induction value using JsonOf.recOnParts with
  | null | bool _ | number _ | string _ => rfl
  | array items ih => rw [JsonOf.map, JsonOf.mapItems_eq_map, List.map_congr_left ih, List.map_id']
  | object members ih =>
    have hmember : ∀ member ∈ members, JsonOf.mapMember id member = member := fun member hmem ↦
      Prod.ext rfl (ih member hmem)
    rw [JsonOf.map, JsonOf.mapMembers_eq_map, List.map_congr_left hmember, List.map_id']

theorem JsonOf.map_map (f : Text → Read) (g : Read → Last) (value : JsonOf Text) :
    (value.map f).map g = value.map (g ∘ f) := by
  induction value using JsonOf.recOnParts with
  | null | bool _ | number _ | string _ => rfl
  | array items ih =>
    simp only [JsonOf.map, JsonOf.mapItems_eq_map, List.map_map]
    exact congrArg JsonOf.array (List.map_congr_left ih)
  | object members ih =>
    have hmember : ∀ member ∈ members,
        JsonOf.mapMember g (JsonOf.mapMember f member) = JsonOf.mapMember (g ∘ f) member :=
      fun member hmem ↦ Prod.ext rfl (ih member hmem)
    simp only [JsonOf.map, JsonOf.mapMembers_eq_map, List.map_map]
    exact congrArg JsonOf.object (List.map_congr_left hmember)

/-- Different values stay different. Assumes: different strings do. -/
theorem JsonOf.map_injective {f : Text → Read} {g : Read → Text}
    (hinverse : Function.LeftInverse g f) : Function.Injective (JsonOf.map f) := by
  intro first second hsame
  have hback := congrArg (JsonOf.map g) hsame
  rwa [JsonOf.map_map, JsonOf.map_map, hinverse.comp_eq_id, JsonOf.map_id, JsonOf.map_id] at hback

mutual

/-- A value in its compact form. -/
def JsonOf.print [JsonText Text] : JsonOf Text → List Char
  | .null => "null".toList
  | .bool true => "true".toList
  | .bool false => "false".toList
  | .number value => value.literal
  | .string value => quoteString value
  | .array items => '[' :: [','].intercalate (printItems items) ++ [']']
  | .object members => '{' :: [','].intercalate (printMembers members) ++ ['}']

/-- The texts of the items of an array. -/
def printItems [JsonText Text] : List (JsonOf Text) → List (List Char)
  | [] => []
  | item :: rest => item.print :: printItems rest

/-- The texts of the members of an object. -/
def printMembers [JsonText Text] : List (String × JsonOf Text) → List (List Char)
  | [] => []
  | (key, value) :: rest => (quoteString key ++ ':' :: value.print) :: printMembers rest

end

/-- A member of an object. -/
def printMember [JsonText Text] (member : String × JsonOf Text) : List Char :=
  quoteString member.1 ++ ':' :: member.2.print

theorem printItems_eq_map [JsonText Text] (items : List (JsonOf Text)) :
    printItems items = items.map JsonOf.print := by
  induction items with
  | nil => rfl
  | cons item rest ih => rw [printItems, ih, List.map_cons]

theorem printMembers_eq_map [JsonText Text] (members : List (String × JsonOf Text)) :
    printMembers members = members.map printMember := by
  induction members with
  | nil => rfl
  | cons member rest ih => rw [printMembers, ih, List.map_cons, printMember]

mutual

/-- The nesting of arrays and objects in a value. -/
def JsonOf.depth : JsonOf Text → ℕ
  | .null | .bool _ | .number _ | .string _ => 0
  | .array items => itemsDepth items + 1
  | .object members => membersDepth members + 1

/-- The nesting in the items of an array. -/
def itemsDepth : List (JsonOf Text) → ℕ
  | [] => 0
  | item :: rest => max item.depth (itemsDepth rest)

/-- The nesting in the members of an object. -/
def membersDepth : List (String × JsonOf Text) → ℕ
  | [] => 0
  | (_, value) :: rest => max value.depth (membersDepth rest)

end

theorem depth_le_itemsDepth {items : List (JsonOf Text)} {item : JsonOf Text}
    (hitem : item ∈ items) : item.depth ≤ itemsDepth items := by
  induction items with
  | nil => cases hitem
  | cons first rest ih =>
    rw [itemsDepth]
    rcases List.mem_cons.mp hitem with rfl | hrest
    · exact le_max_left _ _
    · exact (ih hrest).trans (le_max_right _ _)

theorem depth_le_membersDepth {members : List (String × JsonOf Text)}
    {member : String × JsonOf Text} (hmember : member ∈ members) :
    member.2.depth ≤ membersDepth members := by
  induction members with
  | nil => cases hmember
  | cons first rest ih =>
    rw [membersDepth]
    rcases List.mem_cons.mp hmember with rfl | hrest
    · exact le_max_left _ _
    · exact (ih hrest).trans (le_max_right _ _)

theorem depth_map (f : Text → Read) (value : JsonOf Text) : (value.map f).depth = value.depth := by
  induction value using JsonOf.recOnParts with
  | null | bool _ | number _ | string _ => rfl
  | array items ih =>
    have hitems : itemsDepth (JsonOf.mapItems f items) = itemsDepth items := by
      induction items with
      | nil => rfl
      | cons item rest hrest =>
        rw [JsonOf.mapItems, itemsDepth, itemsDepth, ih item List.mem_cons_self,
          hrest fun other hother ↦ ih other (List.mem_cons_of_mem _ hother)]
    rw [JsonOf.map, JsonOf.depth, JsonOf.depth, hitems]
  | object members ih =>
    have hmembers : membersDepth (JsonOf.mapMembers f members) = membersDepth members := by
      induction members with
      | nil => rfl
      | cons member rest hrest =>
        rw [JsonOf.mapMembers, membersDepth, membersDepth, ih member List.mem_cons_self,
          hrest fun other hother ↦ ih other (List.mem_cons_of_mem _ hother)]
    rw [JsonOf.map, JsonOf.depth, JsonOf.depth, hmembers]

end Values

/-! ### The round trip -/

/-- A text that does not go on with a number. -/
def NotNumeral (text : List Char) : Prop :=
  ∀ c ∈ text.head?, isNumeral c = false

/-- A text that begins with a character a value can begin with. -/
def BeginsValue (text : List Char) : Prop :=
  ∃ c rest, text = c :: rest ∧ isJsonSpace c = false ∧ c ≠ ']' ∧ c ≠ '}'

theorem skipSpace_of_beginsValue {text : List Char} (htext : BeginsValue text) :
    skipSpace text = text := by
  obtain ⟨c, rest, rfl, hspace, -, -⟩ := htext
  rw [skipSpace, List.dropWhile_cons_of_neg (by simp [hspace])]

theorem BeginsValue.append {text : List Char} (htext : BeginsValue text) (rest : List Char) :
    BeginsValue (text ++ rest) := by
  obtain ⟨c, others, rfl, hc⟩ := htext
  exact ⟨c, others ++ rest, rfl, hc⟩

theorem ne_of_isNumeral {c d : Char} (hc : isNumeral c = true) (hd : isNumeral d = false) :
    c ≠ d := by
  rintro rfl
  rw [hc] at hd
  cases hd

theorem not_isJsonSpace_of_isNumeral {c : Char} (hc : isNumeral c = true) :
    isJsonSpace c = false := by
  have hspace : c ≠ ' ' := ne_of_isNumeral hc (by decide)
  have htab : c ≠ '\t' := ne_of_isNumeral hc (by decide)
  have hreturn : c ≠ '\r' := ne_of_isNumeral hc (by decide)
  have hline : c ≠ '\n' := ne_of_isNumeral hc (by decide)
  simp [isJsonSpace, hspace, htab, hreturn, hline]

/-- A number begins with one of its characters. -/
theorem NumberLiteral.exists_cons (value : NumberLiteral) :
    ∃ c rest, value.literal = c :: rest ∧ isNumeral c = true := by
  have hne : value.literal ≠ [] := by
    intro hnil
    have hvalid := value.valid
    rw [hnil] at hvalid
    cases hvalid
  obtain ⟨c, rest, hcons⟩ := List.exists_cons_of_ne_nil hne
  refine ⟨c, rest, hcons, value.numeral c ?_⟩
  rw [hcons]
  exact List.mem_cons_self

theorem beginsValue_print {Text : Type} [JsonText Text] (value : JsonOf Text) :
    BeginsValue value.print := by
  cases value with
  | null => exact ⟨'n', _, rfl, by decide, by decide, by decide⟩
  | bool value => cases value <;> exact ⟨_, _, rfl, by decide, by decide, by decide⟩
  | number value =>
    obtain ⟨c, rest, hcons, hnumeral⟩ := value.exists_cons
    exact ⟨c, rest, hcons, not_isJsonSpace_of_isNumeral hnumeral,
      ne_of_isNumeral hnumeral (by decide), ne_of_isNumeral hnumeral (by decide)⟩
  | string value => exact ⟨'"', _, rfl, by decide, by decide, by decide⟩
  | array items => exact ⟨'[', _, rfl, by decide, by decide, by decide⟩
  | object members => exact ⟨'{', _, rfl, by decide, by decide, by decide⟩

section Sequences

variable {α β : Type} {element : List Char → Option (β × List Char)} {print : α → List Char}
  {result : α → β} {close : Char}

/-- Printed elements are read back up to the closing character. Assumes: each element is read back
when a comma or the closing character follows. -/
theorem scanSeparated_print (hcomma : close ≠ ',') (hspace : isJsonSpace close = false)
    {items : List α} (hitems : items ≠ [])
    (helement : ∀ item ∈ items, ∀ c rest, c = ',' ∨ c = close →
      element (print item ++ c :: rest) = some (result item, c :: rest))
    {fuel : ℕ} (hfuel : items.length ≤ fuel) (rest : List Char) :
    scanSeparated element close fuel ([','].intercalate (items.map print) ++ close :: rest) =
      some (items.map result, rest) := by
  induction items generalizing fuel with
  | nil => exact absurd rfl hitems
  | cons item others ih =>
    obtain ⟨fuel, rfl⟩ : ∃ less, fuel = less + 1 := ⟨fuel - 1, by simp at hfuel; omega⟩
    cases others with
    | nil =>
      have hitem := helement item List.mem_cons_self close rest (.inr rfl)
      have hskip : skipSpace (close :: rest) = close :: rest :=
        List.dropWhile_cons_of_neg (by simp [hspace])
      rw [List.map_singleton, List.intercalate_singleton, scanSeparated, hitem]
      dsimp only
      rw [hskip]
      dsimp only
      rw [if_neg hcomma, if_pos rfl, List.map_singleton]
    | cons second others =>
      have hrest : scanSeparated element close fuel
          ([','].intercalate ((second :: others).map print) ++ close :: rest) =
            some ((second :: others).map result, rest) :=
        ih (List.cons_ne_nil _ _)
          (fun other hother ↦ helement other (List.mem_cons_of_mem _ hother))
          (by simpa using hfuel)
      have htext : [','].intercalate ((item :: second :: others).map print) ++ close :: rest =
          print item ++ ',' ::
            ([','].intercalate ((second :: others).map print) ++ close :: rest) := by
        simp [List.intercalate]
      have hitem := helement item List.mem_cons_self ','
        ([','].intercalate ((second :: others).map print) ++ close :: rest) (.inl rfl)
      rw [htext, scanSeparated, hitem]
      have hskip : ∀ text, skipSpace (',' :: text) = ',' :: text := fun text ↦ rfl
      dsimp only
      rw [hskip]
      dsimp only
      rw [if_pos rfl, hrest]
      rfl

theorem length_le_length_intercalate (items : List α) (rest : List Char) :
    items.length ≤ ([','].intercalate (items.map print) ++ close :: rest).length := by
  induction items with
  | nil => simp
  | cons item others ih =>
    cases others with
    | nil =>
      simp only [List.map_singleton, List.intercalate_singleton, List.length_append,
        List.length_cons, List.length_nil]
      omega
    | cons second others =>
      simp only [List.map_cons, List.length_append, List.length_cons,
        List.intercalate_cons_cons] at ih ⊢
      omega

theorem scanSequence_print (hcomma : close ≠ ',') (hspace : isJsonSpace close = false)
    (hclose : close = ']' ∨ close = '}') {items : List α}
    (hbegins : ∀ item ∈ items, BeginsValue (print item))
    (helement : ∀ item ∈ items, ∀ c rest, c = ',' ∨ c = close →
      element (print item ++ c :: rest) = some (result item, c :: rest)) (rest : List Char) :
    scanSequence element close ([','].intercalate (items.map print) ++ close :: rest) =
      some (items.map result, rest) := by
  cases items with
  | nil =>
    have hskip : skipSpace (close :: rest) = close :: rest :=
      List.dropWhile_cons_of_neg (by simp [hspace])
    rw [List.map_nil, List.intercalate_nil, List.nil_append, scanSequence, hskip]
    dsimp only
    rw [if_pos rfl, List.map_nil]
  | cons item others =>
    have hfuel : (item :: others).length ≤
        ([','].intercalate ((item :: others).map print) ++ close :: rest).length :=
      length_le_length_intercalate (item :: others) rest
    have hscan := scanSeparated_print hcomma hspace (List.cons_ne_nil item others) helement hfuel
      rest
    have hbegin :
        BeginsValue ([','].intercalate ((item :: others).map print) ++ close :: rest) := by
      have hitem := hbegins item List.mem_cons_self
      cases others with
      | nil => simpa using hitem.append (close :: rest)
      | cons second others =>
        rw [List.map_cons, List.map_cons, List.intercalate_cons_cons, List.append_assoc,
          List.append_assoc]
        exact hitem.append _
    rw [scanSequence, skipSpace_of_beginsValue hbegin]
    obtain ⟨c, text, htext, -, hbracket, hbrace⟩ := hbegin
    rw [htext] at hscan ⊢
    dsimp only
    rw [if_neg, hscan]
    rcases hclose with rfl | rfl
    · exact hbracket
    · exact hbrace

end Sequences

section Values

variable {Text Read : Type} [JsonText Text] {read : List StringElement → Read}

/-- A member is read back. Assumes: its value is. -/
theorem scanMember_printMember {value : List Char → Option (JsonOf Read × List Char)}
    {member : String × JsonOf Text} {result : JsonOf Read} {rest : List Char}
    (hvalue : value (member.2.print ++ rest) = some (result, rest)) :
    scanMember value (printMember member ++ rest) = some ((member.1, result), rest) := by
  have htext : printMember member ++ rest =
      '"' :: (JsonText.escaped member.1 ++ '"' :: (':' :: (member.2.print ++ rest))) := by
    simp [printMember, quoteString]
  have hquote : ∀ text, skipSpace ('"' :: text) = '"' :: text := fun text ↦ rfl
  have hcolon : ∀ text, skipSpace (':' :: text) = ':' :: text := fun text ↦ rfl
  rw [htext, scanMember, hquote]
  simp only [JsonText.scanString_escaped, hcolon, hvalue, textOf_elements_text]
  rfl

theorem scanNumber_literal (value : NumberLiteral) {rest : List Char} (hrest : NotNumeral rest) :
    scanNumber (value.literal ++ rest) = some ((.number value : JsonOf Read), rest) := by
  have htake : (value.literal ++ rest).takeWhile isNumeral = value.literal := by
    rw [List.takeWhile_append_of_pos value.numeral]
    cases rest with
    | nil => simp
    | cons c rest => rw [List.takeWhile_cons_of_neg (by simp [hrest c rfl]), List.append_nil]
  have hdrop : (value.literal ++ rest).dropWhile isNumeral = rest := by
    rw [List.dropWhile_append_of_pos value.numeral]
    cases rest with
    | nil => rfl
    | cons c rest => rw [List.dropWhile_cons_of_neg (by simp [hrest c rfl])]
  unfold scanNumber
  simp only [htake, hdrop, value.valid, dif_pos]

/-- A value without items is read back. -/
theorem scanLeaf_print {value : JsonOf Text} (hleaf : value.depth = 0) {rest : List Char}
    (hrest : NotNumeral rest) :
    scanLeaf read (value.print ++ rest) =
      some (value.map (read ∘ JsonText.elements), rest) := by
  cases value with
  | null => rfl
  | bool value => cases value <;> rfl
  | number value =>
    obtain ⟨c, others, hcons, hnumeral⟩ := value.exists_cons
    have hscan : scanNumber (value.literal ++ rest) = some ((.number value : JsonOf Read), rest) :=
      scanNumber_literal value hrest
    have hquote : c ≠ '"' := ne_of_isNumeral hnumeral (by decide)
    rw [JsonOf.print]
    rw [hcons, List.cons_append] at hscan ⊢
    rw [scanLeaf, if_neg hquote, if_pos hnumeral, hscan, JsonOf.map]
  | string value =>
    have htext : (JsonOf.string value).print ++ rest =
        '"' :: (JsonText.escaped value ++ '"' :: rest) := by
      simp [JsonOf.print, quoteString]
    rw [htext, scanLeaf, if_pos rfl, JsonText.scanString_escaped]
    rfl
  | array items => simp [JsonOf.depth] at hleaf
  | object members => simp [JsonOf.depth] at hleaf

theorem notNumeral_cons {c : Char} {close : Char} (hclose : close = ']' ∨ close = '}')
    (hc : c = ',' ∨ c = close) (rest : List Char) : NotNumeral (c :: rest) := by
  intro d hd
  obtain rfl : c = d := by simpa using hd
  rcases hc with rfl | rfl
  · decide
  · rcases hclose with rfl | rfl <;> decide

/-- A value without items is read back at any depth. -/
theorem scanValue_print_leaf {value : JsonOf Text} (hleaf : value.depth = 0) (depth : ℕ)
    {rest : List Char} (hrest : NotNumeral rest) :
    scanValue read depth (value.print ++ rest) =
      some (value.map (read ∘ JsonText.elements), rest) := by
  have hbegins := skipSpace_of_beginsValue ((beginsValue_print value).append rest)
  have hscan : scanLeaf read (value.print ++ rest) =
      some (value.map (read ∘ JsonText.elements), rest) := scanLeaf_print hleaf hrest
  cases depth with
  | zero => rw [scanValue, hbegins, hscan]
  | succ depth =>
    rw [scanValue, hbegins]
    cases value with
    | null => rfl
    | bool value => cases value <;> rfl
    | string value => exact hscan
    | number value =>
      obtain ⟨c, others, hcons, hnumeral⟩ := value.exists_cons
      rw [JsonOf.print] at hscan ⊢
      rw [hcons, List.cons_append] at hscan ⊢
      split
      · next heq => exact absurd (List.cons.inj heq).1 (ne_of_isNumeral hnumeral (by decide))
      · next heq => exact absurd (List.cons.inj heq).1 (ne_of_isNumeral hnumeral (by decide))
      · exact hscan
    | array items => simp [JsonOf.depth] at hleaf
    | object members => simp [JsonOf.depth] at hleaf

/-- A value is read back with some levels of nesting, before any text that does not go on with a
number. -/
def ReadsBack (read : List StringElement → Read) (depth : ℕ) (value : JsonOf Text) : Prop :=
  ∀ rest, NotNumeral rest → scanValue read depth (value.print ++ rest) =
    some (value.map (read ∘ JsonText.elements), rest)

/-- An array is read back one level higher. Assumes: its items are read back. -/
theorem readsBack_array {depth : ℕ} {items : List (JsonOf Text)}
    (hitems : ∀ item ∈ items, ReadsBack read depth item) :
    ReadsBack read (depth + 1) (.array items) := by
  intro rest _
  have hscan : scanSequence (scanValue read depth) ']'
      ([','].intercalate (items.map JsonOf.print) ++ ']' :: rest) =
        some (items.map (JsonOf.map (read ∘ JsonText.elements)), rest) :=
    scanSequence_print (by decide) (by decide) (.inl rfl) (fun item _ ↦ beginsValue_print item)
      (fun item hitem c text hc ↦ hitems item hitem _ (notNumeral_cons (.inl rfl) hc text)) rest
  have htext : (JsonOf.array items).print ++ rest =
      '[' :: ([','].intercalate (items.map JsonOf.print) ++ ']' :: rest) := by
    simp [JsonOf.print, printItems_eq_map]
  have hskip : ∀ text, skipSpace ('[' :: text) = '[' :: text := fun text ↦ rfl
  rw [htext, scanValue, hskip, JsonOf.map, JsonOf.mapItems_eq_map]
  simp only [hscan]
  rfl

/-- An object is read back one level higher. Assumes: the values of its members are read back. -/
theorem readsBack_object {depth : ℕ} {members : List (String × JsonOf Text)}
    (hmembers : ∀ member ∈ members, ReadsBack read depth member.2) :
    ReadsBack read (depth + 1) (.object members) := by
  intro rest _
  have hscan : scanSequence (scanMember (scanValue read depth)) '}'
      ([','].intercalate (members.map printMember) ++ '}' :: rest) =
        some (members.map (JsonOf.mapMember (read ∘ JsonText.elements)), rest) :=
    scanSequence_print (by decide) (by decide) (.inr rfl)
      (fun member _ ↦ ⟨'"', _, rfl, by decide, by decide, by decide⟩)
      (fun member hmember c text hc ↦ scanMember_printMember
        (hmembers member hmember _ (notNumeral_cons (.inr rfl) hc text))) rest
  have htext : (JsonOf.object members).print ++ rest =
      '{' :: ([','].intercalate (members.map printMember) ++ '}' :: rest) := by
    simp [JsonOf.print, printMembers_eq_map]
  have hskip : ∀ text, skipSpace ('{' :: text) = '{' :: text := fun text ↦ rfl
  rw [htext, scanValue, hskip, JsonOf.map, JsonOf.mapMembers_eq_map]
  simp only [hscan]
  rfl

/-- What is printed is read back, whatever follows. Assumes: the value is not nested too deeply. -/
theorem readsBack_print {depth : ℕ} {value : JsonOf Text} (hdepth : value.depth ≤ depth) :
    ReadsBack read depth value := by
  induction depth generalizing value with
  | zero => exact fun rest hrest ↦ scanValue_print_leaf (Nat.le_zero.mp hdepth) 0 hrest
  | succ depth ih =>
    cases value with
    | array items =>
      rw [JsonOf.depth] at hdepth
      refine readsBack_array fun item hitem ↦ ih ?_
      have hle := depth_le_itemsDepth hitem
      omega
    | object members =>
      rw [JsonOf.depth] at hdepth
      refine readsBack_object fun member hmember ↦ ih ?_
      have hle := depth_le_membersDepth hmember
      omega
    | null | bool _ | number _ | string _ =>
      refine fun rest hrest ↦ scanValue_print_leaf ?_ (depth + 1) hrest
      rw [JsonOf.depth]

/-- A printed value is read back, as far as the reading of its strings tells. Assumes: it is not
nested too deeply. -/
theorem parseWith_print (read : List StringElement → Read) {value : JsonOf Text}
    (hdepth : value.depth ≤ maxNestingDepth) :
    parseWith read value.print = some (value.map (read ∘ JsonText.elements)) := by
  have hscan : scanValue read maxNestingDepth (value.print ++ []) =
      some (value.map (read ∘ JsonText.elements), []) :=
    readsBack_print hdepth [] (by simp [NotNumeral])
  rw [List.append_nil] at hscan
  rw [parseWith, hscan]
  rfl

/-- Different values are printed differently. Assumes: some reading of strings tells the texts
apart. -/
theorem print_injOn {read : List StringElement → Text}
    (hread : Function.LeftInverse read JsonText.elements) :
    Set.InjOn JsonOf.print {value : JsonOf Text | value.depth ≤ maxNestingDepth} := by
  intro first hfirst second hsecond hprint
  have hparse := parseWith_print read hfirst
  rw [hprint, parseWith_print read hsecond, hread.comp_eq_id, JsonOf.map_id, JsonOf.map_id]
    at hparse
  exact (Option.some.inj hparse).symm

end Values

/-- A printed value is read back. Assumes: it is not nested too deeply. -/
theorem parseJson_print {value : Json} (hdepth : value.depth ≤ maxNestingDepth) :
    parseJson value.print = some value := by
  rw [parseJson, parseWith_print textOf hdepth]
  have hcompose : textOf ∘ JsonText.elements = id := funext textOf_elements_text
  rw [hcompose, JsonOf.map_id]

/-- A printed value with strings of bytes is read back with the bytes that begin no character
replaced. Assumes: it is not nested too deeply. -/
theorem parseJson_print_runes {value : JsonOf Runes} (hdepth : value.depth ≤ maxNestingDepth) :
    parseJson value.print = some (value.map replacedText) := by
  have hcompose : textOf ∘ JsonText.elements = replacedText := funext textOf_elements_runes
  rw [parseJson, parseWith_print textOf hdepth, hcompose]

/-- Different values are printed differently. -/
theorem print_text_injOn : Set.InjOn JsonOf.print {value : Json | value.depth ≤ maxNestingDepth} :=
  print_injOn textOf_elements_text

/-- Different values with strings of bytes are printed differently, even if they are read as the
same texts. -/
theorem print_runes_injOn :
    Set.InjOn JsonOf.print {value : JsonOf Runes | value.depth ≤ maxNestingDepth} :=
  print_injOn map_runeOf_elements

/-! ### Integers -/

/-- The decimal text of an integer. -/
def intDigits (n : ℤ) : List Char :=
  if n < 0 then '-' :: Nat.toDigits 10 n.natAbs else Nat.toDigits 10 n.natAbs

theorem integerLiteral_intDigits (n : ℤ) : IntegerLiteral (intDigits n) n := by
  unfold intDigits
  split_ifs with hnegative
  · have hliteral := IntegerLiteral.negative (digitRun_toDigits n.natAbs)
    rw [decimalValue_toDigits] at hliteral
    rwa [Int.natCast_natAbs, abs_of_neg hnegative, neg_neg] at hliteral
  · have hliteral := integerLiteral_toDigits n.natAbs
    rwa [Int.natCast_natAbs, abs_of_nonneg (not_lt.mp hnegative)] at hliteral

/-- A decimal expansion begins with a zero only if it is that zero. -/
theorem validInteger_toDigits (n : ℕ) : validInteger (Nat.toDigits 10 n) = true := by
  have hhead : ∀ n, 0 < n → (Nat.toDigits 10 n).head? ≠ some '0' := by
    intro n
    induction n using Nat.strong_induction_on with
    | _ n ih =>
      intro hpos
      by_cases hsmall : n < 10
      · rw [Nat.toDigits_of_lt_base hsmall]
        interval_cases n <;> decide
      · rw [Nat.toDigits_of_base_le (by omega) (by omega),
          List.head?_append_of_ne_nil _ Nat.toDigits_ne_nil]
        exact ih (n / 10) (by omega) (by omega)
  rcases Nat.eq_zero_or_pos n with rfl | hpos
  · decide
  · unfold validInteger
    simp [hhead n hpos, Nat.toDigits_ne_nil]

theorem validUnsigned_toDigits (n : ℕ) : validUnsigned (Nat.toDigits 10 n) = true := by
  have hdigits := (digitRun_toDigits n).isDigit
  unfold validUnsigned
  rw [List.takeWhile_eq_self_iff.mpr hdigits, List.dropWhile_eq_nil_iff.mpr hdigits,
    validInteger_toDigits]
  rfl

/-- An integer as a JSON number. -/
def NumberLiteral.ofInt (n : ℤ) : NumberLiteral where
  literal := intDigits n
  numeral := by
    intro c hc
    have hdigit : ∀ c ∈ Nat.toDigits 10 n.natAbs, isNumeral c = true := by
      intro c hc
      simp [isNumeral, (digitRun_toDigits n.natAbs).isDigit c hc]
    unfold intDigits at hc
    split_ifs at hc
    · rcases List.mem_cons.mp hc with rfl | hrest
      · decide
      · exact hdigit c hrest
    · exact hdigit c hc
  valid := by
    have hunsigned := validUnsigned_toDigits n.natAbs
    unfold intDigits
    split_ifs
    · exact hunsigned
    · unfold validNumber
      split
      · next digits hminus =>
        have hdigit := (digitRun_toDigits n.natAbs).isDigit '-' (by rw [hminus]; simp)
        exact absurd hdigit (by decide)
      · exact hunsigned

theorem NumberLiteral.ofInt_injective : Function.Injective NumberLiteral.ofInt := by
  intro m n hsame
  have hliteral : intDigits m = intDigits n := congrArg NumberLiteral.literal hsame
  have hm := integerLiteral_intDigits m
  rw [hliteral] at hm
  exact hm.unique (integerLiteral_intDigits n)

end IncidentaryOperator.Foundation
