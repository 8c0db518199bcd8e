import Mathlib

/-!
# JSON texts

Values, and the scanner of Go's `encoding/json` that reads them: blanks, literals, strings with
their escapes, arrays and objects down to a limit on the nesting. Nothing here names the operator.

The scanner of a string is the state machine of the Go scanner, one character at a time. The loops
over the items of an array and the members of an object are one loop, `scanSeparated`, that takes
the scanner of an element, so `scanValue` recurses on the depth that is left and on nothing else.

A number is kept as its literal, because what becomes of it depends on the Go type it is decoded
into, and the members of an object are kept in order, repeated keys included. What is kept of a
string is a parameter: `parseJson` takes its text, as the decoder does, and a scanner with another
reading shows more of how the string was written.

`parseJson_append` is about texts that are cut: what a scanner accepts without a number at its top
it also accepts, with the same value, when more text follows. So a value that is read from the
beginning of a text is the value of the whole text or the whole text has none.
-/

set_option autoImplicit false
set_option relaxedAutoImplicit false

namespace IncidentaryOperator.Foundation

/-! ### Numbers -/

/-- The characters that can occur in a number. -/
def isNumeral (c : Char) : Bool :=
  c.isDigit || c = '-' || c = '+' || c = '.' || c = 'e' || c = 'E'

/-- The digits of an exponent, after its optional sign. -/
def validExponentDigits : List Char → Bool
  | '-' :: digits | '+' :: digits => digits ≠ [] && digits.all Char.isDigit
  | digits => digits ≠ [] && digits.all Char.isDigit

/-- The end of a number, from the exponent on. -/
def validExponent : List Char → Bool
  | [] => true
  | c :: rest => (c = 'e' || c = 'E') && validExponentDigits rest

/-- The end of a number, from the fraction on. -/
def validFraction : List Char → Bool
  | '.' :: rest =>
    rest.takeWhile Char.isDigit ≠ [] && validExponent (rest.dropWhile Char.isDigit)
  | rest => validExponent rest

/-- The integer part of a number: digits that begin with a zero only if they are that zero. -/
def validInteger (digits : List Char) : Bool :=
  digits ≠ [] && (digits = ['0'] || digits.head? ≠ some '0')

/-- A number without its sign. -/
def validUnsigned (literal : List Char) : Bool :=
  validInteger (literal.takeWhile Char.isDigit) && validFraction (literal.dropWhile Char.isDigit)

/-- The grammar of numbers. -/
def validNumber : List Char → Bool
  | '-' :: literal => validUnsigned literal
  | literal => validUnsigned literal

/-- A number, by its literal. -/
structure NumberLiteral where
  literal : List Char
  numeral : ∀ c ∈ literal, isNumeral c = true
  valid : validNumber literal = true
  deriving DecidableEq

/-! ### Values -/

/-- A JSON value, with what is kept of its strings. -/
inductive JsonOf (Text : Type)
  | null
  | bool (value : Bool)
  | number (value : NumberLiteral)
  | string (value : Text)
  | array (items : List (JsonOf Text))
  | object (members : List (String × JsonOf Text))

/-- A JSON value with the texts of its strings. -/
abbrev Json :=
  JsonOf String

/-! ### Strings -/

/-- An element of a string literal: a character, plain or by a short escape, or a 16-bit unit that
is given by its number. -/
inductive StringElement
  | char (c : Char)
  | unit (code : ℕ)
  deriving DecidableEq

/-- The characters with a short escape. -/
def shortEscape (c : Char) : Option Char :=
  if c = '"' then some '"'
  else if c = '\\' then some '\\'
  else if c = '/' then some '/'
  else if c = 'b' then some '\x08'
  else if c = 'f' then some '\x0c'
  else if c = 'n' then some '\n'
  else if c = 'r' then some '\r'
  else if c = 't' then some '\t'
  else none

/-- The value of a hexadecimal digit. -/
def hexDigitValue (c : Char) : Option ℕ :=
  if '0' ≤ c ∧ c ≤ '9' then some (c.toNat - '0'.toNat)
  else if 'a' ≤ c ∧ c ≤ 'f' then some (c.toNat - 'a'.toNat + 10)
  else if 'A' ≤ c ∧ c ≤ 'F' then some (c.toNat - 'A'.toNat + 10)
  else none

/-- Where the scanner stands in a string: between elements, after a backslash, or within the digits
of a unit, with the number of digits read and their value. -/
inductive StringState
  | plain
  | escape
  | hex (count code : ℕ)

/-- The elements of a string literal from inside the quotes on, and what follows the closing
quote. -/
def scanString : StringState → List Char → Option (List StringElement × List Char)
  | _, [] => none
  | .plain, c :: rest =>
    if c = '"' then some ([], rest)
    else if c = '\\' then scanString .escape rest
    else if c.toNat < 0x20 then none
    else (scanString .plain rest).map (Prod.map (List.cons (.char c)) id)
  | .escape, c :: rest =>
    if c = 'u' then scanString (.hex 0 0) rest
    else
      match shortEscape c with
      | none => none
      | some escaped => (scanString .plain rest).map (Prod.map (List.cons (.char escaped)) id)
  | .hex count code, c :: rest =>
    match hexDigitValue c with
    | none => none
    | some digit =>
      if count = 3 then
        (scanString .plain rest).map (Prod.map (List.cons (.unit (16 * code + digit))) id)
      else scanString (.hex (count + 1) (16 * code + digit)) rest

/-- A unit that stands for half a character. -/
def isSurrogate (code : ℕ) : Bool :=
  0xd800 ≤ code && code < 0xe000

/-- The character of a unit on its own: half a character is replaced. -/
def unitRune (code : ℕ) : Char :=
  if isSurrogate code then '\ufffd' else Char.ofNat code

/-- Two units are the halves of a character. -/
def isSurrogatePair (first second : ℕ) : Bool :=
  0xd800 ≤ first && first < 0xdc00 && 0xdc00 ≤ second && second < 0xe000

/-- The character of two halves. -/
def pairRune (first second : ℕ) : Char :=
  Char.ofNat ((first - 0xd800) * 0x400 + (second - 0xdc00) + 0x10000)

/-- The characters of the elements of a string. -/
def decodeElements : List StringElement → List Char
  | [] => []
  | .char c :: rest => c :: decodeElements rest
  | .unit first :: .unit second :: rest =>
    if isSurrogatePair first second then pairRune first second :: decodeElements rest
    else unitRune first :: decodeElements (.unit second :: rest)
  | .unit code :: rest => unitRune code :: decodeElements rest

/-- The text of a string. -/
def textOf (elements : List StringElement) : String :=
  String.ofList (decodeElements elements)

/-! ### The scanner -/

/-- The blanks between tokens. -/
def isJsonSpace (c : Char) : Bool :=
  c = ' ' || c = '\t' || c = '\r' || c = '\n'

/-- The text after the blanks at its beginning. -/
def skipSpace (text : List Char) : List Char :=
  text.dropWhile isJsonSpace

section Sequences

variable {α : Type}

/-- Elements separated by commas up to the closing character, at most `fuel` of them. -/
def scanSeparated (element : List Char → Option (α × List Char)) (close : Char) :
    ℕ → List Char → Option (List α × List Char)
  | 0, _ => none
  | fuel + 1, text =>
    match element text with
    | none => none
    | some (item, rest) =>
      match skipSpace rest with
      | [] => none
      | c :: rest =>
        if c = ',' then (scanSeparated element close fuel rest).map (Prod.map (List.cons item) id)
        else if c = close then some ([item], rest)
        else none

/-- The elements of an array or an object, from inside its brackets on. -/
def scanSequence (element : List Char → Option (α × List Char)) (close : Char)
    (text : List Char) : Option (List α × List Char) :=
  match skipSpace text with
  | [] => none
  | c :: rest =>
    if c = close then some ([], rest) else scanSeparated element close text.length text

end Sequences

section Scanner

variable {Text : Type}

/-- A member of an object: a string, a colon and a value. -/
def scanMember (value : List Char → Option (JsonOf Text × List Char)) (text : List Char) :
    Option ((String × JsonOf Text) × List Char) :=
  match skipSpace text with
  | '"' :: rest =>
    match scanString .plain rest with
    | none => none
    | some (elements, rest) =>
      match skipSpace rest with
      | ':' :: rest => (value rest).map (Prod.map (Prod.mk (textOf elements)) id)
      | _ => none
  | _ => none

/-- A word at the beginning of a text. -/
def scanWord : List Char → Option (JsonOf Text × List Char)
  | 'n' :: 'u' :: 'l' :: 'l' :: rest => some (.null, rest)
  | 't' :: 'r' :: 'u' :: 'e' :: rest => some (.bool true, rest)
  | 'f' :: 'a' :: 'l' :: 's' :: 'e' :: rest => some (.bool false, rest)
  | _ => none

/-- A number at the beginning of a text: the longest run of its characters. -/
def scanNumber (text : List Char) : Option (JsonOf Text × List Char) :=
  if hvalid : validNumber (text.takeWhile isNumeral) = true then
    some (.number ⟨text.takeWhile isNumeral, fun _ hc ↦ List.mem_takeWhile_imp hc, hvalid⟩,
      text.dropWhile isNumeral)
  else none

/-- A value without items at the beginning of a text. -/
def scanLeaf (read : List StringElement → Text) : List Char → Option (JsonOf Text × List Char)
  | [] => none
  | c :: rest =>
    if c = '"' then
      (scanString .plain rest).map (Prod.map (fun elements ↦ .string (read elements)) id)
    else if isNumeral c then scanNumber (c :: rest)
    else scanWord (c :: rest)

/-- A value at the beginning of a text, with at most `depth` levels of arrays and objects. -/
def scanValue (read : List StringElement → Text) :
    ℕ → List Char → Option (JsonOf Text × List Char)
  | 0, text => scanLeaf read (skipSpace text)
  | depth + 1, text =>
    match skipSpace text with
    | '{' :: rest =>
      (scanSequence (scanMember (scanValue read depth)) '}' rest).map (Prod.map .object id)
    | '[' :: rest => (scanSequence (scanValue read depth) ']' rest).map (Prod.map .array id)
    | rest => scanLeaf read rest

end Scanner

/-- The limit of the Go scanner on the nesting. -/
def maxNestingDepth : ℕ :=
  10000

/-- The value of a text, if it is one value with nothing but blanks around it. -/
def parseWith {Text : Type} (read : List StringElement → Text) (text : List Char) :
    Option (JsonOf Text) :=
  match scanValue read maxNestingDepth text with
  | none => none
  | some (value, rest) => if skipSpace rest = [] then some value else none

/-- The value of a text, with the texts of its strings. -/
def parseJson (text : List Char) : Option Json :=
  parseWith textOf text

example : (parseJson " \x7b\"a\\u0062\": [1, true]\x7d ".toList).isSome = true := by
  decide

/-! ### Texts that go on -/

theorem skipSpace_append {text : List Char} (htext : skipSpace text ≠ []) (more : List Char) :
    skipSpace (text ++ more) = skipSpace text ++ more := by
  unfold skipSpace at htext ⊢
  rw [List.dropWhile_append, if_neg]
  simpa using htext

/-- A string ends at its closing quote, whatever follows. -/
theorem scanString_append {state : StringState} {text rest : List Char}
    {elements : List StringElement} (hscan : scanString state text = some (elements, rest))
    (more : List Char) : scanString state (text ++ more) = some (elements, rest ++ more) := by
  induction text generalizing state elements with
  | nil => simp [scanString] at hscan
  | cons c text ih =>
    have hmap : ∀ element, (scanString .plain text).map (Prod.map (List.cons element) id) =
        some (elements, rest) →
        (scanString .plain (text ++ more)).map (Prod.map (List.cons element) id) =
          some (elements, rest ++ more) := by
      intro element hrest
      obtain ⟨⟨others, after⟩, hothers, heq⟩ := Option.map_eq_some_iff.mp hrest
      obtain ⟨rfl, rfl⟩ := Prod.mk.inj heq
      rw [ih hothers]
      rfl
    rw [List.cons_append]
    cases state with
    | plain =>
      unfold scanString at hscan ⊢
      split_ifs at hscan ⊢
      · obtain ⟨rfl, rfl⟩ := Prod.mk.inj (Option.some.inj hscan)
        rfl
      · exact ih hscan
      · exact hmap _ hscan
    | escape =>
      unfold scanString at hscan ⊢
      split_ifs at hscan ⊢
      · exact ih hscan
      · split at hscan
        · cases hscan
        · exact hmap _ hscan
    | hex count code =>
      unfold scanString at hscan ⊢
      split at hscan
      · cases hscan
      · split_ifs at hscan ⊢
        · exact hmap _ hscan
        · exact ih hscan

/-- What a scanner reads does not depend on what comes after the first character it leaves. -/
def Stable {α : Type} (scan : List Char → Option (α × List Char)) : Prop :=
  ∀ text item rest more, scan text = some (item, rest) → rest ≠ [] →
    scan (text ++ more) = some (item, rest ++ more)

section Sequences

variable {α : Type} {element : List Char → Option (α × List Char)} {close : Char}

/-- The closing character ends a sequence, whatever follows and however many more elements would
have been read. -/
theorem scanSeparated_append (helement : Stable element) {fuel more : ℕ} (hfuel : fuel ≤ more)
    {text rest : List Char} {items : List α}
    (hscan : scanSeparated element close fuel text = some (items, rest)) (tail : List Char) :
    scanSeparated element close more (text ++ tail) = some (items, rest ++ tail) := by
  induction fuel generalizing more text items with
  | zero => simp [scanSeparated] at hscan
  | succ fuel ih =>
    obtain ⟨more, rfl⟩ : ∃ less, more = less + 1 := ⟨more - 1, by omega⟩
    unfold scanSeparated at hscan ⊢
    split at hscan
    · cases hscan
    · next item after hitem =>
      split at hscan
      · cases hscan
      · next c following hskip =>
        have hafter : skipSpace after ≠ [] := by simp [hskip]
        have hleft : after ≠ [] := by
          rintro rfl
          exact hafter rfl
        rw [helement text item after tail hitem hleft]
        dsimp only
        rw [skipSpace_append hafter, hskip]
        dsimp only [List.cons_append]
        split_ifs at hscan ⊢
        · obtain ⟨⟨others, last⟩, hothers, heq⟩ := Option.map_eq_some_iff.mp hscan
          obtain ⟨rfl, rfl⟩ := Prod.mk.inj heq
          rw [ih (by omega) hothers]
          rfl
        · obtain ⟨rfl, rfl⟩ := Prod.mk.inj (Option.some.inj hscan)
          rfl

theorem scanSequence_append (helement : Stable element) {text rest : List Char} {items : List α}
    (hscan : scanSequence element close text = some (items, rest)) (tail : List Char) :
    scanSequence element close (text ++ tail) = some (items, rest ++ tail) := by
  unfold scanSequence at hscan ⊢
  split at hscan
  · cases hscan
  · next c after hskip =>
    rw [skipSpace_append (by simp [hskip]), hskip]
    dsimp only [List.cons_append]
    split_ifs at hscan ⊢
    · obtain ⟨rfl, rfl⟩ := Prod.mk.inj (Option.some.inj hscan)
      rfl
    · exact scanSeparated_append helement (by simp) hscan tail

end Sequences

section Scanner

variable {Text : Type} {read : List StringElement → Text}

theorem stable_scanMember {value : List Char → Option (JsonOf Text × List Char)}
    (hvalue : Stable value) : Stable (scanMember value) := by
  intro text item rest more hscan hrest
  unfold scanMember at hscan ⊢
  split at hscan
  · next after hskip =>
    rw [skipSpace_append (by simp [hskip]), hskip]
    split at hscan
    · cases hscan
    · next elements between hstring =>
      simp only [List.cons_append, scanString_append hstring]
      split at hscan
      · next following hcolon =>
        rw [skipSpace_append (by simp [hcolon]), hcolon]
        obtain ⟨⟨member, last⟩, hmember, heq⟩ := Option.map_eq_some_iff.mp hscan
        obtain ⟨rfl, rfl⟩ := Prod.mk.inj heq
        simp only [List.cons_append]
        rw [hvalue _ _ _ more hmember hrest]
        rfl
      · cases hscan
  · cases hscan

theorem scanWord_append {text rest : List Char} {value : JsonOf Text}
    (hscan : scanWord text = some (value, rest)) (more : List Char) :
    scanWord (text ++ more) = some (value, rest ++ more) := by
  unfold scanWord at hscan
  split at hscan
  all_goals cases hscan
  all_goals rfl

theorem stable_scanNumber : Stable (α := JsonOf Text) scanNumber := by
  intro text value rest more hscan hrest
  unfold scanNumber at hscan
  split_ifs at hscan with hvalid
  obtain ⟨rfl, rfl⟩ := Prod.mk.inj (Option.some.inj hscan)
  have htake : (text ++ more).takeWhile isNumeral = text.takeWhile isNumeral := by
    rw [List.takeWhile_append, if_neg]
    intro hall
    have hwhole : text.takeWhile isNumeral = text := (List.takeWhile_prefix _).eq_of_length hall
    refine hrest (List.dropWhile_eq_nil_iff.mpr fun c hc ↦ ?_)
    rw [← hwhole] at hc
    exact List.mem_takeWhile_imp hc
  have hdrop : (text ++ more).dropWhile isNumeral = text.dropWhile isNumeral ++ more := by
    rw [List.dropWhile_append, if_neg (by simpa using hrest)]
  unfold scanNumber
  simp only [htake, hdrop, hvalid, dif_pos]

/-- A value that is a number. The text of a number may go on, the text of any other value does
not. -/
def JsonOf.isNumber : JsonOf Text → Bool
  | .number _ => true
  | _ => false

theorem scanLeaf_append {text rest : List Char} {value : JsonOf Text}
    (hscan : scanLeaf read text = some (value, rest)) (hends : rest ≠ [] ∨ value.isNumber = false)
    (more : List Char) : scanLeaf read (text ++ more) = some (value, rest ++ more) := by
  unfold scanLeaf at hscan
  split at hscan
  · cases hscan
  · next c text =>
    rw [List.cons_append]
    unfold scanLeaf
    dsimp only
    split_ifs at hscan ⊢
    · obtain ⟨⟨elements, after⟩, hstring, heq⟩ := Option.map_eq_some_iff.mp hscan
      obtain ⟨rfl, rfl⟩ := Prod.mk.inj heq
      rw [scanString_append hstring]
      rfl
    · refine stable_scanNumber (c :: text) value rest more hscan (hends.resolve_right ?_)
      unfold scanNumber at hscan
      split_ifs at hscan
      obtain ⟨rfl, -⟩ := Prod.mk.inj (Option.some.inj hscan)
      exact Bool.noConfusion
    · exact scanWord_append hscan more

/-- The value at the beginning of a text stays the same when more text follows. Assumes: something
is left of the text, or the value is no number. -/
theorem scanValue_append {depth : ℕ} {text rest : List Char} {value : JsonOf Text}
    (hscan : scanValue read depth text = some (value, rest))
    (hends : rest ≠ [] ∨ value.isNumber = false) (more : List Char) :
    scanValue read depth (text ++ more) = some (value, rest ++ more) := by
  induction depth generalizing text rest value more with
  | zero =>
    unfold scanValue at hscan ⊢
    have hskip : skipSpace text ≠ [] := by
      intro hnil
      rw [hnil] at hscan
      cases hscan
    rw [skipSpace_append hskip]
    exact scanLeaf_append hscan hends more
  | succ depth ih =>
    have hstable : Stable (scanValue read depth) := by
      intro text value rest more hscan hrest
      exact ih hscan (.inl hrest) more
    unfold scanValue at hscan ⊢
    have hskip : skipSpace text ≠ [] := by
      intro hnil
      rw [hnil] at hscan
      cases hscan
    rw [skipSpace_append hskip]
    split at hscan
    · next after hbrace =>
      obtain ⟨⟨members, last⟩, hmembers, heq⟩ := Option.map_eq_some_iff.mp hscan
      obtain ⟨rfl, rfl⟩ := Prod.mk.inj heq
      rw [hbrace]
      simp only [List.cons_append]
      rw [scanSequence_append (stable_scanMember hstable) hmembers]
      rfl
    · next after hbracket =>
      obtain ⟨⟨items, last⟩, hitems, heq⟩ := Option.map_eq_some_iff.mp hscan
      obtain ⟨rfl, rfl⟩ := Prod.mk.inj heq
      rw [hbracket]
      simp only [List.cons_append]
      rw [scanSequence_append hstable hitems]
      rfl
    · next hbrace hbracket =>
      obtain ⟨c, after, hcons⟩ := List.exists_cons_of_ne_nil hskip
      rw [hcons] at hscan hbrace hbracket ⊢
      have hleaf := scanLeaf_append hscan hends more
      rw [List.cons_append] at hleaf ⊢
      split
      · next heq => exact absurd (by rw [(List.cons.inj heq).1]) (hbrace after)
      · next heq => exact absurd (by rw [(List.cons.inj heq).1]) (hbracket after)
      · exact hleaf

end Scanner

/-- What is read from the beginning of a text is the value of the text, if it has one, and only
blanks are left out. Assumes: it is no number. -/
theorem parseJson_append {text more : List Char} {value whole : Json}
    (hvalue : parseJson text = some value) (hnumber : value.isNumber = false)
    (hwhole : parseJson (text ++ more) = some whole) :
    value = whole ∧ ∀ c ∈ more, isJsonSpace c = true := by
  unfold parseJson parseWith at hvalue hwhole
  split at hvalue
  · cases hvalue
  · next scanned rest hscan =>
    split_ifs at hvalue
    obtain rfl := Option.some.inj hvalue
    rw [scanValue_append hscan (.inr hnumber)] at hwhole
    dsimp only at hwhole
    split_ifs at hwhole with hblank
    refine ⟨Option.some.inj hwhole, fun c hc ↦ ?_⟩
    exact List.dropWhile_eq_nil_iff.mp hblank c (List.mem_append_right rest hc)

end IncidentaryOperator.Foundation
