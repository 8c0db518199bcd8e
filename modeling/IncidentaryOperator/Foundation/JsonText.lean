import IncidentaryOperator.Foundation.Json

/-!
# Printed strings

How the encoder of Go's `encoding/json` prints strings, with the escapes it uses by default, and
what the scanner makes of them. A type whose values are printed in strings is an instance of
`JsonText`, which says what is printed and which elements that is read back as.

Strings of bytes are read as Go ranges over them (`runesOf`). A byte that begins no character is
printed as the escape of U+FFFD, while the character U+FFFD is printed as it is. The two have the
same text (`textOf_elements_runes`) and different elements (`map_runeOf_elements`).
-/

set_option autoImplicit false
set_option relaxedAutoImplicit false

namespace IncidentaryOperator.Foundation

/-! ### Strings of bytes -/

/-- The characters of a string of bytes, with none for a byte that begins no character. -/
abbrev Runes :=
  List (Option Char)

/-- The characters of a string of bytes, at most `fuel` of them. -/
def runesFrom : ℕ → ByteArray → Runes
  | 0, _ => []
  | fuel + 1, bytes =>
    if bytes.size = 0 then []
    else
      match bytes.utf8DecodeChar? 0 with
      | some c => some c :: runesFrom fuel (bytes.extract c.utf8Size bytes.size)
      | none => none :: runesFrom fuel (bytes.extract 1 bytes.size)

/-- The characters of a string of bytes. -/
def runesOf (bytes : ByteArray) : Runes :=
  runesFrom bytes.size bytes

/-- The characters of a text. -/
def textRunes (text : String) : Runes :=
  text.toList.map some

/-- The text of a string of bytes, in which U+FFFD stands for a byte that begins no character. -/
def replacedText (runes : Runes) : String :=
  String.ofList (runes.map fun rune ↦ rune.getD '\ufffd')

theorem replacedText_textRunes (text : String) : replacedText (textRunes text) = text := by
  have hcompose : (fun rune : Option Char ↦ rune.getD '\ufffd') ∘ some = id := rfl
  rw [replacedText, textRunes, List.map_map, hcompose, List.map_id, String.ofList_toList]

theorem textRunes_injective : Function.Injective textRunes :=
  Function.LeftInverse.injective replacedText_textRunes

theorem runesFrom_utf8Encode (text : List Char) {fuel : ℕ} (hfuel : text.length ≤ fuel) :
    runesFrom fuel text.utf8Encode = text.map some := by
  induction text generalizing fuel with
  | nil => cases fuel <;> rfl
  | cons c text ih =>
    obtain ⟨fuel, rfl⟩ : ∃ less, fuel = less + 1 := ⟨fuel - 1, by simp at hfuel; omega⟩
    have hfirst : [c].utf8Encode.size = c.utf8Size := by simp [List.utf8Encode_singleton]
    have hsize : (c :: text).utf8Encode.size ≠ 0 := by
      rw [List.utf8Encode_cons, ByteArray.size_append, hfirst]
      have hpos := c.utf8Size_pos
      omega
    have hrest : (c :: text).utf8Encode.extract c.utf8Size (c :: text).utf8Encode.size =
        text.utf8Encode := by
      rw [List.utf8Encode_cons]
      exact ByteArray.extract_append_eq_right hfirst.symm ByteArray.size_append
    rw [runesFrom, if_neg hsize, List.utf8DecodeChar?_utf8Encode_cons]
    dsimp only
    rw [hrest, ih (by simpa using hfuel), List.map_cons]

/-- Every byte of a text belongs to a character. -/
theorem runesOf_toByteArray (text : String) : runesOf text.toByteArray = textRunes text := by
  have hlength : text.toList.length ≤ text.toByteArray.size := by
    rw [← String.utf8Encode_toList]
    generalize text.toList = chars
    induction chars with
    | nil => simp
    | cons c chars ih =>
      have hpos := c.utf8Size_pos
      rw [List.utf8Encode_cons, ByteArray.size_append, List.length_cons,
        List.utf8Encode_singleton]
      simp only [List.size_toByteArray, String.length_utf8EncodeChar]
      omega
  rw [runesOf]
  nth_rewrite 2 [← String.utf8Encode_toList]
  exact runesFrom_utf8Encode text.toList hlength

/-! ### Strings -/

/-- The escape of a character by its number. -/
def unicodeEscape (c : Char) : List Char :=
  ['\\', 'u', Nat.digitChar (c.toNat / 0x1000), Nat.digitChar (c.toNat / 0x100 % 16),
    Nat.digitChar (c.toNat / 16 % 16), Nat.digitChar (c.toNat % 16)]

/-- The characters that are escaped by their number: control characters without a short escape, the
ones with a meaning in HTML, and the two line separators. -/
def escapedByNumber (c : Char) : Bool :=
  (c.toNat < 0x20 && c ≠ '\x08' && c ≠ '\x0c' && c ≠ '\n' && c ≠ '\r' && c ≠ '\t') ||
    c = '<' || c = '>' || c = '&' || c = '\u2028' || c = '\u2029'

/-- A character in a string. -/
def escapeChar (c : Char) : List Char :=
  if c = '"' then ['\\', '"']
  else if c = '\\' then ['\\', '\\']
  else if c = '\x08' then ['\\', 'b']
  else if c = '\x0c' then ['\\', 'f']
  else if c = '\n' then ['\\', 'n']
  else if c = '\r' then ['\\', 'r']
  else if c = '\t' then ['\\', 't']
  else if escapedByNumber c then unicodeEscape c
  else [c]

/-- A character of a string of bytes, or a byte that begins none. -/
def escapeRune : Option Char → List Char
  | some c => escapeChar c
  | none => "\\ufffd".toList

/-- What the scanner makes of a printed character. -/
def elementOf : Option Char → StringElement
  | some c => if escapedByNumber c then .unit c.toNat else .char c
  | none => .unit 0xfffd

/-- What an element was printed from. -/
def runeOf : StringElement → Option Char
  | .char c => some c
  | .unit code => if code = 0xfffd then none else some (Char.ofNat code)

theorem hexDigitValue_digitChar {d : ℕ} (hd : d < 16) : hexDigitValue d.digitChar = some d := by
  interval_cases d <;> rfl

theorem scanString_unicodeEscape {c : Char} (hc : c.toNat < 0x10000) (rest : List Char) :
    scanString .plain (unicodeEscape c ++ rest) =
      (scanString .plain rest).map (Prod.map (List.cons (.unit c.toNat)) id) := by
  have hfirst := hexDigitValue_digitChar (d := c.toNat / 0x1000) (by omega)
  have hsecond := hexDigitValue_digitChar (d := c.toNat / 0x100 % 16) (by omega)
  have hthird := hexDigitValue_digitChar (d := c.toNat / 16 % 16) (by omega)
  have hfourth := hexDigitValue_digitChar (d := c.toNat % 16) (by omega)
  have hcode : 16 * (16 * (16 * (16 * 0 + c.toNat / 0x1000) + c.toNat / 0x100 % 16) +
      c.toNat / 16 % 16) + c.toNat % 16 = c.toNat := by
    omega
  have hquote : ¬ '\\' = '"' := by decide
  unfold unicodeEscape
  simp only [List.cons_append, List.nil_append, scanString, hquote, if_false, if_true, hfirst,
    hsecond, hthird, hfourth, Nat.reduceAdd, Nat.reduceEqDiff, OfNat.zero_ne_ofNat, hcode]

theorem toNat_lt_of_escapedByNumber {c : Char} (hc : escapedByNumber c = true) :
    c.toNat < 0x10000 := by
  unfold escapedByNumber at hc
  simp only [Bool.or_eq_true, Bool.and_eq_true, decide_eq_true_eq] at hc
  rcases hc with ((((hcontrol | rfl) | rfl) | rfl) | rfl) | rfl
  · omega
  all_goals decide

/-- A printed character is read back as one element. -/
theorem scanString_escapeChar (c : Char) (rest : List Char) :
    scanString .plain (escapeChar c ++ rest) =
      (scanString .plain rest).map (Prod.map (List.cons (elementOf (some c))) id) := by
  by_cases hnumber : escapedByNumber c = true
  · have hescape : escapeChar c = unicodeEscape c := by
      unfold escapeChar
      split_ifs <;> first | rfl | (subst_vars; exact absurd hnumber (by decide))
    rw [hescape, scanString_unicodeEscape (toNat_lt_of_escapedByNumber hnumber), elementOf,
      if_pos hnumber]
  · rw [elementOf, if_neg hnumber]
    unfold escapeChar
    split_ifs with hquote hbackslash hb hf hn hr ht
    any_goals
      subst_vars
      simp [scanString, shortEscape]
    have hprintable : ¬ c.toNat < 0x20 := by
      intro hcontrol
      refine hnumber ?_
      unfold escapedByNumber
      simp [hcontrol, hb, hf, hn, hr, ht]
    simp [hquote, hbackslash, hprintable]

theorem scanString_escapeRune (rune : Option Char) (rest : List Char) :
    scanString .plain (escapeRune rune ++ rest) =
      (scanString .plain rest).map (Prod.map (List.cons (elementOf rune)) id) := by
  cases rune with
  | some c => exact scanString_escapeChar c rest
  | none => exact scanString_unicodeEscape (c := '\ufffd') (by decide) rest

theorem scanString_escapeRunes (runes : Runes) (rest : List Char) :
    scanString .plain (runes.flatMap escapeRune ++ '"' :: rest) =
      some (runes.map elementOf, rest) := by
  induction runes with
  | nil => simp [scanString]
  | cons rune runes ih =>
    rw [List.flatMap_cons, List.append_assoc, scanString_escapeRune, ih]
    rfl

theorem not_escapedByNumber_of_toNat_eq {c : Char} (hc : c.toNat = 0xfffd) :
    escapedByNumber c = false := by
  obtain rfl : c = '\ufffd' := Char.toNat_inj.mp hc
  decide

/-- The element of a byte that begins no character is the element of no character. -/
theorem runeOf_elementOf (rune : Option Char) : runeOf (elementOf rune) = rune := by
  cases rune with
  | none => rfl
  | some c =>
    rw [elementOf]
    split_ifs with hnumber
    · have hcode : c.toNat ≠ 0xfffd := by
        intro hcode
        rw [not_escapedByNumber_of_toNat_eq hcode] at hnumber
        cases hnumber
      rw [runeOf, if_neg hcode, Char.ofNat_toNat]
    · rfl

theorem not_isSurrogate_toNat (c : Char) : isSurrogate c.toNat = false := by
  have hvalid := c.valid
  unfold isSurrogate
  simp only [Bool.and_eq_false_iff, decide_eq_false_iff_not]
  rcases hvalid with hlow | hhigh
  · left
    have : c.toNat < 0xd800 := hlow
    omega
  · right
    have : 0xdfff < c.toNat := hhigh.1
    omega

theorem unitRune_toNat (c : Char) : unitRune c.toNat = c := by
  rw [unitRune, not_isSurrogate_toNat, if_neg Bool.false_ne_true, Char.ofNat_toNat]

theorem not_isSurrogatePair_toNat (c : Char) (second : ℕ) :
    isSurrogatePair c.toNat second = false := by
  have hnot := not_isSurrogate_toNat c
  unfold isSurrogate at hnot
  unfold isSurrogatePair
  simp only [Bool.and_eq_false_iff, decide_eq_false_iff_not] at hnot ⊢
  omega

theorem elementOf_eq_or (rune : Option Char) :
    elementOf rune = .char (rune.getD '\ufffd') ∨
      elementOf rune = .unit (rune.getD '\ufffd').toNat := by
  cases rune with
  | none => exact .inr rfl
  | some c =>
    rw [elementOf]
    split_ifs
    · exact .inr rfl
    · exact .inl rfl

/-- The text of printed characters. -/
theorem textOf_map_elementOf (runes : Runes) :
    textOf (runes.map elementOf) = replacedText runes := by
  rw [textOf, replacedText]
  congr 1
  induction runes with
  | nil => rfl
  | cons rune runes ih =>
    rw [List.map_cons, List.map_cons, ← ih]
    generalize runes.map elementOf = elements
    rcases elementOf_eq_or rune with hchar | hunit
    · rw [hchar]
      rfl
    · rw [hunit]
      rcases elements with _ | ⟨_ | code, others⟩
      · simp [decodeElements, unitRune_toNat]
      · simp [decodeElements, unitRune_toNat]
      · simp [decodeElements, unitRune_toNat, not_isSurrogatePair_toNat]

/-- Texts that can be printed in a string: what is printed, and the elements that is read back
as. -/
class JsonText (Text : Type) where
  escaped : Text → List Char
  elements : Text → List StringElement
  scanString_escaped : ∀ text rest,
    scanString .plain (escaped text ++ '"' :: rest) = some (elements text, rest)

instance : JsonText Runes where
  escaped runes := runes.flatMap escapeRune
  elements runes := runes.map elementOf
  scanString_escaped := scanString_escapeRunes

instance : JsonText String where
  escaped text := (textRunes text).flatMap escapeRune
  elements text := (textRunes text).map elementOf
  scanString_escaped text := scanString_escapeRunes (textRunes text)

theorem textOf_elements_runes (runes : Runes) :
    textOf (JsonText.elements runes) = replacedText runes :=
  textOf_map_elementOf runes

theorem textOf_elements_text (text : String) : textOf (JsonText.elements text) = text :=
  (textOf_map_elementOf (textRunes text)).trans (replacedText_textRunes text)

theorem map_runeOf_elements (runes : Runes) : (JsonText.elements runes).map runeOf = runes := by
  have hcompose : runeOf ∘ elementOf = id := funext runeOf_elementOf
  have hmap : ((runes.map elementOf).map runeOf) = runes := by
    rw [List.map_map, hcompose, List.map_id]
  exact hmap

/-- A string with its quotes. -/
def quoteString {Text : Type} [JsonText Text] (text : Text) : List Char :=
  '"' :: JsonText.escaped text ++ ['"']

end IncidentaryOperator.Foundation
