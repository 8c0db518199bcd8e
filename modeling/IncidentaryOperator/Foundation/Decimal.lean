import IncidentaryOperator.Foundation.GoStandard

/-!
# Decimal texts

What the scanners of `GoStandard` read, as a grammar. An integer literal is an optional sign and a
run of decimal digits that is not empty (`IntegerLiteral`). The operand of `%d` is the literal a
text begins with, taken as long as it goes (`signedDecimal_eq_some_iff`), and `fmt.Sscanf` reads it
after any blanks and whatever follows it (`sscanfDecimal_eq_some_iff`). `strconv.Atoi` reads whole
literals only (`atoi_eq_some_iff`). The decimal expansion of a natural number is a literal of its
value (`integerLiteral_toDigits`).
-/

set_option autoImplicit false
set_option relaxedAutoImplicit false

namespace IncidentaryOperator.Foundation

/-! ### Literals -/

/-- A run of decimal digits that is not empty. -/
structure DigitRun (text : List Char) : Prop where
  ne_nil : text ≠ []
  isDigit : ∀ c ∈ text, c.isDigit = true

/-- An integer literal with its value: an optional sign followed by decimal digits. -/
inductive IntegerLiteral : List Char → ℤ → Prop
  | unsigned {digits : List Char} (hdigits : DigitRun digits) :
      IntegerLiteral digits (decimalValue digits)
  | positive {digits : List Char} (hdigits : DigitRun digits) :
      IntegerLiteral ('+' :: digits) (decimalValue digits)
  | negative {digits : List Char} (hdigits : DigitRun digits) :
      IntegerLiteral ('-' :: digits) (-decimalValue digits)

theorem IntegerLiteral.ne_nil {literal : List Char} {n : ℤ} (hliteral : IntegerLiteral literal n) :
    literal ≠ [] := by
  cases hliteral with
  | unsigned hdigits => exact hdigits.ne_nil
  | positive hdigits => exact List.cons_ne_nil _ _
  | negative hdigits => exact List.cons_ne_nil _ _

/-- After its first character a literal has digits only. -/
theorem IntegerLiteral.isDigit_of_mem_tail {literal : List Char} {n : ℤ}
    (hliteral : IntegerLiteral literal n) : ∀ c ∈ literal.tail, c.isDigit = true := by
  intro c hc
  cases hliteral with
  | unsigned hdigits => exact hdigits.isDigit c (List.mem_of_mem_tail hc)
  | positive hdigits => exact hdigits.isDigit c hc
  | negative hdigits => exact hdigits.isDigit c hc

/-- A text that does not go on with a digit. -/
def NoDigitFirst (rest : List Char) : Prop :=
  ∀ c ∈ rest.head?, c.isDigit = false

theorem DigitRun.takeWhile_append {digits rest : List Char} (hdigits : DigitRun digits)
    (hrest : NoDigitFirst rest) : (digits ++ rest).takeWhile Char.isDigit = digits := by
  rw [List.takeWhile_append_of_pos hdigits.isDigit]
  cases rest with
  | nil => simp
  | cons c rest => simp [hrest c rfl]

theorem noDigitFirst_dropWhile (text : List Char) : NoDigitFirst (text.dropWhile Char.isDigit) := by
  intro c hc
  have hnot := List.head?_dropWhile_not Char.isDigit text
  rw [Option.mem_def] at hc
  rw [hc] at hnot
  exact hnot

/-- A digit run begins with a digit, so it begins with no sign. -/
theorem DigitRun.exists_head {digits : List Char} (hdigits : DigitRun digits) :
    ∃ c rest, digits = c :: rest ∧ c ≠ '-' ∧ c ≠ '+' ∧ isSpaceRune c = false := by
  obtain ⟨c, rest, rfl⟩ := List.exists_cons_of_ne_nil hdigits.ne_nil
  have hdigit := hdigits.isDigit c List.mem_cons_self
  refine ⟨c, rest, rfl, ?_, ?_, ?_⟩
  · rintro rfl
    exact absurd hdigit (by decide)
  · rintro rfl
    exact absurd hdigit (by decide)
  · have hrange := Char.isDigit_iff_toNat.mp hdigit
    have hzero : '0'.toNat = 48 := rfl
    have hnine : '9'.toNat = 57 := rfl
    simp only [isSpaceRune, Bool.or_eq_false_iff, Bool.and_eq_false_iff, decide_eq_false_iff_not,
      beq_eq_false_iff_ne]
    omega

/-! ### The operand of a scan -/

/-- The scan after the sign. -/
theorem match_takeWhile_eq_some_iff {rest : List Char} {value : List Char → ℤ} {n : ℤ} :
    (match rest.takeWhile Char.isDigit with
      | [] => none
      | digits => some (value digits)) = some n ↔
    ∃ digits after, rest = digits ++ after ∧ DigitRun digits ∧ NoDigitFirst after ∧
      value digits = n := by
  constructor
  · intro hscan
    have hdigits : ∀ c ∈ rest.takeWhile Char.isDigit, c.isDigit = true :=
      fun c hc ↦ List.mem_takeWhile_imp hc
    refine ⟨rest.takeWhile Char.isDigit, rest.dropWhile Char.isDigit,
      List.takeWhile_append_dropWhile.symm, ⟨?_, hdigits⟩, noDigitFirst_dropWhile rest, ?_⟩
    · intro hnil
      simp [hnil] at hscan
    · revert hscan
      cases rest.takeWhile Char.isDigit with
      | nil => simp
      | cons c digits => simp
  · rintro ⟨digits, after, rfl, hdigits, hafter, rfl⟩
    rw [hdigits.takeWhile_append hafter]
    obtain ⟨c, tail, rfl⟩ := List.exists_cons_of_ne_nil hdigits.ne_nil
    rfl

/-- What the scan makes of a run of digits after a sign. -/
def signedValue (negative : Bool) (digits : List Char) : ℤ :=
  if negative then -(decimalValue digits : ℤ) else decimalValue digits

theorem signedDecimal_negative (rest : List Char) :
    signedDecimal ('-' :: rest) =
      match rest.takeWhile Char.isDigit with
      | [] => none
      | digits => some (signedValue true digits) :=
  rfl

theorem signedDecimal_positive (rest : List Char) :
    signedDecimal ('+' :: rest) =
      match rest.takeWhile Char.isDigit with
      | [] => none
      | digits => some (signedValue false digits) :=
  rfl

theorem signedDecimal_unsigned {text : List Char} (hminus : text.head? ≠ some '-')
    (hplus : text.head? ≠ some '+') :
    signedDecimal text =
      match text.takeWhile Char.isDigit with
      | [] => none
      | digits => some (signedValue false digits) := by
  unfold signedDecimal
  split
  next negative rest hsplit =>
    split at hsplit
    · exact absurd rfl hminus
    · exact absurd rfl hplus
    · obtain ⟨rfl, rfl⟩ := Prod.mk.inj hsplit
      rfl

/-- The operand of `%d` is the literal the text begins with, as long as it goes. -/
theorem signedDecimal_eq_some_iff {text : List Char} {n : ℤ} :
    signedDecimal text = some n ↔
      ∃ literal rest, text = literal ++ rest ∧ IntegerLiteral literal n ∧ NoDigitFirst rest := by
  constructor
  · intro hscan
    by_cases hminus : text.head? = some '-'
    · obtain ⟨rest, rfl⟩ := List.head?_eq_some_iff.mp hminus
      rw [signedDecimal_negative, match_takeWhile_eq_some_iff] at hscan
      obtain ⟨digits, after, rfl, hdigits, hafter, rfl⟩ := hscan
      exact ⟨'-' :: digits, after, rfl, .negative hdigits, hafter⟩
    · by_cases hplus : text.head? = some '+'
      · obtain ⟨rest, rfl⟩ := List.head?_eq_some_iff.mp hplus
        rw [signedDecimal_positive, match_takeWhile_eq_some_iff] at hscan
        obtain ⟨digits, after, rfl, hdigits, hafter, rfl⟩ := hscan
        exact ⟨'+' :: digits, after, rfl, .positive hdigits, hafter⟩
      · rw [signedDecimal_unsigned hminus hplus, match_takeWhile_eq_some_iff] at hscan
        obtain ⟨digits, after, rfl, hdigits, hafter, rfl⟩ := hscan
        exact ⟨digits, after, rfl, .unsigned hdigits, hafter⟩
  · rintro ⟨literal, rest, rfl, hliteral, hrest⟩
    cases hliteral with
    | @unsigned digits hdigits =>
      obtain ⟨c, tail, rfl, hminus, hplus, -⟩ := hdigits.exists_head
      rw [signedDecimal_unsigned (by simpa using hminus) (by simpa using hplus),
        match_takeWhile_eq_some_iff]
      exact ⟨_, rest, rfl, hdigits, hrest, rfl⟩
    | @positive digits hdigits =>
      rw [List.cons_append, signedDecimal_positive, match_takeWhile_eq_some_iff]
      exact ⟨digits, rest, rfl, hdigits, hrest, rfl⟩
    | @negative digits hdigits =>
      rw [List.cons_append, signedDecimal_negative, match_takeWhile_eq_some_iff]
      exact ⟨digits, rest, rfl, hdigits, hrest, rfl⟩

/-! ### A whole scan -/

/-- A blank a scan skips: any space but a newline. -/
def isBlank (c : Char) : Bool :=
  isSpaceRune c && c ≠ '\n'

/-- The part of a text after its blanks. Assumes: it does not begin with a space. -/
theorem skipBlanks_append {blanks rest : List Char} (hblanks : ∀ c ∈ blanks, isBlank c = true)
    (hrest : ∀ c ∈ rest.head?, isSpaceRune c = false) :
    skipBlanks (blanks ++ rest) = some rest := by
  induction blanks with
  | nil =>
    cases rest with
    | nil => rfl
    | cons c rest =>
      have hspace := hrest c rfl
      have hnewline : c ≠ '\n' := by
        rintro rfl
        exact absurd hspace (by decide)
      simp [skipBlanks, hspace, hnewline]
  | cons c blanks ih =>
    have hblank := hblanks c List.mem_cons_self
    simp only [isBlank, Bool.and_eq_true, decide_eq_true_eq] at hblank
    rw [List.cons_append, skipBlanks, if_neg hblank.2, if_pos hblank.1]
    exact ih fun c hc ↦ hblanks c (List.mem_cons_of_mem _ hc)

theorem exists_blanks_of_skipBlanks {text rest : List Char} (hskip : skipBlanks text = some rest) :
    ∃ blanks, text = blanks ++ rest ∧ ∀ c ∈ blanks, isBlank c = true := by
  induction text with
  | nil => exact ⟨[], by simpa [skipBlanks] using hskip, by simp⟩
  | cons c text ih =>
    rw [skipBlanks] at hskip
    split_ifs at hskip with hnewline hspace
    · obtain ⟨blanks, rfl, hblanks⟩ := ih hskip
      refine ⟨c :: blanks, rfl, ?_⟩
      rw [List.forall_mem_cons]
      exact ⟨by simp [isBlank, hspace, hnewline], hblanks⟩
    · exact ⟨[], by simpa using hskip, by simp⟩

/-- The values a 64-bit integer can hold. -/
def FitsInt64 (n : ℤ) : Prop :=
  -(2 ^ 63) ≤ n ∧ n < 2 ^ 63

theorem IntegerLiteral.head_not_space {literal : List Char} {n : ℤ}
    (hliteral : IntegerLiteral literal n) (rest : List Char) :
    ∀ c ∈ (literal ++ rest).head?, isSpaceRune c = false := by
  cases hliteral with
  | unsigned hdigits =>
    obtain ⟨c, tail, rfl, -, -, hspace⟩ := hdigits.exists_head
    simpa using hspace
  | positive hdigits => simp; decide
  | negative hdigits => simp; decide

/-- A scan skips the blanks, reads the literal that follows and ignores the rest. It fails when
there is none or its value does not fit. -/
theorem sscanfDecimal_eq_some_iff {text : String} {n : ℤ} :
    sscanfDecimal text = some n ↔
      ∃ blanks literal rest, text.toList = blanks ++ literal ++ rest ∧
        (∀ c ∈ blanks, isBlank c = true) ∧ IntegerLiteral literal n ∧ NoDigitFirst rest ∧
        FitsInt64 n := by
  unfold sscanfDecimal
  constructor
  · intro hscan
    cases hskip : skipBlanks text.toList with
    | none => simp [hskip] at hscan
    | some operand =>
      cases hoperand : signedDecimal operand with
      | none => simp [hskip, hoperand] at hscan
      | some value =>
        simp only [hskip, hoperand] at hscan
        split_ifs at hscan with hfits
        obtain rfl := Option.some.inj hscan
        obtain ⟨blanks, htext, hblanks⟩ := exists_blanks_of_skipBlanks hskip
        obtain ⟨literal, rest, rfl, hliteral, hrest⟩ := signedDecimal_eq_some_iff.mp hoperand
        exact ⟨blanks, literal, rest, by rw [htext, List.append_assoc], hblanks, hliteral, hrest,
          hfits⟩
  · rintro ⟨blanks, literal, rest, htext, hblanks, hliteral, hrest, hfits⟩
    have hskip : skipBlanks text.toList = some (literal ++ rest) := by
      rw [htext, List.append_assoc]
      exact skipBlanks_append hblanks (hliteral.head_not_space rest)
    have hoperand : signedDecimal (literal ++ rest) = some n :=
      signedDecimal_eq_some_iff.mpr ⟨literal, rest, rfl, hliteral, hrest⟩
    simp only [hskip, hoperand]
    exact if_pos hfits

/-! ### Conversion -/

theorem IntegerLiteral.signedDecimal_eq {literal : List Char} {n : ℤ}
    (hliteral : IntegerLiteral literal n) : signedDecimal literal = some n :=
  signedDecimal_eq_some_iff.mpr
    ⟨literal, [], (List.append_nil literal).symm, hliteral, by simp [NoDigitFirst]⟩

/-- A text is the literal of one integer at most. -/
theorem IntegerLiteral.unique {literal : List Char} {m n : ℤ} (hm : IntegerLiteral literal m)
    (hn : IntegerLiteral literal n) : m = n :=
  Option.some.inj (hm.signedDecimal_eq.symm.trans hn.signedDecimal_eq)

/-- `strconv.Atoi` reads the literals whose value fits and nothing else. -/
theorem atoi_eq_some_iff {text : String} {n : ℤ} :
    atoi text = some n ↔ IntegerLiteral text.toList n ∧ FitsInt64 n := by
  unfold atoi
  generalize text.toList = text
  dsimp only
  constructor
  · intro hatoi
    split_ifs at hatoi with hall
    have htail : ∀ c ∈ text.tail, c.isDigit = true := by
      intro c hc
      split at hall
      · exact List.all_eq_true.mp hall c hc
      · exact List.all_eq_true.mp hall c hc
      · exact List.all_eq_true.mp hall c (List.mem_of_mem_tail hc)
    cases hvalue : signedDecimal text with
    | none => simp [hvalue] at hatoi
    | some value =>
      simp only [hvalue] at hatoi
      split_ifs at hatoi with hfits
      obtain rfl := Option.some.inj hatoi
      obtain ⟨literal, rest, rfl, hliteral, hrest⟩ := signedDecimal_eq_some_iff.mp hvalue
      obtain rfl : rest = [] := by
        obtain ⟨first, digits, rfl⟩ := List.exists_cons_of_ne_nil hliteral.ne_nil
        cases rest with
        | nil => rfl
        | cons c rest =>
          have hdigit := htail c (by simp)
          rw [hrest c rfl] at hdigit
          exact absurd hdigit Bool.false_ne_true
      rw [List.append_nil]
      exact ⟨hliteral, hfits⟩
  · rintro ⟨hliteral, hfits⟩
    rw [hliteral.signedDecimal_eq]
    dsimp only
    unfold FitsInt64 at hfits
    rw [if_pos hfits, if_pos]
    rw [List.all_eq_true]
    cases hliteral with
    | unsigned hdigits =>
      split
      · exact fun c hc ↦ hdigits.isDigit c (List.mem_cons_of_mem _ hc)
      · exact fun c hc ↦ hdigits.isDigit c (List.mem_cons_of_mem _ hc)
      · exact hdigits.isDigit
    | positive hdigits => exact hdigits.isDigit
    | negative hdigits => exact hdigits.isDigit

/-! ### Decimal expansions -/

theorem decimalValue_concat (digits : List Char) (digit : Char) :
    decimalValue (digits ++ [digit]) = 10 * decimalValue digits + (digit.toNat - '0'.toNat) := by
  simp [decimalValue]

theorem toNat_digitChar {d : ℕ} (hd : d < 10) : d.digitChar.toNat - '0'.toNat = d := by
  interval_cases d <;> rfl

/-- The decimal expansion of a number has its value. -/
theorem decimalValue_toDigits (n : ℕ) : decimalValue (Nat.toDigits 10 n) = n := by
  induction n using Nat.strong_induction_on with
  | _ n ih =>
    by_cases hsmall : n < 10
    · rw [Nat.toDigits_of_lt_base hsmall]
      have hvalue := decimalValue_concat [] n.digitChar
      rw [List.nil_append, toNat_digitChar hsmall] at hvalue
      simpa [decimalValue] using hvalue
    · rw [Nat.toDigits_of_base_le (by omega) (by omega), decimalValue_concat,
        ih (n / 10) (by omega), toNat_digitChar (Nat.mod_lt _ (by omega))]
      omega

theorem digitRun_toDigits (n : ℕ) : DigitRun (Nat.toDigits 10 n) where
  ne_nil := Nat.toDigits_ne_nil
  isDigit := fun _ hc ↦ Nat.isDigit_of_mem_toDigits (by omega) (by omega) hc

theorem integerLiteral_toDigits (n : ℕ) : IntegerLiteral (Nat.toDigits 10 n) n := by
  have hliteral := IntegerLiteral.unsigned (digitRun_toDigits n)
  rwa [decimalValue_toDigits] at hliteral

/-- A number written in decimal is scanned back. -/
theorem sscanfDecimal_repr {n : ℕ} (hn : n < 2 ^ 63) :
    sscanfDecimal (Nat.repr n) = some (n : ℤ) := by
  rw [sscanfDecimal_eq_some_iff]
  refine ⟨[], Nat.toDigits 10 n, [], ?_, by simp, integerLiteral_toDigits n, by simp [NoDigitFirst],
    ?_⟩
  · simp [Nat.repr]
  · unfold FitsInt64
    omega

end IncidentaryOperator.Foundation
