import IncidentaryOperator.Foundation.EditDistance
import IncidentaryOperator.Foundation.GoStandard
import IncidentaryOperator.Foundation.Slices

/-!
# The nearest registered id

`internal/discovery/reconciler.go`: `levenshtein` compares two strings byte by byte in a table of
two rows, and `fuzzyMatch` scans the registered ids for the nearest one. A string is the list of its
bytes. An index out of range would stop the program, so the table functions return options.

`levenshtein_edit_distance` is about the table: every index is in range and the result is the least
number of edits. `fuzzyMatch_nearest_iff` is about the scan. It starts from a sentinel one above the
allowed distance. For the largest `int` the sentinel wraps around to the smallest, so that no
candidate is below it and the scan answers the empty string, found
(`unbounded_match_answers_empty`).

The lengths of the strings are in the range of `int`, and so is every cell of the table, which is
taken as a natural number.
-/

set_option autoImplicit false
set_option relaxedAutoImplicit false

namespace IncidentaryOperator.Discovery

open Foundation

/-! ### The two rows -/

/-- `min3`. -/
def min3 (a b c : ℕ) : ℕ :=
  if a < b then (if a < c then a else c) else if b < c then b else c

/-- The two rows of the table. -/
structure Rows where
  prev : List ℕ
  curr : List ℕ

/-- A round of the inner loop, which fills a cell of the current row. -/
def fillCell (a b : List UInt8) (i j : ℕ) (rows : Rows) : Option Rows := do
  let x ← a[i - 1]?
  let y ← b[j - 1]?
  let cost := if x = y then 0 else 1
  let del := (← rows.prev[j]?) + 1
  let ins := (← rows.curr[j - 1]?) + 1
  let sub := (← rows.prev[j - 1]?) + cost
  let curr ← store rows.curr j (min3 del ins sub)
  return { rows with curr := curr }

/-- A round of the outer loop, which fills the current row and swaps the rows. -/
def fillRow (a b : List UInt8) (i : ℕ) (rows : Rows) : Option Rows := do
  let curr ← store rows.curr 0 i
  let rows ← countedLoop (fillCell a b i) 1 b.length { rows with curr := curr }
  return { prev := rows.curr, curr := rows.prev }

/-- `levenshtein`. -/
def levenshtein (a b : List UInt8) : Option ℕ :=
  if a.length = 0 then some b.length
  else if b.length = 0 then some a.length
  else do
    let zeros := List.replicate (b.length + 1) 0
    let prev ← countedLoop (fun j prev ↦ store prev j j) 0 (b.length + 1) zeros
    let rows ← countedLoop (fillRow a b) 1 a.length { prev := prev, curr := zeros }
    rows.prev[b.length]?

theorem min3_eq (a b c : ℕ) : min3 a b c = min a (min b c) := by
  unfold min3
  split_ifs <;> omega

/-- A row of the length of the table whose first cells hold the given values. -/
structure Holds (row : List ℕ) (length filled : ℕ) (value : ℕ → ℕ) : Prop where
  length : row.length = length
  cell : ∀ j < filled, row[j]? = some (value j)

theorem holds_zero {row : List ℕ} {length : ℕ} (hlength : row.length = length) (value : ℕ → ℕ) :
    Holds row length 0 value :=
  ⟨hlength, fun _ hj ↦ absurd hj (Nat.not_lt_zero _)⟩

/-- A write to the next cell. -/
theorem Holds.store {row : List ℕ} {length filled : ℕ} {value : ℕ → ℕ}
    (hrow : Holds row length filled value) (hfilled : filled < length) :
    ∃ next, store row filled (value filled) = some next ∧ Holds next length (filled + 1) value := by
  have hlt : filled < row.length := hrow.length ▸ hfilled
  refine ⟨_, store_of_lt hlt _, ?_, ?_⟩
  · rw [List.length_set]
    exact hrow.length
  · intro j hj
    rcases Nat.lt_succ_iff_lt_or_eq.mp hj with hbelow | rfl
    · rw [List.getElem?_set_ne hbelow.ne']
      exact hrow.cell j hbelow
    · exact List.getElem?_set_self hlt

/-- The cell of two prefixes. -/
def cell (a b : List UInt8) (i j : ℕ) : ℕ :=
  distance (a.take i) (b.take j)

theorem cell_zero_left {a b : List UInt8} {j : ℕ} (hj : j ≤ b.length) : cell a b 0 j = j := by
  simp [cell, hj]

theorem cell_zero_right {a b : List UInt8} {i : ℕ} (hi : i ≤ a.length) : cell a b i 0 = i := by
  simp [cell, hi]

theorem cell_succ {a b : List UInt8} {i j : ℕ} {x y : UInt8} (hx : a[i]? = some x)
    (hy : b[j]? = some y) :
    cell a b (i + 1) (j + 1) =
      min (cell a b i (j + 1) + 1)
        (min (cell a b (i + 1) j + 1) (cell a b i j + if x = y then 0 else 1)) :=
  distance_take_succ hx hy

/-- The invariant of the inner loop: the previous row is that of the prefix before, and the current
row is filled up to the index. -/
structure Filling (a b : List UInt8) (i filled : ℕ) (rows : Rows) : Prop where
  prev : Holds rows.prev (b.length + 1) (b.length + 1) (cell a b i)
  curr : Holds rows.curr (b.length + 1) filled (cell a b (i + 1))

theorem fillCell_filling {a b : List UInt8} {i j : ℕ} {rows : Rows} (hi : i < a.length)
    (hj : j < b.length) (hrows : Filling a b i (j + 1) rows) :
    ∃ next, fillCell a b (i + 1) (j + 1) rows = some next ∧ Filling a b i (j + 2) next := by
  have hx := List.getElem?_eq_getElem hi
  have hy := List.getElem?_eq_getElem hj
  obtain ⟨curr, hstore, hcurr⟩ := hrows.curr.store (by omega)
  rw [cell_succ hx hy] at hstore
  refine ⟨{ rows with curr := curr }, ?_, hrows.prev, hcurr⟩
  unfold fillCell
  simp only [Nat.add_sub_cancel, hx, hy, hrows.prev.cell (j + 1) (by omega),
    hrows.prev.cell j (by omega), hrows.curr.cell j (by omega), Option.bind_eq_bind,
    Option.bind_some, min3_eq, hstore]
  rfl

/-- The invariant of the outer loop: the previous row is that of the prefix so far. -/
structure Filled (a b : List UInt8) (i : ℕ) (rows : Rows) : Prop where
  prev : Holds rows.prev (b.length + 1) (b.length + 1) (cell a b i)
  curr : rows.curr.length = b.length + 1

theorem fillRow_filled {a b : List UInt8} {i : ℕ} {rows : Rows} (hi : i < a.length)
    (hrows : Filled a b i rows) :
    ∃ next, fillRow a b (i + 1) rows = some next ∧ Filled a b (i + 1) next := by
  have hempty : Holds rows.curr (b.length + 1) 0 (cell a b (i + 1)) := holds_zero hrows.curr _
  obtain ⟨curr, hstore, hcurr⟩ := hempty.store (Nat.succ_pos _)
  rw [cell_zero_right (by omega)] at hstore
  have hloop := @countedLoop_invariant _ (fillCell a b (i + 1)) (Filling a b i) 1 b.length
    { rows with curr := curr } ⟨hrows.prev, hcurr⟩ (by
      intro j state hlow hhigh hstate
      obtain ⟨j, rfl⟩ := Nat.exists_eq_add_of_le' hlow
      exact fillCell_filling hi (by omega) hstate)
  obtain ⟨final, hfinal, hfilling⟩ := hloop
  rw [Nat.add_comm] at hfilling
  refine ⟨{ prev := final.curr, curr := final.prev }, ?_, hfilling.curr, hfilling.prev.length⟩
  unfold fillRow
  simp only [hstore, hfinal, Option.bind_eq_bind, Option.bind_some]
  rfl

theorem firstRow_holds (a b : List UInt8) :
    ∃ prev, countedLoop (fun j prev ↦ store prev j j) 0 (b.length + 1)
        (List.replicate (b.length + 1) 0) = some prev ∧
      Holds prev (b.length + 1) (b.length + 1) (cell a b 0) := by
  have hloop := @countedLoop_invariant _ (fun j prev ↦ store prev j j)
    (fun j prev ↦ Holds prev (b.length + 1) j (cell a b 0)) 0 (b.length + 1)
    (List.replicate (b.length + 1) 0) (holds_zero List.length_replicate _) (by
      intro j row _ hj hrow
      obtain ⟨next, hstore, hnext⟩ := hrow.store (by omega)
      rw [cell_zero_left (by omega)] at hstore
      exact ⟨next, hstore, hnext⟩)
  rwa [Nat.zero_add] at hloop

/-- The table computes the distance, with every index in range. -/
theorem levenshtein_eq (a b : List UInt8) : levenshtein a b = some (distance a b) := by
  unfold levenshtein
  split_ifs with ha hb
  · rw [List.length_eq_zero_iff.mp ha, distance_nil_left]
  · rw [List.length_eq_zero_iff.mp hb, distance_nil_right]
  · obtain ⟨prev, hprev, hfirst⟩ := firstRow_holds a b
    have hloop := @countedLoop_invariant _ (fillRow a b) (fun i rows ↦ Filled a b (i - 1) rows) 1
      a.length { prev := prev, curr := List.replicate (b.length + 1) 0 }
      ⟨hfirst, List.length_replicate⟩ (by
        intro i rows hlow hhigh hrows
        obtain ⟨i, rfl⟩ := Nat.exists_eq_add_of_le' hlow
        exact fillRow_filled (by omega) hrows)
    obtain ⟨final, hfinal, hfilled⟩ := hloop
    have hlast := hfilled.prev.cell b.length (by omega)
    simp only [hprev, hfinal, Option.bind_eq_bind, Option.bind_some]
    rw [hlast]
    simp [cell]

/-- `levenshtein` is the edit distance. Every index is in range and the result is the least
number of insertions, deletions and substitutions of a byte. So it is symmetric, zero for equal
strings only, and meets the triangle inequality. -/
theorem levenshtein_edit_distance :
    (∀ a b, ∃ d, levenshtein a b = some d ∧ IsLeast {n | EditsTo n a b} d) ∧
    (∀ a b, levenshtein a b = levenshtein b a) ∧
    (∀ a b, levenshtein a b = some 0 ↔ a = b) ∧
    ∀ a b c, ∃ ab bc ac, levenshtein a b = some ab ∧ levenshtein b c = some bc ∧
      levenshtein a c = some ac ∧ ac ≤ ab + bc := by
  refine ⟨fun a b ↦ ?_, fun a b ↦ ?_, fun a b ↦ ?_, fun a b c ↦ ?_⟩
  · exact ⟨_, levenshtein_eq a b, isLeast_distance a b⟩
  · rw [levenshtein_eq, levenshtein_eq, distance_comm]
  · rw [levenshtein_eq, Option.some_inj, distance_eq_zero_iff]
  · exact ⟨_, _, _, levenshtein_eq a b, levenshtein_eq b c, levenshtein_eq a c,
      distance_triangle a b c⟩

/-! ### The scan -/

/-- The best candidate so far, with its distance. -/
structure Best where
  best : List UInt8
  bestDist : ℤ

/-- A round of the scan. -/
def scan (target : List UInt8) (state : Best) (c : List UInt8) : Option Best := do
  let d ← levenshtein target c
  return if (d : ℤ) < state.bestDist then { best := c, bestDist := d } else state

/-- `fuzzyMatch`. -/
def fuzzyMatch (target : List UInt8) (candidates : List (List UInt8)) (maxDist : ℤ) :
    Option (List UInt8 × Bool) := do
  let sentinel := wrapped 64 (maxDist + 1)
  let final ← candidates.foldlM (scan target) { best := [], bestDist := sentinel }
  return if final.bestDist > maxDist then ([], false) else (final.best, true)

/-- The candidate is the first one of those nearest to the target. -/
def FirstNearest (target : List UInt8) (candidates : List (List UInt8)) (c : List UInt8) : Prop :=
  ∃ before after, candidates = before ++ c :: after ∧
    (∀ x ∈ before, distance target c < distance target x) ∧
    ∀ x ∈ after, distance target c ≤ distance target x

/-- What `fuzzyMatch` should answer: the first nearest candidate if one is near enough, and
otherwise the empty string, not found. -/
structure Nearest (target : List UInt8) (candidates : List (List UInt8)) (maxDist : ℤ)
    (answer : List UInt8 × Bool) : Prop where
  found_iff : answer.2 = true ↔ ∃ c ∈ candidates, (distance target c : ℤ) ≤ maxDist
  nearest : answer.2 = true → FirstNearest target candidates answer.1
  missing : answer.2 = false → answer.1 = []

theorem FirstNearest.mem {target c : List UInt8} {candidates : List (List UInt8)}
    (hfirst : FirstNearest target candidates c) : c ∈ candidates := by
  obtain ⟨before, after, rfl, -⟩ := hfirst
  simp

theorem FirstNearest.le {target c x : List UInt8} {candidates : List (List UInt8)}
    (hfirst : FirstNearest target candidates c) (hx : x ∈ candidates) :
    distance target c ≤ distance target x := by
  obtain ⟨before, after, rfl, hbefore, hafter⟩ := hfirst
  rcases List.mem_append.mp hx with hx | hx
  · exact (hbefore x hx).le
  · rcases List.mem_cons.mp hx with rfl | hx
    · exact le_rfl
    · exact hafter x hx

/-- The candidates seen are all at the sentinel or above, or the first nearest one is kept. -/
inductive Scanned (target : List UInt8) (sentinel : ℤ) (seen : List (List UInt8)) : Best → Prop
  | none (hall : ∀ c ∈ seen, sentinel ≤ distance target c) :
      Scanned target sentinel seen { best := [], bestDist := sentinel }
  | some {c : List UInt8} (hfirst : FirstNearest target seen c)
      (hbelow : (distance target c : ℤ) < sentinel) :
      Scanned target sentinel seen { best := c, bestDist := distance target c }

theorem scan_scanned {target c : List UInt8} {sentinel : ℤ} {seen : List (List UInt8)}
    {state : Best} (hstate : Scanned target sentinel seen state) :
    ∃ next, scan target state c = some next ∧ Scanned target sentinel (seen ++ [c]) next := by
  unfold scan
  rw [levenshtein_eq]
  refine ⟨_, rfl, ?_⟩
  cases hstate with
  | none hall =>
    split_ifs with hcloser
    · refine .some ⟨seen, [], rfl, fun x hx ↦ ?_, by simp⟩ hcloser
      have hx := hall x hx
      dsimp only at hcloser
      omega
    · refine .none fun x hx ↦ ?_
      rcases List.mem_append.mp hx with hx | hx
      · exact hall x hx
      · rw [List.mem_singleton.mp hx]
        exact not_lt.mp hcloser
  | @some best hfirst hbelow =>
    split_ifs with hcloser
    · have hcloser : distance target c < distance target best := Int.ofNat_lt.mp hcloser
      refine .some ⟨seen, [], rfl, fun x hx ↦ ?_, by simp⟩ ?_
      · exact hcloser.trans_le (hfirst.le hx)
      · omega
    · refine .some ?_ hbelow
      obtain ⟨before, after, rfl, hbefore, hafter⟩ := hfirst
      refine ⟨before, after ++ [c], by simp, hbefore, fun x hx ↦ ?_⟩
      rcases List.mem_append.mp hx with hx | hx
      · exact hafter x hx
      · rw [List.mem_singleton.mp hx]
        exact Int.ofNat_le.mp (not_lt.mp hcloser)

theorem foldlM_scanned {target : List UInt8} {sentinel : ℤ} {seen : List (List UInt8)}
    {state : Best} (candidates : List (List UInt8)) (hstate : Scanned target sentinel seen state) :
    ∃ final, candidates.foldlM (scan target) state = some final ∧
      Scanned target sentinel (seen ++ candidates) final := by
  induction candidates generalizing seen state with
  | nil => exact ⟨state, rfl, by simpa using hstate⟩
  | cons c rest ih =>
    obtain ⟨next, hnext, hscanned⟩ := @scan_scanned _ c _ _ _ hstate
    obtain ⟨final, hfinal, hend⟩ := ih hscanned
    refine ⟨final, ?_, by simpa using hend⟩
    rw [List.foldlM_cons, hnext]
    exact hfinal

theorem fuzzyMatch_eq (target : List UInt8) (candidates : List (List UInt8)) (maxDist : ℤ) :
    ∃ final, Scanned target (wrapped 64 (maxDist + 1)) candidates final ∧
      fuzzyMatch target candidates maxDist =
        some (if final.bestDist > maxDist then ([], false) else (final.best, true)) := by
  obtain ⟨final, hfinal, hscanned⟩ := foldlM_scanned candidates
    (@Scanned.none target (wrapped 64 (maxDist + 1)) [] (by simp))
  refine ⟨final, hscanned, ?_⟩
  unfold fuzzyMatch
  simp only [hfinal, Option.bind_eq_bind, Option.bind_some]
  rfl

/-- Where one more than the allowed distance is an `int`, the scan is right. -/
theorem fuzzyMatch_nearest {target : List UInt8} {candidates : List (List UInt8)} {maxDist : ℤ}
    (hmin : 0 ≤ maxDist) (hmax : maxDist < 2 ^ 63 - 1) :
    ∃ answer, fuzzyMatch target candidates maxDist = some answer ∧
      Nearest target candidates maxDist answer := by
  obtain ⟨final, hscanned, hanswer⟩ := fuzzyMatch_eq target candidates maxDist
  rw [wrapped_of_fits (by omega) (by omega)] at hscanned
  refine ⟨_, hanswer, ?_⟩
  cases hscanned with
  | none hall =>
    rw [if_pos (by dsimp only; omega)]
    refine ⟨?_, by simp, by simp⟩
    simp only [Bool.false_eq_true, false_iff, not_exists, not_and]
    intro c hc
    have hc := hall c hc
    omega
  | @some c hfirst hbelow =>
    rw [if_neg (by dsimp only; omega)]
    refine ⟨?_, fun _ ↦ hfirst, by simp⟩
    simp only [true_iff]
    exact ⟨c, hfirst.mem, by omega⟩

/-- With the largest `int` nothing is below the sentinel. -/
theorem fuzzyMatch_largest (target : List UInt8) (candidates : List (List UInt8)) :
    fuzzyMatch target candidates (2 ^ 63 - 1) = some ([], true) := by
  have hwrapped : wrapped 64 (2 ^ 63 - 1 + 1) = -2 ^ 63 := by decide
  obtain ⟨final, hscanned, hanswer⟩ := fuzzyMatch_eq target candidates (2 ^ 63 - 1)
  rw [hwrapped] at hscanned
  rw [hanswer]
  cases hscanned with
  | none => rw [if_neg (by dsimp only; omega)]
  | some _ hbelow => omega

/-- The scan answers the nearest candidate unless its sentinel wraps around. For the largest
`int` it is right only if the empty string, which it answers then, is the first nearest candidate.

Assumes: the allowed distance is an `int` and not negative, and the length of the target is an
`int`. -/
theorem fuzzyMatch_nearest_iff {target : List UInt8} {candidates : List (List UInt8)}
    {maxDist : ℤ} (hmin : 0 ≤ maxDist) (hmax : maxDist < 2 ^ 63)
    (htarget : target.length < 2 ^ 63) :
    (∃ answer, fuzzyMatch target candidates maxDist = some answer ∧
      Nearest target candidates maxDist answer) ↔
      maxDist < 2 ^ 63 - 1 ∨ FirstNearest target candidates [] := by
  constructor
  · rintro ⟨answer, hanswer, hnearest⟩
    rcases lt_or_ge maxDist (2 ^ 63 - 1) with hlt | hge
    · exact .inl hlt
    · obtain rfl : maxDist = 2 ^ 63 - 1 := by omega
      rw [fuzzyMatch_largest] at hanswer
      obtain rfl := Option.some.inj hanswer
      exact .inr (hnearest.nearest rfl)
  · intro hcondition
    rcases lt_or_ge maxDist (2 ^ 63 - 1) with hlt | hge
    · exact fuzzyMatch_nearest hmin hlt
    · obtain rfl : maxDist = 2 ^ 63 - 1 := by omega
      have hfirst : FirstNearest target candidates [] := hcondition.resolve_left (by omega)
      refine ⟨_, fuzzyMatch_largest target candidates, ?_, fun _ ↦ hfirst, by simp⟩
      simp only [true_iff]
      refine ⟨[], hfirst.mem, ?_⟩
      rw [distance_nil_right]
      omega

theorem fuzzyMatch_nearest_iff_two :
    ∃ answer, fuzzyMatch [97, 112, 105] [[97, 112], [97, 112, 105]] 2 = some answer ∧
      Nearest [97, 112, 105] [[97, 112], [97, 112, 105]] 2 answer :=
  (fuzzyMatch_nearest_iff (by decide) (by decide) (by decide)).mpr (.inl (by decide))

/-- The only candidate equals the target, any distance is allowed, and the answer is another
string. -/
theorem unbounded_match_answers_empty :
    fuzzyMatch [97, 112, 105] [[97, 112, 105]] (2 ^ 63 - 1) = some ([], true) ∧
      ¬ Nearest [97, 112, 105] [[97, 112, 105]] (2 ^ 63 - 1) ([], true) := by
  refine ⟨fuzzyMatch_largest _ _, fun hnearest ↦ ?_⟩
  have hmem := (hnearest.nearest rfl).mem
  exact absurd hmem (by decide)

/-! ### The suggestion -/

/-- `FuzzyMatchThreshold`. -/
def fuzzyMatchThreshold : ℤ :=
  2

/-- The suggestion `classify` logs for the service id of a mismatched workload. -/
def suggestion (serviceID : String) (registeredIDs : List String) : Option (List UInt8 × Bool) :=
  fuzzyMatch serviceID.toByteArray.toList (registeredIDs.map fun id ↦ id.toByteArray.toList)
    fuzzyMatchThreshold

/-- The threshold is far below the wrap-around, so the suggestion is the nearest id. -/
theorem suggestion_nearest (serviceID : String) (registeredIDs : List String) :
    ∃ answer, suggestion serviceID registeredIDs = some answer ∧
      Nearest serviceID.toByteArray.toList (registeredIDs.map fun id ↦ id.toByteArray.toList)
        fuzzyMatchThreshold answer :=
  fuzzyMatch_nearest (by decide) (by decide)

end IncidentaryOperator.Discovery
