import Mathlib

/-!
# Edit distance

An edit inserts, deletes or substitutes one element of a list. The edit distance is the least number
of edits from one list to another, and `distance` is its usual recurrence, on the first elements.
`isLeast_distance` identifies the two. That the recurrence is attained is an induction along it;
that no script is shorter follows from its triangle inequality, since a single edit has distance at
most one.

Edits can be undone and mirrored, so the distance is symmetric and does not change when both lists
are reversed (`distance_comm`, `distance_reverse`). The last fact turns the recurrence on first
elements into the one on last elements, which is the one of a table over prefixes
(`distance_take_succ`).
-/

set_option autoImplicit false
set_option relaxedAutoImplicit false

namespace IncidentaryOperator.Foundation

variable {α : Type*}

/-! ### Edit scripts -/

/-- One element is inserted, deleted or substituted. -/
inductive Edit : List α → List α → Prop
  | insertion (front back : List α) (x : α) : Edit (front ++ back) (front ++ x :: back)
  | deletion (front back : List α) (x : α) : Edit (front ++ x :: back) (front ++ back)
  | substitution (front back : List α) (x y : α) : Edit (front ++ x :: back) (front ++ y :: back)

/-- A number of edits turn one list into the other. -/
inductive EditsTo : ℕ → List α → List α → Prop
  | refl (a : List α) : EditsTo 0 a a
  | tail {n : ℕ} {a b c : List α} (hedits : EditsTo n a b) (hedit : Edit b c) :
      EditsTo (n + 1) a c

theorem Edit.symm {a b : List α} (hedit : Edit a b) : Edit b a := by
  cases hedit with
  | insertion front back x => exact .deletion front back x
  | deletion front back x => exact .insertion front back x
  | substitution front back x y => exact .substitution front back y x

theorem Edit.cons {a b : List α} (hedit : Edit a b) (z : α) : Edit (z :: a) (z :: b) := by
  cases hedit with
  | insertion front back x => exact .insertion (z :: front) back x
  | deletion front back x => exact .deletion (z :: front) back x
  | substitution front back x y => exact .substitution (z :: front) back x y

theorem Edit.reverse {a b : List α} (hedit : Edit a b) : Edit a.reverse b.reverse := by
  cases hedit with
  | insertion front back x =>
    simpa using Edit.insertion back.reverse front.reverse x
  | deletion front back x =>
    simpa using Edit.deletion back.reverse front.reverse x
  | substitution front back x y =>
    simpa using Edit.substitution back.reverse front.reverse x y

theorem EditsTo.trans {m n : ℕ} {a b c : List α} (hfirst : EditsTo m a b)
    (hsecond : EditsTo n b c) : EditsTo (m + n) a c := by
  induction hsecond with
  | refl => exact hfirst
  | tail _ hedit ih => exact .tail (ih hfirst) hedit

theorem editsTo_one {a b : List α} (hedit : Edit a b) : EditsTo 1 a b :=
  .tail (.refl a) hedit

theorem EditsTo.symm {n : ℕ} {a b : List α} (hedits : EditsTo n a b) : EditsTo n b a := by
  induction hedits with
  | refl a => exact .refl a
  | tail _ hedit ih =>
    rw [Nat.add_comm]
    exact (editsTo_one hedit.symm).trans ih

theorem EditsTo.cons {n : ℕ} {a b : List α} (hedits : EditsTo n a b) (z : α) :
    EditsTo n (z :: a) (z :: b) := by
  induction hedits with
  | refl => exact .refl _
  | tail _ hedit ih => exact .tail ih (hedit.cons z)

theorem EditsTo.reverse {n : ℕ} {a b : List α} (hedits : EditsTo n a b) :
    EditsTo n a.reverse b.reverse := by
  induction hedits with
  | refl => exact .refl _
  | tail _ hedit ih => exact .tail ih hedit.reverse

theorem editsTo_zero_iff {a b : List α} : EditsTo 0 a b ↔ a = b := by
  constructor
  · intro hedits
    cases hedits
    rfl
  · rintro rfl
    exact .refl a

theorem editsTo_nil_left (b : List α) : EditsTo b.length [] b := by
  induction b with
  | nil => exact .refl []
  | cons y b ih => exact .tail ih (.insertion [] b y)

theorem reverse_take_succ {a : List α} {i : ℕ} {x : α} (hx : a[i]? = some x) :
    (a.take (i + 1)).reverse = x :: (a.take i).reverse := by
  rw [List.take_add_one, hx]
  simp

/-! ### The recurrence -/

section Recurrence

variable [DecidableEq α]

/-- What it costs to put one element in the place of another. -/
def substitutionCost (x y : α) : ℕ :=
  if x = y then 0 else 1

/-- The recurrence of the edit distance, on the first elements. -/
def distance : List α → List α → ℕ
  | [], b => b.length
  | a, [] => a.length
  | x :: a, y :: b =>
    min (distance a (y :: b) + 1)
      (min (distance (x :: a) b + 1) (distance a b + substitutionCost x y))
  termination_by a b => a.length + b.length

@[simp]
theorem distance_nil_left (b : List α) : distance [] b = b.length := by
  rw [distance]

@[simp]
theorem distance_nil_right (a : List α) : distance a [] = a.length := by
  cases a with
  | nil => rw [distance_nil_left]
  | cons => rw [distance]; simp

theorem distance_cons_cons (x y : α) (a b : List α) :
    distance (x :: a) (y :: b) =
      min (distance a (y :: b) + 1)
        (min (distance (x :: a) b + 1) (distance a b + substitutionCost x y)) := by
  rw [distance]

theorem substitutionCost_self (x : α) : substitutionCost x x = 0 :=
  if_pos rfl

theorem substitutionCost_le_one (x y : α) : substitutionCost x y ≤ 1 := by
  unfold substitutionCost
  split_ifs <;> omega

theorem substitutionCost_triangle (x y z : α) :
    substitutionCost x z ≤ substitutionCost x y + substitutionCost y z := by
  by_cases hxy : x = y
  · subst hxy
    exact Nat.le_add_left _ _
  · have hone : substitutionCost x y = 1 := if_neg hxy
    have hle := substitutionCost_le_one x z
    omega

theorem distance_cons_left_le (x : α) (a b : List α) : distance (x :: a) b ≤ distance a b + 1 := by
  cases b with
  | nil => simp
  | cons y b =>
    rw [distance_cons_cons]
    exact min_le_left _ _

theorem distance_cons_right_le (a b : List α) (y : α) :
    distance a (y :: b) ≤ distance a b + 1 := by
  cases a with
  | nil => simp
  | cons x a =>
    rw [distance_cons_cons]
    exact (min_le_right _ _).trans (min_le_left _ _)

theorem distance_cons_cons_le (x y : α) (a b : List α) :
    distance (x :: a) (y :: b) ≤ distance a b + substitutionCost x y := by
  rw [distance_cons_cons]
  exact (min_le_right _ _).trans (min_le_right _ _)

/-- The distance is at least the difference of the lengths and at most their sum. -/
theorem distance_length_bounds (a b : List α) :
    a.length ≤ b.length + distance a b ∧ b.length ≤ a.length + distance a b ∧
      distance a b ≤ a.length + b.length := by
  fun_induction distance a b with
  | case1 => simp
  | case2 => simp
  | case3 x a y b =>
    have hcost := substitutionCost_le_one x y
    simp only [List.length_cons] at *
    omega

theorem distance_triangle (a b c : List α) : distance a c ≤ distance a b + distance b c := by
  match a, b, c with
  | [], b, c => simpa using (distance_length_bounds b c).2.1
  | a, [], c => simpa using (distance_length_bounds a c).2.2
  | a, b, [] => simpa [add_comm] using (distance_length_bounds a b).1
  | x :: a, y :: b, z :: c =>
    have hdeleteLeft := distance_triangle a (y :: b) (z :: c)
    have hinsertRight := distance_triangle (x :: a) (y :: b) c
    have hinsertDelete := distance_triangle (x :: a) b (z :: c)
    have hinsertSubstitute := distance_triangle (x :: a) b c
    have hsubstituteDelete := distance_triangle a b (z :: c)
    have hsubstituteBoth := distance_triangle a b c
    have hleft := distance_cons_left_le x a (z :: c)
    have hright := distance_cons_right_le (x :: a) c z
    have hboth := distance_cons_cons_le x z a c
    have hcost := substitutionCost_triangle x y z
    have hfirst := distance_cons_cons x y a b
    have hsecond := distance_cons_cons y z b c
    omega
  termination_by a.length + b.length + c.length

theorem distance_self (a : List α) : distance a a = 0 := by
  induction a with
  | nil => simp
  | cons x a ih =>
    have hle := distance_cons_cons_le x x a a
    rw [ih, substitutionCost_self] at hle
    omega

theorem distance_append_append_le (front a b : List α) :
    distance (front ++ a) (front ++ b) ≤ distance a b := by
  induction front with
  | nil => exact le_rfl
  | cons z front ih =>
    have hle := distance_cons_cons_le z z (front ++ a) (front ++ b)
    rw [substitutionCost_self] at hle
    exact hle.trans ih

theorem Edit.distance_le_one {a b : List α} (hedit : Edit a b) : distance a b ≤ 1 := by
  cases hedit with
  | insertion front back x =>
    have hle := distance_cons_right_le back back x
    rw [distance_self] at hle
    exact (distance_append_append_le _ _ _).trans hle
  | deletion front back x =>
    have hle := distance_cons_left_le x back back
    rw [distance_self] at hle
    exact (distance_append_append_le _ _ _).trans hle
  | substitution front back x y =>
    have hle := distance_cons_cons_le x y back back
    rw [distance_self] at hle
    exact (distance_append_append_le _ _ _).trans
      (hle.trans (by simpa using substitutionCost_le_one x y))

/-- No script is shorter than the distance. -/
theorem EditsTo.distance_le {n : ℕ} {a b : List α} (hedits : EditsTo n a b) : distance a b ≤ n := by
  induction hedits with
  | refl a => exact (distance_self a).le
  | @tail n a b c _ hedit ih =>
    calc distance a c ≤ distance a b + distance b c := distance_triangle a b c
      _ ≤ n + 1 := add_le_add ih hedit.distance_le_one

/-- Some script is as short as the distance. -/
theorem editsTo_distance (a b : List α) : EditsTo (distance a b) a b := by
  fun_induction distance a b with
  | case1 b => exact editsTo_nil_left b
  | case2 a => exact (editsTo_nil_left a).symm
  | case3 x a y b hdelete hinsert hsubstitute =>
    rcases min_choice (distance a (y :: b) + 1) (min (distance (x :: a) b + 1)
      (distance a b + substitutionCost x y)) with hmin | hmin
    · rw [hmin, Nat.add_comm]
      exact (editsTo_one (.deletion [] a x)).trans hdelete
    · rw [hmin]
      rcases min_choice (distance (x :: a) b + 1) (distance a b + substitutionCost x y)
        with hmin' | hmin'
      · rw [hmin']
        exact .tail hinsert (.insertion [] b y)
      · rw [hmin']
        by_cases hxy : x = y
        · subst hxy
          rw [substitutionCost_self]
          exact hsubstitute.cons x
        · rw [substitutionCost, if_neg hxy]
          exact .tail (hsubstitute.cons x) (.substitution [] b x y)

/-- The recurrence is the least number of edits. -/
theorem isLeast_distance (a b : List α) : IsLeast {n | EditsTo n a b} (distance a b) :=
  ⟨editsTo_distance a b, fun _ hedits ↦ hedits.distance_le⟩

theorem distance_comm (a b : List α) : distance a b = distance b a :=
  le_antisymm (editsTo_distance b a).symm.distance_le (editsTo_distance a b).symm.distance_le

theorem distance_eq_zero_iff {a b : List α} : distance a b = 0 ↔ a = b := by
  constructor
  · intro hzero
    have hedits := editsTo_distance a b
    rw [hzero] at hedits
    exact editsTo_zero_iff.mp hedits
  · rintro rfl
    exact distance_self a

theorem distance_reverse (a b : List α) : distance a.reverse b.reverse = distance a b := by
  apply le_antisymm
  · exact (editsTo_distance a b).reverse.distance_le
  · have hedits := (editsTo_distance a.reverse b.reverse).reverse
    rw [List.reverse_reverse, List.reverse_reverse] at hedits
    exact hedits.distance_le

/-! ### The table over prefixes -/

/-- The recurrence on last elements: the cell of two prefixes from the three before it. -/
theorem distance_take_succ {a b : List α} {i j : ℕ} {x y : α} (hx : a[i]? = some x)
    (hy : b[j]? = some y) :
    distance (a.take (i + 1)) (b.take (j + 1)) =
      min (distance (a.take i) (b.take (j + 1)) + 1)
        (min (distance (a.take (i + 1)) (b.take j) + 1)
          (distance (a.take i) (b.take j) + substitutionCost x y)) := by
  rw [← distance_reverse, reverse_take_succ hx, reverse_take_succ hy, distance_cons_cons,
    ← reverse_take_succ hx, ← reverse_take_succ hy, distance_reverse, distance_reverse,
    distance_reverse]

end Recurrence

end IncidentaryOperator.Foundation
