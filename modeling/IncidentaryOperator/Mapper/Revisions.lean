import IncidentaryOperator.Foundation.Decimal
import IncidentaryOperator.Mapper.DeployOutcome

/-!
# Revisions

Kubernetes numbers the revisions of a Deployment and writes the number in an annotation. The mapper
scans it with `fmt.Sscanf`: to tell a rollback by a smaller number, and to report the revision as an
integer attribute.

On decimal numbers the scan is the inverse of the print, so the lexical fallback is never taken and
a run whose revisions do not fall under one change cause reports no rollback (`rollback_numeric`).

`revisionAttr` is meant to hand on as it is every text that is not an integer. The scan ignores what
follows the digits and skips what precedes them, so a text that only begins with a number is cut
down to the number (`revisionAttr_lossless_iff`).
-/

set_option autoImplicit false
set_option relaxedAutoImplicit false

namespace IncidentaryOperator.Mapper

open Foundation WireFormat Kubernetes Identity

/-! ### Decimal revisions -/

theorem revisionLess_repr {a b : ℕ} (ha : a < 2 ^ 63) (hb : b < 2 ^ 63) :
    revisionLess (Nat.repr a) (Nat.repr b) = true ↔ a < b := by
  unfold revisionLess
  rw [sscanfDecimal_repr ha, sscanfDecimal_repr hb, decide_eq_true_iff, Nat.cast_lt]

/-- An unchanged change cause says nothing of a rollback. -/
theorem isRollback_repr {a b : ℕ} (ha : a < 2 ^ 63) (hb : b < 2 ^ 63) (changeCause : String) :
    isRollback (Nat.repr b) (Nat.repr a) changeCause changeCause = true ↔ a < b := by
  unfold isRollback
  simp [revisionLess_repr ha hb]

theorem revisionAttr_of_sscanf {text : String} {n : ℤ} (hscan : sscanfDecimal text = some n) :
    revisionAttr text = .int n := by
  have hne : text ≠ "" := by
    rintro rfl
    have hfails : sscanfDecimal "" = none := by decide
    simp [hfails] at hscan
  unfold revisionAttr parseRevision
  rw [if_neg hne, hscan]

theorem revisionAttr_of_sscanf_none {text : String} (hscan : sscanfDecimal text = none) :
    revisionAttr text = .str text := by
  unfold revisionAttr parseRevision
  rw [hscan, ite_self]

/-! ### Runs of updates -/

/-- An update between decimal revisions that does not fall, under an unchanged change cause. -/
def UpdatesInOrder (old n : Deployment) : Prop :=
  n.metadata.annotations.at changeCauseAnnotation =
      old.metadata.annotations.at changeCauseAnnotation ∧
    ∃ before after : ℕ, before ≤ after ∧ after < 2 ^ 63 ∧
      old.metadata.annotations.at revisionAnnotation = Nat.repr before ∧
      n.metadata.annotations.at revisionAnnotation = Nat.repr after

theorem UpdatesInOrder.not_rolledBack {old n : Deployment} (hupdate : UpdatesInOrder old n) :
    rolledBack (some old) n = false := by
  obtain ⟨hcause, before, after, hle, hfits, hbefore, hafter⟩ := hupdate
  have hrollback := isRollback_repr hfits (hle.trans_lt hfits)
    (old.metadata.annotations.at changeCauseAnnotation)
  rw [← Bool.not_eq_true]
  unfold rolledBack annotationBefore
  rw [Option.map_some, Option.getD_some, Option.map_some, Option.getD_some, hcause, hbefore, hafter,
    hrollback]
  omega

/-- The kinds of an update that is reported, whether or not the Deployment can be re-read. -/
theorem kind_mem_lifecycleKinds {rt : Runtime} {reader : Reader} {seq : ℕ}
    {old : Option Deployment} {n : Deployment} {ev : Event}
    (hev : ev ∈ returned (fromDeploymentChange rt reader seq old n)) :
    ev.kind ∈ lifecycleKinds old n := by
  rw [fromDeploymentChange_eq] at hev
  revert hev
  cases resolveWorkloadServiceID reader "Deployment" n.metadata.namespaceName n.metadata.name with
  | error text => simp
  | ok serviceID =>
    intro hev
    rw [← kinds_lifecycleBuilds rt seq old n serviceID]
    exact List.mem_map_of_mem hev

theorem rolledBack_of_mem_lifecycleKinds {old : Option Deployment} {n : Deployment}
    (hmem : Kind.deployRolledBack ∈ lifecycleKinds old n) : rolledBack old n = true := by
  by_contra hrollback
  unfold lifecycleKinds deployOutcomes at hmem
  rw [if_neg hrollback] at hmem
  simp only [List.map_append, List.mem_append, mem_guarded] at hmem
  simp at hmem

/-- Revisions are compared as numbers. For decimal revisions that fit an `int`, `revisionLess` is
the order of the numbers, an update under one change cause is a rollback exactly when the number
falls, and the attribute is the number. So a run of updates whose revisions do not fall, under one
change cause, reports no rollback, whatever the store and the numbers of the events. -/
theorem rollback_numeric :
    (∀ a b : ℕ, a < 2 ^ 63 → b < 2 ^ 63 →
      (revisionLess (Nat.repr a) (Nat.repr b) = true ↔ a < b) ∧
      (∀ changeCause,
        isRollback (Nat.repr b) (Nat.repr a) changeCause changeCause = true ↔ a < b) ∧
      revisionAttr (Nat.repr a) = .int a) ∧
    ∀ snapshots : List Deployment, snapshots.IsChain UpdatesInOrder →
      ∀ old n, (some old, n) ∈ deliveries snapshots → ∀ rt reader seq,
        ∀ ev ∈ returned (fromDeploymentChange rt reader seq (some old) n),
          ev.kind ≠ .deployRolledBack := by
  constructor
  · intro a b ha hb
    exact ⟨revisionLess_repr ha hb, isRollback_repr ha hb,
      revisionAttr_of_sscanf (sscanfDecimal_repr ha)⟩
  · intro snapshots hchain old n hdelivery rt reader seq ev hev hkind
    have hupdate : UpdatesInOrder old n := rel_of_mem_deliveries hchain hdelivery
    have hmem := kind_mem_lifecycleKinds hev
    rw [hkind] at hmem
    exact absurd (rolledBack_of_mem_lifecycleKinds hmem) (by simp [hupdate.not_rolledBack])

/-- A Deployment at a revision. -/
def revised (revision : ℕ) : Deployment where
  metadata :=
    { name := "api"
      namespaceName := "prod"
      annotations := (∅ : StringMap).insert revisionAnnotation (Nat.repr revision) }

theorem revised_revision (revision : ℕ) :
    (revised revision).metadata.annotations.at revisionAnnotation = Nat.repr revision := by
  unfold revised StringMap.at
  rw [AList.lookup_insert]
  rfl

/-- The update from revision 9 to revision 10, which the lexical order would take for a fall. -/
theorem rollback_numeric_nine_ten :
    revisionLess (Nat.repr 9) (Nat.repr 10) = true ∧ Nat.repr 10 < Nat.repr 9 ∧
    ∀ rt reader seq, ∀ ev ∈ returned (fromDeploymentChange rt reader seq (some (revised 9))
      (revised 10)), ev.kind ≠ .deployRolledBack := by
  have hchain : [revised 9, revised 10].IsChain UpdatesInOrder := by
    rw [List.isChain_pair]
    exact ⟨by decide, 9, 10, by omega, by omega, revised_revision 9, revised_revision 10⟩
  refine ⟨((rollback_numeric.1 9 10 (by omega) (by omega)).1).mpr (by omega), by decide, ?_⟩
  exact rollback_numeric.2 _ hchain _ _ (by simp [deliveries, deliveriesFrom])

/-! ### Revisions of any text -/

/-- The revision survives in the attribute: an integer that fits an `int` as the integer, and every
other text unchanged. -/
structure KeepsRevision (text : String) : Prop where
  integer : ∀ n, IntegerLiteral text.toList n → FitsInt64 n → revisionAttr text = .int n
  other : (¬ ∃ n, IntegerLiteral text.toList n ∧ FitsInt64 n) → revisionAttr text = .str text

/-- The text is no integer but has one that fits an `int` in it, at its start or after blanks. -/
def NumberWithin (text : String) : Prop :=
  ∃ blanks literal rest n, text.toList = blanks ++ literal ++ rest ∧
    (∀ c ∈ blanks, isBlank c = true) ∧ IntegerLiteral literal n ∧ NoDigitFirst rest ∧
    FitsInt64 n ∧ (blanks ≠ [] ∨ rest ≠ [])

/-- A text with a number within is not itself a number. -/
theorem NumberWithin.not_integerLiteral {text : String} (hwithin : NumberWithin text) :
    ¬ ∃ n, IntegerLiteral text.toList n := by
  rintro ⟨m, hwhole⟩
  obtain ⟨blanks, literal, rest, n, htext, hblanks, hliteral, hrest, -, hmore⟩ := hwithin
  rw [htext] at hwhole
  cases blanks with
  | cons blank blanks =>
    have hspace := hblanks blank List.mem_cons_self
    have hnot := hwhole.head_not_space [] blank (by simp)
    simp [isBlank, hnot] at hspace
  | nil =>
    obtain ⟨c, rest, rfl⟩ := List.exists_cons_of_ne_nil (hmore.resolve_left fun hne ↦ hne rfl)
    obtain ⟨first, tail, rfl⟩ := List.exists_cons_of_ne_nil hliteral.ne_nil
    have hdigit := hwhole.isDigit_of_mem_tail c (by simp)
    exact absurd hdigit (by simp [hrest c rfl])

/-- A revision survives in its attribute exactly when its text is not a number with something before
or after it. -/
theorem revisionAttr_lossless_iff (text : String) : KeepsRevision text ↔ ¬ NumberWithin text := by
  constructor
  · intro hkeeps hwithin
    have hstr : revisionAttr text = .str text := hkeeps.other fun ⟨n, hn, _⟩ ↦
      hwithin.not_integerLiteral ⟨n, hn⟩
    obtain ⟨blanks, literal, rest, n, htext, hblanks, hliteral, hrest, hfits, -⟩ := hwithin
    have hscan : sscanfDecimal text = some n :=
      sscanfDecimal_eq_some_iff.mpr ⟨blanks, literal, rest, htext, hblanks, hliteral, hrest, hfits⟩
    rw [revisionAttr_of_sscanf hscan] at hstr
    exact absurd hstr (by simp [AttrValue.str])
  · intro hnumber
    constructor
    · intro n hliteral hfits
      refine revisionAttr_of_sscanf (sscanfDecimal_eq_some_iff.mpr ?_)
      exact ⟨[], text.toList, [], by simp, by simp, hliteral, by simp [NoDigitFirst], hfits⟩
    · intro hnone
      refine revisionAttr_of_sscanf_none (Option.eq_none_iff_forall_ne_some.mpr ?_)
      intro n hscan
      obtain ⟨blanks, literal, rest, htext, hblanks, hliteral, hrest, hfits⟩ :=
        sscanfDecimal_eq_some_iff.mp hscan
      by_cases hwhole : blanks = [] ∧ rest = []
      · obtain ⟨rfl, rfl⟩ := hwhole
        rw [List.nil_append, List.append_nil] at htext
        exact hnone ⟨n, htext ▸ hliteral, hfits⟩
      · exact hnumber ⟨blanks, literal, rest, n, htext, hblanks, hliteral, hrest, hfits,
          not_and_or.mp hwhole⟩

/-- A commit hash that begins with a digit is no integer, and its attribute is the integer of its
first digits. -/
theorem commit_hash_cut_down :
    revisionAttr "7f3a9c1" = .int 7 ∧ ¬ KeepsRevision "7f3a9c1" := by
  have hattr : revisionAttr "7f3a9c1" = .int 7 := by decide
  have hhash : ¬ ∃ n, IntegerLiteral "7f3a9c1".toList n ∧ FitsInt64 n := by
    rintro ⟨n, hliteral, -⟩
    have hdigit := hliteral.isDigit_of_mem_tail 'f' (by decide)
    exact absurd hdigit (by decide)
  refine ⟨hattr, fun hkeeps ↦ ?_⟩
  have hstr := hkeeps.other hhash
  rw [hattr] at hstr
  exact absurd hstr (by simp [AttrValue.str])

end IncidentaryOperator.Mapper
