import IncidentaryOperator.Discovery.Reconciler
import IncidentaryOperator.Foundation.Decimal
import IncidentaryOperator.Foundation.Fields
import IncidentaryOperator.Pipeline.ExcludedNamespaces

/-!
# The values of the configuration

Two variables of the environment and what the process makes of them.

The exclude list is written by the chart as the namespaces joined with commas. The parser trims,
splits, trims again and drops what is empty, and so its results are the fields of
`Foundation.Fields`. It inverts the join, and parsing once more changes nothing
(`parseStringSliceEnv_round_trip`).

The interval is a number of seconds. It is checked before it is multiplied, and the multiplication
wraps. The constructors replace what is not positive by the default, so an interval other than the
one written comes into force when the nanoseconds wrap to a positive number. `WrapsToInterval` says
of a text when they do, by the number in it (`interval_kept_iff`).
-/

set_option autoImplicit false
set_option relaxedAutoImplicit false

namespace IncidentaryOperator.Pipeline

open Foundation Client Discovery

/-! ### The exclude list -/

/-- An entry of the exclude list: not empty, without a comma in it, and without white space at an
end. -/
structure ListEntry (name : String) : Prop where
  ne_empty : name ≠ ""
  no_comma : ',' ∉ name.toList
  trimmed : Trimmed isSpaceRune name.toList

theorem listEntry_iff {name : String} :
    ListEntry name ↔ IsField isSpaceRune ',' name.toList := by
  constructor
  · intro hentry
    exact ⟨hentry.trimmed, by simpa using hentry.ne_empty, hentry.no_comma⟩
  · intro hfield
    exact ⟨by simpa using hfield.ne_nil, hfield.not_mem, hfield.toTrimmed⟩

theorem foldl_keepTrimmed (parts kept : List String) :
    parts.foldl keepTrimmed kept = kept ++ (parts.map trimSpace).filter fun part ↦ part ≠ "" := by
  induction parts generalizing kept with
  | nil => simp
  | cons part rest ih =>
    rw [List.foldl_cons, ih]
    unfold keepTrimmed
    split_ifs with hpart
    · simp [hpart]
    · simp [not_not.mp hpart]

theorem filter_map_trimSpace (pieces : List (List Char)) :
    ((pieces.map String.ofList).map trimSpace).filter (fun part ↦ part ≠ "") =
      ((pieces.map (trim isSpaceRune)).filter fun field ↦ !field.isEmpty).map String.ofList := by
  induction pieces with
  | nil => rfl
  | cons piece rest ih =>
    have htrim : trimSpace (String.ofList piece) = String.ofList (trim isSpaceRune piece) := by
      rw [trimSpace, String.toList_ofList]
      rfl
    simp only [List.map_cons, htrim]
    cases trim isSpaceRune piece with
    | nil => simpa using ih
    | cons c field => simpa using ih

/-- The result of the parser is the fields of the value, and nil when there are none. -/
theorem parseStringSliceEnv_eq (env : Environment) (key : String) :
    parseStringSliceEnv env key =
      let names := fields isSpaceRune ',' (trim isSpaceRune (env key).toList)
      if names = [] then none else some (names.map String.ofList) := by
  have hresult : (splitText (trimSpace (env key)) ',').foldl keepTrimmed [] =
      (fields isSpaceRune ',' (trim isSpaceRune (env key).toList)).map String.ofList := by
    rw [foldl_keepTrimmed, List.nil_append, splitText, trimSpace, String.toList_ofList]
    exact filter_map_trimSpace _
  unfold parseStringSliceEnv
  simp only [hresult, List.length_map, List.length_eq_zero_iff]
  by_cases hempty : trimSpace (env key) = ""
  · have htrim : trim isSpaceRune (env key).toList = [] := by
      have htoList := congrArg String.toList hempty
      rwa [trimSpace, String.toList_ofList] at htoList
    rw [if_pos hempty, htrim]
    rfl
  · rw [if_neg hempty]

theorem parseStringSliceEnv_eq_none_iff {env : Environment} {key : String} :
    parseStringSliceEnv env key = none ↔
      ∀ c ∈ (env key).toList, c = ',' ∨ isSpaceRune c = true := by
  have hnone : parseStringSliceEnv env key = none ↔
      fields isSpaceRune ',' (trim isSpaceRune (env key).toList) = [] := by
    rw [parseStringSliceEnv_eq]
    simp
  rw [hnone, fields_eq_nil_iff]
  constructor
  · intro hall c hc
    rcases blank_or_mem_trim hc with hblank | hmem
    · exact .inr hblank
    · exact hall c hmem
  · intro hall c hc
    exact hall c (mem_of_mem_trim hc)

theorem listEntry_of_parseStringSliceEnv (env : Environment) (key : String) :
    ∀ name ∈ (parseStringSliceEnv env key).getD [], ListEntry name := by
  intro name hname
  rw [parseStringSliceEnv_eq] at hname
  dsimp only at hname
  split_ifs at hname with hnone
  · cases hname
  · obtain ⟨field, hfield, rfl⟩ := List.mem_map.mp hname
    rw [listEntry_iff, String.toList_ofList]
    exact isField_of_mem_fields hfield

theorem parseStringSliceEnv_ne_some_nil (env : Environment) (key : String) :
    parseStringSliceEnv env key ≠ some [] := by
  rw [parseStringSliceEnv_eq]
  dsimp only
  split_ifs with hnone
  · simp
  · simpa using hnone

/-- The parser inverts the join. -/
theorem parseStringSliceEnv_intercalate {names : List String}
    (hnames : ∀ name ∈ names, ListEntry name) {env : Environment} {key : String}
    (henv : env key = ",".intercalate names) :
    parseStringSliceEnv env key = if names = [] then none else some names := by
  have htext : (env key).toList = [','].intercalate (names.map String.toList) := by
    rw [henv, String.toList_intercalate]
    rfl
  have hfields : ∀ field ∈ names.map String.toList, IsField isSpaceRune ',' field := by
    intro field hfield
    obtain ⟨name, hname, rfl⟩ := List.mem_map.mp hfield
    exact listEntry_iff.mp (hnames name hname)
  rw [parseStringSliceEnv_eq, htext, (trimmed_intercalate hfields).trim_eq,
    fields_intercalate hfields]
  simp

/-- The exclude list survives its encoding. A list of entries joined with commas is parsed back,
to nil for the empty one, as which the chart does not set the variable. Of every value the parser
makes a list of entries, nil exactly if the value has only commas and white space, and this list
joined and parsed again is the same. -/
theorem parseStringSliceEnv_round_trip :
    (∀ names : List String, (∀ name ∈ names, ListEntry name) → ∀ (env : Environment) (key : String),
      env key = ",".intercalate names →
        parseStringSliceEnv env key = if names = [] then none else some names) ∧
    ∀ (env : Environment) (key : String),
      (∀ name ∈ (parseStringSliceEnv env key).getD [], ListEntry name) ∧
      (parseStringSliceEnv env key = none ↔
        ∀ c ∈ (env key).toList, c = ',' ∨ isSpaceRune c = true) ∧
      ∀ again : Environment, again key = ",".intercalate ((parseStringSliceEnv env key).getD []) →
        parseStringSliceEnv again key = parseStringSliceEnv env key := by
  constructor
  · intro names hnames env key henv
    exact parseStringSliceEnv_intercalate hnames henv
  · intro env key
    have hentries := listEntry_of_parseStringSliceEnv env key
    refine ⟨hentries, parseStringSliceEnv_eq_none_iff, fun again hagain ↦ ?_⟩
    rw [parseStringSliceEnv_intercalate hentries hagain]
    cases hparsed : parseStringSliceEnv env key with
    | none => rfl
    | some names =>
      have hne : names ≠ [] := by
        rintro rfl
        exact parseStringSliceEnv_ne_some_nil env key hparsed
      rw [Option.getD_some, if_neg hne]

/-- The namespaces of the default values of the chart. -/
theorem parseStringSliceEnv_round_trip_defaults :
    parseStringSliceEnv (fun _ ↦ "kube-system,kube-public,kube-node-lease") "" =
      some ["kube-system", "kube-public", "kube-node-lease"] := by
  refine parseStringSliceEnv_round_trip.1 ["kube-system", "kube-public", "kube-node-lease"] ?_ _ _
    (by decide)
  intro name hname
  simp only [List.mem_cons, List.not_mem_nil, or_false] at hname
  rcases hname with rfl | rfl | rfl <;>
    exact ⟨by decide, by decide, trimmed_iff_trim_eq.mpr (by decide)⟩

/-- So the discovery loop excludes the namespaces the chart was given, besides the default ones. -/
theorem newLoop_excludes_of_joined {names : List String} (hnames : ∀ name ∈ names, ListEntry name)
    {env : Environment}
    (henv : env "INCIDENTARY_EXCLUDE_NAMESPACES" = ",".intercalate names) :
    (newLoop (discoveryOptions env)).excludes = defaultExcludedNamespaces ∪ names.toFinset := by
  have hlist : excludeNamespaces env = names := by
    rw [excludeNamespaces, parseStringSliceEnv_intercalate hnames henv]
    split_ifs with hnone
    · exact hnone.symm
    · rfl
  rw [newLoop_excludes, discoveryOptions_excludeNamespaces, hlist]

/-! ### The interval -/

/-- The interval `main` passes to both constructors. -/
def reconciliationInterval (env : Environment) : ℤ :=
  parseDurationEnv env "INCIDENTARY_RECONCILIATION_INTERVAL_SECONDS" (300 * second)

/-- The interval in force with a configured one: both constructors put the default in the place of
one that is not positive. -/
def inForce (interval : ℤ) : ℤ :=
  if interval ≤ 0 then defaultInterval else interval

theorem newLoop_interval (env : Environment) :
    (newLoop (discoveryOptions env)).interval = inForce (reconciliationInterval env) :=
  rfl

theorem newReconciler_interval (interval : ℤ) :
    (newReconciler interval).interval = inForce interval :=
  rfl

/-- The interval in force is a default or the number of seconds written, and not below a second. -/
structure KeepsInterval (text : String) (interval : ℤ) : Prop where
  value : interval = 300 * second ∨ interval = defaultInterval ∨
    ∃ secs, IntegerLiteral text.toList secs ∧ interval = secs * second
  atLeast : second ≤ interval

/-- A number of seconds whose nanoseconds wrap to a positive number, and neither to their own nor to
the default: it is above the seconds of a duration, the quotient of its nanoseconds by `2 ^ 63` is
even, and neither it nor its distance from the default is divisible by `2 ^ 55`. -/
structure WrappingSeconds (secs : ℤ) : Prop where
  large : 9223372036 < secs
  even : secs * second / 2 ^ 63 % 2 = 0
  nonzero : ¬ 2 ^ 55 ∣ secs
  nondefault : ¬ 2 ^ 55 ∣ secs - 300

/-- The text is the number of such seconds, and it fits. -/
def WrapsToInterval (text : String) : Prop :=
  ∃ secs, IntegerLiteral text.toList secs ∧ secs < 2 ^ 63 ∧ WrappingSeconds secs

theorem dvd_mul_second_iff (n : ℤ) : 2 ^ 64 ∣ n * second ↔ 2 ^ 55 ∣ n := by
  have hsecond : second = 5 ^ 9 * 2 ^ 9 := by decide
  have hcoprime : IsCoprime ((2 : ℤ) ^ 55) (5 ^ 9) := by
    refine IsCoprime.pow ?_
    exact Int.isCoprime_iff_gcd_eq_one.mpr (by decide)
  rw [hsecond, ← mul_assoc, (by norm_num : (2 : ℤ) ^ 64 = 2 ^ 55 * 2 ^ 9),
    mul_dvd_mul_iff_right (by norm_num)]
  exact ⟨hcoprime.dvd_of_dvd_mul_right, fun hdvd ↦ hdvd.mul_right _⟩

theorem wrapped_mul_second_eq_self_iff {secs : ℤ} (hpos : 0 < secs) :
    wrapped 64 (secs * second) = secs * second ↔ ¬ 9223372036 < secs := by
  constructor
  · intro heq
    have hlt := (wrapped_fits (by decide : 0 < 64) (secs * second)).2
    rw [heq, second] at hlt
    omega
  · intro hsmall
    rw [second]
    exact wrapped_of_fits (by omega) (by omega)

theorem wrapped_mul_second_eq_zero_iff (secs : ℤ) :
    wrapped 64 (secs * second) = 0 ↔ 2 ^ 55 ∣ secs := by
  rw [wrapped_eq_iff (by norm_num) (by norm_num), sub_zero, dvd_mul_second_iff]

theorem wrapped_mul_second_eq_default_iff (secs : ℤ) :
    wrapped 64 (secs * second) = defaultInterval ↔ 2 ^ 55 ∣ secs - 300 := by
  have hseconds : defaultInterval = 300 * second := by decide
  rw [wrapped_eq_iff (by decide) (by decide), hseconds, ← sub_mul, dvd_mul_second_iff]

/-- The interval of a positive number of seconds is its own or the default unless the number is one
that wraps. -/
theorem inForce_wrapped_iff {secs : ℤ} (hpos : 0 < secs) :
    (inForce (wrapped 64 (secs * second)) = secs * second ∨
      inForce (wrapped 64 (secs * second)) = defaultInterval) ↔ ¬ WrappingSeconds secs := by
  have hwraps : WrappingSeconds secs ↔ ¬ wrapped 64 (secs * second) = secs * second ∧
      0 ≤ wrapped 64 (secs * second) ∧ ¬ wrapped 64 (secs * second) = 0 ∧
      ¬ wrapped 64 (secs * second) = defaultInterval := by
    rw [wrapped_mul_second_eq_self_iff hpos, not_not, wrapped_nonneg_iff,
      wrapped_mul_second_eq_zero_iff, wrapped_mul_second_eq_default_iff]
    constructor
    · intro hwraps
      exact ⟨hwraps.large, hwraps.even, hwraps.nonzero, hwraps.nondefault⟩
    · rintro ⟨hlarge, heven, hzero, hdefault⟩
      exact ⟨hlarge, heven, hzero, hdefault⟩
  rw [hwraps]
  unfold inForce
  split_ifs with hsign
  · simp only [or_true, true_iff]
    omega
  · omega

theorem not_wrapsToInterval_of_atoi_none {text : String} (hnone : atoi text = none) :
    ¬ WrapsToInterval text := by
  rintro ⟨secs, hliteral, hhigh, hwraps⟩
  have hlarge := hwraps.large
  have hsome : atoi text = some secs := atoi_eq_some_iff.mpr ⟨hliteral, by omega, hhigh⟩
  rw [hnone] at hsome
  cases hsome

theorem wrapsToInterval_iff {text : String} {secs : ℤ} (hsecs : atoi text = some secs) :
    WrapsToInterval text ↔ WrappingSeconds secs := by
  obtain ⟨hliteral, hfits⟩ := atoi_eq_some_iff.mp hsecs
  constructor
  · rintro ⟨other, hother, -, hwraps⟩
    rwa [hother.unique hliteral] at hwraps
  · intro hwraps
    exact ⟨secs, hliteral, hfits.2, hwraps⟩

theorem keepsInterval_default (text : String) : KeepsInterval text (inForce (300 * second)) :=
  ⟨.inl (by decide), by decide⟩

theorem keepsInterval_iff {text : String} {secs interval : ℤ} (hsecs : atoi text = some secs)
    (hpos : 0 < secs) :
    KeepsInterval text interval ↔ interval = secs * second ∨ interval = defaultInterval := by
  obtain ⟨hliteral, -⟩ := atoi_eq_some_iff.mp hsecs
  constructor
  · rintro ⟨hvalue | hvalue | ⟨other, hother, hvalue⟩, -⟩
    · exact .inr (hvalue.trans (by decide))
    · exact .inr hvalue
    · exact .inl (hother.unique hliteral ▸ hvalue)
  · rintro (rfl | rfl)
    · exact ⟨.inr (.inr ⟨secs, hliteral, rfl⟩), by rw [second]; omega⟩
    · exact ⟨.inr (.inl rfl), by decide⟩

/-- For every value of the variable, the interval in force in the discovery loop and in the
reconciler is a default or the number of seconds written, and so at least a second, unless the value
is one that wraps. -/
theorem interval_kept_iff (env : Environment) :
    (KeepsInterval (env "INCIDENTARY_RECONCILIATION_INTERVAL_SECONDS")
        (newLoop (discoveryOptions env)).interval ∧
      KeepsInterval (env "INCIDENTARY_RECONCILIATION_INTERVAL_SECONDS")
        (newReconciler (reconciliationInterval env)).interval) ↔
    ¬ WrapsToInterval (env "INCIDENTARY_RECONCILIATION_INTERVAL_SECONDS") := by
  rw [newLoop_interval, newReconciler_interval, and_self_iff]
  unfold reconciliationInterval parseDurationEnv
  generalize env "INCIDENTARY_RECONCILIATION_INTERVAL_SECONDS" = text
  by_cases hempty : text = ""
  · rw [if_pos hempty]
    exact iff_of_true (keepsInterval_default text)
      (not_wrapsToInterval_of_atoi_none (hempty ▸ rfl))
  · rw [if_neg hempty]
    cases hsecs : atoi text with
    | none =>
      exact iff_of_true (keepsInterval_default text) (not_wrapsToInterval_of_atoi_none hsecs)
    | some secs =>
      dsimp only
      split_ifs with hsign
      · refine iff_of_true (keepsInterval_default text) ?_
        rw [wrapsToInterval_iff hsecs]
        intro hwraps
        have hlarge := hwraps.large
        omega
      · have hpos : 0 < secs := not_le.mp hsign
        rw [keepsInterval_iff hsecs hpos, wrapsToInterval_iff hsecs, inForce_wrapped_iff hpos]

/-- The first number of seconds whose nanoseconds come round to a positive duration: instead of 584
years the interval is less than a third of a second. -/
theorem wrapped_interval_in_force :
    (newLoop (discoveryOptions fun _ ↦ "18446744074")).interval = 290448384 ∧
    (newReconciler (reconciliationInterval fun _ ↦ "18446744074")).interval = 290448384 ∧
    ¬ KeepsInterval "18446744074" 290448384 := by
  refine ⟨by decide, by decide, fun hkeeps ↦ ?_⟩
  exact absurd hkeeps.atLeast (by decide)

end IncidentaryOperator.Pipeline
