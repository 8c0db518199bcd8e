import IncidentaryOperator.Mapper.Emission

/-!
# The two event mappers side by side

The API server serves one stored event through `core/v1` and through `events.k8s.io/v1`. The two
mappers share the reason table, the severities and the resolver, so they map or ignore a record
together and give it the same kind, severity and service id. They differ in where they look for
repetition: `FromCoreEvent` reads the top-level count before the nested series, `FromK8sEvent` reads
the nested series alone and never the deprecated count. So they agree on a mapped record exactly
when a count of at least two is also the count of its nested series (`eventMappers_agree_iff`).
-/

set_option autoImplicit false
set_option relaxedAutoImplicit false

namespace IncidentaryOperator.Mapper

open Foundation WireFormat Kubernetes Identity

/-- Two wire events report the same: kind, severity, service id, and the repetition, absent in both
or of the same count. -/
structure SameReport (first second : Event) : Prop where
  kind : first.kind = second.kind
  severity : first.severity = second.severity
  serviceID : first.serviceID = second.serviceID
  series : first.series.map Series.count = second.series.map Series.count

/-- Two calls agree: both fail, both ignore the record, or both map it and report the same. -/
def MappersAgree : Except String (Option Event) → Except String (Option Event) → Prop
  | .error _, .error _ => True
  | .ok none, .ok none => True
  | .ok (some first), .ok (some second) => SameReport first second
  | _, _ => False

/-- The repetition a nested series gives, if it does. -/
def nestedCount (series : Option EventSeries) : Option ℤ :=
  (series.map EventSeries.count).filter (2 ≤ ·)

theorem k8sEventSeries_count (ev : K8sEvent) (occurredAt : ℤ) :
    (k8sEventSeries ev occurredAt).map Series.count = nestedCount ev.series := by
  unfold k8sEventSeries nestedCount
  cases ev.series with
  | none => rfl
  | some series =>
    by_cases hrepeated : 2 ≤ series.count <;> simp [hrepeated, seriesOf, Option.filter_some]

theorem coreEventSeries_count (ev : CoreEvent) (occurredAt : ℤ) :
    (coreEventSeries ev occurredAt).map Series.count =
      if 2 ≤ ev.count then some ev.count else nestedCount ev.series := by
  unfold coreEventSeries nestedCount
  by_cases hcounted : 2 ≤ ev.count
  · simp [hcounted, seriesOf]
  · cases ev.series with
    | none => simp [hcounted]
    | some series =>
      by_cases hrepeated : 2 ≤ series.count <;>
        simp [hcounted, hrepeated, seriesOf, Option.filter_some]

/-- The two repetitions are the same unless the top-level count says more than the nested series. -/
theorem count_eq_nestedCount_iff (ev : CoreEvent) :
    (if 2 ≤ ev.count then some ev.count else nestedCount ev.series) = nestedCount ev.series ↔
      (2 ≤ ev.count → ∃ series, ev.series = some series ∧ series.count = ev.count) := by
  unfold nestedCount
  split_ifs with hcounted
  · constructor
    · intro hsame _
      obtain ⟨hin, -⟩ := Option.filter_eq_some_iff.mp hsame.symm
      obtain ⟨series, hseries, hcount⟩ := Option.map_eq_some_iff.mp hin
      exact ⟨series, hseries, hcount⟩
    · intro hnested
      obtain ⟨series, hseries, hcount⟩ := hnested hcounted
      rw [hseries, Option.map_some, hcount, Option.filter_some, if_pos (by simpa using hcounted)]
  · simp [hcounted]

/-- On a mapped record the calls agree as far as their repetitions do. -/
theorem sameReport_iff (rt : Runtime) (seq seq' : ℕ) (c : CoreEvent) (kind : Kind) (res : Result) :
    SameReport (coreWireEvent rt seq c kind res) (k8sWireEvent rt seq' c.project kind res) ↔
      (2 ≤ c.count → ∃ series, c.series = some series ∧ series.count = c.count) := by
  have hseries : (coreWireEvent rt seq c kind res).series.map Series.count =
      (k8sWireEvent rt seq' c.project kind res).series.map Series.count ↔
        (2 ≤ c.count → ∃ series, c.series = some series ∧ series.count = c.count) := by
    simp only [coreWireEvent, k8sWireEvent, coreEventSeries_count, k8sEventSeries_count]
    exact count_eq_nestedCount_iff c
  exact ⟨fun hsame ↦ hseries.mp hsame.series, fun hcount ↦ ⟨rfl, rfl, rfl, hseries.mpr hcount⟩⟩

/-- For every core event, every store and both calls at any time, the two mappers agree on the event
and on its projection exactly when the event is not mapped, or the resolver fails on its object, or
its count is below two, or its nested series has the same count. -/
theorem eventMappers_agree_iff (rt : Runtime) (reader : Reader) (seq seq' : ℕ) (c : CoreEvent) :
    MappersAgree (fromCoreEvent rt reader seq c) (fromK8sEvent rt reader seq' c.project) ↔
      ((matchReason c.reason c.involvedObject.kind).isSome →
        (resolveRef reader c.involvedObject.kind c.involvedObject.namespaceName
          c.involvedObject.name).outcome.isOk →
        2 ≤ c.count → ∃ series, c.series = some series ∧ series.count = c.count) := by
  have hproject : c.project.reason = c.reason ∧ c.project.regarding = c.involvedObject :=
    ⟨rfl, rfl⟩
  unfold fromCoreEvent fromK8sEvent
  rw [hproject.1, hproject.2]
  by_cases hreason : c.reason = ""
  · have hunmapped : matchReason "" c.involvedObject.kind = none := rfl
    simp [hreason, hunmapped, MappersAgree]
  · simp only [hreason, if_false]
    cases matchReason c.reason c.involvedObject.kind with
    | none => simp [MappersAgree]
    | some kind =>
      cases (resolveRef reader c.involvedObject.kind c.involvedObject.namespaceName
        c.involvedObject.name).outcome with
      | error text => simp [MappersAgree, Except.isOk, Except.toBool]
      | ok res =>
        simp only [Option.isSome_some, Except.isOk, Except.toBool, forall_const]
        exact sameReport_iff rt seq seq' c kind res

/-- A crash loop a kubelet reports, as often as the count says. -/
def repeatedBackOffRecord (count : ℤ) : CoreEvent where
  reason := "BackOff"
  involvedObject := { kind := "Pod", namespaceName := "prod", name := "api-7f-x" }
  count := count

/-- A record seen once is reported alike. -/
theorem eventMappers_agree_iff_once :
    MappersAgree (fromCoreEvent ⟨fun _ ↦ 1, fun _ ↦ "evt"⟩ Reader.empty 0 (repeatedBackOffRecord 1))
      (fromK8sEvent ⟨fun _ ↦ 1, fun _ ↦ "evt"⟩ Reader.empty 1
        (repeatedBackOffRecord 1).project) := by
  refine (eventMappers_agree_iff _ Reader.empty 0 1 (repeatedBackOffRecord 1)).mpr ?_
  intro _ _ htwice
  exact absurd htwice (by decide)

/-- The record was seen four times, which only `FromCoreEvent` says. -/
theorem repeated_record_loses_series :
    ∃ first second, fromCoreEvent ⟨fun _ ↦ 1, fun _ ↦ "evt"⟩ Reader.empty 0
        (repeatedBackOffRecord 4) = .ok (some first) ∧
      fromK8sEvent ⟨fun _ ↦ 1, fun _ ↦ "evt"⟩ Reader.empty 0 (repeatedBackOffRecord 4).project =
        .ok (some second) ∧
      first.series.map Series.count = some 4 ∧ second.series = none ∧
      ¬ MappersAgree (.ok (some first)) (.ok (some second)) := by
  refine ⟨_, _, rfl, rfl, rfl, rfl, fun hagree ↦ ?_⟩
  exact absurd (SameReport.series hagree) (by decide)

end IncidentaryOperator.Mapper
