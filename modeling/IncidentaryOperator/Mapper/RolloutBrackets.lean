import IncidentaryOperator.Foundation.Brackets
import IncidentaryOperator.Mapper.EdgeTriggering

/-!
# Rollouts of StatefulSets and DaemonSets as brackets

Over a run of snapshots of one workload the mapper reports the start of a rollout and its success.
Each report looks at two adjacent snapshots only.

For a StatefulSet both look at the same level, an update revision that is set and not current, so a
success is always preceded by a start since the success before it
(`statefulSet_rollouts_bracketed`). For a DaemonSet the success looks at the counts of pods, which
also move when nodes come and go, and the start looks at the generation. So a success may come
without a start, and it does not when the counts fall short only together with a new generation
(`daemonSet_rollouts_bracketed_when_announced`).
-/

set_option autoImplicit false
set_option relaxedAutoImplicit false

namespace IncidentaryOperator.Mapper

open Foundation WireFormat Kubernetes Identity

/-- Successes are preceded by starts. -/
def RolloutsBracketed (kinds : List Kind) : Prop :=
  Bracketed (· = Kind.deployStarted) (· = Kind.deploySucceeded) kinds

/-- A start is reported and no success since. -/
def RolloutOpen (kinds : List Kind) : Prop :=
  Pending (· = Kind.deployStarted) (· = Kind.deploySucceeded) kinds

/-- The kind a delivery reports, by its two tests. -/
def rolloutKind (started succeeded : Bool) : Option Kind :=
  if started then some .deployStarted
  else if succeeded then some .deploySucceeded
  else none

@[simp] theorem rolloutKind_eq_started {started succeeded : Bool} :
    rolloutKind started succeeded = some .deployStarted ↔ started = true := by
  cases started <;> cases succeeded <;> decide

@[simp] theorem rolloutKind_eq_succeeded {started succeeded : Bool} :
    rolloutKind started succeeded = some .deploySucceeded ↔ started = false ∧ succeeded = true := by
  cases started <;> cases succeeded <;> decide

@[simp] theorem rolloutKind_eq_none {started succeeded : Bool} :
    rolloutKind started succeeded = none ↔ started = false ∧ succeeded = false := by
  cases started <;> cases succeeded <;> decide

/-- The builders of the two tests, which never hold together. -/
theorem kinds_numbered_outcomes {started succeeded : Bool} {start success : ℕ → Event}
    (hstart : ∀ number, (start number).kind = .deployStarted)
    (hsuccess : ∀ number, (success number).kind = .deploySucceeded)
    (hexclusive : started = true → succeeded = false) (seq : ℕ) :
    (numbered seq ((if started then [start] else []) ++
      (if succeeded then [success] else []))).map Event.kind =
        (rolloutKind started succeeded).toList := by
  cases started with
  | true => simp [hexclusive rfl, rolloutKind, hstart]
  | false => cases succeeded <;> simp [rolloutKind, hsuccess]

section Runs

variable {Snapshot : Type} {wrap : Snapshot → Object}
  {emit : Option Snapshot × Snapshot → Option Kind} {rt : Runtime} {seq : ℕ}
  {snapshots : List (Reader × Snapshot)} {batches : List (List Event)}

/-- When each delivery reports at most one event, of a kind that depends on its two snapshots alone,
the kinds over any first part of a run are those of its snapshots. -/
theorem kinds_take_eq_emitted
    (hkinds : batches.map (List.map Event.kind) =
      (deliveries (snapshots.map Prod.snd)).map fun delivery ↦ (emit delivery).toList) (n : ℕ) :
    (batches.take n).flatten.map Event.kind = emitted emit ((snapshots.map Prod.snd).take n) := by
  rw [List.map_flatten, List.map_take, hkinds, ← List.map_take, deliveries, take_deliveriesFrom,
    emitted, deliveries, List.filterMap_eq_flatMap_toList, List.flatMap_def]

/-- The same over the whole run. -/
theorem kinds_eq_emitted
    (hkinds : batches.map (List.map Event.kind) =
      (deliveries (snapshots.map Prod.snd)).map fun delivery ↦ (emit delivery).toList) :
    batches.flatten.map Event.kind = emitted emit (snapshots.map Prod.snd) := by
  rw [List.map_flatten, hkinds, emitted, List.filterMap_eq_flatMap_toList, List.flatMap_def]

/-- The kinds over a stretch of a run are those of its deliveries, the first of them from the last
snapshot before it. -/
theorem kinds_stretch_eq
    (hkinds : batches.map (List.map Event.kind) =
      (deliveries (snapshots.map Prod.snd)).map fun delivery ↦ (emit delivery).toList)
    {before during after : List (Reader × Snapshot)}
    (hsplit : snapshots = before ++ during ++ after) :
    ((batches.drop before.length).take during.length).flatten.map Event.kind =
      (deliveriesFrom (before.map Prod.snd).getLast? (during.map Prod.snd)).filterMap emit := by
  have hdeliveries : ((deliveries (snapshots.map Prod.snd)).drop before.length).take during.length =
      deliveriesFrom (before.map Prod.snd).getLast? (during.map Prod.snd) := by
    rw [hsplit, List.append_assoc, List.map_append, deliveries, deliveriesFrom_append,
      Option.or_none, List.drop_left' (by simp), List.map_append, deliveriesFrom_append,
      List.take_left' (by simp)]
  rw [List.map_flatten, List.map_take, List.map_drop, hkinds, ← List.map_drop, ← List.map_take,
    hdeliveries, List.filterMap_eq_flatMap_toList, List.flatMap_def]

end Runs

/-! ### StatefulSets -/

/-- The level both reports of a StatefulSet look at: an update revision that is set and not the
current one. -/
def diverged (s : StatefulSet) : Bool :=
  s.updateRevision ≠ "" && s.updateRevision ≠ s.currentRevision

/-- The kind of the event a delivery of a StatefulSet reports. -/
def statefulSetKind (delivery : Option StatefulSet × StatefulSet) : Option Kind :=
  rolloutKind (isStatefulSetStarted delivery.1 delivery.2)
    (isStatefulSetSucceeded delivery.1 delivery.2)

theorem isStatefulSetStarted_iff (old : Option StatefulSet) (n : StatefulSet) :
    isStatefulSetStarted old n = true ↔ diverged n = true ∧ ∀ before, old = some before →
      before.updateRevision = before.currentRevision ∨
        before.updateRevision ≠ n.updateRevision := by
  unfold isStatefulSetStarted diverged
  cases old <;> simp

theorem isStatefulSetSucceeded_iff (old : Option StatefulSet) (n : StatefulSet) :
    isStatefulSetSucceeded old n = true ↔ old.any diverged = true ∧
      n.updateRevision = n.currentRevision ∧ n.updateRevision ≠ "" ∧
      n.readyReplicas = specReplicas n.replicas := by
  unfold isStatefulSetSucceeded diverged
  cases old <;> simp [and_assoc]

/-- A success is of a StatefulSet that is no longer diverged, and a start of one that is. -/
theorem not_diverged_of_succeeded {old : Option StatefulSet} {n : StatefulSet}
    (hsucceeded : isStatefulSetSucceeded old n = true) : diverged n = false := by
  obtain ⟨-, hcurrent, -⟩ := (isStatefulSetSucceeded_iff old n).mp hsucceeded
  simp [diverged, hcurrent]

theorem not_succeeded_of_started {old : Option StatefulSet} {n : StatefulSet}
    (hstarted : isStatefulSetStarted old n = true) : isStatefulSetSucceeded old n = false := by
  by_contra hsucceeded
  have hdown := not_diverged_of_succeeded (by simpa using hsucceeded)
  have hup := ((isStatefulSetStarted_iff old n).mp hstarted).1
  exact absurd (hdown.symm.trans hup) (by simp)

theorem statefulSet_delivery_kinds {rt : Runtime} {reader : Reader} {seq : ℕ}
    {prev : Option StatefulSet} {n : StatefulSet} {events : List Event}
    (hevents : fromStatefulSetChange rt reader seq prev n = .ok events) :
    events.map Event.kind = (statefulSetKind (prev, n)).toList := by
  rw [fromStatefulSetChange_eq] at hevents
  obtain ⟨serviceID, -, rfl⟩ := resolved_eq_ok hevents
  exact kinds_numbered_outcomes (fun _ ↦ rfl) (fun _ ↦ rfl) not_succeeded_of_started seq

/-- A run of a StatefulSet, delivery by delivery. -/
theorem statefulSet_run_kinds {rt : Runtime} {seq : ℕ} {snapshots : List (Reader × StatefulSet)}
    {batches : List (List Event)}
    (hrun : deliver rt seq none (snapshots.map fun s ↦ (s.1, .statefulSet s.2)) = .ok batches) :
    batches.map (List.map Event.kind) =
      (deliveries (snapshots.map Prod.snd)).map fun delivery ↦
        (statefulSetKind delivery).toList := by
  refine deliver_observations_of_run Object.statefulSet (List.map Event.kind)
    (fun delivery ↦ (statefulSetKind delivery).toList) ?_ hrun
  intro reader seq prev n events hevents
  rw [dispatch_statefulSet] at hevents
  exact statefulSet_delivery_kinds hevents

/-- A StatefulSet does not become diverged unreported: from an empty revision the update revision is
new, from a current one it is no longer current. -/
theorem statefulSetKind_of_risingEdge {delivery : Option StatefulSet × StatefulSet}
    (hedge : risingEdge diverged delivery = true) :
    statefulSetKind delivery = some .deployStarted := by
  obtain ⟨prev, n⟩ := delivery
  obtain ⟨hup, hdown⟩ := risingEdge_eq_true.mp hedge
  refine rolloutKind_eq_started.mpr ((isStatefulSetStarted_iff prev n).mpr ⟨hup, ?_⟩)
  rintro before rfl
  by_cases hempty : before.updateRevision = ""
  · refine Or.inr fun hsame ↦ ?_
    simp [diverged, ← hsame, hempty] at hup
  · left
    simpa [diverged, hempty] using hdown

/-- While a StatefulSet stays diverged on one update revision, no start is reported after the first
delivery. -/
theorem not_started_of_same_revision {prev n : StatefulSet} (hprev : diverged prev = true)
    (hsame : prev.updateRevision = n.updateRevision) :
    isStatefulSetStarted (some prev) n = false := by
  by_contra hstarted
  have hnew := ((isStatefulSetStarted_iff _ _).mp (by simpa using hstarted)).2 prev rfl
  simp [diverged] at hprev
  exact hnew.elim hprev.2 fun hother ↦ hother hsame

/-- A stretch of a run over which the update revision is held, not empty and not current, reports at
most one start, on its first delivery. -/
theorem count_started_le_one (prev : Option StatefulSet) {stretch : List StatefulSet}
    {revision : String} (hrevision : revision ≠ "")
    (hheld : ∀ s ∈ stretch, s.updateRevision = revision ∧ s.currentRevision ≠ revision) :
    ((deliveriesFrom prev stretch).filterMap statefulSetKind).count .deployStarted ≤ 1 := by
  cases stretch with
  | nil => simp [deliveriesFrom]
  | cons first rest =>
    have hlater : ((deliveriesFrom (some first) rest).filterMap statefulSetKind).count
        .deployStarted = 0 := by
      rw [List.count_eq_zero]
      intro hstart
      obtain ⟨⟨old, n⟩, hdelivery, hkind⟩ := List.mem_filterMap.mp hstart
      obtain ⟨before, hbefore, rfl, hn⟩ := exists_prev_of_mem_deliveriesFrom hdelivery
      obtain ⟨hupdate, hcurrent⟩ := hheld before hbefore
      have hn' := (hheld n (List.mem_cons_of_mem _ hn)).1
      have hdiverged : diverged before = true := by
        simp [diverged, hupdate, hrevision, Ne.symm hcurrent]
      have hquiet := not_started_of_same_revision hdiverged (hupdate.trans hn'.symm)
      exact absurd ((rolloutKind_eq_started.mp hkind).symm.trans hquiet) (by simp)
    rw [deliveriesFrom, List.filterMap_cons]
    split
    · omega
    · rw [List.count_cons, hlater]
      split_ifs <;> omega

/-- For every run of a StatefulSet without an error of the resolver, whatever its revisions and
counts: each success is preceded by a start since the success before it, and while the update
revision stays one value that is not empty and not current, at most one start is reported. Assumes:
the run is delivered without an error. -/
theorem statefulSet_rollouts_bracketed (rt : Runtime) (seq : ℕ)
    {snapshots : List (Reader × StatefulSet)} {batches : List (List Event)}
    (hrun : deliver rt seq none (snapshots.map fun s ↦ (s.1, .statefulSet s.2)) = .ok batches) :
    RolloutsBracketed (batches.flatten.map Event.kind) ∧
      ∀ before during after revision, snapshots = before ++ during ++ after → revision ≠ "" →
        (∀ s ∈ during, s.2.updateRevision = revision ∧ s.2.currentRevision ≠ revision) →
        (((batches.drop before.length).take during.length).flatten.map Event.kind).count
          .deployStarted ≤ 1 := by
  have hkinds := statefulSet_run_kinds hrun
  constructor
  · rw [kinds_eq_emitted hkinds]
    refine (bracketed_of_level diverged (fun delivery _ hedge ↦ ?_)
      fun delivery _ kind hkind hcloses ↦ ?_).1
    · exact ⟨_, statefulSetKind_of_risingEdge hedge, rfl⟩
    · obtain rfl : kind = .deploySucceeded := hcloses
      have hsucceeded := (rolloutKind_eq_succeeded.mp hkind).2
      exact ⟨((isStatefulSetSucceeded_iff _ _).mp hsucceeded).1,
        not_diverged_of_succeeded hsucceeded⟩
  · intro before during after revision hsplit hrevision hheld
    rw [kinds_stretch_eq hkinds hsplit]
    exact count_started_le_one _ hrevision (List.forall_mem_map.mpr hheld)

/-- A StatefulSet of three replicas with an update and a current revision. -/
def revisionedSet (update current : String) : StatefulSet where
  metadata := { name := "db", namespaceName := "prod" }
  replicas := some 3
  updateRevision := update
  currentRevision := current
  readyReplicas := 3

/-- A rollout that is superseded on the way. -/
def supersededRollout : List (Reader × StatefulSet) :=
  [("db-1", "db-1"), ("db-2", "db-1"), ("db-3", "db-1"), ("db-3", "db-3")].map fun revisions ↦
    (Reader.empty, revisionedSet revisions.1 revisions.2)

/-- Two starts and one success are reported, and the success has a start before it. -/
theorem statefulSet_rollouts_bracketed_superseded : ∃ batches,
    deliver ⟨fun _ ↦ 1, fun _ ↦ "evt"⟩ 0 none
      (supersededRollout.map fun s ↦ (s.1, .statefulSet s.2)) = .ok batches ∧
    batches.flatten.map Event.kind = [.deployStarted, .deployStarted, .deploySucceeded] ∧
    RolloutsBracketed (batches.flatten.map Event.kind) := by
  have hrun : ∃ batches, deliver ⟨fun _ ↦ 1, fun _ ↦ "evt"⟩ 0 none
      (supersededRollout.map fun s ↦ (s.1, .statefulSet s.2)) = .ok batches ∧
      batches.flatten.map Event.kind = [.deployStarted, .deployStarted, .deploySucceeded] :=
    ⟨_, rfl, rfl⟩
  obtain ⟨batches, hdelivered, hkinds⟩ := hrun
  exact ⟨batches, hdelivered, hkinds, (statefulSet_rollouts_bracketed _ 0 hdelivered).1⟩

/-! ### DaemonSets -/

/-- Not all pods of a DaemonSet are updated. -/
def fallsShort (d : DaemonSet) : Bool :=
  d.updatedNumberScheduled < d.desiredNumberScheduled

/-- The observed generation of a delivery is a new one. On an add any generation but the zero value
is. -/
def Announced (delivery : Option DaemonSet × DaemonSet) : Prop :=
  (delivery.1.map DaemonSet.observedGeneration).getD 0 < delivery.2.observedGeneration

/-- The kind of the event a delivery of a DaemonSet reports. -/
def daemonSetKind (delivery : Option DaemonSet × DaemonSet) : Option Kind :=
  rolloutKind (isDaemonSetStarted delivery.1 delivery.2)
    (isDaemonSetSucceeded delivery.1 delivery.2)

theorem isDaemonSetStarted_iff (old : Option DaemonSet) (n : DaemonSet) :
    isDaemonSetStarted old n = true ↔ Announced (old, n) ∧ fallsShort n = true := by
  unfold isDaemonSetStarted Announced fallsShort
  simp

theorem isDaemonSetSucceeded_iff (old : Option DaemonSet) (n : DaemonSet) :
    isDaemonSetSucceeded old n = true ↔ old.any fallsShort = true ∧
      n.updatedNumberScheduled = n.desiredNumberScheduled ∧ 0 < n.desiredNumberScheduled := by
  unfold isDaemonSetSucceeded fallsShort
  cases old <;> simp [and_assoc]

theorem not_fallsShort_of_complete {n : DaemonSet}
    (hcomplete : n.updatedNumberScheduled = n.desiredNumberScheduled) : fallsShort n = false := by
  simp [fallsShort, hcomplete]

theorem not_started_of_complete (old : Option DaemonSet) {n : DaemonSet}
    (hcomplete : n.updatedNumberScheduled = n.desiredNumberScheduled) :
    isDaemonSetStarted old n = false := by
  by_contra hstarted
  have hup := ((isDaemonSetStarted_iff old n).mp (by simpa using hstarted)).2
  exact absurd ((not_fallsShort_of_complete hcomplete).symm.trans hup) (by simp)

theorem not_succeeded_of_fallsShort (old : Option DaemonSet) {n : DaemonSet}
    (hshort : fallsShort n = true) : isDaemonSetSucceeded old n = false := by
  by_contra hsucceeded
  have hcomplete := ((isDaemonSetSucceeded_iff old n).mp (by simpa using hsucceeded)).2.1
  exact absurd ((not_fallsShort_of_complete hcomplete).symm.trans hshort) (by simp)

theorem daemonSet_delivery_kinds {rt : Runtime} {reader : Reader} {seq : ℕ}
    {prev : Option DaemonSet} {n : DaemonSet} {events : List Event}
    (hevents : fromDaemonSetChange rt reader seq prev n = .ok events) :
    events.map Event.kind = (daemonSetKind (prev, n)).toList := by
  rw [fromDaemonSetChange_eq] at hevents
  obtain ⟨serviceID, -, rfl⟩ := resolved_eq_ok hevents
  refine kinds_numbered_outcomes (fun _ ↦ rfl) (fun _ ↦ rfl) (fun hstarted ↦ ?_) seq
  exact not_succeeded_of_fallsShort prev ((isDaemonSetStarted_iff prev n).mp hstarted).2

/-- A run of a DaemonSet, delivery by delivery. -/
theorem daemonSet_run_kinds {rt : Runtime} {seq : ℕ} {snapshots : List (Reader × DaemonSet)}
    {batches : List (List Event)}
    (hrun : deliver rt seq none (snapshots.map fun s ↦ (s.1, .daemonSet s.2)) = .ok batches) :
    batches.map (List.map Event.kind) =
      (deliveries (snapshots.map Prod.snd)).map fun delivery ↦ (daemonSetKind delivery).toList := by
  refine deliver_observations_of_run Object.daemonSet (List.map Event.kind)
    (fun delivery ↦ (daemonSetKind delivery).toList) ?_ hrun
  intro reader seq prev n events hevents
  rw [dispatch_daemonSet] at hevents
  exact daemonSet_delivery_kinds hevents

/-- Brackets hold on a run whose shortfalls are all announced. -/
theorem daemonSet_bracketed_of_announced {snapshots : List DaemonSet}
    (hannounced : ∀ delivery ∈ deliveries snapshots, risingEdge fallsShort delivery = true →
      Announced delivery) : RolloutsBracketed (emitted daemonSetKind snapshots) := by
  refine (bracketed_of_level fallsShort (fun delivery hmem hedge ↦ ?_)
    fun delivery _ kind hkind hcloses ↦ ?_).1
  · have hstarted : isDaemonSetStarted delivery.1 delivery.2 = true :=
      (isDaemonSetStarted_iff _ _).mpr ⟨hannounced delivery hmem hedge,
        (risingEdge_eq_true.mp hedge).1⟩
    exact ⟨.deployStarted, rolloutKind_eq_started.mpr hstarted, rfl⟩
  · obtain rfl : kind = .deploySucceeded := hcloses
    have hsucceeded := (rolloutKind_eq_succeeded.mp hkind).2
    obtain ⟨hshort, hcomplete, -⟩ := (isDaemonSetSucceeded_iff _ _).mp hsucceeded
    exact ⟨hshort, not_fallsShort_of_complete hcomplete⟩

/-- A shortfall from a settled state that is made up for is reported as a success, after a start
exactly when it was announced. -/
theorem daemonSet_bracketed_iff_announced {settled : List DaemonSet} {short complete : DaemonSet}
    (hshort : fallsShort short = true)
    (hcomplete : complete.updatedNumberScheduled = complete.desiredNumberScheduled)
    (hdesired : 0 < complete.desiredNumberScheduled)
    (hbracketed : RolloutsBracketed (emitted daemonSetKind settled))
    (hclosed : ¬ RolloutOpen (emitted daemonSetKind settled)) :
    RolloutsBracketed (emitted daemonSetKind (settled ++ [short] ++ [complete])) ↔
      Announced (settled.getLast?, short) := by
  have hsuccess : daemonSetKind (some short, complete) = some .deploySucceeded :=
    rolloutKind_eq_succeeded.mpr ⟨not_started_of_complete _ hcomplete,
      (isDaemonSetSucceeded_iff _ _).mpr ⟨by simpa using hshort, hcomplete, hdesired⟩⟩
  rw [emitted_concat, List.getLast?_concat, hsuccess, Option.toList_some, RolloutsBracketed,
    bracketed_concat, emitted_concat]
  by_cases hannounced : Announced (settled.getLast?, short)
  · have hstart : daemonSetKind (settled.getLast?, short) = some .deployStarted :=
      rolloutKind_eq_started.mpr ((isDaemonSetStarted_iff _ _).mpr ⟨hannounced, hshort⟩)
    rw [hstart, Option.toList_some, bracketed_concat, pending_concat]
    exact iff_of_true ⟨⟨hbracketed, fun hcloses ↦ absurd hcloses (by decide)⟩,
      fun _ ↦ Or.inl rfl⟩ hannounced
  · have hnotStarted : isDaemonSetStarted settled.getLast? short = false := by
      by_contra hstarted
      exact hannounced ((isDaemonSetStarted_iff _ _).mp (by simpa using hstarted)).1
    have hquiet : daemonSetKind (settled.getLast?, short) = none :=
      rolloutKind_eq_none.mpr ⟨hnotStarted, not_succeeded_of_fallsShort _ hshort⟩
    rw [hquiet, Option.toList_none, List.append_nil]
    exact iff_of_false (fun hall ↦ hclosed (hall.2 rfl)) hannounced

/-- For every run of a DaemonSet without an error of the resolver:
* when the counts fall short only on deliveries with a new observed generation, each success is
  preceded by a start since the success before it;
* such a delivery decides it: when the run so far is in order and has no start open, and the counts
  fall short and are made up for, the run stays in order exactly when the shortfall came with a new
  generation.
Assumes: the run is delivered without an error. -/
theorem daemonSet_rollouts_bracketed_when_announced (rt : Runtime) (seq : ℕ)
    {snapshots : List (Reader × DaemonSet)} {batches : List (List Event)}
    (hrun : deliver rt seq none (snapshots.map fun s ↦ (s.1, .daemonSet s.2)) = .ok batches) :
    ((∀ delivery ∈ deliveries (snapshots.map Prod.snd), risingEdge fallsShort delivery = true →
      Announced delivery) → RolloutsBracketed (batches.flatten.map Event.kind)) ∧
    ∀ (settled : List DaemonSet) (short complete : DaemonSet),
      snapshots.map Prod.snd = settled ++ [short] ++ [complete] →
      fallsShort short = true →
      complete.updatedNumberScheduled = complete.desiredNumberScheduled →
      0 < complete.desiredNumberScheduled →
      RolloutsBracketed ((batches.take settled.length).flatten.map Event.kind) →
      ¬ RolloutOpen ((batches.take settled.length).flatten.map Event.kind) →
        (RolloutsBracketed (batches.flatten.map Event.kind) ↔
          Announced (settled.getLast?, short)) := by
  have hkinds := daemonSet_run_kinds hrun
  rw [kinds_eq_emitted hkinds]
  refine ⟨daemonSet_bracketed_of_announced, ?_⟩
  intro settled short complete hsplit hshort hcomplete hdesired hbracketed hclosed
  have hfirst : (snapshots.map Prod.snd).take settled.length = settled := by
    rw [hsplit, List.append_assoc, List.take_left]
  rw [kinds_take_eq_emitted hkinds, hfirst] at hbracketed hclosed
  rw [hsplit]
  exact daemonSet_bracketed_iff_announced hshort hcomplete hdesired hbracketed hclosed

/-- A DaemonSet by its generation and its counts. -/
def nodeAgent (generation updated desired : ℤ) : DaemonSet where
  metadata := { name := "agent", namespaceName := "prod" }
  observedGeneration := generation
  updatedNumberScheduled := updated
  desiredNumberScheduled := desired

/-- A new generation rolled out on three nodes: a start, then a success. -/
theorem daemonSet_rollouts_bracketed_when_announced_rollout : ∃ batches,
    deliver ⟨fun _ ↦ 1, fun _ ↦ "evt"⟩ 0 none
      ([nodeAgent 1 3 3, nodeAgent 2 0 3, nodeAgent 2 3 3].map fun d ↦
        (Reader.empty, .daemonSet d)) = .ok batches ∧
    batches.flatten.map Event.kind = [.deployStarted, .deploySucceeded] ∧
    RolloutsBracketed (batches.flatten.map Event.kind) := by
  have hrun : ∃ batches, deliver ⟨fun _ ↦ 1, fun _ ↦ "evt"⟩ 0 none
      (([nodeAgent 1 3 3, nodeAgent 2 0 3, nodeAgent 2 3 3].map fun d ↦ (Reader.empty, d)).map
        fun s ↦ (s.1, .daemonSet s.2)) = .ok batches ∧
      batches.flatten.map Event.kind = [.deployStarted, .deploySucceeded] :=
    ⟨_, rfl, rfl⟩
  obtain ⟨batches, hdelivered, hkinds⟩ := hrun
  refine ⟨batches, hdelivered, hkinds,
    (daemonSet_rollouts_bracketed_when_announced _ 0 hdelivered).1 ?_⟩
  simp only [Announced]
  decide

/-- A fourth node joins and gets its pod, with no rollout: a success with no start. -/
theorem daemonSet_success_without_start : ∃ batches,
    deliver ⟨fun _ ↦ 1, fun _ ↦ "evt"⟩ 0 none
      ([nodeAgent 1 3 3, nodeAgent 1 3 4, nodeAgent 1 4 4].map fun d ↦
        (Reader.empty, .daemonSet d)) = .ok batches ∧
    batches.flatten.map Event.kind = [.deploySucceeded] ∧
    ¬ RolloutsBracketed (batches.flatten.map Event.kind) := by
  refine ⟨_, rfl, rfl, fun hbracketed ↦ ?_⟩
  exact not_pending_nil (hbracketed [] .deploySucceeded [] rfl rfl)

end IncidentaryOperator.Mapper
