import IncidentaryOperator.Foundation.Edges

/-!
# Bracketed runs

In a run of events some open a bracket and some close one. The run is bracketed when every closing
event comes after an opening one with no closing event in between (`Bracketed`): an opening event
may be repeated, but a closing one uses up what was opened before it.

Both that and an open bracket at the end of the run (`Pending`) are decided event by event
(`bracketed_concat`, `pending_concat`), and so is the absence of some event while a bracket is open
(`absentWhilePending_concat`). For an observer of snapshots that emits at most one event
for each delivery, the run is bracketed if some level of the snapshots accounts for the open
brackets: it does not rise without an opening event, and a closing event is emitted only when it
falls (`bracketed_of_level`).
-/

set_option autoImplicit false
set_option relaxedAutoImplicit false

namespace IncidentaryOperator.Foundation

variable {α β : Type*}

/-- There is an opening event after which nothing closed. -/
def Pending (opens closes : β → Prop) (events : List β) : Prop :=
  ∃ earlier opening since, events = earlier ++ opening :: since ∧ opens opening ∧
    ∀ event ∈ since, ¬ closes event

/-- Each closing event is preceded by an opening one, after the closing event before it if there is
one. -/
def Bracketed (opens closes : β → Prop) (events : List β) : Prop :=
  ∀ before closing after, events = before ++ closing :: after → closes closing →
    Pending opens closes before

/-- The events of some kind come only while no bracket is open. -/
def AbsentWhilePending (opens closes occurs : β → Prop) (events : List β) : Prop :=
  ∀ before event after, events = before ++ event :: after → occurs event →
    ¬ Pending opens closes before

variable {opens closes occurs : β → Prop}

/-- What is asked of each event and the events before it is decided event by event. -/
theorem forall_split_concat {property : List β → β → Prop} {events : List β} {last : β} :
    (∀ before event after, events ++ [last] = before ++ event :: after → property before event) ↔
      (∀ before event after, events = before ++ event :: after → property before event) ∧
        property events last := by
  constructor
  · intro hall
    refine ⟨fun before event after hsplit ↦ ?_, hall events last [] rfl⟩
    exact hall before event (after ++ [last]) (by rw [hsplit]; simp)
  · rintro ⟨hearlier, hlast⟩ before event after hsplit
    rcases List.eq_nil_or_concat' after with rfl | ⟨after', final, rfl⟩
    · obtain ⟨rfl, hend⟩ := List.append_inj' hsplit rfl
      exact (List.cons.inj hend).1 ▸ hlast
    · rw [← List.cons_append, ← List.append_assoc] at hsplit
      exact hearlier before event after' (List.append_inj' hsplit rfl).1

theorem bracketed_nil : Bracketed opens closes [] := by
  intro before closing after hsplit
  exact absurd hsplit (by simp)

theorem not_pending_nil : ¬ Pending opens closes [] := by
  rintro ⟨earlier, opening, since, hsplit, -⟩
  exact absurd hsplit (by simp)

/-- After one more event a bracket is open if the event opens one, or if one was open and the event
does not close it. -/
theorem pending_concat {events : List β} {event : β} :
    Pending opens closes (events ++ [event]) ↔
      opens event ∨ (Pending opens closes events ∧ ¬ closes event) := by
  constructor
  · rintro ⟨earlier, opening, since, hsplit, hopening, hsince⟩
    rcases List.eq_nil_or_concat' since with rfl | ⟨since', last, rfl⟩
    · obtain ⟨-, hlast⟩ := List.append_inj' hsplit rfl
      rw [List.cons.inj hlast |>.1]
      exact Or.inl hopening
    · rw [← List.cons_append, ← List.append_assoc] at hsplit
      obtain ⟨hevents, hlast⟩ := List.append_inj' hsplit rfl
      obtain ⟨hsince', hend⟩ := List.forall_mem_append.mp hsince
      rw [List.cons.inj hlast |>.1]
      exact Or.inr ⟨⟨earlier, opening, since', hevents, hopening, hsince'⟩,
        hend last (List.mem_singleton.mpr rfl)⟩
  · rintro (hopening | ⟨⟨earlier, opening, since, rfl, hopening, hsince⟩, hopen⟩)
    · exact ⟨events, event, [], rfl, hopening, by simp⟩
    · refine ⟨earlier, opening, since ++ [event], by simp, hopening, ?_⟩
      exact List.forall_mem_append.mpr ⟨hsince, List.forall_mem_singleton.mpr hopen⟩

/-- One more event keeps a run bracketed if a bracket is open when it closes one. -/
theorem bracketed_concat {events : List β} {event : β} :
    Bracketed opens closes (events ++ [event]) ↔
      Bracketed opens closes events ∧ (closes event → Pending opens closes events) :=
  @forall_split_concat β (fun before closing ↦ closes closing → Pending opens closes before) _ _

theorem absentWhilePending_nil : AbsentWhilePending opens closes occurs [] := by
  intro before event after hsplit
  exact absurd hsplit (by simp)

/-- One more event keeps the absence unless it is such an event while a bracket is open. -/
theorem absentWhilePending_concat {events : List β} {event : β} :
    AbsentWhilePending opens closes occurs (events ++ [event]) ↔
      AbsentWhilePending opens closes occurs events ∧
        (occurs event → ¬ Pending opens closes events) :=
  @forall_split_concat β (fun before event ↦ occurs event → ¬ Pending opens closes before) _ _

/-! ### Brackets of an observer of snapshots -/

/-- The events an observer emits over a run of snapshots, at most one for each delivery. -/
def emitted (emit : Option α × α → Option β) (snapshots : List α) : List β :=
  (deliveries snapshots).filterMap emit

theorem emitted_concat (emit : Option α × α → Option β) (snapshots : List α) (snapshot : α) :
    emitted emit (snapshots ++ [snapshot]) =
      emitted emit snapshots ++ (emit (snapshots.getLast?, snapshot)).toList := by
  rw [emitted, deliveries_concat, List.filterMap_append, ← emitted]
  cases hemit : emit (snapshots.getLast?, snapshot) <;> simp [hemit]

/-- The rule of levels. Assumes: on the deliveries of the run, the level rises only with an opening
event, and a closing event is emitted only where the level falls. Then the run is bracketed, and a
bracket is open whenever the level is up. -/
theorem bracketed_of_level (level : α → Bool) {emit : Option α × α → Option β}
    {snapshots : List α}
    (hrise : ∀ delivery ∈ deliveries snapshots, risingEdge level delivery = true →
      ∃ event, emit delivery = some event ∧ opens event)
    (hfall : ∀ delivery ∈ deliveries snapshots, ∀ event, emit delivery = some event →
      closes event → delivery.1.any level = true ∧ level delivery.2 = false) :
    Bracketed opens closes (emitted emit snapshots) ∧
      (snapshots.getLast?.any level = true → Pending opens closes (emitted emit snapshots)) := by
  induction snapshots using List.reverseRecOn with
  | nil => exact ⟨bracketed_nil, by simp⟩
  | append_singleton snapshots snapshot ih =>
    rw [deliveries_concat] at hrise hfall
    obtain ⟨hrise, hriseLast⟩ := List.forall_mem_append.mp hrise
    obtain ⟨hfall, hfallLast⟩ := List.forall_mem_append.mp hfall
    obtain ⟨hbracketed, hpending⟩ := ih hrise hfall
    have hriseLast := List.forall_mem_singleton.mp hriseLast
    have hfallLast := List.forall_mem_singleton.mp hfallLast
    rw [emitted_concat, List.getLast?_concat]
    cases hemit : emit (snapshots.getLast?, snapshot) with
    | none =>
      rw [Option.toList_none, List.append_nil]
      refine ⟨hbracketed, fun hlevel ↦ hpending ?_⟩
      by_contra hdown
      obtain ⟨event, hsome, -⟩ := hriseLast (risingEdge_eq_true.mpr ⟨hlevel, hdown⟩)
      exact absurd (hemit.symm.trans hsome) (by simp)
    | some event =>
      rw [Option.toList_some, bracketed_concat, pending_concat]
      refine ⟨⟨hbracketed, fun hcloses ↦ hpending (hfallLast event hemit hcloses).1⟩,
        fun hlevel ↦ ?_⟩
      by_cases hup : snapshots.getLast?.any level = true
      · refine Or.inr ⟨hpending hup, fun hcloses ↦ ?_⟩
        have hdown : level snapshot = false := (hfallLast event hemit hcloses).2
        exact absurd (hdown.symm.trans hlevel) (by simp)
      · obtain ⟨opening, hsome, hopens⟩ := hriseLast (risingEdge_eq_true.mpr ⟨hlevel, hup⟩)
        rw [hemit] at hsome
        exact Or.inl (Option.some.inj hsome ▸ hopens)

end IncidentaryOperator.Foundation
