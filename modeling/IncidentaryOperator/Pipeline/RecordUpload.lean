import IncidentaryOperator.Mapper.Emission
import IncidentaryOperator.Pipeline.Handler

/-!
# How often an event record is uploaded

The watch set lists both event types, and the API server serves one stored record through both group
versions, so each record is added twice; and each informer repeats its cache at every resync. The
event mappers look at the new object alone and mint an id for each call, so every one of these
notifications enqueues a wire event of its own, with an id of its own: the server cannot tell that
they are one record.

The upload is single exactly when the record is not mapped at all or at most one of its
notifications finds the resolver working (`record_uploaded_once_iff`).
-/

set_option autoImplicit false
set_option relaxedAutoImplicit false

namespace IncidentaryOperator.Pipeline

open WireFormat Kubernetes Identity FilterPolicy Mapper

/-! ### Notifications of one record -/

/-- One stored event record as the two informers deliver it. The conversion between the group
versions is the API server's; what counts here is that it keeps the reason and the object the event
is about. -/
structure EventRecord where
  core : CoreEvent
  events : K8sEvent
  reason_eq : events.reason = core.reason
  regarding_eq : events.regarding = core.involvedObject

/-- A record and its projection are one. -/
def EventRecord.ofCore (event : CoreEvent) : EventRecord :=
  ⟨event, event.project, rfl, rfl⟩

/-- The notifications that carry an unchanged record: its adds through the two informers, and their
resyncs. -/
inductive RecordNotice
  | coreAdd
  | eventsAdd
  | coreResync
  | eventsResync
  deriving DecidableEq

/-- The notification of a record, through the group version of the informer. -/
def RecordNotice.notification (record : EventRecord) : RecordNotice → Notification
  | .coreAdd => .added (.coreEvent record.core)
  | .eventsAdd => .added (.k8sEvent record.events)
  | .coreResync => .updated (.coreEvent record.core) (.coreEvent record.core)
  | .eventsResync => .updated (.k8sEvent record.events) (.k8sEvent record.events)

/-- The kind a reason on a kind of object is mapped to, if it is. -/
def mappedKind (reason regardingKind : String) : Option Kind :=
  if reason = "" then none else matchReason reason regardingKind

/-- The kind a record is mapped to, if it is. -/
def recordKind (record : EventRecord) : Option Kind :=
  mappedKind record.core.reason record.core.involvedObject.kind

/-- What the resolver finds for the object of a record. -/
def recordOutcome (record : EventRecord) (reader : Reader) : Except String Result :=
  (resolveRef reader record.core.involvedObject.kind record.core.involvedObject.namespaceName
    record.core.involvedObject.name).outcome

/-- The resolver does not fail on the object of a record. -/
def resolves (record : EventRecord) (reader : Reader) : Bool :=
  (recordOutcome record reader).isOk

/-- All kinds of the reason table are of tier one. -/
theorem isTier1_of_matchReason {reason regardingKind : String} {kind : Kind}
    (hmatch : matchReason reason regardingKind = some kind) : isTier1 kind = true := by
  have htable : ∀ entry ∈ k8sEventReasonMappings, isTier1 entry.2.kind = true := by decide
  unfold matchReason at hmatch
  split at hmatch
  · exact absurd hmatch (by simp)
  · next mapping hlookup =>
    split_ifs at hmatch with hkind
    rw [← Option.some.inj hmatch]
    obtain ⟨before, after, hentries, -⟩ := List.lookup_eq_some_iff.mp hlookup
    exact htable (reason, mapping) (hentries ▸ List.mem_append_right _ List.mem_cons_self)

/-! ### One notification -/

/-- The wire event of a record through a group version. -/
def recordEvent (rt : Runtime) (seq : ℕ) (record : EventRecord) (kind : Kind) (res : Result) :
    RecordNotice → Event
  | .coreAdd | .coreResync => coreWireEvent rt seq record.core kind res
  | .eventsAdd | .eventsResync => k8sWireEvent rt seq record.events kind res

/-- What the two event mappers return: one event for a mapped reason whose object resolves. -/
theorem returned_mapped {reason regardingKind : String} {outcome : Except String Result}
    {wrap : String → String} {build : Kind → Result → Event} :
    returned ((if reason = "" then Except.ok none
      else
        match matchReason reason regardingKind with
        | none => .ok none
        | some kind =>
          match outcome with
          | .error text => .error (wrap text)
          | .ok res => .ok (some (build kind res))).map Option.toList) =
      match mappedKind reason regardingKind, outcome with
      | some kind, .ok res => [build kind res]
      | _, _ => [] := by
  unfold mappedKind
  by_cases hreason : reason = ""
  · simp [hreason, Except.map]
  · simp only [hreason, if_false]
    cases matchReason reason regardingKind with
    | none => rfl
    | some kind => cases outcome <;> rfl

/-- The mapper returns one event for a notification of a record when the record is mapped and the
resolver works, through either group version, on an add and on a resync alike. -/
theorem returned_notice (rt : Runtime) (reader : Reader) (seq : ℕ) (record : EventRecord)
    (notice : RecordNotice) :
    returned (dispatch rt reader seq (notice.notification record).oldObj
      (notice.notification record).newObj) =
        match recordKind record, recordOutcome record reader with
        | some kind, .ok res => [recordEvent rt seq record kind res notice]
        | _, _ => [] := by
  have hcore : returned ((fromCoreEvent rt reader seq record.core).map Option.toList) =
      match recordKind record, recordOutcome record reader with
      | some kind, .ok res => [coreWireEvent rt seq record.core kind res]
      | _, _ => [] :=
    returned_mapped
  have hevents : returned ((fromK8sEvent rt reader seq record.events).map Option.toList) =
      match recordKind record, recordOutcome record reader with
      | some kind, .ok res => [k8sWireEvent rt seq record.events kind res]
      | _, _ => [] := by
    unfold recordKind recordOutcome
    rw [← record.reason_eq, ← record.regarding_eq]
    exact returned_mapped
  cases notice with
  | coreAdd => exact hcore
  | eventsAdd => exact hevents
  | coreResync => exact hcore
  | eventsResync => exact hevents

/-- The record is mapped and the resolver works: a notification enqueues one event. -/
def uploads (record : EventRecord) (reader : Reader) : Bool :=
  (recordKind record).isSome && resolves record reader

/-- The filter lets every event of a record through, and each has the next id. -/
theorem notice_enqueued_ids (rt : Runtime) (reader : Reader) (f : SeverityFilter) (seq : ℕ)
    (record : EventRecord) (notice : RecordNotice) :
    (handle rt reader f seq (notice.notification record)).enqueued.map Event.id =
        (if uploads record reader then [rt.newID seq] else []) ∧
      dispatchedCount rt reader seq (notice.notification record) =
        if uploads record reader then 1 else 0 := by
  rw [handle_enqueued, dispatchedCount, returned_notice]
  unfold uploads resolves
  cases hkind : recordKind record with
  | none => simp
  | some kind =>
    cases recordOutcome record reader with
    | error text => simp [Except.isOk, Except.toBool]
    | ok res =>
      have hmatch : matchReason record.core.reason record.core.involvedObject.kind = some kind := by
        unfold recordKind mappedKind at hkind
        split_ifs at hkind
        exact hkind
      have htier := isTier1_of_matchReason hmatch
      have hid : (recordEvent rt seq record kind res notice).id = rt.newID seq := by
        cases notice <;> rfl
      have haccept : f.accept (recordEvent rt seq record kind res notice) = true := by
        refine accept_of_isTier1 f ?_
        cases notice <;> exact htier
      simp [haccept, hid, Except.isOk, Except.toBool]

/-! ### A run of notifications -/

/-- The run of the notifications of a record, each with the store at its time. -/
def recordRun (record : EventRecord) (notices : List (Reader × RecordNotice)) :
    List (Reader × Notification) :=
  notices.map fun notice ↦ (notice.1, notice.2.notification record)

/-- The number of notifications that upload the record. -/
def uploadCount (record : EventRecord) (notices : List (Reader × RecordNotice)) : ℕ :=
  notices.countP fun notice ↦ uploads record notice.1

/-- The ids a run enqueues are consecutive ids of the generator, one for each upload. -/
theorem recordRun_ids (rt : Runtime) (f : SeverityFilter) (record : EventRecord)
    (notices : List (Reader × RecordNotice)) (seq : ℕ) :
    (enqueuedBy rt f seq (recordRun record notices)).map Event.id =
      (List.range' seq (uploadCount record notices)).map rt.newID := by
  induction notices generalizing seq with
  | nil => rfl
  | cons notice rest ih =>
    obtain ⟨reader, kind⟩ := notice
    obtain ⟨hids, hcount⟩ := notice_enqueued_ids rt reader f seq record kind
    have hrest := ih (seq + dispatchedCount rt reader seq (kind.notification record))
    have hsplit : enqueuedBy rt f seq (recordRun record ((reader, kind) :: rest)) =
        (handle rt reader f seq (kind.notification record)).enqueued ++
          enqueuedBy rt f (seq + dispatchedCount rt reader seq (kind.notification record))
            (recordRun record rest) := rfl
    rw [hsplit, List.map_append, hids, hrest, hcount]
    by_cases huploads : uploads record reader = true
    · have hmore : uploadCount record ((reader, kind) :: rest) = uploadCount record rest + 1 := by
        simp [uploadCount, huploads]
      rw [if_pos huploads, if_pos huploads, hmore, List.range'_succ]
      rfl
    · have hsame : uploadCount record ((reader, kind) :: rest) = uploadCount record rest := by
        simp [uploadCount, huploads]
      rw [if_neg huploads, if_neg huploads, hsame]
      rfl

/-- A notification uploads a record that is mapped when the resolver works. -/
theorem uploadCount_le_one_iff (record : EventRecord) (notices : List (Reader × RecordNotice)) :
    uploadCount record notices ≤ 1 ↔
      recordKind record = none ∨ (notices.countP fun notice ↦ resolves record notice.1) ≤ 1 := by
  unfold uploadCount uploads
  cases recordKind record with
  | none => simp
  | some kind => simp

/-- For every record and every run of notifications that carry it unchanged, the enqueued wire
events are at most one or all have the same id exactly when the record is not mapped or at most one
notification finds the resolver working. Assumes: the id generator never repeats itself. -/
theorem record_uploaded_once_iff {rt : Runtime} (hfresh : Function.Injective rt.newID)
    (f : SeverityFilter) (seq : ℕ) (record : EventRecord) (notices : List (Reader × RecordNotice)) :
    ((enqueuedBy rt f seq (recordRun record notices)).length ≤ 1 ∨
      ∀ first ∈ enqueuedBy rt f seq (recordRun record notices),
        ∀ second ∈ enqueuedBy rt f seq (recordRun record notices), first.id = second.id) ↔
      recordKind record = none ∨ (notices.countP fun notice ↦ resolves record notice.1) ≤ 1 := by
  have hids := recordRun_ids rt f record notices seq
  have hlength : (enqueuedBy rt f seq (recordRun record notices)).length =
      uploadCount record notices := by
    simpa using congrArg List.length hids
  rw [← uploadCount_le_one_iff, hlength]
  refine ⟨?_, Or.inl⟩
  rintro (hone | hsame)
  · exact hone
  · by_contra hmany
    have hid : ∀ offset < 2, ∃ ev ∈ enqueuedBy rt f seq (recordRun record notices),
        ev.id = rt.newID (seq + offset) := by
      intro offset hoffset
      rw [← List.mem_map, hids]
      exact List.mem_map_of_mem (List.mem_range'_1.mpr ⟨by omega, by omega⟩)
    obtain ⟨first, hfirst, hfirstID⟩ := hid 0 (by decide)
    obtain ⟨second, hsecond, hsecondID⟩ := hid 1 (by decide)
    have hequal := hsame first hfirst second hsecond
    rw [hfirstID, hsecondID] at hequal
    have hnumbers := hfresh hequal
    omega

/-- A runtime whose id generator counts in strokes. -/
def strokeRuntime : Runtime where
  now := fun _ ↦ 1700000000000000000
  newID := fun number ↦ String.ofList (List.replicate number '|')

/-- It never repeats itself. -/
theorem strokeRuntime_newID_injective : Function.Injective strokeRuntime.newID := by
  intro first second hequal
  have hlengths := congrArg (fun text : String ↦ text.toList.length) hequal
  simpa [strokeRuntime] using hlengths

/-- A record of a Pod that keeps crashing. -/
def backOffRecord : EventRecord :=
  .ofCore
    { reason := "BackOff"
      involvedObject := { kind := "Pod", namespaceName := "prod", name := "api-1" } }

/-- One informer, no resync: the record is uploaded once. -/
theorem record_uploaded_once_iff_oneAdd :
    recordKind backOffRecord = some .k8sPodCrash ∧
    ((enqueuedBy strokeRuntime ⟨.warning⟩ 1
        (recordRun backOffRecord [(Reader.empty, .coreAdd)])).length ≤ 1 ∨
      ∀ first ∈ enqueuedBy strokeRuntime ⟨.warning⟩ 1
          (recordRun backOffRecord [(Reader.empty, .coreAdd)]),
        ∀ second ∈ enqueuedBy strokeRuntime ⟨.warning⟩ 1
          (recordRun backOffRecord [(Reader.empty, .coreAdd)]), first.id = second.id) :=
  ⟨by decide, (record_uploaded_once_iff strokeRuntime_newID_injective _ _ _ _).mpr
    (Or.inr (by decide))⟩

/-- Both informers and one resync: the one record is enqueued three times, under three ids. -/
theorem record_uploaded_three_times :
    (enqueuedBy strokeRuntime ⟨.warning⟩ 1 (recordRun backOffRecord
      [(Reader.empty, .coreAdd), (Reader.empty, .eventsAdd),
        (Reader.empty, .coreResync)])).map Event.id = ["|", "||", "|||"] := by
  decide

end IncidentaryOperator.Pipeline
