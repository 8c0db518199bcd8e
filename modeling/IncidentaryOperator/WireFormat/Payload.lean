import IncidentaryOperator.Foundation.JsonMaps
import IncidentaryOperator.WireFormat.Schema

/-!
# What goes on the wire

The JSON of a batch, by the field tags of `internal/wireformat/v2.go` and the methods of
`internal/wireformat/json.go` that flatten the resource block. Fields are in the order of the Go
structs, an empty attribute map and an absent series are left out, and maps are printed with their
keys in order.

A text that was clipped within a character ends in bytes that are no UTF-8. The encoder prints each
of them as the escape of U+FFFD, and a decoder reads that character.

A payload reads back as the value it was printed from, with those bytes replaced, and two batches
have the same payload exactly when they agree in every field (`batch_payload_faithful`). What is
lost on the way is the order in which a map was filled and which bytes they were that are no UTF-8.
The resource block survives the round trip through its own decoder (`flatStringMap_round_trip`).
-/

set_option autoImplicit false
set_option relaxedAutoImplicit false

namespace IncidentaryOperator.WireFormat

open Foundation

/-! ### Texts of the enumerations -/

/-- The text of a capture mode on the wire. -/
def CaptureMode.text : CaptureMode → String
  | .skeleton => "SKELETON"
  | .full => "FULL"

/-- The text of an agent type on the wire. -/
def AgentType.text : AgentType → String
  | .k8sOperator => "k8s_operator"

/-- The text of a surface on the wire. -/
def AgentSurface.text : AgentSurface → String
  | .exporter => "exporter"
  | .processor => "processor"
  | .sdk => "sdk"
  | .operator => "operator"

theorem Kind.text_injective : Function.Injective Kind.text := by
  intro first second
  cases first <;> cases second <;> decide

theorem Severity.text_injective : Function.Injective Severity.text := by
  intro first second
  cases first <;> cases second <;> decide

theorem CaptureMode.text_injective : Function.Injective CaptureMode.text := by
  intro first second
  cases first <;> cases second <;> decide

theorem AgentSurface.text_injective : Function.Injective AgentSurface.text := by
  intro first second
  cases first <;> cases second <;> decide

/-! ### Values -/

/-- An integer field. -/
def intJson {Text : Type} (n : ℤ) : JsonOf Text :=
  .number (.ofInt n)

/-- A field with a text. -/
def textJson (text : String) : JsonOf Runes :=
  .string (textRunes text)

/-- What is left of an attribute value on the wire: the characters of a string and the places of the
bytes that are no UTF-8, or an integer. -/
inductive WireValue
  | text (value : Runes)
  | int (value : ℤ)
  deriving DecidableEq

/-- The characters of bytes that need not be UTF-8, or the integer. -/
def AttrValue.wire : AttrValue → WireValue
  | .bytes value => .text (runesOf value)
  | .int value => .int value

/-- The JSON of a value on the wire. -/
def WireValue.json : WireValue → JsonOf Runes
  | .text value => .string value
  | .int value => intJson value

theorem intJson_injective {Text : Type} :
    Function.Injective (intJson : ℤ → JsonOf Text) := by
  intro m n hsame
  exact NumberLiteral.ofInt_injective (JsonOf.number.inj hsame)

theorem textJson_injective : Function.Injective textJson := by
  intro first second hsame
  exact textRunes_injective (JsonOf.string.inj hsame)

theorem WireValue.json_injective : Function.Injective WireValue.json := by
  intro first second hsame
  cases first <;> cases second
  · exact congrArg WireValue.text (JsonOf.string.inj hsame)
  · cases hsame
  · cases hsame
  · exact congrArg WireValue.int (intJson_injective hsame)

/-- A text that was not clipped has all its characters on the wire. -/
@[simp] theorem wire_str (text : String) : (AttrValue.str text).wire = .text (textRunes text) := by
  simp [AttrValue.str, AttrValue.wire, runesOf_toByteArray]

example : (AttrValue.bytes ⟨#[0x61, 0xe2]⟩).wire ≠ (AttrValue.str "a\ufffd").wire := by
  rw [wire_str]
  decide

/-- The JSON of an attribute value. -/
def AttrValue.json (value : AttrValue) : JsonOf Runes :=
  value.wire.json

/-- The JSON of a series block. -/
def Series.json (series : Series) : JsonOf Runes :=
  .object [("count", intJson series.count), ("first_at", intJson series.firstAt),
    ("last_at", intJson series.lastAt)]

/-- The fields of an event. Attributes and series are left out when there are none. -/
def Event.fields (event : Event) : List (String × Option (JsonOf Runes)) :=
  [("id", some (textJson event.id)),
    ("kind", some (textJson event.kind.text)),
    ("severity", some (textJson event.severity.text)),
    ("occurred_at", some (intJson event.occurredAt)),
    ("service_id", some (textJson event.serviceID)),
    ("attributes", omitEmpty [] .object (mapMembers AttrValue.json event.attributes)),
    ("series", event.series.map Series.json)]

/-- The JSON of an event. -/
def Event.json (event : Event) : JsonOf Runes :=
  .object (structMembers event.fields)

/-- `marshalFlatStringMap`, before it is printed: a nil map is an empty object. -/
def flatStringMap (map : Option StringMap) : Json :=
  match map with
  | none => .object []
  | some map => .object (mapMembers .string map)

/-- `marshalFlatStringMap`. -/
def marshalFlatStringMap (map : Option StringMap) : List Char :=
  (flatStringMap map).print

/-- `unmarshalFlatStringMap`, with none for an error of the decoder. -/
def unmarshalFlatStringMap (data : List Char) : Option StringMap :=
  if data = [] ∨ data = "null".toList then some ∅
  else
    match parseJson data with
    | none => none
    | some value => decodeStringMap value

/-- `Resource.MarshalJSON`, before it is printed. -/
def Resource.json (resource : Resource) : Json :=
  flatStringMap (some resource.attributes)

/-- The JSON of an agent block. The operator never sets the telemetry. -/
def Agent.json (agent : Agent) : JsonOf Runes :=
  .object [("type", textJson agent.type.text), ("version", textJson agent.version),
    ("workspace_id", textJson agent.workspaceID), ("surface", textJson agent.surface.text)]

/-- The JSON of a batch. -/
def IngestBatch.json (batch : IngestBatch) : JsonOf Runes :=
  .object [("specversion", textJson batch.specVersion),
    ("resource", batch.resource.json.map textRunes), ("agent", batch.agent.json),
    ("capture_mode", textJson batch.captureMode.text), ("flushed_at", intJson batch.flushedAt),
    ("events", .array (batch.events.map Event.json))]

/-- `json.Marshal` of a batch. -/
def IngestBatch.payload (batch : IngestBatch) : List Char :=
  batch.json.print

/-! ### The nesting of a batch -/

theorem depth_attrValue_json (value : AttrValue) : value.json.depth = 0 := by
  cases value <;> rfl

theorem depth_event_json (event : Event) : event.json.depth ≤ 2 := by
  have hattributes : (JsonOf.object (mapMembers AttrValue.json event.attributes)).depth ≤ 1 :=
    Nat.succ_le_succ
      (membersDepth_mapMembers_le (fun value ↦ (depth_attrValue_json value).le) event.attributes)
  have hseries : fieldDepth (event.series.map Series.json) ≤ 1 := by
    cases event.series with
    | none => exact Nat.zero_le _
    | some block => exact le_rfl
  refine Nat.succ_le_succ (membersDepth_structMembers_le ?_)
  simp only [Event.fields, List.forall_mem_cons]
  exact ⟨Nat.zero_le _, Nat.zero_le _, Nat.zero_le _, Nat.zero_le _, Nat.zero_le _,
    fieldDepth_omitEmpty_le hattributes, hseries, List.forall_mem_nil _⟩

theorem depth_flatStringMap (map : Option StringMap) : (flatStringMap map).depth ≤ 1 := by
  cases map with
  | none => exact le_rfl
  | some map =>
    have hmembers : membersDepth (mapMembers JsonOf.string map) ≤ 0 :=
      membersDepth_mapMembers_le (fun _ ↦ Nat.zero_le _) map
    rw [flatStringMap, JsonOf.depth]
    omega

theorem depth_batch_json (batch : IngestBatch) : batch.json.depth ≤ maxNestingDepth := by
  have hevents : itemsDepth (batch.events.map Event.json) ≤ 2 := by
    refine itemsDepth_le fun item hitem ↦ ?_
    obtain ⟨event, -, rfl⟩ := List.mem_map.mp hitem
    exact depth_event_json event
  have hresource : (batch.resource.json.map textRunes).depth ≤ 1 := by
    rw [depth_map]
    exact depth_flatStringMap _
  have hbatch : batch.json.depth ≤ 4 := by
    rw [IngestBatch.json, JsonOf.depth]
    refine Nat.succ_le_succ (membersDepth_le ?_)
    intro member hmember
    simp only [List.mem_cons, List.not_mem_nil, or_false] at hmember
    rcases hmember with rfl | rfl | rfl | rfl | rfl | rfl
    · exact Nat.zero_le _
    · exact hresource.trans (by decide)
    · exact (by decide : 1 ≤ 3)
    · exact Nat.zero_le _
    · exact Nat.zero_le _
    · rw [JsonOf.depth]
      omega
  exact hbatch.trans (by decide)

/-! ### What the payload says -/

/-- Two events that agree in every field, as far as the wire shows it. -/
structure Event.SameOnWire (first second : Event) : Prop where
  id : first.id = second.id
  kind : first.kind = second.kind
  severity : first.severity = second.severity
  occurredAt : first.occurredAt = second.occurredAt
  serviceID : first.serviceID = second.serviceID
  attributes : ∀ key, (first.attributes.lookup key).map AttrValue.wire =
    (second.attributes.lookup key).map AttrValue.wire
  series : first.series = second.series

/-- Two batches that agree in every field, as far as the wire shows it. -/
structure IngestBatch.SameOnWire (first second : IngestBatch) : Prop where
  specVersion : first.specVersion = second.specVersion
  resource : ∀ key, first.resource.attributes.lookup key = second.resource.attributes.lookup key
  agent : first.agent = second.agent
  captureMode : first.captureMode = second.captureMode
  flushedAt : first.flushedAt = second.flushedAt
  events : List.Forall₂ Event.SameOnWire first.events second.events

theorem mapMembers_attrValue_eq_iff {first second : Attributes} :
    mapMembers AttrValue.json first = mapMembers AttrValue.json second ↔
      ∀ key, (first.lookup key).map AttrValue.wire = (second.lookup key).map AttrValue.wire := by
  rw [mapMembers_eq_iff]
  refine forall_congr' fun key ↦ ?_
  have hcompose : ∀ held : Option AttrValue,
      held.map AttrValue.json = (held.map AttrValue.wire).map WireValue.json := by
    intro held
    cases held <;> rfl
  rw [hcompose, hcompose]
  exact (Option.map_injective WireValue.json_injective).eq_iff

theorem mapMembers_string_eq_iff {first second : StringMap} :
    mapMembers JsonOf.string first = mapMembers JsonOf.string second ↔
      ∀ key, first.lookup key = second.lookup key := by
  have hstring : Function.Injective (@JsonOf.string String) := fun _ _ hsame ↦
    JsonOf.string.inj hsame
  rw [mapMembers_eq_iff]
  exact forall_congr' fun key ↦ (Option.map_injective hstring).eq_iff

theorem flatStringMap_eq_iff {first second : StringMap} :
    flatStringMap (some first) = flatStringMap (some second) ↔
      ∀ key, first.lookup key = second.lookup key := by
  rw [flatStringMap, flatStringMap, JsonOf.object.injEq, mapMembers_string_eq_iff]

theorem map_textRunes_injective :
    Function.Injective (JsonOf.map textRunes : Json → JsonOf Runes) :=
  JsonOf.map_injective replacedText_textRunes

theorem series_json_injective : Function.Injective Series.json := by
  intro first second hsame
  have hmembers := JsonOf.object.inj hsame
  simp only [List.cons.injEq, Prod.mk.injEq, true_and, and_true, intJson_injective.eq_iff]
    at hmembers
  obtain ⟨hcount, hfirst, hlast⟩ := hmembers
  cases first
  cases second
  simp_all

theorem Event.fields_eq_iff {first second : Event} :
    first.fields = second.fields ↔ first.SameOnWire second := by
  have hobject : Function.Injective (@JsonOf.object Runes) := fun _ _ hsame ↦
    JsonOf.object.inj hsame
  simp only [Event.fields, List.cons.injEq, Prod.mk.injEq, true_and, and_true, Option.some.injEq,
    textJson_injective.eq_iff, Kind.text_injective.eq_iff, Severity.text_injective.eq_iff,
    intJson_injective.eq_iff, (omitEmpty_injective hobject).eq_iff, mapMembers_attrValue_eq_iff,
    (Option.map_injective series_json_injective).eq_iff]
  constructor
  · rintro ⟨hid, hkind, hseverity, hoccurred, hservice, hattributes, hseries⟩
    exact ⟨hid, hkind, hseverity, hoccurred, hservice, hattributes, hseries⟩
  · intro hsame
    exact ⟨hsame.id, hsame.kind, hsame.severity, hsame.occurredAt, hsame.serviceID,
      hsame.attributes, hsame.series⟩

theorem Event.json_eq_iff {first second : Event} :
    first.json = second.json ↔ first.SameOnWire second := by
  have hnodup : (first.fields.map Prod.fst).Nodup := by
    change ["id", "kind", "severity", "occurred_at", "service_id", "attributes", "series"].Nodup
    decide
  have hnames : first.fields.map Prod.fst = second.fields.map Prod.fst := rfl
  rw [Event.json, Event.json, JsonOf.object.injEq, structMembers_eq_iff hnames hnodup,
    Event.fields_eq_iff]

theorem map_event_json_eq_iff {first second : List Event} :
    first.map Event.json = second.map Event.json ↔ List.Forall₂ Event.SameOnWire first second := by
  rw [← List.forall₂_eq_eq_eq, List.forall₂_map_left_iff, List.forall₂_map_right_iff]
  simp only [Event.json_eq_iff]

theorem Agent.json_injective : Function.Injective Agent.json := by
  intro first second hsame
  have hmembers := JsonOf.object.inj hsame
  simp only [List.cons.injEq, Prod.mk.injEq, true_and, and_true, textJson_injective.eq_iff,
    AgentSurface.text_injective.eq_iff] at hmembers
  obtain ⟨hversion, hworkspace, hsurface⟩ := hmembers
  cases first
  cases second
  subst hversion hworkspace hsurface
  rfl

theorem IngestBatch.json_eq_iff {first second : IngestBatch} :
    first.json = second.json ↔ first.SameOnWire second := by
  have hfields : first.json = second.json ↔
      first.specVersion = second.specVersion ∧ first.resource.json = second.resource.json ∧
        first.agent = second.agent ∧ first.captureMode = second.captureMode ∧
        first.flushedAt = second.flushedAt ∧
        first.events.map Event.json = second.events.map Event.json := by
    unfold IngestBatch.json
    simp only [JsonOf.object.injEq, List.cons.injEq, Prod.mk.injEq, true_and, and_true,
      textJson_injective.eq_iff, JsonOf.array.injEq, map_textRunes_injective.eq_iff,
      CaptureMode.text_injective.eq_iff, intJson_injective.eq_iff, Agent.json_injective.eq_iff]
  rw [hfields, map_event_json_eq_iff, Resource.json, Resource.json, flatStringMap_eq_iff]
  constructor
  · rintro ⟨hspec, hresource, hagent, hmode, hflushed, hevents⟩
    exact ⟨hspec, hresource, hagent, hmode, hflushed, hevents⟩
  · intro hsame
    exact ⟨hsame.specVersion, hsame.resource, hsame.agent, hsame.captureMode, hsame.flushedAt,
      hsame.events⟩

/-! ### The round trips -/

/-- A payload is read back as what was printed, with U+FFFD for the bytes of an attribute that are
no UTF-8, and shows every field of its batch. Two batches have the same payload exactly when they
agree in all their fields, as far as the wire shows them. -/
theorem batch_payload_faithful (batch : IngestBatch) :
    parseJson batch.payload = some (batch.json.map replacedText) ∧
      ∀ other : IngestBatch, batch.payload = other.payload ↔ batch.SameOnWire other := by
  refine ⟨parseJson_print_runes (depth_batch_json batch), fun other ↦ ?_⟩
  rw [← IngestBatch.json_eq_iff]
  exact print_runes_injOn.eq_iff (depth_batch_json batch) (depth_batch_json other)

/-- The resource block survives its own encoding. What `UnmarshalJSON` makes of the output of
`MarshalJSON` holds the same entries, a nil map coming back as an empty one, and the output depends
on the entries of the map and not on their order. -/
theorem flatStringMap_round_trip (map : Option StringMap) :
    (∃ read, unmarshalFlatStringMap (marshalFlatStringMap map) = some read ∧
      ∀ key, read.lookup key = (map.getD ∅).lookup key) ∧
    ∀ other : Option StringMap, marshalFlatStringMap map = marshalFlatStringMap other ↔
      ∀ key, (map.getD ∅).lookup key = (other.getD ∅).lookup key := by
  have hflat : ∀ map : Option StringMap, flatStringMap map = flatStringMap (some (map.getD ∅)) := by
    intro map
    cases map <;> rfl
  constructor
  · have hparse := parseJson_print ((depth_flatStringMap map).trans (by decide))
    obtain ⟨read, hread, hlookup⟩ := decodeStringMap_mapMembers (map.getD ∅)
    refine ⟨read, ?_, hlookup⟩
    have hobject : ∃ rest, marshalFlatStringMap map = '{' :: rest := by
      rw [marshalFlatStringMap, hflat]
      exact ⟨_, rfl⟩
    obtain ⟨rest, hrest⟩ := hobject
    have hother : ¬ (marshalFlatStringMap map = [] ∨ marshalFlatStringMap map = "null".toList) := by
      rw [hrest]
      rintro (hnil | hnull)
      · cases hnil
      · exact absurd (List.cons.inj hnull).1 (by decide)
    rw [unmarshalFlatStringMap, if_neg hother, marshalFlatStringMap, hparse, hflat]
    exact hread
  · intro other
    rw [← flatStringMap_eq_iff, ← hflat, ← hflat]
    exact print_text_injOn.eq_iff ((depth_flatStringMap map).trans (by decide))
      ((depth_flatStringMap other).trans (by decide))

end IncidentaryOperator.WireFormat
