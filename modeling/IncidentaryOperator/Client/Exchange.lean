import IncidentaryOperator.Client.Flush
import IncidentaryOperator.Client.Services
import IncidentaryOperator.Client.Topology
import IncidentaryOperator.Foundation.Json

/-!
# The exchanges of the topology and the services client

`HTTPTopologyClient.Report` and `HTTPServicesClient.List` from the answer on: the status, at most
one MiB of the body, and the decoding of the JSON in it. Both ignore the error of the read, so a
body may be cut by the limit or break off with the connection, and what arrived of it is decoded.

A cut body is never taken for another one. What is decoded from the beginning of a body is what
would be decoded from all of it, if all of it could be decoded (`unmarshal_of_prefix`).

Fields of an object are found by their names in any case, as the Go decoder finds them, and a member
that repeats a field is decoded over what the field holds. Over a slice that includes the elements
its array still holds behind the end of the slice, where an earlier member left them.
-/

set_option autoImplicit false
set_option relaxedAutoImplicit false

namespace IncidentaryOperator.Client

open Foundation

/-! ### Decoding -/

/-- `json.Unmarshal`: the decoder sees a text only if all of it is one value. -/
def unmarshal {α : Type} (decode : Json → Option α) (data : String) : Option α :=
  (parseJson data.toList).bind decode

/-- A value decoded over a 64-bit integer. -/
def decodeInt (held : ℤ) : Json → Option ℤ
  | .null => some held
  | .number value => atoi (String.ofList value.literal)
  | _ => none

/-- A value decoded over a string. -/
def decodeText (held : String) : Json → Option String
  | .null => some held
  | .string value => some value
  | _ => none

/-- A value decoded over a Boolean. -/
def decodeBool (held : Bool) : Json → Option Bool
  | .null => some held
  | .bool value => some value
  | _ => none

/-- A member decoded over a `TopologyResponse`. -/
def TopologyResponse.decodeMember (held : TopologyResponse) (member : String × Json) :
    Option TopologyResponse :=
  if equalFold "accepted" member.1 then
    (decodeInt held.accepted member.2).map fun value ↦ { held with accepted := value }
  else if equalFold "created_ghost_services" member.1 then
    (decodeInt held.createdGhostServices member.2).map fun value ↦
      { held with createdGhostServices := value }
  else if equalFold "updated_services" member.1 then
    (decodeInt held.updatedServices member.2).map fun value ↦ { held with updatedServices := value }
  else some held

/-- A value decoded into a new `TopologyResponse`. -/
def decodeTopologyResponse : Json → Option TopologyResponse
  | .null => some {}
  | .object members => members.foldlM TopologyResponse.decodeMember {}
  | _ => none

/-- A member decoded over a `ServiceEntry`. -/
def ServiceEntry.decodeMember (held : ServiceEntry) (member : String × Json) :
    Option ServiceEntry :=
  if equalFold "service_id" member.1 then
    (decodeText held.serviceID member.2).map fun value ↦ { held with serviceID := value }
  else if equalFold "last_seen" member.1 then
    (decodeInt held.lastSeen member.2).map fun value ↦ { held with lastSeen := value }
  else if equalFold "instrumented" member.1 then
    (decodeBool held.instrumented member.2).map fun value ↦ { held with instrumented := value }
  else some held

/-- A value decoded over a `ServiceEntry`. -/
def decodeServiceEntry (held : ServiceEntry) : Json → Option ServiceEntry
  | .null => some held
  | .object members => members.foldlM ServiceEntry.decodeMember held
  | _ => none

/-- A slice of services while it is decoded into: its elements, and what its array still holds
behind them. -/
structure ServiceSlice where
  entries : List ServiceEntry := []
  behind : List ServiceEntry := []

/-- The items of an array decoded over the elements of another as far as they go, and over zero
values from there on. -/
def decodeServiceEntries : List ServiceEntry → List Json → Option (List ServiceEntry)
  | _, [] => some []
  | held, item :: rest => do
    let entry ← decodeServiceEntry (held.head?.getD { serviceID := "" }) item
    let entries ← decodeServiceEntries held.tail rest
    return entry :: entries

/-- The items of an array decoded over a slice, whose array is kept as far as it is longer. Without
items the slice gets a new array. -/
def ServiceSlice.decodeItems (held : ServiceSlice) (items : List Json) : Option ServiceSlice :=
  if items = [] then some {}
  else
    let array := held.entries ++ held.behind
    (decodeServiceEntries array items).map fun entries ↦
      { entries := entries, behind := array.drop entries.length }

/-- A member decoded over the services of a `ServicesResponse`. -/
def decodeServicesMember (held : ServiceSlice) (member : String × Json) : Option ServiceSlice :=
  if equalFold "services" member.1 then
    match member.2 with
    | .null => some {}
    | .array items => held.decodeItems items
    | _ => none
  else some held

/-- A value decoded into a new `ServicesResponse`, by its services. -/
def decodeServicesResponse : Json → Option (List ServiceEntry)
  | .null => some []
  | .object members => (members.foldlM decodeServicesMember {}).map ServiceSlice.entries
  | _ => none

example : decodeServicesResponse (.object [
    ("services", .array [.object [("service_id", .string "api")],
      .object [("Service_ID", .string "web")]]),
    ("services", .array [.object []]),
    ("services", .array [.null, .object [("instrumented", .bool true)]])]) =
      some [{ serviceID := "api" }, { serviceID := "web", instrumented := true }] := by
  decide

/-! ### Exchanges

`describe` is what the JSON decoder says of a body it rejects. -/

/-- What comes of a request: it is not built, it gets no response, or it gets one, by its status and
what arrives of its body before it ends or breaks off. -/
inductive Exchange
  | unbuilt (text : String)
  | failed (text : String)
  | answered (statusCode : ℤ) (arrived : String)

/-- `io.ReadAll(io.LimitReader(resp.Body, 1<<20))` with its error ignored. A character on the limit
is left out. -/
def readBody (arrived : String) : String :=
  clipBytes arrived (2 ^ 20)

section Exchanges

variable (describe : String → String)

/-- `HTTPTopologyClient.Report` of a report that is not nil, from the request on. -/
def HTTPTopologyClient.report : Exchange → ReportOutcome
  | .unbuilt text => .error s!"client: build topology request: {text}"
  | .failed text => .error s!"client: post topology: {text}"
  | .answered statusCode arrived =>
    let respBody := readBody arrived
    if statusCode < 200 ∨ statusCode ≥ 300 then
      .error s!"topology HTTP {statusCode}: {snippet respBody}"
    else if respBody.utf8ByteSize > 0 then
      match unmarshal decodeTopologyResponse respBody with
      | none => .error s!"client: parse topology response: {describe respBody}"
      | some parsed => .ok parsed
    else .ok {}

/-- `HTTPServicesClient.List`, from the request on. -/
def HTTPServicesClient.list : Exchange → ServicesOutcome
  | .unbuilt text => .error s!"client: build services request: {text}"
  | .failed text => .error s!"client: get services: {text}"
  | .answered statusCode arrived =>
    let body := readBody arrived
    if statusCode < 200 ∨ statusCode ≥ 300 then
      .error s!"services HTTP {statusCode}: {snippet body}"
    else
      match unmarshal decodeServicesResponse body with
      | none => .error s!"client: parse services response: {describe body}"
      | some parsed => .ok parsed

end Exchanges

/-! ### Cut bodies -/

/-- One step of `clipBytes`. -/
def clipStep (max : ℕ) (state : ℕ × List Char) (c : Char) : ℕ × List Char :=
  (state.1 + c.utf8Size,
    if state.1 + c.utf8Size ≤ max then state.2 ++ [c] else state.2)

/-- Past the limit nothing is kept any more. -/
theorem foldl_clipStep_of_lt {max size : ℕ} (hsize : max < size) (kept text : List Char) :
    (text.foldl (clipStep max) (size, kept)).2 = kept := by
  induction text generalizing size with
  | nil => rfl
  | cons c rest ih =>
    rw [List.foldl_cons, clipStep, if_neg (by omega)]
    exact ih (by omega)

theorem exists_prefix_foldl_clipStep (max size : ℕ) (kept text : List Char) :
    ∃ more, (text.foldl (clipStep max) (size, kept)).2 = kept ++ more ∧ more <+: text := by
  induction text generalizing size kept with
  | nil => exact ⟨[], (List.append_nil kept).symm, List.prefix_refl _⟩
  | cons c rest ih =>
    rw [List.foldl_cons, clipStep]
    split_ifs with hfits
    · obtain ⟨more, hmore, hbegins⟩ := ih (size + c.utf8Size) (kept ++ [c])
      refine ⟨c :: more, ?_, List.cons_prefix_cons.mpr ⟨rfl, hbegins⟩⟩
      rw [hmore, List.append_assoc]
      rfl
    · refine ⟨[], ?_, List.nil_prefix⟩
      rw [foldl_clipStep_of_lt (by omega), List.append_nil]

theorem toList_readBody (arrived : String) :
    (readBody arrived).toList = (arrived.toList.foldl (clipStep (2 ^ 20)) (0, [])).2 :=
  String.toList_ofList

/-- What is read of a body is the beginning of it. -/
theorem readBody_begins (arrived : String) : (readBody arrived).toList <+: arrived.toList := by
  obtain ⟨kept, hkept, hbegins⟩ := exists_prefix_foldl_clipStep (2 ^ 20) 0 [] arrived.toList
  rw [toList_readBody, hkept]
  exact hbegins

/-- What is decoded from the beginning of a text is what is decoded from all of it, if it can be
decoded, and only blanks are left out. Assumes: the decoder rejects a number. -/
theorem unmarshal_of_prefix {α : Type} {decode : Json → Option α}
    (hnumber : ∀ value, decode (.number value) = none) {part whole : String} {rest : List Char}
    (hread : part.toList ++ rest = whole.toList) {result : α}
    (hwhole : unmarshal decode whole = some result) :
    unmarshal decode part = none ∨
      (unmarshal decode part = some result ∧ ∀ c ∈ rest, isJsonSpace c = true) := by
  unfold unmarshal at hwhole ⊢
  rw [← hread] at hwhole
  obtain ⟨value, hvalue, hdecode⟩ := Option.bind_eq_some_iff.mp hwhole
  cases hpart : parseJson part.toList with
  | none => exact .inl rfl
  | some first =>
    cases hkind : first.isNumber with
    | true =>
      left
      cases first <;> cases hkind
      exact hnumber _
    | false =>
      right
      obtain ⟨rfl, hblank⟩ := parseJson_append hpart hkind hvalue
      exact ⟨hdecode, hblank⟩

/-- A services list that is cut is an error, unless only blanks are cut off. Assumes: all of the
body can be decoded. -/
theorem list_of_prefix (describe : String → String) (statusCode : ℤ) {arrived body : String}
    {rest : List Char} (hbody : (readBody arrived).toList ++ rest = body.toList)
    {entries : List ServiceEntry}
    (hdecoded : unmarshal decodeServicesResponse body = some entries) :
    (∃ text, HTTPServicesClient.list describe (.answered statusCode arrived) = .error text) ∨
      (HTTPServicesClient.list describe (.answered statusCode arrived) = .ok entries ∧
        ∀ c ∈ rest, isJsonSpace c = true) := by
  unfold HTTPServicesClient.list
  dsimp only
  split_ifs
  · exact .inl ⟨_, rfl⟩
  · rcases unmarshal_of_prefix (fun _ ↦ rfl) hbody hdecoded with hnone | ⟨hsome, hblank⟩
    · rw [hnone]
      exact .inl ⟨_, rfl⟩
    · rw [hsome]
      exact .inr ⟨rfl, hblank⟩

end IncidentaryOperator.Client
