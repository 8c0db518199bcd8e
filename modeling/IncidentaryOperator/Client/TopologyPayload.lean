import IncidentaryOperator.Client.Topology
import IncidentaryOperator.WireFormat.Payload

/-!
# Topology reports on the wire

The JSON of a topology report, by the field tags of `internal/client/topology.go`. The cluster UID,
the image, the labels, the annotations and the conditions are left out when they are empty. A report
without workloads, which the discovery loop never sends, has null for them.

A payload reads back as the value it was printed from, and two reports have the same payload exactly
when they agree in every field (`topology_payload_faithful`). The wire does not show the order in
which a map was filled, nor whether a map that has no entries is nil.
-/

set_option autoImplicit false
set_option relaxedAutoImplicit false

namespace IncidentaryOperator.Client

open Foundation WireFormat

/-! ### The JSON of a report -/

/-- The members of the object that annotations are printed as. -/
def finmapMembers (entries : Finmap fun _ : String ↦ String) : List (String × Json) :=
  entries.liftOn (mapMembers JsonOf.string) fun _ _ hperm ↦
    mapMembers_eq_iff.mpr fun _ ↦ by rw [AList.perm_lookup hperm]

/-- The JSON of a condition. -/
def WorkloadCond.json (cond : WorkloadCond) : Json :=
  .object [("type", .string cond.type), ("status", .string cond.status)]

/-- The JSON of the conditions. -/
def conditionsJson (conditions : List WorkloadCond) : Json :=
  .array (conditions.map WorkloadCond.json)

/-- The fields of a workload. -/
def TopologyWorkload.fields (workload : TopologyWorkload) : List (String × Option Json) :=
  [("service_id", some (.string workload.serviceID)),
    ("service_id_source", some (.string workload.serviceIDSource)),
    ("kind", some (.string workload.kind)),
    ("namespace", some (.string workload.namespaceName)),
    ("replicas", some (intJson workload.replicas)),
    ("available_replicas", some (intJson workload.availableReplicas)),
    ("image", omitEmpty "" .string workload.image),
    ("labels", omitEmpty [] .object (mapMembers .string workload.labels)),
    ("annotations", omitEmpty [] .object (finmapMembers (workload.annotations.getD ∅))),
    ("created_at", some (intJson workload.createdAt)),
    ("conditions", omitEmpty [] conditionsJson workload.conditions)]

/-- The JSON of a workload. -/
def TopologyWorkload.json (workload : TopologyWorkload) : Json :=
  .object (structMembers workload.fields)

/-- The JSON of the workloads of a report; a nil slice is null. -/
def workloadsJson : List TopologyWorkload → Json
  | [] => .null
  | workload :: rest => .array (workload.json :: rest.map TopologyWorkload.json)

/-- The fields of a report. -/
def TopologyReport.fields (report : TopologyReport) : List (String × Option Json) :=
  [("cluster_name", some (.string report.clusterName)),
    ("cluster_uid", omitEmpty "" .string report.clusterUID),
    ("observed_at", some (intJson report.observedAt)),
    ("workloads", some (workloadsJson report.workloads))]

/-- The JSON of a report. -/
def TopologyReport.json (report : TopologyReport) : Json :=
  .object (structMembers report.fields)

/-- `json.Marshal` of a report. -/
def TopologyReport.payload (report : TopologyReport) : List Char :=
  report.json.print

/-! ### The nesting of a report -/

theorem depth_conditionsJson (conditions : List WorkloadCond) :
    (conditionsJson conditions).depth ≤ 2 := by
  rw [conditionsJson, JsonOf.depth]
  refine Nat.succ_le_succ (itemsDepth_le fun item hitem ↦ ?_)
  obtain ⟨cond, -, rfl⟩ := List.mem_map.mp hitem
  exact le_rfl

theorem depth_finmapMembers (entries : Finmap fun _ : String ↦ String) :
    (JsonOf.object (finmapMembers entries)).depth ≤ 1 := by
  induction entries using Finmap.induction_on with
  | _ entries => exact depth_flatStringMap (some entries)

theorem depth_workload_json (workload : TopologyWorkload) : workload.json.depth ≤ 3 := by
  have hlabels := depth_flatStringMap (some workload.labels)
  have hannotations := depth_finmapMembers (workload.annotations.getD ∅)
  have hconditions := depth_conditionsJson workload.conditions
  refine Nat.succ_le_succ (membersDepth_structMembers_le ?_)
  simp only [TopologyWorkload.fields, List.forall_mem_cons]
  exact ⟨Nat.zero_le _, Nat.zero_le _, Nat.zero_le _, Nat.zero_le _, Nat.zero_le _, Nat.zero_le _,
    fieldDepth_omitEmpty_le (Nat.zero_le _), fieldDepth_omitEmpty_le (hlabels.trans (by decide)),
    fieldDepth_omitEmpty_le (hannotations.trans (by decide)), Nat.zero_le _,
    fieldDepth_omitEmpty_le hconditions, List.forall_mem_nil _⟩

theorem depth_workloadsJson (workloads : List TopologyWorkload) :
    (workloadsJson workloads).depth ≤ 4 := by
  have hitems : itemsDepth (workloads.map TopologyWorkload.json) ≤ 3 := by
    refine itemsDepth_le fun item hitem ↦ ?_
    obtain ⟨workload, -, rfl⟩ := List.mem_map.mp hitem
    exact depth_workload_json workload
  cases workloads with
  | nil => exact Nat.zero_le _
  | cons workload rest => exact Nat.succ_le_succ hitems

theorem depth_report_json (report : TopologyReport) : report.json.depth ≤ maxNestingDepth := by
  have hreport : report.json.depth ≤ 5 := by
    refine Nat.succ_le_succ (membersDepth_structMembers_le ?_)
    simp only [TopologyReport.fields, List.forall_mem_cons]
    exact ⟨Nat.zero_le _, fieldDepth_omitEmpty_le (Nat.zero_le _), Nat.zero_le _,
      depth_workloadsJson report.workloads, List.forall_mem_nil _⟩
  exact hreport.trans (by decide)

/-! ### What the payload says -/

/-- Two workloads that agree in every field, as far as the wire shows it. -/
structure TopologyWorkload.SameOnWire (first second : TopologyWorkload) : Prop where
  serviceID : first.serviceID = second.serviceID
  serviceIDSource : first.serviceIDSource = second.serviceIDSource
  kind : first.kind = second.kind
  namespaceName : first.namespaceName = second.namespaceName
  replicas : first.replicas = second.replicas
  availableReplicas : first.availableReplicas = second.availableReplicas
  image : first.image = second.image
  labels : ∀ key, first.labels.lookup key = second.labels.lookup key
  annotations : first.annotations.getD ∅ = second.annotations.getD ∅
  createdAt : first.createdAt = second.createdAt
  conditions : first.conditions = second.conditions

/-- Two reports that agree in every field, as far as the wire shows it. -/
structure TopologyReport.SameOnWire (first second : TopologyReport) : Prop where
  clusterName : first.clusterName = second.clusterName
  clusterUID : first.clusterUID = second.clusterUID
  observedAt : first.observedAt = second.observedAt
  workloads : List.Forall₂ TopologyWorkload.SameOnWire first.workloads second.workloads

theorem finmapMembers_injective : Function.Injective finmapMembers := by
  intro first second hsame
  induction first using Finmap.induction_on with
  | _ first =>
    induction second using Finmap.induction_on with
    | _ second =>
      exact Finmap.ext_lookup fun key ↦ mapMembers_string_eq_iff.mp hsame key

theorem workloadCond_json_injective : Function.Injective WorkloadCond.json := by
  intro first second hsame
  have hmembers := JsonOf.object.inj hsame
  simp only [List.cons.injEq, Prod.mk.injEq, true_and, and_true, JsonOf.string.injEq] at hmembers
  obtain ⟨htype, hstatus⟩ := hmembers
  cases first
  cases second
  subst htype hstatus
  rfl

theorem conditionsJson_injective : Function.Injective conditionsJson := fun _ _ hsame ↦
  workloadCond_json_injective.list_map (JsonOf.array.inj hsame)

theorem TopologyWorkload.fields_eq_iff {first second : TopologyWorkload} :
    first.fields = second.fields ↔ first.SameOnWire second := by
  have hstring : Function.Injective (@JsonOf.string String) := fun _ _ hsame ↦
    JsonOf.string.inj hsame
  have hobject : Function.Injective (@JsonOf.object String) := fun _ _ hsame ↦
    JsonOf.object.inj hsame
  simp only [TopologyWorkload.fields, List.cons.injEq, Prod.mk.injEq, true_and, and_true,
    Option.some.injEq, JsonOf.string.injEq, intJson_injective.eq_iff,
    (omitEmpty_injective hstring).eq_iff, (omitEmpty_injective hobject).eq_iff,
    mapMembers_string_eq_iff, finmapMembers_injective.eq_iff,
    (omitEmpty_injective conditionsJson_injective).eq_iff]
  constructor
  · rintro ⟨hservice, hsource, hkind, hnamespace, hreplicas, havailable, himage, hlabels,
      hannotations, hcreated, hconditions⟩
    exact ⟨hservice, hsource, hkind, hnamespace, hreplicas, havailable, himage, hlabels,
      hannotations, hcreated, hconditions⟩
  · intro hsame
    exact ⟨hsame.serviceID, hsame.serviceIDSource, hsame.kind, hsame.namespaceName,
      hsame.replicas, hsame.availableReplicas, hsame.image, hsame.labels, hsame.annotations,
      hsame.createdAt, hsame.conditions⟩

theorem TopologyWorkload.json_eq_iff {first second : TopologyWorkload} :
    first.json = second.json ↔ first.SameOnWire second := by
  have hnames : first.fields.map Prod.fst = second.fields.map Prod.fst := rfl
  have hnodup : (first.fields.map Prod.fst).Nodup := by
    change ["service_id", "service_id_source", "kind", "namespace", "replicas",
      "available_replicas", "image", "labels", "annotations", "created_at", "conditions"].Nodup
    decide
  rw [TopologyWorkload.json, TopologyWorkload.json, JsonOf.object.injEq,
    structMembers_eq_iff hnames hnodup, TopologyWorkload.fields_eq_iff]

theorem workloadsJson_eq_iff {first second : List TopologyWorkload} :
    workloadsJson first = workloadsJson second ↔
      List.Forall₂ TopologyWorkload.SameOnWire first second := by
  cases first with
  | nil =>
    cases second with
    | nil => exact iff_of_true rfl .nil
    | cons workload rest => exact iff_of_false (by rintro ⟨⟩) (by rintro ⟨⟩)
  | cons workload rest =>
    cases second with
    | nil => exact iff_of_false (by rintro ⟨⟩) (by rintro ⟨⟩)
    | cons workload' rest' =>
      rw [workloadsJson, workloadsJson, JsonOf.array.injEq, ← List.map_cons, ← List.map_cons,
        ← List.forall₂_eq_eq_eq, List.forall₂_map_left_iff, List.forall₂_map_right_iff]
      simp only [TopologyWorkload.json_eq_iff]

theorem TopologyReport.json_eq_iff {first second : TopologyReport} :
    first.json = second.json ↔ first.SameOnWire second := by
  have hstring : Function.Injective (@JsonOf.string String) := fun _ _ hsame ↦
    JsonOf.string.inj hsame
  have hnames : first.fields.map Prod.fst = second.fields.map Prod.fst := rfl
  have hnodup : (first.fields.map Prod.fst).Nodup := by
    change ["cluster_name", "cluster_uid", "observed_at", "workloads"].Nodup
    decide
  rw [TopologyReport.json, TopologyReport.json, JsonOf.object.injEq,
    structMembers_eq_iff hnames hnodup]
  simp only [TopologyReport.fields, List.cons.injEq, Prod.mk.injEq, true_and, and_true,
    Option.some.injEq, JsonOf.string.injEq, intJson_injective.eq_iff,
    (omitEmpty_injective hstring).eq_iff, workloadsJson_eq_iff]
  constructor
  · rintro ⟨hname, huid, hobserved, hworkloads⟩
    exact ⟨hname, huid, hobserved, hworkloads⟩
  · intro hsame
    exact ⟨hsame.clusterName, hsame.clusterUID, hsame.observedAt, hsame.workloads⟩

/-- A report is read back as what was printed, and shows every field. Two reports have the same
payload exactly when they agree in all their fields, as far as the wire shows them. -/
theorem topology_payload_faithful (report : TopologyReport) :
    parseJson report.payload = some report.json ∧
      ∀ other : TopologyReport, report.payload = other.payload ↔ report.SameOnWire other := by
  refine ⟨parseJson_print (depth_report_json report), fun other ↦ ?_⟩
  rw [← TopologyReport.json_eq_iff]
  exact print_text_injOn.eq_iff (depth_report_json report) (depth_report_json other)

end IncidentaryOperator.Client
