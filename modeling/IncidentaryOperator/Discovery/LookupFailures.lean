import IncidentaryOperator.Discovery.Loop

/-!
# Lookup failures in topology reports

Each entry of a report is built from a listed object, but its service id comes from a second read of
that object, and an error of the read is dropped: the entry then falls back to the bare name. It is
right exactly when the object carries no service id, or the read returned the object
(`topology_identity_iff`). An annotated workload whose read fails is reported under its name
(`annotated_reported_by_name`).
-/

set_option autoImplicit false
set_option relaxedAutoImplicit false

namespace IncidentaryOperator.Discovery

open Foundation Kubernetes Identity Client

/-- The service id of a workload and where it comes from, by its own metadata: a service-id
annotation that is not empty, else the name. -/
def ownIdentity (metadata : ObjectMeta) : String × String :=
  if metadata.annotations.at serviceIDAnnotation ≠ "" then
    (metadata.annotations.at serviceIDAnnotation, "annotation")
  else (metadata.name, "workload_name")

/-- The service id and its source in the entry of a listed workload. -/
def reportedIdentity (reader : Reader) (w : Workload) : String × String :=
  (fallbackName (resolvedOrEmpty reader w.kind w.metadata).serviceID w.metadata.name,
    sourceString (resolvedOrEmpty reader w.kind w.metadata).source)

/-- The read of a workload answers with an object. -/
def Reread (reader : Reader) (w : Workload) (found : ObjectMeta) : Prop :=
  w.metadata.name ≠ "" ∧
    readWorkload reader w.kind w.metadata.namespaceName w.metadata.name = .ok found

theorem resolvedOrEmpty_of_reread {reader : Reader} {w : Workload} {found : ObjectMeta}
    (hread : Reread reader w found) :
    resolvedOrEmpty reader w.kind w.metadata = Workload.result ⟨w.kind, found⟩ := by
  unfold resolvedOrEmpty
  rw [resolveRef_workload, if_neg hread.1, hread.2]
  rfl

theorem resolvedOrEmpty_of_not_reread {reader : Reader} {w : Workload}
    (hread : ∀ found, ¬ Reread reader w found) : resolvedOrEmpty reader w.kind w.metadata = {} := by
  unfold resolvedOrEmpty
  rw [resolveRef_workload]
  by_cases hname : w.metadata.name = ""
  · rw [if_pos hname]
  · rw [if_neg hname]
    cases houtcome : readWorkload reader w.kind w.metadata.namespaceName w.metadata.name with
    | ok found => exact absurd ⟨hname, houtcome⟩ (hread found)
    | error failure => cases failure <;> rfl

/-- The source of a resolved workload says where its service id comes from. -/
theorem sourceString_result (w : Workload) :
    sourceString w.result.source = (ownIdentity w.metadata).2 := by
  unfold Workload.result resolveFromWorkload ownIdentity StringMap.at
  cases w.metadata.annotations.lookup serviceIDAnnotation with
  | none => rfl
  | some id => by_cases hid : id = "" <;> simp [hid, sourceString]

/-- An object that was read back gives the entry its own identity. -/
theorem reportedIdentity_of_reread {reader : Reader} {w : Workload}
    (hread : Reread reader w w.metadata) : reportedIdentity reader w = ownIdentity w.metadata := by
  have hserviceID : fallbackName (ownServiceID w.metadata) w.metadata.name =
      (ownIdentity w.metadata).1 := by
    unfold fallbackName ownServiceID ownIdentity
    split_ifs <;> simp_all
  unfold reportedIdentity
  rw [resolvedOrEmpty_of_reread hread, Workload.result_serviceID, hserviceID, sourceString_result]

/-- Without an object the entry has the bare name. -/
theorem reportedIdentity_of_not_reread {reader : Reader} {w : Workload}
    (hread : ∀ found, ¬ Reread reader w found) :
    reportedIdentity reader w = (w.metadata.name, "workload_name") := by
  unfold reportedIdentity
  rw [resolvedOrEmpty_of_not_reread hread]
  rfl

theorem bareName_eq_ownIdentity_iff (metadata : ObjectMeta) :
    (metadata.name, "workload_name") = ownIdentity metadata ↔
      metadata.annotations.at serviceIDAnnotation = "" := by
  unfold ownIdentity
  split_ifs with hannotated
  · simp [hannotated]
  · simp [not_not.mp hannotated]

/-- One entry. Assumes: a read that succeeds returns the listed object. -/
theorem reportedIdentity_eq_iff {reader : Reader} {w : Workload}
    (hsame : ∀ found, Reread reader w found → found = w.metadata) :
    reportedIdentity reader w = ownIdentity w.metadata ↔
      (w.metadata.annotations.at serviceIDAnnotation ≠ "" → Reread reader w w.metadata) := by
  by_cases hread : Reread reader w w.metadata
  · simp [reportedIdentity_of_reread hread, hread]
  · have hnone : ∀ found, ¬ Reread reader w found := by
      intro found hfound
      have heq := hsame found hfound
      rw [heq] at hfound
      exact hread hfound
    rw [reportedIdentity_of_not_reread hnone, bareName_eq_ownIdentity_iff]
    simp [hread]

/-- The entries of a report carry the service ids of the listed objects and their sources if and
only if every eligible workload with a service-id annotation is read back. Assumes: the read of a
listed workload returns that object, or fails in any way. -/
theorem topology_identity_iff (excludes : Finset String) {reader : Reader} {deps : List Deployment}
    {sts : List StatefulSet} {ds : List DaemonSet}
    (hsame : ∀ w ∈ listedWorkloads deps sts ds, ∀ found,
      readWorkload reader w.kind w.metadata.namespaceName w.metadata.name = .ok found →
        found = w.metadata) :
    (∃ entries, collectWorkloads excludes reader ⟨.ok deps, .ok sts, .ok ds⟩ = .ok entries ∧
      entries.map (fun entry ↦ (entry.serviceID, entry.serviceIDSource)) =
        ((listedWorkloads deps sts ds).filter fun w ↦ eligible excludes w.metadata).map
          fun w ↦ ownIdentity w.metadata) ↔
    ∀ w ∈ listedWorkloads deps sts ds, eligible excludes w.metadata = true →
      w.metadata.annotations.at serviceIDAnnotation ≠ "" →
        w.metadata.name ≠ "" ∧
          readWorkload reader w.kind w.metadata.namespaceName w.metadata.name =
            .ok w.metadata := by
  have hcollect : collectWorkloads excludes reader ⟨.ok deps, .ok sts, .ok ds⟩ =
      .ok (eligibleWorkloads excludes reader deps sts ds) :=
    collectWorkloads_eq_ok.mpr ⟨deps, sts, ds, rfl, rfl⟩
  have hentries := map_eligibleWorkloads reader
    (fun entry ↦ (entry.serviceID, entry.serviceIDSource)) (reportedIdentity reader)
    (fun _ _ _ _ _ _ ↦ rfl) excludes deps sts ds
  have helements : ((eligibleWorkloads excludes reader deps sts ds).map
        fun entry ↦ (entry.serviceID, entry.serviceIDSource)) =
      ((listedWorkloads deps sts ds).filter fun w ↦ eligible excludes w.metadata).map
        (fun w ↦ ownIdentity w.metadata) ↔
      ∀ w ∈ listedWorkloads deps sts ds, eligible excludes w.metadata = true →
        w.metadata.annotations.at serviceIDAnnotation ≠ "" → Reread reader w w.metadata := by
    rw [hentries, List.map_inj_left]
    simp only [List.mem_filter, and_imp]
    refine forall₂_congr fun w hw ↦ imp_congr_right fun _ ↦ ?_
    exact reportedIdentity_eq_iff fun found hfound ↦ hsame w hw found hfound.2
  refine Iff.trans ?_ helements
  constructor
  · rintro ⟨entries, hok, hidentities⟩
    rw [hcollect] at hok
    rwa [← Except.ok.inj hok] at hidentities
  · exact fun hidentities ↦ ⟨_, hcollect, hidentities⟩

/-- A Deployment of the name `api` with a service id of its own. -/
def annotatedDeployment : Deployment where
  metadata :=
    { name := "api"
      namespaceName := "prod"
      annotations := AList.singleton serviceIDAnnotation "checkout" }

/-- A reader that answers every read of a Deployment in the same way. -/
def deploymentReader (answer : Except ReadError Deployment) : Reader :=
  { Reader.empty with deployment := fun _ _ ↦ answer }

theorem topology_identity_iff_reread :
    ∃ entries, collectWorkloads ∅ (deploymentReader (.ok annotatedDeployment))
      ⟨.ok [annotatedDeployment], .ok [], .ok []⟩ = .ok entries ∧
        entries.map (fun entry ↦ (entry.serviceID, entry.serviceIDSource)) =
          [("checkout", "annotation")] := by
  have hlisted : ∀ w ∈ listedWorkloads [annotatedDeployment] [] [],
      w = ⟨.deployment, annotatedDeployment.metadata⟩ := fun w hw ↦ List.mem_singleton.mp hw
  refine (topology_identity_iff ∅ fun w hw found hfound ↦ ?_).mpr fun w hw _ _ ↦ ?_
  · rw [hlisted w hw] at hfound ⊢
    exact (Except.ok.inj hfound).symm
  · rw [hlisted w hw]
    exact ⟨by decide, rfl⟩

/-- The read of the same Deployment times out: the report has it under its bare name. -/
theorem annotated_reported_by_name :
    ∃ entries, collectWorkloads ∅ (deploymentReader (.error (.failed "timeout")))
      ⟨.ok [annotatedDeployment], .ok [], .ok []⟩ = .ok entries ∧
        entries.map (fun entry ↦ (entry.serviceID, entry.serviceIDSource)) =
          [("api", "workload_name")] ∧
        ownIdentity annotatedDeployment.metadata = ("checkout", "annotation") :=
  ⟨_, rfl, by decide, by decide⟩

end IncidentaryOperator.Discovery
