import IncidentaryOperator.Mapper.EdgeTriggering

/-!
# What an OOM event describes

A Pod that fails is reported as `K8S_OOM_KILL` when some container was terminated by the
out-of-memory killer. The container the event describes comes from a second scan, which stops at the
first terminated container whatever its reason, and overwrites the reason of the event with that
container's unless it is empty. The event describes an OOM-killed container exactly when the two
scans agree on everything the event carries (`oomKill_describes_killed_iff`). A sidecar that
terminated first is enough to break it (`sidecar_described_as_oomKill`).
-/

set_option autoImplicit false
set_option relaxedAutoImplicit false

namespace IncidentaryOperator.Mapper

open Foundation WireFormat Kubernetes Identity

/-! ### The two scans -/

/-- The terminated containers of a Pod, each with its termination, in order. -/
def terminatedContainers (pod : Pod) : List (ContainerStatus × ContainerTerminated) :=
  pod.containerStatuses.filterMap fun status ↦ status.terminated.map fun t ↦ (status, t)

/-- The containers that the out-of-memory killer terminated. -/
def oomKilled (pod : Pod) : List (ContainerStatus × ContainerTerminated) :=
  (terminatedContainers pod).filter fun container ↦ container.2.reason = containerReasonOOMKilled

theorem firstTerminated_eq_head (pod : Pod) :
    firstTerminated pod = (terminatedContainers pod).head? :=
  List.head?_filterMap.symm

theorem podContainerOOMKilled_iff (pod : Pod) :
    podContainerOOMKilled pod = true ↔ oomKilled pod ≠ [] := by
  unfold podContainerOOMKilled oomKilled terminatedContainers
  rw [List.any_eq_true, ne_eq, List.filter_eq_nil_iff, not_forall]
  constructor
  · rintro ⟨status, hstatus, hreason⟩
    cases hterminated : status.terminated with
    | none => simp [hterminated] at hreason
    | some terminated =>
      rw [hterminated] at hreason
      refine ⟨(status, terminated), fun hnot ↦ hnot ?_ hreason⟩
      exact List.mem_filterMap.mpr ⟨status, hstatus, by simp [hterminated]⟩
  · rintro ⟨container, hcontainer⟩
    obtain ⟨hmem, hreason⟩ := Classical.not_imp.mp hcontainer
    obtain ⟨status, hstatus, hfound⟩ := List.mem_filterMap.mp hmem
    obtain ⟨terminated, hterminated, rfl⟩ := Option.map_eq_some_iff.mp hfound
    refine ⟨status, hstatus, ?_⟩
    rw [hterminated]
    exact not_not.mp hreason

/-- A Pod with an OOM-killed container has a first terminated one. -/
theorem exists_firstTerminated {pod : Pod} (hkilled : oomKilled pod ≠ []) :
    ∃ found, firstTerminated pod = some found := by
  rw [firstTerminated_eq_head]
  obtain ⟨killed, hmem⟩ := List.exists_mem_of_ne_nil _ hkilled
  have hterminated : terminatedContainers pod ≠ [] :=
    List.ne_nil_of_mem (List.mem_filter.mp hmem).1
  exact ⟨_, List.head?_eq_some_head hterminated⟩

/-! ### The event -/

theorem lookup_podLifecycleEvent (rt : Runtime) (seq : ℕ) (pod : Pod) (kind : Kind)
    (reason : String) (res : Result) {key : String} (hkey : key ≠ "k8s.restart_count") :
    (podLifecycleEvent rt seq pod kind reason res).attributes.lookup key =
      (setTerminatedAttrs (podAttrs pod reason res) pod kind).lookup key := by
  unfold podLifecycleEvent
  dsimp only
  split_ifs
  · exact AList.lookup_insert_ne hkey
  · rfl

theorem lookup_setUnlessEmpty_self (attrs : Attributes) (key text : String) :
    (setUnlessEmpty attrs key text).lookup key =
      if text = "" then attrs.lookup key else some (.str text) := by
  unfold setUnlessEmpty
  by_cases hempty : text = ""
  · simp [hempty]
  · rw [if_pos hempty, if_neg hempty]
    exact AList.lookup_insert _

/-- The first of the finish time of a container, the creation time of its Pod and the clock that is
not zero. -/
def finishTimeOr (rt : Runtime) (seq : ℕ) (pod : Pod) (terminated : ContainerTerminated) : ℤ :=
  if timeToUnixNano terminated.finishedAt ≠ 0 then timeToUnixNano terminated.finishedAt
  else if timeToUnixNano pod.metadata.creationTimestamp ≠ 0 then
    timeToUnixNano pod.metadata.creationTimestamp
  else rt.now seq

section Scan

variable (rt : Runtime) (seq : ℕ) (reason : String) (res : Result) {pod : Pod}
  {found : ContainerStatus × ContainerTerminated} (hfound : firstTerminated pod = some found)

include hfound

/-- The reason is overwritten by the one of the first terminated container, unless it is empty. -/
theorem lookup_reason_oomKill :
    (podLifecycleEvent rt seq pod .k8sOOMKill reason res).attributes.lookup "k8s.reason" =
      some (.str (if found.2.reason = "" then reason else found.2.reason)) := by
  rw [lookup_podLifecycleEvent rt seq pod _ reason res (by decide)]
  simp only [setTerminatedAttrs, hfound]
  rw [AList.lookup_insert_ne (by decide), lookup_setUnlessEmpty_of_ne _ _ (by decide),
    lookup_setUnlessEmpty_self]
  split_ifs with hempty
  · simp only [podAttrs]
    rw [lookup_setUnlessEmpty_of_ne _ _ (by decide), lookup_setUnlessEmpty_of_ne _ _ (by decide),
      lookup_setUnlessEmpty_of_ne _ _ (by decide)]
    exact AList.lookup_insert _
  · rfl

theorem lookup_containerName_oomKill :
    (podLifecycleEvent rt seq pod .k8sOOMKill reason res).attributes.lookup
        "k8s.container.name" =
      if found.1.name = "" then none else some (.str found.1.name) := by
  rw [lookup_podLifecycleEvent rt seq pod _ reason res (by decide)]
  simp only [setTerminatedAttrs, hfound]
  rw [AList.lookup_insert_ne (by decide), lookup_setUnlessEmpty_self,
    lookup_setUnlessEmpty_of_ne _ _ (by decide)]
  congr 1
  simp only [podAttrs]
  rw [lookup_setUnlessEmpty_of_ne _ _ (by decide), lookup_setUnlessEmpty_of_ne _ _ (by decide),
    lookup_setUnlessEmpty_of_ne _ _ (by decide)]
  iterate 4 rw [AList.lookup_insert_ne (by decide)]
  exact AList.lookup_empty _

theorem lookup_exitCode_oomKill :
    (podLifecycleEvent rt seq pod .k8sOOMKill reason res).attributes.lookup "k8s.exit_code" =
      some (.int found.2.exitCode) := by
  rw [lookup_podLifecycleEvent rt seq pod _ reason res (by decide)]
  simp only [setTerminatedAttrs, hfound]
  exact AList.lookup_insert _

theorem occurredAt_oomKill :
    (podLifecycleEvent rt seq pod .k8sOOMKill reason res).occurredAt =
      finishTimeOr rt seq pod found.2 := by
  change podOccurredAt rt seq pod .k8sOOMKill = _
  unfold podOccurredAt finishTimeOr
  simp only [hfound, Option.map_some, Option.getD_some]
  by_cases hfinish : timeToUnixNano found.2.finishedAt = 0
  · by_cases hcreation : timeToUnixNano pod.metadata.creationTimestamp = 0 <;>
      simp [hfinish, hcreation]
  · simp [hfinish]

end Scan

/-! ### Agreement of the scans -/

/-- An event describes a terminated container: it carries its name, its exit code and, when it has
one, its finish time. An empty name is not set. -/
structure Describes (ev : Event) (container : ContainerStatus × ContainerTerminated) : Prop where
  name_eq : ev.attributes.lookup "k8s.container.name" =
    if container.1.name = "" then none else some (.str container.1.name)
  exitCode_eq : ev.attributes.lookup "k8s.exit_code" = some (.int container.2.exitCode)
  occurredAt_eq : container.2.finishedAt.isZero = false →
    ev.occurredAt = timeToUnixNano container.2.finishedAt

/-- A terminated container cannot be told from an OOM-killed one by what an OOM event carries. An
empty reason leaves the one already chosen, and a missing finish time falls back to the creation of
the Pod and to the clock. -/
structure PassesForKilled (rt : Runtime) (seq : ℕ) (pod : Pod)
    (found killed : ContainerStatus × ContainerTerminated) : Prop where
  reason_eq : found.2.reason = containerReasonOOMKilled ∨ found.2.reason = ""
  name_eq : found.1.name = killed.1.name
  exitCode_eq : found.2.exitCode = killed.2.exitCode
  time_eq : killed.2.finishedAt.isZero = false →
    finishTimeOr rt seq pod found.2 = timeToUnixNano killed.2.finishedAt

/-- An OOM-killed container passes for itself, unless its finish time is the epoch, which counts as
missing. -/
theorem passesForKilled_self (rt : Runtime) (seq : ℕ) (pod : Pod)
    {killed : ContainerStatus × ContainerTerminated}
    (hreason : killed.2.reason = containerReasonOOMKilled)
    (hfinish : killed.2.finishedAt.isZero = false → timeToUnixNano killed.2.finishedAt ≠ 0) :
    PassesForKilled rt seq pod killed killed where
  reason_eq := .inl hreason
  name_eq := rfl
  exitCode_eq := rfl
  time_eq := fun hset ↦ if_pos (hfinish hset)

/-- Names are told apart by their attributes, an empty one by its absence. -/
theorem nameAttr_inj {first second : String} :
    ((if first = "" then none else some (AttrValue.str first)) =
      if second = "" then none else some (AttrValue.str second)) ↔ first = second := by
  constructor
  · intro hsame
    split_ifs at hsame with hfirst hsecond
    · rw [hfirst, hsecond]
    · exact AttrValue.str_injective (Option.some.inj hsame)
  · rintro rfl
    rfl

theorem describes_iff_passesForKilled (rt : Runtime) (seq : ℕ) (res : Result) {pod : Pod}
    {found : ContainerStatus × ContainerTerminated} (hfound : firstTerminated pod = some found)
    (killed : ContainerStatus × ContainerTerminated) :
    (podLifecycleEvent rt seq pod .k8sOOMKill containerReasonOOMKilled res).attributes.lookup
          "k8s.reason" = some (.str containerReasonOOMKilled) ∧
        Describes (podLifecycleEvent rt seq pod .k8sOOMKill containerReasonOOMKilled res) killed ↔
      PassesForKilled rt seq pod found killed := by
  have hreason : (if found.2.reason = "" then containerReasonOOMKilled else found.2.reason) =
      containerReasonOOMKilled ↔
        found.2.reason = containerReasonOOMKilled ∨ found.2.reason = "" := by
    split_ifs with hempty <;> simp [hempty]
  constructor
  · rintro ⟨hattr, hdescribes⟩
    rw [lookup_reason_oomKill rt seq _ res hfound] at hattr
    refine
      { reason_eq := hreason.mp (AttrValue.str_injective (Option.some.inj hattr))
        name_eq := ?_
        exitCode_eq := ?_
        time_eq := ?_ }
    · have hname := hdescribes.name_eq
      rw [lookup_containerName_oomKill rt seq _ res hfound] at hname
      exact nameAttr_inj.mp hname
    · have hexit := hdescribes.exitCode_eq
      rw [lookup_exitCode_oomKill rt seq _ res hfound] at hexit
      exact AttrValue.int.inj (Option.some.inj hexit)
    · intro hset
      rw [← occurredAt_oomKill rt seq containerReasonOOMKilled res hfound]
      exact hdescribes.occurredAt_eq hset
  · intro hpasses
    refine ⟨?_, ?_, ?_, ?_⟩
    · rw [lookup_reason_oomKill rt seq _ res hfound, hreason.mpr hpasses.reason_eq]
    · rw [lookup_containerName_oomKill rt seq _ res hfound, hpasses.name_eq]
    · rw [lookup_exitCode_oomKill rt seq _ res hfound, hpasses.exitCode_eq]
    · intro hset
      rw [occurredAt_oomKill rt seq _ res hfound]
      exact hpasses.time_eq hset

/-- The event of a Pod that failed with an OOM-killed container carries the reason `OOMKilled` and
describes an OOM-killed container if and only if the first terminated container passes for one.
Assumes: the Pod just failed, some container was OOM-killed, and the Pod resolves. -/
theorem oomKill_describes_killed_iff (rt : Runtime) {reader : Reader} (seq : ℕ) {old : Option Pod}
    {n : Pod} {res : Result} (hold : podPhase old ≠ "Failed") (hphase : n.phase = "Failed")
    (hkilled : oomKilled n ≠ []) (hres : (resolve reader (.pod n)).outcome = .ok res) :
    (∃ ev, fromPodStatusChange rt reader seq old n = .ok [ev] ∧ ev.kind = .k8sOOMKill ∧
      ∃ killed ∈ oomKilled n,
        ev.attributes.lookup "k8s.reason" = some (.str containerReasonOOMKilled) ∧
          Describes ev killed) ↔
    ∃ found, firstTerminated n = some found ∧
      ∃ killed ∈ oomKilled n, PassesForKilled rt seq n found killed := by
  have hemitted : fromPodStatusChange rt reader seq old n =
      .ok [podLifecycleEvent rt seq n .k8sOOMKill containerReasonOOMKilled res] := by
    have hdiffers : (old.map Pod.phase).getD "" ≠ n.phase := by
      rw [hphase]
      exact hold
    have htransition : podTransition n = some (.k8sOOMKill, containerReasonOOMKilled) := by
      simp [podTransition, hphase, (podContainerOOMKilled_iff n).mpr hkilled]
    simp only [fromPodStatusChange, hdiffers, if_false, htransition, buildPodLifecycleEvent, hres]
    rfl
  obtain ⟨found, hfound⟩ := exists_firstTerminated hkilled
  constructor
  · rintro ⟨ev, hev, -, killed, hmem, hdescribes⟩
    rw [hemitted] at hev
    obtain rfl := List.singleton_inj.mp (Except.ok.inj hev)
    exact ⟨found, hfound, killed, hmem,
      (describes_iff_passesForKilled rt seq res hfound killed).mp hdescribes⟩
  · rintro ⟨other, hother, killed, hmem, hpasses⟩
    exact ⟨_, hemitted, rfl, killed, hmem,
      (describes_iff_passesForKilled rt seq res hother killed).mpr hpasses⟩

/-- A container that exited with a code for a reason, ten seconds after the epoch. -/
def exited (name reason : String) (exitCode : ℤ) : ContainerStatus where
  name := name
  terminated := some { reason := reason, exitCode := exitCode, finishedAt := ⟨10000000000⟩ }

/-- A failed Pod with two containers, in this order. -/
def failedPod (first second : ContainerStatus) : Pod where
  metadata := { name := "api-0", namespaceName := "prod" }
  phase := "Failed"
  containerStatuses := [first, second]

/-- The OOM-killed container comes first. -/
theorem oomKill_describes_killed_iff_killed_first :
    ∃ ev, fromPodStatusChange ⟨fun _ ↦ 1, fun _ ↦ "evt"⟩ Reader.empty 0 none
        (failedPod (exited "api" "OOMKilled" 137) (exited "proxy" "Completed" 0)) = .ok [ev] ∧
      ev.kind = .k8sOOMKill ∧
      ∃ killed ∈ oomKilled (failedPod (exited "api" "OOMKilled" 137)
          (exited "proxy" "Completed" 0)),
        ev.attributes.lookup "k8s.reason" = some (.str containerReasonOOMKilled) ∧
          Describes ev killed := by
  refine (oomKill_describes_killed_iff _ 0 (by decide) rfl (by decide) rfl).mpr ?_
  refine ⟨_, rfl, _, List.mem_cons_self, passesForKilled_self _ _ _ rfl fun _ ↦ ?_⟩
  decide

/-- A sidecar that completed comes first: the event of kind `K8S_OOM_KILL` has the reason
`Completed` and the name and the exit code of the sidecar, which was not OOM-killed. -/
theorem sidecar_described_as_oomKill :
    ∃ ev, fromPodStatusChange ⟨fun _ ↦ 1, fun _ ↦ "evt"⟩ Reader.empty 0 none
        (failedPod (exited "proxy" "Completed" 0) (exited "api" "OOMKilled" 137)) = .ok [ev] ∧
      ev.kind = .k8sOOMKill ∧
      ev.attributes.lookup "k8s.reason" = some (.str "Completed") ∧
      ev.attributes.lookup "k8s.container.name" = some (.str "proxy") ∧
      ev.attributes.lookup "k8s.exit_code" = some (.int 0) ∧
      (oomKilled (failedPod (exited "proxy" "Completed" 0)
        (exited "api" "OOMKilled" 137))).map (fun killed ↦ killed.1.name) = ["api"] :=
  ⟨_, rfl, rfl, by decide, by decide, by decide, by decide⟩

end IncidentaryOperator.Mapper
