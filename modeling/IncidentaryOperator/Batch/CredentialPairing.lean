import IncidentaryOperator.Batch.Batcher

/-!
# Credentials under rotation

`Rotate` swaps the clients and the workspace id together, but `flushNow` reads them apart: the agent
producer reads the workspace id when the envelope is built, and `clientFn` reads the client when the
batch is handed over. A `Rotate` in between hands a batch of the old workspace to a client of the
new key, a pair no `Rotate` call supplied, which the server rejects for good.

A run that never rotates to an unpaired key between the two reads keeps every handed batch paired,
and a single rotation there decides it (`handed_pairs_supplied_when_rotations_keep_pair`).
-/

set_option autoImplicit false
set_option relaxedAutoImplicit false

namespace IncidentaryOperator.Batch

open Foundation WireFormat Client

/-- Some `Rotate` call supplied the API key together with the workspace id. -/
def Supplied (rotations : List Rotation) (apiKey workspaceID : String) : Prop :=
  ∃ rotation ∈ rotations, rotation.apiKey = apiKey ∧ rotation.workspaceID = workspaceID

instance (rotations : List Rotation) (apiKey workspaceID : String) :
    Decidable (Supplied rotations apiKey workspaceID) :=
  inferInstanceAs (Decidable (∃ rotation ∈ rotations,
    rotation.apiKey = apiKey ∧ rotation.workspaceID = workspaceID))

/-- What was supplied stays supplied. -/
theorem Supplied.append {rotations : List Rotation} {apiKey workspaceID : String}
    (hsupplied : Supplied rotations apiKey workspaceID) (rotation : Rotation) :
    Supplied (rotations ++ [rotation]) apiKey workspaceID := by
  obtain ⟨supplier, hmem, hpair⟩ := hsupplied
  exact ⟨supplier, List.mem_append_left _ hmem, hpair⟩

/-- One more `Rotate` call supplies its own pair. -/
theorem supplied_append_iff {rotations : List Rotation} {rotation : Rotation}
    {apiKey workspaceID : String} :
    Supplied (rotations ++ [rotation]) apiKey workspaceID ↔
      Supplied rotations apiKey workspaceID ∨
        (rotation.apiKey = apiKey ∧ rotation.workspaceID = workspaceID) := by
  simp only [Supplied, List.mem_append, List.mem_singleton, or_and_right, exists_or,
    exists_eq_left]

/-- An HTTP client, if this is one, is built from a key that was supplied with the workspace id. -/
def ClientPaired (rotations : List Rotation) (client : IngestClient) (workspaceID : String) :
    Prop :=
  ∀ http, client = .http http → Supplied rotations http.apiKey workspaceID

/-- A paired client stays paired. -/
theorem ClientPaired.append {rotations : List Rotation} {client : IngestClient}
    {workspaceID : String} (hpaired : ClientPaired rotations client workspaceID)
    (rotation : Rotation) : ClientPaired (rotations ++ [rotation]) client workspaceID :=
  fun http hclient ↦ (hpaired http hclient).append rotation

/-- Every batch handed to an HTTP client carries a workspace id that was supplied with its key. -/
def HandedPaired (sys : System) : Prop :=
  ∀ handoff ∈ sys.history.handed,
    ClientPaired sys.history.rotations handoff.client handoff.batch.agent.workspaceID

/-- A `Rotate` call after the envelope is built and before its client is resolved has no key, or the
workspace id of the envelope, or a key that was supplied with that id before. -/
def RotationKeepsPair (sys : System) : Action → Prop
  | .rotate rotation =>
    ∀ trigger batch, sys.loop = .prepared trigger batch →
      rotation.apiKey = "" ∨ rotation.workspaceID = batch.agent.workspaceID ∨
        Supplied sys.history.rotations rotation.apiKey batch.agent.workspaceID
  | _ => True

/-- The client a rotation installs is paired with a workspace id exactly when the rotation has no
key or the pair was supplied, by it or before. -/
theorem clientPaired_provider_iff {rotations : List Rotation} {rotation : Rotation}
    {workspaceID : String} :
    ClientPaired (rotations ++ [rotation]) rotation.provider.ingest workspaceID ↔
      rotation.apiKey = "" ∨ rotation.workspaceID = workspaceID ∨
        Supplied rotations rotation.apiKey workspaceID := by
  by_cases hkey : rotation.apiKey = ""
  · have hdropping : rotation.provider.ingest = .dropping := by simp [Rotation.provider, hkey]
    simp [ClientPaired, hdropping, hkey]
  · have hhttp : rotation.provider.ingest =
        .http (newHTTPClient rotation.apiKey [.withEndpoint rotation.ingestEP]) := by
      simp [Rotation.provider, hkey]
    have honly : ClientPaired (rotations ++ [rotation]) rotation.provider.ingest workspaceID ↔
        Supplied (rotations ++ [rotation]) rotation.apiKey workspaceID := by
      simp [ClientPaired, hhttp]
    rw [honly, supplied_append_iff]
    simp only [hkey, true_and, false_or]
    exact or_comm

/-! ### The invariant -/

/-- The provider's client is paired with its workspace id, the client a prepared batch would be
handed to is paired with the workspace id of the batch, and the handed batches are paired. -/
structure PairInvariant (sys : System) : Prop where
  current : ClientPaired sys.history.rotations sys.provider.ingest sys.provider.workspaceID
  prepared : ∀ trigger batch, sys.loop = .prepared trigger batch →
    ClientPaired sys.history.rotations sys.provider.ingest batch.agent.workspaceID
  handed : HandedPaired sys

/-- Outside the window between the two reads nothing has to be paired with the provider's client. -/
theorem resume_ne_prepared (trigger trigger' : Trigger) (batch : IngestBatch) :
    trigger.resume ≠ .prepared trigger' batch := by
  cases trigger <;> simp [Trigger.resume]

/-- With one more batch handed over, all are paired exactly when that one is. Assumes: the batches
handed so far are paired. -/
theorem HandedPaired.handBatch {sys : System} (hhanded : HandedPaired sys) {trigger : Trigger}
    {batch : IngestBatch} :
    HandedPaired (sys.handBatch trigger batch) ↔
      ClientPaired sys.history.rotations sys.provider.ingest batch.agent.workspaceID := by
  constructor
  · intro hafter
    exact hafter _ (List.mem_append_right _ (List.mem_singleton.mpr rfl))
  · intro hpaired
    exact List.forall_mem_append.mpr ⟨hhanded, List.forall_mem_singleton.mpr hpaired⟩

/-- A further rotation keeps the batches handed so far paired. -/
theorem HandedPaired.rotateTo {sys : System} (hhanded : HandedPaired sys) (rotation : Rotation) :
    HandedPaired (sys.rotateTo rotation) :=
  fun handoff hhandoff ↦ (hhanded handoff hhandoff).append rotation

/-- A step that meets the condition keeps the invariant. -/
theorem PairInvariant.transition {sys next : System} {action : Action} (hinv : PairInvariant sys)
    (hkeeps : RotationKeepsPair sys action) (hstep : Transition sys action next) :
    PairInvariant next := by
  cases hstep with
  | ticked hloop => exact ⟨hinv.current, fun _ _ hloop' ↦ (nomatch hloop'), hinv.handed⟩
  | tokenTaken hloop htoken =>
    exact ⟨hinv.current, fun _ _ hloop' ↦ (nomatch hloop'), hinv.handed⟩
  | doneReceived hloop hcancelled =>
    exact ⟨hinv.current, fun _ _ hloop' ↦ (nomatch hloop'), hinv.handed⟩
  | skipped trigger hloop hempty =>
    exact ⟨hinv.current, fun _ _ hloop' ↦ absurd hloop' (resume_ne_prepared _ _ _), hinv.handed⟩
  | swappedOut trigger hloop hbuffer =>
    exact ⟨hinv.current, fun _ _ hloop' ↦ (nomatch hloop'), hinv.handed⟩
  | built trigger events resource flushedAt hloop =>
    refine ⟨hinv.current, ?_, hinv.handed⟩
    rintro _ _ ⟨rfl, rfl⟩
    exact hinv.current
  | handedOver trigger batch hloop =>
    refine ⟨hinv.current, fun _ _ hloop' ↦ (nomatch hloop'), ?_⟩
    exact hinv.handed.handBatch.mpr (hinv.prepared trigger batch hloop)
  | completed trigger client batch answer dropped hloop hdropped =>
    exact ⟨hinv.current, fun _ _ hloop' ↦ absurd hloop' (resume_ne_prepared _ _ _), hinv.handed⟩
  | rotated rotation =>
    refine ⟨?_, ?_, hinv.handed.rotateTo rotation⟩
    · exact clientPaired_provider_iff.mpr
        (Or.inr (Or.inl (Rotation.provider_workspaceID rotation).symm))
    · intro trigger batch hloop
      exact clientPaired_provider_iff.mpr (hkeeps trigger batch hloop)
  | called | returnedEmpty | shed | admitted | countedShed | signalled | contextEnded =>
    exact ⟨hinv.current, hinv.prepared, hinv.handed⟩

/-- The initial provider is the bootstrap rotation's. -/
theorem pairInvariant_initial (opts : List BatcherOption) (rotation : Rotation) :
    PairInvariant (System.initial opts rotation) := by
  refine ⟨?_, fun _ _ hloop ↦ (nomatch hloop), by simp [HandedPaired, System.initial]⟩
  have hown := (@clientPaired_provider_iff [] rotation rotation.provider.workspaceID).mpr
    (Or.inr (Or.inl (Rotation.provider_workspaceID rotation).symm))
  exact hown

/-! ### The condition on rotations -/

/-- In every run whose rotations keep the pair of a batch under preparation, every batch handed to
an HTTP client carries a workspace id that was supplied together with the client's key. And a
rotation in that window decides it: when the batch is handed over next, all handed batches are
paired exactly when the rotation kept the pair. -/
theorem handed_pairs_supplied_when_rotations_keep_pair (sys : System) :
    (batcherMachine.ReachableUnder RotationKeepsPair sys → HandedPaired sys) ∧
    (∀ trigger batch rotation, HandedPaired sys → sys.loop = .prepared trigger batch →
      (HandedPaired ((sys.rotateTo rotation).handBatch trigger batch) ↔
        RotationKeepsPair sys (.rotate rotation))) := by
  constructor
  · intro hreach
    refine (hreach.invariant (motive := PairInvariant) ?_
      fun state action next _ hinv hkeeps hnext ↦
        hinv.transition hkeeps (transition_of_step hnext)).handed
    rintro state ⟨opts, rotation, rfl⟩
    exact pairInvariant_initial opts rotation
  · intro trigger batch rotation hhanded hloop
    rw [(hhanded.rotateTo rotation).handBatch]
    have hinstalled : ClientPaired (sys.rotateTo rotation).history.rotations
        (sys.rotateTo rotation).provider.ingest batch.agent.workspaceID ↔ _ :=
      clientPaired_provider_iff
    rw [hinstalled]
    constructor
    · rintro hpair trigger' batch' hloop'
      obtain ⟨rfl, rfl⟩ := Loop.prepared.inj (hloop.symm.trans hloop')
      exact hpair
    · intro hkeeps
      exact hkeeps trigger batch hloop

/-- Credentials of another workspace. -/
def otherWorkspace : Rotation where
  apiKey := "sk_live_2"
  workspaceID := "org_2"

/-- The run of one flush up to the building of its envelope. -/
def preparedRun : List Action :=
  enqueueRun [podStarted] ++ [.receiveTick, .swap, .build {} 1]

/-- A rotation that keeps the workspace, in the window: the batch goes out paired. -/
theorem handed_pairs_supplied_when_rotations_keep_pair_sameWorkspace :
    ∃ sys trigger batch, batcherMachine.Reachable sys ∧ sys.loop = .prepared trigger batch ∧
      HandedPaired ((sys.rotateTo { bootstrap with apiKey := "sk_live_2" }).handBatch
        trigger batch) := by
  have hrun : ∃ sys, batcherMachine.replay (System.initial [] bootstrap) preparedRun = some sys ∧
      sys.history.handed = [] ∧
      ∃ trigger batch, sys.loop = .prepared trigger batch ∧ batch.agent.workspaceID = "org_1" :=
    ⟨_, rfl, rfl, _, _, rfl, rfl⟩
  obtain ⟨sys, hreplay, hnone, trigger, batch, hloop, hworkspace⟩ := hrun
  have hreach := reachable_of_run hreplay
  refine ⟨sys, trigger, batch, hreach, hloop, ?_⟩
  refine ((handed_pairs_supplied_when_rotations_keep_pair sys).2 trigger batch _
    (by simp [HandedPaired, hnone]) hloop).mpr ?_
  intro trigger' batch' hloop'
  obtain ⟨rfl, rfl⟩ := Loop.prepared.inj (hloop.symm.trans hloop')
  exact Or.inr (Or.inl hworkspace.symm)

/-- A rotation to another workspace in the window: the batch of the old workspace is handed to the
client of the new key. -/
theorem rotation_in_window_mixes_pair : ∃ sys http handoff, batcherMachine.Reachable sys ∧
    handoff ∈ sys.history.handed ∧ handoff.client = .http http ∧ http.apiKey = "sk_live_2" ∧
    handoff.batch.agent.workspaceID = "org_1" ∧
    ¬ Supplied sys.history.rotations http.apiKey handoff.batch.agent.workspaceID := by
  have hrun : ∃ sys, batcherMachine.replay (System.initial [] bootstrap)
      (preparedRun ++ [.rotate otherWorkspace, .hand]) = some sys ∧
      ∃ http handoff, handoff ∈ sys.history.handed ∧ handoff.client = .http http ∧
        http.apiKey = "sk_live_2" ∧ handoff.batch.agent.workspaceID = "org_1" ∧
        sys.history.rotations = [bootstrap, otherWorkspace] :=
    ⟨_, rfl, _, _, List.mem_singleton.mpr rfl, rfl, rfl, rfl, rfl⟩
  obtain ⟨sys, hreplay, http, handoff, hhanded, hclient, hkey, hworkspace, hrotations⟩ := hrun
  refine ⟨sys, http, handoff, reachable_of_run hreplay, hhanded, hclient, hkey, hworkspace, ?_⟩
  rw [hrotations, hkey, hworkspace]
  decide

end IncidentaryOperator.Batch
