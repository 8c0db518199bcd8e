import IncidentaryOperator.Batch.Batcher
import IncidentaryOperator.Client.Flush
import IncidentaryOperator.Foundation.Brackets

/-!
# Revoked keys

The batcher with the requests of its flushes: between the step that hands a batch to an HTTP client
and the step that completes the flush, the client enters `Flush`, makes its attempts and receives
their answers, interleaved with everything else. Forgetting the requests gives the batcher
(`wireSimulation`).

A key whose request was answered with 401 should not be used again before a `Rotate` call installs
clients. Nothing tells the provider of the answer: `Provider.OnKeyRevoked`, which would install the
stubs, has no caller. So the next flush uses the key again (`revoked_key_reused`). A 401 whose body
cannot be read even counts as a network error and is retried. When neither happens the key is not
used again (`revoked_key_unused_when_heeded`).
-/

set_option autoImplicit false
set_option relaxedAutoImplicit false

namespace IncidentaryOperator.Batch

open Foundation WireFormat Client

/-! ### What goes over the wire -/

/-- A request with a key, the status it was answered with, or a `Rotate` call that installs clients
of a key. -/
inductive WireEvent
  | requested (apiKey : String)
  | answered (apiKey : String) (statusCode : ℤ)
  | installed (apiKey : String)
  deriving DecidableEq

/-- Clients are installed. -/
def WireEvent.Installs (event : WireEvent) : Prop :=
  ∃ apiKey, event = .installed apiKey

/-- A request with the key was answered with 401, and no clients were installed since. -/
def Revoked (log : List WireEvent) (apiKey : String) : Prop :=
  Pending (· = .answered apiKey 401) WireEvent.Installs log

/-- No request is made with a key while it is revoked. -/
def NoReuse (log : List WireEvent) : Prop :=
  ∀ apiKey, AbsentWhilePending (· = .answered apiKey 401) WireEvent.Installs
    (· = .requested apiKey) log

theorem revoked_concat {log : List WireEvent} {event : WireEvent} {apiKey : String} :
    Revoked (log ++ [event]) apiKey ↔
      event = .answered apiKey 401 ∨ (Revoked log apiKey ∧ ¬ event.Installs) :=
  pending_concat

theorem not_revoked_nil (apiKey : String) : ¬ Revoked [] apiKey :=
  not_pending_nil

theorem noReuse_nil : NoReuse [] :=
  fun _ ↦ absentWhilePending_nil

theorem noReuse_concat {log : List WireEvent} {event : WireEvent} :
    NoReuse (log ++ [event]) ↔
      NoReuse log ∧ ∀ apiKey, event = .requested apiKey → ¬ Revoked log apiKey := by
  simp only [NoReuse, absentWhilePending_concat, forall_and]
  rfl

theorem noReuse_request {log : List WireEvent} {apiKey : String} :
    NoReuse (log ++ [.requested apiKey]) ↔ NoReuse log ∧ ¬ Revoked log apiKey := by
  rw [noReuse_concat]
  simp

/-- The key a rotation installs clients of, none for the stubs. -/
def installations (rotation : Rotation) : List WireEvent :=
  if rotation.apiKey = "" then [] else [.installed rotation.apiKey]

/-- The status of an answer, with the key of its request. -/
def answers (apiKey : String) (answer : Answer) : List WireEvent :=
  answer.statusCode.toList.map (.answered apiKey)

theorem NoReuse.installations {log : List WireEvent} (hlog : NoReuse log) (rotation : Rotation) :
    NoReuse (log ++ installations rotation) := by
  unfold Batch.installations
  split_ifs with hkey
  · rwa [List.append_nil]
  · exact noReuse_concat.mpr ⟨hlog, by simp⟩

theorem NoReuse.answers {log : List WireEvent} (hlog : NoReuse log) (apiKey : String)
    (answer : Answer) : NoReuse (log ++ answers apiKey answer) := by
  unfold Batch.answers
  cases answer.statusCode with
  | none => simpa using hlog
  | some status => exact noReuse_concat.mpr ⟨hlog, by simp⟩

/-- A rotation revokes nothing. -/
theorem revoked_of_installations {log : List WireEvent} {rotation : Rotation} {apiKey : String}
    (hrevoked : Revoked (log ++ installations rotation) apiKey) : Revoked log apiKey := by
  unfold installations at hrevoked
  split_ifs at hrevoked with hkey
  · rwa [List.append_nil] at hrevoked
  · rcases revoked_concat.mp hrevoked with hanswered | ⟨hearlier, -⟩
    · cases hanswered
    · exact hearlier

/-- An answer revokes a key only with the status 401. -/
theorem revoked_of_answers {log : List WireEvent} {own apiKey : String} {answer : Answer}
    (hrevoked : Revoked (log ++ answers own answer) apiKey) :
    Revoked log apiKey ∨ answer.statusCode = some 401 := by
  unfold answers at hrevoked
  cases hstatus : answer.statusCode with
  | none =>
    rw [hstatus] at hrevoked
    exact Or.inl (by simpa using hrevoked)
  | some status =>
    rw [hstatus] at hrevoked
    rcases revoked_concat.mp hrevoked with hanswered | ⟨hearlier, -⟩
    · rw [(WireEvent.answered.inj hanswered).2]
      exact Or.inr rfl
    · exact Or.inl hearlier

/-! ### The batcher and its requests -/

/-- The batcher, where the `Flush` of an HTTP client stands, and what went over the wire. -/
structure Wire where
  sys : System
  flight : FlushState := .idle
  log : List WireEvent := []

/-- A step of the batcher, or of the `Flush` its batch was handed to. -/
inductive WireAction
  | batcher (action : Action)
  | enterFlush (now : ℤ) (marshalled : Except String Unit)
  | attempt (pause : Pause)
  | receive (answer : Answer) (ctxErr : Option String)
  | leaveFlush

/-- A step of the batcher other than the completion of a flush. -/
def Wire.moveBatcher (w : Wire) (action : Action) (sys : System) : Wire :=
  match action with
  | .rotate rotation => { w with sys := sys, log := w.log ++ installations rotation }
  | _ => { w with sys := sys }

/-- The head of the loop: an attempt that goes on to wait has made its request. -/
def Wire.makeAttempt (w : Wire) (c : HTTPClient) (call : FlushCall) (pause : Pause) : Wire :=
  match c.attempt call pause with
  | .waiting next => { w with flight := .waiting next, log := w.log ++ [.requested c.apiKey] }
  | other => { w with flight := other }

/-- An answer arrives. -/
def Wire.takeAnswer (w : Wire) (c : HTTPClient) (call : FlushCall) (answer : Answer)
    (ctxErr : Option String) : Wire :=
  { w with
    flight := c.receive call answer ctxErr
    log := w.log ++ answers c.apiKey answer }

/-- What the client has for the batcher: the outcome of an HTTP client that is about to return; the
stub answers by itself. -/
def Wire.outcome (w : Wire) : Option FlushOutcome :=
  match w.sys.loop with
  | .flushing _ (.http _) _ =>
    match w.flight with
    | .returning outcome => some outcome
    | _ => none
  | .flushing _ .dropping _ => some (.ok {})
  | _ => none

/-- One atomic step, `none` when it is not enabled. -/
def Wire.step (w : Wire) : WireAction → Option Wire
  | .batcher (.complete _) => none
  | .batcher action => (w.sys.step action).map (w.moveBatcher action)
  | .enterFlush now marshalled =>
    match w.sys.loop, w.flight with
    | .flushing _ (.http c) _, .idle => some { w with flight := c.enterFlush now marshalled }
    | _, _ => none
  | .attempt pause =>
    match w.sys.loop, w.flight with
    | .flushing _ (.http c) _, .pausing call => some (w.makeAttempt c call pause)
    | _, _ => none
  | .receive answer ctxErr =>
    match w.sys.loop, w.flight with
    | .flushing _ (.http c) _, .waiting call => some (w.takeAnswer c call answer ctxErr)
    | _, _ => none
  | .leaveFlush =>
    match w.outcome with
    | some outcome => (w.sys.step (.complete outcome)).map fun sys ↦
      { w with sys := sys, flight := .idle }
    | none => none

/-- The batcher with its requests as a machine. -/
def wireMachine : Machine Wire WireAction where
  start := fun w ↦ ∃ sys, batcherMachine.start sys ∧ w = { sys := sys }
  step := Wire.step

/-- The cases of an enabled step, with their guards. -/
inductive WireTransition (w : Wire) : WireAction → Wire → Prop
  | moved {action : Action} {sys : System} (hongoing : ∀ outcome, action ≠ .complete outcome)
      (hstep : w.sys.step action = some sys) :
      WireTransition w (.batcher action) (w.moveBatcher action sys)
  | entered {trigger : Trigger} {c : HTTPClient} {batch : IngestBatch} (now : ℤ)
      (marshalled : Except String Unit) (hloop : w.sys.loop = .flushing trigger (.http c) batch)
      (hflight : w.flight = .idle) :
      WireTransition w (.enterFlush now marshalled)
        { w with flight := c.enterFlush now marshalled }
  | attempted {trigger : Trigger} {c : HTTPClient} {batch : IngestBatch} {call : FlushCall}
      (pause : Pause) (hloop : w.sys.loop = .flushing trigger (.http c) batch)
      (hflight : w.flight = .pausing call) :
      WireTransition w (.attempt pause) (w.makeAttempt c call pause)
  | received {trigger : Trigger} {c : HTTPClient} {batch : IngestBatch} {call : FlushCall}
      (answer : Answer) (ctxErr : Option String)
      (hloop : w.sys.loop = .flushing trigger (.http c) batch)
      (hflight : w.flight = .waiting call) :
      WireTransition w (.receive answer ctxErr) (w.takeAnswer c call answer ctxErr)
  | left {outcome : FlushOutcome} {sys : System} (houtcome : w.outcome = some outcome)
      (hstep : w.sys.step (.complete outcome) = some sys) :
      WireTransition w .leaveFlush { w with sys := sys, flight := .idle }

theorem wireTransition_of_step {w next : Wire} {action : WireAction}
    (hstep : w.step action = some next) : WireTransition w action next := by
  cases action with
  | batcher action =>
    by_cases hcomplete : ∃ outcome, action = .complete outcome
    · obtain ⟨outcome, rfl⟩ := hcomplete
      cases hstep
    · have hmoved : (w.sys.step action).map (w.moveBatcher action) = some next := by
        cases action with
        | complete outcome => exact absurd ⟨outcome, rfl⟩ hcomplete
        | _ => exact hstep
      obtain ⟨sys, hsys, rfl⟩ := Option.map_eq_some_iff.mp hmoved
      exact .moved (fun outcome houtcome ↦ hcomplete ⟨outcome, houtcome⟩) hsys
  | enterFlush now marshalled =>
    simp only [Wire.step] at hstep
    split at hstep
    · next hloop hflight =>
      cases hstep
      exact .entered now marshalled hloop hflight
    · cases hstep
  | attempt pause =>
    simp only [Wire.step] at hstep
    split at hstep
    · next hloop hflight =>
      cases hstep
      exact .attempted pause hloop hflight
    · cases hstep
  | receive answer ctxErr =>
    simp only [Wire.step] at hstep
    split at hstep
    · next hloop hflight =>
      cases hstep
      exact .received answer ctxErr hloop hflight
    · cases hstep
  | leaveFlush =>
    simp only [Wire.step] at hstep
    split at hstep
    · next outcome houtcome =>
      obtain ⟨sys, hsys, rfl⟩ := Option.map_eq_some_iff.mp hstep
      exact .left houtcome hsys
    · cases hstep

@[simp] theorem Wire.moveBatcher_sys (w : Wire) (action : Action) (sys : System) :
    (w.moveBatcher action sys).sys = sys := by
  cases action <;> rfl

@[simp] theorem Wire.makeAttempt_sys (w : Wire) (c : HTTPClient) (call : FlushCall)
    (pause : Pause) : (w.makeAttempt c call pause).sys = w.sys := by
  unfold Wire.makeAttempt
  split <;> rfl

/-- Without its requests it is the batcher: the steps of a `Flush` are invisible there, and the
batcher completes with the outcome the `Flush` comes to. -/
def wireSimulation : Simulation wireMachine batcherMachine where
  related := fun w sys ↦ w.sys = sys
  start := by
    rintro w ⟨sys, hstart, rfl⟩
    exact ⟨sys, hstart, rfl⟩
  step := by
    rintro w sys action next rfl hstep
    cases wireTransition_of_step hstep with
    | moved hongoing hsys =>
      exact ⟨_, _, Machine.replay_singleton hsys, Wire.moveBatcher_sys _ _ _⟩
    | entered now marshalled hloop hflight => exact ⟨[], _, rfl, rfl⟩
    | attempted pause hloop hflight => exact ⟨[], _, rfl, Wire.makeAttempt_sys _ _ _ _⟩
    | received answer ctxErr hloop hflight => exact ⟨[], _, rfl, rfl⟩
    | @left outcome sys houtcome hsys =>
      have hcompleted : batcherMachine.step w.sys (.complete outcome) = some sys := hsys
      exact ⟨_, _, Machine.replay_singleton hcompleted, rfl⟩

/-- What is proved of the batcher holds with its requests. -/
theorem reachable_batcher {w : Wire} (hreach : wireMachine.Reachable w) :
    batcherMachine.Reachable w.sys := by
  obtain ⟨sys, hsys, hrelated⟩ := wireSimulation.exists_reachable hreach
  rwa [hrelated]

/-! ### The condition on a step -/

/-- A batch is not handed to a client whose key is revoked, and the body of a 401 can be read. -/
def HeedsRevocation (w : Wire) : WireAction → Prop
  | .batcher .hand => ∀ c, w.sys.provider.ingest = .http c → ¬ Revoked w.log c.apiKey
  | .receive (.unreadable statusCode _) _ => statusCode ≠ 401
  | _ => True

/-- Once `OnKeyRevoked` was called, every hand-off would meet the condition. -/
theorem heedsRevocation_of_onKeyRevoked {w : Wire} {provider : Provider}
    (hprovider : w.sys.provider = provider.onKeyRevoked) :
    HeedsRevocation w (.batcher .hand) := by
  intro c hclient
  rw [hprovider] at hclient
  cases hclient

/-- No request was made with a revoked key, and a `Flush` that can still make one has a key that is
not revoked. -/
structure KeysHeeded (w : Wire) : Prop where
  noReuse : NoReuse w.log
  flight : ∀ trigger c batch, w.sys.loop = .flushing trigger (.http c) batch →
    (∃ outcome, w.flight = .returning outcome) ∨ ¬ Revoked w.log c.apiKey

/-- A step other than a completion finds the batch with its client, or hands it over. -/
theorem flushing_of_transition {sys next : System} {action : Action}
    (hstep : Transition sys action next) (hongoing : ∀ outcome, action ≠ .complete outcome)
    {trigger : Trigger} {client : IngestClient} {batch : IngestBatch}
    (hloop : next.loop = .flushing trigger client batch) :
    sys.loop = .flushing trigger client batch ∨
      (action = .hand ∧ sys.provider.ingest = client) := by
  cases hstep with
  | handedOver trigger' batch' hprepared =>
    obtain ⟨-, hclient, -⟩ := Loop.flushing.inj hloop
    exact Or.inr ⟨rfl, hclient⟩
  | completed trigger' client' batch' answer dropped hflushing hdropped =>
    exact absurd rfl (hongoing answer)
  | skipped trigger' hentered hempty =>
    cases trigger' <;> cases hloop
  | ticked hselecting => cases hloop
  | tokenTaken hselecting htoken => cases hloop
  | doneReceived hselecting hcancelled => cases hloop
  | swappedOut trigger' hentered hbuffer => cases hloop
  | built trigger' events resource flushedAt hswapped => cases hloop
  | called | returnedEmpty | shed | admitted | countedShed | signalled | contextEnded | rotated =>
    exact Or.inl hloop

theorem NoReuse.moveBatcher {w : Wire} (hlog : NoReuse w.log) (action : Action) (sys : System) :
    NoReuse (w.moveBatcher action sys).log := by
  cases action with
  | rotate rotation => exact hlog.installations rotation
  | _ => exact hlog

theorem revoked_of_moveBatcher {w : Wire} {action : Action} {sys : System} {apiKey : String}
    (hrevoked : Revoked (w.moveBatcher action sys).log apiKey) : Revoked w.log apiKey := by
  cases action with
  | rotate rotation => exact revoked_of_installations hrevoked
  | _ => exact hrevoked

@[simp] theorem Wire.moveBatcher_flight (w : Wire) (action : Action) (sys : System) :
    (w.moveBatcher action sys).flight = w.flight := by
  cases action <;> rfl

theorem client_of_flushing {loop : Loop} {trigger trigger' : Trigger} {c c' : HTTPClient}
    {batch batch' : IngestBatch} (hloop : loop = .flushing trigger (.http c) batch)
    (hloop' : loop = .flushing trigger' (.http c') batch') : c' = c := by
  obtain ⟨-, hclient, -⟩ := Loop.flushing.inj (hloop'.symm.trans hloop)
  exact IngestClient.http.inj hclient

/-- Assumes: the client that makes the attempt has a key that is not revoked. -/
theorem KeysHeeded.makeAttempt {w : Wire} (hinv : KeysHeeded w) {trigger : Trigger}
    {c : HTTPClient} {batch : IngestBatch} (hloop : w.sys.loop = .flushing trigger (.http c) batch)
    (hkey : ¬ Revoked w.log c.apiKey) (call : FlushCall) (pause : Pause) :
    KeysHeeded (w.makeAttempt c call pause) := by
  unfold Wire.makeAttempt
  split
  · refine ⟨noReuse_request.mpr ⟨hinv.noReuse, hkey⟩, fun trigger' c' batch' hloop' ↦ ?_⟩
    rw [client_of_flushing hloop hloop']
    refine Or.inr fun hrevoked ↦ ?_
    rcases revoked_concat.mp hrevoked with hanswered | ⟨hearlier, -⟩
    · cases hanswered
    · exact hkey hearlier
  · refine ⟨hinv.noReuse, fun trigger' c' batch' hloop' ↦ ?_⟩
    rw [client_of_flushing hloop hloop']
    exact Or.inr hkey

/-- After an answer the call returns, or its key is still not revoked. Assumes: a 401 comes with a
body that can be read. -/
theorem flight_of_takeAnswer {w : Wire} {c : HTTPClient} (hkey : ¬ Revoked w.log c.apiKey)
    (call : FlushCall) {answer : Answer} {ctxErr : Option String}
    (hheeds : HeedsRevocation w (.receive answer ctxErr)) :
    (∃ outcome, c.receive call answer ctxErr = .returning outcome) ∨
      ¬ Revoked (w.log ++ answers c.apiKey answer) c.apiKey := by
  by_cases hstatus : answer.statusCode = some 401
  · cases answer with
    | failed text => cases hstatus
    | unreadable statusCode text => exact absurd (Option.some.inj hstatus) hheeds
    | read response =>
      exact Or.inl (c.receive_unauthorized call (Option.some.inj hstatus) ctxErr)
  · refine Or.inr fun hrevoked ↦ ?_
    rcases revoked_of_answers hrevoked with hearlier | hanswered
    · exact hkey hearlier
    · exact hstatus hanswered

/-- A step that meets the condition keeps the invariant. -/
theorem KeysHeeded.transition {w next : Wire} {action : WireAction} (hinv : KeysHeeded w)
    (hheeds : HeedsRevocation w action) (hstep : WireTransition w action next) :
    KeysHeeded next := by
  have hkey : ∀ {trigger c batch}, w.sys.loop = .flushing trigger (.http c) batch →
      (∀ outcome, w.flight ≠ .returning outcome) → ¬ Revoked w.log c.apiKey := by
    intro trigger c batch hloop hflight
    rcases hinv.flight trigger c batch hloop with ⟨outcome, hreturning⟩ | hclean
    · exact absurd hreturning (hflight outcome)
    · exact hclean
  cases hstep with
  | @moved action sys hongoing hsys =>
    refine ⟨hinv.noReuse.moveBatcher action sys, fun trigger c batch hloop ↦ ?_⟩
    rw [Wire.moveBatcher_sys] at hloop
    rw [Wire.moveBatcher_flight]
    rcases flushing_of_transition (transition_of_step hsys) hongoing hloop with
      hflushing | ⟨rfl, hclient⟩
    · exact (hinv.flight trigger c batch hflushing).imp_right fun hclean hrevoked ↦
        hclean (revoked_of_moveBatcher hrevoked)
    · exact Or.inr (hheeds c hclient)
  | entered now marshalled hloop hflight =>
    refine ⟨hinv.noReuse, fun trigger' c' batch' hloop' ↦ Or.inr (hkey hloop' ?_)⟩
    simp [hflight]
  | attempted pause hloop hflight =>
    exact hinv.makeAttempt hloop (hkey hloop (by simp [hflight])) _ pause
  | @received trigger c batch call answer ctxErr hloop hflight =>
    refine ⟨hinv.noReuse.answers c.apiKey answer, fun trigger' c' batch' hloop' ↦ ?_⟩
    rw [client_of_flushing hloop hloop']
    exact flight_of_takeAnswer (hkey hloop (by simp [hflight])) call hheeds
  | @left outcome sys houtcome hsys =>
    refine ⟨hinv.noReuse, fun trigger c batch hloop ↦ ?_⟩
    cases transition_of_step hsys with
    | completed trigger' client batch' answer dropped hflushing hdropped =>
      cases trigger' <;> cases hloop

/-- The request of a batch that is handed over, up to its first attempt. Assumes: the provider has
an HTTP client, retries are not negative and the request can be built. -/
theorem log_first_request {w next : Wire} {trigger : Trigger} {batch : IngestBatch}
    {c : HTTPClient} {now : ℤ} {pause : Pause} (hloop : w.sys.loop = .prepared trigger batch)
    (hclient : w.sys.provider.ingest = .http c) (hflight : w.flight = .idle)
    (hretries : 0 ≤ c.maxRetries) (hbuilt : pause.built = .ok ())
    (hreplay : wireMachine.replay w
      [.batcher .hand, .enterFlush now (.ok ()), .attempt pause] = some next) :
    next.log = w.log ++ [.requested c.apiKey] := by
  have hhand : w.step (.batcher .hand) = some { w with sys := w.sys.handBatch trigger batch } := by
    simp [Wire.step, System.step, hloop, Wire.moveBatcher]
  have hattempt : c.attempt { deadline := now + c.maxRetryWindow, backoff := c.initialBackoff }
      pause = .waiting { deadline := now + c.maxRetryWindow, backoff := c.initialBackoff } :=
    HTTPClient.attempt_first hretries rfl hbuilt
  simp only [Machine.replay, wireMachine, hhand] at hreplay
  simp only [Wire.step, System.handBatch, hclient, hflight, HTTPClient.enterFlush,
    Wire.makeAttempt, hattempt, Option.some.injEq] at hreplay
  rw [← hreplay]

/-- A retry after a 401 whose body cannot be read, if it makes its request, uses a revoked key. -/
theorem reuse_of_unreadable {w middle next : Wire} {text : String} {pause : Pause}
    {call : FlushCall}
    (hreceive : w.step (.receive (.unreadable 401 text) none) = some middle)
    (hattempt : middle.step (.attempt pause) = some next) (hwaiting : next.flight = .waiting call) :
    ¬ NoReuse next.log := by
  intro hlog
  cases wireTransition_of_step hreceive with
  | @received trigger c batch earlier answer ctxErr hloop hflight =>
    cases wireTransition_of_step hattempt with
    | @attempted trigger' c' batch' call' pause hloop' hflight' =>
      obtain rfl : c' = c := client_of_flushing hloop hloop'
      have hrevoked : Revoked (w.log ++ answers c'.apiKey (.unreadable 401 text)) c'.apiKey :=
        revoked_concat.mpr (Or.inl rfl)
      unfold Wire.makeAttempt at hlog hwaiting
      split at hlog
      · exact (noReuse_request.mp hlog).2 hrevoked
      · next hother => exact hother _ (by simpa using hwaiting)

/-- In every run whose steps all meet the condition, no request is made with a key after it was
answered with 401 and before clients are installed again. And both parts of the condition decide
what comes next. When a batch is handed to an HTTP client and its first request is made, no key has
been reused exactly if the hand-off met the condition; and a 401 whose body cannot be read is
followed by a request with its key whenever the retry makes one. -/
theorem revoked_key_unused_when_heeded (w : Wire) :
    (wireMachine.ReachableUnder HeedsRevocation w → NoReuse w.log) ∧
    (∀ trigger batch c now pause next, NoReuse w.log → w.sys.loop = .prepared trigger batch →
      w.sys.provider.ingest = .http c → w.flight = .idle → 0 ≤ c.maxRetries →
      pause.built = .ok () →
      wireMachine.replay w [.batcher .hand, .enterFlush now (.ok ()), .attempt pause] =
        some next →
      (NoReuse next.log ↔ HeedsRevocation w (.batcher .hand))) ∧
    (∀ text pause next call, wireMachine.replay w
        [.receive (.unreadable 401 text) none, .attempt pause] = some next →
      next.flight = .waiting call → ¬ NoReuse next.log) := by
  refine ⟨fun hreach ↦ ?_, ?_, ?_⟩
  · have hinv : KeysHeeded w := by
      refine hreach.invariant ?_ fun state action next _ hinv hheeds hnext ↦
        hinv.transition hheeds (wireTransition_of_step hnext)
      rintro state ⟨sys, ⟨opts, rotation, rfl⟩, rfl⟩
      exact ⟨noReuse_nil, fun trigger c batch _ ↦ Or.inr (not_revoked_nil _)⟩
    exact hinv.noReuse
  · intro trigger batch c now pause next hlog hloop hclient hflight hretries hbuilt hreplay
    rw [log_first_request hloop hclient hflight hretries hbuilt hreplay, noReuse_request,
      and_iff_right hlog]
    constructor
    · intro hclean c' hclient'
      rw [hclient] at hclient'
      cases hclient'
      exact hclean
    · intro hheeds
      exact hheeds c hclient
  · intro text pause next call hreplay hwaiting
    obtain ⟨middle, hreceive, hrest⟩ := Machine.replay_cons hreplay
    obtain ⟨last, hattempt, hdone⟩ := Machine.replay_cons hrest
    obtain rfl : last = next := Option.some.inj hdone
    exact reuse_of_unreadable hreceive hattempt hwaiting

/-- One event is enqueued and handed to the client. -/
def handedRun : List Action :=
  enqueueRun [podStarted] ++ [.receiveTick, .swap, .build {} 1, .hand]

/-- One event is enqueued and flushed, up to the answer to the request of the flush. -/
def flushUpTo (statusCode : ℤ) : List WireAction :=
  handedRun.map .batcher ++
    [.enterFlush 0 (.ok ()), .attempt ⟨0, 0, none, .ok ()⟩,
      .receive (.read { statusCode := statusCode }) none]

/-- The batcher at its start. -/
def wireStart : Wire where
  sys := System.initial [] bootstrap

theorem wireStart_start : wireMachine.start wireStart :=
  ⟨_, ⟨[], bootstrap, rfl⟩, rfl⟩

/-- A single flush answered with 401 meets the condition. -/
theorem revoked_key_unused_when_heeded_oneFlush : ∃ w,
    wireMachine.ReachableUnder HeedsRevocation w ∧
    w.log = [.requested "sk_live_1", .answered "sk_live_1" 401] ∧ NoReuse w.log := by
  have hrun : ∃ w, wireMachine.replay wireStart (flushUpTo 401) = some w ∧
      w.log = [.requested "sk_live_1", .answered "sk_live_1" 401] :=
    ⟨_, rfl, rfl⟩
  obtain ⟨w, hreplay, hlog⟩ := hrun
  have halong : wireMachine.Along HeedsRevocation wireStart (flushUpTo 401) := by
    refine ⟨trivial, trivial, trivial, trivial, trivial, trivial, ?_, trivial, trivial, trivial,
      trivial⟩
    exact fun c _ ↦ not_revoked_nil c.apiKey
  have hreach : wireMachine.ReachableUnder HeedsRevocation w :=
    Machine.ReachableUnder.replay (.start wireStart_start) halong hreplay
  exact ⟨w, hreach, hlog, (revoked_key_unused_when_heeded w).1 hreach⟩

/-- Two flushes, the first answered with 401: the second makes a request with the same key, and the
provider still has the client. -/
theorem revoked_key_reused : ∃ w, wireMachine.Reachable w ∧
    w.log = [.requested "sk_live_1", .answered "sk_live_1" 401, .requested "sk_live_1",
      .answered "sk_live_1" 401] ∧
    w.sys.provider = bootstrap.provider ∧ ¬ NoReuse w.log := by
  have hrun : ∃ w, wireMachine.replay wireStart
      (flushUpTo 401 ++ .leaveFlush :: flushUpTo 401) = some w ∧
      w.log = [.requested "sk_live_1", .answered "sk_live_1" 401, .requested "sk_live_1",
        .answered "sk_live_1" 401] ∧ w.sys.provider = bootstrap.provider :=
    ⟨_, rfl, rfl, rfl⟩
  obtain ⟨w, hreplay, hlog, hprovider⟩ := hrun
  refine ⟨w, Machine.reachable_of_replay wireStart_start hreplay, hlog, hprovider, ?_⟩
  rw [hlog]
  intro hnone
  refine hnone "sk_live_1" [.requested "sk_live_1", .answered "sk_live_1" 401] _ _ rfl rfl ?_
  exact ⟨[.requested "sk_live_1"], _, [], rfl, rfl, by simp⟩

end IncidentaryOperator.Batch
