import IncidentaryOperator.Client.Exchange
import IncidentaryOperator.Discovery.Reconciler
import IncidentaryOperator.Foundation.Transducer

/-!
# Services lists that are cut

The reconciler classifies workloads by the services list, and a list that lost its end would turn
registered services into mismatched ones. The client reads at most one MiB of a response and ignores
an error of the read, so the end can be lost. What is left is then no JSON value, unless only blanks
were lost, so a cycle either works with the whole list or fails and leaves the reconciler as it was
(`cut_list_never_misread`).

So a workspace whose list is longer than one MiB is not reconciled at all, cycle after cycle.
-/

set_option autoImplicit false
set_option relaxedAutoImplicit false

namespace IncidentaryOperator.Discovery

open Foundation Kubernetes Client

/-- A response to a services request: its status, the body as the server sends it, with the entries
it lists, and what arrives of it. -/
structure CutResponse where
  statusCode : ℤ
  body : String
  entries : List ServiceEntry
  decoded : unmarshal decodeServicesResponse body = some entries
  arrived : String
  begins : arrived.toList <+: body.toList

/-- What is not read of the body. -/
def CutResponse.unread (response : CutResponse) : List Char :=
  response.body.toList.drop (readBody response.arrived).toList.length

theorem CutResponse.read_append_unread (response : CutResponse) :
    (readBody response.arrived).toList ++ response.unread = response.body.toList := by
  obtain ⟨rest, hrest⟩ := (readBody_begins response.arrived).trans response.begins
  rw [CutResponse.unread, ← hrest, List.drop_left]

/-- A cycle that asks the server: the client it asks with, the response, the three lists and the
clock. -/
structure PolledCycle where
  apiKey : String
  endpoint : String
  response : CutResponse
  listing : Listing
  clock : ℕ → Time

/-- The cycle as it runs, on what arrives of the response. -/
def PolledCycle.cycle (describe : String → String) (poll : PolledCycle) : ReconcilerCycle where
  services := .http poll.apiKey poll.endpoint
  answer := HTTPServicesClient.list describe
    (.answered poll.response.statusCode poll.response.arrived)
  listing := poll.listing
  clock := poll.clock

/-- The cycle on the whole list. -/
def PolledCycle.wholeCycle (poll : PolledCycle) : ReconcilerCycle where
  services := .http poll.apiKey poll.endpoint
  answer := .ok poll.response.entries
  listing := poll.listing
  clock := poll.clock

/-- What a cycle on a cut list may do: fail with nothing changed, or what the whole list leads to,
with nothing but blanks cut off. -/
def NotMisread (step : RunStep Reconciler PolledCycle (Except String Unit)) : Prop :=
  (step.after = step.before ∧ ∃ text, step.output = .error text) ∨
    ((step.after, step.output) = step.before.runOnce step.input.wholeCycle ∧
      ∀ c ∈ step.input.response.unread, isJsonSpace c = true)

theorem notMisread_stepOn (describe : String → String) (r : Reconciler) (poll : PolledCycle) :
    NotMisread (stepOn (fun r poll ↦ r.runOnce (poll.cycle describe)) r poll) := by
  rcases list_of_prefix describe poll.response.statusCode poll.response.read_append_unread
    poll.response.decoded with ⟨text, herror⟩ | ⟨hok, hblank⟩
  · left
    have hrun : r.runOnce (poll.cycle describe) =
        (r, .error s!"reconciler: list services: {text}") := by
      unfold Reconciler.runOnce ReconcilerCycle.registered PolledCycle.cycle
      rw [herror]
      rfl
    simp only [stepOn, hrun]
    exact ⟨trivial, _, rfl⟩
  · right
    have hcycle : poll.cycle describe = poll.wholeCycle := by
      unfold PolledCycle.cycle PolledCycle.wholeCycle
      rw [hok]
    simp only [stepOn, hcycle]
    exact ⟨trivial, hblank⟩

/-- A services list that is cut is never taken for a shorter one. In every run, whatever part of
each response arrives, a cycle fails and leaves the reconciler as it was, or does what it would have
done with the whole list. -/
theorem cut_list_never_misread (describe : String → String) (r : Reconciler)
    (polls : List PolledCycle) :
    ∀ step ∈ stepsFrom (fun r poll ↦ r.runOnce (poll.cycle describe)) r polls, NotMisread step :=
  forall_mem_stepsFrom (fun r poll _ ↦ notMisread_stepOn describe r poll) r

/-- A list that breaks off after its first entry. -/
def brokenOff : CutResponse where
  statusCode := 200
  body := "\x7b\"services\":[\x7b\"service_id\":\"api\",\"instrumented\":true\x7d]\x7d"
  entries := [{ serviceID := "api", instrumented := true }]
  decoded := by decide
  arrived := "\x7b\"services\":[\x7b\"service_id\":\"api\",\"instrumented\":true\x7d"
  begins := by decide

/-- A cycle that gets it, in an empty cluster. -/
def brokenPoll : PolledCycle where
  apiKey := "key"
  endpoint := defaultServicesEndpoint
  response := brokenOff
  listing := { deployments := .ok [], statefulSets := .ok [], daemonSets := .ok [] }
  clock := fun _ ↦ .zero

/-- The cycle fails, and nothing has changed. -/
theorem cut_list_never_misread_brokenOff :
    ∃ step ∈ stepsFrom (fun r poll ↦ r.runOnce (poll.cycle id)) (newReconciler 300) [brokenPoll],
      NotMisread step ∧ step.after = step.before ∧ step.output.isOk = false := by
  refine ⟨_, List.mem_cons_self, ?_⟩
  have hstep := cut_list_never_misread id (newReconciler 300) [brokenPoll] _ List.mem_cons_self
  refine ⟨hstep, ?_⟩
  rcases hstep with ⟨hsame, text, herror⟩ | ⟨-, hblank⟩
  · rw [herror]
    exact ⟨hsame, rfl⟩
  · exact absurd (hblank ']' (by decide)) (by decide)

end IncidentaryOperator.Discovery
