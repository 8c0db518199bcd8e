import IncidentaryOperator.Identity.Resolver
import IncidentaryOperator.WireFormat.Schema

/-!
# Infrastructure mappers

`internal/mapper/infrastructure.go`: from the two event types of Kubernetes, from Nodes,
autoscalers, Pods and Deployment rollouts to the `K8S_*` events of the wire format.

A mapper function mints one id for each event it builds and reads the clock at most once for it, so
the runtime is indexed by the number of the event: `Runtime.newID n` and `Runtime.now n` are what
`ids.NewID` and `time.Now().UnixNano()` return while the `n`-th event of the process is built. A
function that builds several events counts them up from the number it is given. Nothing relates the
readings of the clock to each other, so every clock is covered.

Each emission path chooses its timestamp through its own chain of fallbacks, kept as a function of
its own beside the event it is for.
-/

set_option autoImplicit false
set_option relaxedAutoImplicit false

namespace IncidentaryOperator.Mapper

open Foundation WireFormat Kubernetes Identity

/-- What the process reads from outside while it builds its `n`-th event: the clock and the id
generator. -/
structure Runtime where
  now : ℕ → ℤ
  newID : ℕ → String

/-! ### Reason table and severities -/

/-- A rule of the reason table: the kinds of regarding objects it applies to and the event kind. -/
structure ReasonMapping where
  regardingKinds : List String
  kind : Kind

/-- The termination reason of an out-of-memory kill. -/
def containerReasonOOMKilled : String :=
  "OOMKilled"

/-- `k8sEventReasonMappings`: the closed set of event reasons the operator translates. -/
def k8sEventReasonMappings : List (String × ReasonMapping) :=
  [("BackOff", ⟨["Pod"], .k8sPodCrash⟩),
   ("CrashLoop", ⟨["Pod"], .k8sPodCrash⟩),
   ("Crashed", ⟨["Pod"], .k8sPodCrash⟩),
   ("Unhealthy", ⟨["Pod"], .k8sPodCrash⟩),
   ("Failed", ⟨["Pod"], .k8sPodCrash⟩),
   ("FailedSync", ⟨["Pod"], .k8sPodCrash⟩),
   ("OOMKilling", ⟨["Pod", "Node"], .k8sOOMKill⟩),
   (containerReasonOOMKilled, ⟨["Pod"], .k8sOOMKill⟩),
   ("Evicted", ⟨["Pod"], .k8sEviction⟩),
   ("FailedScheduling", ⟨["Pod"], .k8sScheduleFail⟩),
   ("ErrImagePull", ⟨["Pod"], .k8sImagePullFail⟩),
   ("ImagePullBackOff", ⟨["Pod"], .k8sImagePullFail⟩),
   ("InvalidImageName", ⟨["Pod"], .k8sImagePullFail⟩),
   ("ErrImageNeverPull", ⟨["Pod"], .k8sImagePullFail⟩)]

/-- `matchReason`: the event kind of a reason on a kind of regarding object, if there is one. -/
def matchReason (reason regardingKind : String) : Option Kind :=
  match k8sEventReasonMappings.lookup reason with
  | none => none
  | some mapping =>
    if mapping.regardingKinds.any (fun kind ↦ equalFold kind regardingKind) then some mapping.kind
    else none

/-- `severityForKind`: the one severity of each kind. -/
def severityForKind : Kind → Severity
  | .k8sPodCrash | .k8sOOMKill | .k8sEviction | .k8sScheduleFail | .k8sImagePullFail => .error
  | .k8sNodePressure => .warning
  | .k8sHPAScale | .k8sPodStarted | .k8sPodTerminated | .k8sDeployRollout => .info
  | .deployStarted | .deploySucceeded => .info
  | .deployFailed => .error
  | .deployCancelled | .deployRolledBack => .warning

/-! ### Attribute helpers -/

/-- `truncate`: the bytes of a text, clipped to `max` bytes less one and an ellipsis when it is
longer than `max` bytes. -/
def truncate (text : String) (max : ℕ) : ByteArray :=
  if text.utf8ByteSize ≤ max then text.toByteArray
  else text.toByteArray.extract 0 (max - 1) ++ "…".toByteArray

/-- The guarded assignment `if text != "" { attrs[key] = text }`. -/
def setUnlessEmpty (attrs : Attributes) (key text : String) : Attributes :=
  if text ≠ "" then attrs.insert key (.str text) else attrs

/-- The guarded assignment `if text != "" { attrs[key] = truncate(text, max) }`. -/
def setTruncated (attrs : Attributes) (key text : String) (max : ℕ) : Attributes :=
  if text ≠ "" then attrs.insert key (.bytes (truncate text max)) else attrs

/-- `setPodAttrs`: the pod name when the regarding object is a Pod, in any spelling of the kind. -/
def setPodAttrs (attrs : Attributes) (ref : ObjectReference) : Attributes :=
  if equalFold "Pod" ref.kind ∧ ref.name ≠ "" then attrs.insert "k8s.pod.name" (.str ref.name)
  else attrs

/-- The series block of a repeated event: a count of at least two, the first time the event's own,
the last time never before it. -/
def seriesOf (count lastAt occurredAt : ℤ) : Series where
  count := count
  firstAt := occurredAt
  lastAt := max lastAt occurredAt

/-! ### Event mappers -/

/-- The attributes the two event mappers share, in the source's order of assignment. -/
def regardingAttrs (reason reportingController message : String) (ref : ObjectReference) :
    Attributes :=
  let attrs : Attributes := (∅ : Attributes)
    |>.insert "k8s.reason" (.str reason)
    |>.insert "k8s.resource.kind" (.str ref.kind)
    |>.insert "k8s.reporting_controller" (.str reportingController)
  let attrs := setUnlessEmpty attrs "k8s.namespace.name" ref.namespaceName
  let attrs := setPodAttrs attrs ref
  setTruncated attrs "k8s.message" message 2048

/-- The timestamp chain of `FromK8sEvent`: the event time, else the deprecated first timestamp, else
now. -/
def k8sEventOccurredAt (rt : Runtime) (seq : ℕ) (ev : K8sEvent) : ℤ :=
  let occurredAt :=
    if ev.eventTime.isZero then timeToUnixNano ev.deprecatedFirstTimestamp
    else ev.eventTime.unixNano
  if occurredAt ≤ 0 then rt.now seq else occurredAt

/-- The series block of `FromK8sEvent`, from the nested series alone. -/
def k8sEventSeries (ev : K8sEvent) (occurredAt : ℤ) : Option Series :=
  match ev.series with
  | some series =>
    if series.count ≥ 2 then
      some (seriesOf series.count series.lastObservedTime.unixNano occurredAt)
    else none
  | none => none

/-- The service id of an event: what the resolver found, else the name of the regarding object. -/
def fallbackServiceID (res : Result) (name : String) : String :=
  if res.serviceID = "" then name else res.serviceID

/-- The wire event `FromK8sEvent` builds once the kind and the identity are known. -/
def k8sWireEvent (rt : Runtime) (seq : ℕ) (ev : K8sEvent) (kind : Kind) (res : Result) : Event :=
  let occurredAt := k8sEventOccurredAt rt seq ev
  { id := rt.newID seq
    kind := kind
    severity := severityForKind kind
    occurredAt := occurredAt
    serviceID := fallbackServiceID res ev.regarding.name
    attributes := setUnlessEmpty
      (regardingAttrs ev.reason ev.reportingController ev.note ev.regarding) "k8s.action" ev.action
    series := k8sEventSeries ev occurredAt }

/-- `FromK8sEvent`. -/
def fromK8sEvent (rt : Runtime) (reader : Reader) (seq : ℕ) (ev : K8sEvent) :
    Except String (Option Event) :=
  if ev.reason = "" then .ok none
  else
    match matchReason ev.reason ev.regarding.kind with
    | none => .ok none
    | some kind =>
      let ref := ev.regarding
      match (resolveRef reader ref.kind ref.namespaceName ref.name).outcome with
      | .error text =>
        .error s!"mapper.FromK8sEvent: resolve {ref.namespaceName}/{ref.name}: {text}"
      | .ok res => .ok (some (k8sWireEvent rt seq ev kind res))

/-- The timestamp chain of `FromCoreEvent`: the first timestamp, else the event time, else now. -/
def coreEventOccurredAt (rt : Runtime) (seq : ℕ) (ev : CoreEvent) : ℤ :=
  let first := timeToUnixNano ev.firstTimestamp
  let occurredAt := if first = 0 then ev.eventTime.unixNano else first
  if occurredAt ≤ 0 then rt.now seq else occurredAt

/-- The series block of `FromCoreEvent`: from the top-level count, else from the nested series. -/
def coreEventSeries (ev : CoreEvent) (occurredAt : ℤ) : Option Series :=
  if ev.count ≥ 2 then
    some (seriesOf ev.count (timeToUnixNano ev.lastTimestamp) occurredAt)
  else
    match ev.series with
    | some series =>
      if series.count ≥ 2 then
        some (seriesOf series.count series.lastObservedTime.unixNano occurredAt)
      else none
    | none => none

/-- The wire event `FromCoreEvent` builds once the kind and the identity are known. -/
def coreWireEvent (rt : Runtime) (seq : ℕ) (ev : CoreEvent) (kind : Kind) (res : Result) : Event :=
  let occurredAt := coreEventOccurredAt rt seq ev
  let attrs := regardingAttrs ev.reason ev.reportingController ev.message ev.involvedObject
  let attrs := setUnlessEmpty attrs "k8s.source.component" ev.sourceComponent
  { id := rt.newID seq
    kind := kind
    severity := severityForKind kind
    occurredAt := occurredAt
    serviceID := fallbackServiceID res ev.involvedObject.name
    attributes := setUnlessEmpty attrs "k8s.node.name" ev.sourceHost
    series := coreEventSeries ev occurredAt }

/-- `FromCoreEvent`. -/
def fromCoreEvent (rt : Runtime) (reader : Reader) (seq : ℕ) (ev : CoreEvent) :
    Except String (Option Event) :=
  if ev.reason = "" then .ok none
  else
    match matchReason ev.reason ev.involvedObject.kind with
    | none => .ok none
    | some kind =>
      let ref := ev.involvedObject
      match (resolveRef reader ref.kind ref.namespaceName ref.name).outcome with
      | .error text =>
        .error s!"mapper.FromCoreEvent: resolve {ref.namespaceName}/{ref.name}: {text}"
      | .ok res => .ok (some (coreWireEvent rt seq ev kind res))

/-! ### Node conditions -/

/-- `pressureConditions`: the node conditions that mean pressure when they are true. -/
def pressureConditions : List String :=
  ["MemoryPressure", "DiskPressure", "PIDPressure"]

/-- `findNodeCondition`: the first condition of a type. -/
def findNodeCondition (conds : List NodeCondition) (type : String) : Option NodeCondition :=
  conds.find? (fun cond ↦ cond.type = type)

/-- The timestamp chain of `nodePressureEvent`: the transition, else the heartbeat, else now. -/
def nodePressureOccurredAt (rt : Runtime) (seq : ℕ) (cond : NodeCondition) : ℤ :=
  let transition := timeToUnixNano cond.lastTransitionTime
  let occurredAt := if transition = 0 then timeToUnixNano cond.lastHeartbeatTime else transition
  if occurredAt = 0 then rt.now seq else occurredAt

/-- `nodePressureEvent`. -/
def nodePressureEvent (rt : Runtime) (seq : ℕ) (node : Node) (reason : String)
    (cond : NodeCondition) : Event :=
  let attrs : Attributes := (∅ : Attributes)
    |>.insert "k8s.resource.kind" (.str "Node")
    |>.insert "k8s.node.name" (.str node.metadata.name)
    |>.insert "k8s.reason" (.str reason)
  let attrs := setUnlessEmpty attrs "k8s.condition.reason" cond.reason
  { id := rt.newID seq
    kind := .k8sNodePressure
    severity := severityForKind .k8sNodePressure
    occurredAt := nodePressureOccurredAt rt seq cond
    serviceID := node.metadata.name
    attributes := setTruncated attrs "k8s.message" cond.message 2048 }

/-- The body of the pressure loop: the condition of a type when it is true in the new node and was
not already true in the old one. -/
def pressureTransition (old : Option Node) (new : Node) (type : String) : Option NodeCondition :=
  match findNodeCondition new.conditions type with
  | none => none
  | some newStatus =>
    if newStatus.status ≠ "True" then none
    else
      match old.bind (fun node ↦ findNodeCondition node.conditions type) with
      | some oldStatus => if oldStatus.status = "True" then none else some newStatus
      | none => some newStatus

/-- The readiness test after the loop, inverted: the `Ready` condition when it is present and not
true in the new node and was not already so in the old one. -/
def notReadyTransition (old : Option Node) (new : Node) : Option NodeCondition :=
  match findNodeCondition new.conditions "Ready" with
  | none => none
  | some newReady =>
    if newReady.status = "True" then none
    else
      match old.bind (fun node ↦ findNodeCondition node.conditions "Ready") with
      | some oldReady => if oldReady.status ≠ "True" then none else some newReady
      | none => some newReady

/-- One pass of the pressure loop over the events collected so far. -/
def pressurePass (rt : Runtime) (seq : ℕ) (old : Option Node) (new : Node) (out : List Event)
    (type : String) : List Event :=
  match pressureTransition old new type with
  | some cond => out ++ [nodePressureEvent rt (seq + out.length) new type cond]
  | none => out

/-- `FromNodeConditionChange`. -/
def fromNodeConditionChange (rt : Runtime) (seq : ℕ) (old : Option Node) (new : Node) :
    List Event :=
  let out := pressureConditions.foldl (pressurePass rt seq old new) []
  match notReadyTransition old new with
  | some cond => out ++ [nodePressureEvent rt (seq + out.length) new "NotReady" cond]
  | none => out

/-! ### Autoscaler -/

/-- The timestamp of `FromHPAScale`: the last scale time when the field is set, else now. -/
def hpaOccurredAt (rt : Runtime) (seq : ℕ) (n : HorizontalPodAutoscaler) : ℤ :=
  match n.lastScaleTime with
  | some instant => timeToUnixNano instant
  | none => rt.now seq

/-- The `K8S_HPA_SCALE` event of an autoscaler whose replica count changed. -/
def hpaScaleEvent (rt : Runtime) (seq : ℕ) (old n : HorizontalPodAutoscaler) : Event :=
  let reason := if n.currentReplicas < old.currentReplicas then "ScaleDown" else "ScaleUp"
  let attrs : Attributes := (∅ : Attributes)
    |>.insert "k8s.hpa.name" (.str n.metadata.name)
    |>.insert "k8s.namespace.name" (.str n.metadata.namespaceName)
    |>.insert "k8s.hpa.current_replicas" (.int n.currentReplicas)
    |>.insert "k8s.hpa.desired_replicas" (.int n.desiredReplicas)
    |>.insert "k8s.reason" (.str reason)
  let attrs : Attributes :=
    match n.minReplicas with
    | some replicas => attrs.insert "k8s.hpa.min_replicas" (.int replicas)
    | none => attrs
  { id := rt.newID seq
    kind := .k8sHPAScale
    severity := severityForKind .k8sHPAScale
    occurredAt := hpaOccurredAt rt seq n
    serviceID := if n.scaleTargetName = "" then n.metadata.name else n.scaleTargetName
    attributes := attrs.insert "k8s.hpa.max_replicas" (.int n.maxReplicas) }

/-- `FromHPAScale`. -/
def fromHPAScale (rt : Runtime) (seq : ℕ) (old : Option HorizontalPodAutoscaler)
    (n : HorizontalPodAutoscaler) : Option Event :=
  match old with
  | none => none
  | some old =>
    if old.currentReplicas = n.currentReplicas then none else some (hpaScaleEvent rt seq old n)

/-! ### Pod lifecycle -/

/-- `podContainerOOMKilled`: some container was terminated by the out-of-memory killer. -/
def podContainerOOMKilled (pod : Pod) : Bool :=
  pod.containerStatuses.any fun status ↦
    match status.terminated with
    | some terminated => terminated.reason = containerReasonOOMKilled
    | none => false

/-- The container the termination scan stops at: the first terminated one. -/
def firstTerminated (pod : Pod) : Option (ContainerStatus × ContainerTerminated) :=
  pod.containerStatuses.findSome? fun status ↦ status.terminated.map fun t ↦ (status, t)

/-- The timestamp chain of `buildPodLifecycleEvent`: the start time for a start, the finish time of
the first terminated container for an end, else the creation time, else now. -/
def podOccurredAt (rt : Runtime) (seq : ℕ) (pod : Pod) (kind : Kind) : ℤ :=
  let chosen :=
    match kind with
    | .k8sPodStarted => (pod.startTime.map timeToUnixNano).getD 0
    | .k8sPodTerminated | .k8sOOMKill =>
      ((firstTerminated pod).map fun found ↦ timeToUnixNano found.2.finishedAt).getD 0
    | _ => 0
  let occurredAt := if chosen = 0 then timeToUnixNano pod.metadata.creationTimestamp else chosen
  if occurredAt = 0 then rt.now seq else occurredAt

/-- The attributes the termination scan sets from the container it stops at. -/
def setTerminatedAttrs (attrs : Attributes) (pod : Pod) (kind : Kind) : Attributes :=
  match kind with
  | .k8sPodTerminated | .k8sOOMKill =>
    match firstTerminated pod with
    | some (status, terminated) =>
      let attrs := setUnlessEmpty attrs "k8s.reason" terminated.reason
      let attrs := setUnlessEmpty attrs "k8s.container.name" status.name
      attrs.insert "k8s.exit_code" (.int terminated.exitCode)
    | none => attrs
  | _ => attrs

/-- `maxRestartCount`. -/
def maxRestartCount (pod : Pod) : ℤ :=
  pod.containerStatuses.foldl (fun highest status ↦ max highest status.restartCount) 0

/-- The attributes of a lifecycle event before the termination scan. -/
def podAttrs (pod : Pod) (reason : String) (res : Result) : Attributes :=
  let attrs : Attributes := (∅ : Attributes)
    |>.insert "k8s.pod.name" (.str pod.metadata.name)
    |>.insert "k8s.namespace.name" (.str pod.metadata.namespaceName)
    |>.insert "k8s.resource.kind" (.str "Pod")
    |>.insert "k8s.reason" (.str reason)
  let attrs := setUnlessEmpty attrs "k8s.node.name" pod.nodeName
  let attrs := setUnlessEmpty attrs "k8s.owner.kind" res.ownerKind
  setUnlessEmpty attrs "k8s.owner.name" res.ownerName

/-- The event `buildPodLifecycleEvent` builds once the identity is known. -/
def podLifecycleEvent (rt : Runtime) (seq : ℕ) (pod : Pod) (kind : Kind) (reason : String)
    (res : Result) : Event :=
  let attrs := setTerminatedAttrs (podAttrs pod reason res) pod kind
  let attrs :=
    if pod.containerStatuses.length > 0 then
      attrs.insert "k8s.restart_count" (.int (maxRestartCount pod))
    else attrs
  { id := rt.newID seq
    kind := kind
    severity := severityForKind kind
    occurredAt := podOccurredAt rt seq pod kind
    serviceID := fallbackServiceID res pod.metadata.name
    attributes := attrs }

/-- `buildPodLifecycleEvent`. -/
def buildPodLifecycleEvent (rt : Runtime) (reader : Reader) (seq : ℕ) (pod : Pod) (kind : Kind)
    (reason : String) : Except String Event :=
  match (resolve reader (.pod pod)).outcome with
  | .error text => .error s!"mapper.buildPodLifecycleEvent: {text}"
  | .ok res => .ok (podLifecycleEvent rt seq pod kind reason res)

/-- The kind and the reason of the event a Pod that reached a phase gives rise to, if any. -/
def podTransition (pod : Pod) : Option (Kind × String) :=
  if pod.phase = "Running" then some (.k8sPodStarted, "Started")
  else if pod.phase = "Failed" then
    if podContainerOOMKilled pod then some (.k8sOOMKill, containerReasonOOMKilled)
    else some (.k8sPodTerminated, "Failed")
  else if pod.phase = "Succeeded" then some (.k8sPodTerminated, "Completed")
  else none

/-- `FromPodStatusChange`. A missing old object counts as the empty phase. -/
def fromPodStatusChange (rt : Runtime) (reader : Reader) (seq : ℕ) (old : Option Pod) (n : Pod) :
    Except String (List Event) :=
  let oldPhase := (old.map Pod.phase).getD ""
  if oldPhase = n.phase then .ok []
  else
    match podTransition n with
    | none => .ok []
    | some (kind, reason) => (buildPodLifecycleEvent rt reader seq n kind reason).map fun ev ↦ [ev]

/-! ### Deployment rollouts -/

/-- `findDeploymentCondition`: the first condition of a type. -/
def findDeploymentCondition (conds : List DeploymentCondition) (type : String) :
    Option DeploymentCondition :=
  conds.find? (fun cond ↦ cond.type = type)

/-- The `Progressing` condition of a Deployment. -/
def progressingCondition (d : Deployment) : Option DeploymentCondition :=
  findDeploymentCondition d.conditions "Progressing"

/-- `deploymentRolloutStatus`: the rollout state of a Deployment, empty without a `Progressing`
condition. -/
def deploymentRolloutStatus (d : Deployment) : String :=
  match progressingCondition d with
  | none => ""
  | some progressing =>
    if progressing.status = "False" ∧ progressing.reason = "ProgressDeadlineExceeded" then "failed"
    else if progressing.status = "True" ∧ progressing.reason = "NewReplicaSetAvailable" then
      "complete"
    else if progressing.status = "True" then "progressing"
    else "unknown"

/-- The annotation with the revision of a Deployment. -/
def revisionAnnotation : String :=
  "deployment.kubernetes.io/revision"

/-- `parseRevision`: the integer a revision text starts with; the empty text is an error. -/
def parseRevision (text : String) : Option ℤ :=
  if text = "" then none else sscanfDecimal text

/-- `revisionAttr`: the parsed revision, or the raw text when it does not parse. -/
def revisionAttr (text : String) : AttrValue :=
  match parseRevision text with
  | some n => .int n
  | none => .str text

/-- The timestamp chain of `FromDeploymentRollout`: the last update of the `Progressing` condition,
else the creation time. -/
def rolloutOccurredAt (n : Deployment) : ℤ :=
  let updated := ((progressingCondition n).map fun cond ↦ timeToUnixNano cond.lastUpdateTime).getD 0
  if updated = 0 then timeToUnixNano n.metadata.creationTimestamp else updated

/-- The `K8S_DEPLOY_ROLLOUT` event of a Deployment. -/
def rolloutEvent (rt : Runtime) (seq : ℕ) (n : Deployment) (status serviceID : String) : Event :=
  let attrs : Attributes := (∅ : Attributes)
    |>.insert "k8s.deployment.name" (.str n.metadata.name)
    |>.insert "k8s.namespace.name" (.str n.metadata.namespaceName)
    |>.insert "k8s.resource.kind" (.str "Deployment")
    |>.insert "k8s.rollout.status" (.str status)
  { id := rt.newID seq
    kind := .k8sDeployRollout
    severity := severityForKind .k8sDeployRollout
    occurredAt := rolloutOccurredAt n
    serviceID := serviceID
    attributes :=
      match n.metadata.annotations.lookup revisionAnnotation with
      | some rev => attrs.insert "k8s.rollout.revision" (revisionAttr rev)
      | none => attrs }

/-- `FromDeploymentRollout`. A missing old object counts as the empty status. -/
def fromDeploymentRollout (rt : Runtime) (reader : Reader) (seq : ℕ) (old : Option Deployment)
    (n : Deployment) : Except String (List Event) :=
  let status := deploymentRolloutStatus n
  let prev := (old.map deploymentRolloutStatus).getD ""
  if status = prev then .ok []
  else
    match (resolve reader (.deployment n)).outcome with
    | .error text => .error s!"mapper.FromDeploymentRollout: resolve: {text}"
    | .ok res => .ok [rolloutEvent rt seq n status (fallbackServiceID res n.metadata.name)]

end IncidentaryOperator.Mapper
