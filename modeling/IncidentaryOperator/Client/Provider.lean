import IncidentaryOperator.Client.Ingest

/-!
# The client provider

`internal/client/provider.go`: the active outbound clients and the workspace id, swapped together by
`Rotate`. The dropping stubs stand in when there is no API key.

The topology and the services client are known by the key and the endpoint they were built with.
-/

set_option autoImplicit false
set_option relaxedAutoImplicit false

namespace IncidentaryOperator.Client

open Foundation WireFormat

/-- The two ingest clients: the HTTP client and the dropping stub. -/
inductive IngestClient
  | http (client : HTTPClient)
  | dropping
  deriving DecidableEq

/-- The two topology clients. -/
inductive TopologyClient
  | http (apiKey endpoint : String)
  | dropping
  deriving DecidableEq

/-- The two services clients. -/
inductive ServicesClient
  | http (apiKey endpoint : String)
  | empty
  deriving DecidableEq

/-- What `Flush` of a client returns for a batch: for the HTTP client whatever the network and the
server make of the requests, for the dropping stub every event reported as dropped. -/
def IngestClient.flush (client : IngestClient) (batch : IngestBatch) (answer : FlushOutcome) :
    FlushOutcome :=
  match client with
  | .http _ => answer
  | .dropping => .ok { accepted := 0, dropped := batch.events.length }

/-- `Provider`. -/
structure Provider where
  ingest : IngestClient
  topo : TopologyClient
  svc : ServicesClient
  workspaceID : String := ""
  deriving DecidableEq

/-- The default topology endpoint. -/
def defaultTopologyEndpoint : String :=
  "https://api.incidentary.com/api/v2/workspace/topology"

/-- The default services endpoint. -/
def defaultServicesEndpoint : String :=
  "https://api.incidentary.com/api/v2/workspace/services"

/-- An endpoint option: the empty string keeps the default. -/
def endpointOr (url fallback : String) : String :=
  if url ≠ "" then url else fallback

/-- The credentials and endpoints of a `Rotate` call. -/
structure Rotation where
  apiKey : String
  workspaceID : String
  ingestEP : String := ""
  topoEP : String := ""
  svcEP : String := ""
  deriving DecidableEq

/-- The three clients and the workspace id a `Rotate` call installs: HTTP clients of its key, or the
dropping stubs when the key is empty. -/
def Rotation.provider (rotation : Rotation) : Provider :=
  if rotation.apiKey = "" then
    { ingest := .dropping
      topo := .dropping
      svc := .empty
      workspaceID := rotation.workspaceID }
  else
    { ingest := .http (newHTTPClient rotation.apiKey [.withEndpoint rotation.ingestEP])
      topo := .http rotation.apiKey (endpointOr rotation.topoEP defaultTopologyEndpoint)
      svc := .http rotation.apiKey (endpointOr rotation.svcEP defaultServicesEndpoint)
      workspaceID := rotation.workspaceID }

/-- `Provider.Rotate`: all four fields are replaced under one lock, whatever they were. -/
def Provider.rotate (_ : Provider) (rotation : Rotation) : Provider :=
  rotation.provider

/-- `Provider.OnKeyRevoked`: the stubs replace the clients and the workspace id stays. No code of
the operator calls it. -/
def Provider.onKeyRevoked (provider : Provider) : Provider :=
  { provider with ingest := .dropping, topo := .dropping, svc := .empty }

/-- `buildInitialProvider` of `cmd/config.go`: placeholder clients, rotated to the bootstrap
configuration before anything can use them. -/
def buildInitialProvider (rotation : Rotation) : Provider :=
  Provider.rotate
    { ingest := .http (newHTTPClient "bootstrap" [.withEndpoint rotation.ingestEP])
      topo := .http "bootstrap" (endpointOr rotation.topoEP defaultTopologyEndpoint)
      svc := .http "bootstrap" (endpointOr rotation.svcEP defaultServicesEndpoint) } rotation

/-- The workspace id is the one of the rotation. -/
@[simp] theorem Rotation.provider_workspaceID (rotation : Rotation) :
    rotation.provider.workspaceID = rotation.workspaceID := by
  unfold Rotation.provider
  split_ifs <;> rfl

end IncidentaryOperator.Client
