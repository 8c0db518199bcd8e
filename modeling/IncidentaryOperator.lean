import IncidentaryOperator.Foundation.Machine
import IncidentaryOperator.Foundation.Ledger
import IncidentaryOperator.Foundation.GoStandard
import IncidentaryOperator.Foundation.Decimal
import IncidentaryOperator.Foundation.Fields
import IncidentaryOperator.Foundation.Edges
import IncidentaryOperator.Foundation.Tally
import IncidentaryOperator.Foundation.Brackets
import IncidentaryOperator.Foundation.Transducer
import IncidentaryOperator.Foundation.Slices
import IncidentaryOperator.Foundation.EditDistance
import IncidentaryOperator.Foundation.Float64
import IncidentaryOperator.WireFormat.Schema
import IncidentaryOperator.Kubernetes.Objects
import IncidentaryOperator.Identity.Resolver
import IncidentaryOperator.Identity.Workload
import IncidentaryOperator.Identity.Agreement
import IncidentaryOperator.Identity.ReadErrors
import IncidentaryOperator.Client.Ingest
import IncidentaryOperator.Client.Flush
import IncidentaryOperator.Client.RetryLoop
import IncidentaryOperator.Client.Provider
import IncidentaryOperator.Client.Topology
import IncidentaryOperator.Client.Services
import IncidentaryOperator.Batch.Batcher
import IncidentaryOperator.Batch.Conservation
import IncidentaryOperator.Batch.FlushLoss
import IncidentaryOperator.Batch.SizeCeiling
import IncidentaryOperator.Batch.CredentialPairing
import IncidentaryOperator.Batch.WakeUp
import IncidentaryOperator.Batch.CounterTruth
import IncidentaryOperator.Batch.KeyRevocation
import IncidentaryOperator.Mapper.Infrastructure
import IncidentaryOperator.Mapper.Deployment
import IncidentaryOperator.Mapper.Dispatch
import IncidentaryOperator.Mapper.Emission
import IncidentaryOperator.Mapper.OccurredAt
import IncidentaryOperator.Mapper.WireValidity
import IncidentaryOperator.Mapper.ResyncSilence
import IncidentaryOperator.Mapper.EdgeTriggering
import IncidentaryOperator.Mapper.WorkloadIdentity
import IncidentaryOperator.Mapper.EventAgreement
import IncidentaryOperator.Mapper.KindSpelling
import IncidentaryOperator.Mapper.RolloutBrackets
import IncidentaryOperator.Mapper.RolloutCompletion
import IncidentaryOperator.Mapper.DeployOutcome
import IncidentaryOperator.Mapper.Revisions
import IncidentaryOperator.Mapper.OOMKill
import IncidentaryOperator.Mapper.FreeText
import IncidentaryOperator.Mapper.AddSilence
import IncidentaryOperator.Filter.Severity
import IncidentaryOperator.Pipeline.Handler
import IncidentaryOperator.Pipeline.InPlaceFilter
import IncidentaryOperator.Pipeline.RecordUpload
import IncidentaryOperator.Discovery.Loop
import IncidentaryOperator.Pipeline.Config
import IncidentaryOperator.Discovery.Reconciler
import IncidentaryOperator.Discovery.Cycles
import IncidentaryOperator.Discovery.AnnotationPrivacy
import IncidentaryOperator.Discovery.LookupFailures
import IncidentaryOperator.Discovery.Classification
import IncidentaryOperator.Discovery.Backoff
import IncidentaryOperator.Discovery.FuzzyMatch
import IncidentaryOperator.Pipeline.ExcludedNamespaces
import IncidentaryOperator.Pipeline.ConfigValues
import IncidentaryOperator.Controller.Reconcile
import IncidentaryOperator.Controller.LiveCredential
import IncidentaryOperator.Controller.StatusInStep
import IncidentaryOperator.Foundation.Json
import IncidentaryOperator.Foundation.JsonPrint
import IncidentaryOperator.Client.Exchange
import IncidentaryOperator.Discovery.CutResponses
import IncidentaryOperator.Foundation.JsonMaps
import IncidentaryOperator.WireFormat.Payload
import IncidentaryOperator.Batch.Staleness
import IncidentaryOperator.Controller.Convergence
import IncidentaryOperator.Controller.Repeated
import IncidentaryOperator.Discovery.Cadence
import IncidentaryOperator.Foundation.Merge
import IncidentaryOperator.Informers.Accounting
import IncidentaryOperator.Pipeline.MetadataReads
import IncidentaryOperator.Client.TopologyPayload
import IncidentaryOperator.Client.Acknowledgements
import IncidentaryOperator.Informers.Requests
