import BackendHandbook.Admission.QuotaAccounting
import BackendHandbook.Admission.TokenBucket
import BackendHandbook.Agents.Acceptance
import BackendHandbook.Agents.HumanHistory
import BackendHandbook.Agents.LoopLinearity
import BackendHandbook.Agents.SameEffect
import BackendHandbook.Authorization.DenyOverrides
import BackendHandbook.Authorization.ReleasedReads
import BackendHandbook.Browser.LeaseExclusion
import BackendHandbook.Chunking.Agreement
import BackendHandbook.Chunking.SelectionFence
import BackendHandbook.Chunking.SourceMap
import BackendHandbook.Delivery.ProviderCalls
import BackendHandbook.Dispatch.SentOnce
import BackendHandbook.Grounding.Released
import BackendHandbook.Ingestion.Histories
import BackendHandbook.Ingestion.Intake
import BackendHandbook.Ingestion.Publication
import BackendHandbook.Ingestion.RecoveryReports
import BackendHandbook.Ingestion.Tombstone
import BackendHandbook.Mcp.BindingLifecycle
import BackendHandbook.Mcp.DispatchOnce
import BackendHandbook.Mcp.ResolvedOnce
import BackendHandbook.Mcp.Schedule
import BackendHandbook.McpServer.SettledOnce
import BackendHandbook.McpServer.Shutdown
import BackendHandbook.Memory.ContextAssembly
import BackendHandbook.Memory.Publications
import BackendHandbook.Metadata.ReportedPointer
import BackendHandbook.Outbox.Custody
import BackendHandbook.Prompts.Compatibility
import BackendHandbook.Prompts.DispatchedOnce
import BackendHandbook.Provider.AffectedSet
import BackendHandbook.Provider.BudgetConservation
import BackendHandbook.Provider.ProbeRounds
import BackendHandbook.Provider.Reopening
import BackendHandbook.Refresh.RotationSafety
import BackendHandbook.Retrieval.CacheTransparency
import BackendHandbook.Retrieval.Classification
import BackendHandbook.Retrieval.FilterPlans
import BackendHandbook.Runtime.Atomicity
import BackendHandbook.Runtime.CostSettlement
import BackendHandbook.Runtime.Lifecycle
import BackendHandbook.Streaming.Assembler
import BackendHandbook.Streaming.TerminalRace
import BackendHandbook.StructuredOutput.Rollback
import BackendHandbook.Tools.OneEffect
import BackendHandbook.Tools.ProjectionOrder
import BackendHandbook.Uploads.VerifiedOwnership
import BackendHandbook.Vector.Activation
import BackendHandbook.Vector.BatchPlans
