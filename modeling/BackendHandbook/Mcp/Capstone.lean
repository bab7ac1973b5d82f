import BackendHandbook.Agents.HumanControl
import BackendHandbook.Mcp.RetryDispatch

/-! The gates in front of a dispatch: the proposal, the operation, human approval with current
authorization, and the preflight. Decisions only, no store and no transport. -/

namespace BackendHandbook.Mcp

open Agents (ActionBinding ApprovalDecision ApprovalRequest ApprovalStatus)

/-- `fingerprint` on the arguments of a proposal, and on an action as `asdict`. -/
structure CapstonePrints where
  arguments : List (String × Json.Value) → String
  action : ActionBinding → String

/-- A proposal of the model, with the object that its `arguments_json` decodes to. -/
structure AgentMCPToolProposal where
  (toolName toolVersion : String)
  arguments : List (String × Json.Value)
  named : toolName ≠ "" ∧ toolVersion ≠ ""

structure VisibleToolDefinition where
  (name version argumentsSchemaSha256 : String)

structure ToolCapabilitySnapshot where
  (snapshotId tenantId userId role jobId stepId : String)
  visibleTools : List VisibleToolDefinition

structure BoundToolInvocation where
  (snapshotId tenantId userId role jobId stepId toolName toolVersion argumentsSchemaSha256 : String)

structure GovernedToolCandidate where
  binding : BoundToolInvocation
  arguments : List (String × Json.Value)

inductive ProposalBoundaryOutcome
  | acceptedForGovernance | toolNotVisible

structure ProposalBoundaryDecision where
  outcome : ProposalBoundaryOutcome
  safeReason : String
  candidate : Option GovernedToolCandidate
  carries : outcome = .acceptedForGovernance ↔ candidate.isSome = true

/-- The proposal is bound to the capability snapshot, without any authority to execute. -/
def bindProposal (proposal : AgentMCPToolProposal) (snapshot : ToolCapabilitySnapshot) :
    ProposalBoundaryDecision :=
  match snapshot.visibleTools.find? (fun tool =>
      tool.name = proposal.toolName ∧ tool.version = proposal.toolVersion) with
  | none => ⟨.toolNotVisible, "PROPOSED_TOOL_NOT_IN_IMMUTABLE_SNAPSHOT", none, by simp⟩
  | some visible =>
    ⟨.acceptedForGovernance, "BOUND_TO_APPLICATION_CAPABILITY_SNAPSHOT",
      some
        { binding :=
            { snapshotId := snapshot.snapshotId
              tenantId := snapshot.tenantId, userId := snapshot.userId, role := snapshot.role
              jobId := snapshot.jobId, stepId := snapshot.stepId, toolName := visible.name
              toolVersion := visible.version
              argumentsSchemaSha256 := visible.argumentsSchemaSha256 }
          arguments := proposal.arguments }, by simp⟩

/-- The stable identity that the application controller has established. -/
structure CapstoneOperationIdentity where
  (operationId idempotencyKey tenantId resourceId : String)
  complete : operationId ≠ "" ∧ idempotencyKey ≠ "" ∧ tenantId ≠ "" ∧ resourceId ≠ ""

structure ToolAuthorizationRequest where
  (applicationOperationId idempotencyKey requestedTenantId toolName : String)
  resourceId : Option String := none

inductive OperationPreparationOutcome
  | readyForCurrentAuthorization | tenantBindingConflict | resourceBindingConflict
  deriving DecidableEq

structure OperationPreparationDecision where
  outcome : OperationPreparationOutcome
  safeReason : String
  authorizationRequest : Option ToolAuthorizationRequest
  carries : outcome = .readyForCurrentAuthorization ↔ authorizationRequest.isSome = true

def proposesResource (arguments : List (String × Json.Value)) (resourceId : String) : Bool :=
  match Json.get arguments "resource_id" with
  | some (.text proposed) => proposed = resourceId
  | _ => false

def prepareAuthorization (identity : CapstoneOperationIdentity)
    (candidate : GovernedToolCandidate) : OperationPreparationDecision :=
  if candidate.binding.tenantId ≠ identity.tenantId then
    ⟨.tenantBindingConflict, "CAPABILITY_SNAPSHOT_TENANT_MISMATCH", none, by simp⟩
  else if proposesResource candidate.arguments identity.resourceId = false then
    ⟨.resourceBindingConflict, "PROPOSAL_RESOURCE_DOES_NOT_MATCH_TRUSTED_OPERATION", none,
      by simp⟩
  else
    ⟨.readyForCurrentAuthorization, "TRUSTED_OPERATION_BOUND_TO_PROPOSAL",
      some
        { applicationOperationId := identity.operationId
          idempotencyKey := identity.idempotencyKey, requestedTenantId := identity.tenantId
          toolName := candidate.binding.toolName
          resourceId := some identity.resourceId }, by simp⟩

inductive AuthorizationOutcome
  | authorized | principalRevoked | insufficientScope | tenantMembershipMismatch
  | toolPermissionDenied | promptPermissionDenied | resourcePermissionDenied
  | promptArgumentPrivilegeEscalation | duplicate | identityConflict | authorizationUnavailable
  deriving DecidableEq

/-- Exact authority for one principal, operation, tenant and tool. -/
structure ToolAuthorizationPermit where
  (principalIssuer principalSubject applicationOperationId idempotencyKey tenantId toolName
   : String)
  resourceId : Option String := none

structure AuthorizationDecision where
  outcome : AuthorizationOutcome
  safeExternalMessage : String
  permit : Option ToolAuthorizationPermit
  carries : outcome = .authorized ↔ permit.isSome = true

inductive CapstoneAccessOutcome
  | readyForPreflight | humanCheckpointBlocked | approvalBindingConflict
  | currentAuthorizationBlocked | permitBindingConflict
  deriving DecidableEq

/-- Human and authorization evidence, kept apart for audit. -/
structure CapstoneAccessDecision where
  outcome : CapstoneAccessOutcome
  safeReason : String
  approvalDecision : Option ApprovalDecision
  authorizationDecision : Option AuthorizationDecision
  permit : Option ToolAuthorizationPermit
  carries : outcome = .readyForPreflight ↔ permit.isSome = true

section Access

variable (prints : CapstonePrints) (identity : CapstoneOperationIdentity)
variable (candidate : GovernedToolCandidate)

/-- The approval is of this operation, tool and arguments, and the decision is of this request. -/
def approvalBinds (request : ApprovalRequest) (decision : ApprovalDecision) : Bool :=
  request.binding.operationId = identity.operationId ∧
    request.binding.tenantId = identity.tenantId ∧
    request.binding.artifactId = identity.resourceId ∧
    request.binding.toolName = candidate.binding.toolName ∧
    request.binding.toolVersion = candidate.binding.toolVersion ∧
    request.binding.argumentsFingerprint = prints.arguments candidate.arguments ∧
    decision.requestId = request.requestId ∧
    decision.bindingFingerprint = prints.action request.binding ∧
    decision.tenantId = identity.tenantId

def permitBinds (permit : ToolAuthorizationPermit) : Bool :=
  permit.applicationOperationId = identity.operationId ∧
    permit.idempotencyKey = identity.idempotencyKey ∧ permit.tenantId = identity.tenantId ∧
    permit.resourceId = some identity.resourceId ∧
    permit.toolName = candidate.binding.toolName

def composeAuthorization (approval : Option ApprovalDecision)
    (authorization : Option AuthorizationDecision) : CapstoneAccessDecision :=
  -- an authorized decision carries a permit, any other carries none
  match authorization.bind (·.permit) with
  | none =>
    ⟨.currentAuthorizationBlocked, "CURRENT_EXACT_TOOL_AUTHORIZATION_REQUIRED", approval,
      authorization, none, by simp⟩
  | some permit =>
    if permitBinds identity candidate permit = false then
      ⟨.permitBindingConflict, "AUTHORIZATION_PERMIT_DOES_NOT_BIND_CURRENT_OPERATION", approval,
        authorization, none, by simp⟩
    else
      ⟨.readyForPreflight, "HUMAN_AND_CURRENT_AUTHORIZATION_COMPOSED", approval, authorization,
        some permit, by simp⟩

/-- The access gate: a current approval of this action, then a current permit for it. -/
def composeAccess (approvalStatus : ApprovalStatus) (request : ApprovalRequest)
    (approval : Option ApprovalDecision) (authorization : Option AuthorizationDecision)
    (now : Int) : CapstoneAccessDecision :=
  let blocked : CapstoneAccessDecision :=
    ⟨.humanCheckpointBlocked, "CURRENT_HUMAN_APPROVAL_REQUIRED", approval, authorization, none,
      by simp⟩
  match approval with
  | none => blocked
  | some decision =>
    if approvalStatus ≠ .approved ∨ decision.choice ≠ .approved ∨ request.expiresAt ≤ now then
      blocked
    else if approvalBinds prints identity candidate request decision = false then
      ⟨.approvalBindingConflict, "APPROVAL_DOES_NOT_BIND_CURRENT_OPERATION", approval,
        authorization, none, by simp⟩
    else composeAuthorization identity candidate approval authorization

end Access

/-- What is currently on record of the operation's dispatch, as the caller states it. -/
structure DurableDispatchGuard where
  (operationId idempotencyKey expectedState currentState : String)
  (expectedVersion currentVersion expectedFence currentFence : Int)
  (callerIntentActive cancelled : Bool)
  identified : operationId ≠ "" ∧ idempotencyKey ≠ "" ∧ expectedState ≠ "" ∧ currentState ≠ ""
  counted : 0 ≤ expectedVersion ∧ 0 ≤ currentVersion ∧ 0 ≤ expectedFence ∧ 0 ≤ currentFence

structure RemoteRequestKey where
  transportGeneration : Int
  protocolRequestId : RequestId
  generation_pos : 1 ≤ transportGeneration
  deriving DecidableEq

@[ext]
structure RemoteRequestBinding where
  key : RemoteRequestKey
  (operationId idempotencyKey : String)
  attemptNumber : Int
  identified : operationId ≠ "" ∧ idempotencyKey ≠ ""
  attempt_pos : 1 ≤ attemptNumber

instance : DecidableEq RemoteRequestBinding := fun _ _ =>
  decidable_of_iff _ RemoteRequestBinding.ext_iff.symm

/-- One absolute deadline for every phase of an operation. -/
structure DeadlineBudget where
  deadline : ℚ
  cleanupReserveSeconds : ℚ := 0
  reserved : 0 ≤ cleanupReserveSeconds

def DeadlineBudget.remaining (budget : DeadlineBudget) (now : ℚ) : ℚ :=
  max 0 (budget.deadline - now - budget.cleanupReserveSeconds)

inductive VersionNegotiationOutcome
  | negotiated | incompatible
  deriving DecidableEq

structure VersionNegotiationResult where
  outcome : VersionNegotiationOutcome
  generation : Int

inductive VersionedPermitOutcome
  | admitted | negotiationIncompatible | staleGeneration | versionMismatch | capabilityRejected
  | methodNotBound
  deriving DecidableEq

def VersionedPermitOutcome.value : VersionedPermitOutcome → String
  | .admitted => "ADMITTED"
  | .negotiationIncompatible => "NEGOTIATION_INCOMPATIBLE"
  | .staleGeneration => "STALE_GENERATION"
  | .versionMismatch => "VERSION_MISMATCH"
  | .capabilityRejected => "CAPABILITY_REJECTED"
  | .methodNotBound => "METHOD_NOT_BOUND"

inductive TenantCapacityOutcome
  | admitted | rejected
  deriving DecidableEq

inductive CapstonePreflightOutcome
  | readyForDispatchClaim | accessNotCurrent | attemptIdentityConflict | durableOwnershipStale
  | callerIntentInactive | deadlineExhausted | protocolNegotiationIncompatible
  | attemptGenerationMismatch | versionedPermitRejected | capacityRejected | circuitOpen
  deriving DecidableEq

structure CapstonePreflightDecision where
  outcome : CapstonePreflightOutcome
  safeReason : String
  attempt : Option RemoteRequestBinding
  carries : outcome = .readyForDispatchClaim ↔ attempt.isSome = true

def CapstonePreflightDecision.blocked (outcome : CapstonePreflightOutcome) (reason : String)
    (refuses : outcome ≠ .readyForDispatchClaim) : CapstonePreflightDecision :=
  ⟨outcome, reason, none, by simp [refuses]⟩

variable (identity : CapstoneOperationIdentity)

open CapstonePreflightDecision in
/-- Ownership, attempt, protocol and admission evidence; nothing is claimed or sent here. -/
def evaluatePreflight (access : CapstoneAccessDecision)
    (guard : DurableDispatchGuard) (attempt : RemoteRequestBinding) (deadline : DeadlineBudget)
    (now : ℚ) (negotiation : VersionNegotiationResult) (versionedPermit : VersionedPermitOutcome)
    (capacity : TenantCapacityOutcome) (circuitAllowsRequest : Bool) : CapstonePreflightDecision :=
  if access.outcome ≠ .readyForPreflight then
    blocked .accessNotCurrent "FRESH_HUMAN_AND_AUTHORIZATION_DECISIONS_REQUIRED" (by decide)
  else if guard.operationId ≠ identity.operationId ∨
      guard.idempotencyKey ≠ identity.idempotencyKey ∨
      attempt.operationId ≠ identity.operationId ∨
      attempt.idempotencyKey ≠ identity.idempotencyKey then
    blocked .attemptIdentityConflict "ATTEMPT_DOES_NOT_BIND_STABLE_OPERATION" (by decide)
  else if guard.expectedState ≠ guard.currentState ∨
      guard.expectedVersion ≠ guard.currentVersion ∨ guard.expectedFence ≠ guard.currentFence then
    blocked .durableOwnershipStale "STATE_VERSION_OR_FENCE_CHANGED" (by decide)
  else if guard.callerIntentActive = false ∨ guard.cancelled = true then
    blocked .callerIntentInactive "CALLER_INTENT_OR_CANCELLATION_BLOCKS_NEW_DISPATCH" (by decide)
  else if deadline.remaining now ≤ 0 then
    blocked .deadlineExhausted "PARENT_DEADLINE_EXHAUSTED" (by decide)
  else if negotiation.outcome ≠ .negotiated then
    blocked .protocolNegotiationIncompatible "NO_COMPATIBLE_PROTOCOL_VERSION" (by decide)
  else if attempt.key.transportGeneration ≠ negotiation.generation then
    blocked .attemptGenerationMismatch "ATTEMPT_NOT_BOUND_TO_CURRENT_TRANSPORT_GENERATION"
      (by decide)
  else if versionedPermit ≠ .admitted then
    blocked .versionedPermitRejected versionedPermit.value (by decide)
  else if capacity ≠ .admitted then
    blocked .capacityRejected "CURRENT_TENANT_CAPACITY_NOT_ADMITTED" (by decide)
  else if circuitAllowsRequest = false then
    blocked .circuitOpen "LOCAL_CIRCUIT_OPEN" (by decide)
  else ⟨.readyForDispatchClaim, "ALL_PREFLIGHT_GATES_PASSED", some attempt, by simp⟩

/-- The claim that the claimer makes of an attempt past the preflight, where the guard names a
state at all. -/
def claimOf (candidate : GovernedToolCandidate)
    (guard : DurableDispatchGuard) (attempt : RemoteRequestBinding) : Option ClaimArguments :=
  (RetryDispatchRecordState.ofValue guard.currentState).map fun state =>
    { dispatch :=
        { kind := .admitted
          attempt :=
            { operationId := attempt.operationId, idempotencyKey := attempt.idempotencyKey
              protocolRequestId := attempt.key.protocolRequestId
              attemptNumber := attempt.attemptNumber, delaySeconds := 0
              transportGeneration := some attempt.key.transportGeneration } }
      expectedVersion := guard.currentVersion, expectedState := state
      expectedFence := some guard.currentFence, newFence := some (guard.currentFence + 1)
      tenantId := some identity.tenantId, resourceId := some identity.resourceId
      toolName := some candidate.binding.toolName }

end BackendHandbook.Mcp
