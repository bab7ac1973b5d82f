import BackendHandbook.Foundation.PlainJson
import BackendHandbook.Foundation.Sorting
import Mathlib.Data.Prod.Lex

/-! Security admission of a tool candidate, and the execution of an admitted one over its
sandbox, tool and egress ports. -/

namespace BackendHandbook.Agents

open Json (Plain dumps)
open Sorting

inductive SecurityDecision
  | allow | deny | wait | quarantine
  deriving DecidableEq

inductive DataClassification
  | public_ | internal | confidential | secret
  deriving DecidableEq

inductive ToolPortMode
  | success | outcomeUnknown
  deriving DecidableEq

inductive SandboxPortMode
  | success | timeoutAfterDispatch | cleanupFailure
  deriving DecidableEq

inductive ExecutionState
  | notDispatched | resultCandidate | verified | pendingReconciliation | incomplete | quarantined

structure DataField where
  name : String
  classification : DataClassification
  deriving DecidableEq

structure ToolCandidate where
  (tenantId jobId attemptId stepId handoffId operationId capability toolName toolVersion : String)
  arguments : List (String × String)
  resourceTenantId : String
  destination : Option String
  (purpose audience : String)
  disclosedFields : List DataField
  fenceToken : Int
  policyVersion : String

namespace ToolCandidate

variable (sha256 : String → String) (candidate : ToolCandidate)

/-- The arguments in the order of their names, and of their values under one name. -/
def sortedArguments : List (String × String) := sortBy toLex candidate.arguments

def canonicalArguments : Plain :=
  .array (candidate.sortedArguments.map fun argument =>
    .array [.text argument.1, .text argument.2])

def canonicalArgumentsHash : String := sha256 (dumps candidate.canonicalArguments)

/-- The fields that an approval is about, under their sorted keys. -/
def approvalPayload : Plain :=
  .object
    [("arguments_hash", .text (candidate.canonicalArgumentsHash sha256)),
     ("audience", .text candidate.audience),
     ("capability", .text candidate.capability),
     ("destination", (candidate.destination.map Plain.text).getD .null),
     ("operation_id", .text candidate.operationId),
     ("purpose", .text candidate.purpose),
     ("tenant_id", .text candidate.tenantId),
     ("tool_name", .text candidate.toolName),
     ("tool_version", .text candidate.toolVersion)]

def approvalFingerprint : String := sha256 (dumps (candidate.approvalPayload sha256))

def argumentNames : List String := candidate.arguments.map Prod.fst

end ToolCandidate

structure ToolContract where
  (toolName toolVersion capability : String)
  (allowedArgumentNames requiredArgumentNames : List String)
  requiresApproval : Bool

structure ApprovalBinding where
  (approvalId tenantId candidateFingerprint : String)
  expiresAt : Int
  revoked : Bool := false

structure SandboxProfile where
  (profileId version : String)
  (readablePaths writablePaths networkDestinations allowedEnvironmentNames : List String)
  allowSubprocess : Bool

structure SandboxRequest where
  (readablePaths writablePaths networkDestinations environmentNames : List String)
  allowSubprocess : Bool

structure CurrentSecurityFacts where
  (tenantId currentPolicyVersion : String)
  policyAuthorityAvailable : Bool
  (grantedCapabilities currentlyAllowedCapabilities : List String)
  currentFenceToken : Int
  (allowedDestinations allowedPurposes allowedAudiences allowedDisclosureFields : List String)
  approval : Option ApprovalBinding
  sandboxProfile : SandboxProfile

structure AdmissionResult where
  decision : SecurityDecision
  (reasonCode operationId canonicalArgumentsHash : String)
  toolDispatchAllowed : Bool := false
  egressAllowed : Bool := false
  sandboxRunAllowed : Bool := false

section Admission

variable (sha256 : String → String)
variable (candidate : ToolCandidate)

def ToolCandidate.result (decision : SecurityDecision)
    (reasonCode : String) (admitted : Bool := false) : AdmissionResult :=
  { decision, reasonCode, operationId := candidate.operationId
    canonicalArgumentsHash := candidate.canonicalArgumentsHash sha256
    toolDispatchAllowed := admitted, egressAllowed := admitted && candidate.destination.isSome
    sandboxRunAllowed := admitted }

def approvalRefusal (facts : CurrentSecurityFacts) (now : Int) : Option String :=
  match facts.approval with
  | none => some "APPROVAL_REQUIRED"
  | some approval =>
    if approval.revoked = true ∨ approval.expiresAt ≤ now then some "APPROVAL_NOT_CURRENT"
    else if approval.tenantId ≠ facts.tenantId ∨
        approval.candidateFingerprint ≠ candidate.approvalFingerprint sha256 then
      some "APPROVAL_BINDING_MISMATCH"
    else none

/-- The checks of a destination; `none` where they pass. -/
def egressRefusal (facts : CurrentSecurityFacts) : Option String :=
  match candidate.destination with
  | none => none
  | some destination =>
    if destination ∉ facts.allowedDestinations then some "DESTINATION_DENIED"
    else if ¬ candidate.disclosedFields.map DataField.name ⊆ facts.allowedDisclosureFields then
      some "FIELD_DISCLOSURE_DENIED"
    else if candidate.disclosedFields.any (·.classification = .secret) then
      some "RAW_SECRET_EGRESS_DENIED"
    else none

/-- The bounds of the sandbox; `none` where the request keeps them. -/
def sandboxRefusal (request : SandboxRequest) (profile : SandboxProfile) : Option String :=
  if ¬ request.readablePaths ⊆ profile.readablePaths then some "SANDBOX_READ_EXPANSION"
  else if ¬ request.writablePaths ⊆ profile.writablePaths then some "SANDBOX_WRITE_EXPANSION"
  else if ¬ request.networkDestinations ⊆ profile.networkDestinations then
    some "SANDBOX_NETWORK_EXPANSION"
  else if ¬ request.environmentNames ⊆ profile.allowedEnvironmentNames then
    some "SANDBOX_ENV_EXPANSION"
  else if request.allowSubprocess = true ∧ profile.allowSubprocess = false then
    some "SANDBOX_PROCESS_EXPANSION"
  else none

def admitToolCandidate (candidate : ToolCandidate) (contract : ToolContract)
    (facts : CurrentSecurityFacts) (sandboxRequest : SandboxRequest) (now : Int) :
    AdmissionResult :=
  let refuse := candidate.result sha256
  if facts.policyAuthorityAvailable = false then refuse .wait "AUTHORITY_UNAVAILABLE"
  else if candidate.tenantId ≠ facts.tenantId then refuse .quarantine "TENANT_MISMATCH"
  else if candidate.resourceTenantId ≠ facts.tenantId then
    refuse .quarantine "RESOURCE_TENANT_MISMATCH"
  else if candidate.policyVersion ≠ facts.currentPolicyVersion then refuse .deny "STALE_POLICY"
  else if candidate.fenceToken ≠ facts.currentFenceToken then refuse .deny "STALE_FENCE"
  else if candidate.toolName ≠ contract.toolName ∨ candidate.toolVersion ≠ contract.toolVersion ∨
      candidate.capability ≠ contract.capability then refuse .deny "TOOL_IDENTITY_MISMATCH"
  else if candidate.capability ∉ facts.grantedCapabilities then
    refuse .deny "OUTSIDE_DELEGATED_GRANT"
  else if candidate.capability ∉ facts.currentlyAllowedCapabilities then
    refuse .deny "CURRENT_PERMISSION_DENIED"
  else if ¬ candidate.argumentNames.Nodup then refuse .deny "DUPLICATE_ARGUMENT"
  else if ¬ candidate.argumentNames ⊆ contract.allowedArgumentNames then
    refuse .deny "UNEXPECTED_ARGUMENT"
  else if ¬ contract.requiredArgumentNames ⊆ candidate.argumentNames then
    refuse .deny "MISSING_ARGUMENT"
  else
    let unapproved :=
      if contract.requiresApproval then approvalRefusal sha256 candidate facts now else none
    match unapproved with
    | some reason => refuse .wait reason
    | none =>
      if candidate.purpose ∉ facts.allowedPurposes then refuse .deny "PURPOSE_DENIED"
      else if candidate.audience ∉ facts.allowedAudiences then refuse .deny "AUDIENCE_DENIED"
      else
        match egressRefusal candidate facts with
        | some reason => refuse .deny reason
        | none =>
          match sandboxRefusal sandboxRequest facts.sandboxProfile with
          | some reason => refuse .deny reason
          | none => candidate.result sha256 .allow "ADMITTED" true

end Admission

structure ToolPortOutcome where
  outcomeKnown : Bool
  evidenceReference : Option String

/-- The three ports, with what has crossed each of them. -/
structure Ports where
  toolMode : ToolPortMode := .success
  sandboxMode : SandboxPortMode := .success
  operationIds : List String := []
  destinations : List String := []
  runOperationIds : List String := []
  cleanupOperationIds : List String := []

namespace Ports

variable (operationId : String) (ports : Ports)

def start : Ports :=
  { ports with runOperationIds := ports.runOperationIds ++ [operationId] }

def dispatch : ToolPortOutcome × Ports :=
  (if ports.toolMode = .outcomeUnknown then ⟨false, none⟩
    else ⟨true, some ("fake-tool-evidence:" ++ operationId)⟩,
    { ports with operationIds := ports.operationIds ++ [operationId] })

def send (destination : String) (ports : Ports) : Ports :=
  { ports with destinations := ports.destinations ++ [destination] }

def timedOutAfterDispatch (ports : Ports) : Bool := ports.sandboxMode = .timeoutAfterDispatch

def cleanup (operationId : String) (ports : Ports) : Bool × Ports :=
  (ports.sandboxMode ≠ .cleanupFailure,
    { ports with cleanupOperationIds := ports.cleanupOperationIds ++ [operationId] })

end Ports

structure ResultCandidate where
  (tenantId operationId policyVersion : String)
  fenceToken : Int
  evidenceReference : String

structure ExecutionResult where
  state : ExecutionState
  operationId : String
  dispatchMarker : Bool
  resultCandidate : Option ResultCandidate
  cleanupComplete : Option Bool
  (toolCalls egressCalls sandboxRuns : Nat)

def executeAdmittedCandidate (admission : AdmissionResult) (candidate : ToolCandidate)
    (ports : Ports) : ExecutionResult × Ports :=
  if admission.decision ≠ .allow then
    ({ state := .notDispatched, operationId := candidate.operationId, dispatchMarker := false
       resultCandidate := none, cleanupComplete := none, toolCalls := ports.operationIds.length
       egressCalls := ports.destinations.length, sandboxRuns := ports.runOperationIds.length },
      ports)
  else
    let (outcome, ports) := (ports.start candidate.operationId).dispatch candidate.operationId
    let ports := match candidate.destination with
      | some destination => ports.send destination
      | none => ports
    let (cleanupComplete, ports) := ports.cleanup candidate.operationId
    let result : ResultCandidate :=
      { tenantId := candidate.tenantId, operationId := candidate.operationId
        policyVersion := candidate.policyVersion, fenceToken := candidate.fenceToken
        evidenceReference := outcome.evidenceReference.getD "missing-evidence" }
    let (state, resultCandidate) : ExecutionState × Option ResultCandidate :=
      if outcome.outcomeKnown = false ∨ ports.timedOutAfterDispatch then
        (.pendingReconciliation, none)
      else if cleanupComplete = false then (.incomplete, some result)
      else (.resultCandidate, some result)
    ({ state, operationId := candidate.operationId, dispatchMarker := true, resultCandidate
       cleanupComplete := some cleanupComplete, toolCalls := ports.operationIds.length
       egressCalls := ports.destinations.length, sandboxRuns := ports.runOperationIds.length },
      ports)

end BackendHandbook.Agents
