import BackendHandbook.Foundation.Dict
import BackendHandbook.Foundation.Json
import BackendHandbook.Foundation.Operations

/-! The lookup handler of the server: admission, the claim of the operation, the controlled
service, the validation of its output, and the status that is recorded. -/

namespace BackendHandbook.McpServer

open Interleaving
open Json (Value)

/-- A mapping of names to values, its keys distinct. -/
abbrev Content := List (String × Value)

structure ServerToolRequest where
  (protocolRequestId toolName : String)
  arguments : Content

inductive ServerToolOutcome
  | backpressureRejected | applicationRejected | duplicateRejected | identityConflictRejected
  | outputRejected | candidateResult

structure ServerToolDecision where
  outcome : ServerToolOutcome
  request : ServerToolRequest
  reason : String
  isError : Bool
  structuredContent : Option Content := none
  handlerCalls : Nat := 0
  controlledServiceCalls : Nat := 0
  durableTransitions : Nat := 0

structure ApplicationToolPermit where
  (applicationOperationId tenantId idempotencyKey : String)

inductive ApplicationAdmissionOutcome
  | admitted | rejected

structure ApplicationAdmissionDecision where
  outcome : ApplicationAdmissionOutcome
  safeReason : String
  permit : Option ApplicationToolPermit := none
  carries : outcome = .admitted ↔ permit.isSome

inductive ApplicationOutputValidationOutcome
  | admitted | rejected
  deriving DecidableEq

structure ApplicationOutputValidationDecision where
  outcome : ApplicationOutputValidationOutcome
  safeReason : String

inductive OperationClaimOutcome
  | claimed | duplicate | identityConflict

inductive OperationInvocationStatus
  | inFlight | completed | pendingReconciliation
  deriving DecidableEq

/-- What the controlled service does: it returns, and `dict` may refuse what it returns; it raises
an `Exception`; or it is ended by what no handler of exceptions catches. -/
inductive ServiceReply
  | returned (content : Option Content)
  | raised | interrupted

inductive HandlerError
  | port | notInFlight | unclaimed

def HandlerError.text : HandlerError → String
  | .port => ""
  | .notInFlight => "only an in-flight operation may complete"
  | .unclaimed => "cannot reconcile an unclaimed operation"

structure InMemoryOperationRegistry where
  statusByOperationId : Dict String OperationInvocationStatus := ∅
  idempotencyKeyByOperationId : Dict String String := ∅

namespace InMemoryOperationRegistry

variable (registry : InMemoryOperationRegistry)

def status (operationId : String) : Option OperationInvocationStatus :=
  registry.statusByOperationId.lookup operationId

def write (operationId : String) (status : OperationInvocationStatus) : InMemoryOperationRegistry :=
  { registry with
    statusByOperationId := registry.statusByOperationId.insert operationId status }

def tryClaim (permit : ApplicationToolPermit) : OperationClaimOutcome × InMemoryOperationRegistry :=
  if (registry.status permit.applicationOperationId).isSome then
    if registry.idempotencyKeyByOperationId.lookup permit.applicationOperationId ≠
        some permit.idempotencyKey then
      (.identityConflict, registry)
    else (.duplicate, registry)
  else
    (.claimed,
      { registry.write permit.applicationOperationId .inFlight with
        idempotencyKeyByOperationId := registry.idempotencyKeyByOperationId.insert
          permit.applicationOperationId permit.idempotencyKey })

def markCompleted (operationId : String) : Except HandlerError InMemoryOperationRegistry :=
  if registry.status operationId ≠ some .inFlight then .error .notInFlight
  else .ok (registry.write operationId .completed)

def markPendingReconciliation (operationId : String) :
    Except HandlerError InMemoryOperationRegistry :=
  if (registry.status operationId).isNone then .error .unclaimed
  else .ok (registry.write operationId .pendingReconciliation)

end InMemoryOperationRegistry

/-- The ports, each by the number of its call: they may return anything, or raise. -/
structure ServerPorts where
  requestAdmission : Nat → ServerToolRequest → Except HandlerError ApplicationAdmissionDecision
  lookup : Nat → String → ApplicationToolPermit → ServiceReply
  validate : Nat → Content → ApplicationToolPermit →
    Except HandlerError ApplicationOutputValidationDecision

abbrev ValidationReply := Except HandlerError ApplicationOutputValidationDecision

/-- The registry, and what the ports have been called with, the last call first. -/
structure ServerWorld where
  registry : InMemoryOperationRegistry := {}
  admissions : Nat := 0
  services : List (String × ServiceReply) := []
  validations : List (String × ValidationReply) := []

inductive HandlerCall
  | requestAdmission (request : ServerToolRequest)
  | tryClaim (permit : ApplicationToolPermit)
  | lookup (query : String) (permit : ApplicationToolPermit)
  | validate (content : Content) (permit : ApplicationToolPermit)
  | markCompleted (operationId : String)
  | markPendingReconciliation (operationId : String)

abbrev HandlerCall.Answer : HandlerCall → Type
  | .requestAdmission _ => Except HandlerError ApplicationAdmissionDecision
  | .tryClaim _ => OperationClaimOutcome
  | .lookup .. => ServiceReply
  | .validate .. => ValidationReply
  | .markCompleted _ => Except HandlerError Unit
  | .markPendingReconciliation _ => Except HandlerError Unit

/-- A write of the registry that raises leaves it as it was. -/
def ServerWorld.commit (world : ServerWorld) :
    Except HandlerError InMemoryOperationRegistry → Except HandlerError Unit × ServerWorld
  | .ok registry => (.ok (), { world with registry })
  | .error raised => (.error raised, world)

def perform (ports : ServerPorts) : (call : HandlerCall) → ServerWorld → call.Answer × ServerWorld
  | .requestAdmission request, world =>
    (ports.requestAdmission world.admissions request,
      { world with admissions := world.admissions + 1 })
  | .tryClaim permit, world =>
    ((world.registry.tryClaim permit).1,
      { world with registry := (world.registry.tryClaim permit).2 })
  | .lookup query permit, world =>
    let reply := ports.lookup world.services.length query permit
    (reply,
      { world with services := (permit.applicationOperationId, reply) :: world.services })
  | .validate content permit, world =>
    let reply := ports.validate world.validations.length content permit
    (reply,
      { world with
        validations := (permit.applicationOperationId, reply) :: world.validations })
  | .markCompleted operationId, world => world.commit (world.registry.markCompleted operationId)
  | .markPendingReconciliation operationId, world =>
    world.commit (world.registry.markPendingReconciliation operationId)

abbrev Handled := Except HandlerError ServerToolDecision

abbrev HandlerProgram := Program HandlerCall HandlerCall.Answer Empty (fun _ => Empty) Handled

def refuses (request : ServerToolRequest) (outcome : ServerToolOutcome) (reason : String)
    (controlledServiceCalls : Nat) : HandlerProgram :=
  .done (.ok
    { outcome, request, reason, isError := true, handlerCalls := 1, controlledServiceCalls })

def queryOf (request : ServerToolRequest) : Option String :=
  match Json.get request.arguments "query" with
  | some (.text query) => if query = "" then none else some query
  | _ => none

/-- The exception of the service is raised again, behind the status. -/
def reconcile (operationId : String) : HandlerProgram :=
  .call (.markPendingReconciliation operationId) fun
    | .error raised => .done (.error raised)
    | .ok _ => .done (.error .port)

variable (request : ServerToolRequest) (permit : ApplicationToolPermit)

/-- The service has returned: its output is validated, and the operation completes either way. -/
def complete (content : Content) : HandlerProgram :=
  .call (.validate content permit) fun
    | .error raised => .done (.error raised)
    | .ok outputDecision =>
      .call (.markCompleted permit.applicationOperationId) fun
        | .error raised => .done (.error raised)
        | .ok _ =>
          if outputDecision.outcome = .rejected then
            refuses request .outputRejected outputDecision.safeReason 1
          else
            .done (.ok
              { outcome := .candidateResult, request
                reason := "controlled service returned a candidate result", isError := false
                structuredContent := some content, handlerCalls := 1, controlledServiceCalls := 1 })

/-- The operation is claimed: the controlled service is called. -/
def serve (query : String) : HandlerProgram :=
  .call (.lookup query permit) fun
    | .returned (some content) => complete request permit content
    | .returned none => reconcile permit.applicationOperationId
    | .raised => reconcile permit.applicationOperationId
    | .interrupted => .done (.error .port)

/-- `ResearchLookupHandler.handle`. -/
def handle (request : ServerToolRequest) : HandlerProgram :=
  .call (.requestAdmission request) fun
    | .error raised => .done (.error raised)
    | .ok decision =>
      match decision.permit with
      | none => refuses request .applicationRejected decision.safeReason 0
      | some permit =>
        match queryOf request with
        | none => refuses request .applicationRejected "query must be a non-empty string" 0
        | some query =>
          .call (.tryClaim permit) fun
            | .duplicate =>
              refuses request .duplicateRejected
                "application operation was already claimed" 0
            | .identityConflict =>
              refuses request .identityConflictRejected
                "application operation identity conflicts with prior claim" 0
            | .claimed => serve request permit query

/-- A handler is called, or one that runs makes its next call. -/
abbrev HandlerMove := Move ServerToolRequest Empty (fun _ => Empty)

section System

variable (ports : ServerPorts) (moves : List HandlerMove)

def serverWorld : ServerWorld := (reached handle (perform ports) {} moves).state

/-- Every call has ended: it has returned or raised. -/
def AllEnded : Prop :=
  ∀ thread ∈ (reached handle (perform ports) {} moves).threads, ∃ handled, thread = .done handled

end System

end BackendHandbook.McpServer
