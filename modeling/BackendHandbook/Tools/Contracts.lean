import BackendHandbook.Foundation.Dict
import BackendHandbook.Tools.Schema
import Mathlib.Data.Finset.Basic

/-! The tool boundary: admission of a candidate call, and verification of its outcome. -/

namespace BackendHandbook.Tools

open Json (Value)

inductive AdmissionStatus
  | allowed | parseFailure | schemaInvalid | unknownTool | incompatibleToolVersion | toolDisabled
  | unauthorized | semanticallyInvalid
  deriving DecidableEq

def AdmissionStatus.value : AdmissionStatus → String
  | .allowed => "ALLOWED"
  | .parseFailure => "PARSE_FAILURE"
  | .schemaInvalid => "SCHEMA_INVALID"
  | .unknownTool => "UNKNOWN_TOOL"
  | .incompatibleToolVersion => "INCOMPATIBLE_TOOL_VERSION"
  | .toolDisabled => "TOOL_DISABLED"
  | .unauthorized => "UNAUTHORIZED"
  | .semanticallyInvalid => "SEMANTICALLY_INVALID"

inductive ToolLifecycleStatus
  | active | disabled | unknown
  deriving DecidableEq

inductive ReportStatus
  | draft | published
  deriving DecidableEq

inductive ExecutionStatus
  | executed | duplicateSuppressed | rejectedDisabled
  deriving DecidableEq

inductive OutcomeStatus
  | verified | parseFailure | schemaInvalid | semanticallyInvalid | identityMismatch
  deriving DecidableEq

def OutcomeStatus.value : OutcomeStatus → String
  | .verified => "VERIFIED"
  | .parseFailure => "PARSE_FAILURE"
  | .schemaInvalid => "SCHEMA_INVALID"
  | .semanticallyInvalid => "SEMANTICALLY_INVALID"
  | .identityMismatch => "IDENTITY_MISMATCH"

structure AuthContext where
  (tenantId userId role : String)

structure Report where
  (tenantId reportId : String)
  status : ReportStatus
  version : Int

structure ToolDefinition where
  (name version : String)
  argumentsSchema : Schema

structure AdmittedToolCall where
  (attemptId jobId toolCallId toolName toolVersion tenantId reportId : String)
  expectedReportVersion : Int
  idempotencyKey : String
  deriving DecidableEq

structure AdmissionDecision where
  status : AdmissionStatus
  toolCallId : Option String := none
  safeReasonCode : String := ""
  admittedCall : Option AdmittedToolCall := none
  deriving DecidableEq

structure ExecutionResult where
  status : ExecutionStatus
  operationId : Option String

structure OutcomeDecision where
  status : OutcomeStatus
  safeReasonCode : String
  deriving DecidableEq

def toolCallEnvelopeSchema : Schema where
  type := some "object"
  properties := some
    [("kind", { type := some "string", enum := some [.text "tool_call"] }),
     ("tool_call_id", { type := some "string", minLength := some 1 }),
     ("tool_name", { type := some "string", minLength := some 1 }),
     ("tool_version", { type := some "string", minLength := some 1 }),
     ("arguments", { type := some "object" })]
  required := some ["kind", "tool_call_id", "tool_name", "tool_version", "arguments"]
  additionalProperties := some false

def publishReportV1ArgumentsSchema : Schema where
  type := some "object"
  properties := some
    [("tenant_id", { type := some "string", minLength := some 1 }),
     ("report_id", { type := some "string", minLength := some 1 })]
  required := some ["tenant_id", "report_id"]
  additionalProperties := some false

def publishReportV1OutcomeSchema : Schema where
  type := some "object"
  properties := some
    [("operation_id", { type := some "string", minLength := some 1 }),
     ("published", { type := some "boolean" }),
     ("report",
      { type := some "object"
        properties := some
          [("report_id", { type := some "string", minLength := some 1 }),
           ("version", { type := some "integer", minimum := some 1 })]
        required := some ["report_id", "version"]
        additionalProperties := some false }),
     ("warnings",
      { type := some "array"
        items := some { type := some "string", maxLength := some 256 } }),
     ("error", { type := some "string", minLength := some 1, maxLength := some 256 })]
  required := some ["operation_id", "published", "report", "warnings"]
  additionalProperties := some false

/-- Every definition is kept under its own name and version, with a lifecycle status. -/
structure ToolRegistry where
  definitions : Dict (String × String) ToolDefinition
  names : Finset String
  statuses : Dict (String × String) ToolLifecycleStatus
  keyed : ∀ key definition, definitions.lookup key = some definition →
    key = (definition.name, definition.version)

namespace ToolRegistry

def empty : ToolRegistry where
  definitions := ∅
  names := ∅
  statuses := ∅
  keyed := by
    intro key definition found
    rw [Dict.lookup_empty] at found
    cases found

def add (registry : ToolRegistry) (definition : ToolDefinition) : ToolRegistry where
  definitions := registry.definitions.insert (definition.name, definition.version) definition
  names := insert definition.name registry.names
  statuses := registry.statuses.insert (definition.name, definition.version) .active
  keyed := Dict.forall_insert rfl registry.keyed

def create (definitions : List ToolDefinition) : Except ToolError ToolRegistry :=
  definitions.foldlM (fun registry definition =>
    if (registry.definitions.lookup (definition.name, definition.version)).isSome then
      .error (.duplicateDefinition definition.name definition.version)
    else .ok (registry.add definition)) empty

variable (registry : ToolRegistry) (name version : String)

def disable : Except ToolError ToolRegistry :=
  if (registry.definitions.lookup (name, version)).isNone then .error (.unknownTool name version)
  else .ok { registry with statuses := registry.statuses.insert (name, version) .disabled }

def status : ToolLifecycleStatus := (registry.statuses.lookup (name, version)).getD .unknown

def isActive : Bool := registry.status name version = .active

def resolve : Option ToolDefinition × AdmissionStatus :=
  match registry.definitions.lookup (name, version) with
  | some definition =>
    if registry.status name version = .disabled then (none, .toolDisabled)
    else (some definition, .allowed)
  | none =>
    if name ∈ registry.names then (none, .incompatibleToolVersion) else (none, .unknownTool)

end ToolRegistry

/-- Every report is kept under its own tenant and identity. -/
structure InMemoryReportStore where
  reports : Dict (String × String) Report
  keyed : ∀ key report, reports.lookup key = some report → key = (report.tenantId, report.reportId)

namespace InMemoryReportStore

def add (store : InMemoryReportStore) (report : Report) : InMemoryReportStore where
  reports := store.reports.insert (report.tenantId, report.reportId) report
  keyed := Dict.forall_insert rfl store.keyed

def create (reports : List Report) : InMemoryReportStore :=
  reports.foldl add ⟨∅, by
    intro key report found
    rw [Dict.lookup_empty] at found
    cases found⟩

/-- The report under the identity that a candidate gives; a list or an object has no hash. -/
def getForAuthorizedTenant (store : InMemoryReportStore) (tenantId : String) :
    Value → Except ToolError (Option Report)
  | .text reportId => .ok (store.reports.lookup (tenantId, reportId))
  | .array _ => .error .unhashable
  | .object _ => .error .unhashable
  | _ => .ok none

end InMemoryReportStore

/-! The executor: one operation for each idempotency key. -/

def AdmittedToolCall.effectKey (call : AdmittedToolCall) : String × String × Int :=
  (call.tenantId, call.reportId, call.expectedReportVersion)

structure InMemoryToolExecutor where
  operations : Dict String ExecutionResult := ∅
  effectCounts : Dict (String × String × Int) Nat := ∅

namespace InMemoryToolExecutor

section Model

variable (sha256 : String → String)

def execute (call : AdmittedToolCall) (registry : ToolRegistry) (executor : InMemoryToolExecutor) :
    ExecutionResult × InMemoryToolExecutor :=
  if registry.isActive call.toolName call.toolVersion then
    match executor.operations.lookup call.idempotencyKey with
    | some existing => (⟨.duplicateSuppressed, existing.operationId⟩, executor)
    | none =>
      let result : ExecutionResult := ⟨.executed, some ("op:" ++ sha256 call.idempotencyKey)⟩
      (result, {
        operations := executor.operations.insert call.idempotencyKey result
        effectCounts := executor.effectCounts.insert call.effectKey
          ((executor.effectCounts.lookup call.effectKey).getD 0 + 1) })
  else (⟨.rejectedDisabled, none⟩, executor)

def effectCount (executor : InMemoryToolExecutor) (call : AdmittedToolCall) : Nat :=
  (executor.effectCounts.lookup call.effectKey).getD 0

end Model

section Steps

variable (sha256 : String → String) (call : AdmittedToolCall) (registry : ToolRegistry)
variable (executor : InMemoryToolExecutor)

inductive Step : ExecutionResult × InMemoryToolExecutor → Prop
  | rejected (inactive : registry.isActive call.toolName call.toolVersion = false) :
      Step (⟨.rejectedDisabled, none⟩, executor)
  | suppressed (existing : ExecutionResult)
      (active : registry.isActive call.toolName call.toolVersion = true)
      (found : executor.operations.lookup call.idempotencyKey = some existing) :
      Step (⟨.duplicateSuppressed, existing.operationId⟩, executor)
  | executed (changed : InMemoryToolExecutor)
      (active : registry.isActive call.toolName call.toolVersion = true)
      (fresh : executor.operations.lookup call.idempotencyKey = none)
      (stored : ∀ key, changed.operations.lookup key = if key = call.idempotencyKey then
        some ⟨.executed, some ("op:" ++ sha256 call.idempotencyKey)⟩
        else executor.operations.lookup key)
      (counted : ∀ other, changed.effectCount other =
        executor.effectCount other + if other.effectKey = call.effectKey then 1 else 0) :
      Step (⟨.executed, some ("op:" ++ sha256 call.idempotencyKey)⟩, changed)

theorem execute_step : Step sha256 call registry executor
    (executor.execute sha256 call registry) := by
  simp only [execute]
  cases active : registry.isActive call.toolName call.toolVersion with
  | false => exact .rejected active
  | true =>
  cases found : executor.operations.lookup call.idempotencyKey with
  | some => exact .suppressed _ active found
  | none =>
    refine .executed _ active found ?_ ?_
    · intro key
      exact Dict.lookup_insert_eq _ _ _ _
    · intro other
      simp only [effectCount, Dict.lookup_insert_eq]
      by_cases same : other.effectKey = call.effectKey
      · rw [if_pos same, if_pos same, same, Option.getD_some]
      · rw [if_neg same, if_neg same, Nat.add_zero]

end Steps

end InMemoryToolExecutor

end BackendHandbook.Tools
