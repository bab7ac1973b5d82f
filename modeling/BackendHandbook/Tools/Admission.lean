import BackendHandbook.Foundation.Fallible
import BackendHandbook.Tools.Contracts

/-! Admission of an untrusted candidate, and verification of an untrusted outcome. -/

namespace BackendHandbook.Tools

open Fallible

open Json (Value)

section Model

variable (loads : String → Option Value) (sha256 : String → String)

def parseJsonObject (raw : String) : Option (List (String × Value)) × Bool :=
  match loads raw with
  | some (.object entries) => (some entries, true)
  | some _ => (none, true)
  | none => (none, false)

variable (entries : List (String × Value))

def subscript (name : String) : Except ToolError Value :=
  match Json.get entries name with
  | some value => .ok value
  | none => .error (.missingKey name)

/-- The string of a field whose schema has been checked. -/
def subscriptText (name : String) : Except ToolError String :=
  match Json.get entries name with
  | some (.text value) => .ok value
  | _ => .error (.missingKey name)

def subscriptObject (name : String) : Except ToolError (List (String × Value)) :=
  match Json.get entries name with
  | some (.object inner) => .ok inner
  | _ => .error (.missingKey name)

def schemaInvalid (schema : Schema) : Except ToolError Bool := do
  let errors ← validateSchemaSubset (.object entries) schema "$"
  return !errors.isEmpty

def idempotencyMaterial (definition : ToolDefinition) (auth : AuthContext) (report : Report) :
    String :=
  String.intercalate ":"
    [definition.name, definition.version, auth.tenantId, report.reportId, toString report.version]

/-- Authorization, the report and the key, for arguments that fit the definition. -/
def admitArguments (attemptId jobId toolCallId : String) (definition : ToolDefinition)
    (arguments : List (String × Value)) (auth : AuthContext) (reports : InMemoryReportStore) :
    Except ToolError AdmissionDecision := do
  -- Model arguments are candidate data. Only auth is trusted identity.
  let tenantId ← subscript arguments "tenant_id"
  if !equal tenantId (.text auth.tenantId) || auth.role ≠ "publisher" then
    return {
      status := .unauthorized, toolCallId := some toolCallId
      safeReasonCode := "PUBLISH_NOT_AUTHORIZED" }
  let reportId ← subscript arguments "report_id"
  let found ← reports.getForAuthorizedTenant auth.tenantId reportId
  match found.filter (·.status = .draft) with
  | none => return {
      status := .semanticallyInvalid, toolCallId := some toolCallId
      safeReasonCode := "REPORT_NOT_PUBLISHABLE" }
  | some report => return {
      status := .allowed, toolCallId := some toolCallId, safeReasonCode := "ADMISSION_PASSED"
      admittedCall := some {
        attemptId
        jobId
        toolCallId
        toolName := definition.name, toolVersion := definition.version, tenantId := auth.tenantId
        reportId := report.reportId, expectedReportVersion := report.version
        idempotencyKey := "sha256:" ++ sha256 (idempotencyMaterial definition auth report) } }

def admitToolCall (rawProviderOutput attemptId jobId : String) (registry : ToolRegistry)
    (auth : AuthContext) (reports : InMemoryReportStore) : Except ToolError AdmissionDecision := do
  match parseJsonObject loads rawProviderOutput with
  | (_, false) => return { status := .parseFailure, safeReasonCode := "MALFORMED_JSON" }
  | (none, true) => return { status := .schemaInvalid, safeReasonCode := "ENVELOPE_SCHEMA_INVALID" }
  | (some candidate, true) =>
    if ← schemaInvalid candidate toolCallEnvelopeSchema then
      return { status := .schemaInvalid, safeReasonCode := "ENVELOPE_SCHEMA_INVALID" }
    let toolCallId ← subscriptText candidate "tool_call_id"
    let toolName ← subscriptText candidate "tool_name"
    let toolVersion ← subscriptText candidate "tool_version"
    match registry.resolve toolName toolVersion with
    | (none, resolution) => return {
        status := resolution, toolCallId := some toolCallId, safeReasonCode := resolution.value }
    | (some definition, _) =>
      let arguments ← subscriptObject candidate "arguments"
      if ← schemaInvalid arguments definition.argumentsSchema then
        return {
          status := .schemaInvalid, toolCallId := some toolCallId
          safeReasonCode := "ARGUMENT_SCHEMA_INVALID" }
      admitArguments sha256 attemptId jobId toolCallId definition arguments auth reports

/-- Verify an untrusted outcome; nothing durable changes. -/
def verifyPublishOutcome (rawToolOutcome : String) (call : AdmittedToolCall)
    (expectedOperationId : String) : Except ToolError OutcomeDecision := do
  match parseJsonObject loads rawToolOutcome with
  | (_, false) => return ⟨.parseFailure, "MALFORMED_OUTCOME_JSON"⟩
  | (none, true) => return ⟨.schemaInvalid, "OUTCOME_SCHEMA_INVALID"⟩
  | (some candidate, true) =>
    if ← schemaInvalid candidate publishReportV1OutcomeSchema then
      return ⟨.schemaInvalid, "OUTCOME_SCHEMA_INVALID"⟩
    let published ← subscript candidate "published"
    if !published matches .boolean true || "error" ∈ Json.keys candidate then
      return ⟨.semanticallyInvalid, "OUTCOME_SEMANTICALLY_INVALID"⟩
    let report ← subscriptObject candidate "report"
    let operationId ← subscript candidate "operation_id"
    let reportId ← subscript report "report_id"
    let version ← subscript report "version"
    if !equal operationId (.text expectedOperationId) || !equal reportId (.text call.reportId) ||
        !equal version (.integer call.expectedReportVersion) then
      return ⟨.identityMismatch, "OUTCOME_IDENTITY_MISMATCH"⟩
    return ⟨.verified, "OUTCOME_VERIFIED"⟩

end Model

structure Effect where
  (toolName toolVersion tenantId reportId : String)
  expectedReportVersion : Int
  deriving DecidableEq

def AdmittedToolCall.effect (call : AdmittedToolCall) : Effect :=
  ⟨call.toolName, call.toolVersion, call.tenantId, call.reportId, call.expectedReportVersion⟩

def Effect.fields (effect : Effect) : List String :=
  [effect.toolName, effect.toolVersion, effect.tenantId, effect.reportId,
    toString effect.expectedReportVersion]

section Admitted

variable {loads : String → Option Value} {sha256 : String → String}

/-- What is known of a call that has been admitted. -/
structure Admits (sha256 : String → String) (attemptId jobId : String) (registry : ToolRegistry)
    (auth : AuthContext) (reports : InMemoryReportStore) (call : AdmittedToolCall) : Prop where
  attempt : call.attemptId = attemptId
  job : call.jobId = jobId
  definition : ∃ definition,
    registry.definitions.lookup (call.toolName, call.toolVersion) = some definition
  tenant : call.tenantId = auth.tenantId
  role : auth.role = "publisher"
  report : ∃ report, reports.reports.lookup (call.tenantId, call.reportId) = some report ∧
    report.status = .draft ∧ report.version = call.expectedReportVersion
  key : call.idempotencyKey = "sha256:" ++ sha256 (String.intercalate ":" call.effect.fields)

variable {registry : ToolRegistry} {reports : InMemoryReportStore}

variable {definition : ToolDefinition}

theorem resolve_definition {name version : String} {resolution : AdmissionStatus}
    (resolved : registry.resolve name version = (some definition, resolution)) :
    registry.definitions.lookup (definition.name, definition.version) = some definition := by
  simp only [ToolRegistry.resolve] at resolved
  cases found : registry.definitions.lookup (name, version) with
  | none =>
    rw [found] at resolved
    dsimp only at resolved
    split at resolved
    · cases resolved
    · cases resolved
  | some =>
    rw [found] at resolved
    dsimp only at resolved
    split at resolved
    · cases resolved
    · cases resolved
      rw [← registry.keyed _ _ found]
      exact found

theorem getForAuthorizedTenant_some {tenantId : String} {reportId : Value} {report : Report}
    (found : reports.getForAuthorizedTenant tenantId reportId = .ok (some report)) :
    report.tenantId = tenantId ∧
      reports.reports.lookup (tenantId, report.reportId) = some report := by
  cases reportId with
  | text =>
    have stored := Except.ok.inj found
    have keyed := reports.keyed _ _ stored
    rw [Prod.mk.injEq] at keyed
    rw [← keyed.2]
    exact ⟨keyed.1.symm, stored⟩
  | array | object | null | boolean | integer | decimal => cases found

variable {decision : AdmissionDecision} {call : AdmittedToolCall} {auth : AuthContext}

theorem admitArguments_admits {attemptId jobId toolCallId : String}
    {arguments : List (String × Value)}
    (defined : registry.definitions.lookup (definition.name, definition.version) = some definition)
    (decided : admitArguments sha256 attemptId jobId toolCallId definition arguments auth reports =
      .ok decision) (admitted : decision.admittedCall = some call) :
    Admits sha256 attemptId jobId registry auth reports call ∧ call.toolCallId = toolCallId := by
  rcases bind_eq_ok.mp decided with ⟨_, _, decided⟩
  split at decided
  · cases decided
    cases admitted
  · next authorized =>
  rcases bind_eq_ok.mp decided with ⟨_, _, decided⟩
  rcases bind_eq_ok.mp decided with ⟨_, read, decided⟩
  split at decided
  · cases decided
    cases admitted
  · next report draft =>
  cases decided
  cases admitted
  rw [Option.filter_eq_some_iff] at draft
  rw [draft.1] at read
  have stored := getForAuthorizedTenant_some read
  have publisher : auth.role = "publisher" := by
    simp only [Bool.or_eq_true, not_or] at authorized
    simpa using authorized.2
  exact ⟨⟨rfl, rfl, ⟨definition, defined⟩, rfl, publisher,
    ⟨report, stored.2, of_decide_eq_true draft.2, rfl⟩, rfl⟩, rfl⟩

theorem admitToolCall_admits {raw attemptId jobId : String}
    (decided : admitToolCall loads sha256 raw attemptId jobId registry auth reports = .ok decision)
    (admitted : decision.admittedCall = some call) :
    Admits sha256 attemptId jobId registry auth reports call := by
  simp only [admitToolCall] at decided
  split at decided
  · cases decided
    cases admitted
  · cases decided
    cases admitted
  · next candidate parsed =>
  rcases bind_eq_ok.mp decided with ⟨_, _, decided⟩
  split at decided
  · cases decided
    cases admitted
  rcases bind_eq_ok.mp decided with ⟨_, _, decided⟩
  rcases bind_eq_ok.mp decided with ⟨_, _, decided⟩
  rcases bind_eq_ok.mp decided with ⟨_, _, decided⟩
  split at decided
  · cases decided
    cases admitted
  · next definition resolution resolved =>
  rcases bind_eq_ok.mp decided with ⟨_, _, decided⟩
  rcases bind_eq_ok.mp decided with ⟨_, _, decided⟩
  split at decided
  · cases decided
    cases admitted
  · exact (admitArguments_admits (resolve_definition resolved) decided admitted).1

end Admitted

end BackendHandbook.Tools
