import BackendHandbook.Foundation.Dict
import BackendHandbook.Foundation.Json

/-! What is known about one failed attempt on a remote tool. -/

namespace BackendHandbook.Mcp

inductive RequestId
  | text (value : String)
  | number (value : Int)
  deriving DecidableEq

inductive Raised
  | valueError (message : String)

/-- What the transport can prove about an unsuccessful dispatch. -/
inductive DispatchCertainty
  | provenNotSent | possiblySent | provenSent

inductive ExecutionCertainty
  | provenNotExecuted | possiblyExecuted | provenExecuted
  deriving DecidableEq

inductive FailurePhase
  | connect | send | read | cancellation | authenticationDependency | capacity | versionNegotiation
  | reconciliation

inductive FailureKind
  | connectTimeout | transportUnavailable | sendFailure | readTimeout | connectionLost
  | dispatchOwnerLost | callerCancelled | jwksRefreshFailed | capacityRejected
  | unverifiedRemoteFailure | circuitOpen | unsupportedVersion | authoritativeNotExecuted

/-- Auditable facts about one failed attempt, never a retry command. -/
structure FailureEvidence where
  (operationId idempotencyKey : String)
  protocolRequestId : RequestId
  attemptNumber : Int
  phase : FailurePhase
  kind : FailureKind
  dispatchCertainty : DispatchCertainty
  executionCertainty : ExecutionCertainty
  evidenceSource : String
  operationId_nonEmpty : operationId ≠ ""
  idempotencyKey_nonEmpty : idempotencyKey ≠ ""
  attempt_pos : 1 ≤ attemptNumber
  evidenceSource_nonEmpty : evidenceSource ≠ ""
  unsent : dispatchCertainty = .provenNotSent → executionCertainty = .provenNotExecuted

/-! The protocol boundary: requests are validated, bound, dispatched, and their responses
correlated. -/

inductive ProtocolOutcome
  | protocolResult | protocolError | invalidMessage | unsupportedVersion | unknownMethod
  | capabilityRejected | unknownResponse | duplicate | conflict | outcomeUnknown
  | pendingReconciliation | preDispatchAborted
  deriving DecidableEq

inductive BindingStatus
  | pending | completed | pendingReconciliation | conflict | abortedPreDispatch
  deriving DecidableEq

def methodCapability : String → Option (Option String)
  | "server/discover" => some none
  | "tools/call" => some (some "tools")
  | "resources/read" => some (some "resources")
  | "prompts/get" => some (some "prompts")
  | _ => none

/-- A request; a value that is no request identifier is none here. -/
structure MCPRequestDTO where
  specificationVersion : String
  protocolRequestId : Option RequestId
  method : String
  params : Json.Value
  clientCapabilities : List String := []
  observedServerCapabilities : List String := []

/-- A response of the peer, with the identifier that the peer has put on it. -/
structure MCPResponseDTO where
  protocolRequestId : Option RequestId
  result : Option (List (String × Json.Value)) := none
  error : Option (List (String × Json.Value)) := none

structure MCPRequestBinding where
  protocolRequestId : RequestId
  (applicationOperationId expectedMethod requestFingerprint : String)
  (tenantId resourceId idempotencyKey : Option String)

/-- Protocol evidence, not a durable business fact. -/
structure ProtocolObservation where
  outcome : ProtocolOutcome
  protocolRequestId : Option RequestId
  applicationOperationId : Option String := none
  payload : Option (List (String × Json.Value)) := none
  reason : Option String := none

/-- What becomes of one `transport.send`. -/
inductive SendOutcome
  | timeoutBeforeSend | timeoutAfterPossibleSend | noResponse
  | response (response : MCPResponseDTO)

structure MCPProtocolBoundary where
  supportedVersions : List String := ["2026-07-28"]
  bindings : Dict RequestId MCPRequestBinding := ∅
  bindingStatus : Dict RequestId BindingStatus := ∅
  responseFingerprints : Dict RequestId String := ∅

section Validation

def isNonEmptyText : Option Json.Value → Bool
  | some (.text value) => value ≠ ""
  | _ => false

def isMapping : Option Json.Value → Bool
  | some (.object _) => true
  | _ => false

def validateParams (method : String) (params : List (String × Json.Value)) : Bool :=
  let keys := Json.keys params
  match method with
  | "server/discover" => params.isEmpty
  | "tools/call" =>
    keys.all (· ∈ ["name", "arguments"]) && ["name", "arguments"].all (· ∈ keys) &&
      isNonEmptyText (Json.get params "name") && isMapping (Json.get params "arguments")
  | "resources/read" =>
    keys.all (· = "uri") && "uri" ∈ keys && isNonEmptyText (Json.get params "uri")
  | "prompts/get" =>
    keys.all (· ∈ ["name", "arguments"]) && "name" ∈ keys &&
      isNonEmptyText (Json.get params "name") &&
      ("arguments" ∉ keys || isMapping (Json.get params "arguments"))
  | _ => false

/-- The parameters are a mapping, and one that the method takes. -/
def MCPRequestDTO.validParams (request : MCPRequestDTO) : Bool :=
  match request.params with
  | .object params => validateParams request.method params
  | _ => false

def MCPProtocolBoundary.validate (boundary : MCPProtocolBoundary) (request : MCPRequestDTO) :
    Option ProtocolObservation :=
  let reject (outcome : ProtocolOutcome) (reason : String) : ProtocolObservation :=
    { outcome := outcome, protocolRequestId := request.protocolRequestId, reason := some reason }
  if request.specificationVersion ∉ boundary.supportedVersions then
    some (reject .unsupportedVersion "unsupported specification version")
  else if request.protocolRequestId.isNone then
    some (reject .invalidMessage "invalid protocol request ID")
  else
    match methodCapability request.method with
    | none => some (reject .unknownMethod "unknown method")
    | some required =>
      if request.validParams = false then
        some (reject .invalidMessage "invalid method params")
      else
        match required with
        | none => none
        | some capability =>
          if capability ∈ request.observedServerCapabilities then none
          else some (reject .capabilityRejected
            ("server capability not observed: " ++ capability))

end Validation

namespace MCPProtocolBoundary

variable (requestFingerprint : MCPRequestDTO → String)
variable (responseFingerprint : MCPResponseDTO → String)
variable (boundary : MCPProtocolBoundary) (id : RequestId)

def setStatus (status : BindingStatus) : MCPProtocolBoundary :=
  { boundary with bindingStatus := boundary.bindingStatus.insert id status }

def bind (binding : MCPRequestBinding) : MCPProtocolBoundary :=
  { boundary with
    bindings := boundary.bindings.insert id binding
    bindingStatus := boundary.bindingStatus.insert id .pending }

def unbind : MCPProtocolBoundary :=
  { boundary with
    bindings := boundary.bindings.erase id, bindingStatus := boundary.bindingStatus.erase id }

def complete (fingerprint : String) : MCPProtocolBoundary :=
  { boundary with
    bindingStatus := boundary.bindingStatus.insert id .completed
    responseFingerprints := boundary.responseFingerprints.insert id fingerprint }

end MCPProtocolBoundary

def MCPResponseDTO.wellFormed (response : MCPResponseDTO) : Bool :=
  response.result.isSome != response.error.isSome

def MCPResponseDTO.payload (response : MCPResponseDTO) : List (String × Json.Value) :=
  response.result.getD (response.error.getD [])

def claimsOther (payload : List (String × Json.Value)) (applicationOperationId : String) : Bool :=
  match Json.get payload "application_operation_id" with
  | none => false
  | some .null => false
  | some (.text claimed) => claimed ≠ applicationOperationId
  | some _ => true

namespace MCPProtocolBoundary

variable (requestFingerprint : MCPRequestDTO → String)
variable (responseFingerprint : MCPResponseDTO → String)

def correlate (boundary : MCPProtocolBoundary) (response : MCPResponseDTO) :
    ProtocolObservation × MCPProtocolBoundary :=
  match response.protocolRequestId with
  | none =>
    ({ outcome := .invalidMessage
       protocolRequestId := none, reason := some "invalid response ID" }, boundary)
  | some id =>
    match boundary.bindings.lookup id with
    | none =>
      ({ outcome := .unknownResponse
         protocolRequestId := some id
         reason := some "response ID has no local binding" }, boundary)
    | some binding =>
      let observe (outcome : ProtocolOutcome) (reason : String) : ProtocolObservation :=
        { outcome := outcome, protocolRequestId := some id
          applicationOperationId := some binding.applicationOperationId, reason := some reason }
      if response.wellFormed = false then
        (observe .invalidMessage "response must contain exactly one of result or error", boundary)
      else if claimsOther response.payload binding.applicationOperationId then
        (observe .conflict "peer operation ID conflicts with local binding",
          boundary.setStatus id .conflict)
      else
        match boundary.responseFingerprints.lookup id with
        | some previous =>
          if previous = responseFingerprint response then
            (observe .duplicate "identical response already observed", boundary)
          else
            (observe .conflict "same response ID has conflicting content",
              boundary.setStatus id .conflict)
        | none =>
          ({ outcome := if response.result.isSome then .protocolResult else .protocolError
             protocolRequestId := some id
             applicationOperationId := some binding.applicationOperationId
             payload := some response.payload },
            boundary.complete id (responseFingerprint response))

/-- Why a request is not sent. -/
def rejection (boundary : MCPProtocolBoundary) (request : MCPRequestDTO)
    (applicationOperationId : String) : Option ProtocolObservation :=
  match boundary.validate request with
  | some rejected => some rejected
  | none =>
    if applicationOperationId = "" then
      some { outcome := .invalidMessage
             protocolRequestId := request.protocolRequestId
             reason := some "empty application operation ID" }
    else if request.protocolRequestId.any (fun id => (boundary.bindings.lookup id).isSome) then
      some { outcome := .conflict
             protocolRequestId := request.protocolRequestId
             reason := some "protocol request ID already bound" }
    else none

def newBinding (request : MCPRequestDTO) (id : RequestId) (applicationOperationId : String)
    (tenantId resourceId idempotencyKey : Option String) : MCPRequestBinding :=
  { protocolRequestId := id
    applicationOperationId := applicationOperationId, expectedMethod := request.method
    requestFingerprint := requestFingerprint request, tenantId := tenantId, resourceId := resourceId
    idempotencyKey := idempotencyKey }

variable (boundary : MCPProtocolBoundary)

def dispatch (request : MCPRequestDTO)
    (applicationOperationId : String) (tenantId resourceId idempotencyKey : Option String)
    (sent : SendOutcome) : ProtocolObservation × MCPProtocolBoundary :=
  match boundary.rejection request applicationOperationId, request.protocolRequestId with
  | some rejected, _ => (rejected, boundary)
  | none, none =>
    ({ outcome := .invalidMessage
       protocolRequestId := none, reason := some "invalid protocol request ID" }, boundary)
  | none, some id =>
    let observe (outcome : ProtocolOutcome) (reason : String) : ProtocolObservation :=
      { outcome := outcome
        protocolRequestId := some id, applicationOperationId := some applicationOperationId
        reason := some reason }
    let bound := boundary.bind id (newBinding requestFingerprint request id
      applicationOperationId tenantId resourceId idempotencyKey)
    match sent with
    | .timeoutBeforeSend => (observe .protocolError "timeout before send", bound.unbind id)
    | .timeoutAfterPossibleSend =>
      (observe .outcomeUnknown "timeout after possible send",
        bound.setStatus id .pendingReconciliation)
    | .noResponse =>
      (observe .pendingReconciliation "no response available",
        bound.setStatus id .pendingReconciliation)
    | .response response => bound.correlate responseFingerprint response

def abortBeforeDispatch (id : RequestId) (reason : String) :
    ProtocolObservation × MCPProtocolBoundary :=
  match boundary.bindings.lookup id with
  | none =>
    ({ outcome := .unknownResponse
       protocolRequestId := some id
       reason := some "pre-dispatch abort has no local binding" }, boundary)
  | some binding =>
    let observe (outcome : ProtocolOutcome) (reason : String) : ProtocolObservation :=
      { outcome := outcome
        protocolRequestId := some id, applicationOperationId := some binding.applicationOperationId
        reason := some reason }
    if boundary.bindingStatus.lookup id ≠ some .pending then
      (observe .conflict "only a pending binding can abort before dispatch", boundary)
    else (observe .preDispatchAborted reason, boundary.setStatus id .abortedPreDispatch)

def markOutcomeUnknown (id : RequestId) (reason : String) :
    ProtocolObservation × MCPProtocolBoundary :=
  match boundary.bindings.lookup id with
  | none =>
    ({ outcome := .unknownResponse
       protocolRequestId := some id
       reason := some "unknown outcome has no local binding" }, boundary)
  | some binding =>
    let observe (outcome : ProtocolOutcome) (reason : String) : ProtocolObservation :=
      { outcome := outcome
        protocolRequestId := some id, applicationOperationId := some binding.applicationOperationId
        reason := some reason }
    if boundary.bindingStatus.lookup id ∉ [some .pending, some .pendingReconciliation] then
      (observe .conflict "only a pending attempt can become outcome unknown", boundary)
    else (observe .outcomeUnknown reason, boundary.setStatus id .pendingReconciliation)

end MCPProtocolBoundary

end BackendHandbook.Mcp
