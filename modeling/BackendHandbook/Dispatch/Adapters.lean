import BackendHandbook.Foundation.Dict
import BackendHandbook.Foundation.Text
import Mathlib.Data.Finset.Basic

/-! Capability profiles, the contracts that bind attempts to them, and admission. -/

namespace BackendHandbook.Dispatch

inductive ProviderOutcomeKind
  | success | providerResponseInvalid | refusal | truncation | rateLimited | authenticationError
  | capabilityError | timeoutUnknown | transportError

structure ProviderOutcome where
  kind : ProviderOutcomeKind
  providerRequestId : Option String := none
  detail : String := ""
  safeEvidence : List (String × String) := []

structure ApplicationRequest where
  (jobId applicationContract : String)
  maxOutputTokens : Int
  correlationId : String
  prompt : String := ""

inductive ProfileStatus
  | active | disabled | quarantined | unknown
  deriving DecidableEq

def ProfileStatus.value : ProfileStatus → String
  | .active => "ACTIVE"
  | .disabled => "DISABLED"
  | .quarantined => "QUARANTINED"
  | .unknown => "UNKNOWN"

structure CapabilityProfile where
  (profileId providerName model apiVersion profileVersion adapterVersion : String)
  supportedContracts : Finset String
  requiresRequestIdentity : Bool
  status : ProfileStatus := .active

def CapabilityProfile.supports (profile : CapabilityProfile) (applicationContract : String) :
    Prop :=
  applicationContract ∈ profile.supportedContracts
  deriving Decidable

structure AttemptExecutionContract where
  (attemptId jobId profileId providerName model apiVersion profileVersion adapterVersion
   applicationContract : String)
  deriving DecidableEq

/-- A field that a contract takes over from its profile. -/
structure BindingField where
  name : String
  ofContract : AttemptExecutionContract → String
  ofProfile : CapabilityProfile → String

def bindingFields : List BindingField :=
  [⟨"profile_id", (·.profileId), (·.profileId)⟩,
    ⟨"provider_name", (·.providerName), (·.providerName)⟩,
    ⟨"model", (·.model), (·.model)⟩,
    ⟨"api_version", (·.apiVersion), (·.apiVersion)⟩,
    ⟨"profile_version", (·.profileVersion), (·.profileVersion)⟩,
    ⟨"adapter_version", (·.adapterVersion), (·.adapterVersion)⟩]

def bindingMismatch (contract : AttemptExecutionContract) (profile : CapabilityProfile) :
    Option BindingField :=
  bindingFields.find? fun field => field.ofContract contract ≠ field.ofProfile profile

/-- The profile is as the contract wants it, in all binding fields. -/
structure CapabilityProfile.Agrees (profile : CapabilityProfile)
    (contract : AttemptExecutionContract) : Prop where
  profileId : profile.profileId = contract.profileId
  providerName : profile.providerName = contract.providerName
  model : profile.model = contract.model
  apiVersion : profile.apiVersion = contract.apiVersion
  profileVersion : profile.profileVersion = contract.profileVersion
  adapterVersion : profile.adapterVersion = contract.adapterVersion

variable {contract : AttemptExecutionContract}

theorem bindingMismatch_none {profile : CapabilityProfile} :
    bindingMismatch contract profile = none ↔ profile.Agrees contract := by
  rw [bindingMismatch, List.find?_eq_none]
  simp only [bindingFields, List.forall_mem_cons, List.not_mem_nil, false_imp_iff, implies_true,
    and_true, decide_eq_true_eq, not_not]
  constructor
  · rintro ⟨profileId, providerName, model, apiVersion, profileVersion, adapterVersion⟩
    exact ⟨profileId.symm, providerName.symm, model.symm, apiVersion.symm, profileVersion.symm,
      adapterVersion.symm⟩
  · intro agrees
    exact ⟨agrees.profileId.symm, agrees.providerName.symm, agrees.model.symm,
      agrees.apiVersion.symm, agrees.profileVersion.symm, agrees.adapterVersion.symm⟩

inductive AttemptState
  | planned | dispatched | blockedProfileDisabled
  deriving DecidableEq

structure AttemptRecord where
  contract : AttemptExecutionContract
  state : AttemptState
  deriving DecidableEq

inductive DispatchRaised
  | alreadyRegistered (attemptId : String)
  | duplicateProfile (profileId : String)
  | unknownAttempt (attemptId : String)
  | callerContractDiffers (attemptId : String)
  | notPlanned (attemptId : String) (state : AttemptState)
  | unknownProfile (profileId : String)
  | boundAdapterMismatch (field adapter contract : String)
  | jobMismatch (request contract : String)
  | applicationContractMismatch (request contract : String)
  | fieldMismatch (field adapterProfile contract : String)
  | couldNotBlock (attemptId : String)
  | couldNotDispatch (attemptId : String)
  | programming (message : String)

def validateAttemptBinding (request : ApplicationRequest) (contract : AttemptExecutionContract)
    (profile : CapabilityProfile) : Option DispatchRaised :=
  if request.jobId ≠ contract.jobId then some (.jobMismatch request.jobId contract.jobId)
  else if request.applicationContract ≠ contract.applicationContract then
    some (.applicationContractMismatch request.applicationContract contract.applicationContract)
  else
    (bindingMismatch contract profile).map fun field =>
      .fieldMismatch field.name (field.ofProfile profile) (field.ofContract contract)

theorem validateAttemptBinding_none {request : ApplicationRequest} {profile : CapabilityProfile}
    (valid : validateAttemptBinding request contract profile = none) :
    request.jobId = contract.jobId ∧
      request.applicationContract = contract.applicationContract ∧ profile.Agrees contract := by
  unfold validateAttemptBinding at valid
  split at valid
  · cases valid
  next job =>
  split at valid
  · cases valid
  next application =>
  exact ⟨not_not.mp job, not_not.mp application,
    bindingMismatch_none.mp (Option.map_eq_none_iff.mp valid)⟩

inductive AdmissionResult
  | admitted
  | refused (outcome : ProviderOutcome)

def admitCapability (profile : CapabilityProfile) (applicationContract : String)
    (currentStatus : ProfileStatus) : AdmissionResult :=
  if currentStatus ≠ .active then
    .refused
      { kind := .capabilityError, detail := "profile_not_selectable"
        safeEvidence := [("profile_id", profile.profileId), ("status", currentStatus.value)] }
  else if ¬ profile.supports applicationContract then
    .refused
      { kind := .capabilityError, detail := "contract_not_supported"
        safeEvidence := [("profile_id", profile.profileId), ("contract", applicationContract)] }
  else .admitted

theorem admitCapability_admitted {profile : CapabilityProfile} {applicationContract : String}
    {currentStatus : ProfileStatus}
    (passes : admitCapability profile applicationContract currentStatus = .admitted) :
    currentStatus = .active ∧ profile.supports applicationContract := by
  unfold admitCapability at passes
  split at passes
  · cases passes
  next active =>
  split at passes
  · cases passes
  next supports =>
  exact ⟨not_not.mp active, not_not.mp supports⟩

/-! The adapters of the two providers: what they send, and what they make of the answer. -/

inductive ExecutionCertainty
  | definitelyNotSent | executionUnknown
  deriving DecidableEq

inductive WireValue
  | text (value : String)
  | number (value : Int)
  | other
  deriving DecidableEq

def retryAfterMaxSeconds : Nat := 86400

def retryAfterMaxLen : Nat := 8

def normalizeRetryAfter : WireValue → Option String
  | .text value =>
    if ¬ (1 ≤ value.length ∧ value.length ≤ retryAfterMaxLen) then none
    else if value.toList.any (! ·.isDigit) then none
    else
      let seconds := Nat.ofDigitChars 10 value.toList 0
      if seconds > retryAfterMaxSeconds then none else some (toString seconds)
  | _ => none

def requestIdMaxLen : Nat := 128

def requestIdAllowed (c : Char) : Bool := c.isAlphanum || c == '-' || c == '_' || c == '.'

def normalizeRequestId : WireValue → Option String
  | .text value =>
    if ¬ (1 ≤ value.length ∧ value.length ≤ requestIdMaxLen) then none
    else if value.toList.any (! requestIdAllowed ·) then none
    else some value
  | _ => none

/-- The failures that an adapter tells apart, by the classes of the SDK of provider A. Those of
provider B are `Throttled`, `Unauthorized`, `DeadlineExceeded`, `NetworkError` and `Declined`. -/
inductive SDKClass
  | rateLimited | authFailed | timedOut | connectionError | refused
  deriving DecidableEq

/-- An instance of the base of the exceptions of an SDK: the enumerated classes that it is an
instance of, and its attributes, which a subclass may set or lack. -/
structure SDKError where
  classes : Finset SDKClass
  executionCertainty : Option ExecutionCertainty
  (retryAfter requestId : Option WireValue)

/-- What a send leads to: a response, an error of the SDK of the provider, or anything else that
is raised. -/
inductive Sent
  | response (wire : Dict String WireValue)
  | sdkError (error : SDKError)
  | raised (message : String)

/-- The words of a provider: the fields of its requests and responses, and the details that its
adapter gives for its failures. -/
structure Dialect where
  (label modelField maxTokensField inputField traceField identityField finishField lengthState
   stopState rateLimited authFailed timedOut connectionError refused unknownFinish : String)

def providerA : Dialect :=
  { label := "provider_a"
    modelField := "model", maxTokensField := "max_tokens", inputField := "input"
    traceField := "trace", identityField := "id", finishField := "finish_reason"
    lengthState := "length", stopState := "stop", rateLimited := "provider_a_rate_limited"
    authFailed := "provider_a_auth_failed", timedOut := "provider_a_timeout"
    connectionError := "provider_a_connection_error", refused := "provider_a_refused"
    unknownFinish := "unknown_finish_reason" }

def providerB : Dialect :=
  { label := "provider_b"
    modelField := "modelId", maxTokensField := "maxOutputTokens", inputField := "content"
    traceField := "correlationId", identityField := "responseId", finishField := "completionState"
    lengthState := "MAX_TOKENS", stopState := "COMPLETE", rateLimited := "provider_b_throttled"
    authFailed := "provider_b_unauthorized", timedOut := "provider_b_deadline_exceeded"
    connectionError := "provider_b_network_error", refused := "provider_b_declined"
    unknownFinish := "unknown_completion_state" }

abbrev WireRequest := List (String × WireValue)

def mapUnknownSDKError (error : SDKError) (label : String) : ProviderOutcome :=
  if error.executionCertainty = some .definitelyNotSent then
    { kind := .transportError, detail := label ++ "_unknown_sdk_not_sent" }
  else { kind := .timeoutUnknown, detail := label ++ "_unknown_sdk_execution_unknown" }

section Translation

variable (dialect : Dialect) (profile : CapabilityProfile)

def buildWireRequest (request : ApplicationRequest) : WireRequest :=
  [(dialect.modelField, .text profile.model),
    (dialect.maxTokensField, .number request.maxOutputTokens),
    (dialect.inputField, .text request.prompt), (dialect.traceField, .text request.correlationId)]

def translateOutcome (wire : Dict String WireValue) : ProviderOutcome :=
  let reqId := (wire.lookup dialect.identityField).bind normalizeRequestId
  if profile.requiresRequestIdentity = true ∧ Text.truthy reqId = false then
    { kind := .providerResponseInvalid, detail := "missing_provider_request_id" }
  else if wire.lookup dialect.finishField = some (.text dialect.lengthState) then
    { kind := .truncation, providerRequestId := reqId
      detail := dialect.finishField ++ "=" ++ dialect.lengthState }
  else if wire.lookup dialect.finishField = some (.text dialect.stopState) then
    { kind := .success, providerRequestId := reqId
      detail := dialect.finishField ++ "=" ++ dialect.stopState }
  else
    { kind := .providerResponseInvalid, providerRequestId := reqId
      detail := dialect.unknownFinish }

/-- An attribute that the class of an error sets: without it, the handler itself raises. -/
def getAttribute (name : String) : Option WireValue → Except DispatchRaised WireValue
  | some value => .ok value
  | none => .error (.programming name)

def retryEvidence (value : WireValue) : List (String × String) :=
  match normalizeRetryAfter value with
  | some retryAfter => [("retry_after", retryAfter)]
  | none => []

/-- The handlers of `execute`, in their order: the first class that the error is of counts. -/
def handle (error : SDKError) : Except DispatchRaised ProviderOutcome :=
  if .rateLimited ∈ error.classes then
    (getAttribute "retry_after" error.retryAfter).map fun value =>
      { kind := .rateLimited, detail := dialect.rateLimited, safeEvidence := retryEvidence value }
  else if .authFailed ∈ error.classes then
    .ok { kind := .authenticationError, detail := dialect.authFailed }
  else if .timedOut ∈ error.classes then
    (getAttribute "request_id" error.requestId).map fun value =>
      { kind := .timeoutUnknown, providerRequestId := normalizeRequestId value
        detail := dialect.timedOut }
  else if .connectionError ∈ error.classes then
    .ok { kind := .transportError, detail := dialect.connectionError }
  else if .refused ∈ error.classes then
    .ok { kind := .refusal, detail := dialect.refused }
  else .ok (mapUnknownSDKError error dialect.label)

/-- What `execute` returns or raises behind its send. -/
def concludeSend : Sent → Except DispatchRaised ProviderOutcome
  | .response wire => .ok (translateOutcome dialect profile wire)
  | .sdkError error => handle dialect error
  | .raised message => .error (.programming message)

end Translation

section Mapping

variable {dialect : Dialect} {profile : CapabilityProfile} {α : Type}

theorem translateOutcome_kind (wire : Dict String WireValue) :
    (translateOutcome dialect profile wire).kind ≠ .transportError := by
  unfold translateOutcome
  dsimp only
  split
  · nofun
  split
  · nofun
  split
  · nofun
  · nofun

theorem mapUnknownSDKError_kind (error : SDKError) (label : String) :
    (mapUnknownSDKError error label).kind = .transportError ↔
      error.executionCertainty = some .definitelyNotSent := by
  unfold mapUnknownSDKError
  split
  · next certified => exact iff_of_true rfl certified
  · next other => exact iff_of_false nofun other

/-- What is sent is answered by one outcome, and by an error of the transport only where the SDK
certifies that nothing was sent. What is raised besides the errors of the SDK stays raised. -/
def Mapped (dialect : Dialect) (profile : CapabilityProfile) : Sent → Prop
  | .response wire => ∃ outcome, concludeSend dialect profile (.response wire) = .ok outcome ∧
      outcome.kind ≠ .transportError
  | .sdkError error => ∃ outcome, concludeSend dialect profile (.sdkError error) = .ok outcome ∧
      (outcome.kind = .transportError → error.executionCertainty = some .definitelyNotSent)
  | .raised _ => True

/-- The error is not caught by a handler of a class before this one. -/
def SDKError.CaughtAs (error : SDKError) (handled : SDKClass) (earlier : List SDKClass) : Prop :=
  handled ∈ error.classes ∧ ∀ other ∈ earlier, other ∉ error.classes

/-- A connection error is one that certifies that nothing was sent, and a rate limit and a timeout
have the attribute that their classes set. -/
structure SDKError.Certified (error : SDKError) : Prop where
  connection : error.CaughtAs .connectionError [.rateLimited, .authFailed, .timedOut] →
    error.executionCertainty = some .definitelyNotSent
  retryAfter : error.CaughtAs .rateLimited [] → error.retryAfter.isSome = true
  requestId : error.CaughtAs .timedOut [.rateLimited, .authFailed] → error.requestId.isSome = true

def Sent.Certified : Sent → Prop
  | .sdkError error => error.Certified
  | _ => True

theorem getAttribute_ok {name : String} {stored : Option WireValue} {view : WireValue → α} :
    (∃ result, (getAttribute name stored).map view = .ok result) ↔ stored.isSome = true := by
  cases stored with
  | none => exact iff_of_false nofun nofun
  | some value => exact iff_of_true ⟨view value, rfl⟩ rfl

/-- An error is mapped as it should be exactly where it is certified. -/
theorem handle_mapped_iff (error : SDKError) :
    Mapped dialect profile (.sdkError error) ↔ error.Certified := by
  change (∃ outcome, handle dialect error = .ok outcome ∧ (outcome.kind = .transportError →
    error.executionCertainty = some .definitelyNotSent)) ↔ _
  unfold handle
  split
  · next limited =>
    constructor
    · rintro ⟨outcome, returned, _⟩
      exact { connection := fun caught => absurd limited (caught.2 _ (by simp))
              retryAfter := fun _ => getAttribute_ok.mp ⟨outcome, returned⟩
              requestId := fun caught => absurd limited (caught.2 _ (by simp)) }
    · intro certified
      rcases Option.isSome_iff_exists.mp (certified.retryAfter ⟨limited, nofun⟩) with
        ⟨value, stored⟩
      rw [stored]
      exact ⟨_, rfl, nofun⟩
  next limited =>
  split
  · next denied =>
    apply iff_of_true ⟨_, rfl, nofun⟩
    exact { connection := fun caught => absurd denied (caught.2 _ (by simp))
            retryAfter := fun caught => absurd caught.1 limited
            requestId := fun caught => absurd denied (caught.2 _ (by simp)) }
  next denied =>
  split
  · next late =>
    constructor
    · rintro ⟨outcome, returned, _⟩
      exact { connection := fun caught => absurd late (caught.2 _ (by simp))
              retryAfter := fun caught => absurd caught.1 limited
              requestId := fun _ => getAttribute_ok.mp ⟨outcome, returned⟩ }
    · intro certified
      rcases Option.isSome_iff_exists.mp
        (certified.requestId ⟨late, by simp [limited, denied]⟩) with ⟨_, stored⟩
      rw [stored]
      exact ⟨_, rfl, nofun⟩
  next late =>
  split
  · next broken =>
    constructor
    · rintro ⟨_, returned, certifies⟩
      cases returned
      exact { connection := fun _ => certifies rfl
              retryAfter := fun caught => absurd caught.1 limited
              requestId := fun caught => absurd caught.1 late }
    · intro certified
      exact ⟨_, rfl, fun _ => certified.connection ⟨broken, by simp [limited, denied, late]⟩⟩
  next broken =>
  have certified : error.Certified :=
    { connection := fun caught => absurd caught.1 broken
      retryAfter := fun caught => absurd caught.1 limited
      requestId := fun caught => absurd caught.1 late }
  split
  · exact iff_of_true ⟨_, rfl, nofun⟩ certified
  · exact iff_of_true ⟨_, rfl, (mapUnknownSDKError_kind error _).mp⟩ certified

theorem mapped_iff (sent : Sent) : Mapped dialect profile sent ↔ sent.Certified := by
  cases sent with
  | response wire => exact iff_of_true ⟨_, rfl, translateOutcome_kind wire⟩ trivial
  | sdkError => exact handle_mapped_iff _
  | raised => exact Iff.rfl

end Mapping

end BackendHandbook.Dispatch
