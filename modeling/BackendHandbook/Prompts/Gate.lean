import BackendHandbook.Foundation.Dict
import BackendHandbook.Foundation.Operations
import BackendHandbook.Foundation.PlainJson
import BackendHandbook.Foundation.Sorting
import Mathlib.Data.Finset.Basic

/-! Prompt contracts: declared variables, deterministic rendering, and the binding of an attempt to
the hashes of its input and of its rendered messages. -/

namespace BackendHandbook.Prompts

open Json (Plain dumps)
open Sorting

inductive MessageRole
  | system | user | assistant
  deriving DecidableEq

def MessageRole.value : MessageRole → String
  | .system => "system"
  | .user => "user"
  | .assistant => "assistant"

inductive PromptStatus
  | active | disabled | quarantined | unknown
  deriving DecidableEq

inductive VariableType
  | str | int | bool | enum
  deriving DecidableEq

inductive Scalar
  | none
  | str (value : String)
  | int (value : Int)
  | bool (value : Bool)
  deriving DecidableEq

/-- A value as it is handed in; one of another type is known by a token. -/
inductive VariableValue
  | scalar (value : Scalar)
  | other (token : String)
  deriving DecidableEq

structure VariableSpec where
  name : String
  type : VariableType := .str
  required : Bool := true
  default : VariableValue := .scalar .none
  allowed : Option (Finset String) := none
  no_default : required = true → default = .scalar .none
  enumerated : type = .enum → ∃ values, allowed = some values ∧ values ≠ ∅

structure MessageTemplate where
  role : MessageRole
  text : String
  deriving DecidableEq

structure PromptContractRevision where
  (promptContractId revision : String)
  messages : List MessageTemplate
  variableSpecs : List VariableSpec
  (compatibleApplicationContracts semanticGuarantees : Finset String)
  rendererVersion : String
  status : PromptStatus := .active

inductive PromptVariableError
  | unknownVariable (name promptContractId revision : String)
  | missingRequired (name : String)
  | wrongType (name : String) (type : VariableType)
  | notAllowed (name : String) (value : VariableValue) (allowed : Option (Finset String))
  | absentPlaceholder (key : String)

/-- What the formatting of a template raises. -/
inductive FormatRaised
  | variable (error : PromptVariableError)
  | other (message : String)

/-- SHA-256, and `string.Formatter().vformat` of a template on the texts of the variables. -/
structure PromptRuntime where
  sha256 : String → String
  vformat : String → Dict String String → Except FormatRaised String

abbrev Variables := Dict String VariableValue

def checkType (spec : VariableSpec) (value : VariableValue) : Except PromptVariableError Scalar :=
  if value = .scalar .none ∧ spec.required = false then .ok .none
  else
    match spec.type, value with
    | .str, .scalar (.str text) => .ok (.str text)
    | .str, _ => .error (.wrongType spec.name .str)
    | .int, .scalar (.int number) => .ok (.int number)
    | .int, _ => .error (.wrongType spec.name .int)
    | .bool, .scalar (.bool truth) => .ok (.bool truth)
    | .bool, _ => .error (.wrongType spec.name .bool)
    | .enum, .scalar (.str text) =>
      if ∃ values ∈ spec.allowed, text ∈ values then .ok (.str text)
      else .error (.notAllowed spec.name value spec.allowed)
    | .enum, _ => .error (.notAllowed spec.name value spec.allowed)

/-- The value of a declared variable: as handed in, or its default. -/
def fill (variableMap : Variables) (spec : VariableSpec) : Except PromptVariableError Scalar :=
  match variableMap.lookup spec.name with
  | some value => checkType spec value
  | none =>
    if spec.required then .error (.missingRequired spec.name) else checkType spec spec.default

def resolve (variableMap : Variables) :
    List VariableSpec → Dict String Scalar → Except PromptVariableError (Dict String Scalar)
  | [], resolved => .ok resolved
  | spec :: specs, resolved =>
    match fill variableMap spec with
    | .error error => .error error
    | .ok value => resolve variableMap specs (resolved.insert spec.name value)

def validateAndFillVariables (revision : PromptContractRevision) (variableMap : Variables) :
    Except PromptVariableError (Dict String Scalar) :=
  match variableMap.keys.find? fun name => name ∉ revision.variableSpecs.map (·.name) with
  | some name => .error (.unknownVariable name revision.promptContractId revision.revision)
  | none => resolve variableMap revision.variableSpecs ∅

structure RenderedMessage where
  role : MessageRole
  content : String

namespace Scalar

/-- `str(v)`, and nothing for `None`. -/
def text : Scalar → String
  | .none => ""
  | .str value => value
  | .int value => toString value
  | .bool true => "True"
  | .bool false => "False"

def plain : Scalar → Plain
  | .none => .null
  | .str value => .text value
  | .int value => .integer value
  | .bool value => .boolean value

end Scalar

section Runtime

variable (runtime : PromptRuntime)

/-- The messages of a template, in their order. -/
def formatMessages (texts : Dict String String) :
    List MessageTemplate → Except FormatRaised (List RenderedMessage)
  | [] => .ok []
  | message :: messages =>
    match runtime.vformat message.text texts with
    | .error raised => .error raised
    | .ok content =>
      match formatMessages texts messages with
      | .error raised => .error raised
      | .ok rendered => .ok ({ role := message.role, content } :: rendered)

def formatTexts (resolved : Dict String Scalar) : Dict String String :=
  ⟨resolved.entries.map fun entry => ⟨entry.1, entry.2.text⟩, by
    rw [List.NodupKeys, List.keys, List.map_map]
    exact resolved.nodupKeys⟩

def renderMessages (revision : PromptContractRevision) (variableMap : Variables) :
    Except FormatRaised (List RenderedMessage) :=
  match validateAndFillVariables revision variableMap with
  | .error error => .error (.variable error)
  | .ok resolved => formatMessages runtime (formatTexts resolved) revision.messages

def sortedVariables (resolved : Dict String Scalar) : List (String × Plain) :=
  (sortBy (fun entry : (_ : String) × Scalar => entry.1) resolved.entries).map fun entry =>
    (entry.1, entry.2.plain)

variable (revision : PromptContractRevision)

def inputPayload (resolved : Dict String Scalar) : Plain :=
  .object
    [("pc", .text revision.promptContractId), ("rev", .text revision.revision),
     ("vars", .object (sortedVariables resolved))]

def computeInputFingerprint (variableMap : Variables) : Except PromptVariableError String :=
  match validateAndFillVariables revision variableMap with
  | .error error => .error error
  | .ok resolved => .ok ("sha256:" ++ runtime.sha256 (dumps (inputPayload revision resolved)))

def messagesPayload (messages : List RenderedMessage) : Plain :=
  .array (messages.map fun message => .array [.text message.role.value, .text message.content])

def computeRenderedHash (messages : List RenderedMessage) : String :=
  "sha256:" ++ runtime.sha256 (dumps (messagesPayload messages))

structure AttemptPromptBinding where
  (attemptId jobId promptContractId revision rendererVersion parameterPolicyId
   parameterPolicyRevision applicationContract inputFingerprint renderedMessageHash : String)
  renderedArtifactRef : Option String := none
  deriving DecidableEq

structure Planning where
  (attemptId jobId : String)
  revision : PromptContractRevision
  (parameterPolicyId parameterPolicyRevision applicationContract : String)
  variableMap : Variables
  renderedArtifactRef : Option String := none

def planAttemptBinding (planning : Planning) :
    Except FormatRaised (AttemptPromptBinding × List RenderedMessage) :=
  match renderMessages runtime planning.revision planning.variableMap with
  | .error raised => .error raised
  | .ok messages =>
    match computeInputFingerprint runtime planning.revision planning.variableMap with
    | .error error => .error (.variable error)
    | .ok inputFingerprint => .ok
        ({ attemptId := planning.attemptId
           jobId := planning.jobId, promptContractId := planning.revision.promptContractId
           revision := planning.revision.revision
           rendererVersion := planning.revision.rendererVersion
           parameterPolicyId := planning.parameterPolicyId
           parameterPolicyRevision := planning.parameterPolicyRevision
           applicationContract := planning.applicationContract
           inputFingerprint
           renderedMessageHash := computeRenderedHash runtime messages
           renderedArtifactRef := planning.renderedArtifactRef },
         messages)

end Runtime

/-! The gate before a provider call, over the attempts, the published revisions, their lifecycle
and the default revisions: operations that interleave call by call. -/

open Interleaving

inductive AttemptPromptState
  | planned | dispatched | blockedPromptDisabled
  deriving DecidableEq

structure AttemptPromptRecord where
  binding : AttemptPromptBinding
  state : AttemptPromptState
  deriving DecidableEq

/-- A value as `==` sees it: a truth value is the number that it equals. -/
def VariableValue.comparand : VariableValue → VariableValue
  | .scalar (.bool truth) => .scalar (.int truth.toNat)
  | value => value

structure SpecComparand where
  name : String
  type : VariableType
  required : Bool
  default : VariableValue
  allowed : Option (Finset String)
  deriving DecidableEq

/-- The parts of a revision that `==` compares. -/
structure RevisionComparand where
  (promptContractId revision : String)
  messages : List MessageTemplate
  variableSpecs : List SpecComparand
  (compatibleApplicationContracts semanticGuarantees : Finset String)
  rendererVersion : String
  status : PromptStatus
  deriving DecidableEq

def PromptContractRevision.comparand (revision : PromptContractRevision) : RevisionComparand :=
  { promptContractId := revision.promptContractId
    revision := revision.revision, messages := revision.messages
    variableSpecs := revision.variableSpecs.map fun spec =>
      { name := spec.name, type := spec.type, required := spec.required
        default := spec.default.comparand, allowed := spec.allowed }
    compatibleApplicationContracts := revision.compatibleApplicationContracts
    semanticGuarantees := revision.semanticGuarantees, rendererVersion := revision.rendererVersion
    status := revision.status }

variable (revision : PromptContractRevision)

def PromptContractRevision.key : String × String := (revision.promptContractId, revision.revision)

def PromptContractRevision.supportsContract (applicationContract : String) : Prop :=
  applicationContract ∈ revision.compatibleApplicationContracts
  deriving Decidable

/-- The attempts, the registry with its defaults, and the lifecycle. -/
structure PromptState where
  records : Dict String AttemptPromptRecord := ∅
  revisions : Dict (String × String) PromptContractRevision := ∅
  default : Dict String String := ∅
  status : Dict (String × String) PromptStatus := ∅

inductive PromptRaised
  | alreadyPlanned (attemptId : String)
  | notPlanned (attemptId : String)
  | notPlannedState (attemptId : String) (state : AttemptPromptState)
  | couldNotBlock (attemptId : String)
  | couldNotDispatch (attemptId : String)
  | immutableRevision (key : String × String)
  | unpublishedDefault (key : String × String)
  | resolvedRevisionDiffers (resolved bound : String × String)
  | rendererVersionDiffers (revision bound : String)
  | format (raised : FormatRaised)

inductive PromptCall
  | plan (binding : AttemptPromptBinding)
  | getRecord (attemptId : String)
  | compareAndSet (binding : AttemptPromptBinding) (expected new : AttemptPromptState)
  | getRevision (key : String × String)
  | status (key : String × String)
  | publishRevision (revision : PromptContractRevision)
  | register (revision : PromptContractRevision)
  | publishDefault (revision : PromptContractRevision) (makeDefault : Bool)
  | setDefaultRevision (promptContractId revision : String)
  | setStatus (key : String × String) (status : PromptStatus)

def PromptAnswer : PromptCall → Type
  | .plan _ => Except PromptRaised Unit
  | .getRecord _ => Option AttemptPromptRecord
  | .compareAndSet .. => Bool
  | .getRevision _ => Option PromptContractRevision
  | .status _ => PromptStatus
  | .publishRevision _ => Except PromptRaised Unit
  | .register _ => Unit
  | .publishDefault .. => Unit
  | .setDefaultRevision .. => Except PromptRaised Unit
  | .setStatus .. => Unit

def AttemptPromptRecord.Expected (record : Option AttemptPromptRecord)
    (binding : AttemptPromptBinding) (expected : AttemptPromptState) : Prop :=
  record = some ⟨binding, expected⟩
  deriving Decidable

def PromptState.statusOf (state : PromptState) (key : String × String) : PromptStatus :=
  (state.status.lookup key).getD .unknown

def PromptState.perform : (call : PromptCall) → PromptState → PromptAnswer call × PromptState
  | .plan binding, state =>
    match state.records.lookup binding.attemptId with
    | some _ => (.error (.alreadyPlanned binding.attemptId), state)
    | none =>
      (.ok (), { state with
        records := state.records.insert binding.attemptId ⟨binding, .planned⟩ })
  | .getRecord attemptId, state => (state.records.lookup attemptId, state)
  | .compareAndSet binding expected new, state =>
    if AttemptPromptRecord.Expected (state.records.lookup binding.attemptId) binding expected then
      (true, { state with records := state.records.insert binding.attemptId ⟨binding, new⟩ })
    else (false, state)
  | .getRevision key, state => (state.revisions.lookup key, state)
  | .status key, state => (state.statusOf key, state)
  | .publishRevision revision, state =>
    match state.revisions.lookup revision.key with
    | some existing =>
      if existing.comparand = revision.comparand then
        (.ok (), { state with revisions := state.revisions.insert revision.key revision })
      else (.error (.immutableRevision revision.key), state)
    | none => (.ok (), { state with revisions := state.revisions.insert revision.key revision })
  | .register revision, state =>
    ((), { state with status := state.status.setdefault revision.key revision.status })
  | .publishDefault revision makeDefault, state =>
    if makeDefault = true ∨ revision.promptContractId ∉ state.default then
      ((), { state with
        default := state.default.insert revision.promptContractId revision.revision })
    else ((), state)
  | .setDefaultRevision promptContractId revision, state =>
    if (promptContractId, revision) ∈ state.revisions then
      (.ok (), { state with default := state.default.insert promptContractId revision })
    else (.error (.unpublishedDefault (promptContractId, revision)), state)
  | .setStatus key status, state => ((), { state with status := state.status.insert key status })

inductive PromptGateOutcome
  | ready | bindingMismatch | unknownPrompt | blockedPromptDisabled | incompatibleContract
  | variableInvalid | inputFingerprintMismatch | renderHashMismatch
  deriving DecidableEq

/-- What the detail of a result tells. -/
inductive GateDetail
  | text (message : String)
  | unknownRevision (key : String × String)
  | boundRevisionIs (status : PromptStatus)
  | unsupported (applicationContract : String)
  | variable (error : PromptVariableError)

structure PromptGateResult where
  outcome : PromptGateOutcome
  providerCalls : Nat
  attemptState : AttemptPromptState
  detail : GateDetail
  renderedMessageHash : Option String := none

abbrev PromptProgram := Program PromptCall PromptAnswer Empty Empty.elim

section Gate

variable (runtime : PromptRuntime)

/-- `validate_attempt_prompt_binding`: how the revision differs from the bound one. -/
def bindingError (binding : AttemptPromptBinding) (revision : PromptContractRevision) :
    Option PromptRaised :=
  if revision.key ≠ (binding.promptContractId, binding.revision) then
    some (.resolvedRevisionDiffers revision.key (binding.promptContractId, binding.revision))
  else if revision.rendererVersion ≠ binding.rendererVersion then
    some (.rendererVersionDiffers revision.rendererVersion binding.rendererVersion)
  else none

def rejected (outcome : PromptGateOutcome) (state : AttemptPromptState) (detail : GateDetail) :
    PromptProgram (Except PromptRaised PromptGateResult) :=
  .done (.ok { outcome, providerCalls := 0, attemptState := state, detail })

variable (authoritative : AttemptPromptBinding)

/-- The guarded transition to `DISPATCHED`. -/
def dispatch : PromptProgram (Except PromptRaised PromptGateResult) :=
  .call (.compareAndSet authoritative .planned .dispatched) fun (moved : Bool) =>
  if moved then
    .done (.ok
      { outcome := .ready, providerCalls := 1, attemptState := .dispatched
        detail := .text "rendered + verified"
        renderedMessageHash := some authoritative.renderedMessageHash })
  else .done (.error (.couldNotDispatch authoritative.attemptId))

def verify (revision : PromptContractRevision)
    (variableMap : Variables) : PromptProgram (Except PromptRaised PromptGateResult) :=
  match computeInputFingerprint runtime revision variableMap with
  | .error error => rejected .variableInvalid .planned (.variable error)
  | .ok inputFingerprint =>
  match renderMessages runtime revision variableMap with
  | .error (.variable error) => rejected .variableInvalid .planned (.variable error)
  | .error (.other message) => .done (.error (.format (.other message)))
  | .ok messages =>
  if inputFingerprint ≠ authoritative.inputFingerprint then
    rejected .inputFingerprintMismatch .planned
      (.text "validated inputs do not match the bound input fingerprint")
  else if computeRenderedHash runtime messages ≠ authoritative.renderedMessageHash then
    rejected .renderHashMismatch .planned
      (.text "re-render does not match the bound rendered hash")
  else dispatch authoritative

def checkBound (variableMap : Variables) : PromptProgram (Except PromptRaised PromptGateResult) :=
  let key := (authoritative.promptContractId, authoritative.revision)
  .call (.getRevision key) fun (revision : Option PromptContractRevision) =>
  match revision with
  | none => rejected .unknownPrompt .planned (.unknownRevision key)
  | some revision =>
  .call (.status key) fun (status : PromptStatus) =>
  if status = .unknown then
    rejected .unknownPrompt .planned (.text "bound revision unknown to lifecycle")
  else if status ≠ .active then
    .call (.compareAndSet authoritative .planned .blockedPromptDisabled) fun (moved : Bool) =>
    if moved then rejected .blockedPromptDisabled .blockedPromptDisabled (.boundRevisionIs status)
    else .done (.error (.couldNotBlock authoritative.attemptId))
  else
    match bindingError authoritative revision with
    | some raised => .done (.error raised)
    | none =>
    if ¬ revision.supportsContract authoritative.applicationContract then
      rejected .incompatibleContract .planned (.unsupported authoritative.applicationContract)
    else verify runtime authoritative revision variableMap

def prepareDispatch (requestBinding : AttemptPromptBinding) (variableMap : Variables) :
    PromptProgram (Except PromptRaised PromptGateResult) :=
  .call (.getRecord requestBinding.attemptId) fun (record : Option AttemptPromptRecord) =>
  match record with
  | none => .done (.error (.notPlanned requestBinding.attemptId))
  | some record =>
  if requestBinding ≠ record.binding then
    rejected .bindingMismatch record.state
      (.text "caller binding does not match the persisted Attempt binding")
  else if record.state ≠ .planned then
    .done (.error (.notPlannedState record.binding.attemptId record.state))
  else checkBound runtime record.binding variableMap

/-- What workers, publishers and operators do. -/
inductive PromptOperation
  | plan (planning : Planning)
  | prepareDispatch (requestBinding : AttemptPromptBinding) (variableMap : Variables)
  | publish (revision : PromptContractRevision) (makeDefault : Bool)
  | setDefaultRevision (promptContractId revision : String)
  | setStatus (key : String × String) (status : PromptStatus)

inductive PromptResult
  | planned (answer : Except PromptRaised (List RenderedMessage))
  | gate (answer : Except PromptRaised PromptGateResult)
  | written (answer : Except PromptRaised Unit)

def plan (planning : Planning) : PromptProgram PromptResult :=
  match planAttemptBinding runtime planning with
  | .error raised => .done (.planned (.error (.format raised)))
  | .ok (binding, messages) =>
    .call (.plan binding) fun (answer : Except PromptRaised Unit) =>
    .done (.planned (answer.map fun _ => messages))

def publish (revision : PromptContractRevision) (makeDefault : Bool) : PromptProgram PromptResult :=
  .call (.publishRevision revision) fun (answer : Except PromptRaised Unit) =>
  match answer with
  | .error raised => .done (.written (.error raised))
  | .ok _ =>
    .call (.register revision) fun _ =>
    .call (.publishDefault revision makeDefault) fun _ =>
    .done (.written (.ok ()))

def PromptOperation.program : PromptOperation → PromptProgram PromptResult
  | .plan planning => Prompts.plan runtime planning
  | .prepareDispatch requestBinding variableMap =>
    (Prompts.prepareDispatch runtime requestBinding variableMap).map .gate
  | .publish revision makeDefault => Prompts.publish revision makeDefault
  | .setDefaultRevision promptContractId revision =>
    .call (.setDefaultRevision promptContractId revision) fun answer => .done (.written answer)
  | .setStatus key status => .call (.setStatus key status) fun _ => .done (.written (.ok ()))

abbrev PromptMove := Move PromptOperation Empty Empty.elim

end Gate

end BackendHandbook.Prompts
