import BackendHandbook.Dispatch.Adapters
import BackendHandbook.Foundation.Operations

/-! Dispatching an attempt, over the store of the attempts, the registry of the adapters, the
lifecycle of the profiles and the transports: operations that interleave call by call. -/

namespace BackendHandbook.Dispatch

open Interleaving

/-- An adapter: the object that it is, the provider whose words it speaks, and its profile. -/
structure Adapter where
  object : Nat
  dialect : Dialect
  spoken : dialect = providerA ∨ dialect = providerB
  profile : CapabilityProfile

/-- The requests that the transports have been handed so far. -/
abbrev SentLog := List (Adapter × WireRequest)

/-- The attempts, the registry with its lifecycle, and the transports, which answer as they like. -/
structure DispatchState where
  records : Dict String AttemptRecord := ∅
  byProfile : Dict String Adapter := ∅
  status : Dict String ProfileStatus := ∅
  sent : SentLog := []
  transport : SentLog → Adapter → WireRequest → Sent

inductive DispatchCall
  | plan (contract : AttemptExecutionContract)
  | getRecord (attemptId : String)
  | compareAndSet (contract : AttemptExecutionContract) (expected new : AttemptState)
  | registerAdapter (adapter : Adapter)
  | registerProfile (profile : CapabilityProfile)
  | resolveBoundAttempt (contract : AttemptExecutionContract)
  | status (profileId : String)
  | setStatus (profileId : String) (status : ProfileStatus)
  | send (adapter : Adapter) (wire : WireRequest)

def DispatchAnswer : DispatchCall → Type
  | .plan _ => Except DispatchRaised Unit
  | .getRecord _ => Option AttemptRecord
  | .compareAndSet .. => Bool
  | .registerAdapter _ => Except DispatchRaised Unit
  | .registerProfile _ => Unit
  | .resolveBoundAttempt _ => Except DispatchRaised Adapter
  | .status _ => ProfileStatus
  | .setStatus .. => Unit
  | .send .. => Sent

def AttemptRecord.Expected (record : Option AttemptRecord) (contract : AttemptExecutionContract)
    (expected : AttemptState) : Prop :=
  record = some ⟨contract, expected⟩
  deriving Decidable

def DispatchState.statusOf (state : DispatchState) (profileId : String) : ProfileStatus :=
  (state.status.lookup profileId).getD .unknown

def DispatchState.resolve (state : DispatchState) (contract : AttemptExecutionContract) :
    Except DispatchRaised Adapter :=
  match state.byProfile.lookup contract.profileId with
  | none => .error (.unknownProfile contract.profileId)
  | some adapter =>
    match bindingMismatch contract adapter.profile with
    | some field => .error (.boundAdapterMismatch field.name (field.ofProfile adapter.profile)
        (field.ofContract contract))
    | none => .ok adapter

def Adapter.Conflicts (adapter : Adapter) (existing : Option Adapter) : Prop :=
  ∃ other ∈ existing, other.object ≠ adapter.object

instance (adapter : Adapter) (existing : Option Adapter) : Decidable (adapter.Conflicts existing) :=
  inferInstanceAs (Decidable (∃ other ∈ existing, other.object ≠ adapter.object))

def DispatchState.perform :
    (call : DispatchCall) → DispatchState → DispatchAnswer call × DispatchState
  | .plan contract, state =>
    match state.records.lookup contract.attemptId with
    | some _ => (.error (.alreadyRegistered contract.attemptId), state)
    | none =>
      (.ok (), { state with
        records := state.records.insert contract.attemptId ⟨contract, .planned⟩ })
  | .getRecord attemptId, state => (state.records.lookup attemptId, state)
  | .compareAndSet contract expected new, state =>
    if AttemptRecord.Expected (state.records.lookup contract.attemptId) contract expected then
      (true, { state with records := state.records.insert contract.attemptId ⟨contract, new⟩ })
    else (false, state)
  | .registerAdapter adapter, state =>
    if adapter.Conflicts (state.byProfile.lookup adapter.profile.profileId) then
      (.error (.duplicateProfile adapter.profile.profileId), state)
    else
      (.ok (), { state with
        byProfile := state.byProfile.insert adapter.profile.profileId adapter })
  | .registerProfile profile, state =>
    ((), { state with status := state.status.setdefault profile.profileId profile.status })
  | .resolveBoundAttempt contract, state => (state.resolve contract, state)
  | .status profileId, state => (state.statusOf profileId, state)
  | .setStatus profileId status, state =>
    ((), { state with status := state.status.insert profileId status })
  | .send adapter wire, state =>
    (state.transport state.sent adapter wire,
      { state with sent := state.sent ++ [(adapter, wire)] })

structure DispatchResult where
  outcome : ProviderOutcome
  providerCalls : Nat
  attemptState : AttemptState

abbrev DispatchProgram := Program DispatchCall DispatchAnswer Empty Empty.elim

/-- `execute`, and the result of the dispatch. -/
def send (adapter : Adapter) (request : ApplicationRequest) :
    DispatchProgram (Except DispatchRaised DispatchResult) :=
  .call (.send adapter (buildWireRequest adapter.dialect adapter.profile request))
    fun (sent : Sent) =>
  .done ((concludeSend adapter.dialect adapter.profile sent).map fun outcome =>
    { outcome, providerCalls := 1, attemptState := .dispatched })

/-- The guarded transition to `DISPATCHED`, and the one external call behind it. -/
def dispatchOnce (adapter : Adapter) (request : ApplicationRequest)
    (authoritative : AttemptExecutionContract) :
    DispatchProgram (Except DispatchRaised DispatchResult) :=
  .call (.compareAndSet authoritative .planned .dispatched) fun (moved : Bool) =>
  if moved then send adapter request
  else .done (.error (.couldNotDispatch authoritative.attemptId))

def block (authoritative : AttemptExecutionContract) (outcome : ProviderOutcome) :
    DispatchProgram (Except DispatchRaised DispatchResult) :=
  .call (.compareAndSet authoritative .planned .blockedProfileDisabled) fun (moved : Bool) =>
  if moved then
    .done (.ok { outcome, providerCalls := 0, attemptState := .blockedProfileDisabled })
  else .done (.error (.couldNotBlock authoritative.attemptId))

def admitOrBlock (adapter : Adapter) (request : ApplicationRequest)
    (authoritative : AttemptExecutionContract) :
    DispatchProgram (Except DispatchRaised DispatchResult) :=
  .call (.status authoritative.profileId) fun (currentStatus : ProfileStatus) =>
  if currentStatus = .unknown then .done (.error (.unknownProfile authoritative.profileId))
  else
    match admitCapability adapter.profile authoritative.applicationContract currentStatus with
    | .refused outcome =>
      if outcome.detail = "profile_not_selectable" then block authoritative outcome
      else .done (.ok { outcome, providerCalls := 0, attemptState := .planned })
    | .admitted => dispatchOnce adapter request authoritative

/-- The adapter that the registry has for the attempt, checked against its contract. -/
def resolveAndValidate (request : ApplicationRequest) (authoritative : AttemptExecutionContract) :
    DispatchProgram (Except DispatchRaised DispatchResult) :=
  .call (.resolveBoundAttempt authoritative) fun (resolved : Except DispatchRaised Adapter) =>
  match resolved with
  | .error raised => .done (.error raised)
  | .ok adapter =>
    match validateAttemptBinding request authoritative adapter.profile with
    | some raised => .done (.error raised)
    | none => admitOrBlock adapter request authoritative

def dispatchAttempt (request : ApplicationRequest) (contract : AttemptExecutionContract) :
    DispatchProgram (Except DispatchRaised DispatchResult) :=
  .call (.getRecord contract.attemptId) fun (record : Option AttemptRecord) =>
  match record with
  | none => .done (.error (.unknownAttempt contract.attemptId))
  | some record =>
  if contract ≠ record.contract then .done (.error (.callerContractDiffers contract.attemptId))
  else if record.state ≠ .planned then
    .done (.error (.notPlanned contract.attemptId record.state))
  else resolveAndValidate request record.contract

/-- What planners, the composition root, operators and dispatchers do. -/
inductive DispatchOperation
  | plan (contract : AttemptExecutionContract)
  | register (adapter : Adapter)
  | setStatus (profileId : String) (status : ProfileStatus)
  | disable (profileId : String)
  | quarantine (profileId : String)
  | dispatchAttempt (request : ApplicationRequest) (contract : AttemptExecutionContract)

inductive OperationResult
  | written (answer : Except DispatchRaised Unit)
  | dispatched (answer : Except DispatchRaised DispatchResult)

def register (adapter : Adapter) : DispatchProgram OperationResult :=
  .call (.registerAdapter adapter) fun (answer : Except DispatchRaised Unit) =>
  match answer with
  | .error raised => .done (.written (.error raised))
  | .ok _ => .call (.registerProfile adapter.profile) fun _ => .done (.written (.ok ()))

def setStatus (profileId : String) (status : ProfileStatus) : DispatchProgram OperationResult :=
  .call (.setStatus profileId status) fun _ => .done (.written (.ok ()))

def DispatchOperation.program : DispatchOperation → DispatchProgram OperationResult
  | .plan contract => .call (.plan contract) fun answer => .done (.written answer)
  | .register adapter => Dispatch.register adapter
  | .setStatus profileId status => Dispatch.setStatus profileId status
  | .disable profileId => Dispatch.setStatus profileId .disabled
  | .quarantine profileId => Dispatch.setStatus profileId .quarantined
  | .dispatchAttempt request contract =>
    (Dispatch.dispatchAttempt request contract).map .dispatched

abbrev DispatchMove := Move DispatchOperation Empty Empty.elim

end BackendHandbook.Dispatch
