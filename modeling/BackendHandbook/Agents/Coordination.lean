import BackendHandbook.Foundation.Dict
import BackendHandbook.Foundation.Run
import BackendHandbook.Foundation.Sorting
import Mathlib.Data.String.Basic

/-! The handoffs of a parent job: acceptance, ownership, dispatch, verification, fan-in. -/

namespace BackendHandbook.Agents

inductive HandoffState
  | accepted | claimed | dispatched | pendingReconciliation | verifiedCompleted | failed | cancelled
  deriving DecidableEq

inductive AcceptanceStatus
  | accepted | duplicate | semanticConflict | scopeMismatch | capabilityNotDelegatable
  | capabilityNotCurrentlyAllowed | outputContractRejected | contextRejected | budgetExceeded
  | deadlineExpired | delegationDepthExceeded | fanOutExceeded | concurrencyLimitReached
  deriving DecidableEq

inductive ClaimStatus
  | claimed | duplicate | alreadyClaimed | handoffNotFound | handoffNotClaimable
  deriving DecidableEq

inductive DispatchStatus
  | allowed | handoffNotFound | notCurrentOwner | staleFence | leaseExpired
  | currentAuthorizationDenied | handoffNotClaimed
  deriving DecidableEq

inductive ResultVerificationStatus
  | verified | handoffNotFound | childAttemptMismatch | outputContractMismatch | sourceVersionStale
  | staleFence | notCurrentOwner | parentTerminal | handoffNotReady
  deriving DecidableEq

inductive CancellationStatus
  | cancelledBeforeDispatch | cooperativeCancellationPending | handoffNotFound | terminalNoop
  deriving DecidableEq

inductive AggregationStatus
  | waitingForRequired | ready | partialResult | conflict | parentTerminal
  deriving DecidableEq

inductive AllocationStatus
  | held | released
  deriving DecidableEq

@[ext]
structure HandoffCandidate where
  (tenantId parentJobId parentAttemptId parentStepId handoffId idempotencyKey policyVersion
   objective inputContract outputContract contextManifestId : String)
  contextSourceVersions : List (String × Int)
  requestedCapabilities : List String
  requestedTokens : Int
  (receiverRole aggregationSlot : String)
  required : Bool
  deadline : Int
  delegationDepth : Int := 1
  present : "" ∉ [tenantId, parentJobId, parentAttemptId, parentStepId, handoffId,
    idempotencyKey, policyVersion, objective, inputContract, outputContract, contextManifestId,
    receiverRole, aggregationSlot]
  tokens_pos : 0 < requestedTokens
  depth_pos : 0 < delegationDepth
  capabilities_nodup : requestedCapabilities.Nodup

instance : DecidableEq HandoffCandidate := fun _ _ =>
  decidable_of_iff _ HandoffCandidate.ext_iff.symm

/-- What the fingerprint of a candidate covers: neither its handoff id nor its idempotency
key. -/
structure HandoffSemantic where
  (tenantId parentJobId parentAttemptId parentStepId objective inputContract outputContract
   contextManifestId : String)
  contextSourceVersions : List (String × Int)
  requestedCapabilities : List String
  requestedTokens : Int
  (receiverRole aggregationSlot : String)
  required : Bool
  (deadline delegationDepth : Int)
  policyVersion : String
  deriving DecidableEq

def HandoffCandidate.semantic (candidate : HandoffCandidate) : HandoffSemantic :=
  { candidate with
    requestedCapabilities := Sorting.sortBy id candidate.requestedCapabilities }

structure CurrentCoordinationFacts where
  tenantId : String
  (delegatableCapabilities currentlyAllowedCapabilities acceptedOutputContracts
   readableContextManifests : List String)
  currentPolicyVersion : String
  maxDelegationDepth : Int := 2
  maxFanOut : Int := 3
  concurrencyLimit : Int := 2
  deriving DecidableEq

structure DelegationGrant where
  (tenantId handoffId childJobId childAttemptId : String)
  capabilities : List String
  policyVersion : String
  expiresAt : Int
  deriving DecidableEq

structure ChildAllocation where
  (parentJobId handoffId : String)
  reservedTokens : Int
  status : AllocationStatus := .held
  deriving DecidableEq

structure CoordinationOutboxIntent where
  (intentId handoffId childJobId fingerprint : String)
  publishedAt : Option Int := none
  deriving DecidableEq

structure HandoffRecord where
  candidate : HandoffCandidate
  (fingerprint childJobId childAttemptId : String)
  grant : DelegationGrant
  allocation : ChildAllocation
  outboxIntent : CoordinationOutboxIntent
  state : HandoffState := .accepted
  stateVersion : Nat := 1
  claimOwner : Option String := none
  leaseExpiresAt : Option Int := none
  fenceToken : Nat := 0
  operationId : Option String := none
  cancellationRequested : Bool := false
  deriving DecidableEq

structure AcceptanceDecision where
  status : AcceptanceStatus
  (handoffId fingerprint : String)
  record : Option HandoffRecord := none
  deriving DecidableEq

structure ClaimDecision where
  status : ClaimStatus
  handoffId : String
  owner : Option String
  fenceToken : Option Nat
  deriving DecidableEq

structure DispatchDecision where
  status : DispatchStatus
  handoffId : String
  providerCalls : Nat := 0
  deriving DecidableEq

structure ChildResultCandidate where
  (resultId handoffId childAttemptId workerId : String)
  fenceToken : Int
  outputContract : String
  sourceVersions : List (String × Int)
  (evidenceReference completeness factKey factValue : String)
  deriving DecidableEq

structure ResultEvidence where
  candidate : ChildResultCandidate
  status : ResultVerificationStatus
  appliedToCurrentState : Bool
  deriving DecidableEq

structure ResultVerificationDecision where
  status : ResultVerificationStatus
  handoffId : String
  appliedToCurrentState : Bool
  deriving DecidableEq

structure CancellationDecision where
  status : CancellationStatus
  handoffId : String
  allocationStatus : Option AllocationStatus
  deriving DecidableEq

structure AggregationDecision where
  status : AggregationStatus
  (requiredTotal requiredVerified optionalTotal optionalVerified failed pendingReconciliation : Nat)
  parentCompleted : Bool
  deriving DecidableEq

structure CoordinationStore where
  parentJobId : String
  parentTokenReservation : Int
  records : Dict String HandoffRecord := ∅
  resultEvidence : List ResultEvidence := []
  parentTerminal : Bool := false
  reservation_pos : 0 < parentTokenReservation
  deriving DecidableEq

namespace InMemoryCoordinationStore

def heldTokens (record : HandoffRecord) : Int :=
  if record.allocation.status = .held then record.allocation.reservedTokens else 0

def allocatedTokens (store : CoordinationStore) : Int := store.records.total heldTokens

def active (record : HandoffRecord) : Bool :=
  record.state ∉ [HandoffState.cancelled, .verifiedCompleted, .failed]

def refusal (candidate : HandoffCandidate) (facts : CurrentCoordinationFacts) (now : Int)
    (store : CoordinationStore) : Option AcceptanceStatus :=
  if candidate.tenantId ≠ facts.tenantId then some .scopeMismatch
  else if candidate.policyVersion ≠ facts.currentPolicyVersion then some .contextRejected
  else if candidate.deadline ≤ now then some .deadlineExpired
  else if facts.maxDelegationDepth < candidate.delegationDepth then
    some .delegationDepthExceeded
  else if facts.maxFanOut ≤ store.records.size then some .fanOutExceeded
  else if facts.concurrencyLimit ≤ store.records.values.countP active then
    some .concurrencyLimitReached
  else if candidate.outputContract ∉ facts.acceptedOutputContracts then
    some .outputContractRejected
  else if candidate.contextManifestId ∉ facts.readableContextManifests then
    some .contextRejected
  else if ¬ candidate.requestedCapabilities ⊆ facts.delegatableCapabilities then
    some .capabilityNotDelegatable
  else if ¬ candidate.requestedCapabilities ⊆ facts.currentlyAllowedCapabilities then
    some .capabilityNotCurrentlyAllowed
  else if store.parentTokenReservation < allocatedTokens store + candidate.requestedTokens then
    some .budgetExceeded
  else none

def acceptedRecord (candidate : HandoffCandidate) (fingerprint : String) : HandoffRecord :=
  let childJobId := candidate.parentJobId ++ ":child:" ++ candidate.handoffId
  let childAttemptId := childJobId ++ ":attempt:1"
  { candidate, fingerprint, childJobId, childAttemptId
    grant := {
      tenantId := candidate.tenantId, handoffId := candidate.handoffId
      childJobId, childAttemptId
      capabilities := Sorting.sortBy id candidate.requestedCapabilities
      policyVersion := candidate.policyVersion, expiresAt := candidate.deadline }
    allocation := {
      parentJobId := candidate.parentJobId, handoffId := candidate.handoffId
      reservedTokens := candidate.requestedTokens }
    outboxIntent := {
      intentId := "handoff-dispatch:" ++ candidate.handoffId, handoffId := candidate.handoffId
      childJobId, fingerprint } }

def put (store : CoordinationStore) (handoffId : String) (record : HandoffRecord) :
    CoordinationStore :=
  { store with records := store.records.insert handoffId record }

/-- `digest` stands for the hash of the canonical JSON text of a candidate. -/
def accept (digest : HandoffSemantic → String) (candidate : HandoffCandidate)
    (facts : CurrentCoordinationFacts) (now : Int) (store : CoordinationStore) :
    AcceptanceDecision × CoordinationStore :=
  let fingerprint := digest candidate.semantic
  match store.records.lookup candidate.handoffId with
  | some existing =>
    (⟨if existing.fingerprint = fingerprint then .duplicate else .semanticConflict,
      candidate.handoffId, fingerprint, some existing⟩, store)
  | none =>
    match refusal candidate facts now store with
    | some status => (⟨status, candidate.handoffId, fingerprint, none⟩, store)
    | none =>
      let record := acceptedRecord candidate fingerprint
      (⟨.accepted, candidate.handoffId, fingerprint, some record⟩,
        put store candidate.handoffId record)

def markOutboxPublished (handoffId : String) (publishedAt : Int) (store : CoordinationStore) :
    Bool × CoordinationStore :=
  match store.records.lookup handoffId with
  | none => (false, store)
  | some record =>
    if record.outboxIntent.publishedAt.isSome then (true, store)
    else (true, put store handoffId { record with
      outboxIntent := { record.outboxIntent with publishedAt := some publishedAt } })

variable (handoffId workerId : String)
variable (now leaseDuration : Int) (store : CoordinationStore)

def claim : Except String ClaimDecision × CoordinationStore :=
  if leaseDuration ≤ 0 then (.error "lease_duration must be positive", store)
  else match store.records.lookup handoffId with
  | none => (.ok ⟨.handoffNotFound, handoffId, none, none⟩, store)
  | some record =>
    if record.state = .cancelled then
      (.ok ⟨.handoffNotClaimable, handoffId, record.claimOwner, some record.fenceToken⟩, store)
    else match record.claimOwner with
    | some owner =>
      (.ok ⟨if owner = workerId then .duplicate else .alreadyClaimed, handoffId, some owner,
        some record.fenceToken⟩, store)
    | none =>
      (.ok ⟨.claimed, handoffId, some workerId, some (record.fenceToken + 1)⟩,
        put store handoffId { record with
          state := .claimed, stateVersion := record.stateVersion + 1, claimOwner := some workerId
          leaseExpiresAt := some (now + leaseDuration), fenceToken := record.fenceToken + 1 })

/-- Moves the ownership of a handoff, and looks at no state. -/
def takeOverExpiredLease : Except String ClaimDecision × CoordinationStore :=
  if leaseDuration ≤ 0 then (.error "lease_duration must be positive", store)
  else match store.records.lookup handoffId with
  | none => (.ok ⟨.handoffNotFound, handoffId, none, none⟩, store)
  | some record =>
    if record.claimOwner = none ∨ record.leaseExpiresAt.all (now < ·) then
      (.ok ⟨.handoffNotClaimable, handoffId, record.claimOwner, some record.fenceToken⟩, store)
    else
      (.ok ⟨.claimed, handoffId, some workerId, some (record.fenceToken + 1)⟩,
        put store handoffId { record with
          stateVersion := record.stateVersion + 1, claimOwner := some workerId
          leaseExpiresAt := some (now + leaseDuration), fenceToken := record.fenceToken + 1 })

variable (fenceToken : Int) (requiredCapability : String) (currentAllowedCapabilities : List String)

def authorizeProviderDispatch (now : Int) (store : CoordinationStore) : DispatchDecision :=
  match store.records.lookup handoffId with
  | none => { status := .handoffNotFound, handoffId }
  | some record =>
    if record.state ≠ .claimed then { status := .handoffNotClaimed, handoffId }
    else if (record.fenceToken : Int) ≠ fenceToken then { status := .staleFence, handoffId }
    else if record.claimOwner ≠ some workerId then { status := .notCurrentOwner, handoffId }
    else if record.leaseExpiresAt.all (· ≤ now) then { status := .leaseExpired, handoffId }
    else if requiredCapability ∉ record.grant.capabilities ∨
        requiredCapability ∉ currentAllowedCapabilities then
      { status := .currentAuthorizationDenied, handoffId }
    else { status := .allowed, handoffId }

def recordProviderDispatch (operationId : String) (now : Int) (store : CoordinationStore) :
    DispatchDecision × CoordinationStore :=
  let decision := authorizeProviderDispatch handoffId workerId fenceToken requiredCapability
    currentAllowedCapabilities now store
  match decision.status, store.records.lookup handoffId with
  | .allowed, some record =>
    (decision, put store handoffId { record with
      state := .dispatched, stateVersion := record.stateVersion + 1
      operationId := some operationId })
  | _, _ => (decision, store)

def markOutcomeUnknown (handoffId operationId : String) (store : CoordinationStore) :
    Bool × CoordinationStore :=
  match store.records.lookup handoffId with
  | none => (false, store)
  | some record =>
    if record.state ≠ .dispatched ∨ record.operationId ≠ some operationId then (false, store)
    else (true, put store handoffId { record with
      state := .pendingReconciliation, stateVersion := record.stateVersion + 1 })

def cancel (handoffId : String) (store : CoordinationStore) :
    CancellationDecision × CoordinationStore :=
  match store.records.lookup handoffId with
  | none => (⟨.handoffNotFound, handoffId, none⟩, store)
  | some record =>
    if record.state = .cancelled ∨ record.state = .verifiedCompleted then
      (⟨.terminalNoop, handoffId, some record.allocation.status⟩, store)
    else if record.state = .accepted ∨ record.state = .claimed then
      (⟨.cancelledBeforeDispatch, handoffId, some .released⟩, put store handoffId { record with
        state := .cancelled, stateVersion := record.stateVersion + 1, cancellationRequested := true
        allocation := { record.allocation with status := .released } })
    else
      (⟨.cooperativeCancellationPending, handoffId, some record.allocation.status⟩,
        put store handoffId { record with
          state := .pendingReconciliation, stateVersion := record.stateVersion + 1
          cancellationRequested := true })

variable (candidate : ChildResultCandidate) (currentSourceVersions : List (String × Int))

/-- The checks of a result candidate, in their order. -/
def verification (parentTerminal : Bool) (record : HandoffRecord) : ResultVerificationStatus :=
  if parentTerminal then .parentTerminal
  else if candidate.childAttemptId ≠ record.childAttemptId then .childAttemptMismatch
  else if candidate.outputContract ≠ record.candidate.outputContract then
    .outputContractMismatch
  else if candidate.sourceVersions ≠ record.candidate.contextSourceVersions ∨
      currentSourceVersions ≠ candidate.sourceVersions then .sourceVersionStale
  else if candidate.fenceToken ≠ record.fenceToken then .staleFence
  else if some candidate.workerId ≠ record.claimOwner then .notCurrentOwner
  else if record.state ≠ .dispatched then .handoffNotReady
  else .verified

def verifyResult (store : CoordinationStore) : ResultVerificationDecision × CoordinationStore :=
  match store.records.lookup candidate.handoffId with
  | none => (⟨.handoffNotFound, candidate.handoffId, false⟩, store)
  | some record =>
    let status := verification candidate currentSourceVersions store.parentTerminal record
    if status = .verified then
      (⟨status, candidate.handoffId, true⟩, { store with
        resultEvidence := store.resultEvidence ++ [⟨candidate, status, true⟩]
        records := store.records.insert candidate.handoffId { record with
          state := .verifiedCompleted, stateVersion := record.stateVersion + 1 } })
    else
      (⟨status, candidate.handoffId, false⟩, { store with
        resultEvidence := store.resultEvidence ++ [⟨candidate, status, false⟩] })

def factValues (verified : List ChildResultCandidate) : Dict String (List String) :=
  verified.foldl (fun values item => values.insert item.factKey
    (((values.lookup item.factKey).getD []).insert item.factValue)) ∅

def aggregate (store : CoordinationStore) : AggregationDecision :=
  let records := store.records.values
  let required := records.filter (·.candidate.required)
  let optional := records.filter (!·.candidate.required)
  let requiredVerified := required.countP (·.state = .verifiedCompleted)
  let optionalVerified := optional.countP (·.state = .verifiedCompleted)
  let status : AggregationStatus :=
    if store.parentTerminal then .parentTerminal
    else if requiredVerified ≠ required.length then .waitingForRequired
    else
      let verified := (store.resultEvidence.filter (·.appliedToCurrentState)).map (·.candidate)
      if (factValues verified).values.any (1 < ·.length) then .conflict
      else if optionalVerified ≠ optional.length then .partialResult
      else .ready
  { status, requiredTotal := required.length, requiredVerified, optionalTotal := optional.length
    optionalVerified
    failed := records.countP (·.state = .failed)
    pendingReconciliation := records.countP (·.state = .pendingReconciliation)
    parentCompleted := false }

end InMemoryCoordinationStore
end BackendHandbook.Agents
