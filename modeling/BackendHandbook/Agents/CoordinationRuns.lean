import BackendHandbook.Agents.Coordination
import BackendHandbook.Foundation.Fallible

/-! The calls on the coordination store, and everything that one of them can change. -/

namespace BackendHandbook.Agents

open Run Fallible InMemoryCoordinationStore

inductive CoordinationCall
  | accept (candidate : HandoffCandidate) (facts : CurrentCoordinationFacts) (now : Int)
  | markOutboxPublished (handoffId : String) (publishedAt : Int)
  | claim (handoffId workerId : String) (now leaseDuration : Int)
  | takeOverExpiredLease (handoffId workerId : String) (now leaseDuration : Int)
  | recordProviderDispatch (handoffId workerId : String) (fenceToken : Int)
      (requiredCapability : String) (currentAllowedCapabilities : List String)
      (operationId : String) (now : Int)
  | markOutcomeUnknown (handoffId operationId : String)
  | cancel (handoffId : String)
  | verifyResult (candidate : ChildResultCandidate) (currentSourceVersions : List (String × Int))
  | aggregate
  /-- The owner of the store assigns its public attribute. -/
  | setParentTerminal (value : Bool)

abbrev CoordinationCall.Response : CoordinationCall → Type
  | .accept .. => AcceptanceDecision
  | .markOutboxPublished .. | .markOutcomeUnknown .. => Bool
  | .claim .. | .takeOverExpiredLease .. => Except String ClaimDecision
  | .recordProviderDispatch .. => DispatchDecision
  | .cancel .. => CancellationDecision
  | .verifyResult .. => ResultVerificationDecision
  | .aggregate => AggregationDecision
  | .setParentTerminal .. => Unit

section Runs

variable (digest : HandoffSemantic → String)

def performCoordination :
    (call : CoordinationCall) → CoordinationStore → call.Response × CoordinationStore
  | .accept candidate facts now => accept digest candidate facts now
  | .markOutboxPublished handoffId publishedAt => markOutboxPublished handoffId publishedAt
  | .claim handoffId workerId now leaseDuration => claim handoffId workerId now leaseDuration
  | .takeOverExpiredLease handoffId workerId now leaseDuration =>
    takeOverExpiredLease handoffId workerId now leaseDuration
  | .recordProviderDispatch handoffId workerId fenceToken requiredCapability
      currentAllowedCapabilities operationId now =>
      recordProviderDispatch handoffId workerId fenceToken requiredCapability
        currentAllowedCapabilities operationId now
  | .markOutcomeUnknown handoffId operationId => markOutcomeUnknown handoffId operationId
  | .cancel handoffId => cancel handoffId
  | .verifyResult candidate currentSourceVersions => verifyResult candidate currentSourceVersions
  | .aggregate => fun store => (aggregate store, store)
  | .setParentTerminal value => fun store => ((), { store with parentTerminal := value })

abbrev CoordinationEvent := Event CoordinationStore CoordinationCall CoordinationCall.Response

/-- The handoff that a call has answered `CLAIMED` for. -/
def granted : (call : CoordinationCall) → call.Response → Option String
  | .claim .., .ok decision | .takeOverExpiredLease .., .ok decision =>
    if decision.status = .claimed then some decision.handoffId else none
  | _, _ => none

/-- How a call rewrites the record of its handoff, and whether it grants the ownership. -/
inductive Moved : CoordinationCall → String → Bool → HandoffRecord → HandoffRecord → Prop
  | published (handoffId : String) (publishedAt : Int) (record : HandoffRecord) :
      Moved (.markOutboxPublished handoffId publishedAt) handoffId false record { record with
        outboxIntent := { record.outboxIntent with publishedAt := some publishedAt } }
  | claimed (handoffId workerId : String) (now leaseDuration : Int) (record : HandoffRecord)
      (uncancelled : record.state ≠ .cancelled) (unowned : record.claimOwner = none) :
      Moved (.claim handoffId workerId now leaseDuration) handoffId true record { record with
        state := .claimed, stateVersion := record.stateVersion + 1, claimOwner := some workerId
        leaseExpiresAt := some (now + leaseDuration), fenceToken := record.fenceToken + 1 }
  | takenOver (handoffId workerId : String) (now leaseDuration : Int) (record : HandoffRecord)
      (duration : 0 < leaseDuration) (owned : record.claimOwner ≠ none)
      (expired : record.leaseExpiresAt.all (now < ·) = false) :
      Moved (.takeOverExpiredLease handoffId workerId now leaseDuration) handoffId true record
        { record with
          stateVersion := record.stateVersion + 1, claimOwner := some workerId
          leaseExpiresAt := some (now + leaseDuration), fenceToken := record.fenceToken + 1 }
  | dispatched (handoffId workerId : String) (fenceToken : Int) (requiredCapability : String)
      (currentAllowedCapabilities : List String) (operationId : String) (now : Int)
      (record : HandoffRecord) (ready : record.state = .claimed)
      (owned : record.claimOwner = some workerId) :
      Moved (.recordProviderDispatch handoffId workerId fenceToken requiredCapability
          currentAllowedCapabilities operationId now) handoffId false record { record with
        state := .dispatched, stateVersion := record.stateVersion + 1
        operationId := some operationId }
  | unknown (handoffId operationId : String) (record : HandoffRecord)
      (running : record.state = .dispatched) :
      Moved (.markOutcomeUnknown handoffId operationId) handoffId false record { record with
        state := .pendingReconciliation, stateVersion := record.stateVersion + 1 }
  | cancelled (handoffId : String) (record : HandoffRecord)
      (unstarted : record.state = .accepted ∨ record.state = .claimed) :
      Moved (.cancel handoffId) handoffId false record { record with
        state := .cancelled, stateVersion := record.stateVersion + 1, cancellationRequested := true
        allocation := { record.allocation with status := .released } }
  | cancelling (handoffId : String) (record : HandoffRecord)
      (unended : record.state ≠ .cancelled ∧ record.state ≠ .verifiedCompleted)
      (started : record.state ≠ .accepted ∧ record.state ≠ .claimed) :
      Moved (.cancel handoffId) handoffId false record { record with
        state := .pendingReconciliation, stateVersion := record.stateVersion + 1
        cancellationRequested := true }

inductive StoreStep (store : CoordinationStore) (call : CoordinationCall) :
    Option String → CoordinationStore → Prop
  | same (evidence : List ResultEvidence) (terminal : Bool)
      (unapplied : ∀ entry ∈ evidence, entry.appliedToCurrentState = false) :
      StoreStep store call none { store with
        resultEvidence := store.resultEvidence ++ evidence, parentTerminal := terminal }
  | accepted (candidate : HandoffCandidate) (facts : CurrentCoordinationFacts) (now : Int)
      (called : call = .accept candidate facts now)
      (fresh : store.records.lookup candidate.handoffId = none)
      (admitted : refusal candidate facts now store = none) :
      StoreStep store call none
        (put store candidate.handoffId (acceptedRecord candidate (digest candidate.semantic)))
  | moved (handoffId : String) (grants : Bool) (before after : HandoffRecord)
      (found : store.records.lookup handoffId = some before)
      (move : Moved call handoffId grants before after) :
      StoreStep store call (if grants then some handoffId else none) (put store handoffId after)
  | verified (candidate : ChildResultCandidate) (versions : List (String × Int))
      (before : HandoffRecord) (called : call = .verifyResult candidate versions)
      (found : store.records.lookup candidate.handoffId = some before)
      (checked : verification candidate versions store.parentTerminal before = .verified) :
      StoreStep store call none { store with
        resultEvidence := store.resultEvidence ++ [⟨candidate, .verified, true⟩]
        records := store.records.insert candidate.handoffId { before with
          state := .verifiedCompleted, stateVersion := before.stateVersion + 1 } }

theorem StoreStep.unchanged (store : CoordinationStore) (call : CoordinationCall) :
    StoreStep digest store call none store := by
  have step : StoreStep digest store call none { store with
      resultEvidence := store.resultEvidence ++ [], parentTerminal := store.parentTerminal } :=
    .same [] _ (fun _ inside => absurd inside List.not_mem_nil)
  rw [List.append_nil] at step
  exact step

/-- The guards that an accepted candidate has passed. -/
structure Admissible (candidate : HandoffCandidate) (facts : CurrentCoordinationFacts)
    (now : Int) (store : CoordinationStore) : Prop where
  tenant : candidate.tenantId = facts.tenantId
  policy : candidate.policyVersion = facts.currentPolicyVersion
  inTime : now < candidate.deadline
  depth : candidate.delegationDepth ≤ facts.maxDelegationDepth
  fanOut : store.records.size < facts.maxFanOut
  concurrency : store.records.values.countP active < facts.concurrencyLimit
  contract : candidate.outputContract ∈ facts.acceptedOutputContracts
  context : candidate.contextManifestId ∈ facts.readableContextManifests
  delegatable : candidate.requestedCapabilities ⊆ facts.delegatableCapabilities
  allowed : candidate.requestedCapabilities ⊆ facts.currentlyAllowedCapabilities
  funded : allocatedTokens store + candidate.requestedTokens ≤ store.parentTokenReservation

variable {store : CoordinationStore} {now : Int}

theorem admissible_iff {candidate : HandoffCandidate} {facts : CurrentCoordinationFacts} :
    refusal candidate facts now store = none ↔ Admissible candidate facts now store := by
  constructor
  · intro admitted
    rcases passed admitted nofun with ⟨tenant, admitted⟩
    rcases passed admitted nofun with ⟨policy, admitted⟩
    rcases passed admitted nofun with ⟨inTime, admitted⟩
    rcases passed admitted nofun with ⟨depth, admitted⟩
    rcases passed admitted nofun with ⟨fanOut, admitted⟩
    rcases passed admitted nofun with ⟨concurrency, admitted⟩
    rcases passed admitted nofun with ⟨contract, admitted⟩
    rcases passed admitted nofun with ⟨context, admitted⟩
    rcases passed admitted nofun with ⟨delegatable, admitted⟩
    rcases passed admitted nofun with ⟨allowed, admitted⟩
    rcases passed admitted nofun with ⟨funded, _⟩
    exact ⟨not_not.mp tenant, not_not.mp policy, by omega, by omega, by omega, by omega,
      not_not.mp contract, not_not.mp context, not_not.mp delegatable, not_not.mp allowed,
      by omega⟩
  · intro admitted
    rcases admitted with
      ⟨tenant, policy, inTime, depth, fanOut, concurrency, contract, context, delegatable, allowed,
      funded⟩
    simp [refusal, tenant, policy, contract, context, delegatable, allowed, not_le.mpr inTime,
      not_lt.mpr depth, not_le.mpr fanOut, not_le.mpr concurrency, not_lt.mpr funded]

variable {record : HandoffRecord}

theorem verification_verified {candidate : ChildResultCandidate} {versions : List (String × Int)}
    {parentTerminal : Bool}
    (checked : verification candidate versions parentTerminal record = .verified) :
    parentTerminal = false ∧ candidate.fenceToken = record.fenceToken ∧
      record.claimOwner = some candidate.workerId ∧ record.state = .dispatched := by
  rcases passed checked nofun with ⟨running, checked⟩
  rcases passed checked nofun with ⟨_, checked⟩
  rcases passed checked nofun with ⟨_, checked⟩
  rcases passed checked nofun with ⟨_, checked⟩
  rcases passed checked nofun with ⟨fence, checked⟩
  rcases passed checked nofun with ⟨owner, checked⟩
  rcases passed checked nofun with ⟨state, _⟩
  exact ⟨eq_false_of_ne_true running, not_not.mp fence, (not_not.mp owner).symm, not_not.mp state⟩

theorem authorize_allowed {handoffId workerId : String} {fenceToken : Int}
    {requiredCapability : String} {currentAllowedCapabilities : List String}
    (found : store.records.lookup handoffId = some record)
    (allowed : (authorizeProviderDispatch handoffId workerId fenceToken requiredCapability
      currentAllowedCapabilities now store).status = .allowed) :
    record.state = .claimed ∧ record.claimOwner = some workerId := by
  unfold authorizeProviderDispatch at allowed
  rw [found] at allowed
  dsimp only at allowed
  split at allowed
  · cases allowed
  next ready =>
  split at allowed
  · cases allowed
  split at allowed
  · cases allowed
  next owner =>
  exact ⟨not_not.mp ready, not_not.mp owner⟩

/-- The step lemma of the store. -/
theorem performCoordination_step (call : CoordinationCall) (store : CoordinationStore) :
    StoreStep digest store call (granted call (performCoordination digest call store).1)
      (performCoordination digest call store).2 := by
  cases call with
  | accept candidate facts now =>
    simp only [performCoordination, accept]
    split
    · exact .unchanged digest store _
    next fresh =>
    split
    · exact .unchanged digest store _
    next admitted =>
    exact .accepted candidate facts now rfl fresh admitted
  | markOutboxPublished handoffId publishedAt =>
    simp only [performCoordination, markOutboxPublished]
    split
    · exact .unchanged digest store _
    next record found =>
    split
    · exact .unchanged digest store _
    · exact .moved handoffId false record _ found (.published handoffId publishedAt record)
  | claim handoffId workerId now leaseDuration =>
    simp only [performCoordination, claim]
    split
    · exact .unchanged digest store _
    split
    · exact .unchanged digest store _
    next record found =>
    split
    · exact .unchanged digest store _
    next uncancelled =>
    split
    · next owner _ =>
      by_cases same : owner = workerId
      · simp only [same]
        exact .unchanged digest store _
      · simp only [same]
        exact .unchanged digest store _
    · next unowned =>
      exact .moved handoffId true record _ found
        (.claimed handoffId workerId now leaseDuration record uncancelled unowned)
  | takeOverExpiredLease handoffId workerId now leaseDuration =>
    simp only [performCoordination, takeOverExpiredLease]
    split
    · exact .unchanged digest store _
    next duration =>
    split
    · exact .unchanged digest store _
    next record found =>
    split
    · exact .unchanged digest store _
    next expired =>
    rw [not_or] at expired
    exact .moved handoffId true record _ found (.takenOver handoffId workerId now leaseDuration
      record (by omega) expired.1 (eq_false_of_ne_true expired.2))
  | recordProviderDispatch handoffId workerId fenceToken requiredCapability allowed operationId
      now =>
      simp only [performCoordination, recordProviderDispatch]
      split
      · next record permitted found =>
        rcases authorize_allowed found permitted with ⟨ready, owned⟩
        exact .moved handoffId false record _ found (.dispatched handoffId workerId fenceToken
          requiredCapability allowed operationId now record ready owned)
      · exact .unchanged digest store _
  | markOutcomeUnknown handoffId operationId =>
    simp only [performCoordination, markOutcomeUnknown]
    split
    · exact .unchanged digest store _
    next record found =>
    split
    · exact .unchanged digest store _
    next running =>
    rw [not_or] at running
    exact .moved handoffId false record _ found
      (.unknown handoffId operationId record (not_not.mp running.1))
  | cancel handoffId =>
    simp only [performCoordination, cancel]
    split
    · exact .unchanged digest store _
    next record found =>
    split
    · exact .unchanged digest store _
    next unended =>
    split
    · next unstarted =>
      exact .moved handoffId false record _ found (.cancelled handoffId record unstarted)
    · next started =>
      exact .moved handoffId false record _ found
        (.cancelling handoffId record (not_or.mp unended) (not_or.mp started))
  | verifyResult candidate versions =>
    simp only [performCoordination, verifyResult]
    split
    · exact .unchanged digest store _
    next record found =>
    split
    · next checked =>
      rw [checked]
      exact .verified candidate versions record rfl found checked
    · exact .same [_] store.parentTerminal (fun entry inside => by
        rw [List.mem_singleton.mp inside])
  | aggregate => exact .unchanged digest store _
  | setParentTerminal value =>
    have step : StoreStep digest store (.setParentTerminal value) none { store with
        resultEvidence := store.resultEvidence ++ [], parentTerminal := value } :=
      .same [] _ (fun _ inside => absurd inside List.not_mem_nil)
    rw [List.append_nil] at step
    exact step

end Runs

namespace Coordination.Sample

-- Nothing in the sample runs depends on what a fingerprint looks like.
def digest (semantic : HandoffSemantic) : String := semantic.objective

def facts : CurrentCoordinationFacts :=
  { tenantId := "tenant-a", delegatableCapabilities := ["read_sources.v1", "check_claims.v1"]
    currentlyAllowedCapabilities := ["read_sources.v1", "check_claims.v1"]
    acceptedOutputContracts := ["evidence_candidate.v1"], readableContextManifests := ["context-1"]
    currentPolicyVersion := "handoff-policy-v1", maxFanOut := 10, concurrencyLimit := 10 }

def candidate : HandoffCandidate :=
  { tenantId := "tenant-a", parentJobId := "parent-1", parentAttemptId := "parent-attempt-1"
    parentStepId := "parent-step-1", handoffId := "handoff-1"
    idempotencyKey := "idem-handoff-1", policyVersion := "handoff-policy-v1"
    objective := "collect scoped evidence", inputContract := "research_input.v1"
    outputContract := "evidence_candidate.v1", contextManifestId := "context-1"
    contextSourceVersions := [("source-a", 3)], requestedCapabilities := ["read_sources.v1"]
    requestedTokens := 4000, receiverRole := "source_research"
    aggregationSlot := "source-evidence", required := true, deadline := 100
    present := by decide, tokens_pos := by decide, depth_pos := by decide
    capabilities_nodup := by decide }

def result : ChildResultCandidate :=
  { resultId := "result-handoff-1", handoffId := "handoff-1"
    childAttemptId := "parent-1:child:handoff-1:attempt:1", workerId := "worker-a"
    fenceToken := 1, outputContract := "evidence_candidate.v1"
    sourceVersions := [("source-a", 3)], evidenceReference := "evidence-handoff-1"
    completeness := "COMPLETE", factKey := "claim-a", factValue := "confirmed" }

def completed : List CoordinationCall :=
  [.accept candidate facts 10, .claim "handoff-1" "worker-a" 20 20,
    .recordProviderDispatch "handoff-1" "worker-a" 1 "read_sources.v1" ["read_sources.v1"]
      "operation-handoff-1" 21,
    .verifyResult result [("source-a", 3)]]

end Coordination.Sample
end BackendHandbook.Agents
