import BackendHandbook.Foundation.Histories
import BackendHandbook.StructuredOutput.Parties

/-! Where the parties at a job are when they call: which attempt they hold, and what they have
been answered about it. -/

namespace BackendHandbook.StructuredOutput

open Interleaving

abbrev Fact := (call : Call) × call.Answer

inductive Phase
  | idle
  | claimed (jobId : String) (attemptId : Uuid)
  | answered (jobId : String) (attemptId : Uuid) (timeout : Bool)
  | settled (jobId : String) (attemptId : Uuid) (timeout : Bool)
  | lateClaimed (jobId : String) (attemptId : Uuid) (snapshot : Option JobFacts)
  | lateSettled (jobId : String) (attemptId : Uuid) (timeout : Bool)
  | consumed (jobId : String) (attemptId : Uuid) (timeout : Bool)
  | departed

/-- The job that a call of the completion decides, and whether it is left to be reconciled. -/
def Call.decides : Call → Option (String × Bool)
  | .completeSuccess jobId .. => some (jobId, false)
  | .recordNonSuccess jobId _ _ _ _ true => some (jobId, false)
  | .recordTimeoutPending jobId _ => some (jobId, true)
  | _ => none

namespace Phase

/-- A party that consumes a late outcome keeps its job when it is done. -/
def owns (jobId : String) : Phase → Bool
  | .claimed own _ => own = jobId
  | .answered own _ _ => own = jobId
  | .settled own _ _ => own = jobId
  | .lateClaimed own _ _ => own = jobId
  | .lateSettled own _ _ => own = jobId
  | .consumed own _ _ => own = jobId
  | _ => false

def decided (timeout : Bool) : Phase → Phase
  | .answered jobId attemptId _ => .settled jobId attemptId timeout
  | .lateClaimed jobId attemptId _ => .lateSettled jobId attemptId timeout
  | phase => phase

def next (phase : Phase) : Fact → Phase
  | ⟨.claimForNewCall jobId _, some attempt⟩ => .claimed jobId attempt.attemptId
  | ⟨.claimLateOutcome jobId attemptId _ _, (.claimed, _)⟩ => .lateClaimed jobId attemptId none
  | ⟨.generate _, answer⟩ =>
    match phase, answer with
    | .claimed jobId attemptId, .ok outcome => .answered jobId attemptId outcome.isTimeout
    | .claimed jobId attemptId, .error _ => .answered jobId attemptId false
    | other, _ => other
  | ⟨.snapshotJobFacts _, some facts⟩ =>
    match phase with
    | .lateClaimed jobId attemptId _ => .lateClaimed jobId attemptId (some facts)
    | other => other
  | ⟨.completeSuccess .., _⟩ => phase.decided false
  | ⟨.recordNonSuccess _ _ _ _ _ true, _⟩ => phase.decided false
  | ⟨.recordTimeoutPending .., _⟩ => phase.decided true
  | ⟨.markAttemptAwaitingLate .., _⟩ => .departed
  | ⟨.closeAttempt .., _⟩ => .departed
  | ⟨.releaseLateOutcomeClaim .., _⟩ => .departed
  | ⟨.consumeLateOutcome .., _⟩ =>
    match phase with
    | .lateSettled jobId attemptId timeout => .consumed jobId attemptId timeout
    | other => other
  | _ => phase

/-- The phase that a history leads to. -/
def behind : List Fact → Phase
  | [] => .idle
  | fact :: known => (behind known).next fact

/-- The phases from which the completion is called. -/
inductive Decides (jobId : String) (timeout : Bool) : Phase → Prop
  | answered (attemptId : Uuid) : Decides jobId timeout (.answered jobId attemptId timeout)
  | late (attemptId : Uuid) (snapshot : JobFacts) :
      Decides jobId timeout (.lateClaimed jobId attemptId (some snapshot))

end Phase

def Read (jobId : String) (contract : ExecutionContract) (known : List Fact) : Prop :=
  ∃ job, (⟨.job jobId, some job⟩ : Fact) ∈ known ∧ job.contract = contract

/-- The texts that a request which does not fit its contract is refused with. -/
def mismatchTexts : List String :=
  ["contract_mismatch:approved_model", "contract_mismatch:schema_name",
    "contract_mismatch:schema_version", "contract_mismatch:task_type",
    "contract_mismatch:provider_profile_version", "contract_mismatch:max_output_bound"]

section Model

variable (pydantic : Pydantic)

open Phase in
def Allowed (known : List Fact) : Call → Prop
  | .claimForNewCall jobId correlationId => behind known = .idle ∧
      ∃ contract, Read jobId contract known ∧ correlationId = contract.correlationId
  | .claimLateOutcome .. => behind known = .idle
  | .generate request => ∃ attemptId, behind known = .claimed request.jobId attemptId
  | .attachProviderRequestId jobId attemptId _ => ∃ timeout,
      behind known = .answered jobId attemptId timeout
  | .markAttemptAwaitingLate jobId attemptId =>
    behind known = .settled jobId attemptId true
  | .closeAttempt jobId attemptId => behind known = .claimed jobId attemptId ∨
      behind known = .settled jobId attemptId false
  | .consumeLateOutcome jobId attemptId => ∃ timeout,
      behind known = .lateSettled jobId attemptId timeout
  | .snapshotJobFacts jobId => ∃ attemptId, behind known = .lateClaimed jobId attemptId none
  | .restoreJobFacts jobId snapshot => ∃ attemptId,
      behind known = .lateClaimed jobId attemptId (some snapshot)
  | .releaseLateOutcomeClaim jobId attemptId => ∃ snapshot,
      behind known = .lateClaimed jobId attemptId snapshot
  | .completeSuccess jobId domainResult _ _ => (behind known).Decides jobId false ∧
      ∃ contract payload, Read jobId contract known ∧
        validate pydantic contract.schemaName contract.schemaVersion payload = .valid domainResult
  | .recordNonSuccess _ classification providerRequestId retryAfter evidence false =>
    behind known = .departed ∧ classification ∈ mismatchTexts ∧ providerRequestId = none ∧
      retryAfter = none ∧ evidence = none
  | .recordNonSuccess jobId _ _ _ _ true => (behind known).Decides jobId false
  | .recordCost jobId _ => ∃ attemptId, behind known = .settled jobId attemptId false ∨
      behind known = .lateSettled jobId attemptId false
  | .recordTimeoutPending jobId _ => (behind known).Decides jobId true
  | _ => True

variable {pydantic : Pydantic} {known : List Fact} {jobId : String} {attemptId : Uuid}
variable {contract : ExecutionContract}

theorem Read.later {fact : Fact} (read : Read jobId contract known) :
    Read jobId contract (fact :: known) := by
  rcases read with ⟨job, member, same⟩
  exact ⟨job, List.mem_cons_of_mem _ member, same⟩

theorem Phase.Decides.decided {phase : Phase} {timeout : Bool}
    (decides : phase.Decides jobId timeout) :
    (∃ attemptId, phase.decided timeout = .settled jobId attemptId timeout) ∨
      ∃ attemptId, phase.decided timeout = .lateSettled jobId attemptId timeout := by
  cases decides with
  | answered attemptId => exact .inl ⟨attemptId, rfl⟩
  | late attemptId => exact .inr ⟨attemptId, rfl⟩

section Dispatch

variable {next : Finished → JobProgram} {outcome : ProviderOutcome}

variable {classification : String} {providerRequestId : Option String}

theorem fails_recalls {retryAfter : Option String}
    {evidence : Option Evidence} {program : JobProgram}
    (decides : (Phase.behind known).Decides jobId false)
    (goes : ∀ later, Phase.behind later = (Phase.behind known).decided false →
      program.Recalls (Allowed pydantic) later) :
    (fails jobId classification providerRequestId retryAfter evidence program).Recalls
      (Allowed pydantic) known :=
  ⟨decides, fun _ => goes _ rfl⟩

theorem failsCharged_recalls {usage : Usage} {result : ExecutionResult}
    (decides : (Phase.behind known).Decides jobId false)
    (goes : ∀ later result, Phase.behind later = (Phase.behind known).decided false →
      (next (.ok result)).Recalls (Allowed pydantic) later) :
    (failsCharged jobId next classification usage providerRequestId result).Recalls
      (Allowed pydantic) known := by
  refine fails_recalls decides fun later behind => ⟨?_, fun _ => goes _ _ behind⟩
  rcases decides.decided with ⟨attemptId, settled⟩ | ⟨attemptId, settled⟩
  · exact ⟨attemptId, .inl (behind.trans settled)⟩
  · exact ⟨attemptId, .inr (behind.trans settled)⟩

theorem dispatchOutcome_recalls (read : Read jobId contract known)
    (decides : (Phase.behind known).Decides jobId outcome.isTimeout) (goes : ∀ later result,
      Phase.behind later = (Phase.behind known).decided outcome.isTimeout →
        (next (.ok result)).Recalls (Allowed pydantic) later)
    (stops : ∀ raised, (next (.error raised)).Recalls (Allowed pydantic) known) :
    (dispatchOutcome pydantic jobId contract next outcome).Recalls (Allowed pydantic) known := by
  cases outcome with
  | success rawPayload =>
    unfold dispatchOutcome
    dsimp only
    cases valid : validate pydantic contract.schemaName contract.schemaVersion rawPayload with
    | valid =>
      exact ⟨⟨decides, contract, rawPayload, read, valid⟩, fun _ => goes _ _ rfl⟩
    | schemaNotFound | contractViolation => exact failsCharged_recalls decides goes
  | refusal | incomplete => exact failsCharged_recalls decides goes
  | timeout => exact ⟨decides, fun _ => goes _ _ rfl⟩
  | authenticationError =>
    exact ⟨trivial, fun _ => fails_recalls decides fun later behind => goes later _ behind⟩
  | rateLimited | transportError =>
    exact fails_recalls decides fun later behind => goes later _ behind
  | capabilityError _ _ configScope =>
    cases configScope with
    | true =>
      exact ⟨trivial, fun _ => fails_recalls decides fun later behind => goes later _ behind⟩
    | false => exact fails_recalls decides fun later behind => goes later _ behind
  | unhandled => exact stops _

end Dispatch

section Parties

theorem bindOutcome_recalls (outcome : ProviderOutcome) (result : ExecutionResult)
    (settled : Phase.behind known = .settled jobId attemptId outcome.isTimeout) :
    (bindOutcome jobId attemptId outcome (.ok result)).Recalls (Allowed pydantic) known := by
  unfold bindOutcome
  cases timeout : outcome.isTimeout with
  | true =>
    rw [timeout] at settled
    exact ⟨settled, fun _ => trivial⟩
  | false =>
    rw [timeout] at settled
    exact ⟨.inr settled, fun _ => trivial⟩

theorem answered_recalls (outcome : ProviderOutcome) (read : Read jobId contract known)
    (phase : Phase.behind known = .answered jobId attemptId outcome.isTimeout) :
    (answered pydantic jobId contract attemptId outcome).Recalls (Allowed pydantic) known := by
  have dispatched : ∀ later, Read jobId contract later →
      Phase.behind later = .answered jobId attemptId outcome.isTimeout →
        (dispatchOutcome pydantic jobId contract (bindOutcome jobId attemptId outcome)
          outcome).Recalls (Allowed pydantic) later := by
    intro later read phase
    refine dispatchOutcome_recalls read (by rw [phase]; exact .answered attemptId) ?_
      (fun _ => trivial)
    intro final result behind
    rw [phase] at behind
    exact bindOutcome_recalls outcome result behind
  unfold answered
  cases outcome.providerRequestId with
  | none => exact dispatched known read phase
  | some => exact ⟨⟨_, phase⟩, fun _ => dispatched _ read.later phase⟩

variable {modelHardCap : Option Int} {request : ProviderRequest}

theorem bindRequest_mismatch {mismatch : String}
    (refused : bindRequestToContract request contract modelHardCap = .error mismatch) :
    mismatch ∈ mismatchTexts := by
  unfold bindRequestToContract at refused
  dsimp only at refused
  split at refused
  · next fieldName _ found =>
    cases refused
    have member := List.mem_of_find?_eq_some found
    simp only [List.mem_cons, Prod.mk.injEq, List.not_mem_nil, or_false] at member
    rcases member with ⟨rfl, _⟩ | ⟨rfl, _⟩ | ⟨rfl, _⟩ | ⟨rfl, _⟩ | ⟨rfl, _⟩ <;> decide
  · split at refused
    · cases refused
      decide
    · cases refused

theorem bindRequest_jobId {bound : ProviderRequest}
    (accepted : bindRequestToContract request contract modelHardCap = .ok bound) :
    bound.jobId = request.jobId := by
  unfold bindRequestToContract at accepted
  dsimp only at accepted
  split at accepted
  · cases accepted
  · split at accepted
    · cases accepted
    · cases accepted
      rfl

theorem startCall_recalls (request : ProviderRequest) (job : ExecutionJob)
    (read : Read request.jobId job.contract known)
    (phase : Phase.behind known = .claimed request.jobId attemptId) :
    (startCall pydantic request job attemptId).Recalls (Allowed pydantic) known := by
  refine ⟨trivial, fun modelHardCap => ?_⟩
  dsimp only
  cases bound : bindRequestToContract request job.contract modelHardCap with
  | error =>
    exact ⟨.inl phase, fun _ =>
      ⟨⟨rfl, bindRequest_mismatch bound, rfl, rfl, rfl⟩, fun _ => trivial⟩⟩
  | ok =>
    have same := bindRequest_jobId bound
    refine ⟨⟨attemptId, by rw [same]; exact phase⟩, fun answer => ?_⟩
    cases answer with
    | error => trivial
    | ok outcome =>
      apply answered_recalls outcome read.later.later
      have before : Phase.behind (⟨.modelMaxOutputTokens, modelHardCap⟩ :: known) =
          .claimed request.jobId attemptId := phase
      rw [Phase.behind, before]
      rfl

theorem executeJob_recalls (request : ProviderRequest) :
    (executeJob pydantic request).Recalls (Allowed pydantic) [] := by
  refine ⟨trivial, fun disabled => ?_⟩
  cases disabled with
  | true => trivial
  | false =>
    refine ⟨trivial, fun found => ?_⟩
    cases found with
    | none => trivial
    | some job =>
      have read : Read request.jobId job.contract
          [⟨.job request.jobId, some job⟩, ⟨.disabled, false⟩] :=
        ⟨job, List.mem_cons_self, rfl⟩
      refine ⟨⟨rfl, job.contract, read, rfl⟩, fun claim => ?_⟩
      cases claim with
      | none => exact ⟨trivial, fun _ => trivial⟩
      | some => exact startCall_recalls request job read.later rfl

namespace LateOutcome

variable (late : LateOutcome)

theorem conclude_recalls (snapshot : JobFacts) {raised : Raised}
    (phase : Phase.behind known = .lateClaimed late.jobId late.attemptId (some snapshot)) :
    (late.conclude snapshot (.error raised)).Recalls (Allowed pydantic) known :=
  ⟨⟨late.attemptId, phase⟩, fun _ => ⟨⟨some snapshot, phase⟩, fun _ => trivial⟩⟩

theorem consume_recalls (phase : Phase.behind known = .lateClaimed late.jobId late.attemptId none) :
    (late.consume pydantic).Recalls (Allowed pydantic) known := by
  refine ⟨trivial, fun found => ?_⟩
  cases found with
  | none => trivial
  | some job =>
    have read : Read late.jobId job.contract (⟨.job late.jobId, some job⟩ :: known) :=
      ⟨job, List.mem_cons_self, rfl⟩
    refine ⟨⟨late.attemptId, phase⟩, fun facts => ?_⟩
    cases facts with
    | none => trivial
    | some snapshot =>
      have claimed : Phase.behind (⟨.snapshotJobFacts late.jobId, some snapshot⟩ ::
          ⟨.job late.jobId, some job⟩ :: known) =
            .lateClaimed late.jobId late.attemptId (some snapshot) := by
        have before : Phase.behind (⟨.job late.jobId, some job⟩ :: known) =
            .lateClaimed late.jobId late.attemptId none := phase
        rw [Phase.behind, before]
        rfl
      refine dispatchOutcome_recalls read.later
        (by rw [claimed]; exact .late late.attemptId snapshot) ?_
        fun raised => late.conclude_recalls snapshot claimed
      intro final result behind
      rw [claimed] at behind
      exact ⟨⟨_, behind⟩, fun _ => trivial⟩

theorem program_recalls : (late.program pydantic).Recalls (Allowed pydantic) [] := by
  refine ⟨rfl, fun answer => ?_⟩
  rcases answer with ⟨status, _⟩
  cases status with
  | claimed => exact late.consume_recalls rfl
  | terminalNoop | alreadyProcessing | rejected => trivial

end LateOutcome

theorem Party.program_recalls (party : Party) :
    (party.program pydantic).Recalls (Allowed pydantic) [] := by
  cases party with
  | execute => exact executeJob_recalls _
  | ingest late => exact late.program_recalls

end Parties

end Model

end BackendHandbook.StructuredOutput
