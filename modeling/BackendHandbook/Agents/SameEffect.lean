import BackendHandbook.Agents.SecurityAdmission

/-! What is approved, what is admitted and what is executed: where they are one effect. -/

namespace BackendHandbook.Agents

open ToolCandidate

open Json (Plain dumps)
open Sorting

section Statements

variable (sha256 : String → String)

def ApprovedBy (approval : ApprovalBinding) (candidate : ToolCandidate) : Prop :=
  ∃ contract facts request now, contract.requiresApproval = true ∧ facts.approval = some approval ∧
    (admitToolCandidate sha256 candidate contract facts request now).decision = .allow

/-- All that an approval is to identify, but for the disclosed fields. -/
structure SameAction (first second : ToolCandidate) : Prop where
  tenant : first.tenantId = second.tenantId
  resource : first.resourceTenantId = second.resourceTenantId
  operation : first.operationId = second.operationId
  capability : first.capability = second.capability
  tool : first.toolName = second.toolName ∧ first.toolVersion = second.toolVersion
  arguments : first.arguments.Perm second.arguments
  destination : first.destination = second.destination
  purpose : first.purpose = second.purpose
  audience : first.audience = second.audience

structure SameEffect (first second : ToolCandidate) : Prop extends SameAction first second where
  disclosed : first.disclosedFields = second.disclosedFields

/-- A port has more behind it than before. -/
def Enters (admission : AdmissionResult) (candidate : ToolCandidate) (ports : Ports) : Prop :=
  (executeAdmittedCandidate admission candidate ports).2.runOperationIds ≠ ports.runOperationIds ∨
    (executeAdmittedCandidate admission candidate ports).2.operationIds ≠ ports.operationIds ∨
    (executeAdmittedCandidate admission candidate ports).2.destinations ≠ ports.destinations

/-- The admission comes from a candidate with the same operation, arguments, tool and
destination. -/
def ProducedFor (admission : AdmissionResult) (candidate : ToolCandidate) : Prop :=
  ∃ admitted contract facts request now,
    admission = admitToolCandidate sha256 admitted contract facts request now ∧
      admission.decision = .allow ∧ admitted.operationId = candidate.operationId ∧
      admitted.arguments = candidate.arguments ∧ admitted.toolName = candidate.toolName ∧
      admitted.toolVersion = candidate.toolVersion ∧ admitted.destination = candidate.destination

/-- The comparison that the execution leaves out. -/
def Matches (admission : AdmissionResult) (candidate : ToolCandidate) : Prop :=
  admission.operationId = candidate.operationId ∧
    admission.canonicalArgumentsHash = candidate.canonicalArgumentsHash sha256 ∧
    admission.reasonCode = "ADMITTED" ∧ admission.toolDispatchAllowed = true ∧
    admission.egressAllowed = candidate.destination.isSome ∧
    admission.sandboxRunAllowed = true ∧ candidate.argumentNames.Nodup
  deriving Decidable

end Statements

section Fingerprints

variable {sha256 : String → String} {first second : ToolCandidate}

theorem canonicalArgumentsHash_eq_iff (injective : Function.Injective sha256) :
    first.canonicalArgumentsHash sha256 = second.canonicalArgumentsHash sha256 ↔
      first.arguments.Perm second.arguments := by
  rw [← sortBy_eq_iff_perm toLex.injective]
  constructor
  · intro same
    have lists := Plain.array.inj (Json.dumps_injective (injective same))
    have pairs : Function.Injective fun argument : String × String =>
        Plain.array [.text argument.1, .text argument.2] := by
      rintro ⟨_, _⟩ ⟨_, _⟩ equal
      simpa using equal
    exact List.map_injective_iff.mpr pairs lists
  · intro sorted
    simp [canonicalArgumentsHash, canonicalArguments, sortedArguments, sorted]

theorem destination_inj {destination other : Option String}
    (same : (destination.map Plain.text).getD .null = (other.map Plain.text).getD .null) :
    destination = other := by
  cases destination <;> cases other <;> simp_all

theorem approvalFingerprint_inj (injective : Function.Injective sha256)
    (same : first.approvalFingerprint sha256 = second.approvalFingerprint sha256) :
    first.tenantId = second.tenantId ∧ first.operationId = second.operationId ∧
      first.capability = second.capability ∧
      (first.toolName = second.toolName ∧ first.toolVersion = second.toolVersion) ∧
      first.arguments.Perm second.arguments ∧ first.destination = second.destination ∧
      first.purpose = second.purpose ∧ first.audience = second.audience := by
  have values := Json.dumps_injective (injective same)
  simp only [approvalPayload, Plain.object.injEq, List.cons.injEq, Prod.mk.injEq,
    Plain.text.injEq, true_and, and_true] at values
  rcases values with ⟨hashes, audiences, capabilities, destinations, operations, purposes, tenants,
    names, versions⟩
  exact ⟨tenants, operations, capabilities, ⟨names, versions⟩,
    (canonicalArgumentsHash_eq_iff injective).mp hashes, destination_inj destinations, purposes,
    audiences⟩

end Fingerprints

section Admission

variable {sha256 : String → String} {candidate : ToolCandidate} {contract : ToolContract}
variable {facts : CurrentSecurityFacts} {request : SandboxRequest} {now : Int}

/-- What an allowed candidate has passed, as far as the identity of its effect goes. -/
structure Passed (sha256 : String → String) (candidate : ToolCandidate) (contract : ToolContract)
    (facts : CurrentSecurityFacts) (now : Int) : Prop where
  tenant : candidate.tenantId = facts.tenantId
  resource : candidate.resourceTenantId = facts.tenantId
  names : candidate.argumentNames.Nodup
  approved : contract.requiresApproval = true → approvalRefusal sha256 candidate facts now = none

def Admits (sha256 : String → String) (candidate : ToolCandidate) (contract : ToolContract)
    (facts : CurrentSecurityFacts) (now : Int) (answer : AdmissionResult) : Prop :=
  (∃ decision reason, decision ≠ .allow ∧ answer = candidate.result sha256 decision reason) ∨
    (Passed sha256 candidate contract facts now ∧
      answer = candidate.result sha256 .allow "ADMITTED" true)

theorem admit_answers (sha256 : String → String) (candidate : ToolCandidate)
    (contract : ToolContract) (facts : CurrentSecurityFacts) (request : SandboxRequest)
    (now : Int) : Admits sha256 candidate contract facts now
      (admitToolCandidate sha256 candidate contract facts request now) := by
  have refuses : ∀ decision reason, decision ≠ .allow → Admits sha256 candidate contract facts now
      (candidate.result sha256 decision reason) :=
    fun _ _ other => .inl ⟨_, _, other, rfl⟩
  refine iteInduction (fun _ => refuses _ _ nofun) fun _ => ?_
  refine iteInduction (fun _ => refuses _ _ nofun) fun tenant => ?_
  refine iteInduction (fun _ => refuses _ _ nofun) fun resource => ?_
  refine iteInduction (fun _ => refuses _ _ nofun) fun _ => ?_
  refine iteInduction (fun _ => refuses _ _ nofun) fun _ => ?_
  refine iteInduction (fun _ => refuses _ _ nofun) fun _ => ?_
  refine iteInduction (fun _ => refuses _ _ nofun) fun _ => ?_
  refine iteInduction (fun _ => refuses _ _ nofun) fun _ => ?_
  refine iteInduction (fun _ => refuses _ _ nofun) fun names => ?_
  refine iteInduction (fun _ => refuses _ _ nofun) fun _ => ?_
  refine iteInduction (fun _ => refuses _ _ nofun) fun _ => ?_
  cases unapproved : (if contract.requiresApproval = true then
      approvalRefusal sha256 candidate facts now else none) with
  | some reason => exact refuses _ _ nofun
  | none =>
    refine iteInduction (fun _ => refuses _ _ nofun) fun _ => ?_
    refine iteInduction (fun _ => refuses _ _ nofun) fun _ => ?_
    cases egressRefusal candidate facts with
    | some => exact refuses _ _ nofun
    | none =>
      cases sandboxRefusal request facts.sandboxProfile with
      | some => exact refuses _ _ nofun
      | none =>
        refine .inr ⟨⟨not_not.mp tenant, not_not.mp resource, not_not.mp names, ?_⟩, rfl⟩
        intro required
        rw [required] at unapproved
        exact unapproved

theorem passed_of_allow
    (allowed : (admitToolCandidate sha256 candidate contract facts request now).decision = .allow) :
    Passed sha256 candidate contract facts now ∧
      admitToolCandidate sha256 candidate contract facts request now =
        candidate.result sha256 .allow "ADMITTED" true := by
  rcases admit_answers sha256 candidate contract facts request now with
    ⟨_, _, other, refused⟩ | passed
  · rw [refused] at allowed
    exact absurd allowed other
  · exact passed

variable {approval : ApprovalBinding}

theorem approvalRefusal_none (unrefused : approvalRefusal sha256 candidate facts now = none)
    (stored : facts.approval = some approval) : approval.tenantId = facts.tenantId ∧
      approval.candidateFingerprint = candidate.approvalFingerprint sha256 := by
  unfold approvalRefusal at unrefused
  rw [stored] at unrefused
  dsimp only at unrefused
  split at unrefused
  · cases unrefused
  split at unrefused
  · cases unrefused
  next bound => exact ⟨by_contra fun other => bound (.inl other),
    by_contra fun other => bound (.inr other)⟩

theorem ApprovedBy.bound (approved : ApprovedBy sha256 approval candidate) :
    candidate.tenantId = approval.tenantId ∧ candidate.resourceTenantId = approval.tenantId ∧
      candidate.approvalFingerprint sha256 = approval.candidateFingerprint := by
  rcases approved with ⟨_, _, _, _, required, stored, allowed⟩
  rcases passed_of_allow allowed with ⟨passed, _⟩
  rcases approvalRefusal_none (passed.approved required) stored with ⟨tenant, fingerprint⟩
  exact ⟨by rw [passed.tenant, tenant], by rw [passed.resource, tenant], fingerprint.symm⟩

theorem sameAction_of_approved (injective : Function.Injective sha256)
    {first second : ToolCandidate}
    (approved : ApprovedBy sha256 approval first) (approves : ApprovedBy sha256 approval second) :
    SameAction first second := by
  rcases approved.bound with ⟨_, resource, fingerprint⟩
  rcases approves.bound with ⟨_, other, print⟩
  rcases approvalFingerprint_inj injective (fingerprint.trans print.symm) with
    ⟨tenants, operations, capabilities, tools, arguments, destinations, purposes, audiences⟩
  exact ⟨tenants, resource.trans other.symm, operations, capabilities, tools, arguments,
    destinations, purposes, audiences⟩

end Admission

section Execution

variable {sha256 : String → String} {admission : AdmissionResult} {candidate : ToolCandidate}

theorem enters_iff (admission : AdmissionResult) (candidate : ToolCandidate) (ports : Ports) :
    Enters admission candidate ports ↔ admission.decision = .allow := by
  unfold Enters executeAdmittedCandidate
  by_cases allowed : admission.decision = .allow
  · rw [if_neg (not_not.mpr allowed)]
    refine iff_of_true (.inl ?_) allowed
    cases candidate.destination <;> simp [Ports.start, Ports.dispatch, Ports.send, Ports.cleanup]
  · rw [if_pos allowed]
    refine iff_of_false ?_ allowed
    simp

theorem matches_iff_result : Matches sha256 admission candidate ↔
    ({ admission with decision := .allow } = candidate.result sha256 .allow "ADMITTED" true ∧
      candidate.argumentNames.Nodup) := by
  simp only [Matches, ToolCandidate.result, AdmissionResult.mk.injEq]
  tauto

/-- The action of a candidate, within its own tenant and without disclosures. -/
def ToolCandidate.confined (candidate : ToolCandidate) : ToolCandidate :=
  { candidate with resourceTenantId := candidate.tenantId, disclosedFields := [] }

def ToolCandidate.ownContract (candidate : ToolCandidate) : ToolContract :=
  { toolName := candidate.toolName, toolVersion := candidate.toolVersion
    capability := candidate.capability, allowedArgumentNames := candidate.argumentNames
    requiredArgumentNames := [], requiresApproval := false }

def ToolCandidate.ownFacts (candidate : ToolCandidate) : CurrentSecurityFacts :=
  { tenantId := candidate.tenantId, currentPolicyVersion := candidate.policyVersion
    policyAuthorityAvailable := true, grantedCapabilities := [candidate.capability]
    currentlyAllowedCapabilities := [candidate.capability]
    currentFenceToken := candidate.fenceToken
    allowedDestinations := candidate.destination.toList, allowedPurposes := [candidate.purpose]
    allowedAudiences := [candidate.audience], allowedDisclosureFields := [], approval := none
    sandboxProfile :=
      { profileId := "", version := "", readablePaths := [], writablePaths := []
        networkDestinations := [], allowedEnvironmentNames := [], allowSubprocess := false } }

def SandboxRequest.nothing : SandboxRequest :=
  { readablePaths := [], writablePaths := [], networkDestinations := [], environmentNames := []
    allowSubprocess := false }

theorem admit_confined (sha256 : String → String) (candidate : ToolCandidate)
    (names : candidate.argumentNames.Nodup) :
    admitToolCandidate sha256 candidate.confined candidate.ownContract candidate.ownFacts .nothing
      0 = candidate.result sha256 .allow "ADMITTED" true := by
  have confined : candidate.confined.argumentNames = candidate.argumentNames := rfl
  have egress : egressRefusal candidate.confined candidate.ownFacts = none := by
    unfold egressRefusal
    cases stored : candidate.destination with
    | none => simp [ToolCandidate.confined, stored]
    | some => simp [ToolCandidate.confined, ownFacts, stored]
  have sandbox : sandboxRefusal .nothing candidate.ownFacts.sandboxProfile = none := by
    simp [sandboxRefusal, SandboxRequest.nothing]
  simp only [admitToolCandidate, egress, sandbox, confined, names]
  simp [ToolCandidate.confined, ownContract, ownFacts,
    ToolCandidate.result, canonicalArgumentsHash, canonicalArguments,
    sortedArguments]

theorem producedFor_iff (allowed : admission.decision = .allow) :
    ProducedFor sha256 admission candidate ↔ Matches sha256 admission candidate := by
  have same : { admission with decision := .allow } = admission := by rw [← allowed]
  rw [matches_iff_result, same]
  constructor
  · rintro ⟨_, _, _, _, _, produced, _, operation, arguments, _, _, destination⟩
    rw [produced] at allowed
    rcases passed_of_allow allowed with ⟨passed, result⟩
    refine ⟨?_, ?_⟩
    · rw [produced, result]
      simp [ToolCandidate.result, canonicalArgumentsHash,
        canonicalArguments, sortedArguments, operation, arguments,
        destination]
    · have names := passed.names
      rw [argumentNames, arguments] at names
      exact names
  · rintro ⟨result, names⟩
    exact ⟨candidate.confined, candidate.ownContract, candidate.ownFacts, .nothing, 0,
      result.trans (admit_confined sha256 candidate names).symm, allowed, rfl, rfl, rfl, rfl, rfl⟩

end Execution

namespace Sample

def identity (material : String) : String := material

def publishing (operationId : String) (arguments : List (String × String))
    (disclosed : List String) : ToolCandidate :=
  { tenantId := "tenant-a", jobId := "parent-1", attemptId := "attempt-1", stepId := "step-1"
    handoffId := "handoff-source", operationId, capability := "publish_research_report.v1"
    toolName := "publish_research_report", toolVersion := "v1", arguments
    resourceTenantId := "tenant-a", destination := some "partner.example", purpose := "research"
    audience := "research-agent", disclosedFields := disclosed.map fun name => ⟨name, .internal⟩
    fenceToken := 3, policyVersion := "agent-security-policy-v1" }

def publishContract : ToolContract :=
  { toolName := "publish_research_report", toolVersion := "v1"
    capability := "publish_research_report.v1", allowedArgumentNames := ["artifact_id", "format"]
    requiredArgumentNames := ["artifact_id"], requiresApproval := true }

def report : List (String × String) := [("artifact_id", "report-v1"), ("format", "pdf")]

def approval : ApprovalBinding :=
  { approvalId := "approval-1", tenantId := "tenant-a"
    candidateFingerprint := (publishing "operation-1" report ["title"]).approvalFingerprint identity
    expiresAt := 100 }

def facts : CurrentSecurityFacts :=
  { tenantId := "tenant-a", currentPolicyVersion := "agent-security-policy-v1"
    policyAuthorityAvailable := true, grantedCapabilities := ["publish_research_report.v1"]
    currentlyAllowedCapabilities := ["publish_research_report.v1"], currentFenceToken := 3
    allowedDestinations := ["partner.example"], allowedPurposes := ["research"]
    allowedAudiences := ["research-agent"]
    allowedDisclosureFields := ["title", "customer_email"], approval := some approval
    sandboxProfile :=
      { profileId := "profile-1", version := "v1", readablePaths := [], writablePaths := []
        networkDestinations := [], allowedEnvironmentNames := [], allowSubprocess := false } }

def admitted (candidate : ToolCandidate) : AdmissionResult :=
  admitToolCandidate identity candidate publishContract facts .nothing 10

end Sample

end BackendHandbook.Agents
