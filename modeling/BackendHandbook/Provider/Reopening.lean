import BackendHandbook.Provider.ControlPlane

/-! Terminal jobs under dispatch, deadlines and repair, in any order. -/

namespace BackendHandbook.Provider

open Run
open Streaming (Instant)

structure ControlPlane where
  jobs : JobTable
  outbox : List OutboxDispatchIntent
  repairLedger : Dict String Instant

/-- What a call finds beside the jobs, whoever has used it before. -/
structure Surroundings where
  limiter : SharedRateLimiter
  ledger : TenantBudgetLedger
  circuit : CircuitBreaker

inductive PlaneOperation
  | evaluateDispatch (now : Instant) (emergencyFailOpen : Bool) (rand : Nat → ℚ)
  | processDeadline
  | repairRedispatch (now : Instant) (affectedSet : List String) (releaseVersion : String)

structure PlaneCall where
  jobId : String
  surroundings : Surroundings
  operation : PlaneOperation

inductive PlaneResult
  | evaluated (decision : DispatchDecision)
  | processed (decision : Except Raised DispatchDecision)
  | repaired (outcome : Except Raised RepairOutcome)

structure PlaneAnswer where
  result : PlaneResult
  surroundings : Surroundings

namespace ControlPlane

def facts (plane : ControlPlane) (job : Job) (ledger : TenantBudgetLedger) : Repaired :=
  ⟨job, plane.outbox, plane.repairLedger, ledger⟩

def apply (plane : ControlPlane) (job : Job) (found : Surroundings) :
    PlaneOperation → PlaneAnswer × ControlPlane
  | .evaluateDispatch now emergencyFailOpen rand =>
    let dispatched := Provider.evaluateDispatch job found.limiter found.ledger found.circuit now
      emergencyFailOpen rand
    (⟨.evaluated dispatched.decision, ⟨dispatched.limiter, found.ledger, dispatched.circuit⟩⟩,
      { plane with jobs := plane.jobs.write dispatched.job })
  | .processDeadline =>
    let processed := Provider.processDeadline job found.ledger
    (⟨.processed processed.1, { found with ledger := processed.2.2 }⟩,
      { plane with jobs := plane.jobs.write processed.2.1 })
  | .repairRedispatch now affectedSet releaseVersion =>
    let repaired := Provider.repairRedispatch (plane.facts job found.ledger) now affectedSet
      releaseVersion
    (⟨.repaired repaired.1, { found with ledger := repaired.2.ledger }⟩,
      ⟨plane.jobs.write repaired.2.job, repaired.2.outbox, repaired.2.repairLedger⟩)

def perform (call : PlaneCall) (plane : ControlPlane) : Option PlaneAnswer × ControlPlane :=
  match plane.jobs.lookup call.jobId with
  | none => (none, plane)
  | some job =>
    let applied := plane.apply job call.surroundings call.operation
    (some applied.1, applied.2)

/-- The deadline of a job that is terminal, where the provider may have executed it. -/
def Reopens (plane : ControlPlane) (call : PlaneCall) : Prop :=
  call.operation = .processDeadline ∧ ∃ job, plane.jobs.lookup call.jobId = some job ∧
    job.status ∈ terminalStatuses ∧ job.evidence = true

/-- The jobs, the outbox and the repairs, as a reader finds them. -/
structure Unchanged (before after : ControlPlane) : Prop where
  jobs : ∀ jobId, after.jobs.lookup jobId = before.jobs.lookup jobId
  outbox : after.outbox = before.outbox
  repairLedger : after.repairLedger = before.repairLedger

end ControlPlane

def redispatches (jobId releaseVersion : String) (call : PlaneCall)
    (answer : Option PlaneAnswer) : Bool :=
  match call.operation, answer with
  | .repairRedispatch _ _ version, some ⟨.repaired (.ok .redispatched), _⟩ =>
    call.jobId = jobId ∧ version = releaseVersion
  | _, _ => false

/-- What an audited repair starts from, and what it writes. -/
structure Redispatched (jobId releaseVersion : String) (before after : ControlPlane)
    (surroundings : Surroundings) (job later : Job) : Prop where
  found : before.jobs.lookup jobId = some job
  expired : job.status = .expired
  unintended : job.intentKind = none
  unexecuted : job.evidence = false
  reserved : surroundings.ledger.hasReservation later = true
  written : after.jobs.lookup jobId = some later
  history : ∃ record, later.repairHistory = job.repairHistory ++ [record] ∧
    record.repairId = repairIdFor jobId releaseVersion
  dispatched : ∃ intent, after.outbox = before.outbox ++ [intent] ∧ intent.jobId = jobId ∧
    intent.repairId = repairIdFor jobId releaseVersion

/-- Terminal jobs are reopened by audited repairs only, one for each job and release. -/
structure ReopenedByRepair (plane : ControlPlane) (calls : List PlaneCall) : Prop where
  terminal : ∀ e ∈ trace ControlPlane.perform plane calls, ∀ jobId job,
    e.before.jobs.lookup jobId = some job → job.status ∈ terminalStatuses →
      (∀ releaseVersion, redispatches jobId releaseVersion e.call e.response = false) →
        ∃ later, e.after.jobs.lookup jobId = some later ∧ later.status = job.status ∧
          later.costState = job.costState
  once : ∀ jobId releaseVersion, (trace ControlPlane.perform plane calls).countP
    (fun e => redispatches jobId releaseVersion e.call e.response) ≤ 1
  audited : ∀ e ∈ trace ControlPlane.perform plane calls, ∀ jobId releaseVersion,
    redispatches jobId releaseVersion e.call e.response = true →
      ∃ answer job later, e.response = some answer ∧
        Redispatched jobId releaseVersion e.before e.after answer.surroundings job later
  blocked : ∀ e ∈ trace ControlPlane.perform plane calls, ∀ answer outcome,
    e.response = some answer → answer.result = .repaired outcome → outcome ≠ .ok .redispatched →
      e.before.Unchanged e.after ∧ answer.surroundings = e.call.surroundings

section Steps

variable (job : Job) (limiter : SharedRateLimiter) (ledger : TenantBudgetLedger)
variable (circuit : CircuitBreaker) (now : Instant) (emergencyFailOpen : Bool)
variable (rand : Nat → ℚ)

/-- A job is dispatched as it is, or put off. -/
def KeptOrDeferred (later : Job) : Prop :=
  later = job ∨ ∃ reason, later = (defer job reason now rand).2

theorem spend_job (permitAcquired : Bool) :
    KeptOrDeferred job now rand (spend job limiter ledger circuit now rand permitAcquired).job := by
  simp only [spend]
  by_cases unreserved : ledger.hasReservation job = false
  · rw [if_pos unreserved]
    exact .inr ⟨_, rfl⟩
  · rw [if_neg unreserved]
    by_cases probing : circuit.state job.contract.circuitKey ≠ .halfOpen
    · rw [if_pos probing]
      exact .inl rfl
    · rw [if_neg probing]
      cases acquired : circuit.tryAcquireProbe job.contract.circuitKey with
      | mk won kept =>
        cases won with
        | false => exact .inr ⟨_, rfl⟩
        | true => exact .inl rfl

theorem permit_job : KeptOrDeferred job now rand
      (permit job limiter ledger circuit now emergencyFailOpen rand).job := by
  simp only [permit]
  by_cases available : limiter.available = true
  · rw [if_pos available]
    cases acquired : limiter.tryAcquire with
    | mk won kept =>
      cases won with
      | false => exact .inr ⟨_, rfl⟩
      | true => exact spend_job job kept ledger circuit now rand true
  · rw [if_neg available]
    cases emergencyFailOpen with
    | true => exact spend_job job limiter ledger circuit now rand false
    | false => exact .inr ⟨_, rfl⟩

theorem evaluateDispatch_job : KeptOrDeferred job now rand
      (evaluateDispatch job limiter ledger circuit now emergencyFailOpen rand).job := by
  simp only [evaluateDispatch]
  by_cases terminal : job.status ∈ terminalStatuses
  · rw [if_pos terminal]
    exact .inl rfl
  · rw [if_neg terminal]
    cases job.intentKind with
    | some kind => exact .inl rfl
    | none =>
      by_cases evidence : job.evidence = true
      · rw [if_pos evidence]
        exact .inl rfl
      · rw [if_neg evidence]
        by_cases late : job.deadline ≤ now
        · rw [if_pos late]
          exact .inl rfl
        · rw [if_neg late]
          by_cases opened : circuit.state job.contract.circuitKey = .open
          · rw [if_pos opened]
            exact .inr ⟨_, rfl⟩
          · rw [if_neg opened]
            by_cases probed : circuit.state job.contract.circuitKey = .halfOpen ∧
                circuit.hasProbeCapacity job.contract.circuitKey = false
            · rw [if_pos probed]
              exact .inr ⟨_, rfl⟩
            · rw [if_neg probed]
              exact permit_job job limiter ledger circuit now emergencyFailOpen rand

theorem evaluateDispatch_jobId :
    (evaluateDispatch job limiter ledger circuit now emergencyFailOpen rand).job.jobId =
      job.jobId := by
  rcases evaluateDispatch_job job limiter ledger circuit now emergencyFailOpen rand with
    same | ⟨_, same⟩
  · rw [same]
  · rw [same]
    rfl

theorem evaluateDispatch_terminal (terminal : job.status ∈ terminalStatuses) :
    (evaluateDispatch job limiter ledger circuit now emergencyFailOpen rand).job = job := by
  simp [evaluateDispatch, if_pos terminal]

theorem processDeadline_jobId : (processDeadline job ledger).2.1.jobId = job.jobId := by
  simp only [processDeadline]
  by_cases evidence : job.evidence = true
  · rw [if_pos evidence]
    rfl
  · rw [if_neg evidence]
    by_cases terminal : job.status ∈ terminalStatuses
    · rw [if_pos terminal]
    · rw [if_neg terminal]
      have step := releaseReservation_step ledger job
      generalize ledger.releaseReservation job = result at step
      cases step with
      | raised unknown | released credited credit => rfl

theorem processDeadline_terminal (terminal : job.status ∈ terminalStatuses) :
    (job.evidence = false → (processDeadline job ledger).2.1 = job) ∧
      (job.evidence = true → (processDeadline job ledger).2.1.status = .pendingReconciliation) := by
  simp only [processDeadline]
  constructor
  · intro unexecuted
    rw [if_neg (by rw [unexecuted]; exact Bool.false_ne_true), if_pos terminal]
  · intro evidence
    rw [if_pos evidence]

inductive RepairStep (facts : Repaired) (now : Instant) (releaseVersion : String) :
    Except Raised RepairOutcome × Repaired → Prop
  | blocked (outcome : Except Raised RepairOutcome) (other : outcome ≠ .ok .redispatched) :
      RepairStep facts now releaseVersion (outcome, facts)
  | redispatched (reserved : Job) (ledger : TenantBudgetLedger)
      (unrepaired : facts.repairLedger.lookup (repairIdFor facts.job.jobId releaseVersion) = none)
      (expired : facts.job.status = .expired) (unintended : facts.job.intentKind = none)
      (unexecuted : facts.job.evidence = false)
      (granted : facts.ledger.reserveWorstCase facts.job = (.ok true, reserved, ledger)) :
      RepairStep facts now releaseVersion (.ok .redispatched,
        { job := { reserved with
            repairHistory := reserved.repairHistory ++ [⟨JobStatus.expired.value,
              repairIdFor facts.job.jobId releaseVersion, now, "capacity_expiry_repair"⟩]
            status := .queued, defer := none }
          outbox := facts.outbox ++ [⟨facts.job.jobId, now, "capacity_expiry_repair",
            repairIdFor facts.job.jobId releaseVersion⟩]
          repairLedger := facts.repairLedger.insert (repairIdFor facts.job.jobId releaseVersion) now
          ledger := ledger })

theorem repairRedispatch_step (facts : Repaired) (affectedSet : List String)
    (releaseVersion : String) : RepairStep facts now releaseVersion
      (repairRedispatch facts now affectedSet releaseVersion) := by
  simp only [repairRedispatch]
  by_cases known :
      (facts.repairLedger.lookup (repairIdFor facts.job.jobId releaseVersion)).isSome = true
  · rw [if_pos known]
    exact .blocked _ (by simp)
  rw [if_neg known]
  by_cases outside : facts.job.jobId ∉ affectedSet
  · rw [if_pos outside]
    exact .blocked _ (by simp)
  rw [if_neg outside]
  by_cases unexpired : facts.job.status ≠ .expired
  · rw [if_pos unexpired]
    exact .blocked _ (by simp)
  rw [if_neg unexpired]
  by_cases intended : facts.job.intentKind.isSome = true
  · rw [if_pos intended]
    exact .blocked _ (by simp)
  rw [if_neg intended]
  by_cases refused : classifyIncidentRepair facts.job now ≠ .redispatchNewOutboxIntent
  · rw [if_pos refused]
    by_cases evidence : facts.job.evidence = true
    · rw [if_pos evidence]
      exact .blocked _ (by simp)
    · rw [if_neg evidence]
      exact .blocked _ (by simp)
  rw [if_neg refused]
  have unexecuted : facts.job.evidence = false := by
    rw [← Bool.not_eq_true]
    intro evidence
    exact refused (by simp [classifyIncidentRepair, evidence])
  have step := reserveWorstCase_step facts.ledger facts.job
  cases granted : facts.ledger.reserveWorstCase facts.job with
  | mk answer written =>
  rw [granted] at step
  cases answer with
  | error raised =>
    cases step with
    | kept _ _ => exact .blocked _ (by simp)
  | ok accepted =>
    cases accepted with
    | false =>
      cases step with
      | kept _ _ => exact .blocked _ (by simp)
    | true =>
      exact .redispatched written.1 written.2 (by simpa using known) (not_not.mp unexpired)
        (by simpa using intended) unexecuted granted

theorem reserved_holds {ledger later : TenantBudgetLedger} {job reserved : Job}
    (granted : ledger.reserveWorstCase job = (.ok true, reserved, later)) :
    reserved.jobId = job.jobId ∧ reserved.repairHistory = job.repairHistory ∧
      later.hasReservation reserved = true := by
  have step := reserveWorstCase_step ledger job
  rw [granted] at step
  cases step with
  | kept _ present => exact ⟨rfl, rfl, present rfl⟩
  | reserved charged absent covered charge =>
    refine ⟨rfl, rfl, ?_⟩
    simp [TenantBudgetLedger.hasReservation]

end Steps

section Calls

variable {plane : ControlPlane} {call : PlaneCall} {job : Job}

theorem perform_missing (missing : plane.jobs.lookup call.jobId = none) :
    plane.perform call = (none, plane) := by
  simp [ControlPlane.perform, missing]

theorem perform_found (found : plane.jobs.lookup call.jobId = some job) : plane.perform call =
      (some (plane.apply job call.surroundings call.operation).1,
        (plane.apply job call.surroundings call.operation).2) := by
  simp [ControlPlane.perform, found]

/-- What one call does: nothing a reader sees, the write of one job that is dispatched or
past its deadline, or an audited repair. -/
inductive PlaneStep (plane : ControlPlane) (call : PlaneCall) :
    Option PlaneAnswer × ControlPlane → Prop
  | missing (absent : plane.jobs.lookup call.jobId = none) : PlaneStep plane call (none, plane)
  | written (job later : Job) (answer : PlaneAnswer)
      (found : plane.jobs.lookup call.jobId = some job) (jobId : later.jobId = job.jobId)
      (unrepaired : ∀ outcome, answer.result ≠ .repaired outcome)
      (terminal : job.status ∈ terminalStatuses → later = job ∨
        call.operation = .processDeadline ∧ job.evidence = true ∧
          later.status = .pendingReconciliation) :
      PlaneStep plane call (some answer, { plane with jobs := plane.jobs.write later })
  | blocked (job : Job) (outcome : Except Raised RepairOutcome)
      (found : plane.jobs.lookup call.jobId = some job)
      (other : outcome ≠ .ok .redispatched) :
      PlaneStep plane call (some ⟨.repaired outcome, call.surroundings⟩,
        { plane with jobs := plane.jobs.write job })
  | repaired (job later : Job) (ledger : TenantBudgetLedger) (now : Instant)
      (affectedSet : List String) (releaseVersion : String)
      (found : plane.jobs.lookup call.jobId = some job)
      (called : call.operation = .repairRedispatch now affectedSet releaseVersion)
      (unrepaired : plane.repairLedger.lookup (repairIdFor call.jobId releaseVersion) = none)
      (expired : job.status = .expired) (unintended : job.intentKind = none)
      (unexecuted : job.evidence = false) (jobId : later.jobId = job.jobId)
      (reserved : ledger.hasReservation later = true)
      (history : later.repairHistory = job.repairHistory ++ [⟨JobStatus.expired.value,
        repairIdFor call.jobId releaseVersion, now, "capacity_expiry_repair"⟩]) :
      PlaneStep plane call
        (some ⟨.repaired (.ok .redispatched), { call.surroundings with ledger := ledger }⟩,
          ⟨plane.jobs.write later,
            plane.outbox ++ [⟨call.jobId, now, "capacity_expiry_repair",
              repairIdFor call.jobId releaseVersion⟩],
            plane.repairLedger.insert (repairIdFor call.jobId releaseVersion) now⟩)

theorem perform_step (plane : ControlPlane) (call : PlaneCall) :
    PlaneStep plane call (plane.perform call) := by
  cases found : plane.jobs.lookup call.jobId with
  | none =>
    rw [perform_missing found]
    exact .missing found
  | some job =>
    have named : job.jobId = call.jobId := plane.jobs.named call.jobId job found
    rw [perform_found found]
    rcases call with ⟨jobId, surroundings, operation⟩
    cases operation with
    | evaluateDispatch now emergencyFailOpen rand =>
      refine .written job _ _ found ?_ ?_ ?_
      · exact evaluateDispatch_jobId job surroundings.limiter surroundings.ledger
          surroundings.circuit now emergencyFailOpen rand
      · intro outcome same
        cases same
      · intro terminal
        exact .inl (evaluateDispatch_terminal job surroundings.limiter surroundings.ledger
          surroundings.circuit now emergencyFailOpen rand terminal)
    | processDeadline =>
      refine .written job _ _ found (processDeadline_jobId job surroundings.ledger) ?_ ?_
      · intro outcome same
        cases same
      · intro terminal
        have step := processDeadline_terminal job surroundings.ledger terminal
        cases evidence : job.evidence with
        | false => exact .inl (step.1 evidence)
        | true => exact .inr ⟨rfl, rfl, step.2 evidence⟩
    | repairRedispatch now affectedSet releaseVersion =>
      have step := repairRedispatch_step now (plane.facts job surroundings.ledger) affectedSet
        releaseVersion
      simp only [ControlPlane.apply]
      generalize repairRedispatch (plane.facts job surroundings.ledger) now affectedSet
        releaseVersion = result at step
      cases step with
      | blocked outcome other => exact .blocked job outcome found other
      | redispatched reserved ledger unrepaired expired unintended unexecuted granted =>
        have holds := reserved_holds granted
        have same : repairIdFor job.jobId releaseVersion =
            repairIdFor jobId releaseVersion := by rw [named]
        simp only [ControlPlane.facts] at unrepaired expired unintended unexecuted ⊢
        rw [same] at unrepaired ⊢
        rw [named]
        refine .repaired job _ ledger now affectedSet releaseVersion found rfl unrepaired
          expired unintended unexecuted holds.1 holds.2.2 ?_
        exact congrArg (fun records => records ++ _) holds.2.1

variable {later : Job}

theorem write_here (found : plane.jobs.lookup call.jobId = some job)
    (jobId : later.jobId = job.jobId) :
    (plane.jobs.write later).lookup call.jobId = some later := by
  rw [JobTable.lookup_write, jobId, plane.jobs.named call.jobId job found, if_pos rfl]

theorem write_elsewhere {jobId : String}
    (found : plane.jobs.lookup call.jobId = some job) (same : later.jobId = job.jobId)
    (other : jobId ≠ call.jobId) :
    (plane.jobs.write later).lookup jobId = plane.jobs.lookup jobId := by
  rw [JobTable.lookup_write, same, plane.jobs.named call.jobId job found, if_neg other]

theorem write_same (found : plane.jobs.lookup call.jobId = some job) :
    plane.Unchanged { plane with jobs := plane.jobs.write job } := by
  refine ⟨?_, rfl, rfl⟩
  intro jobId
  by_cases same : jobId = call.jobId
  · rw [same, found]
    exact write_here found rfl
  · exact write_elsewhere found rfl same

theorem perform_terminal (plane : ControlPlane) (call : PlaneCall)
    (quiet : ¬ plane.Reopens call) (jobId : String) (job : Job)
    (found : plane.jobs.lookup jobId = some job) (terminal : job.status ∈ terminalStatuses)
    (unrepaired : ∀ releaseVersion,
      redispatches jobId releaseVersion call (plane.perform call).1 = false) :
    (plane.perform call).2.jobs.lookup jobId = some job := by
  have step := perform_step plane call
  generalize plane.perform call = result at step unrepaired
  by_cases same : jobId = call.jobId
  · rw [same] at found unrepaired ⊢
    cases step with
    | missing absent => exact found
    | written stored later answer listed named _ kept =>
      rw [found] at listed
      cases listed
      rcases kept terminal with unchanged | ⟨deadline, evidence, _⟩
      · rw [unchanged]
        exact write_here found rfl
      · exact absurd ⟨deadline, job, found, terminal, evidence⟩ quiet
    | blocked stored outcome listed other =>
      rw [found] at listed
      cases listed
      exact write_here found rfl
    | repaired stored later ledger now affectedSet releaseVersion listed called =>
      have redispatched := unrepaired releaseVersion
      simp only [redispatches, called] at redispatched
      cases redispatched
  · cases step with
    | missing absent => exact found
    | written stored later answer listed named => rw [write_elsewhere listed named same, found]
    | blocked stored outcome listed other => rw [write_elsewhere listed rfl same, found]
    | repaired stored later ledger now affectedSet releaseVersion listed called unrepaired expired
        unintended unexecuted named => rw [write_elsewhere listed named same, found]

theorem perform_reopens (plane : ControlPlane) (call : PlaneCall) (reopens : plane.Reopens call) :
    ∃ job later, plane.jobs.lookup call.jobId = some job ∧ job.status ∈ terminalStatuses ∧
      (∀ releaseVersion,
        redispatches call.jobId releaseVersion call (plane.perform call).1 = false) ∧
      (plane.perform call).2.jobs.lookup call.jobId = some later ∧ later.status ≠ job.status := by
  rcases reopens with ⟨called, job, found, terminal, evidence⟩
  have later := (processDeadline_terminal job call.surroundings.ledger terminal).2 evidence
  have named := processDeadline_jobId job call.surroundings.ledger
  refine ⟨job, (processDeadline job call.surroundings.ledger).2.1, found, terminal, ?_, ?_, ?_⟩
  · intro releaseVersion
    simp [redispatches, called]
  · rw [perform_found found, called]
    exact write_here found named
  · intro same
    rw [← same, later] at terminal
    exact absurd terminal (by decide)

theorem redispatches_answer {jobId releaseVersion : String} {answer : Option PlaneAnswer}
    (redispatched : redispatches jobId releaseVersion call answer = true) :
    ∃ now affectedSet surroundings,
      call.operation = .repairRedispatch now affectedSet releaseVersion ∧ call.jobId = jobId ∧
        answer = some ⟨.repaired (.ok .redispatched), surroundings⟩ := by
  simp only [redispatches] at redispatched
  split at redispatched
  · next now affectedSet version surroundings called =>
    rcases of_decide_eq_true redispatched with ⟨same, release⟩
    rw [release] at called
    exact ⟨now, affectedSet, surroundings, called, same, rfl⟩
  · cases redispatched

theorem perform_redispatched (plane : ControlPlane) (call : PlaneCall)
    (jobId releaseVersion : String)
    (redispatched : redispatches jobId releaseVersion call (plane.perform call).1 = true) :
    plane.repairLedger.lookup (repairIdFor jobId releaseVersion) = none ∧
      ((plane.perform call).2.repairLedger.lookup
        (repairIdFor jobId releaseVersion)).isSome = true ∧
      ∃ answer job later, (plane.perform call).1 = some answer ∧
        Redispatched jobId releaseVersion plane (plane.perform call).2 answer.surroundings job
          later := by
  rcases redispatches_answer redispatched with ⟨_, _, _, operation, rfl, answered⟩
  have step := perform_step plane call
  generalize plane.perform call = result at step answered
  cases step with
  | missing absent => cases answered
  | written stored later answer listed named unrepaired =>
    cases answered
    exact absurd rfl (unrepaired _)
  | blocked stored outcome listed other =>
    cases answered
    exact absurd rfl other
  | repaired stored later ledger now affectedSet version listed called unrepaired expired
      unintended unexecuted named reserved history =>
      rw [operation] at called
      cases called
      refine ⟨unrepaired, by simp, _, stored, later, rfl, ?_⟩
      exact ⟨listed, expired, unintended, unexecuted, reserved, write_here listed named,
        ⟨_, history, rfl⟩, ⟨_, rfl, rfl, rfl⟩⟩

theorem perform_blocked (plane : ControlPlane) (call : PlaneCall) (answer : PlaneAnswer)
    (outcome : Except Raised RepairOutcome) (answered : (plane.perform call).1 = some answer)
    (repaired : answer.result = .repaired outcome) (other : outcome ≠ .ok .redispatched) :
    plane.Unchanged (plane.perform call).2 ∧ answer.surroundings = call.surroundings := by
  have step := perform_step plane call
  generalize plane.perform call = result at step answered
  cases step with
  | missing absent => cases answered
  | written stored later answer listed named unrepaired =>
    cases answered
    exact absurd repaired (unrepaired outcome)
  | blocked stored outcome listed refused =>
    cases answered
    exact ⟨write_same listed, rfl⟩
  | repaired stored later ledger now affectedSet version listed =>
    cases answered
    cases repaired
    exact absurd rfl other

theorem perform_repairLedger (plane : ControlPlane) (call : PlaneCall) (rid : String)
    (recorded : (plane.repairLedger.lookup rid).isSome = true) :
    ((plane.perform call).2.repairLedger.lookup rid).isSome = true := by
  have step := perform_step plane call
  generalize plane.perform call = result at step
  cases step with
  | missing absent | written stored later answer listed | blocked stored outcome listed =>
    exact recorded
  | repaired stored later ledger now affectedSet version listed =>
    rw [Dict.lookup_insert_eq]
    by_cases same : rid = repairIdFor call.jobId version
    · rw [if_pos same]
      rfl
    · rw [if_neg same]
      exact recorded

theorem ReopenedByRepair.quiet {calls : List PlaneCall} (law : ReopenedByRepair plane calls) :
    ∀ e ∈ trace ControlPlane.perform plane calls, ¬ e.before.Reopens e.call := by
  intro e member reopens
  have performed := mem_trace_performed member
  rcases perform_reopens e.before e.call reopens with
    ⟨job, _, found, terminal, unrepaired, written, differs⟩
  rw [← performed.1] at unrepaired
  rw [← performed.2] at written
  rcases law.terminal e member e.call.jobId job found terminal unrepaired with
    ⟨_, listed, same, _⟩
  rw [written] at listed
  cases listed
  exact differs same

/-- A terminal job is reopened by an audited repair only, exactly where no deadline is
processed for a terminal job whose execution is in evidence. -/
theorem terminal_reopens_by_repair (plane : ControlPlane) (calls : List PlaneCall) :
    ReopenedByRepair plane calls ↔
      ∀ e ∈ trace ControlPlane.perform plane calls, ¬ e.before.Reopens e.call := by
  constructor
  · intro law
    exact law.quiet
  · intro quiet
    constructor
    · intro e member jobId job found terminal unrepaired
      rw [(mem_trace_performed member).1] at unrepaired
      rw [(mem_trace_performed member).2]
      exact ⟨job, perform_terminal e.before e.call (quiet e member) jobId job found terminal
        unrepaired, rfl, rfl⟩
    · intro jobId releaseVersion
      apply counted_once ControlPlane.perform
        (fun plane => (plane.repairLedger.lookup (repairIdFor jobId releaseVersion)).isSome) false
      · intro e member
        rw [(mem_trace_performed member).2]
        cases recorded :
          (e.before.repairLedger.lookup (repairIdFor jobId releaseVersion)).isSome with
        | false => exact Bool.false_le _
        | true => rw [perform_repairLedger e.before e.call _ recorded]
      · intro e member counted
        rw [(mem_trace_performed member).1] at counted
        rw [(mem_trace_performed member).2]
        have redispatched := perform_redispatched e.before e.call jobId releaseVersion counted
        rw [redispatched.1, redispatched.2.1]
        exact ⟨rfl, by decide⟩
    · intro e member jobId releaseVersion redispatched
      rw [(mem_trace_performed member).1] at redispatched ⊢
      rw [(mem_trace_performed member).2]
      exact (perform_redispatched e.before e.call jobId releaseVersion redispatched).2.2
    · intro e member answer outcome answered repaired other
      rw [(mem_trace_performed member).1] at answered
      rw [(mem_trace_performed member).2]
      exact perform_blocked e.before e.call answer outcome answered repaired other

end Calls

namespace Sample

/-- A job that has succeeded, and whose provider request is known. -/
def succeeded : Job where
  jobId := "job-1"
  tenantId := "tenant-a"
  contract := ⟨"provider", "account", "model", "region", 1000, 5, 0, 0⟩
  status := .succeeded
  deadline := 100
  costState := .settled
  settledCost := some 3
  attempt := some { providerRequestId := some "request-1" }

def plane : ControlPlane := ⟨JobTable.empty.write succeeded, [], ∅⟩

def surroundings : Surroundings := ⟨⟨1, 0, true⟩, ⟨∅, ∅⟩, {}⟩

/-- The deadline of a succeeded job reopens it for reconciliation. -/
theorem succeeded_reopens :
    ¬ ReopenedByRepair plane [⟨"job-1", surroundings, .processDeadline⟩] := by
  intro law
  exact law.quiet _ List.mem_cons_self ⟨rfl, succeeded, by decide +kernel, by decide, by decide⟩

end Sample

end BackendHandbook.Provider
