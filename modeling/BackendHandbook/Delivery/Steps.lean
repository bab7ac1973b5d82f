import BackendHandbook.Delivery.Worker

/-! One store call at a time: what it can do to a job and to an attempt. -/

namespace BackendHandbook.Delivery

open Streaming (Instant)

section Claim

variable {Payload : Type} (jobId workerId : String) (now : Instant)
variable (attemptHex correlationHex : String)

inductive ClaimStep (store : JobStore Payload) :
    Except Raised ClaimResult × JobStore Payload → Prop
  | refused (answer : Except Raised ClaimResult)
      (ungranted : ∀ claim, answer = .ok claim → claim.status ≠ .granted) :
      ClaimStep store (answer, store)
  | reconciled (job : Job Payload) (existing : Attempt)
      (found : store.jobs.lookup jobId = some job) (unsettled : job.status ∉ terminalStatuses) :
      ClaimStep store (.ok ⟨.reconcileOnly, some existing⟩, store.putJob jobId
        { job with status := .pendingReconciliation, costState := .reconciliationPending })
  | retained (job : Job Payload) (attemptId : String) (attempt : Attempt)
      (found : store.jobs.lookup jobId = some job) (unsettled : job.status ∉ terminalStatuses)
      (opened : job.openAttemptId = some attemptId)
      (stored : store.attempts.lookup attemptId = some attempt) :
      ClaimStep store (.ok ⟨.granted, some attempt⟩,
        store.putJob jobId (job.grant attemptId workerId now))
  | minted (job : Job Payload) (found : store.jobs.lookup jobId = some job)
      (unsettled : job.status ∉ terminalStatuses) (unopened : job.openAttemptId = none) :
      ClaimStep store (.ok ⟨.granted, some (mintedAttempt jobId attemptHex correlationHex)⟩,
        (store.putAttempt (mintedAttempt jobId attemptHex correlationHex)).putJob jobId
          (job.grant (newId "att" attemptHex) workerId now))

theorem grantExecution_step (store : JobStore Payload) {job : Job Payload}
    (found : store.jobs.lookup jobId = some job) (unsettled : job.status ∉ terminalStatuses) :
    ClaimStep jobId workerId now attemptHex correlationHex store
      (store.grantExecution jobId workerId now attemptHex correlationHex job) := by
  unfold JobStore.grantExecution
  cases opened : job.openAttemptId with
  | none => exact .minted job found unsettled opened
  | some attemptId =>
    dsimp only
    cases stored : store.attempts.lookup attemptId with
    | none =>
      apply ClaimStep.refused
      intro claim same
      cases same
    | some => exact .retained job attemptId _ found unsettled opened stored

theorem claimExecution_step (store : JobStore Payload) :
    ClaimStep jobId workerId now attemptHex correlationHex store
      (store.claimExecution jobId workerId now attemptHex correlationHex) := by
  have refusal : ∀ claim : ClaimResult, claim.status ≠ .granted →
      ClaimStep jobId workerId now attemptHex correlationHex store (.ok claim, store) := by
    intro claim ungranted
    apply ClaimStep.refused
    intro other same
    cases same
    exact ungranted
  unfold JobStore.claimExecution
  cases found : store.jobs.lookup jobId with
  | none =>
    apply ClaimStep.refused
    intro claim same
    cases same
  | some job =>
  dsimp only
  by_cases terminal : job.status ∈ terminalStatuses
  · rw [if_pos terminal]
    exact refusal _ (by decide)
  rw [if_neg terminal]
  by_cases pending : job.status = .pendingReconciliation
  · rw [if_pos pending]
    exact refusal _ (by simp)
  rw [if_neg pending]
  by_cases leased : job.leasedToAnother workerId now
  · rw [if_pos leased]
    exact refusal _ (by decide)
  rw [if_neg leased]
  cases (store.openAttempt? job).filter Attempt.hasEvidence with
  | some => exact .reconciled job _ found terminal
  | none =>
    exact grantExecution_step jobId workerId now attemptHex correlationHex store found terminal

end Claim

variable {A : Type}

section Jobs

variable {Payload : Type}

def WritesSuccess (jobId : String) : Call Payload → Prop
  | .guardedCompleteSuccess other _ _ _ => other = jobId
  | .guardedTerminalTransition other target _ => other = jobId ∧ target = .succeeded
  | _ => False

/-- What a call can do to a job: nothing is forgotten, and a terminal status stays. -/
structure JobStep (jobId : String) (call : Call Payload) (job later : Job Payload) : Prop where
  named : later.jobId = job.jobId
  opened : ∀ attemptId, job.openAttemptId = some attemptId → later.openAttemptId = some attemptId
  intended : ∀ intent, job.intent = some intent → later.intent = some intent
  terminal : job.status ∈ terminalStatuses → later.status = job.status
  succeeded : later.status = .succeeded → job.status = .succeeded ∨ WritesSuccess jobId call

variable {jobId other : String} {request : Call Payload} {job : Job Payload}

theorem JobStep.refl (jobId : String) (request : Call Payload) (job : Job Payload) :
    JobStep jobId request job job :=
  ⟨rfl, fun _ same => same, fun _ same => same, fun _ => rfl, .inl⟩

theorem not_live_of_terminal {status : JobStatus} (terminal : status ∈ terminalStatuses) :
    status ∉ liveStatuses := by
  cases status <;> revert terminal <;> decide

theorem persist_step (kind : Streaming.IntentKind) (reason actor : String) (now : Instant) :
    JobStep jobId request job (job.persistCancellationIntent kind reason actor now).2 := by
  unfold Job.persistCancellationIntent
  cases stored : job.intent with
  | some => exact JobStep.refl jobId request job
  | none =>
    refine ⟨rfl, fun _ same => same, fun intent same => ?_, fun _ => rfl, .inl⟩
    rw [stored] at same
    cases same

theorem markPending_step : JobStep jobId request job job.markPendingReconciliation.2 := by
  unfold Job.markPendingReconciliation
  by_cases idle : job.status ∉ [.running, .queued]
  · rw [if_pos idle]
    exact JobStep.refl jobId request job
  · rw [if_neg idle]
    refine ⟨rfl, fun _ same => same, fun _ same => same, fun terminal => ?_, nofun⟩
    exfalso
    apply idle
    cases status : job.status <;> rw [status] at terminal <;> revert terminal <;> decide

theorem transition_step (target : JobStatus) (now : Instant) :
    JobStep jobId (.guardedTerminalTransition jobId target now) job
      (job.guardedTerminalTransition target).2 := by
  unfold Job.guardedTerminalTransition
  by_cases settled : job.status ∉ liveStatuses
  · rw [if_pos settled]
    exact JobStep.refl jobId _ job
  · rw [if_neg settled]
    refine ⟨rfl, fun _ same => same, fun _ same => same, fun terminal => ?_, fun done => ?_⟩
    · exact absurd (not_live_of_terminal terminal) settled
    · exact .inr ⟨rfl, done⟩

theorem completeSuccess_step (artifact : Option Payload) (actualTokens : Option Int)
    (now : Instant) : JobStep jobId (.guardedCompleteSuccess jobId artifact actualTokens now) job
      (job.guardedCompleteSuccess artifact actualTokens).2 := by
  unfold Job.guardedCompleteSuccess
  by_cases settled : job.status ∉ liveStatuses
  · rw [if_pos settled]
    exact JobStep.refl jobId _ job
  · rw [if_neg settled]
    cases actualTokens <;>
      exact ⟨rfl, fun _ same => same, fun _ same => same,
        fun terminal => absurd (not_live_of_terminal terminal) settled, fun _ => .inr rfl⟩

theorem quarantine_step (reason : String) :
    JobStep jobId request job (job.quarantine reason).2 := by
  unfold Job.quarantine
  by_cases settled : job.status ∈ terminalStatuses
  · rw [if_pos settled]
    exact JobStep.refl jobId request job
  · rw [if_neg settled]
    exact ⟨rfl, fun _ same => same, fun _ same => same,
      fun terminal => absurd terminal settled, nofun⟩

variable {now : Instant}

theorem grant_step {attemptId workerId : String} (unsettled : job.status ∉ terminalStatuses)
    (opened : ∀ other, job.openAttemptId = some other → attemptId = other) :
    JobStep jobId request job (job.grant attemptId workerId now) :=
  ⟨rfl, fun other same => congrArg some (opened other same), fun _ same => same,
    fun terminal => absurd terminal unsettled, nofun⟩

theorem pending_step (unsettled : job.status ∉ terminalStatuses) : JobStep jobId request job
      { job with status := .pendingReconciliation, costState := .reconciliationPending } :=
  ⟨rfl, fun _ same => same, fun _ same => same, fun terminal => absurd terminal unsettled, nofun⟩

/-- The job is missing before and behind the call, or the call takes one step on it. -/
def Carried (jobId : String) (request : Call Payload) (before after : Option (Job Payload)) :
    Prop :=
  before = none ∧ after = none ∨
    ∃ job later, before = some job ∧ after = some later ∧ JobStep jobId request job later

theorem Carried.refl (jobId : String) (request : Call Payload) (before : Option (Job Payload)) :
    Carried jobId request before before := by
  cases before with
  | none => exact .inl ⟨rfl, rfl⟩
  | some job => exact .inr ⟨job, job, rfl, rfl, JobStep.refl jobId request job⟩

theorem lookup_putJob (jobId other : String) (job : Job Payload) (store : JobStore Payload) :
    (store.putJob other job).jobs.lookup jobId =
      if jobId = other then some job else store.jobs.lookup jobId :=
  Dict.lookup_insert_eq store.jobs other jobId job

variable {store : JobStore Payload}

theorem putJob_carried {later : Job Payload} (found : store.jobs.lookup other = some job)
    (step : jobId = other → JobStep jobId request job later) :
    Carried jobId request (store.jobs.lookup jobId)
      ((store.putJob other later).jobs.lookup jobId) := by
  rw [lookup_putJob]
  by_cases same : jobId = other
  · rw [if_pos same, same, found]
    exact .inr ⟨job, later, rfl, rfl, same ▸ step same⟩
  · rw [if_neg same]
    exact Carried.refl _ _ _

theorem updateJob_carried {write : Job Payload → A × Job Payload} (store : JobStore Payload)
    (step : ∀ job, jobId = other → JobStep jobId request job (write job).2) :
    Carried jobId request (store.jobs.lookup jobId)
      ((store.updateJob other write).2.jobs.lookup jobId) := by
  unfold JobStore.updateJob
  cases found : store.jobs.lookup other with
  | none => exact Carried.refl _ _ _
  | some job => exact putJob_carried found (step job)

theorem updateAttempt_jobs (attemptId : String) (write : Attempt → Attempt)
    (store : JobStore Payload) : (store.updateAttempt attemptId write).2.jobs = store.jobs := by
  unfold JobStore.updateAttempt
  cases store.attempts.lookup attemptId <;> rfl

theorem ClaimStep.carried {workerId attemptHex correlationHex : String}
    {result : Except Raised ClaimResult × JobStore Payload}
    (step : ClaimStep other workerId now attemptHex correlationHex store result) :
    Carried jobId request (store.jobs.lookup jobId) (result.2.jobs.lookup jobId) := by
  cases step with
  | refused => exact Carried.refl _ _ _
  | reconciled _ _ found unsettled =>
    exact putJob_carried found fun _ => pending_step unsettled
  | retained _ _ _ found unsettled opened =>
    exact putJob_carried found fun _ => grant_step unsettled fun _ same =>
      Option.some.inj (opened.symm.trans same)
  | minted job found unsettled unopened =>
    have here : (store.putAttempt (mintedAttempt other attemptHex correlationHex)).jobs.lookup
        other = some job := found
    refine putJob_carried here fun _ => grant_step unsettled fun _ same => ?_
    rw [unopened] at same
    cases same

theorem perform_carried (jobId : String) (request : Call Payload) (store : JobStore Payload) :
    Carried jobId request (store.jobs.lookup jobId)
      ((perform request store).2.jobs.lookup jobId) := by
  cases request with
  | get | openIntent => exact Carried.refl _ _ _
  | persistCancellationIntent _ kind reason actor now =>
    exact updateJob_carried store fun job _ => persist_step kind reason actor now
  | claimExecution other workerId now attemptHex correlationHex =>
    exact (claimExecution_step other workerId now attemptHex correlationHex store).carried
  | markProviderDispatchStarting attemptId | recordProviderRequestId attemptId =>
    show Carried _ _ _ ((store.updateAttempt attemptId _).2.jobs.lookup jobId)
    rw [updateAttempt_jobs]
    exact Carried.refl _ _ _
  | markPendingReconciliation =>
    exact updateJob_carried store fun job _ => markPending_step
  | guardedTerminalTransition _ target now =>
    apply updateJob_carried store
    rintro job rfl
    exact transition_step target now
  | guardedCompleteSuccess _ artifact actualTokens now =>
    apply updateJob_carried store
    rintro job rfl
    exact completeSuccess_step artifact actualTokens now
  | quarantineJob _ reason =>
    exact updateJob_carried store fun job _ => quarantine_step reason

theorem perform_job (found : store.jobs.lookup jobId = some job) :
    ∃ later, (perform request store).2.jobs.lookup jobId = some later ∧
      JobStep jobId request job later := by
  rcases perform_carried jobId request store with ⟨missing, _⟩ | ⟨_, later, before, after, step⟩
  · rw [missing] at found
    cases found
  · rw [before] at found
    cases found
    exact ⟨later, after, step⟩

end Jobs

namespace Sample

def store : JobStore String := JobStore.createQueuedJob "job" "exec.v1" {}

def execution (workerId : String) (now : Streaming.Instant) : WorkerExecution String :=
  { delivery := ⟨"delivery", ⟨"job.dispatch.v1", "job"⟩⟩, workerId, now
    validate := fun _ _ payload => ⟨.valid, some payload⟩
    attemptHex := "a", correlationHex := "c" }

def oracle : (question : Question) → question.Reply String
  | .run _ _ => { kind := .success, payload := "summary", requestId := "request" }
  | .calls => 1
  | .ack _ => ()
  | .visibilityTimeout _ => ()
  | .deadLetterDelivery _ _ => ()
  | .revoke _ => ()

end Sample

/-! Cancellation against completion: who writes the terminal status of a job. -/

open Interleaving Run

section Cancellation

variable {Payload : Type}

def HasStatus (jobId : String) (status : JobStatus) (store : JobStore Payload) : Prop :=
  ∃ job, store.jobs.lookup jobId = some job ∧ job.status = status

def Intended (jobId : String) (store : JobStore Payload) : Prop :=
  ∃ job, store.jobs.lookup jobId = some job ∧ job.intent.isSome ∧ job.status ∉ terminalStatuses

/-- Behind an intent stored while the job was not terminal, the job never succeeds. -/
def CancellationWins (jobId : String) (store : JobStore Payload)
    (calls : List (Call Payload)) : Prop :=
  ∀ front middle back, calls = front ++ (middle ++ back) →
    Intended jobId (final perform store front) →
    ¬ HasStatus jobId .succeeded (final perform store (front ++ middle))

def TerminalStays (jobId : String) (store : JobStore Payload)
    (calls : List (Call Payload)) : Prop :=
  ∀ status ∈ terminalStatuses, Permanent perform (HasStatus jobId status) store calls

def Overrides (jobId : String) (store : JobStore Payload) (request : Call Payload) : Prop :=
  WritesSuccess jobId request ∧ Intended jobId store

def Withheld (jobId : String) (store : JobStore Payload) : Prop :=
  ∃ job, store.jobs.lookup jobId = some job ∧ job.intent.isSome ∧ job.status ≠ .succeeded

variable {jobId : String} {store : JobStore Payload} {request : Call Payload}
variable {status : JobStatus}

theorem terminal_perform (terminal : status ∈ terminalStatuses)
    (holds : HasStatus jobId status store) : HasStatus jobId status (perform request store).2 := by
  rcases holds with ⟨_, found, rfl⟩
  rcases @perform_job _ jobId request _ store found with ⟨later, placed, step⟩
  exact ⟨later, placed, step.terminal terminal⟩

theorem terminal_stays (jobId : String) (store : JobStore Payload)
    (calls : List (Call Payload)) : TerminalStays jobId store calls := by
  intro status terminal
  rw [permanent_iff]
  intro e member holds
  rw [(mem_trace_performed member).2]
  exact terminal_perform terminal holds

theorem withheld_of_intended (intended : Intended jobId store) : Withheld jobId store := by
  rcases intended with ⟨job, found, intent, unsettled⟩
  refine ⟨job, found, intent, fun succeeded => ?_⟩
  rw [succeeded] at unsettled
  exact unsettled (by decide)

theorem withheld_perform (guarded : ¬ Overrides jobId store request)
    (withheld : Withheld jobId store) : Withheld jobId (perform request store).2 := by
  rcases withheld with ⟨job, found, intent, unsucceeded⟩
  rcases @perform_job _ jobId request _ store found with ⟨later, placed, step⟩
  have stored : later.intent.isSome := by
    rcases Option.isSome_iff_exists.mp intent with ⟨stored, same⟩
    rw [step.intended stored same]
    rfl
  refine ⟨later, placed, stored, fun succeeded => ?_⟩
  by_cases terminal : job.status ∈ terminalStatuses
  · rw [step.terminal terminal] at succeeded
    exact unsucceeded succeeded
  · rcases step.succeeded succeeded with before | writes
    · exact unsucceeded before
    · exact guarded ⟨writes, job, found, intent, terminal⟩

theorem live_of_not_terminal (unsettled : status ∉ terminalStatuses) : status ∈ liveStatuses := by
  cases status <;> revert unsettled <;> decide

variable {job : Job Payload}

theorem completeSuccess_live (artifact : Option Payload)
    (actualTokens : Option Int) (live : job.status ∈ liveStatuses) :
    (job.guardedCompleteSuccess artifact actualTokens).2.status = .succeeded := by
  unfold Job.guardedCompleteSuccess
  rw [if_neg (not_not.mpr live)]
  cases actualTokens <;> rfl

theorem transition_live (target : JobStatus) (live : job.status ∈ liveStatuses) :
    (job.guardedTerminalTransition target).2.status = target := by
  unfold Job.guardedTerminalTransition
  rw [if_neg (not_not.mpr live)]

theorem updateJob_status {write : Job Payload → A × Job Payload}
    (found : store.jobs.lookup jobId = some job) (written : (write job).2.status = status) :
    HasStatus jobId status (store.updateJob jobId write).2 := by
  refine ⟨(write job).2, ?_, written⟩
  unfold JobStore.updateJob
  rw [found]
  exact (lookup_putJob jobId jobId _ store).trans (if_pos rfl)

theorem overrides_succeeds (overrides : Overrides jobId store request) :
    HasStatus jobId .succeeded (perform request store).2 := by
  rcases overrides with ⟨writes, _, found, _, unsettled⟩
  have live := live_of_not_terminal unsettled
  cases request with
  | guardedCompleteSuccess other artifact actualTokens =>
    cases (writes : other = jobId)
    exact updateJob_status found (completeSuccess_live artifact actualTokens live)
  | guardedTerminalTransition other target =>
    rcases (writes : other = jobId ∧ target = .succeeded) with ⟨rfl, rfl⟩
    exact updateJob_status found (transition_live .succeeded live)
  | get | openIntent | persistCancellationIntent | claimExecution | markProviderDispatchStarting
  | recordProviderRequestId | markPendingReconciliation | quarantineJob => cases writes

end Cancellation

namespace Sample

/-- The worker passes its final check; the intent is stored; the worker completes. -/
def lateIntent : List (Action String) :=
  [.enter (.runWorker (execution "worker" 0)),
    .enter (.requestCancellation { jobId := "job", actor := "user", reason := "stop", now := 0 })]
    ++ List.replicate 8 (.resume 0 oracle) ++ [.resume 1 oracle, .resume 0 oracle]

end Sample

end BackendHandbook.Delivery
