import BackendHandbook.Delivery.Steps
import Mathlib.Order.PropInstances

/-! Provider calls: how often the provider is called for one attempt. -/

namespace BackendHandbook.Delivery

open Interleaving Run WorkerExecution
open Streaming (Instant)

section Calls

variable {Payload : Type}

def JobStore.opened (created : List (String × String)) : JobStore Payload :=
  created.foldl (fun store job => store.createQueuedJob job.1 job.2) {}

def calledFor (attemptId : String) : Question → Bool
  | .run other _ => decide (other = attemptId)
  | _ => false

def Dispatched (attemptId : String) (store : JobStore Payload) : Prop :=
  ∃ attempt, store.attempts.lookup attemptId = some attempt ∧
    attempt.providerDispatchStartedAt.isSome

def redispatches (store : JobStore Payload) : Call Payload → Bool
  | .markProviderDispatchStarting attemptId _ =>
    (store.attempts.lookup attemptId).any (·.providerDispatchStartedAt.isSome)
  | _ => false

theorem redispatches_of_dispatched {attemptId : String} {now : Instant}
    {store : JobStore Payload} (dispatched : Dispatched attemptId store) :
    redispatches store (.markProviderDispatchStarting attemptId now) = true :=
  Option.any_eq_true _ _ |>.mpr dispatched

def DeliveriesOf (jobId : String) (actions : List (Action Payload)) : Prop :=
  ∀ execution : WorkerExecution Payload, .enter (.runWorker execution) ∈ actions →
    execution.delivery.envelope.jobId = jobId

end Calls

section Attempts

variable {Payload : Type} {attemptId : String} {request : Call Payload}
variable {store : JobStore Payload}

inductive AttemptStep (attemptId : String) (request : Call Payload) (store : JobStore Payload)
    (later : Option Attempt) : Prop
  | kept (same : later = store.attempts.lookup attemptId)
  | written (before after : Attempt) (found : store.attempts.lookup attemptId = some before)
      (placed : later = some after) (named : after.attemptId = before.attemptId)
      (marked : before.providerDispatchStartedAt.isSome → after.providerDispatchStartedAt.isSome)
  | minted (jobId workerId : String) (now : Instant) (attemptHex correlationHex : String)
      (job : Job Payload) (attempt : Attempt)
      (claims : request = .claimExecution jobId workerId now attemptHex correlationHex)
      (found : store.jobs.lookup jobId = some job) (unopened : job.openAttemptId = none)
      (placed : later = some attempt) (named : attempt.attemptId = attemptId)

theorem updateJob_attempts {A : Type} (jobId : String) (write : Job Payload → A × Job Payload)
    (store : JobStore Payload) : (store.updateJob jobId write).2.attempts = store.attempts := by
  unfold JobStore.updateJob
  cases store.jobs.lookup jobId <;> rfl

theorem updateAttempt_step (other : String) {write : Attempt → Attempt}
    (store : JobStore Payload) (named : ∀ attempt, (write attempt).attemptId = attempt.attemptId)
    (marked : ∀ attempt : Attempt, attempt.providerDispatchStartedAt.isSome →
      (write attempt).providerDispatchStartedAt.isSome) : AttemptStep attemptId request store
      ((store.updateAttempt other write).2.attempts.lookup attemptId) := by
  unfold JobStore.updateAttempt
  cases found : store.attempts.lookup other with
  | none => exact .kept rfl
  | some attempt =>
    rw [Dict.lookup_insert_eq]
    by_cases same : attemptId = other
    · rw [if_pos same]
      exact .written attempt (write attempt) (same ▸ found) rfl (named attempt)
        (marked attempt)
    · rw [if_neg same]
      exact .kept rfl

variable {result : Except Raised ClaimResult × JobStore Payload}

variable {jobId : String}

theorem ClaimStep.attempts {workerId attemptHex correlationHex : String} {now : Instant}
    (step : ClaimStep jobId workerId now attemptHex correlationHex store result) :
    AttemptStep attemptId (.claimExecution jobId workerId now attemptHex correlationHex) store
      (result.2.attempts.lookup attemptId) := by
  cases step with
  | refused | reconciled | retained => exact .kept rfl
  | minted job found _ unopened =>
    show AttemptStep attemptId _ store (AList.lookup attemptId
      (store.attempts.insert (newId "att" attemptHex) _))
    rw [Dict.lookup_insert_eq]
    by_cases same : attemptId = newId "att" attemptHex
    · rw [if_pos same]
      exact .minted jobId workerId now attemptHex correlationHex job _ rfl found unopened
        rfl same.symm
    · rw [if_neg same]
      exact .kept rfl

variable (now : Instant) (attempt : Attempt)

theorem mark_named : (attempt.markProviderDispatchStarting now).attemptId = attempt.attemptId := by
  unfold Attempt.markProviderDispatchStarting
  split <;> rfl

theorem mark_marked :
    (attempt.markProviderDispatchStarting now).providerDispatchStartedAt.isSome := by
  unfold Attempt.markProviderDispatchStarting
  cases marked : attempt.providerDispatchStartedAt with
  | none => rfl
  | some started =>
    exact Option.isSome_iff_exists.mpr ⟨started, marked⟩

theorem record_kept (providerRequestId : String) (attempt : Attempt) :
    (attempt.recordProviderRequestId providerRequestId).attemptId = attempt.attemptId ∧
      (attempt.recordProviderRequestId providerRequestId).providerDispatchStartedAt =
        attempt.providerDispatchStartedAt := by
  unfold Attempt.recordProviderRequestId
  split <;> exact ⟨rfl, rfl⟩

theorem perform_attempt (attemptId : String) (request : Call Payload) (store : JobStore Payload) :
    AttemptStep attemptId request store ((perform request store).2.attempts.lookup attemptId) := by
  have jobs : ∀ {A : Type} (jobId : String) (write : Job Payload → A × Job Payload),
      AttemptStep attemptId request store
        ((store.updateJob jobId write).2.attempts.lookup attemptId) := by
    intro A jobId write
    rw [updateJob_attempts]
    exact .kept rfl
  cases request with
  | get | openIntent => exact .kept rfl
  | persistCancellationIntent | markPendingReconciliation | guardedTerminalTransition
  | guardedCompleteSuccess | quarantineJob => exact jobs _ _
  | claimExecution jobId workerId now attemptHex correlationHex =>
    exact (claimExecution_step jobId workerId now attemptHex correlationHex store).attempts
  | markProviderDispatchStarting other now =>
    exact updateAttempt_step other store (mark_named now) fun attempt _ => mark_marked now attempt
  | recordProviderRequestId other providerRequestId =>
    apply updateAttempt_step other store fun attempt => (record_kept _ attempt).1
    intro attempt marked
    rw [(record_kept providerRequestId attempt).2]
    exact marked

structure Filed (store : JobStore Payload) : Prop where
  jobs : ∀ jobId job, store.jobs.lookup jobId = some job → job.jobId = jobId
  attempts : ∀ attemptId attempt, store.attempts.lookup attemptId = some attempt →
    attempt.attemptId = attemptId

theorem Filed.perform (filed : Filed store) (request : Call Payload) :
    Filed (perform request store).2 := by
  constructor
  · intro jobId job found
    rcases perform_carried jobId request store with ⟨_, missing⟩ | ⟨old, _, before, after, step⟩
    · rw [missing] at found
      cases found
    · rw [after] at found
      cases found
      exact step.named.trans (filed.jobs jobId old before)
  · intro attemptId attempt found
    cases perform_attempt attemptId request store with
    | kept same => exact filed.attempts attemptId attempt (same ▸ found)
    | written before _ stored placed named =>
      rw [placed] at found
      cases found
      exact named.trans (filed.attempts attemptId before stored)
    | minted _ _ _ _ _ _ _ _ _ _ placed named =>
        rw [placed] at found
        cases found
        exact named

theorem filed_opened (created : List (String × String)) :
    Filed (JobStore.opened created : JobStore Payload) := by
  have kept : ∀ store : JobStore Payload, Filed store →
      Filed (created.foldl (fun store job => store.createQueuedJob job.1 job.2) store) := by
    induction created with
    | nil => exact fun store filed => filed
    | cons job _ ih =>
      intro store filed
      apply ih
      refine ⟨fun jobId other found => ?_, filed.attempts⟩
      have placed := (lookup_putJob jobId job.1 _ store).symm.trans found
      by_cases same : jobId = job.1
      · rw [if_pos same] at placed
        cases placed
        exact same.symm
      · rw [if_neg same] at placed
        exact filed.jobs jobId other placed
  apply kept
  constructor
  · intro jobId job found
    cases found
  · intro attemptId attempt found
    cases found

def OpenAttempt (jobId attemptId : String) (store : JobStore Payload) : Prop :=
  ∃ job, store.jobs.lookup jobId = some job ∧ job.openAttemptId = some attemptId

theorem OpenAttempt.perform (opened : OpenAttempt jobId attemptId store)
    (request : Call Payload) : OpenAttempt jobId attemptId (perform request store).2 := by
  rcases opened with ⟨job, found, same⟩
  rcases @perform_job _ jobId request job store found with ⟨later, placed, step⟩
  exact ⟨later, placed, step.opened attemptId same⟩

theorem Dispatched.perform {other : String} (dispatched : Dispatched attemptId store)
    (opened : OpenAttempt jobId other store)
    (claims : ∀ claimed workerId now attemptHex correlationHex,
      request = .claimExecution claimed workerId now attemptHex correlationHex →
        claimed = jobId) : Dispatched attemptId (perform request store).2 := by
  rcases dispatched with ⟨attempt, stored, marked⟩
  cases perform_attempt attemptId request store with
  | kept same => exact ⟨attempt, same.trans stored, marked⟩
  | written _ after found placed _ stays =>
    rw [found] at stored
    cases stored
    exact ⟨after, placed, stays marked⟩
  | minted _ _ _ _ _ _ _ same found unopened =>
    rcases opened with ⟨_, here, some⟩
    rw [claims _ _ _ _ _ same] at found
    rw [found] at here
    cases here
    rw [unopened] at some
    cases some

theorem mark_dispatches {now : Instant}
    (marked : (perform (.markProviderDispatchStarting attemptId now) store).1 = .ok ()) :
    Dispatched attemptId (perform (.markProviderDispatchStarting attemptId now) store).2 := by
  revert marked
  show (store.updateAttempt attemptId _).1 = .ok () →
    Dispatched attemptId (store.updateAttempt attemptId _).2
  unfold JobStore.updateAttempt
  cases store.attempts.lookup attemptId with
  | none =>
    intro raised
    cases raised
  | some attempt =>
    intro _
    refine ⟨attempt.markProviderDispatchStarting now, ?_, mark_marked now attempt⟩
    exact AList.lookup_insert _

theorem ClaimStep.opens {workerId attemptHex correlationHex : String} {now : Instant}
    {attempt : Attempt} (step : ClaimStep jobId workerId now attemptHex correlationHex store result)
    (filed : Filed store) (granted : result.1 = .ok ⟨.granted, some attempt⟩) :
    OpenAttempt jobId attempt.attemptId result.2 := by
  cases step with
  | refused _ ungranted => exact absurd rfl (ungranted _ granted)
  | reconciled => cases granted
  | retained _ other _ _ _ _ here =>
    cases granted
    refine ⟨_, (lookup_putJob jobId jobId _ store).trans (if_pos rfl), ?_⟩
    exact congrArg some (filed.attempts other attempt here).symm
  | minted =>
    cases granted
    exact ⟨_, (lookup_putJob jobId jobId _ _).trans (if_pos rfl), rfl⟩

end Attempts

section Protocol

variable {Payload : Type}

/-- What a worker knows from its answers: the jobs it has read and the attempt it was granted. -/
structure Known where
  jobs : List String := []
  attempt : Option String := none

def learns (known : Known) : (request : Call Payload) → Except Raised request.Answer → Known
  | .get _, .ok job => { known with jobs := job.jobId :: known.jobs }
  | .claimExecution .., .ok ⟨.granted, some attempt⟩ =>
    { known with attempt := some attempt.attemptId }
  | _, _ => known

/-- A worker reads and claims its own job, and marks the attempt that it was granted. -/
def Allows (jobId : String) (known : Known) : Call Payload → Prop
  | .get other => other = jobId ∨ other ∈ known.jobs
  | .claimExecution other _ _ _ _ => other ∈ known.jobs
  | .markProviderDispatchStarting attemptId _ => known.attempt = some attemptId
  | _ => True

structure Agrees (jobId : String) (known : Known) (store : JobStore Payload) : Prop where
  jobs : ∀ other ∈ known.jobs, other = jobId
  attempt : ∀ attemptId, known.attempt = some attemptId → OpenAttempt jobId attemptId store

variable {jobId : String} {known : Known} {store : JobStore Payload} {request : Call Payload}

theorem Agrees.others (agrees : Agrees jobId known store) (request : Call Payload) :
    Agrees jobId known (perform request store).2 :=
  ⟨agrees.jobs, fun attemptId same => (agrees.attempt attemptId same).perform request⟩

theorem learns_claim (known : Known) (other workerId : String) (now : Instant)
    (attemptHex correlationHex : String) (answer : Except Raised ClaimResult) :
    (∃ attempt, answer = .ok ⟨.granted, some attempt⟩ ∧ learns known
        (.claimExecution other workerId now attemptHex correlationHex : Call Payload) answer =
          { known with attempt := some attempt.attemptId }) ∨
      learns known
        (.claimExecution other workerId now attemptHex correlationHex : Call Payload) answer =
          known := by
  cases answer with
  | error => exact .inr rfl
  | ok claim =>
    rcases claim with ⟨status, attempt⟩
    cases attempt with
    | none => exact .inr (by cases status <;> rfl)
    | some attempt =>
      cases status with
      | granted => exact .inl ⟨attempt, rfl, rfl⟩
      | conflict | alreadyTerminal | reconcileOnly => exact .inr rfl

theorem Agrees.own (agrees : Agrees jobId known store) (filed : Filed store)
    (allowed : Allows jobId known request) :
    Agrees jobId (learns known request (perform request store).1) (perform request store).2 := by
  have kept := agrees.others request
  cases request with
  | get other =>
    have here : other = jobId := by
      rcases (allowed : other = jobId ∨ other ∈ known.jobs) with same | read
      · exact same
      · exact agrees.jobs other read
    show Agrees jobId (learns known (.get other) (store.job other)) store
    unfold JobStore.job
    cases found : store.jobs.lookup other with
    | none => exact agrees
    | some job =>
      refine ⟨fun named read => ?_, agrees.attempt⟩
      rcases List.mem_cons.mp read with same | old
      · rw [same, filed.jobs other job found, here]
      · exact agrees.jobs named old
  | claimExecution other workerId now attemptHex correlationHex =>
    have here : other = jobId := agrees.jobs other allowed
    have step := claimExecution_step other workerId now attemptHex correlationHex store
    rcases learns_claim known other workerId now attemptHex correlationHex
      (perform (.claimExecution other workerId now attemptHex correlationHex) store).1 with
      ⟨attempt, granted, learnt⟩ | nothing
    · rw [learnt]
      refine ⟨agrees.jobs, fun attemptId same => ?_⟩
      have opened := step.opens filed granted
      have named : attempt.attemptId = attemptId := Option.some.inj same
      rw [← named, ← here]
      exact opened
    · rw [nothing]
      exact kept
  | openIntent | persistCancellationIntent | markProviderDispatchStarting
  | recordProviderRequestId | markPendingReconciliation | guardedTerminalTransition
  | guardedCompleteSuccess | quarantineJob => exact kept

end Protocol

section Workers

variable {Payload : Type}

def marks (attemptId : String) : (request : Call Payload) → Except Raised request.Answer → Bool
  | .markProviderDispatchStarting other _, .ok _ => decide (other = attemptId)
  | _, _ => false

/-- The program keeps to the protocol of workers on this job, and asks the provider for the
attempt only right behind a marker of it. -/
structure Orderly (jobId attemptId : String) (known : Known) (program : DeliveryProgram Payload) :
    Prop where
  keeps : program.Follows learns (Allows jobId) known
  marked : program.Quiet (marks attemptId) (calledFor attemptId)

variable {jobId attemptId other : String} {known : Known}

theorem done_orderly (result : Finished) :
    Orderly jobId attemptId known (.done result : DeliveryProgram Payload) :=
  ⟨trivial, done_quiet result⟩

theorem call_orderly {request : Call Payload} {next : request.Answer → DeliveryProgram Payload}
    (allowed : Allows jobId known request)
    (later : ∀ found, Orderly jobId attemptId (learns known request (.ok found)) (next found)) :
    Orderly jobId attemptId known (call request next) :=
  ⟨await_follows allowed fun found => (later found).keeps,
    await_quiet fun found => (later found).marked⟩

theorem ask_orderly {question : Question} {next : question.Reply Payload → DeliveryProgram Payload}
    (uncounted : calledFor attemptId question = false)
    (later : ∀ answer, Orderly jobId attemptId known (next answer)) :
    Orderly jobId attemptId known (.ask question next) :=
  ⟨fun answer => (later answer).keeps, ask_quiet uncounted fun answer => (later answer).marked⟩

theorem finish_orderly (outcome : WorkerOutcome) (acked : Bool) (status : JobStatus) :
    Orderly jobId attemptId known (finish outcome acked status : DeliveryProgram Payload) :=
  ask_orderly rfl fun _ => done_orderly _

theorem report_orderly (mine : other ∈ known.jobs) (outcome : WorkerOutcome) (acked : Bool) :
    Orderly jobId attemptId known (report other outcome acked : DeliveryProgram Payload) :=
  ask_orderly rfl fun _ => call_orderly (.inr mine) fun _ => done_orderly _

variable (execution : WorkerExecution Payload)
variable {next : DeliveryProgram Payload}

theorem ack_orderly (orderly : Orderly jobId attemptId known next) :
    Orderly jobId attemptId known (execution.ack next) :=
  ask_orderly rfl fun _ => orderly

theorem ackLate_orderly (orderly : Orderly jobId attemptId known next) :
    Orderly jobId attemptId known (execution.ackLate next) := by
  unfold ackLate
  split
  · exact ack_orderly execution orderly
  · exact orderly

theorem ackEarly_orderly (orderly : Orderly jobId attemptId known next) :
    Orderly jobId attemptId known (execution.ackEarly next) := by
  unfold ackEarly
  split
  · exact ack_orderly execution orderly
  · exact orderly

section

variable (mine : other ∈ known.jobs)
include mine

theorem cancelPreCall_orderly (intent : CancellationIntent) :
    Orderly jobId attemptId known (execution.cancelPreCall other intent) :=
  call_orderly trivial fun _ => ack_orderly execution (report_orderly mine _ _)

theorem complete_orderly (domainResult : Option Payload) (usageTokens : Option Int) :
    Orderly jobId attemptId known (execution.complete other domainResult usageTokens) := by
  have reported : ∀ outcome, Orderly jobId attemptId known
      (execution.ackLate (report other outcome true)) :=
    fun outcome => ackLate_orderly execution (report_orderly mine outcome true)
  refine call_orderly trivial fun intent => ?_
  cases intent with
  | some | none => exact call_orderly trivial fun _ => reported _

theorem settle_orderly (attempt : Attempt) (result : ProviderResult Payload) :
    Orderly jobId attemptId known (execution.settle other attempt result) := by
  unfold settle
  dsimp only
  split
  · exact call_orderly trivial fun _ => ackLate_orderly execution (finish_orderly _ _ _)
  split
  · split
    · exact ask_orderly rfl fun _ => report_orderly mine _ _
    · exact report_orderly mine _ _
  split
  · exact call_orderly trivial fun _ => ackLate_orderly execution (report_orderly mine _ _)
  split
  · exact call_orderly trivial fun _ => complete_orderly execution mine _ _
  · exact complete_orderly execution mine _ _

theorem callProvider_orderly (attempt : Attempt)
    (granted : known.attempt = some attempt.attemptId) :
    Orderly jobId attemptId known (execution.callProvider other attempt) := by
  have settled : ∀ result : ProviderResult Payload, Orderly jobId attemptId known
      (call (.recordProviderRequestId attempt.attemptId result.requestId) fun _ =>
        execution.settle other attempt result) :=
    fun result => call_orderly trivial fun _ => settle_orderly execution mine attempt result
  constructor
  · exact await_follows granted fun _ result => (settled result).keeps
  · exact opening_quiet (fun _ called => called) fun _ result => (settled result).marked

theorem execute_orderly (attempt : Attempt) (granted : known.attempt = some attempt.attemptId) :
    Orderly jobId attemptId known (execution.execute other attempt) := by
  refine call_orderly trivial fun intent => ?_
  cases intent with
  | some => exact cancelPreCall_orderly execution mine _
  | none =>
    exact ackEarly_orderly execution (callProvider_orderly execution mine attempt granted)

theorem claim_orderly : Orderly jobId attemptId known (execution.claim other) := by
  refine call_orderly mine fun claim => ?_
  rcases claim with ⟨status, attempt⟩
  cases status with
  | granted =>
    cases attempt with
    | none => exact done_orderly _
    | some attempt =>
      exact @execute_orderly _ jobId attemptId other
        { known with attempt := some attempt.attemptId } execution mine attempt rfl
  | conflict => cases attempt <;> exact report_orderly mine _ _
  | alreadyTerminal =>
    cases attempt <;> exact ack_orderly execution (report_orderly mine _ _)
  | reconcileOnly => cases attempt <;> exact ack_orderly execution (finish_orderly _ _ _)

end

theorem checkContract_orderly (job : Job Payload) (mine : job.jobId ∈ known.jobs) :
    Orderly jobId attemptId known (execution.checkContract job) := by
  unfold checkContract
  split
  · exact call_orderly trivial fun _ => ack_orderly execution (report_orderly mine _ _)
  · exact claim_orderly execution mine

theorem workerExecution_orderly (own : execution.delivery.envelope.jobId = jobId) :
    Orderly jobId attemptId {} execution.program := by
  unfold WorkerExecution.program
  dsimp only
  split
  · exact ask_orderly rfl fun _ => ack_orderly execution (finish_orderly _ _ _)
  refine call_orderly (.inl own) fun job => call_orderly trivial fun intent => ?_
  cases intent with
  | none => exact checkContract_orderly execution job List.mem_cons_self
  | some intent =>
    refine call_orderly (.inl own) fun live => ?_
    have mine : job.jobId ∈ [live.jobId, job.jobId] := by simp
    split
    · exact cancelPreCall_orderly execution mine intent
    · exact checkContract_orderly execution job mine

theorem client_orderly (attemptId : String) {client : Client Payload}
    (delivered : ∀ execution, client = .runWorker execution →
      execution.delivery.envelope.jobId = jobId) : Orderly jobId attemptId {} client.program := by
  cases client with
  | runWorker execution => exact workerExecution_orderly execution (delivered execution rfl)
  | requestCancellation =>
    refine call_orderly trivial fun intent => ?_
    split
    · exact ask_orderly rfl fun _ => done_orderly _
    · exact done_orderly _
  | markPendingReconciliation => exact call_orderly trivial fun _ => done_orderly _
  | guardedTerminalTransition =>
    exact call_orderly trivial fun _ => done_orderly _

theorem started_orderly {actions : List (Action Payload)}
    (deliveries : DeliveriesOf jobId actions) (attemptId : String)
    {program : DeliveryProgram Payload} (member : .start program ∈ actions.map Action.turn) :
    Orderly jobId attemptId {} program := by
  rcases List.mem_map.mp member with ⟨action, inside, same⟩
  cases action with
  | resume => cases same
  | enter =>
    cases same
    apply client_orderly
    rintro execution rfl
    exact deliveries execution inside

end Workers

section Runs

variable {Payload : Type} {jobId : String} {created : List (String × String)}
variable {actions : List (Action Payload)}

theorem event_known (deliveries : DeliveriesOf jobId actions) :
    ∀ e ∈ trace perform (JobStore.opened created) (storeCalls (.opened created) actions),
      ∃ known, Agrees jobId known e.before ∧ Allows jobId known e.call := by
  refine @follows_event _ _ _ _ _ _ _ perform learns (Allows jobId) Filed (Agrees jobId) {}
    (fun request state filed => filed.perform request)
    (fun known request state filed agrees allowed => agrees.own filed allowed)
    (fun known other request state _ agrees _ _ => agrees.others request)
    ?_ (pool (.opened created)) (actions.map Action.turn) ?_ ?_ ?_
  · intro state
    constructor
    · intro other read
      cases read
    · intro attemptId same
      cases same
  · exact filed_opened created
  · intro thread member
    cases member
  · intro program member
    exact (started_orderly deliveries "" member).keeps

theorem calls_le_marks (store : JobStore Payload) (deliveries : DeliveriesOf jobId actions)
    (attemptId : String) : (questionsAsked store actions).countP (calledFor attemptId) ≤
      (trace perform store (storeCalls store actions)).countP
        (fun e => marks attemptId e.call e.response) := by
  have bound := @asked_le_opened _ _ _ _ _ _ perform (marks attemptId) (calledFor attemptId)
    (pool store) (actions.map Action.turn) (fun thread member => by cases member)
    (fun program member => (started_orderly deliveries attemptId member).marked)
  have idle : waiting (calledFor attemptId) (pool store) = 0 := rfl
  rw [idle, Nat.zero_add] at bound
  exact bound

theorem marks_dispatch {attemptId : String} {request : Call Payload} {store : JobStore Payload}
    (marked : marks attemptId request (perform request store).1 = true) :
    ∃ now, request = .markProviderDispatchStarting attemptId now ∧
      Dispatched attemptId (perform request store).2 := by
  cases request with
  | markProviderDispatchStarting other now =>
    cases answered : (perform (.markProviderDispatchStarting other now) store).1 with
    | error =>
      rw [answered] at marked
      cases marked
    | ok =>
      rw [answered] at marked
      have same : other = attemptId := of_decide_eq_true marked
      subst same
      exact ⟨now, rfl, mark_dispatches answered⟩
  | get | openIntent | persistCancellationIntent | claimExecution | recordProviderRequestId
  | markPendingReconciliation | guardedTerminalTransition | guardedCompleteSuccess
  | quarantineJob => cases marked

/-- With no marker on a marked attempt, one marker at most goes through for an attempt. -/
theorem marks_once (deliveries : DeliveriesOf jobId actions)
    (guarded : ∀ e ∈ trace perform (JobStore.opened created)
      (storeCalls (.opened created) actions), redispatches e.before e.call = false)
    (attemptId : String) :
    (trace perform (JobStore.opened created) (storeCalls (.opened created) actions)).countP
      (fun e => marks attemptId e.call e.response) ≤ 1 := by
  -- the job's open attempt stays, and with it the marker of an attempt that has one
  apply counted_once perform
    (fun store => (∃ other, OpenAttempt jobId other store) ∧ Dispatched attemptId store) False
  · rintro e member ⟨⟨other, opened⟩, dispatched⟩
    rcases event_known deliveries e member with ⟨known, agrees, allowed⟩
    rw [(mem_trace_performed member).2]
    refine ⟨⟨other, opened.perform e.call⟩, dispatched.perform opened ?_⟩
    intro claimed workerId now attemptHex correlationHex same
    rw [same] at allowed
    exact agrees.jobs claimed allowed
  · intro e member counted
    rcases event_known deliveries e member with ⟨known, agrees, allowed⟩
    rcases mem_trace_performed member with ⟨answered, after⟩
    rw [answered] at counted
    rcases marks_dispatch counted with ⟨_, called, dispatched⟩
    have unmarked : ¬ Dispatched attemptId e.before := by
      intro marked
      have quiet := guarded e member
      rw [called, redispatches_of_dispatched marked] at quiet
      cases quiet
    have granted : known.attempt = some attemptId := by
      rw [called] at allowed
      exact allowed
    constructor
    · exact eq_false fun both => unmarked both.2
    · rw [after]
      refine lt_of_le_of_ne (fun absurd => absurd.elim) fun none => ?_
      rw [none]
      exact ⟨⟨attemptId, (agrees.attempt attemptId granted).perform e.call⟩, dispatched⟩

end Runs

/-- Over any interleaving of the workers on one job, the provider is called at most once for
an attempt, when every dispatch marker finds its attempt unmarked. -/
theorem provider_called_once {Payload : Type} (jobId : String)
    (created : List (String × String)) (actions : List (Action Payload))
    (deliveries : DeliveriesOf jobId actions)
    (guarded : ∀ e ∈ trace perform (JobStore.opened created)
      (storeCalls (.opened created) actions), redispatches e.before e.call = false)
    (attemptId : String) :
    (questionsAsked (.opened created) actions).countP (calledFor attemptId) ≤ 1 :=
  (calls_le_marks (.opened created) deliveries attemptId).trans
    (marks_once deliveries guarded attemptId)

namespace Sample

/-- One delivery of the job and its redelivery, both handled by one worker process. -/
def schedule (turns : List Nat) : List (Action String) :=
  [.enter (.runWorker (execution "worker" 0)), .enter (.runWorker (execution "worker" 1))] ++
    turns.map (.resume · oracle)

theorem schedule_deliveries (turns : List Nat) : DeliveriesOf "job" (schedule turns) := by
  intro execution member
  rcases List.mem_append.mp member with entered | resumed
  · rcases List.mem_cons.mp entered with same | other
    · cases same
      rfl
    · cases List.mem_singleton.mp other
      rfl
  · rcases List.mem_map.mp resumed with ⟨_, _, same⟩
    cases same

/-- The redelivery is claimed behind the provider's answer: it is left to reconcile. -/
theorem provider_called_once_redelivered : (questionsAsked (.opened [("job", "exec.v1")])
      (schedule [0, 0, 0, 0, 0, 0, 0, 1, 1, 1, 1])).countP (calledFor "att-a") ≤ 1 :=
  provider_called_once "job" [("job", "exec.v1")] _ (schedule_deliveries _) (by decide) "att-a"

/-- Both claims are granted before either marker is written: the provider is called twice. -/
theorem redelivery_calls_twice :
    ¬ ∀ jobId created actions, DeliveriesOf jobId actions → ∀ attemptId,
      (questionsAsked (.opened created : JobStore String) actions).countP
        (calledFor attemptId) ≤ 1 := by
  intro once
  have twice : (questionsAsked (.opened [("job", "exec.v1")])
      (schedule [0, 0, 0, 0, 1, 1, 1, 1, 0, 0, 1, 1])).countP (calledFor "att-a") = 2 := by
    decide
  have bound := once "job" [("job", "exec.v1")] _
    (schedule_deliveries [0, 0, 0, 0, 1, 1, 1, 1, 0, 0, 1, 1]) "att-a"
  omega

end Sample

end BackendHandbook.Delivery
