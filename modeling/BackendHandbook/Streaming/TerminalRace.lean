import BackendHandbook.Streaming.Worker

/-! The terminal race: what the loser of a guarded write leaves of a terminal job. -/

namespace BackendHandbook.Streaming

open Interleaving Run

structure Facts (Payload : Type) where
  status : JobStatus
  resultArtifact : Option (ResultArtifact Payload)
  settledTokens : Option Int
  costState : CostState
  deriving DecidableEq

section Race

variable {Payload : Type}

def Job.facts (job : Job Payload) : Facts Payload :=
  ⟨job.status, job.resultArtifact, job.settledTokens, job.costState⟩

def Settled (jobId : String) (facts : Facts Payload) (store : JobStore Payload) : Prop :=
  ∃ job, store.jobs.lookup jobId = some job ∧ job.facts = facts

variable (jobId : String) (store : JobStore Payload)

/-- Once the job's status is terminal, no step of the schedule changes its facts. -/
def LoserChangesNothing (actions : List (Action Payload)) : Prop :=
  ∀ facts, facts.status ∈ terminalStatuses →
    Permanent perform (Settled jobId facts) store (storeCalls store actions)

/-- The unguarded cost hold finds the job terminal, at a cost other than the one it writes. -/
def Unsettles (call : Call Payload) : Prop :=
  call = .holdCostReconciliation jobId ∧ ∃ job, store.jobs.lookup jobId = some job ∧
    job.status ∈ terminalStatuses ∧ job.costState ≠ .reconciliationPending

end Race

section Writes

variable {Payload : Type} {jobId other : String} {store : JobStore Payload}
variable {facts : Facts Payload} {A : Type} {write : Job Payload → A × Job Payload}

theorem not_live_of_terminal {status : JobStatus} (terminal : status ∈ terminalStatuses) :
    status ∉ liveStatuses := by
  cases status <;> revert terminal <;> decide

theorem lookup_update (jobId other : String) (write : Job Payload → A × Job Payload)
    (store : JobStore Payload) : (store.update other write).2.jobs.lookup jobId =
      if jobId = other then (store.jobs.lookup jobId).map (fun job => (write job).2)
      else store.jobs.lookup jobId := by
  unfold JobStore.update
  cases found : store.jobs.lookup other with
  | none =>
    by_cases same : jobId = other
    · rw [if_pos same, same, found]
      rfl
    · rw [if_neg same]
  | some job =>
    rw [Dict.lookup_insert_eq]
    by_cases same : jobId = other
    · rw [if_pos same, if_pos same, same, found]
      rfl
    · rw [if_neg same, if_neg same]

theorem Settled.update (settled : Settled jobId facts store)
    (keeps : ∀ job : Job Payload, jobId = other → job.facts = facts →
      (write job).2.facts = facts) : Settled jobId facts (store.update other write).2 := by
  rcases settled with ⟨job, found, same⟩
  by_cases here : jobId = other
  · refine ⟨(write job).2, ?_, keeps job here same⟩
    rw [lookup_update, if_pos here, found]
    rfl
  · refine ⟨job, ?_, same⟩
    rw [lookup_update, if_neg here]
    exact found

variable {job : Job Payload}

theorem terminal_of_facts (same : job.facts = facts)
    (terminal : facts.status ∈ terminalStatuses) : job.status ∈ terminalStatuses := by
  rw [← same] at terminal
  exact terminal

theorem guardedCompleteSuccess_terminal (jobId : String)
    (artifact : ResultArtifact Payload) (actualTokens : Option Int)
    (terminal : job.status ∈ terminalStatuses) :
    job.guardedCompleteSuccess jobId artifact actualTokens = (.zeroRows, job) := by
  unfold Job.guardedCompleteSuccess
  rw [if_pos (not_live_of_terminal terminal)]

theorem guardedTerminalTransition_terminal (jobId : String)
    (target : JobStatus) (terminal : job.status ∈ terminalStatuses) :
    job.guardedTerminalTransition jobId target liveStatuses = (.zeroRows, job) := by
  unfold Job.guardedTerminalTransition
  rw [if_pos (not_live_of_terminal terminal)]

theorem recordTimeoutPending_terminal (jobId : String) (terminal : job.status ∈ terminalStatuses) :
    job.recordTimeoutPending jobId = (.zeroRows, job) := by
  unfold Job.recordTimeoutPending
  rw [if_pos terminal]

theorem recordProviderRequestId_facts (job : Job Payload) (providerRequestId : String) :
    (job.recordProviderRequestId providerRequestId).facts = job.facts := by
  unfold Job.recordProviderRequestId
  split <;> rfl

theorem holdCostReconciliation_facts (job : Job Payload)
    (pending : job.facts.costState = .reconciliationPending) :
    job.holdCostReconciliation.facts = job.facts := by
  have cost : job.costState = .reconciliationPending := pending
  unfold Job.holdCostReconciliation Job.facts
  rw [cost]

/-- The transition goes out from the live statuses, as no caller asks otherwise. -/
def FromLive : Call Payload → Prop
  | .guardedTerminalTransition _ _ _ fromStatuses => fromStatuses = liveStatuses
  | _ => True

theorem perform_settled (call : Call Payload) (fromLive : FromLive call)
    (terminal : facts.status ∈ terminalStatuses)
    (held : call = .holdCostReconciliation jobId → facts.costState = .reconciliationPending)
    (settled : Settled jobId facts store) : Settled jobId facts (perform call store).2 := by
  cases call with
  | find | openIntent => exact settled
  | persistCancellationIntent =>
    exact settled.update fun job _ same => same
  | guardedTerminalTransition other target _ fromStatuses =>
    cases (fromLive : fromStatuses = liveStatuses)
    show Settled jobId facts
      (store.update other (Job.guardedTerminalTransition other target liveStatuses)).2
    apply settled.update
    intro job _ same
    rw [guardedTerminalTransition_terminal _ _ (terminal_of_facts same terminal)]
    exact same
  | guardedCompleteSuccess other artifact actualTokens =>
    show Settled jobId facts
      (store.update other (Job.guardedCompleteSuccess other artifact actualTokens)).2
    apply settled.update
    intro job _ same
    rw [guardedCompleteSuccess_terminal _ _ _ (terminal_of_facts same terminal)]
    exact same
  | addEvent => exact settled.update fun job _ same => same
  | recordProviderRequestId _ providerRequestId =>
    cases providerRequestId with
    | none => exact settled
    | some requestId =>
      apply settled.update
      intro job _ same
      exact (recordProviderRequestId_facts job requestId).trans same
  | recordTimeoutPending other =>
    show Settled jobId facts (store.update other (Job.recordTimeoutPending other)).2
    apply settled.update
    intro job _ same
    rw [recordTimeoutPending_terminal _ (terminal_of_facts same terminal)]
    exact same
  | holdCostReconciliation =>
    apply settled.update
    intro job here same
    have pending : facts.costState = .reconciliationPending := held (by rw [here])
    rw [← same] at pending
    exact (holdCostReconciliation_facts job pending).trans same

theorem unsettles_changes {call : Call Payload} (unsettles : Unsettles jobId store call) :
    ∃ facts : Facts Payload, facts.status ∈ terminalStatuses ∧ Settled jobId facts store ∧
      ¬ Settled jobId facts (perform call store).2 := by
  rcases unsettles with ⟨rfl, job, found, terminal, settledCost⟩
  refine ⟨job.facts, terminal, ⟨job, found, rfl⟩, ?_⟩
  rintro ⟨_, placed, same⟩
  have held : (perform (.holdCostReconciliation jobId) store).2.jobs.lookup jobId =
      some job.holdCostReconciliation := by
    show (store.update jobId _).2.jobs.lookup jobId = _
    rw [lookup_update, if_pos rfl, found]
    rfl
  rw [held] at placed
  cases placed
  exact settledCost (congrArg Facts.costState same).symm

end Writes

section Legality

variable {Payload : Type} {P : Call Payload → Prop}
variable (run : WorkerRun)

theorem transition_issues (target : JobStatus) (won : WorkerOutcome) (tokensSeen : Nat) :
    (run.transition target won tokensSeen : StreamingProgram Payload).Issues FromLive :=
  await_issues rfl fun _ _ => trivial

theorem consume_issues (stream : ProviderStream) (tokens : List String) (tokensSeen : Nat) :
    (run.consume stream tokens tokensSeen : StreamingProgram Payload).Issues FromLive := by
  have cancelled : ∀ target seen,
      (run.cancelMidStream stream target seen : StreamingProgram Payload).Issues FromLive :=
    fun target seen => await_issues trivial fun _ => await_issues trivial fun _ =>
      transition_issues run target _ seen
  induction tokens generalizing tokensSeen with
  | nil =>
    refine await_issues trivial fun intent => ?_
    cases intent with
    | none => exact await_issues trivial fun _ _ => trivial
    | some =>
      exact await_issues trivial fun _ => await_issues trivial fun _ =>
        transition_issues run _ _ tokensSeen
  | cons _ _ ih =>
    refine await_issues trivial fun intent => ?_
    cases intent with
    | some => exact cancelled _ _
    | none =>
      dsimp only
      split
      · intro fires
        dsimp only
        split
        · exact cancelled _ _
        · exact ih _
      · exact ih _

theorem workerRun_issues : (run.program : StreamingProgram Payload).Issues FromLive := by
  refine await_issues trivial fun intent => ?_
  cases intent with
  | some =>
    exact await_issues rfl fun _ => await_issues trivial fun _ _ => trivial
  | none =>
    dsimp only
    split
    · intro stream
      exact await_issues trivial fun _ => await_issues trivial fun _ _ => trivial
    · intro stream
      exact await_issues trivial fun _ => consume_issues run stream _ _

theorem read_issues (result : LateResult Payload)
    {next : Job Payload → StreamingProgram Payload} (issues : ∀ job, (next job).Issues FromLive) :
    (result.read next).Issues FromLive := by
  refine await_issues trivial fun found => ?_
  cases found with
  | none => exact trivial
  | some => exact issues _

theorem ingest_issues (result : LateResult Payload) : result.ingest.Issues FromLive := by
  refine read_issues result fun job => ?_
  split
  · exact trivial
  refine read_issues result fun job => ?_
  split
  · exact trivial
  refine read_issues result fun job => ?_
  split
  · exact trivial
  dsimp only
  split
  · exact trivial
  · exact await_issues trivial fun _ => trivial

theorem applyCancellation_issues (jobId : String) (now : Instant) (target : Option JobStatus) :
    (applyCancellation jobId now target : StreamingProgram Payload).Issues FromLive := by
  cases target with
  | some => exact await_issues rfl fun _ => trivial
  | none => exact await_issues trivial fun _ => await_issues rfl fun _ => trivial

theorem client_issues (client : Client Payload) : client.program.Issues FromLive := by
  cases client with
  | runWorker => exact workerRun_issues _
  | requestCancellation =>
    exact await_issues trivial fun _ => trivial
  | timeOut => exact await_issues trivial fun _ => trivial
  | applyCancellation => exact applyCancellation_issues _ _ _
  | ingestLateProviderResult => exact ingest_issues _

theorem storeCalls_fromLive (store : JobStore Payload) (actions : List (Action Payload)) :
    ∀ call ∈ storeCalls store actions, FromLive call := by
  apply calls_issue perform FromLive
  · intro thread member
    cases member
  · intro program member
    rcases List.mem_map.mp member with ⟨action, _, same⟩
    cases action with
    | resume => cases same
    | enter client =>
      cases same
      exact client_issues client

end Legality

/-- The race is settled for good exactly when no cost hold finds a terminal job at another
cost than the pending one. -/
theorem loser_changes_nothing_iff {Payload : Type} (jobId : String) (store : JobStore Payload)
    (actions : List (Action Payload)) : LoserChangesNothing jobId store actions ↔
      ∀ e ∈ trace perform store (storeCalls store actions), ¬ Unsettles jobId e.before e.call := by
  constructor
  · intro settled e member unsettles
    rcases unsettles_changes unsettles with ⟨facts, terminal, before, changed⟩
    have kept := (permanent_iff perform _ store _).mp (settled facts terminal) e member before
    rw [(mem_trace_performed member).2] at kept
    exact changed kept
  · intro guarded facts terminal
    rw [permanent_iff]
    intro e member before
    rw [(mem_trace_performed member).2]
    have fromLive := storeCalls_fromLive store actions e.call
      (mem_of_mem_trace perform store _ e member)
    apply perform_settled e.call fromLive terminal _ before
    intro holds
    by_contra settledCost
    rcases before with ⟨job, found, same⟩
    apply guarded e member
    refine ⟨holds, job, found, terminal_of_facts same terminal, ?_⟩
    rw [← same] at settledCost
    exact settledCost

namespace Sample

def store : JobStore String :=
  { jobs := AList.insert "job" { jobId := "job" } ∅ }

def oracle : (question : Question) → question.Reply
  | .openStream => ⟨["token"], none, some "request"⟩
  | .calls => 1
  | .cancelCheck => false

def worker (tokens : Option Int) : Action String :=
  .enter (.runWorker { jobId := "job", now := 0, completeWithTokens := tokens })

/-- Two workers stream; one completes, then a cancellation comes in and the other sees it. -/
def race : List (Action String) :=
  [worker (some 7), worker none] ++ List.replicate 3 (.resume 0 oracle) ++
    List.replicate 3 (.resume 1 oracle) ++ List.replicate 3 (.resume 0 oracle) ++
    [.enter (.requestCancellation "job" .userCancellation "stop" "user" 0 none "intent"),
      .resume 2 oracle] ++ List.replicate 5 (.resume 1 oracle)

def result? : StreamingProgram String → Option Finished
  | .done result => some result
  | _ => none

/-- The losing worker reports a no-op, and the settled cost is gone. -/
theorem noop_unsettles : ¬ LoserChangesNothing "job" store race ∧
      ((Interleaving.run perform (pool store) (race.map Action.turn)).threads[1]?).bind
        result? = some (.worked ⟨.completionNoop, 1, 1⟩) := by
  constructor
  · intro settled
    have completed : (((final perform store ((storeCalls store race).take 7)).jobs.lookup
        "job").map Job.facts) = some ⟨.succeeded, some (.streamed "validated-domain-result"
          (some "request")), some 7, .settled⟩ := by decide
    have held : (((final perform store ((storeCalls store race).take 7 ++
        (storeCalls store race).drop 7)).jobs.lookup "job").map (·.costState)) =
          some .reconciliationPending := by decide
    rcases Option.map_eq_some_iff.mp completed with ⟨job, found, facts⟩
    obtain ⟨_, placed, same⟩ := settled _ (by decide) _
      ((storeCalls store race).drop 7) [] (by rw [List.append_nil, List.take_append_drop])
      ⟨job, found, facts⟩
    rw [placed] at held
    have cost := congrArg Facts.costState same
    exact absurd (cost.symm.trans (Option.some.inj held)) (by decide)
  · decide

end Sample

end BackendHandbook.Streaming
