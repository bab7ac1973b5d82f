import BackendHandbook.Mcp.Reconciliation
import Mathlib.Algebra.Order.Field.Rat

/-! The schedule of the queries for an unknown outcome, until an operator is called. A float is a
rational, and each float operation rounds its exact result. -/

namespace BackendHandbook.Mcp

open Run

inductive ReconciliationScheduleOutcome
  | nextQueryScheduled | resolutionReady | operationalAlertRequired | alreadyAlerted
  deriving DecidableEq

structure ReconciliationScheduleState where
  binding : ApplicationOperationBinding
  queriesUsed : Nat
  maximumQueries : Nat
  deadline : ℚ
  nextQueryAt : Option ℚ := none
  alertEmitted : Bool := false
  pendingReconciliation : Bool := true
  budget_pos : 1 ≤ maximumQueries
  within_budget : queriesUsed ≤ maximumQueries

structure ReconciliationOperationalAlert where
  (operationRef reason : String)
  queriesUsed : Nat

structure ReconciliationScheduleDecision where
  outcome : ReconciliationScheduleOutcome
  state : ReconciliationScheduleState
  originalToolCalls : Nat := 0
  durableTransition : Bool := false

inductive ScheduleRaised
  | valueError (message : String)
  | overflowError

structure BoundedReconciliationPolicy where
  (baseDelaySeconds maximumDelaySeconds jitterRatio minimumQueryWindowSeconds : ℚ)

/-- One call of `advance`, with its clock. -/
structure Advance where
  decision : ReconciliationDecision
  now : ℚ
  operationRef : String

namespace ReconciliationScheduleState

/-- The state with another count, which its constructor may refuse. -/
def counted (state : ReconciliationScheduleState) (queriesUsed : Nat) (nextQueryAt : Option ℚ)
    (alertEmitted : Bool) : Except ScheduleRaised ReconciliationScheduleState :=
  if within : queriesUsed ≤ state.maximumQueries then
    .ok { state with queriesUsed, nextQueryAt, alertEmitted, within_budget := within }
  else .error (.valueError "queries_used exceeds reconciliation budget")

end ReconciliationScheduleState

namespace BoundedReconciliationPolicy

variable (leading64 : String → Nat) (round : ℚ → ℚ) (policy : BoundedReconciliationPolicy)

/-- `leading64` reads the first eight bytes of a SHA-256 digest as a number. An integer beyond the
floats overflows. -/
def delaySeconds (operationId : String) (queriesUsed : Nat) : Except ScheduleRaised ℚ :=
  if 1024 ≤ queriesUsed - 1 then .error .overflowError
  else
    let base :=
      min policy.maximumDelaySeconds (round (policy.baseDelaySeconds * 2 ^ (queriesUsed - 1)))
    let digest := leading64 ("reconcile:" ++ operationId ++ ":" ++ toString queriesUsed)
    let unit := round (digest / (2 ^ 64 - 1))
    let factor := round (1 + round (policy.jitterRatio * round (2 * unit - 1)))
    .ok (min policy.maximumDelaySeconds (round (base * factor)))

abbrev Advanced :=
  Except ScheduleRaised ReconciliationScheduleDecision × List ReconciliationOperationalAlert

/-- The query is counted before anything is decided, and the alert is sent before the new state
is built. -/
def count (conflict : Bool) (state : ReconciliationScheduleState) (now : ℚ)
    (operationRef : String) : Advanced :=
  let queriesUsed := state.queriesUsed + 1
  match policy.delaySeconds leading64 round state.binding.operationId queriesUsed with
  | .error raised => (.error raised, [])
  | .ok delay =>
    let next := round (now + delay)
    let exhausted := state.maximumQueries ≤ queriesUsed
    if exhausted ∨ state.deadline < round (next + policy.minimumQueryWindowSeconds) ∨ conflict then
      let reason :=
        if conflict then "EVIDENCE_CONFLICT"
        else if exhausted then "QUERY_BUDGET_EXHAUSTED"
        else "RECONCILIATION_DEADLINE_EXHAUSTED"
      ((state.counted queriesUsed none true).map (⟨.operationalAlertRequired, ·, 0, false⟩),
        [⟨operationRef, reason, queriesUsed⟩])
    else
      ((state.counted queriesUsed (some next) state.alertEmitted).map
        (⟨.nextQueryScheduled, ·, 0, false⟩), [])

def advance (call : Advance) (state : ReconciliationScheduleState) : Advanced :=
  if call.decision.binding ≠ state.binding then
    (.error (.valueError "reconciliation schedule binding mismatch"), [])
  else
    match call.decision.kind with
    | .resolvedSucceeded | .resolvedFailed | .resolvedNotExecuted =>
      (.ok ⟨.resolutionReady, { state with nextQueryAt := none }, 0, false⟩, [])
    | kind =>
      if state.alertEmitted then (.ok ⟨.alreadyAlerted, state, 0, false⟩, [])
      else
        policy.count leading64 round (kind matches .evidenceConflict) state call.now
          call.operationRef

/-- A call goes on from the state that the call before returned, if that did not raise. -/
def perform (call : Advance) (state : ReconciliationScheduleState) :
    Advanced × ReconciliationScheduleState :=
  let advanced := policy.advance leading64 round call state
  (advanced, match advanced.1 with
    | .ok decision => decision.state
    | .error _ => state)

/-- The clock of a call is not so late that rounding loses the query window. -/
def Apart (operationId : String) (now : ℚ) : Prop :=
  ∀ used delay, policy.delaySeconds leading64 round operationId used = .ok delay →
    round (now + delay) < round (round (now + delay) + policy.minimumQueryWindowSeconds)

abbrev Answered := Event ReconciliationScheduleState Advance fun _ => Advanced

def Scheduled (e : Answered) : Bool :=
  match e.response.1 with
  | .ok ⟨.nextQueryScheduled, _, _, _⟩ => true
  | _ => false

/-- What is promised of a run with a budget of alerts and of queries. -/
structure BoundedRun (deadline : ℚ) (maximum alerts queries : Nat) (run : List Answered) :
    Prop where
  answered : ∀ e ∈ run, ∃ decision, e.response.1 = .ok decision
  alerted : (run.flatMap (·.response.2)).length ≤ alerts
  counted : ∀ e ∈ run, e.after.queriesUsed ≤ maximum
  scheduled : run.countP Scheduled ≤ queries
  silent : run.Pairwise fun e later => e.response.2 ≠ [] → Scheduled later = false
  early : ∀ e ∈ run, Scheduled e → ∃ next ∈ e.after.nextQueryAt, next < deadline

/-- One call that is answered: no query, one more below the budget, or the alert. -/
inductive Moved (before : ReconciliationScheduleState) : Advanced → Prop
  | quiet (outcome nextQueryAt) (other : outcome ≠ .nextQueryScheduled) :
      Moved before (.ok ⟨outcome, { before with nextQueryAt }, 0, false⟩, [])
  | scheduled (next) (unalerted : before.alertEmitted = false)
      (room : before.queriesUsed + 1 < before.maximumQueries) (early : next < before.deadline) :
      Moved before (.ok ⟨.nextQueryScheduled, { before with
        queriesUsed := before.queriesUsed + 1, nextQueryAt := some next
        within_budget := Nat.le_of_lt room }, 0, false⟩, [])
  | alerted (alert) (unalerted : before.alertEmitted = false)
      (room : before.queriesUsed + 1 ≤ before.maximumQueries) :
      Moved before (.ok ⟨.operationalAlertRequired, { before with
        queriesUsed := before.queriesUsed + 1, nextQueryAt := none, alertEmitted := true
        within_budget := room }, 0, false⟩, [alert])

variable {policy leading64 round} {state : ReconciliationScheduleState}

theorem count_moved (unalerted : state.alertEmitted = false)
    (room : state.queriesUsed < state.maximumQueries) (small : state.maximumQueries ≤ 1024)
    (conflict : Bool) (now : ℚ) (apart : policy.Apart leading64 round state.binding.operationId now)
    (operationRef : String) :
    Moved state (policy.count leading64 round conflict state now operationRef) := by
  have finite : ¬ 1024 ≤ state.queriesUsed + 1 - 1 := by omega
  have within : state.queriesUsed + 1 ≤ state.maximumQueries := room
  obtain ⟨delay, delayed⟩ : ∃ delay, policy.delaySeconds leading64 round
      state.binding.operationId (state.queriesUsed + 1) = .ok delay := ⟨_, if_neg finite⟩
  simp only [count, delayed, ReconciliationScheduleState.counted, within, dif_pos, Except.map]
  split
  · exact .alerted _ unalerted within
  · rename_i open_
    rw [not_or, not_or, not_lt, not_le] at open_
    exact .scheduled _ unalerted open_.1 (lt_of_lt_of_le (apart _ delay delayed) open_.2.1)

/-- Room for one more query, unless the alert is out. -/
def Live (state : ReconciliationScheduleState) : Prop :=
  state.alertEmitted = false →
    state.queriesUsed < state.maximumQueries ∧ state.maximumQueries ≤ 1024

theorem advance_moved (live : Live state) (call : Advance)
    (bound : call.decision.binding = state.binding)
    (apart : policy.Apart leading64 round state.binding.operationId call.now) :
    Moved state (policy.advance leading64 round call state) := by
  rw [advance, if_neg (not_not.mpr bound)]
  split
  · exact .quiet _ _ nofun
  · exact .quiet _ _ nofun
  · exact .quiet _ _ nofun
  · split
    · exact .quiet _ _ nofun
    · rename_i unalerted
      have unalerted := Bool.eq_false_of_not_eq_true unalerted
      exact count_moved unalerted (live unalerted).1 (live unalerted).2 _ _ apart _

theorem BoundedRun.cons {deadline : ℚ} {maximum alerts alertsLeft queries queriesLeft : Nat}
    {e : Answered} {run : List Answered}
    (later : BoundedRun deadline maximum alertsLeft queriesLeft run)
    (answered : ∃ decision, e.response.1 = .ok decision) (counted : e.after.queriesUsed ≤ maximum)
    (early : Scheduled e → ∃ next ∈ e.after.nextQueryAt, next < deadline)
    (alerted : e.response.2.length + alertsLeft ≤ alerts)
    (scheduled : (if Scheduled e then 1 else 0) + queriesLeft ≤ queries)
    (silent : e.response.2 ≠ [] → queriesLeft = 0) :
    BoundedRun deadline maximum alerts queries (e :: run) where
  answered := List.forall_mem_cons.mpr ⟨answered, later.answered⟩
  counted := List.forall_mem_cons.mpr ⟨counted, later.counted⟩
  early := List.forall_mem_cons.mpr ⟨early, later.early⟩
  alerted := by
    have rest := later.alerted
    rw [List.flatMap_cons, List.length_append]
    omega
  scheduled := by
    have rest := later.scheduled
    rw [List.countP_cons]
    omega
  silent := by
    apply List.Pairwise.cons _ later.silent
    intro next member sent
    have none : run.countP Scheduled = 0 := Nat.le_zero.mp (silent sent ▸ later.scheduled)
    exact Bool.eq_false_of_not_eq_true (List.countP_eq_zero.mp none next member)

/-- An alert leaves no call of the budget, and a query takes one. -/
theorem run_bounded (calls : List Advance) (live : Live state)
    (bound : ∀ call ∈ calls, call.decision.binding = state.binding) (apart : ∀ call ∈ calls,
      policy.Apart leading64 round state.binding.operationId call.now) :
    BoundedRun state.deadline state.maximumQueries (if state.alertEmitted then 0 else 1)
      (if state.alertEmitted then 0 else state.maximumQueries - state.queriesUsed - 1)
      (trace (policy.perform leading64 round) state calls) := by
  induction calls generalizing state with
  | nil => constructor <;> simp [trace]
  | cons call calls ih =>
    have moved := advance_moved live call (bound call List.mem_cons_self)
      (apart call List.mem_cons_self)
    have bound := fun call member => bound call (List.mem_cons_of_mem _ member)
    have apart := fun call member => apart call (List.mem_cons_of_mem _ member)
    have within := state.within_budget
    dsimp only [trace, event, perform]
    generalize policy.advance leading64 round call state = advanced at moved
    cases moved with
    | quiet outcome nextQueryAt other =>
      have silent : Scheduled ⟨state, call, (.ok ⟨outcome, { state with nextQueryAt }, 0, false⟩,
          []), { state with nextQueryAt }⟩ = false := by
        cases outcome <;> first | rfl | cases other rfl
      apply BoundedRun.cons (@ih { state with nextQueryAt } live bound apart) ⟨_, rfl⟩ within <;>
        simp [silent]
    | scheduled next unalerted room early =>
      have rest := @ih { state with
        queriesUsed := state.queriesUsed + 1, nextQueryAt := some next, within_budget := room.le }
        (fun _ => ⟨room, (live unalerted).2⟩) bound apart
      apply rest.cons ⟨_, rfl⟩ room.le (fun _ => ⟨next, rfl, early⟩) <;>
        simp [Scheduled, unalerted]
      omega
    | alerted alert unalerted room =>
      have rest := @ih { state with
        queriesUsed := state.queriesUsed + 1, nextQueryAt := none, alertEmitted := true
        within_budget := room } (by simp [Live]) bound apart
      apply rest.cons ⟨_, rfl⟩ room <;> simp [Scheduled, unalerted]

/-- While there is room for a query and the clock resolves the query window. -/
theorem schedule_bounded (policy : BoundedReconciliationPolicy)
    (state : ReconciliationScheduleState) (start : state.alertEmitted = false)
    (room : state.queriesUsed < state.maximumQueries) (small : state.maximumQueries ≤ 1024)
    (calls : List Advance) (bound : ∀ call ∈ calls, call.decision.binding = state.binding)
    (apart : ∀ call ∈ calls, policy.Apart leading64 round state.binding.operationId call.now) :
    BoundedRun state.deadline state.maximumQueries 1 (state.maximumQueries - state.queriesUsed - 1)
      (trace (policy.perform leading64 round) state calls) := by
  simpa [start] using run_bounded calls (fun _ => ⟨room, small⟩) bound apart

end BoundedReconciliationPolicy

namespace Sample

open BoundedReconciliationPolicy

def policy : BoundedReconciliationPolicy := ⟨1, 30, 0, 1 / 20⟩

def schedule (maximumQueries : Nat) (queriesUsed : Nat) (positive : 1 ≤ maximumQueries)
    (within : queriesUsed ≤ maximumQueries) : ReconciliationScheduleState where
  binding := ⟨"operation", "key", "tenant", "resource", by decide⟩
  queriesUsed
  maximumQueries
  deadline := 10
  budget_pos := positive
  within_budget := within

def pending : Advance :=
  ⟨⟨.stillPending, (schedule 1 0 le_rfl (by decide)).binding, none, none⟩, 0, "ref"⟩

/-- At the edge of the budget each call alerts and raises. -/
theorem exhausted_alerts_twice :
    (trace (policy.perform (fun _ => 0) id) (schedule 1 1 le_rfl le_rfl) [pending, pending]).map
        (·.response) = [(.error (.valueError "queries_used exceeds reconciliation budget"),
          [⟨"ref", "QUERY_BUDGET_EXHAUSTED", 2⟩]),
        (.error (.valueError "queries_used exceeds reconciliation budget"),
          [⟨"ref", "QUERY_BUDGET_EXHAUSTED", 2⟩])] := by
  rfl

theorem schedule_bounded_pending : BoundedRun 10 3 1 2 (trace (policy.perform (fun _ => 0) id)
      (schedule 3 0 (by decide) (by decide)) [pending, pending, pending]) := by
  apply schedule_bounded policy (schedule 3 0 _ _) rfl (by decide) (by decide)
  · simp [pending, schedule]
  · intro call _ used delay _
    simp [policy]

end Sample

end BackendHandbook.Mcp
