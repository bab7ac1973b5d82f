import BackendHandbook.Provider.Ledger
import Mathlib.Data.Rat.Floor

/-! The gates in front of a paid call: fleet capacity and the health of a failure domain. -/

namespace BackendHandbook.Provider

structure SharedRateLimiter where
  capacity : Int
  used : Int := 0
  available : Bool := true

def SharedRateLimiter.tryAcquire (limiter : SharedRateLimiter) : Bool × SharedRateLimiter :=
  if limiter.available = false then (false, limiter)
  else if limiter.capacity ≤ limiter.used then (false, limiter)
  else (true, { limiter with used := limiter.used + 1 })

def SharedRateLimiter.release (limiter : SharedRateLimiter) : SharedRateLimiter :=
  if 0 < limiter.used then { limiter with used := limiter.used - 1 } else limiter

inductive CircuitState
  | closed | open | halfOpen
  deriving DecidableEq

/-- The circuits of all failure domains, each under its key. -/
structure CircuitBreaker where
  failThreshold : Int := 5
  halfOpenMaxProbes : Int := 2
  states : Dict String CircuitState := ∅
  fails : Dict String Int := ∅
  probesInFlight : Dict String Int := ∅
  probeSuccesses : Dict String Int := ∅

namespace CircuitBreaker

variable (circuit : CircuitBreaker) (key : String)

def state : CircuitState := (circuit.states.lookup key).getD .closed

def recordFailure : CircuitBreaker :=
  let fails := Dict.held circuit.fails key + 1
  let counted := { circuit with fails := circuit.fails.insert key fails }
  if circuit.failThreshold ≤ fails then
    { counted with states := circuit.states.insert key .open }
  else counted

def startHalfOpen : CircuitBreaker :=
  { circuit with
    states := circuit.states.insert key .halfOpen
    probesInFlight := circuit.probesInFlight.insert key 0
    probeSuccesses := circuit.probeSuccesses.insert key 0 }

def hasProbeCapacity : Bool :=
  circuit.state key = .halfOpen ∧ Dict.held circuit.probesInFlight key < circuit.halfOpenMaxProbes

def tryAcquireProbe : Bool × CircuitBreaker :=
  if circuit.state key ≠ .halfOpen then (false, circuit)
  else if circuit.halfOpenMaxProbes ≤ Dict.held circuit.probesInFlight key then (false, circuit)
  else
    (true, { circuit with
      probesInFlight := circuit.probesInFlight.insert key
        (Dict.held circuit.probesInFlight key + 1) })

def releaseProbe : CircuitBreaker :=
  { circuit with
    probesInFlight := circuit.probesInFlight.insert key
      (max 0 (Dict.held circuit.probesInFlight key - 1)) }

def recordProbeSuccess (neededToClose : Int) : CircuitBreaker :=
  let released := circuit.releaseProbe key
  -- a late success does not count once another probe has opened the circuit again
  if circuit.state key ≠ .halfOpen then released
  else
    let successes := Dict.held circuit.probeSuccesses key + 1
    let counted :=
      { released with probeSuccesses := circuit.probeSuccesses.insert key successes }
    if neededToClose ≤ successes then
      { counted with
        states := circuit.states.insert key .closed, fails := circuit.fails.insert key 0 }
    else counted

def recordProbeFailure : CircuitBreaker :=
  { circuit.releaseProbe key with states := circuit.states.insert key .open }

end CircuitBreaker

/-! What a worker may do with the provider now, and what a passed deadline does to a job. -/

open Streaming (Instant)

inductive ProviderAction
  | call | defer | reconcile | terminal | noop

structure DispatchDecision where
  action : ProviderAction
  reason : String
  nextAttemptAt : Option Instant := none
  terminalStatus : Option JobStatus := none

section Backoff

/-- The nearest integer, and the even one of two that are as near. -/
def roundHalfEven (value : ℚ) : Int :=
  let below := ⌊value⌋
  if value - below < 1 / 2 then below
  else if 1 / 2 < value - below then below + 1
  else if below % 2 = 0 then below else below + 1

def timedelta (seconds : ℚ) : Int := roundHalfEven (seconds * 1000000)

/-- Exponential backoff with jitter, in seconds with six decimals. -/
def backoffDelaySeconds (attemptNumber : Int) (base cap jitter draw : ℚ) : ℚ :=
  let raw := min cap (base * 2 ^ (max 0 (attemptNumber - 1)).toNat)
  roundHalfEven ((raw * (1 - jitter) + raw * jitter * draw) * 1000000) / 1000000

/-- The draws of the random source are numbered; a floor in front of the backoff uses a
second one. -/
def computeNextAttemptAt (now : Instant) (attemptNumber : Int) (retryAfterSeconds : Option ℚ)
    (rand : Nat → ℚ) (jitterWindowSeconds : Option ℚ) : Instant :=
  let candidate := now + timedelta (backoffDelaySeconds attemptNumber 1 60 1 (rand 0))
  match retryAfterSeconds with
  | none => candidate
  | some seconds =>
    let earliest := now + timedelta seconds
    if earliest < candidate then candidate
    else
      let window := jitterWindowSeconds.getD (backoffDelaySeconds attemptNumber 1 60 1 1)
      earliest + timedelta (window * rand 1)

end Backoff

section Dispatch

/-- No call is made: the job waits for its next attempt, up to its deadline. -/
def defer (job : Job) (reason : String) (now : Instant) (rand : Nat → ℚ) : DispatchDecision × Job :=
  let deferCount := job.deferCount + 1
  let nextAt := min (computeNextAttemptAt now deferCount none rand none) job.deadline
  ({ action := .defer, reason := reason, nextAttemptAt := some nextAt },
    { job with
      deferCount := deferCount, defer := some ⟨reason, nextAt, deferCount, job.deadline⟩
      status := .deferred })

/-- A decision with the job, the permits and the probes that it leaves. -/
structure Dispatched where
  decision : DispatchDecision
  job : Job
  limiter : SharedRateLimiter
  circuit : CircuitBreaker

variable (job : Job) (limiter : SharedRateLimiter) (ledger : TenantBudgetLedger)
variable (circuit : CircuitBreaker) (now : Instant) (emergencyFailOpen : Bool)
variable (rand : Nat → ℚ)

def deferred (reason : String) : Dispatched :=
  ⟨(defer job reason now rand).1, (defer job reason now rand).2, limiter, circuit⟩

/-- With or without a permit in hand: the reservation, then the probe slot. -/
def spend (permitAcquired : Bool) : Dispatched :=
  let returned := if permitAcquired then limiter.release else limiter
  let key := job.contract.circuitKey
  if ledger.hasReservation job = false then
    deferred job returned circuit now rand "no_cost_reservation"
  else if circuit.state key ≠ .halfOpen then
    ⟨{ action := .call, reason := "all_gates_passed" }, job, limiter, circuit⟩
  else
    match circuit.tryAcquireProbe key with
    | (false, kept) => deferred job returned kept now rand "circuit_half_open_no_probe_slot"
    | (true, probing) =>
      ⟨{ action := .call, reason := "all_gates_passed" }, job, limiter, probing⟩

/-- Fleet capacity, which an outage of the limiter denies unless it is waived. -/
def permit : Dispatched :=
  if limiter.available then
    match limiter.tryAcquire with
    | (false, kept) => deferred job kept circuit now rand "no_rate_capacity"
    | (true, acquired) => spend job acquired ledger circuit now rand true
  else if emergencyFailOpen then spend job limiter ledger circuit now rand false
  else deferred job limiter circuit now rand "limiter_unavailable_fail_closed"

def evaluateDispatch : Dispatched :=
  let key := job.contract.circuitKey
  if job.status ∈ terminalStatuses then
    ⟨{ action := .noop, reason := "already_terminal" }, job, limiter, circuit⟩
  else
    match job.intentKind with
    | some kind =>
      ⟨{ action := .terminal
         reason := "durable_intent:" ++ intentValue kind
         terminalStatus := some (terminalForIntent kind) }, job, limiter, circuit⟩
    | none =>
      if job.evidence then
        ⟨{ action := .reconcile, reason := "provider_execution_evidence" }, job, limiter, circuit⟩
      else if job.deadline ≤ now then
        ⟨{ action := .terminal
           reason := "defer_deadline_expired"
           terminalStatus := some .expired }, job, limiter, circuit⟩
      else if circuit.state key = .open then
        deferred job limiter circuit now rand "circuit_open"
      else if circuit.state key = .halfOpen ∧ circuit.hasProbeCapacity key = false then
        deferred job limiter circuit now rand "circuit_half_open_no_probe_slot"
      else permit job limiter ledger circuit now emergencyFailOpen rand

/-- The evidence of an execution is read before the status of the job. -/
def processDeadline : Except Raised DispatchDecision × Job × TenantBudgetLedger :=
  if job.evidence then
    let held := ledger.holdForReconciliation job
    (.ok { action := .reconcile, reason := "deadline_but_execution_unknown" },
      { held.2.1 with status := .pendingReconciliation }, held.2.2)
  else if job.status ∈ terminalStatuses then
    (.ok { action := .noop, reason := "already_terminal" }, job, ledger)
  else
    match ledger.releaseReservation job with
    | (.error raised, kept, popped) => (.error raised, kept, popped)
    | (.ok (), released, credited) =>
      (.ok { action := .terminal
             reason := "expired_no_execution"
             terminalStatus := some .expired }, { released with status := .expired }, credited)

end Dispatch

section Repair

inductive RepairAction
  | redispatchNewOutboxIntent | reconcileOnly
  deriving DecidableEq

def classifyIncidentRepair (job : Job) (now : Instant) : RepairAction :=
  if job.evidence then .reconcileOnly
  else if job.deadline ≤ now then .reconcileOnly
  else .redispatchNewOutboxIntent

structure OutboxDispatchIntent where
  jobId : String
  createdAt : Instant
  (reason repairId : String)

inductive RepairOutcome
  | redispatched | alreadyApplied | blockedNotInAffectedSet | blockedWrongStatus | blockedCancelled
  | blockedDeadlinePassed | blockedProviderEvidence | blockedBudget

def repairIdFor (jobId releaseVersion : String) : String :=
  "repair:" ++ jobId ++ ":" ++ releaseVersion ++ ":defer_deadline_expired"

/-- The stored job facts that a repair writes. -/
structure Repaired where
  job : Job
  outbox : List OutboxDispatchIntent
  repairLedger : Dict String Instant
  ledger : TenantBudgetLedger

def repairRedispatch (facts : Repaired) (now : Instant) (affectedSet : List String)
    (releaseVersion : String) : Except Raised RepairOutcome × Repaired :=
  let job := facts.job
  let rid := repairIdFor job.jobId releaseVersion
  if (facts.repairLedger.lookup rid).isSome then (.ok .alreadyApplied, facts)
  else if job.jobId ∉ affectedSet then (.ok .blockedNotInAffectedSet, facts)
  else if job.status ≠ .expired then (.ok .blockedWrongStatus, facts)
  else if job.intentKind.isSome then (.ok .blockedCancelled, facts)
  else if classifyIncidentRepair job now ≠ .redispatchNewOutboxIntent then
    if job.evidence then (.ok .blockedProviderEvidence, facts)
    else (.ok .blockedDeadlinePassed, facts)
  else
    match facts.ledger.reserveWorstCase job with
    | (.error raised, kept, ledger) => (.error raised, { facts with job := kept, ledger := ledger })
    | (.ok false, kept, ledger) =>
      (.ok .blockedBudget, { facts with job := kept, ledger := ledger })
    | (.ok true, reserved, ledger) =>
      (.ok .redispatched,
        { job := { reserved with
            repairHistory := reserved.repairHistory ++
              [⟨JobStatus.expired.value, rid, now, "capacity_expiry_repair"⟩]
            status := .queued, defer := none }
          outbox := facts.outbox ++ [⟨job.jobId, now, "capacity_expiry_repair", rid⟩]
          repairLedger := facts.repairLedger.insert rid now, ledger := ledger })

end Repair

end BackendHandbook.Provider
