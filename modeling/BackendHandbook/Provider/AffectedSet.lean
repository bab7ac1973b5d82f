import BackendHandbook.Foundation.Fallible
import BackendHandbook.Provider.ControlPlane

/-! The affected set of an incident: the jobs of a bad release that expired while they waited for
capacity. -/

namespace BackendHandbook.Provider

open Streaming (Instant)

section Selector

variable (releaseVersion : String) (windowStart windowEnd : Instant)

def DeferRecord.within (record : DeferRecord) : Prop :=
  windowStart ≤ record.nextAttemptAt ∧ record.nextAttemptAt ≤ windowEnd

instance (record : DeferRecord) : Decidable (record.within windowStart windowEnd) :=
  inferInstanceAs (Decidable (_ ∧ _))

def Job.affected (expiryReason : String) (job : Job) : Bool :=
  job.releaseVersion = releaseVersion ∧ job.status = .expired ∧
    job.defer.any fun record =>
      record.retryReason = expiryReason ∧ record.within windowStart windowEnd

def buildCapacityExpiryAffectedSet (jobs : List Job)
    (expiryReason : String := "defer_deadline_expired") : List String :=
  (jobs.filter (Job.affected releaseVersion windowStart windowEnd expiryReason)).map Job.jobId

variable {releaseVersion windowStart windowEnd} {jobs : List Job} {jobId expiryReason : String}

theorem affected_iff {job : Job} : job.affected releaseVersion windowStart windowEnd expiryReason ↔
      job.releaseVersion = releaseVersion ∧ job.status = .expired ∧
        ∃ record, job.defer = some record ∧ record.retryReason = expiryReason ∧
          record.within windowStart windowEnd := by
  simp only [Job.affected, decide_eq_true_eq, Option.any_eq_true]

theorem mem_affectedSet :
    jobId ∈ buildCapacityExpiryAffectedSet releaseVersion windowStart windowEnd jobs expiryReason ↔
      ∃ job ∈ jobs, job.jobId = jobId ∧ job.releaseVersion = releaseVersion ∧
        job.status = .expired ∧ ∃ record, job.defer = some record ∧
          record.retryReason = expiryReason ∧ record.within windowStart windowEnd := by
  simp only [buildCapacityExpiryAffectedSet, List.mem_map, List.mem_filter, affected_iff]
  constructor
  · rintro ⟨job, ⟨inside, facts⟩, named⟩
    exact ⟨job, inside, named, facts⟩
  · rintro ⟨job, inside, named, facts⟩
    exact ⟨job, ⟨inside, facts⟩, named⟩

end Selector

section Reasons

def deferReasons : List String :=
  ["circuit_open", "circuit_half_open_no_probe_slot", "no_rate_capacity",
    "limiter_unavailable_fail_closed", "no_cost_reservation"]

variable {job : Job} {limiter : SharedRateLimiter} {ledger : TenantBudgetLedger}
  {circuit : CircuitBreaker} {now : Instant} {emergencyFailOpen : Bool} {rand : Nat → ℚ}

/-- A decision to defer comes with a record under one of the reasons of the gates. -/
def Waits (dispatched : Dispatched) : Prop :=
  dispatched.decision.action = .defer →
    ∃ record, dispatched.job.defer = some record ∧ record.retryReason ∈ deferReasons

theorem waits_deferred {reason : String} (listed : reason ∈ deferReasons) :
    Waits (deferred job limiter circuit now rand reason) := fun _ => ⟨_, rfl, listed⟩

theorem waits_spend {permitAcquired : Bool} :
    Waits (spend job limiter ledger circuit now rand permitAcquired) := by
  unfold spend
  dsimp only
  split
  · exact waits_deferred (by decide)
  split
  · exact nofun
  split
  · exact waits_deferred (by decide)
  · exact nofun

theorem waits_permit : Waits (permit job limiter ledger circuit now emergencyFailOpen rand) := by
  unfold permit
  split
  · split
    · exact waits_deferred (by decide)
    · exact waits_spend
  split
  · exact waits_spend
  · exact waits_deferred (by decide)

theorem waits_evaluateDispatch :
    Waits (evaluateDispatch job limiter ledger circuit now emergencyFailOpen rand) := by
  unfold evaluateDispatch
  dsimp only
  split
  · exact nofun
  split
  · exact nofun
  split
  · exact nofun
  split
  · exact nofun
  split
  · exact waits_deferred (by decide)
  split
  · exact waits_deferred (by decide)
  · exact waits_permit

end Reasons

/-- The record that a decision to defer the job has left. -/
def DeferredAs (jobId : String) (record : DeferRecord) : Prop :=
  ∃ job limiter ledger circuit now emergencyFailOpen rand, job.jobId = jobId ∧
    (evaluateDispatch job limiter ledger circuit now emergencyFailOpen rand).decision.action =
      .defer ∧
    (evaluateDispatch job limiter ledger circuit now emergencyFailOpen rand).job.defer = some record

/-- Whatever happened in between: the defer record of the job is one that a dispatch decision
left, and the deadline has expired the job without a sign of an execution. -/
structure CapacityExpired (job : Job) (record : DeferRecord) : Prop where
  defer : job.defer = some record
  deferred : DeferredAs job.jobId record
  expired : ∃ held ledger decision credited, held.evidence = false ∧
    processDeadline held ledger = (.ok decision, job, credited) ∧ decision.action = .terminal

theorem CapacityExpired.reason {job : Job} {record : DeferRecord}
    (expired : CapacityExpired job record) : record.retryReason ≠ "defer_deadline_expired" := by
  obtain ⟨_, _, _, _, _, _, _, _, waits, held⟩ := expired.deferred
  obtain ⟨_, same, listed⟩ := waits_evaluateDispatch waits
  rw [held] at same
  cases same
  intro reason
  rw [reason] at listed
  exact absurd listed (by decide)

namespace Sample

def waiting : Job where
  jobId := "job-1"
  tenantId := "tenant-a"
  contract := ⟨"provider", "account", "model", "region", 1000, 5, 0, 0⟩
  status := .running
  deadline := 100

def record : DeferRecord := ⟨"limiter_unavailable_fail_closed", 100, 1, 100⟩

def waited : Job :=
  { waiting with status := .deferred, deferCount := 1, defer := some record }

theorem waited_expired : CapacityExpired { waited with status := .expired } record where
  defer := rfl
  deferred := ⟨waiting, ⟨1, 0, false⟩, ⟨∅, ∅⟩, {}, 0, false, fun _ => 1, rfl, rfl, by
    decide +kernel⟩
  expired := ⟨waited, ⟨AList.insert "tenant-a" 10 ∅, ∅⟩, _, _, rfl, rfl, rfl⟩

end Sample

end BackendHandbook.Provider
