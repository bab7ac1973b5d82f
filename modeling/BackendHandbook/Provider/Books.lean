import BackendHandbook.Provider.Ledger
import Mathlib.Tactic.Ring

/-! The jobs beside the ledger, and what a tenant has in them. -/

namespace BackendHandbook.Provider

open Dict

structure Books where
  jobs : JobTable
  ledger : TenantBudgetLedger

inductive LedgerOperation
  | reserveWorstCase
  | settleActual (actualCost : ℚ)
  | releaseReservation | holdForReconciliation

def LedgerOperation.Answer : LedgerOperation → Type
  | .reserveWorstCase => Bool
  | .settleActual _ => SettleOutcome
  | .releaseReservation => Unit
  | .holdForReconciliation => Unit

def LedgerOperation.apply (job : Job) (ledger : TenantBudgetLedger) :
    (operation : LedgerOperation) → Except Raised operation.Answer × Job × TenantBudgetLedger
  | .reserveWorstCase => ledger.reserveWorstCase job
  | .settleActual actualCost => ledger.settleActual job actualCost
  | .releaseReservation => ledger.releaseReservation job
  | .holdForReconciliation => ledger.holdForReconciliation job

structure LedgerCall where
  jobId : String
  operation : LedgerOperation

namespace Books

def write (books : Books) (job : Job) (ledger : TenantBudgetLedger) : Books :=
  ⟨books.jobs.write job, ledger⟩

def perform (call : LedgerCall) (books : Books) :
    Option (Except Raised call.operation.Answer) × Books :=
  match books.jobs.lookup call.jobId with
  | none => (none, books)
  | some job =>
    let result := call.operation.apply job books.ledger
    (some result.1, books.write result.2.1 result.2.2)

variable (books : Books)

def openReservations (tenantId : String) : ℚ :=
  owned books.jobs.entries Job.tenantId (held books.ledger.reserved) tenantId

def settledCost (jobId : String) : ℚ := ((books.jobs.lookup jobId).bind Job.settledCost).getD 0

def settledCosts (tenantId : String) : ℚ :=
  owned books.jobs.entries Job.tenantId books.settledCost tenantId

def worth (tenantId : String) : ℚ :=
  held books.ledger.available tenantId + books.openReservations tenantId +
    books.settledCosts tenantId

def settled (jobId : String) : Bool :=
  (books.jobs.lookup jobId).any fun job => job.settledCost.isSome

end Books

section Operations

variable (job : Job) (ledger : TenantBudgetLedger)

def holdings : ℚ :=
  held ledger.available job.tenantId + held ledger.reserved job.jobId + job.settledCost.getD 0

def Supported : Prop :=
  (ledger.reserved.lookup job.jobId).isSome →
    job.settledCost = none ∧ (ledger.available.lookup job.tenantId).isSome

/-- An operation writes one job, its reservation, and the balance of its tenant. -/
structure Rebooked (written : Job)
    (later : TenantBudgetLedger) : Prop where
  jobId : written.jobId = job.jobId
  tenantId : written.tenantId = job.tenantId
  known : ∀ who, (later.available.lookup who).isSome = (ledger.available.lookup who).isSome
  balances : ∀ who, who ≠ job.tenantId → held later.available who = held ledger.available who
  reservations : ∀ other, other ≠ job.jobId →
    later.reserved.lookup other = ledger.reserved.lookup other
  supported : Supported written later

variable {ledger later : TenantBudgetLedger} {job written : Job}
variable {tenantId : String} {amount : ℚ} {before after : Dict String ℚ}

theorem Credited.elsewhere (credited : Credited tenantId amount before after) (who : String)
    (other : who ≠ tenantId) : held after who = held before who := by
  rw [credited.moved, if_neg (Ne.symm other), add_zero]

theorem Credited.here (credited : Credited tenantId amount before after) :
    held after tenantId = held before tenantId + amount := by
  rw [credited.moved, if_pos rfl]

theorem popped_rebooked (jobId : written.jobId = job.jobId)
    (tenantId : written.tenantId = job.tenantId)
    (known : ∀ who, (after.lookup who).isSome = (ledger.available.lookup who).isSome)
    (balances : ∀ who, who ≠ job.tenantId → held after who = held ledger.available who) :
    Rebooked job ledger written ⟨after, ledger.reserved.erase job.jobId⟩ := by
  refine ⟨jobId, tenantId, known, balances, ?_, ?_⟩
  · intro other different
    exact AList.lookup_erase_ne different
  · intro present
    rw [jobId, AList.lookup_erase] at present
    cases present

/-- Every operation but a reservation of a settled job keeps the reservations supported. -/
theorem apply_rebooked (operation : LedgerOperation) (supported : Supported job ledger)
    (unreserved : job.settledCost.isSome →
      (operation.apply job ledger).2.2.reserved.lookup job.jobId = none) :
    Rebooked job ledger (operation.apply job ledger).2.1 (operation.apply job ledger).2.2 := by
  cases operation with
  | reserveWorstCase =>
    have step := reserveWorstCase_step ledger job
    simp only [LedgerOperation.apply] at unreserved ⊢
    generalize ledger.reserveWorstCase job = result at step unreserved
    cases step with
    | kept =>
      exact ⟨rfl, rfl, fun _ => rfl, fun _ _ => rfl, fun _ _ => rfl, supported⟩
    | reserved _ _ _ charge =>
      have unsettled : job.settledCost = none := by
        rw [← Option.not_isSome_iff_eq_none]
        intro settled
        have none := unreserved settled
        rw [AList.lookup_insert] at none
        cases none
      refine ⟨rfl, rfl, charge.same, charge.elsewhere, ?_, ?_⟩
      · intro other different
        exact AList.lookup_insert_ne different
      · intro _
        exact ⟨unsettled, (charge.same _).trans charge.known⟩
  | settleActual actualCost =>
    have step := settleActual_step ledger job actualCost
    simp only [LedgerOperation.apply]
    generalize ledger.settleActual job actualCost = result at step
    cases step with
    | raised =>
      exact popped_rebooked rfl rfl (fun _ => rfl) (fun _ _ => rfl)
    | exceeded | exhausted => exact popped_rebooked rfl rfl (fun _ => rfl) (fun _ _ => rfl)
    | credited _ _ credit =>
      exact popped_rebooked rfl rfl credit.same credit.elsewhere
  | releaseReservation =>
    have step := releaseReservation_step ledger job
    simp only [LedgerOperation.apply]
    generalize ledger.releaseReservation job = result at step
    cases step with
    | raised => exact popped_rebooked rfl rfl (fun _ => rfl) (fun _ _ => rfl)
    | released _ credit =>
      exact popped_rebooked rfl rfl credit.same credit.elsewhere
  | holdForReconciliation =>
    exact ⟨rfl, rfl, fun _ => rfl, fun _ _ => rfl, fun _ _ => rfl, supported⟩

open Books in
theorem Rebooked.worth_write {books : Books} (rebooked : Rebooked job books.ledger written later)
    (found : books.jobs.lookup job.jobId = some job) (who : String) :
    (books.write written later).worth who = books.worth who +
      if job.tenantId = who then holdings written later - holdings job books.ledger else 0 := by
  have found' : books.jobs.lookup written.jobId = some job := by
    rw [rebooked.jobId, found]
  have reservations : (books.write written later).openReservations who =
      books.openReservations who + if job.tenantId = who then
        held later.reserved job.jobId - held books.ledger.reserved job.jobId
      else 0 := by
    simp only [openReservations, write, JobTable.write]
    rw [owned_insert_of_present found' rebooked.tenantId]
    apply owned_change found
    intro other different
    rw [held, held, rebooked.reservations other different]
  have costs : (books.write written later).settledCosts who =
      books.settledCosts who + if job.tenantId = who then
        written.settledCost.getD 0 - job.settledCost.getD 0 else 0 := by
    have here : (books.write written later).settledCost job.jobId = written.settledCost.getD 0 := by
      simp [settledCost, write, JobTable.lookup_write, rebooked.jobId]
    have start : books.settledCost job.jobId = job.settledCost.getD 0 := by
      simp [settledCost, found]
    simp only [settledCosts]
    rw [show (books.write written later).jobs.entries =
      books.jobs.entries.insert written.jobId written from rfl,
      owned_insert_of_present found' rebooked.tenantId, ← here, ← start]
    apply owned_change found
    intro other different
    have elsewhere : other ≠ written.jobId := by
      rw [rebooked.jobId]
      exact different
    simp [settledCost, write, JobTable.lookup_write, if_neg elsewhere]
  rw [worth, worth, reservations, costs, holdings, holdings, rebooked.jobId, rebooked.tenantId]
  by_cases own : job.tenantId = who
  · subst own
    simp only [if_true, write]
    ring
  · have balance := rebooked.balances who (Ne.symm own)
    simp only [if_neg own, write, balance]
    ring

end Operations

end BackendHandbook.Provider
