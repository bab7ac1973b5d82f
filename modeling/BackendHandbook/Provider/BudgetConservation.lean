import BackendHandbook.Provider.Books
import Mathlib.Tactic.Linarith

/-! Conservation of the tenants' money, and what settles a job once. -/

namespace BackendHandbook.Provider

open Run Dict TenantBudgetLedger

section Conservation

def Job.settlement (job : Job) : Option ℚ × Option ℚ × CostState :=
  (job.settledCost, job.costOverage, job.costState)

def Job.Repeats (job : Job) (actualCost : ℚ) : Prop :=
  job.settlement = if 0 < actualCost then (some 0, some actualCost, .reconciliationPending)
    else (some 0, none, .settled)

/-- The operations that a job in this state does not bear: a second settlement or a release
of what is settled, and a release of a negative reservation that the balance does not cover. -/
def LedgerOperation.Harmful (job : Job) (ledger : TenantBudgetLedger) : LedgerOperation → Prop
  | .reserveWorstCase => False
  | .settleActual actualCost => job.settledCost.isSome ∧ ¬ job.Repeats actualCost
  | .releaseReservation => (ledger.available.lookup job.tenantId).isSome ∧
      (job.settledCost.isSome ∧ job.costState ≠ .none ∨
        0 ≤ held ledger.available job.tenantId ∧
          held ledger.available job.tenantId + held ledger.reserved job.jobId < 0)
  | .holdForReconciliation => False

instance (job : Job) (actualCost : ℚ) : Decidable (job.Repeats actualCost) :=
  inferInstanceAs (Decidable (_ = _))

instance (job : Job) (ledger : TenantBudgetLedger) :
    (operation : LedgerOperation) → Decidable (operation.Harmful job ledger)
  | .reserveWorstCase => inferInstanceAs (Decidable False)
  | .settleActual _ => inferInstanceAs (Decidable (_ ∧ _))
  | .releaseReservation => inferInstanceAs (Decidable (_ ∧ _))
  | .holdForReconciliation => inferInstanceAs (Decidable False)

def LedgerOperation.NonNegative : LedgerOperation → Prop
  | .settleActual actualCost => 0 ≤ actualCost
  | _ => True

instance : (operation : LedgerOperation) → Decidable operation.NonNegative
  | .settleActual _ => inferInstanceAs (Decidable (_ ≤ _))
  | .reserveWorstCase => inferInstanceAs (Decidable True)
  | .releaseReservation => inferInstanceAs (Decidable True)
  | .holdForReconciliation => inferInstanceAs (Decidable True)

def LedgerOperation.closes : LedgerOperation → Bool
  | .settleActual _ => true
  | .releaseReservation => true
  | _ => false

variable {job : Job} {ledger : TenantBudgetLedger}

theorem Supported.unreserved (supported : Supported job ledger)
    (settled : job.settledCost.isSome) : ledger.reserved.lookup job.jobId = none := by
  cases found : ledger.reserved.lookup job.jobId with
  | none => rfl
  | some =>
    have unsettled := (supported (by rw [found]; rfl)).1
    rw [unsettled] at settled
    cases settled

theorem Supported.unknown (supported : Supported job ledger)
    (unknown : (ledger.available.lookup job.tenantId).isSome = false) :
    held ledger.reserved job.jobId = 0 := by
  apply held_of_absent
  cases found : ledger.reserved.lookup job.jobId with
  | none => rfl
  | some =>
    have known := (supported (by rw [found]; rfl)).2
    rw [unknown] at known
    cases known

theorem settle_again {actualCost : ℚ} (supported : Supported job ledger)
    (settled : job.settledCost.isSome) (nonNegative : 0 ≤ actualCost) :
    (ledger.settleActual job actualCost).2.2 = ledger.pop job.jobId ∧
      (ledger.settleActual job actualCost).2.1.settlement =
        if 0 < actualCost then (some 0, some actualCost, .reconciliationPending)
        else (some 0, none, .settled) := by
  have nothing : held ledger.reserved job.jobId = 0 := held_of_absent (supported.unreserved settled)
  have step := settleActual_step ledger job actualCost
  generalize ledger.settleActual job actualCost = result at step
  cases step with
  | raised unknown unused | credited credited unused =>
    rw [nothing] at unused
    exact absurd nonNegative (not_le.mpr unused)
  | exceeded overrun =>
    rw [nothing] at overrun
    rw [if_pos overrun]
    simp [Job.settlement, nothing]
  | exhausted used =>
    rw [nothing] at used
    rw [if_neg (by rw [← used]; exact lt_irrefl 0)]
    simp [Job.settlement, ← used]

variable (operation : LedgerOperation)

/-- What the tenant has in the job stays, unless the operation is one it does not bear. -/
theorem apply_conserves (supported : Supported job ledger)
    (nonNegative : operation.NonNegative) (harmless : ¬ operation.Harmful job ledger) :
    holdings (operation.apply job ledger).2.1 (operation.apply job ledger).2.2 =
      holdings job ledger := by
  cases operation with
  | reserveWorstCase =>
    have step := reserveWorstCase_step ledger job
    simp only [LedgerOperation.apply]
    generalize ledger.reserveWorstCase job = result at step
    cases step with
    | kept => rfl
    | reserved _ absent _ charge =>
      simp only [holdings, held_insert, if_true, charge.here, held_of_absent absent]
      ring
  | settleActual actualCost =>
    simp only [LedgerOperation.apply]
    by_cases settled : job.settledCost.isSome = true
    · have repeats : job.Repeats actualCost := not_not.mp fun other => harmless ⟨settled, other⟩
      have again := settle_again supported settled nonNegative
      have popped : (ledger.settleActual job actualCost).2.2.reserved.lookup job.jobId = none := by
        rw [again.1]
        exact AList.lookup_erase _ _
      have rebooked := apply_rebooked (.settleActual actualCost) supported fun _ => popped
      have cost := congrArg Prod.fst (again.2.trans repeats.symm)
      have nothing : held ledger.reserved job.jobId = 0 :=
        held_of_absent (supported.unreserved settled)
      simp only [LedgerOperation.apply, Job.settlement] at rebooked cost
      simp [holdings, rebooked.jobId, rebooked.tenantId, again.1, cost, pop, held_erase, nothing]
    · have unsettled : job.settledCost = none := by
        simpa using settled
      have step := settleActual_step ledger job actualCost
      generalize ledger.settleActual job actualCost = result at step
      cases step with
      | raised unknown unused =>
        rw [supported.unknown unknown] at unused
        exact absurd nonNegative (not_le.mpr unused)
      | exceeded =>
        simp only [holdings, pop, held_erase, if_true, unsettled,
          Option.getD_some, Option.getD_none]
        ring
      | exhausted used =>
        simp only [holdings, pop, held_erase, if_true, unsettled,
          Option.getD_some, Option.getD_none, used]
        ring
      | credited _ _ credit =>
        simp only [holdings, held_erase, if_true, unsettled, Option.getD_some,
          Option.getD_none, credit.here]
        ring
  | releaseReservation =>
    have step := releaseReservation_step ledger job
    simp only [LedgerOperation.apply]
    generalize ledger.releaseReservation job = result at step
    cases step with
    | raised unknown =>
      simp [holdings, pop, held_erase, supported.unknown unknown]
    | released _ credit =>
      simp only [holdings, held_erase, if_true, credit.here]
      ring
  | holdForReconciliation => rfl

/-- A balance that is not negative is not made so by an operation that the job bears. -/
theorem apply_solvent (harmless : ¬ operation.Harmful job ledger)
    (solvent : 0 ≤ held ledger.available job.tenantId) :
    0 ≤ held (operation.apply job ledger).2.2.available job.tenantId := by
  cases operation with
  | reserveWorstCase =>
    have step := reserveWorstCase_step ledger job
    simp only [LedgerOperation.apply]
    generalize ledger.reserveWorstCase job = result at step
    cases step with
    | kept => exact solvent
    | reserved _ _ _ charge =>
      rw [charge.here]
      linarith
  | settleActual actualCost =>
    have step := settleActual_step ledger job actualCost
    simp only [LedgerOperation.apply]
    generalize ledger.settleActual job actualCost = result at step
    cases step with
    | raised | exceeded | exhausted => exact solvent
    | credited _ _ credit =>
      rw [credit.here]
      linarith
  | releaseReservation =>
    have step := releaseReservation_step ledger job
    simp only [LedgerOperation.apply]
    generalize ledger.releaseReservation job = result at step
    cases step with
    | raised => exact solvent
    | released _ credit =>
      rw [credit.here]
      by_contra negative
      exact harmless ⟨credit.known, .inr ⟨solvent, not_le.mp negative⟩⟩
  | holdForReconciliation => exact solvent

theorem apply_settled (supported : Supported job ledger)
    (nonNegative : operation.NonNegative) (closes : operation.closes = true)
    (settled : job.settledCost.isSome) (harmless : ¬ operation.Harmful job ledger) :
    (operation.apply job ledger).2.1.settlement = job.settlement ∧
      (∀ who, held (operation.apply job ledger).2.2.available who = held ledger.available who) ∧
      ∀ other, (operation.apply job ledger).2.2.reserved.lookup other =
        ledger.reserved.lookup other := by
  have unreserved := supported.unreserved settled
  have erased : ∀ other, (ledger.reserved.erase job.jobId).lookup other =
      ledger.reserved.lookup other := by
    intro other
    by_cases same : other = job.jobId
    · rw [same, unreserved, AList.lookup_erase]
    · exact AList.lookup_erase_ne same
  cases operation with
  | reserveWorstCase | holdForReconciliation => cases closes
  | settleActual actualCost =>
    have repeats : job.Repeats actualCost := not_not.mp fun other => harmless ⟨settled, other⟩
    have again := settle_again supported settled nonNegative
    simp only [LedgerOperation.apply, again.1]
    exact ⟨again.2.trans repeats.symm, fun _ => rfl, erased⟩
  | releaseReservation =>
    have step := releaseReservation_step ledger job
    simp only [LedgerOperation.apply]
    generalize ledger.releaseReservation job = result at step
    cases step with
    | raised => exact ⟨rfl, fun _ => rfl, erased⟩
    | released _ credit =>
      have uncosted : job.costState = .none :=
        not_not.mp fun other => harmless ⟨credit.known, .inl ⟨settled, other⟩⟩
      refine ⟨by simp [Job.settlement, uncosted], ?_, erased⟩
      intro who
      rw [credit.moved, held_of_absent unreserved, ite_self, add_zero]

/-- An operation that its job does not bear: it rewrites a settlement, or overdraws. -/
theorem harmful_breaks (supported : Supported job ledger)
    (nonNegative : operation.NonNegative) (harmful : operation.Harmful job ledger) :
    operation.closes = true ∧ (job.settledCost.isSome ∧
        (operation.apply job ledger).2.1.settlement ≠ job.settlement ∨
      0 ≤ held ledger.available job.tenantId ∧
        held (operation.apply job ledger).2.2.available job.tenantId < 0) := by
  cases operation with
  | reserveWorstCase | holdForReconciliation => exact harmful.elim
  | settleActual =>
    rcases harmful with ⟨settled, differs⟩
    have again := settle_again supported settled nonNegative
    refine ⟨rfl, .inl ⟨settled, ?_⟩⟩
    intro same
    exact differs (same.symm.trans again.2)
  | releaseReservation =>
    rcases harmful with ⟨known, broken⟩
    have step := releaseReservation_step ledger job
    simp only [LedgerOperation.apply]
    generalize ledger.releaseReservation job = result at step
    cases step with
    | raised unknown =>
      rw [known] at unknown
      cases unknown
    | released _ credit =>
      refine ⟨rfl, ?_⟩
      rcases broken with ⟨settled, costed⟩ | ⟨solvent, overdrawn⟩
      · refine .inl ⟨settled, ?_⟩
        intro same
        exact costed (congrArg (fun settlement => settlement.2.2) same).symm
      · refine .inr ⟨solvent, ?_⟩
        rw [credit.here]
        exact overdrawn

end Conservation

/-! The tenants' money over every sequence of ledger operations. -/

section Runs

namespace Books

def opening (balances : Dict String ℚ) (jobs : JobTable) : Books :=
  ⟨jobs, { available := balances }⟩

/-- Every reservation is of a stored job that is not settled, of a tenant with a balance. -/
def Sound (books : Books) : Prop :=
  ∀ jobId, (books.ledger.reserved.lookup jobId).isSome → ∃ job,
    books.jobs.lookup jobId = some job ∧ job.settledCost = none ∧
      (books.ledger.available.lookup job.tenantId).isSome

def Harmful (call : LedgerCall) (books : Books) : Prop :=
  ∃ job, books.jobs.lookup call.jobId = some job ∧ call.operation.Harmful job books.ledger

instance (call : LedgerCall) (books : Books) : Decidable (books.Harmful call) :=
  inferInstanceAs (Decidable (∃ job ∈ books.jobs.lookup call.jobId,
    call.operation.Harmful job books.ledger))

/-- A settled job keeps its settlement, and no balance and no reservation moves. -/
structure Untouched (jobId : String) (before after : Books) : Prop where
  settlement : (after.jobs.lookup jobId).map Job.settlement =
    (before.jobs.lookup jobId).map Job.settlement
  balances : ∀ tenantId, held after.ledger.available tenantId =
    held before.ledger.available tenantId
  reservations : ∀ other, after.ledger.reserved.lookup other = before.ledger.reserved.lookup other

end Books

variable (books : Books) (calls : List LedgerCall)

/-- Actual costs are not negative, and what is settled is not reserved again. -/
structure Admissible : Prop where
  nonNegative : ∀ call ∈ calls, call.operation.NonNegative
  unreserved : ∀ e ∈ trace Books.perform books calls, e.before.settled e.call.jobId = true →
    e.after.ledger.reserved.lookup e.call.jobId = none

/-- The money of each tenant over a run, and the settlement of each job. -/
structure BudgetKept : Prop where
  conserved : ∀ e ∈ trace Books.perform books calls, ∀ tenantId,
    e.after.worth tenantId = books.worth tenantId
  solvent : ∀ e ∈ trace Books.perform books calls, ∀ tenantId,
    0 ≤ held e.before.ledger.available tenantId → 0 ≤ held e.after.ledger.available tenantId
  settledOnce : ∀ e ∈ trace Books.perform books calls, e.call.operation.closes = true →
    e.before.settled e.call.jobId = true → Books.Untouched e.call.jobId e.before e.after

variable {books : Books} {call : LedgerCall} {job : Job}

theorem perform_none (absent : books.jobs.lookup call.jobId = none) :
    (books.perform call).2 = books := by
  simp [Books.perform, absent]

theorem perform_some (found : books.jobs.lookup call.jobId = some job) :
    (books.perform call).2 = books.write (call.operation.apply job books.ledger).2.1
      (call.operation.apply job books.ledger).2.2 := by
  simp [Books.perform, found]

theorem settled_some (found : books.jobs.lookup call.jobId = some job) :
    books.settled call.jobId = job.settledCost.isSome := by
  simp [Books.settled, found]

theorem Books.Sound.supported (sound : books.Sound)
    (found : books.jobs.lookup call.jobId = some job) : Supported job books.ledger := by
  have named := books.jobs.named call.jobId job found
  intro present
  rw [named] at present
  rcases sound call.jobId present with ⟨_, same, unsettled, known⟩
  rw [found] at same
  cases same
  exact ⟨unsettled, known⟩

theorem Books.Sound.rebooked (sound : books.Sound) (found : books.jobs.lookup call.jobId = some job)
    (unreserved : books.settled call.jobId = true →
      (books.perform call).2.ledger.reserved.lookup call.jobId = none) :
    Rebooked job books.ledger (call.operation.apply job books.ledger).2.1
      (call.operation.apply job books.ledger).2.2 := by
  rw [settled_some found, perform_some found] at unreserved
  apply apply_rebooked call.operation (sound.supported found)
  intro settled
  rw [books.jobs.named call.jobId job found]
  exact unreserved settled

section

variable (sound : books.Sound)
  (unreserved : books.settled call.jobId = true → (books.perform call).2.ledger.reserved.lookup
    call.jobId = none)
include sound unreserved

theorem perform_sound : (books.perform call).2.Sound := by
  cases found : books.jobs.lookup call.jobId with
  | none =>
    rw [perform_none found]
    exact sound
  | some job =>
    have rebooked := sound.rebooked found unreserved
    rw [perform_some found]
    intro jobId present
    simp only [Books.write, JobTable.lookup_write, rebooked.jobId] at present ⊢
    by_cases same : jobId = job.jobId
    · rw [same, ← rebooked.jobId] at present
      rw [if_pos same]
      exact ⟨_, rfl, rebooked.supported present⟩
    · rw [rebooked.reservations jobId same] at present
      rcases sound jobId present with ⟨stored, listed, unsettled, known⟩
      rw [if_neg same]
      exact ⟨stored, listed, unsettled, (rebooked.known _).trans known⟩

theorem perform_kept (nonNegative : call.operation.NonNegative) (harmless : ¬ books.Harmful call) :
    (∀ who, (books.perform call).2.worth who = books.worth who) ∧
      (∀ who, 0 ≤ held books.ledger.available who →
        0 ≤ held (books.perform call).2.ledger.available who) ∧
      (call.operation.closes = true → books.settled call.jobId = true →
        Books.Untouched call.jobId books (books.perform call).2) := by
  cases found : books.jobs.lookup call.jobId with
  | none =>
    rw [perform_none found]
    exact ⟨fun _ => rfl, fun _ solvent => solvent, fun _ _ => ⟨rfl, fun _ => rfl, fun _ => rfl⟩⟩
  | some job =>
    have rebooked := sound.rebooked found unreserved
    have named := books.jobs.named call.jobId job found
    have supported := sound.supported found
    have bears : ¬ call.operation.Harmful job books.ledger :=
      fun harmful => harmless ⟨job, found, harmful⟩
    rw [perform_some found]
    refine ⟨?_, ?_, ?_⟩
    · intro who
      have same := apply_conserves call.operation supported nonNegative bears
      rw [rebooked.worth_write (named.symm ▸ found), same, sub_self, ite_self, add_zero]
    · intro who solvent
      by_cases own : who = job.tenantId
      · rw [own] at solvent ⊢
        exact apply_solvent call.operation bears solvent
      · simp only [Books.write]
        rw [rebooked.balances who own]
        exact solvent
    · intro closes settled
      rw [settled_some found] at settled
      rcases apply_settled call.operation supported nonNegative closes settled bears with
        ⟨settlement, balances, reservations⟩
      refine ⟨?_, balances, reservations⟩
      simp only [Books.write]
      rw [JobTable.lookup_write, rebooked.jobId, named, if_pos rfl, found, Option.map_some,
        Option.map_some, settlement]

theorem harmful_shows (nonNegative : call.operation.NonNegative) (harmful : books.Harmful call)
    (solvent : ∀ who, 0 ≤ held books.ledger.available who →
      0 ≤ held (books.perform call).2.ledger.available who) :
    call.operation.closes = true ∧ books.settled call.jobId = true ∧
      ¬ Books.Untouched call.jobId books (books.perform call).2 := by
  rcases harmful with ⟨job, found, harmful⟩
  have rebooked := sound.rebooked found unreserved
  have named := books.jobs.named call.jobId job found
  rcases harmful_breaks call.operation (sound.supported found) nonNegative harmful with
    ⟨closes, ⟨settled, differs⟩ | ⟨before, after⟩⟩
  · rw [settled_some found, perform_some found]
    refine ⟨closes, settled, ?_⟩
    intro untouched
    have settlement := untouched.settlement
    simp only [Books.write] at settlement
    rw [JobTable.lookup_write, rebooked.jobId, named, if_pos rfl, found] at settlement
    exact differs (Option.some.inj settlement)
  · have kept := solvent job.tenantId before
    rw [perform_some found] at kept
    exact absurd after (not_lt.mpr kept)

end

variable (balances : Dict String ℚ) (jobs : JobTable)

theorem opening_sound : (Books.opening balances jobs).Sound := by
  intro jobId present
  cases present

/-- Money is conserved and settlements are final exactly where no job is settled twice to
another effect or released after its settlement, and no release overdraws. -/
theorem provider_budget (calls : List LedgerCall)
    (admissible : Admissible (Books.opening balances jobs) calls) :
    BudgetKept (Books.opening balances jobs) calls ↔
      ∀ e ∈ trace Books.perform (Books.opening balances jobs) calls, ¬ e.before.Harmful e.call := by
  have nonNegative : ∀ e ∈ trace Books.perform (Books.opening balances jobs) calls,
      e.call.operation.NonNegative :=
    fun e member => admissible.nonNegative _ (mem_of_mem_trace _ _ _ e member)
  have sound : ∀ e ∈ trace Books.perform (Books.opening balances jobs) calls, e.before.Sound := by
    intro e member
    refine (kept_trace Books.perform Books.Sound _ calls ?_
      (opening_sound balances jobs) e member).1
    intro e member sound
    have unreserved := admissible.unreserved e member
    rw [(mem_trace_performed member).2] at unreserved ⊢
    exact perform_sound sound unreserved
  constructor
  · intro kept e member harmful
    have unreserved := admissible.unreserved e member
    have solvent := kept.solvent e member
    have once := kept.settledOnce e member
    rw [(mem_trace_performed member).2] at unreserved solvent once
    rcases harmful_shows (sound e member) unreserved (nonNegative e member) harmful solvent with
      ⟨closes, settled, touched⟩
    exact touched (once closes settled)
  · intro harmless
    have step : ∀ e ∈ trace Books.perform (Books.opening balances jobs) calls,
        (∀ who, e.after.worth who = e.before.worth who) ∧
          (∀ who, 0 ≤ held e.before.ledger.available who → 0 ≤ held e.after.ledger.available who) ∧
          (e.call.operation.closes = true → e.before.settled e.call.jobId = true →
            Books.Untouched e.call.jobId e.before e.after) := by
      intro e member
      have unreserved := admissible.unreserved e member
      rw [(mem_trace_performed member).2] at unreserved ⊢
      exact perform_kept (sound e member) unreserved (nonNegative e member) (harmless e member)
    constructor
    · intro e member tenantId
      refine (kept_trace Books.perform (fun books => books.worth tenantId =
        (Books.opening balances jobs).worth tenantId) _ calls ?_ rfl e member).2
      intro e member same
      rw [(step e member).1, same]
    · intro e member
      exact (step e member).2.1
    · intro e member
      exact (step e member).2.2

end Runs

namespace Sample

def job : Job where
  jobId := "job-1"
  tenantId := "tenant-a"
  contract := ⟨"provider", "account", "model", "region", 1000, 5, 0, 0⟩
  status := .running
  deadline := 100

def books : Books := .opening (AList.insert "tenant-a" 10 ∅) (JobTable.empty.write job)

def settle (actualCost : ℚ) : List LedgerCall :=
  [⟨"job-1", .reserveWorstCase⟩, ⟨"job-1", .settleActual actualCost⟩]

theorem provider_budget_settled : BudgetKept books (settle 3) ∧
      held (final Books.perform books (settle 3)).ledger.available "tenant-a" = 7 :=
  ⟨(provider_budget _ _ (settle 3) ⟨by decide +kernel, by decide +kernel⟩).mpr
    (by decide +kernel), by decide +kernel⟩

/-- The settlement is delivered twice: the second one writes that the job has cost nothing. -/
theorem settled_twice : Admissible books (settle 3 ++ [⟨"job-1", .settleActual 3⟩]) ∧
      ¬ BudgetKept books (settle 3 ++ [⟨"job-1", .settleActual 3⟩]) := by
  constructor
  · exact ⟨by decide +kernel, by decide +kernel⟩
  · intro kept
    have conserved := kept.conserved _
      (event_mem_trace Books.perform books (settle 3) [] ⟨"job-1", .settleActual 3⟩) "tenant-a"
    exact absurd conserved (by decide +kernel)

end Sample

end BackendHandbook.Provider
