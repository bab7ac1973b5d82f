import BackendHandbook.Admission.Programs

/-! The quota accounts of the tenants, and what each write of the store leaves of them. -/

namespace BackendHandbook.Admission

open Dict

section Accounts

namespace AdmissionStore

variable (store : AdmissionStore) (tenantId : String)

def openReservations : Int := owned store.jobs Job.tenantId (held store.reservations) tenantId

def settledActuals : Int := owned store.jobs Job.tenantId (held store.settledActual) tenantId

def appliedCredits : Int := owned store.jobs Job.tenantId (held store.overageCredits) tenantId

end AdmissionStore

/-- A budget against the one that the tenant started with. -/
structure TenantAccount (tenantId : String) (store : AdmissionStore)
    (opening budget : TenantBudget) : Prop where
  named : budget.tenantId = tenantId
  reserved : budget.reservedTokens = opening.reservedTokens + store.openReservations tenantId
  used : budget.usedTokens = opening.usedTokens + store.settledActuals tenantId
  limit : budget.tokenLimit = opening.tokenLimit + store.appliedCredits tenantId
  solvent : 0 ≤ budget.available

def Accounts (opening : Dict String TenantBudget) (store : AdmissionStore) : Prop :=
  ∀ tenantId, Option.Rel (TenantAccount tenantId store) (opening.lookup tenantId)
    (store.budgets.lookup tenantId)

variable {opening : Dict String TenantBudget} {store later : AdmissionStore}

theorem Accounts.change {tenantId : String} {budget changed : TenantBudget}
    (accounts : Accounts opening store) (found : store.budgets.lookup tenantId = some budget)
    (written : later.budgets = store.budgets.insert tenantId changed)
    (named : changed.tenantId = budget.tenantId)
    (reserved : ∀ who, later.openReservations who = store.openReservations who +
      if tenantId = who then changed.reservedTokens - budget.reservedTokens else 0)
    (used : ∀ who, later.settledActuals who = store.settledActuals who +
      if tenantId = who then changed.usedTokens - budget.usedTokens else 0)
    (limit : ∀ who, later.appliedCredits who = store.appliedCredits who +
      if tenantId = who then changed.tokenLimit - budget.tokenLimit else 0)
    (solvent : 0 ≤ changed.available) : Accounts opening later := by
  intro who
  have account := accounts who
  have reservedNow := reserved who
  have usedNow := used who
  have limitNow := limit who
  rw [written, lookup_insert_eq]
  by_cases same : who = tenantId
  · subst same
    rw [if_pos rfl] at reservedNow usedNow limitNow
    rw [if_pos rfl]
    rw [found] at account
    generalize opening.lookup who = start at account
    cases account with
    | some account =>
      have reservedBefore := account.reserved
      have usedBefore := account.used
      have limitBefore := account.limit
      exact .some ⟨named.trans account.named, by omega, by omega, by omega, solvent⟩
  · have other : ¬ tenantId = who := fun equal => same equal.symm
    rw [if_neg other, add_zero] at reservedNow usedNow limitNow
    rw [if_neg same]
    generalize opening.lookup who = start at account
    generalize store.budgets.lookup who = stored at account
    cases account with
    | none => exact .none
    | some account =>
      exact .some ⟨account.named, by rw [reservedNow]; exact account.reserved,
        by rw [usedNow]; exact account.used, by rw [limitNow]; exact account.limit,
        account.solvent⟩

theorem Accounts.same (accounts : Accounts opening store) (budgets : later.budgets = store.budgets)
    (jobs : later.jobs = store.jobs) (reservations : later.reservations = store.reservations)
    (actuals : later.settledActual = store.settledActual)
    (credits : later.overageCredits = store.overageCredits) : Accounts opening later := by
  have kept : ∀ who start stored, TenantAccount who store start stored →
      TenantAccount who later start stored := by
    intro who start stored account
    have reserved := account.reserved
    have used := account.used
    have limit := account.limit
    refine ⟨account.named, ?_, ?_, ?_, account.solvent⟩
    · simp [AdmissionStore.openReservations, jobs, reservations, reserved]
    · simp [AdmissionStore.settledActuals, jobs, actuals, used]
    · simp [AdmissionStore.appliedCredits, jobs, credits, limit]
  intro who
  have account := accounts who
  rw [budgets]
  generalize opening.lookup who = start at account
  generalize store.budgets.lookup who = stored at account
  cases account with
  | none => exact .none
  | some account => exact .some (kept who _ _ account)

end Accounts

section Invariants

/-- What the store knows of the jobs it has admitted. -/
structure Registered (uuid4 : Nat → String) (store : AdmissionStore) : Prop where
  named : ∀ jobId job, store.jobs.lookup jobId = some job → job.jobId = jobId
  drawn : ∀ jobId job, store.jobs.lookup jobId = some job → ∃ n, n < store.drawn ∧ jobId = uuid4 n
  keyed : ∀ tenantId key jobId, store.byIdem.lookup (tenantId, key) = some jobId ↔
    ∃ job, store.jobs.lookup jobId = some job ∧ job.tenantId = tenantId ∧ job.idempotencyKey = key
  announced : ∀ jobId, store.outbox.countP (fun intent => intent.jobId = jobId) =
    if (store.jobs.lookup jobId).isSome then 1 else 0
  reserved : ∀ jobId, (store.reservations.lookup jobId).isSome = (store.jobs.lookup jobId).isSome

structure Settling (store : AdmissionStore) : Prop where
  unknown : ∀ jobId, store.jobs.lookup jobId = none → store.reconcileStatus.lookup jobId = none
  unsettled : ∀ jobId, store.reconcileStatus.lookup jobId ≠ some .settled →
    store.settledActual.lookup jobId = none ∧ store.overageCredits.lookup jobId = none
  waiting : ∀ jobId, store.reconcileStatus.lookup jobId = some .overageReconciliationRequired →
    ∃ job overage, store.jobs.lookup jobId = some job ∧
      store.overages.lookup jobId = some overage ∧ overage.tenantId = job.tenantId ∧
      overage.reservedTokens = held store.reservations jobId

structure Sound (uuid4 : Nat → String) (opening : Dict String TenantBudget)
    (store : AdmissionStore) : Prop where
  registered : Registered uuid4 store
  settling : Settling store
  accounts : Accounts opening store

variable {sha256 : String → String} {uuid4 : Nat → String}
variable {opening : Dict String TenantBudget} {store : AdmissionStore}

theorem Registered.absent (registered : Registered uuid4 store)
    (fresh : Function.Injective uuid4) : store.jobs.lookup (uuid4 store.drawn) = none := by
  cases found : store.jobs.lookup (uuid4 store.drawn) with
  | none => rfl
  | some job =>
    rcases registered.drawn _ job found with ⟨n, _, same⟩
    have equal := fresh same
    omega

section Created

variable {ctx : AuthorizedTenantContext} {command : Command} {budget : TenantBudget}

open AdmissionStore in
theorem Registered.created (registered : Registered uuid4 store) (fresh : Function.Injective uuid4)
    (absent : store.byIdem.lookup (ctx.tenantId, command.idempotencyKey) = none) :
    Registered uuid4 (store.commitAdmission sha256 uuid4 ctx command budget) := by
  have unstored := registered.absent fresh
  constructor
  · exact Dict.forall_insert rfl registered.named
  · refine Dict.forall_insert ⟨store.drawn, Nat.lt_add_of_pos_right Nat.two_pos, rfl⟩
      fun jobId job found => ?_
    rcases registered.drawn jobId job found with ⟨n, before, equal⟩
    exact ⟨n, Nat.lt_add_right _ before, equal⟩
  · intro tenantId key jobId
    have before := registered.keyed tenantId key jobId
    simp only [commitAdmission, newJob, lookup_insert_eq]
    by_cases same : jobId = uuid4 store.drawn
    · rw [same] at before ⊢
      rw [if_pos rfl]
      by_cases own : (tenantId, key) = (ctx.tenantId, command.idempotencyKey)
      · cases own
        simp
      · rw [if_neg own, before, unstored]
        simp only [Prod.mk.injEq, not_and] at own
        simp only [Option.some.injEq, exists_eq_left', reduceCtorEq, false_and, exists_false,
          false_iff, not_and]
        intro tenant keyed
        exact own tenant.symm keyed.symm
    · rw [if_neg same]
      by_cases own : (tenantId, key) = (ctx.tenantId, command.idempotencyKey)
      · rw [if_pos own]
        rw [own, absent] at before
        simp only [reduceCtorEq, false_iff] at before
        simp only [Option.some.injEq, before, iff_false]
        exact fun equal => same equal.symm
      · rw [if_neg own]
        exact before
  · intro jobId
    have before := registered.announced jobId
    simp only [commitAdmission, newJob, lookup_insert_eq]
    by_cases same : jobId = uuid4 store.drawn
    · rw [same, unstored] at before
      simp [same, before]
    · have other : ¬ uuid4 store.drawn = jobId := fun equal => same equal.symm
      simp [same, other, before]
  · intro jobId
    have before := registered.reserved jobId
    simp only [commitAdmission, newJob, lookup_insert_eq]
    by_cases same : jobId = uuid4 store.drawn
    · simp [same]
    · simp [same, before]

open AdmissionStore in
theorem Settling.created (settling : Settling store)
    (unstored : store.jobs.lookup (uuid4 store.drawn) = none) :
    Settling (store.commitAdmission sha256 uuid4 ctx command budget) := by
  have unknown := settling.unknown _ unstored
  constructor
  · intro jobId missing
    simp only [commitAdmission, newJob, lookup_insert_eq]
      at missing ⊢
    by_cases same : jobId = uuid4 store.drawn
    · simp [same] at missing
    · rw [if_neg same] at missing ⊢
      exact settling.unknown jobId missing
  · intro jobId unsettled
    apply settling.unsettled jobId
    simp only [commitAdmission, newJob, lookup_insert_eq]
      at unsettled
    by_cases same : jobId = uuid4 store.drawn
    · rw [same, unknown]
      simp
    · rw [if_neg same] at unsettled
      exact unsettled
  · intro jobId waiting
    simp only [commitAdmission, newJob, lookup_insert_eq]
      at waiting ⊢
    by_cases same : jobId = uuid4 store.drawn
    · simp [same] at waiting
    · rw [if_neg same] at waiting
      rw [held_insert, if_neg same, if_neg same]
      exact settling.waiting jobId waiting

open AdmissionStore in
theorem Accounts.created (accounts : Accounts opening store) (settling : Settling store)
    (unstored : store.jobs.lookup (uuid4 store.drawn) = none)
    (found : store.budgets.lookup ctx.tenantId = some budget)
    (covered : command.maxTokens ≤ budget.available) :
    Accounts opening (store.commitAdmission sha256 uuid4 ctx command budget) := by
  have unsettled := settling.unsettled (uuid4 store.drawn)
    (by rw [settling.unknown _ unstored]; simp)
  have written : (store.commitAdmission sha256 uuid4 ctx command budget).budgets =
      store.budgets.insert ctx.tenantId
        { budget with reservedTokens := budget.reservedTokens + command.maxTokens } := rfl
  apply accounts.change found written rfl
  · intro who
    simp [openReservations, commitAdmission, newJob, owned_enter unstored]
  · intro who
    simp [settledActuals, commitAdmission, newJob, owned_insert_of_absent unstored,
      held_of_absent unsettled.1]
  · intro who
    simp [appliedCredits, commitAdmission, newJob, owned_insert_of_absent unstored,
      held_of_absent unsettled.2]
  · simp only [TenantBudget.available] at covered ⊢
    omega

end Created

section Settled

variable {jobId : String} {job : Job} {later : AdmissionStore}

/-- Nothing that the settlement knows of a job is written. -/
structure SameRecords (jobId : String) (store later : AdmissionStore) : Prop where
  status : later.reconcileStatus.lookup jobId = store.reconcileStatus.lookup jobId
  actual : later.settledActual.lookup jobId = store.settledActual.lookup jobId
  credit : later.overageCredits.lookup jobId = store.overageCredits.lookup jobId
  overage : later.overages.lookup jobId = store.overages.lookup jobId
  reservation : later.reservations.lookup jobId = store.reservations.lookup jobId

theorem Settling.write (later : AdmissionStore) (settling : Settling store)
    (found : store.jobs.lookup jobId = some job) (jobs : later.jobs = store.jobs)
    (others : ∀ other, other ≠ jobId → SameRecords other store later)
    (unsettled : later.reconcileStatus.lookup jobId ≠ some .settled →
      later.settledActual.lookup jobId = none ∧ later.overageCredits.lookup jobId = none)
    (waiting : later.reconcileStatus.lookup jobId = some .overageReconciliationRequired →
      ∃ overage, later.overages.lookup jobId = some overage ∧ overage.tenantId = job.tenantId ∧
        overage.reservedTokens = held later.reservations jobId) : Settling later := by
  constructor
  · intro other missing
    rw [jobs] at missing
    have different : other ≠ jobId := (ne_of_absent missing found).symm
    rw [(others other different).status]
    exact settling.unknown other missing
  · intro other unsettledOther
    by_cases same : other = jobId
    · subst same
      exact unsettled unsettledOther
    · have records := others other same
      rw [records.status] at unsettledOther
      rw [records.actual, records.credit]
      exact settling.unsettled other unsettledOther
  · intro other waits
    rw [jobs]
    by_cases same : other = jobId
    · subst same
      rcases waiting waits with ⟨overage, recorded, named, reserved⟩
      exact ⟨job, overage, found, recorded, named, reserved⟩
    · have records := others other same
      rw [records.status] at waits
      simp only [held, records.overage, records.reservation]
      exact settling.waiting other waits

theorem Registered.write (registered : Registered uuid4 store)
    (jobs : later.jobs = store.jobs) (byIdem : later.byIdem = store.byIdem)
    (outbox : later.outbox = store.outbox) (drawn : later.drawn = store.drawn)
    (reservations : ∀ other, (later.reservations.lookup other).isSome =
      (store.reservations.lookup other).isSome) : Registered uuid4 later := by
  constructor
  · rw [jobs]
    exact registered.named
  · rw [jobs, drawn]
    exact registered.drawn
  · rw [jobs, byIdem]
    exact registered.keyed
  · rw [jobs, outbox]
    exact registered.announced
  · intro other
    rw [jobs, reservations other]
    exact registered.reserved other

theorem Registered.released (registered : Registered uuid4 store)
    (found : store.jobs.lookup jobId = some job) (other : String) :
    ((store.reservations.insert jobId 0).lookup other).isSome =
      (store.reservations.lookup other).isSome := by
  rw [lookup_insert_eq]
  by_cases same : other = jobId
  · have stored := registered.reserved jobId
    rw [found] at stored
    rw [if_pos same, same, stored]
    rfl
  · rw [if_neg same]

theorem Sound.pending (sound : Sound uuid4 opening store)
    (found : store.jobs.lookup jobId = some job) (undecided : Undecided jobId store) :
    Sound uuid4 opening (store.setStatus jobId .reconciliationPending) := by
  refine ⟨sound.registered.write rfl rfl rfl rfl (fun _ => rfl), ?_,
    sound.accounts.same rfl rfl rfl rfl rfl⟩
  refine sound.settling.write _ found rfl ?_ ?_ ?_
  · intro other different
    refine ⟨?_, rfl, rfl, rfl, rfl⟩
    simp [AdmissionStore.setStatus, lookup_insert_eq, if_neg different]
  · intro _
    exact sound.settling.unsettled jobId undecided.1
  · intro waits
    simp [AdmissionStore.setStatus] at waits

variable {budget : TenantBudget} {actual : Int}

open AdmissionStore in
theorem Sound.exceeded (sound : Sound uuid4 opening store)
    (found : store.jobs.lookup jobId = some job) (named : budget.tenantId = job.tenantId)
    (undecided : Undecided jobId store) :
    Sound uuid4 opening ((store.observe jobId actual).requireOverage jobId budget actual) := by
  refine ⟨sound.registered.write rfl rfl rfl rfl (fun _ => rfl), ?_,
    sound.accounts.same rfl rfl rfl rfl rfl⟩
  refine sound.settling.write _ found rfl ?_ ?_ ?_
  · intro other different
    refine ⟨?_, rfl, rfl, ?_, rfl⟩
    · simp [requireOverage, setStatus, observe, lookup_insert_eq, if_neg different]
    · simp [requireOverage, observe, lookup_insert_eq, if_neg different]
  · intro _
    exact sound.settling.unsettled jobId undecided.1
  · intro _
    simp only [requireOverage, setStatus,
      lookup_insert_eq, if_true, Option.some.injEq, exists_eq_left']
    exact ⟨named, trivial⟩

theorem Settling.settled (later : AdmissionStore) (settling : Settling store)
    (found : store.jobs.lookup jobId = some job) (jobs : later.jobs = store.jobs)
    (status : later.reconcileStatus = store.reconcileStatus.insert jobId .settled)
    (others : ∀ other, other ≠ jobId →
      later.settledActual.lookup other = store.settledActual.lookup other ∧
      later.overageCredits.lookup other = store.overageCredits.lookup other ∧
      later.reservations.lookup other = store.reservations.lookup other)
    (overages : later.overages = store.overages) : Settling later := by
  have settled : later.reconcileStatus.lookup jobId = some .settled := by
    rw [status, lookup_insert_eq, if_pos rfl]
  apply settling.write later found jobs
  · intro other different
    rcases others other different with ⟨actual, credit, reservation⟩
    refine ⟨?_, actual, credit, by rw [overages], reservation⟩
    rw [status, lookup_insert_eq, if_neg different]
  · intro unsettled
    exact absurd settled unsettled
  · intro waits
    rw [settled] at waits
    cases waits

open AdmissionStore in
theorem Sound.settled (sound : Sound uuid4 opening store)
    (found : store.jobs.lookup jobId = some job)
    (funds : store.budgets.lookup job.tenantId = some budget)
    (undecided : Undecided jobId store) (solvent : 0 ≤ budget.available)
    (within : actual ≤ held store.reservations jobId) : Sound uuid4 opening
      ((store.observe jobId actual).settle jobId job.tenantId budget actual) := by
  have unsettled := sound.settling.unsettled jobId undecided.1
  constructor
  · exact sound.registered.write rfl rfl rfl rfl (sound.registered.released found)
  · refine sound.settling.settled _ found rfl rfl ?_ rfl
    intro other different
    simp [settle, setStatus, observe, lookup_insert_eq, if_neg different]
  · have written : ((store.observe jobId actual).settle jobId job.tenantId budget actual).budgets =
        store.budgets.insert job.tenantId
          { budget with
            reservedTokens := budget.reservedTokens - held store.reservations jobId
            usedTokens := budget.usedTokens + actual } := rfl
    apply sound.accounts.change funds written rfl
    · intro who
      simp only [openReservations, settle, setStatus, observe, owned_write found]
      congr 2
      omega
    · intro who
      simp only [settledActuals, settle, setStatus, observe, owned_write found,
        held_of_absent unsettled.1]
      congr 2
      omega
    · intro who
      simp [appliedCredits, settle, setStatus, observe]
    · simp only [TenantBudget.available] at solvent ⊢
      omega

open AdmissionStore in
theorem Sound.funded {overage : OverageRecord} {granted : Int} (sound : Sound uuid4 opening store)
    (waiting : store.reconcileStatus.lookup jobId = some .overageReconciliationRequired)
    (recorded : store.overages.lookup jobId = some overage)
    (funds : store.budgets.lookup overage.tenantId = some budget)
    (covered : 0 ≤ prospectiveAvailable budget overage granted) :
    Sound uuid4 opening (store.fund jobId budget overage granted) := by
  rcases sound.settling.waiting jobId waiting with
    ⟨_, other, found, stored, named, reserved⟩
  cases recorded.symm.trans stored
  have unsettled := sound.settling.unsettled jobId (by rw [waiting]; simp)
  constructor
  · exact sound.registered.write rfl rfl rfl rfl (sound.registered.released found)
  · refine sound.settling.settled _ found rfl rfl ?_ rfl
    intro other different
    simp [fund, lookup_insert_eq, if_neg different]
  · have written : (store.fund jobId budget overage granted).budgets =
        store.budgets.insert overage.tenantId
          { budget with
            tokenLimit := budget.tokenLimit + granted
            reservedTokens := budget.reservedTokens - overage.reservedTokens
            usedTokens := budget.usedTokens + overage.observedActualTokens } := rfl
    apply sound.accounts.change funds written rfl
    · intro who
      simp only [openReservations, fund, setStatus, owned_write found, named]
      congr 2
      omega
    · intro who
      simp only [settledActuals, fund, setStatus,
        owned_write found, held_of_absent unsettled.1, named]
      congr 2
      omega
    · intro who
      simp only [appliedCredits, fund, setStatus,
        owned_write found, held_of_absent unsettled.2, named]
      congr 2
      omega
    · simp only [TenantBudget.available, prospectiveAvailable] at covered ⊢
      omega

end Settled

end Invariants

end BackendHandbook.Admission
