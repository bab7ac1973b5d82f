import BackendHandbook.Admission.Accounts
import BackendHandbook.Foundation.Text

/-! Quota accounting over every schedule of admissions, callbacks and settlements. -/

namespace BackendHandbook.Admission

open Interleaving Run AdmissionStore

variable {jobId : String} {command : Command}

section Runs

variable {sha256 : String → String} {uuid4 : Nat → String}
variable {opening : Dict String TenantBudget} {store : AdmissionStore}

theorem Sound.account {tenantId : String} {budget : TenantBudget}
    (sound : Sound uuid4 opening store) (found : store.budgets.lookup tenantId = some budget) :
    budget.tenantId = tenantId ∧ 0 ≤ budget.available := by
  have account := sound.accounts tenantId
  rw [found] at account
  generalize opening.lookup tenantId = start at account
  cases account with
  | some account => exact ⟨account.named, account.solvent⟩

theorem SettleStep.sound {result : Except Raised ReconcileState × AdmissionStore}
    (step : SettleStep jobId store result) (sound : Sound uuid4 opening store) :
    Sound uuid4 opening result.2 := by
  cases step with
  | kept => exact sound
  | pending _ found undecided => exact sound.pending found undecided
  | exceeded _ _ _ found funds undecided =>
    exact sound.exceeded found (sound.account funds).1 undecided
  | settled _ _ _ found funds undecided within =>
    exact sound.settled found funds undecided (sound.account funds).2 within
  | funded _ _ _ waiting recorded funds covered =>
    exact sound.funded waiting recorded funds covered

theorem ReserveStep.sound {ctx : AuthorizedTenantContext}
    {result : Except Raised AdmissionResult × AdmissionStore}
    (step : ReserveStep sha256 uuid4 ctx command store result)
    (fresh : Function.Injective uuid4) (sound : Sound uuid4 opening store) :
    Sound uuid4 opening result.2 := by
  cases step with
  | refused => exact sound
  | created _ _ absent found covered =>
    have unstored := sound.registered.absent fresh
    exact ⟨sound.registered.created fresh absent, sound.settling.created unstored,
      sound.accounts.created sound.settling unstored found covered⟩

theorem perform_sound (fresh : Function.Injective uuid4) (request : Call)
    (sound : Sound uuid4 opening store) :
    Sound uuid4 opening (perform sha256 uuid4 request store).2 := by
  cases request with
  | findByIdem => exact sound
  | reserveAndCreate ctx command failAfterReserve =>
    exact (reserveAndCreate_step sha256 uuid4 ctx command failAfterReserve store).sound fresh
      sound
  | reconcile jobId actualTokens => exact (reconcile_step jobId actualTokens store).sound sound
  | settleOverage jobId granted => exact (settleOverage_step jobId granted store).sound sound

variable (budgets : List TenantBudget) (start : AdmissionStore)

theorem setBudget_budgets : budgets.foldl setBudget start =
      { start with budgets := (budgets.foldl setBudget start).budgets } := by
  induction budgets generalizing start with
  | nil => rfl
  | cons budget _ ih =>
    have rest := ih (start.setBudget budget)
    simp only [List.foldl_cons]
    rw [rest]
    rfl

theorem setBudget_lookup (tenantId : String) (budget : TenantBudget)
    (found : (budgets.foldl setBudget start).budgets.lookup tenantId =
      some budget) : start.budgets.lookup tenantId = some budget ∨
      (budget ∈ budgets ∧ budget.tenantId = tenantId) := by
  induction budgets generalizing start with
  | nil => exact .inl found
  | cons first _ ih =>
    rcases ih (start.setBudget first) found with before | ⟨member, named⟩
    · simp only [setBudget, Dict.lookup_insert_eq] at before
      by_cases same : tenantId = first.tenantId
      · rw [if_pos same] at before
        cases before
        exact .inr ⟨List.mem_cons_self, same.symm⟩
      · rw [if_neg same] at before
        exact .inl before
    · exact .inr ⟨List.mem_cons_of_mem _ member, named⟩

theorem sound_ofBudgets (uuid4 : Nat → String) (budgets : List TenantBudget)
    (solvent : ∀ budget ∈ budgets, 0 ≤ budget.available) :
    Sound uuid4 (ofBudgets budgets).budgets (ofBudgets budgets) := by
  have shape : ofBudgets budgets =
      { budgets := (ofBudgets budgets).budgets } := setBudget_budgets budgets {}
  have stored : ∀ tenantId budget, (ofBudgets budgets).budgets.lookup tenantId = some budget →
      budget ∈ budgets ∧ budget.tenantId = tenantId := by
    intro tenantId budget found
    rcases setBudget_lookup budgets {} tenantId budget found with before | listed
    · simp at before
    · exact listed
  generalize (ofBudgets budgets).budgets = table at shape stored
  rw [shape]
  constructor
  · constructor <;> simp
  · constructor <;> simp
  · intro tenantId
    cases found : table.lookup tenantId with
    | none => exact .none
    | some budget =>
      rcases stored tenantId budget found with ⟨member, named⟩
      refine .some ⟨named, ?_, ?_, ?_, solvent budget member⟩
      · simp [openReservations]
      · simp [settledActuals]
      · simp [appliedCredits]

variable {budgets : List TenantBudget}

theorem final_sound (fresh : Function.Injective uuid4)
    (solvent : ∀ budget ∈ budgets, 0 ≤ budget.available) (calls : List Call) :
    Sound uuid4 (ofBudgets budgets).budgets
      (final (perform sha256 uuid4) (ofBudgets budgets) calls) :=
  invariant_final (perform sha256 uuid4) _ (fun _ => True)
    (fun _ request _ sound => perform_sound fresh request sound) _ calls (fun _ _ => trivial)
    (sound_ofBudgets uuid4 budgets solvent)

end Runs

section Admissions

def admits (tenantId key : String) : (request : Call) → Except Raised request.Answer → Bool
  | .reserveAndCreate ctx command _, .ok result =>
    decide (result.outcome = .created ∧ ctx.tenantId = tenantId ∧ command.idempotencyKey = key)
  | _, _ => false

/-- The key names one stored job, with its reservation and its one outbox intent. -/
structure AdmittedOnce (tenantId key : String) (store : AdmissionStore) (job : Job) : Prop where
  stored : store.jobs.lookup job.jobId = some job
  owned : job.tenantId = tenantId ∧ job.idempotencyKey = key
  only : ∀ jobId other, store.jobs.lookup jobId = some other → other.tenantId = tenantId →
    other.idempotencyKey = key → jobId = job.jobId
  reserved : (store.reservations.lookup job.jobId).isSome = true
  announced : store.outbox.countP (fun intent => intent.jobId = job.jobId) = 1

/-- The admission enters the whole of what the job may use, and announces the job. -/
structure InitialReservation (before after : AdmissionStore) (job : Job) : Prop where
  absent : before.jobs.lookup job.jobId = none
  stored : after.jobs.lookup job.jobId = some job
  reserved : after.reservations.lookup job.jobId = some job.maxTokens
  announced : ∃ intent : DispatchIntent, intent.jobId = job.jobId ∧
    after.outbox = before.outbox ++ [intent]

variable {sha256 : String → String} {uuid4 : Nat → String} {store : AdmissionStore}
variable {tenantId key : String}

theorem SettleStep.byIdem {result : Except Raised ReconcileState × AdmissionStore}
    (step : SettleStep jobId store result) : result.2.byIdem = store.byIdem := by
  cases step <;> rfl

theorem ReserveStep.byIdem {ctx : AuthorizedTenantContext}
    {result : Except Raised AdmissionResult × AdmissionStore}
    (step : ReserveStep sha256 uuid4 ctx command store result) (failAfterReserve : Bool) :
    (result.2.byIdem.lookup (tenantId, key)).isSome.toNat =
      (store.byIdem.lookup (tenantId, key)).isSome.toNat +
        if admits tenantId key (.reserveAndCreate ctx command failAfterReserve) result.1 then 1
        else 0 := by
  cases step with
  | refused answer uncreated =>
    cases answer with
    | error => simp [admits]
    | ok result =>
      have other := uncreated result rfl
      simp [admits, other]
  | created _ _ absent =>
    simp only [commitAdmission, Dict.lookup_insert_eq, admits, true_and, decide_eq_true_eq]
    by_cases own : (tenantId, key) = (ctx.tenantId, command.idempotencyKey)
    · rw [own, absent]
      cases own
      simp
    · have other : ¬ (ctx.tenantId = tenantId ∧ command.idempotencyKey = key) := by
        intro equal
        exact own (by rw [equal.1, equal.2])
      rw [if_neg own, if_neg other, add_zero]

theorem perform_byIdem (request : Call) :
    ((perform sha256 uuid4 request store).2.byIdem.lookup (tenantId, key)).isSome.toNat =
      (store.byIdem.lookup (tenantId, key)).isSome.toNat +
        if admits tenantId key request (perform sha256 uuid4 request store).1 then 1 else 0 := by
  cases request with
  | findByIdem => simp [perform, admits]
  | reconcile jobId actualTokens =>
    have same := (reconcile_step jobId actualTokens store).byIdem
    simp only [perform, same, admits]
    simp
  | settleOverage jobId granted =>
    have same := (settleOverage_step jobId granted store).byIdem
    simp only [perform, same, admits]
    simp
  | reserveAndCreate ctx command failAfterReserve =>
    exact (reserveAndCreate_step sha256 uuid4 ctx command failAfterReserve store).byIdem
      failAfterReserve

theorem admission_reserves (registered : Registered uuid4 store)
    (fresh : Function.Injective uuid4) (request : Call)
    (admitted : admits tenantId key request (perform sha256 uuid4 request store).1 = true) :
    ∃ job, InitialReservation store (perform sha256 uuid4 request store).2 job ∧
      job.tenantId = tenantId ∧ job.idempotencyKey = key := by
  cases request with
  | findByIdem | reconcile | settleOverage => cases admitted
  | reserveAndCreate ctx command failAfterReserve =>
    have step := reserveAndCreate_step sha256 uuid4 ctx command failAfterReserve store
    simp only [perform] at admitted ⊢
    generalize store.reserveAndCreate sha256 uuid4 ctx command failAfterReserve = result
      at step admitted
    cases step with
    | refused answer uncreated =>
      cases answer with
      | error => cases admitted
      | ok result =>
        have other := uncreated result rfl
        simp [admits, other] at admitted
    | created =>
      simp only [admits, true_and, decide_eq_true_eq] at admitted
      refine ⟨store.newJob sha256 uuid4 ctx command, ?_, admitted.1, admitted.2⟩
      refine ⟨registered.absent fresh, ?_, ?_, ⟨_, rfl, rfl⟩⟩
      · simp [commitAdmission]
      · simp [commitAdmission, newJob]

theorem Registered.admittedOnce (registered : Registered uuid4 store)
    (taken : store.byIdem.lookup (tenantId, key) = some jobId) :
    ∃ job, AdmittedOnce tenantId key store job := by
  rcases (registered.keyed tenantId key jobId).mp taken with ⟨job, found, owned⟩
  have named := registered.named jobId job found
  subst named
  refine ⟨job, found, owned, ?_, ?_, ?_⟩
  · intro otherId other stored tenant keyed
    have same := (registered.keyed tenantId key otherId).mpr ⟨other, stored, tenant, keyed⟩
    exact Option.some.inj (same.symm.trans taken)
  · rw [registered.reserved, found]
    rfl
  · rw [registered.announced, found]
    rfl

end Admissions

section Settlements

variable {sha256 : String → String} {uuid4 : Nat → String} {store : AdmissionStore}

def Call.jobId? : Call → Option String
  | .reconcile jobId _ => some jobId
  | .settleOverage jobId _ => some jobId
  | _ => none

def IsSettled (jobId : String) (store : AdmissionStore) : Prop :=
  store.reconcileStatus.lookup jobId = some .settled

variable {result : Except Raised ReconcileState × AdmissionStore}

theorem SettleStep.of_settled
    (step : SettleStep jobId store result) (settled : IsSettled jobId store) :
    result.2 = store := by
  cases step with
  | kept => rfl
  | pending job found undecided | exceeded job budget actual found funds undecided
  | settled job budget actual found funds undecided => exact absurd settled undecided.1
  | funded _ _ _ waiting =>
    cases settled.symm.trans waiting

theorem settled_unchanged (request : Call) (about : request.jobId? = some jobId)
    (settled : IsSettled jobId store) : (perform sha256 uuid4 request store).2 = store := by
  cases request with
  | findByIdem | reserveAndCreate => cases about
  | reconcile _ actualTokens =>
    cases about
    exact (reconcile_step jobId actualTokens store).of_settled settled
  | settleOverage _ granted =>
    cases about
    exact (settleOverage_step jobId granted store).of_settled settled

theorem SettleStep.status {other : String}
    (step : SettleStep jobId store result) (different : other ≠ jobId) :
    result.2.reconcileStatus.lookup other = store.reconcileStatus.lookup other := by
  cases step with
  | kept => rfl
  | pending | exceeded => exact AList.lookup_insert_ne different
  | settled | funded =>
    exact AList.lookup_insert_ne different

theorem settled_stays (settling : Settling store)
    (unstored : store.jobs.lookup (uuid4 store.drawn) = none) (request : Call)
    (settled : IsSettled jobId store) : IsSettled jobId (perform sha256 uuid4 request store).2 := by
  by_cases about : request.jobId? = some jobId
  · rw [settled_unchanged request about settled]
    exact settled
  cases request with
  | findByIdem => exact settled
  | reserveAndCreate ctx command failAfterReserve =>
    have step := reserveAndCreate_step sha256 uuid4 ctx command failAfterReserve store
    simp only [perform]
    generalize store.reserveAndCreate sha256 uuid4 ctx command failAfterReserve = result at step
    cases step with
    | refused => exact settled
    | created =>
      have different : jobId ≠ uuid4 store.drawn := by
        intro same
        have unknown := settling.unknown _ unstored
        rw [← same, settled] at unknown
        cases unknown
      exact (AList.lookup_insert_ne different).trans settled
  | reconcile other actualTokens =>
    have different : jobId ≠ other := fun same => about (congrArg some same.symm)
    exact ((reconcile_step other actualTokens store).status different).trans settled
  | settleOverage other granted =>
    have different : jobId ≠ other := fun same => about (congrArg some same.symm)
    exact ((settleOverage_step other granted store).status different).trans settled

end Settlements

section Refusals

variable {sha256 : String → String} {uuid4 : Nat → String} {store : AdmissionStore}
variable {budgets : List TenantBudget}

def AdmissionStore.facts (store : AdmissionStore) :
    Dict String TenantBudget × Dict String Job × List DispatchIntent :=
  (store.budgets, store.jobs, store.outbox)

/-- The answers that are neither refused nor raised, and not a replay. -/
def Finished.accepted : Finished → Prop
  | .raised _ => False
  | .admitted result => result.outcome = .created
  | .reconciled state => state = .settled

def reported : (request : Call) → Except Raised request.Answer → Option Finished
  | .findByIdem _ _, _ => none
  | .reserveAndCreate _ _ _, .ok result => some (.admitted result)
  | .reconcile _ _, .ok state => some (.reconciled state)
  | .settleOverage _ _, .ok state => some (.reconciled state)
  | _, .error raised => some (.raised raised)

theorem facts_change (request : Call)
    (changed : (perform sha256 uuid4 request store).2.facts ≠ store.facts) :
    ∃ result, reported request (perform sha256 uuid4 request store).1 = some result ∧
      result.accepted := by
  cases request with
  | findByIdem => exact absurd rfl changed
  | reserveAndCreate ctx command failAfterReserve =>
    have step := reserveAndCreate_step sha256 uuid4 ctx command failAfterReserve store
    simp only [perform] at changed ⊢
    generalize store.reserveAndCreate sha256 uuid4 ctx command failAfterReserve = result
      at step changed
    cases step with
    | refused => exact absurd rfl changed
    | created => exact ⟨_, rfl, rfl⟩
  | reconcile jobId actualTokens =>
    have step := reconcile_step jobId actualTokens store
    simp only [perform] at changed ⊢
    generalize store.reconcile jobId actualTokens = result at step changed
    cases step with
    | settled | funded => exact ⟨_, rfl, rfl⟩
    | kept | pending | exceeded => exact absurd rfl changed
  | settleOverage jobId granted =>
    have step := settleOverage_step jobId granted store
    simp only [perform] at changed ⊢
    generalize store.settleOverage jobId granted = result at step changed
    cases step with
    | settled | funded => exact ⟨_, rfl, rfl⟩
    | kept | pending | exceeded => exact absurd rfl changed

def Reports : AdmissionProgram → Prop
  | .call request next =>
    ∀ response result, reported request response = some result → next response = .done result
  | _ => True

theorem reserveAndCreate_reports (ctx : AuthorizedTenantContext) (command : Command)
    (failAfterReserve : Bool) :
    (reserveAndCreate ctx command failAfterReserve).Everywhere Reports := by
  apply await_everywhere
  · intro response result told
    cases response <;> cases told <;> rfl
  · intro result
    trivial
  · intro found
    trivial

theorem client_reports (client : Client) : client.program.Everywhere Reports := by
  cases client with
  | reserveAndCreate => exact reserveAndCreate_reports _ _ _
  | reconcile | settleOverage =>
    apply await_everywhere
    · intro response result told
      cases response <;> cases told <;> rfl
    · intro result
      trivial
    · intro found
      trivial
  | admitJob request =>
    simp only [Client.program, AdmitRequest.program]
    cases authorize request.identity request.requestedTenantId "job.create"
      request.memberships request.policy with
    | error => trivial
    | ok ctx =>
      apply await_everywhere
      · intro response result told
        cases response <;> cases told
      · intro result
        trivial
      · intro found
        cases found with
        | some => exact reserveAndCreate_reports ctx request.command false
        | none =>
          refine ⟨trivial, fun answer => ?_⟩
          cases answer with
          | unavailable | limited => trivial
          | allowed =>
            exact reserveAndCreate_reports ctx request.command request.failAfterReserve

theorem thread_reports (actions : List Action) (index : Nat) (thread : AdmissionProgram)
    (found : (poolAfter sha256 uuid4 budgets actions).threads[index]? = some thread) :
    Reports thread := by
  apply Program.Everywhere.here
  apply thread_everywhere (perform sha256 uuid4) Reports index _ _ _ thread found
  intro program listed
  have member := List.mem_of_getElem? listed
  clear found listed
  induction actions with
  | nil => cases member
  | cons action _ ih =>
    cases action with
    | resume => exact ih member
    | enter client =>
      rcases List.mem_cons.mp member with same | later
      · rw [same]
        exact client_reports client
      · exact ih later

variable (front : List Action) (action : Action)

theorem poolAfter_append : poolAfter sha256 uuid4 budgets (front ++ [action]) =
      step (perform sha256 uuid4) (poolAfter sha256 uuid4 budgets front) action.turn := by
  simp only [poolAfter, List.map_append, run_append]
  rfl

/-- A move that changes business facts ends its caller with an accepted answer. -/
theorem move_accepted (changed : (poolAfter sha256 uuid4 budgets (front ++ [action])).state.facts ≠
      (poolAfter sha256 uuid4 budgets front).state.facts) :
    ∃ index oracle result, action = .resume index oracle ∧
      (poolAfter sha256 uuid4 budgets (front ++ [action])).threads[index]? =
        some (.done result) ∧ result.accepted := by
  rw [poolAfter_append] at changed ⊢
  cases action with
  | enter => exact absurd rfl changed
  | resume index oracle =>
    refine ⟨index, oracle, ?_⟩
    simp only [Action.turn] at changed ⊢
    cases found : (poolAfter sha256 uuid4 budgets front).threads[index]? with
    | none =>
      rw [step_idle _ (by simp [found])] at changed
      exact absurd rfl changed
    | some thread =>
    cases thread with
    | done =>
      rw [step_idle _ (by simp [found])] at changed
      exact absurd rfl changed
    | ask =>
      rw [step_ask _ found] at changed
      exact absurd rfl changed
    | call request =>
      rw [step_call _ found] at changed ⊢
      rcases facts_change request changed with ⟨result, told, accepted⟩
      have ends := thread_reports front index _ found _ result told
      have inside := (List.getElem?_eq_some_iff.mp found).1
      refine ⟨result, trivial, ?_, accepted⟩
      rw [List.getElem?_set_self inside, ends]

end Refusals

variable (sha256 : String → String) (uuid4 : Nat → String) (budgets : List TenantBudget)
  (actions : List Action)

/-- Quota accounting at the end of a schedule, and over its way there. -/
structure QuotaAccounted : Prop where
  accounts : Accounts (ofBudgets budgets).budgets
    (poolAfter sha256 uuid4 budgets actions).state
  admissions : ∀ tenantId key,
    let admitted := (trace (perform sha256 uuid4) (ofBudgets budgets)
      (storeCalls sha256 uuid4 budgets actions)).countP fun e =>
        admits tenantId key e.call e.response
    let store := (poolAfter sha256 uuid4 budgets actions).state
    admitted = 0 ∧ (∀ jobId job, store.jobs.lookup jobId = some job →
        ¬ (job.tenantId = tenantId ∧ job.idempotencyKey = key)) ∨
      admitted = 1 ∧ ∃ job, AdmittedOnce tenantId key store job
  announced : ∀ intent ∈ (poolAfter sha256 uuid4 budgets actions).state.outbox,
    ∃ job, (poolAfter sha256 uuid4 budgets actions).state.jobs.lookup intent.jobId = some job
  initial : ∀ e ∈ trace (perform sha256 uuid4) (ofBudgets budgets)
    (storeCalls sha256 uuid4 budgets actions), ∀ tenantId key,
      admits tenantId key e.call e.response = true →
        ∃ job, InitialReservation e.before e.after job ∧ job.tenantId = tenantId ∧
          job.idempotencyKey = key
  settled : ∀ jobId, Permanent (perform sha256 uuid4) (IsSettled jobId)
    (ofBudgets budgets) (storeCalls sha256 uuid4 budgets actions)
  final : ∀ e ∈ trace (perform sha256 uuid4) (ofBudgets budgets)
    (storeCalls sha256 uuid4 budgets actions), ∀ jobId,
      e.call.jobId? = some jobId → IsSettled jobId e.before → e.after = e.before
  refused : ∀ front action back, actions = front ++ action :: back →
    (poolAfter sha256 uuid4 budgets (front ++ [action])).state.facts ≠
        (poolAfter sha256 uuid4 budgets front).state.facts →
      ∃ index oracle result, action = .resume index oracle ∧
        (poolAfter sha256 uuid4 budgets (front ++ [action])).threads[index]? =
          some (.done result) ∧ result.accepted

theorem admitted_counted (tenantId key : String) : (trace (perform sha256 uuid4) (ofBudgets budgets)
      (storeCalls sha256 uuid4 budgets actions)).countP
        (fun e => admits tenantId key e.call e.response) =
      ((poolAfter sha256 uuid4 budgets actions).state.byIdem.lookup
        (tenantId, key)).isSome.toNat := by
  have counted := measure_final (perform sha256 uuid4)
    (fun store => (store.byIdem.lookup (tenantId, key)).isSome.toNat)
    (fun e => admits tenantId key e.call e.response) (ofBudgets budgets)
    (storeCalls sha256 uuid4 budgets actions) (by
      intro e member
      rw [(mem_trace_performed member).1, (mem_trace_performed member).2]
      exact perform_byIdem e.call)
  have empty : (ofBudgets budgets).byIdem = ∅ := by
    rw [show ofBudgets budgets = _ from setBudget_budgets budgets {}]
  rw [← poolAfter_state] at counted
  simp only [empty, Dict.lookup_empty, Option.isSome_none, Bool.toNat_false, zero_add] at counted
  exact counted.symm

/-- Whatever is admitted, reported and funded, in any order: the tenants' accounts balance. -/
theorem quota_accounting (sha256 : String → String) (uuid4 : Nat → String)
    (fresh : Function.Injective uuid4) (budgets : List TenantBudget)
    (solvent : ∀ budget ∈ budgets, 0 ≤ budget.available) (actions : List Action) :
    QuotaAccounted sha256 uuid4 budgets actions := by
  have sound : ∀ calls, Sound uuid4 (ofBudgets budgets).budgets
      (final (perform sha256 uuid4) (ofBudgets budgets) calls) :=
    final_sound fresh solvent
  have reached := sound (storeCalls sha256 uuid4 budgets actions)
  rw [← poolAfter_state] at reached
  have before : ∀ e ∈ trace (perform sha256 uuid4) (ofBudgets budgets)
      (storeCalls sha256 uuid4 budgets actions),
      Sound uuid4 (ofBudgets budgets).budgets e.before := by
    intro e member
    rcases mem_trace_split _ _ _ e member with ⟨front, back, _, same⟩
    rw [show e.before = _ from congrArg Event.before same]
    exact sound front
  constructor
  · exact reached.accounts
  · intro tenantId key admitted store
    have same : admitted = (store.byIdem.lookup (tenantId, key)).isSome.toNat :=
      admitted_counted sha256 uuid4 budgets actions tenantId key
    cases taken : store.byIdem.lookup (tenantId, key) with
    | none =>
      rw [taken] at same
      refine .inl ⟨same, ?_⟩
      intro jobId job found owned
      have keyed := (reached.registered.keyed tenantId key jobId).mpr ⟨job, found, owned⟩
      cases taken.symm.trans keyed
    | some =>
      rw [taken] at same
      exact .inr ⟨same, reached.registered.admittedOnce taken⟩
  · intro intent member
    have announced := reached.registered.announced intent.jobId
    cases found : (poolAfter sha256 uuid4 budgets actions).state.jobs.lookup intent.jobId with
    | some job => exact ⟨job, rfl⟩
    | none =>
      rw [found] at announced
      simp only [Option.isSome_none, Bool.false_eq_true, if_false, List.countP_eq_zero]
        at announced
      exact absurd (decide_eq_true rfl) (announced intent member)
  · intro e member tenantId key admitted
    have performed := mem_trace_performed member
    rw [performed.1] at admitted
    rw [performed.2]
    exact admission_reserves (before e member).registered fresh e.call admitted
  · intro jobId
    rw [permanent_iff]
    intro e member settled
    rw [(mem_trace_performed member).2]
    have reachedBefore := before e member
    exact settled_stays reachedBefore.settling (reachedBefore.registered.absent fresh) e.call
      settled
  · intro e member jobId about settled
    rw [(mem_trace_performed member).2]
    exact settled_unchanged e.call about settled
  · intro front action back _ changed
    exact move_accepted front action changed

namespace Sample

/-- The digest of the one command that is admitted here. -/
def digest (_ : String) : String :=
  "dd74290bcc89e9631d6f7b9fb4a96e63034b0aec318e0aca04e803605a173576"

def ctx : AuthorizedTenantContext := ⟨"user-1", "tenant-a", ["job.create"]⟩

def oracle : (question : Question) → question.Reply
  | .allow _ => .allowed

def move (client : Client) (index : Nat) : List Action := [.enter client, .resume index oracle]

/-- One job of 40 tokens is admitted, uses 45, and is settled with a credit of 5. -/
def overage : List Action :=
  move (.reserveAndCreate ctx { idempotencyKey := "key-1", maxTokens := 40 } false) 0 ++
    move (.reconcile (toString 0) (some 45)) 1 ++ move (.settleOverage (toString 0) 5) 2 ++
    move (.reconcile (toString 0) (some 45)) 3

theorem quota_accounting_overage : QuotaAccounted digest toString [⟨"tenant-a", 40, 0, 0⟩] overage ∧
      (poolAfter digest toString [⟨"tenant-a", 40, 0, 0⟩] overage).state.budgets.lookup
        "tenant-a" = some ⟨"tenant-a", 45, 45, 0⟩ :=
  ⟨quota_accounting digest toString Text.toString_injective [⟨"tenant-a", 40, 0, 0⟩] (by decide)
    overage, by decide +kernel⟩

/-- A budget that starts with reservations keeps them beside those of its jobs. -/
theorem reserved_from_the_start :
    (∀ budget ∈ [(⟨"tenant-a", 100, 0, 5⟩ : TenantBudget)], 0 ≤ budget.available) ∧
      ¬ ∀ actions tenantId budget,
        (poolAfter digest toString [⟨"tenant-a", 100, 0, 5⟩] actions).state.budgets.lookup
            tenantId = some budget →
          budget.reservedTokens =
            (poolAfter digest toString [⟨"tenant-a", 100, 0, 5⟩]
              actions).state.openReservations tenantId := by
  constructor
  · decide
  · intro balanced
    let admitted := move (.reserveAndCreate ctx { idempotencyKey := "key-1", maxTokens := 40 }
      false) 0
    have found : (poolAfter digest toString [⟨"tenant-a", 100, 0, 5⟩]
        admitted).state.budgets.lookup "tenant-a" = some ⟨"tenant-a", 100, 0, 45⟩ := by
      decide +kernel
    have reserved := balanced admitted "tenant-a" _ found
    exact absurd reserved (by decide +kernel)

end Sample

end BackendHandbook.Admission
