import BackendHandbook.Browser.Lease
import BackendHandbook.Foundation.Run

/-! Mutual exclusion by the lease of a task, over every order of claims, renewals, fence
checks, deliveries and outside changes of the task and its session. -/

namespace BackendHandbook.Browser

open Run List

/-- A task with its session, and the tokens that its lease has carried so far. -/
structure Task where
  state : TaskState
  session : SessionMeta
  tokens : List String

def Task.start (state : TaskState) (session : SessionMeta) : Task :=
  { state, session, tokens := session.leaseToken.toList }

inductive Action
  | claim (attemptId token : String) (expiresAt : Int)
  | renew (attemptId workerToken : String) (newExpiresAt : Int)
  | publish (workerToken : String) (claimedVersion : Int) (attemptId : String) (timedOut : Bool)
  | deliver (leaseExpired : Bool)
  | change (state : TaskState) (status : String) (expiresAt version : Int)
  deriving DecidableEq

structure Call where
  now : Int
  action : Action
  deriving DecidableEq

def Answer (call : Call) : Type :=
  match call.action with
  | .claim .. => ClaimDecision
  | .renew .. => RenewDecision
  | .publish .. => Bool
  | .deliver .. => DeliveryDecision
  | .change .. => Unit

namespace Task

variable (task : Task)

def claimRequest (now : Int) (attemptId : String) : ClaimRequest :=
  { taskState := task.state, leaseOwner := task.session.leaseOwner
    leaseExpiresAt := task.session.leaseExpiresAt, now, attemptId }

def renewRequest (now : Int) (attemptId workerToken : String)
    (newExpiresAt : Int) : RenewLeaseRequest :=
  { taskState := task.state, leaseOwner := task.session.leaseOwner
    leaseToken := task.session.leaseToken, leaseExpiresAt := task.session.leaseExpiresAt, now
    attemptId, workerToken, newExpiresAt }

/-- What the `UPDATE` of a granted claim writes. -/
def granted (attemptId token : String) (expiresAt : Int) : Task :=
  { state := .running
    session :=
      { task.session with
        leaseOwner := some attemptId, leaseToken := some token, leaseExpiresAt := some expiresAt }
    tokens := token :: task.tokens }

def extended (expiresAt : Int) : Task :=
  { task with session := { task.session with leaseExpiresAt := some expiresAt } }

end Task

def perform : (call : Call) → Task → Answer call × Task
  | ⟨now, .claim attemptId token expiresAt⟩, task =>
    let decision := guardedClaim (task.claimRequest now attemptId)
    (decision, if decision = .claimed then task.granted attemptId token expiresAt else task)
  | ⟨now, .renew attemptId workerToken newExpiresAt⟩, task =>
    let request := task.renewRequest now attemptId workerToken newExpiresAt
    (renewLease request, ((renewedExpiry request).map task.extended).getD task)
  | ⟨now, .publish workerToken claimedVersion attemptId timedOut⟩, task =>
    (terminalPublishAllowed
      { session := task.session, workerToken, claimedVersion, attemptId, now, timedOut }, task)
  | ⟨_, .deliver leaseExpired⟩, task => (onDelivery task.state leaseExpired, task)
  | ⟨_, .change state status expiresAt version⟩, task =>
    ((), { task with state, session := { task.session with status, expiresAt, version } })

abbrev LeaseEvent := Event Task Call Answer

structure Grant where
  (attemptId token : String)
  expiresAt : Int
  deriving DecidableEq

def grantOf : LeaseEvent → Option Grant
  | ⟨_, ⟨_, .claim attemptId token expiresAt⟩, ClaimDecision.claimed, _⟩ =>
    some ⟨attemptId, token, expiresAt⟩
  | _ => none

def renews : LeaseEvent → Bool
  | ⟨_, ⟨_, .renew ..⟩, RenewDecision.renewed, _⟩ => true
  | _ => false

/-- A granted claim brings a token never used before and an expiry after its own time. -/
def Fresh (e : LeaseEvent) : Prop :=
  ∀ grant ∈ grantOf e, grant.token ∉ e.before.tokens ∧ e.call.now < grant.expiresAt
  deriving Decidable

def Clocked (calls : List Call) : Prop := (calls.map Call.now).Pairwise (· ≤ ·)
  deriving Decidable

/-- The attempt with its token passes the fence at the time, at some version it may claim. -/
def Passes (task : Task) (now : Int) (attemptId token : String) : Prop :=
  ∃ claimedVersion timedOut, terminalPublishAllowed
    { session := task.session, workerToken := token, claimedVersion, attemptId, now, timedOut } =
      true

def Holds (task : Task) (attemptId token : String) : Prop :=
  task.session.leaseOwner = some attemptId ∧ task.session.leaseToken = some token

def Lapsed (task : Task) (now : Int) : Prop := task.session.leaseExpiresAt.all (· ≤ now) = true

variable {task : Task} {now : Int} {attemptId token : String}

theorem Passes.holds (passes : Passes task now attemptId token) : Holds task attemptId token := by
  rcases passes with ⟨_, _, allowed⟩
  rcases (allowed_iff _).mp allowed with ⟨_, _, _, owner, held, _⟩
  exact ⟨owner, held⟩

theorem Passes.not_lapsed (passes : Passes task now attemptId token) : ¬ Lapsed task now := by
  rcases passes with ⟨_, _, allowed⟩
  rcases (allowed_iff _).mp allowed with ⟨_, _, _, _, _, _, _, stored, live⟩
  rw [Lapsed, stored, Option.all_some, decide_eq_true_eq]
  exact not_le.mpr live

theorem perform_cases (call : Call) (task : Task) :
    (∃ grant, grantOf (event perform task call) = some grant ∧
        guardedClaim (task.claimRequest call.now grant.attemptId) = .claimed ∧
        (perform call task).2 = task.granted grant.attemptId grant.token grant.expiresAt) ∨
      (∃ attemptId workerToken newExpiresAt, renews (event perform task call) = true ∧
        renewLease (task.renewRequest call.now attemptId workerToken newExpiresAt) = .renewed ∧
        (perform call task).2 = task.extended newExpiresAt) ∨
      (grantOf (event perform task call) = none ∧ renews (event perform task call) = false ∧
        (perform call task).2.tokens = task.tokens ∧
        (perform call task).2.session.leaseOwner = task.session.leaseOwner ∧
        (perform call task).2.session.leaseToken = task.session.leaseToken ∧
        (perform call task).2.session.leaseExpiresAt = task.session.leaseExpiresAt) := by
  rcases call with ⟨now, action⟩
  cases action with
  | claim attemptId token expiresAt =>
    cases decided : guardedClaim (task.claimRequest now attemptId) with
    | claimed =>
      refine .inl ⟨⟨attemptId, token, expiresAt⟩, ?_, decided, ?_⟩
      · simp [grantOf, event, perform, decided]
      · simp [perform, decided]
    | deniedTerminal | deniedNotClaimable | deniedLeaseActive =>
      refine .inr (.inr ⟨?_, rfl, ?_⟩)
      · simp [grantOf, event, perform, decided]
      · simp [perform, decided]
  | renew attemptId workerToken newExpiresAt =>
    cases decided : renewLease (task.renewRequest now attemptId workerToken newExpiresAt) with
    | renewed =>
      refine .inr (.inl ⟨attemptId, workerToken, newExpiresAt, ?_, decided, ?_⟩)
      · simp [renews, event, perform, decided]
      · simp only [perform, renewedExpiry, decided]
        rfl
    | deniedNotRunning | deniedOwnerMismatch | deniedTokenMismatch | deniedLeaseExpired
    | deniedNotExtending =>
      refine .inr (.inr ⟨rfl, ?_, ?_⟩)
      · simp [renews, event, perform, decided]
      · simp [perform, renewedExpiry, decided]
  | publish =>
    exact .inr (.inr ⟨rfl, rfl, rfl, rfl, rfl, rfl⟩)
  | deliver | change => exact .inr (.inr ⟨rfl, rfl, rfl, rfl, rfl, rfl⟩)

def Carried (task : Task) : Prop := ∀ token, task.session.leaseToken = some token →
  token ∈ task.tokens

theorem start_carried (state : TaskState) (session : SessionMeta) :
    Carried (Task.start state session) := by
  intro token held
  exact Option.mem_toList.mpr held

theorem perform_carried (call : Call) (task : Task) (carried : Carried task) :
    Carried (perform call task).2 := by
  intro token held
  rcases perform_cases call task with ⟨_, _, _, after⟩ | ⟨_, _, _, _, _, after⟩ |
    ⟨_, _, tokens, _, kept, _⟩
  · rw [after] at held ⊢
    exact mem_cons.mpr (.inl (Option.some.inj held).symm)
  · rw [after] at held ⊢
    exact carried token held
  · rw [tokens]
    exact carried token (kept ▸ held)

theorem perform_tokens (call : Call) (task : Task) (used : token ∈ task.tokens) :
    token ∈ (perform call task).2.tokens := by
  rcases perform_cases call task with ⟨_, _, _, after⟩ | ⟨_, _, _, _, _, after⟩ |
    ⟨_, _, tokens, _⟩
  · rw [after]
    exact mem_cons_of_mem _ used
  · rw [after]
    exact used
  · rw [tokens]
    exact used

def Retired (token : String) (task : Task) : Prop :=
  token ∈ task.tokens ∧ task.session.leaseToken ≠ some token

theorem Retired.not_passes (retired : Retired token task)
    (now : Int) (attemptId : String) : ¬ Passes task now attemptId token :=
  fun passes => retired.2 passes.holds.2

def Expired (token : String) (time : Int) (task : Task) : Prop :=
  token ∈ task.tokens ∧ (task.session.leaseToken = some token → Lapsed task time)

theorem Lapsed.later {early late : Int} (lapsed : Lapsed task early)
    (order : early ≤ late) : Lapsed task late := by
  unfold Lapsed at lapsed ⊢
  cases stored : task.session.leaseExpiresAt with
  | none => rfl
  | some =>
    rw [stored] at lapsed
    simp only [Option.all_some, decide_eq_true_eq] at lapsed ⊢
    omega

theorem Expired.not_passes {time : Int}
    (expired : Expired token time task) (order : time ≤ now) (attemptId : String) :
    ¬ Passes task now attemptId token :=
  fun passes => passes.not_lapsed ((expired.2 passes.holds.2).later order)

theorem claimed_free (granted : guardedClaim (task.claimRequest now attemptId) = .claimed) :
    task.session.leaseOwner = none ∨ Lapsed task now :=
  (guardedClaim_claimed granted).2

section Steps

variable {start : Task} {calls : List Call} {e : LeaseEvent}

theorem event_cases (member : e ∈ trace perform start calls) : (∃ grant, grantOf e = some grant ∧
        guardedClaim (e.before.claimRequest e.call.now grant.attemptId) = .claimed ∧
        e.after = e.before.granted grant.attemptId grant.token grant.expiresAt) ∨
      (∃ attemptId workerToken newExpiresAt, renews e = true ∧
        renewLease (e.before.renewRequest e.call.now attemptId workerToken newExpiresAt) =
          .renewed ∧ e.after = e.before.extended newExpiresAt) ∨
      (grantOf e = none ∧ renews e = false ∧ e.after.tokens = e.before.tokens ∧
        e.after.session.leaseOwner = e.before.session.leaseOwner ∧
        e.after.session.leaseToken = e.before.session.leaseToken ∧
        e.after.session.leaseExpiresAt = e.before.session.leaseExpiresAt) := by
  have here := mem_trace_event perform start calls e member
  rw [here]
  exact perform_cases e.call e.before

theorem retired_kept (member : e ∈ trace perform start calls) (fresh : Fresh e)
    (retired : Retired token e.before) : Retired token e.after := by
  rcases event_cases member with ⟨grant, granted, _, after⟩ | ⟨_, _, _, _, _, after⟩ |
    ⟨_, _, tokens, _, kept, _⟩
  · rw [after]
    refine ⟨mem_cons_of_mem _ retired.1, fun same => ?_⟩
    rw [← Option.some.inj same] at retired
    exact (fresh grant granted).1 retired.1
  · rw [after]
    exact retired
  · exact ⟨tokens ▸ retired.1, kept ▸ retired.2⟩

theorem expired_kept (member : e ∈ trace perform start calls) (fresh : Fresh e)
    {time : Int} (order : time ≤ e.call.now) (expired : Expired token time e.before) :
    Expired token time e.after := by
  rcases event_cases member with ⟨grant, granted, _, after⟩ |
    ⟨_, _, _, _, renewed, after⟩ | ⟨_, _, tokens, _, kept, lease⟩
  · rw [after]
    refine ⟨mem_cons_of_mem _ expired.1, fun same => ?_⟩
    have carried : grant.token = token := Option.some.inj same
    exact absurd (carried ▸ expired.1) (fresh grant granted).1
  · -- A renewal finds the lease alive, so the token that has lapsed is not the one it extends.
    rw [after]
    refine ⟨expired.1, fun same => ?_⟩
    rcases renewLease_renewed renewed with ⟨_, _, _, _, expiry, stored, live, _⟩
    have lapsed := (expired.2 same).later order
    rw [Lapsed, show e.before.session.leaseExpiresAt = some expiry from stored, Option.all_some,
      decide_eq_true_eq] at lapsed
    exact absurd live (not_lt.mpr lapsed)
  · refine ⟨tokens ▸ expired.1, fun same => ?_⟩
    rw [Lapsed, lease]
    exact expired.2 (kept ▸ same)

theorem granted_retires (member : e ∈ trace perform start calls) (fresh : Fresh e)
    {grant : Grant} (granted : grantOf e = some grant)
    (used : token ∈ e.before.tokens) : Retired token e.after := by
  rcases event_cases member with ⟨other, found, _, after⟩ | ⟨_, _, _, renewed, _⟩ |
    ⟨none, _⟩
  · rw [after]
    refine ⟨mem_cons_of_mem _ used, fun same => ?_⟩
    rw [← Option.some.inj same] at used
    exact (fresh other found).1 used
  · rcases e with ⟨_, ⟨_, action⟩, _, _⟩
    cases action <;> first | cases granted | cases renewed
  · rw [none] at granted
    cases granted

theorem carried_before (state : TaskState) (session : SessionMeta)
    (member : e ∈ trace perform (Task.start state session) calls) : Carried e.before :=
  (invariant_trace perform Carried (fun _ => True) (fun task call _ => perform_carried call task) _
    calls (fun _ _ => trivial) (start_carried state session) e member).2

end Steps

def HeldBefore (front : List LeaseEvent) (e : LeaseEvent) (attemptId token : String) : Prop :=
  ∃ earlier ∈ front ++ [e], Holds earlier.before attemptId token

structure LeaseExclusive (start : Task) (calls : List Call) : Prop where
  one_holder : ∀ front back, calls = front ++ back → ∀ now attemptId token other otherToken,
    Passes (final perform start front) now attemptId token →
      Passes (final perform start front) now other otherToken →
        attemptId = other ∧ token = otherToken
  claims_alone : ∀ e ∈ trace perform start calls, (grantOf e).isSome = true →
    ∀ attemptId token, ¬ Passes e.before e.call.now attemptId token
  superseded : ∀ front e back, trace perform start calls = front ++ e :: back →
    (grantOf e).isSome = true → ∀ attemptId token, HeldBefore front e attemptId token →
      ∀ later ∈ e :: back, ∀ now, ¬ Passes later.after now attemptId token
  renewals_extend : ∀ e ∈ trace perform start calls, renews e = true →
    ∃ expiry extended, e.before.session.leaseExpiresAt = some expiry ∧ e.call.now < expiry ∧
      expiry < extended ∧
      e.after.session = { e.before.session with leaseExpiresAt := some extended }
  never_revived : ∀ front e back, trace perform start calls = front ++ e :: back →
    Lapsed e.before e.call.now → ∀ attemptId token, Holds e.before attemptId token →
      ∀ later ∈ e :: back, ∀ now, later.call.now ≤ now → ¬ Passes later.after now attemptId token

section Exclusive

variable {state : TaskState} {session : SessionMeta} {calls : List Call}

theorem heldBefore_used {front back : List LeaseEvent} {e : LeaseEvent}
    (split : trace perform (Task.start state session) calls = front ++ e :: back)
    (held : HeldBefore front e attemptId token) : token ∈ e.before.tokens := by
  have inside : ∀ other ∈ front ++ [e], other ∈ trace perform (Task.start state session) calls := by
    intro other member
    rw [split]
    rcases mem_append.mp member with early | here
    · exact mem_append_left _ early
    · exact mem_append_right _ (mem_cons.mpr (.inl (mem_singleton.mp here)))
  have kept : ∀ other ∈ trace perform (Task.start state session) calls,
      token ∈ other.before.tokens → token ∈ other.after.tokens := by
    intro other member used
    rw [(mem_trace_performed member).2]
    exact perform_tokens other.call other.before used
  rcases held with ⟨earlier, member, holds⟩
  have used := carried_before state session (inside earlier member) token holds.2
  rcases mem_append.mp member with early | here
  · exact kept_upto perform (fun task => token ∈ task.tokens) split
      (fun other before => kept other (inside other (mem_append_left _ before))) early
      (kept earlier (inside earlier member) used)
  · rw [← mem_singleton.mp here]
    exact used

/-- One holder at a time, none beside a claim, no way back for a lost lease. -/
theorem lease_exclusive (clocked : Clocked calls)
    (fresh : ∀ e ∈ trace perform (Task.start state session) calls, Fresh e) :
    LeaseExclusive (Task.start state session) calls where
  one_holder := by
    intro front back _ now attemptId token other otherToken passes passesToo
    have first := passes.holds
    have second := passesToo.holds
    exact ⟨Option.some.inj (first.1.symm.trans second.1),
      Option.some.inj (first.2.symm.trans second.2)⟩
  claims_alone := by
    intro e member granted attemptId token passes
    rcases event_cases member with ⟨grant, _, claimed, _⟩ | ⟨_, _, _, renewed, _⟩ | ⟨none, _⟩
    · rcases claimed_free claimed with free | lapsed
      · have owner := passes.holds.1
        rw [free] at owner
        cases owner
      · exact passes.not_lapsed lapsed
    · rcases e with ⟨before, ⟨now, action⟩, response, behind⟩
      cases action <;> first | cases granted | cases renewed
    · rw [none] at granted
      cases granted
  superseded := by
    intro front e back split granted attemptId token held later member now
    have within : ∀ other ∈ e :: back, other ∈ trace perform (Task.start state session) calls :=
      fun other inside => split ▸ mem_append_right front inside
    rcases Option.isSome_iff_exists.mp granted with ⟨grant, found⟩
    have here := within e mem_cons_self
    have retired := granted_retires here (fresh e here) found (heldBefore_used split held)
    have behind := kept_behind (Retired token) split
      (fun other inside =>
        retired_kept (within other (mem_cons_of_mem _ inside))
          (fresh other (within other (mem_cons_of_mem _ inside)))) retired
    exact (behind later member).not_passes now attemptId
  renewals_extend := by
    intro e member renewed
    rcases event_cases member with ⟨_, granted, _⟩ | ⟨attemptId, _, expiresAt, _,
      decided, after⟩ | ⟨_, none, _⟩
    · rcases e with ⟨_, ⟨now, action⟩, _, behind⟩
      cases action <;> first | cases granted | cases renewed
    · rcases renewLease_renewed decided with ⟨_, _, _, _, expiry, stored, live, longer⟩
      exact ⟨expiry, expiresAt, stored, live, longer, by rw [after]; rfl⟩
    · rw [none] at renewed
      cases renewed
  never_revived := by
    intro front e back split lapsed attemptId token holds later member now order
    have within : ∀ other ∈ e :: back, other ∈ trace perform (Task.start state session) calls :=
      fun other inside => split ▸ mem_append_right front inside
    have times := clock_le Call.now split clocked
    have here := within e mem_cons_self
    have expired : Expired token e.call.now e.before :=
      ⟨carried_before state session here token holds.2, fun _ => lapsed⟩
    have behind := kept_behind (Expired token e.call.now) split
      (fun other inside =>
        have listed := mem_cons_of_mem e inside
        expired_kept (within other listed) (fresh other (within other listed))
          (times other listed))
      (expired_kept here (fresh e here) (le_refl _) expired)
    exact (behind later member).not_passes ((times later member).trans order) attemptId

end Exclusive

namespace Sample

def session : SessionMeta :=
  { status := "active", expiresAt := 100, version := 1, leaseOwner := none, leaseToken := none
    leaseExpiresAt := none }

/-- The second attempt is turned away while the first one renews, and takes over at the very
second the renewed lease ends. -/
def handover : List Call :=
  [⟨10, .claim "attempt-1" "token-1" 20⟩, ⟨15, .renew "attempt-1" "token-1" 30⟩,
    ⟨25, .claim "attempt-2" "token-2" 40⟩, ⟨26, .publish "token-1" 1 "attempt-1" false⟩,
    ⟨30, .claim "attempt-2" "token-2" 40⟩, ⟨30, .publish "token-1" 1 "attempt-1" false⟩,
    ⟨31, .publish "token-2" 1 "attempt-2" false⟩]

theorem lease_exclusive_handover : LeaseExclusive (Task.start .accepted session) handover :=
  lease_exclusive (by decide) (by decide)

example : (trace perform (Task.start .accepted session) handover).map grantOf =
    [some ⟨"attempt-1", "token-1", 20⟩, none, none, none, some ⟨"attempt-2", "token-2", 40⟩, none,
      none] := by decide

end Sample

end BackendHandbook.Browser
