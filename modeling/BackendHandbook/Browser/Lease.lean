import Mathlib.Algebra.Order.Ring.Int

/-! The lease of a browser task: guarded claims, renewals, and the fence in front of a
publication. -/

namespace BackendHandbook.Browser

inductive Outcome
  | authorized | authenticationPreconditionFailed | authorizationSessionFailure
  | unknownAuthorizationState | securityFailure
  deriving DecidableEq

/-- Lifecycle and concurrency metadata of a session; times are epoch seconds. -/
structure SessionMeta where
  status : String
  (expiresAt version : Int)
  (leaseOwner leaseToken : Option String)
  leaseExpiresAt : Option Int
  deriving DecidableEq

def finalFence (session : SessionMeta) (workerToken : String) (claimedVersion : Int)
    (attemptId : String) (now : Int) (timedOut : Bool) : Outcome :=
  if timedOut then .unknownAuthorizationState
  else if session.status ≠ "active" ∨ session.expiresAt ≤ now then
    .authenticationPreconditionFailed
  else if session.leaseOwner ≠ some attemptId ∨ session.leaseToken ≠ some workerToken ∨
      session.version ≠ claimedVersion ∨ session.leaseExpiresAt.all (· ≤ now) then
    .authorizationSessionFailure
  else .authorized

structure FenceInputs where
  session : SessionMeta
  workerToken : String
  claimedVersion : Int
  attemptId : String
  now : Int
  timedOut : Bool := false

def terminalPublishAllowed (fence : FenceInputs) : Bool :=
  finalFence fence.session fence.workerToken fence.claimedVersion fence.attemptId fence.now
    fence.timedOut == .authorized

inductive TaskState
  | accepted | running | succeeded | failed | cancellationRequested | cancelled
  deriving DecidableEq

def isTerminal (state : TaskState) : Bool := state ∈ [.succeeded, .failed, .cancelled]

def claimableStates : List TaskState := [.accepted, .running]

structure ClaimRequest where
  taskState : TaskState
  leaseOwner : Option String
  leaseExpiresAt : Option Int
  now : Int
  attemptId : String

inductive ClaimDecision
  | claimed | deniedTerminal | deniedNotClaimable | deniedLeaseActive
  deriving DecidableEq

def guardedClaim (request : ClaimRequest) : ClaimDecision :=
  if isTerminal request.taskState then .deniedTerminal
  else if request.taskState ∉ claimableStates then .deniedNotClaimable
  else if request.leaseOwner ≠ none ∧ request.leaseExpiresAt.any (request.now < ·) then
    .deniedLeaseActive
  else .claimed

structure RenewLeaseRequest where
  taskState : TaskState
  (leaseOwner leaseToken : Option String)
  leaseExpiresAt : Option Int
  now : Int
  (attemptId workerToken : String)
  newExpiresAt : Int

inductive RenewDecision
  | renewed | deniedNotRunning | deniedOwnerMismatch | deniedTokenMismatch | deniedLeaseExpired
  | deniedNotExtending
  deriving DecidableEq

def renewLease (request : RenewLeaseRequest) : RenewDecision :=
  if request.taskState ≠ .running then .deniedNotRunning
  else if request.leaseOwner ≠ some request.attemptId then .deniedOwnerMismatch
  else if request.leaseToken ≠ some request.workerToken then .deniedTokenMismatch
  else if request.leaseExpiresAt.all (· ≤ request.now) then .deniedLeaseExpired
  else if request.newExpiresAt ≤ request.now ∨
      request.leaseExpiresAt.any (request.newExpiresAt ≤ ·) then .deniedNotExtending
  else .renewed

/-- The expiry to store; `none` where the renewal is denied. -/
def renewedExpiry (request : RenewLeaseRequest) : Option Int :=
  if renewLease request = .renewed then some request.newExpiresAt else none

inductive DeliveryDecision
  | execute | skipTerminalAck | skipActiveLeaseAck | reconcileInFlight | stopCancellationRequested
  deriving DecidableEq

def onDelivery (taskState : TaskState) (leaseExpired : Bool) : DeliveryDecision :=
  if isTerminal taskState then .skipTerminalAck
  else if taskState = .cancellationRequested then .stopCancellationRequested
  else if taskState = .running then
    if leaseExpired then .reconcileInFlight else .skipActiveLeaseAck
  else .execute

/-- The fence passes for the owner of an unexpired lease alone, with its token. -/
theorem allowed_iff (fence : FenceInputs) : terminalPublishAllowed fence = true ↔
      fence.timedOut = false ∧ fence.session.status = "active" ∧
        fence.now < fence.session.expiresAt ∧ fence.session.leaseOwner = some fence.attemptId ∧
        fence.session.leaseToken = some fence.workerToken ∧
        fence.session.version = fence.claimedVersion ∧
        ∃ expiry, fence.session.leaseExpiresAt = some expiry ∧ fence.now < expiry := by
  unfold terminalPublishAllowed finalFence
  cases fence.timedOut with
  | true => simp
  | false =>
    cases fence.session.leaseExpiresAt with
    | none =>
      simp only [Option.all_none, or_true, if_false, reduceCtorEq,
        false_and, exists_false, and_false]
      split <;> decide
    | some =>
      simp only [Option.all_some, Option.some.injEq, exists_eq_left', decide_eq_true_eq,
        Bool.false_eq_true, if_false, true_and]
      split
      · next closed =>
        rcases closed with inactive | expired
        · simp [inactive]
        · simp [not_lt.mpr expired]
      · next opened =>
        rw [not_or, not_not, not_le] at opened
        split
        · next lost =>
          constructor
          · intro passed
            cases passed
          · rintro ⟨_, _, owner, token, version, live⟩
            rcases lost with other | other | other | lapsed
            · exact absurd owner other
            · exact absurd token other
            · exact absurd version other
            · exact absurd live (not_lt.mpr lapsed)
        · next held =>
          simp only [not_or, not_not, not_le] at held
          exact iff_of_true rfl ⟨opened.1, opened.2, held⟩

theorem guardedClaim_claimed {request : ClaimRequest} (granted : guardedClaim request = .claimed) :
    request.taskState ∈ claimableStates ∧
      (request.leaseOwner = none ∨ request.leaseExpiresAt.all (· ≤ request.now) = true) := by
  unfold guardedClaim at granted
  split at granted
  · cases granted
  · split at granted
    · cases granted
    · next claimable =>
      refine ⟨not_not.mp claimable, ?_⟩
      split at granted
      · cases granted
      · next free =>
        by_cases unowned : request.leaseOwner = none
        · exact .inl unowned
        · right
          have lapsed := fun live => free ⟨unowned, live⟩
          cases stored : request.leaseExpiresAt with
          | none => rfl
          | some =>
            rw [stored] at lapsed
            simpa using lapsed

theorem renewLease_renewed {request : RenewLeaseRequest} (granted : renewLease request = .renewed) :
    request.taskState = .running ∧ request.leaseOwner = some request.attemptId ∧
      request.leaseToken = some request.workerToken ∧ request.now < request.newExpiresAt ∧
      ∃ expiry, request.leaseExpiresAt = some expiry ∧ request.now < expiry ∧
        expiry < request.newExpiresAt := by
  unfold renewLease at granted
  split at granted
  · cases granted
  next running =>
  split at granted
  · cases granted
  next owner =>
  split at granted
  · cases granted
  next token =>
  split at granted
  · cases granted
  next live =>
  split at granted
  · cases granted
  next extending =>
  cases stored : request.leaseExpiresAt with
  | none => simp [stored] at live
  | some expiry =>
    simp only [stored, Option.all_some, decide_eq_true_eq, not_le] at live
    simp only [stored, Option.any_some, decide_eq_true_eq, not_or, not_le] at extending
    exact ⟨not_not.mp running, not_not.mp owner, not_not.mp token, extending.1, expiry, rfl, live,
      extending.2⟩

end BackendHandbook.Browser
