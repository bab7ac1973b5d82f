import BackendHandbook.Foundation.Histories
import BackendHandbook.Outbox.Parties

/-! What the parties at the outbox have called and been answered when they write, and when
they are done. -/

namespace BackendHandbook.Outbox

open Interleaving

abbrev Fact := (call : Call) × Except Raised call.Answer

/-- Where a thread is in the transaction of an acceptance. -/
inductive Phase
  | outside | inside
  | vacant (tenantId : Uuid) (key : String)
  | named (tenantId : Uuid) (key : String) (jobId : Uuid)
  | drawn (tenantId : Uuid) (key : String) (jobId outboxEventId : Uuid)
  | jobPut (tenantId : Uuid) (key : String) (jobId outboxEventId : Uuid)
  | keyPut (jobId outboxEventId : Uuid)

namespace Phase

def locked : Phase → Bool
  | .outside => false
  | _ => true

/-- The job is there, and its intent is not yet. -/
def pends (jobId : Uuid) : Phase → Bool
  | .jobPut _ _ own _ => own = jobId
  | .keyPut own _ => own = jobId
  | _ => false

/-- Under the lock, and nothing is written by halves. -/
def whole : Phase → Bool
  | .outside | .jobPut .. | .keyPut .. => false
  | _ => true

def next (phase : Phase) : Fact → Phase
  | ⟨.acquire, .ok true⟩ => .inside
  | ⟨.release, _⟩ => .outside
  | ⟨.keyedJob tenantId key, .ok none⟩ =>
    match phase with
    | .inside => .vacant tenantId key
    | other => other
  | ⟨.uuid4, .ok identifier⟩ =>
    match phase with
    | .vacant tenantId key => .named tenantId key identifier
    | .named tenantId key jobId => .drawn tenantId key jobId identifier
    | other => other
  | ⟨.putJob _, _⟩ =>
    match phase with
    | .drawn tenantId key jobId outboxEventId => .jobPut tenantId key jobId outboxEventId
    | other => other
  | ⟨.putKey .., _⟩ =>
    match phase with
    | .jobPut _ _ jobId outboxEventId => .keyPut jobId outboxEventId
    | other => other
  | ⟨.putIntent _, _⟩ => .inside
  | _ => phase

/-- The phase that a history leads to. -/
def behind : List Fact → Phase
  | [] => .outside
  | fact :: known => (behind known).next fact

end Phase

def Allowed (known : List Fact) : Call → Prop
  | .acquire => Phase.behind known = .outside
  | .release => (Phase.behind known).whole = true
  | .putJob job => ∃ outboxEventId, Phase.behind known =
      .drawn job.tenantId job.idempotencyKey job.jobId outboxEventId
  | .putKey tenantId key jobId => ∃ outboxEventId, Phase.behind known =
      .jobPut tenantId key jobId outboxEventId
  | .putIntent intent => ∃ now, Phase.behind known = .keyPut intent.jobId intent.outboxEventId ∧
      intent = dispatchIntent intent.outboxEventId intent.jobId now
  | .addDispatchIntent .. => Phase.behind known = .inside
  | .checkpointPublishedIfOwner outboxEventId _ _ => ∃ row,
      ⟨.outboxRow outboxEventId, .ok row⟩ ∈ known ∧ ⟨.publish (buildEnvelope row), .ok ()⟩ ∈ known
  | _ => True

section Acceptance

variable {canonical : Canonical} {accept : AcceptRequest} {known : List Fact} {key : String}

namespace AcceptRequest

theorem answer_recalls (result : AcceptResult) : (answer result).Recalls Allowed known := trivial

theorem existingResult_recalls (existing : JobRow) :
    (accept.existingResult canonical existing).Recalls Allowed known := by
  unfold existingResult
  split
  · exact await_follows trivial fun intent => answer_recalls _
  · exact answer_recalls _

theorem releaseRaising_recalls (whole : (Phase.behind known).whole = true) (error : Raised) :
    (releaseRaising error).Recalls Allowed known :=
  await_follows whole fun _ => trivial

theorem create_recalls (vacant : Phase.behind known = .vacant accept.tenantId key) :
    (accept.create canonical key).Recalls Allowed known := by
  apply await_follows trivial
  intro jobId
  apply await_follows trivial
  intro outboxEventId
  have drawn : Phase.behind (⟨.uuid4, .ok outboxEventId⟩ :: ⟨.uuid4, .ok jobId⟩ :: known) =
      .drawn accept.tenantId key jobId outboxEventId := by
    simp [Phase.behind, vacant, Phase.next]
  split
  · exact releaseRaising_recalls (by rw [drawn]; rfl) _
  · apply await_follows ⟨outboxEventId, drawn⟩
    intro _
    apply await_follows ⟨outboxEventId, by simp [Phase.behind, vacant, Phase.next]⟩
    intro _
    apply await_follows ⟨accept.now, by simp only [Phase.behind, vacant]; rfl, rfl⟩
    intro _
    refine await_follows ?_ fun _ => await_follows ?_ fun _ => answer_recalls _
    · rfl
    · rfl

theorem arbitrate_recalls (inside : Phase.behind known = .inside) :
    (accept.arbitrate canonical key).Recalls Allowed known := by
  apply await_follows trivial
  intro found
  cases found with
  | none => exact create_recalls (by simp [Phase.behind, inside, Phase.next])
  | some existingId =>
    have stays : Phase.behind (⟨.keyedJob accept.tenantId key, .ok (some existingId)⟩ :: known) =
        .inside := by
      simp [Phase.behind, inside, Phase.next]
    apply await_follows trivial
    intro row
    cases row with
    | none => exact releaseRaising_recalls (by rw [Phase.behind, stays]; rfl) _
    | some existing =>
      apply await_follows trivial
      intro _
      apply await_follows (by rw [Allowed, Phase.behind, Phase.behind, stays]; rfl)
      intro _
      exact existingResult_recalls existing

theorem upsert_recalls (patience : Nat) (outside : Phase.behind known = .outside) :
    (accept.upsert canonical key patience).Recalls Allowed known := by
  induction patience generalizing known with
  | zero => trivial
  | succ _ ih =>
    refine await_follows ?_ fun acquired => ?_
    · exact outside
    · cases acquired with
      | true => exact arbitrate_recalls rfl
      | false => exact ih (by simp [Phase.behind, outside, Phase.next])

theorem checkDocuments_recalls (documentIds : List String)
    (outside : Phase.behind known = .outside) :
    (accept.checkDocuments canonical key documentIds).Recalls Allowed known := by
  induction documentIds with
  | nil => exact upsert_recalls accept.patience outside
  | cons _ _ ih =>
    intro reply
    match reply with
    | .error error => trivial
    | .ok true => exact ih
    | .ok false => exact answer_recalls _

theorem proceed_recalls (existing : Option JobRow) (outside : Phase.behind known = .outside) :
    (accept.proceed canonical key existing).Recalls Allowed known := by
  cases existing with
  | some => exact existingResult_recalls _
  | none => exact checkDocuments_recalls accept.documentIds outside

theorem afterRead_recalls (existing : Option JobRow) (outside : Phase.behind known = .outside) :
    (accept.afterRead canonical key existing).Recalls Allowed known := by
  unfold afterRead
  split
  · intro reply
    match reply with
    | .error error => trivial
    | .ok _ => exact proceed_recalls existing outside
  · exact proceed_recalls existing outside

theorem program_recalls : (accept.program canonical).Recalls Allowed [] := by
  unfold program
  split
  · exact answer_recalls _
  · split
    · exact answer_recalls _
    · apply await_follows trivial
      intro found
      cases found with
      | none => exact afterRead_recalls none rfl
      | some => exact await_follows trivial fun row => afterRead_recalls row rfl

end AcceptRequest

end Acceptance

section Relay

variable {pass : RelayPass} {known : List Fact}

namespace RelayPass

theorem fail_recalls {outboxEventId : Uuid} {typeName : String} {next : OutboxState → OutboxProgram}
    (later : ∀ known state, (next state).Recalls Allowed known) :
    (pass.fail outboxEventId typeName next).Recalls Allowed known := by
  apply await_follows trivial
  intro row jitter
  exact await_follows trivial fun state => later _ state

theorem deliver_recalls (claimed : List Uuid) (report : RelayReport) :
    (pass.deliver report claimed).Recalls Allowed known := by
  induction claimed generalizing known report with
  | nil => trivial
  | cons _ _ ih =>
    apply await_follows trivial
    intro row
    refine ⟨trivial, fun response => ?_⟩
    match response with
    | .ok () =>
      refine await_follows ⟨row, ?_, ?_⟩ fun _ => ih _
      · exact List.mem_cons_of_mem _ List.mem_cons_self
      · exact List.mem_cons_self
    | .error .transportCrashAfterPublish => exact ih _
    | .error (.transportError typeName) => exact fail_recalls fun known state => ih _
    | .error (.keyError _) => trivial
    | .error .simulatedCommitFailure => trivial
    | .error (.staleRelay ..) => trivial
    | .error (.leaseExpired _) => trivial
    | .error (.raised _) => trivial

theorem program_recalls : pass.program.Recalls Allowed [] :=
  await_follows trivial fun claimed => deliver_recalls claimed _

end RelayPass

end Relay

theorem Party.program_recalls (canonical : Canonical) (party : Party) :
    (party.program canonical).Recalls Allowed [] := by
  cases party with
  | acceptJob accept => exact accept.program_recalls
  | relay pass => exact pass.program_recalls

/-! What the history of an acceptance bears out when it is done. -/

def Call.writes : Call → Bool
  | .putJob _ | .putKey .. | .putIntent _ | .addDispatchIntent .. | .claimOutboxBatch ..
  | .recordTransportFailure .. | .checkpointPublishedIfOwner .. => true
  | _ => false

def Call.total : Call → Bool
  | .claimOutboxBatch .. | .outboxRow _ | .publish _ | .recordTransportFailure ..
  | .checkpointPublishedIfOwner .. => false
  | _ => true

def Call.readsJob : Call → Bool
  | .job _ => true
  | _ => false

def Quiet (known : List Fact) : Prop := ∀ fact ∈ known, fact.1.writes = false

/-- A call that never fails has failed. -/
def Failed (known : List Fact) : Prop :=
  ∃ call raised, call.total = true ∧ (⟨call, .error raised⟩ : Fact) ∈ known

variable (tenantId : Uuid) (key : String) (known : List Fact)

def Found (job : JobRow) : Prop :=
  ∃ jobId, (⟨.keyedJob tenantId key, .ok (some jobId)⟩ : Fact) ∈ known ∧
    (⟨.job jobId, .ok (some job)⟩ : Fact) ∈ known

def Absent : Prop :=
  (⟨.keyedJob tenantId key, .ok none⟩ : Fact) ∈ known ∨
    ∃ jobId, (⟨.keyedJob tenantId key, .ok (some jobId)⟩ : Fact) ∈ known ∧
      (⟨.job jobId, .ok none⟩ : Fact) ∈ known

def Unread (known : List Fact) : Prop := ∀ jobId job, (⟨.job jobId, .ok (some job)⟩ : Fact) ∉ known

def AcceptRequest.suppliedKey (accept : AcceptRequest) : Option String :=
  accept.idempotencyKey.filter fun key => Text.strip key.toList ≠ []

/-- An acceptance has looked for its key, and has seen no job under it. -/
structure Unseen (accept : AcceptRequest) (key : String) (known : List Fact) : Prop where
  supplied : accept.suppliedKey = some key
  absent : Absent accept.tenantId key known
  unread : Unread known

variable (canonical : Canonical) (accept : AcceptRequest)

/-- The ways an acceptance comes to its end, with what it has called and been answered. -/
inductive Concludes (known : List Fact) : Finished → Prop
  | missing (reason : String) (unsupplied : accept.suppliedKey = none) (quiet : Quiet known) :
      Concludes known (.accepted { outcome := .missingIdempotencyKey, reason })
  | created (key : String) (jobId outboxEventId : Uuid) (unseen : Unseen accept key known)
      (jobPut : (⟨.putJob (accept.jobRow canonical key jobId), .ok ()⟩ : Fact) ∈ known)
      (keyPut : (⟨.putKey accept.tenantId key jobId, .ok ()⟩ : Fact) ∈ known)
      (intentPut : (⟨.putIntent (dispatchIntent outboxEventId jobId accept.now), .ok ()⟩ : Fact) ∈
        known) :
      Concludes known (.accepted
        { outcome := .created, job := some (accept.jobRow canonical key jobId)
          outbox := some (dispatchIntent outboxEventId jobId accept.now) })
  | returned (key : String) (job : JobRow) (intent : Option OutboxRow)
      (supplied : accept.suppliedKey = some key) (found : Found accept.tenantId key known job)
      (same : job.requestFingerprint = accept.fingerprint canonical) (quiet : Quiet known) :
      Concludes known (.accepted
        { outcome := .returnedExisting, job := some job, outbox := intent })
  | conflict (key : String) (job : JobRow) (reason : String)
      (supplied : accept.suppliedKey = some key) (found : Found accept.tenantId key known job)
      (other : job.requestFingerprint ≠ accept.fingerprint canonical) (quiet : Quiet known) :
      Concludes known (.accepted { outcome := .conflict, reason })
  | unverified (key : String) (reason : String) (unseen : Unseen accept key known)
      (quiet : Quiet known) : Concludes known (.accepted { outcome := .documentNotVerified, reason })
  | raised (error : Raised) (stopped : accept.hooked = true ∨ ∃ key, Unseen accept key known)
      (quiet : Quiet known) : Concludes known (.raised error)
  | failed (error : Raised) (failed : Failed known) : Concludes known (.raised error)
  | waiting (key : String) (unseen : Unseen accept key known) (quiet : Quiet known) :
      Concludes known .waiting

section Conclusions

variable {canonical : Canonical} {accept : AcceptRequest} {known : List Fact} {key : String}

theorem Quiet.cons (quiet : Quiet known) (fact : Fact) (silent : fact.1.writes = false) :
    Quiet (fact :: known) := by
  intro other member
  rcases List.mem_cons.mp member with rfl | old
  · exact silent
  · exact quiet other old

theorem Unread.cons (unread : Unread known) (fact : Fact) (other : fact.1.readsJob = false) :
    Unread (fact :: known) := by
  intro jobId job member
  rcases List.mem_cons.mp member with rfl | old
  · cases other
  · exact unread jobId job old

theorem Unread.missing (unread : Unread known) (jobId : Uuid) :
    Unread (⟨.job jobId, .ok none⟩ :: known) := by
  intro other job member
  rcases List.mem_cons.mp member with same | old
  · cases same
  · exact unread other job old

theorem Absent.cons {tenantId : Uuid} (absent : Absent tenantId key known) (fact : Fact) :
    Absent tenantId key (fact :: known) := by
  rcases absent with vacant | ⟨jobId, keyed, missing⟩
  · exact .inl (List.mem_cons_of_mem _ vacant)
  · exact .inr ⟨jobId, List.mem_cons_of_mem _ keyed, List.mem_cons_of_mem _ missing⟩

variable {job : JobRow}

theorem Found.cons {tenantId : Uuid} (found : Found tenantId key known job)
    (fact : Fact) : Found tenantId key (fact :: known) job := by
  rcases found with ⟨jobId, keyed, read⟩
  exact ⟨jobId, List.mem_cons_of_mem _ keyed, List.mem_cons_of_mem _ read⟩

variable {call : Call}

theorem failed_here (total : call.total = true) (error raised : Raised) :
    Concludes canonical accept (⟨call, .error error⟩ :: known) (.raised raised) :=
  .failed raised ⟨call, error, total, List.mem_cons_self⟩

theorem await_total (total : call.total = true) {next : call.Answer → OutboxProgram}
    (later : ∀ found, (next found).Ends (Concludes canonical accept) (⟨call, .ok found⟩ :: known)) :
    (await .raised call next).Ends (Concludes canonical accept) known :=
  await_ends (fun error => failed_here total error error) later

theorem Unseen.cons (unseen : Unseen accept key known) (fact : Fact)
    (other : fact.1.readsJob = false) : Unseen accept key (fact :: known) :=
  ⟨unseen.supplied, unseen.absent.cons fact, unseen.unread.cons fact other⟩

theorem Unseen.missing (unseen : Unseen accept key known) (jobId : Uuid) :
    Unseen accept key (⟨.job jobId, .ok none⟩ :: known) :=
  ⟨unseen.supplied, unseen.absent.cons _, unseen.unread.missing jobId⟩

namespace AcceptRequest

theorem existingResult_ends (supplied : accept.suppliedKey = some key)
    (found : Found accept.tenantId key known job) (quiet : Quiet known) :
    (accept.existingResult canonical job).Ends (Concludes canonical accept) known := by
  unfold existingResult
  split
  · next same =>
    apply await_total rfl
    intro intent
    exact .returned key job intent supplied (found.cons _) same (quiet.cons _ rfl)
  · next other => exact .conflict key job _ supplied found other quiet

theorem releaseRaising_ends (error : Raised) (unseen : Unseen accept key known)
    (quiet : Quiet known) : (releaseRaising error).Ends (Concludes canonical accept) known := by
  apply await_total rfl
  intro _
  exact .raised error (.inr ⟨key, unseen.cons _ rfl⟩) (quiet.cons _ rfl)

theorem create_ends (unseen : Unseen accept key known) (quiet : Quiet known) :
    (accept.create canonical key).Ends (Concludes canonical accept) known := by
  apply await_total rfl
  intro jobId
  apply await_total rfl
  intro outboxEventId
  have drawn : Unseen accept key
      (⟨.uuid4, .ok outboxEventId⟩ :: ⟨.uuid4, .ok jobId⟩ :: known) :=
    (unseen.cons _ rfl).cons _ rfl
  split
  · exact releaseRaising_ends _ drawn ((quiet.cons _ rfl).cons _ rfl)
  · apply await_total rfl
    intro _
    apply await_total rfl
    intro _
    apply await_total rfl
    intro _
    apply await_total rfl
    intro _
    apply await_total rfl
    intro _
    refine .created key jobId outboxEventId ?_ ?_ ?_ ?_
    · exact ((((drawn.cons _ rfl).cons _ rfl).cons _ rfl).cons _ rfl).cons _ rfl
    · simp
    · simp
    · simp

theorem arbitrate_ends (unseen : Unseen accept key known) (quiet : Quiet known) :
    (accept.arbitrate canonical key).Ends (Concludes canonical accept) known := by
  apply await_total rfl
  intro found
  have looked : Unseen accept key (⟨.keyedJob accept.tenantId key, .ok found⟩ :: known) :=
    unseen.cons _ rfl
  have silent : Quiet (⟨.keyedJob accept.tenantId key, .ok found⟩ :: known) := quiet.cons _ rfl
  cases found with
  | none => exact create_ends looked silent
  | some existingId =>
    apply await_total rfl
    intro row
    cases row with
    | none =>
      exact releaseRaising_ends _ (looked.missing existingId) (silent.cons _ rfl)
    | some =>
      apply await_total rfl
      intro intent
      apply await_total rfl
      intro _
      apply existingResult_ends looked.supplied
      · exact ⟨existingId, by simp, by simp⟩
      · exact ((silent.cons _ rfl).cons _ rfl).cons _ rfl

theorem upsert_ends (patience : Nat) (unseen : Unseen accept key known) (quiet : Quiet known) :
    (accept.upsert canonical key patience).Ends (Concludes canonical accept) known := by
  induction patience generalizing known with
  | zero => exact .waiting key unseen quiet
  | succ _ ih =>
    apply await_total rfl
    intro acquired
    have tried : Unseen accept key (⟨.acquire, .ok acquired⟩ :: known) := unseen.cons _ rfl
    cases acquired with
    | true => exact arbitrate_ends tried (quiet.cons _ rfl)
    | false => exact ih tried (quiet.cons _ rfl)

theorem checkDocuments_ends (documentIds : List String) (unseen : Unseen accept key known)
    (quiet : Quiet known) :
    (accept.checkDocuments canonical key documentIds).Ends (Concludes canonical accept) known := by
  induction documentIds with
  | nil => exact upsert_ends accept.patience unseen quiet
  | cons _ _ ih =>
    intro reply
    match reply with
    | .error error => exact .raised error (.inr ⟨key, unseen⟩) quiet
    | .ok true => exact ih
    | .ok false => exact .unverified key _ unseen quiet

/-- What the existence read has found: the stored job, or nothing. -/
def Looked (accept : AcceptRequest) (key : String) (known : List Fact) : Option JobRow → Prop
  | some job => Found accept.tenantId key known job
  | none => Absent accept.tenantId key known ∧ Unread known

variable {existing : Option JobRow}

theorem proceed_ends (supplied : accept.suppliedKey = some key)
    (looked : Looked accept key known existing) (quiet : Quiet known) :
    (accept.proceed canonical key existing).Ends (Concludes canonical accept) known := by
  cases existing with
  | some => exact existingResult_ends supplied looked quiet
  | none => exact checkDocuments_ends accept.documentIds ⟨supplied, looked.1, looked.2⟩ quiet

theorem afterRead_ends (supplied : accept.suppliedKey = some key)
    (looked : Looked accept key known existing) (quiet : Quiet known) :
    (accept.afterRead canonical key existing).Ends (Concludes canonical accept) known := by
  unfold afterRead
  split
  · next hooked =>
    intro reply
    match reply with
    | .error error => exact .raised error (.inl hooked) quiet
    | .ok _ => exact proceed_ends supplied looked quiet
  · exact proceed_ends supplied looked quiet

theorem program_ends : (accept.program canonical).Ends (Concludes canonical accept) [] := by
  have quiet : Quiet [] := fun _ nothing => by cases nothing
  have unread : Unread [] := fun _ _ nothing => by cases nothing
  unfold program
  cases given : accept.idempotencyKey with
  | none => exact .missing _ (by rw [suppliedKey, given]; rfl) quiet
  | some key =>
    dsimp only
    by_cases blank : Text.strip key.toList = []
    · rw [if_pos blank]
      refine .missing _ ?_ quiet
      rw [suppliedKey, given, Option.filter_some, if_neg (by simpa using blank)]
    · rw [if_neg blank]
      have supplied : accept.suppliedKey = some key := by
        rw [suppliedKey, given, Option.filter_some, if_pos (by simpa using blank)]
      apply await_total rfl
      intro found
      cases found with
      | none =>
        refine @afterRead_ends _ _ _ _ none supplied ?_ (quiet.cons _ rfl)
        exact ⟨.inl List.mem_cons_self, unread.cons _ rfl⟩
      | some jobId =>
        apply await_total rfl
        intro row
        refine afterRead_ends supplied ?_ ((quiet.cons _ rfl).cons _ rfl)
        cases row with
        | some => exact ⟨jobId, by simp, by simp⟩
        | none =>
          exact ⟨.inr ⟨jobId, by simp, by simp⟩, (unread.cons _ rfl).missing jobId⟩

end AcceptRequest

end Conclusions

end BackendHandbook.Outbox
