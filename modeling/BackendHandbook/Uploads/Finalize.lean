import BackendHandbook.Foundation.Protocols
import BackendHandbook.Uploads.SessionStore

/-! The parties of an upload: finalizers, cleanups, and clients that put objects. -/

namespace BackendHandbook.Uploads

open Interleaving List

inductive ScanVerdict
  | safe | unsafe_

inductive Call
  | session (uploadSessionId : String)
  | document (uploadSessionId : String)
  | claimVerification (uploadSessionId ownerToken observedVersion : String) (now holdTtl : Int)
  | renewVerificationHold (uploadSessionId ownerToken : String) (now holdTtl : Int)
  | failVerificationIfOwner (uploadSessionId ownerToken : String)
  | commitDocumentIfOwner (uploadSessionId : String) (observed : StoredObjectEvidence)
      (ownerToken : String) (now : Instant) (failBeforeCommit : Bool) (documentId : String)
  | expireOrphan (uploadSessionId : String) (now maxClockSkew safetyBuffer : Int)
  | bindObjectVersion (uploadSessionId version : String)
  | inspectObject (bucket key : String) (version : Option String)
  | deleteObject (bucket key version : String)
  | putObject (bucket key : String) (data : Bytes) (contentType : String) (createOnly : Bool)
  | scan (evidence : StoredObjectEvidence)

abbrev Call.Answer : Call → Type
  | .session _ => UploadSessionRow
  | .document _ => Option DocumentRow
  | .claimVerification .. => String
  | .renewVerificationHold .. => Unit
  | .failVerificationIfOwner .. => Unit
  | .commitDocumentIfOwner .. => DocumentRow
  | .expireOrphan .. => CleanupDecision × ExpectedContract
  | .bindObjectVersion .. => String
  | .inspectObject .. => Option StoredObjectEvidence
  | .deleteObject .. => Bool
  | .putObject .. => StoredObjectEvidence
  | .scan _ => ScanVerdict

/-- The scanner's reply to the scan of a number: a verdict, or that it is not available. -/
abbrev Scanner := Nat → StoredObjectEvidence → Except String ScanVerdict

structure World where
  store : InMemoryStore
  storage : InMemoryObjectStorage := {}
  scans : Nat := 0

section Perform

variable (digests : Digests) (scanner : Scanner)

def onStore {α : Type} (world : World) (result : Except Raised α × InMemoryStore) :
    Except Raised α × World :=
  (result.1, { world with store := result.2 })

def perform : (call : Call) → World → Except Raised call.Answer × World
  | .session uploadSessionId, world => (world.store.session uploadSessionId, world)
  | .document uploadSessionId, world =>
    (.ok (world.store.documentsBySession.lookup uploadSessionId), world)
  | .claimVerification uploadSessionId ownerToken observedVersion now holdTtl, world =>
    onStore world
      (world.store.claimVerification uploadSessionId ownerToken observedVersion now holdTtl)
  | .renewVerificationHold uploadSessionId ownerToken now holdTtl, world =>
    onStore world (world.store.renewVerificationHold uploadSessionId ownerToken now holdTtl)
  | .failVerificationIfOwner uploadSessionId ownerToken, world =>
    onStore world (world.store.failVerificationIfOwner uploadSessionId ownerToken)
  | .commitDocumentIfOwner uploadSessionId observed ownerToken now failBeforeCommit documentId,
      world =>
      onStore world (world.store.commitDocumentIfOwner uploadSessionId observed ownerToken now
        failBeforeCommit documentId)
  | .expireOrphan uploadSessionId now maxClockSkew safetyBuffer, world =>
    onStore world (world.store.expireOrphan uploadSessionId now maxClockSkew safetyBuffer)
  | .bindObjectVersion uploadSessionId version, world =>
    onStore world (world.store.bindObjectVersion uploadSessionId version)
  | .inspectObject bucket key version, world =>
    (.ok (world.storage.inspectObject bucket key version), world)
  | .deleteObject bucket key version, world =>
    let result := world.storage.deleteObject bucket key version
    (.ok result.1, { world with storage := result.2 })
  | .putObject bucket key data contentType createOnly, world =>
    let result := world.storage.putObject digests bucket key data contentType createOnly
    (match result.1 with
      | none => .error (.objectAlreadyExists bucket key)
      | some evidence => .ok evidence,
      { world with storage := result.2 })
  | .scan evidence, world =>
    (match scanner world.scans evidence with
      | .error message => .error (.scannerUnavailable message)
      | .ok verdict => .ok verdict,
      { world with scans := world.scans + 1 })

end Perform

inductive FinalizeOutcome
  | created | alreadyVerified | illegalState | sessionExpired | uploadWindowExpired | objectNotFound
  | verifyFailed | scanFailed | scanRetryLater | rejectedIdentity | cleanupWon | leaseLost

structure FinalizeResult where
  outcome : FinalizeOutcome
  document : Option DocumentRow := none
  reason : String := ""
  ownerToken : Option String := none

def ClaimRefusal.outcome : ClaimRefusal → FinalizeOutcome
  | .cleanupWon => .cleanupWon
  | .sessionExpired => .sessionExpired
  | .heldByOther => .leaseLost
  | .versionConflict => .verifyFailed
  | .illegalState => .illegalState

def CommitRefusal.outcome : CommitRefusal → FinalizeOutcome
  | .cleanupWon => .cleanupWon
  | .leaseLost => .leaseLost
  | .sessionExpired => .sessionExpired
  | .notVerifying => .illegalState

inductive CleanupClaimStatus
  | kept | deleteExactVersion | noObjectPresent

structure CleanupClaim where
  status : CleanupClaimStatus
  decision : CleanupDecision
  reference : Option ObjectReference := none

inductive DeleteResult
  | deleted | versionAbsentReconcile | noObject

inductive Finished
  | raised (error : Raised)
  | finalized (result : FinalizeResult)
  | cleaned (claim : CleanupClaim) (result : DeleteResult)
  | stored (evidence : StoredObjectEvidence)

inductive Question
  | identifier | clock

abbrev Question.Reply : Question → Type
  | .identifier => String
  | .clock => Instant

abbrev UploadProgram :=
  Program Call (fun call => Except Raised call.Answer) Question Question.Reply Finished

/-- The arguments of one `finalize_upload`; `clocked` tells whether a clock is given. -/
structure FinalizeRequest where
  uploadSessionId : String
  now : Option Instant := none
  clocked : Bool := false
  ownerToken : Option String := none
  clientSuppliedBucket : Option String := none
  clientSuppliedKey : Option String := none
  clientSuppliedVersion : Option String := none
  holdTtl : Int := 300000000
  failCommit : Bool := false

namespace FinalizeRequest

variable (request : FinalizeRequest)

def done (outcome : FinalizeOutcome) (reason : String) (token : Option String) : UploadProgram :=
  .done (.finalized ⟨outcome, none, reason, token⟩)

def tick (next : Instant → UploadProgram) : UploadProgram :=
  if request.clocked then .ask .clock next
  else
    match request.now with
    | some now => next now
    | none => .done (.raised (.valueError "finalize_upload requires either now= or clock="))

def rejectedIdentity (expected : ExpectedContract) : Option String :=
  if request.clientSuppliedBucket.any (· ≠ expected.expectedBucket) then
    some "client bucket != persisted"
  else if request.clientSuppliedKey.any (· ≠ expected.expectedKey) then
    some "client key != persisted"
  else if request.clientSuppliedVersion.any fun supplied =>
      expected.expectedVersion.any (supplied ≠ ·) then some "client version != bound"
  else none

/-- The document that another finalizer has committed. -/
def alreadyVerified (token : Option String) : UploadProgram :=
  await .raised (.document request.uploadSessionId) fun document =>
  .done (.finalized ⟨.alreadyVerified, document, "", token⟩)

def commit (token : String) (observed : StoredObjectEvidence) : UploadProgram :=
  request.tick fun now =>
  .ask .identifier fun documentId =>
  .call (.commitDocumentIfOwner request.uploadSessionId observed token now request.failCommit
      documentId) fun
    | .ok document => .done (.finalized ⟨.created, some document, "", some token⟩)
    | .error (.duplicateDocument _) => request.alreadyVerified (some token)
    | .error (.commitGuardFailed refusal) => done refusal.outcome refusal.code (some token)
    | .error raised => .done (.raised raised)

def holdForRetry (token message : String) : UploadProgram :=
  request.tick fun now =>
  .call (.renewVerificationHold request.uploadSessionId token now request.holdTtl) fun
    | .ok _ =>
      done .scanRetryLater (if message = "" then "scanner down" else message) (some token)
    | .error (.commitGuardFailed refusal) => done refusal.outcome refusal.code (some token)
    | .error raised => .done (.raised raised)

def failUnsafe (token : String) : UploadProgram :=
  .call (.failVerificationIfOwner request.uploadSessionId token) fun
    | .ok _ => done .scanFailed "unsafe content" (some token)
    | .error (.commitGuardFailed refusal) => done refusal.outcome refusal.code (some token)
    | .error raised => .done (.raised raised)

def scan (token : String) (observed : StoredObjectEvidence) : UploadProgram :=
  .call (.scan observed) fun
    | .ok .safe => request.commit token observed
    | .ok .unsafe_ => request.failUnsafe token
    | .error (.scannerUnavailable message) => request.holdForRetry token message
    | .error raised => .done (.raised raised)

variable (token : String) (now : Instant) (observed : StoredObjectEvidence)

def claim : UploadProgram :=
  .call (.claimVerification request.uploadSessionId token observed.version now
      request.holdTtl) fun
    | .ok _ => request.scan token observed
    | .error (.verificationClaimUnavailable refusal) =>
      done refusal.outcome refusal.code (some token)
    | .error raised => .done (.raised raised)

/-- The row is a live record: its contract is read again behind the inspection. -/
def verify : UploadProgram :=
  await .raised (.session request.uploadSessionId) fun row =>
  let verdict := verifyObject row.expected (some observed)
  if verdict.status ≠ .ok then done .verifyFailed verdict.reason none
  else request.claim token now observed

def inspect (token : String) (now : Instant) (row : UploadSessionRow) : UploadProgram :=
  await .raised (.inspectObject row.expected.expectedBucket row.expected.expectedKey
      row.expected.expectedVersion) fun
    | some observed => request.verify token now observed
    | none =>
      if now ≥ row.credentialExpiresAt then
        done .uploadWindowExpired "credential window closed and no object was uploaded" none
      else done .objectNotFound "object not present yet" none

def admitRow (token : String) (row : UploadSessionRow) : UploadProgram :=
  if row.state = .verified then request.alreadyVerified none
  else if row.state ∉ completableStates then
    done (if row.state = .expired then .cleanupWon else .illegalState)
      ("state " ++ row.state.value ++ " is not completable") none
  else
    request.tick fun now =>
    if now ≥ row.sessionExpiresAt then done .sessionExpired "workflow session expired" none
    else
      match request.rejectedIdentity row.expected with
      | some reason => done .rejectedIdentity reason none
      | none => request.inspect token now row

/-- The token of the caller, or a fresh one. -/
def withToken (next : String → UploadProgram) : UploadProgram :=
  match request.ownerToken with
  | some token => if token = "" then .ask .identifier fun fresh => next ("verifier-" ++ fresh)
      else next token
  | none => .ask .identifier fun fresh => next ("verifier-" ++ fresh)

def program : UploadProgram :=
  if request.clocked = false ∧ request.now = none then
    .done (.raised (.valueError "finalize_upload requires either now= or clock="))
  else
    request.withToken fun token =>
    await .raised (.session request.uploadSessionId) fun row => request.admitRow token row

end FinalizeRequest

/-- The arguments of one cleanup: `claim_cleanup`, and `execute_cleanup_delete` behind it. -/
structure CleanupRequest where
  uploadSessionId : String
  now : Instant
  (maxClockSkew safetyBuffer : Int)

def CleanupClaim.executeDelete (claim : CleanupClaim) : UploadProgram :=
  match claim.status, claim.reference with
  | .deleteExactVersion, some ⟨bucket, key, some version⟩ =>
    await .raised (.deleteObject bucket key version) fun deleted =>
    .done (.cleaned claim (if deleted then .deleted else .versionAbsentReconcile))
  | .deleteExactVersion, some ⟨_, _, none⟩ => .done (.cleaned claim .versionAbsentReconcile)
  | _, _ => .done (.cleaned claim .noObject)

def deleteObserved (observed : StoredObjectEvidence) : UploadProgram :=
  CleanupClaim.executeDelete ⟨.deleteExactVersion, .deleteOrphan, some observed.reference⟩

def noObjectPresent : UploadProgram :=
  CleanupClaim.executeDelete ⟨.noObjectPresent, .deleteOrphan, none⟩

namespace CleanupRequest

variable (request : CleanupRequest)

/-- The exact version to delete: the bound one, or the one that the storage shows. -/
def resolve (expected : ExpectedContract) : UploadProgram :=
  await .raised (.inspectObject expected.expectedBucket expected.expectedKey
      expected.expectedVersion) fun observed =>
  match expected.expectedVersion, observed with
  | some _, some observed => deleteObserved observed
  | some _, none => noObjectPresent
  | none, some observed =>
    await .raised (.bindObjectVersion request.uploadSessionId observed.version) fun _ =>
    deleteObserved observed
  | none, none =>
    await .raised (.inspectObject expected.expectedBucket expected.expectedKey none) fun
      | some observed =>
        await .raised (.bindObjectVersion request.uploadSessionId observed.version) fun _ =>
        deleteObserved observed
      | none => noObjectPresent

def program : UploadProgram :=
  await .raised (.expireOrphan request.uploadSessionId request.now request.maxClockSkew
      request.safetyBuffer) fun claimed =>
  if claimed.1 ≠ .deleteOrphan then CleanupClaim.executeDelete ⟨.kept, claimed.1, none⟩
  else request.resolve claimed.2

end CleanupRequest

/-- The parties that act on the uploads. -/
inductive Party
  | finalizeUpload (request : FinalizeRequest)
  | cleanup (request : CleanupRequest)
  | putObject (bucket key : String) (data : Bytes) (contentType : String) (createOnly : Bool)

def Party.program : Party → UploadProgram
  | .finalizeUpload request => request.program
  | .cleanup request => request.program
  | .putObject bucket key data contentType createOnly =>
    await .raised (.putObject bucket key data contentType createOnly) fun evidence =>
    .done (.stored evidence)

/-- One move of the schedule: a party enters, or the party at an index goes on. A party that
no later move resumes has crashed. -/
inductive Action
  | enter (party : Party)
  | resume (index : Nat) (oracle : (question : Question) → question.Reply)

def Action.turn : Action → Turn Call (fun call => Except Raised call.Answer) Question
    Question.Reply Finished
  | .enter party => .start party.program
  | .resume index oracle => .resume index oracle

abbrev UploadEvent := Run.Event World Call fun call => Except Raised call.Answer

section Schedules

variable (digests : Digests) (scanner : Scanner) (store : InMemoryStore)
variable (actions : List Action)

/-- The calls of a schedule, in their order. -/
def scheduleCalls : List Call :=
  Interleaving.calls (perform digests scanner) ⟨⟨store, {}, 0⟩, []⟩ (actions.map Action.turn)

def schedule : List UploadEvent :=
  Run.trace (perform digests scanner) ⟨store, {}, 0⟩ (scheduleCalls digests scanner store actions)

def worldAfter : World :=
  (Interleaving.run (perform digests scanner) ⟨⟨store, {}, 0⟩, []⟩
    (actions.map Action.turn)).state

end Schedules

/-! What the parties have been answered when they commit a document or delete a version. -/

abbrev Fact := (call : Call) × Except Raised call.Answer

/-- What a party has been answered when it commits a document or deletes a version. -/
def Allowed (known : List Fact) : Call → Prop
  | .commitDocumentIfOwner uploadSessionId observed _ _ _ _ =>
    (∃ row, ⟨.session uploadSessionId, .ok row⟩ ∈ known ∧
      (verifyObject row.expected (some observed)).status = .ok) ∧
    (∃ bucket key version, ⟨.inspectObject bucket key version, .ok (some observed)⟩ ∈ known) ∧
    (∃ ownerToken now holdTtl token,
      ⟨.claimVerification uploadSessionId ownerToken observed.version now holdTtl, .ok token⟩ ∈
        known) ∧
    ⟨.scan observed, .ok .safe⟩ ∈ known
  | .deleteObject bucket key _ =>
    ∃ uploadSessionId now maxClockSkew safetyBuffer expected observed version,
      ⟨.expireOrphan uploadSessionId now maxClockSkew safetyBuffer,
        .ok (.deleteOrphan, expected)⟩ ∈ known ∧
      ⟨.inspectObject expected.expectedBucket expected.expectedKey version,
        .ok (some observed)⟩ ∈ known ∧ bucket = observed.bucket ∧ key = observed.key
  | _ => True

variable {known : List Fact}

namespace FinalizeRequest

variable {request : FinalizeRequest} {token : String} {now : Instant}
variable {observed : StoredObjectEvidence}

theorem tick_recalls {next : Instant → UploadProgram}
    (later : ∀ now, (next now).Recalls Allowed known) :
    (request.tick next).Recalls Allowed known := by
  unfold tick
  split
  · exact later
  · split
    · exact later _
    · trivial

theorem alreadyVerified_recalls (token : Option String) :
    (request.alreadyVerified token).Recalls Allowed known :=
  await_follows trivial fun _ => trivial

theorem commit_recalls (allowed : ∀ now fails documentId, Allowed known
      (.commitDocumentIfOwner request.uploadSessionId observed token now fails documentId)) :
    (request.commit token observed).Recalls Allowed known := by
  apply tick_recalls
  intro now documentId
  refine ⟨allowed now _ documentId, fun response => ?_⟩
  rcases response with raised | _
  · cases raised with
    | duplicateDocument => exact alreadyVerified_recalls _
    | _ => trivial
  · trivial

theorem holdForRetry_recalls (message : String) :
    (request.holdForRetry token message).Recalls Allowed known := by
  apply tick_recalls
  intro now
  refine ⟨trivial, fun response => ?_⟩
  rcases response with raised | _
  · cases raised <;> trivial
  · trivial

theorem failUnsafe_recalls : (request.failUnsafe token).Recalls Allowed known := by
  refine ⟨trivial, fun response => ?_⟩
  rcases response with raised | _
  · cases raised <;> trivial
  · trivial

section

variable (verified : ∃ row, ⟨.session request.uploadSessionId, .ok row⟩ ∈ known ∧
    (verifyObject row.expected (some observed)).status = .ok)
  (inspected : ∃ bucket key version, ⟨.inspectObject bucket key version, .ok (some observed)⟩ ∈ known)
include verified inspected

theorem scan_recalls (claimed : ∃ ownerToken now holdTtl token,
      ⟨.claimVerification request.uploadSessionId ownerToken observed.version now holdTtl,
        .ok token⟩ ∈ known) : (request.scan token observed).Recalls Allowed known := by
  refine ⟨trivial, fun response => ?_⟩
  rcases response with raised | verdict
  · cases raised with
    | scannerUnavailable => exact holdForRetry_recalls _
    | _ => trivial
  · cases verdict with
    | unsafe_ => exact failUnsafe_recalls
    | safe =>
      apply commit_recalls
      intro now fails documentId
      rcases verified with ⟨row, read, passed⟩
      rcases inspected with ⟨bucket, key, version, shown⟩
      rcases claimed with ⟨owner, time, ttl, own, granted⟩
      exact ⟨⟨row, mem_cons_of_mem _ read, passed⟩, ⟨bucket, key, version, mem_cons_of_mem _ shown⟩,
        ⟨owner, time, ttl, own, mem_cons_of_mem _ granted⟩, mem_cons_self⟩

theorem claim_recalls : (request.claim token now observed).Recalls Allowed known := by
  refine ⟨trivial, fun response => ?_⟩
  rcases response with raised | claimed
  · cases raised <;> trivial
  · rcases verified with ⟨row, read, passed⟩
    rcases inspected with ⟨bucket, key, version, shown⟩
    apply scan_recalls
    · exact ⟨row, mem_cons_of_mem _ read, passed⟩
    · exact ⟨bucket, key, version, mem_cons_of_mem _ shown⟩
    · exact ⟨token, now, request.holdTtl, claimed, mem_cons_self⟩

end

theorem verify_recalls (inspected : ∃ bucket key version,
      ⟨.inspectObject bucket key version, .ok (some observed)⟩ ∈ known) :
    (request.verify token now observed).Recalls Allowed known := by
  apply await_follows trivial
  intro row
  dsimp only
  split
  · trivial
  · next passed =>
    rcases inspected with ⟨bucket, key, version, shown⟩
    apply claim_recalls
    · exact ⟨row, mem_cons_self, not_not.mp passed⟩
    · exact ⟨bucket, key, version, mem_cons_of_mem _ shown⟩

theorem inspect_recalls (row : UploadSessionRow) :
    (request.inspect token now row).Recalls Allowed known := by
  apply await_follows trivial
  intro answer
  cases answer with
  | none =>
    dsimp only
    split
    · trivial
    · trivial
  | some => exact verify_recalls ⟨_, _, _, mem_cons_self⟩

theorem admitRow_recalls (row : UploadSessionRow) :
    (request.admitRow token row).Recalls Allowed known := by
  unfold admitRow
  split
  · exact alreadyVerified_recalls none
  split
  · trivial
  · apply tick_recalls
    intro now
    split
    · trivial
    · split
      · trivial
      · exact inspect_recalls row

theorem program_recalls : request.program.Recalls Allowed known := by
  have reads : ∀ token, (await Finished.raised (.session request.uploadSessionId) fun row =>
      request.admitRow token row : UploadProgram).Recalls Allowed known :=
    fun token => await_follows trivial fun row => admitRow_recalls row
  unfold program
  split
  · trivial
  · unfold withToken
    split
    · split
      · exact fun fresh => reads _
      · exact reads _
    · exact fun fresh => reads _

end FinalizeRequest

theorem deleteObserved_recalls {observed : StoredObjectEvidence}
    (allowed : Allowed known (.deleteObject observed.bucket observed.key observed.version)) :
    (deleteObserved observed).Recalls Allowed known :=
  await_follows allowed fun _ => trivial

namespace CleanupRequest

variable {request : CleanupRequest}

theorem resolve_recalls {expected : ExpectedContract} {now maxClockSkew safetyBuffer : Int}
    (claimed : ⟨.expireOrphan request.uploadSessionId now maxClockSkew safetyBuffer,
      .ok (.deleteOrphan, expected)⟩ ∈ known) :
    (request.resolve expected).Recalls Allowed known := by
  apply await_follows trivial
  intro answer
  cases bound : expected.expectedVersion with
  | some =>
    cases answer with
    | none => trivial
    | some observed =>
      apply deleteObserved_recalls
      exact ⟨_, _, _, _, expected, observed, _, mem_cons_of_mem _ claimed, mem_cons_self, rfl, rfl⟩
  | none =>
    cases answer with
    | some observed =>
      apply await_follows trivial
      intro _
      apply deleteObserved_recalls
      exact ⟨_, _, _, _, expected, observed, _, mem_cons_of_mem _ (mem_cons_of_mem _ claimed),
        mem_cons_of_mem _ mem_cons_self, rfl, rfl⟩
    | none =>
      apply await_follows trivial
      intro shown
      cases shown with
      | none => trivial
      | some observed =>
        apply await_follows trivial
        intro _
        apply deleteObserved_recalls
        exact ⟨_, _, _, _, expected, observed, _,
          mem_cons_of_mem _ (mem_cons_of_mem _ (mem_cons_of_mem _ claimed)),
          mem_cons_of_mem _ mem_cons_self, rfl, rfl⟩

theorem program_recalls : request.program.Recalls Allowed known := by
  apply await_follows trivial
  intro claimed
  split
  · trivial
  · next orphan =>
    apply resolve_recalls
    rw [← not_not.mp orphan]
    exact mem_cons_self

end CleanupRequest

theorem Party.program_recalls (party : Party) : party.program.Recalls Allowed known := by
  cases party with
  | finalizeUpload request | cleanup request => exact request.program_recalls
  | putObject =>
    exact await_follows trivial fun _ => trivial

end BackendHandbook.Uploads
