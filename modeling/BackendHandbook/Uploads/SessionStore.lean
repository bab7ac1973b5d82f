import BackendHandbook.Foundation.Dict
import BackendHandbook.Foundation.Fallible

/-! Object storage with a history of immutable versions, and the check of what it shows. -/

namespace BackendHandbook.Uploads

open Fallible

abbrev Bytes := List UInt8

structure ObjectReference where
  (bucket key : String)
  version : Option String := none

structure StoredObjectEvidence where
  (bucket key version : String)
  size : Int
  etag : String
  checksumSha256 : Option String
  contentType : Option String := none

def StoredObjectEvidence.reference (evidence : StoredObjectEvidence) : ObjectReference :=
  ⟨evidence.bucket, evidence.key, some evidence.version⟩

structure ExpectedContract where
  (expectedBucket expectedKey : String)
  expectedSize : Int
  (expectedSha256 expectedContentType : String)
  expectedVersion : Option String := none

/-- The digests of the standard library, as hexadecimal text. -/
structure Digests where
  (md5 sha256 : Bytes → String)

structure InMemoryObjectStorage where
  versions : Dict (String × String) (List StoredObjectEvidence) := ∅
  counter : Nat := 0

namespace InMemoryObjectStorage

variable (digests : Digests) (storage : InMemoryObjectStorage)

def history (bucket key : String) : List StoredObjectEvidence :=
  (storage.versions.lookup (bucket, key)).getD []

def versionName (number : Nat) : String := "v" ++ toString number

def putObject (bucket key : String) (data : Bytes) (contentType : String) (createOnly : Bool) :
    Option StoredObjectEvidence × InMemoryObjectStorage :=
  let history := storage.history bucket key
  if createOnly = true ∧ history ≠ [] then (none, storage)
  else
    let evidence : StoredObjectEvidence :=
      ⟨bucket, key, versionName (storage.counter + 1), data.length, digests.md5 data,
        some (digests.sha256 data), some contentType⟩
    (some evidence,
      { versions := storage.versions.insert (bucket, key) (history ++ [evidence])
        counter := storage.counter + 1 })

def inspectObject (bucket key : String) (version : Option String) : Option StoredObjectEvidence :=
  match version with
  | none => (storage.history bucket key).getLast?
  | some version => (storage.history bucket key).find? (·.version = version)

/-- `delete_object`: whether the exact version was there to be removed. -/
def deleteObject (bucket key version : String) : Bool × InMemoryObjectStorage :=
  let history := storage.history bucket key
  match history.findIdx? (·.version = version) with
  | none => (false, storage)
  | some index =>
    let rest := history.eraseIdx index
    (true, { storage with
      versions :=
        if rest = [] then storage.versions.erase (bucket, key)
        else storage.versions.insert (bucket, key) rest })

end InMemoryObjectStorage

inductive VerifyStatus
  | ok | mismatch | missing
  deriving DecidableEq

structure VerificationResult where
  status : VerifyStatus
  reason : String := ""

def verifyObject (expected : ExpectedContract) (observed : Option StoredObjectEvidence) :
    VerificationResult :=
  match observed with
  | none => ⟨.missing, "no object at reference"⟩
  | some observed =>
    if observed.bucket ≠ expected.expectedBucket then ⟨.mismatch, "bucket mismatch"⟩
    else if observed.key ≠ expected.expectedKey then ⟨.mismatch, "key mismatch"⟩
    else if observed.version = "" then ⟨.mismatch, "no immutable version pinned"⟩
    else if expected.expectedVersion.isSome ∧
        some observed.version ≠ expected.expectedVersion then ⟨.mismatch, "version mismatch"⟩
    else if observed.size ≠ expected.expectedSize then ⟨.mismatch, "size mismatch"⟩
    else if observed.checksumSha256 = none then
      ⟨.mismatch, "provider exposed no trustworthy full-object SHA-256"⟩
    else if observed.checksumSha256 ≠ some expected.expectedSha256 then
      ⟨.mismatch, "checksum mismatch"⟩
    else if observed.contentType.isSome ∧
        observed.contentType ≠ some expected.expectedContentType then
      ⟨.mismatch, "content-type mismatch"⟩
    else ⟨.ok, ""⟩

/-- The evidence shows what the contract expects, at whatever version. -/
structure Matches (expected : ExpectedContract) (observed : StoredObjectEvidence) : Prop where
  bucket : observed.bucket = expected.expectedBucket
  key : observed.key = expected.expectedKey
  size : observed.size = expected.expectedSize
  checksum : observed.checksumSha256 = some expected.expectedSha256
  contentType : ∀ exposed, observed.contentType = some exposed →
    exposed = expected.expectedContentType

theorem matches_of_verified {expected : ExpectedContract} {observed : StoredObjectEvidence}
    (verified : (verifyObject expected (some observed)).status = .ok) :
    Matches expected observed := by
  generalize answered : verifyObject expected (some observed) = answer at verified
  have refused : ∀ reason, (⟨.mismatch, reason⟩ : VerificationResult) ≠ answer := by
    rintro _ rfl
    cases verified
  rcases passed answered (refused _) with ⟨bucket, answered⟩
  rcases passed answered (refused _) with ⟨key, answered⟩
  rcases passed answered (refused _) with ⟨_, answered⟩
  rcases passed answered (refused _) with ⟨_, answered⟩
  rcases passed answered (refused _) with ⟨size, answered⟩
  rcases passed answered (refused _) with ⟨_, answered⟩
  rcases passed answered (refused _) with ⟨checksum, answered⟩
  rcases passed answered (refused _) with ⟨contentType, _⟩
  refine ⟨not_not.mp bucket, not_not.mp key, not_not.mp size, not_not.mp checksum, ?_⟩
  intro exposed shown
  by_contra different
  exact contentType ⟨by rw [shown]; rfl, fun same => by
    rw [shown] at same
    exact different (Option.some.inj same)⟩

/-! Upload sessions and their documents, written by guarded transitions. -/

abbrev Instant := Int

inductive SessionState
  | initiated | uploading | verifying | verified | failed | expired
  deriving DecidableEq

def SessionState.value : SessionState → String
  | .initiated => "initiated"
  | .uploading => "uploading"
  | .verifying => "verifying"
  | .verified => "verified"
  | .failed => "failed"
  | .expired => "expired"

def completableStates : List SessionState := [.uploading, .verifying]

structure UploadSessionRow where
  (uploadSessionId tenantId : String)
  expected : ExpectedContract
  state : SessionState
  (credentialExpiresAt sessionExpiresAt : Instant)
  verificationOwner : Option String := none
  verificationHoldUntil : Option Instant := none

structure DocumentRow where
  (documentId tenantId uploadSessionId : String)
  reference : ObjectReference
  size : Int
  (checksumSha256 contentType : String)

inductive ClaimRefusal
  | cleanupWon | illegalState | sessionExpired | heldByOther | versionConflict

def ClaimRefusal.code : ClaimRefusal → String
  | .cleanupWon => "cleanup_won"
  | .illegalState => "illegal_state"
  | .sessionExpired => "session_expired"
  | .heldByOther => "held_by_other"
  | .versionConflict => "version_conflict"

inductive CommitRefusal
  | cleanupWon | leaseLost | sessionExpired | notVerifying

def CommitRefusal.code : CommitRefusal → String
  | .cleanupWon => "cleanup_won"
  | .leaseLost => "lease_lost"
  | .sessionExpired => "session_expired"
  | .notVerifying => "not_verifying"

inductive Raised
  | keyError (key : String)
  | valueError (message : String)
  | versionAlreadyBound (current version : String)
  | verificationClaimUnavailable (refusal : ClaimRefusal)
  | commitGuardFailed (refusal : CommitRefusal)
  | duplicateDocument (uploadSessionId : String)
  | simulatedCommitFailure
  | scannerUnavailable (message : String)
  | objectAlreadyExists (bucket key : String)

inductive CleanupDecision
  | deleteOrphan | keepTooEarly | keepVerified | keepHasDocument | keepVerificationHold
  deriving DecidableEq

def cleanupNotBefore (credentialExpiresAt maxClockSkew safetyBuffer : Int) : Instant :=
  credentialExpiresAt + maxClockSkew + safetyBuffer

structure InMemoryStore where
  sessions : Dict String UploadSessionRow := ∅
  documentsBySession : Dict String DocumentRow := ∅

namespace InMemoryStore

variable (store : InMemoryStore) (uploadSessionId : String)

def session : Except Raised UploadSessionRow :=
  match store.sessions.lookup uploadSessionId with
  | none => .error (.keyError uploadSessionId)
  | some row => .ok row

def putSession (row : UploadSessionRow) : InMemoryStore :=
  { store with sessions := store.sessions.insert uploadSessionId row }

def bindObjectVersion (version : String) : Except Raised String × InMemoryStore :=
  match store.sessions.lookup uploadSessionId with
  | none => (.error (.keyError uploadSessionId), store)
  | some row =>
    match row.expected.expectedVersion with
    | none =>
      let expected := { row.expected with expectedVersion := some version }
      (.ok version, store.putSession uploadSessionId { row with expected })
    | some current =>
      if current ≠ version then (.error (.versionAlreadyBound current version), store)
      else (.ok current, store)

/-- The live lease of another owner. -/
def heldByOther (row : UploadSessionRow) (ownerToken : String) (now : Instant) : Bool :=
  row.state = .verifying &&
    (row.verificationOwner.any fun owner => owner ≠ ownerToken) &&
      row.verificationHoldUntil.any fun until_ => now < until_

def claimVerification (ownerToken observedVersion : String) (now holdTtl : Int) :
    Except Raised String × InMemoryStore :=
  match store.sessions.lookup uploadSessionId with
  | none => (.error (.keyError uploadSessionId), store)
  | some row =>
    if row.state ∉ completableStates then
      (.error (.verificationClaimUnavailable
        (if row.state = .expired then .cleanupWon else .illegalState)), store)
    else if now ≥ row.sessionExpiresAt then
      (.error (.verificationClaimUnavailable .sessionExpired), store)
    else if heldByOther row ownerToken now then
      (.error (.verificationClaimUnavailable .heldByOther), store)
    else if row.expected.expectedVersion.any (· ≠ observedVersion) then
      (.error (.verificationClaimUnavailable .versionConflict), store)
    else
      (.ok ownerToken, store.putSession uploadSessionId
        { row with
          expected := { row.expected with expectedVersion := some observedVersion }
          state := .verifying, verificationOwner := some ownerToken
          verificationHoldUntil := some (now + holdTtl) })

def renewVerificationHold (ownerToken : String) (now holdTtl : Int) :
    Except Raised Unit × InMemoryStore :=
  match store.sessions.lookup uploadSessionId with
  | none => (.error (.keyError uploadSessionId), store)
  | some row =>
    if row.state ≠ .verifying ∨ row.verificationOwner ≠ some ownerToken then
      (.error (.commitGuardFailed .leaseLost), store)
    else if now ≥ row.sessionExpiresAt then
      (.error (.commitGuardFailed .sessionExpired), store)
    else
      (.ok (), store.putSession uploadSessionId
        { row with verificationHoldUntil := some (now + holdTtl) })

def failVerificationIfOwner (ownerToken : String) : Except Raised Unit × InMemoryStore :=
  match store.sessions.lookup uploadSessionId with
  | none => (.error (.keyError uploadSessionId), store)
  | some row =>
    if row.state ≠ .verifying ∨ row.verificationOwner ≠ some ownerToken then
      (.error (.commitGuardFailed .leaseLost), store)
    else
      (.ok (), store.putSession uploadSessionId
        { row with state := .failed, verificationOwner := none, verificationHoldUntil := none })

variable (row : UploadSessionRow) (observed : StoredObjectEvidence) (documentId : String)

def documentOf : DocumentRow :=
  ⟨documentId, row.tenantId, uploadSessionId, observed.reference, observed.size,
    observed.checksumSha256.getD "", row.expected.expectedContentType⟩

/-- The document and the verified session, written together. -/
def verifiedWith : InMemoryStore :=
  { sessions := store.sessions.insert uploadSessionId
      { row with
        state := .verified, verificationOwner := none, verificationHoldUntil := none
        expected := { row.expected with expectedVersion := some observed.version } }
    documentsBySession := store.documentsBySession.insert uploadSessionId
      (documentOf uploadSessionId row observed documentId) }

/-- `commit_document_if_owner`; `documentId` is the identifier it would draw. -/
def commitDocumentIfOwner (observed : StoredObjectEvidence) (ownerToken : String) (now : Instant)
    (failBeforeCommit : Bool) (documentId : String) : Except Raised DocumentRow × InMemoryStore :=
  match store.sessions.lookup uploadSessionId with
  | none => (.error (.keyError uploadSessionId), store)
  | some row =>
    if row.state = .expired then (.error (.commitGuardFailed .cleanupWon), store)
    else if row.state ≠ .verifying then (.error (.commitGuardFailed .notVerifying), store)
    else if row.verificationOwner ≠ some ownerToken then
      (.error (.commitGuardFailed .leaseLost), store)
    else if now ≥ row.sessionExpiresAt then
      (.error (.commitGuardFailed .sessionExpired), store)
    else if (store.documentsBySession.lookup uploadSessionId).isSome then
      (.error (.duplicateDocument uploadSessionId), store)
    else if failBeforeCommit then (.error .simulatedCommitFailure, store)
    else
      (.ok (documentOf uploadSessionId row observed documentId),
        store.verifiedWith uploadSessionId row observed documentId)

def classifyCleanup (row : UploadSessionRow) (now maxClockSkew safetyBuffer : Int) :
    CleanupDecision :=
  if row.state = .verified then .keepVerified
  else if (store.documentsBySession.lookup uploadSessionId).isSome then .keepHasDocument
  else if row.state = .verifying ∧
      row.verificationHoldUntil.any (fun until_ => now < until_) = true then .keepVerificationHold
  else if now < cleanupNotBefore row.credentialExpiresAt maxClockSkew safetyBuffer then
    .keepTooEarly
  else .deleteOrphan

/-- The claim of `claim_cleanup`: the classification, with the row expired by it, and the
contract that the cleanup goes on with. -/
def expireOrphan (now maxClockSkew safetyBuffer : Int) :
    Except Raised (CleanupDecision × ExpectedContract) × InMemoryStore :=
  match store.sessions.lookup uploadSessionId with
  | none => (.error (.keyError uploadSessionId), store)
  | some row =>
    match store.classifyCleanup uploadSessionId row now maxClockSkew safetyBuffer with
    | .deleteOrphan =>
      (.ok (.deleteOrphan, row.expected), store.putSession uploadSessionId
        { row with state := .expired, verificationOwner := none, verificationHoldUntil := none })
    | kept => (.ok (kept, row.expected), store)

end InMemoryStore

end BackendHandbook.Uploads
