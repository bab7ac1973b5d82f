import BackendHandbook.Foundation.Dict
import BackendHandbook.Ingestion.Contracts

/-! Lifecycle records, the ingestion store, and the dispatch claim.

Every operation runs under the store lock, so it is one function from the store to
an answer and the store it leaves behind. A raised error keeps earlier writes. -/

namespace BackendHandbook.Ingestion

open Text

inductive Raised
  | keyError
  | valueError (message : String)
  | assertionError

inductive DocumentVersionLifecycle
  | registered | active | superseded | quarantined | tombstoned | staleResult
  deriving DecidableEq

inductive IngestionOperationState
  | readyForDispatch | parseDispatchStarted | pendingReconciliation | completed | failed
  | quarantined | provenNotExecuted
  deriving DecidableEq

inductive IngestionDispatchClaimOutcome
  | claimed | alreadyClaimed | identityConflict | stateConflict | versionConflict | fenceConflict
  | attemptSequenceConflict
  deriving DecidableEq

variable (state : DocumentHeadState) (pointer : Option String)

def DocumentHeadSnapshot.postInit : Option String :=
  if state = .active ∧ truthy pointer = false then
    some "an active document requires an active version pointer"
  else if state ≠ .active ∧ truthy pointer = true then
    some "only an active document may carry an active pointer"
  else none

theorem DocumentHeadSnapshot.postInit_none :
    postInit state pointer = none ↔ (state = .active ↔ truthy pointer = true) := by
  unfold postInit
  by_cases active : state = .active <;> simp [active]

/-- `replace(document, state=.., active_version_id=.., state_version+1, fence_token+1)`. -/
def DocumentHeadSnapshot.advance (document : DocumentHeadSnapshot)
    (state : DocumentHeadState) (pointer : Option String) : Except Raised DocumentHeadSnapshot :=
  match check : postInit state pointer with
  | some message => .error (.valueError message)
  | none => .ok
      { document with
        state := state, activeVersionId := pointer, stateVersion := document.stateVersion + 1
        fenceToken := document.fenceToken + 1
        pointer_iff := (postInit_none state pointer).mp check }

theorem DocumentHeadSnapshot.advance_ok {document next : DocumentHeadSnapshot}
    {state : DocumentHeadState} {pointer : Option String}
    (moved : document.advance state pointer = .ok next) :
    next.identity = document.identity ∧ next.state = state ∧ next.activeVersionId = pointer ∧
      next.stateVersion = document.stateVersion + 1 ∧
      next.fenceToken = document.fenceToken + 1 := by
  unfold advance at moved
  split at moved
  · cases moved
  · cases moved; exact ⟨rfl, rfl, rfl, rfl, rfl⟩

theorem DocumentHeadSnapshot.advance_succeeds (document : DocumentHeadSnapshot)
    (state : DocumentHeadState) (pointer : Option String) (valid : postInit state pointer = none) :
    ∃ next, document.advance state pointer = .ok next := by
  unfold advance
  split
  · next message failed => rw [valid] at failed; cases failed
  · exact ⟨_, rfl⟩

namespace DocumentVersionLifecycleRecord

def postInit (state : DocumentVersionLifecycle)
    (parsedArtifactId activationCommitId : Option String) : Option String :=
  let complete := truthy parsedArtifactId && truthy activationCommitId
  if truthy parsedArtifactId ≠ truthy activationCommitId then
    some "publication facts must be complete or absent"
  else if (state = .active ∨ state = .superseded) ∧ complete = false then
    some "activated or superseded version requires publication facts"
  else if (state = .registered ∨ state = .quarantined ∨ state = .staleResult) ∧ complete = true then
    some "unpublished lifecycle state cannot carry publication facts"
  else none

end DocumentVersionLifecycleRecord

structure DocumentVersionLifecycleRecord where
  definition : DocumentVersionDefinition
  state : DocumentVersionLifecycle
  (parsedArtifactId activationCommitId : Option String)
  (stateVersion fenceToken : Nat)
  valid : DocumentVersionLifecycleRecord.postInit state parsedArtifactId
    activationCommitId = none

namespace DocumentVersionLifecycleRecord

def advance (version : DocumentVersionLifecycleRecord) (state : DocumentVersionLifecycle)
    (parsedArtifactId activationCommitId : Option String) :
    Except Raised DocumentVersionLifecycleRecord :=
  match check : postInit state parsedArtifactId activationCommitId with
  | some message => .error (.valueError message)
  | none => .ok
      { version with
        state := state, parsedArtifactId := parsedArtifactId
        activationCommitId := activationCommitId, stateVersion := version.stateVersion + 1
        fenceToken := version.fenceToken + 1, valid := check }

theorem advance_ok
    {version next : DocumentVersionLifecycleRecord} {state : DocumentVersionLifecycle}
    {artifactId commitId : Option String}
    (moved : version.advance state artifactId commitId = .ok next) :
    next.definition = version.definition ∧ next.state = state ∧
      next.parsedArtifactId = artifactId ∧ next.activationCommitId = commitId ∧
      next.stateVersion = version.stateVersion + 1 := by
  unfold advance at moved
  split at moved
  · cases moved
  · cases moved; exact ⟨rfl, rfl, rfl, rfl, rfl⟩

variable (version : DocumentVersionLifecycleRecord)

theorem advance_succeeds (state : DocumentVersionLifecycle)
    (artifactId commitId : Option String) (valid : postInit state artifactId commitId = none) :
    ∃ next, version.advance state artifactId commitId = .ok next := by
  unfold advance
  split
  · next message failed => rw [valid] at failed; cases failed
  · exact ⟨_, rfl⟩

theorem published (state : version.state = .active ∨ version.state = .superseded) :
    truthy version.parsedArtifactId = true ∧ truthy version.activationCommitId = true := by
  have valid := version.valid
  unfold postInit at valid
  split_ifs at valid
  cases artifact : truthy version.parsedArtifactId <;> simp_all

theorem retirable :
    postInit .tombstoned version.parsedArtifactId version.activationCommitId = none := by
  have valid := version.valid
  unfold postInit at valid ⊢
  split_ifs at valid with uneven
  simp [uneven]

end DocumentVersionLifecycleRecord

namespace IngestionOperationRecord

def requiresAttempt : IngestionOperationState → Bool
  | .parseDispatchStarted | .pendingReconciliation | .completed => true
  | _ => false

def postInit (identity : IngestionOperationIdentity) (state : IngestionOperationState)
    (attempt : Option ParserAttemptIdentity) (history : List ParserAttemptIdentity) :
    Option String :=
  if requiresAttempt state = true ∧ attempt = none then
    some "dispatched ingestion state requires an attempt"
  else if ¬ (history.map (·.attemptNumber)).Nodup then
    some "attempt history numbers must be unique"
  else if ¬ (history.map (·.parserRequestId)).Nodup then
    some "attempt history parser request ids must be unique"
  else if ∃ item ∈ history, item.operationId ≠ identity.operationId ∨
      item.idempotencyKey ≠ identity.idempotencyKey then
    some "attempt history must retain operation identity"
  else none

end IngestionOperationRecord

structure IngestionOperationRecord where
  identity : IngestionOperationIdentity
  state : IngestionOperationState
  (stateVersion fenceToken : Nat)
  attempt : Option ParserAttemptIdentity
  attemptHistory : List ParserAttemptIdentity
  valid : IngestionOperationRecord.postInit identity state attempt attemptHistory = none
  deriving DecidableEq

namespace IngestionOperationRecord

def advance (operation : IngestionOperationRecord) (state : IngestionOperationState)
    (attempt : Option ParserAttemptIdentity) (history : List ParserAttemptIdentity) :
    Except Raised IngestionOperationRecord :=
  match check : postInit operation.identity state attempt history with
  | some message => .error (.valueError message)
  | none => .ok
      { operation with
        state := state, stateVersion := operation.stateVersion + 1
        fenceToken := operation.fenceToken + 1, attempt := attempt, attemptHistory := history
        valid := check }

theorem advance_ok {operation next : IngestionOperationRecord}
    {state : IngestionOperationState} {attempt : Option ParserAttemptIdentity}
    {history : List ParserAttemptIdentity}
    (moved : operation.advance state attempt history = .ok next) :
    next.identity = operation.identity ∧ next.state = state ∧
      next.stateVersion = operation.stateVersion + 1 ∧
      next.fenceToken = operation.fenceToken + 1 ∧ next.attempt = attempt ∧
      next.attemptHistory = history := by
  unfold advance at moved
  split at moved
  · cases moved
  · cases moved; exact ⟨rfl, rfl, rfl, rfl, rfl, rfl⟩

variable (operation : IngestionOperationRecord)

theorem advance_succeeds (state : IngestionOperationState)
    (carried : requiresAttempt state = true → operation.attempt.isSome = true) :
    ∃ next, operation.advance state operation.attempt operation.attemptHistory = .ok next := by
  have valid := operation.valid
  have legal : postInit operation.identity state operation.attempt
      operation.attemptHistory = none := by
    unfold postInit at valid ⊢
    split_ifs at valid with missing numbers requests foreign
    have attempted : ¬ (requiresAttempt state = true ∧ operation.attempt = none) := by
      rintro ⟨required, absent⟩
      simpa [absent] using carried required
    simp [attempted, numbers, requests, foreign]
  unfold advance
  split
  · next message failed => rw [legal] at failed; cases failed
  · exact ⟨_, rfl⟩

theorem attempt_of_required
    (required : requiresAttempt operation.state = true) : operation.attempt.isSome = true := by
  have valid := operation.valid
  unfold postInit at valid
  split_ifs at valid with missing
  cases carried : operation.attempt with
  | none => exact absurd ⟨required, carried⟩ missing
  | some => rfl

def remember (history : List ParserAttemptIdentity) (attempt : ParserAttemptIdentity) :
    List ParserAttemptIdentity :=
  if attempt ∈ history then history else history ++ [attempt]

def rememberCurrent (operation : IngestionOperationRecord) : List ParserAttemptIdentity :=
  match operation.attempt with
  | some attempt => remember operation.attemptHistory attempt
  | none => operation.attemptHistory

end IngestionOperationRecord

structure IngestionDispatchClaim where
  outcome : IngestionDispatchClaimOutcome
  record : Option IngestionOperationRecord := none
  durableTransition : Bool := false

structure IngestionLifecycleOutboxIntent where
  (eventId eventType tenantId documentId documentVersionId operationId : String)
  publishedAtEpochMs : Option Nat := none

/-- Checksum, size, media type and parse contract of one admitted source. -/
abbrev Fingerprint := String × Nat × String × String

structure InMemoryIngestionLifecycleStore where
  documents : Dict (String × String) DocumentHeadSnapshot := ∅
  versions : Dict (String × String × String) DocumentVersionLifecycleRecord := ∅
  operations : Dict String IngestionOperationRecord := ∅
  parsedArtifacts : Dict String ParsedArtifactDefinition := ∅
  sourceArtifacts : Dict String SourceArtifactReference := ∅
  operationSourceFingerprints : Dict String Fingerprint := ∅
  idempotencyOperations : Dict (String × String) String := ∅
  documentFingerprints : Dict (String × String × Fingerprint) String := ∅
  outbox : Dict String IngestionLifecycleOutboxIntent := ∅

abbrev Store := InMemoryIngestionLifecycleStore

def documentKey (identity : DocumentIdentity) : String × String :=
  (identity.tenantId, identity.documentId)

def versionKey (identity : DocumentVersionIdentity) : String × String × String :=
  (identity.tenantId, identity.documentId, identity.documentVersionId)

theorem documentKey_inj (first second : DocumentIdentity) :
    documentKey first = documentKey second ↔ first = second := by
  cases first
  cases second
  simp [documentKey]

theorem versionKey_inj (first second : DocumentVersionIdentity) :
    versionKey first = versionKey second ↔ first = second := by
  cases first
  cases second
  simp [versionKey]

namespace InMemoryIngestionLifecycleStore

variable (store : Store)

def document? (identity : DocumentIdentity) : Option DocumentHeadSnapshot :=
  store.documents.lookup (documentKey identity)

def version? (identity : DocumentVersionIdentity) : Option DocumentVersionLifecycleRecord :=
  store.versions.lookup (versionKey identity)

def operation? (operationId : String) : Option IngestionOperationRecord :=
  store.operations.lookup operationId

def putDocument (identity : DocumentIdentity) (document : DocumentHeadSnapshot) : Store :=
  { store with documents := store.documents.insert (documentKey identity) document }

def putVersion (key : String × String × String)
    (version : DocumentVersionLifecycleRecord) : Store :=
  { store with versions := store.versions.insert key version }

def putOperation (operationId : String) (operation : IngestionOperationRecord) : Store :=
  { store with operations := store.operations.insert operationId operation }

def emit (event : IngestionLifecycleOutboxIntent) : Store :=
  { store with outbox := store.outbox.setdefault event.eventId event }

section Views

variable (store : Store) {identity other : DocumentIdentity} {document : DocumentHeadSnapshot}
variable {key : String × String × String} {version : DocumentVersionLifecycleRecord}
variable {operationId : String} {operation : IngestionOperationRecord}
variable {event : IngestionLifecycleOutboxIntent}

@[simp] theorem document?_putVersion :
    (store.putVersion key version).document? identity = store.document? identity := rfl

@[simp] theorem document?_putOperation :
    (store.putOperation operationId operation).document? identity = store.document? identity := rfl

@[simp] theorem document?_emit :
    (store.emit event).document? identity = store.document? identity := rfl

theorem document?_putDocument : (store.putDocument identity document).document? other =
    if other = identity then some document else store.document? other := by
  simp [document?, putDocument, Dict.lookup_insert_eq, documentKey_inj]

@[simp] theorem versions_putDocument :
    (store.putDocument identity document).versions = store.versions := rfl

@[simp] theorem versions_putOperation :
    (store.putOperation operationId operation).versions = store.versions := rfl

@[simp] theorem versions_emit : (store.emit event).versions = store.versions := rfl

theorem lookup_putVersion (other : String × String × String) :
    (store.putVersion key version).versions.lookup other =
      if other = key then some version else store.versions.lookup other :=
  Dict.lookup_insert_eq _ _ _ _

@[simp] theorem operation?_putDocument :
    (store.putDocument identity document).operation? operationId =
      store.operation? operationId := rfl

@[simp] theorem operation?_putVersion : (store.putVersion key version).operation? operationId =
      store.operation? operationId := rfl

@[simp] theorem operation?_emit :
    (store.emit event).operation? operationId = store.operation? operationId := rfl

theorem operation?_putOperation (other : String) :
    (store.putOperation operationId operation).operation? other =
      if other = operationId then some operation else store.operation? other :=
  Dict.lookup_insert_eq _ _ _ _

@[simp] theorem parsedArtifacts_putDocument :
    (store.putDocument identity document).parsedArtifacts = store.parsedArtifacts := rfl

@[simp] theorem parsedArtifacts_putVersion :
    (store.putVersion key version).parsedArtifacts = store.parsedArtifacts := rfl

@[simp] theorem parsedArtifacts_putOperation :
    (store.putOperation operationId operation).parsedArtifacts = store.parsedArtifacts := rfl

@[simp] theorem parsedArtifacts_emit :
    (store.emit event).parsedArtifacts = store.parsedArtifacts := rfl

@[simp] theorem outbox_putDocument :
    (store.putDocument identity document).outbox = store.outbox := rfl

@[simp] theorem outbox_putVersion : (store.putVersion key version).outbox = store.outbox := rfl

@[simp] theorem outbox_putOperation :
    (store.putOperation operationId operation).outbox = store.outbox := rfl

@[simp] theorem outbox_emit :
    (store.emit event).outbox = store.outbox.setdefault event.eventId event := rfl

end Views

def readDocument (identity : DocumentIdentity) (store : Store) :
    Except Raised DocumentHeadSnapshot × Store :=
  match store.document? identity with
  | some document => (.ok document, store)
  | none => (.error .keyError, store)

def readVersion (identity : DocumentVersionIdentity) (store : Store) :
    Except Raised DocumentVersionLifecycleRecord × Store :=
  match store.version? identity with
  | some version => (.ok version, store)
  | none => (.error .keyError, store)

def readOperation (operationId : String) (store : Store) :
    Except Raised IngestionOperationRecord × Store :=
  match store.operation? operationId with
  | some operation => (.ok operation, store)
  | none => (.error .keyError, store)

/-- The recorded attempt admits the next one: a fresh number and a fresh request. -/
def attemptFollows (current : IngestionOperationRecord) (attempt : ParserAttemptIdentity) : Bool :=
  match current.attempt with
  | none => true
  | some recorded => attempt.attemptNumber == recorded.attemptNumber + 1 &&
      attempt.parserRequestId != recorded.parserRequestId

def claimParseDispatch (identity : IngestionOperationIdentity)
    (attempt : ParserAttemptIdentity) (expectedState : IngestionOperationState)
    (expectedStateVersion expectedFence : Int) (store : Store) :
    Except Raised IngestionDispatchClaim × Store :=
  match store.operation? identity.operationId with
  | none => (.ok { outcome := .identityConflict }, store)
  | some current =>
    if current.identity ≠ identity then
      (.ok { outcome := .identityConflict }, store)
    else if attempt.operationId ≠ identity.operationId ∨
        attempt.idempotencyKey ≠ identity.idempotencyKey then
      (.ok { outcome := .identityConflict, record := some current }, store)
    else if current.state = .parseDispatchStarted ∧ current.attempt = some attempt then
      (.ok { outcome := .alreadyClaimed, record := some current }, store)
    else if current.state ≠ expectedState then
      (.ok { outcome := .stateConflict, record := some current }, store)
    else if (current.stateVersion : Int) ≠ expectedStateVersion then
      (.ok { outcome := .versionConflict, record := some current }, store)
    else if (current.fenceToken : Int) ≠ expectedFence then
      (.ok { outcome := .fenceConflict, record := some current }, store)
    else if ¬ attemptFollows current attempt then
      (.ok { outcome := .attemptSequenceConflict, record := some current }, store)
    else
      match current.advance .parseDispatchStarted (some attempt)
          (IngestionOperationRecord.remember current.rememberCurrent attempt) with
      | .error raised => (.error raised, store)
      | .ok claimed =>
        (.ok { outcome := .claimed, record := some claimed, durableTransition := true },
          store.putOperation identity.operationId claimed)

end InMemoryIngestionLifecycleStore
end BackendHandbook.Ingestion
