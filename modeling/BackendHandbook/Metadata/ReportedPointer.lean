import BackendHandbook.Embedding.Rollback
import BackendHandbook.Metadata.SnapshotHistory

/-! What a commit reports of the pointer, first and replayed. -/

namespace BackendHandbook.Metadata

open Ingestion Chunking Run MetadataCommitter

section Statement

variable (hashing : Hashing) (identities : MetadataHashing)

/-- A commit that is reported comes with a snapshot and the pointer that names it. -/
def ReportsTruth (answer : Except MetadataRaised MetadataCommitResult) : Prop :=
  ∀ result, answer = .ok result → result.outcome = .committed ∨ result.outcome = .alreadyCommitted →
    ∃ snapshot ∈ result.snapshot, ∃ pointer ∈ result.pointer,
      pointer.snapshotId = snapshot.snapshotId

def Truthful : MetadataEvent → Prop
  | ⟨_, .persist _ _ _ _, response, _⟩ => ReportsTruth response
  | _ => True

/-- The call replays a commit, and another snapshot has been committed on top of its own. -/
def ReplaysSuperseded (store : InMemoryMetadataStore) : Call → Prop
  | .persist day95 chunks decision contract => ∃ candidate ∈ decision.candidate,
      refusal hashing identities day95 chunks contract candidate store = .ok none ∧
        ∃ snapshotId ∈ store.resultKeys.lookup (candidate.operation.stableResultKey identities),
        ∃ existing ∈ store.snapshots.lookup snapshotId,
          (comparands existing.assertions = comparands candidate.assertions ∧
            existing.contractFingerprint = contract.fingerprint identities) ∧
          ∃ pointer ∈ store.pointers.lookup (pointerKey candidate.operation),
            pointer.snapshotId ≠ snapshotId
  | _ => False

end Statement

section Reports

variable {hashing : Hashing} {identities : MetadataHashing} {store after : InMemoryMetadataStore}
variable {call : Call}

/-- Every snapshot is stored under its own identity. -/
def Named (store : InMemoryMetadataStore) : Prop :=
  ∀ snapshotId, ∀ snapshot ∈ store.snapshots.lookup snapshotId, snapshot.snapshotId = snapshotId

theorem named_change (named : Named store) (change : Change identities store call after) :
    Named after := by
  cases change with
  | same | claimed | applied => exact named
  | committed => exact Dict.forall_insert rfl named

theorem reportsTruth_ok {result : MetadataCommitResult} : ReportsTruth (.ok result) ↔
    (result.outcome = .committed ∨ result.outcome = .alreadyCommitted →
      ∃ snapshot ∈ result.snapshot, ∃ pointer ∈ result.pointer,
        pointer.snapshotId = snapshot.snapshotId) := by
  simp [ReportsTruth]

variable {candidate : MetadataProjectionCandidate}

variable {contract : MetadataContract}

theorem replay_truthful_iff (named : Named store) {existingId : String} :
    ReportsTruth (replay identities existingId contract candidate store) ↔
      ¬ ∃ existing ∈ store.snapshots.lookup existingId,
        (comparands existing.assertions = comparands candidate.assertions ∧
          existing.contractFingerprint = contract.fingerprint identities) ∧
        ∃ pointer ∈ store.pointers.lookup (pointerKey candidate.operation),
          pointer.snapshotId ≠ existingId := by
  unfold replay
  cases stored : store.snapshots.lookup existingId with
  | none => simp [ReportsTruth]
  | some existing =>
    have own := named existingId existing stored
    dsimp only
    split
    · next differs =>
      rw [← not_and_or] at differs
      simp [refused, differs, reportsTruth_ok]
    · next agrees =>
      rw [← not_and_or, not_not] at agrees
      cases store.pointers.lookup (pointerKey candidate.operation) with
      | none => simp [ReportsTruth]
      | some => simp [agrees, own, reportsTruth_ok]

theorem commit_truthful_iff (named : Named store) :
    ReportsTruth (commit identities contract candidate store).1 ↔ ¬ ∃ snapshotId ∈
          store.resultKeys.lookup (candidate.operation.stableResultKey identities),
        ∃ existing ∈ store.snapshots.lookup snapshotId,
          (comparands existing.assertions = comparands candidate.assertions ∧
            existing.contractFingerprint = contract.fingerprint identities) ∧
          ∃ pointer ∈ store.pointers.lookup (pointerKey candidate.operation),
            pointer.snapshotId ≠ snapshotId := by
  unfold commit
  dsimp only
  cases store.resultKeys.lookup (candidate.operation.stableResultKey identities) with
  | some =>
    simp only [Option.mem_some_iff, exists_eq_left']
    exact replay_truthful_iff named
  | none =>
    dsimp only
    split
    · simp [refused, reportsTruth_ok]
    · simp [pointerOf, reportsTruth_ok]

theorem truthful_iff (named : Named store) (call : Call) :
    Truthful (event (perform hashing identities) store call) ↔
      ¬ ReplaysSuperseded hashing identities store call := by
  cases call with
  | claim | applyRefresh => exact iff_of_true trivial not_false
  | persist day95 chunks decision contract =>
    simp only [event, perform, Truthful, ReplaysSuperseded, persist]
    cases decision.candidate with
    | none => simp [refused, reportsTruth_ok]
    | some candidate =>
      simp only [Option.mem_some_iff, exists_eq_left']
      cases turned : refusal hashing identities day95 chunks contract candidate store with
      | error => simp [ReportsTruth]
      | ok result =>
        cases result with
        | some => simp [reportsTruth_ok, refusal_some turned]
        | none =>
          simp only [true_and]
          exact commit_truthful_iff named

/-- What a commit reports is the current truth in the runs in which no commit is replayed after
another one has been made on top of it. -/
theorem reports_truthful_iff (hashing : Hashing) (identities : MetadataHashing)
    (calls : List Call) : (∀ e ∈ metadataTrace hashing identities calls, Truthful e) ↔
      ∀ e ∈ metadataTrace hashing identities calls,
        ¬ ReplaysSuperseded hashing identities e.before e.call := by
  refine forall₂_congr fun e member => ?_
  have named := (kept_trace (perform hashing identities) Named {} calls
    (fun other inside named => named_change named (event_change inside))
    (fun snapshotId snapshot found => by simp at found) e member).1
  rw [mem_trace_event _ _ _ e member]
  exact truthful_iff named e.call

end Reports

namespace Sample

open Embedding.Sample (chunkStore day95)

-- These functions keep apart what the run below hashes.
def plain : MetadataHashing :=
  { contract := fun contract => contract.version
    resultKey := fun (_, _, _, _, operationId, _) => operationId
    snapshot := Prod.fst
    event := fun (_, revision, snapshotId) => String.intercalate "/" [toString revision, snapshotId] }

def projection (operationId : String) (expectedSnapshotId : Option String)
    (named : decide (operationId ≠ "") = true := by exact Eq.refl true) :
    MetadataProjectionOperation :=
  { version := Ingestion.Sample.operation.version, chunkSetId := "chunk-set-1"
    operationId, idempotencyKey := operationId
    contractFingerprint := contract.fingerprint plain
    expectedSelectionRevision := 1, expectedDocumentStateVersion := 2, expectedDocumentFence := 2
    expectedSnapshotId, expectedSnapshotRevision := expectedSnapshotId.toList.length
    nonEmpty := ⟨by decide, of_decide_eq_true named, of_decide_eq_true named, stableHash_ne_empty _⟩
    baseline := by cases expectedSnapshotId <;> simp }

theorem first_pos : 0 < 1 ∧ 0 < 1 := by decide

variable (operation : MetadataProjectionOperation)

def attemptOf : MetadataProjectionAttempt :=
  { operationId := operation.operationId, attemptNumber := 1, requestId := "request-1"
    generation := 1, nonEmpty := ⟨operation.nonEmpty.2.1, by decide⟩, attempt_pos := first_pos }

def ready : MetadataValidationDecision :=
  { outcome := .readyForCommit, safeReason := "METADATA_CANDIDATE_VALIDATED"
    candidate := some { operation, attempt := attemptOf operation, assertions := [] }
    ready_iff := by simp }

def first : MetadataProjectionOperation := projection "op-1" none

/-- A second operation commits on top of the first one. -/
def stacked : List Call :=
  [first, projection "op-2" (some "metadata:sha256:op-1")].flatMap fun operation =>
    [.claim day95 chunkStore operation (attemptOf operation),
      .persist day95 chunkStore (ready operation) contract]

def superseded : Except MetadataRaised MetadataCommitResult → Bool
  | .ok { outcome := .alreadyCommitted, snapshot := some snapshot, pointer := some pointer, .. } =>
    pointer.snapshotId ≠ snapshot.snapshotId
  | _ => false

theorem not_reportsTruth {answer : Except MetadataRaised MetadataCommitResult}
    (behind : superseded answer = true) : ¬ ReportsTruth answer := by
  unfold superseded at behind
  split at behind
  · simpa [reportsTruth_ok] using behind
  · cases behind

/-- The first commit is replayed behind the second one. -/
theorem replayed_reports_superseded : ¬ ∀ e ∈ metadataTrace Chunking.Sample.hashing plain
        (stacked ++ [.persist day95 chunkStore (ready first) contract]), Truthful e := by
  intro truthful
  have last := truthful _ (event_mem_trace (perform Chunking.Sample.hashing plain) {} stacked []
    (.persist day95 chunkStore (ready first) contract))
  exact not_reportsTruth (by decide +kernel) last

end Sample

end BackendHandbook.Metadata
