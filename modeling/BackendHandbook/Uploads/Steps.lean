import BackendHandbook.Uploads.Finalize

/-! What one step can do to the upload sessions, their documents, and the storage. -/

namespace BackendHandbook.Uploads

open Run InMemoryStore

def SameContract (first second : ExpectedContract) : Prop :=
  { first with expectedVersion := none } = { second with expectedVersion := none }

section SameContract

variable {first second : ExpectedContract} (same : SameContract first second)
include same

theorem SameContract.bucket : first.expectedBucket = second.expectedBucket := by
  have parts := congrArg ExpectedContract.expectedBucket same
  exact parts

theorem SameContract.key : first.expectedKey = second.expectedKey := by
  have parts := congrArg ExpectedContract.expectedKey same
  exact parts

theorem SameContract.contentType : first.expectedContentType = second.expectedContentType := by
  have parts := congrArg ExpectedContract.expectedContentType same
  exact parts

end SameContract

theorem Matches.of_same {first second : ExpectedContract} {observed : StoredObjectEvidence}
    (shows : Matches first observed) (same : SameContract first second) :
    Matches second observed := by
  rcases first with ⟨_, _, _, _, _, _⟩
  cases same
  exact ⟨shows.bucket, shows.key, shows.size, shows.checksum, shows.contentType⟩

section StoreMoves

variable {store : InMemoryStore} {uploadSessionId ownerToken version : String}
variable {now holdTtl maxClockSkew safetyBuffer : Int}

/-- A row rewritten without a commit. -/
structure RowMove (row updated : UploadSessionRow) : Prop where
  contract : SameContract row.expected updated.expected
  bound : ∀ version, row.expected.expectedVersion = some version →
    updated.expected.expectedVersion = some version
  verified : updated.state = .verified ↔ row.state = .verified
  expired : row.state = .expired → updated.state = .expired

/-- A call leaves the store as it is, rewrites one session, or commits its document. -/
inductive StoreMove (store : InMemoryStore) : Call → InMemoryStore → Prop
  | unchanged (call : Call) : StoreMove store call store
  | rewritten (call : Call) (uploadSessionId : String) (row updated : UploadSessionRow)
      (found : store.sessions.lookup uploadSessionId = some row) (moved : RowMove row updated) :
      StoreMove store call (store.putSession uploadSessionId updated)
  | committed (uploadSessionId : String) (observed : StoredObjectEvidence) (ownerToken : String)
      (now : Instant) (failBeforeCommit : Bool) (documentId : String) (row : UploadSessionRow)
      (found : store.sessions.lookup uploadSessionId = some row)
      (verifying : row.state = .verifying)
      (undocumented : store.documentsBySession.lookup uploadSessionId = none) :
      StoreMove store
        (.commitDocumentIfOwner uploadSessionId observed ownerToken now failBeforeCommit documentId)
        (store.verifiedWith uploadSessionId row observed documentId)

variable (call : Call)

theorem bindObjectVersion_move :
    StoreMove store call (store.bindObjectVersion uploadSessionId version).2 := by
  unfold InMemoryStore.bindObjectVersion
  cases found : store.sessions.lookup uploadSessionId with
  | none => exact .unchanged call
  | some row =>
    dsimp only
    cases bound : row.expected.expectedVersion with
    | none =>
      refine .rewritten call uploadSessionId row _ found ⟨rfl, ?_, Iff.rfl, id⟩
      intro other held
      rw [bound] at held
      cases held
    | some =>
      dsimp only
      split
      · exact .unchanged call
      · exact .unchanged call

theorem claimVerification_move : StoreMove store call
    (store.claimVerification uploadSessionId ownerToken version now holdTtl).2 := by
  unfold InMemoryStore.claimVerification
  cases found : store.sessions.lookup uploadSessionId with
  | none => exact .unchanged call
  | some row =>
    dsimp only
    by_cases completable : row.state ∈ completableStates
    · rw [if_neg (not_not.mpr completable)]
      split
      · exact .unchanged call
      split
      · exact .unchanged call
      split
      · exact .unchanged call
      · next conflict =>
        refine .rewritten call uploadSessionId row _ found ⟨rfl, ?_, ?_, ?_⟩
        · intro other bound
          rw [bound, Option.any_some, decide_eq_true_eq, not_not] at conflict
          rw [conflict]
        · constructor
          · intro verified
            cases verified
          · intro verified
            rw [verified] at completable
            exact absurd completable (by decide)
        · intro expired
          rw [expired] at completable
          exact absurd completable (by decide)
    · rw [if_pos completable]
      exact .unchanged call

theorem renewVerificationHold_move : StoreMove store call
    (store.renewVerificationHold uploadSessionId ownerToken now holdTtl).2 := by
  unfold InMemoryStore.renewVerificationHold
  cases found : store.sessions.lookup uploadSessionId with
  | none => exact .unchanged call
  | some row =>
    dsimp only
    split
    · exact .unchanged call
    split
    · exact .unchanged call
    · exact .rewritten call uploadSessionId row _ found ⟨rfl, fun _ => id, Iff.rfl, id⟩

theorem failVerificationIfOwner_move : StoreMove store call
    (store.failVerificationIfOwner uploadSessionId ownerToken).2 := by
  unfold InMemoryStore.failVerificationIfOwner
  cases found : store.sessions.lookup uploadSessionId with
  | none => exact .unchanged call
  | some row =>
    dsimp only
    split
    · exact .unchanged call
    · next owned =>
      have verifying : row.state = .verifying := by
        by_contra different
        exact owned (.inl different)
      refine .rewritten call uploadSessionId row _ found ⟨rfl, fun _ => id, ?_, ?_⟩
      · rw [verifying]
        constructor
        · intro failed
          cases failed
        · intro verified
          cases verified
      · intro expired
        rw [verifying] at expired
        cases expired

theorem classifyCleanup_orphan {row : UploadSessionRow}
    (orphan : store.classifyCleanup uploadSessionId row now maxClockSkew safetyBuffer =
      .deleteOrphan) : row.state ≠ .verified := by
  intro verified
  rw [classifyCleanup, if_pos verified] at orphan
  cases orphan

theorem expireOrphan_move (call : Call) : StoreMove store call
    (store.expireOrphan uploadSessionId now maxClockSkew safetyBuffer).2 := by
  unfold InMemoryStore.expireOrphan
  cases found : store.sessions.lookup uploadSessionId with
  | none => exact .unchanged call
  | some row =>
    dsimp only
    cases decision : store.classifyCleanup uploadSessionId row now maxClockSkew safetyBuffer with
    | deleteOrphan =>
      have unverified := classifyCleanup_orphan decision
      refine .rewritten call uploadSessionId row _ found ⟨rfl, fun _ => id, ?_, fun _ => rfl⟩
      constructor
      · intro expired
        cases expired
      · intro verified
        exact absurd verified unverified
    | keepTooEarly | keepVerified | keepHasDocument | keepVerificationHold => exact .unchanged call

theorem commitDocumentIfOwner_cases (store : InMemoryStore) (uploadSessionId ownerToken : String)
    (now : Instant) (observed : StoredObjectEvidence) (failBeforeCommit : Bool)
    (documentId : String) :
    (∃ raised, store.commitDocumentIfOwner uploadSessionId observed ownerToken now
        failBeforeCommit documentId = (.error raised, store)) ∨
      ∃ row, store.sessions.lookup uploadSessionId = some row ∧ row.state = .verifying ∧
        store.documentsBySession.lookup uploadSessionId = none ∧
        store.commitDocumentIfOwner uploadSessionId observed ownerToken now failBeforeCommit
            documentId =
          (.ok (documentOf uploadSessionId row observed documentId),
            store.verifiedWith uploadSessionId row observed documentId) := by
  unfold InMemoryStore.commitDocumentIfOwner
  cases found : store.sessions.lookup uploadSessionId with
  | none => exact .inl ⟨_, rfl⟩
  | some row =>
    dsimp only
    split
    · exact .inl ⟨_, rfl⟩
    by_cases verifying : row.state = .verifying
    · rw [if_neg (not_not.mpr verifying)]
      split
      · exact .inl ⟨_, rfl⟩
      split
      · exact .inl ⟨_, rfl⟩
      cases documented : store.documentsBySession.lookup uploadSessionId with
      | some => exact .inl ⟨_, rfl⟩
      | none =>
        rw [if_neg (by decide)]
        split
        · exact .inl ⟨_, rfl⟩
        · exact .inr ⟨row, rfl, verifying, rfl, rfl⟩
    · rw [if_pos verifying]
      exact .inl ⟨_, rfl⟩

theorem commitDocumentIfOwner_move (observed : StoredObjectEvidence) (failBeforeCommit : Bool)
    (documentId : String) : StoreMove store
    (.commitDocumentIfOwner uploadSessionId observed ownerToken now failBeforeCommit documentId)
    (store.commitDocumentIfOwner uploadSessionId observed ownerToken now failBeforeCommit
      documentId).2 := by
  rcases commitDocumentIfOwner_cases store uploadSessionId ownerToken now observed
      failBeforeCommit documentId with
    ⟨_, refused⟩ | ⟨row, found, verifying, undocumented, accepted⟩
  · rw [refused]
    exact .unchanged _
  · rw [accepted]
    exact .committed uploadSessionId observed ownerToken now failBeforeCommit documentId row found
      verifying undocumented

variable (digests : Digests) (scanner : Scanner)

theorem perform_storeMove (call : Call) (world : World) :
    StoreMove world.store call (perform digests scanner call world).2.store := by
  cases call with
  | session | document | inspectObject | deleteObject | putObject | scan => exact .unchanged _
  | claimVerification =>
    exact claimVerification_move _
  | renewVerificationHold =>
    exact renewVerificationHold_move _
  | failVerificationIfOwner => exact failVerificationIfOwner_move _
  | commitDocumentIfOwner => exact commitDocumentIfOwner_move _ _ _
  | expireOrphan => exact expireOrphan_move _
  | bindObjectVersion => exact bindObjectVersion_move _

end StoreMoves

section Kept

variable {store after : InMemoryStore} {call : Call} {uploadSessionId version : String}

/-- The session of an identifier has a contract, whatever version it is bound to. -/
def Contracted (uploadSessionId : String) (contract : ExpectedContract) (store : InMemoryStore) :
    Prop :=
  ∃ row, store.sessions.lookup uploadSessionId = some row ∧ SameContract contract row.expected

def BoundTo (uploadSessionId version : String) (store : InMemoryStore) : Prop :=
  ∃ row, store.sessions.lookup uploadSessionId = some row ∧
    row.expected.expectedVersion = some version

def Expired (uploadSessionId : String) (store : InMemoryStore) : Prop :=
  ∃ row, store.sessions.lookup uploadSessionId = some row ∧ row.state = .expired

def CommitsBound (store : InMemoryStore) : Call → Prop
  | .commitDocumentIfOwner uploadSessionId observed _ _ _ _ =>
    BoundTo uploadSessionId observed.version store
  | _ => True

theorem lookup_putSession (other : String) (row : UploadSessionRow) :
    (store.putSession uploadSessionId row).sessions.lookup other =
      if other = uploadSessionId then some row else store.sessions.lookup other :=
  Dict.lookup_insert_eq store.sessions uploadSessionId other row

/-- A property of one session's row that every rewriting and commit keeps. -/
theorem StoreMove.row_kept {P : UploadSessionRow → Prop} (move : StoreMove store call after)
    (rewriting : ∀ row updated, RowMove row updated → P row → P updated)
    (committing : ∀ row observed, row.state = .verifying →
      store.sessions.lookup uploadSessionId = some row → (∃ ownerToken now fails documentId, call =
        .commitDocumentIfOwner uploadSessionId observed ownerToken now fails documentId) →
      P row → P { row with
        state := .verified, verificationOwner := none, verificationHoldUntil := none
        expected := { row.expected with expectedVersion := some observed.version } })
    (holds : ∃ row, store.sessions.lookup uploadSessionId = some row ∧ P row) :
    ∃ row, after.sessions.lookup uploadSessionId = some row ∧ P row := by
  rcases holds with ⟨row, found, held⟩
  cases move with
  | unchanged => exact ⟨row, found, held⟩
  | rewritten _ other _ updated listed moved =>
    rw [lookup_putSession]
    by_cases same : uploadSessionId = other
    · subst same
      cases found.symm.trans listed
      rw [if_pos rfl]
      exact ⟨updated, rfl, rewriting row updated moved held⟩
    · rw [if_neg same]
      exact ⟨row, found, held⟩
  | committed other observed _ _ _ _ _ listed verifying =>
    simp only [verifiedWith, Dict.lookup_insert_eq]
    by_cases same : uploadSessionId = other
    · subst same
      cases found.symm.trans listed
      rw [if_pos rfl]
      exact ⟨_, rfl, committing row observed verifying found ⟨_, _, _, _, rfl⟩ held⟩
    · rw [if_neg same]
      exact ⟨row, found, held⟩

theorem StoreMove.contracted {contract : ExpectedContract} (move : StoreMove store call after)
    (holds : Contracted uploadSessionId contract store) :
    Contracted uploadSessionId contract after :=
  move.row_kept (fun _ _ moved same => same.trans moved.contract) (fun _ _ _ _ _ same => same)
    holds

theorem StoreMove.expired (move : StoreMove store call after)
    (holds : Expired uploadSessionId store) : Expired uploadSessionId after := by
  refine move.row_kept (fun _ _ moved => moved.expired) ?_ holds
  intro row observed verifying _ _ expired
  rw [verifying] at expired
  cases expired

theorem StoreMove.bound (move : StoreMove store call after) (legal : CommitsBound store call)
    (holds : BoundTo uploadSessionId version store) : BoundTo uploadSessionId version after := by
  refine move.row_kept (fun _ _ moved => moved.bound version) ?_ holds
  rintro _ _ _ found ⟨_, _, _, _, rfl⟩ bound
  rcases legal with ⟨_, stored, committed⟩
  cases found.symm.trans stored
  rw [← committed]
  exact bound

theorem StoreMove.document_kept {document : DocumentRow} (move : StoreMove store call after)
    (found : store.documentsBySession.lookup uploadSessionId = some document) :
    after.documentsBySession.lookup uploadSessionId = some document := by
  cases move with
  | unchanged | rewritten => exact found
  | committed other _ _ _ _ _ _ _ _ undocumented =>
    have different : uploadSessionId ≠ other := Dict.ne_of_absent undocumented found
    simp only [verifiedWith, Dict.lookup_insert_eq, if_neg different]
    exact found

def Documented (store : InMemoryStore) : Prop :=
  ∀ uploadSessionId, (∃ row, store.sessions.lookup uploadSessionId = some row ∧
    row.state = .verified) ↔
      ∃ document, store.documentsBySession.lookup uploadSessionId = some document

theorem StoreMove.documented (move : StoreMove store call after) (holds : Documented store) :
    Documented after := by
  intro uploadSessionId
  have before := holds uploadSessionId
  cases move with
  | unchanged => exact before
  | rewritten _ other stored updated listed moved =>
    rw [lookup_putSession]
    by_cases same : uploadSessionId = other
    · subst same
      rw [if_pos rfl]
      have rows : (∃ row, some updated = some row ∧ row.state = SessionState.verified) ↔
          ∃ row, store.sessions.lookup uploadSessionId = some row ∧ row.state = .verified := by
        rw [listed]
        constructor
        · rintro ⟨row, equal, verified⟩
          cases equal
          exact ⟨stored, rfl, moved.verified.mp verified⟩
        · rintro ⟨_, equal, verified⟩
          cases equal
          exact ⟨updated, rfl, moved.verified.mpr verified⟩
      exact rows.trans before
    · rw [if_neg same]
      exact before
  | committed other =>
    simp only [verifiedWith, Dict.lookup_insert_eq]
    by_cases same : uploadSessionId = other
    · simp only [if_pos same]
      exact ⟨fun _ => ⟨_, rfl⟩, fun _ => ⟨_, rfl, rfl⟩⟩
    · simp only [if_neg same]
      exact before

def Opened (opening store : InMemoryStore) : Prop :=
  ∀ uploadSessionId row, store.sessions.lookup uploadSessionId = some row →
    ∃ first, opening.sessions.lookup uploadSessionId = some first ∧
      SameContract first.expected row.expected

theorem StoreMove.opened {opening : InMemoryStore} (move : StoreMove store call after)
    (holds : Opened opening store) : Opened opening after := by
  intro uploadSessionId row found
  cases move with
  | unchanged => exact holds uploadSessionId row found
  | rewritten _ _ stored _ listed moved =>
    rw [lookup_putSession] at found
    split at found
    · next same =>
      subst same
      cases found
      rcases holds uploadSessionId stored listed with ⟨first, known, agrees⟩
      exact ⟨first, known, agrees.trans moved.contract⟩
    · exact holds uploadSessionId row found
  | committed _ _ _ _ _ _ stored listed =>
    simp only [verifiedWith, Dict.lookup_insert_eq] at found
    split at found
    · next same =>
      subst same
      cases found
      exact holds uploadSessionId stored listed
    · exact holds uploadSessionId row found

end Kept

section Storage

variable {digests : Digests} {storage : InMemoryObjectStorage} {bucket key version : String}
variable {evidence : StoredObjectEvidence}

namespace InMemoryObjectStorage

theorem history_insert (storage : InMemoryObjectStorage) (bucket key : String) (counter : Nat)
    (other : String × String) (entries : List StoredObjectEvidence) :
    history { versions := storage.versions.insert other entries, counter } bucket key =
      if (bucket, key) = other then entries else storage.history bucket key := by
  rw [history, Dict.lookup_insert_eq]
  split
  · rfl
  · rfl

theorem mem_put {other name : String} {data : Bytes} {contentType : String} {createOnly : Bool}
    (inside : evidence ∈ (storage.putObject digests other name data contentType createOnly).2.history
      bucket key) : evidence ∈ storage.history bucket key ∨ (bucket = other ∧ key = name ∧
        (storage.putObject digests other name data contentType createOnly).1 = some evidence) := by
  unfold putObject at inside ⊢
  dsimp only at inside ⊢
  split at inside
  · exact .inl inside
  · next free =>
    rw [if_neg free]
    rw [history_insert] at inside
    split at inside
    · next same =>
      cases same
      rcases List.mem_append.mp inside with old | new
      · exact .inl old
      · exact .inr ⟨rfl, rfl, by rw [List.mem_singleton.mp new]⟩
    · exact .inl inside

theorem mem_delete {other name : String}
    (inside : evidence ∈ (storage.deleteObject other name version).2.history bucket key) :
    evidence ∈ storage.history bucket key := by
  unfold deleteObject at inside
  dsimp only at inside
  split at inside
  · exact inside
  · next index found =>
    split at inside
    · rw [history] at inside
      by_cases same : (bucket, key) = (other, name)
      · cases same
        rw [AList.lookup_erase] at inside
        cases inside
      · rw [AList.lookup_erase_ne same] at inside
        exact inside
    · have entry := history_insert storage bucket key storage.counter (other, name)
        ((storage.history other name).eraseIdx index)
      rw [entry] at inside
      split at inside
      · next same =>
        cases same
        exact List.mem_of_mem_eraseIdx inside
      · exact inside

theorem mem_inspect {exact_ : Option String}
    (shown : storage.inspectObject bucket key exact_ = some evidence) :
    evidence ∈ storage.history bucket key := by
  unfold inspectObject at shown
  split at shown
  · exact List.mem_of_getLast? shown
  · exact List.mem_of_find?_eq_some shown

end InMemoryObjectStorage

end Storage

end BackendHandbook.Uploads
