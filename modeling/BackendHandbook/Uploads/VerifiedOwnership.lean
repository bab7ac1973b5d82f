import BackendHandbook.Foundation.Text
import BackendHandbook.Foundation.Threads
import BackendHandbook.Uploads.Steps

/-! Verified uploads: which object version a document owns, whatever finalizers, cleanups and
clients do beside each other. -/

namespace BackendHandbook.Uploads

open Run Interleaving InMemoryObjectStorage InMemoryStore

/-- Sessions that no finalizer has verified yet, each with an object of its own. -/
structure OpenSessions where
  store : InMemoryStore
  undocumented : store.documentsBySession = ∅
  unverified : ∀ uploadSessionId row, store.sessions.lookup uploadSessionId = some row →
    row.state ≠ .verified
  distinct : ∀ uploadSessionId other row second,
    store.sessions.lookup uploadSessionId = some row → store.sessions.lookup other = some second →
      row.expected.expectedBucket = second.expected.expectedBucket →
        row.expected.expectedKey = second.expected.expectedKey → uploadSessionId = other

def fact (e : UploadEvent) : Fact := ⟨e.call, e.response⟩

def commits (uploadSessionId : String) : UploadEvent → Bool
  | ⟨_, .commitDocumentIfOwner own .., .ok _, _⟩ => own = uploadSessionId
  | _ => false

section Model

variable (digests : Digests) (scanner : Scanner) (opening : OpenSessions) (actions : List Action)

/-- The bytes of a version: it has been put, and only with what the contract expects. -/
structure StoredAs (expected : ExpectedContract) (reference : ObjectReference) : Prop where
  put : ∃ e ∈ schedule digests scanner opening.store actions, ∃ data contentType createOnly evidence,
    fact e = ⟨.putObject expected.expectedBucket expected.expectedKey data contentType createOnly,
      .ok evidence⟩ ∧ evidence.reference = reference
  bytes : ∀ e ∈ schedule digests scanner opening.store actions,
    ∀ bucket key data contentType createOnly evidence,
      fact e = ⟨.putObject bucket key data contentType createOnly, .ok evidence⟩ →
        evidence.reference = reference →
          (data.length : Int) = expected.expectedSize ∧
            digests.sha256 data = expected.expectedSha256 ∧
              contentType = expected.expectedContentType

/-- What a document is of: the version its session is bound to, stored as expected and
scanned safe. -/
structure Owns (document : DocumentRow) (row : UploadSessionRow) : Prop where
  reference : ∃ version, row.expected.expectedVersion = some version ∧ document.reference =
    ⟨row.expected.expectedBucket, row.expected.expectedKey, some version⟩
  stored : StoredAs digests scanner opening actions row.expected document.reference
  scanned : ∃ e ∈ schedule digests scanner opening.store actions, ∃ observed,
    fact e = ⟨.scan observed, .ok .safe⟩ ∧ observed.reference = document.reference
  recorded : document.size = row.expected.expectedSize ∧
    document.checksumSha256 = row.expected.expectedSha256 ∧
      document.contentType = row.expected.expectedContentType

structure VerifiedOwnership : Prop where
  single : ∀ uploadSessionId,
    (schedule digests scanner opening.store actions).countP (commits uploadSessionId) ≤ 1
  verified : ∀ uploadSessionId row,
    (worldAfter digests scanner opening.store actions).store.sessions.lookup uploadSessionId =
      some row → (row.state = .verified ↔ ∃ document,
        (worldAfter digests scanner opening.store actions).store.documentsBySession.lookup
          uploadSessionId = some document)
  expired : ∀ front back uploadSessionId row, actions = front ++ back →
    (worldAfter digests scanner opening.store front).store.sessions.lookup uploadSessionId =
      some row → row.state = .expired → ∃ later,
        (worldAfter digests scanner opening.store actions).store.sessions.lookup uploadSessionId =
          some later ∧ later.state = .expired
  bound : ∀ front back uploadSessionId row version, actions = front ++ back →
    (worldAfter digests scanner opening.store front).store.sessions.lookup uploadSessionId =
      some row → row.expected.expectedVersion = some version → ∃ later,
        (worldAfter digests scanner opening.store actions).store.sessions.lookup uploadSessionId =
          some later ∧ later.expected.expectedVersion = some version
  owned : ∀ uploadSessionId document,
    (worldAfter digests scanner opening.store actions).store.documentsBySession.lookup
      uploadSessionId = some document → document.uploadSessionId = uploadSessionId ∧ ∃ row,
        (worldAfter digests scanner opening.store actions).store.sessions.lookup uploadSessionId =
          some row ∧ Owns digests scanner opening actions document row
  retained : ∀ e ∈ schedule digests scanner opening.store actions, ∀ bucket key version,
    fact e = ⟨.deleteObject bucket key version, .ok true⟩ → ∀ uploadSessionId document,
      (worldAfter digests scanner opening.store actions).store.documentsBySession.lookup
        uploadSessionId = some document → document.reference ≠ ⟨bucket, key, some version⟩

end Model

section Events

variable {digests : Digests} {scanner : Scanner} {opening : OpenSessions} {actions : List Action}
variable {e : UploadEvent}

theorem worldAfter_eq (store : InMemoryStore) : worldAfter digests scanner store actions =
    final (perform digests scanner) ⟨store, {}, 0⟩ (scheduleCalls digests scanner store actions) :=
  Interleaving.run_state (perform digests scanner) _ _

theorem scheduleCalls_append (digests : Digests) (scanner : Scanner) (store : InMemoryStore)
    (front back : List Action) : ∃ later, scheduleCalls digests scanner store (front ++ back) =
      scheduleCalls digests scanner store front ++ later := by
  unfold scheduleCalls
  rw [List.map_append, Interleaving.calls_append]
  exact ⟨_, rfl⟩

theorem event_move (member : e ∈ schedule digests scanner opening.store actions) :
    StoreMove e.before.store e.call e.after.store := by
  rcases mem_trace_performed member with ⟨_, moved⟩
  rw [moved]
  exact perform_storeMove digests scanner e.call e.before

theorem event_answer (member : e ∈ schedule digests scanner opening.store actions) {call : Call}
    {answer : Except Raised call.Answer} (is : fact e = ⟨call, answer⟩) :
    (perform digests scanner call e.before).1 = answer ∧
      e.after = (perform digests scanner call e.before).2 := by
  rcases mem_trace_performed member with ⟨answered, moved⟩
  cases is
  exact ⟨answered.symm, moved⟩

theorem event_allowed {front back : List UploadEvent}
    (split : schedule digests scanner opening.store actions = front ++ e :: back) :
    ∃ known, Recorded front known ∧ Allowed known e.call := by
  refine recalled (perform digests scanner) [] ⟨⟨opening.store, {}, 0⟩, []⟩
    (actions.map Action.turn) (fun thread nothing => by cases nothing) ?_ front e back split
  intro program member
  rcases List.mem_map.mp member with ⟨action, _, turned⟩
  cases action with
  | resume => cases turned
  | enter party =>
    cases turned
    exact party.program_recalls

variable {uploadSessionId : String}

theorem claimed_bound {ownerToken version token : String} {now holdTtl : Int}
    (member : e ∈ schedule digests scanner opening.store actions)
    (is : fact e = ⟨.claimVerification uploadSessionId ownerToken version now holdTtl, .ok token⟩) :
    BoundTo uploadSessionId version e.after.store := by
  rcases event_answer member is with ⟨answered, moved⟩
  rw [moved]
  simp only [perform, onStore, claimVerification] at answered ⊢
  cases found : e.before.store.sessions.lookup uploadSessionId with
  | none =>
    rw [found] at answered
    cases answered
  | some =>
    rw [found] at answered
    dsimp only at answered ⊢
    split at answered
    · cases answered
    split at answered
    · cases answered
    split at answered
    · cases answered
    split at answered
    · cases answered
    · next completable live free agrees =>
      rw [if_neg completable, if_neg live, if_neg free, if_neg agrees]
      exact ⟨_, by rw [lookup_putSession, if_pos rfl], rfl⟩

theorem read_contract {row : UploadSessionRow}
    (member : e ∈ schedule digests scanner opening.store actions)
    (is : fact e = ⟨.session uploadSessionId, .ok row⟩) :
    Contracted uploadSessionId row.expected e.after.store := by
  rcases event_answer member is with ⟨answered, moved⟩
  rw [moved]
  simp only [perform, session] at answered ⊢
  cases found : e.before.store.sessions.lookup uploadSessionId with
  | none =>
    rw [found] at answered
    cases answered
  | some =>
    rw [found] at answered
    cases answered
    exact ⟨row, found, rfl⟩

theorem orphan_expired {now maxClockSkew safetyBuffer : Int}
    {expected : ExpectedContract} (member : e ∈ schedule digests scanner opening.store actions)
    (is : fact e = ⟨.expireOrphan uploadSessionId now maxClockSkew safetyBuffer,
      .ok (.deleteOrphan, expected)⟩) : Expired uploadSessionId e.after.store ∧
      Contracted uploadSessionId expected e.after.store := by
  rcases event_answer member is with ⟨answered, moved⟩
  rw [moved]
  simp only [perform, onStore, expireOrphan] at answered ⊢
  cases found : e.before.store.sessions.lookup uploadSessionId with
  | none =>
    rw [found] at answered
    cases answered
  | some row =>
    rw [found] at answered
    dsimp only at answered ⊢
    cases decision : e.before.store.classifyCleanup uploadSessionId row now maxClockSkew
        safetyBuffer with
    | deleteOrphan =>
      rw [decision] at answered
      cases answered
      simp only [Expired, Contracted, lookup_putSession]
      exact ⟨⟨_, rfl, rfl⟩, ⟨_, rfl, rfl⟩⟩
    | keepTooEarly => rw [decision] at answered; cases answered
    | keepVerified => rw [decision] at answered; cases answered
    | keepHasDocument => rw [decision] at answered; cases answered
    | keepVerificationHold => rw [decision] at answered; cases answered

/-- Every commit finds its session bound to the version that it commits: an earlier claim has
bound it, and the commits before this one have kept the binding. -/
theorem commits_bound (member : e ∈ schedule digests scanner opening.store actions) :
    CommitsBound e.before.store e.call := by
  refine event_induction (perform digests scanner)
    (fun e => CommitsBound e.before.store e.call) _ _ ?_ e member
  intro front e back parts legal
  have split : schedule digests scanner opening.store actions = front ++ e :: back := parts
  rcases event_allowed split with ⟨_, recorded, allowed⟩
  cases asked : e.call with
  | commitDocumentIfOwner uploadSessionId observed =>
    rw [asked] at allowed
    rcases allowed with ⟨_, _, ⟨_, _, _, _, claimed⟩, _⟩
    rcases recorded _ claimed with ⟨earlier, inside, is⟩
    have listed : ∀ other ∈ front, other ∈ schedule digests scanner opening.store actions := by
      intro other early
      rw [split]
      exact List.mem_append_left _ early
    refine kept_upto (perform digests scanner)
      (fun world => BoundTo uploadSessionId observed.version world.store) split ?_ inside
      (claimed_bound (listed earlier inside) is)
    intro other early before
    exact (event_move (listed other early)).bound (legal other early) before
  | _ => trivial

theorem kept_to_end (P : InMemoryStore → Prop)
    (kept : ∀ e ∈ schedule digests scanner opening.store actions,
      P e.before.store → P e.after.store)
    (member : e ∈ schedule digests scanner opening.store actions) (holds : P e.after.store) :
    P (worldAfter digests scanner opening.store actions).store := by
  rw [worldAfter_eq]
  exact kept_after (perform digests scanner) (fun world => P world.store) kept member holds

theorem kept_on (P : InMemoryStore → Prop) {front back : List Action}
    (kept : ∀ e ∈ schedule digests scanner opening.store (front ++ back),
      P e.before.store → P e.after.store)
    (holds : P (worldAfter digests scanner opening.store front).store) :
    P (worldAfter digests scanner opening.store (front ++ back)).store := by
  rcases scheduleCalls_append digests scanner opening.store front back
    with ⟨later, split⟩
  rw [worldAfter_eq] at holds ⊢
  rw [split, final_append]
  refine kept_final (perform digests scanner) (fun world => P world.store) _ later ?_ holds
  intro e member
  apply kept e
  rw [schedule, split, trace_append]
  exact List.mem_append_right _ member

theorem event_bound {version : String} (member : e ∈ schedule digests scanner opening.store actions)
    (holds : BoundTo uploadSessionId version e.before.store) :
    BoundTo uploadSessionId version e.after.store :=
  (event_move member).bound (commits_bound member) holds

variable {evidence : StoredObjectEvidence} {createOnly : Bool} {data : Bytes}

theorem put_evidence {bucket key contentType : String}
    (member : e ∈ schedule digests scanner opening.store actions)
    (is : fact e = ⟨.putObject bucket key data contentType createOnly, .ok evidence⟩) :
    evidence = ⟨bucket, key, versionName (e.before.storage.counter + 1),
        data.length, digests.md5 data, some (digests.sha256 data), some contentType⟩ ∧
      e.after.storage.counter = e.before.storage.counter + 1 := by
  rcases event_answer member is with ⟨answered, moved⟩
  rw [moved]
  simp only [perform, InMemoryObjectStorage.putObject] at answered ⊢
  split at answered
  · cases answered
  · next shown put =>
    split at put
    · cases put
    · next free =>
      cases put
      cases answered
      rw [if_neg free]
      exact ⟨rfl, rfl⟩

theorem counter_le (member : e ∈ schedule digests scanner opening.store actions) :
    e.before.storage.counter ≤ e.after.storage.counter := by
  rcases mem_trace_performed member with ⟨_, moved⟩
  rw [moved]
  cases e.call with
  | putObject =>
    simp only [perform, InMemoryObjectStorage.putObject]
    split
    · exact le_refl _
    · exact Nat.le_succ _
  | deleteObject =>
    simp only [perform, InMemoryObjectStorage.deleteObject]
    split
    · exact le_refl _
    · exact le_refl _
  | _ => exact le_refl _

theorem versionName_injective : Function.Injective versionName := by
  intro first second same
  have parts := congrArg String.toList same
  simp only [versionName, String.toList_append] at parts
  exact Text.toString_injective (String.toList_injective (List.append_cancel_left parts))

variable {bucket key contentType otherBucket otherKey otherType : String}

theorem put_later {front back : List UploadEvent} {later : UploadEvent} {otherData : Bytes}
    {otherOnly : Bool} {other : StoredObjectEvidence}
    (split : schedule digests scanner opening.store actions = front ++ e :: back)
    (inside : later ∈ back)
    (is : fact e = ⟨.putObject bucket key data contentType createOnly, .ok evidence⟩)
    (otherIs : fact later =
      ⟨.putObject otherBucket otherKey otherData otherType otherOnly, .ok other⟩) :
    evidence.version ≠ other.version := by
  have here : e ∈ schedule digests scanner opening.store actions := by simp [split]
  have there : later ∈ schedule digests scanner opening.store actions := by simp [split, inside]
  rcases put_evidence here is with ⟨first, _⟩
  rcases put_evidence there otherIs with ⟨second, _⟩
  have above : e.after.storage.counter ≤ later.before.storage.counter :=
    kept_between (perform digests scanner)
      (fun world => e.after.storage.counter ≤ world.storage.counter)
      (fun middle listed before => before.trans (counter_le listed)) split inside (le_refl _)
  intro same
  rw [first, second] at same
  have equal := versionName_injective same
  omega

theorem put_once {second : UploadEvent} {otherData : Bytes}
    {otherOnly : Bool} {other : StoredObjectEvidence}
    (here : e ∈ schedule digests scanner opening.store actions)
    (there : second ∈ schedule digests scanner opening.store actions)
    (is : fact e = ⟨.putObject bucket key data contentType createOnly, .ok evidence⟩)
    (otherIs : fact second =
      ⟨.putObject otherBucket otherKey otherData otherType otherOnly, .ok other⟩)
    (same : evidence.version = other.version) : e = second := by
  rcases List.append_of_mem here with ⟨_, _, split⟩
  rw [split] at there
  rcases List.mem_append.mp there with early | late
  · rcases List.append_of_mem early with ⟨_, _, parts⟩
    rw [parts, List.append_assoc] at split
    exact absurd same.symm (put_later split (by simp) otherIs is)
  · rcases List.mem_cons.mp late with equal | after
    · exact equal.symm
    · exact absurd same (put_later split after is otherIs)

theorem stored_put (member : e ∈ schedule digests scanner opening.store actions)
    (inside : evidence ∈ e.before.storage.history bucket key) :
    ∃ put ∈ schedule digests scanner opening.store actions, ∃ data contentType createOnly,
      fact put = ⟨.putObject bucket key data contentType createOnly, .ok evidence⟩ := by
  rcases List.append_of_mem member with ⟨_, _, split⟩
  have empty : ¬ evidence ∈ history {} bucket key := by
    simp [history]
  rcases established (perform digests scanner)
    (fun world => evidence ∈ world.storage.history bucket key) split empty inside with
    ⟨earlier, early, absent, present⟩
  have listed : earlier ∈ schedule digests scanner opening.store actions := by
    rw [split]
    exact List.mem_append_left _ early
  refine ⟨earlier, listed, ?_⟩
  rcases mem_trace_performed listed with ⟨answered, moved⟩
  rcases earlier with ⟨_, call, _, _⟩
  dsimp only at answered moved absent present
  subst moved
  cases call with
  | putObject _ _ data contentType createOnly =>
    rcases mem_put present with old | ⟨rfl, rfl, put⟩
    · exact absurd old absent
    · refine ⟨data, contentType, createOnly, ?_⟩
      rw [answered, fact]
      simp [perform, put]
  | deleteObject =>
    exact absurd (mem_delete present) absent
  | _ => exact absurd present absent

theorem inspected_put {version : Option String}
    {observed : StoredObjectEvidence} (member : e ∈ schedule digests scanner opening.store actions)
    (is : fact e = ⟨.inspectObject bucket key version, .ok (some observed)⟩) :
    ∃ put ∈ schedule digests scanner opening.store actions, ∃ data contentType createOnly,
      fact put = ⟨.putObject bucket key data contentType createOnly, .ok observed⟩ := by
  rcases event_answer member is with ⟨answered, _⟩
  exact stored_put member (mem_inspect (Except.ok.inj answered))

theorem document_origin {document : DocumentRow}
    (found : (worldAfter digests scanner opening.store actions).store.documentsBySession.lookup
      uploadSessionId = some document) : ∃ e ∈ schedule digests scanner opening.store actions,
      ∃ observed ownerToken now fails documentId row, e.call =
          .commitDocumentIfOwner uploadSessionId observed ownerToken now fails documentId ∧
        e.before.store.sessions.lookup uploadSessionId = some row ∧
        document = documentOf uploadSessionId row observed documentId := by
  rw [worldAfter_eq] at found
  rcases established_final (perform digests scanner)
    (fun world => world.store.documentsBySession.lookup uploadSessionId = some document)
    (by rw [opening.undocumented]; exact fun nothing => by cases nothing) found
    with ⟨e, member, absent, present⟩
  refine ⟨e, member, ?_⟩
  have move := event_move member
  rcases e with ⟨_, _, _, after⟩
  generalize after.store = reached at move present
  cases move with
  | unchanged | rewritten => exact absurd present absent
  | committed _ observed ownerToken now fails documentId row listed =>
    simp only [verifiedWith, Dict.lookup_insert_eq] at present
    split at present
    · next same =>
      subst same
      exact ⟨observed, ownerToken, now, fails, documentId, row, rfl, listed,
        (Option.some.inj present).symm⟩
    · exact absurd present absent

end Events

section Ownership

variable (digests : Digests) (scanner : Scanner) (opening : OpenSessions) (actions : List Action)

theorem documented_after : Documented (worldAfter digests scanner opening.store actions).store := by
  rw [worldAfter_eq]
  refine kept_final (perform digests scanner) (fun world => Documented world.store) _ _
    (fun e member before => (event_move member).documented before) ?_
  intro uploadSessionId
  constructor
  · rintro ⟨row, found, verified⟩
    exact absurd verified (opening.unverified uploadSessionId row found)
  · rintro ⟨_, found⟩
    rw [opening.undocumented] at found
    cases found

theorem opened_after :
    Opened opening.store (worldAfter digests scanner opening.store actions).store := by
  rw [worldAfter_eq]
  refine kept_final (perform digests scanner) (fun world => Opened opening.store world.store) _ _
    (fun e member before => (event_move member).opened before) ?_
  exact fun uploadSessionId row found => ⟨row, found, rfl⟩

theorem committed_once (uploadSessionId : String) :
    (schedule digests scanner opening.store actions).countP (commits uploadSessionId) ≤ 1 := by
  refine counted_once (perform digests scanner)
    (fun world => (world.store.documentsBySession.lookup uploadSessionId).isSome.toNat) 0 _ _ _
    ?_ ?_
  · intro e member
    cases found : e.before.store.documentsBySession.lookup uploadSessionId with
    | none => exact Nat.zero_le _
    | some => rw [(event_move member).document_kept found]
  · intro e member accepted
    rcases mem_trace_performed member with ⟨answered, moved⟩
    rcases e with ⟨before, call, _, _⟩
    dsimp only at answered moved ⊢
    cases call with
    | commitDocumentIfOwner own observed ownerToken now fails documentId =>
      rcases commitDocumentIfOwner_cases before.store own ownerToken now observed fails
        documentId with
        ⟨_, refused⟩ | ⟨_, _, _, undocumented, committed⟩
      · rw [answered, perform, refused] at accepted
        cases accepted
      · rw [answered, perform, committed] at accepted
        have same : own = uploadSessionId := of_decide_eq_true accepted
        rw [moved, perform, onStore, committed, ← same]
        simp only [undocumented, verifiedWith, AList.lookup_insert]
        exact ⟨rfl, Nat.one_pos⟩
    | _ => cases accepted

/-- What stands behind a document: the object version that its commit has observed. -/
structure Evidence (uploadSessionId : String) (document : DocumentRow) (row : UploadSessionRow)
    (observed : StoredObjectEvidence) : Prop where
  current : (worldAfter digests scanner opening.store actions).store.sessions.lookup
    uploadSessionId = some row
  bound : row.expected.expectedVersion = some observed.version
  shows : Matches row.expected observed
  documented : ∃ documentId committed, document =
      documentOf uploadSessionId committed observed documentId ∧
    SameContract committed.expected row.expected
  put : ∃ e ∈ schedule digests scanner opening.store actions, ∃ bucket key data contentType
    createOnly, fact e = ⟨.putObject bucket key data contentType createOnly, .ok observed⟩
  scanned : ∃ e ∈ schedule digests scanner opening.store actions,
    fact e = ⟨.scan observed, .ok .safe⟩

variable {digests : Digests} {scanner : Scanner} {opening : OpenSessions} {actions : List Action}

theorem contracts_agree {uploadSessionId : String} {first second : ExpectedContract}
    {store : InMemoryStore} (one : Contracted uploadSessionId first store)
    (other : Contracted uploadSessionId second store) : SameContract first second := by
  rcases one with ⟨_, found, same⟩
  rcases other with ⟨_, found', same'⟩
  cases found.symm.trans found'
  exact same.trans same'.symm

theorem document_evidence {uploadSessionId : String} {document : DocumentRow}
    (found : (worldAfter digests scanner opening.store actions).store.documentsBySession.lookup
      uploadSessionId = some document) :
    ∃ row observed, Evidence digests scanner opening actions uploadSessionId document row
      observed := by
  rcases document_origin found with
    ⟨e, member, observed, _, _, _, documentId, committed, asked, listed, written⟩
  rcases List.append_of_mem member with ⟨front, _, split⟩
  rcases event_allowed split with ⟨_, recorded, allowed⟩
  rw [asked] at allowed
  rcases allowed with ⟨⟨readRow, read, verified⟩, ⟨bucket, key, _, shown⟩,
    ⟨_, _, _, _, claimed⟩, scanned⟩
  have early : ∀ other ∈ front, other ∈ schedule digests scanner opening.store actions := by
    intro other inside
    rw [split]
    exact List.mem_append_left _ inside
  rcases recorded _ read with ⟨_, readingFront, isRead⟩
  rcases recorded _ shown with ⟨_, inspectingFront, isShown⟩
  rcases recorded _ claimed with ⟨_, claimingFront, isClaimed⟩
  rcases recorded _ scanned with ⟨scanning, scanningFront, isScanned⟩
  have contract := kept_to_end (Contracted uploadSessionId readRow.expected)
    (fun e inside before => (event_move inside).contracted before) (early _ readingFront)
    (read_contract (early _ readingFront) isRead)
  have committedContract := kept_to_end (Contracted uploadSessionId committed.expected)
    (fun e inside before => (event_move inside).contracted before) member
    ((event_move member).contracted ⟨committed, listed, rfl⟩)
  rcases kept_to_end (BoundTo uploadSessionId observed.version)
    (fun e inside before => event_bound inside before) (early _ claimingFront)
    (claimed_bound (early _ claimingFront) isClaimed) with ⟨row, current, bound⟩
  have here : Contracted uploadSessionId row.expected
      (worldAfter digests scanner opening.store actions).store := ⟨row, current, rfl⟩
  refine ⟨row, observed, current, bound, ?_, ⟨documentId, committed, written, ?_⟩, ?_, ?_⟩
  · exact (matches_of_verified verified).of_same (contracts_agree contract here)
  · exact contracts_agree committedContract here
  · rcases inspected_put (early _ inspectingFront) isShown with
      ⟨put, inside, data, contentType, createOnly, isPut⟩
    exact ⟨put, inside, bucket, key, data, contentType, createOnly, isPut⟩
  · exact ⟨scanning, early _ scanningFront, isScanned⟩

section Evidence

variable {uploadSessionId : String} {document : DocumentRow} {row : UploadSessionRow}
variable {observed : StoredObjectEvidence}
variable (evidence : Evidence digests scanner opening actions uploadSessionId document row observed)
include evidence

theorem Evidence.reference_eq : document.reference = observed.reference := by
  rcases evidence.documented with ⟨_, _, written, _⟩
  rw [written]
  rfl

theorem Evidence.observed_reference : observed.reference =
    ⟨row.expected.expectedBucket, row.expected.expectedKey, some observed.version⟩ := by
  rw [StoredObjectEvidence.reference, evidence.shows.bucket, evidence.shows.key]

theorem Evidence.stored :
    StoredAs digests scanner opening actions row.expected document.reference := by
  rcases evidence.put with ⟨put, member, bucket, key, data, contentType, createOnly, isPut⟩
  rcases put_evidence member isPut with ⟨recorded, _⟩
  have shows := evidence.shows
  rw [evidence.reference_eq]
  constructor
  · have inBucket : bucket = row.expected.expectedBucket := by
      rw [← shows.bucket, recorded]
    have underKey : key = row.expected.expectedKey := by
      rw [← shows.key, recorded]
    subst inBucket underKey
    exact ⟨put, member, data, contentType, createOnly, observed, isPut, rfl⟩
  · intro e inside otherBucket otherKey otherData otherType otherOnly other isOther same
    have version : observed.version = other.version :=
      (Option.some.inj (congrArg ObjectReference.version same)).symm
    have equal := put_once member inside isPut isOther version
    subst equal
    cases isPut.symm.trans isOther
    rw [recorded] at shows
    exact ⟨shows.size, Option.some.inj shows.checksum, shows.contentType _ rfl⟩

theorem Evidence.owns : Owns digests scanner opening actions document row := by
  refine ⟨⟨observed.version, evidence.bound, ?_⟩, evidence.stored, ?_, ?_⟩
  · rw [evidence.reference_eq, evidence.observed_reference]
  · rcases evidence.scanned with ⟨scan, member, isScan⟩
    exact ⟨scan, member, observed, isScan, evidence.reference_eq.symm⟩
  · rcases evidence.documented with ⟨_, _, written, same⟩
    rw [written]
    refine ⟨evidence.shows.size, ?_, same.contentType⟩
    rw [documentOf, evidence.shows.checksum, Option.getD_some]

end Evidence

/-- A cleanup that deletes at the place of a session has expired that very session. -/
theorem deleted_expired {e : UploadEvent} {bucket key version uploadSessionId : String}
    {row : UploadSessionRow} {deleted : Except Raised Bool}
    (member : e ∈ schedule digests scanner opening.store actions)
    (is : fact e = ⟨.deleteObject bucket key version, deleted⟩)
    (found : (worldAfter digests scanner opening.store actions).store.sessions.lookup
      uploadSessionId = some row)
    (inBucket : row.expected.expectedBucket = bucket) (underKey : row.expected.expectedKey = key) :
    row.state = .expired := by
  rcases List.append_of_mem member with ⟨front, _, split⟩
  rcases event_allowed split with ⟨_, recorded, allowed⟩
  rw [show e.call = .deleteObject bucket key version from congrArg Sigma.fst is] at allowed
  rcases allowed with
    ⟨own, _, _, _, expected, _, _, expiring, inspected, atBucket, atKey⟩
  rcases recorded _ expiring with ⟨_, cleaningFront, isCleaning⟩
  rcases recorded _ inspected with ⟨_, inspectingFront, isInspecting⟩
  have early : ∀ other ∈ front, other ∈ schedule digests scanner opening.store actions := by
    intro other inside
    rw [split]
    exact List.mem_append_left _ inside
  rcases orphan_expired (early _ cleaningFront) isCleaning with ⟨expired, contracted⟩
  rcases kept_to_end (Expired own) (fun e inside before => (event_move inside).expired before)
    (early _ cleaningFront) expired with ⟨ownRow, ownFound, ownExpired⟩
  have contract := kept_to_end (Contracted own expected)
    (fun e inside before => (event_move inside).contracted before) (early _ cleaningFront)
    contracted
  -- The deletion is where the contract of the expired session points to.
  rcases inspected_put (early _ inspectingFront) isInspecting with
    ⟨_, inside, _, _, _, isPut⟩
  rcases put_evidence inside isPut with ⟨recordedPut, _⟩
  have agrees : SameContract expected ownRow.expected :=
    contracts_agree contract ⟨ownRow, ownFound, rfl⟩
  rcases opened_after digests scanner opening actions own ownRow ownFound with
    ⟨ownFirst, ownOpened, ownSame⟩
  rcases opened_after digests scanner opening actions uploadSessionId row found with
    ⟨first, opened, same⟩
  have sameBucket : ownFirst.expected.expectedBucket = first.expected.expectedBucket :=
    calc
      ownFirst.expected.expectedBucket = ownRow.expected.expectedBucket := ownSame.bucket
      _ = expected.expectedBucket := agrees.bucket.symm
      _ = bucket := by rw [atBucket, recordedPut]
      _ = row.expected.expectedBucket := inBucket.symm
      _ = first.expected.expectedBucket := same.bucket.symm
  have sameKey : ownFirst.expected.expectedKey = first.expected.expectedKey :=
    calc
      ownFirst.expected.expectedKey = ownRow.expected.expectedKey := ownSame.key
      _ = expected.expectedKey := agrees.key.symm
      _ = key := by rw [atKey, recordedPut]
      _ = row.expected.expectedKey := underKey.symm
      _ = first.expected.expectedKey := same.key.symm
  have equal := opening.distinct own uploadSessionId ownFirst first ownOpened opened sameBucket
    sameKey
  rw [equal] at ownFound
  cases ownFound.symm.trans found
  exact ownExpired

end Ownership

theorem verified_upload_ownership (digests : Digests) (scanner : Scanner)
    (opening : OpenSessions) (actions : List Action) :
    VerifiedOwnership digests scanner opening actions where
  single := committed_once digests scanner opening actions
  verified := by
    intro uploadSessionId row found
    rw [← documented_after digests scanner opening actions uploadSessionId]
    constructor
    · intro verified
      exact ⟨row, found, verified⟩
    · rintro ⟨stored, listed, verified⟩
      cases found.symm.trans listed
      exact verified
  expired := by
    rintro front back uploadSessionId row rfl found expired
    exact kept_on (Expired uploadSessionId)
      (fun e inside before => (event_move inside).expired before) ⟨row, found, expired⟩
  bound := by
    rintro _ _ uploadSessionId row version rfl found bound
    exact kept_on (BoundTo uploadSessionId version) (fun e inside before => event_bound inside before)
      ⟨row, found, bound⟩
  owned := by
    intro uploadSessionId document found
    rcases document_evidence found with ⟨row, observed, evidence⟩
    refine ⟨?_, row, evidence.current, evidence.owns⟩
    rcases evidence.documented with ⟨_, _, written, _⟩
    rw [written]
    rfl
  retained := by
    intro e member bucket key version is uploadSessionId document found same
    rcases document_evidence found with ⟨_, _, evidence⟩
    rw [evidence.reference_eq, evidence.observed_reference] at same
    have expired := deleted_expired member is evidence.current
      (congrArg ObjectReference.bucket same) (congrArg ObjectReference.key same)
    rcases (documented_after digests scanner opening actions uploadSessionId).mpr ⟨document, found⟩
      with ⟨_, listed, verified⟩
    cases listed.symm.trans evidence.current
    rw [verified] at expired
    cases expired

end BackendHandbook.Uploads
