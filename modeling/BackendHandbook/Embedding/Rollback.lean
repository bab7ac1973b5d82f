import BackendHandbook.Chunking.Soundness
import BackendHandbook.Embedding.Committer

/-! Runs of contract selections, claims and commits: whether a commit that reports success leaves
its set selected, also after the contract of a tenant was switched there and back. -/

namespace BackendHandbook.Embedding

open Authorization Chunking EmbeddingCommitter Fallible Run Chunking.Sample

inductive Call (F : Type)
  | selectContract (tenantId fingerprint : String)
  | claim (operation : EmbeddingOperationIdentity) (attempt : EmbeddingAttemptIdentity)
  | persist (surroundings : Surroundings) (claim : EmbeddingClaim)
      (handoff : AuthorizedEmbeddingInput) (contract : EmbeddingContract)
      (batches : List (ValidatedEmbeddingBatch F)) (expectedSelectedId : Option String)
      (expectedSelectionRevision : Int)

def Response (F : Type) : Call F → Type
  | .selectContract _ _ => Except Raised Nat
  | .claim _ _ => Option EmbeddingClaim
  | .persist _ _ _ _ _ _ _ => Except Raised (EmbeddingCommitResult F)

section Runs

variable {F : Type} (hashing : EmbeddingHashing) (chunkHashing : Hashing) (floats : Floats F)

def perform : (call : Call F) → InMemoryEmbeddingStore F →
    Response F call × InMemoryEmbeddingStore F
  | .selectContract tenantId fingerprint, store => selectContract tenantId fingerprint store
  | .claim operation attempt, store => Embedding.claim operation attempt store
  | .persist surroundings claim handoff contract batches expectedSelectedId
      expectedSelectionRevision, store =>
      persist hashing chunkHashing floats surroundings claim handoff contract batches
        expectedSelectedId expectedSelectionRevision store

/-- The selection of the operation names the set, which was built under the contract that the
tenant has selected. -/
def Selected (operation : EmbeddingOperationIdentity) (embeddingSet : EmbeddingSet F)
    (store : InMemoryEmbeddingStore F) : Prop :=
  (∃ selection, store.selections.lookup operation.selectionKey = some selection ∧
    selection.embeddingSetId = embeddingSet.embeddingSetId) ∧
  ∃ revision, store.contractSelections.lookup operation.tenantId =
    some (embeddingSet.contract.fingerprint hashing, revision)

def EmbeddingCommitResult.Succeeded (result : EmbeddingCommitResult F) : Prop :=
  result.outcome = .committed ∨ result.outcome = .alreadyCommitted

def Honoured : Event (InMemoryEmbeddingStore F) (Call F) (Response F) → Prop
  | ⟨_, .persist _ claim _ _ _ _ _, response, after⟩ =>
    ∀ result, response = .ok result → result.Succeeded →
      ∃ embeddingSet, result.embeddingSet = some embeddingSet ∧
        Selected hashing claim.operation embeddingSet after
  | _ => True

/-- No check refuses the commit, whose batches give these vectors and this manifest. -/
def Ready (surroundings : Surroundings) (claim : EmbeddingClaim)
    (handoff : AuthorizedEmbeddingInput) (contract : EmbeddingContract)
    (batches : List (ValidatedEmbeddingBatch F)) (store : InMemoryEmbeddingStore F)
    (byId : Dict String (List F)) (manifest : String) : Prop :=
  refusal hashing chunkHashing store surroundings claim handoff contract batches = .ok none ∧
    itemsById batches = some byId ∧ wholeOperation claim.operation byId ∧
    manifestOf hashing floats claim.operation contract byId = .ok manifest

def Stored (operation : EmbeddingOperationIdentity) (manifest : String)
    (store : InMemoryEmbeddingStore F) (setId : String) (prior : EmbeddingSet F) : Prop :=
  store.resultKeys.lookup (operation.stableResultKey hashing) = some setId ∧
    store.sets.lookup setId = some prior ∧ prior.manifestChecksum = manifest

/-- A commit that no check refuses finds its manifest stored under its result key, but its
selection names another set, or (by a collision of digests) the set is of another contract. -/
def FindsUnselected : Call F → InMemoryEmbeddingStore F → Prop
  | .persist surroundings claim handoff contract batches _ _, store =>
    ∃ byId manifest setId prior,
      Ready hashing chunkHashing floats surroundings claim handoff contract batches store byId
        manifest ∧
      Stored hashing claim.operation manifest store setId prior ∧
      ((store.selections.lookup claim.operation.selectionKey).map (·.embeddingSetId) ≠
          some setId ∨
        prior.contract.fingerprint hashing ≠ claim.operation.contractFingerprint)
  | _, _ => False

/-- Result keys lead to stored sets, which carry the identity they are stored under. -/
def ResultsStored (store : InMemoryEmbeddingStore F) : Prop :=
  ∀ key setId, store.resultKeys.lookup key = some setId →
    ∃ embeddingSet, store.sets.lookup setId = some embeddingSet ∧
      embeddingSet.embeddingSetId = setId

variable {hashing chunkHashing floats}

variable {embeddingSet : EmbeddingSet F} {operation : EmbeddingOperationIdentity}

theorem setOf_eq_ok {handoff : AuthorizedEmbeddingInput}
    {contract : EmbeddingContract} {byId : Dict String (List F)} {manifest : String}
    (built : setOf hashing floats operation handoff contract byId manifest = .ok embeddingSet) :
    embeddingSet.embeddingSetId = embeddingSetId hashing operation ∧
      embeddingSet.contract = contract := by
  rcases bind_eq_ok.mp built with ⟨_, _, checked⟩
  rw [EmbeddingSet.checked, ite_error_eq_ok, ite_error_eq_ok] at checked
  cases checked.2.2
  exact ⟨rfl, rfl⟩

theorem refusal_none {store : InMemoryEmbeddingStore F} {surroundings : Surroundings}
    {claim : EmbeddingClaim} {handoff : AuthorizedEmbeddingInput} {contract : EmbeddingContract}
    {batches : List (ValidatedEmbeddingBatch F)}
    (admitted : refusal hashing chunkHashing store surroundings claim handoff contract batches =
      .ok none) : bindingsMatch hashing claim.operation handoff contract ∧
      store.contractSelections.lookup claim.operation.tenantId =
        some (claim.operation.contractFingerprint, claim.operation.contractSelectionRevision) := by
  rcases passed admitted nofun with ⟨_, admitted⟩
  rcases passed admitted nofun with ⟨_, admitted⟩
  rcases passed admitted nofun with ⟨bound, admitted⟩
  rcases passed admitted nofun with ⟨selected, _⟩
  exact ⟨Decidable.not_not.mp bound, Decidable.not_not.mp selected⟩

section Steps

variable {surroundings : Surroundings} {claim : EmbeddingClaim} {handoff : AuthorizedEmbeddingInput}
  {contract : EmbeddingContract} {batches : List (ValidatedEmbeddingBatch F)}
  {store : InMemoryEmbeddingStore F} {byId : Dict String (List F)} {manifest : String}

theorem not_succeeded {result : EmbeddingCommitResult F} (new : result.outcome ≠ .committed)
    (known : result.outcome ≠ .alreadyCommitted) : ¬ result.Succeeded := by
  rintro (committed | already)
  · exact new committed
  · exact known already

theorem refused_not_succeeded {refused : EmbeddingCommitResult F}
    (answered : refusal hashing chunkHashing store surroundings claim handoff contract batches =
      .ok (some refused)) : ¬ refused.Succeeded := by
  have met : Meets (fun answer : Option (EmbeddingCommitResult F) =>
      ∀ refused ∈ answer, ¬ refused.Succeeded) (fun _ => True)
      (refusal hashing chunkHashing store surroundings claim handoff contract batches) := by
    have here : ∀ outcome reason, outcome ≠ .committed → outcome ≠ .alreadyCommitted →
        ∀ refused ∈ some (result outcome reason : EmbeddingCommitResult F),
          ¬ refused.Succeeded := by
      rintro _ _ new known _ ⟨⟩
      exact not_succeeded new known
    refine meets_ite (fun _ => here .notReady _ nofun nofun) fun _ => ?_
    refine meets_ite (fun _ => here .staleAttempt _ nofun nofun) fun _ => ?_
    refine meets_ite (fun _ => here .identityConflict _ nofun nofun) fun _ => ?_
    refine meets_ite (fun _ => here .staleContract _ nofun nofun) fun _ => ?_
    apply meets_bind (meets_self fun _ _ => trivial)
    intro authError _
    cases authError with
    | some => exact here .staleAuthorization _ nofun nofun
    | none =>
      apply meets_bind (meets_self fun _ _ => trivial)
      intro provenance _
      cases provenance with
      | some => exact here .staleProvenance _ nofun nofun
      | none => exact fun refused member => nomatch member
  exact met.of_ok answered refused rfl

variable (expectedSelectedId : Option String) (expectedSelectionRevision : Int)

theorem persist_of_ready
    (ready : Ready hashing chunkHashing floats surroundings claim handoff contract batches store
      byId manifest) :
    persist hashing chunkHashing floats surroundings claim handoff contract batches
        expectedSelectedId expectedSelectionRevision store =
      persistManifest hashing floats claim handoff contract byId manifest expectedSelectedId
        expectedSelectionRevision store := by
  rcases ready with ⟨admitted, items, whole, bound⟩
  unfold persist
  rw [admitted]
  rw [items]
  dsimp only
  rw [if_neg (Decidable.not_not.mpr whole), bound]

theorem persist_of_not_ready
    (blocked : ∀ byId manifest, ¬ Ready hashing chunkHashing floats surroundings claim handoff
      contract batches store byId manifest) :
    (persist hashing chunkHashing floats surroundings claim handoff contract batches
        expectedSelectedId expectedSelectionRevision store).2 = store ∧
      ∀ result, (persist hashing chunkHashing floats surroundings claim handoff contract batches
        expectedSelectedId expectedSelectionRevision store).1 = .ok result →
          ¬ result.Succeeded := by
  unfold persist
  cases admitted : refusal hashing chunkHashing store surroundings claim handoff contract batches
    with
  | error raised => exact ⟨rfl, fun _ answers => nomatch answers⟩
  | ok answer =>
    cases answer with
    | some =>
      refine ⟨rfl, ?_⟩
      rintro _ ⟨⟩
      exact refused_not_succeeded admitted
    | none =>
      cases items : itemsById batches with
      | none =>
        refine ⟨rfl, ?_⟩
        rintro _ ⟨⟩
        exact not_succeeded nofun nofun
      | some byId =>
        dsimp only
        by_cases whole : wholeOperation claim.operation byId
        · rw [if_neg (Decidable.not_not.mpr whole)]
          cases bound : manifestOf hashing floats claim.operation contract byId with
          | error => exact ⟨rfl, fun _ answers => nomatch answers⟩
          | ok manifest =>
            exact absurd ⟨admitted, items, whole, bound⟩ (blocked byId manifest)
        · rw [if_pos whole]
          refine ⟨rfl, ?_⟩
          rintro _ ⟨⟩
          exact not_succeeded nofun nofun

theorem Ready.manifest_unique {otherById : Dict String (List F)} {other : String}
    (ready : Ready hashing chunkHashing floats surroundings claim handoff contract batches store
      byId manifest)
    (again : Ready hashing chunkHashing floats surroundings claim handoff contract batches store
      otherById other) : manifest = other := by
  rcases ready with ⟨_, items, _, bound⟩
  rcases again with ⟨_, itemsAgain, _, boundAgain⟩
  cases items.symm.trans itemsAgain
  exact Except.ok.inj (bound.symm.trans boundAgain)

theorem findsUnselected_iff {expectedSelectedId : Option String} {expectedSelectionRevision : Int}
    {setId : String} {prior : EmbeddingSet F}
    (ready : Ready hashing chunkHashing floats surroundings claim handoff contract batches store
      byId manifest) (found : Stored hashing claim.operation manifest store setId prior) :
    FindsUnselected hashing chunkHashing floats (.persist surroundings claim handoff contract
        batches expectedSelectedId expectedSelectionRevision) store ↔
      ((store.selections.lookup claim.operation.selectionKey).map (·.embeddingSetId) ≠ some setId ∨
        prior.contract.fingerprint hashing ≠ claim.operation.contractFingerprint) := by
  constructor
  · rintro ⟨_, _, _, _, _, ⟨key, there, _⟩, unselected⟩
    cases key.symm.trans found.1
    cases there.symm.trans found.2.1
    exact unselected
  · intro unselected
    exact ⟨byId, manifest, setId, prior, ready, found, unselected⟩

/-- A stored set is selected just when the selection names it and its contract is the one of the
operation, as the contract of a ready operation is the one that is selected. -/
theorem selected_iff (ready : Ready hashing chunkHashing floats surroundings claim handoff contract
      batches store byId manifest) (embeddingSet : EmbeddingSet F) :
    Selected hashing claim.operation embeddingSet store ↔
      (store.selections.lookup claim.operation.selectionKey).map (·.embeddingSetId) =
          some embeddingSet.embeddingSetId ∧
        embeddingSet.contract.fingerprint hashing = claim.operation.contractFingerprint := by
  have current := (refusal_none ready.1).2
  rw [Selected, current, Option.map_eq_some_iff]
  constructor
  · rintro ⟨names, _, same⟩
    exact ⟨names, (congrArg Prod.fst (Option.some.inj same)).symm⟩
  · rintro ⟨names, same⟩
    exact ⟨names, _, by rw [same]⟩

theorem selected_write (revision : Nat)
    (ready : Ready hashing chunkHashing floats surroundings claim handoff contract
      batches store byId manifest)
    (built : setOf hashing floats claim.operation handoff contract byId manifest =
      .ok embeddingSet) : Selected hashing claim.operation embeddingSet
      (write hashing claim.operation revision embeddingSet store).2 := by
  rcases setOf_eq_ok built with ⟨named, same⟩
  rcases refusal_none ready.1 with ⟨bound, current⟩
  have fingerprint : claim.operation.contractFingerprint = contract.fingerprint hashing :=
    bound.2.2.2.2.2.2.2.2.2.2.2
  constructor
  · exact ⟨_, AList.lookup_insert _, named.symm⟩
  · rw [same, ← fingerprint]
    exact ⟨_, current⟩

/-- What the commit of a manifest can do: find the set of its result key, write a new one, or
change nothing and report no success. -/
theorem persistManifest_cases (claim : EmbeddingClaim) (handoff : AuthorizedEmbeddingInput)
    (contract : EmbeddingContract) (byId : Dict String (List F)) (manifest : String)
    (expectedSelectedId : Option String) (expectedSelectionRevision : Int)
    (store : InMemoryEmbeddingStore F) :
    (∃ setId prior, Stored hashing claim.operation manifest store setId prior ∧
      persistManifest hashing floats claim handoff contract byId manifest expectedSelectedId
          expectedSelectionRevision store =
        (.ok { outcome := .alreadyCommitted, safeReason := "EXACT_EMBEDDING_SET_ALREADY_COMMITTED"
               embeddingSet := some prior
               selection := store.selections.lookup claim.operation.selectionKey }, store)) ∨
    (∃ revision embeddingSet,
      store.resultKeys.lookup (claim.operation.stableResultKey hashing) = none ∧
      setOf hashing floats claim.operation handoff contract byId manifest = .ok embeddingSet ∧
      persistManifest hashing floats claim handoff contract byId manifest expectedSelectedId
          expectedSelectionRevision store =
        (.ok (write hashing claim.operation revision embeddingSet store).1,
          (write hashing claim.operation revision embeddingSet store).2)) ∨
    ((∀ setId prior, ¬ Stored hashing claim.operation manifest store setId prior) ∧
      ∃ answer, persistManifest hashing floats claim handoff contract byId manifest
          expectedSelectedId expectedSelectionRevision store = (answer, store) ∧
        ∀ result, answer = .ok result → ¬ result.Succeeded) := by
  unfold persistManifest
  cases known : store.resultKeys.lookup (claim.operation.stableResultKey hashing) with
  | some setId =>
    dsimp only
    cases found : store.sets.lookup setId with
    | none =>
      right; right
      refine ⟨?_, _, rfl, fun _ answers => nomatch answers⟩
      rintro other prior ⟨key, stored, _⟩
      cases known.symm.trans key
      cases found.symm.trans stored
    | some prior =>
      dsimp only
      by_cases same : prior.manifestChecksum = manifest
      · rw [if_neg (Decidable.not_not.mpr same)]
        exact .inl ⟨setId, prior, ⟨known, found, same⟩, rfl⟩
      · rw [if_pos same]
        right; right
        refine ⟨?_, _, rfl, ?_⟩
        · rintro _ _ ⟨key, there, bound⟩
          cases known.symm.trans key
          cases found.symm.trans there
          exact same bound
        · rintro _ ⟨⟩
          exact not_succeeded nofun nofun
  | none =>
    have unknown : ∀ setId prior, ¬ Stored hashing claim.operation manifest store setId prior := by
      rintro _ _ ⟨key, _⟩
      cases known.symm.trans key
    dsimp only [persistNew]
    split
    · right; right
      refine ⟨unknown, _, rfl, ?_⟩
      rintro _ ⟨⟩
      exact not_succeeded nofun nofun
    · cases built : setOf hashing floats claim.operation handoff contract byId manifest with
      | error => exact .inr (.inr ⟨unknown, _, rfl, fun _ answers => nomatch answers⟩)
      | ok embeddingSet => exact .inr (.inl ⟨_, embeddingSet, rfl, rfl, rfl⟩)

end Steps

theorem ResultsStored.write
    {store : InMemoryEmbeddingStore F} (stored : ResultsStored store) (revision : Nat)
    (named : embeddingSet.embeddingSetId = embeddingSetId hashing operation) :
    ResultsStored (EmbeddingCommitter.write hashing operation revision embeddingSet store).2 := by
  intro key setId known
  simp only [EmbeddingCommitter.write, Dict.lookup_insert_eq] at known ⊢
  by_cases same : setId = embeddingSetId hashing operation
  · rw [if_pos same]
    exact ⟨embeddingSet, rfl, named.trans same.symm⟩
  · rw [if_neg same]
    split at known
    · exact absurd (Option.some.inj known).symm same
    · exact stored key setId known

theorem resultsStored_perform (call : Call F) (store : InMemoryEmbeddingStore F)
    (stored : ResultsStored store) :
    ResultsStored (perform hashing chunkHashing floats call store).2 := by
  cases call with
  | selectContract =>
    dsimp only [perform, selectContract]
    split
    · exact stored
    · split
      · exact stored
      · split <;> exact stored
  | claim =>
    dsimp only [perform, Embedding.claim]
    split_ifs <;> exact stored
  | persist surroundings claim handoff contract batches expectedSelectedId expectedRevision =>
    by_cases ready : ∃ byId manifest, Ready hashing chunkHashing floats surroundings claim handoff
        contract batches store byId manifest
    · rcases ready with ⟨byId, manifest, ready⟩
      dsimp only [perform]
      rw [persist_of_ready expectedSelectedId expectedRevision ready]
      rcases persistManifest_cases claim handoff contract byId manifest expectedSelectedId
        expectedRevision store with
        ⟨_, _, _, same⟩ | ⟨revision, _, _, built, same⟩ | ⟨_, _, same, _⟩
      · rw [same]
        exact stored
      · rw [same]
        exact stored.write revision (setOf_eq_ok built).1
      · rw [same]
        exact stored
    · have frame := (persist_of_not_ready expectedSelectedId expectedRevision
        fun byId manifest holds => ready ⟨byId, manifest, holds⟩).1
      dsimp only [perform]
      rw [frame]
      exact stored

/-- A commit that reports success has its set selected unless it found it unselected. -/
theorem honoured_perform_iff (call : Call F) (store : InMemoryEmbeddingStore F)
    (stored : ResultsStored store) :
    Honoured hashing (event (perform hashing chunkHashing floats) store call) ↔
      ¬ FindsUnselected hashing chunkHashing floats call store := by
  cases call with
  | selectContract | claim => exact ⟨fun _ found => found, fun _ => trivial⟩
  | persist surroundings claim handoff contract batches expectedSelectedId expectedRevision =>
    by_cases ready : ∃ byId manifest, Ready hashing chunkHashing floats surroundings claim handoff
        contract batches store byId manifest
    · rcases ready with ⟨byId, manifest, ready⟩
      dsimp only [event, perform]
      rw [persist_of_ready expectedSelectedId expectedRevision ready]
      rcases persistManifest_cases claim handoff contract byId manifest expectedSelectedId
        expectedRevision store with
        ⟨setId, prior, found, same⟩ | ⟨revision, _, unknown, built, same⟩ |
          ⟨unknown, _, same, quiet⟩
      · rw [same, findsUnselected_iff ready found]
        rcases stored _ _ found.1 with ⟨_, there, named⟩
        cases there.symm.trans found.2.1
        rw [← named, ← not_and_or, not_not, ← selected_iff ready]
        constructor
        · intro honoured
          rcases honoured _ rfl (.inr rfl) with ⟨_, answered, selected⟩
          cases Option.some.inj answered
          exact selected
        · rintro selected _ ⟨⟩ _
          exact ⟨_, rfl, selected⟩
      · rw [same]
        constructor
        · rintro _ ⟨_, _, _, _, _, found, _⟩
          cases unknown.symm.trans found.1
        · rintro _ _ ⟨⟩ _
          exact ⟨_, rfl, selected_write revision ready built⟩
      · rw [same]
        constructor
        · rintro _ ⟨_, _, setId, prior, again, found, _⟩
          rw [ready.manifest_unique again] at unknown
          exact unknown setId prior found
        · intro _ result answered succeeded
          exact absurd succeeded (quiet result answered)
    · constructor
      · rintro _ ⟨byId, manifest, _, _, here, _⟩
        exact ready ⟨byId, manifest, here⟩
      · intro _ result answered succeeded
        have quiet := (persist_of_not_ready expectedSelectedId expectedRevision
          fun byId manifest holds => ready ⟨byId, manifest, holds⟩).2
        exact absurd succeeded (quiet result answered)

variable (hashing chunkHashing floats)

/-- In every run, each commit that reports success has its set selected under the contract of its
tenant just when no commit finds its manifest stored for a set that is not selected. -/
theorem rollback_honoured_iff (calls : List (Call F)) :
    (∀ e ∈ trace (perform hashing chunkHashing floats) {} calls, Honoured hashing e) ↔
      ∀ e ∈ trace (perform hashing chunkHashing floats) {} calls,
        ¬ FindsUnselected hashing chunkHashing floats e.call e.before := by
  have empty : ResultsStored ({} : InMemoryEmbeddingStore F) := by
    intro key setId known
    cases known
  have each : ∀ e ∈ trace (perform hashing chunkHashing floats) {} calls,
      (Honoured hashing e ↔ ¬ FindsUnselected hashing chunkHashing floats e.call e.before) := by
    intro e member
    have stored := (invariant_trace _ ResultsStored (fun _ => True)
      (fun store call _ holds => resultsStored_perform call store holds) {} calls
      (fun _ _ => trivial) empty e member).2
    rcases mem_trace_split _ _ _ _ member with ⟨_, _, _, same⟩
    rw [same] at stored ⊢
    exact honoured_perform_iff e.call _ stored
  exact forall₂_congr each

end Runs

/-! A report of two chunks, whose contract is switched there and back. -/

namespace Sample

open Ingestion (DocumentIdentity documentKey versionKey)

-- These functions keep apart what the run below hashes.
def hashing : EmbeddingHashing :=
  { contract := fun contract => contract.contractVersion
    resultKey := fun (tenantId, documentId, versionId, chunkSetId, chunkIds, fingerprint) =>
      String.intercalate "/"
        ([tenantId, documentId, versionId, chunkSetId, fingerprint] ++ chunkIds)
    manifest := fun (chunkIds, vectors, fingerprint) =>
      String.intercalate "/" (fingerprint :: chunkIds ++ vectors.flatten)
    embeddingId := fun (setId, _, chunkId) => String.intercalate "/" [setId, chunkId]
    event := fun (_, revision, setId) => String.intercalate "/" [setId, toString revision] }

def floats : Floats Int := { isFinite := fun _ => true, pack := fun value => some (toString value) }

def contract (contractVersion : String) (named : contractVersion ≠ "" := by decide) :
    EmbeddingContract :=
  { contractVersion
    model :=
      { provider := "classroom-fake", modelId := "deterministic-hash-embedding"
        immutableRevision := "sha256:day98-fake-revision-v1", deployment := .selfHosted
        nonEmpty := by decide, immutable := by decide +kernel }
    tokenizer :=
      { name := "classroom-lexical", version := "1.0.0"
        immutableRevision := "sha256:day96-classroom-tokenizer-v1", nonEmpty := by decide }
    preprocessingVersion := "prefix-only-v1", inputRole := .document, inputPrefix := "document: "
    hardMaxTokens := 1024, overflowPolicy := .reject, dimensions := 2, numericType := .float32
    normalization := .unitL2, apiVersion := "fake-port.v1"
    responseSchemaVersion := "embedding-response.v1"
    batchLimits :=
      { maxItems := 2, maxTokens := 4096, maxUtf8Bytes := 64000, limits_pos := by decide }
    egress :=
      { allowed := false, destination := "local-only", retention := "none"
        zeroDataRetentionRequired := true, nonEmpty := by decide, stays_local := fun _ => rfl }
    versions_nonEmpty := ⟨named, by decide, by decide, by decide⟩
    limits_pos := by decide, document_role := rfl, egress_approved := nofun
    zero_vector := by decide, tolerance_pos := by decide +kernel }

def chunkIds : List String := ["chunk-1", "chunk-2"]

def chunks : List Chunk :=
  orderly.chunks.zip chunkIds |>.map fun pair =>
    { chunkId := pair.2, chunkSetId := "chunk-set-1", candidate := pair.1 }

def chunkStore : InMemoryChunkSetStore :=
  { sets := AList.insert "chunk-set-1"
      { chunkSetId := "chunk-set-1", operation := Chunking.Sample.operation "a b"
        experimentId := "experiment-96", manifest := orderly.manifest, chunks } ∅
    selections := AList.insert ("tenant-a", "report-42")
      { tenantId := "tenant-a", documentId := "report-42", documentVersionId := "report-42-v2"
        chunkSetId := "chunk-set-1", revision := 1, fence := 1 } ∅ }

def document : DocumentIdentity := Ingestion.Sample.operation.version.document

def day95 : Ingestion.Store :=
  { documents := AList.insert (documentKey document) Chunking.Sample.document ∅
    versions := AList.insert (versionKey Ingestion.Sample.operation.version)
      (Chunking.Sample.version "a b") ∅
    operations := AList.insert Ingestion.Sample.operation.operationId ingestion ∅
    sourceArtifacts := AList.insert Ingestion.Sample.source.sourceArtifactId
      Ingestion.Sample.source ∅
    parsedArtifacts := AList.insert (parsed "a b").parsedArtifactId
      (parsed "a b") ∅ }

def membership : TenantMembership :=
  { tenantId := "tenant-a", principalSubject := "worker", principalKind := .service, active := true
    revision := 1, nonEmpty := by decide, revision_pos := Nat.one_pos }

def policy : AuthorizationPolicySnapshot :=
  { tenantId := "tenant-a", documentId := "report-42", policyRevision := 1, aclRevision := 1
    roleVersion := "roles-v1", actionCatalogVersion := "actions-v1", authorizationEpoch := 1
    supportedActions := ["chunk:read_for_embedding"]
    entries :=
      [{ entryId := "entry-1", principalSubject := "worker"
         resource :=
           { resourceType := .document, tenantId := "tenant-a", documentId := some "report-42"
             tenant_nonEmpty := by decide, bound := by decide }
         action := "chunk:read_for_embedding", effect := .allow, nonEmpty := by decide }]
    nonEmpty := by decide, revisions_pos := by decide, versions_nonEmpty := by decide
    actions_nonEmpty := by decide, entries_bound := by decide }

def surroundings : Surroundings :=
  { authorization :=
      { memberships := AList.insert ("tenant-a", "worker") membership ∅
        policies := AList.insert ("tenant-a", "report-42") policy ∅ }
    day95, chunkStore, now := 10 }

def handoff : AuthorizedEmbeddingInput :=
  { tenantId := "tenant-a", principalSubject := "worker", action := "chunk:read_for_embedding"
    permitExpiresAt := 20, documentId := "report-42", documentVersionId := "report-42-v2"
    chunkSetId := "chunk-set-1", authorizedChunkIds := chunkIds
    chunks := chunks.map fun chunk =>
      { chunkId := chunk.chunkId, text := chunk.candidate.text
        contentHash := chunk.candidate.contentHash
        sourceSegments := chunk.candidate.sourceSegments }
    authorizationDecisionId := "decision-1"
    authorizationRevisions := AuthorizationRevisionVector.current policy membership
    selectionRevision := 1, documentStateVersion := 2, documentFence := 2
    exact_action := rfl, expiry_pos := by decide, chunks_ordered := by decide +kernel
    chunks_unique := by decide }

def operation (operationId fingerprint : String) (revision : Nat)
    (valid : decide (operationId ≠ "" ∧ fingerprint ≠ "" ∧ 0 < revision) = true :=
      by exact Eq.refl true) : EmbeddingOperationIdentity :=
  { operationId, idempotencyKey := operationId, tenantId := "tenant-a"
    principalSubject := "worker", authorizationDecisionId := "decision-1"
    authorizationRevisions := handoff.authorizationRevisions, documentId := "report-42"
    documentVersionId := "report-42-v2", chunkSetId := "chunk-set-1"
    authorizedChunkIds := chunkIds, selectionRevision := 1, documentStateVersion := 2
    documentFence := 2, contractFingerprint := fingerprint, contractSelectionRevision := revision
    nonEmpty :=
      ⟨(of_decide_eq_true valid).1, (of_decide_eq_true valid).1, by decide, by decide, by decide,
        by decide, by decide, by decide, (of_decide_eq_true valid).2.1⟩
    chunks_nonEmpty := by decide, revision_pos := (of_decide_eq_true valid).2.2 }

def attempt (operation : EmbeddingOperationIdentity) : EmbeddingAttemptIdentity :=
  { operationId := operation.operationId, attemptNumber := 1, requestId := "request-1"
    generation := 1, nonEmpty := ⟨operation.nonEmpty.1, by decide⟩
    attempt_pos := Chunking.Sample.attempt.attempt_pos }

def batches : List (ValidatedEmbeddingBatch Int) :=
  [⟨⟨chunkIds.map fun chunkId => ⟨chunkId, [1, 0]⟩⟩⟩]

def prepare (operation : EmbeddingOperationIdentity) (contract : EmbeddingContract) :
    List (Call Int) :=
  [.selectContract "tenant-a" (contract.fingerprint hashing), .claim operation (attempt operation)]

def commit (operation : EmbeddingOperationIdentity) (contract : EmbeddingContract)
    (expectedSelectedId : Option String) (expectedSelectionRevision : Int) : Call Int :=
  .persist surroundings ⟨operation, attempt operation, 1, 1⟩ handoff contract batches
    expectedSelectedId expectedSelectionRevision

def first : EmbeddingOperationIdentity := operation "op-1" "sha256:v1" 1

def second : EmbeddingOperationIdentity := operation "op-2" "sha256:v2" 2

def third : EmbeddingOperationIdentity := operation "op-3" "sha256:v1" 3

/-- The contract goes from `v1` to `v2` and back, with a commit under each of the first two. -/
def switching : List (Call Int) :=
  prepare first (contract "v1") ++ [commit first (contract "v1") none 0] ++
    prepare second (contract "v2") ++
    [commit second (contract "v2") (some (embeddingSetId hashing first)) 1] ++
    prepare third (contract "v1")

def switchedBack : Call Int := commit third (contract "v1") (some (embeddingSetId hashing second)) 2

def switched : InMemoryEmbeddingStore Int :=
  final (perform hashing Chunking.Sample.hashing floats) {} switching

def answered : Except Raised (EmbeddingCommitResult Int) × InMemoryEmbeddingStore Int :=
  perform hashing Chunking.Sample.hashing floats switchedBack switched

/-- Behind the switch back, the commit reports the set of `v1` while that of `v2` is selected. -/
theorem switched_back_unselected :
    ¬ ∀ e ∈ trace (perform hashing Chunking.Sample.hashing floats) {} (switching ++ [switchedBack]),
      Honoured hashing e := by
  intro honoured
  have member := event_mem_trace (perform hashing Chunking.Sample.hashing floats) {} switching []
    switchedBack
  have last : ∀ result, answered.1 = .ok result → result.Succeeded →
      ∃ embeddingSet, result.embeddingSet = some embeddingSet ∧
        Selected hashing third embeddingSet answered.2 :=
    honoured _ member
  have ran : answered.1.toOption.map
        (fun result => (result.outcome, result.embeddingSet.map (·.embeddingSetId))) =
          some (.alreadyCommitted, some (embeddingSetId hashing first)) ∧
      (answered.2.selections.lookup third.selectionKey).map (·.embeddingSetId) ≠
        some (embeddingSetId hashing first) := by
    decide +kernel
  rcases ran with ⟨reported, selected⟩
  cases answer : answered.1 with
  | error =>
    rw [answer] at reported
    cases reported
  | ok result =>
    rw [answer] at reported
    rcases Prod.mk.inj (Option.some.inj reported) with ⟨outcome, reportedId⟩
    rcases last result answer (.inr outcome) with
      ⟨_, same, ⟨_, current, names⟩, _⟩
    rw [same] at reportedId
    rw [current, Option.map_some, names] at selected
    exact selected reportedId

end Sample

end BackendHandbook.Embedding
