import BackendHandbook.Ingestion.Outbox
import Mathlib.Data.List.Chain

/-! What a run keeps of its records: attempts in order, and versions that name one content. -/

namespace BackendHandbook.Ingestion

open InMemoryIngestionLifecycleStore IngestionOperationRecord Run List

variable {sha256 : String → String} {store after : Store} {call : Call}
  {current next : IngestionOperationRecord} {attempt : ParserAttemptIdentity}
  {history : List ParserAttemptIdentity}

namespace IngestionOperationRecord

/-- The numbers go up by one from entry to entry, up to the current attempt. -/
structure Ordered (record : IngestionOperationRecord) : Prop where
  numbers : record.attemptHistory.IsChain fun first second =>
    second.attemptNumber = first.attemptNumber + 1
  requests : (record.attemptHistory.map (·.parserRequestId)).Nodup
  last : record.attemptHistory.getLast? = record.attempt

theorem requests_nodup (record : IngestionOperationRecord) :
    (record.attemptHistory.map (·.parserRequestId)).Nodup := by
  have valid := record.valid
  unfold postInit at valid
  split_ifs at valid with _ _ distinct
  exact distinct

namespace Ordered

theorem rememberCurrent (ordered : current.Ordered) :
    current.rememberCurrent = current.attemptHistory := by
  unfold IngestionOperationRecord.rememberCurrent
  cases named : current.attempt with
  | none => rfl
  | some attempt => exact if_pos (mem_of_getLast? (ordered.last.trans named))

theorem kept {state : IngestionOperationState} (ordered : current.Ordered)
    (recorded : history = current.attemptHistory ∨ history = current.rememberCurrent)
    (moved : current.advance state current.attempt history = .ok next) : next.Ordered := by
  obtain ⟨_, _, _, _, attempted, stored⟩ := advance_ok moved
  rw [ordered.rememberCurrent, or_self] at recorded
  subst recorded
  exact ⟨stored ▸ ordered.numbers, next.requests_nodup, stored ▸ attempted ▸ ordered.last⟩

/-- The attempt that follows goes behind the others. -/
theorem follows (ordered : current.Ordered) (follows : attemptFollows current attempt = true) :
    (current.attemptHistory ++ [attempt]).IsChain fun first second =>
      second.attemptNumber = first.attemptNumber + 1 := by
  refine isChain_append.mpr ⟨ordered.numbers, isChain_singleton _, ?_⟩
  intro recorded last _ same
  cases same
  rw [ordered.last, Option.mem_def] at last
  simp only [attemptFollows, last, Bool.and_eq_true, beq_iff_eq] at follows
  exact follows.1

theorem remember (ordered : current.Ordered) (follows : attemptFollows current attempt = true) :
    remember current.rememberCurrent attempt = current.attemptHistory ++ [attempt] := by
  rw [ordered.rememberCurrent]
  apply if_neg
  intro listed
  have rising := (ordered.follows follows).imp fun first second next =>
    (next ▸ Nat.lt_succ_self _ : first.attemptNumber < second.attemptNumber)
  have distinct := (isChain_iff_pairwise.mp ((isChain_map _).mpr rising)).imp fun less => less.ne
  exact disjoint_of_nodup_append (Nodup.of_map _ distinct) listed mem_cons_self

end Ordered

end IngestionOperationRecord

def AttemptsOrdered (store : Store) : Prop :=
  ∀ operationId record, store.operation? operationId = some record → record.Ordered

theorem attempts_change (change : Change store call after) (sound : AttemptsOrdered store) :
    AttemptsOrdered after := by
  cases change with
  | intake => exact Dict.forall_insert ⟨.nil, nodup_nil, rfl⟩ sound
  | claim _ _ _ _ _ current claimed admitted moved =>
    have ordered := sound _ _ admitted.found
    obtain ⟨_, _, _, _, attempted, stored⟩ := advance_ok moved
    rw [ordered.remember admitted.follows] at stored
    refine Dict.forall_insert ⟨?_, claimed.requests_nodup, ?_⟩ sound
    · exact stored ▸ ordered.follows admitted.follows
    · rw [stored, attempted, getLast?_concat]
  | move _ _ _ _ _ _ _ _ _ _ admitted recorded moved =>
    exact Dict.forall_insert ((sound _ _ admitted.found).kept recorded moved) sound
  | quarantine _ _ _ _ _ _ _ admitted moved =>
    exact Dict.forall_insert ((sound _ _ admitted.found).kept (.inl rfl) moved) sound
  | tombstone _ _ _ _ _ _ _ _ _ _ _ retiring =>
    rw [AttemptsOrdered, retired_eq retiring]
    exact sound
  | activation _ _ _ _ _ _ _ _ _ _ admitted superseding _ _ moved =>
    rw [AttemptsOrdered, superseded_eq superseding]
    exact Dict.forall_insert ((sound _ _ admitted.operation_found).kept (.inl rfl) moved) sound

/-- What every change keeps holds after every run. -/
theorem final_of_change {P : Store → Prop}
    (kept : ∀ {store call after}, Change store call after → P store → P after)
    (calls : List Call) (legal : ∀ call ∈ calls, Legal sha256 call) (holds : P store) :
    P (final perform store calls) := by
  refine invariant_final perform P (Legal sha256) ?_ store calls legal holds
  intro state call legal before
  rcases perform_step state call legal with quiet | moves
  · rw [quiet.2]
    exact before
  · exact kept moves.2 before

theorem attempts_ordered (calls : List Call) (legal : ∀ call ∈ calls, Legal sha256 call) :
    AttemptsOrdered (final perform {} calls) :=
  final_of_change attempts_change calls legal nofun

theorem attempts_ordered_retriedTwice : AttemptsOrdered (final perform {} retriedTwice) :=
  attempts_ordered _ retriedTwice_legal

/-- A record read earlier is still the one that is stored, or its version has gone up. -/
def Grown {α : Type} (version : α → Nat) (first : α) (found : Option α) : Prop :=
  ∃ second, found = some second ∧ (second = first ∨ version first < version second)

theorem Grown.step {α : Type} {version : α → Nat} {first current later : α}
    (grown : Grown version first (some current)) (rises : version later = version current + 1) :
    Grown version first (some later) := by
  rcases grown with ⟨second, same, kept⟩
  cases same
  refine ⟨later, rfl, .inr ?_⟩
  rcases kept with rfl | below <;> omega

/-- A version that is read again names the record it named before. -/
structure VersionsName (store after : Store) : Prop where
  operations : ∀ operationId first, store.operation? operationId = some first →
    Grown (·.stateVersion) first (after.operation? operationId)
  documents : ∀ identity first, store.document? identity = some first →
    Grown (·.stateVersion) first (after.document? identity)

theorem versions_change {start : Store} (change : Change store call after)
    (named : VersionsName start store) : VersionsName start after where
  operations operationId first read := by
    have grown := named.operations operationId first read
    rcases operation_after change operationId with same | ⟨_, _, _, _, _, absent, _⟩ |
      ⟨current, next, found, stored, _, rises, _⟩
    · rwa [same]
    · rw [absent] at grown
      exact nomatch grown
    · rw [found] at grown
      exact stored ▸ grown.step rises
  documents identity first read := by
    have grown := named.documents identity first read
    rcases document_after change identity with same | ⟨absent, _⟩ |
      ⟨current, next, found, stored, _, rises, _⟩ |
      ⟨_, _, _, _, _, _, _, _, admitted, rfl, stored, _, rises, _⟩
    · rwa [same]
    · rw [absent] at grown
      exact nomatch grown
    · rw [found] at grown
      exact stored ▸ grown.step rises
    · rw [admitted.document_found] at grown
      exact stored ▸ grown.step rises

theorem versions_name_records (store : Store) (calls : List Call)
    (legal : ∀ call ∈ calls, Legal sha256 call) :
    VersionsName store (final perform store calls) := by
  refine final_of_change versions_change calls legal ⟨?_, ?_⟩
  · exact fun _ first read => ⟨first, read, .inl rfl⟩
  · exact fun _ first read => ⟨first, read, .inl rfl⟩

theorem versions_name_records_retriedTwice : VersionsName (final perform {} retriedTwice)
    (final perform (final perform {} retriedTwice) retriedTwice) :=
  versions_name_records _ _ retriedTwice_legal

end BackendHandbook.Ingestion
