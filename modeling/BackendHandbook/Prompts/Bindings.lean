import BackendHandbook.Prompts.Gate

/-! What the hashes of a binding tell, and what every call keeps of the attempts. -/

namespace BackendHandbook.Prompts

open Interleaving Json Sorting PromptState

variable {resolved : Dict String Scalar}

section Hashes

variable {runtime : PromptRuntime}

theorem MessageRole.value_injective : Function.Injective MessageRole.value := by
  intro first second same
  cases first <;> cases second <;> first | rfl | exact absurd same (by decide)

theorem Scalar.plain_injective : Function.Injective Scalar.plain := by
  intro first second same
  cases first <;> cases second <;> cases same <;> rfl

theorem hash_injective (injective : Function.Injective runtime.sha256) {first second : Plain}
    (same : "sha256:" ++ runtime.sha256 (dumps first) =
      "sha256:" ++ runtime.sha256 (dumps second)) : first = second := by
  have letters := congrArg String.toList same
  rw [String.toList_append, String.toList_append, List.append_cancel_left_eq] at letters
  exact dumps_injective (injective (String.toList_injective letters))

theorem sortedVariables_lookup {first second : Dict String Scalar}
    (same : sortedVariables first = sortedVariables second) (name : String) :
    first.lookup name = second.lookup name := by
  have entries : ∀ entry other : (_ : String) × Scalar,
      (entry.1, entry.2.plain) = (other.1, other.2.plain) → entry = other := by
    rintro ⟨_, _⟩ ⟨_, _⟩ pairs
    rcases Prod.mk.inj pairs with ⟨keys, values⟩
    dsimp only at keys values
    rw [keys, Scalar.plain_injective values]
  have sorted := List.map_injective_iff.mpr (fun _ _ pairs => entries _ _ pairs) same
  apply AList.perm_lookup
  exact (sortBy_perm _ first.entries).symm.trans (sorted ▸ sortBy_perm _ second.entries)

theorem fingerprint_lookup (injective : Function.Injective runtime.sha256)
    {first second : PromptContractRevision} {others : Dict String Scalar}
    (same : "sha256:" ++ runtime.sha256 (dumps (inputPayload first resolved)) =
      "sha256:" ++ runtime.sha256 (dumps (inputPayload second others))) (name : String) :
    resolved.lookup name = others.lookup name := by
  have payloads := hash_injective injective same
  simp only [inputPayload, Plain.object.injEq, List.cons.injEq, Prod.mk.injEq, true_and,
    and_true] at payloads
  exact sortedVariables_lookup payloads.2.2 name

theorem renderedHash_injective (injective : Function.Injective runtime.sha256)
    {first second : List RenderedMessage}
    (same : computeRenderedHash runtime first = computeRenderedHash runtime second) :
    first = second := by
  have payloads := hash_injective injective same
  simp only [messagesPayload, Plain.array.injEq] at payloads
  refine List.map_injective_iff.mpr ?_ payloads
  rintro ⟨_, _⟩ ⟨_, _⟩ pairs
  simp only [Plain.array.injEq, List.cons.injEq, Plain.text.injEq, and_true] at pairs
  rw [MessageRole.value_injective pairs.1, pairs.2]

end Hashes

variable {binding : AttemptPromptBinding}

section Plannings

variable {runtime : PromptRuntime}

def Planning.Resolves (runtime : PromptRuntime) (planning : Planning)
    (resolved : Dict String Scalar) (messages : List RenderedMessage) : Prop :=
  ∃ planned, validateAndFillVariables planning.revision planning.variableMap = .ok planned ∧
    (∀ name, planned.lookup name = resolved.lookup name) ∧
    renderMessages runtime planning.revision planning.variableMap = .ok messages

variable {planning : Planning} {messages : List RenderedMessage}

theorem planning_resolves (injective : Function.Injective runtime.sha256)
    {planned : List RenderedMessage}
    (bound : planAttemptBinding runtime planning = .ok (binding, planned))
    {revision : PromptContractRevision}
    (fingerprint : "sha256:" ++ runtime.sha256 (dumps (inputPayload revision resolved)) =
      binding.inputFingerprint)
    (hash : computeRenderedHash runtime messages = binding.renderedMessageHash) :
    planning.Resolves runtime resolved messages := by
  unfold planAttemptBinding at bound
  split at bound
  · cases bound
  next first rendered =>
  split at bound
  · cases bound
  next printed computed =>
  cases bound
  unfold computeInputFingerprint at computed
  split at computed
  · cases computed
  next filled valid =>
  cases computed
  refine ⟨filled, valid, fun name => (fingerprint_lookup injective fingerprint name).symm, ?_⟩
  rw [rendered, renderedHash_injective injective hash]

theorem planned_attemptId (bound : planAttemptBinding runtime planning = .ok (binding, messages)) :
    binding.attemptId = planning.attemptId := by
  unfold planAttemptBinding at bound
  split at bound
  · cases bound
  split at bound
  · cases bound
  · cases bound
    rfl

end Plannings

section Records

/-- Records are never removed or bound anew, and one that is not planned any more stays. -/
def RecordsKept (before after : PromptState) : Prop :=
  Dict.Kept AttemptPromptRecord.binding (·.state = .planned) before.records after.records

variable (runtime : PromptRuntime) (moves : List PromptMove)

/-- What the operations of the system call: plannings with their own bindings, and transitions
from `PLANNED`. -/
def Guarded : PromptCall → Prop
  | .plan binding => ∃ planning messages, .plan planning ∈ operations moves ∧
      planAttemptBinding runtime planning = .ok (binding, messages)
  | .compareAndSet _ expected _ => expected = .planned
  | _ => True

def RecordsPlanned (state : PromptState) : Prop :=
  ∀ attemptId record, state.records.lookup attemptId = some record →
    record.binding.attemptId = attemptId ∧ ∃ planning messages,
      .plan planning ∈ operations moves ∧
        planAttemptBinding runtime planning = .ok (record.binding, messages)

variable {runtime} {moves} {call : PromptCall} {state : PromptState}

/-- What a call of the system can do to the records. -/
theorem records_cases (guarded : Guarded runtime moves call) :
    (perform call state).2.records = state.records ∨
      (∃ binding, call = .plan binding ∧ state.records.lookup binding.attemptId = none ∧
        (perform call state).2.records =
          state.records.insert binding.attemptId ⟨binding, .planned⟩) ∨
      ∃ binding new, call = .compareAndSet binding .planned new ∧
        state.records.lookup binding.attemptId = some ⟨binding, .planned⟩ ∧
        (perform call state).2.records = state.records.insert binding.attemptId ⟨binding, new⟩ := by
  cases call with
  | plan binding =>
    simp only [perform]
    cases held : state.records.lookup binding.attemptId with
    | some => exact .inl rfl
    | none => exact .inr (.inl ⟨binding, rfl, held, rfl⟩)
  | compareAndSet binding expected new =>
    have planned : expected = .planned := guarded
    subst planned
    simp only [perform]
    split
    · next held => exact .inr (.inr ⟨binding, new, rfl, held, rfl⟩)
    · exact .inl rfl
  | publishRevision =>
    left
    simp only [perform]
    split
    · split
      · rfl
      · rfl
    · rfl
  | publishDefault | setDefaultRevision =>
    left
    simp only [perform]
    split
    · rfl
    · rfl
  | getRecord | getRevision | status | register | setStatus => exact .inl rfl

theorem swapped_lookup (new : AttemptPromptState)
    (planned : state.records.lookup binding.attemptId = some ⟨binding, .planned⟩) :
    (perform (.compareAndSet binding .planned new) state).2.records.lookup
      binding.attemptId = some ⟨binding, new⟩ := by
  simp only [perform]
  rw [if_pos (show AttemptPromptRecord.Expected _ _ _ from planned)]
  exact AList.lookup_insert _

theorem plan_accepted (accepted : (perform (.plan binding) state).1 = Except.ok ()) :
    state.records.lookup binding.attemptId = none ∧
      (perform (.plan binding) state).2.records.lookup binding.attemptId =
        some ⟨binding, .planned⟩ := by
  simp only [perform] at accepted ⊢
  cases held : state.records.lookup binding.attemptId with
  | some =>
    rw [held] at accepted
    cases accepted
  | none => exact ⟨rfl, AList.lookup_insert _⟩

theorem perform_recordsKept (guarded : Guarded runtime moves call) :
    RecordsKept state (perform call state).2 := by
  unfold RecordsKept
  rcases @records_cases runtime moves _ state guarded with
    same | ⟨_, _, absent, written⟩ | ⟨_, _, _, planned, written⟩
  · rw [same]
    exact Dict.Kept.refl _
  · rw [written]
    exact Dict.Kept.insert_absent absent
  · rw [written]
    exact Dict.Kept.insert_open planned rfl rfl

theorem perform_recordsPlanned (guarded : Guarded runtime moves call)
    (planned : RecordsPlanned runtime moves state) :
    RecordsPlanned runtime moves (perform call state).2 := by
  unfold RecordsPlanned
  rcases @records_cases runtime moves _ state guarded with
    same | ⟨_, rfl, _, written⟩ | ⟨_, _, _, stands, written⟩
  · rwa [same]
  · rw [written]
    exact Dict.forall_insert ⟨rfl, guarded⟩ planned
  · rw [written]
    exact Dict.forall_insert ⟨rfl, (planned _ _ stands).2⟩ planned

end Records

end BackendHandbook.Prompts
