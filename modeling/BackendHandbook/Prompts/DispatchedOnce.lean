import BackendHandbook.Foundation.Closing
import BackendHandbook.Prompts.Bindings

/-! The gate lets an attempt through at most once, and only as it was bound. -/

namespace BackendHandbook.Prompts

open Interleaving PromptState

section Statement

variable (runtime : PromptRuntime) (start : PromptState) (moves : List PromptMove)

abbrev PromptTurn := Turn PromptCall PromptAnswer Empty Empty.elim PromptResult

abbrev promptTurns : List PromptTurn := turns (PromptOperation.program runtime) moves

abbrev promptsReached : Pool PromptState PromptCall PromptAnswer Empty Empty.elim PromptResult :=
  reached (PromptOperation.program runtime) perform start moves

abbrev promptsBehind (front : List PromptTurn) : PromptState := stateBehind perform start front

abbrev PromptCallsAt (index : Nat) (front : List PromptTurn) (call : PromptCall) : Prop :=
  PerformsAt (PromptOperation.program runtime) perform start moves index front call

def gateOutcome : PromptProgram PromptResult → Option PromptGateOutcome
  | .done (.gate (.ok result)) => some result.outcome
  | _ => none

def acceptedPlan : PromptProgram PromptResult → Bool
  | .done (.planned (.ok _)) => true
  | _ => false

def Ready (index : Nat) (binding : AttemptPromptBinding) (variableMap : Variables) : Prop :=
  (operations moves)[index]? = some (.prepareDispatch binding variableMap) ∧
    (promptsReached runtime start moves).threads[index]?.bind gateOutcome = some .ready

def AttemptPromptBinding.key (binding : AttemptPromptBinding) : String × String :=
  (binding.promptContractId, binding.revision)

variable (index : Nat) (binding : AttemptPromptBinding)

def ActiveDuring : Prop :=
  ∃ front call, PromptCallsAt runtime start moves index front call ∧
    (promptsBehind start front).statusOf binding.key = .active

/-- The attempt was planned with what resolves to the same variables and renders to the same
messages as the input of the call, under the revision that the call got. -/
def AsPlanned (variableMap : Variables) : Prop :=
  ∃ front revision resolved messages,
    PromptCallsAt runtime start moves index front (.getRevision binding.key) ∧
    (promptsBehind start front).revisions.lookup binding.key = some revision ∧
    validateAndFillVariables revision variableMap = .ok resolved ∧
    renderMessages runtime revision variableMap = .ok messages ∧
    (∃ planning : Planning, .plan planning ∈ operations moves ∧
      planning.attemptId = binding.attemptId ∧ planning.Resolves runtime resolved messages) ∧
    ∀ (other : Nat) (planning : Planning), (operations moves)[other]? = some (.plan planning) →
      (promptsReached runtime start moves).threads[other]?.any acceptedPlan = true →
      planning.attemptId = binding.attemptId → planning.Resolves runtime resolved messages

/-- The operation was refused or raised, as far as the attempts are concerned. -/
def PromptResult.Refused : PromptResult → Prop
  | .planned (.ok _) => False
  | .gate (.ok result) => result.outcome ≠ .ready ∧ result.outcome ≠ .blockedPromptDisabled
  | _ => True

/-- What the gate and its stores promise over a run. -/
structure GateSafe : Prop where
  once : ∀ index other binding bound variableMap values,
    Ready runtime start moves index binding variableMap →
    Ready runtime start moves other bound values → binding.attemptId = bound.attemptId →
    index = other
  active : ∀ index binding variableMap, Ready runtime start moves index binding variableMap →
    ActiveDuring runtime start moves index binding
  asPlanned : ∀ index binding variableMap, Ready runtime start moves index binding variableMap →
    AsPlanned runtime start moves index binding variableMap
  kept : ∀ early late, early <+: late → late <+: promptTurns runtime moves →
    RecordsKept (promptsBehind start early) (promptsBehind start late)
  anyDefault : ∀ front back default, moves = front ++ back → ∃ later,
    run perform
        ⟨{ (promptsReached runtime start front).state with default },
          (promptsReached runtime start front).threads⟩ (promptTurns runtime back) =
      ⟨{ (promptsReached runtime start moves).state with default := later },
        (promptsReached runtime start moves).threads⟩
  unchanged : ∀ index result,
    (promptsReached runtime start moves).threads[index]? = some (.done result) → result.Refused →
    ∀ front call, PromptCallsAt runtime start moves index front call →
      (perform call (promptsBehind start front)).2.records = (promptsBehind start front).records

end Statement

section Guards

variable {runtime : PromptRuntime} {start : PromptState} {moves : List PromptMove}

theorem verify_issues (authoritative : AttemptPromptBinding) (revision : PromptContractRevision)
    (variableMap : Variables) :
    (verify runtime authoritative revision variableMap).Issues (Guarded runtime moves) := by
  unfold verify
  split
  · trivial
  split
  · trivial
  · trivial
  split
  · trivial
  split
  · trivial
  refine ⟨rfl, fun moved => ?_⟩
  dsimp only
  split
  · trivial
  · trivial

theorem prepareDispatch_issues (binding : AttemptPromptBinding) (variableMap : Variables) :
    (prepareDispatch runtime binding variableMap).Issues (Guarded runtime moves) := by
  refine ⟨trivial, fun record => ?_⟩
  dsimp only
  split
  · trivial
  split
  · trivial
  split
  · trivial
  refine ⟨trivial, fun revision => ?_⟩
  dsimp only
  split
  · trivial
  refine ⟨trivial, fun status => ?_⟩
  dsimp only
  split
  · trivial
  split
  · refine ⟨rfl, fun moved => ?_⟩
    dsimp only
    split
    · trivial
    · trivial
  split
  · trivial
  split
  · trivial
  · exact verify_issues _ _ _

theorem operation_issues {operation : PromptOperation} (listed : operation ∈ operations moves) :
    (operation.program runtime).Issues (Guarded runtime moves) := by
  cases operation with
  | plan planning =>
    change (plan runtime planning).Issues _
    unfold plan
    split
    · trivial
    · next binding messages bound =>
      exact ⟨⟨planning, messages, listed, bound⟩, fun _ => trivial⟩
  | prepareDispatch binding variableMap =>
    exact Program.issues_map (prepareDispatch_issues binding variableMap)
  | publish =>
    refine ⟨trivial, fun answer => ?_⟩
    dsimp only
    split
    · trivial
    · exact ⟨trivial, fun _ => ⟨trivial, fun _ => trivial⟩⟩
  | setDefaultRevision | setStatus => exact ⟨trivial, fun _ => trivial⟩

theorem prompts_guarded : ∀ e ∈ systemTrace (PromptOperation.program runtime)
    perform start moves, Guarded runtime moves e.call :=
  system_issues _ (Guarded runtime moves) fun _ => operation_issues

end Guards

section Path

variable {γ : Type} {At : γ → PromptCall → Prop} {state : γ → PromptState}
variable {runtime : PromptRuntime} {binding : AttemptPromptBinding} {variableMap : Variables}
variable {result : PromptGateResult} {moments : List γ}

structure ReadyCall (runtime : PromptRuntime) (At : γ → PromptCall → Prop) (state : γ → PromptState)
    (binding : AttemptPromptBinding) (variableMap : Variables) (revised admitted moved : γ) :
    Prop where
  revisedAt : At revised (.getRevision binding.key)
  admittedAt : At admitted (.status binding.key)
  movedAt : At moved (.compareAndSet binding .planned .dispatched)
  active : (state admitted).statusOf binding.key = .active
  planned : (state moved).records.lookup binding.attemptId = some ⟨binding, .planned⟩
  input : ∃ revision resolved messages,
    (state revised).revisions.lookup binding.key = some revision ∧
    validateAndFillVariables revision variableMap = .ok resolved ∧
    renderMessages runtime revision variableMap = .ok messages ∧
    "sha256:" ++ runtime.sha256 (Json.dumps (inputPayload revision resolved)) =
      binding.inputFingerprint ∧
    computeRenderedHash runtime messages = binding.renderedMessageHash

theorem rejected_not_ready {outcome : PromptGateOutcome} {attemptState : AttemptPromptState}
    {detail : GateDetail} (other : outcome ≠ .ready)
    (path : (rejected outcome attemptState detail).Path perform At state moments
      (.ok result)) : result.outcome ≠ .ready := by
  cases path.2
  exact other

theorem verify_path {revision : PromptContractRevision}
    (path : (verify runtime binding revision variableMap).Path perform At state moments
      (.ok result)) (ready : result.outcome = .ready) :
    ∃ moved resolved messages, moments = [moved] ∧
      At moved (.compareAndSet binding .planned .dispatched) ∧
      (state moved).records.lookup binding.attemptId = some ⟨binding, .planned⟩ ∧
      validateAndFillVariables revision variableMap = .ok resolved ∧
      renderMessages runtime revision variableMap = .ok messages ∧
      "sha256:" ++ runtime.sha256 (Json.dumps (inputPayload revision resolved)) =
        binding.inputFingerprint ∧
      computeRenderedHash runtime messages = binding.renderedMessageHash := by
  unfold verify at path
  split at path
  · exact absurd ready (rejected_not_ready (by decide) path)
  next printed computed =>
  split at path
  · exact absurd ready (rejected_not_ready (by decide) path)
  · cases path.2
  next messages rendered =>
  split at path
  · exact absurd ready (rejected_not_ready (by decide) path)
  next fingerprint =>
  split at path
  · exact absurd ready (rejected_not_ready (by decide) path)
  next hash =>
  rcases path with ⟨moved, _, rfl, movedAt, path⟩
  dsimp only at path
  split at path
  · next swapped =>
    rcases path with ⟨rfl, _⟩
    unfold computeInputFingerprint at computed
    split at computed
    · cases computed
    next resolved valid =>
    cases computed
    refine ⟨moved, resolved, messages, rfl, movedAt, ?_, valid, rendered, not_not.mp fingerprint,
      not_not.mp hash⟩
    simp only [perform] at swapped
    split at swapped
    · assumption
    · cases swapped
  · cases path.2

theorem prepareDispatch_path
    (path : (prepareDispatch runtime binding variableMap).Path perform At state moments
      (.ok result)) (ready : result.outcome = .ready) :
    ∃ read revised admitted moved, moments = [read, revised, admitted, moved] ∧
      ReadyCall runtime At state binding variableMap revised admitted moved := by
  rcases path with ⟨read, later, rfl, _, path⟩
  dsimp only at path
  split at path
  · cases path.2
  next record found =>
  split at path
  · exact absurd ready (rejected_not_ready (by decide) path)
  next same =>
  split at path
  · cases path.2
  rw [← not_not.mp same] at path
  rcases path with ⟨revised, later, rfl, revisedAt, path⟩
  dsimp only at path
  split at path
  · exact absurd ready (rejected_not_ready (by decide) path)
  next revision published =>
  rcases path with ⟨admitted, later, rfl, admittedAt, path⟩
  dsimp only at path
  split at path
  · exact absurd ready (rejected_not_ready (by decide) path)
  split at path
  · rcases path with ⟨_, _, rfl, _, path⟩
    dsimp only at path
    split at path
    · exact absurd ready (rejected_not_ready (by decide) path)
    · cases path.2
  next active =>
  split at path
  · cases path.2
  split at path
  · exact absurd ready (rejected_not_ready (by decide) path)
  rcases verify_path path ready with
    ⟨moved, resolved, messages, rfl, movedAt, planned, valid, rendered, fingerprint, hash⟩
  exact ⟨read, revised, admitted, moved, rfl,
    { revisedAt, admittedAt, movedAt, active := not_not.mp active, planned
      input := ⟨revision, resolved, messages, published, valid, rendered, fingerprint, hash⟩ }⟩

end Path

section Ready

variable {runtime : PromptRuntime} {start : PromptState} {moves : List PromptMove}
variable {index other : Nat} {binding bound : AttemptPromptBinding}
variable {variableMap values : Variables} {early late : List PromptTurn}

theorem ready_path (ready : Ready runtime start moves index binding variableMap) :
    ∃ revised admitted moved, ReadyCall runtime (PromptCallsAt runtime start moves index)
      (promptsBehind start) binding variableMap revised admitted moved := by
  rcases ready with ⟨listed, returned⟩
  rcases Option.bind_eq_some_iff.mp returned with ⟨_, ended, outcome⟩
  unfold gateOutcome at outcome
  split at outcome
  case h_2 => cases outcome
  next result =>
  rcases operation_path listed ended with ⟨_, _, _, _, path, _, _⟩
  rcases Program.path_map path with ⟨_, same, path⟩
  cases same
  rcases prepareDispatch_path path (Option.some.inj outcome) with
    ⟨_, revised, admitted, moved, _, call⟩
  exact ⟨revised, admitted, moved, call⟩

theorem records_along (before : early <+: late) (inside : late <+: promptTurns runtime moves) :
    RecordsKept (promptsBehind start early) (promptsBehind start late) := by
  refine @system_along _ _ _ _ _ _ _ _ _ _ _ RecordsKept (fun state => Dict.Kept.refl _)
    (fun _ _ _ first second => Dict.Kept.trans first second) (fun e member => ?_) _ _ before inside
  rw [(Run.mem_trace_performed member).2]
  exact perform_recordsKept (prompts_guarded e member)

theorem planned_along (fresh : start.records = ∅) (inside : late <+: promptTurns runtime moves) :
    RecordsPlanned runtime moves (promptsBehind start late) := by
  refine @system_along _ _ _ _ _ _ _ (PromptOperation.program runtime) perform start
    moves (fun early late => RecordsPlanned runtime moves early → RecordsPlanned runtime moves late)
    (fun _ planned => planned) (fun _ _ _ first second planned => second (first planned))
    (fun e member planned => ?_) [] late List.nil_prefix inside ?_
  · rw [(Run.mem_trace_performed member).2]
    exact perform_recordsPlanned (prompts_guarded e member) planned
  · intro attemptId record held
    change start.records.lookup attemptId = some record at held
    rw [fresh] at held
    cases held

theorem ready_once (ready : Ready runtime start moves index binding variableMap)
    (again : Ready runtime start moves other bound values)
    (same : binding.attemptId = bound.attemptId) : index = other := by
  rcases ready_path ready with ⟨_, _, moved, first⟩
  rcases ready_path again with ⟨_, _, swapped, second⟩
  have free : (promptsBehind start swapped).records.lookup binding.attemptId =
      some ⟨bound, .planned⟩ := same ▸ second.planned
  exact (Performs.once
    (P := fun state => ∃ own, state.records.lookup binding.attemptId = some ⟨own, .dispatched⟩)
    (fun before inside ⟨own, found⟩ => ⟨own, (records_along before inside).stays found (by simp)⟩)
    first.movedAt second.movedAt ⟨_, swapped_lookup .dispatched first.planned⟩
    ⟨_, same ▸ swapped_lookup .dispatched second.planned⟩
    (fun ⟨_, held⟩ => nomatch held.symm.trans first.planned)
    (fun ⟨_, held⟩ => nomatch held.symm.trans free)).1

theorem accepted_binding {planning : Planning} {record : AttemptPromptRecord}
    (listed : (operations moves)[other]? = some (.plan planning))
    (accepted : (promptsReached runtime start moves).threads[other]?.any acceptedPlan = true)
    (attempt : planning.attemptId = binding.attemptId)
    (inside : PromptCallsAt runtime start moves index late (.compareAndSet binding .planned
      .dispatched))
    (stored : (promptsBehind start late).records.lookup binding.attemptId = some record) :
    ∃ messages, planAttemptBinding runtime planning = .ok (record.binding, messages) := by
  cases ended : (promptsReached runtime start moves).threads[other]? with
  | none =>
    rw [ended] at accepted
    cases accepted
  | some thread =>
  have finished : acceptedPlan thread = true := by
    rw [ended] at accepted
    exact accepted
  unfold acceptedPlan at finished
  split at finished
  case h_2 => cases finished
  next messages =>
  rcases operation_path listed ended with ⟨_, _, _, _, path, _, _⟩
  change (plan runtime planning).Path _ _ _ _ _ at path
  unfold plan at path
  split at path
  · cases path.2
  next planned messages made =>
  rcases path with ⟨moment, _, rfl, plannedAt, _, answered⟩
  have ids := (planned_attemptId made).trans attempt
  have first : (perform (.plan planned) (promptsBehind start moment)).1 = Except.ok () := by
    cases answer : (perform (.plan planned) (promptsBehind start moment)).1 with
    | error =>
      rw [answer] at answered
      cases answered
    | ok => rfl
  rcases plan_accepted first with ⟨absent, written⟩
  rw [ids] at absent written
  have plannedInside : moment <+: promptTurns runtime moves := plannedAt.inside
  by_cases longer : moment.length < late.length
  · have bound : ∃ record, (promptsBehind start late).records.lookup binding.attemptId =
        some record ∧ record.binding = planned := by
      refine Performs.stands (P := fun state => ∃ record, state.records.lookup binding.attemptId =
        some record ∧ record.binding = planned) (fun before inside ⟨_, found, same⟩ => ?_)
        plannedAt ⟨_, written, rfl⟩ inside.inside longer
      rcases records_along before inside _ _ found with ⟨kept, stands, again, _⟩
      exact ⟨kept, stands, again.trans same⟩
    rcases bound with ⟨_, found, same⟩
    rw [stored] at found
    cases found
    rw [same]
    exact ⟨messages, made⟩
  · have before : late <+: moment :=
      List.prefix_of_prefix_length_le inside.inside plannedInside (not_lt.mp longer)
    rcases records_along before plannedInside _ _ stored with ⟨_, found, _⟩
    rw [absent] at found
    cases found

theorem ready_asPlanned (injective : Function.Injective runtime.sha256)
    (fresh : start.records = ∅) (ready : Ready runtime start moves index binding variableMap) :
    AsPlanned runtime start moves index binding variableMap := by
  rcases ready_path ready with ⟨revised, _, _, call⟩
  rcases call.input with
    ⟨revision, resolved, messages, published, valid, rendered, fingerprint, hash⟩
  refine ⟨revised, revision, resolved, messages, call.revisedAt, published, valid, rendered, ?_, ?_⟩
  · rcases (planned_along fresh call.movedAt.inside _ _ call.planned).2 with
      ⟨planning, planned, listed, made⟩
    exact ⟨planning, listed, (planned_attemptId made).symm,
      planning_resolves injective made fingerprint hash⟩
  · intro other planning listed accepted attempt
    rcases accepted_binding listed accepted attempt call.movedAt call.planned with ⟨_, made⟩
    exact planning_resolves injective made fingerprint hash

end Ready

section Refusals

variable {runtime : PromptRuntime} {start : PromptState} {moves : List PromptMove}

def KeepsRecords (call : PromptCall) (state : PromptState) : Prop :=
  (perform call state).2.records = state.records

abbrev PromptsClosing : PromptProgram PromptResult → Prop :=
  Program.Closing perform KeepsRecords fun program =>
    ∃ result, program = .done result ∧ ¬ result.Refused

variable (authoritative : AttemptPromptBinding)

theorem dispatch_closing :
    ((dispatch authoritative).map PromptResult.gate).Everywhere PromptsClosing := by
  refine ⟨fun state => ?_, fun moved => ?_⟩
  · simp only [KeepsRecords, perform]
    split
    · exact .inr ⟨_, rfl, fun refused => refused.1 rfl⟩
    · exact .inl rfl
  · dsimp only
    split
    · trivial
    · trivial

theorem verify_closing (revision : PromptContractRevision) (variableMap : Variables) :
    ((verify runtime authoritative revision variableMap).map PromptResult.gate).Everywhere
      PromptsClosing := by
  unfold verify
  split
  · trivial
  split
  · trivial
  · trivial
  split
  · trivial
  split
  · trivial
  · exact dispatch_closing authoritative

theorem block_closing (status : PromptStatus) :
    ((Program.call (.compareAndSet authoritative .planned .blockedPromptDisabled)
      fun (moved : Bool) => if moved then
        rejected .blockedPromptDisabled .blockedPromptDisabled (.boundRevisionIs status)
      else .done (.error (.couldNotBlock authoritative.attemptId)) :
        PromptProgram _).map PromptResult.gate).Everywhere PromptsClosing := by
  refine ⟨fun state => ?_, fun moved => ?_⟩
  · simp only [KeepsRecords, perform]
    split
    · exact .inr ⟨_, rfl, fun refused => refused.2 rfl⟩
    · exact .inl rfl
  · dsimp only
    split
    · trivial
    · trivial

theorem prepareDispatch_closing (binding : AttemptPromptBinding) (variableMap : Variables) :
    ((prepareDispatch runtime binding variableMap).map PromptResult.gate).Everywhere
      PromptsClosing := by
  refine ⟨fun state => .inl rfl, fun record => ?_⟩
  dsimp only
  split
  · trivial
  split
  · trivial
  split
  · trivial
  refine ⟨fun state => .inl rfl, fun revision => ?_⟩
  dsimp only
  split
  · trivial
  refine ⟨fun state => .inl rfl, fun status => ?_⟩
  dsimp only
  split
  · trivial
  split
  · exact block_closing _ status
  split
  · trivial
  split
  · trivial
  · exact verify_closing _ _ variableMap

variable (revision : PromptContractRevision)

theorem publishing_keepsRecords (state : PromptState) :
    KeepsRecords (.publishRevision revision) state := by
  simp only [KeepsRecords, perform]
  split
  · split
    · rfl
    · rfl
  · rfl

theorem defaulting_keepsRecords (makeDefault : Bool)
    (state : PromptState) : KeepsRecords (.publishDefault revision makeDefault) state := by
  simp only [KeepsRecords, perform]
  split
  · rfl
  · rfl

theorem operation_closing (operation : PromptOperation) :
    (operation.program runtime).Everywhere PromptsClosing := by
  cases operation with
  | plan planning =>
    change (plan runtime planning).Everywhere _
    unfold plan
    split
    · trivial
    · refine ⟨fun state => ?_, fun _ => trivial⟩
      simp only [KeepsRecords, perform]
      split
      · exact .inl rfl
      · exact .inr ⟨_, rfl, id⟩
  | prepareDispatch => exact prepareDispatch_closing _ _
  | publish revision makeDefault =>
    refine ⟨fun state => .inl (publishing_keepsRecords revision state), fun answer => ?_⟩
    dsimp only
    split
    · trivial
    · refine ⟨fun _ => .inl rfl, fun _ => ⟨fun state => .inl ?_, fun _ => trivial⟩⟩
      exact defaulting_keepsRecords revision makeDefault state
  | setDefaultRevision =>
    refine ⟨fun state => .inl ?_, fun _ => trivial⟩
    simp only [KeepsRecords, perform]
    split
    · rfl
    · rfl
  | setStatus => exact ⟨fun _ => .inl rfl, fun _ => trivial⟩

theorem refused_unchanged {index : Nat} {result : PromptResult} {front : List PromptTurn}
    {call : PromptCall}
    (ended : (promptsReached runtime start moves).threads[index]? = some (.done result))
    (refused : result.Refused) (performs : PromptCallsAt runtime start moves index front call) :
    KeepsRecords call (promptsBehind start front) := by
  refine quiet_of_result (Q := fun result => ¬ result.Refused) (fun program member => ?_) performs
    ended (not_not.mpr refused)
  rw [started_turns] at member
  rcases List.mem_map.mp member with ⟨operation, _, rfl⟩
  exact operation_closing operation

end Refusals

section Defaults

variable {runtime : PromptRuntime} {start : PromptState}

/-- The states differ in the default revisions at most. -/
def SameButDefault (state other : PromptState) : Prop := ∃ default, other = { state with default }

/-- No call answers by the default revisions, or writes anything else by them. -/
theorem perform_sameButDefault (call : PromptCall) (state other : PromptState)
    (same : SameButDefault state other) : (perform call state).1 = (perform call other).1 ∧
      SameButDefault (perform call state).2 (perform call other).2 := by
  rcases same with ⟨default, rfl⟩
  cases call with
  | plan | compareAndSet =>
    simp only [perform]
    split
    · exact ⟨rfl, default, rfl⟩
    · exact ⟨rfl, default, rfl⟩
  | publishRevision =>
    simp only [perform]
    split
    · split
      · exact ⟨rfl, default, rfl⟩
      · exact ⟨rfl, default, rfl⟩
    · exact ⟨rfl, default, rfl⟩
  | publishDefault =>
    simp only [perform]
    split
    · split
      · exact ⟨rfl, _, rfl⟩
      · exact ⟨rfl, _, rfl⟩
    · split
      · exact ⟨rfl, _, rfl⟩
      · exact ⟨rfl, _, rfl⟩
  | setDefaultRevision =>
    simp only [perform]
    split
    · exact ⟨rfl, _, rfl⟩
    · exact ⟨rfl, _, rfl⟩
  | getRecord | getRevision | status | register | setStatus => exact ⟨rfl, default, rfl⟩

theorem run_anyDefault (front back : List PromptMove) (default : Dict String String) :
    ∃ later, run perform ⟨{ (promptsReached runtime start front).state with default },
          (promptsReached runtime start front).threads⟩ (promptTurns runtime back) =
      ⟨{ (promptsReached runtime start (front ++ back)).state with default := later },
        (promptsReached runtime start (front ++ back)).threads⟩ := by
  have alike : SameButDefault (promptsReached runtime start front).state
      { (promptsReached runtime start front).state with default } := ⟨default, rfl⟩
  rcases run_alike perform_sameButDefault alike (promptsReached runtime start front).threads
    (promptTurns runtime back) with ⟨threads, later, state⟩
  refine ⟨later, ?_⟩
  have whole : promptsReached runtime start (front ++ back) =
      run perform (promptsReached runtime start front) (promptTurns runtime back) := by
    rw [promptsReached, reached, turns_append, run_append]
    rfl
  rw [whole, ← threads, ← state]

end Defaults

namespace Sample

def runtime : PromptRuntime := { sha256 := id, vformat := fun text _ => .ok text }

theorem str_unlisted : VariableType.str = .enum →
    ∃ values, (none : Option (Finset String)) = some values ∧ values ≠ ∅ := nofun

def support : PromptContractRevision :=
  { promptContractId := "support", revision := "2", messages := [⟨.system, "Answer briefly."⟩]
    variableSpecs :=
      [{ name := "tone", type := .str, required := false, default := .scalar (.str "plain")
         no_default := nofun, enumerated := str_unlisted }]
    compatibleApplicationContracts := {"answer-v1"}, semanticGuarantees := {"cites"}
    rendererVersion := "r1" }

def planning : Planning :=
  { attemptId := "attempt-1", jobId := "job-1", revision := support, parameterPolicyId := "policy"
    parameterPolicyRevision := "1", applicationContract := "answer-v1", variableMap := ∅ }

def binding : AttemptPromptBinding :=
  { attemptId := "attempt-1", jobId := "job-1", promptContractId := "support", revision := "2"
    rendererVersion := "r1", parameterPolicyId := "policy", parameterPolicyRevision := "1"
    applicationContract := "answer-v1"
    inputFingerprint := "sha256:" ++ Json.dumps (inputPayload support
      ((∅ : Dict String Scalar).insert "tone" (.str "plain")))
    renderedMessageHash := computeRenderedHash runtime [⟨.system, "Answer briefly."⟩] }

def resume (index : Nat) : PromptMove := .resume index nofun

/-- Two workers pass all checks, one that leaves the tone to its default and one that names it, and
the revision is disabled before the first of them moves the attempt. -/
def contended : List PromptMove :=
  [.start (.publish support true), resume 0, resume 0, resume 0, .start (.plan planning), resume 1,
    .start (.prepareDispatch binding ∅),
    .start (.prepareDispatch binding ((∅ : Variables).insert "tone" (.scalar (.str "plain")))),
    resume 2, resume 3, resume 2, resume 3, resume 2, resume 3,
    .start (.setStatus ("support", "2") .disabled), resume 4, resume 3, resume 2]

example : (promptsReached runtime {} contended).threads.map gateOutcome =
    [none, none, none, some .ready, none] := by decide +kernel

end Sample

end BackendHandbook.Prompts
