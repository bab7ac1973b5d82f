import BackendHandbook.Agents.ControlLoop

/-! One linear chain of steps without replays, over every sequence of decisions on one store. -/

namespace BackendHandbook.Agents

open Run AgentLoop NextStepRequest List
open BackendHandbook.Runtime (RuntimeResult)

inductive LoopCall
  | orchestrate (step : AgentStepInput) (runtime : AgentRuntimePort)
  | terminate

def LoopAnswer : LoopCall → Type
  | .orchestrate .. => Except String (ControlApplyStatus × Option RuntimeResult)
  | .terminate => Unit

def AgentLoop.start (state : AgentJobState) : AgentLoop := { store := { state } }

def AgentLoop.terminate (loop : AgentLoop) : AgentLoop :=
  { loop with store := { loop.store with state := { loop.store.state with isTerminal := true } } }

section Model

variable (digest : String → String)

def AgentLoop.perform : (call : LoopCall) → AgentLoop → LoopAnswer call × AgentLoop
  | .orchestrate step runtime, loop => orchestrateNextStep (decideControl digest step) runtime loop
  | .terminate, loop => ((), loop.terminate)

abbrev LoopEvent := Event AgentLoop LoopCall LoopAnswer

def loopAfter (state : AgentJobState) (calls : List LoopCall) : AgentLoop :=
  final (perform digest) (.start state) calls

def loopTrace (state : AgentJobState) (calls : List LoopCall) : List LoopEvent :=
  trace (perform digest) (.start state) calls

def LoopCall.step? : LoopCall → Option AgentStepInput
  | .orchestrate step _ => some step
  | .terminate => none

def statusOf : LoopEvent → Option ControlApplyStatus
  | ⟨_, .orchestrate _ _, .ok (status, _), _⟩ => some status
  | _ => none

def createdStep (e : LoopEvent) : Option AgentStepInput :=
  if statusOf e = some .created then e.call.step? else none

def createdRequest (e : LoopEvent) : Option NextStepRequest :=
  (createdStep e).bind fun step => (decideControl digest step).nextStep

def AppliedBefore (front : List LoopEvent) (decision : AgentStepResult) : Prop :=
  ∃ earlier ∈ front, ∃ step ∈ createdStep earlier, decideControl digest step = decision
  deriving Decidable

structure LinearLoop (state : AgentJobState) (calls : List LoopCall) : Prop where
  executed_once : (loopAfter digest state calls).executed =
    (loopTrace digest state calls).filterMap (createdRequest digest)
  chained : (loopAfter digest state calls).executed.map parentStepId ++
      [(loopAfter digest state calls).store.state.currentStepId] =
    state.currentStepId :: (loopAfter digest state calls).executed.map stepId
  terminal : ∀ front middle back, calls = front ++ (middle ++ back) →
    (loopAfter digest state front).store.state.isTerminal = true →
      (loopAfter digest state (front ++ middle)).executed = (loopAfter digest state front).executed
  replays : ∀ front e back, loopTrace digest state calls = front ++ e :: back →
    ∀ step ∈ e.call.step?, statusOf e = some .duplicateReplay ↔
      e.before.store.state.isTerminal = false ∧
        AppliedBefore digest front (decideControl digest step)

def Continues (step : AgentStepInput) : Prop := (decideControl digest step).decision = .continue_
  deriving Decidable

/-- The decisions to continue of two steps are about one step, one attempt and the same
observations in the same order. -/
def Alike (first second : AgentStepInput) : Prop :=
  first.currentStepId = second.currentStepId ∧ first.runtimeAttemptId = second.runtimeAttemptId ∧
    first.verifiedObservationIds = second.verifiedObservationIds
  deriving Decidable

def AgentStepInput.fields (step : AgentStepInput) : List String :=
  step.parts .continue_ "goal_not_yet_satisfied"

/-- Cut at the separator, their fields have the same pieces, and yet they are not alike. -/
def ConfusableSteps (first second : AgentStepInput) : Prop :=
  (Text.pieces unitSeparator first.fields).flatten =
      (Text.pieces unitSeparator second.fields).flatten ∧ ¬ Alike first second

instance (first second : AgentStepInput) : Decidable (ConfusableSteps first second) :=
  inferInstanceAs (Decidable (_ ∧ _))

/-- The decision of the event gets to the replay check, confusable with an applied one. -/
def Confused (earlier e : LoopEvent) : Prop :=
  e.before.store.state.isTerminal = false ∧ ∃ step ∈ e.call.step?, Continues digest step ∧
    ∃ other ∈ createdStep earlier, ConfusableSteps other step
  deriving Decidable

def Unconfused (state : AgentJobState) (calls : List LoopCall) : Prop :=
  (loopTrace digest state calls).Pairwise fun earlier e => ¬ Confused digest earlier e
  deriving Decidable

end Model

section Decisions

variable {digest : String → String}

def Decides (digest : String → String) (step : AgentStepInput) (answer : AgentStepResult) : Prop :=
  ∃ decision reason named, answer = step.result digest decision reason named ∧
    (decision = .continue_ → reason = "goal_not_yet_satisfied")

theorem decideControl_decides (digest : String → String) (step : AgentStepInput) :
    Decides digest step (decideControl digest step) := by
  have halts : ∀ decision reason named, decision ≠ .continue_ →
      Decides digest step (step.result digest decision reason named) :=
    fun _ _ _ other => ⟨_, _, _, rfl, fun going => absurd going other⟩
  repeat' refine iteInduction (motive := Decides _ _) (fun _ => halts _ _ _ nofun) (fun _ => ?_)
  exact ⟨_, _, _, rfl, fun _ => rfl⟩

theorem decideControl_identity (digest : String → String) (step : AgentStepInput) :
    (decideControl digest step).tenantId = step.tenantId ∧
      (decideControl digest step).jobId = step.jobId ∧
      (decideControl digest step).stepId = step.currentStepId := by
  rcases decideControl_decides digest step with ⟨_, _, _, decided, _⟩
  rw [decided]
  exact ⟨rfl, rfl, rfl⟩

theorem decideControl_continues {step : AgentStepInput} (continues : Continues digest step) :
    decideControl digest step =
      step.result digest .continue_ "goal_not_yet_satisfied" (by decide) := by
  rcases decideControl_decides digest step with ⟨decision, _, _, decided, only⟩
  rw [Continues, decided] at continues
  have going : decision = .continue_ := continues
  subst going
  have why := only rfl
  subst why
  exact decided

variable {first second : AgentStepInput}

theorem decisionId_inj (injective : Function.Injective digest)
    (going : Continues digest first) (goes : Continues digest second) :
    (decideControl digest first).controlDecisionId =
        (decideControl digest second).controlDecisionId ↔
      (Text.pieces unitSeparator first.fields).flatten =
        (Text.pieces unitSeparator second.fields).flatten := by
  have filled : ∀ step : AgentStepInput, step.fields ≠ [] := fun _ => cons_ne_nil _ _
  rw [decideControl_continues going, decideControl_continues goes,
    ← Text.intercalate_eq_iff unitSeparator (filled first) (filled second)]
  exact stableId_inj injective

theorem decideControl_eq_iff (tenants : first.tenantId = second.tenantId)
    (jobs : first.jobId = second.jobId) (going : Continues digest first)
    (goes : Continues digest second) :
    decideControl digest first = decideControl digest second ↔ Alike first second := by
  rw [decideControl_continues going, decideControl_continues goes]
  constructor
  · intro same
    have steps := congrArg AgentStepResult.stepId same
    have attempts := congrArg AgentStepResult.sourceAttemptId same
    have requests := congrArg AgentStepResult.nextStep same
    have observed := congrArg NextStepRequest.verifiedObservationIds (Option.some.inj requests)
    exact ⟨steps, attempts, observed⟩
  · rintro ⟨steps, attempts, observed⟩
    simp [AgentStepInput.result, AgentStepInput.decisionId, AgentStepInput.parts,
      AgentStepInput.nextStep, tenants, jobs, steps, attempts, observed]

end Decisions

section Steps

variable {digest : String → String}

/-- What applying a decision to continue does to the loop. -/
structure Executes (result : AgentStepResult) (request : NextStepRequest)
    (before after : AgentLoop) : Prop where
  asked : result.nextStep = some request
  running : before.store.state.isTerminal = false
  fresh : before.store.nextStepsByDecision.lookup result.controlDecisionId = none
  current : before.store.state.currentStepId = result.stepId
  moved : after.store.state = { before.store.state with currentStepId := request.stepId }
  recorded : after.store.nextStepsByDecision =
    before.store.nextStepsByDecision.insert result.controlDecisionId request
  executed : after.executed = before.executed ++ [request]

/-- The decision reaches the replay check, and is found there. -/
structure Replayed (result : AgentStepResult) (loop : AgentLoop) : Prop where
  own : result.tenantId = loop.store.state.tenantId ∧ result.jobId = loop.store.state.jobId
  continues : result.decision = .continue_
  running : loop.store.state.isTerminal = false
  found : (loop.store.nextStepsByDecision.lookup result.controlDecisionId).isSome = true

def appliedStatus (answer : Except String (ControlApplyStatus × Option RuntimeResult)) :
    Option ControlApplyStatus := answer.toOption.map Prod.fst

/-- The step lemma of the loop: a decision is executed, or it changes nothing. -/
theorem orchestrate_cases (result : AgentStepResult) (runtime : AgentRuntimePort)
    (loop : AgentLoop) :
    (appliedStatus (orchestrateNextStep result runtime loop).1 = some .created ∧
        ∃ request, Executes result request loop (orchestrateNextStep result runtime loop).2) ∨
      (appliedStatus (orchestrateNextStep result runtime loop).1 ≠ some .created ∧
        (orchestrateNextStep result runtime loop).2 = loop ∧
        (appliedStatus (orchestrateNextStep result runtime loop).1 = some .duplicateReplay ↔
          Replayed result loop)) := by
  unfold orchestrateNextStep InMemoryControlStore.applyContinue
  by_cases foreign : result.tenantId ≠ loop.store.state.tenantId ∨
      result.jobId ≠ loop.store.state.jobId
  · rw [if_pos foreign]
    refine .inr ⟨nofun, rfl, iff_of_false nofun ?_⟩
    intro replayed
    rcases foreign with other | other
    · exact other replayed.own.1
    · exact other replayed.own.2
  rw [if_neg foreign]
  have own : result.tenantId = loop.store.state.tenantId ∧
      result.jobId = loop.store.state.jobId := by
    simpa [not_or] using foreign
  by_cases halts : result.decision ≠ .continue_
  · rw [dif_pos halts]
    exact .inr ⟨nofun, rfl, iff_of_false nofun fun replayed => halts replayed.continues⟩
  rw [dif_neg halts]
  by_cases ended : loop.store.state.isTerminal = true
  · rw [if_pos ended]
    refine .inr ⟨nofun, rfl, iff_of_false nofun ?_⟩
    intro replayed
    rw [replayed.running] at ended
    cases ended
  rw [if_neg ended]
  by_cases known : (loop.store.nextStepsByDecision.lookup result.controlDecisionId).isSome = true
  · rw [if_pos known]
    exact .inr ⟨nofun, rfl, iff_of_true rfl
      ⟨own, not_not.mp halts, Bool.eq_false_of_not_eq_true ended, known⟩⟩
  rw [if_neg known]
  by_cases stale : loop.store.state.currentStepId ≠ result.stepId
  · rw [if_pos stale]
    exact .inr ⟨nofun, rfl, iff_of_false nofun fun replayed => known replayed.found⟩
  rw [if_neg stale]
  have asked := Option.some_get (result.carries.mp (not_not.mp halts))
  generalize result.nextStep.get (result.carries.mp (not_not.mp halts)) = request at asked
  rw [← asked]
  exact .inl ⟨rfl, request, asked.symm, Bool.eq_false_of_not_eq_true ended,
    Option.not_isSome_iff_eq_none.mp known, not_not.mp stale, rfl, rfl, rfl⟩

/-- What an event is: an applied decision, one without effect, or the end of the job. -/
theorem loop_cases {loop : AgentLoop} {calls : List LoopCall} {e : LoopEvent}
    (member : e ∈ trace (perform digest) loop calls) :
    (∃ step request, e.call.step? = some step ∧ createdStep e = some step ∧
        statusOf e = some .created ∧
        Executes (decideControl digest step) request e.before e.after) ∨
      (∃ step, e.call.step? = some step ∧ createdStep e = none ∧ e.after = e.before ∧
        (statusOf e = some .duplicateReplay ↔ Replayed (decideControl digest step) e.before)) ∨
      (e.call.step? = none ∧ createdStep e = none ∧ e.after = e.before.terminate) := by
  have here := mem_trace_event _ _ calls e member
  rcases e with ⟨before, call, response, after⟩
  cases call with
  | terminate =>
    refine .inr (.inr ⟨rfl, rfl, ?_⟩)
    rw [here]
    rfl
  | orchestrate step runtime =>
    have status : statusOf ⟨before, .orchestrate step runtime, response, after⟩ =
        appliedStatus (orchestrateNextStep (decideControl digest step) runtime before).1 := by
      rw [here]
      change statusOf ⟨_, .orchestrate step runtime,
        (orchestrateNextStep (decideControl digest step) runtime before).1, _⟩ = _
      cases (orchestrateNextStep (decideControl digest step) runtime before).1 <;> rfl
    have next : after = (orchestrateNextStep (decideControl digest step) runtime before).2 :=
      congrArg Event.after here
    rcases orchestrate_cases (decideControl digest step) runtime before with
      ⟨created, request, executes⟩ | ⟨other, same, replay⟩
    · refine .inl ⟨step, request, rfl, ?_, status.trans created, next ▸ executes⟩
      rw [createdStep, if_pos (status.trans created)]
      rfl
    · refine .inr (.inl ⟨step, rfl, ?_, next.trans same, status ▸ replay⟩)
      rw [createdStep, if_neg (status ▸ other)]

end Steps

section Runs

variable {digest : String → String} {loop : AgentLoop} {calls : List LoopCall} {e : LoopEvent}

theorem executed_step (member : e ∈ trace (perform digest) loop calls) :
    e.after.executed = e.before.executed ++ (createdRequest digest e).toList := by
  rcases loop_cases member with ⟨_, _, _, created, _, executes⟩ |
    ⟨_, _, created, same, _⟩ | ⟨_, created, ended⟩
  · rw [executes.executed, createdRequest, created, Option.bind_some, executes.asked]
    rfl
  · rw [same, createdRequest, created]
    simp
  · rw [ended, createdRequest, created]
    simp [AgentLoop.terminate]

theorem executed_eq (digest : String → String) (loop : AgentLoop) (calls : List LoopCall) :
    (final (perform digest) loop calls).executed = loop.executed ++
        (trace (perform digest) loop calls).filterMap (createdRequest digest) := by
  induction calls generalizing loop with
  | nil => simp [final, trace]
  | cons call calls ih =>
    have first := @executed_step digest loop (call :: calls)
      (event (perform digest) loop call) mem_cons_self
    rw [final, ih, trace, filterMap_cons]
    change (perform digest call loop).2.executed = _ at first
    rw [first, append_assoc]
    cases createdRequest digest (event (perform digest) loop call) <;> rfl

/-- The parents of the executed requests are the first step and then their own steps. -/
def Chained (first : String) (loop : AgentLoop) : Prop :=
  loop.executed.map parentStepId ++ [loop.store.state.currentStepId] =
    first :: loop.executed.map stepId

theorem asked_parent {step : AgentStepInput} {request : NextStepRequest}
    (asked : (decideControl digest step).nextStep = some request) :
    request.parentStepId = step.currentStepId := by
  have continues : Continues digest step :=
    (decideControl digest step).carries.mpr (by rw [asked]; rfl)
  rw [decideControl_continues continues] at asked
  rw [← Option.some.inj asked]
  rfl

theorem chained_kept {first : String} (member : e ∈ trace (perform digest) loop calls)
    (chained : Chained first e.before) : Chained first e.after := by
  rcases loop_cases member with ⟨step, request, _, _, _, executes⟩ | ⟨step, _, _, same, _⟩ |
    ⟨_, _, ended⟩
  · have parent : request.parentStepId = e.before.store.state.currentStepId := by
      rw [asked_parent executes.asked, executes.current, (decideControl_identity digest step).2.2]
    rw [Chained, executes.executed, executes.moved, map_append, map_append,
      map_singleton, map_singleton, parent, chained, cons_append]
  · rw [same]
    exact chained
  · rw [ended]
    exact chained

theorem terminal_kept {executed : List NextStepRequest}
    (member : e ∈ trace (perform digest) loop calls)
    (ended : e.before.store.state.isTerminal = true ∧ e.before.executed = executed) :
    e.after.store.state.isTerminal = true ∧ e.after.executed = executed := by
  rcases loop_cases member with ⟨_, _, _, _, _, executes⟩ | ⟨_, _, _, same, _⟩ |
    ⟨_, _, terminated⟩
  · have running := executes.running
    rw [ended.1] at running
    cases running
  · rw [same]
    exact ended
  · rw [terminated]
    exact ⟨rfl, ended.2⟩

theorem own_kept {tenantId jobId : String} (member : e ∈ trace (perform digest) loop calls)
    (own : e.before.store.state.tenantId = tenantId ∧ e.before.store.state.jobId = jobId) :
    e.after.store.state.tenantId = tenantId ∧ e.after.store.state.jobId = jobId := by
  rcases loop_cases member with ⟨_, _, _, _, _, executes⟩ | ⟨_, _, _, same, _⟩ |
    ⟨_, _, terminated⟩
  · rw [executes.moved]
    exact own
  · rw [same]
    exact own
  · rw [terminated]
    exact own

def AppliedId (decisionId : String) (loop : AgentLoop) : Prop :=
  (loop.store.nextStepsByDecision.lookup decisionId).isSome = true

theorem applied_kept {decisionId : String} (member : e ∈ trace (perform digest) loop calls)
    (applied : AppliedId decisionId e.before) : AppliedId decisionId e.after := by
  rcases loop_cases member with ⟨_, _, _, _, _, executes⟩ | ⟨_, _, _, same, _⟩ |
    ⟨_, _, terminated⟩
  · rw [AppliedId, executes.recorded, Dict.lookup_insert_eq]
    split
    · rfl
    · exact applied
  · rw [same]
    exact applied
  · rw [terminated]
    exact applied

end Runs

section Replays

variable {digest : String → String} {state : AgentJobState} {calls : List LoopCall}
variable {front back : List LoopEvent} {e : LoopEvent}
variable {step : AgentStepInput}

theorem created_executes (member : e ∈ loopTrace digest state calls)
    (created : createdStep e = some step) :
    ∃ request, Executes (decideControl digest step) request e.before e.after := by
  rcases loop_cases member with ⟨_, request, _, known, _, executes⟩ | ⟨_, _, none, _⟩ |
    ⟨_, none, _⟩
  · rw [known] at created
    exact ⟨request, Option.some.inj created ▸ executes⟩
  · rw [none] at created
    cases created
  · rw [none] at created
    cases created

theorem created_continues (member : e ∈ loopTrace digest state calls)
    (created : createdStep e = some step) : Continues digest step := by
  rcases created_executes member created with ⟨_, executes⟩
  exact (decideControl digest step).carries.mpr (by rw [executes.asked]; rfl)

theorem applied_iff (split : loopTrace digest state calls = front ++ e :: back)
    (decisionId : String) :
    AppliedId decisionId e.before ↔ ∃ earlier ∈ front, ∃ step, createdStep earlier = some step ∧
      (decideControl digest step).controlDecisionId = decisionId := by
  have within : ∀ other ∈ front, other ∈ loopTrace digest state calls :=
    fun other inside => split ▸ mem_append_left _ inside
  constructor
  · intro applied
    have unknown : ¬ AppliedId decisionId (AgentLoop.start state) := by
      simp [AppliedId, AgentLoop.start]
    rcases established _ (AppliedId decisionId) split unknown applied with
      ⟨earlier, inside, before, after⟩
    refine ⟨earlier, inside, ?_⟩
    rcases loop_cases (within earlier inside) with ⟨step, request, _, created, _, executes⟩ |
      ⟨_, _, _, same, _⟩ | ⟨_, _, terminated⟩
    · refine ⟨step, created, ?_⟩
      by_contra other
      rw [AppliedId, executes.recorded, Dict.lookup_insert_eq, if_neg (Ne.symm other)] at after
      exact before after
    · rw [same] at after
      exact absurd after before
    · rw [terminated] at after
      exact absurd after before
  · rintro ⟨earlier, inside, _, created, known⟩
    refine kept_upto _ (AppliedId decisionId) split
      (fun other member => applied_kept (within other member)) inside ?_
    rcases created_executes (within earlier inside) created with ⟨_, executes⟩
    rw [AppliedId, executes.recorded, known, Dict.lookup_insert_eq, if_pos rfl]
    rfl

theorem created_unique (split : loopTrace digest state calls = front ++ back)
    {first second : LoopEvent} (inside : first ∈ front) (member : second ∈ front)
    {other : AgentStepInput} (created : createdStep first = some step)
    (creates : createdStep second = some other)
    (same : (decideControl digest step).controlDecisionId =
      (decideControl digest other).controlDecisionId) : step = other := by
  -- The later one of two would find the identity of the earlier one in the store.
  have apart : ∀ early middle late, ∀ one two : LoopEvent, ∀ step other,
      loopTrace digest state calls = early ++ one :: (middle ++ two :: late) →
      createdStep one = some step → createdStep two = some other →
      (decideControl digest step).controlDecisionId ≠
        (decideControl digest other).controlDecisionId := by
    intro early middle late one two step other parts created creates same
    have shifted : loopTrace digest state calls = (early ++ one :: middle) ++ two :: late := by
      rw [parts, append_assoc, cons_append]
    have known := (applied_iff shifted (decideControl digest other).controlDecisionId).mpr
      ⟨one, mem_append_right _ mem_cons_self, step, created, same⟩
    have listed : two ∈ loopTrace digest state calls := shifted ▸ mem_append_right _ mem_cons_self
    rcases created_executes listed creates with ⟨_, executes⟩
    rw [AppliedId, executes.fresh] at known
    cases known
  rcases append_of_mem inside with ⟨early, late, parts⟩
  rw [parts] at member
  rcases mem_append.mp member with before | here
  · rcases append_of_mem before with ⟨start, middle, pieces⟩
    refine absurd same.symm (apart start middle (late ++ back) second first other step ?_ creates
      created)
    rw [split, parts, pieces]
    simp
  · rcases mem_cons.mp here with rfl | behind
    · rw [creates] at created
      exact (Option.some.inj created).symm
    · rcases append_of_mem behind with ⟨middle, rest, pieces⟩
      refine absurd same (apart early middle (rest ++ back) first second step other ?_ created
        creates)
      rw [split, parts, pieces]
      simp

/-- A decision answered as a replay reached the check, and one of its identity was applied. -/
theorem replayed_iff (split : loopTrace digest state calls = front ++ e :: back)
    (stepped : e.call.step? = some step)
    (own : step.tenantId = state.tenantId ∧ step.jobId = state.jobId) :
    statusOf e = some .duplicateReplay ↔ Continues digest step ∧
      e.before.store.state.isTerminal = false ∧
      AppliedId (decideControl digest step).controlDecisionId e.before := by
  have listed : e ∈ loopTrace digest state calls := split ▸ mem_append_right _ mem_cons_self
  rcases loop_cases listed with ⟨other, _, asked, _, status, executes⟩ |
    ⟨other, asked, _, _, replays⟩ | ⟨none, _⟩
  · rw [stepped, Option.some.injEq] at asked
    subst asked
    rw [status]
    apply iff_of_false nofun
    rintro ⟨_, _, known⟩
    rw [AppliedId, executes.fresh] at known
    cases known
  · rw [stepped, Option.some.injEq] at asked
    subst asked
    rw [replays]
    constructor
    · intro replayed
      exact ⟨replayed.continues, replayed.running, replayed.found⟩
    · rintro ⟨continues, running, known⟩
      have held := kept_from_start (perform digest)
        (fun loop => loop.store.state.tenantId = state.tenantId ∧
          loop.store.state.jobId = state.jobId) split
        (fun other inside => @own_kept digest _ calls other _ _
          (split ▸ mem_append_left _ inside))
        ⟨rfl, rfl⟩
      have identity := decideControl_identity digest step
      exact ⟨⟨identity.1.trans (own.1.trans held.1.symm),
        identity.2.1.trans (own.2.trans held.2.symm)⟩, continues, running, known⟩
  · rw [stepped] at none
    cases none

end Replays

section Linear

variable {digest : String → String} {state : AgentJobState} {calls : List LoopCall}

def OwnSteps (state : AgentJobState) (calls : List LoopCall) : Prop :=
  ∀ call ∈ calls, ∀ step ∈ call.step?, step.tenantId = state.tenantId ∧ step.jobId = state.jobId
  deriving Decidable

variable {step : AgentStepInput} {e : LoopEvent}

theorem event_own (own : OwnSteps state calls) (member : e ∈ loopTrace digest state calls)
    (stepped : e.call.step? = some step) :
    step.tenantId = state.tenantId ∧ step.jobId = state.jobId :=
  own e.call (mem_of_mem_trace _ _ calls e member) step stepped

theorem created_stepped (created : createdStep e = some step) : e.call.step? = some step := by
  unfold createdStep at created
  split at created
  · exact created
  · cases created

/-- The loop is a linear chain without replays exactly where no decision is confusable with an
applied one. -/
theorem linear_loop_iff (digest : String → String) (injective : Function.Injective digest)
    (state : AgentJobState) (calls : List LoopCall) (own : OwnSteps state calls) :
    LinearLoop digest state calls ↔ Unconfused digest state calls := by
  rw [Unconfused, pairwise_iff_split]
  constructor
  · intro law front e back split earlier inside confused
    rcases confused with ⟨running, step, stepped, continues, other, created, confusable⟩
    have listed : e ∈ loopTrace digest state calls := split ▸ mem_append_right _ mem_cons_self
    have within : ∀ one ∈ front, one ∈ loopTrace digest state calls :=
      fun one member => split ▸ mem_append_left _ member
    have held := event_own own listed stepped
    have goes := created_continues (within earlier inside) created
    have same := (decisionId_inj injective goes continues).mpr confusable.1
    have known := (applied_iff split _).mpr ⟨earlier, inside, other, created, same⟩
    have replayed := (replayed_iff split stepped held).mpr ⟨continues, running, known⟩
    rcases ((law.replays front e back split step stepped).mp replayed).2 with
      ⟨one, member, _, creates, equal⟩
    have alone := created_unique split inside member created creates (by rw [same, equal])
    subst alone
    have belongs := event_own own (within earlier inside) (created_stepped created)
    exact confusable.2 ((decideControl_eq_iff (belongs.1.trans held.1.symm)
      (belongs.2.trans held.2.symm) goes continues).mp equal)
  · intro apart
    refine ⟨executed_eq digest _ calls, ?_, ?_, ?_⟩
    · exact kept_final _ (Chained state.currentStepId) _ calls
        (fun e member => chained_kept member) rfl
    · intro front middle back parts ended
      rw [loopAfter, final_append]
      exact (kept_final _
        (fun loop => loop.store.state.isTerminal = true ∧
          loop.executed = (loopAfter digest state front).executed) _ middle
        (fun e member => terminal_kept member) ⟨ended, rfl⟩).2
    · intro front e back split step stepped
      have listed : e ∈ loopTrace digest state calls := split ▸ mem_append_right _ mem_cons_self
      have within : ∀ one ∈ front, one ∈ loopTrace digest state calls :=
        fun one member => split ▸ mem_append_left _ member
      have held := event_own own listed stepped
      rw [replayed_iff split stepped held, applied_iff split]
      constructor
      · rintro ⟨continues, running, earlier, inside, other, created, same⟩
        refine ⟨running, earlier, inside, other, created, ?_⟩
        have goes := created_continues (within earlier inside) created
        have belongs := event_own own (within earlier inside) (created_stepped created)
        refine (decideControl_eq_iff (belongs.1.trans held.1.symm) (belongs.2.trans held.2.symm)
          goes continues).mpr ?_
        by_contra different
        exact apart front e back split earlier inside
          ⟨running, step, stepped, continues, other, created,
            (decisionId_inj injective goes continues).mp same, different⟩
      · rintro ⟨running, earlier, inside, other, created, same⟩
        have goes := created_continues (within earlier inside) created
        rw [Continues, same] at goes
        exact ⟨goes, running, earlier, inside, other, created, by rw [same]⟩

end Linear

namespace Sample

def digest (material : String) : String := material

def job : AgentJobState := { tenantId := "tenant-a", jobId := "J1", currentStepId := "S1" }

def observing (observations : List String) (unique : observations.Nodup) : AgentStepInput :=
  { tenantId := "tenant-a", jobId := "J1", currentStepId := "S1", runtimeAttemptId := "A1"
    goalRequiredObservations := 3, verifiedObservationIds := observations
    identities := by decide, goal := by decide, unique, bound := by simp }

def recording : AgentRuntimePort := fun _ =>
  { jobId := "J1", attemptId := "A1", stage := .completion, status := .completed
    recoveryAction := .none, evidenceLevel := .executedLocalRuntime
    reason := "recording runtime completed", identified := by decide, pending := nofun
    finished := fun _ => rfl }

/-- One decision, delivered twice. -/
def redelivered : List LoopCall :=
  [.orchestrate (observing ["O1", "O2"] (by decide)) recording,
    .orchestrate (observing ["O1", "O2"] (by decide)) recording]

theorem linear_loop_iff_redelivered :
    Function.Injective digest ∧ LinearLoop digest job redelivered :=
  ⟨Function.injective_id, (linear_loop_iff digest Function.injective_id job redelivered
    (by decide)).mpr (by decide +kernel)⟩

/-- One observation with a comma in its identity, and then two without. -/
def confused : List LoopCall :=
  [.orchestrate (observing ["O1,O2"] (by decide)) recording,
    .orchestrate (observing ["O1", "O2"] (by decide)) recording]

/-- The second decision is answered as a replay of the first one. -/
theorem observations_confused : ¬ LinearLoop digest job confused := by
  intro law
  have replayed := (law.replays [event (perform digest) (.start job) _] _ [] rfl _ rfl).mp
    (by decide +kernel)
  revert replayed
  decide +kernel

end Sample

end BackendHandbook.Agents
