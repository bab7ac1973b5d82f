import BackendHandbook.Foundation.Histories
import BackendHandbook.McpServer.Handlers

/-! Every claimed operation is settled once its handler has ended, unless its output could not be
validated or its service ended outside the exceptions that are handled. -/

namespace BackendHandbook.McpServer

open Interleaving Run List

abbrev HandlerFact := (call : HandlerCall) × call.Answer

inductive Phase
  | idle
  | claimed (operationId : String)
  | served (operationId : String) (reply : ServiceReply)
  | validated (operationId : String) (reply : ValidationReply)
  | completed (operationId : String)
  | pending (operationId : String)

namespace Phase

def behind : List HandlerFact → Phase
  | ⟨.tryClaim permit, .claimed⟩ :: _ => .claimed permit.applicationOperationId
  | ⟨.lookup _ permit, reply⟩ :: _ => .served permit.applicationOperationId reply
  | ⟨.validate _ permit, reply⟩ :: _ => .validated permit.applicationOperationId reply
  | ⟨.markCompleted operationId, _⟩ :: _ => .completed operationId
  | ⟨.markPendingReconciliation operationId, _⟩ :: _ => .pending operationId
  | _ => .idle

def operation : Phase → Option String
  | .idle => none
  | .claimed operationId => some operationId
  | .served operationId _ => some operationId
  | .validated operationId _ => some operationId
  | .completed operationId => some operationId
  | .pending operationId => some operationId

def owns (operationId : String) (phase : Phase) : Bool := phase.operation = some operationId

/-- A handler goes no further from here. -/
def Rests : Phase → Prop
  | .idle => True
  | .claimed _ => False
  | .served _ reply => reply = .interrupted
  | .validated _ reply => ∃ raised, reply = .error raised
  | .completed _ => True
  | .pending _ => True

end Phase

def Allowed (known : List HandlerFact) : HandlerCall → Prop
  | .requestAdmission _ => Phase.behind known = .idle
  | .tryClaim _ => Phase.behind known = .idle
  | .lookup _ permit => Phase.behind known = .claimed permit.applicationOperationId
  | .validate _ permit =>
    ∃ content, Phase.behind known = .served permit.applicationOperationId (.returned (some content))
  | .markCompleted operationId =>
    ∃ decision, Phase.behind known = .validated operationId (.ok decision)
  | .markPendingReconciliation operationId =>
    Phase.behind known = .served operationId .raised ∨
      Phase.behind known = .served operationId (.returned none)

section Programs

variable {known : List HandlerFact}

variable {operationId : String}

theorem reconcile_recalls (allowed : Allowed known (.markPendingReconciliation operationId)) :
    (reconcile operationId).Recalls Allowed known := by
  refine ⟨allowed, fun response => ?_⟩
  cases response <;> trivial

variable (request : ServerToolRequest)

variable {permit : ApplicationToolPermit}

theorem complete_recalls {content : Content} (returned : Phase.behind known =
      .served permit.applicationOperationId (.returned (some content))) :
    (complete request permit content).Recalls Allowed known := by
  refine ⟨⟨content, returned⟩, fun validation => ?_⟩
  cases validation with
  | error => trivial
  | ok decision =>
    refine ⟨⟨decision, rfl⟩, fun marked => ?_⟩
    cases marked with
    | error => trivial
    | ok =>
      split <;> trivial

theorem serve_recalls (query : String)
    (claimed : Phase.behind known = .claimed permit.applicationOperationId) :
    (serve request permit query).Recalls Allowed known := by
  refine ⟨claimed, fun reply => ?_⟩
  cases reply with
  | returned content =>
    cases content with
    | none => exact reconcile_recalls (.inr rfl)
    | some => exact complete_recalls request rfl
  | raised => exact reconcile_recalls (.inl rfl)
  | interrupted => trivial

theorem handle_recalls : (handle request).Recalls Allowed [] := by
  refine ⟨rfl, fun admission => ?_⟩
  cases admission with
  | error => trivial
  | ok decision =>
    dsimp only
    cases decision.permit with
    | none => trivial
    | some =>
      cases queryOf request with
      | none => trivial
      | some query =>
        refine ⟨rfl, fun outcome => ?_⟩
        cases outcome with
        | claimed => exact serve_recalls request query rfl
        | duplicate | identityConflict => trivial

def Ended (known : List HandlerFact) (_ : Handled) : Prop := (Phase.behind known).Rests

variable {known : List HandlerFact}

theorem reconcile_ends : (reconcile operationId).Ends Ended known := by
  intro response
  cases response <;> trivial

variable (request : ServerToolRequest)

theorem complete_ends (permit : ApplicationToolPermit) (content : Content) :
    (complete request permit content).Ends Ended known := by
  intro validation
  cases validation with
  | error raised => exact ⟨raised, rfl⟩
  | ok =>
    intro marked
    cases marked with
    | error => trivial
    | ok =>
      split <;> trivial

theorem serve_ends (permit : ApplicationToolPermit) (query : String) :
    (serve request permit query).Ends Ended known := by
  intro reply
  cases reply with
  | returned content =>
    cases content with
    | none => exact reconcile_ends
    | some => exact complete_ends request permit _
  | raised => exact reconcile_ends
  | interrupted => rfl

theorem handle_ends : (handle request).Ends Ended [] := by
  intro admission
  cases admission with
  | error => trivial
  | ok decision =>
    dsimp only
    cases decision.permit with
    | none => trivial
    | some permit =>
      cases queryOf request with
      | none => trivial
      | some query =>
        intro outcome
        cases outcome with
        | claimed => exact serve_ends request permit query
        | duplicate | identityConflict => trivial

end Programs

namespace ServerWorld

variable (world : ServerWorld) (operationId : String)

def servicesOf : List ServiceReply :=
  (world.services.filter fun entry => entry.1 = operationId).map Prod.snd

def validationsOf : List ValidationReply :=
  (world.validations.filter fun entry => entry.1 = operationId).map Prod.snd

end ServerWorld

def Stage (world : ServerWorld) (operationId : String) : Option Phase → Prop
  | none => world.registry.status operationId = none ∧ world.servicesOf operationId = [] ∧
      world.validationsOf operationId = []
  | some .idle => False
  | some (.claimed _) => world.registry.status operationId = some .inFlight ∧
      world.servicesOf operationId = [] ∧ world.validationsOf operationId = []
  | some (.served _ reply) => world.registry.status operationId = some .inFlight ∧
      world.servicesOf operationId = [reply] ∧ world.validationsOf operationId = []
  | some (.validated _ reply) => world.registry.status operationId = some .inFlight ∧
      (∃ content, world.servicesOf operationId = [.returned (some content)]) ∧
      world.validationsOf operationId = [reply]
  | some (.completed _) => world.registry.status operationId = some .completed ∧
      (∃ content, world.servicesOf operationId = [.returned (some content)]) ∧
      ∃ decision, world.validationsOf operationId = [.ok decision]
  | some (.pending _) => world.registry.status operationId = some .pendingReconciliation ∧
      (world.servicesOf operationId = [.raised] ∨ world.servicesOf operationId = [.returned none]) ∧
      world.validationsOf operationId = []

/-- Every operation has one handler that has claimed it, at that stage, or is not claimed. -/
def Inv (world : ServerWorld) (past : List (List HandlerFact)) : Prop :=
  ∀ operationId, ∃ owner : Option Phase,
    (past.map Phase.behind).filter (Phase.owns operationId) = owner.toList ∧
      Stage world operationId owner

/-- Nothing about the operation has changed. -/
structure Frame (operationId : String) (world after : ServerWorld) : Prop where
  status : after.registry.status operationId = world.registry.status operationId
  services : after.servicesOf operationId = world.servicesOf operationId
  validations : after.validationsOf operationId = world.validationsOf operationId

variable {owner : Option Phase}

theorem Stage.frame {operationId : String} {world after : ServerWorld}
    (stage : Stage world operationId owner) (frame : Frame operationId world after) :
    Stage after operationId owner := by
  obtain ⟨status, services, validations⟩ := frame
  cases owner with
  | none => simpa [Stage, status, services, validations] using stage
  | some phase =>
    cases phase with
    | idle => exact stage
    | _ => simpa [Stage, status, services, validations] using stage

/-- What a call does to every operation, by the phases of its handler before and behind it. -/
structure Steps (world after : ServerWorld) (phase next : Phase) : Prop where
  others : ∀ operationId, phase.owns operationId = false → next.owns operationId = false →
    Frame operationId world after
  own : ∀ operationId, phase.owns operationId = true → next.owns operationId = true ∧
    (Stage world operationId (some phase) → Stage after operationId (some next))
  enters : ∀ operationId, phase.owns operationId = false → next.owns operationId = true →
    ∀ owner, Stage world operationId owner → owner = none ∧ Stage after operationId (some next)

theorem Steps.inv {world after : ServerWorld} {past : List (List HandlerFact)} {index : Nat}
    {known : List HandlerFact} {fact : HandlerFact}
    (steps : Steps world after (Phase.behind known) (Phase.behind (fact :: known)))
    (inv : Inv world past) (listed : past[index]? = some known) :
    Inv after (past.modify index (fact :: ·)) := by
  intro operationId
  obtain ⟨owner, owners, stage⟩ := inv operationId
  refine ⟨_, owner_modify owners listed (fact :: ·)
    fun out enters => (steps.enters operationId out enters owner stage).1, ?_⟩
  cases owned : (Phase.behind known).owns operationId with
  | true =>
    obtain ⟨stays, moved⟩ := steps.own operationId owned
    rw [if_pos stays]
    rw [owner_of_inside owners (mem_of_getElem? listed) owned] at stage
    exact moved stage
  | false =>
    cases entering : (Phase.behind (fact :: known)).owns operationId with
    | true => exact (steps.enters operationId owned entering owner stage).2
    | false => exact stage.frame (steps.others operationId owned entering)

section Calls

variable {ports : ServerPorts} {world : ServerWorld} {known : List HandlerFact}

def Advances (ports : ServerPorts) (world : ServerWorld) (known : List HandlerFact)
    (call : HandlerCall) : Prop :=
  Steps world (perform ports call world).2 (Phase.behind known)
    (Phase.behind (⟨call, (perform ports call world).1⟩ :: known))

theorem status_write (registry : InMemoryOperationRegistry) (operationId other : String)
    (status : OperationInvocationStatus) : (registry.write operationId status).status other =
      if other = operationId then some status else registry.status other :=
  Dict.lookup_insert_eq _ _ _ _

theorem repliesOf_cons {Reply : Type} (log : List (String × Reply)) (operationId other : String)
    (reply : Reply) :
    (((operationId, reply) :: log).filter fun entry => entry.1 = other).map Prod.snd =
      if other = operationId then reply :: (log.filter fun entry => entry.1 = other).map Prod.snd
      else (log.filter fun entry => entry.1 = other).map Prod.snd := by
  by_cases same : other = operationId
  · subst same
    simp
  · have different : ¬ operationId = other := fun equal => same equal.symm
    simp [same, different]

variable {operationId : String}

theorem owns_iff {phase : Phase} :
    phase.owns operationId = true ↔ phase.operation = some operationId := decide_eq_true_iff

variable {after : ServerWorld} {phase next : Phase}

theorem steps_of_own
    (held : phase.operation = some operationId) (kept : next.operation = some operationId)
    (others : ∀ other, other ≠ operationId → Frame other world after)
    (moved : Stage world operationId (some phase) → Stage after operationId (some next)) :
    Steps world after phase next where
  others other out _ := others other fun same => by
    rw [same, Phase.owns, held] at out
    exact absurd out (by simp)
  own other owned := by
    have same : operationId = other := Option.some.inj (held.symm.trans (owns_iff.mp owned))
    subst same
    exact ⟨owns_iff.mpr kept, moved⟩
  enters other out owned := by
    have same : operationId = other := Option.some.inj (kept.symm.trans (owns_iff.mp owned))
    rw [Phase.owns, held, same] at out
    exact absurd out (by simp)

theorem steps_of_idle (idle : phase.operation = none)
    (stays : next.operation = none) (frame : ∀ other, Frame other world after) :
    Steps world after phase next where
  others other _ _ := frame other
  own other owned := by
    rw [owns_iff, idle] at owned
    cases owned
  enters other _ owned := by
    rw [owns_iff, stays] at owned
    cases owned

theorem requestAdmission_steps (request : ServerToolRequest)
    (allowed : Allowed known (.requestAdmission request)) :
    Advances ports world known (.requestAdmission request) := by
  rw [Advances, show Phase.behind known = .idle from allowed]
  exact steps_of_idle rfl rfl fun other => ⟨rfl, rfl, rfl⟩

theorem tryClaim_steps (permit : ApplicationToolPermit)
    (allowed : Allowed known (.tryClaim permit)) :
    Advances ports world known (.tryClaim permit) := by
  rw [Advances, show Phase.behind known = .idle from allowed]
  simp only [perform, InMemoryOperationRegistry.tryClaim]
  by_cases taken : (world.registry.status permit.applicationOperationId).isSome
  · rw [if_pos taken]
    split
    · exact steps_of_idle rfl rfl fun other => ⟨rfl, rfl, rfl⟩
    · exact steps_of_idle rfl rfl fun other => ⟨rfl, rfl, rfl⟩
  · rw [if_neg taken]
    have written : ∀ other, InMemoryOperationRegistry.status
        { world.registry.write permit.applicationOperationId .inFlight with
          idempotencyKeyByOperationId := world.registry.idempotencyKeyByOperationId.insert
            permit.applicationOperationId permit.idempotencyKey } other =
        if other = permit.applicationOperationId then some .inFlight
        else world.registry.status other := fun other => status_write _ _ other _
    refine ⟨fun other _ out => ?_, nofun, fun other _ owned owner stage => ?_⟩
    · have different : other ≠ permit.applicationOperationId := by
        intro same
        rw [same] at out
        exact absurd out (by simp [Phase.behind, Phase.owns, Phase.operation])
      exact ⟨(written other).trans (if_neg different), rfl, rfl⟩
    · have same : permit.applicationOperationId = other := Option.some.inj (owns_iff.mp owned)
      have free : world.registry.status other = none := by
        rw [← same]
        exact Option.not_isSome_iff_eq_none.mp taken
      have status := written other
      rw [if_pos same.symm] at status
      cases owner with
      | none => exact ⟨rfl, status, stage.2.1, stage.2.2⟩
      | some phase =>
        cases phase with
        | idle => exact stage.elim
        | _ => cases free.symm.trans stage.1

theorem lookup_steps (query : String) (permit : ApplicationToolPermit)
    (allowed : Allowed known (.lookup query permit)) :
    Advances ports world known (.lookup query permit) := by
  rw [Advances, show Phase.behind known = .claimed permit.applicationOperationId from allowed]
  refine steps_of_own rfl rfl (fun other different => ⟨rfl, ?_, rfl⟩) fun stage => ?_
  · exact (repliesOf_cons _ _ _ _).trans (if_neg different)
  · obtain ⟨status, services, validations⟩ := stage
    exact ⟨status, ((repliesOf_cons _ _ _ _).trans (if_pos rfl)).trans (congrArg (_ :: ·) services),
      validations⟩

theorem validate_steps (content : Content) (permit : ApplicationToolPermit)
    (allowed : Allowed known (.validate content permit)) :
    Advances ports world known (.validate content permit) := by
  obtain ⟨returned, served⟩ := allowed
  rw [Advances, served]
  refine steps_of_own rfl rfl (fun other different => ⟨rfl, rfl, ?_⟩) fun stage => ?_
  · exact (repliesOf_cons _ _ _ _).trans (if_neg different)
  · obtain ⟨status, services, validations⟩ := stage
    exact ⟨status, ⟨returned, services⟩,
      ((repliesOf_cons _ _ _ _).trans (if_pos rfl)).trans (congrArg (_ :: ·) validations)⟩

theorem markCompleted_steps {decision : ApplicationOutputValidationDecision}
    (validated : Phase.behind known = .validated operationId (.ok decision))
    (inFlight : world.registry.status operationId = some .inFlight) :
    Advances ports world known (.markCompleted operationId) := by
  rw [Advances, validated]
  simp only [perform, InMemoryOperationRegistry.markCompleted, if_neg (not_not.mpr inFlight)]
  refine steps_of_own rfl rfl (fun other different => ⟨?_, rfl, rfl⟩) fun stage => ?_
  · exact (status_write _ _ _ _).trans (if_neg different)
  · obtain ⟨_, services, validations⟩ := stage
    exact ⟨(status_write _ _ _ _).trans (if_pos rfl), services, decision, validations⟩

theorem markPending_steps {reply : ServiceReply}
    (served : Phase.behind known = .served operationId reply)
    (failed : reply = .raised ∨ reply = .returned none)
    (inFlight : world.registry.status operationId = some .inFlight) :
    Advances ports world known (.markPendingReconciliation operationId) := by
  have claimed : ¬ (world.registry.status operationId).isNone := by
    rw [inFlight]
    exact Bool.false_ne_true
  rw [Advances, served]
  simp only [perform, InMemoryOperationRegistry.markPendingReconciliation, if_neg claimed]
  refine steps_of_own rfl rfl (fun other different => ⟨?_, rfl, rfl⟩) fun stage => ?_
  · exact (status_write _ _ _ _).trans (if_neg different)
  · obtain ⟨_, services, validations⟩ := stage
    refine ⟨(status_write _ _ _ _).trans (if_pos rfl), ?_, validations⟩
    rcases failed with rfl | rfl
    · exact .inl services
    · exact .inr services

variable {past : List (List HandlerFact)} {index : Nat}

theorem Inv.owned (inv : Inv world past) (listed : past[index]? = some known)
    (held : (Phase.behind known).operation = some operationId) :
    Stage world operationId (some (Phase.behind known)) := by
  obtain ⟨_, owners, stage⟩ := inv operationId
  rw [owner_of_inside owners (mem_of_getElem? listed) (owns_iff.mpr held)] at stage
  exact stage

theorem perform_steps (inv : Inv world past)
    (listed : past[index]? = some known) (call : HandlerCall) (allowed : Allowed known call) :
    Advances ports world known call := by
  cases call with
  | requestAdmission => exact requestAdmission_steps _ allowed
  | tryClaim => exact tryClaim_steps _ allowed
  | lookup => exact lookup_steps _ _ allowed
  | validate => exact validate_steps _ _ allowed
  | markCompleted operationId =>
    obtain ⟨_, validated⟩ := allowed
    have held : (Phase.behind known).operation = some operationId := by
      rw [validated]
      rfl
    have stage := inv.owned listed held
    rw [validated] at stage
    exact markCompleted_steps validated stage.1
  | markPendingReconciliation operationId =>
    obtain ⟨reply, served, failed⟩ : ∃ reply, Phase.behind known = .served operationId reply ∧
        (reply = .raised ∨ reply = .returned none) := by
      rcases allowed with raised | refused
      · exact ⟨_, raised, .inl rfl⟩
      · exact ⟨_, refused, .inr rfl⟩
    have held : (Phase.behind known).operation = some operationId := by
      rw [served]
      rfl
    have stage := inv.owned listed held
    rw [served] at stage
    exact markPending_steps served failed stage.1

end Calls

section Runs

variable {ports : ServerPorts} {moves : List HandlerMove}

theorem inv_start : Inv {} [] := fun _ => ⟨none, rfl, rfl, rfl, rfl⟩

variable (world : ServerWorld) (past : List (List HandlerFact))

theorem inv_enters (inv : Inv world past) : Inv world (past ++ [[]]) := by
  intro operationId
  obtain ⟨owner, owners, stage⟩ := inv operationId
  refine ⟨owner, ?_, stage⟩
  rw [map_append, filter_append, owners]
  exact append_nil _

theorem inv_moves (index : Nat)
    (known : List HandlerFact) (call : HandlerCall) (inv : Inv world past)
    (listed : past[index]? = some known) (allowed : Allowed known call) :
    Inv (perform ports call world).2
      (past.modify index fun known => ⟨call, (perform ports call world).1⟩ :: known) :=
  (perform_steps inv listed call allowed).inv inv listed

theorem started_recalls : ∀ program ∈ started (turns handle moves), program.Recalls Allowed [] := by
  intro program member
  rw [started_turns] at member
  obtain ⟨request, _, rfl⟩ := mem_map.mp member
  exact handle_recalls request

def pastOf (ports : ServerPorts) (moves : List HandlerMove) : List (List HandlerFact) :=
  histories (perform ports) ⟨{}, []⟩ [] (turns handle moves)

theorem inv_reached : Inv (serverWorld ports moves) (pastOf ports moves) :=
  run_histories (perform ports) inv_enters inv_moves {} (turns handle moves) inv_start
    started_recalls

variable {known : List HandlerFact}

theorem ended_rests (ended : AllEnded ports moves)
    (listed : known ∈ pastOf ports moves) : (Phase.behind known).Rests := by
  obtain ⟨index, found⟩ := mem_iff_getElem?.mp listed
  have aligned := run_aligned (perform ports) (fun _ => ends_tracks Ended) {} (turns handle moves)
    (R := fun _ known program => Program.Ends Ended known program) (by
      intro place program started
      have member := mem_of_getElem? started
      rw [started_turns] at member
      obtain ⟨request, _, rfl⟩ := mem_map.mp member
      exact handle_ends request)
  have inside := (List.getElem?_eq_some_iff.mp found).1
  rw [show (pastOf ports moves).length = _ from aligned.1] at inside
  have thread := getElem?_eq_getElem inside
  obtain ⟨handled, done⟩ := ended _ (getElem_mem inside)
  rw [done] at thread
  exact aligned.2 index (.done handled) known thread found

/-- The operation has this status for good: it is settled, or its handler has given it up. -/
def RestsAt (operationId : String) (status : OperationInvocationStatus) (world : ServerWorld) :
    Prop :=
  world.registry.status operationId = some status ∧ (status = .inFlight →
    .interrupted ∈ world.servicesOf operationId ∨
      ∃ raised, .error raised ∈ world.validationsOf operationId)

theorem RestsAt.frame {operationId : String} {status : OperationInvocationStatus}
    {world after : ServerWorld} (rests : RestsAt operationId status world)
    (frame : Frame operationId world after) : RestsAt operationId status after := by
  unfold RestsAt
  rw [frame.status, frame.services, frame.validations]
  exact rests

/-- A handler that still has a call to make has not settled its operation. -/
theorem unrested_of_allowed {world : ServerWorld} {call : HandlerCall}
    {operationId : String} {status : OperationInvocationStatus}
    (allowed : Allowed known call) (owned : (Phase.behind known).operation = some operationId)
    (stage : Stage world operationId (some (Phase.behind known))) :
    ¬ RestsAt operationId status world := by
  rintro ⟨found, gone⟩
  cases call with
  | requestAdmission | tryClaim =>
    rw [show Phase.behind known = .idle from allowed] at owned
    cases owned
  | lookup _ permit =>
    rw [show Phase.behind known = .claimed permit.applicationOperationId from allowed] at stage
    obtain ⟨inFlight, services, validations⟩ := stage
    cases found.symm.trans inFlight
    simp [services, validations] at gone
  | validate =>
    obtain ⟨_, served⟩ := allowed
    rw [served] at stage
    obtain ⟨inFlight, services, validations⟩ := stage
    cases found.symm.trans inFlight
    simp [services, validations] at gone
  | markCompleted =>
    obtain ⟨_, validated⟩ := allowed
    rw [validated] at stage
    obtain ⟨inFlight, ⟨_, services⟩, validations⟩ := stage
    cases found.symm.trans inFlight
    simp [services, validations] at gone
  | markPendingReconciliation =>
    rcases allowed with raised | refused
    · rw [raised] at stage
      obtain ⟨inFlight, services, validations⟩ := stage
      cases found.symm.trans inFlight
      simp [services, validations] at gone
    · rw [refused] at stage
      obtain ⟨inFlight, services, validations⟩ := stage
      cases found.symm.trans inFlight
      simp [services, validations] at gone

variable {operationId : String} {status : OperationInvocationStatus}

theorem event_rests {e : Event ServerWorld HandlerCall HandlerCall.Answer}
    (member : e ∈ systemTrace handle (perform ports) {} moves)
    (rests : RestsAt operationId status e.before) : RestsAt operationId status e.after := by
  obtain ⟨_, _, known, inv, listed, allowed⟩ := event_histories (perform ports) inv_enters
    inv_moves {} (turns handle moves) inv_start started_recalls e member
  have steps := @perform_steps ports _ _ _ _ inv listed e.call allowed
  rw [Advances, ← (mem_trace_performed member).2] at steps
  cases owned : (Phase.behind known).owns operationId with
  | true =>
    have held := owns_iff.mp owned
    exact absurd rests (unrested_of_allowed allowed held (inv.owned listed held))
  | false =>
    cases entering : (Phase.behind (⟨e.call, (perform ports e.call e.before).1⟩ ::
        known)).owns operationId with
    | false => exact rests.frame (steps.others operationId owned entering)
    | true =>
      obtain ⟨owner, _, stage⟩ := inv operationId
      obtain ⟨rfl, _⟩ := steps.enters operationId owned entering owner stage
      cases stage.1.symm.trans rests.1

theorem rests_later
    (later : List HandlerMove) (rests : RestsAt operationId status (serverWorld ports moves)) :
    RestsAt operationId status (serverWorld ports (moves ++ later)) := by
  have before : turns handle moves <+: turns handle (moves ++ later) := by
    rw [turns_append]
    exact prefix_append _ _
  have along : RestsAt operationId status (serverWorld ports moves) →
      RestsAt operationId status (serverWorld ports (moves ++ later)) :=
    system_along
      (R := fun early late => RestsAt operationId status early → RestsAt operationId status late)
      (fun _ rests => rests) (fun _ _ _ first second rests => second (first rests))
      (fun e member => event_rests member) before (prefix_refl _)
  exact along rests

end Runs

section Settled

variable (ports : ServerPorts) (moves : List HandlerMove)

def Returned (world : ServerWorld) (operationId : String) : Prop :=
  ∃ content, .returned content ∈ world.servicesOf operationId

/-- The service is called once at most, and every claimed operation is settled by what it did, for
good. -/
structure SettledOnce : Prop where
  served : ∀ operationId, ((serverWorld ports moves).servicesOf operationId).length ≤ 1
  settled : ∀ operationId status,
    (serverWorld ports moves).registry.status operationId = some status →
    (Returned (serverWorld ports moves) operationId → status = .completed) ∧
      (¬ Returned (serverWorld ports moves) operationId → status = .pendingReconciliation)
  kept : ∀ operationId status, (serverWorld ports moves).registry.status operationId = some status →
    ∀ later, (serverWorld ports (moves ++ later)).registry.status operationId = some status

/-- The service has ended inside what is handled and with what `dict` takes, and the validation of
its output has not raised. -/
structure Faultless : Prop where
  services : ∀ operationId, ∀ reply ∈ (serverWorld ports moves).servicesOf operationId,
    reply ≠ .interrupted ∧ reply ≠ .returned none
  validations : ∀ operationId, ∀ reply ∈ (serverWorld ports moves).validationsOf operationId,
    ∃ decision, reply = .ok decision

variable {ports} {moves}

theorem ended_stage (ended : AllEnded ports moves) (operationId : String) :
    Stage (serverWorld ports moves) operationId none ∨
      ∃ phase : Phase, phase.Rests ∧ Stage (serverWorld ports moves) operationId (some phase) := by
  obtain ⟨owner, owners, stage⟩ := @inv_reached ports moves operationId
  cases owner with
  | none => exact .inl stage
  | some phase =>
    have member : phase ∈ (pastOf ports moves).map Phase.behind := by
      have inside : phase ∈ ((pastOf ports moves).map Phase.behind).filter
          (Phase.owns operationId) := by
        rw [owners]
        exact mem_singleton_self phase
      exact (mem_filter.mp inside).1
    obtain ⟨_, listed, rfl⟩ := mem_map.mp member
    exact .inr ⟨_, ended_rests ended listed, stage⟩

variable {world : ServerWorld} {operationId : String}

variable {phase : Phase}

/-- A rested stage is settled, where its service and its validation have not failed. -/
theorem settled_of_stage {status : OperationInvocationStatus} (rests : phase.Rests)
    (stage : Stage world operationId (some phase))
    (found : world.registry.status operationId = some status)
    (services : ∀ reply ∈ world.servicesOf operationId,
      reply ≠ .interrupted ∧ reply ≠ .returned none)
    (validations : ∀ reply ∈ world.validationsOf operationId, ∃ decision, reply = .ok decision) :
    (Returned world operationId → status = .completed) ∧
      (¬ Returned world operationId → status = .pendingReconciliation) := by
  cases phase with
  | idle => exact stage.elim
  | claimed => exact rests.elim
  | served _ reply =>
    have listed : reply ∈ world.servicesOf operationId := by
      rw [stage.2.1]
      exact mem_singleton_self reply
    exact absurd rests (services reply listed).1
  | validated _ reply =>
    have listed : reply ∈ world.validationsOf operationId := by
      rw [stage.2.2]
      exact mem_singleton_self reply
    obtain ⟨_, rfl⟩ := validations reply listed
    obtain ⟨raised, impossible⟩ := rests
    cases impossible
  | completed =>
    obtain ⟨completed, ⟨content, returned⟩, _⟩ := stage
    cases found.symm.trans completed
    have served : Returned world operationId := by
      refine ⟨some content, ?_⟩
      rw [returned]
      exact mem_singleton_self _
    exact ⟨fun _ => rfl, fun unserved => absurd served unserved⟩
  | pending =>
    obtain ⟨pending, replied, _⟩ := stage
    cases found.symm.trans pending
    refine ⟨fun ⟨content, listed⟩ => ?_, fun _ => rfl⟩
    rcases replied with raised | refused
    · rw [raised] at listed
      cases mem_singleton.mp listed
    · have inside : ServiceReply.returned none ∈ world.servicesOf operationId := by
        rw [refused]
        exact mem_singleton_self _
      exact absurd rfl (services _ inside).2

theorem served_of_stage
    (stage : Stage world operationId owner) : (world.servicesOf operationId).length ≤ 1 := by
  cases owner with
  | none => exact (congrArg length stage.2.1).trans_le (Nat.zero_le 1)
  | some phase =>
    cases phase with
    | idle => exact stage.elim
    | claimed => exact (congrArg length stage.2.1).trans_le (Nat.zero_le 1)
    | served => exact (congrArg length stage.2.1).le
    | validated =>
      obtain ⟨content, services⟩ := stage.2.1
      exact (congrArg length services).le
    | completed =>
      obtain ⟨_, services⟩ := stage.2.1
      exact (congrArg length services).le
    | pending =>
      rcases stage.2.1 with services | services
      · exact (congrArg length services).le
      · exact (congrArg length services).le

theorem settledOnce_of_faultless (ended : AllEnded ports moves)
    (faultless : Faultless ports moves) : SettledOnce ports moves := by
  have settled : ∀ operationId status,
      (serverWorld ports moves).registry.status operationId = some status →
      (Returned (serverWorld ports moves) operationId → status = .completed) ∧
        (¬ Returned (serverWorld ports moves) operationId → status = .pendingReconciliation) := by
    intro operationId status found
    rcases ended_stage ended operationId with unclaimed | ⟨_, rests, stage⟩
    · cases unclaimed.1.symm.trans found
    · exact settled_of_stage rests stage found (faultless.services operationId)
        (faultless.validations operationId)
  refine ⟨fun operationId => ?_, settled, fun operationId status found later => ?_⟩
  · obtain ⟨_, _, stage⟩ := @inv_reached ports moves operationId
    exact served_of_stage stage
  · refine (rests_later later ⟨found, fun inFlight => ?_⟩).1
    obtain ⟨completed, pending⟩ := settled operationId status found
    by_cases returned : Returned (serverWorld ports moves) operationId
    · cases inFlight.symm.trans (completed returned)
    · cases inFlight.symm.trans (pending returned)

theorem faultless_of_stage (rests : phase.Rests) (stage : Stage world operationId (some phase))
    (settled : ∀ status, world.registry.status operationId = some status →
      (Returned world operationId → status = .completed) ∧
        (¬ Returned world operationId → status = .pendingReconciliation)) :
    (∀ reply ∈ world.servicesOf operationId, reply ≠ .interrupted ∧ reply ≠ .returned none) ∧
      ∀ reply ∈ world.validationsOf operationId, ∃ decision, reply = .ok decision := by
  have never : world.registry.status operationId ≠ some .inFlight := by
    intro inFlight
    obtain ⟨completed, pending⟩ := settled .inFlight inFlight
    by_cases returned : Returned world operationId
    · cases completed returned
    · cases pending returned
  cases phase with
  | idle => exact stage.elim
  | claimed | served | validated => exact absurd stage.1 never
  | completed =>
    obtain ⟨_, ⟨_, services⟩, decision, validations⟩ := stage
    rw [services, validations]
    constructor
    · intro reply listed
      cases mem_singleton.mp listed
      exact ⟨nofun, nofun⟩
    · intro reply listed
      exact ⟨decision, mem_singleton.mp listed⟩
  | pending =>
    obtain ⟨pending, replied, validations⟩ := stage
    rw [validations]
    refine ⟨fun reply listed => ?_, fun reply listed => nomatch listed⟩
    rcases replied with raised | refused
    · rw [raised] at listed
      cases mem_singleton.mp listed
      exact ⟨nofun, nofun⟩
    · have returned : Returned world operationId := by
        refine ⟨none, ?_⟩
        rw [refused]
        exact mem_singleton_self _
      cases (settled _ pending).1 returned

theorem faultless_of_settledOnce (ended : AllEnded ports moves)
    (settled : SettledOnce ports moves) : Faultless ports moves := by
  have replied : ∀ operationId,
      (∀ reply ∈ (serverWorld ports moves).servicesOf operationId,
        reply ≠ .interrupted ∧ reply ≠ .returned none) ∧
      ∀ reply ∈ (serverWorld ports moves).validationsOf operationId,
        ∃ decision, reply = .ok decision := by
    intro operationId
    rcases ended_stage ended operationId with unclaimed | ⟨_, rests, stage⟩
    · rw [unclaimed.2.1, unclaimed.2.2]
      exact ⟨fun _ listed => (not_mem_nil listed).elim, fun _ listed => (not_mem_nil listed).elim⟩
    · exact faultless_of_stage rests stage (settled.settled operationId)
  exact ⟨fun operationId => (replied operationId).1, fun operationId => (replied operationId).2⟩

/-- Once all handlers have ended: every operation is settled, exactly where nothing has failed but
the service by an exception. -/
theorem settledOnce_iff (ports : ServerPorts) (moves : List HandlerMove)
    (ended : AllEnded ports moves) : SettledOnce ports moves ↔ Faultless ports moves :=
  ⟨faultless_of_settledOnce ended, settledOnce_of_faultless ended⟩

end Settled

namespace Sample

def lookupRequest (protocolRequestId : String) : ServerToolRequest where
  protocolRequestId := protocolRequestId
  toolName := "research_lookup"
  arguments := [("query", .text "tide tables")]

def permit (number : Nat) : ApplicationToolPermit where
  applicationOperationId := if number = 0 then "operation-1" else "operation-2"
  tenantId := "tenant-a"
  idempotencyKey := "key-1"

def admits (number : Nat) (_ : ServerToolRequest) :
    Except HandlerError ApplicationAdmissionDecision :=
  .ok
    { outcome := .admitted
      safeReason := "admitted", permit := some (permit number), carries := iff_of_true rfl rfl }

def ports : ServerPorts where
  requestAdmission := admits
  lookup number _ _ := if number = 0 then .returned (some [("title", .text "tides")]) else .raised
  validate _ _ _ := .ok ⟨.admitted, "admitted"⟩

def unvalidated : ServerPorts := { ports with validate := fun _ _ _ => .error .port }

def resumes (index : Nat) : HandlerMove := .resume index nofun

/-- Two handlers in turn, one of which fails at the service. -/
def twoLookups : List HandlerMove :=
  [.start (lookupRequest "1"), .start (lookupRequest "2"), resumes 0, resumes 1, resumes 0,
    resumes 1, resumes 0, resumes 1, resumes 0, resumes 1, resumes 0]

def oneLookup : List HandlerMove :=
  [.start (lookupRequest "1"), resumes 0, resumes 0, resumes 0, resumes 0]

theorem twoLookups_ended : AllEnded ports twoLookups := by
  have threads : ∃ first second, (reached handle (perform ports) {} twoLookups).threads =
      [.done first, .done second] := ⟨_, _, rfl⟩
  obtain ⟨first, second, threads⟩ := threads
  intro thread member
  rw [threads] at member
  rcases mem_pair.mp member with rfl | rfl
  · exact ⟨first, rfl⟩
  · exact ⟨second, rfl⟩

theorem twoLookups_faultless : Faultless ports twoLookups := by
  have services : (serverWorld ports twoLookups).services =
      [("operation-2", .raised),
        ("operation-1", .returned (some [("title", .text "tides")]))] := rfl
  have validations : (serverWorld ports twoLookups).validations =
      [("operation-1", .ok ⟨.admitted, "admitted"⟩)] := rfl
  constructor
  · intro operationId reply member
    obtain ⟨entry, listed, rfl⟩ := mem_map.mp member
    rw [services] at listed
    rcases mem_pair.mp (mem_of_mem_filter listed) with rfl | rfl
    · exact ⟨nofun, nofun⟩
    · exact ⟨nofun, nofun⟩
  · intro operationId reply member
    obtain ⟨_, listed, rfl⟩ := mem_map.mp member
    rw [validations] at listed
    rw [mem_singleton.mp (mem_of_mem_filter listed)]
    exact ⟨_, rfl⟩

theorem twoLookups_settled : SettledOnce ports twoLookups :=
  (settledOnce_iff ports twoLookups twoLookups_ended).mpr twoLookups_faultless

/-- The validation raises behind the service: the handler has ended with the operation in flight. -/
theorem unvalidated_in_flight : AllEnded unvalidated oneLookup ∧
    (serverWorld unvalidated oneLookup).registry.status "operation-1" = some .inFlight ∧
    ¬ SettledOnce unvalidated oneLookup := by
  have inFlight : (serverWorld unvalidated oneLookup).registry.status "operation-1" =
      some .inFlight := by decide +kernel
  refine ⟨?_, inFlight, fun settled => ?_⟩
  · intro thread member
    cases mem_singleton.mp member
    exact ⟨_, rfl⟩
  · have served : Returned (serverWorld unvalidated oneLookup) "operation-1" :=
      ⟨some [("title", .text "tides")], mem_singleton_self _⟩
    cases (settled.settled "operation-1" .inFlight inFlight).1 served

end Sample

end BackendHandbook.McpServer
