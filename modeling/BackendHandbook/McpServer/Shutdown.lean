import BackendHandbook.McpServer.Lifecycle

/-! A shutdown loses no operation, unless a port raises before the last one has been marked. -/

namespace BackendHandbook.McpServer

open Interleaving Run OperationIds List

abbrev LifecycleEvent := Event LifecycleWorld LifecycleCall LifecycleCall.Reply

abbrev LifecycleFact := (call : LifecycleCall) × call.Reply

inductive LifecycleStep (before : MCPServerLifecycle) :
    (call : LifecycleCall) → call.Reply → MCPServerLifecycle → Prop
  | shutdownRejected (operationId : String) (closed : before.state ≠ .accepting) :
      LifecycleStep before (.beginRequest operationId) (.ok ⟨.shutdownRejected, operationId⟩) before
  | alreadyInFlight (operationId : String) (busy : operationId ∈ before.inFlight) :
      LifecycleStep before (.beginRequest operationId) (.error .alreadyInFlight) before
  | admitted (operationId : String) (accepting : before.state = .accepting)
      (idle : operationId ∉ before.inFlight) :
      LifecycleStep before (.beginRequest operationId) (.ok ⟨.admitted, operationId⟩)
        { before with inFlight := before.inFlight.add operationId }
  | unfinished (operationId : String)
      (kept : operationId ∈ before.pendingReconciliation ∨ operationId ∉ before.inFlight) :
      LifecycleStep before (.completeRequest operationId) (.ok false) before
  | completed (operationId : String) (unfrozen : operationId ∉ before.pendingReconciliation)
      (busy : operationId ∈ before.inFlight) :
      LifecycleStep before (.completeRequest operationId) (.ok true)
        { before with inFlight := before.inFlight.remove operationId }
  | closed (accepting : before.state = .accepting) :
      LifecycleStep before .startShutdown (.ok ()) { before with state := .draining }
  | alreadyClosed (closed : before.state ≠ .accepting) :
      LifecycleStep before .startShutdown (.ok ()) before
  | undrained (raised : LifecycleError) :
      LifecycleStep before .finishCleanDrain (.error raised) before
  | drained (report : DrainReport) (draining : before.state = .draining)
      (idle : before.inFlight.list = []) :
      LifecycleStep before .finishCleanDrain (.ok report) { before with state := .stopped }
  | unfrozen (raised : LifecycleError) : LifecycleStep before .freeze (.error raised) before
  | frozen (draining : before.state = .draining) :
      LifecycleStep before .freeze (.ok before.inFlight.sorted)
        { before with
          pendingReconciliation := before.pendingReconciliation.update before.inFlight.sorted
          state := .stopped }
  | cancelled (operationId : String) (reply : PortReply) :
      LifecycleStep before (.cancel operationId) reply before
  | marked (operationId : String) (reply : PortReply) :
      LifecycleStep before (.markPending operationId) reply before

open MCPServerLifecycle in
theorem perform_lifecycle (ports : LifecyclePorts) (world : LifecycleWorld) (call : LifecycleCall) :
    LifecycleStep world.lifecycle call (world.perform ports call).1
      (world.perform ports call).2.lifecycle := by
  cases call with
  | beginRequest operationId =>
    simp only [LifecycleWorld.perform, beginRequest]
    split_ifs with closed busy
    · exact .shutdownRejected operationId closed
    · exact .alreadyInFlight operationId busy
    · exact .admitted operationId (not_not.mp closed) busy
  | completeRequest operationId =>
    simp only [LifecycleWorld.perform, completeRequest]
    split_ifs with frozen busy
    · exact .unfinished operationId (.inl frozen)
    · exact .completed operationId frozen busy
    · exact .unfinished operationId (.inr busy)
  | startShutdown =>
    simp only [LifecycleWorld.perform, startShutdown]
    split_ifs with accepting
    · exact .closed accepting
    · exact .alreadyClosed accepting
  | finishCleanDrain =>
    simp only [LifecycleWorld.perform, finishCleanDrain]
    split_ifs with closed busy
    · exact .undrained _
    · exact .undrained _
    · exact .drained _ (not_not.mp closed) (not_not.mp busy)
  | freeze =>
    simp only [LifecycleWorld.perform, freeze]
    split_ifs with closed
    · exact .unfrozen _
    · exact .frozen (not_not.mp closed)
  | cancel => exact .cancelled _ _
  | markPending => exact .marked _ _

namespace LifecycleStep

variable {before after : MCPServerLifecycle} {call : LifecycleCall} {reply : call.Reply}
variable {operationId : String}

theorem of_admitted
    (step : LifecycleStep before (.beginRequest operationId) (.ok ⟨.admitted, operationId⟩) after) :
    before.state = .accepting ∧ operationId ∈ after.inFlight := by
  cases step with
  | admitted _ accepting => exact ⟨accepting, mem_add.mpr (.inl rfl)⟩

theorem of_completed (step : LifecycleStep before (.completeRequest operationId) (.ok true) after) :
    operationId ∉ before.pendingReconciliation ∧ operationId ∉ after.inFlight ∧
      operationId ∉ after.pendingReconciliation := by
  cases step with
  | completed _ unfrozen =>
    exact ⟨unfrozen, fun kept => (mem_remove.mp kept).1 rfl, unfrozen⟩

theorem of_drained {report : DrainReport}
    (step : LifecycleStep before .finishCleanDrain (.ok report) after) :
    before.inFlight.list = [] := by
  cases step with
  | drained _ _ idle => exact idle

theorem of_shutdown {closed : Unit}
    (step : LifecycleStep before .startShutdown (.ok closed) after) : after.state ≠ .accepting := by
  cases step with
  | closed => exact nofun
  | alreadyClosed closed => exact closed

theorem of_frozen {pending : List String}
    (step : LifecycleStep before .freeze (.ok pending) after) :
    before.state = .draining ∧ pending = before.inFlight.sorted ∧ after.state = .stopped ∧
      after.pendingReconciliation = before.pendingReconciliation.update pending := by
  cases step with
  | frozen draining => exact ⟨draining, rfl, rfl, rfl⟩

section

variable (step : LifecycleStep before call reply after)
include step

theorem closed_kept (closed : before.state ≠ .accepting) : after.state ≠ .accepting := by
  cases step with
  | closed | drained | frozen => exact nofun
  | _ => exact closed

theorem stopped_kept (stopped : before.state = .stopped) : after.state = .stopped := by
  cases step with
  | closed accepting => cases accepting.symm.trans stopped
  | drained | frozen => rfl
  | _ => exact stopped

theorem pending_kept
    (unfrozen : ∀ pending, (⟨call, reply⟩ : LifecycleFact) ≠ ⟨.freeze, .ok pending⟩) :
    after.pendingReconciliation = before.pendingReconciliation := by
  cases step with
  | frozen => exact absurd rfl (unfrozen _)
  | _ => rfl

theorem pending_grows (frozen : operationId ∈ before.pendingReconciliation) :
    operationId ∈ after.pendingReconciliation := by
  cases step with
  | frozen => exact mem_update.mpr (.inr frozen)
  | _ => exact frozen

theorem inFlight_kept (busy : operationId ∈ before.inFlight)
    (uncompleted : (⟨call, reply⟩ : LifecycleFact) ≠ ⟨.completeRequest operationId, .ok true⟩) :
    operationId ∈ after.inFlight := by
  cases step with
  | admitted => exact mem_add.mpr (.inr busy)
  | completed =>
    refine mem_remove.mpr ⟨fun same => uncompleted ?_, busy⟩
    rw [same]
  | _ => exact busy

theorem absent_kept
    (absent : operationId ∉ before.inFlight ∧ operationId ∉ before.pendingReconciliation)
    (unadmitted : (⟨call, reply⟩ : LifecycleFact) ≠
      ⟨.beginRequest operationId, .ok ⟨.admitted, operationId⟩⟩) :
    operationId ∉ after.inFlight ∧ operationId ∉ after.pendingReconciliation := by
  cases step with
  | admitted =>
    refine ⟨fun busy => ?_, absent.2⟩
    rcases mem_add.mp busy with same | inside
    · exact unadmitted (by rw [same])
    · exact absent.1 inside
  | completed =>
    exact ⟨fun busy => absent.1 (mem_remove.mp busy).2, absent.2⟩
  | frozen =>
    refine ⟨absent.1, fun frozen => ?_⟩
    rcases mem_update.mp frozen with busy | inside
    · exact absent.1 (mem_sorted.mp busy)
    · exact absent.2 inside
  | _ => exact absent

end

end LifecycleStep

section Laws

def Admits (operationId : String) (e : LifecycleEvent) : Prop :=
  (⟨e.call, e.response⟩ : LifecycleFact) = ⟨.beginRequest operationId, .ok ⟨.admitted, operationId⟩⟩

def Completes (operationId : String) (e : LifecycleEvent) : Prop :=
  (⟨e.call, e.response⟩ : LifecycleFact) = ⟨.completeRequest operationId, .ok true⟩

def DrainsCleanly (e : LifecycleEvent) : Prop :=
  ∃ report, (⟨e.call, e.response⟩ : LifecycleFact) = ⟨.finishCleanDrain, .ok report⟩

def Freezes (operationId : String) (e : LifecycleEvent) : Prop :=
  ∃ pending, (⟨e.call, e.response⟩ : LifecycleFact) = ⟨.freeze, .ok pending⟩ ∧ operationId ∈ pending

variable {ports : LifecyclePorts} {moves : List LifecycleMove} {e : LifecycleEvent}
variable {operationId : String}

theorem event_lifecycle (member : e ∈ lifecycleTrace ports moves) :
    LifecycleStep e.before.lifecycle e.call e.response e.after.lifecycle := by
  obtain ⟨response, after⟩ := mem_trace_performed member
  rw [response, after]
  exact perform_lifecycle ports e.before e.call

theorem fact_lifecycle {call : LifecycleCall} {reply : call.Reply}
    (member : e ∈ lifecycleTrace ports moves)
    (fact : (⟨e.call, e.response⟩ : LifecycleFact) = ⟨call, reply⟩) :
    LifecycleStep e.before.lifecycle call reply e.after.lifecycle := by
  have step := event_lifecycle member
  cases fact
  exact step

variable {early middle late : List LifecycleEvent} {later : LifecycleEvent}

section

variable (split : lifecycleTrace ports moves = early ++ e :: late)
include split

theorem mem_of_split : e ∈ lifecycleTrace ports moves := by
  rw [split]
  exact mem_append_right _ mem_cons_self

theorem mem_of_split_later (inside : later ∈ late) : later ∈ lifecycleTrace ports moves := by
  rw [split]
  exact mem_append_right _ (mem_cons_of_mem _ inside)

theorem closed_for_good (starts : e.call = .startShutdown) (inside : later ∈ late) :
    ¬ Admits operationId later := by
  intro admits
  have closes : e.after.lifecycle.state ≠ .accepting := by
    have step := event_lifecycle (mem_of_split split)
    obtain ⟨_, _, response, _⟩ := e
    cases starts
    cases response with
    | error => cases step
    | ok => exact step.of_shutdown
  have closed := kept_between _ (fun world => world.lifecycle.state ≠ .accepting)
    (fun other member => (event_lifecycle member).closed_kept) split inside closes
  exact closed (fact_lifecycle (mem_of_split_later split inside) admits).of_admitted.1

theorem frozen_uncompleted (freezes : Freezes operationId e) (inside : later ∈ late) :
    ¬ Completes operationId later := by
  intro completes
  obtain ⟨_, fact, listed⟩ := freezes
  have frozen : operationId ∈ e.after.lifecycle.pendingReconciliation := by
    obtain ⟨_, _, _, updated⟩ := (fact_lifecycle (mem_of_split split) fact).of_frozen
    rw [updated]
    exact mem_update.mpr (.inl listed)
  have kept := kept_between _ (fun world => operationId ∈ world.lifecycle.pendingReconciliation)
    (fun other member => (event_lifecycle member).pending_grows) split inside frozen
  exact (fact_lifecycle (mem_of_split_later split inside) completes).of_completed.1 kept

end

theorem drained_completed
    (split : lifecycleTrace ports moves = early ++ e :: (middle ++ later :: late))
    (admits : Admits operationId e) (drains : DrainsCleanly later) :
    ∃ completed ∈ middle, Completes operationId completed := by
  by_contra never
  have busy := kept_within (fun world => operationId ∈ world.lifecycle.inFlight) split
    (fun other inside busy =>
      (event_lifecycle (mem_of_split_later split (mem_append_left _ inside))).inFlight_kept busy
        fun completes => never ⟨other, inside, completes⟩)
    (fact_lifecycle (mem_of_split split) admits).of_admitted.2
  obtain ⟨_, fact⟩ := drains
  have listed := mem_append_right middle (mem_cons_self (a := later) (l := late))
  have idle := (fact_lifecycle (mem_of_split_later split listed) fact).of_drained
  have inside : operationId ∈ later.before.lifecycle.inFlight.list := busy
  rw [idle] at inside
  cases inside

theorem absent_between
    (split : lifecycleTrace ports moves = early ++ e :: (middle ++ later :: late))
    (completes : Completes operationId e)
    (never : ¬ ∃ admitted ∈ middle, Admits operationId admitted) :
    operationId ∉ later.before.lifecycle.pendingReconciliation := by
  have absent := kept_within (fun world => operationId ∉ world.lifecycle.inFlight ∧
      operationId ∉ world.lifecycle.pendingReconciliation) split
    (fun other inside absent =>
      (event_lifecycle (mem_of_split_later split (mem_append_left _ inside))).absent_kept absent
        fun admits => never ⟨other, inside, admits⟩)
    (fact_lifecycle (mem_of_split split) completes).of_completed.2
  exact absent.2

end Laws

variable {result : Except LifecycleError LifecycleResult}

section Loop

/-- The operations that an operation of the lifecycle has frozen, by its own calls. -/
def frozenOf : List LifecycleFact → Option (List String)
  | [] => none
  | ⟨.freeze, .ok pending⟩ :: _ => some pending
  | _ :: known => frozenOf known

def cancellationsOf (known : List LifecycleFact) : List (String × PortReply) :=
  known.filterMap fun
    | ⟨.cancel operationId, reply⟩ => some (operationId, reply)
    | _ => none

def marksOf (known : List LifecycleFact) : List (String × PortReply) :=
  known.filterMap fun
    | ⟨.markPending operationId, reply⟩ => some (operationId, reply)
    | _ => none

/-- The calls behind which the operations of `handed`, the last one first, are handed over. -/
def walked (pending : List String) : List String → List LifecycleFact
  | [] => [⟨.freeze, .ok pending⟩]
  | operationId :: handed =>
    ⟨.markPending operationId, .ok ()⟩ :: ⟨.cancel operationId, .ok ()⟩ :: walked pending handed

variable {pending handed rest : List String} {operationId : String} {known : List LifecycleFact}

@[simp] theorem frozenOf_walked (pending handed : List String) :
    frozenOf (walked pending handed) = some pending := by
  induction handed with
  | nil => rfl
  | cons _ _ ih => exact ih

@[simp] theorem cancellationsOf_walked (pending handed : List String) :
    cancellationsOf (walked pending handed) = handed.map fun operationId =>
    (operationId, .ok ()) := by
  induction handed with
  | nil => rfl
  | cons operationId _ ih => exact congrArg ((operationId, .ok ()) :: ·) ih

@[simp] theorem marksOf_walked (pending handed : List String) :
    marksOf (walked pending handed) = handed.map fun operationId => (operationId, .ok ()) := by
  induction handed with
  | nil => rfl
  | cons operationId _ ih => exact congrArg ((operationId, .ok ()) :: ·) ih

/-- What the history of an operation of the lifecycle allows it to call. -/
def Walks (known : List LifecycleFact) : LifecycleCall → Prop
  | .cancel operationId => ∃ pending handed rest, pending = handed.reverse ++ operationId :: rest ∧
      known = walked pending handed
  | .markPending operationId =>
    ∃ pending handed rest, pending = handed.reverse ++ operationId :: rest ∧
      known = ⟨.cancel operationId, .ok ()⟩ :: walked pending handed
  | _ => known = []

theorem split_cons (split : pending = handed.reverse ++ operationId :: rest) :
    pending = (operationId :: handed).reverse ++ rest := by
  rw [split, reverse_cons, append_assoc]
  rfl

theorem handOver_walks (report : DrainReport) (split : pending = handed.reverse ++ rest) :
    (handOver report rest).Recalls Walks (walked pending handed) := by
  induction rest generalizing handed with
  | nil => trivial
  | cons _ rest ih =>
    refine await_follows ⟨pending, handed, rest, split, rfl⟩ fun _ => ?_
    refine await_follows ⟨pending, handed, rest, split, rfl⟩ fun _ => ?_
    exact ih (split_cons split)

theorem program_walks (operation : LifecycleOperation) : operation.program.Recalls Walks [] := by
  cases operation with
  | beginRequest | completeRequest | startShutdown | finishCleanDrain =>
    exact await_follows rfl fun _ => trivial
  | expireDrainTimeout =>
    exact await_follows rfl fun pending =>
      handOver_walks _ (show pending = ([] : List String).reverse ++ pending from rfl)

inductive Handed (pending : List String) : List LifecycleFact → Prop
  | all : Handed pending (walked pending pending.reverse)
  | cancelRaised (handed rest : List String) (operationId : String) (raised : LifecycleError)
      (split : pending = handed.reverse ++ operationId :: rest) :
      Handed pending (⟨.cancel operationId, .error raised⟩ :: walked pending handed)
  | markRaised (handed rest : List String) (operationId : String) (raised : LifecycleError)
      (split : pending = handed.reverse ++ operationId :: rest) :
      Handed pending (⟨.markPending operationId, .error raised⟩ ::
        ⟨.cancel operationId, .ok ()⟩ :: walked pending handed)

def EndsHanded (known : List LifecycleFact) (_ : Except LifecycleError LifecycleResult) : Prop :=
  ∀ pending, frozenOf known = some pending → Handed pending known

theorem endsHanded_of_handed
    (handed : Handed pending known) (frozen : frozenOf known = some pending) :
    EndsHanded known result := by
  intro other again
  cases frozen.symm.trans again
  exact handed

theorem handOver_ends (report : DrainReport) (split : pending = handed.reverse ++ rest) :
    (handOver report rest).Ends EndsHanded (walked pending handed) := by
  induction rest generalizing handed with
  | nil =>
    have complete : handed = pending.reverse := by
      rw [split, append_nil, reverse_reverse]
    rw [complete]
    exact endsHanded_of_handed .all (frozenOf_walked pending _)
  | cons operationId rest ih =>
    refine await_ends (fun raised => ?_) fun _ => ?_
    · exact endsHanded_of_handed (.cancelRaised handed rest operationId raised split)
        (frozenOf_walked pending handed)
    · refine await_ends (fun raised => ?_) fun _ => ?_
      · exact endsHanded_of_handed (.markRaised handed rest operationId raised split)
          (frozenOf_walked pending handed)
      · exact ih (split_cons split)

theorem program_ends (operation : LifecycleOperation) : operation.program.Ends EndsHanded [] := by
  cases operation with
  | beginRequest | completeRequest | startShutdown | finishCleanDrain =>
    exact await_ends (fun _ => nofun) fun _ => nofun
  | expireDrainTimeout =>
    exact await_ends (fun _ => nofun) fun pending =>
      handOver_ends _ (show pending = ([] : List String).reverse ++ pending from rfl)

end Loop

def Beside (world : LifecycleWorld) : Option (List LifecycleFact) → Prop
  | none => world.cancellations = [] ∧ world.marks = [] ∧
      world.lifecycle.pendingReconciliation.list = []
  | some known => world.cancellations = cancellationsOf known ∧ world.marks = marksOf known ∧
      world.lifecycle.state = .stopped ∧ ∃ pending, frozenOf known = some pending ∧
        pending.Pairwise (· < ·) ∧
        ∀ operationId, operationId ∈ world.lifecycle.pendingReconciliation ↔ operationId ∈ pending

/-- One operation at most has frozen: what the ports have been called with, it has called. -/
def FrozenOnce (world : LifecycleWorld) (past : List (List LifecycleFact)) : Prop :=
  ∃ owner : Option (List LifecycleFact),
    past.filter (fun known => (frozenOf known).isSome) = owner.toList ∧ Beside world owner

section Frozen

variable {ports : LifecyclePorts} {moves : List LifecycleMove} {world : LifecycleWorld}
variable {past : List (List LifecycleFact)} {index : Nat} {known : List LifecycleFact}

variable {pending : List String}

theorem FrozenOnce.owned (once : FrozenOnce world past) (listed : known ∈ past)
    (frozen : frozenOf known = some pending) : Beside world (some known) := by
  obtain ⟨owner, owners, beside⟩ := once
  have member : known ∈ owner.toList := by
    rw [← owners]
    exact mem_filter.mpr ⟨listed, by rw [frozen]; rfl⟩
  rw [← Option.mem_toList.mp member]
  exact beside

theorem frozenOnce_start : FrozenOnce {} [] := ⟨none, rfl, rfl, rfl, rfl⟩

theorem frozenOnce_enters (world : LifecycleWorld) (past : List (List LifecycleFact))
    (once : FrozenOnce world past) : FrozenOnce world (past ++ [[]]) := by
  obtain ⟨owner, owners, beside⟩ := once
  refine ⟨owner, ?_, beside⟩
  rw [filter_append, owners]
  exact append_nil _

variable {fact : LifecycleFact}

variable {after : LifecycleWorld}

section

variable (once : FrozenOnce world past) (listed : past[index]? = some known)
include once listed

theorem FrozenOnce.inside (frozen : frozenOf known = some pending)
    (again : frozenOf (fact :: known) = some pending)
    (moved : Beside world (some known) → Beside after (some (fact :: known))) :
    FrozenOnce after (past.modify index (fact :: ·)) := by
  have inside : (frozenOf known).isSome = true := by rw [frozen]; rfl
  have beside := once.owned (mem_of_getElem? listed) frozen
  obtain ⟨owner, owners, _⟩ := once
  have member : known ∈ owner.toList := by
    rw [← owners]
    exact mem_filter.mpr ⟨mem_of_getElem? listed, inside⟩
  refine ⟨some (fact :: known), ?_, moved beside⟩
  have place := map_modify id (fact :: ·) listed
  rw [map_id, map_id] at place
  rw [place, filter_set_of_inside listed inside
    (by rw [owners, Option.mem_toList.mp member]; rfl), id, again]
  rfl

theorem FrozenOnce.outside (idle : frozenOf known = none) (still : frozenOf (fact :: known) = none)
    (moved : ∀ owner, Beside world owner → Beside after owner) :
    FrozenOnce after (past.modify index (fact :: ·)) := by
  obtain ⟨owner, owners, beside⟩ := once
  refine ⟨owner, ?_, moved owner beside⟩
  have place := map_modify id (fact :: ·) listed
  rw [map_id, map_id] at place
  rw [place, filter_set_of_outside listed (by rw [idle]; rfl)
    (fun enters => by rw [id, still] at enters; cases enters), id, still]
  exact owners

theorem FrozenOnce.enters (idle : frozenOf known = none)
    (moved : ∀ owner, Beside world owner → owner = none ∧ Beside after (some (fact :: known)))
    (frozen : (frozenOf (fact :: known)).isSome) :
    FrozenOnce after (past.modify index (fact :: ·)) := by
  obtain ⟨owner, owners, beside⟩ := once
  obtain ⟨nobody, moved⟩ := moved owner beside
  refine ⟨some (fact :: known), ?_, moved⟩
  have place := map_modify id (fact :: ·) listed
  rw [map_id, map_id] at place
  rw [place, filter_set_of_outside listed (by rw [idle]; rfl) (fun _ => by rw [owners, nobody]; rfl),
    id, if_pos frozen]
  rfl

end

theorem Beside.kept {owner : Option (List LifecycleFact)}
    (beside : Beside world owner) (cancellations : after.cancellations = world.cancellations)
    (marks : after.marks = world.marks)
    (pending : after.lifecycle.pendingReconciliation = world.lifecycle.pendingReconciliation)
    (stopped : world.lifecycle.state = .stopped → after.lifecycle.state = .stopped) :
    Beside after owner := by
  cases owner with
  | none =>
    obtain ⟨uncancelled, unmarked, nothing⟩ := beside
    exact ⟨cancellations.trans uncancelled, marks.trans unmarked, by rw [pending, nothing]⟩
  | some =>
    obtain ⟨cancelled, marked, state, frozen⟩ := beside
    rw [← pending] at frozen
    exact ⟨cancellations.trans cancelled, marks.trans marked, stopped state, frozen⟩

theorem FrozenOnce.locked (once : FrozenOnce world past) (call : LifecycleCall)
    (listed : past[index]? = some []) (still : ∀ reply, frozenOf [⟨call, reply⟩] = none)
    (cancellations : (world.perform ports call).2.cancellations = world.cancellations)
    (marks : (world.perform ports call).2.marks = world.marks) (other : call ≠ .freeze) :
    FrozenOnce (world.perform ports call).2
      (past.modify index fun known => ⟨call, (world.perform ports call).1⟩ :: known) := by
  have step := perform_lifecycle ports world call
  refine once.outside listed rfl (still _) fun owner beside => ?_
  refine beside.kept cancellations marks (step.pending_kept fun pending fact => ?_) step.stopped_kept
  exact other (congrArg Sigma.fst fact)

theorem FrozenOnce.freeze (once : FrozenOnce world past) (listed : past[index]? = some []) :
    FrozenOnce (world.perform ports .freeze).2
      (past.modify index fun known => ⟨.freeze, (world.perform ports .freeze).1⟩ :: known) := by
  have step := perform_lifecycle ports world .freeze
  cases reply : (world.perform ports .freeze).1 with
  | error =>
    rw [reply] at step
    refine once.outside listed rfl rfl fun owner beside => ?_
    exact beside.kept rfl rfl (step.pending_kept fun pending => nofun) step.stopped_kept
  | ok pending =>
    rw [reply] at step
    obtain ⟨draining, named, stopped, updated⟩ := step.of_frozen
    refine once.enters listed rfl (fun owner beside => ?_) rfl
    cases owner with
    | some => cases draining.symm.trans beside.2.2.1
    | none =>
      obtain ⟨uncancelled, unmarked, nothing⟩ := beside
      refine ⟨rfl, uncancelled, unmarked, stopped, pending, rfl, ?_, fun operationId => ?_⟩
      · rw [named]
        exact sorted_increasing _
      · rw [updated, mem_update]
        refine or_iff_left fun inside => ?_
        have listed : operationId ∈ world.lifecycle.pendingReconciliation.list := inside
        rw [nothing] at listed
        cases listed

theorem frozenOnce_moves (world : LifecycleWorld) (past : List (List LifecycleFact)) (index : Nat)
    (known : List LifecycleFact) (call : LifecycleCall) (once : FrozenOnce world past)
    (listed : past[index]? = some known) (walks : Walks known call) :
    FrozenOnce (world.perform ports call).2
      (past.modify index fun known => ⟨call, (world.perform ports call).1⟩ :: known) := by
  cases call with
  | beginRequest | completeRequest | startShutdown | finishCleanDrain =>
    cases (show known = [] from walks)
    exact once.locked _ listed (fun _ => rfl) rfl rfl nofun
  | freeze =>
    cases (show known = [] from walks)
    exact once.freeze listed
  | cancel =>
    obtain ⟨pending, handed, rest, split, rfl⟩ := walks
    have frozen := frozenOf_walked pending handed
    refine once.inside listed frozen frozen fun beside => ?_
    obtain ⟨cancelled, marked, stopped, held⟩ := beside
    exact ⟨congrArg (_ :: ·) cancelled, marked, stopped, held⟩
  | markPending =>
    obtain ⟨pending, handed, _, _, rfl⟩ := walks
    have frozen := frozenOf_walked pending handed
    refine once.inside listed frozen frozen fun beside => ?_
    obtain ⟨cancelled, marked, stopped, held⟩ := beside
    exact ⟨cancelled, congrArg (_ :: ·) marked, stopped, held⟩

end Frozen

section Runs

variable {ports : LifecyclePorts} {moves : List LifecycleMove} {known : List LifecycleFact}

def lifecycleWorld (ports : LifecyclePorts) (moves : List LifecycleMove) : LifecycleWorld :=
  (lifecycleReached ports moves).state

theorem started_walks : ∀ program ∈ started (turns LifecycleOperation.program moves),
    program.Recalls Walks [] := by
  intro program member
  rw [started_turns] at member
  obtain ⟨operation, _, rfl⟩ := mem_map.mp member
  exact program_walks operation

theorem frozenOnce_reached : FrozenOnce (lifecycleWorld ports moves) (lifecyclePast ports moves) :=
  run_histories _ frozenOnce_enters frozenOnce_moves {} _ frozenOnce_start started_walks

theorem walks_aligned : Aligned (fun _ known program => program.Recalls Walks known)
    (lifecycleReached ports moves) (lifecyclePast ports moves) :=
  run_aligned (LifecycleWorld.perform ports) (fun _ => recalls_tracks Walks) {} _
    fun _ program found => started_walks program (mem_of_getElem? found)

theorem ends_aligned : Aligned (fun _ known program => program.Ends EndsHanded known)
    (lifecycleReached ports moves) (lifecyclePast ports moves) := by
  refine run_aligned (LifecycleWorld.perform ports) (fun _ => ends_tracks EndsHanded) {} _
    fun _ program found => ?_
  have member := mem_of_getElem? found
  rw [started_turns] at member
  obtain ⟨operation, _, rfl⟩ := mem_map.mp member
  exact program_ends operation

theorem marked_frozen {e : LifecycleEvent} {operationId : String}
    (member : e ∈ lifecycleTrace ports moves) (marks : e.call = .markPending operationId) :
    operationId ∈ e.before.lifecycle.pendingReconciliation := by
  obtain ⟨_, _, _, once, listed, walks⟩ := event_histories _ frozenOnce_enters
    frozenOnce_moves {} _ frozenOnce_start started_walks e member
  rw [marks] at walks
  obtain ⟨pending, handed, _, split, rfl⟩ := walks
  obtain ⟨_, _, _, _, frozen, _, held⟩ := once.owned (mem_of_getElem? listed)
    (show frozenOf (⟨.cancel operationId, .ok ()⟩ :: walked pending handed) = some pending from
      frozenOf_walked pending handed)
  cases ((frozenOf_walked pending handed).symm.trans frozen)
  rw [held, split]
  exact mem_append_right _ mem_cons_self

theorem ended_of_failed {index : Nat} (listed : (lifecyclePast ports moves)[index]? = some known)
    (failed : ∀ call, ¬ Walks known call) :
    ∃ result, (lifecycleReached ports moves).threads[index]? = some (.done result) := by
  have inside := (List.getElem?_eq_some_iff.mp listed).1
  rw [walks_aligned.1] at inside
  have found := getElem?_eq_getElem inside
  have recalls := walks_aligned.2 index _ known found listed
  generalize (lifecycleReached ports moves).threads[index] = thread at found recalls
  cases thread with
  | done result => exact ⟨result, found⟩
  | call request => exact absurd recalls.1 (failed request)
  | ask question => exact question.elim

end Runs

section Shutdown

variable (ports : LifecyclePorts) (moves : List LifecycleMove)

def markedTimes (operationId : String) : Nat :=
  ((lifecycleWorld ports moves).marks.map Prod.fst).count operationId

/-- A shutdown loses no operation. An identity names an operation from its admission on: when it
is admitted again, it names another one. -/
structure LosesNothing : Prop where
  closed : ∀ early e late, lifecycleTrace ports moves = early ++ e :: late →
    e.call = .startShutdown → ∀ later ∈ late, ∀ operationId, ¬ Admits operationId later
  completed : ∀ early e middle later late,
    lifecycleTrace ports moves = early ++ e :: (middle ++ later :: late) →
    ∀ operationId, Completes operationId e → later.call = .markPending operationId →
      ∃ again ∈ middle, Admits operationId again
  frozen : ∀ early e late, lifecycleTrace ports moves = early ++ e :: late →
    ∀ operationId, Freezes operationId e → ∀ later ∈ late, ¬ Completes operationId later
  drained : ∀ early e middle later late,
    lifecycleTrace ports moves = early ++ e :: (middle ++ later :: late) →
    ∀ operationId, Admits operationId e → DrainsCleanly later →
      ∃ done ∈ middle, Completes operationId done
  stopped : ∀ e ∈ lifecycleTrace ports moves,
    e.before.lifecycle.state = .stopped → e.after.lifecycle.state = .stopped
  marked : ∀ (index : Nat) known pending result, (lifecyclePast ports moves)[index]? = some known →
    frozenOf known = some pending →
    (lifecycleReached ports moves).threads[index]? = some (Program.done result) →
    ∀ operationId ∈ pending, markedTimes ports moves operationId = 1

/-- No cancellation has raised, and no mark has but that of the last operation that is frozen. -/
structure Unraised : Prop where
  cancellations : ∀ entry ∈ (lifecycleWorld ports moves).cancellations, entry.2 = .ok ()
  marks : ∀ operationId raised, (operationId, .error raised) ∈ (lifecycleWorld ports moves).marks →
    ∀ other ∈ (lifecycleWorld ports moves).lifecycle.pendingReconciliation, other ≤ operationId

variable {ports} {moves}

theorem map_fst_handed (handed : List String) :
    (handed.map fun operationId => (operationId, (.ok () : PortReply))).map Prod.fst = handed := by
  rw [map_map]
  exact map_id handed

variable {known : List LifecycleFact} {pending : List String}

/-- The identities marked by the end of the loop, the last one first. -/
theorem Handed.marked (handed : Handed pending known) (increasing : pending.Pairwise (· < ·)) :
    (∀ operationId ∈ pending, ((marksOf known).map Prod.fst).count operationId = 1) ↔
      (∀ entry ∈ cancellationsOf known, entry.2 = .ok ()) ∧
        ∀ operationId raised, (operationId, .error raised) ∈ marksOf known →
          ∀ other ∈ pending, other ≤ operationId := by
  have distinct : pending.Nodup := increasing.imp fun below => below.ne
  cases handed with
  | all =>
    refine iff_of_true ?_ ⟨?_, ?_⟩
    · intro operationId inside
      rw [marksOf_walked, map_fst_handed]
      exact count_eq_one_of_mem (nodup_reverse.mpr distinct) (mem_reverse.mpr inside)
    · intro entry member
      rw [cancellationsOf_walked] at member
      obtain ⟨_, _, rfl⟩ := mem_map.mp member
      rfl
    · intro operationId raised member
      rw [marksOf_walked] at member
      obtain ⟨_, _, impossible⟩ := mem_map.mp member
      cases impossible
  | cancelRaised handed _ operationId raised split =>
    refine iff_of_false (fun marked => ?_) fun ⟨uncancelled, _⟩ => ?_
    · have once := marked operationId (by
        rw [split]
        exact mem_append_right _ mem_cons_self)
      have listed : operationId ∈ handed := by
        have counted : marksOf (⟨.cancel operationId, .error raised⟩ :: walked pending handed) =
            handed.map fun operationId => (operationId, .ok ()) := marksOf_walked pending handed
        rw [counted, map_fst_handed] at once
        exact count_pos_iff.mp (Nat.one_pos.trans_eq once.symm)
      rw [split, nodup_append] at distinct
      exact distinct.2.2 operationId (mem_reverse.mpr listed) operationId
        mem_cons_self rfl
    · have raises := uncancelled (operationId, .error raised) mem_cons_self
      cases raises
  | markRaised handed rest operationId raised split =>
    have marks : marksOf (⟨.markPending operationId, .error raised⟩ ::
        ⟨.cancel operationId, .ok ()⟩ :: walked pending handed) =
        (operationId, .error raised) :: handed.map fun operationId => (operationId, .ok ()) :=
      congrArg (_ :: ·) (marksOf_walked pending handed)
    have cancellations : cancellationsOf (⟨.markPending operationId, .error raised⟩ ::
        ⟨.cancel operationId, .ok ()⟩ :: walked pending handed) =
        (operationId, .ok ()) :: handed.map fun operationId => (operationId, .ok ()) :=
      congrArg (_ :: ·) (cancellationsOf_walked pending handed)
    rw [marks, cancellations, map_cons, map_fst_handed]
    cases rest with
    | nil =>
      have reversed : pending = (operationId :: handed).reverse := by
        rw [split, reverse_cons]
      rw [reversed, nodup_reverse] at distinct
      refine iff_of_true ?_ ⟨?_, ?_⟩
      · intro other inside
        rw [reversed] at inside
        exact count_eq_one_of_mem distinct (mem_reverse.mp inside)
      · intro entry member
        rcases mem_cons.mp member with rfl | member
        · rfl
        · obtain ⟨_, _, rfl⟩ := mem_map.mp member
          rfl
      · intro last error member other inside
        rcases mem_cons.mp member with same | member
        · cases same
          rw [split, pairwise_append] at increasing
          rw [split] at inside
          rcases mem_append.mp inside with before | here
          · exact (increasing.2.2 other before operationId mem_cons_self).le
          · exact (mem_singleton.mp here).le
        · obtain ⟨_, _, impossible⟩ := mem_map.mp member
          cases impossible
    | cons missed =>
      have named : missed ∈ pending := by
        rw [split]
        exact mem_append_right _ (mem_cons_of_mem _ mem_cons_self)
      have later : operationId < missed := by
        rw [split, pairwise_append, pairwise_cons] at increasing
        exact increasing.2.1.1 missed mem_cons_self
      refine iff_of_false (fun marked => ?_) fun ⟨_, unmarked⟩ => ?_
      · have once := marked missed named
        have listed : missed ∈ operationId :: handed :=
          count_pos_iff.mp (Nat.one_pos.trans_eq once.symm)
        rcases mem_cons.mp listed with same | inside
        · exact later.ne same.symm
        · rw [split, nodup_append] at distinct
          exact distinct.2.2 missed (mem_reverse.mpr inside) missed
            (mem_cons_of_mem _ mem_cons_self) rfl
      · exact later.not_ge (unmarked operationId raised mem_cons_self missed named)

theorem walks_unraised {call : LifecycleCall}
    (walks : Walks known call) : (∀ entry ∈ cancellationsOf known, entry.2 = .ok ()) ∧
      ∀ entry ∈ marksOf known, entry.2 = .ok () := by
  have handed : ∀ handed : List String,
      ∀ entry ∈ handed.map fun operationId => (operationId, (.ok () : PortReply)),
        entry.2 = .ok () := by
    intro handed entry member
    obtain ⟨_, _, rfl⟩ := mem_map.mp member
    rfl
  cases call with
  | cancel =>
    obtain ⟨pending, before, rest, _, rfl⟩ := walks
    rw [cancellationsOf_walked, marksOf_walked]
    exact ⟨handed before, handed before⟩
  | markPending operationId =>
    obtain ⟨pending, before, _, _, rfl⟩ := walks
    have cancellations : cancellationsOf (⟨.cancel operationId, .ok ()⟩ :: walked pending before) =
        (operationId :: before).map fun operationId => (operationId, .ok ()) :=
      congrArg (_ :: ·) (cancellationsOf_walked pending before)
    have marks : marksOf (⟨.cancel operationId, .ok ()⟩ :: walked pending before) =
        before.map fun operationId => (operationId, .ok ()) := marksOf_walked pending before
    rw [cancellations, marks]
    exact ⟨handed _, handed _⟩
  | _ =>
    cases (show known = [] from walks)
    exact ⟨nofun, nofun⟩

theorem marked_iff {index : Nat} (listed : (lifecyclePast ports moves)[index]? = some known)
    (frozen : frozenOf known = some pending)
    (ended : (lifecycleReached ports moves).threads[index]? = some (.done result)) :
    (∀ operationId ∈ pending, markedTimes ports moves operationId = 1) ↔ Unraised ports moves := by
  obtain ⟨cancellations, marks, _, _, refrozen, increasing, held⟩ :=
    frozenOnce_reached.owned (mem_of_getElem? listed) frozen
  cases frozen.symm.trans refrozen
  have handed := (ends_aligned.2 index _ known ended listed) pending frozen
  simp only [markedTimes, marks]
  rw [handed.marked increasing]
  constructor
  · intro ⟨uncancelled, unmarked⟩
    refine ⟨?_, ?_⟩
    · rw [cancellations]
      exact uncancelled
    · rw [marks]
      intro operationId raised member other inside
      exact unmarked operationId raised member other ((held other).mp inside)
  · intro ⟨uncancelled, unmarked⟩
    rw [cancellations] at uncancelled
    rw [marks] at unmarked
    exact ⟨uncancelled, fun operationId raised member other inside =>
      unmarked operationId raised member other ((held other).mpr inside)⟩

theorem losesNothing_of_unraised (unraised : Unraised ports moves) : LosesNothing ports moves where
  closed early e late split starts later inside operationId := closed_for_good split starts inside
  completed early e middle later late split operationId completes marks := by
    by_contra never
    have inside := mem_of_split_later split (mem_append_right middle mem_cons_self)
    exact absent_between split completes never (marked_frozen inside marks)
  frozen early e late split operationId freezes later inside :=
    frozen_uncompleted split freezes inside
  drained early e middle later late split operationId admits drains :=
    drained_completed split admits drains
  stopped e member := (event_lifecycle member).stopped_kept
  marked index known pending result listed frozen ended :=
    (marked_iff listed frozen ended).mpr unraised

/-- Where something has raised, the operation that froze has ended. -/
theorem unraised_of_marked (marked : ∀ (index : Nat) known pending result,
      (lifecyclePast ports moves)[index]? = some known → frozenOf known = some pending →
      (lifecycleReached ports moves).threads[index]? = some (Program.done result) →
      ∀ operationId ∈ pending, markedTimes ports moves operationId = 1) : Unraised ports moves := by
  obtain ⟨owner, owners, beside⟩ := @frozenOnce_reached ports moves
  cases owner with
  | none =>
    refine ⟨?_, ?_⟩
    · rw [beside.1]
      exact nofun
    · rw [beside.2.1]
      exact nofun
  | some known =>
    have member : known ∈ (lifecyclePast ports moves).filter fun known =>
        (frozenOf known).isSome := by
      rw [owners]
      exact mem_singleton_self known
    obtain ⟨index, listed⟩ := mem_iff_getElem?.mp (mem_filter.mp member).1
    obtain ⟨cancellations, marks, _, pending, frozen, _⟩ := beside
    by_cases goes : ∃ call, Walks known call
    · obtain ⟨call, walks⟩ := goes
      obtain ⟨uncancelled, unmarked⟩ := walks_unraised walks
      refine ⟨?_, fun operationId raised member => ?_⟩
      · rw [cancellations]
        exact uncancelled
      · rw [marks] at member
        cases unmarked _ member
    · obtain ⟨result, ended⟩ := ended_of_failed listed fun call walks => goes ⟨call, walks⟩
      exact (marked_iff listed frozen ended).mp
        (marked index known pending result listed frozen ended)

/-- In every run: no operation is lost, exactly where no port has raised too early. -/
theorem losesNothing_iff (ports : LifecyclePorts) (moves : List LifecycleMove) :
    LosesNothing ports moves ↔ Unraised ports moves :=
  ⟨fun nothing => unraised_of_marked nothing.marked, losesNothing_of_unraised⟩

end Shutdown

namespace Sample

def resumed (index : Nat) : LifecycleMove := .resume index nofun

def expired : List LifecycleMove :=
  [.start (.beginRequest "operation-1"), resumed 0, .start (.beginRequest "operation-2"), resumed 1,
    .start .startShutdown, resumed 2, .start .expireDrainTimeout, resumed 3, resumed 3]

def cancellationRaises : LifecyclePorts where
  cancel number _ := if number = 0 then .error .port else .ok ()
  markPending _ _ := .ok ()

/-- Two operations are frozen, the first cancellation raises, and neither is ever marked. -/
theorem cancellation_loses_both :
    (lifecycleWorld cancellationRaises expired).lifecycle.pendingReconciliation.list =
      ["operation-1", "operation-2"] ∧
    (∃ result, (lifecycleReached cancellationRaises expired).threads[3]? = some (.done result)) ∧
    (lifecycleWorld cancellationRaises expired).marks = [] ∧
    ¬ LosesNothing cancellationRaises expired := by
  refine ⟨by decide +kernel, ⟨.error .port, rfl⟩, rfl, fun nothing => ?_⟩
  have unraised := unraised_of_marked nothing.marked
  have raises := unraised.cancellations ("operation-1", .error .port) mem_cons_self
  cases raises

end Sample

end BackendHandbook.McpServer
