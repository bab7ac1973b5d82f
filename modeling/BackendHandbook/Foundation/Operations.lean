import BackendHandbook.Foundation.Threads

/-! The path of one thread through a run: where each of its calls was performed. -/

namespace BackendHandbook.Interleaving

open List

variable {ι : Type} {ρ : ι → Type} {κ : Type} {α : κ → Type} {τ υ σ γ : Type}
variable (perform : (call : ι) → σ → ρ call × σ)

def Performs (pool : Pool σ ι ρ κ α τ) (turns : List (Turn ι ρ κ α τ)) (index : Nat)
    (front : List (Turn ι ρ κ α τ)) (request : ι) : Prop :=
  ∃ oracle back next, turns = front ++ .resume index oracle :: back ∧
    (run perform pool front).threads[index]? = some (.call request next)

def Moved (index : Nat) (early late : List (Turn ι ρ κ α τ)) : Prop :=
  ∃ oracle, early ++ [.resume index oracle] <+: late

variable {index : Nat} {early late : List (Turn ι ρ κ α τ)}

theorem Moved.before (moved : Moved index early late) : early <+: late := by
  rcases moved with ⟨_, inside⟩
  exact (prefix_append _ _).trans inside

theorem Moved.length_lt (moved : Moved index early late) : early.length < late.length := by
  rcases moved with ⟨_, inside⟩
  have shorter := inside.length_le
  rw [length_append, length_singleton] at shorter
  omega

def Program.Path (At : γ → ι → Prop) (state : γ → σ) : Program ι ρ κ α τ → List γ → τ → Prop
  | .done result, moments, final => moments = [] ∧ result = final
  | .call request next, moments, final => ∃ moment later, moments = moment :: later ∧
      At moment request ∧
      (next (perform request (state moment)).1).Path At state later final
  | .ask _ next, moments, final => ∃ answer, (next answer).Path At state moments final

variable {perform}
variable {moments : List γ}

theorem Program.Path.shift {δ : Type} {At : γ → ι → Prop} {state : γ → σ} {At' : δ → ι → Prop}
    {state' : δ → σ} (place : γ → δ) (there : ∀ moment request, At moment request →
      At' (place moment) request) (same : ∀ moment, state moment = state' (place moment))
    {program : Program ι ρ κ α τ} {final : τ} (path : program.Path perform At state moments final) :
    program.Path perform At' state' (moments.map place) final := by
  induction program generalizing moments with
  | done => exact ⟨by rw [path.1, map_nil], path.2⟩
  | call request _ ih =>
    rcases path with ⟨moment, later, rfl, here, path⟩
    refine ⟨place moment, later.map place, rfl, there moment request here, ?_⟩
    rw [← same moment]
    exact ih _ path
  | ask _ _ ih =>
    rcases path with ⟨answer, path⟩
    exact ⟨answer, ih answer path⟩

variable {At : γ → ι → Prop} {state : γ → σ}

theorem Program.not_mem_done {result final : τ} {moment : γ}
    (path : (Program.done result : Program ι ρ κ α τ).Path perform At state moments final)
    (member : moment ∈ moments) : False := by
  rw [path.1] at member
  cases member

theorem Program.path_map {view : τ → υ} {program : Program ι ρ κ α τ} {final : υ}
    (path : (program.map view).Path perform At state moments final) :
    ∃ result, view result = final ∧ program.Path perform At state moments result := by
  induction program generalizing moments with
  | done result => exact ⟨result, path.2, path.1, rfl⟩
  | call _ _ ih =>
    rcases path with ⟨moment, later, rfl, here, path⟩
    rcases ih _ path with ⟨result, same, path⟩
    exact ⟨result, same, moment, later, rfl, here, path⟩
  | ask _ _ ih =>
    rcases path with ⟨answer, path⟩
    rcases ih answer path with ⟨result, same, path⟩
    exact ⟨result, same, answer, path⟩

section Moments

variable {pool : Pool σ ι ρ κ α τ} {turns early late : List (Turn ι ρ κ α τ)} {index other : Nat}
variable {request wanted : ι}

theorem Performs.inside (performs : Performs perform pool turns index early request) :
    early <+: turns := by
  rcases performs with ⟨_, _, _, rfl, _⟩
  exact ⟨_, rfl⟩

theorem Performs.behind (performs : Performs perform pool turns index early request)
    (inside : late <+: turns) (longer : early.length < late.length) :
    ∃ turn, early ++ [turn] <+: late ∧ (run perform pool (early ++ [turn])).state =
      (perform request (run perform pool early).state).2 := by
  rcases performs with ⟨oracle, back, _, rfl, waits⟩
  refine ⟨.resume index oracle, ?_, ?_⟩
  · refine prefix_of_prefix_length_le ⟨back, ?_⟩ inside ?_
    · rw [← append_cons]
    · rw [length_append, length_singleton]
      omega
  · rw [run_append, run, run, step_call perform waits]

variable {P : σ → Prop}

/-- What a call has written stands at every later moment, if it is never lost. -/
theorem Performs.stands (kept : ∀ {first second}, first <+: second → second <+: turns →
      P (run perform pool first).state → P (run perform pool second).state)
    (performs : Performs perform pool turns index early request)
    (written : P (perform request (run perform pool early).state).2) (inside : late <+: turns)
    (longer : early.length < late.length) : P (run perform pool late).state := by
  rcases performs.behind inside longer with ⟨turn, before, after⟩
  apply kept before inside
  rw [after]
  exact written

theorem Performs.head {turn first : Turn ι ρ κ α τ}
    (performs : Performs perform pool (turn :: turns) index (first :: early) request) :
    first = turn := by
  rcases performs with ⟨_, _, _, split, _⟩
  exact (List.cons.inj split).1.symm

theorem Performs.same (first : Performs perform pool turns index early request)
    (second : Performs perform pool turns other early wanted) : index = other := by
  rcases first with ⟨_, _, _, rfl, _⟩
  rcases second with ⟨_, _, _, split, _⟩
  rw [append_cancel_left_eq, List.cons.injEq, Turn.resume.injEq] at split
  exact split.1.1

theorem Performs.call_eq (first : Performs perform pool turns index early request)
    (second : Performs perform pool turns index early wanted) : request = wanted := by
  rcases first with ⟨_, _, _, _, waits⟩
  rcases second with ⟨_, _, _, _, stands⟩
  rw [waits] at stands
  cases stands
  rfl

theorem Performs.eq_of_length (first : Performs perform pool turns index early request)
    (second : Performs perform pool turns other late wanted)
    (lengths : early.length = late.length) : early = late :=
  (prefix_of_prefix_length_le first.inside second.inside lengths.le).eq_of_length lengths

/-- Two calls that write what is never lost, and both find it unwritten, are one. -/
theorem Performs.once (kept : ∀ {first second}, first <+: second → second <+: turns →
      P (run perform pool first).state → P (run perform pool second).state)
    (first : Performs perform pool turns index early request)
    (second : Performs perform pool turns other late wanted)
    (written : P (perform request (run perform pool early).state).2)
    (rewritten : P (perform wanted (run perform pool late).state).2)
    (unwritten : ¬ P (run perform pool early).state)
    (open_ : ¬ P (run perform pool late).state) : index = other ∧ early = late := by
  have one : ¬ early.length < late.length :=
    fun longer => open_ (first.stands kept written second.inside longer)
  have two : ¬ late.length < early.length :=
    fun longer => unwritten (second.stands kept rewritten first.inside longer)
  have places := first.eq_of_length second (le_antisymm (not_lt.mp two) (not_lt.mp one))
  subst places
  exact ⟨first.same second, rfl⟩

end Moments

section Threads

variable {pool : Pool σ ι ρ κ α τ} {turns : List (Turn ι ρ κ α τ)} {index : Nat}
variable {program : Program ι ρ κ α τ} {result : τ}

theorem thread_path (found : pool.threads[index]? = some program)
    (ended : (run perform pool turns).threads[index]? = some (.done result)) :
    ∃ moments, program.Path perform (Performs perform pool turns index)
        (fun front => (run perform pool front).state) moments result ∧
      moments.Pairwise (Moved index) ∧
      ∀ front request, Performs perform pool turns index front request → front ∈ moments := by
  induction turns generalizing pool program with
  | nil =>
    rw [run, found] at ended
    cases ended
    refine ⟨[], ⟨rfl, rfl⟩, List.Pairwise.nil, ?_⟩
    rintro front request ⟨oracle, back, next, split, _⟩
    cases front with
    | nil | cons => cases split
  | cons turn turns ih =>
    -- What comes behind the turn is on the path, one turn later.
    have later : ∀ next, (step perform pool turn).threads[index]? = some next →
        ∃ moments : List (List (Turn ι ρ κ α τ)), next.Path perform
            (Performs perform pool (turn :: turns) index)
            (fun front => (run perform pool front).state) (moments.map (turn :: ·)) result ∧
          (moments.map (turn :: ·)).Pairwise (Moved index) ∧
          ∀ front request, Performs perform pool (turn :: turns) index (turn :: front) request →
            turn :: front ∈ moments.map (turn :: ·) := by
      intro next stands
      rcases ih stands ended with ⟨moments, path, ordered, all⟩
      refine ⟨moments, path.shift (turn :: ·) ?_ fun _ => rfl, ?_, ?_⟩
      · rintro _ request ⟨oracle, back, next, split, waits⟩
        exact ⟨oracle, back, next, by rw [split]; rfl, waits⟩
      · refine pairwise_map.mpr (ordered.imp ?_)
        rintro _ late ⟨oracle, inside⟩
        exact ⟨oracle, (prefix_cons_inj turn).mpr inside⟩
      · rintro front request ⟨oracle, back, next, split, waits⟩
        exact mem_map_of_mem
          (all front request ⟨oracle, back, next, (List.cons.inj split).2, waits⟩)
    -- At the turn itself, the thread performs its call if it has one.
    have first : ∀ request, Performs perform pool (turn :: turns) index [] request →
        ∃ oracle next, turn = .resume index oracle ∧ program = .call request next := by
      rintro request ⟨oracle, _, next, split, waits⟩
      rw [run, found] at waits
      exact ⟨oracle, next, (List.cons.inj split).1, Option.some.inj waits⟩
    by_cases own : ∃ oracle, turn = .resume index oracle
    · rcases own with ⟨oracle, rfl⟩
      have inside := (List.getElem?_eq_some_iff.mp found).1
      cases program with
      | done last =>
        have stands : (step perform pool (.resume index oracle)).threads[index]? =
            some (.done last) := by
          simp [step, found]
        rcases later _ stands with ⟨moments, path, ordered, all⟩
        refine ⟨_, path, ordered, fun front wanted performs => ?_⟩
        cases front with
        | nil =>
          rcases first wanted performs with ⟨_, _, _, same⟩
          cases same
        | cons _ front =>
          cases performs.head
          exact all front wanted performs
      | call request next =>
        have stands : (step perform pool (.resume index oracle)).threads[index]? =
            some (next (perform request pool.state).1) := by
          rw [step_call perform found]
          exact getElem?_set_self inside
        rcases later _ stands with ⟨moments, path, ordered, all⟩
        refine ⟨[] :: moments.map (.resume index oracle :: ·),
          ⟨[], _, rfl, ⟨oracle, turns, next, rfl, found⟩, path⟩, ?_, ?_⟩
        · refine pairwise_cons.mpr ⟨fun late member => ?_, ordered⟩
          rcases mem_map.mp member with ⟨rest, _, rfl⟩
          exact ⟨oracle, ⟨rest, rfl⟩⟩
        · intro front wanted performs
          cases front with
          | nil => exact mem_cons_self
          | cons _ front =>
            cases performs.head
            exact mem_cons_of_mem _ (all front wanted performs)
      | ask question next =>
        have stands : (step perform pool (.resume index oracle)).threads[index]? =
            some (next (oracle question)) := by
          rw [step_ask perform found]
          exact getElem?_set_self inside
        rcases later _ stands with ⟨moments, path, ordered, all⟩
        refine ⟨_, ⟨oracle question, path⟩, ordered, fun front wanted performs => ?_⟩
        cases front with
        | nil =>
          rcases first wanted performs with ⟨_, _, _, same⟩
          cases same
        | cons _ front =>
          cases performs.head
          exact all front wanted performs
    · have stands : (step perform pool turn).threads[index]? = some program := by
        cases turn with
        | start =>
          rw [step, getElem?_append_left (List.getElem?_eq_some_iff.mp found).1]
          exact found
        | resume moved oracle =>
          have apart : moved ≠ index := fun same => own ⟨oracle, same ▸ rfl⟩
          simp only [step]
          split
          · rw [getElem?_set_ne apart]
            exact found
          · rw [getElem?_set_ne apart]
            exact found
          · exact found
      rcases later _ stands with ⟨_, path, ordered, all⟩
      refine ⟨_, path, ordered, fun front wanted performs => ?_⟩
      cases front with
      | nil =>
        rcases first wanted performs with ⟨oracle, _, same, _⟩
        exact absurd ⟨oracle, same⟩ own
      | cons _ front =>
        cases performs.head
        exact all front wanted performs

end Threads

section Started

variable {state : σ} {turns : List (Turn ι ρ κ α τ)} {index : Nat}
variable {program : Program ι ρ κ α τ} {result : τ}

theorem path_from_start {front back : List (Turn ι ρ κ α τ)} (size : (started front).length = index)
    (ended : (run perform ⟨state, []⟩ (front ++ .start program :: back)).threads[index]? =
      some (.done result)) : ∃ moments, program.Path perform
        (Performs perform ⟨state, []⟩ (front ++ .start program :: back) index)
        (fun moment => (run perform ⟨state, []⟩ moment).state) moments result ∧
      moments.Pairwise (Moved index) ∧ (∀ moment ∈ moments, front ++ [.start program] <+: moment) ∧
      ∀ moment request,
        Performs perform ⟨state, []⟩ (front ++ .start program :: back) index moment request →
        moment ∈ moments := by
  rw [append_cons, run_append] at ended
  have found : (run perform ⟨state, []⟩ (front ++ [.start program])).threads[index]? =
      some program := by
    rw [run_append, run, run, step, ← size, ← run_threads_length perform state front,
      getElem?_append_right (le_refl _), Nat.sub_self]
    rfl
  rcases thread_path found ended with ⟨moments, path, ordered, all⟩
  refine ⟨moments.map (front ++ [.start program] ++ ·), path.shift _ ?_ ?_, ?_, ?_, ?_⟩
  · rintro moment request ⟨oracle, rest, next, split, waits⟩
    refine ⟨oracle, rest, next, ?_, ?_⟩
    · rw [split]
      simp
    · rw [run_append]
      exact waits
  · exact fun moment => congrArg Pool.state (run_append perform _ _ moment).symm
  · refine pairwise_map.mpr (ordered.imp ?_)
    rintro early _ ⟨oracle, inside⟩
    refine ⟨oracle, ?_⟩
    rw [append_assoc]
    exact (prefix_append_right_inj _).mpr inside
  · intro moment member
    rcases mem_map.mp member with ⟨rest, _, rfl⟩
    exact ⟨rest, rfl⟩
  · rintro moment request ⟨oracle, rest, next, split, waits⟩
    -- The thread is not there before it starts.
    have inside : moment <+: front ++ .start program :: back := ⟨_, split.symm⟩
    have behind : front ++ [.start program] <+: moment := by
      refine prefix_of_prefix_length_le ⟨back, ?_⟩ inside ?_
      · rw [← append_cons]
      · rw [length_append, length_singleton]
        by_contra short
        have early : moment <+: front :=
          prefix_of_prefix_length_le inside (prefix_append _ _) (by omega)
        have room := (List.getElem?_eq_some_iff.mp waits).1
        rcases early with ⟨_, rfl⟩
        rw [run_threads_length] at room
        rw [started_append, length_append] at size
        omega
    rcases behind with ⟨later, rfl⟩
    refine mem_map_of_mem (all later request ⟨oracle, rest, next, ?_, ?_⟩)
    · rw [append_cons, append_assoc (front ++ [Turn.start program]) later] at split
      exact append_cancel_left split
    · rw [← run_append]
      exact waits

theorem related_along {R : σ → σ → Prop} (refl : ∀ state, R state state)
    (trans : ∀ early middle late, R early middle → R middle late → R early late)
    (each : ∀ e ∈ Run.trace perform state (calls perform ⟨state, []⟩ turns), R e.before e.after)
    {early late : List (Turn ι ρ κ α τ)} (before : early <+: late) (inside : late <+: turns) :
    R (run perform ⟨state, []⟩ early).state (run perform ⟨state, []⟩ late).state := by
  rcases before with ⟨middle, rfl⟩
  rcases inside with ⟨_, rfl⟩
  rw [run_append, run_state perform _ middle]
  refine Run.kept_final perform (R (run perform ⟨state, []⟩ early).state) _ _ ?_ (refl _)
  intro e member related
  refine trans _ _ _ related (each e ?_)
  rw [append_assoc, calls_append, Run.trace_append, ← run_state perform ⟨state, []⟩ early,
    calls_append, Run.trace_append]
  exact mem_append_right _ (mem_append_left _ member)

end Started

/-! Systems whose threads are operations: a run by its moves, and the path of each operation. -/

variable {ω ι : Type} {ρ : ι → Type} {κ : Type} {α : κ → Type} {τ σ : Type}

/-- An operation starts, or one that runs makes its next step. -/
inductive Move (ω κ : Type) (α : κ → Type) : Type
  | start (operation : ω)
  | resume (index : Nat) (oracle : (question : κ) → α question)

def operations : List (Move ω κ α) → List ω
  | [] => []
  | .start operation :: moves => operation :: operations moves
  | .resume _ _ :: moves => operations moves

theorem operations_append (front back : List (Move ω κ α)) :
    operations (front ++ back) = operations front ++ operations back := by
  induction front with
  | nil => rfl
  | cons move _ ih =>
    cases move with
    | start operation => exact congrArg (operation :: ·) ih
    | resume => exact ih

variable (program : ω → Program ι ρ κ α τ)

def Move.turn : Move ω κ α → Turn ι ρ κ α τ
  | .start operation => .start (program operation)
  | .resume index oracle => .resume index oracle

def turns (moves : List (Move ω κ α)) : List (Turn ι ρ κ α τ) := moves.map (Move.turn program)

theorem turns_append (front back : List (Move ω κ α)) :
    turns program (front ++ back) = turns program front ++ turns program back := map_append

theorem started_turns (moves : List (Move ω κ α)) :
    started (turns program moves) = (operations moves).map program := by
  induction moves with
  | nil => rfl
  | cons move _ ih =>
    cases move with
    | start operation => exact congrArg (program operation :: ·) ih
    | resume => exact ih

theorem mem_started {turns : List (Turn ι ρ κ α τ)} {begun : Program ι ρ κ α τ}
    (member : .start begun ∈ turns) : begun ∈ started turns := by
  induction turns with
  | nil => cases member
  | cons turn _ ih =>
    rcases mem_cons.mp member with rfl | later
    · exact mem_cons_self
    · cases turn with
      | start => exact mem_cons_of_mem _ (ih later)
      | resume => exact ih later

theorem system_issues {perform : (call : ι) → σ → ρ call × σ} {start : σ}
    {moves : List (Move ω κ α)} (P : ι → Prop)
    (each : ∀ operation ∈ operations moves, (program operation).Issues P) :
    ∀ e ∈ Run.trace perform start (calls perform ⟨start, []⟩ (turns program moves)), P e.call := by
  intro e member
  refine calls_issue perform P ⟨start, []⟩ (turns program moves) nofun (fun begun listed => ?_)
    e.call (Run.mem_of_mem_trace _ _ _ e member)
  have inside := mem_started listed
  rw [started_turns] at inside
  rcases mem_map.mp inside with ⟨operation, present, rfl⟩
  exact each operation present

variable {operation : ω}

theorem operations_split {moves : List (Move ω κ α)}
    (listed : (operations moves)[index]? = some operation) :
    ∃ front back, moves = front ++ .start operation :: back ∧
      (operations front).length = index := by
  induction moves generalizing index with
  | nil => cases listed
  | cons move moves ih =>
    cases move with
    | start first =>
      cases index with
      | zero =>
        cases listed
        exact ⟨[], moves, rfl, rfl⟩
      | succ =>
        rcases ih listed with ⟨front, back, rfl, size⟩
        exact ⟨.start first :: front, back, rfl, by rw [operations, length_cons, size]⟩
    | resume own oracle =>
      rcases ih listed with ⟨front, back, rfl, size⟩
      exact ⟨.resume own oracle :: front, back, rfl, by rw [operations, size]⟩

section Paths

variable (perform : (call : ι) → σ → ρ call × σ) (start : σ) (moves : List (Move ω κ α))

def reached : Pool σ ι ρ κ α τ := run perform ⟨start, []⟩ (turns program moves)

def stateBehind (front : List (Turn ι ρ κ α τ)) : σ := (run perform ⟨start, []⟩ front).state

def PerformsAt (index : Nat) (front : List (Turn ι ρ κ α τ)) (call : ι) : Prop :=
  Performs perform ⟨start, []⟩ (turns program moves) index front call

def systemTrace : List (Run.Event σ ι ρ) :=
  Run.trace perform start (calls perform ⟨start, []⟩ (turns program moves))

variable {program} {perform} {start} {moves}

/-- An operation that has finished took the path of its program from its start on. -/
theorem operation_path {result : τ} (listed : (operations moves)[index]? = some operation)
    (ended : (reached program perform start moves).threads[index]? = some (.done result)) :
    ∃ front back moments, moves = front ++ .start operation :: back ∧
      (program operation).Path perform (PerformsAt program perform start moves index)
        (stateBehind perform start) moments result ∧
      moments.Pairwise (Moved index) ∧ (∀ moment ∈ moments, turns program front <+: moment) ∧
      ∀ moment call, PerformsAt program perform start moves index moment call →
        moment ∈ moments := by
  rcases operations_split listed with ⟨front, back, rfl, size⟩
  have parts : turns program (front ++ .start operation :: back) =
      turns program front ++ .start (program operation) :: turns program back := by
    rw [turns_append]
    rfl
  have sizes : (started (turns program front)).length = index := by
    rw [started_turns, length_map, size]
  rw [reached, parts] at ended
  rcases path_from_start sizes ended with ⟨moments, path, ordered, behind, all⟩
  rw [← parts] at path all
  exact ⟨front, back, moments, rfl, path, ordered,
    fun moment member => (prefix_append _ _).trans (behind moment member), all⟩

/-- What each event of the system relates, its moments relate. -/
theorem system_along {R : σ → σ → Prop} (refl : ∀ state, R state state)
    (trans : ∀ early middle late, R early middle → R middle late → R early late)
    (each : ∀ e ∈ systemTrace program perform start moves, R e.before e.after)
    {early late : List (Turn ι ρ κ α τ)} (before : early <+: late)
    (inside : late <+: turns program moves) :
    R (stateBehind perform start early) (stateBehind perform start late) :=
  related_along refl trans each before inside

end Paths

end BackendHandbook.Interleaving
