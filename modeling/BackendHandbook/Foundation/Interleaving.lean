import BackendHandbook.Foundation.Run

/-! Programs over atomic calls, and their interleavings.

A program is a tree of calls on the shared machine and of questions to the outside
world. A pool runs any number of programs, one call at a time, in any order; the
outside world answers every question as it likes. -/

namespace BackendHandbook.Interleaving

variable {ι : Type} {ρ : ι → Type} {κ : Type} {α : κ → Type} {τ σ : Type}

inductive Program (ι : Type) (ρ : ι → Type) (κ : Type) (α : κ → Type) (τ : Type) : Type
  | done (result : τ)
  | call (request : ι) (next : ρ request → Program ι ρ κ α τ)
  | ask (question : κ) (next : α question → Program ι ρ κ α τ)

/-- Every call the program can come to make satisfies the predicate. -/
def Program.Issues (P : ι → Prop) : Program ι ρ κ α τ → Prop
  | .done _ => True
  | .call request next => P request ∧ ∀ response, (next response).Issues P
  | .ask _ next => ∀ answer, (next answer).Issues P

/-- The predicate holds of the program and of all that it can go on as. -/
def Program.Everywhere (P : Program ι ρ κ α τ → Prop) : Program ι ρ κ α τ → Prop
  | .done result => P (.done result)
  | .call request next =>
    P (.call request next) ∧ ∀ response, (next response).Everywhere P
  | .ask question next => P (.ask question next) ∧ ∀ answer, (next answer).Everywhere P

theorem Program.Everywhere.here {P : Program ι ρ κ α τ → Prop} {program : Program ι ρ κ α τ}
    (holds : program.Everywhere P) : P program := by
  cases program with
  | done => exact holds
  | call | ask => exact holds.1

inductive Turn (ι : Type) (ρ : ι → Type) (κ : Type) (α : κ → Type) (τ : Type) : Type
  | start (program : Program ι ρ κ α τ)
  | resume (index : Nat) (oracle : (question : κ) → α question)

structure Pool (σ ι : Type) (ρ : ι → Type) (κ : Type) (α : κ → Type) (τ : Type) where
  state : σ
  threads : List (Program ι ρ κ α τ)

variable (perform : (call : ι) → σ → ρ call × σ)

def step (pool : Pool σ ι ρ κ α τ) : Turn ι ρ κ α τ → Pool σ ι ρ κ α τ
  | .start program => { pool with threads := pool.threads ++ [program] }
  | .resume index oracle =>
    match pool.threads[index]? with
    | some (.call request next) =>
      let (response, state) := perform request pool.state
      { state, threads := pool.threads.set index (next response) }
    | some (.ask question next) =>
      { pool with threads := pool.threads.set index (next (oracle question)) }
    | _ => pool

/-- The calls that a turn makes: at most one. -/
def issued (pool : Pool σ ι ρ κ α τ) : Turn ι ρ κ α τ → List ι
  | .start _ => []
  | .resume index _ =>
    match pool.threads[index]? with
    | some (.call request _) => [request]
    | _ => []

def run (pool : Pool σ ι ρ κ α τ) : List (Turn ι ρ κ α τ) → Pool σ ι ρ κ α τ
  | [] => pool
  | turn :: turns => run (step perform pool turn) turns

def calls (pool : Pool σ ι ρ κ α τ) : List (Turn ι ρ κ α τ) → List ι
  | [] => []
  | turn :: turns => issued pool turn ++ calls (step perform pool turn) turns

section Resume

variable {pool : Pool σ ι ρ κ α τ} {index : Nat}

theorem step_call {request : ι} {next : ρ request → Program ι ρ κ α τ}
    (found : pool.threads[index]? = some (.call request next))
    (oracle : (question : κ) → α question) : step perform pool (.resume index oracle) =
      { state := (perform request pool.state).2
        threads := pool.threads.set index (next (perform request pool.state).1) } := by
  simp [step, found]

theorem step_ask {question : κ} {next : α question → Program ι ρ κ α τ}
    (found : pool.threads[index]? = some (.ask question next))
    (oracle : (question : κ) → α question) : step perform pool (.resume index oracle) =
      { pool with threads := pool.threads.set index (next (oracle question)) } := by
  simp [step, found]

theorem step_idle (idle : ∀ thread, pool.threads[index]? = some thread →
    ∃ result, thread = .done result) (oracle : (question : κ) → α question) :
    step perform pool (.resume index oracle) = pool := by
  simp only [step]
  cases found : pool.threads[index]? with
  | none => rfl
  | some thread =>
    rcases idle thread found with ⟨_, rfl⟩
    rfl

end Resume

variable (pool : Pool σ ι ρ κ α τ)

theorem run_append (front back : List (Turn ι ρ κ α τ)) :
    run perform pool (front ++ back) = run perform (run perform pool front) back := by
  induction front generalizing pool with
  | nil => rfl
  | cons turn _ ih => exact ih (step perform pool turn)

theorem step_state (turn : Turn ι ρ κ α τ) :
    (step perform pool turn).state = Run.final perform pool.state (issued pool turn) := by
  cases turn with
  | start => rfl
  | resume index =>
    simp only [step, issued]
    cases pool.threads[index]? with
    | none => rfl
    | some thread => cases thread <;> rfl

/-- An interleaving acts on the shared state as the calls it made, in their order. -/
theorem run_state (turns : List (Turn ι ρ κ α τ)) : (run perform pool turns).state =
      Run.final perform pool.state (calls perform pool turns) := by
  induction turns generalizing pool with
  | nil => rfl
  | cons _ _ ih => rw [run, ih, calls, Run.final_append, step_state]

private theorem step_issues (P : ι → Prop) (pool : Pool σ ι ρ κ α τ) (turn : Turn ι ρ κ α τ)
    (threads : ∀ thread ∈ pool.threads, thread.Issues P)
    (started : ∀ program, turn = .start program → program.Issues P) :
    (∀ request ∈ issued pool turn, P request) ∧
      ∀ thread ∈ (step perform pool turn).threads, thread.Issues P := by
  cases turn with
  | start program =>
    refine ⟨by simp [issued], ?_⟩
    intro thread member
    rcases List.mem_append.mp member with old | new
    · exact threads thread old
    · rw [List.mem_singleton.mp new]
      exact started program rfl
  | resume index =>
    simp only [step, issued]
    cases found : pool.threads[index]? with
    | none => exact ⟨by simp, threads⟩
    | some thread =>
    have waiting := threads thread (List.mem_of_getElem? found)
    cases thread with
    | done => exact ⟨by simp, threads⟩
    | call =>
      refine ⟨by simpa using waiting.1, fun thread member => ?_⟩
      rcases List.mem_or_eq_of_mem_set member with old | rfl
      · exact threads thread old
      · exact waiting.2 _
    | ask =>
      refine ⟨by simp, fun thread member => ?_⟩
      rcases List.mem_or_eq_of_mem_set member with old | rfl
      · exact threads thread old
      · exact waiting _

theorem calls_issue (P : ι → Prop) (pool : Pool σ ι ρ κ α τ) (turns : List (Turn ι ρ κ α τ))
    (threads : ∀ thread ∈ pool.threads, thread.Issues P)
    (started : ∀ program, .start program ∈ turns → program.Issues P) :
    ∀ request ∈ calls perform pool turns, P request := by
  induction turns generalizing pool with
  | nil => intro request member; cases member
  | cons turn _ ih =>
    have first := step_issues perform P pool turn threads
      (fun program same => started program (by rw [same]; exact List.mem_cons_self))
    intro request member
    rcases List.mem_append.mp member with now | later
    · exact first.1 request now
    · exact ih _ first.2
        (fun program inside => started program (List.mem_cons_of_mem _ inside)) request later

def started : List (Turn ι ρ κ α τ) → List (Program ι ρ κ α τ)
  | [] => []
  | .start program :: turns => program :: started turns
  | .resume _ _ :: turns => started turns

private theorem set_everywhere (P : Program ι ρ κ α τ → Prop)
    {threads rest : List (Program ι ρ κ α τ)} {index own : Nat}
    {old next : Program ι ρ κ α τ} (found : threads[own]? = some old)
    (goes : old.Everywhere P → next.Everywhere P)
    (holds : ∀ program, (threads ++ rest)[index]? = some program → program.Everywhere P) :
    ∀ program, (threads.set own next ++ rest)[index]? = some program → program.Everywhere P := by
  intro program member
  have inside : own < threads.length := (List.getElem?_eq_some_iff.mp found).1
  by_cases same : own = index
  · subst same
    rw [List.getElem?_append_left (by rwa [List.length_set]), List.getElem?_set_self inside]
      at member
    cases member
    apply goes
    apply holds old
    rw [List.getElem?_append_left inside]
    exact found
  · apply holds program
    rw [← List.set_append_left _ _ inside, List.getElem?_set_ne same] at member
    exact member

/-- A thread stays within what its own program can go on as, whatever the others do. -/
theorem thread_everywhere (P : Program ι ρ κ α τ → Prop) (index : Nat)
    (pool : Pool σ ι ρ κ α τ) (turns : List (Turn ι ρ κ α τ))
    (holds : ∀ program, (pool.threads ++ started turns)[index]? = some program →
      program.Everywhere P) : ∀ thread, (run perform pool turns).threads[index]? = some thread →
      thread.Everywhere P := by
  induction turns generalizing pool with
  | nil =>
    intro thread found
    apply holds thread
    rw [started, List.append_nil]
    exact found
  | cons turn _ ih =>
    apply ih
    cases turn with
    | start =>
      rw [step, List.append_assoc]
      exact holds
    | resume own =>
      simp only [step]
      cases found : pool.threads[own]? with
      | none => exact holds
      | some thread =>
      cases thread with
      | done => exact holds
      | call | ask => exact set_everywhere P found (fun goes => goes.2 _) holds

end BackendHandbook.Interleaving
