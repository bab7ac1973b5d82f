import BackendHandbook.Foundation.Interleaving
import Mathlib.Data.List.Induction

/-! What is known of each thread of a pool: a rule for what a thread may rely on while the
others move, and the count of the threads that have finished. -/

namespace BackendHandbook.Interleaving

open List

variable {ι : Type} {ρ : ι → Type} {κ : Type} {α : κ → Type} {τ σ : Type}
variable (perform : (call : ι) → σ → ρ call × σ)

theorem started_append (front back : List (Turn ι ρ κ α τ)) :
    started (front ++ back) = started front ++ started back := by
  induction front with
  | nil => rfl
  | cons turn _ ih =>
    cases turn with
    | start | resume => simp [started, ih]

theorem calls_append (pool : Pool σ ι ρ κ α τ) (front back : List (Turn ι ρ κ α τ)) :
    calls perform pool (front ++ back) =
      calls perform pool front ++ calls perform (run perform pool front) back := by
  induction front generalizing pool with
  | nil => rfl
  | cons _ _ ih => simp [calls, run, ih]

theorem step_threads_length (pool : Pool σ ι ρ κ α τ) (turn : Turn ι ρ κ α τ) :
    (step perform pool turn).threads.length = pool.threads.length + (started [turn]).length := by
  cases turn with
  | start => simp [step, started]
  | resume index =>
    simp only [step]
    cases found : pool.threads[index]? with
    | none => rfl
    | some thread =>
      cases thread with
      | done => rfl
      | call | ask => exact length_set

theorem run_threads_length (state : σ) (turns : List (Turn ι ρ κ α τ)) :
    (run perform ⟨state, []⟩ turns).threads.length = (started turns).length := by
  induction turns using reverseRecOn with
  | nil => rfl
  | append_singleton _ turn ih =>
    rw [run_append, started_append, length_append, ← ih]
    exact step_threads_length perform _ turn

def Program.alone (oracle : (question : κ) → α question) : Program ι ρ κ α τ → σ → τ × σ
  | .done result, state => (result, state)
  | .call request next, state =>
    (next (perform request state).1).alone oracle (perform request state).2
  | .ask question next, state => (next (oracle question)).alone oracle state

section Rely

variable (Inv : σ → Prop) (P : Nat → σ → Program ι ρ κ α τ → Prop)

theorem step_threads_hold
    (own : ∀ index request next state, Inv state → P index state (.call request next) →
      P index (perform request state).2 (next (perform request state).1))
    (others : ∀ index program other request next state, Inv state →
      P index state program → P other state (.call request next) →
        P index (perform request state).2 program)
    (answers : ∀ index question next state, P index state (.ask question next) →
      ∀ answer, P index state (next answer))
    (pool : Pool σ ι ρ κ α τ) (turn : Turn ι ρ κ α τ) (holds : Inv pool.state)
    (starts : ∀ program, turn = .start program → P pool.threads.length pool.state program)
    (threads : ∀ index thread, pool.threads[index]? = some thread → P index pool.state thread) :
    ∀ index thread, (step perform pool turn).threads[index]? = some thread →
      P index (step perform pool turn).state thread := by
  intro index thread member
  cases turn with
  | start =>
    simp only [step] at member ⊢
    by_cases old : index < pool.threads.length
    · rw [getElem?_append_left old] at member
      exact threads index thread member
    · rw [getElem?_append_right (not_lt.mp old)] at member
      have first : index - pool.threads.length = 0 := by
        have inside := (List.getElem?_eq_some_iff.mp member).1
        rw [length_singleton] at inside
        omega
      rw [first] at member
      cases member
      rw [show index = pool.threads.length by omega]
      exact starts _ rfl
  | resume moved =>
    simp only [step] at member ⊢
    cases found : pool.threads[moved]? with
    | none =>
      rw [found] at member
      exact threads index thread member
    | some program =>
    have inside := (List.getElem?_eq_some_iff.mp found).1
    have waiting := threads moved program found
    rw [found] at member
    cases program with
    | done => exact threads index thread member
    | call request next =>
      by_cases same : moved = index
      · rw [← same, getElem?_set_self inside] at member
        cases member
        rw [← same]
        exact own moved request next pool.state holds waiting
      · rw [getElem?_set_ne same] at member
        exact others index thread moved request next pool.state holds
          (threads index thread member) waiting
    | ask question next =>
      by_cases same : moved = index
      · rw [← same, getElem?_set_self inside] at member
        cases member
        rw [← same]
        exact answers moved question next pool.state waiting _
      · rw [getElem?_set_ne same] at member
        exact threads index thread member

theorem threads_hold (kept : ∀ request state, Inv state → Inv (perform request state).2)
    (own : ∀ index request next state, Inv state → P index state (.call request next) →
      P index (perform request state).2 (next (perform request state).1))
    (others : ∀ index program other request next state, Inv state →
      P index state program → P other state (.call request next) →
        P index (perform request state).2 program)
    (answers : ∀ index question next state, P index state (.ask question next) →
      ∀ answer, P index state (next answer))
    (state : σ) (turns : List (Turn ι ρ κ α τ)) (holds : Inv state)
    (starts : ∀ index program, (started turns)[index]? = some program →
      ∀ reached, Inv reached → P index reached program) :
    Inv (run perform ⟨state, []⟩ turns).state ∧
      ∀ index thread, (run perform ⟨state, []⟩ turns).threads[index]? = some thread →
        P index (run perform ⟨state, []⟩ turns).state thread := by
  induction turns using reverseRecOn with
  | nil =>
    refine ⟨holds, ?_⟩
    intro index thread member
    cases member
  | append_singleton turns turn ih =>
    rw [started_append] at starts
    have before := ih fun index program found => starts index program (by
      rw [getElem?_append_left (List.getElem?_eq_some_iff.mp found).1]
      exact found)
    rw [run_append]
    constructor
    · cases turn with
      | start => exact before.1
      | resume index =>
        simp only [run, step]
        cases found : (run perform ⟨state, []⟩ turns).threads[index]? with
        | none => exact before.1
        | some thread =>
          cases thread with
          | done | ask => exact before.1
          | call => exact kept _ _ before.1
    · refine step_threads_hold perform Inv P own others answers _ turn before.1 ?_ before.2
      intro program same
      rw [run_threads_length]
      refine starts _ program ?_ _ before.1
      rw [getElem?_append_right (le_refl _), Nat.sub_self, same]
      rfl

end Rely

section Finished

variable (finished : τ → Bool) (counted : (request : ι) → ρ request → Bool)

def Program.finishes : Program ι ρ κ α τ → Bool
  | .done result => finished result
  | _ => false

def Program.Counts : Program ι ρ κ α τ → Prop
  | .done _ => True
  | .call request next =>
    ∀ response, (next response).finishes finished = counted request response
  | .ask _ next => ∀ answer, (next answer).finishes finished = false

theorem set_finishes {threads : List (Program ι ρ κ α τ)} {index : Nat}
    {old next : Program ι ρ κ α τ} (found : threads[index]? = some old)
    (unfinished : old.finishes finished = false) :
    (threads.set index next).countP (·.finishes finished) =
      threads.countP (·.finishes finished) + (next.finishes finished).toNat := by
  rcases List.getElem?_eq_some_iff.mp found with ⟨inside, same⟩
  rw [countP_set inside, same, unfinished]
  cases next.finishes finished with
  | false | true => simp

theorem finished_counted (state : σ) (turns : List (Turn ι ρ κ α τ))
    (starts : ∀ program ∈ started turns, program.finishes finished = false ∧
      program.Everywhere (Program.Counts finished counted)) :
    (run perform ⟨state, []⟩ turns).threads.countP (·.finishes finished) =
      (Run.trace perform state (calls perform ⟨state, []⟩ turns)).countP
        fun e => counted e.call e.response := by
  induction turns using reverseRecOn with
  | nil => rfl
  | append_singleton turns turn ih =>
    rw [started_append] at starts
    have front : ∀ program ∈ started turns, program.finishes finished = false ∧
        program.Everywhere (Program.Counts finished counted) :=
      fun program member => starts program (mem_append_left _ member)
    have before := ih front
    rw [run_append, calls_append, Run.trace_append, countP_append, ← before,
      ← run_state perform ⟨state, []⟩ turns]
    cases turn with
    | start program =>
      have new := (starts program (mem_append_right _ mem_cons_self)).1
      simp [run, step, calls, issued, new, Run.trace]
    | resume index =>
      simp only [run, step, calls, issued, append_nil]
      cases found : (run perform ⟨state, []⟩ turns).threads[index]? with
      | none => simp [Run.trace]
      | some thread =>
      have counts : thread.Everywhere (Program.Counts finished counted) := by
        apply thread_everywhere perform _ index ⟨state, []⟩ turns _ thread found
        intro program listed
        exact (front program (mem_of_getElem? listed)).2
      cases thread with
      | done => simp [Run.trace]
      | call request next =>
        have here : ∀ response, (next response).finishes finished =
            counted request response := counts.1
        rw [set_finishes finished found rfl, here]
        simp only [Run.trace, Run.event, countP_singleton]
        cases counted request _ with
        | false | true => rfl
      | ask _ next =>
        have here : ∀ answer, (next answer).finishes finished = false := counts.1
        rw [set_finishes finished found rfl, here]
        simp [Run.trace]

end Finished

/-! What a program keeps while the other threads move the state: it relies on them for how the
state moves, and its own calls move it so too. -/

variable {ι : Type} {ρ : ι → Type} {κ : Type} {α : κ → Type} {τ υ σ : Type}

/-- The program, with its result seen through a function. -/
def Program.map (view : τ → υ) : Program ι ρ κ α τ → Program ι ρ κ α υ
  | .done result => .done (view result)
  | .call request next => .call request fun response => (next response).map view
  | .ask question next => .ask question fun answer => (next answer).map view

variable (perform : (call : ι) → σ → ρ call × σ)

section Keeps

variable (Rely : σ → σ → Prop) (Inv : σ → Prop) (Legal : ι → σ → Prop)

/-- However the state moves by `Rely`, the legal calls of the program keep `Inv` and move it by
`Rely` themselves, and its result is one that the state bears out. -/
def Program.Keeps (Q : σ → τ → Prop) : Program ι ρ κ α τ → σ → Prop
  | .done result, state => Q state result
  | .call request next, state => ∀ moved, Rely state moved → Inv moved → Legal request moved →
      Inv (perform request moved).2 ∧ Rely moved (perform request moved).2 ∧
        (next (perform request moved).1).Keeps Q (perform request moved).2
  | .ask _ next, state => ∀ answer, (next answer).Keeps Q state

variable {perform} {Rely} {Inv} {Legal}
variable {program : Program ι ρ κ α τ} {Q : σ → τ → Prop}

variable {view : τ → υ}

theorem Program.keeps_map {Q : σ → υ → Prop} {state : σ}
    (keeps : program.Keeps perform Rely Inv Legal (fun state result => Q state (view result))
      state) : (program.map view).Keeps perform Rely Inv Legal Q state := by
  induction program generalizing state with
  | done => exact keeps
  | call _ _ ih =>
    intro moved relied holds legal
    rcases keeps moved relied holds legal with ⟨stays, moves, later⟩
    exact ⟨stays, moves, ih _ later⟩
  | ask _ _ ih => exact fun answer => ih answer (keeps answer)

variable {P : ι → Prop}

theorem Program.keeps_of_issues (each : ∀ request state, P request → Inv state →
      Inv (perform request state).2 ∧ Rely state (perform request state).2)
    (any : ∀ state result, Q state result) (issues : program.Issues P) (state : σ) :
    program.Keeps perform Rely Inv Legal Q state := by
  induction program generalizing state with
  | done => exact any state _
  | call request _ ih =>
    intro moved _ holds _
    rcases each request moved issues.1 holds with ⟨stays, moves⟩
    exact ⟨stays, moves, ih _ (issues.2 _) _⟩
  | ask _ _ ih => exact fun answer => ih answer (issues answer) state

theorem Program.issues_map (issues : program.Issues P) : (program.map view).Issues P := by
  induction program with
  | done => trivial
  | call _ _ ih => exact ⟨issues.1, fun response => ih response (issues.2 response)⟩
  | ask _ _ ih => exact fun answer => ih answer (issues answer)

theorem Program.Keeps.moved (trans : ∀ early middle late, Rely early middle →
      Rely middle late → Rely early late)
    (borne : ∀ result early late, Rely early late → Q early result → Q late result) {early late : σ}
    (keeps : program.Keeps perform Rely Inv Legal Q early) (moves : Rely early late) :
    program.Keeps perform Rely Inv Legal Q late := by
  induction program with
  | done => exact borne _ early late moves keeps
  | call =>
    exact fun moved relied => keeps moved (trans early late moved moves relied)
  | ask _ _ ih => exact fun answer => ih answer (keeps answer)

/-- The reliance rule: where every program keeps what the others rely on, every interleaving of
legal calls keeps the invariant, and the results are borne out by the state. -/
theorem run_keeps (refl : ∀ state, Rely state state)
    (trans : ∀ early middle late, Rely early middle → Rely middle late → Rely early late)
    (borne : ∀ result early late, Rely early late → Q early result →
      Q late result) (state : σ) (turns : List (Turn ι ρ κ α τ)) (holds : Inv state)
    (starts : ∀ program ∈ started turns, ∀ state, Inv state →
      program.Keeps perform Rely Inv Legal Q state)
    (legal : ∀ e ∈ Run.trace perform state (calls perform ⟨state, []⟩ turns),
      Legal e.call e.before) : Inv (run perform ⟨state, []⟩ turns).state ∧
      ∀ thread ∈ (run perform ⟨state, []⟩ turns).threads,
        thread.Keeps perform Rely Inv Legal Q (run perform ⟨state, []⟩ turns).state := by
  induction turns using reverseRecOn with
  | nil => exact ⟨holds, nofun⟩
  | append_singleton turns turn ih =>
    rw [calls_append, Run.trace_append] at legal
    rw [started_append] at starts
    rcases ih (fun program inside => starts program (mem_append_left _ inside))
      (fun e inside => legal e (mem_append_left _ inside)) with ⟨stands, threads⟩
    have now : ∀ e ∈ Run.trace perform (run perform ⟨state, []⟩ turns).state
        (issued (run perform ⟨state, []⟩ turns) turn), Legal e.call e.before := by
      intro e inside
      refine legal e (mem_append_right _ ?_)
      rw [calls, calls, append_nil, ← run_state perform ⟨state, []⟩ turns]
      exact inside
    rw [run_append]
    cases turn with
    | start program =>
      refine ⟨stands, fun thread member => ?_⟩
      rcases mem_append.mp member with old | new
      · exact threads thread old
      · rw [mem_singleton.mp new]
        exact starts program (mem_append_right _ mem_cons_self) _ stands
    | resume index =>
      simp only [run, step]
      simp only [issued] at now
      cases found : (run perform ⟨state, []⟩ turns).threads[index]? with
      | none => exact ⟨stands, threads⟩
      | some thread =>
      have own := threads thread (mem_of_getElem? found)
      cases thread with
      | done => exact ⟨stands, threads⟩
      | call =>
        rw [found] at now
        rcases own _ (refl _) stands (now _ mem_cons_self) with ⟨stays, moves, later⟩
        refine ⟨stays, fun other member => ?_⟩
        rcases mem_or_eq_of_mem_set member with old | rfl
        · exact (threads other old).moved trans borne moves
        · exact later
      | ask =>
        refine ⟨stands, fun other member => ?_⟩
        rcases mem_or_eq_of_mem_set member with old | rfl
        · exact threads other old
        · exact own _

end Keeps

end BackendHandbook.Interleaving
