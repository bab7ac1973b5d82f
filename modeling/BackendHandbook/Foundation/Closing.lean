import BackendHandbook.Foundation.Operations

/-! Calls that close their programs, and runs from states that answer alike. -/

namespace BackendHandbook.Interleaving

open List

variable {ι : Type} {ρ : ι → Type} {κ : Type} {α : κ → Type} {τ σ : Type}
variable {perform : (call : ι) → σ → ρ call × σ}

section Finish

variable {pool : Pool σ ι ρ κ α τ} {index : Nat} {result : τ}

theorem step_done (found : pool.threads[index]? = some (.done result)) (turn : Turn ι ρ κ α τ) :
    (step perform pool turn).threads[index]? = some (.done result) := by
  cases turn with
  | start =>
    rw [step, getElem?_append_left (List.getElem?_eq_some_iff.mp found).1]
    exact found
  | resume moved =>
    by_cases same : moved = index
    · subst same
      simp [step, found]
    · simp only [step]
      split
      · rw [getElem?_set_ne same]
        exact found
      · rw [getElem?_set_ne same]
        exact found
      · exact found

/-- A thread that has finished stays so. -/
theorem run_done (found : pool.threads[index]? = some (.done result))
    (turns : List (Turn ι ρ κ α τ)) :
    (run perform pool turns).threads[index]? = some (.done result) := by
  induction turns generalizing pool with
  | nil => exact found
  | cons turn _ ih => exact ih (step_done found turn)

end Finish

theorem Program.Everywhere.imp {P Q : Program ι ρ κ α τ → Prop}
    (implies : ∀ program, P program → Q program) {program : Program ι ρ κ α τ}
    (holds : program.Everywhere P) : program.Everywhere Q := by
  induction program with
  | done => exact implies _ holds
  | call _ _ ih => exact ⟨implies _ holds.1, fun reply => ih reply (holds.2 reply)⟩
  | ask _ _ ih => exact ⟨implies _ holds.1, fun answer => ih answer (holds.2 answer)⟩

section Waiting

variable {start : σ} {turns front : List (Turn ι ρ κ α τ)} {index : Nat}
variable {request : ι} {result : τ}
variable {oracle : (question : κ) → α question} {next : ρ request → Program ι ρ κ α τ}

variable {back : List (Turn ι ρ κ α τ)}

/-- What holds everywhere in the started programs, holds of a thread that performs a call. -/
theorem performs_everywhere {P : Program ι ρ κ α τ → Prop}
    (starts : ∀ program ∈ started turns, program.Everywhere P)
    (split : turns = front ++ .resume index oracle :: back) {thread : Program ι ρ κ α τ}
    (waits : (run perform ⟨start, []⟩ front).threads[index]? = some thread) :
    thread.Everywhere P := by
  refine thread_everywhere perform P index ⟨start, []⟩ front ?_ _ waits
  intro program listed
  apply starts program
  rw [split, started_append]
  exact mem_append_left _ (mem_of_getElem? listed)

theorem performed_next
    (waits : (run perform ⟨start, []⟩ front).threads[index]? = some (.call request next)) :
    (run perform ⟨start, []⟩ (front ++ [.resume index oracle])).threads[index]? =
      some (next (perform request (run perform ⟨start, []⟩ front).state).1) := by
  rw [run_append, run, step_call perform waits]
  exact getElem?_set_self (List.getElem?_eq_some_iff.mp waits).1

/-- A thread that waits for a call and has finished in the end has performed the call. -/
theorem performs_of_done
    (waits : (run perform ⟨start, []⟩ front).threads[index]? = some (.call request next))
    (ended : (run perform ⟨start, []⟩ (front ++ back)).threads[index]? = some (.done result)) :
    ∃ moment, Performs perform ⟨start, []⟩ (front ++ back) index moment request := by
  rw [run_append] at ended
  rcases thread_path waits ended with ⟨_, ⟨moment, _, _, performs, _⟩, _⟩
  rcases performs with ⟨oracle, rest, next, split, stands⟩
  refine ⟨front ++ moment, oracle, rest, next, ?_, ?_⟩
  · rw [split, append_assoc]
  · rw [run_append]
    exact stands

end Waiting

section Closing

variable (perform) (Quiet : ι → σ → Prop) (Marked : Program ι ρ κ α τ → Prop)

def Program.Closing : Program ι ρ κ α τ → Prop
  | .call request next => ∀ state, Quiet request state ∨ Marked (next (perform request state).1)
  | _ => True

variable {perform} {Quiet} {Marked}
variable {start : σ} {turns front : List (Turn ι ρ κ α τ)} {index : Nat}
variable {request : ι} {result : τ}

theorem quiet_or_marked
    (starts : ∀ program ∈ started turns, program.Everywhere (Program.Closing perform Quiet Marked))
    (performs : Performs perform ⟨start, []⟩ turns index front request) :
    Quiet request (run perform ⟨start, []⟩ front).state ∨
      ∃ oracle back marked, turns = front ++ [.resume index oracle] ++ back ∧
        (run perform ⟨start, []⟩ (front ++ [.resume index oracle])).threads[index]? = some marked ∧
        Marked marked := by
  rcases performs with ⟨oracle, back, next, split, waits⟩
  have choice : Program.Closing perform Quiet Marked (.call request next) :=
    (performs_everywhere starts split waits).1
  rcases choice (run perform ⟨start, []⟩ front).state with quiet | marked
  · exact .inl quiet
  · refine .inr ⟨oracle, back, _, ?_, performed_next waits, marked⟩
    rw [split, append_cons]

/-- The threads whose result is not such have called quietly only. -/
theorem quiet_of_result {Q : τ → Prop} (starts : ∀ program ∈ started turns, program.Everywhere
      (Program.Closing perform Quiet fun program => ∃ last, program = .done last ∧ Q last))
    (performs : Performs perform ⟨start, []⟩ turns index front request)
    (ended : (run perform ⟨start, []⟩ turns).threads[index]? = some (.done result))
    (other : ¬ Q result) : Quiet request (run perform ⟨start, []⟩ front).state := by
  rcases quiet_or_marked starts performs with
    quiet | ⟨_, back, _, rfl, stands, _, rfl, wanted⟩
  · exact quiet
  · rw [run_append, run_done stands back] at ended
    cases ended
    exact absurd wanted other

end Closing

section Final

variable (final : ι → Prop)

def Program.Finishes : Program ι ρ κ α τ → Prop
  | .call request next => final request → ∀ response, ∃ result, next response = .done result
  | _ => True

variable {final} {start : σ} {turns front late : List (Turn ι ρ κ α τ)} {index : Nat}
variable {request wanted : ι}

theorem Performs.done_behind
    (starts : ∀ program ∈ started turns, program.Everywhere (Program.Finishes final))
    (performs : Performs perform ⟨start, []⟩ turns index front request) (last : final request) :
    ∃ oracle back result, turns = front ++ .resume index oracle :: back ∧
      (run perform ⟨start, []⟩ (front ++ [.resume index oracle])).threads[index]? =
        some (.done result) := by
  rcases performs with ⟨oracle, back, next, split, waits⟩
  have finishes : Program.Finishes final (.call request next) :=
    (performs_everywhere starts split waits).1
  rcases finishes last (perform request (run perform ⟨start, []⟩ front).state).1 with ⟨result, done⟩
  refine ⟨oracle, back, result, split, ?_⟩
  rw [performed_next waits, done]

theorem Performs.last
    (starts : ∀ program ∈ started turns, program.Everywhere (Program.Finishes final))
    (performs : Performs perform ⟨start, []⟩ turns index front request) (last : final request)
    (other : Performs perform ⟨start, []⟩ turns index late wanted) :
    late.length ≤ front.length := by
  rcases performs.done_behind starts last with ⟨oracle, back, _, split, done⟩
  by_contra longer
  have before : front ++ [.resume index oracle] <+: late := by
    refine prefix_of_prefix_length_le ⟨back, ?_⟩ other.inside ?_
    · rw [split, ← append_cons]
    · rw [length_append, length_singleton]
      omega
  rcases before with ⟨gap, rfl⟩
  rcases other with ⟨_, _, _, _, waits⟩
  rw [run_append, run_done done gap] at waits
  cases waits

end Final

section Operations

variable {ω : Type} {program : ω → Program ι ρ κ α τ} {start : σ} {moves : List (Move ω κ α)}
variable {final : ι → Prop} {index : Nat} {front : List (Turn ι ρ κ α τ)} {request : ι}

theorem performed_path (each : ∀ operation, (program operation).Everywhere (Program.Finishes final))
    (performs : PerformsAt program perform start moves index front request) (last : final request) :
    ∃ operation moments result, (operations moves)[index]? = some operation ∧
      (program operation).Path perform (PerformsAt program perform start moves index)
        (stateBehind perform start) moments result ∧ moments.Pairwise (Moved index) ∧
      front ∈ moments := by
  have starts : ∀ begun ∈ started (turns program moves),
      begun.Everywhere (Program.Finishes final) := by
    intro begun member
    rw [started_turns] at member
    rcases mem_map.mp member with ⟨operation, _, rfl⟩
    exact each operation
  have waits := performs
  rcases Performs.done_behind starts performs last with ⟨oracle, _, result, split, done⟩
  -- The run is cut right behind the call.
  rcases map_eq_append_iff.mp split with ⟨early, _, rfl, rfl, cut⟩
  rcases map_eq_cons_iff.mp cut with ⟨move, late, rfl, turn, rfl⟩
  have upto : turns program early ++ [.resume index oracle] = turns program (early ++ [move]) := by
    rw [turns_append, turns, turns, map_singleton, turn]
  rw [show map (Move.turn program) early = turns program early from rfl, upto] at done
  have whole : early ++ move :: late = (early ++ [move]) ++ late := append_cons _ _ _
  have room := (List.getElem?_eq_some_iff.mp done).1
  rw [run_threads_length, started_turns, length_map] at room
  obtain ⟨operation, listed⟩ :
      ∃ operation, (operations (early ++ [move]))[index]? = some operation :=
    ⟨_, getElem?_eq_getElem room⟩
  rcases operation_path listed done with ⟨_, _, moments, _, path, ordered, _, all⟩
  have inside : ∀ moment call,
      PerformsAt program perform start (early ++ [move]) index moment call →
        PerformsAt program perform start (early ++ move :: late) index moment call := by
    rintro _ _ ⟨answer, behind, next, parts, stands⟩
    refine ⟨answer, behind ++ turns program late, next, ?_, stands⟩
    rw [whole, turns_append, parts, append_assoc]
    rfl
  refine ⟨operation, moments, result, ?_, ?_, ordered, all _ request ?_⟩
  · rw [whole, operations_append, getElem?_append_left room]
    exact listed
  · have shifted := path.shift id inside fun _ => rfl
    rw [map_id] at shifted
    exact shifted
  · rcases waits with ⟨_, _, next, _, stands⟩
    exact ⟨oracle, [], next, upto.symm, stands⟩

end Operations

section Alike

/-- Runs from states that answer alike have the same threads. -/
theorem run_alike {R : σ → σ → Prop} (each : ∀ request early late, R early late →
      (perform request early).1 = (perform request late).1 ∧
        R (perform request early).2 (perform request late).2)
    {state other : σ} (alike : R state other) (threads : List (Program ι ρ κ α τ))
    (turns : List (Turn ι ρ κ α τ)) :
    (run perform ⟨other, threads⟩ turns).threads = (run perform ⟨state, threads⟩ turns).threads ∧
      R (run perform ⟨state, threads⟩ turns).state (run perform ⟨other, threads⟩ turns).state := by
  induction turns generalizing state other threads with
  | nil => exact ⟨rfl, alike⟩
  | cons turn _ ih =>
    cases turn with
    | start => exact ih alike _
    | resume index =>
      simp only [run, step]
      cases threads[index]? with
      | none => exact ih alike threads
      | some thread =>
        cases thread with
        | done => exact ih alike threads
        | call request =>
          rcases each request state other alike with ⟨answers, after⟩
          dsimp only
          rw [← answers]
          exact ih after _
        | ask => exact ih alike _

end Alike

end BackendHandbook.Interleaving
