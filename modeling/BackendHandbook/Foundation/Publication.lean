import BackendHandbook.Foundation.Run
import Mathlib.Data.Finset.Basic

/-! Stores of one record that a guarded publication replaces: the history of the record is linear,
and has one owner where no publication changes it. -/

namespace BackendHandbook.Run

/-- A store whose calls publish just when their guards admit them. -/
structure Publishing (σ ι ρ R K : Type) where
  perform : ι → σ → ρ × σ
  published : ρ → Bool
  current : σ → R
  applied : σ → Finset String
  name : ι → String
  proposal : ι → R
  version : R → Int
  owner : R → K
  Admits : σ → ι → Prop
  admitted : ∀ state call, Admits state call →
    published (perform call state).1 = true ∧ current (perform call state).2 = proposal call ∧
      applied (perform call state).2 = insert (name call) (applied state) ∧
      name call ∉ applied state ∧ version (proposal call) = version (current state) + 1
  refused : ∀ state call, ¬ Admits state call →
    published (perform call state).1 = false ∧ (perform call state).2 = state

namespace Publishing

variable {σ ι ρ R K : Type} (store : Publishing σ ι ρ R K)

structure Linear (state : σ) (calls : List ι) : Prop where
  advances : ∀ e ∈ trace store.perform state calls, store.published e.response = true →
    store.version (store.current e.after) = store.version (store.current e.before) + 1 ∧
      store.current e.after = store.proposal e.call
  once : ∀ name, (trace store.perform state calls).countP
    (fun e => store.published e.response && store.name e.call == name) ≤ 1
  unchanged : ∀ e ∈ trace store.perform state calls, store.published e.response = false →
    e.after = e.before
  owned : ∀ e ∈ trace store.perform state calls,
    store.owner (store.current e.after) = store.owner (store.current e.before)

variable {store} {state : σ} {calls : List ι} {e : Event σ ι fun _ => ρ}

theorem event_published_iff (member : e ∈ trace store.perform state calls) :
    store.published e.response = true ↔ store.Admits e.before e.call := by
  rw [(mem_trace_performed member).1]
  constructor
  · intro published
    by_contra refused
    rw [(store.refused _ _ refused).1] at published
    cases published
  · intro admits
    exact (store.admitted _ _ admits).1

theorem event_unchanged (member : e ∈ trace store.perform state calls)
    (refused : ¬ store.Admits e.before e.call) : e.after = e.before := by
  rw [(mem_trace_performed member).2]
  exact (store.refused _ _ refused).2

/-- The history is linear exactly where each publication is for the owner of the record. -/
theorem linear_iff (store : Publishing σ ι ρ R K) (state : σ) (calls : List ι) :
    store.Linear state calls ↔ ∀ e ∈ trace store.perform state calls, store.Admits e.before e.call →
        store.owner (store.proposal e.call) = store.owner (store.current e.before) := by
  have installed : ∀ e ∈ trace store.perform state calls, store.Admits e.before e.call →
      store.current e.after = store.proposal e.call ∧
        store.applied e.after = insert (store.name e.call) (store.applied e.before) ∧
        store.name e.call ∉ store.applied e.before ∧
        store.version (store.proposal e.call) = store.version (store.current e.before) + 1 := by
    intro e member admits
    rw [(mem_trace_performed member).2]
    exact (store.admitted _ _ admits).2
  constructor
  · intro linear e member admits
    rw [← (installed e member admits).1]
    exact linear.owned e member
  · intro owned
    constructor
    · intro e member published
      have step := installed e member ((event_published_iff member).mp published)
      rw [step.1]
      exact ⟨step.2.2.2, rfl⟩
    · intro name
      refine counted_once store.perform (fun state => decide (name ∈ store.applied state)) false _ _
        _ ?_ ?_
      · intro e member
        by_cases admits : store.Admits e.before e.call
        · rw [(installed e member admits).2.1]
          exact Bool.le_iff_imp.mpr fun held =>
            decide_eq_true (Finset.mem_insert_of_mem (of_decide_eq_true held))
        · rw [event_unchanged member admits]
      · intro e member counts
        simp only [Bool.and_eq_true, beq_iff_eq] at counts
        obtain ⟨_, applied, fresh, _⟩ :=
          installed e member ((event_published_iff member).mp counts.1)
        rw [counts.2] at applied fresh
        rw [decide_eq_false fresh, applied, decide_eq_true (Finset.mem_insert_self _ _)]
        exact ⟨rfl, by decide⟩
    · intro e member refused
      refine event_unchanged member fun admits => ?_
      rw [(event_published_iff member).mpr admits] at refused
      cases refused
    · intro e member
      by_cases admits : store.Admits e.before e.call
      · rw [(installed e member admits).1]
        exact owned e member admits
      · rw [event_unchanged member admits]

end Publishing

end BackendHandbook.Run
