import BackendHandbook.Foundation.Protocols
import BackendHandbook.Foundation.Threads

/-! The history of each thread: its own calls with what they answered, the last one first. -/

namespace BackendHandbook.Interleaving

open List

variable {ι : Type} {ρ : ι → Type} {κ : Type} {α : κ → Type} {τ σ : Type}

abbrev History (ι : Type) (ρ : ι → Type) := List ((request : ι) × ρ request)

variable (perform : (call : ι) → σ → ρ call × σ)

def record (pool : Pool σ ι ρ κ α τ) (past : List (History ι ρ)) :
    Turn ι ρ κ α τ → List (History ι ρ)
  | .start _ => past ++ [[]]
  | .resume index _ =>
    match pool.threads[index]? with
    | some (.call request _) =>
      past.modify index fun known => ⟨request, (perform request pool.state).1⟩ :: known
    | _ => past

def histories (pool : Pool σ ι ρ κ α τ) (past : List (History ι ρ)) :
    List (Turn ι ρ κ α τ) → List (History ι ρ)
  | [] => past
  | turn :: turns => histories (step perform pool turn) (record perform pool past turn) turns

theorem histories_append (pool : Pool σ ι ρ κ α τ) (past : List (History ι ρ))
    (front back : List (Turn ι ρ κ α τ)) : histories perform pool past (front ++ back) =
      histories perform (run perform pool front) (histories perform pool past front) back := by
  induction front generalizing pool past with
  | nil => rfl
  | cons turn _ ih => exact ih (step perform pool turn) (record perform pool past turn)

/-- What is known of a program and its history, whatever the others do. -/
structure Tracks (R : History ι ρ → Program ι ρ κ α τ → Prop) : Prop where
  called : ∀ known request next, R known (.call request next) →
    ∀ response, R (⟨request, response⟩ :: known) (next response)
  asked : ∀ known question next, R known (.ask question next) → ∀ answer, R known (next answer)

theorem recalls_tracks (Allows : History ι ρ → ι → Prop) :
    Tracks (τ := τ) (κ := κ) (α := α) fun known program => program.Recalls Allows known where
  called := fun _ _ _ recalls response => recalls.2 response
  asked := fun _ _ _ recalls answer => recalls answer

def Program.Ends (Q : History ι ρ → τ → Prop) (known : History ι ρ) : Program ι ρ κ α τ → Prop
  | .done result => Q known result
  | .call request next => ∀ response, (next response).Ends Q (⟨request, response⟩ :: known)
  | .ask _ next => ∀ answer, (next answer).Ends Q known

theorem ends_tracks (Q : History ι ρ → τ → Prop) :
    Tracks (κ := κ) (α := α) fun known program => Program.Ends Q known program where
  called := fun _ _ _ ends response => ends response
  asked := fun _ _ _ ends answer => ends answer

theorem await_ends {ε : Type} {answer : ι → Type}
    {Q : History ι (fun call => Except ε (answer call)) → τ → Prop}
    {known : History ι fun call => Except ε (answer call)} {raised : ε → τ} {request : ι}
    {next : answer request → Program ι (fun call => Except ε (answer call)) κ α τ}
    (failed : ∀ error, Q (⟨request, .error error⟩ :: known) (raised error))
    (later : ∀ found, (next found).Ends Q (⟨request, .ok found⟩ :: known)) :
    (await raised request next).Ends Q known := by
  intro response
  cases response with
  | error => exact failed _
  | ok => exact later _

section Aligned

def Aligned (R : Nat → History ι ρ → Program ι ρ κ α τ → Prop) (pool : Pool σ ι ρ κ α τ)
    (past : List (History ι ρ)) : Prop :=
  past.length = pool.threads.length ∧ ∀ index thread known,
    pool.threads[index]? = some thread → past[index]? = some known → R index known thread

variable {R : Nat → History ι ρ → Program ι ρ κ α τ → Prop}

theorem Aligned.history {pool : Pool σ ι ρ κ α τ} {past : List (History ι ρ)}
    (aligned : Aligned R pool past) {index : Nat} {thread : Program ι ρ κ α τ}
    (found : pool.threads[index]? = some thread) : ∃ known, past[index]? = some known := by
  have inside := (List.getElem?_eq_some_iff.mp found).1
  rw [← aligned.1] at inside
  exact ⟨past[index], getElem?_eq_getElem inside⟩

theorem step_aligned (tracks : ∀ index, Tracks (R index)) {pool : Pool σ ι ρ κ α τ}
    {past : List (History ι ρ)} (aligned : Aligned R pool past) (turn : Turn ι ρ κ α τ)
    (starts : ∀ program, turn = .start program → R pool.threads.length [] program) :
    Aligned R (step perform pool turn) (record perform pool past turn) := by
  rcases aligned with ⟨sizes, threads⟩
  cases turn with
  | start =>
    refine ⟨by simp [step, record, sizes], ?_⟩
    intro index thread known member listed
    simp only [step, record] at member listed
    by_cases old : index < pool.threads.length
    · rw [getElem?_append_left old] at member
      rw [getElem?_append_left (sizes ▸ old)] at listed
      exact threads index thread known member listed
    · rw [getElem?_append_right (not_lt.mp old)] at member
      rw [getElem?_append_right (sizes ▸ not_lt.mp old), sizes] at listed
      have first : index = pool.threads.length := by
        have inside := (List.getElem?_eq_some_iff.mp member).1
        rw [length_singleton] at inside
        omega
      rw [first, Nat.sub_self] at member listed
      cases member
      cases listed
      rw [first]
      exact starts _ rfl
  | resume moved =>
    simp only [step, record]
    cases found : pool.threads[moved]? with
    | none => exact ⟨sizes, threads⟩
    | some program =>
    have inside := (List.getElem?_eq_some_iff.mp found).1
    cases program with
    | done => exact ⟨sizes, threads⟩
    | call request next =>
      refine ⟨by simp [sizes], ?_⟩
      intro index thread known member listed
      by_cases same : moved = index
      · subst same
        rw [getElem?_set_self inside] at member
        rw [getElem?_modify_eq] at listed
        cases member
        rcases Option.map_eq_some_iff.mp listed with ⟨before, was, rfl⟩
        exact (tracks moved).called before request next (threads moved _ before found was) _
      · rw [getElem?_set_ne same] at member
        rw [getElem?_modify_ne _ _ same] at listed
        exact threads index thread known member listed
    | ask question next =>
      refine ⟨by simp [sizes], ?_⟩
      intro index thread known member listed
      by_cases same : moved = index
      · subst same
        rw [getElem?_set_self inside] at member
        cases member
        exact (tracks moved).asked known question next (threads moved _ known found listed) _
      · rw [getElem?_set_ne same] at member
        exact threads index thread known member listed

/-- The history rule: each thread stays what its own calls and answers make of its program. -/
theorem run_aligned (tracks : ∀ index, Tracks (R index)) (state : σ) (turns : List (Turn ι ρ κ α τ))
    (starts : ∀ index program, (started turns)[index]? = some program → R index [] program) :
    Aligned R (run perform ⟨state, []⟩ turns) (histories perform ⟨state, []⟩ [] turns) := by
  induction turns using reverseRecOn with
  | nil => exact ⟨rfl, fun index thread known member => by cases member⟩
  | append_singleton _ turn ih =>
    rw [started_append] at starts
    rw [run_append, histories_append]
    refine step_aligned perform tracks (ih fun index program found => starts index program ?_)
      turn ?_
    · rw [getElem?_append_left (List.getElem?_eq_some_iff.mp found).1]
      exact found
    · intro program same
      apply starts
      rw [run_threads_length, getElem?_append_right (le_refl _), Nat.sub_self, same]
      rfl

end Aligned

section Ghosts

variable {Allows : History ι ρ → ι → Prop} {Inv : σ → List (History ι ρ) → Prop}

section

variable (enters : ∀ state past, Inv state past → Inv state (past ++ [[]]))
  (moves : ∀ state past index known request, Inv state past → past[index]? = some known →
    Allows known request → Inv (perform request state).2
      (past.modify index fun known => ⟨request, (perform request state).1⟩ :: known))
  (state : σ) (turns : List (Turn ι ρ κ α τ)) (holds : Inv state [])
  (starts : ∀ program ∈ started turns, program.Recalls Allows [])
include enters moves state turns holds starts

/-- The rule of auxiliary histories: an invariant of the state and all the histories, kept by
every call that the history of its thread allows. -/
theorem run_histories :
    Inv (run perform ⟨state, []⟩ turns).state (histories perform ⟨state, []⟩ [] turns) := by
  induction turns using reverseRecOn with
  | nil => exact holds
  | append_singleton turns turn ih =>
    rw [started_append] at starts
    have early := fun program inside => starts program (mem_append_left _ inside)
    have before := ih early
    have aligned := run_aligned perform (fun _ => recalls_tracks Allows) state turns
      fun index program found => early program (mem_of_getElem? found)
    rw [run_append, histories_append]
    cases turn with
    | start => exact enters _ _ before
    | resume index =>
      simp only [run, histories, step, record]
      cases found : (run perform ⟨state, []⟩ turns).threads[index]? with
      | none => exact before
      | some thread =>
      cases thread with
      | done | ask => exact before
      | call request next =>
        rcases aligned.history found with ⟨known, listed⟩
        have recalls : (Program.call request next).Recalls Allows known :=
          aligned.2 index _ known found listed
        exact moves _ _ index known request before listed recalls.1

/-- Every call of the run is allowed by the history of its thread, and finds the invariant. -/
theorem event_histories : ∀ e ∈ Run.trace perform state (calls perform ⟨state, []⟩ turns),
      ∃ (past : List (History ι ρ)) (index : Nat) (known : History ι ρ),
        Inv e.before past ∧ past[index]? = some known ∧ Allows known e.call := by
  induction turns using reverseRecOn with
  | nil => intro e member; cases member
  | append_singleton turns turn ih =>
    rw [started_append] at starts
    have early := fun program inside => starts program (mem_append_left _ inside)
    intro e member
    rw [calls_append, Run.trace_append] at member
    rcases mem_append.mp member with before | now
    · exact ih early e before
    · rw [← run_state perform ⟨state, []⟩ turns, calls, calls, append_nil] at now
      rcases mem_issued_trace perform now with ⟨reached, inside⟩
      cases turn with
      | start => cases inside
      | resume index =>
        simp only [issued] at inside
        cases found : (run perform ⟨state, []⟩ turns).threads[index]? with
        | none => rw [found] at inside; cases inside
        | some thread =>
        rw [found] at inside
        cases thread with
        | done | ask => cases inside
        | call request next =>
          have aligned := run_aligned perform (fun _ => recalls_tracks Allows) state turns
            fun index program found => early program (mem_of_getElem? found)
          rcases aligned.history found with ⟨known, listed⟩
          have recalls : (Program.call request next).Recalls Allows known :=
            aligned.2 index _ known found listed
          rw [reached, mem_singleton.mp inside]
          exact ⟨_, index, known, run_histories perform enters moves state turns holds early,
            listed, recalls.1⟩

end

end Ghosts

section Exclusion

variable {β γ : Type} {inside : β → Bool}

theorem map_modify (view : γ → β) (change : γ → γ) {items : List γ} {index : Nat} {item : γ}
    (found : items[index]? = some item) :
    (items.modify index change).map view = (items.map view).set index (view (change item)) := by
  apply ext_getElem?
  intro place
  by_cases same : index = place
  · subst same
    have here := (List.getElem?_eq_some_iff.mp found).1
    rw [getElem?_map, getElem?_modify_eq, found, getElem?_set_self (by rwa [length_map])]
    rfl
  · rw [getElem?_map, getElem?_modify_ne _ _ same, getElem?_set_ne same, getElem?_map]

variable {items : List β} {index : Nat} {item next : β}

theorem filter_set_of_inside (found : items[index]? = some item) (here : inside item = true)
    (only : items.filter inside = [item]) :
    (items.set index next).filter inside = if inside next then [next] else [] := by
  rcases List.getElem?_eq_some_iff.mp found with ⟨bound, same⟩
  have split : items = items.take index ++ item :: items.drop (index + 1) := by
    rw [← same, ← drop_eq_getElem_cons bound, take_append_drop]
  have moved : items.set index next = items.take index ++ next :: items.drop (index + 1) :=
    set_eq_take_append_cons_drop.trans (if_pos bound)
  have others : (items.take index).filter inside = [] ∧
      (items.drop (index + 1)).filter inside = [] := by
    rw [split, filter_append, filter_cons_of_pos here] at only
    have sizes := congrArg length only
    simp only [length_append, length_cons, length_nil] at sizes
    constructor
    · exact length_eq_zero_iff.mp (by omega)
    · exact length_eq_zero_iff.mp (by omega)
  rw [moved, filter_append, filter_cons, others.1, others.2]
  rfl

/-- One that is outside goes on: it comes inside, beside those that are, or stays outside. -/
theorem filter_set_of_outside (found : items[index]? = some item) (out : inside item = false)
    (enters : inside next = true → items.filter inside = []) :
    (items.set index next).filter inside = if inside next then [next] else items.filter inside := by
  rcases List.getElem?_eq_some_iff.mp found with ⟨bound, same⟩
  have split : items.filter inside = (items.take index).filter inside ++
      (items.drop (index + 1)).filter inside := by
    conv_lhs => rw [← take_append_drop index items, drop_eq_getElem_cons bound]
    rw [filter_append, same, filter_cons_of_neg (by rw [out]; decide)]
  have moved : items.set index next = items.take index ++ next :: items.drop (index + 1) :=
    set_eq_take_append_cons_drop.trans (if_pos bound)
  rw [moved, filter_append, filter_cons]
  cases entering : inside next with
  | false =>
    exact split.symm
  | true =>
    have none := enters entering
    rw [split] at none
    rcases append_eq_nil_iff.mp none with ⟨left, right⟩
    rw [left, right]
    rfl

section Owner

variable {view : γ → β} {past : List γ} {index : Nat} {known : γ} {owner : Option β}

theorem owner_of_inside (owners : (past.map view).filter inside = owner.toList)
    (listed : known ∈ past) (here : inside (view known) = true) : owner = some (view known) := by
  apply Option.mem_toList.mp
  rw [← owners]
  exact mem_filter.mpr ⟨mem_map_of_mem listed, here⟩

/-- The one inside, if there is one, when one of them goes on: itself, or another that enters
alone or stays outside. -/
theorem owner_modify (owners : (past.map view).filter inside = owner.toList)
    (listed : past[index]? = some known) (change : γ → γ)
    (alone : inside (view known) = false → inside (view (change known)) = true → owner = none) :
    ((past.modify index change).map view).filter inside =
      (if inside (view (change known)) then some (view (change known))
        else if inside (view known) then none else owner).toList := by
  have place : (past.map view)[index]? = some (view known) := by
    rw [getElem?_map, listed]
    rfl
  rw [map_modify view change listed]
  cases here : inside (view known) with
  | true =>
    rw [owner_of_inside owners (mem_of_getElem? listed) here] at owners
    rw [filter_set_of_inside place here owners]
    split
    · rfl
    · rfl
  | false =>
    rw [filter_set_of_outside place here fun enters => by rw [owners, alone here enters]; rfl]
    split
    · rfl
    · exact owners

end Owner

private theorem not_lt_of_filter {first second : Nat} {other : β}
    (found : items[first]? = some item) (here : inside item = true)
    (listed : items[second]? = some other) (there : inside other = true)
    (only : (items.filter inside).length ≤ 1) : ¬ first < second := by
  intro before
  have early : item ∈ (items.take second).filter inside := by
    refine mem_filter.mpr ⟨mem_of_getElem? (i := first) ?_, here⟩
    rw [getElem?_take_of_lt before, found]
  have late : other ∈ (items.drop second).filter inside := by
    refine mem_filter.mpr ⟨mem_of_getElem? (i := 0) ?_, there⟩
    rw [getElem?_drop, Nat.add_zero, listed]
  rw [← take_append_drop second items, filter_append, length_append] at only
  have left := length_pos_of_mem early
  have right := length_pos_of_mem late
  omega

/-- Where one at most is inside, it is so in one place. -/
theorem place_of_filter {first second : Nat} {other : β}
    (found : items[first]? = some item) (here : inside item = true)
    (listed : items[second]? = some other) (there : inside other = true)
    (only : (items.filter inside).length ≤ 1) : first = second :=
  le_antisymm (not_lt.mp (not_lt_of_filter listed there found here only))
    (not_lt.mp (not_lt_of_filter found here listed there only))

end Exclusion

variable {pool : Pool σ ι ρ κ α τ} {past : List (History ι ρ)}
variable {fact : (request : ι) × ρ request}

/-- A call in a history behind a turn was there before, or is the call of the turn. -/
theorem mem_record {turn : Turn ι ρ κ α τ} {index : Nat} {known : History ι ρ}
    (listed : (record perform pool past turn)[index]? = some known) (member : fact ∈ known) :
    (∃ before, past[index]? = some before ∧ fact ∈ before) ∨
      ∃ e ∈ Run.trace perform pool.state (issued pool turn),
        (⟨e.call, e.response⟩ : (request : ι) × ρ request) = fact := by
  cases turn with
  | start =>
    simp only [record] at listed
    by_cases old : index < past.length
    · rw [getElem?_append_left old] at listed
      exact .inl ⟨known, listed, member⟩
    · rw [getElem?_append_right (not_lt.mp old)] at listed
      rw [mem_singleton.mp (mem_of_getElem? listed)] at member
      cases member
  | resume moved =>
    simp only [record, issued] at listed ⊢
    cases found : pool.threads[moved]? with
    | none =>
      rw [found] at listed
      exact .inl ⟨known, listed, member⟩
    | some thread =>
    rw [found] at listed
    cases thread with
    | done | ask => exact .inl ⟨known, listed, member⟩
    | call request =>
      by_cases same : moved = index
      · subst same
        rw [getElem?_modify_eq] at listed
        rcases Option.map_eq_some_iff.mp listed with ⟨before, was, rfl⟩
        rcases mem_cons.mp member with rfl | old
        · exact .inr ⟨Run.event perform pool.state request, mem_cons_self, rfl⟩
        · exact .inl ⟨before, was, old⟩
      · rw [getElem?_modify_ne _ _ same] at listed
        exact .inl ⟨known, listed, member⟩

/-- A call in a history was there at the start, or is an event of the run. -/
theorem mem_histories {turns : List (Turn ι ρ κ α τ)} {index : Nat} {known : History ι ρ}
    (listed : (histories perform pool past turns)[index]? = some known) (member : fact ∈ known) :
    (∃ before, past[index]? = some before ∧ fact ∈ before) ∨
      ∃ e ∈ Run.trace perform pool.state (calls perform pool turns),
        (⟨e.call, e.response⟩ : (request : ι) × ρ request) = fact := by
  induction turns generalizing pool past with
  | nil => exact .inl ⟨known, listed, member⟩
  | cons _ _ ih =>
    rw [calls, Run.trace_append, ← step_state]
    rcases ih listed with ⟨_, was, inside⟩ | ⟨e, later, same⟩
    · rcases mem_record perform was inside with old | ⟨e, now, same⟩
      · exact .inl old
      · exact .inr ⟨e, mem_append_left _ now, same⟩
    · exact .inr ⟨e, mem_append_right _ later, same⟩

theorem mem_history {state : σ} {turns : List (Turn ι ρ κ α τ)} {index : Nat}
    {known : History ι ρ} (listed : (histories perform ⟨state, []⟩ [] turns)[index]? = some known)
    (member : fact ∈ known) : ∃ e ∈ Run.trace perform state (calls perform ⟨state, []⟩ turns),
      (⟨e.call, e.response⟩ : (request : ι) × ρ request) = fact := by
  rcases mem_histories perform listed member with ⟨_, was, _⟩ | recorded
  · cases was
  · exact recorded

/-- The calls of a thread that has not started yet are all still to come. -/
theorem mem_history_later {state : σ} {front back : List (Turn ι ρ κ α τ)} {index : Nat}
    {known : History ι ρ}
    (listed : (histories perform ⟨state, []⟩ [] (front ++ back))[index]? = some known)
    (late : (started front).length ≤ index) (member : fact ∈ known) :
    ∃ e ∈ Run.trace perform (run perform ⟨state, []⟩ front).state
        (calls perform (run perform ⟨state, []⟩ front) back),
      (⟨e.call, e.response⟩ : (request : ι) × ρ request) = fact := by
  rw [histories_append] at listed
  rcases mem_histories perform listed member with ⟨_, was, _⟩ | recorded
  · have sizes := (@run_aligned ι ρ κ α τ σ perform (fun _ _ _ => True)
      (fun _ => ⟨fun _ _ _ _ _ => trivial, fun _ _ _ _ _ => trivial⟩) state front
      fun _ _ _ => trivial).1
    rw [run_threads_length] at sizes
    rw [getElem?_eq_none (sizes ▸ late)] at was
    cases was
  · exact recorded

end BackendHandbook.Interleaving
