import Mathlib.Data.List.Basic
import Mathlib.Data.List.Pairwise
import Mathlib.Order.Lattice

/-! Runs of a machine that answers atomic calls, one after the other.

A call moves the state and returns a response whose type depends on the call.
The rules below turn facts about one call into facts about every run. -/

namespace BackendHandbook.Run

open List

variable {σ ι : Type} {ρ : ι → Type}

structure Event (σ ι : Type) (ρ : ι → Type) where
  before : σ
  call : ι
  response : ρ call
  after : σ

variable (perform : (call : ι) → σ → ρ call × σ)

def event (state : σ) (call : ι) : Event σ ι ρ :=
  ⟨state, call, (perform call state).1, (perform call state).2⟩

def final (state : σ) : List ι → σ
  | [] => state
  | call :: calls => final (perform call state).2 calls

def trace (state : σ) : List ι → List (Event σ ι ρ)
  | [] => []
  | call :: calls => event perform state call :: trace (perform call state).2 calls

variable (state : σ)

theorem final_append (front back : List ι) :
    final perform state (front ++ back) = final perform (final perform state front) back := by
  induction front generalizing state with
  | nil => rfl
  | cons call _ ih => exact ih (perform call state).2

theorem trace_append (front back : List ι) : trace perform state (front ++ back) =
      trace perform state front ++ trace perform (final perform state front) back := by
  induction front generalizing state with
  | nil => rfl
  | cons _ _ ih => simp [trace, final, ih]

theorem mem_trace_split (calls : List ι) (e : Event σ ι ρ)
    (member : e ∈ trace perform state calls) : ∃ front back, calls = front ++ e.call :: back ∧
      e = event perform (final perform state front) e.call := by
  induction calls generalizing state with
  | nil => cases member
  | cons call calls ih =>
    rcases mem_cons.mp member with rfl | later
    · exact ⟨[], calls, rfl, rfl⟩
    · rcases ih _ later with ⟨front, back, split, same⟩
      exact ⟨call :: front, back, by rw [split]; rfl, same⟩

theorem mem_trace_event (calls : List ι) (e : Event σ ι ρ)
    (member : e ∈ trace perform state calls) : e = event perform e.before e.call := by
  rcases mem_trace_split perform state calls e member with ⟨front, _, _, same⟩
  have before : e.before = final perform state front := congrArg Event.before same
  rw [before]
  exact same

variable {perform state} in
/-- A recorded event is the step of the machine at its own state. -/
theorem mem_trace_performed {calls : List ι} {e : Event σ ι ρ}
    (member : e ∈ trace perform state calls) :
    e.response = (perform e.call e.before).1 ∧ e.after = (perform e.call e.before).2 := by
  induction calls generalizing state with
  | nil => cases member
  | cons _ _ ih =>
    rcases mem_cons.mp member with rfl | later
    · exact ⟨rfl, rfl⟩
    · exact ih later

theorem event_mem_trace (front back : List ι) (call : ι) :
    event perform (final perform state front) call ∈
      trace perform state (front ++ call :: back) := by
  rw [trace_append]
  exact mem_append_right _ mem_cons_self

variable (Inv : σ → Prop) (Legal : ι → Prop)

/-- The invariant rule, for calls that are all admissible. -/
theorem invariant_final (kept : ∀ state call, Legal call → Inv state → Inv (perform call state).2)
    (state : σ) (calls : List ι) (legal : ∀ call ∈ calls, Legal call) (holds : Inv state) :
    Inv (final perform state calls) := by
  induction calls generalizing state with
  | nil => exact holds
  | cons call _ ih =>
    exact ih _ (fun next member => legal next (mem_cons_of_mem _ member))
      (kept state call (legal call mem_cons_self) holds)

theorem invariant_trace (kept : ∀ state call, Legal call → Inv state → Inv (perform call state).2)
    (state : σ) (calls : List ι) (legal : ∀ call ∈ calls, Legal call) (holds : Inv state)
    (e : Event σ ι ρ) (member : e ∈ trace perform state calls) : Legal e.call ∧ Inv e.before := by
  rcases mem_trace_split perform state calls e member with ⟨front, _, split, same⟩
  have before : e.before = final perform state front := congrArg Event.before same
  have reached := invariant_final perform Inv Legal kept state front
    (fun next inside => legal next (by rw [split]; exact mem_append_left _ inside)) holds
  exact ⟨legal _ (by rw [split]; simp), before ▸ reached⟩

theorem mem_of_mem_trace (state : σ) (calls : List ι) (e : Event σ ι ρ)
    (member : e ∈ trace perform state calls) : e.call ∈ calls := by
  rcases mem_trace_split perform state calls e member with ⟨_, _, split, _⟩
  rw [split]
  exact mem_append_right _ mem_cons_self

variable (P : σ → Prop) (state : σ) (calls : List ι)

theorem kept_final
    (step : ∀ e ∈ trace perform state calls, P e.before → P e.after) (holds : P state) :
    P (final perform state calls) := by
  induction calls generalizing state with
  | nil => exact holds
  | cons _ _ ih =>
    exact ih _ (fun e member => step e (mem_cons_of_mem _ member))
      (step _ mem_cons_self holds)

theorem kept_trace
    (kept : ∀ e ∈ trace perform state calls, P e.before → P e.after) (holds : P state) :
    ∀ e ∈ trace perform state calls, P e.before ∧ P e.after := by
  induction calls generalizing state with
  | nil => intro e member; cases member
  | cons call _ ih =>
    have first : P (perform call state).2 := kept _ mem_cons_self holds
    intro e member
    rcases mem_cons.mp member with rfl | later
    · exact ⟨holds, first⟩
    · exact ih _ (fun other inside => kept other (mem_cons_of_mem _ inside)) first e later

theorem measure_final (measure : σ → Nat) (counted : Event σ ι ρ → Bool) (state : σ)
    (calls : List ι) (step : ∀ e ∈ trace perform state calls,
      measure e.after = measure e.before + if counted e then 1 else 0) :
    measure (final perform state calls) =
      measure state + (trace perform state calls).countP counted := by
  induction calls generalizing state with
  | nil => rfl
  | cons call _ ih =>
    have now : measure (perform call state).2 =
        measure state + if counted (event perform state call) then 1 else 0 :=
      step _ mem_cons_self
    rw [final, trace, ih _ (fun e member => step e (mem_cons_of_mem _ member)), countP_cons]
    omega

variable {α : Type}

theorem counted_none [LinearOrder α] (measure : σ → α) (level : α)
    (counted : Event σ ι ρ → Bool) (state : σ) (calls : List ι) (past : level < measure state)
    (grows : ∀ e ∈ trace perform state calls, measure e.before ≤ measure e.after)
    (starts : ∀ e ∈ trace perform state calls, counted e → measure e.before = level) :
    (trace perform state calls).countP counted = 0 := by
  induction calls generalizing state with
  | nil => rfl
  | cons call _ ih =>
    have quiet : ¬ counted (event perform state call) = true := fun counts =>
      absurd (starts _ mem_cons_self counts) (ne_of_gt past)
    rw [trace, countP_cons_of_neg quiet]
    exact ih _ (lt_of_lt_of_le past (grows _ mem_cons_self))
      (fun e member => grows e (mem_cons_of_mem _ member))
      (fun e member => starts e (mem_cons_of_mem _ member))

/-- Steps that all start at one level of a measure, and each leave it upwards, number at
most one when no step goes down. -/
theorem counted_once [LinearOrder α] (measure : σ → α) (level : α)
    (counted : Event σ ι ρ → Bool) (state : σ) (calls : List ι)
    (grows : ∀ e ∈ trace perform state calls, measure e.before ≤ measure e.after)
    (leaves : ∀ e ∈ trace perform state calls, counted e →
      measure e.before = level ∧ level < measure e.after) :
    (trace perform state calls).countP counted ≤ 1 := by
  induction calls generalizing state with
  | nil => exact Nat.zero_le 1
  | cons call calls ih =>
    have later := fun e (member : e ∈ trace perform (perform call state).2 calls) =>
      grows e (mem_cons_of_mem (event perform state call) member)
    have leave := fun e (member : e ∈ trace perform (perform call state).2 calls) =>
      leaves e (mem_cons_of_mem (event perform state call) member)
    by_cases counts : counted (event perform state call) = true
    · have past : level < measure (perform call state).2 := (leaves _ mem_cons_self counts).2
      have none := counted_none perform measure level counted _ calls past later
        (fun e member here => (leave e member here).1)
      rw [trace, countP_cons_of_pos counts]
      omega
    · rw [trace, countP_cons_of_neg counts]
      exact ih _ later leave

theorem first_exit (P : σ → Prop) (state : σ) (calls : List ι) (holds : P state)
    (lost : ¬ P (final perform state calls)) :
    ∃ front call back, calls = front ++ call :: back ∧ P (final perform state front) ∧
      ¬ P (perform call (final perform state front)).2 := by
  induction calls generalizing state with
  | nil => exact absurd holds lost
  | cons call calls ih =>
    by_cases kept : P (perform call state).2
    · rcases ih _ kept lost with ⟨front, left, back, split, before, after⟩
      exact ⟨call :: front, left, back, by rw [split]; rfl, before, after⟩
    · exact ⟨[], call, calls, rfl, holds, kept⟩

/-- What only some steps may change is as the last of these left it. -/
theorem last_change (get : σ → α) (changes : Event σ ι ρ → Prop) (state : σ)
    (calls : List ι) (frame : ∀ e ∈ trace perform state calls, ¬ changes e →
      get e.after = get e.before) : (get (final perform state calls) = get state ∧
      ∀ e ∈ trace perform state calls, ¬ changes e) ∨
    ∃ front e back, trace perform state calls = front ++ e :: back ∧ changes e ∧
      (∀ later ∈ back, ¬ changes later) ∧ get (final perform state calls) = get e.after := by
  induction calls generalizing state with
  | nil => exact .inl ⟨rfl, fun e member => by cases member⟩
  | cons call _ ih =>
    rcases ih (perform call state).2 (fun e member => frame e (mem_cons_of_mem _ member))
      with ⟨kept, quiet⟩ | ⟨front, e, back, split, change, quiet, kept⟩
    · by_cases first : changes (event perform state call)
      · exact .inr ⟨[], event perform state call, _, rfl, first, quiet, kept⟩
      · refine .inl ⟨kept.trans (frame _ mem_cons_self first), ?_⟩
        intro e member
        rcases mem_cons.mp member with here | later
        · exact here ▸ first
        · exact quiet e later
    · exact .inr ⟨event perform state call :: front, e, back, by rw [trace, split]; rfl, change,
        quiet, kept⟩

variable (state : σ) (calls : List ι) (front back : List (Event σ ι ρ))

theorem trace_eq_append (split : trace perform state calls = front ++ back) :
    ∃ early late, calls = early ++ late ∧ front = trace perform state early ∧
      back = trace perform (final perform state early) late := by
  induction front generalizing state calls with
  | nil => exact ⟨[], calls, rfl, rfl, split.symm⟩
  | cons e _ ih =>
    cases calls with
    | nil => cases split
    | cons call calls =>
      rcases List.cons.inj split with ⟨first, rest⟩
      rcases ih _ calls rest with ⟨early, late, parts, fronts, backs⟩
      exact ⟨call :: early, late, by rw [parts]; rfl, by rw [fronts, ← first]; rfl, backs⟩

theorem trace_eq_append_cons
    (e : Event σ ι ρ) (split : trace perform state calls = front ++ e :: back) :
    ∃ early late, calls = early ++ e.call :: late ∧ front = trace perform state early ∧
      e = event perform (final perform state early) e.call ∧ back = trace perform e.after late := by
  rcases trace_eq_append perform state calls front (e :: back) split with
    ⟨early, rest, parts, fronts, backs⟩
  cases rest with
  | nil => cases backs
  | cons _ late =>
    rcases List.cons.inj backs with ⟨first, later⟩
    subst first
    exact ⟨early, late, parts, fronts, rfl, later⟩

variable (P : σ → Prop) {state : σ} {calls : List ι}

theorem kept_between (kept : ∀ e ∈ trace perform state calls, P e.before → P e.after)
    {front back : List (Event σ ι ρ)} {first later : Event σ ι ρ}
    (split : trace perform state calls = front ++ first :: back) (inside : later ∈ back)
    (holds : P first.after) : P later.before := by
  rcases trace_eq_append_cons perform state calls front back
    first split with ⟨_, late, _, _, _, backs⟩
  rw [backs] at inside
  rcases mem_trace_split perform first.after late later inside with ⟨middle, _, parts, same⟩
  have before : later.before = final perform first.after middle := congrArg Event.before same
  rw [before]
  apply kept_final perform P first.after middle _ holds
  intro e member
  apply kept e
  rw [split, backs, parts, trace_append]
  exact mem_append_right _ (mem_cons_of_mem _ (mem_append_left _ member))

theorem kept_after
    (kept : ∀ e ∈ trace perform state calls, P e.before → P e.after) {e : Event σ ι ρ}
    (member : e ∈ trace perform state calls) (holds : P e.after) :
    P (final perform state calls) := by
  induction calls generalizing state with
  | nil => cases member
  | cons _ calls ih =>
    rcases mem_cons.mp member with here | later
    · rw [here] at holds
      exact kept_final perform P _ calls
        (fun other inside => kept other (mem_cons_of_mem _ inside)) holds
    · exact ih (fun other inside => kept other (mem_cons_of_mem _ inside)) later

theorem kept_upto {front back : List (Event σ ι ρ)} {earlier e : Event σ ι ρ}
    (split : trace perform state calls = front ++ e :: back)
    (kept : ∀ other ∈ front, P other.before → P other.after) (inside : earlier ∈ front)
    (holds : P earlier.after) : P e.before := by
  rcases trace_eq_append_cons perform state calls front back e split with
    ⟨early, _, _, fronts, here, _⟩
  have before : e.before = final perform state early := congrArg Event.before here
  rw [fronts] at kept inside
  rw [before]
  exact kept_after perform P kept inside holds

theorem kept_from_start {front back : List (Event σ ι ρ)} {e : Event σ ι ρ}
    (split : trace perform state calls = front ++ e :: back)
    (kept : ∀ other ∈ front, P other.before → P other.after) (holds : P state) : P e.before := by
  rcases trace_eq_append_cons perform state calls front back e split with
    ⟨early, _, _, fronts, here, _⟩
  have before : e.before = final perform state early := congrArg Event.before here
  rw [fronts] at kept
  rw [before]
  exact kept_final perform P state early kept holds

/-- What does not hold at the start has been established before the event that meets it. -/
theorem established {front back : List (Event σ ι ρ)} {e : Event σ ι ρ}
    (split : trace perform state calls = front ++ e :: back) (fails : ¬ P state)
    (holds : P e.before) : ∃ earlier ∈ front, ¬ P earlier.before ∧ P earlier.after := by
  by_contra none
  refine kept_from_start perform (fun reached => ¬ P reached) split ?_ fails holds
  intro other inside before after
  exact none ⟨other, inside, before, after⟩

/-- What does not hold at the start and does at the end has been established by an event. -/
theorem established_final (fails : ¬ P state) (holds : P (final perform state calls)) :
    ∃ e ∈ trace perform state calls, ¬ P e.before ∧ P e.after := by
  by_contra none
  refine kept_final perform (fun reached => ¬ P reached) state calls ?_ fails holds
  intro e member before after
  exact none ⟨e, member, before, after⟩

theorem event_induction (P : Event σ ι ρ → Prop) (state : σ) (calls : List ι)
    (next : ∀ front e back, trace perform state calls = front ++ e :: back →
      (∀ earlier ∈ front, P earlier) → P e) : ∀ e ∈ trace perform state calls, P e := by
  have upto : ∀ length front e back, trace perform state calls = front ++ e :: back →
      front.length = length → P e := by
    intro length
    induction length using Nat.strong_induction_on with
    | _ _ ih =>
      intro front e back split size
      apply next front e back split
      intro earlier inside
      rcases append_of_mem inside with ⟨before, _, parts⟩
      rw [parts, append_assoc] at split
      refine ih before.length ?_ before earlier _ split rfl
      rw [← size, parts, length_append, length_cons]
      omega
  intro e member
  rcases append_of_mem member with ⟨front, back, split⟩
  exact upto front.length front e back split rfl

variable (P : σ → Prop) (state : σ) (calls : List ι)

def Permanent : Prop :=
  ∀ front middle back, calls = front ++ (middle ++ back) →
    P (final perform state front) → P (final perform state (front ++ middle))

/-- Permanence over a run is preservation by each of its steps, no more and no less. -/
theorem permanent_iff : Permanent perform P state calls ↔
      ∀ e ∈ trace perform state calls, P e.before → P e.after := by
  constructor
  · intro permanent e member holds
    rcases mem_trace_split perform state calls e member with ⟨front, back, split, same⟩
    have later := permanent front [e.call] back split
    rw [same] at holds ⊢
    rw [final_append] at later
    exact later holds
  · intro step front middle back split holds
    rw [final_append]
    apply kept_final perform P _ middle _ holds
    intro e member
    apply step e
    rw [split, trace_append, trace_append]
    exact mem_append_right _ (mem_append_left _ member)

/-- A predicate that a run has in every state it goes through, from the first one on, is one
that none of its steps loses. -/
theorem throughout_iff (P : σ → Prop) (loses : Event σ ι ρ → Prop) (state : σ)
    (calls : List ι) (holds : P state)
    (exact : ∀ e ∈ trace perform state calls, P e.before → (P e.after ↔ ¬ loses e)) :
    (∀ front back, calls = front ++ back → P (final perform state front)) ↔
      ∀ e ∈ trace perform state calls, ¬ loses e := by
  constructor
  · intro throughout e member
    rcases mem_trace_split perform state calls e member with ⟨front, back, split, same⟩
    have before := throughout front (e.call :: back) split
    have after := throughout (front ++ [e.call]) back (by rw [split, append_assoc]; rfl)
    rw [final_append] at after
    have here : e.before = final perform state front := congrArg Event.before same
    have there : e.after = (perform e.call (final perform state front)).2 :=
      congrArg Event.after same
    exact (exact e member (here ▸ before)).mp (there ▸ after)
  · intro quiet front back split
    apply kept_final perform P state front _ holds
    intro e member before
    have inside : e ∈ trace perform state calls := by
      rw [split, trace_append]
      exact mem_append_left _ member
    exact (exact e inside before).mpr (quiet e inside)

/-! Moments of a run: what holds from one event on. -/

theorem pairwise_iff_split (R : α → α → Prop) (list : List α) : list.Pairwise R ↔
      ∀ front e back, list = front ++ e :: back → ∀ earlier ∈ front, R earlier e := by
  constructor
  · intro pairs front e back split earlier inside
    rw [split, pairwise_append] at pairs
    exact pairs.2.2 earlier inside e mem_cons_self
  · intro splits
    induction list with
    | nil => exact List.Pairwise.nil
    | cons head _ ih =>
      refine List.Pairwise.cons ?_ (ih ?_)
      · intro e member
        rcases append_of_mem member with ⟨front, back, parts⟩
        exact splits (head :: front) e back (by rw [parts]; rfl) head mem_cons_self
      · intro front e back parts earlier inside
        exact splits (head :: front) e back (by rw [parts]; rfl) earlier
          (mem_cons_of_mem _ inside)

variable {σ ι : Type} {ρ : ι → Type} {perform : (call : ι) → σ → ρ call × σ}
variable {state : σ} {calls : List ι} {front back : List (Event σ ι ρ)} {e : Event σ ι ρ}

/-- What one event establishes, and every later one keeps, holds behind all of them. -/
theorem kept_behind (P : σ → Prop) (split : trace perform state calls = front ++ e :: back)
    (kept : ∀ later ∈ back, P later.before → P later.after) (holds : P e.after) :
    ∀ later ∈ e :: back, P later.after := by
  rcases trace_eq_append_cons perform state calls front back e split with ⟨_, late, _, _, _, rest⟩
  intro later member
  rcases mem_cons.mp member with rfl | inside
  · exact holds
  · rw [rest] at inside kept
    exact (kept_trace perform P e.after late kept holds later inside).2

/-- What one event establishes, and those up to a later one keep, holds before that one. -/
theorem kept_within (P : σ → Prop) {middle : List (Event σ ι ρ)} {later : Event σ ι ρ}
    (split : trace perform state calls = front ++ e :: (middle ++ later :: back))
    (kept : ∀ other ∈ middle, P other.before → P other.after) (holds : P e.after) :
    P later.before := by
  obtain ⟨_, _, _, _, _, rest⟩ := trace_eq_append_cons perform state calls front _ e split
  exact kept_from_start perform P rest.symm kept holds

theorem clock_le {τ : Type} [Preorder τ] (clock : ι → τ)
    (split : trace perform state calls = front ++ e :: back)
    (ordered : (calls.map clock).Pairwise (· ≤ ·)) :
    ∀ later ∈ e :: back, clock e.call ≤ clock later.call := by
  rcases trace_eq_append_cons perform state calls front back e split with
    ⟨_, _, parts, _, _, rest⟩
  intro later member
  rcases mem_cons.mp member with rfl | inside
  · exact le_refl _
  · rw [rest] at inside
    rw [parts, map_append, pairwise_append, map_cons, pairwise_cons] at ordered
    exact ordered.2.1.1 _ (mem_map_of_mem (mem_of_mem_trace perform _ _ later inside))

/-! Calls that nobody hears: a run with them and a run without them answer alike.

What such calls destroy by a time is what a view at that time leaves out, and every other
call answers from the view at its own time. -/

variable {σ ι τ : Type} {ρ : ι → Type} [Preorder τ]

structure Silent (perform : (call : ι) → σ → ρ call × σ) (silent : ι → Bool) (clock : ι → τ)
    (view : τ → σ → σ) : Prop where
  later : ∀ early late state, early ≤ late → view late (view early state) = view late state
  quiet : ∀ call state, silent call = true →
    view (clock call) (perform call state).2 = view (clock call) state
  answers : ∀ call state, silent call = false →
    (perform call (view (clock call) state)).1 = (perform call state).1
  moves : ∀ call state, silent call = false →
    view (clock call) (perform call (view (clock call) state)).2 =
      view (clock call) (perform call state).2

def heard (silent : ι → Bool) (events : List (Event σ ι ρ)) : List (Sigma ρ) :=
  (events.filter fun e => !silent e.call).map fun e => ⟨e.call, e.response⟩

variable {perform : (call : ι) → σ → ρ call × σ} {silent : ι → Bool} {clock : ι → τ}
variable {view : τ → σ → σ}

namespace Silent

variable (silence : Silent perform silent clock view)
include silence

/-- States that look alike still do so at a later time. -/
theorem alike_later {early late : τ} {state other : σ} (order : early ≤ late)
    (alike : view early state = view early other) : view late state = view late other := by
  rw [← silence.later early late state order, alike, silence.later early late other order]

theorem heard_filter (calls : List ι) (start : τ) (state other : σ)
    (alike : view start state = view start other)
    (ordered : (start :: calls.map clock).Pairwise (· ≤ ·)) :
    heard silent (trace perform state calls) =
      heard silent (trace perform other (calls.filter fun call => !silent call)) := by
  induction calls generalizing start state other with
  | nil => rfl
  | cons call calls ih =>
    rw [pairwise_cons] at ordered
    have now : view (clock call) state = view (clock call) other :=
      silence.alike_later (ordered.1 _ mem_cons_self) alike
    cases hidden : silent call with
    | true =>
      have dropped : (call :: calls).filter (fun call => !silent call) =
          calls.filter (fun call => !silent call) :=
        filter_cons_of_neg (by simp [hidden])
      have unheard : heard silent (trace perform state (call :: calls)) =
          heard silent (trace perform (perform call state).2 calls) := by
        simp [heard, trace, event, hidden]
      rw [dropped, unheard]
      exact ih (clock call) _ _ ((silence.quiet call state hidden).trans now) ordered.2
    | false =>
      have answered : (perform call state).1 = (perform call other).1 := by
        rw [← silence.answers call state hidden, now, silence.answers call other hidden]
      have moved : view (clock call) (perform call state).2 =
          view (clock call) (perform call other).2 := by
        rw [← silence.moves call state hidden, now, silence.moves call other hidden]
      have first : ∀ state rest, heard silent (trace perform state (call :: rest)) =
          ⟨call, (perform call state).1⟩ ::
            heard silent (trace perform (perform call state).2 rest) := by
        simp [heard, trace, event, hidden]
      have kept : (call :: calls).filter (fun call => !silent call) =
          call :: calls.filter (fun call => !silent call) :=
        filter_cons_of_pos (by simp [hidden])
      rw [kept, first, first, answered, ih (clock call) _ _ moved ordered.2]

/-- Two runs with the same calls apart from silent ones answer the others alike. -/
theorem heard_eq (state : σ) (calls others : List ι)
    (same : (calls.filter fun call => !silent call) = others.filter fun call => !silent call)
    (ordered : (calls.map clock).Pairwise (· ≤ ·)) (aligned : (others.map clock).Pairwise (· ≤ ·)) :
    heard silent (trace perform state calls) = heard silent (trace perform state others) := by
  have reduced : ∀ calls : List ι, (calls.map clock).Pairwise (· ≤ ·) →
      heard silent (trace perform state calls) =
        heard silent (trace perform state (calls.filter fun call => !silent call)) := by
    intro calls ordered
    cases calls with
    | nil => rfl
    | cons call calls =>
      apply silence.heard_filter (call :: calls) (clock call) state state rfl
      refine pairwise_cons.mpr ⟨?_, ordered⟩
      intro time member
      rcases mem_cons.mp member with rfl | later
      · exact le_refl _
      · exact (pairwise_cons.mp ordered).1 time later
  rw [reduced calls ordered, same, ← reduced others aligned]

end Silent

end BackendHandbook.Run
