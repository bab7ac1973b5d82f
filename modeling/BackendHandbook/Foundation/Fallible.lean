import Mathlib.Data.List.Forall2

/-! Rules for computations that may raise: what a successful one went through. -/

namespace BackendHandbook.Fallible

variable {ε α β σ : Type}
variable {first : Except ε α} {next : α → Except ε β}

variable {result : β}

theorem bind_eq_ok :
    first >>= next = .ok result ↔ ∃ value, first = .ok value ∧ next value = .ok result := by
  cases first with
  | error =>
    constructor
    · intro done
      cases done
    · rintro ⟨_, done, _⟩
      cases done
  | ok value =>
    constructor
    · intro done
      exact ⟨value, rfl, done⟩
    · rintro ⟨_, same, done⟩
      cases same
      exact done

variable {raised : ε}

theorem bind_eq_error : first >>= next = .error raised ↔
      first = .error raised ∨ ∃ value, first = .ok value ∧ next value = .error raised := by
  cases first with
  | error =>
    constructor
    · intro failed
      exact .inl (congrArg _ (Except.error.inj failed))
    · rintro (failed | ⟨_, done, _⟩)
      · rw [failed]
        rfl
      · cases done
  | ok value =>
    constructor
    · intro failed
      exact .inr ⟨value, rfl, failed⟩
    · rintro (failed | ⟨_, same, failed⟩)
      · cases failed
      · cases same
        exact failed

theorem exists_of_toOption {f : α → β} {computation : Except ε α} {value : β}
    (answered : computation.toOption.map f = some value) :
    ∃ result, computation = .ok result ∧ f result = value := by
  cases computation with
  | error => cases answered
  | ok result => exact ⟨result, rfl, Option.some.inj answered⟩

variable {check : Prop}

/-- A chain of checks gives an answer that its first check does not: the check has passed. -/
theorem passed [Decidable check] {refused answer rest : α}
    (answers : (if check then refused else rest) = answer) (different : refused ≠ answer) :
    ¬ check ∧ rest = answer := by
  by_cases stopped : check
  · rw [if_pos stopped] at answers
    exact absurd answers different
  · rw [if_neg stopped] at answers
    exact ⟨stopped, answers⟩

/-- The answer satisfies `Q`, and what is raised in its place satisfies `P`. -/
def Meets (Q : α → Prop) (P : ε → Prop) : Except ε α → Prop
  | .ok value => Q value
  | .error raised => P raised

variable {value : α}

section Meets

variable {Q : α → Prop} {P : ε → Prop} {computation : Except ε α}

theorem Meets.of_ok (met : Meets Q P computation) (done : computation = .ok value) : Q value := by
  rw [done] at met
  exact met

theorem Meets.of_error (met : Meets Q P computation)
    (failed : computation = .error raised) : P raised := by
  rw [failed] at met
  exact met

theorem Meets.mono {R : α → Prop} {S : ε → Prop} (met : Meets R S computation)
    (weaker : ∀ value, R value → Q value) (weakerRaised : ∀ raised, S raised → P raised) :
    Meets Q P computation := by
  cases computation with
  | ok => exact weaker _ met
  | error => exact weakerRaised _ met

theorem Meets.answers (met : Meets Q (fun _ : ε => False) computation) :
    ∃ value, computation = .ok value ∧ Q value := by
  cases computation with
  | ok value => exact ⟨value, rfl, met⟩
  | error => exact met.elim

/-- A choice meets what both of its sides do. -/
theorem meets_ite [Decidable check] {second : Except ε α}
    (passes : check → Meets Q P first) (fails : ¬ check → Meets Q P second) :
    Meets Q P (if check then first else second) := by
  by_cases holds : check
  · rw [if_pos holds]
    exact passes holds
  · rw [if_neg holds]
    exact fails holds

theorem meets_bind {R : α → Prop} {S : β → Prop}
    (first : Meets R P computation) (second : ∀ value, R value → Meets S P (next value)) :
    Meets S P (computation >>= next) := by
  cases computation with
  | ok => exact second _ first
  | error => exact first

/-- What a computation meets, with the computation itself to reason from. -/
theorem meets_self (raises : ∀ raised, computation = .error raised → P raised) :
    Meets (fun value => computation = .ok value) P computation := by
  cases computation with
  | ok => rfl
  | error => exact raises _ rfl

end Meets

theorem ite_error_eq_ok [Decidable check] {rest : Except ε α} :
    (if check then .error raised else rest) = .ok value ↔ ¬ check ∧ rest = .ok value := by
  by_cases stopped : check
  · rw [if_pos stopped]
    exact ⟨nofun, fun answers => absurd stopped answers.1⟩
  · rw [if_neg stopped]
    exact ⟨fun answers => ⟨stopped, answers⟩, fun answers => answers.2⟩

variable {step : σ → α → Except ε σ} (P : σ → Prop) {items : List α}

/-- The invariant rule of a fold that may raise. -/
theorem foldlM_kept {start last : σ}
    (kept : ∀ before item after, item ∈ items → P before → step before item = .ok after → P after)
    (holds : P start) (done : items.foldlM step start = .ok last) : P last := by
  induction items generalizing start with
  | nil => cases done; exact holds
  | cons item _ ih =>
    rcases bind_eq_ok.mp done with ⟨next, first, rest⟩
    apply ih (fun before other after inside => kept before other after
      (List.mem_cons_of_mem _ inside)) (kept start item next List.mem_cons_self holds first) rest

/-- A fold succeeds when every step from a kept state does. -/
theorem foldlM_total {start : σ} (total : ∀ before item, item ∈ items → P before →
      ∃ after, step before item = .ok after ∧ P after)
    (holds : P start) : ∃ last, items.foldlM step start = .ok last ∧ P last := by
  induction items generalizing start with
  | nil => exact ⟨start, rfl, holds⟩
  | cons item _ ih =>
    rcases total start item List.mem_cons_self holds with ⟨next, first, kept⟩
    rcases ih (fun before other inside => total before other
      (List.mem_cons_of_mem _ inside)) kept with ⟨last, rest, ends⟩
    exact ⟨last, by exact bind_eq_ok.mpr ⟨next, first, rest⟩, ends⟩

variable {f : α → Except ε β}

/-- A mapping that may raise succeeds exactly when it does at every item. -/
theorem mapM_eq_ok {results : List β} :
    items.mapM f = .ok results ↔ List.Forall₂ (fun item result => f item = .ok result) items
      results := by
  induction items generalizing results with
  | nil =>
    rw [List.mapM_nil, List.forall₂_nil_left_iff]
    exact ⟨fun done => (Except.ok.inj done).symm, fun done => congrArg _ done.symm⟩
  | cons _ _ ih =>
    rw [List.mapM_cons, List.forall₂_cons_left_iff]
    constructor
    · intro done
      rcases bind_eq_ok.mp done with ⟨result, first, rest⟩
      rcases bind_eq_ok.mp rest with ⟨others, mapped, same⟩
      exact ⟨result, others, first, ih.mp mapped, (Except.ok.inj same).symm⟩
    · rintro ⟨result, others, first, mapped, rfl⟩
      exact bind_eq_ok.mpr ⟨result, first, bind_eq_ok.mpr ⟨others, ih.mpr mapped, rfl⟩⟩

/-- Where the mapped function never raises, the relation of `mapM_eq_ok` is that of `map`. -/
theorem forall₂_ok_iff {g : α → β} (same : ∀ item, f item = .ok (g item)) {results : List β} :
    List.Forall₂ (fun item result => f item = .ok result) items results ↔
      results = items.map g := by
  rw [eq_comm, ← List.forall₂_eq_eq_eq]
  simp [same]

variable {R : α → β → Prop} {items : List α} {results : List β}

theorem forall₂_getElem? (related : List.Forall₂ R items results) (index : Nat) :
    (items[index]? = none ∧ results[index]? = none) ∨
      ∃ item result, items[index]? = some item ∧ results[index]? = some result ∧ R item result := by
  induction related generalizing index with
  | nil => exact .inl ⟨rfl, rfl⟩
  | @cons item result items results first _ ih =>
    cases index with
    | zero => exact .inr ⟨item, result, rfl, rfl, first⟩
    | succ => exact ih _

theorem forall₂_mem_left
    (related : List.Forall₂ R items results) {item : α} (member : item ∈ items) :
    ∃ result ∈ results, R item result := by
  rcases List.mem_iff_getElem?.mp member with ⟨index, found⟩
  rcases forall₂_getElem? related index with ⟨absent, _⟩ | ⟨_, result, here, there, holds⟩
  · rw [found] at absent
    cases absent
  · cases Option.some.inj (found.symm.trans here)
    exact ⟨result, List.mem_of_getElem? there, holds⟩

theorem forall₂_mem_right (related : List.Forall₂ R items results) (member : result ∈ results) :
    ∃ item ∈ items, R item result :=
  forall₂_mem_left related.flip member

theorem mapM_total (total : ∀ item ∈ items, ∃ result, f item = .ok result) :
    ∃ results, items.mapM f = .ok results := by
  induction items with
  | nil => exact ⟨[], rfl⟩
  | cons item _ ih =>
    rcases total item List.mem_cons_self with ⟨result, first⟩
    rcases ih (fun other inside =>
      total other (List.mem_cons_of_mem _ inside)) with ⟨others, mapped⟩
    refine ⟨result :: others, ?_⟩
    rw [List.mapM_cons]
    exact bind_eq_ok.mpr ⟨result, first, bind_eq_ok.mpr ⟨others, mapped, rfl⟩⟩

end BackendHandbook.Fallible
