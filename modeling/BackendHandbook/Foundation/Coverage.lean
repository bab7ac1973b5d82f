import Mathlib.Data.List.Sort

/-! A cursor swept over intervals: it stops at the first gap, and where it comes to an end the
intervals cover what it passed. -/

namespace BackendHandbook.Coverage

variable {α : Type} (start end_ : α → Nat)

/-- The cursor behind the intervals, unless one of them starts beyond it. -/
def sweep : Nat → List α → Option Nat
  | cursor, [] => some cursor
  | cursor, item :: items =>
    if cursor < start item then none else sweep (max cursor (end_ item)) items

variable {start end_}
variable {cursor last : Nat}
variable {items : List α}

theorem sweep_cons {item : α} : sweep start end_ cursor (item :: items) = some last ↔
      start item ≤ cursor ∧ sweep start end_ (max cursor (end_ item)) items = some last := by
  rw [sweep]
  by_cases gap : cursor < start item
  · rw [if_pos gap]
    constructor
    · intro stopped
      cases stopped
    · omega
  · rw [if_neg gap]
    exact ⟨fun swept => ⟨Nat.le_of_not_lt gap, swept⟩, fun swept => swept.2⟩

/-- The cursor only moves forward, and past the end of every interval. -/
theorem sweep_le (swept : sweep start end_ cursor items = some last) :
    cursor ≤ last ∧ ∀ item ∈ items, end_ item ≤ last := by
  induction items generalizing cursor with
  | nil =>
    cases swept
    exact ⟨Nat.le_refl _, fun item member => by cases member⟩
  | cons _ _ ih =>
    rcases ih (sweep_cons.mp swept).2 with ⟨_, ends⟩
    refine ⟨by omega, fun other member => ?_⟩
    rcases List.mem_cons.mp member with rfl | inside
    · omega
    · exact ends other inside

/-- The cursor ends where it began or at the end of an interval. -/
theorem sweep_attained (swept : sweep start end_ cursor items = some last) :
    last = cursor ∨ ∃ item ∈ items, end_ item = last := by
  induction items generalizing cursor with
  | nil =>
    cases swept
    exact .inl rfl
  | cons item _ ih =>
    rcases ih (sweep_cons.mp swept).2 with _ | ⟨other, member, ends⟩
    · by_cases passed : cursor ≤ end_ item
      · exact .inr ⟨item, List.mem_cons_self, by omega⟩
      · exact .inl (by omega)
    · exact .inr ⟨other, List.mem_cons_of_mem _ member, ends⟩

theorem sweep_covers {position : Nat}
    (swept : sweep start end_ cursor items = some last) (after : cursor ≤ position)
    (before : position < last) : ∃ item ∈ items, start item ≤ position ∧ position < end_ item := by
  induction items generalizing cursor with
  | nil =>
    cases swept
    omega
  | cons item _ ih =>
    rcases sweep_cons.mp swept with ⟨_, rest⟩
    by_cases inside : position < end_ item
    · exact ⟨item, List.mem_cons_self, by omega, inside⟩
    · obtain ⟨other, member, holds⟩ := ih rest (by omega)
      exact ⟨other, List.mem_cons_of_mem _ member, holds⟩

/-- Intervals in the order of their starts that cover everything leave the cursor no gap. -/
theorem sweep_complete {total : Nat}
    (ordered : items.Pairwise fun first second => start first ≤ start second)
    (nonempty : ∀ item ∈ items, start item < end_ item)
    (bounded : ∀ item ∈ items, end_ item ≤ total) (within : cursor ≤ total)
    (covered : ∀ position, cursor ≤ position → position < total →
      ∃ item ∈ items, start item ≤ position ∧ position < end_ item) :
    sweep start end_ cursor items = some total := by
  induction items generalizing cursor with
  | nil =>
    have reached : cursor = total := by
      apply Nat.le_antisymm within
      apply Nat.le_of_not_lt
      intro short
      rcases covered cursor (Nat.le_refl _) short with ⟨item, member, _⟩
      cases member
    rw [sweep, reached]
  | cons item _ ih =>
    rcases List.pairwise_cons.mp ordered with ⟨first, rest⟩
    have filled := nonempty item List.mem_cons_self
    have ends := bounded item List.mem_cons_self
    apply sweep_cons.mpr
    constructor
    · -- the interval that covers the cursor starts no earlier than the first one
      apply Nat.le_of_not_lt
      intro gap
      obtain ⟨other, member, starts, _⟩ := covered cursor (Nat.le_refl _) (by omega)
      rcases List.mem_cons.mp member with rfl | inside
      · omega
      · have later := first other inside
        omega
    · apply ih rest (fun other inside => nonempty other (List.mem_cons_of_mem _ inside))
        (fun other inside => bounded other (List.mem_cons_of_mem _ inside)) (by omega)
      intro position after before
      obtain ⟨other, member, starts, holds⟩ := covered position (by omega) before
      rcases List.mem_cons.mp member with rfl | inside
      · omega
      · exact ⟨other, inside, starts, holds⟩

end BackendHandbook.Coverage
