import BackendHandbook.Foundation.Fallible
import Mathlib.Algebra.BigOperators.Group.List.Basic
import Mathlib.Algebra.Order.Monoid.Canonical.Defs

/-! Greedy batches of a list: an item goes into the open batch as long as it fits. -/

namespace BackendHandbook.Batching

open List

section Splits

variable {α : Type} (fits : List α → Prop)

/-- A split into consecutive parts that fit, with none that is empty and as few as can be. -/
structure Packed (items : List α) (parts : List (List α)) : Prop where
  lossless : parts.flatten = items
  nonempty : ∀ part ∈ parts, part ≠ []
  within : ∀ part ∈ parts, fits part
  minimal : ∀ others : List (List α), others.flatten = items → (∀ part ∈ others, fits part) →
    parts.length ≤ others.length

variable [DecidablePred fits]

/-- The batches of the items after a batch that is open. -/
def fill (pending : List α) : List α → List (List α)
  | [] => if pending = [] then [] else [pending]
  | item :: items =>
    if pending ≠ [] ∧ ¬ fits (pending ++ [item]) then pending :: fill [item] items
    else fill (pending ++ [item]) items

variable {fits} {items pending : List α}

theorem fill_flatten : (fill fits pending items).flatten = pending ++ items := by
  fun_induction fill fits pending items with
  | case1 => rfl
  | case2 => simp
  | case3 _ _ _ _ ih => rw [flatten_cons, ih, singleton_append]
  | case4 _ _ _ _ ih => rw [ih, append_assoc, singleton_append]

theorem fill_nonempty : ∀ part ∈ fill fits pending items, part ≠ [] := by
  fun_induction fill fits pending items with
  | case1 => exact nofun
  | case2 _ filled => simpa using filled
  | case3 _ _ _ full ih => exact forall_mem_cons.mpr ⟨full.1, ih⟩
  | case4 _ _ _ _ ih => exact ih

theorem fill_fits (single : ∀ item ∈ items, fits [item]) (held : pending = [] ∨ fits pending) :
    ∀ part ∈ fill fits pending items, fits part := by
  fun_induction fill fits pending items with
  | case1 => exact nofun
  | case2 _ filled => simpa using held.resolve_left filled
  | case3 _ item items full ih =>
    rw [forall_mem_cons] at single ⊢
    exact ⟨held.resolve_left full.1, ih single.2 (.inr single.1)⟩
  | case4 pending item items room ih =>
    rw [forall_mem_cons] at single
    refine ih single.2 (.inr ?_)
    by_cases fresh : pending = []
    · rw [fresh]
      exact single.1
    · exact not_not.mp fun full => room ⟨fresh, full⟩

section

variable (closed : ∀ part whole, part <:+: whole → fits whole → fits part)
include closed

variable {parts : List (List α)}

omit [DecidablePred fits] in
/-- What follows the batch that is closed is behind the first part that reaches into it. -/
theorem exists_behind (each : ∀ part ∈ parts, fits part) {before : List α} {item : α}
    (split : parts.flatten = before ++ (pending ++ item :: items))
    (full : ¬ fits (pending ++ [item])) :
    ∃ rest : List (List α), rest.length + 1 ≤ parts.length ∧ (∀ part ∈ rest, fits part) ∧
      ∃ skipped, rest.flatten = skipped ++ item :: items := by
  induction parts generalizing before with
  | nil => simp at split
  | cons part parts ih =>
    rw [forall_mem_cons] at each
    rw [flatten_cons, append_eq_append_iff] at split
    rcases split with ⟨left, _, rest⟩ | ⟨reach, here, rest⟩
    · obtain ⟨behind, shorter, others⟩ := ih each.2 rest
      exact ⟨behind, Nat.le_succ_of_le shorter, others⟩
    rcases append_eq_append_iff.mp rest with ⟨more, inside, rest⟩ | ⟨skipped, _, rest⟩
    · cases more with
      | nil => exact ⟨parts, le_rfl, each.2, [], rest.symm⟩
      | cons _ more =>
        obtain ⟨rfl, _⟩ := List.cons.inj rest
        refine absurd (closed (pending ++ [item]) part ⟨before, more, ?_⟩ each.1) full
        rw [here, inside, append_assoc, append_assoc]
        rfl
    · exact ⟨parts, le_rfl, each.2, skipped, rest⟩

theorem fill_minimal (each : ∀ part ∈ parts, fits part) (before : List α)
    (split : parts.flatten = before ++ (pending ++ items)) :
    (fill fits pending items).length ≤ parts.length := by
  fun_induction fill fits pending items generalizing parts before with
  | case1 => exact Nat.zero_le _
  | case2 pending filled =>
    cases parts with
    | nil => simp [filled] at split
    | cons => simp
  | case3 pending item items full ih =>
    obtain ⟨rest, shorter, others, skipped, behind⟩ := exists_behind closed each split full.2
    exact le_trans (Nat.succ_le_succ (ih others _ behind)) shorter
  | case4 pending item items _ ih =>
    rw [← singleton_append, ← append_assoc pending] at split
    exact ih each _ split

theorem fill_packed (single : ∀ item ∈ items, fits [item]) :
    Packed fits items (fill fits [] items) :=
  ⟨fill_flatten, fill_nonempty, fill_fits single (.inl rfl), fun _ split each =>
    fill_minimal closed each [] split⟩

end

end Splits

section Planner

variable {α β ε M : Type} [AddCommMonoid M]

/-- What a batch may hold: so many items, and so much of what each item takes up. -/
structure Limits (α M : Type) where
  maxItems : Nat
  size : α → M
  maxSize : M

/-- The batches so far, and the open one with its running total. -/
structure Filling (α β M : Type) where
  batches : List β
  pending : List α
  size : M

variable (limits : Limits α M) (close : Nat → List α → M → β)

def total (batch : List α) : M := (batch.map limits.size).sum

def flush (filling : Filling α β M) : Filling α β M :=
  if filling.pending = [] then filling
  else ⟨filling.batches ++ [close filling.batches.length filling.pending filling.size], [], 0⟩

/-- The batches that a list of parts is closed to. -/
def closeAll (parts : List (List α)) : List β :=
  parts.mapIdx fun ordinal part => close ordinal part (total limits part)

theorem map_closeAll {itemsOf : β → List α}
    (same : ∀ ordinal part size, itemsOf (close ordinal part size) = part)
    (parts : List (List α)) : (closeAll limits close parts).map itemsOf = parts := by
  refine ext_getElem? fun index => ?_
  rw [closeAll, getElem?_map, getElem?_mapIdx]
  cases parts[index]? with
  | none => rfl
  | some part => exact congrArg some (same index part _)

theorem ordinals_closeAll {ordinalOf : β → Nat}
    (same : ∀ ordinal part size, ordinalOf (close ordinal part size) = ordinal)
    (parts : List (List α)) :
    (closeAll limits close parts).map ordinalOf = range (closeAll limits close parts).length := by
  refine ext_getElem? fun index => ?_
  rw [closeAll, length_mapIdx, getElem?_map, getElem?_mapIdx]
  by_cases inside : index < parts.length
  · rw [getElem?_eq_getElem inside, getElem?_range inside]
    exact congrArg some (same index _ _)
  · rw [getElem?_eq_none (not_lt.mp inside), getElem?_eq_none]
    · rfl
    · rw [length_range]
      exact not_lt.mp inside

/-- The filling that has closed the parts, with the pending items open. -/
def reached (parts : List (List α)) (pending : List α) : Filling α β M :=
  ⟨closeAll limits close parts, pending, total limits pending⟩

theorem flush_reached (parts : List (List α)) {pending : List α} (filled : pending ≠ []) :
    flush close (reached limits close parts pending) =
      reached limits close (parts ++ [pending]) [] := by
  unfold flush reached closeAll
  rw [if_neg filled, mapIdx_concat, length_mapIdx]
  rfl

variable [PartialOrder M]

def Limits.Fits (batch : List α) : Prop :=
  batch.length ≤ limits.maxItems ∧ total limits batch ≤ limits.maxSize

theorem fits_of_inside [CanonicallyOrderedAdd M] (part whole : List α) (inside : part <:+: whole)
    (fits : limits.Fits whole) : limits.Fits part := by
  refine ⟨inside.length_le.trans fits.1, le_trans ?_ fits.2⟩
  obtain ⟨before, after, rfl⟩ := inside
  simp only [total, map_append, sum_append]
  exact le_trans le_add_self le_self_add

variable [DecidableLE M] (tooLarge : α → ε)

instance : DecidablePred limits.Fits := fun _ => instDecidableAnd

def place (filling : Filling α β M) (item : α) : Except ε (Filling α β M) :=
  if ¬ limits.size item ≤ limits.maxSize then .error (tooLarge item)
  else
    let opened :=
      if filling.pending ≠ [] ∧ (limits.maxItems < filling.pending.length + 1 ∨
          ¬ filling.size + limits.size item ≤ limits.maxSize) then flush close filling
      else filling
    .ok { opened with
      pending := opened.pending ++ [item], size := opened.size + limits.size item }

def plan (items : List α) : Except ε (List β) := do
  let filling ← items.foldlM (place limits close tooLarge) ⟨[], [], 0⟩
  return (flush close filling).batches

theorem place_reached (parts : List (List α)) (pending : List α) {item : α}
    (small : limits.size item ≤ limits.maxSize) :
    place limits close tooLarge (reached limits close parts pending) item = .ok
      (if pending ≠ [] ∧ ¬ limits.Fits (pending ++ [item]) then
        reached limits close (parts ++ [pending]) [item]
      else reached limits close parts (pending ++ [item])) := by
  have added : total limits pending + limits.size item = total limits (pending ++ [item]) := by
    simp [total]
  have full : (limits.maxItems < pending.length + 1 ∨
      ¬ total limits pending + limits.size item ≤ limits.maxSize) ↔
        ¬ limits.Fits (pending ++ [item]) := by
    rw [Limits.Fits, ← added, length_append]
    exact (not_and_or.trans (or_congr_left not_le)).symm
  unfold place
  rw [if_neg (not_not.mpr small)]
  dsimp only [reached]
  simp only [full]
  split
  · next overflows =>
    have closed := flush_reached limits close parts overflows.1
    unfold reached at closed
    rw [closed]
    simp [total]
  · rw [added]

theorem fill_reached (parts : List (List α)) (pending items : List α)
    (small : ∀ item ∈ items, limits.size item ≤ limits.maxSize) : (do
      let filling ← items.foldlM (place limits close tooLarge) (reached limits close parts pending)
      return (flush close filling).batches) =
      (.ok (closeAll limits close (parts ++ fill limits.Fits pending items)) : Except ε _) := by
  induction items generalizing parts pending with
  | nil =>
    change Except.ok (flush close (reached limits close parts pending)).batches = _
    by_cases fresh : pending = []
    · simp [flush, reached, fill, fresh]
    · rw [flush_reached limits close parts fresh, fill, if_neg fresh]
      rfl
  | cons _ _ ih =>
    rw [forall_mem_cons] at small
    rw [foldlM_cons, place_reached limits close tooLarge parts pending small.1, fill]
    split
    · exact (ih _ _ small.2).trans (by rw [append_assoc, singleton_append])
    · exact ih _ _ small.2

variable {limits close tooLarge} {items : List α}

theorem small_of_placed {filling last : Filling α β M}
    (placed : items.foldlM (place limits close tooLarge) filling = .ok last) :
    ∀ item ∈ items, limits.size item ≤ limits.maxSize := by
  induction items generalizing filling with
  | nil => exact nofun
  | cons _ _ ih =>
    obtain ⟨between, first, rest⟩ := Fallible.bind_eq_ok.mp placed
    exact forall_mem_cons.mpr ⟨not_not.mp (Fallible.ite_error_eq_ok.mp first).1, ih rest⟩

/-- The planner closes the greedy batches of its items, unless one is too large by itself. -/
theorem plan_eq_ok {batches : List β} : plan limits close tooLarge items = .ok batches ↔
      (∀ item ∈ items, limits.size item ≤ limits.maxSize) ∧
        batches = closeAll limits close (fill limits.Fits [] items) := by
  have filled := fun small => fill_reached limits close tooLarge [] [] items small
  constructor
  · intro planned
    obtain ⟨last, placed, _⟩ := Fallible.bind_eq_ok.mp planned
    have small := small_of_placed placed
    exact ⟨small, Except.ok.inj (planned.symm.trans (filled small))⟩
  · rintro ⟨small, rfl⟩
    exact filled small

theorem plan_packed [CanonicallyOrderedAdd M] (room : 0 < limits.maxItems)
    (small : ∀ item ∈ items, limits.size item ≤ limits.maxSize) :
    Packed limits.Fits items (fill limits.Fits [] items) := by
  refine fill_packed (fits_of_inside limits) fun item listed => ⟨room, ?_⟩
  rw [total, map_singleton, sum_singleton]
  exact small item listed

end Planner

end BackendHandbook.Batching
