import Mathlib.Data.List.Pairwise
import Mathlib.Data.List.Sort

/-! Stable sorting by a key, as `sort(key=...)` does it. -/

namespace BackendHandbook.Sorting

open List

variable {α β : Type} [LinearOrder β]
variable (key : α → β) (items : List α)

def sortBy : List α := items.insertionSort fun first second => key first ≤ key second

theorem sortBy_perm : (sortBy key items).Perm items := perm_insertionSort _ items

@[simp] theorem mem_sortBy (item : α) : item ∈ sortBy key items ↔ item ∈ items :=
  (sortBy_perm key items).mem_iff

@[simp] theorem length_sortBy : (sortBy key items).length = items.length :=
  (sortBy_perm key items).length_eq

theorem pairwise_sortBy :
    (sortBy key items).Pairwise fun first second => key first ≤ key second := by
  exact pairwise_insertionSort _ items

theorem sortBy_of_pairwise (key : α → β) {items : List α}
    (ordered : items.Pairwise fun first second => key first ≤ key second) :
    sortBy key items = items :=
  ordered.insertionSort_eq

/-- Items sort the same way as what they are mapped to, where the keys agree. -/
theorem map_sortBy {γ : Type} {key : α → β} {other : γ → β} {f : α → γ} {items : List α}
    (same : ∀ item ∈ items, other (f item) = key item) :
    (sortBy key items).map f = sortBy other (items.map f) := by
  apply map_insertionSort _ _ f items
  intro first inside second member
  rw [same first inside, same second member]

theorem lookup_orderedInsert {γ : Type} [BEq β] [LawfulBEq β] (entry : β × γ)
    (entries : List (β × γ)) (sought : β) :
    (entries.orderedInsert (fun first second => first.1 ≤ second.1) entry).lookup sought =
      (entry :: entries).lookup sought := by
  induction entries with
  | nil => rfl
  | cons head _ ih =>
    rw [orderedInsert_cons]
    split
    · rfl
    · next behind =>
      have different : entry.1 ≠ head.1 := fun same => behind same.le
      obtain ⟨first, _⟩ := entry
      obtain ⟨second, _⟩ := head
      rw [lookup_cons, ih, lookup_cons, lookup_cons]
      cases here : sought == first with
      | false => rfl
      | true =>
        have there : (sought == second) = false := by
          rw [beq_eq_false_iff_ne, eq_of_beq here]
          exact different
        rw [there]

/-- Sorting the entries of a mapping by their keys changes nothing that it holds. -/
theorem lookup_sortBy {γ : Type} [BEq β] [LawfulBEq β] (entries : List (β × γ)) (sought : β) :
    (sortBy Prod.fst entries).lookup sought = entries.lookup sought := by
  induction entries with
  | nil => rfl
  | cons entry rest ih =>
    change (orderedInsert _ entry (sortBy Prod.fst rest)).lookup sought = _
    rw [lookup_orderedInsert]
    rw [lookup_cons, lookup_cons, ih]

/-- Sorting forgets the order of items that the key tells apart. -/
theorem sortBy_eq_of_perm {key : α → β} {items others : List α} (perm : items.Perm others)
    (apart : ∀ first ∈ others, ∀ second ∈ others, key first = key second → first = second) :
    sortBy key items = sortBy key others := by
  refine List.Perm.eq_of_pairwise ?_ (pairwise_sortBy key items) (pairwise_sortBy key others)
    ((sortBy_perm key items).trans (perm.trans (sortBy_perm key others).symm))
  intro first second here there below above
  rw [mem_sortBy] at here there
  exact apart first (perm.mem_iff.mp here) second there (le_antisymm below above)

/-- By a key that tells all items apart, sorting forgets their order and nothing else. -/
theorem sortBy_eq_iff_perm {key : α → β} (injective : Function.Injective key)
    {items others : List α} : sortBy key items = sortBy key others ↔ items.Perm others := by
  constructor
  · intro same
    have back := sortBy_perm key others
    rw [← same] at back
    exact (sortBy_perm key items).symm.trans back
  · intro perm
    exact sortBy_eq_of_perm perm fun _ _ _ _ same => injective same

section Rearranged

variable {γ : Type} {R : γ → γ → Prop} {items : List γ}

variable {rank : γ → Nat}

theorem pairwise_of_comparable
    (ranked : ∀ first second, R second first → rank second ≤ rank first → R first second)
    (comparable : ∀ first ∈ items, ∀ second ∈ items, R first second ∨ R second first) :
    (sortBy (fun item => OrderDual.toDual (rank item)) items).Pairwise R := by
  refine List.Pairwise.imp_of_mem ?_ (pairwise_sortBy _ items)
  intro first second member inside below
  rcases comparable first (by simpa using member) second (by simpa using inside) with held | held
  · exact held
  · exact ranked first second held below

/-- Whether a list is pairwise related depends on its order, unless everything in it is related or
two of its members are not, either way round. -/
theorem pairwise_rearranged_iff (refl : ∀ item, R item item)
    (ranked : ∀ first second, R second first → rank second ≤ rank first → R first second) :
    (∀ others, List.Perm others items → (others.Pairwise R ↔ items.Pairwise R)) ↔
      (∀ first ∈ items, ∀ second ∈ items, R first second) ∨
        ∃ first ∈ items, ∃ second ∈ items, ¬ R first second ∧ ¬ R second first := by
  constructor
  · intro free
    by_cases comparable : ∀ first ∈ items, ∀ second ∈ items, R first second ∨ R second first
    · left
      intro first member second inside
      by_contra apart
      have ordered : items.Pairwise R :=
        (free _ (sortBy_perm _ items)).mp (pairwise_of_comparable ranked comparable)
      obtain ⟨before, after, rfl⟩ := append_of_mem member
      have other : second ∈ before ++ after := by
        rcases mem_append.mp inside with early | late
        · exact mem_append_left _ early
        · rcases mem_cons.mp late with rfl | late
          · exact absurd (refl second) apart
          · exact mem_append_right _ late
      -- In the order that starts with the two of them the relation fails at once.
      have turned := (free (first :: (before ++ after)) perm_middle.symm).mpr ordered
      exact apart (rel_of_pairwise_cons turned other)
    · right
      push Not at comparable
      exact comparable
  · rintro (every | ⟨first, member, second, inside, apart⟩) _ perm
    · refine ⟨fun _ => pairwise_of_forall_mem_list every, fun _ => ?_⟩
      refine pairwise_of_forall_mem_list fun one here other there => ?_
      exact every one (perm.mem_iff.mp here) other (perm.mem_iff.mp there)
    · have broken : ∀ {order : List γ}, first ∈ order → second ∈ order → ¬ order.Pairwise R := by
        intro order here there related
        have symmetric : Std.Symm fun one other => R one other ∨ R other one := ⟨fun _ _ => Or.symm⟩
        have either : order.Pairwise fun one other => R one other ∨ R other one := related.imp .inl
        rcases either.forall_of_forall (fun item _ => .inl (refl item)) here there with held | held
        · exact apart.1 held
        · exact apart.2 held
      exact iff_of_false (broken (perm.mem_iff.mpr member) (perm.mem_iff.mpr inside))
        (broken member inside)

end Rearranged

end BackendHandbook.Sorting
