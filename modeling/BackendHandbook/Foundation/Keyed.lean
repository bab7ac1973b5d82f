import Mathlib.Data.List.Dedup

/-! Dictionaries written as comprehensions, `{key(item): item for item in items}`. -/

namespace BackendHandbook.Keyed

variable {α κ : Type} [DecidableEq κ] (key : α → κ)

/-- What such a dictionary holds under a key: of equal keys the last item counts. -/
def get (items : List α) (sought : κ) : Option α :=
  items.reverse.find? fun item => decide (key item = sought)

/-- Its values in order: a key stands where it was first met. -/
def values (items : List α) : List α := (items.map key).eraseDups.filterMap (get key items)

variable {key} {items : List α} {item : α} {sought : κ}

theorem mem_of_get (found : get key items sought = some item) : item ∈ items :=
  List.mem_reverse.mp (List.mem_of_find?_eq_some found)

theorem key_of_get (found : get key items sought = some item) : key item = sought := by
  have held := List.find?_some found
  exact of_decide_eq_true held

theorem exists_of_mem (inside : item ∈ items) : ∃ held, get key items (key item) = some held := by
  have present : (get key items (key item)).isSome = true := by
    rw [get, List.find?_isSome]
    exact ⟨item, List.mem_reverse.mpr inside, decide_eq_true rfl⟩
  exact Option.isSome_iff_exists.mp present

theorem get_of_mem (distinct : (items.map key).Nodup) (inside : item ∈ items) :
    get key items (key item) = some item := by
  obtain ⟨held, found⟩ : ∃ held, get key items (key item) = some held := exists_of_mem inside
  have same : held = item :=
    List.inj_on_of_nodup_map distinct (mem_of_get found) inside (key_of_get found)
  rw [found, same]

theorem mem_values : item ∈ values key items ↔ get key items (key item) = some item := by
  constructor
  · intro inside
    obtain ⟨_, _, found⟩ := List.mem_filterMap.mp inside
    rw [key_of_get found]
    exact found
  · intro found
    refine List.mem_filterMap.mpr ⟨key item, ?_, found⟩
    rw [List.mem_eraseDups]
    exact List.mem_map_of_mem (mem_of_get found)

theorem mem_of_mem_values (inside : item ∈ values key items) : item ∈ items :=
  mem_of_get (mem_values.mp inside)

/-- Looking several keys up succeeds exactly when every one of them is found. -/
theorem mapM_eq_some {β : Type} {find : α → Option β} {sought : List α} {found : List β} :
    sought.mapM find = some found ↔
      List.Forall₂ (fun one other => find one = some other) sought found := by
  induction sought generalizing found with
  | nil =>
    rw [List.mapM_nil, List.forall₂_nil_left_iff]
    exact ⟨fun done => (Option.some.inj done).symm, fun done => congrArg _ done.symm⟩
  | cons _ _ ih =>
    rw [List.mapM_cons, List.forall₂_cons_left_iff]
    constructor
    · intro done
      obtain ⟨other, first, done⟩ := Option.bind_eq_some_iff.mp done
      obtain ⟨others, mapped, same⟩ := Option.bind_eq_some_iff.mp done
      exact ⟨other, others, first, ih.mp mapped, (Option.some.inj same).symm⟩
    · rintro ⟨other, others, first, mapped, rfl⟩
      exact Option.bind_eq_some_iff.mpr
        ⟨other, first, Option.bind_eq_some_iff.mpr ⟨others, ih.mpr mapped, rfl⟩⟩

end BackendHandbook.Keyed
