import BackendHandbook.Foundation.Dict
import Mathlib.Algebra.Order.BigOperators.Group.List
import Mathlib.Algebra.Order.Group.Int
import Mathlib.Tactic.Abel

/-! What the entries of a table amount to for each of their owners. -/

namespace BackendHandbook.Dict

open List

variable {κ α τ M : Type} [DecidableEq κ] [DecidableEq τ] [AddCommGroup M]

def owned (dict : Dict κ α) (owner : α → τ) (share : κ → M) (who : τ) : M :=
  (dict.entries.map fun entry => if owner entry.2 = who then share entry.1 else 0).sum

variable (table : Dict κ M)

/-- What a table of amounts holds under a key: nothing where there is no entry. -/
def held (key : κ) : M := (table.lookup key).getD 0

theorem held_insert (key other : κ) (amount : M) :
    held (table.insert key amount) other = if other = key then amount else table.held other := by
  simp only [held, lookup_insert_eq]
  by_cases same : other = key
  · simp [same]
  · simp [same]

theorem held_erase (key other : κ) :
    held (table.erase key) other = if other = key then 0 else table.held other := by
  by_cases same : other = key
  · rw [if_pos same, same, held, AList.lookup_erase]
    rfl
  · rw [if_neg same, held, held, AList.lookup_erase_ne same]

theorem held_of_absent {table : Dict κ M} {key : κ} (absent : table.lookup key = none) :
    table.held key = 0 := by
  simp [held, absent]

variable {dict : Dict κ α} {owner : α → τ} {first second share : κ → M} {who : τ}
variable {key : κ} {value old : α}

omit [DecidableEq κ] in
@[simp] theorem owned_empty : owned (∅ : Dict κ α) owner share who = 0 := by
  simp [owned]

theorem owned_insert_of_absent (absent : dict.lookup key = none) :
    owned (dict.insert key value) owner share who =
      (if owner value = who then share key else 0) + owned dict owner share who := by
  have missing : key ∉ dict := AList.lookup_eq_none.mp absent
  simp only [owned, AList.entries_insert_of_notMem missing, map_cons, sum_cons]

theorem entries_perm (found : dict.lookup key = some value) :
    dict.entries.Perm (⟨key, value⟩ :: kerase key dict.entries) ∧
      ∀ entry ∈ kerase key dict.entries, entry.1 ≠ key := by
  have listed : (⟨key, value⟩ : Sigma fun _ : κ => α) ∈ dict.entries :=
    AList.mem_lookup_iff.mp found
  rcases exists_of_kerase (mem_keys_of_mem listed) with
    ⟨stored, _, _, _, split, erased⟩
  have inside : (⟨key, stored⟩ : Sigma fun _ : κ => α) ∈ dict.entries := by
    simp [split]
  have same : stored = value := Option.some.inj ((AList.mem_lookup_iff.mpr inside).symm.trans found)
  constructor
  · rw [erased]
    nth_rewrite 1 [split]
    rw [same]
    exact perm_middle
  · intro entry member equal
    have other : entry.1 ∈ (kerase key dict.entries).keys := mem_keys_of_mem member
    rw [equal] at other
    exact notMem_keys_kerase key dict.nodupKeys other

theorem size_erase (found : dict.lookup key = some value) : size (dict.erase key) + 1 = dict.size :=
  (entries_perm found).1.length_eq.symm

theorem owned_eq (found : dict.lookup key = some value) :
    owned dict owner share who = (if owner value = who then share key else 0) +
      ((kerase key dict.entries).map
        fun entry => if owner entry.2 = who then share entry.1 else 0).sum := by
  have listed := (entries_perm found).1
  have mapped := listed.map fun entry => if owner entry.2 = who then share entry.1 else 0
  rw [owned, mapped.sum_eq]
  simp

/-- Among quantities that are not negative, one entry has at most the total. -/
theorem le_total {quantity : α → Int} (nonneg : ∀ stored ∈ dict.values, 0 ≤ quantity stored)
    (found : dict.lookup key = some value) : quantity value ≤ dict.total quantity := by
  rcases entries_perm found with ⟨listed, _⟩
  have mapped := (listed.map (·.2)).map quantity
  have rest : 0 ≤ (((kerase key dict.entries).map (·.2)).map quantity).sum := by
    apply sum_nonneg
    intro amount member
    rcases mem_map.mp member with ⟨_, inside, rfl⟩
    rcases mem_map.mp inside with ⟨entry, kept, rfl⟩
    exact nonneg _ (mem_map.mpr ⟨entry, (listed.mem_iff).mpr (mem_cons_of_mem _ kept), rfl⟩)
  rw [total, values, mapped.sum_eq]
  simp only [map_cons, sum_cons]
  omega

omit [DecidableEq κ] in
theorem total_eq_zero {quantity : α → M} (zero : ∀ stored ∈ dict.values, quantity stored = 0) :
    dict.total quantity = 0 := by
  apply sum_eq_zero
  intro amount member
  rcases mem_map.mp member with ⟨stored, inside, rfl⟩
  exact zero stored inside

theorem owned_congr (same : ∀ key value, dict.lookup key = some value → owner value = who →
    first key = second key) : owned dict owner first who = owned dict owner second who := by
  have mapped : dict.entries.map (fun entry => if owner entry.2 = who then first entry.1 else 0) =
      dict.entries.map fun entry => if owner entry.2 = who then second entry.1 else 0 := by
    apply map_congr_left
    intro entry member
    by_cases holds : owner entry.2 = who
    · have equal := same entry.1 entry.2 (AList.mem_lookup_iff.mpr member) holds
      simp [equal]
    · simp [if_neg holds]
  simp [owned, mapped]

theorem owned_change (found : dict.lookup key = some value)
    (others : ∀ other, other ≠ key → second other = first other) :
    owned dict owner second who = owned dict owner first who +
      if owner value = who then second key - first key else 0 := by
  have rest : (kerase key dict.entries).map
      (fun entry => if owner entry.2 = who then second entry.1 else 0) =
      (kerase key dict.entries).map
        fun entry => if owner entry.2 = who then first entry.1 else 0 := by
    apply map_congr_left
    intro entry member
    simp [others entry.1 ((entries_perm found).2 entry member)]
  rw [owned_eq found, owned_eq found, rest]
  by_cases holds : owner value = who
  · simp only [if_pos holds]
    abel
  · simp only [if_neg holds]
    abel

variable {amount : M}

theorem owned_write {table : Dict κ M} (found : dict.lookup key = some value) :
    owned dict owner (held (table.insert key amount)) who = owned dict owner table.held who +
      if owner value = who then amount - table.held key else 0 := by
  have others : ∀ other, other ≠ key → held (table.insert key amount) other = table.held other := by
    intro other different
    rw [held_insert, if_neg different]
  rw [owned_change found others, held_insert, if_pos rfl]

/-- An amount written with its new entry. -/
theorem owned_enter {table : Dict κ M} (absent : dict.lookup key = none) :
    owned (dict.insert key value) owner (held (table.insert key amount)) who =
      owned dict owner table.held who + if owner value = who then amount else 0 := by
  have others : owned dict owner (held (table.insert key amount)) who =
      owned dict owner table.held who := by
    apply owned_congr
    intro other stored found _
    have different : other ≠ key := ne_of_absent absent found
    rw [held_insert, if_neg different]
  rw [owned_insert_of_absent absent, others, held_insert, if_pos rfl, add_comm]

/-- An entry that keeps its owner keeps what the owner has. -/
theorem owned_insert_of_present (found : dict.lookup key = some old)
    (kept : owner value = owner old) :
    owned (dict.insert key value) owner share who = owned dict owner share who := by
  rw [owned_eq found]
  simp [owned, kept]

end BackendHandbook.Dict
