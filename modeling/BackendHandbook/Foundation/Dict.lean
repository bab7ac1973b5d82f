import Mathlib.Algebra.BigOperators.Group.List.Basic
import Mathlib.Data.List.AList

/-! Finite maps with the write rules of a keyed record store. -/

namespace BackendHandbook

abbrev Dict (κ : Type) (α : Type) := AList fun _ : κ => α

namespace Dict

variable {κ α : Type} [DecidableEq κ]
variable (dict : Dict κ α)

/-- Keep the value already stored under the key. -/
def setdefault (key : κ) (value : α) : Dict κ α :=
  if (dict.lookup key).isSome then dict else dict.insert key value

def size : Nat := dict.entries.length

def values : List α := dict.entries.map (·.2)

def total {M : Type} [AddMonoid M] (quantity : α → M) (dict : Dict κ α) : M :=
  (dict.values.map quantity).sum

variable (dict : Dict κ α) (key other : κ) (value : α)

theorem lookup_insert_eq : (dict.insert key value).lookup other =
      if other = key then some value else dict.lookup other := by
  split
  · next same => subst same; exact AList.lookup_insert dict
  · next different => exact AList.lookup_insert_ne different

variable {dict key value} in
/-- What holds of the entry that is written and of the ones before holds of all. -/
theorem forall_insert {P : κ → α → Prop} (written : P key value)
    (all : ∀ other stored, dict.lookup other = some stored → P other stored) :
    ∀ other stored, (dict.insert key value).lookup other = some stored → P other stored := by
  intro other stored found
  rw [lookup_insert_eq] at found
  split at found
  · next same =>
    cases found
    exact same ▸ written
  · exact all other stored found

variable {dict key other value} in
theorem ne_of_absent (absent : dict.lookup key = none) (found : dict.lookup other = some value) :
    other ≠ key := by
  rintro rfl
  rw [absent] at found
  cases found

variable {dict key other} in
theorem isSome_insert (held : (dict.lookup other).isSome) :
    ((dict.insert key value).lookup other).isSome := by
  rw [lookup_insert_eq]
  split
  · rfl
  · exact held

theorem lookup_setdefault : (dict.setdefault key value).lookup other =
      if other = key then some ((dict.lookup key).getD value) else dict.lookup other := by
  unfold setdefault
  cases found : dict.lookup key with
  | none => simp [lookup_insert_eq]
  | some =>
    simp only [Option.isSome_some, if_true, Option.getD_some]
    split
    · next same => rw [same, found]
    · rfl

@[simp] theorem lookup_empty (key : κ) : AList.lookup key (∅ : Dict κ α) = none :=
  AList.lookup_empty key

variable (dict : Dict κ α)

theorem setdefault_of_present (key : κ) (value : α)
    (present : (dict.lookup key).isSome) : dict.setdefault key value = dict := by
  simp [setdefault, present]

theorem lookup_setdefault_of_some (key other : κ) (value stored : α)
    (found : dict.lookup other = some stored) :
    (dict.setdefault key value).lookup other = some stored := by
  rw [lookup_setdefault]
  split
  · next same => subst same; simp [found]
  · exact found

theorem size_insert_of_absent (key : κ) (value : α)
    (absent : dict.lookup key = none) : size (dict.insert key value) = dict.size + 1 := by
  have missing : key ∉ dict := AList.lookup_eq_none.mp absent
  simp only [size, AList.entries_insert_of_notMem missing, List.length_cons]

theorem mem_values {dict : Dict κ α} {value : α} :
    value ∈ dict.values ↔ ∃ key, dict.lookup key = some value := by
  constructor
  · intro member
    rcases List.mem_map.mp member with ⟨entry, inside, rfl⟩
    exact ⟨entry.1, AList.mem_lookup_iff.mpr inside⟩
  · intro found
    rcases found with ⟨key, stored⟩
    exact List.mem_map.mpr ⟨⟨key, value⟩, AList.mem_lookup_iff.mp stored, rfl⟩

section Total

variable {M : Type} [AddCommMonoid M] (quantity : α → M)

theorem total_insert_of_absent (dict : Dict κ α) (key : κ) (value : α)
    (absent : dict.lookup key = none) :
    total quantity (dict.insert key value) = quantity value + dict.total quantity := by
  have missing : key ∉ dict := AList.lookup_eq_none.mp absent
  simp only [total, values, AList.entries_insert_of_notMem missing, List.map_cons, List.sum_cons]

/-- A new value under a key exchanges the share of the old one. -/
theorem total_insert_of_present (dict : Dict κ α) (key : κ) (value old : α)
    (found : dict.lookup key = some old) : total quantity (dict.insert key value) + quantity old =
      quantity value + dict.total quantity := by
  have listed : (⟨key, old⟩ : Sigma fun _ : κ => α) ∈ dict.entries := AList.mem_lookup_iff.mp found
  rcases List.exists_of_kerase (List.mem_keys_of_mem listed) with
    ⟨stored, _, _, _, split, erased⟩
  have same : stored = old := by
    have inside : (⟨key, stored⟩ : Sigma fun _ : κ => α) ∈ dict.entries := by
      rw [split]
      exact List.mem_append_right _ List.mem_cons_self
    have other : dict.lookup key = some stored := AList.mem_lookup_iff.mpr inside
    exact Option.some.inj (other.symm.trans found)
  subst same
  unfold total values
  rw [AList.entries_insert, erased, split]
  simp only [List.map_cons, List.map_append, List.sum_cons, List.sum_append]
  ac_rfl

end Total

end Dict
end BackendHandbook

/-! Records that are bound for good, and change only while they are open. -/

namespace BackendHandbook.Dict

variable {κ α β : Type} [DecidableEq κ]

/-- An entry outlives the insertion of one that is absent, or the same. -/
theorem lookup_insert_kept {dict : Dict κ α} {key other : κ} {value stored : α}
    (free : dict.lookup key = none ∨ dict.lookup key = some value)
    (held : dict.lookup other = some stored) :
    (dict.insert key value).lookup other = some stored := by
  rw [lookup_insert_eq]
  split
  · next same =>
    rw [same] at held
    rcases free with absent | present
    · rw [absent] at held
      cases held
    · exact present.symm.trans held
  · exact held

/-- No record is removed or bound anew, and one that is not open any more stays. -/
def Kept (bound : α → β) (Open : α → Prop) (before after : Dict κ α) : Prop :=
  ∀ key record, before.lookup key = some record →
    ∃ later, after.lookup key = some later ∧ bound later = bound record ∧
      (¬ Open record → later = record)

variable {bound : α → β} {Open : α → Prop} {dict early middle late : Dict κ α}
variable {key : κ} {record later : α}

namespace Kept

theorem refl (dict : Dict κ α) : Kept bound Open dict dict :=
  fun _ record held => ⟨record, held, rfl, fun _ => rfl⟩

theorem trans (first : Kept bound Open early middle) (second : Kept bound Open middle late) :
    Kept bound Open early late := by
  intro key record held
  rcases first key record held with ⟨between, kept, same, stays⟩
  rcases second key between kept with ⟨last, stands, again, rests⟩
  refine ⟨last, stands, again.trans same, fun done => ?_⟩
  have stayed := stays done
  rw [← stayed] at done ⊢
  exact rests done

theorem stays (kept : Kept bound Open early late) (found : early.lookup key = some record)
    (closed : ¬ Open record) : late.lookup key = some record := by
  rcases kept key record found with ⟨_, stands, _, same⟩
  rwa [same closed] at stands

theorem insert_absent (absent : dict.lookup key = none) :
    Kept bound Open dict (dict.insert key record) := by
  intro other held found
  refine ⟨held, ?_, rfl, fun _ => rfl⟩
  rw [lookup_insert_eq]
  split
  · next same =>
    rw [same, absent] at found
    cases found
  · exact found

theorem insert_open (found : dict.lookup key = some record) (opened : Open record)
    (same : bound later = bound record) : Kept bound Open dict (dict.insert key later) := by
  intro other held stands
  rw [lookup_insert_eq]
  split
  · next keys =>
    rw [keys, found] at stands
    cases stands
    exact ⟨later, rfl, same, fun closed => absurd opened closed⟩
  · exact ⟨held, stands, rfl, fun _ => rfl⟩

end Kept

end BackendHandbook.Dict

/-! Stored values with a version: it only grows, and it tells what is stored. -/

namespace BackendHandbook

/-- What was stored is stored still, or a later version of it is. -/
def Supersedes {α V : Type} [LE V] (version : α → V) (before after : Option α) : Prop :=
  ∀ old ∈ before, ∃ new ∈ after, version old ≤ version new ∧ (version old = version new → old = new)

namespace Supersedes

section Preorder

variable {α V : Type} [Preorder V] {version : α → V}

theorem refl (stored : Option α) : Supersedes version stored stored :=
  fun old held => ⟨old, held, le_refl _, fun _ => rfl⟩

/-- A value with the version of an earlier one is that one. -/
theorem same {before after : Option α} (supersedes : Supersedes version before after)
    {old new : α} (held : before = some old) (stored : after = some new)
    (versions : version old = version new) : old = new := by
  rcases supersedes old held with ⟨_, found, _, equal⟩
  rw [stored] at found
  cases found
  exact equal versions

theorem le {before after : Option α} (supersedes : Supersedes version before after)
    {old new : α} (held : before = some old) (stored : after = some new) :
    version old ≤ version new := by
  rcases supersedes old held with ⟨_, found, grown, _⟩
  rw [stored] at found
  cases found
  exact grown

end Preorder

section PartialOrder

variable {α V : Type} [PartialOrder V] {version : α → V} {early middle late : Option α}

theorem trans (first : Supersedes version early middle)
    (second : Supersedes version middle late) : Supersedes version early late := by
  intro old held
  rcases first old held with ⟨between, kept, grown, same⟩
  rcases second between kept with ⟨new, stored, grows, equal⟩
  refine ⟨new, stored, le_trans grown grows, ?_⟩
  intro versions
  have back : version between ≤ version old := versions ▸ grows
  have first := le_antisymm grown back
  exact (same first).trans (equal (first.symm.trans versions))

/-- Between two moments with one version, nothing else has been stored. -/
theorem between (first : Supersedes version early middle)
    (second : Supersedes version middle late) {old new : α} (held : early = some old)
    (stored : late = some new) (versions : version old = version new) : middle = some old := by
  rcases first old held with ⟨_, kept, grown, same⟩
  have grows := second.le kept stored
  rw [← versions] at grows
  rw [same (le_antisymm grown grows)]
  exact kept

end PartialOrder

end Supersedes

variable {κ α V : Type}

def DictSupersedes [DecidableEq κ] [LE V] (version : α → V) (before after : Dict κ α) : Prop :=
  ∀ key, Supersedes version (before.lookup key) (after.lookup key)

theorem DictSupersedes.refl [DecidableEq κ] [Preorder V] {version : α → V}
    (dict : Dict κ α) : DictSupersedes version dict dict :=
  fun key => Supersedes.refl (dict.lookup key)

theorem DictSupersedes.trans [DecidableEq κ] [PartialOrder V] {version : α → V}
    {early middle late : Dict κ α} (first : DictSupersedes version early middle)
    (second : DictSupersedes version middle late) : DictSupersedes version early late :=
  fun key => (first key).trans (second key)

/-- Writing one key supersedes if it does so there. -/
theorem DictSupersedes.insert [DecidableEq κ] [Preorder V] {version : α → V}
    {dict : Dict κ α} {key : κ} {value : α}
    (here : Supersedes version (dict.lookup key) (some value)) :
    DictSupersedes version dict (dict.insert key value) := by
  intro other
  rw [Dict.lookup_insert_eq]
  split
  · next same => exact same ▸ here
  · exact Supersedes.refl _

end BackendHandbook
