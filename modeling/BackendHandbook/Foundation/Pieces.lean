import Mathlib.Data.List.SplitBy

/-! A list cut into pieces: where each piece lies, and what a slice along the cuts holds. -/

namespace BackendHandbook.Pieces

variable {α : Type}

def slice (items : List α) (start end_ : Nat) : List α := (items.drop start).take (end_ - start)

def cut (pieces : List (List α)) (index : Nat) : Nat := (pieces.take index).flatten.length

def intervalsFrom (offset : Nat) : List (List α) → List (Nat × Nat)
  | [] => []
  | piece :: pieces =>
    (offset, offset + piece.length) :: intervalsFrom (offset + piece.length) pieces

variable (items : List α)

variable {start end_ : Nat}

theorem length_slice (within : end_ ≤ items.length) :
    (slice items start end_).length = end_ - start := by
  simp only [slice, List.length_take, List.length_drop]
  omega

theorem slice_append_slice {middle : Nat} (first : start ≤ middle) (second : middle ≤ end_) :
    slice items start middle ++ slice items middle end_ = slice items start end_ := by
  have whole : items.drop middle = (items.drop start).drop (middle - start) := by
    rw [List.drop_drop, Nat.add_sub_cancel' first]
  have total : end_ - start = (middle - start) + (end_ - middle) := by omega
  rw [slice, slice, slice, whole, total, List.take_add]

theorem take_append_slice (order : start ≤ end_) :
    items.take start ++ slice items start end_ = items.take end_ := by
  have parts := slice_append_slice items (Nat.zero_le start) order
  simpa [slice] using parts

theorem map_slice {β : Type} (f : α → β) (items : List α) (start end_ : Nat) :
    (slice items start end_).map f = slice (items.map f) start end_ := by
  rw [slice, slice, List.map_take, List.map_drop]

theorem mem_of_mem_slice {items : List α} {item : α}
    (member : item ∈ slice items start end_) : item ∈ items :=
  List.mem_of_mem_drop (List.mem_of_mem_take member)

variable (pieces : List (List α))

variable {index : Nat}

theorem cut_of_length_le (past : pieces.length ≤ index) :
    cut pieces index = pieces.flatten.length := by
  rw [cut, List.take_of_length_le past]

theorem cut_add (order : start ≤ end_) :
    cut pieces end_ = cut pieces start + (slice pieces start end_).flatten.length := by
  rw [cut, cut, ← take_append_slice pieces order, List.flatten_append, List.length_append]

theorem cut_mono (order : start ≤ end_) : cut pieces start ≤ cut pieces end_ := by
  rw [cut_add pieces order]
  exact Nat.le_add_right _ _

theorem cut_le (index : Nat) : cut pieces index ≤ pieces.flatten.length := by
  have whole := cut_of_length_le pieces (Nat.le_max_right index pieces.length)
  rw [← whole]
  exact cut_mono pieces (Nat.le_max_left index pieces.length)

theorem cut_succ (within : index < pieces.length) :
    cut pieces (index + 1) = cut pieces index + pieces[index].length := by
  rw [cut, cut, List.take_add_one, List.getElem?_eq_getElem within, List.flatten_append]
  simp

/-- Pieces that are not empty are cut at different places. -/
theorem cut_lt (nonempty : [] ∉ pieces) (order : start < end_) (within : start < pieces.length) :
    cut pieces start < cut pieces end_ := by
  have piece : 0 < pieces[start].length := by
    apply List.length_pos_iff.mpr
    intro empty
    exact nonempty (empty ▸ List.getElem_mem within)
  have next := cut_succ pieces within
  have later : cut pieces (start + 1) ≤ cut pieces end_ := cut_mono pieces order
  omega

/-- Cutting along the cuts gives back whole pieces. -/
theorem slice_cut (order : start ≤ end_) :
    slice pieces.flatten (cut pieces start) (cut pieces end_) =
      (slice pieces start end_).flatten := by
  have parts : pieces.flatten =
      (pieces.take start).flatten ++ ((slice pieces start end_).flatten ++
        (pieces.drop end_).flatten) := by
    calc
      pieces.flatten = (pieces.take end_ ++ pieces.drop end_).flatten := by
        rw [List.take_append_drop]
      _ = _ := by
        rw [← take_append_slice pieces order, List.flatten_append, List.flatten_append,
          List.append_assoc]
  have width : cut pieces end_ - cut pieces start = (slice pieces start end_).flatten.length := by
    rw [cut_add pieces order, Nat.add_sub_cancel_left]
  rw [slice, width]
  conv_lhs => rw [parts]
  rw [cut, List.drop_left, List.take_left]

@[simp] theorem length_intervalsFrom (offset : Nat) :
    (intervalsFrom offset pieces).length = pieces.length := by
  induction pieces generalizing offset with
  | nil => rfl
  | cons _ _ ih => simp [intervalsFrom, ih]

theorem getElem?_intervalsFrom (offset index : Nat) (within : index < pieces.length) :
    (intervalsFrom offset pieces)[index]? =
      some (offset + cut pieces index, offset + cut pieces (index + 1)) := by
  induction pieces generalizing offset index with
  | nil => cases within
  | cons _ pieces ih =>
    cases index with
    | zero => simp [intervalsFrom, cut]
    | succ index =>
      have inside : index < pieces.length := by simpa using within
      simp [intervalsFrom, ih _ _ inside, cut, Nat.add_assoc]

section Runs

variable (related : α → α → Bool)

/-- A slice of the runs of a list is cut into the same runs again. -/
theorem splitBy_slice (items : List α) (start end_ : Nat) :
    (slice (items.splitBy related) start end_).flatten.splitBy related =
      slice (items.splitBy related) start end_ := by
  apply List.splitBy_flatten
  · intro empty
    exact List.nil_notMem_splitBy related items (mem_of_mem_slice empty)
  · intro run member
    exact List.isChain_of_mem_splitBy (mem_of_mem_slice member)
  · exact ((List.isChain_getLast_head_splitBy related items).drop start).take _

/-- The part of a list between two cuts of its runs has just the runs between them. -/
theorem splitBy_slice_cut (items : List α) (order : start ≤ end_) :
    (slice items (cut (items.splitBy related) start)
      (cut (items.splitBy related) end_)).splitBy related =
      slice (items.splitBy related) start end_ := by
  have pieces := slice_cut (items.splitBy related) order
  rw [List.flatten_splitBy] at pieces
  rw [pieces, splitBy_slice]

end Runs

end BackendHandbook.Pieces

/-! Windows that advance over a list and share a fixed number of items with their neighbours. -/

namespace BackendHandbook.Windows

open Pieces

variable {α : Type} {overlap total : Nat}

/-- Windows over `total` items from a first one on: each but the first starts `overlap` items
before the end of the one before it, and the last one ends with the items. -/
inductive Covers (overlap total : Nat) : Nat → List (Nat × Nat) → Prop
  | last {start : Nat} (inside : start < total) : Covers overlap total start [(start, total)]
  | next {start end_ : Nat} {windows : List (Nat × Nat)} (advances : start + overlap < end_)
      (inside : end_ < total) (rest : Covers overlap total (end_ - overlap) windows) :
      Covers overlap total start ((start, end_) :: windows)

/-- How a window relates to the one after it. -/
def Follows (overlap : Nat) (first second : Nat × Nat) : Prop :=
  first.1 < second.1 ∧ first.2 < second.2 ∧ second.1 + overlap = first.2

/-- The windows put together, the shared items of all but the first removed. -/
def stitch (overlap : Nat) : List (List α) → List α
  | [] => []
  | first :: rest => first ++ (rest.map (List.drop overlap)).flatten

variable {start : Nat} {windows : List (Nat × Nat)}

section

variable (covers : Covers overlap total start windows)
include covers

/-- A window list is never empty: it starts where it says and reaches past the shared items. -/
theorem Covers.head : ∃ end_ rest, windows = (start, end_) :: rest ∧ start < end_ ∧ end_ ≤ total ∧
      (end_ = total ∨ start + overlap < end_) := by
  cases covers with
  | last inside => exact ⟨total, [], rfl, inside, Nat.le_refl total, .inl rfl⟩
  | @next _ end_ windows advances inside _ =>
    exact ⟨end_, windows, rfl, by omega, Nat.le_of_lt inside, .inr advances⟩

theorem Covers.starts : windows.head?.map Prod.fst = some start := by
  rcases covers.head with ⟨_, _, rfl, _⟩
  rfl

theorem Covers.ends : windows.getLast?.map Prod.snd = some total := by
  induction covers with
  | last => rfl
  | next _ _ rest ih =>
    rcases rest.head with ⟨_, _, rfl, _⟩
    exact ih

theorem Covers.nonempty : ∀ window ∈ windows, window.1 < window.2 := by
  induction covers with
  | last inside =>
    intro window member
    cases List.mem_singleton.mp member
    exact inside
  | @next start end_ windows advances _ _ ih =>
    intro window member
    rcases List.mem_cons.mp member with rfl | later
    · exact Nat.lt_of_le_of_lt (Nat.le_add_right start overlap) advances
    · exact ih window later

theorem Covers.chain : windows.IsChain (Follows overlap) := by
  induction covers with
  | last => exact List.isChain_singleton _
  | @next start end_ windows advances inside rest ih =>
    rcases rest.head with ⟨after, _, rfl, _, _, _⟩
    rw [List.isChain_cons_cons]
    have ordered : start < end_ - overlap ∧ end_ < after ∧ end_ - overlap + overlap = end_ := by
      omega
    exact ⟨ordered, ih⟩

end

/-- Nothing is lost: the stitched windows are the items from the first start on. -/
theorem Covers.stitched {items : List α} {windows : List (Nat × Nat)}
    (covers : Covers overlap items.length start windows) :
    stitch overlap (windows.map fun window => slice items window.1 window.2) =
      items.drop start := by
  have tail : ∀ {first end_ : Nat}, first ≤ end_ →
      slice items first end_ ++ items.drop end_ = items.drop first := by
    intro first end_ order
    have whole : items.drop end_ = (items.drop first).drop (end_ - first) := by
      rw [List.drop_drop, Nat.add_sub_cancel' order]
    rw [slice, whole, List.take_append_drop]
  induction covers with
  | @last start inside =>
    simpa [stitch] using tail (Nat.le_of_lt inside)
  | @next start end_ windows advances inside rest ih =>
    rcases rest.head with ⟨after, _, rfl, _, bounded, _⟩
    -- the next window holds all the items it shares with this one
    have shared : overlap ≤ (slice items (end_ - overlap) after).length := by
      rw [length_slice items bounded]
      omega
    have joined := congrArg (List.drop overlap) ih
    simp only [List.map_cons, stitch] at joined ⊢
    rw [List.drop_append_of_le_length shared, List.drop_drop] at joined
    rw [List.flatten_cons, joined, Nat.sub_add_cancel (by omega), tail (by omega)]

end BackendHandbook.Windows
