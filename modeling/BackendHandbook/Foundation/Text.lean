import Mathlib.Data.List.DropRight

/-! The string operations of the source language, on lists of code points. -/

namespace BackendHandbook.Text

open List

/-- `str.isspace` on one code point, and the class `\s` of its regular expressions. -/
def isSpace (c : Char) : Bool :=
  let n := c.toNat
  (9 ≤ n && n ≤ 13) || (28 ≤ n && n ≤ 32) || n == 0x85 || n == 0xa0 || n == 0x1680 ||
    (0x2000 ≤ n && n ≤ 0x200a) || n == 0x2028 || n == 0x2029 || n == 0x202f ||
    n == 0x205f || n == 0x3000

variable (text : List Char)

def lstrip : List Char := text.dropWhile isSpace

def rstrip : List Char := text.rdropWhile isSpace

def strip : List Char := lstrip (rstrip text)

def lower (text : String) : String := String.ofList (text.toList.map Char.toLower)

def removeprefix (front text : String) : String :=
  if front.toList.isPrefixOf text.toList then
    String.ofList (text.toList.drop front.toList.length)
  else text

/-- The truth value of an optional string. -/
def truthy : Option String → Bool
  | some value => !value.isEmpty
  | none => false

def requireNonEmpty (values : List String) : Bool :=
  values.all fun value => !(strip value.toList).isEmpty

theorem requireNonEmpty_cons (value : String) (values : List String) :
    requireNonEmpty (value :: values) = true ↔
      strip value.toList ≠ [] ∧ requireNonEmpty values = true := by
  simp [requireNonEmpty]

theorem truthy_of_strip (value : String) (present : strip value.toList ≠ []) :
    truthy (some value) = true := by
  cases empty : value.isEmpty with
  | false => simp [truthy, empty]
  | true =>
    have : value = "" := by simpa using empty
    subst this
    exact absurd (by decide) present

theorem truthy_append (first second : String) (present : first ≠ "") :
    truthy (some (first ++ second)) = true := by
  simp [truthy, present]

section Separators

variable {α : Type}

theorem append_cons_inj_of_notMem_left (separator : α) {first second : List α}
    (front back : List α) (clean : separator ∉ first) (cleaner : separator ∉ second)
    (same : first ++ separator :: front = second ++ separator :: back) :
    first = second ∧ front = back := by
  induction first generalizing second with
  | nil =>
    cases second with
    | nil => exact ⟨rfl, (List.cons.inj same).2⟩
    | cons head =>
      have : separator = head := (List.cons.inj same).1
      exact absurd (by rw [this]; exact mem_cons_self) cleaner
  | cons head _ ih =>
    cases second with
    | nil =>
      have : head = separator := (List.cons.inj same).1
      exact absurd (by rw [this]; exact mem_cons_self) clean
    | cons =>
      rcases List.cons.inj same with ⟨heads, tails⟩
      rcases ih (fun inside => clean (mem_cons_of_mem _ inside))
        (fun inside => cleaner (mem_cons_of_mem _ inside)) tails with ⟨firsts, backs⟩
      exact ⟨by rw [heads, firsts], backs⟩

/-- The same at the last separator. -/
theorem append_cons_inj_of_notMem_right (separator : α) {front back : List α}
    (first second : List α) (clean : separator ∉ front) (cleaner : separator ∉ back)
    (same : first ++ separator :: front = second ++ separator :: back) :
    first = second ∧ front = back := by
  have mirrored := congrArg reverse same
  simp only [reverse_append, reverse_cons, append_assoc] at mirrored
  obtain ⟨fronts, firsts⟩ := append_cons_inj_of_notMem_left separator _ _
    (by simpa using clean) (by simpa using cleaner) mirrored
  exact ⟨reverse_injective firsts, reverse_injective fronts⟩

theorem toString_toList (n : Nat) : (toString n).toList = Nat.toDigits 10 n := Nat.toList_repr

theorem toString_injective : Function.Injective (toString : Nat → String) := by
  intro first second same
  have digits := congrArg String.toList same
  rw [toString_toList, toString_toList] at digits
  rw [← @Nat.ofDigitChars_ten_toDigits first, digits, Nat.ofDigitChars_ten_toDigits]

/-- A decimal number holds no character but digits. -/
theorem notMem_toString (c : Char) (n : Nat) (other : c.isDigit = false) :
    c ∉ (toString n).toList := by
  intro inside
  rw [toString_toList] at inside
  rw [Nat.isDigit_of_mem_toDigits (by decide) (by decide) inside] at other
  cases other

end Separators

section Joined

variable (separator : Char)

def pieces (fields : List String) : List (List (List Char)) :=
  fields.map fun field => field.toList.splitOn separator

/-- Cutting a joined text forgets which field a piece is from. -/
theorem splitOn_intercalate (fields : List String) (nonempty : fields ≠ []) :
    ((String.singleton separator).intercalate fields).toList.splitOn separator =
      (pieces separator fields).flatten := by
  rw [String.toList_intercalate, String.toList_singleton]
  induction fields with
  | nil => exact absurd rfl nonempty
  | cons _ rest ih =>
    cases rest with
    | nil => simp [pieces]
    | cons next others =>
      have joined := ih (cons_ne_nil next others)
      rw [map_cons, map_cons, intercalate_cons_cons, ← map_cons,
        append_assoc, singleton_append, splitOn_append_cons_self, joined]
      rfl

theorem intercalate_eq_iff {first second : List String} (nonempty : first ≠ [])
    (filled : second ≠ []) : (String.singleton separator).intercalate first =
        (String.singleton separator).intercalate second ↔
      (pieces separator first).flatten = (pieces separator second).flatten := by
  rw [← splitOn_intercalate separator first nonempty, ← splitOn_intercalate separator second filled]
  constructor
  · intro same
    rw [same]
  · intro same
    have texts := congrArg [separator].intercalate same
    rw [intercalate_splitOn, intercalate_splitOn] at texts
    exact String.toList_inj.mp texts

theorem pieces_injective : Function.Injective (pieces separator) := by
  intro first second same
  refine map_injective_iff.mpr ?_ same
  intro field other cuts
  have texts := congrArg [separator].intercalate cuts
  rw [intercalate_splitOn, intercalate_splitOn] at texts
  exact String.toList_inj.mp texts

/-- The fields are known from the pieces and from how many of them each field has. -/
theorem fields_eq_of_pieces {first second : List String}
    (same : (pieces separator first).flatten = (pieces separator second).flatten)
    (counts : (pieces separator first).map length =
      (pieces separator second).map length) : first = second :=
  pieces_injective separator (eq_iff_flatten_eq.mpr ⟨same, counts⟩)

theorem int_toString_injective : Function.Injective (toString : Int → String) := by
  have negative : ∀ n m : Nat, toString n ≠ "-" ++ toString m := by
    intro n m same
    have inside : '-' ∈ (toString n).toList := by
      rw [same, String.toList_append]
      exact mem_cons_self
    exact notMem_toString '-' n rfl inside
  intro first second same
  cases first with
  | ofNat n =>
    cases second with
    | ofNat => exact congrArg Int.ofNat (toString_injective same)
    | negSucc m => exact absurd same (negative n (m + 1))
  | negSucc n =>
    cases second with
    | ofNat m => exact absurd same.symm (negative m (n + 1))
    | negSucc m =>
      have texts : ("-" ++ toString (n + 1)).toList = ("-" ++ toString (m + 1)).toList :=
        congrArg String.toList same
      rw [String.toList_append, String.toList_append] at texts
      have tails := append_cancel_left texts
      have numbers := toString_injective (String.toList_injective tails)
      rw [Nat.succ.inj numbers]

end Joined

section Records

/-- A field with a mark before each of its characters and another mark at its end. -/
def marked (field : List Char) : List Char := field.flatMap (fun c => ['.', c]) ++ [';']

theorem marked_append_inj (first second back other : List Char)
    (same : marked first ++ back = marked second ++ other) : first = second ∧ back = other := by
  induction first generalizing second with
  | nil =>
    cases second with
    | nil => exact ⟨rfl, by simpa [marked] using same⟩
    | cons => simp [marked] at same
  | cons head tail ih =>
    cases second with
    | nil => simp [marked] at same
    | cons next rest =>
      have parts : head = next ∧ marked tail ++ back = marked rest ++ other := by
        simpa [marked] using same
      rcases ih rest parts.2 with ⟨tails, backs⟩
      exact ⟨by rw [parts.1, tails], backs⟩

def record (fields : List String) : String :=
  String.ofList (fields.flatMap fun field => marked field.toList)

theorem record_injective : Function.Injective record := by
  intro first second same
  have texts := String.ofList_injective same
  induction first generalizing second with
  | nil =>
    cases second with
    | nil => rfl
    | cons => simp [marked] at texts
  | cons _ _ ih =>
    cases second with
    | nil => simp [marked] at texts
    | cons =>
      rcases marked_append_inj _ _ _ _ texts with ⟨heads, tails⟩
      have rest := ih (congrArg String.ofList tails) tails
      rw [String.toList_injective heads, rest]

end Records

end BackendHandbook.Text
