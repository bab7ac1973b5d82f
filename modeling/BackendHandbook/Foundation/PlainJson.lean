import BackendHandbook.Foundation.Json
import BackendHandbook.Foundation.Text

/-! The compact text of JSON values without fractions, and that no two values have one text. -/

namespace BackendHandbook.Json

/-- Entries are in the order in which they are written. -/
inductive Plain
  | null
  | boolean (value : Bool)
  | integer (value : Int)
  | text (value : String)
  | array (items : List Plain)
  | object (entries : List (String × Plain))

mutual

def letters : Plain → List Char
  | .null => "null".toList
  | .boolean true => "true".toList
  | .boolean false => "false".toList
  | .integer n => (toString n).toList
  | .text t => (string t).toList
  | .array [] => "[]".toList
  | .array (item :: items) => '[' :: (letters item ++ laterItems items)
  | .object [] => "\x7b\x7d".toList
  | .object ((key, value) :: entries) =>
    '\x7b' :: ((string key).toList ++ ':' :: (letters value ++ laterEntries entries))

def laterItems : List Plain → List Char
  | [] => "]".toList
  | item :: items => ',' :: (letters item ++ laterItems items)

def laterEntries : List (String × Plain) → List Char
  | [] => "\x7d".toList
  | (key, value) :: entries =>
    ',' :: ((string key).toList ++ ':' :: (letters value ++ laterEntries entries))

end

/-- `json.dumps` with the separators `,` and `:` and `ensure_ascii`. -/
def dumps (value : Plain) : String := String.ofList (letters value)

section Escapes

def hexValue (c : Char) : Nat := "0123456789abcdef".toList.idxOf c

theorem hexValue_hexDigit : ∀ n < 16, hexValue (hexDigit n) = n := by decide

def readUnit : List Char → Option (Nat × List Char)
  | '\\' :: 'u' :: a :: b :: c :: d :: rest =>
    some (4096 * hexValue a + 256 * hexValue b + 16 * hexValue c + hexValue d, rest)
  | _ => none

theorem readUnit_codeUnit {n : Nat} (small : n < 65536) (rest : List Char) :
    readUnit (codeUnit n ++ rest) = some (n, rest) := by
  have digits : ∀ m, hexValue (hexDigit (m % 16)) = m % 16 :=
    fun m => hexValue_hexDigit _ (Nat.mod_lt m (by decide))
  change some (4096 * hexValue (hexDigit (n / 4096 % 16)) +
    256 * hexValue (hexDigit (n / 256 % 16)) + 16 * hexValue (hexDigit (n / 16 % 16)) +
    hexValue (hexDigit (n % 16)), rest) = _
  rw [digits, digits, digits, digits]
  congr 2
  omega

/-- The code point behind one escape. -/
def readEscape (letters : List Char) : Option (Nat × List Char) :=
  match letters with
  | '\\' :: 'b' :: rest => some (8, rest)
  | '\\' :: 't' :: rest => some (9, rest)
  | '\\' :: 'n' :: rest => some (10, rest)
  | '\\' :: 'f' :: rest => some (12, rest)
  | '\\' :: 'r' :: rest => some (13, rest)
  | '\\' :: '"' :: rest => some (34, rest)
  | '\\' :: '\\' :: rest => some (92, rest)
  | '\\' :: _ =>
    (readUnit letters).bind fun (high, rest) =>
      if 55296 ≤ high ∧ high < 57344 then
        (readUnit rest).map fun (low, rest) =>
          (65536 + 1024 * (high - 55296) + (low - 56320), rest)
      else some (high, rest)
  | c :: rest => some (c.toNat, rest)
  | [] => none

theorem toNat_valid (c : Char) : c.toNat < 55296 ∨ 57343 < c.toNat ∧ c.toNat < 1114112 := c.valid

theorem readEscape_unit {n : Nat} (small : n < 65536) (rest : List Char) :
    readEscape (codeUnit n ++ rest) = if 55296 ≤ n ∧ n < 57344 then
        (readUnit rest).map fun (low, rest) =>
          (65536 + 1024 * (n - 55296) + (low - 56320), rest) else some (n, rest) := by
  have unit := readUnit_codeUnit small rest
  simp only [readEscape, unit]
  rfl

theorem readEscape_escape (c : Char) (rest : List Char) :
    readEscape (escape c ++ rest) = some (c.toNat, rest) := by
  unfold escape
  split
  · next eight => rw [eight]; rfl
  · next nine => rw [nine]; rfl
  · next ten => rw [ten]; rfl
  · next twelve => rw [twelve]; rfl
  · next thirteen => rw [thirteen]; rfl
  · next quote => rw [quote]; rfl
  · next slash => rw [slash]; rfl
  · next _ _ _ _ _ _ slash =>
    split
    · rw [readEscape.eq_def]
      split <;> simp_all
    · split
      · next basic =>
        rw [readEscape_unit basic]
        have valid := toNat_valid c
        rw [if_neg (by omega)]
      · next astral =>
        have valid := toNat_valid c
        rw [List.append_assoc, readEscape_unit (by omega), if_pos (by omega),
          readUnit_codeUnit (by omega)]
        simp only [Option.map_some, Option.some.injEq, Prod.mk.injEq, and_true]
        omega

theorem escape_append_inj {c d : Char} {rest other : List Char}
    (same : escape c ++ rest = escape d ++ other) : c = d ∧ rest = other := by
  have read := congrArg readEscape same
  rw [readEscape_escape, readEscape_escape, Option.some.injEq, Prod.mk.injEq] at read
  exact ⟨Char.toNat_inj.mp read.1, read.2⟩

/-- No escape begins as the end of a string does. -/
theorem escape_append_ne_quote (c : Char) (rest other : List Char) :
    escape c ++ rest ≠ '"' :: other := by
  intro same
  have read := congrArg readEscape same
  rw [readEscape_escape] at read
  have quoted : c.toNat = 34 := congrArg Prod.fst (Option.some.inj read)
  have letter : c = '"' := Char.toNat_inj.mp quoted
  rw [letter] at same
  simp [escape] at same

theorem escapes_append_inj {first second rest other : List Char}
    (same : first.flatMap escape ++ '"' :: rest = second.flatMap escape ++ '"' :: other) :
    first = second ∧ rest = other := by
  induction first generalizing second with
  | nil =>
    cases second with
    | nil => exact ⟨rfl, (List.cons.inj same).2⟩
    | cons d =>
      rw [List.flatMap_cons, List.append_assoc] at same
      exact absurd same.symm (escape_append_ne_quote d _ _)
  | cons c _ ih =>
    cases second with
    | nil =>
      rw [List.flatMap_cons, List.append_assoc] at same
      exact absurd same (escape_append_ne_quote c _ _)
    | cons =>
      rw [List.flatMap_cons, List.flatMap_cons, List.append_assoc, List.append_assoc] at same
      rcases escape_append_inj same with ⟨heads, tails⟩
      rcases ih tails with ⟨texts, rests⟩
      exact ⟨by rw [heads, texts], rests⟩

theorem string_toList (text : String) :
    (string text).toList = '"' :: (text.toList.flatMap escape ++ ['"']) := by
  simp [string]

theorem string_append_inj {first second : String} {rest other : List Char}
    (same : (string first).toList ++ rest = (string second).toList ++ other) :
    first = second ∧ rest = other := by
  rw [string_toList, string_toList, List.cons_append, List.cons_append, List.append_assoc,
    List.append_assoc] at same
  rcases escapes_append_inj (List.cons.inj same).2 with ⟨texts, rests⟩
  exact ⟨String.toList_inj.mp texts, rests⟩

end Escapes

section Numbers

def Stops (rest : List Char) : Prop := ∀ c ∈ rest.head?, c = ',' ∨ c = ']' ∨ c = '\x7d'

def numeric (c : Char) : Bool := c.isDigit || c == '-'

theorem nat_numeric (n : Nat) : ∀ c ∈ (toString n).toList, numeric c = true := by
  intro c inside
  by_contra other
  have digit : c.isDigit = false := by
    rw [numeric, Bool.or_eq_true, not_or] at other
    exact Bool.eq_false_of_not_eq_true other.1
  exact Text.notMem_toString c n digit inside

theorem negSucc_toList (n : Nat) :
    (toString (Int.negSucc n)).toList = '-' :: (toString (n + 1)).toList := by
  change ("-" ++ toString (n + 1)).toList = _
  rw [String.toList_append]
  rfl

theorem int_numeric (n : Int) : ∀ c ∈ (toString n).toList, numeric c = true := by
  cases n with
  | ofNat => exact nat_numeric _
  | negSucc n =>
    intro c inside
    rw [negSucc_toList] at inside
    rcases List.mem_cons.mp inside with rfl | digit
    · rfl
    · exact nat_numeric (n + 1) c digit

theorem takeWhile_numeric {front rest : List Char} (numbers : ∀ c ∈ front, numeric c = true)
    (stops : Stops rest) : (front ++ rest).takeWhile numeric = front := by
  rw [List.takeWhile_append_of_pos numbers]
  cases rest with
  | nil => simp
  | cons c =>
    have stop : numeric c = false := by
      rcases stops c rfl with rfl | rfl | rfl <;> rfl
    rw [List.takeWhile_cons_of_neg (by rw [stop]; decide), List.append_nil]

theorem integer_append_inj {n m : Int} {rest other : List Char} (stops : Stops rest)
    (stop : Stops other) (same : (toString n).toList ++ rest = (toString m).toList ++ other) :
    n = m ∧ rest = other := by
  have numbers := congrArg (List.takeWhile numeric) same
  rw [takeWhile_numeric (int_numeric n) stops, takeWhile_numeric (int_numeric m) stop] at numbers
  rw [numbers] at same
  exact ⟨Text.int_toString_injective (String.toList_inj.mp numbers), List.append_cancel_left same⟩

theorem integer_head (n : Int) : ∃ c rest, (toString n).toList = c :: rest ∧ numeric c = true := by
  cases letters : (toString n).toList with
  | nil =>
    cases n with
    | ofNat => exact absurd (String.toList_eq_nil_iff.mp letters) Nat.repr_ne_empty
    | negSucc =>
      rw [negSucc_toList] at letters
      cases letters
  | cons c rest =>
    exact ⟨c, rest, rfl, int_numeric n c (by rw [letters]; exact List.mem_cons_self)⟩

end Numbers

section Values

def Plain.kind : Plain → Nat
  | .null => 0
  | .boolean true => 1
  | .boolean false => 2
  | .integer _ => 3
  | .text _ => 4
  | .array _ => 5
  | .object _ => 6

def announced (c : Char) : Nat :=
  if c = 'n' then 0
  else if c = 't' then 1
  else if c = 'f' then 2
  else if numeric c then 3
  else if c = '"' then 4
  else if c = '[' then 5
  else if c = '\x7b' then 6
  else 7

theorem letters_announced (value : Plain) :
    ∃ c rest, letters value = c :: rest ∧ announced c = value.kind := by
  cases value with
  | null => exact ⟨_, _, rfl, rfl⟩
  | boolean value => cases value <;> exact ⟨_, _, rfl, rfl⟩
  | integer n =>
    rcases integer_head n with ⟨c, rest, shape, number⟩
    refine ⟨c, rest, shape, ?_⟩
    unfold announced
    have other : ∀ d, numeric d = false → c ≠ d := by
      intro d letter same
      rw [same, letter] at number
      cases number
    rw [if_neg (other _ rfl), if_neg (other _ rfl), if_neg (other _ rfl), if_pos number]
    rfl
  | text text => exact ⟨_, _, string_toList text, rfl⟩
  | array items => cases items <;> exact ⟨_, _, rfl, rfl⟩
  | object entries =>
    cases entries with
    | nil | cons => exact ⟨_, _, rfl, rfl⟩

theorem kind_eq {first second : Plain} {rest other : List Char}
    (same : letters first ++ rest = letters second ++ other) : first.kind = second.kind := by
  rcases letters_announced first with ⟨c, _, shape, kind⟩
  rcases letters_announced second with ⟨d, _, form, sort⟩
  rw [shape, form] at same
  rw [← kind, ← sort, (List.cons.inj same).1]

theorem letters_ne_bracket (value : Plain) (rest other : List Char) :
    letters value ++ rest ≠ ']' :: other := by
  intro same
  rcases letters_announced value with ⟨c, _, shape, kind⟩
  rw [shape] at same
  rw [(List.cons.inj same).1] at kind
  have none : value.kind ≠ 7 := by
    unfold Plain.kind
    split <;> decide
  exact none kind.symm

theorem laterItems_stops (items : List Plain) (rest : List Char) :
    Stops (laterItems items ++ rest) := by
  intro c head
  cases items with
  | nil => exact .inr (.inl (Option.some.inj head).symm)
  | cons => exact .inl (Option.some.inj head).symm

theorem laterEntries_stops (entries : List (String × Plain)) (rest : List Char) :
    Stops (laterEntries entries ++ rest) := by
  intro c head
  cases entries with
  | nil => exact .inr (.inr (Option.some.inj head).symm)
  | cons => exact .inl (Option.some.inj head).symm

section Shapes

variable (rest : List Char)

theorem letters_array_nil : letters (.array []) ++ rest = '[' :: ']' :: rest := rfl

theorem letters_array_cons (item : Plain) (items : List Plain) :
    letters (.array (item :: items)) ++ rest =
      '[' :: (letters item ++ (laterItems items ++ rest)) := by
  simp [letters]

theorem letters_object_nil : letters (.object []) ++ rest = '\x7b' :: '\x7d' :: rest := rfl

theorem letters_object_cons (key : String) (value : Plain) (entries : List (String × Plain)) :
    letters (.object ((key, value) :: entries)) ++ rest = '\x7b' :: ((string key).toList ++
        ':' :: (letters value ++ (laterEntries entries ++ rest))) := by
  simp [letters]

theorem laterItems_cons (item : Plain) (items : List Plain) :
    laterItems (item :: items) ++ rest = ',' :: (letters item ++ (laterItems items ++ rest)) := by
  simp [laterItems]

theorem laterEntries_cons (key : String) (value : Plain) (entries : List (String × Plain)) :
    laterEntries ((key, value) :: entries) ++ rest =
      ',' :: ((string key).toList ++ ':' :: (letters value ++ (laterEntries entries ++ rest))) := by
  simp [laterEntries]

theorem string_ne_brace (text : String) (other : List Char) :
    (string text).toList ++ rest ≠ '\x7d' :: other := by
  intro same
  rw [string_toList] at same
  cases (List.cons.inj same).1

end Shapes

mutual

/-- A value can be told from its text and whatever follows it. -/
theorem letters_append_inj (first second : Plain) (rest other : List Char) (stops : Stops rest)
    (stop : Stops other) (same : letters first ++ rest = letters second ++ other) :
    first = second ∧ rest = other := by
  have kinds := kind_eq same
  cases first with
  | null =>
    cases second with
    | null => exact ⟨rfl, List.append_cancel_left same⟩
    | boolean value => cases value <;> simp [Plain.kind] at kinds
    | _ => simp [Plain.kind] at kinds
  | boolean value =>
    cases second with
    | boolean truth =>
      cases value <;> cases truth <;>
        first
        | exact ⟨rfl, List.append_cancel_left same⟩
        | simp [Plain.kind] at kinds
    | _ => cases value <;> simp [Plain.kind] at kinds
  | integer =>
    cases second with
    | integer =>
      rcases integer_append_inj stops stop same with ⟨numbers, rests⟩
      exact ⟨by rw [numbers], rests⟩
    | boolean value => cases value <;> simp [Plain.kind] at kinds
    | _ => simp [Plain.kind] at kinds
  | text text =>
    cases second with
    | text =>
      rcases string_append_inj same with ⟨texts, rests⟩
      exact ⟨by rw [texts], rests⟩
    | boolean value => cases value <;> simp [Plain.kind] at kinds
    | _ => simp [Plain.kind] at kinds
  | array items =>
    cases second with
    | array others =>
      cases items with
      | nil =>
        cases others with
        | nil => exact ⟨rfl, List.append_cancel_left same⟩
        | cons item =>
          rw [letters_array_nil, letters_array_cons] at same
          exact absurd (List.cons.inj same).2.symm (letters_ne_bracket item _ _)
      | cons item items =>
        cases others with
        | nil =>
          rw [letters_array_nil, letters_array_cons] at same
          exact absurd (List.cons.inj same).2 (letters_ne_bracket item _ _)
        | cons one others =>
          rw [letters_array_cons, letters_array_cons] at same
          rcases letters_append_inj item one _ _ (laterItems_stops _ _)
            (laterItems_stops _ _) (List.cons.inj same).2 with ⟨heads, laters⟩
          rcases laterItems_append_inj items others _ _ laters with ⟨lists, rests⟩
          exact ⟨by rw [heads, lists], rests⟩
    | boolean value => cases value <;> simp [Plain.kind] at kinds
    | _ => simp [Plain.kind] at kinds
  | object entries =>
    cases second with
    | object others =>
      cases entries with
      | nil =>
        cases others with
        | nil => exact ⟨rfl, List.append_cancel_left same⟩
        | cons =>
          rw [letters_object_nil, letters_object_cons] at same
          exact absurd (List.cons.inj same).2.symm (string_ne_brace _ _ _)
      | cons entry entries =>
        cases others with
        | nil =>
          rw [letters_object_nil, letters_object_cons] at same
          exact absurd (List.cons.inj same).2 (string_ne_brace _ _ _)
        | cons one others =>
          rcases entry with ⟨_, value⟩
          rcases one with ⟨_, stored⟩
          rw [letters_object_cons, letters_object_cons] at same
          rcases string_append_inj (List.cons.inj same).2 with ⟨keys, values⟩
          rcases letters_append_inj value stored _ _ (laterEntries_stops _ _)
            (laterEntries_stops _ _) (List.cons.inj values).2 with ⟨heads, laters⟩
          rcases laterEntries_append_inj entries others _ _ laters with ⟨lists, rests⟩
          exact ⟨by rw [keys, heads, lists], rests⟩
    | boolean value => cases value <;> simp [Plain.kind] at kinds
    | _ => simp [Plain.kind] at kinds

theorem laterItems_append_inj (first second : List Plain) (rest other : List Char)
    (same : laterItems first ++ rest = laterItems second ++ other) :
    first = second ∧ rest = other := by
  cases first with
  | nil =>
    cases second with
    | nil => exact ⟨rfl, List.append_cancel_left same⟩
    | cons => cases (List.cons.inj same).1
  | cons item items =>
    cases second with
    | nil => cases (List.cons.inj same).1
    | cons one others =>
      rw [laterItems_cons, laterItems_cons] at same
      rcases letters_append_inj item one _ _ (laterItems_stops _ _) (laterItems_stops _ _)
        (List.cons.inj same).2 with ⟨heads, laters⟩
      rcases laterItems_append_inj items others _ _ laters with ⟨lists, rests⟩
      exact ⟨by rw [heads, lists], rests⟩

theorem laterEntries_append_inj (first second : List (String × Plain)) (rest other : List Char)
    (same : laterEntries first ++ rest = laterEntries second ++ other) :
    first = second ∧ rest = other := by
  cases first with
  | nil =>
    cases second with
    | nil => exact ⟨rfl, List.append_cancel_left same⟩
    | cons => cases (List.cons.inj same).1
  | cons entry entries =>
    cases second with
    | nil => cases (List.cons.inj same).1
    | cons one others =>
      rcases entry with ⟨_, value⟩
      rcases one with ⟨_, stored⟩
      rw [laterEntries_cons, laterEntries_cons] at same
      rcases string_append_inj (List.cons.inj same).2 with ⟨keys, values⟩
      rcases letters_append_inj value stored _ _ (laterEntries_stops _ _)
        (laterEntries_stops _ _) (List.cons.inj values).2 with ⟨heads, laters⟩
      rcases laterEntries_append_inj entries others _ _ laters with ⟨lists, rests⟩
      exact ⟨by rw [keys, heads, lists], rests⟩

end

theorem dumps_injective : Function.Injective dumps := by
  intro first second same
  have texts : letters first ++ [] = letters second ++ [] := by
    rw [List.append_nil, List.append_nil]
    exact String.ofList_injective same
  exact (letters_append_inj first second [] [] nofun nofun texts).1

end Values

example : dumps (.object [("rev", .text "a\"é"), ("vars", .array [.integer (-3), .null])]) =
    "\x7b\"rev\":\"a\\\"\\u00e9\",\"vars\":[-3,null]\x7d" := by decide

end BackendHandbook.Json
