import Mathlib.Algebra.Order.Ring.Rat
import Mathlib.Data.String.Basic

/-! JSON values, and the text of JSON strings and flat objects, all in ASCII. -/

namespace BackendHandbook.Json

inductive Value
  | null
  | boolean (value : Bool)
  | integer (value : Int)
  | decimal (value : ℚ)
  | text (value : String)
  | array (items : List Value)
  | object (entries : List (String × Value))

/-- What an object holds under a key. -/
def get (entries : List (String × Value)) (key : String) : Option Value := entries.lookup key

def keys (entries : List (String × Value)) : List String := entries.map Prod.fst

def hexDigit (n : Nat) : Char := "0123456789abcdef".toList.getD n '0'

/-- A code unit of sixteen bits, as four digits behind `\u`. -/
def codeUnit (n : Nat) : List Char :=
  "\\u".toList ++
    [hexDigit (n / 4096 % 16), hexDigit (n / 256 % 16), hexDigit (n / 16 % 16), hexDigit (n % 16)]

/-- The escapes of `json.dumps` with `ensure_ascii`, for the code point `n`. -/
def escape (c : Char) : List Char :=
  match c.toNat with
  | 8 => "\\b".toList
  | 9 => "\\t".toList
  | 10 => "\\n".toList
  | 12 => "\\f".toList
  | 13 => "\\r".toList
  | 34 => "\\\"".toList
  | 92 => "\\\\".toList
  | n =>
    if 32 ≤ n ∧ n ≤ 126 then [c]
    else if n < 65536 then codeUnit n
    else codeUnit (55296 + (n - 65536) / 1024) ++ codeUnit (56320 + (n - 65536) % 1024)

def string (text : String) : String := "\"" ++ String.ofList (text.toList.flatMap escape) ++ "\""

def optional : Option String → String
  | some text => string text
  | none => "null"

/-- Keys and the texts of their values, in the order given. -/
def object (fields : List (String × String)) : String :=
  "\x7b" ++ String.intercalate "," (fields.map fun field => string field.1 ++ ":" ++ field.2) ++
    "\x7d"

example : object [("task_type", string "a\"é"), ("max_tokens", "7")] =
    "\x7b\"task_type\":\"a\\\"\\u00e9\",\"max_tokens\":7\x7d" := by decide

end BackendHandbook.Json
