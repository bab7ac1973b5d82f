import BackendHandbook.Foundation.Json

/-! The documented subset of JSON Schema, and its validator. -/

namespace BackendHandbook.Tools

open Json (Value)

/-- A schema by its keywords; `unsupported` are the names of those outside the subset. -/
structure Schema where
  type : Option String := none
  properties : Option (List (String × Schema)) := none
  required : Option (List String) := none
  enum : Option (List Value) := none
  minimum : Option ℚ := none
  maximum : Option ℚ := none
  minLength : Option Int := none
  maxLength : Option Int := none
  items : Option Schema := none
  additionalProperties : Option Bool := none
  unsupported : List String := []

inductive SchemaFault
  | expected (type : String)
  | notInEnum | shorterThanMinLength | longerThanMaxLength | belowMinimum | aboveMaximum
  | missingRequired (name : String)
  | additionalProperty (name : String)

structure SchemaError where
  path : String
  fault : SchemaFault

def SchemaFault.text (repr : String → String) : SchemaFault → String
  | .expected type => "expected " ++ type
  | .notInEnum => "value is not in enum"
  | .shorterThanMinLength => "shorter than minLength"
  | .longerThanMaxLength => "longer than maxLength"
  | .belowMinimum => "below minimum"
  | .aboveMaximum => "above maximum"
  | .missingRequired name => "missing required property " ++ repr name
  | .additionalProperty name => "additional property " ++ repr name

def SchemaError.text (repr : String → String) (error : SchemaError) : String :=
  error.path ++ ": " ++ error.fault.text repr

/-- What the functions of the tool boundary raise. -/
inductive ToolError
  | unsupportedKeywords (path : String) (keywords : List String)
  | duplicateDefinition (name version : String)
  | unknownTool (name version : String)
  | missingKey (name : String)
  | unhashable

def isJsonType (value : Value) (expected : String) : Bool :=
  match expected, value with
  | "object", .object _ => true
  | "array", .array _ => true
  | "string", .text _ => true
  | "boolean", .boolean _ => true
  | "number", .integer _ => true
  | "number", .decimal _ => true
  | "integer", .integer _ => true
  | "null", .null => true
  | _, _ => false

/-- The number that an integer or a float stands for, and a boolean where it is compared. -/
def comparable : Value → Option ℚ
  | .boolean value => some (if value then 1 else 0)
  | .integer value => some value
  | .decimal value => some value
  | _ => none

mutual

/-- The `==` of the language: numbers by value, with the booleans among them. -/
def equal : Value → Value → Bool
  | .null, other => match other with
    | .null => true
    | _ => false
  | .text value, other => match other with
    | .text text => value = text
    | _ => false
  | .array items, other => match other with
    | .array others => equalItems items others
    | _ => false
  | .object entries, other => match other with
    | .object others => entries.length = others.length && equalEntries entries others
    | _ => false
  | number, other => comparable number = comparable other

def equalItems : List Value → List Value → Bool
  | [], others => others.isEmpty
  | _ :: _, [] => false
  | item :: items, other :: others => equal item other && equalItems items others

def equalEntries : List (String × Value) → List (String × Value) → Bool
  | [], _ => true
  | (name, value) :: entries, others =>
    (match Json.get others name with
      | some other => equal value other
      | none => false) && equalEntries entries others

end

namespace Schema

variable (schema : Schema) (path : String)

def lengthFaults (text : String) : List SchemaFault :=
  (if schema.minLength.any (fun bound => (text.length : Int) < bound) then
    [.shorterThanMinLength] else []) ++
  if schema.maxLength.any (fun bound => bound < (text.length : Int)) then
    [.longerThanMaxLength] else []

def boundFaults (number : ℚ) : List SchemaFault :=
  (if schema.minimum.any (fun bound => number < bound) then [.belowMinimum] else []) ++
  if schema.maximum.any (fun bound => bound < number) then [.aboveMaximum] else []

def propertyFaults (entries : List (String × Value)) : List SchemaFault :=
  ((schema.required.getD []).filter fun name => name ∉ Json.keys entries).map .missingRequired ++
  if schema.additionalProperties = some false then
    ((Json.keys entries).filter fun name =>
      name ∉ (schema.properties.getD []).map Prod.fst).map .additionalProperty
  else []

/-- The faults of a value of the expected type, those of its parts aside. -/
def faults (value : Value) : List SchemaFault :=
  (if schema.enum.any (fun allowed => !allowed.any (equal value)) then [.notInEnum] else []) ++
  match value with
  | .text text => schema.lengthFaults text
  | .integer number => schema.boundFaults number
  | .decimal number => schema.boundFaults number
  | .object entries => schema.propertyFaults entries
  | _ => []

end Schema

mutual

/-- The errors of the value, from the path down; any other keyword is a programming error. -/
def validateSchemaSubset : Value → Schema → String → Except ToolError (List SchemaError)
  | value, schema, path =>
    if schema.unsupported ≠ [] then
      .error (.unsupportedKeywords path (schema.unsupported.mergeSort (· ≤ ·)))
    else if schema.type.any (fun expected => !isJsonType value expected) then
      .ok [⟨path, .expected (schema.type.getD "")⟩]
    else
      let own := (schema.faults value).map (SchemaError.mk path)
      match value with
      | .object entries => do
        let nested ← validateProperties entries (schema.properties.getD []) path
        return own ++ nested
      | .array items =>
        match schema.items with
        | some element => do
          let nested ← validateItems items element path 0
          return own ++ nested
        | none => .ok own
      | _ => .ok own

def validateProperties : List (String × Value) → List (String × Schema) → String →
    Except ToolError (List SchemaError)
  | [], _, _ => .ok []
  | (name, value) :: entries, properties, path => do
    let first ← match properties.lookup name with
      | some child => validateSchemaSubset value child (path ++ "." ++ name)
      | none => .ok []
    let rest ← validateProperties entries properties path
    return first ++ rest

def validateItems : List Value → Schema → String → Nat → Except ToolError (List SchemaError)
  | [], _, _, _ => .ok []
  | value :: items, element, path, index => do
    let first ← validateSchemaSubset value element (path ++ "[" ++ toString index ++ "]")
    let rest ← validateItems items element path (index + 1)
    return first ++ rest

end

end BackendHandbook.Tools
