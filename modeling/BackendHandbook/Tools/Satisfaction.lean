import BackendHandbook.Foundation.Fallible
import BackendHandbook.Tools.Schema

/-! The reference semantics of the schema subset, and how far the validator meets it. -/

namespace BackendHandbook.Tools

open Fallible SchemaError List
open Json (Value)

def numberOf : Value → Option ℚ
  | .integer number => some number
  | .decimal number => some number
  | _ => none

mutual

def sameJson : Value → Value → Bool
  | .null, other => match other with
    | .null => true
    | _ => false
  | .boolean value, other => match other with
    | .boolean flag => value = flag
    | _ => false
  | .integer number, other => numberOf other = some (number : ℚ)
  | .decimal number, other => numberOf other = some number
  | .text value, other => match other with
    | .text text => value = text
    | _ => false
  | .array items, other => match other with
    | .array others => sameItems items others
    | _ => false
  | .object entries, other => match other with
    | .object others => entries.length = others.length && sameEntries entries others
    | _ => false

def sameItems : List Value → List Value → Bool
  | [], others => others.isEmpty
  | _ :: _, [] => false
  | item :: items, other :: others => sameJson item other && sameItems items others

def sameEntries : List (String × Value) → List (String × Value) → Bool
  | [], _ => true
  | (name, value) :: entries, others =>
    (match Json.get others name with
      | some other => sameJson value other
      | none => false) && sameEntries entries others

end

def HasType (value : Value) : String → Prop
  | "object" => ∃ entries, value = .object entries
  | "array" => ∃ items, value = .array items
  | "string" => ∃ text, value = .text text
  | "boolean" => ∃ flag, value = .boolean flag
  | "number" => ∃ number, numberOf value = some number
  | "integer" => ∃ number, value = .integer number
  | "null" => value = .null
  | _ => False

/-- What a schema asks of a value itself, its parts aside. -/
structure Meets (same : Value → Value → Bool) (value : Value) (schema : Schema) : Prop where
  type : ∀ expected, schema.type = some expected → HasType value expected
  enum : ∀ allowed, schema.enum = some allowed → ∃ one ∈ allowed, same value one = true
  minLength : ∀ bound text, schema.minLength = some bound → value = .text text → bound ≤ text.length
  maxLength : ∀ bound text, schema.maxLength = some bound → value = .text text →
    (text.length : Int) ≤ bound
  minimum : ∀ bound number, schema.minimum = some bound → numberOf value = some number →
    bound ≤ number
  maximum : ∀ bound number, schema.maximum = some bound → numberOf value = some number →
    number ≤ bound
  required : ∀ names entries, schema.required = some names → value = .object entries →
    ∀ name ∈ names, name ∈ Json.keys entries
  additionalProperties : ∀ entries, schema.additionalProperties = some false →
    value = .object entries → ∀ name ∈ Json.keys entries,
      name ∈ (schema.properties.getD []).map Prod.fst

inductive Part : Value → Schema → Value → Schema → Prop
  | property {entries : List (String × Value)} {schema : Schema} {name : String} {part : Value}
      {child : Schema} (present : (name, part) ∈ entries)
      (declared : (schema.properties.getD []).lookup name = some child) :
      Part (.object entries) schema part child
  | item {items : List Value} {schema : Schema} {part : Value} {element : Schema}
      (present : part ∈ items) (declared : schema.items = some element) :
      Part (.array items) schema part element

/-- The recursive semantics: every part satisfies the schema that speaks of it. -/
inductive Satisfies (same : Value → Value → Bool) : Value → Schema → Prop
  | intro {value : Value} {schema : Schema} (here : Meets same value schema)
      (parts : ∀ part child, Part value schema part child → Satisfies same part child) :
      Satisfies same value schema

/-- A schema reachable through `properties` and `items`. -/
inductive Within : Schema → Schema → Prop
  | self {schema : Schema} : Within schema schema
  | property {schema : Schema} {properties : List (String × Schema)} {name : String}
      {child inner : Schema} (declared : schema.properties = some properties)
      (listed : (name, child) ∈ properties) (deeper : Within child inner) : Within schema inner
  | item {schema element inner : Schema} (declared : schema.items = some element)
      (deeper : Within element inner) : Within schema inner

/-- The schema is built from the supported keywords only, to any depth. -/
def Schema.Supported (schema : Schema) : Prop :=
  ∀ inner, Within schema inner → inner.unsupported = []

inductive Visited : Value → Schema → Value → Schema → Prop
  | self {value : Value} {schema : Schema} : Visited value schema value schema
  | part {value part : Value} {schema child : Schema} {last : Value} {inner : Schema}
      (supported : schema.unsupported = [])
      (typed : ∀ expected, schema.type = some expected → HasType value expected)
      (next : Part value schema part child) (deeper : Visited part child last inner) :
      Visited value schema last inner

section Validator

theorem isJsonType_iff (value : Value) (expected : String) :
    isJsonType value expected = true ↔ HasType value expected := by
  unfold isJsonType HasType
  split <;> split <;> simp_all [numberOf]

variable {value : Value} {schema : Schema}

theorem typed_iff : schema.type.any (fun expected => !isJsonType value expected) = false ↔
    ∀ expected, schema.type = some expected → HasType value expected := by
  cases schema.type with
  | none => simp
  | some => simp [← isJsonType_iff]

theorem lengthFaults_eq_nil (text : String) : schema.lengthFaults text = [] ↔
    (∀ bound, schema.minLength = some bound → bound ≤ text.length) ∧
      ∀ bound, schema.maxLength = some bound → (text.length : Int) ≤ bound := by
  unfold Schema.lengthFaults
  rw [append_eq_nil_iff]
  apply and_congr
  · cases schema.minLength <;> simp
  · cases schema.maxLength <;> simp

theorem boundFaults_eq_nil (number : ℚ) : schema.boundFaults number = [] ↔
    (∀ bound, schema.minimum = some bound → bound ≤ number) ∧
      ∀ bound, schema.maximum = some bound → number ≤ bound := by
  unfold Schema.boundFaults
  rw [append_eq_nil_iff]
  apply and_congr
  · cases schema.minimum <;> simp
  · cases schema.maximum <;> simp

theorem propertyFaults_eq_nil (entries : List (String × Value)) :
    schema.propertyFaults entries = [] ↔
      (∀ names, schema.required = some names → ∀ name ∈ names, name ∈ Json.keys entries) ∧
        (schema.additionalProperties = some false → ∀ name ∈ Json.keys entries,
          name ∈ (schema.properties.getD []).map Prod.fst) := by
  unfold Schema.propertyFaults
  rw [append_eq_nil_iff]
  apply and_congr
  · cases schema.required <;> simp
  · split
    · next closed => simp [closed]
    · next free => simp [free]

/-- No fault of its own: the value is what the schema asks for, by the equality of the language. -/
theorem faults_eq_nil (typed : ∀ expected, schema.type = some expected → HasType value expected) :
    schema.faults value = [] ↔ Meets equal value schema := by
  have enum : (if schema.enum.any (fun allowed => !allowed.any (equal value)) then
      [SchemaFault.notInEnum] else []) = [] ↔
      ∀ allowed, schema.enum = some allowed → ∃ one ∈ allowed, equal value one = true := by
    cases schema.enum <;> simp
  unfold Schema.faults
  rw [append_eq_nil_iff, enum]
  constructor
  · rintro ⟨listed, own⟩
    cases value with
    | text text =>
      obtain ⟨short, long⟩ := (lengthFaults_eq_nil text).mp own
      exact ⟨typed, listed, by rintro bound _ given ⟨⟩; exact short bound given,
        by rintro bound _ given ⟨⟩; exact long bound given, nofun, nofun, nofun, nofun⟩
    | integer number =>
      obtain ⟨low, high⟩ := (boundFaults_eq_nil (number : ℚ)).mp own
      exact ⟨typed, listed, nofun, nofun, by rintro bound _ given ⟨⟩; exact low bound given,
        by rintro bound _ given ⟨⟩; exact high bound given, nofun, nofun⟩
    | decimal number =>
      obtain ⟨low, high⟩ := (boundFaults_eq_nil number).mp own
      exact ⟨typed, listed, nofun, nofun, by rintro bound _ given ⟨⟩; exact low bound given,
        by rintro bound _ given ⟨⟩; exact high bound given, nofun, nofun⟩
    | object entries =>
      obtain ⟨needed, closed⟩ := (propertyFaults_eq_nil entries).mp own
      exact ⟨typed, listed, nofun, nofun, nofun, nofun,
        by rintro names _ given ⟨⟩; exact needed names given,
        by rintro _ given ⟨⟩; exact closed given⟩
    | null | boolean | array => exact ⟨typed, listed, nofun, nofun, nofun, nofun, nofun, nofun⟩
  · intro met
    refine ⟨met.enum, ?_⟩
    cases value with
    | text text =>
      exact (lengthFaults_eq_nil text).mpr ⟨fun bound given => met.minLength bound text given rfl,
        fun bound given => met.maxLength bound text given rfl⟩
    | integer number =>
      exact (boundFaults_eq_nil (number : ℚ)).mpr
        ⟨fun bound given => met.minimum bound number given rfl,
          fun bound given => met.maximum bound number given rfl⟩
    | decimal number =>
      exact (boundFaults_eq_nil number).mpr
        ⟨fun bound given => met.minimum bound number given rfl,
          fun bound given => met.maximum bound number given rfl⟩
    | object entries =>
      exact (propertyFaults_eq_nil entries).mpr
        ⟨fun names given => met.required names entries given rfl,
          fun given => met.additionalProperties entries given rfl⟩
    | null | boolean | array => rfl

end Validator

variable {child : Schema} {part : Value}

section Readings

/-- A validation accepts exactly in the case `good` and raises exactly in the case `bad`. -/
structure Reads (validation : Except ToolError (List SchemaError)) (good bad : Prop) : Prop where
  accepts : validation = .ok [] ↔ good
  raises : (∃ raised, validation = .error raised) ↔ bad

theorem Reads.of_ok (errors : List SchemaError) : Reads (.ok errors) (errors = []) False where
  accepts := by rw [Except.ok.injEq]
  raises := ⟨nofun, nofun⟩

theorem Reads.of_error (raised : ToolError) : Reads (.error raised) False True where
  accepts := ⟨nofun, nofun⟩
  raises := ⟨fun _ => trivial, fun _ => ⟨raised, rfl⟩⟩

theorem Reads.congr {validation : Except ToolError (List SchemaError)} {good bad fine wrong : Prop}
    (reads : Reads validation good bad) (goods : good ↔ fine) (bads : bad ↔ wrong) :
    Reads validation fine wrong :=
  ⟨reads.accepts.trans goods, reads.raises.trans bads⟩

theorem Reads.append {first second : Except ToolError (List SchemaError)}
    {good bad fine wrong : Prop} (here : Reads first good bad) (there : Reads second fine wrong) :
    Reads (do
      let errors ← first let others ← second
      return errors ++ others) (good ∧ fine) (bad ∨ wrong) := by
  refine ⟨?_, ?_⟩
  · rw [← here.accepts, ← there.accepts]
    constructor
    · intro done
      obtain ⟨_, front, done⟩ := bind_eq_ok.mp done
      obtain ⟨_, back, same⟩ := bind_eq_ok.mp done
      obtain ⟨rfl, rfl⟩ := append_eq_nil_iff.mp (Except.ok.inj same)
      exact ⟨front, back⟩
    · rintro ⟨front, back⟩
      rw [front, back]
      rfl
  · rw [← here.raises, ← there.raises]
    cases first with
    | error raised => exact ⟨fun _ => .inl ⟨raised, rfl⟩, fun _ => ⟨raised, rfl⟩⟩
    | ok =>
      cases second with
      | error raised => exact ⟨fun _ => .inr ⟨raised, rfl⟩, fun _ => ⟨raised, rfl⟩⟩
      | ok =>
        constructor
        · rintro ⟨_, impossible⟩
          cases impossible
        · rintro (⟨_, impossible⟩ | ⟨_, impossible⟩) <;> cases impossible

/-- Everything the validator comes to is supported, and the value satisfies the schema. -/
def Sound (value : Value) (schema : Schema) : Prop :=
  (∀ last inner, Visited value schema last inner → inner.unsupported = []) ∧
    Satisfies equal value schema

def Unsound (value : Value) (schema : Schema) : Prop :=
  ∃ last inner, Visited value schema last inner ∧ inner.unsupported ≠ []

variable {value : Value} {schema : Schema}

theorem sound_iff (supported : schema.unsupported = [])
    (typed : ∀ expected, schema.type = some expected → HasType value expected) :
    Sound value schema ↔ Meets equal value schema ∧
      ∀ part child, Part value schema part child → Sound part child := by
  constructor
  · rintro ⟨visited, ⟨here, parts⟩⟩
    refine ⟨here, fun part child next => ⟨?_, parts part child next⟩⟩
    intro last inner deeper
    exact visited last inner (.part supported typed next deeper)
  · rintro ⟨here, parts⟩
    refine ⟨?_, here, fun part child next => (parts part child next).2⟩
    intro last inner visited
    cases visited with
    | self => exact supported
    | part _ _ next deeper => exact (parts _ _ next).1 last inner deeper

theorem unsound_iff (supported : schema.unsupported = [])
    (typed : ∀ expected, schema.type = some expected → HasType value expected) :
    Unsound value schema ↔ ∃ part child, Part value schema part child ∧ Unsound part child := by
  constructor
  · rintro ⟨last, inner, visited, stops⟩
    cases visited with
    | self => exact absurd supported stops
    | part _ _ next deeper => exact ⟨_, _, next, last, inner, deeper, stops⟩
  · rintro ⟨_, _, next, last, inner, deeper, stops⟩
    exact ⟨last, inner, .part supported typed next deeper, stops⟩

theorem part_object {entries : List (String × Value)} :
    Part (.object entries) schema part child ↔ ∃ name, (name, part) ∈ entries ∧
      (schema.properties.getD []).lookup name = some child := by
  constructor
  · rintro (⟨present, declared⟩ | _)
    exact ⟨_, present, declared⟩
  · rintro ⟨_, present, declared⟩
    exact .property present declared

theorem part_array {items : List Value} :
    Part (.array items) schema part child ↔ part ∈ items ∧ schema.items = some child := by
  constructor
  · rintro (_ | ⟨present, declared⟩)
    exact ⟨present, declared⟩
  · rintro ⟨present, declared⟩
    exact .item present declared

variable {path : String}

theorem reads_of_parts {nested : Except ToolError (List SchemaError)}
    {good bad : Prop} (supported : schema.unsupported = [])
    (typed : ∀ expected, schema.type = some expected → HasType value expected)
    (parts : Reads nested good bad)
    (goods : good ↔ ∀ part child, Part value schema part child → Sound part child)
    (bads : bad ↔ ∃ part child, Part value schema part child ∧ Unsound part child) : Reads (do
      let others ← nested return (schema.faults value).map (mk path) ++ others)
      (Sound value schema) (Unsound value schema) := by
  have own := Reads.of_ok ((schema.faults value).map (mk path))
  refine (own.append parts).congr ?_ ?_
  · rw [map_eq_nil_iff, faults_eq_nil typed, goods, sound_iff supported typed]
  · rw [bads, unsound_iff supported typed, false_or]

theorem reads_alone (supported : schema.unsupported = [])
    (typed : ∀ expected, schema.type = some expected → HasType value expected)
    (alone : ∀ part child, ¬ Part value schema part child) :
    Reads (.ok ((schema.faults value).map (mk path))) (Sound value schema)
      (Unsound value schema) := by
  have nothing : Reads (do
      let others ← (.ok [] : Except ToolError (List SchemaError))
      return (schema.faults value).map (mk path) ++ others)
      (Sound value schema) (Unsound value schema) :=
    reads_of_parts supported typed (Reads.of_ok [])
      ⟨fun _ part child next => absurd next (alone part child), fun _ => rfl⟩
      ⟨False.elim, fun ⟨part, child, next, _⟩ => alone part child next⟩
  have same : (do
      let others ← (.ok [] : Except ToolError (List SchemaError))
      return (schema.faults value).map (mk path) ++ others) =
      Except.ok ((schema.faults value).map (mk path)) :=
    congrArg Except.ok (append_nil _)
  rw [same] at nothing
  exact nothing

def propertyErrors (properties : List (String × Schema)) (path name : String) (value : Value) :
    Except ToolError (List SchemaError) :=
  match properties.lookup name with
  | some child => validateSchemaSubset value child (path ++ "." ++ name)
  | none => .ok []

theorem validateProperties_cons (name : String) (value : Value)
    (entries : List (String × Value)) (properties : List (String × Schema)) (path : String) :
    validateProperties ((name, value) :: entries) properties path = (do
      let errors ← propertyErrors properties path name value
      let others ← validateProperties entries properties path return errors ++ others) := by
  rw [validateProperties, propertyErrors]
  cases properties.lookup name <;> rfl

mutual

/-- The validator accepts the sound pairs and raises on those it finds unsupported. -/
theorem validate_reads (value : Value) (schema : Schema) (path : String) :
    Reads (validateSchemaSubset value schema path) (Sound value schema) (Unsound value schema) := by
  unfold validateSchemaSubset
  split
  · next stops =>
    exact (Reads.of_error _).congr ⟨False.elim, fun sound => stops (sound.1 _ _ .self)⟩
      ⟨fun _ => ⟨_, _, .self, stops⟩, fun _ => trivial⟩
  · next supported =>
    rw [not_not] at supported
    split
    · next mistyped =>
      have untyped : ¬ ∀ expected, schema.type = some expected → HasType value expected := by
        intro typed
        rw [typed_iff.mpr typed] at mistyped
        cases mistyped
      refine (Reads.of_ok _).congr ?_ ?_
      · refine ⟨nofun, fun sound => ?_⟩
        obtain ⟨_, ⟨here, _⟩⟩ := sound
        exact absurd here.type untyped
      · refine ⟨False.elim, ?_⟩
        rintro ⟨_, _, visited, stops⟩
        cases visited with
        | self => exact stops supported
        | part _ typed => exact untyped typed
    · next fits =>
      have typed := typed_iff.mp (Bool.eq_false_iff.mpr fits)
      cases value with
      | object entries =>
        refine reads_of_parts supported typed
          (properties_read entries (schema.properties.getD []) path) ?_ ?_
        · simp only [part_object]
          exact ⟨fun each part child ⟨name, present, declared⟩ =>
            each name part present child declared,
            fun each name part present child declared =>
              each part child ⟨name, present, declared⟩⟩
        · simp only [part_object]
          exact ⟨fun ⟨name, part, child, present, declared, unsound⟩ =>
            ⟨part, child, ⟨name, present, declared⟩, unsound⟩,
            fun ⟨part, child, ⟨name, present, declared⟩, unsound⟩ =>
              ⟨name, part, child, present, declared, unsound⟩⟩
      | array items =>
        dsimp only
        split
        · next element declared =>
          apply reads_of_parts supported typed (items_read items element path 0)
          · simp only [part_array, declared, Option.some.injEq]
            exact ⟨fun each part child ⟨present, same⟩ => same ▸ each part present,
              fun each part present => each part element ⟨present, rfl⟩⟩
          · simp only [part_array, declared, Option.some.injEq]
            exact ⟨fun ⟨part, present, unsound⟩ => ⟨part, element, ⟨present, rfl⟩, unsound⟩,
              fun ⟨part, child, ⟨present, same⟩, unsound⟩ =>
                ⟨part, present, same ▸ unsound⟩⟩
        · next undeclared =>
          apply reads_alone supported typed
          intro part child next
          rw [part_array, undeclared] at next
          cases next.2
      | null | boolean | integer | decimal | text => exact reads_alone supported typed nofun

theorem properties_read (entries : List (String × Value)) (properties : List (String × Schema))
    (path : String) : Reads (validateProperties entries properties path)
      (∀ name part, (name, part) ∈ entries → ∀ child, properties.lookup name = some child →
        Sound part child)
      (∃ name part child, (name, part) ∈ entries ∧ properties.lookup name = some child ∧
        Unsound part child) := by
  cases entries with
  | nil => exact (Reads.of_ok []).congr ⟨fun _ => nofun, fun _ => rfl⟩ ⟨False.elim, nofun⟩
  | cons entry entries =>
    obtain ⟨name, value⟩ := entry
    have first : Reads (propertyErrors properties path name value)
        (∀ child, properties.lookup name = some child → Sound value child)
        (∃ child, properties.lookup name = some child ∧ Unsound value child) := by
      unfold propertyErrors
      split
      · next child declared =>
        exact (validate_reads value child _).congr
          ⟨fun sound other same => Option.some.inj (declared.symm.trans same) ▸ sound,
            fun each => each child declared⟩
          ⟨fun unsound => ⟨child, declared, unsound⟩, fun ⟨other, same, unsound⟩ =>
            Option.some.inj (declared.symm.trans same) ▸ unsound⟩
      · next undeclared =>
        refine (Reads.of_ok []).congr ⟨fun _ child declared => ?_, fun _ => rfl⟩
          ⟨False.elim, fun ⟨child, declared, _⟩ => ?_⟩
        · rw [undeclared] at declared
          cases declared
        · rw [undeclared] at declared
          cases declared
    rw [validateProperties_cons]
    refine (first.append (properties_read entries properties path)).congr ?_ ?_
    · constructor
      · rintro ⟨here, later⟩ other part present child declared
        rcases mem_cons.mp present with same | further
        · cases same
          exact here child declared
        · exact later other part further child declared
      · intro each
        exact ⟨fun child declared => each name value mem_cons_self child declared,
          fun other part present => each other part (mem_cons_of_mem _ present)⟩
    · constructor
      · rintro (⟨child, declared, unsound⟩ | ⟨other, part, child, present, declared, unsound⟩)
        · exact ⟨name, value, child, mem_cons_self, declared, unsound⟩
        · exact ⟨other, part, child, mem_cons_of_mem _ present, declared, unsound⟩
      · rintro ⟨other, part, child, present, declared, unsound⟩
        rcases mem_cons.mp present with same | further
        · cases same
          exact .inl ⟨child, declared, unsound⟩
        · exact .inr ⟨other, part, child, further, declared, unsound⟩

theorem items_read (items : List Value) (element : Schema) (path : String) (index : Nat) :
    Reads (validateItems items element path index)
      (∀ part ∈ items, Sound part element) (∃ part ∈ items, Unsound part element) := by
  cases items with
  | nil => exact (Reads.of_ok []).congr ⟨fun _ => nofun, fun _ => rfl⟩ ⟨False.elim, nofun⟩
  | cons value items =>
    unfold validateItems
    refine ((validate_reads value element _).append
      (items_read items element path (index + 1))).congr ?_ ?_
    · rw [forall_mem_cons]
    · simp only [mem_cons, exists_eq_or_imp]

end

end Readings

section Equalities

theorem comparable_of_numberOf {value : Value} {number : ℚ} (found : numberOf value = some number) :
    comparable value = some number := by
  cases value with
  | integer | decimal => exact found
  | null | boolean | text | array | object => cases found

mutual

theorem equal_of_sameJson (value other : Value) (same : sameJson value other = true) :
    equal value other = true := by
  cases value with
  | null =>
    cases other with
    | null => rfl
    | _ => cases same
  | boolean flag =>
    cases other with
    | boolean kept =>
      have flags : flag = kept := of_decide_eq_true same
      rw [flags]
      exact decide_eq_true rfl
    | _ => cases same
  | integer number =>
    have found : numberOf other = some (number : ℚ) := of_decide_eq_true same
    exact decide_eq_true (comparable_of_numberOf found).symm
  | decimal number =>
    have found : numberOf other = some number := of_decide_eq_true same
    exact decide_eq_true (comparable_of_numberOf found).symm
  | text text =>
    cases other with
    | text => exact same
    | _ => cases same
  | array items =>
    cases other with
    | array => exact equalItems_of_same items _ same
    | _ => cases same
  | object entries =>
    cases other with
    | object others =>
      obtain ⟨lengths, each⟩ := Bool.and_eq_true_iff.mp same
      exact Bool.and_eq_true_iff.mpr ⟨lengths, equalEntries_of_same entries others each⟩
    | _ => cases same

theorem equalItems_of_same (items others : List Value) (same : sameItems items others = true) :
    equalItems items others = true := by
  cases items with
  | nil => exact same
  | cons item items =>
    cases others with
    | nil => cases same
    | cons other others =>
      obtain ⟨heads, tails⟩ := Bool.and_eq_true_iff.mp same
      exact Bool.and_eq_true_iff.mpr
        ⟨equal_of_sameJson item other heads, equalItems_of_same items others tails⟩

theorem equalEntries_of_same (entries others : List (String × Value))
    (same : sameEntries entries others = true) : equalEntries entries others = true := by
  cases entries with
  | nil => rfl
  | cons entry entries =>
    obtain ⟨name, value⟩ := entry
    unfold sameEntries at same
    obtain ⟨heads, tails⟩ := Bool.and_eq_true_iff.mp same
    unfold equalEntries
    refine Bool.and_eq_true_iff.mpr ⟨?_, equalEntries_of_same entries others tails⟩
    cases found : Json.get others name with
    | none =>
      rw [found] at heads
      cases heads
    | some other =>
      rw [found] at heads
      exact equal_of_sameJson value other heads

end

variable {value : Value} {schema : Schema}

theorem Meets.mono {same other : Value → Value → Bool}
    (finer : ∀ one, same value one = true → other value one = true)
    (here : Meets same value schema) : Meets other value schema :=
  { here with
    enum := fun allowed given =>
      let ⟨one, listed, equals⟩ := here.enum allowed given
      ⟨one, listed, finer one equals⟩ }

theorem Satisfies.equal_of_sameJson (satisfied : Satisfies sameJson value schema) :
    Satisfies equal value schema := by
  induction satisfied with
  | intro here _ ih => exact .intro (here.mono fun one => Tools.equal_of_sameJson _ one) ih

/-- Where the value comes to an enum, what the language takes for one of its entries is one. -/
def EnumsAgree (value : Value) (schema : Schema) : Prop :=
  ∀ last inner, Visited value schema last inner → ∀ allowed, inner.enum = some allowed →
    (∃ one ∈ allowed, equal last one = true) → ∃ one ∈ allowed, sameJson last one = true

theorem mem_of_lookup {properties : List (String × Schema)} {name : String}
    (declared : properties.lookup name = some child) : (name, child) ∈ properties := by
  obtain ⟨front, _, rfl, _⟩ := lookup_eq_some_iff.mp declared
  exact mem_append_right front mem_cons_self

variable {inner : Schema}

theorem within_of_part (next : Part value schema part child)
    (deeper : Within child inner) : Within schema inner := by
  cases next with
  | property _ declared =>
    cases properties : schema.properties with
    | none =>
      rw [properties] at declared
      cases declared
    | some =>
      rw [properties] at declared
      exact .property properties (mem_of_lookup declared) deeper
  | item _ declared => exact .item declared deeper

variable {last : Value}

theorem within_of_visited (visited : Visited value schema last inner) : Within schema inner := by
  induction visited with
  | self => exact .self
  | part _ _ next _ ih => exact within_of_part next ih

theorem Satisfies.at_visited {same : Value → Value → Bool} (satisfied : Satisfies same value schema)
    (visited : Visited value schema last inner) : Satisfies same last inner := by
  induction visited with
  | self => exact satisfied
  | part _ _ next _ ih =>
    obtain ⟨_, parts⟩ := satisfied
    exact ih (parts _ _ next)

theorem Satisfies.sameJson_of_agree (satisfied : Satisfies equal value schema)
    (supported : schema.Supported) (agree : EnumsAgree value schema) :
    Satisfies sameJson value schema := by
  induction satisfied with
  | @intro value schema here parts ih =>
    refine .intro { here with
      enum := fun allowed given => agree _ _ .self allowed given (here.enum allowed given) } ?_
    intro part child next
    apply ih part child next (fun inner within => supported inner (within_of_part next within))
    intro last inner visited
    exact agree last inner (.part (supported schema .self) here.type next visited)

/-- On a supported schema the validator meets the reference, and on any other it raises. -/
def ReferenceChecked (value : Value) (schema : Schema) (path : String) : Prop :=
  (schema.Supported →
    (validateSchemaSubset value schema path = .ok [] ↔ Satisfies sameJson value schema)) ∧
  (¬ schema.Supported → ∃ raised, validateSchemaSubset value schema path = .error raised)

/-- The validator meets the reference exactly where no enum takes a boolean for a number, and
finds an unsupported keyword exactly where it comes to one. -/
theorem reference_checked_iff (value : Value) (schema : Schema) (path : String) :
    ReferenceChecked value schema path ↔
      (schema.Supported → Satisfies equal value schema → EnumsAgree value schema) ∧
      (¬ schema.Supported → ∃ last inner, Visited value schema last inner ∧
        inner.unsupported ≠ []) := by
  have reads := validate_reads value schema path
  refine and_congr ?_ (imp_congr_right fun _ => reads.raises)
  refine imp_congr_right fun supported => ?_
  have visits : ∀ last inner, Visited value schema last inner → inner.unsupported = [] :=
    fun last inner visited => supported inner (within_of_visited visited)
  have accepts : validateSchemaSubset value schema path = .ok [] ↔ Satisfies equal value schema :=
    reads.accepts.trans ⟨fun sound => sound.2, fun satisfied => ⟨visits, satisfied⟩⟩
  rw [accepts]
  constructor
  · intro same satisfied last inner visited allowed given _
    obtain ⟨here, _⟩ := (same.mp satisfied).at_visited visited
    exact here.enum allowed given
  · intro agree
    exact ⟨fun satisfied => satisfied.sameJson_of_agree supported (agree satisfied),
      Satisfies.equal_of_sameJson⟩

end Equalities

namespace Sample

/-- `true` passes for the number one of an enum. -/
theorem true_in_enum_of_one : ¬ ReferenceChecked (.boolean true) { enum := some [.integer 1] } "$" ∧
      ¬ ReferenceChecked (.object [])
        { properties := some [("a", { unsupported := ["pattern"] })] } "$" := by
  constructor
  · intro checked
    have supported : Schema.Supported { enum := some [.integer 1] } := by
      intro inner within
      cases within with
      | self => rfl
      | property declared | item declared => cases declared
    obtain ⟨here, _⟩ := (checked.1 supported).mp rfl
    obtain ⟨_, listed, same⟩ := here.enum _ rfl
    cases mem_singleton.mp listed
    cases same
  · intro checked
    have unsupported : ¬ Schema.Supported
        { properties := some [("a", { unsupported := ["pattern"] })] } := by
      intro supported
      cases supported _ (.property rfl (mem_singleton_self _) .self)
    obtain ⟨_, impossible⟩ := checked.2 unsupported
    cases impossible

end Sample

end BackendHandbook.Tools
