import BackendHandbook.Foundation.Json
import BackendHandbook.Foundation.Sorting

/-! What the application asks of a provider, what it may be answered, and the versioned schemas
that an answer is validated against. -/

namespace BackendHandbook.StructuredOutput

open Json (Value)

structure Usage where
  totalTokens : Option Int

def Usage.unknown : Usage := ⟨none⟩

structure ProviderRequest where
  (jobId tenantId taskType schemaName schemaVersion approvedModel providerProfileVersion : String)
  maxOutputTokens : Int
  correlationId : String
  prompt : String := ""

abbrev Payload := List (String × Value)

inductive ProviderOutcome
  | success (rawPayload : Payload) (usage : Usage) (providerRequestId : Option String)
  | refusal (reasonCode : String) (usage : Usage) (providerRequestId : Option String)
  | incomplete (reason : String) (usage : Usage) (providerRequestId : Option String)
  | timeout (usage : Usage) (providerRequestId : Option String)
  | authenticationError (statusCode : Int)
  | rateLimited (retryAfter providerRequestId : Option String)
  | capabilityError (statusCode : Int) (detail : String) (configScope : Bool)
      (providerRequestId : Option String)
  | transportError (detail : String)
  /-- An outcome of no kind that is dispatched. -/
  | unhandled (providerRequestId : Option String)

namespace ProviderOutcome

def providerRequestId : ProviderOutcome → Option String
  | .success _ _ identifier => identifier
  | .refusal _ _ identifier => identifier
  | .incomplete _ _ identifier => identifier
  | .timeout _ identifier => identifier
  | .authenticationError _ => none
  | .rateLimited _ identifier => identifier
  | .capabilityError _ _ _ identifier => identifier
  | .transportError _ => none
  | .unhandled identifier => identifier

def isTimeout : ProviderOutcome → Bool
  | .timeout .. => true
  | _ => false

end ProviderOutcome

/-- The validation library, in the one conversion that the schemas leave to it. -/
structure Pydantic where
  floatOfText : String → Option ℚ

/-- The kinds of field: a text that is not empty, a list of texts that is not empty, and a
number from zero to one. -/
inductive FieldKind
  | text | texts | fraction

def isText : Value → Bool
  | .text _ => true
  | _ => false

section Validation

variable (pydantic : Pydantic)

/-- A number in lax mode. -/
def Pydantic.float : Value → Option ℚ
  | .boolean value => some (if value then 1 else 0)
  | .integer value => some value
  | .decimal value => some value
  | .text content => pydantic.floatOfText content
  | _ => none

def FieldKind.parse : FieldKind → Value → Option Value
  | .text, .text content => if 1 ≤ content.length then some (.text content) else none
  | .texts, .array items =>
    if 1 ≤ items.length ∧ items.all isText then some (.array items) else none
  | .fraction, value =>
    (pydantic.float value).bind fun number =>
      if 0 ≤ number ∧ number ≤ 1 then some (.decimal number) else none
  | _, _ => none

/-- A model that forbids extra fields. -/
abbrev SchemaModel := List (String × FieldKind)

def researchSummaryV1 : SchemaModel :=
  [("summary", .text), ("citations", .texts), ("confidence", .fraction)]

def researchSummaryV2 : SchemaModel := researchSummaryV1 ++ [("evidence_grade", .text)]

/-- `SchemaRegistry.model_for`. -/
def modelFor (schemaName schemaVersion : String) : Option SchemaModel :=
  [(("research_summary", "v1"), researchSummaryV1),
    (("research_summary", "v2"), researchSummaryV2)].lookup (schemaName, schemaVersion)

namespace SchemaModel

variable (model : SchemaModel) (payload : Payload)

/-- What the payload holds in a field, if it is valid there. -/
def parsed (field : String × FieldKind) : Option Value :=
  (Json.get payload field.1).bind (field.2.parse pydantic)

def faults : List String :=
  (model.filter fun field => (parsed pydantic payload field).isNone).map Prod.fst ++
    (Json.keys payload).filter fun key => (model.lookup key).isNone

def dump : Payload :=
  model.filterMap fun field => (parsed pydantic payload field).map fun value => (field.1, value)

end SchemaModel

inductive ValidationResult
  | valid (domainResult : Payload)
  | schemaNotFound
  | contractViolation (errorFields : List String)

def ValidationResult.outcome : ValidationResult → String
  | .valid _ => "valid"
  | .schemaNotFound => "schema_not_found"
  | .contractViolation _ => "contract_violation"

def validate (schemaName schemaVersion : String) (rawPayload : Payload) : ValidationResult :=
  match modelFor schemaName schemaVersion with
  | none => .schemaNotFound
  | some model =>
    match model.faults pydantic rawPayload with
    | [] => .valid (model.dump pydantic rawPayload)
    | fault :: faults =>
      .contractViolation (Sorting.sortBy id (fault :: faults).dedup)

end Validation

/-- What a job is bound to at acceptance. -/
structure ExecutionContract where
  (schemaName schemaVersion approvedModel providerProfileVersion taskType : String)
  maxOutputBound : Int
  correlationId : String

def bindRequestToContract (request : ProviderRequest) (contract : ExecutionContract)
    (modelHardCap : Option Int) : Except String ProviderRequest :=
  let mismatch :=
    [("approved_model", request.approvedModel, contract.approvedModel),
      ("schema_name", request.schemaName, contract.schemaName),
      ("schema_version", request.schemaVersion, contract.schemaVersion),
      ("task_type", request.taskType, contract.taskType),
      ("provider_profile_version", request.providerProfileVersion,
        contract.providerProfileVersion)].find? fun (_, asked, bound) => asked ≠ bound
  match mismatch with
  | some (fieldName, _) => .error ("contract_mismatch:" ++ fieldName)
  | none =>
    let cap := min request.maxOutputTokens contract.maxOutputBound
    let effectiveMax := (modelHardCap.map (min cap)).getD cap
    if effectiveMax ≤ 0 then .error "contract_mismatch:max_output_bound"
    else
      .ok
        { jobId := request.jobId, tenantId := request.tenantId, taskType := contract.taskType
          schemaName := contract.schemaName, schemaVersion := contract.schemaVersion
          approvedModel := contract.approvedModel
          providerProfileVersion := contract.providerProfileVersion, maxOutputTokens := effectiveMax
          correlationId := contract.correlationId, prompt := request.prompt }

section Revalidation

variable {pydantic : Pydantic}

theorem parse_parsed {kind : FieldKind} {value result : Value}
    (valid : kind.parse pydantic value = some result) :
    kind.parse pydantic result = some result := by
  cases kind with
  | text =>
    cases value with
    | text =>
      simp only [FieldKind.parse] at valid
      split at valid
      · next enough =>
        cases valid
        exact if_pos enough
      · cases valid
    | _ => cases valid
  | texts =>
    cases value with
    | array =>
      simp only [FieldKind.parse] at valid
      split at valid
      · next enough =>
        cases valid
        exact if_pos enough
      · cases valid
    | _ => cases valid
  | fraction =>
    have parsed : (pydantic.float value).bind (fun number =>
        if 0 ≤ number ∧ number ≤ 1 then some (Value.decimal number) else none) = some result := by
      cases value with | _ => exact valid
    rcases Option.bind_eq_some_iff.mp parsed with ⟨_, _, bounded⟩
    split at bounded
    · next inside =>
      cases bounded
      exact if_pos inside
    · cases bounded

theorem lookup_filterMap {α : Type} (get : String × α → Option Value) {model : List (String × α)}
    (distinct : (model.map Prod.fst).Nodup) {field : String × α} (member : field ∈ model) :
    (model.filterMap fun field => (get field).map fun value => (field.1, value)).lookup field.1 =
      get field := by
  have absent : ∀ fields : List (String × α), field.1 ∉ fields.map Prod.fst →
      (fields.filterMap fun field => (get field).map fun value => (field.1, value)).lookup field.1 =
        none := by
    intro fields missing
    rw [List.lookup_eq_none_iff]
    intro entry inside
    rcases List.mem_filterMap.mp inside with ⟨other, listed, same⟩
    rcases Option.map_eq_some_iff.mp same with ⟨_, _, rfl⟩
    have different : field.1 ≠ other.1 := fun equal =>
      missing (equal ▸ List.mem_map_of_mem listed)
    simpa using different
  induction model with
  | nil => cases member
  | cons first model ih =>
    rw [List.map_cons, List.nodup_cons] at distinct
    rcases List.mem_cons.mp member with rfl | later
    · cases got : get field with
      | none => simpa [got] using absent model distinct.1
      | some => simp [got]
    · have different : field.1 ≠ first.1 := fun same =>
        distinct.1 (same ▸ List.mem_map_of_mem later)
      cases got : get first with
      | none => simpa [got] using ih distinct.2 later
      | some =>
        simpa [got, List.lookup_cons, beq_eq_false_iff_ne.mpr different]
          using ih distinct.2 later

namespace SchemaModel

variable {model : SchemaModel} {payload : Payload}

theorem parsed_dump (distinct : (model.map Prod.fst).Nodup) {field : String × FieldKind}
    (member : field ∈ model) :
    parsed pydantic (model.dump pydantic payload) field = parsed pydantic payload field := by
  have held : Json.get (model.dump pydantic payload) field.1 = parsed pydantic payload field :=
    lookup_filterMap (parsed pydantic payload) distinct member
  rw [parsed, held]
  cases found : parsed pydantic payload field with
  | none => rfl
  | some =>
    rcases Option.bind_eq_some_iff.mp found with ⟨_, _, valid⟩
    exact parse_parsed valid

theorem faults_dump (distinct : (model.map Prod.fst).Nodup)
    (clean : model.faults pydantic payload = []) :
    model.faults pydantic (model.dump pydantic payload) = [] := by
  rw [faults, List.append_eq_nil_iff] at clean ⊢
  rw [List.map_eq_nil_iff, List.filter_eq_nil_iff] at clean ⊢
  constructor
  · intro field member
    rw [parsed_dump distinct member]
    exact clean.1 field member
  · rw [List.filter_eq_nil_iff]
    intro key listed
    rcases List.mem_map.mp listed with ⟨_, inside, rfl⟩
    rcases List.mem_filterMap.mp inside with ⟨field, member, same⟩
    rcases Option.map_eq_some_iff.mp same with ⟨_, _, rfl⟩
    rw [Option.isNone_iff_eq_none, List.lookup_eq_none_iff]
    intro missing
    have own := missing field member
    simp at own

theorem dump_dump (distinct : (model.map Prod.fst).Nodup) :
    model.dump pydantic (model.dump pydantic payload) = model.dump pydantic payload := by
  have each : ∀ field ∈ model,
      (parsed pydantic (model.dump pydantic payload) field).map (fun value => (field.1, value)) =
        (parsed pydantic payload field).map fun value => (field.1, value) := by
    intro field member
    rw [parsed_dump distinct member]
  exact List.filterMap_congr each

end SchemaModel

variable {schemaName schemaVersion : String}

theorem modelFor_distinct {model : SchemaModel}
    (found : modelFor schemaName schemaVersion = some model) : (model.map Prod.fst).Nodup := by
  unfold modelFor at found
  rw [List.lookup_cons] at found
  split at found
  · cases found
    decide
  · rw [List.lookup_cons] at found
    split at found
    · cases found
      decide
    · cases found

theorem validate_valid {payload domainResult : Payload}
    (valid : validate pydantic schemaName schemaVersion payload = .valid domainResult) :
    validate pydantic schemaName schemaVersion domainResult = .valid domainResult := by
  unfold validate at valid ⊢
  cases found : modelFor schemaName schemaVersion with
  | none =>
    rw [found] at valid
    cases valid
  | some model =>
    have distinct := modelFor_distinct found
    rw [found] at valid
    dsimp only at valid ⊢
    cases clean : model.faults pydantic payload with
    | cons =>
      rw [clean] at valid
      cases valid
    | nil =>
      rw [clean] at valid
      cases valid
      rw [SchemaModel.faults_dump distinct clean, SchemaModel.dump_dump distinct]

end Revalidation

end BackendHandbook.StructuredOutput
