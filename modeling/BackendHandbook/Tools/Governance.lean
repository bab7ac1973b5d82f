import BackendHandbook.Foundation.PlainJson
import BackendHandbook.Foundation.Sorting
import BackendHandbook.Tools.Contracts

/-! Tool visibility, schema projection and the governance of a bound invocation. -/

namespace BackendHandbook.Tools

open Json (Value Plain)

structure ArgumentEnumConstraint where
  (toolId propertyName : String)
  allowedValues : List String
  present : toolId ≠ "" ∧ propertyName ≠ "" ∧ allowedValues ≠ []
  values_nodup : allowedValues.Nodup

structure TrustedToolContext where
  (tenantId userId role jobId stepId : String)
  grantedToolIds : List String
  argumentEnumConstraints : List ArgumentEnumConstraint
  identities_present : "" ∉ [tenantId, userId, role, jobId, stepId]

structure AgentToolCatalogEntry where
  (name version description : String)
  fields_present : name ≠ "" ∧ version ≠ "" ∧ description ≠ ""

def toolIdOf (name version : String) : String := name ++ "@" ++ version

def AgentToolCatalogEntry.toolId (entry : AgentToolCatalogEntry) : String :=
  toolIdOf entry.name entry.version

structure VisibleToolDefinition where
  (name version description baseSchemaSha256 argumentsSchemaJson argumentsSchemaSha256 : String)
  deriving DecidableEq

structure ToolVisibilityDecision where
  toolId : String
  visible : Bool
  reason : String
  deriving DecidableEq

structure ToolCapabilitySnapshot where
  (snapshotId tenantId userId role jobId stepId : String)
  visibleTools : List VisibleToolDefinition
  decisions : List ToolVisibilityDecision
  deriving DecidableEq

structure BoundToolInvocation where
  (snapshotId tenantId userId role jobId stepId toolName toolVersion argumentsSchemaSha256 : String)

def BoundToolInvocation.toolId (binding : BoundToolInvocation) : String :=
  toolIdOf binding.toolName binding.toolVersion

inductive InvocationGovernanceStatus
  | allowedToDay74Admission | originalSnapshotMismatch | originalToolNotVisible
  | currentPermissionRevoked | currentRegistryBlocked | schemaBindingMismatch
  deriving DecidableEq

def InvocationGovernanceStatus.value : InvocationGovernanceStatus → String
  | .allowedToDay74Admission => "ALLOWED_TO_DAY74_ADMISSION"
  | .originalSnapshotMismatch => "ORIGINAL_SNAPSHOT_MISMATCH"
  | .originalToolNotVisible => "ORIGINAL_TOOL_NOT_VISIBLE"
  | .currentPermissionRevoked => "CURRENT_PERMISSION_REVOKED"
  | .currentRegistryBlocked => "CURRENT_REGISTRY_BLOCKED"
  | .schemaBindingMismatch => "SCHEMA_BINDING_MISMATCH"

structure GovernedToolCandidate where
  binding : BoundToolInvocation
  arguments : List (String × Value)

inductive BackendPreparationStatus
  | readyForBackendAdmission | blockedByGovernance | projectedSchemaInvalid
  deriving DecidableEq

structure BackendPreparationDecision where
  status : BackendPreparationStatus
  safeReason : String
  deriving DecidableEq

inductive GovernanceError
  | tool (error : ToolError)
  | value (message : String)
  | undecodable

mutual

/-- The value with the keys of its objects in order, as `sort_keys` writes it. -/
def sortedValue : Value → Value
  | .array items => .array (sortedItems items)
  | .object entries => .object (Sorting.sortBy Prod.fst (sortedEntries entries))
  | .null => .null
  | .boolean value => .boolean value
  | .integer value => .integer value
  | .decimal value => .decimal value
  | .text value => .text value

def sortedItems : List Value → List Value
  | [] => []
  | item :: items => sortedValue item :: sortedItems items

def sortedEntries : List (String × Value) → List (String × Value)
  | [] => []
  | (name, value) :: entries => (name, sortedValue value) :: sortedEntries entries

end

mutual

def Schema.sorted : Schema → Schema
  | ⟨type, properties, required, enum, minimum, maximum, minLength, maxLength, items,
      additionalProperties, unsupported⟩ =>
    { type, properties := sortedProperties properties, required, enum := enum.map sortedItems
      minimum
      maximum
      minLength
      maxLength
      items := sortedElement items
      additionalProperties
      unsupported }

def sortedProperties : Option (List (String × Schema)) → Option (List (String × Schema))
  | none => none
  | some properties => some (Sorting.sortBy Prod.fst (sortedSchemas properties))

def sortedSchemas : List (String × Schema) → List (String × Schema)
  | [] => []
  | (name, child) :: properties => (name, child.sorted) :: sortedSchemas properties

def sortedElement : Option Schema → Option Schema
  | none => none
  | some element => some element.sorted

end

/-- `json.dumps` with compact separators and `json.loads`, on schemas in the order they have. -/
structure SchemaText where
  dumps : Schema → String
  loads : String → Option Schema

section Model

variable (text : SchemaText) (sha256 : String → String)

def canonicalSchema (schema : Schema) : String := text.dumps schema.sorted

/-- `set(values)` fails on a list or an object. -/
def hashable : Value → Bool
  | .array _ => false
  | .object _ => false
  | _ => true

/-- The properties after one constraint on a string property; its enum only narrows. -/
def projectProperty (properties : List (String × Schema)) (constraint : ArgumentEnumConstraint) :
    Except GovernanceError (List (String × Schema)) :=
  match properties.lookup constraint.propertyName with
  | none => .error (.value "Schema projection cannot add an unknown property")
  | some propertySchema =>
    if propertySchema.type ≠ some "string" then
      .error (.value "enum projection supports string properties only")
    else if propertySchema.enum.any fun baseEnum => !baseEnum.all hashable then
      .error (.tool .unhashable)
    else if propertySchema.enum.any fun baseEnum => !constraint.allowedValues.all fun allowed =>
        baseEnum.any fun value => equal (.text allowed) value then
      .error (.value "Schema projection cannot widen the base enum")
    else
      let narrowed :=
        { propertySchema with enum := some (constraint.allowedValues.map Value.text) }
      .ok (properties.map fun declared =>
        if declared.1 = constraint.propertyName then (declared.1, narrowed) else declared)

def projectSchema (baseSchema : Schema) (toolId : String)
    (constraints : List ArgumentEnumConstraint) : Except GovernanceError Schema :=
  match baseSchema.properties with
  | none => .error (.value "Tool arguments Schema must declare properties")
  | some properties => do
      let projected ← (constraints.filter fun constraint => constraint.toolId = toolId).foldlM
        projectProperty properties
      return { baseSchema with properties := some projected }

abbrev Visibility := Option VisibleToolDefinition × ToolVisibilityDecision

def entryVisibility (registry : ToolRegistry) (context : TrustedToolContext)
    (entry : AgentToolCatalogEntry) : Except GovernanceError Visibility :=
  if entry.toolId ∉ context.grantedToolIds then
    .ok (none, ⟨entry.toolId, false, "NOT_GRANTED_FOR_CONTEXT"⟩)
  else
    match registry.resolve entry.name entry.version with
    | (none, resolution) => .ok (none, ⟨entry.toolId, false, resolution.value⟩)
    | (some definition, _) => do
        let projected ← projectSchema definition.argumentsSchema entry.toolId
          context.argumentEnumConstraints
        return (some
          { name := definition.name, version := definition.version, description := entry.description
            baseSchemaSha256 := sha256 (canonicalSchema text definition.argumentsSchema)
            argumentsSchemaJson := canonicalSchema text projected
            argumentsSchemaSha256 := sha256 (canonicalSchema text projected) },
          ⟨entry.toolId, true, "VISIBLE"⟩)

def snapshotMaterial (context : TrustedToolContext) (visible : List VisibleToolDefinition)
    (decisions : List ToolVisibilityDecision) : String :=
  Json.dumps (.object
    [("decisions", .array (decisions.map fun item =>
        .array [.text item.toolId, .boolean item.visible, .text item.reason])),
     ("job_id", .text context.jobId),
     ("role", .text context.role),
     ("schemas", .array (visible.map fun item =>
        .array [.text item.name, .text item.version, .text item.argumentsSchemaSha256])),
     ("step_id", .text context.stepId),
     ("tenant_id", .text context.tenantId),
     ("user_id", .text context.userId),
     ("visible", .array ((decisions.filter ToolVisibilityDecision.visible).map fun item =>
        .text item.toolId))])

def buildToolCapabilitySnapshot (registry : ToolRegistry) (catalog : List AgentToolCatalogEntry)
    (context : TrustedToolContext) : Except GovernanceError ToolCapabilitySnapshot :=
  if ¬ (catalog.map AgentToolCatalogEntry.toolId).Nodup then
    .error (.value "duplicate Tool catalog identity")
  else do
    let views ← (Sorting.sortBy AgentToolCatalogEntry.toolId catalog).mapM
      (entryVisibility text sha256 registry context)
    let visible := views.filterMap Prod.fst
    let decisions := views.map Prod.snd
    return {
      snapshotId := "tool-snapshot:" ++ sha256 (snapshotMaterial context visible decisions)
      tenantId := context.tenantId, userId := context.userId, role := context.role
      jobId := context.jobId, stepId := context.stepId, visibleTools := visible
      decisions }

def boundTool (snapshot : ToolCapabilitySnapshot) (binding : BoundToolInvocation) :
    Option VisibleToolDefinition :=
  snapshot.visibleTools.find? fun tool =>
    tool.name = binding.toolName && tool.version = binding.toolVersion

def checkInvocationGovernance (binding : BoundToolInvocation)
    (originalSnapshot : ToolCapabilitySnapshot) (currentContext : TrustedToolContext)
    (registry : ToolRegistry) (catalog : List AgentToolCatalogEntry) :
    Except GovernanceError InvocationGovernanceStatus :=
  let originalIdentity := (originalSnapshot.snapshotId, originalSnapshot.tenantId,
    originalSnapshot.userId, originalSnapshot.role, originalSnapshot.jobId,
    originalSnapshot.stepId)
  let boundTo := (binding.tenantId, binding.userId, binding.role, binding.jobId, binding.stepId)
  let currentIdentity := (currentContext.tenantId, currentContext.userId, currentContext.role,
    currentContext.jobId, currentContext.stepId)
  if originalIdentity ≠ (binding.snapshotId, boundTo) ∨ boundTo ≠ currentIdentity then
    .ok .originalSnapshotMismatch
  else
    match boundTool originalSnapshot binding with
    | none => .ok .originalToolNotVisible
    | some originalTool =>
      if originalTool.argumentsSchemaSha256 ≠ binding.argumentsSchemaSha256 then
        .ok .schemaBindingMismatch
      else do
        let currentSnapshot ← buildToolCapabilitySnapshot text sha256 registry catalog
          currentContext
        match boundTool currentSnapshot binding with
        | none =>
          match currentSnapshot.decisions.find? fun item => item.toolId = binding.toolId with
          | none => .ok .currentRegistryBlocked
          | some currentDecision =>
            if currentDecision.reason = "NOT_GRANTED_FOR_CONTEXT" then
              .ok .currentPermissionRevoked
            else .ok .currentRegistryBlocked
        | some currentTool =>
          if currentTool.argumentsSchemaSha256 ≠ binding.argumentsSchemaSha256 then
            .ok .schemaBindingMismatch
          else .ok .allowedToDay74Admission

def prepareCandidateForBackendAdmission (candidate : GovernedToolCandidate)
    (originalSnapshot : ToolCapabilitySnapshot) (currentContext : TrustedToolContext)
    (registry : ToolRegistry) (catalog : List AgentToolCatalogEntry) :
    Except GovernanceError BackendPreparationDecision := do
  let governance ← checkInvocationGovernance text sha256 candidate.binding originalSnapshot
    currentContext registry catalog
  if governance ≠ .allowedToDay74Admission then
    return ⟨.blockedByGovernance, governance.value⟩
  else
    match (boundTool originalSnapshot candidate.binding).bind fun projected =>
        text.loads projected.argumentsSchemaJson with
    | none => .error .undecodable
    | some schema =>
      match validateSchemaSubset (.object candidate.arguments) schema "$" with
      | .error raised => .error (.tool raised)
      | .ok [] => return ⟨.readyForBackendAdmission, "DELEGATE_TO_TOOL_BACKEND"⟩
      | .ok _ => return ⟨.projectedSchemaInvalid, "PROJECTED_ARGUMENT_SCHEMA_INVALID"⟩

end Model

end BackendHandbook.Tools
