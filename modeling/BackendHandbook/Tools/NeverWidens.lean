import BackendHandbook.Tools.Governance
import BackendHandbook.Tools.Satisfaction

/-! A governed candidate has arguments that the current schema of its tool accepts, and the values
that the current constraints allow. -/

namespace BackendHandbook.Tools

open Fallible Sorting List
open Json (Value)

section Accepting

/-- The pairs that the validator accepts, part by part. -/
inductive Accepts : Value → Schema → Prop
  | intro {value : Value} {schema : Schema} (supported : schema.unsupported = [])
      (here : Meets equal value schema)
      (parts : ∀ part child, Part value schema part child → Accepts part child) :
      Accepts value schema

variable {value : Value} {schema : Schema}

theorem accepts_of_sound (sound : Sound value schema) : Accepts value schema := by
  obtain ⟨visits, satisfied⟩ := sound
  induction satisfied with
  | @intro value schema here _ ih =>
    have supported : schema.unsupported = [] := visits value schema .self
    refine .intro supported here fun part child next => ih part child next ?_
    intro last inner deeper
    exact visits last inner (.part supported here.type next deeper)

theorem sound_of_accepts (accepted : Accepts value schema) : Sound value schema := by
  induction accepted with
  | intro supported here _ ih => exact (sound_iff supported here.type).mpr ⟨here, ih⟩

theorem accepts_iff (value : Value) (schema : Schema) (path : String) :
    validateSchemaSubset value schema path = .ok [] ↔ Accepts value schema :=
  (validate_reads value schema path).accepts.trans ⟨accepts_of_sound, sound_of_accepts⟩

end Accepting

section SortedKeys

theorem sortedItems_eq (items : List Value) : sortedItems items = items.map sortedValue := by
  induction items with
  | nil => rfl
  | cons _ _ ih => rw [sortedItems, ih, map_cons]

theorem length_sortedEntries (entries : List (String × Value)) :
    (sortedEntries entries).length = entries.length := by
  induction entries with
  | nil => rfl
  | cons _ _ ih =>
    rw [sortedEntries, length_cons, length_cons, ih]

theorem get_sortedEntries (entries : List (String × Value)) (name : String) :
    Json.get (sortBy Prod.fst (sortedEntries entries)) name =
      (Json.get entries name).map sortedValue := by
  rw [Json.get, lookup_sortBy, Json.get]
  induction entries with
  | nil => rfl
  | cons entry _ ih =>
    obtain ⟨key, _⟩ := entry
    rw [sortedEntries, lookup_cons, lookup_cons, ih]
    cases name == key <;> rfl

mutual

theorem equal_sortedValue (value other : Value) :
    equal value (sortedValue other) = equal value other := by
  have number : comparable (sortedValue other) = comparable other := by cases other <;> rfl
  cases value with
  | null | text => cases other <;> rfl
  | boolean | integer | decimal => exact congrArg (fun held => decide (_ = held)) number
  | array items =>
    cases other with
    | array => exact equalItems_sorted items _
    | _ => rfl
  | object entries =>
    cases other with
    | object others =>
      change (decide (entries.length = (sortBy Prod.fst (sortedEntries others)).length) &&
        equalEntries entries (sortBy Prod.fst (sortedEntries others))) = _
      rw [length_sortBy, length_sortedEntries, equalEntries_sorted entries others]
      rfl
    | _ => rfl

theorem equalItems_sorted (items others : List Value) :
    equalItems items (sortedItems others) = equalItems items others := by
  cases items with
  | nil => cases others <;> rfl
  | cons item items =>
    cases others with
    | nil => rfl
    | cons other others =>
      rw [sortedItems, equalItems, equalItems, equal_sortedValue item other,
        equalItems_sorted items others]

theorem equalEntries_sorted (entries others : List (String × Value)) :
    equalEntries entries (sortBy Prod.fst (sortedEntries others)) =
      equalEntries entries others := by
  cases entries with
  | nil => rfl
  | cons entry entries =>
    obtain ⟨name, value⟩ := entry
    rw [equalEntries, equalEntries, get_sortedEntries, equalEntries_sorted entries others]
    cases Json.get others name with
    | none => rfl
    | some other =>
      exact congrArg (· && equalEntries entries others) (equal_sortedValue value other)

end

theorem sorted_enum (schema : Schema) : schema.sorted.enum = schema.enum.map sortedItems := by
  cases schema
  rfl

variable (properties : List (String × Schema))

theorem lookup_sortedSchemas (name : String) :
    (sortedSchemas properties).lookup name = (properties.lookup name).map Schema.sorted := by
  induction properties with
  | nil => rfl
  | cons entry _ ih =>
    obtain ⟨key, _⟩ := entry
    rw [sortedSchemas, lookup_cons, lookup_cons, ih]
    cases name == key <;> rfl

theorem names_sortedSchemas :
    (sortedSchemas properties).map Prod.fst = properties.map Prod.fst := by
  induction properties with
  | nil => rfl
  | cons _ _ ih => rw [sortedSchemas, map_cons, map_cons, ih]

variable (schema : Schema)

theorem lookup_sorted (name : String) : (schema.sorted.properties.getD []).lookup name =
      ((schema.properties.getD []).lookup name).map Schema.sorted := by
  obtain ⟨_, properties, _, _, _, _, _, _, _, _, _⟩ := schema
  cases properties with
  | none => rfl
  | some properties =>
    change (sortBy Prod.fst (sortedSchemas properties)).lookup name = _
    rw [lookup_sortBy, lookup_sortedSchemas]
    rfl

theorem mem_names_sorted (name : String) : name ∈ (schema.sorted.properties.getD []).map Prod.fst ↔
      name ∈ (schema.properties.getD []).map Prod.fst := by
  obtain ⟨_, properties, _, _, _, _, _, _, _, _, _⟩ := schema
  cases properties with
  | none => exact Iff.rfl
  | some properties =>
    change name ∈ (sortBy Prod.fst (sortedSchemas properties)).map Prod.fst ↔ _
    rw [((sortBy_perm Prod.fst (sortedSchemas properties)).map Prod.fst).mem_iff,
      names_sortedSchemas]
    rfl

theorem sorted_items : schema.sorted.items = schema.items.map Schema.sorted := by
  obtain ⟨_, _, _, _, _, _, _, _, items, _, _⟩ := schema
  cases items <;> rfl

variable {value : Value} {schema : Schema}

theorem part_sorted {part : Value} {child : Schema} :
    Part value schema.sorted part child ↔ ∃ inner, Part value schema part inner ∧
      child = inner.sorted := by
  constructor
  · rintro (⟨present, declared⟩ | ⟨present, declared⟩)
    · rw [lookup_sorted] at declared
      obtain ⟨inner, found, rfl⟩ := Option.map_eq_some_iff.mp declared
      exact ⟨inner, .property present found, rfl⟩
    · rw [sorted_items] at declared
      obtain ⟨inner, found, rfl⟩ := Option.map_eq_some_iff.mp declared
      exact ⟨inner, .item present found, rfl⟩
  · rintro ⟨_, ⟨present, declared⟩ | ⟨present, declared⟩, rfl⟩
    · refine .property present ?_
      rw [lookup_sorted, declared]
      rfl
    · refine .item present ?_
      rw [sorted_items, declared]
      rfl

theorem exists_equal_sorted (allowed : List Value) :
    (∃ one ∈ sortedItems allowed, equal value one = true) ↔
      ∃ one ∈ allowed, equal value one = true := by
  simp [sortedItems_eq, equal_sortedValue]

theorem meets_sorted : Meets equal value schema.sorted ↔ Meets equal value schema := by
  have enum : (∀ allowed, schema.sorted.enum = some allowed → ∃ one ∈ allowed,
      equal value one = true) ↔ ∀ allowed, schema.enum = some allowed → ∃ one ∈ allowed,
        equal value one = true := by
    rw [sorted_enum]
    cases schema.enum with
    | none => exact ⟨nofun, nofun⟩
    | some =>
      constructor
      · rintro each _ ⟨⟩
        exact exists_equal_sorted _ |>.mp (each _ rfl)
      · rintro each _ ⟨⟩
        exact exists_equal_sorted _ |>.mpr (each _ rfl)
  have closed : ∀ entries : List (String × Value),
      (∀ name ∈ Json.keys entries, name ∈ (schema.sorted.properties.getD []).map Prod.fst) ↔
        ∀ name ∈ Json.keys entries, name ∈ (schema.properties.getD []).map Prod.fst :=
    fun entries => forall_congr' fun name => imp_congr_right fun _ => mem_names_sorted schema name
  constructor
  · intro met
    cases schema
    exact ⟨met.type, enum.mp met.enum, met.minLength, met.maxLength, met.minimum, met.maximum,
      met.required, fun entries given same => (closed entries).mp
        (met.additionalProperties entries given same)⟩
  · intro met
    cases schema
    exact ⟨met.type, enum.mpr met.enum, met.minLength, met.maxLength, met.minimum, met.maximum,
      met.required, fun entries given same => (closed entries).mpr
        (met.additionalProperties entries given same)⟩

theorem sorted_unsupported (schema : Schema) : schema.sorted.unsupported = schema.unsupported := by
  cases schema
  rfl

theorem accepts_sorted : Accepts value schema.sorted ↔ Accepts value schema := by
  constructor
  · intro accepted
    generalize same : schema.sorted = ordered at accepted
    induction accepted generalizing schema with
    | intro supported here _ ih =>
      subst same
      rw [sorted_unsupported] at supported
      refine .intro supported (meets_sorted.mp here) fun part child next => ?_
      exact ih part child.sorted (part_sorted.mpr ⟨child, next, rfl⟩) rfl
  · intro accepted
    induction accepted with
    | @intro value schema supported here _ ih =>
      refine .intro ((sorted_unsupported schema).trans supported) (meets_sorted.mpr here) ?_
      intro part child next
      obtain ⟨inner, found, rfl⟩ := part_sorted.mp next
      exact ih part inner found

end SortedKeys

section Projection

/-- The properties have the same names, and each accepts no more than it did. -/
structure Narrowed (properties projected : List (String × Schema)) : Prop where
  names : projected.map Prod.fst = properties.map Prod.fst
  narrower : ∀ name child, properties.lookup name = some child →
    ∃ narrow, projected.lookup name = some narrow ∧
      ∀ value, Accepts value narrow → Accepts value child

theorem Narrowed.refl (properties : List (String × Schema)) : Narrowed properties properties :=
  ⟨rfl, fun _ child found => ⟨child, found, fun _ accepted => accepted⟩⟩

theorem Narrowed.trans {properties between projected : List (String × Schema)}
    (first : Narrowed properties between) (second : Narrowed between projected) :
    Narrowed properties projected := by
  refine ⟨second.names.trans first.names, fun name child found => ?_⟩
  obtain ⟨inner, held, inward⟩ := first.narrower name child found
  obtain ⟨narrow, kept, onward⟩ := second.narrower name inner held
  exact ⟨narrow, kept, fun value accepted => inward value (onward value accepted)⟩

variable {value : Value} {schema : Schema}

theorem Narrowed.accepts {projected : List (String × Schema)}
    (narrowed : Narrowed (schema.properties.getD []) projected)
    (accepted : Accepts value { schema with properties := some projected }) :
    Accepts value schema := by
  obtain ⟨supported, here, parts⟩ := accepted
  refine .intro supported ⟨here.type, here.enum, here.minLength, here.maxLength, here.minimum,
    here.maximum, here.required, ?_⟩ ?_
  · intro entries given same name inside
    rw [← narrowed.names]
    exact here.additionalProperties entries given same name inside
  · rintro part child (⟨present, declared⟩ | ⟨present, declared⟩)
    · obtain ⟨narrow, held, inward⟩ := narrowed.narrower _ child declared
      exact inward part (parts part narrow (.property present held))
    · exact parts part child (.item present declared)

theorem eq_text_of_equal {text : String} (same : equal value (.text text) = true) :
    value = .text text := by
  cases value with
  | text => exact congrArg _ (of_decide_eq_true same)
  | null | boolean | integer | decimal | array | object => cases same

theorem accepts_of_enum {allowed : List String}
    (inside : ∀ base, schema.enum = some base → ∀ text ∈ allowed, ∃ value ∈ base,
      equal (.text text) value = true) (accepted : Accepts value
    { schema with enum := some (allowed.map .text) }) :
    Accepts value schema := by
  obtain ⟨supported, here, parts⟩ := accepted
  refine .intro supported ⟨here.type, ?_, here.minLength, here.maxLength, here.minimum,
    here.maximum, here.required, here.additionalProperties⟩ ?_
  · intro base given
    obtain ⟨_, listed, same⟩ := here.enum _ rfl
    obtain ⟨text, kept, rfl⟩ := mem_map.mp listed
    obtain ⟨other, found, equals⟩ := inside base given text kept
    rw [eq_text_of_equal same]
    exact ⟨other, found, equals⟩
  · rintro part child (⟨present, declared⟩ | ⟨present, declared⟩)
    · exact parts part child (.property present declared)
    · exact parts part child (.item present declared)

theorem lookup_replaced (properties : List (String × Schema)) (changed : String)
    (narrow : Schema) (name : String) : (properties.map fun declared =>
        if declared.1 = changed then (declared.1, narrow) else declared).lookup name =
      if name = changed then (properties.lookup name).map fun _ => narrow
      else properties.lookup name := by
  induction properties with
  | nil =>
    split <;> rfl
  | cons entry _ ih =>
    obtain ⟨key, child⟩ := entry
    rw [map_cons, lookup_cons]
    by_cases sought : name = key
    · subst sought
      by_cases here : name = changed
      · simp [if_pos here]
      · simp [if_neg here]
    · have passed : (name == (if key = changed then (key, narrow) else (key, child)).1) = false := by
        split <;> exact beq_false_of_ne sought
      rw [lookup_cons, passed, beq_false_of_ne sought]
      exact ih

/-- What one constraint does to the properties: the one it names gets its values as enum. -/
structure Constrained (properties projected : List (String × Schema))
    (constraint : ArgumentEnumConstraint) : Prop where
  narrowed : Narrowed properties projected
  changed : ∃ child, properties.lookup constraint.propertyName = some child ∧
    child.type = some "string" ∧
    (∀ base, child.enum = some base → ∀ text ∈ constraint.allowedValues, ∃ value ∈ base,
      equal (.text text) value = true) ∧
    projected.lookup constraint.propertyName =
      some { child with enum := some (constraint.allowedValues.map .text) }
  others : ∀ name, name ≠ constraint.propertyName → projected.lookup name = properties.lookup name

variable {constraint : ArgumentEnumConstraint} {constraints : List ArgumentEnumConstraint}

theorem projectProperty_constrained {properties projected : List (String × Schema)}
    (done : projectProperty properties constraint = .ok projected) :
    Constrained properties projected constraint := by
  unfold projectProperty at done
  split at done
  · cases done
  · next child found =>
    obtain ⟨typed, done⟩ := ite_error_eq_ok.mp done
    obtain ⟨_, done⟩ := ite_error_eq_ok.mp done
    obtain ⟨kept, done⟩ := ite_error_eq_ok.mp done
    cases done
    have inside : ∀ base, child.enum = some base → ∀ text ∈ constraint.allowedValues,
        ∃ value ∈ base, equal (.text text) value = true := by
      intro base given text allowed
      rw [given] at kept
      have every : constraint.allowedValues.all (fun text =>
          base.any fun value => equal (.text text) value) = true := by simpa using kept
      exact any_eq_true.mp (all_eq_true.mp every text allowed)
    refine ⟨⟨?_, ?_⟩, ⟨child, found, not_not.mp typed, inside, ?_⟩, ?_⟩
    · rw [map_map]
      refine map_congr_left fun declared _ => ?_
      dsimp only [Function.comp_apply]
      split <;> rfl
    · intro name wide held
      by_cases same : name = constraint.propertyName
      · subst same
        cases Option.some.inj (found.symm.trans held)
        refine ⟨_, ?_, fun value accepted => accepts_of_enum inside accepted⟩
        rw [lookup_replaced, if_pos rfl, found]
        rfl
      · refine ⟨wide, ?_, fun _ accepted => accepted⟩
        rw [lookup_replaced, if_neg same, held]
    · rw [lookup_replaced, if_pos rfl, found]
      rfl
    · intro name other
      rw [lookup_replaced, if_neg other]

/-- The named property is a string with an enum of values that the constraint allows. -/
def Restricts (projected : List (String × Schema)) (constraint : ArgumentEnumConstraint) : Prop :=
  ∃ (child : Schema) (values : List String), projected.lookup constraint.propertyName = some child ∧
    child.enum = some (values.map Value.text) ∧ ∀ text ∈ values, text ∈ constraint.allowedValues

variable {properties projected : List (String × Schema)}

theorem Constrained.restricts (step : Constrained properties projected constraint) :
    Restricts projected constraint := by
  obtain ⟨_, _, _, _, held⟩ := step.changed
  exact ⟨_, constraint.allowedValues, held, rfl, fun _ listed => listed⟩

theorem Constrained.keeps {earlier : ArgumentEnumConstraint}
    (step : Constrained properties projected constraint)
    (restricts : Restricts properties earlier) : Restricts projected earlier := by
  obtain ⟨child, values, held, enum, allowed⟩ := restricts
  by_cases same : earlier.propertyName = constraint.propertyName
  · obtain ⟨_, found, _, inside, changed⟩ := step.changed
    rw [same] at held
    cases Option.some.inj (found.symm.trans held)
    refine ⟨_, constraint.allowedValues, by rw [same]; exact changed, rfl, ?_⟩
    intro text listed
    obtain ⟨_, member, equals⟩ := inside _ enum text listed
    obtain ⟨kept, present, rfl⟩ := mem_map.mp member
    have texts : text = kept := of_decide_eq_true equals
    rw [texts]
    exact allowed kept present
  · exact ⟨child, values, (step.others _ same).trans held, enum, allowed⟩

/-- What a run over the constraints keeps: less and less is accepted, and every constraint met so
far holds. -/
theorem fold_projected {properties projected : List (String × Schema)}
    (done : constraints.foldlM projectProperty properties = .ok projected) :
    Narrowed properties projected ∧
      (∀ earlier, Restricts properties earlier → Restricts projected earlier) ∧
      ∀ constraint ∈ constraints, Restricts projected constraint := by
  induction constraints generalizing properties with
  | nil =>
    cases done
    exact ⟨.refl _, fun _ restricts => restricts, nofun⟩
  | cons constraint _ ih =>
    obtain ⟨_, first, rest⟩ := bind_eq_ok.mp done
    have step := projectProperty_constrained first
    obtain ⟨narrowed, keeps, each⟩ := ih rest
    exact ⟨step.narrowed.trans narrowed,
      fun earlier restricts => keeps earlier (step.keeps restricts),
      forall_mem_cons.mpr ⟨keeps constraint step.restricts, each⟩⟩

theorem projectSchema_sound {baseSchema projected : Schema} {toolId : String}
    (done : projectSchema baseSchema toolId constraints = .ok projected) :
    (∀ value, Accepts value projected → Accepts value baseSchema) ∧
      ∀ constraint ∈ constraints, constraint.toolId = toolId →
        Restricts (projected.properties.getD []) constraint := by
  unfold projectSchema at done
  split at done
  · cases done
  · next properties declared =>
    obtain ⟨_, folded, same⟩ := bind_eq_ok.mp done
    cases same
    obtain ⟨narrowed, _, each⟩ := fold_projected folded
    constructor
    · intro value accepted
      refine Narrowed.accepts ?_ accepted
      rw [declared]
      exact narrowed
    · intro constraint listed about
      exact each constraint (mem_filter.mpr ⟨listed, decide_eq_true about⟩)

theorem allowed_of_restricts (restricts : Restricts (schema.properties.getD []) constraint)
    {arguments : List (String × Value)} (accepted : Accepts (.object arguments) schema)
    (present : (constraint.propertyName, value) ∈ arguments) :
    ∃ text ∈ constraint.allowedValues, value = .text text := by
  obtain ⟨child, _, declared, enum, allowed⟩ := restricts
  obtain ⟨_, _, parts⟩ := accepted
  obtain ⟨_, here, _⟩ := parts value child (.property present declared)
  obtain ⟨_, listed, same⟩ := here.enum _ enum
  obtain ⟨text, kept, rfl⟩ := mem_map.mp listed
  exact ⟨text, allowed text kept, eq_text_of_equal same⟩

end Projection

section Snapshots

variable {text : SchemaText} {sha256 : String → String} {registry : ToolRegistry}
  {catalog : List AgentToolCatalogEntry} {context : TrustedToolContext}

theorem name_of_resolve {name version : String} {definition : ToolDefinition}
    (resolved : (registry.resolve name version).1 = some definition) :
    definition.name = name ∧ definition.version = version := by
  unfold ToolRegistry.resolve at resolved
  split at resolved
  · next found =>
    have keyed := registry.keyed _ _ found
    split at resolved
    · cases resolved
    · cases resolved
      exact ⟨(congrArg Prod.fst keyed).symm, (congrArg Prod.snd keyed).symm⟩
  · split at resolved <;> cases resolved

/-- The facts behind a visible tool: its entry, the grant, the resolution and the projection. -/
def ShownBy (text : SchemaText) (sha256 : String → String) (registry : ToolRegistry)
    (catalog : List AgentToolCatalogEntry) (context : TrustedToolContext)
    (tool : VisibleToolDefinition) : Prop :=
  ∃ entry ∈ catalog, entry.name = tool.name ∧ entry.version = tool.version ∧
    entry.toolId ∈ context.grantedToolIds ∧
    ∃ definition projected, (registry.resolve tool.name tool.version).1 = some definition ∧
      projectSchema definition.argumentsSchema entry.toolId context.argumentEnumConstraints =
        .ok projected ∧
      tool.argumentsSchemaJson = canonicalSchema text projected ∧
      tool.argumentsSchemaSha256 = sha256 (canonicalSchema text projected)

variable {tool : VisibleToolDefinition}

theorem entryVisibility_shown {entry : AgentToolCatalogEntry}
    {decision : ToolVisibilityDecision} (listed : entry ∈ catalog)
    (done : entryVisibility text sha256 registry context entry = .ok (some tool, decision)) :
    ShownBy text sha256 registry catalog context tool := by
  unfold entryVisibility at done
  by_cases granted : entry.toolId ∉ context.grantedToolIds
  · rw [if_pos granted] at done
    cases done
  rw [if_neg granted] at done
  split at done
  · cases done
  · next definition _ resolved =>
    obtain ⟨projected, narrowed, same⟩ := bind_eq_ok.mp done
    cases same
    have found : (registry.resolve entry.name entry.version).1 = some definition := by
      rw [resolved]
    obtain ⟨named, versioned⟩ := name_of_resolve found
    refine ⟨entry, listed, named.symm, versioned.symm, not_not.mp granted, definition, projected,
      ?_, narrowed, rfl, rfl⟩
    rw [← named, ← versioned] at found
    exact found

variable {snapshot : ToolCapabilitySnapshot}

theorem shown_of_built
    (built : buildToolCapabilitySnapshot text sha256 registry catalog context = .ok snapshot)
    (visible : tool ∈ snapshot.visibleTools) :
    ShownBy text sha256 registry catalog context tool := by
  obtain ⟨_, built⟩ := ite_error_eq_ok.mp built
  obtain ⟨_, viewed, same⟩ := bind_eq_ok.mp built
  cases same
  obtain ⟨⟨_, _⟩, listed, rfl⟩ := mem_filterMap.mp visible
  obtain ⟨_, ordered, done⟩ := forall₂_mem_right (mapM_eq_ok.mp viewed) listed
  have member := (sortBy_perm AgentToolCatalogEntry.toolId catalog).mem_iff.mp ordered
  exact entryVisibility_shown member done

variable {binding : BoundToolInvocation}

theorem boundTool_spec (found : boundTool snapshot binding = some tool) :
    tool ∈ snapshot.visibleTools ∧ tool.name = binding.toolName ∧
      tool.version = binding.toolVersion := by
  have named := find?_some found
  rw [Bool.and_eq_true] at named
  exact ⟨mem_of_find?_eq_some found, of_decide_eq_true named.1, of_decide_eq_true named.2⟩

/-- What an allowed binding has: the current identity, and the same schema in both snapshots. -/
theorem governance_allowed {original : ToolCapabilitySnapshot}
    (allowed : checkInvocationGovernance text sha256 binding original context registry catalog =
      .ok .allowedToDay74Admission) :
    (binding.tenantId, binding.userId, binding.role, binding.jobId, binding.stepId) =
        (context.tenantId, context.userId, context.role, context.jobId, context.stepId) ∧
      ∃ originalTool currentTool, boundTool original binding = some originalTool ∧
        ShownBy text sha256 registry catalog context currentTool ∧
        currentTool.name = binding.toolName ∧ currentTool.version = binding.toolVersion ∧
        currentTool.argumentsSchemaSha256 = originalTool.argumentsSchemaSha256 := by
  unfold checkInvocationGovernance at allowed
  dsimp only at allowed
  split at allowed
  · cases allowed
  · next agrees =>
    have current := not_not.mp (not_or.mp agrees).2
    refine ⟨current, ?_⟩
    split at allowed
    · cases allowed
    · next originalTool bound =>
      split at allowed
      · cases allowed
      · next same =>
        obtain ⟨_, built, allowed⟩ := bind_eq_ok.mp allowed
        split at allowed
        · split at allowed
          · cases allowed
          · split at allowed <;> cases allowed
        · next currentTool found =>
          split at allowed
          · cases allowed
          · next unchanged =>
            obtain ⟨visible, named, versioned⟩ := boundTool_spec found
            exact ⟨originalTool, currentTool, bound, shown_of_built built visible, named,
              versioned, (not_not.mp unchanged).trans (not_not.mp same).symm⟩

end Snapshots

/-- What a prepared candidate has now: identity, catalog, grant, resolution, arguments, enums. -/
structure NotWidened (registry : ToolRegistry) (catalog : List AgentToolCatalogEntry)
    (context : TrustedToolContext) (candidate : GovernedToolCandidate) : Prop where
  identity : (candidate.binding.tenantId, candidate.binding.userId, candidate.binding.role,
      candidate.binding.jobId, candidate.binding.stepId) =
    (context.tenantId, context.userId, context.role, context.jobId, context.stepId)
  listed : ∃ entry ∈ catalog, entry.name = candidate.binding.toolName ∧
    entry.version = candidate.binding.toolVersion
  granted : candidate.binding.toolId ∈ context.grantedToolIds
  resolves : ∃ definition,
    (registry.resolve candidate.binding.toolName candidate.binding.toolVersion).1 =
      some definition ∧
    validateSchemaSubset (.object candidate.arguments) definition.argumentsSchema "$" = .ok []
  allowed : ∀ constraint ∈ context.argumentEnumConstraints,
    constraint.toolId = candidate.binding.toolId →
    ∀ value, (constraint.propertyName, value) ∈ candidate.arguments →
      ∃ text ∈ constraint.allowedValues, value = .text text

section Prepared

variable {text : SchemaText} {sha256 : String → String} {registry : ToolRegistry}
  {catalog : List AgentToolCatalogEntry} {context : TrustedToolContext}
  {original : ToolCapabilitySnapshot} {candidate : GovernedToolCandidate}

theorem ready_spec {decision : BackendPreparationDecision}
    (done : prepareCandidateForBackendAdmission text sha256 candidate original context registry
      catalog = .ok decision) (ready : decision.status = .readyForBackendAdmission) :
    checkInvocationGovernance text sha256 candidate.binding original context registry catalog =
        .ok .allowedToDay74Admission ∧
      ∀ tool, boundTool original candidate.binding = some tool → ∃ schema,
        text.loads tool.argumentsSchemaJson = some schema ∧
        Accepts (.object candidate.arguments) schema := by
  obtain ⟨governance, checked, done⟩ := bind_eq_ok.mp done
  by_cases blocked : governance ≠ .allowedToDay74Admission
  · rw [if_pos blocked] at done
    cases done
    cases ready
  rw [if_neg blocked] at done
  rw [not_not.mp blocked] at checked
  refine ⟨checked, fun tool bound => ?_⟩
  rw [bound] at done
  split at done
  · cases done
  · next schema loaded =>
    refine ⟨schema, loaded, ?_⟩
    split at done
    · cases done
    · next valid => exact (accepts_iff _ schema "$").mp valid
    · cases done
      cases ready

theorem accepted_by_current {originalRegistry : ToolRegistry}
    {originalCatalog : List AgentToolCatalogEntry} {originalContext : TrustedToolContext}
    (injective : Function.Injective sha256) {originalTool : VisibleToolDefinition}
    (shown : ShownBy text sha256 originalRegistry originalCatalog originalContext originalTool)
    (reads_back : ∀ schema, text.dumps schema = originalTool.argumentsSchemaJson →
      text.loads originalTool.argumentsSchemaJson = some schema) {projected schema : Schema}
    (same : sha256 (canonicalSchema text projected) = originalTool.argumentsSchemaSha256)
    (loaded : text.loads originalTool.argumentsSchemaJson = some schema) {value : Value}
    (accepted : Accepts value schema) : Accepts value projected := by
  obtain ⟨_, _, _, _, _, _, _, _, _, written, hashed⟩ := shown
  have texts : canonicalSchema text projected = originalTool.argumentsSchemaJson :=
    (injective (same.trans hashed)).trans written.symm
  have read := reads_back projected.sorted texts
  cases Option.some.inj (loaded.symm.trans read)
  exact accepts_sorted.mp accepted

end Prepared

theorem prepared_never_widens {text : SchemaText} {sha256 : String → String}
    (injective : Function.Injective sha256) {originalRegistry registry : ToolRegistry}
    {originalCatalog catalog : List AgentToolCatalogEntry}
    {originalContext context : TrustedToolContext} {original : ToolCapabilitySnapshot}
    (built : buildToolCapabilitySnapshot text sha256 originalRegistry originalCatalog
      originalContext = .ok original) (reads_back : ∀ tool ∈ original.visibleTools, ∀ schema,
      text.dumps schema = tool.argumentsSchemaJson →
      text.loads tool.argumentsSchemaJson = some schema)
    {candidate : GovernedToolCandidate} {decision : BackendPreparationDecision}
    (done : prepareCandidateForBackendAdmission text sha256 candidate original context registry
      catalog = .ok decision) (ready : decision.status = .readyForBackendAdmission) :
    NotWidened registry catalog context candidate ∧ ∀ baseSchema toolId constraints projected,
        projectSchema baseSchema toolId constraints = .ok projected →
        ∀ value path, validateSchemaSubset value projected path = .ok [] →
          validateSchemaSubset value baseSchema path = .ok [] := by
  constructor
  · obtain ⟨allowed, accepts⟩ := ready_spec done ready
    obtain ⟨identity, originalTool, _, bound, shown, named, versioned, hashes⟩ :=
      governance_allowed allowed
    obtain ⟨visible, _, _⟩ := boundTool_spec bound
    obtain ⟨_, loaded, accepted⟩ := accepts originalTool bound
    obtain ⟨entry, listed, sameName, sameVersion, granted, definition, projected, resolved, narrowed,
      _, hashed⟩ := shown
    have toolId : entry.toolId = candidate.binding.toolId := by
      rw [AgentToolCatalogEntry.toolId, sameName, sameVersion, named, versioned]
      rfl
    rw [named, versioned] at resolved
    have fits : Accepts (.object candidate.arguments) projected :=
      accepted_by_current injective (shown_of_built built visible)
        (reads_back originalTool visible) (hashed.symm.trans hashes) loaded accepted
    obtain ⟨narrower, restricts⟩ := projectSchema_sound narrowed
    exact {
      identity := identity
      listed := ⟨entry, listed, sameName.trans named, sameVersion.trans versioned⟩
      granted := toolId ▸ granted
      resolves := ⟨definition, resolved, (accepts_iff _ _ "$").mpr (narrower _ fits)⟩
      allowed := fun constraint given about _ present =>
        allowed_of_restricts (restricts constraint given (about.trans toolId.symm)) fits present }
  · intro baseSchema toolId constraints projected narrowed value path valid
    exact (accepts_iff value baseSchema path).mpr
      ((projectSchema_sound narrowed).1 value ((accepts_iff value projected path).mp valid))

namespace Sample

/-- The schema as it is shown, with the one value that the constraint leaves. -/
def shownText : String :=
  Json.object
    [("properties", Json.object [("tone", Json.object
       [("enum", "[\"draft\"]"), ("type", Json.string "string")])]),
     ("required", "[\"tone\"]"), ("type", Json.string "object")]

def baseSchema : Schema :=
  { type := some "object"
    properties := some [("tone",
      { type := some "string", enum := some [.text "draft", .text "final"] })]
    required := some ["tone"] }

def shownSchema : Schema :=
  { type := some "object"
    properties := some [("tone", { type := some "string", enum := some [.text "draft"] })]
    required := some ["tone"] }

def dumps : Schema → String
  | ⟨some "object", some [("tone", ⟨some "string", none, none, some [.text "draft"], none, none,
      none, none, none, none, []⟩)], some ["tone"], none, none, none, none, none, none, none, []⟩ =>
      shownText
  | _ => "{}"

def schemaText : SchemaText where
  dumps
  loads raw := if raw = shownText then some shownSchema else none

theorem dumps_reads_back (schema : Schema) (written : dumps schema = shownText) :
    schemaText.loads shownText = some schema := by
  unfold dumps at written
  split at written
  · rfl
  · exact absurd written (by decide +kernel)

def hashText (text : String) : String := text

def writer : ToolRegistry := ToolRegistry.empty.add ⟨"write", "1", baseSchema⟩

def writeEntry : AgentToolCatalogEntry := ⟨"write", "1", "Writes a summary.", by decide⟩

def onlyDrafts : ArgumentEnumConstraint := ⟨"write@1", "tone", ["draft"], by decide, by decide⟩

def granted : TrustedToolContext where
  tenantId := "tenant-1"
  userId := "user-1"
  role := "writer"
  jobId := "job-1"
  stepId := "step-1"
  grantedToolIds := ["write@1"]
  argumentEnumConstraints := [onlyDrafts]
  identities_present := by decide

def shownTool : VisibleToolDefinition where
  name := "write"
  version := "1"
  description := "Writes a summary."
  baseSchemaSha256 := hashText "{}"
  argumentsSchemaJson := shownText
  argumentsSchemaSha256 := hashText shownText

def shownSnapshot : ToolCapabilitySnapshot where
  snapshotId := "tool-snapshot:" ++
    hashText (snapshotMaterial granted [shownTool] [⟨"write@1", true, "VISIBLE"⟩])
  tenantId := "tenant-1"
  userId := "user-1"
  role := "writer"
  jobId := "job-1"
  stepId := "step-1"
  visibleTools := [shownTool]
  decisions := [⟨"write@1", true, "VISIBLE"⟩]

def draft : GovernedToolCandidate where
  binding := ⟨shownSnapshot.snapshotId, "tenant-1", "user-1", "writer", "job-1", "step-1", "write",
    "1", hashText shownText⟩
  arguments := [("tone", .text "draft")]

theorem prepared_never_widens_draft : NotWidened writer [writeEntry] granted draft := by
  have built : (buildToolCapabilitySnapshot schemaText hashText writer [writeEntry] granted).toOption.map
      id = some shownSnapshot := by decide +kernel
  have ready : (prepareCandidateForBackendAdmission schemaText hashText draft shownSnapshot granted
      writer [writeEntry]).toOption.map id =
        some ⟨.readyForBackendAdmission, "DELEGATE_TO_TOOL_BACKEND"⟩ := by decide +kernel
  have reads : ∀ tool ∈ shownSnapshot.visibleTools, ∀ schema,
      schemaText.dumps schema = tool.argumentsSchemaJson →
      schemaText.loads tool.argumentsSchemaJson = some schema := by
    intro tool visible schema written
    cases mem_singleton.mp visible
    exact dumps_reads_back schema written
  obtain ⟨_, built, rfl⟩ := exists_of_toOption built
  obtain ⟨_, ready, same⟩ := exists_of_toOption ready
  have injective : Function.Injective hashText := Function.injective_id
  exact (prepared_never_widens injective built reads ready (congrArg _ same)).1

end Sample

end BackendHandbook.Tools
