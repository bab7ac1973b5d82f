import BackendHandbook.Tools.NeverWidens

/-! The order of the enum constraints of a context, and what the projection of the schemas makes of
it. -/

namespace BackendHandbook.Tools

open Fallible
open Json (Value)

section Statement

/-- The value is in the enum of the schema, if it has one. -/
def Schema.Permits (schema : Schema) (value : Value) : Prop :=
  ∀ values, schema.enum = some values → ∃ one ∈ values, equal value one = true

def TrustedToolContext.constrained (context : TrustedToolContext)
    (constraints : List ArgumentEnumConstraint) : TrustedToolContext :=
  { context with argumentEnumConstraints := constraints }

/-- Every property keeps the values that its base and all constraints on it have. -/
def Intersects (base projected : Schema) (toolId : String)
    (constraints : List ArgumentEnumConstraint) : Prop :=
  ∀ name child, (base.properties.getD []).lookup name = some child →
    ∃ narrow, (projected.properties.getD []).lookup name = some narrow ∧
      ∀ value, narrow.Permits value ↔ child.Permits value ∧ ∀ constraint ∈ constraints,
        constraint.toolId = toolId → constraint.propertyName = name →
          ∃ text ∈ constraint.allowedValues, value = .text text

structure AnyOrder (text : SchemaText) (sha256 : String → String) (registry : ToolRegistry)
    (catalog : List AgentToolCatalogEntry) (context : TrustedToolContext) : Prop where
  order : ∀ constraints, constraints.Perm context.argumentEnumConstraints →
    ((∃ snapshot, buildToolCapabilitySnapshot text sha256 registry catalog
        (context.constrained constraints) = .ok snapshot) ↔
      ∃ snapshot, buildToolCapabilitySnapshot text sha256 registry catalog context = .ok snapshot)
  exact : ∀ snapshot,
    buildToolCapabilitySnapshot text sha256 registry catalog context = .ok snapshot →
    ∀ tool ∈ snapshot.visibleTools, ∃ definition projected,
      (registry.resolve tool.name tool.version).1 = some definition ∧
      tool.argumentsSchemaJson = canonicalSchema text projected ∧
      Intersects definition.argumentsSchema projected (toolIdOf tool.name tool.version)
        context.argumentEnumConstraints

/-- The entry is granted and its tool is found, so its schema is projected. -/
def Shows (registry : ToolRegistry) (catalog : List AgentToolCatalogEntry)
    (context : TrustedToolContext) (entry : AgentToolCatalogEntry) (definition : ToolDefinition) :
    Prop :=
  entry ∈ catalog ∧ entry.toolId ∈ context.grantedToolIds ∧
    (registry.resolve entry.name entry.version).1 = some definition

/-- The constraint is on a string property whose base enum, if there is one, has all its values. -/
def Applicable (properties : List (String × Schema)) (constraint : ArgumentEnumConstraint) : Prop :=
  ∃ child, properties.lookup constraint.propertyName = some child ∧ child.type = some "string" ∧
    ∀ base, child.enum = some base → base.all hashable = true ∧
      ∀ text ∈ constraint.allowedValues, ∃ value ∈ base, equal (.text text) value = true

variable (registry : ToolRegistry) (catalog : List AgentToolCatalogEntry)
  (context : TrustedToolContext)

/-- Each constraint can be applied on its own. -/
def Prepared : Prop :=
  (catalog.map AgentToolCatalogEntry.toolId).Nodup ∧
    ∀ entry definition, Shows registry catalog context entry definition →
      ∃ properties, definition.argumentsSchema.properties = some properties ∧
        ∀ constraint ∈ context.argumentEnumConstraints, constraint.toolId = entry.toolId →
          Applicable properties constraint

/-- Both constraints are on one property of a tool that is shown. -/
def Beside (constraint other : ArgumentEnumConstraint) : Prop :=
  (∃ entry definition, Shows registry catalog context entry definition ∧
      entry.toolId = constraint.toolId) ∧
    other.toolId = constraint.toolId ∧ other.propertyName = constraint.propertyName

/-- A constraint cannot be applied on its own, or two on one property have values that the other
does not, or any two on one property have the same values. -/
def OrderFree : Prop :=
  ¬ Prepared registry catalog context ∨
    (∃ constraint ∈ context.argumentEnumConstraints, ∃ other ∈ context.argumentEnumConstraints,
      Beside registry catalog context constraint other ∧
        ¬ constraint.allowedValues ⊆ other.allowedValues ∧
        ¬ other.allowedValues ⊆ constraint.allowedValues) ∨
    ∀ constraint ∈ context.argumentEnumConstraints, ∀ other ∈ context.argumentEnumConstraints,
      Beside registry catalog context constraint other →
        other.allowedValues ⊆ constraint.allowedValues

end Statement

section Projection

variable {properties projected : List (String × Schema)} {constraint : ArgumentEnumConstraint}

theorem projectProperty_ok_iff :
    (∃ projected, projectProperty properties constraint = .ok projected) ↔
      Applicable properties constraint := by
  unfold projectProperty Applicable
  cases properties.lookup constraint.propertyName with
  | none => simp
  | some child =>
    simp only [ite_error_eq_ok, exists_and_left, Except.ok.injEq, not_not,
      Option.some.injEq, exists_eq_left']
    cases child.enum with
    | none | some base => simp

theorem applicable_after {other : ArgumentEnumConstraint} (first : Applicable properties constraint)
    (step : Constrained properties projected constraint) :
    Applicable projected other ↔ Applicable properties other ∧
      (other.propertyName = constraint.propertyName →
        other.allowedValues ⊆ constraint.allowedValues) := by
  obtain ⟨child, found, typed, inside⟩ := first
  obtain ⟨_, held, _, _, changed⟩ := step.changed
  cases Option.some.inj (found.symm.trans held)
  unfold Applicable
  by_cases here : other.propertyName = constraint.propertyName
  · rw [here, changed, found]
    constructor
    · rintro ⟨_, ⟨⟩, _, within⟩
      have subset : other.allowedValues ⊆ constraint.allowedValues := by
        intro text listed
        obtain ⟨_, member, equals⟩ := (within _ rfl).2 text listed
        obtain ⟨kept, present, rfl⟩ := List.mem_map.mp member
        rw [show text = kept from of_decide_eq_true equals]
        exact present
      refine ⟨⟨child, rfl, typed, fun base given => ⟨(inside base given).1, ?_⟩⟩, fun _ => subset⟩
      exact fun text listed => (inside base given).2 text (subset listed)
    · rintro ⟨_, subset⟩
      refine ⟨_, rfl, typed, ?_⟩
      rintro _ ⟨⟩
      refine ⟨by simp [hashable], fun text listed => ?_⟩
      exact ⟨_, List.mem_map_of_mem (subset rfl listed), decide_eq_true rfl⟩
  · rw [step.others _ here]
    exact ⟨fun applies => ⟨applies, fun equals => absurd equals here⟩, And.left⟩

variable {constraints : List ArgumentEnumConstraint}

/-- The constraints can be applied in turn where each can on its own and, on one property, each
later one is within the earlier ones. -/
theorem fold_ok_iff : (∃ projected, constraints.foldlM projectProperty properties = .ok projected) ↔
      (∀ constraint ∈ constraints, Applicable properties constraint) ∧
        constraints.Pairwise fun constraint other =>
          other.propertyName = constraint.propertyName →
            other.allowedValues ⊆ constraint.allowedValues := by
  induction constraints generalizing properties with
  | nil => simp [pure, Except.pure]
  | cons _ _ ih =>
    rw [List.forall_mem_cons, List.pairwise_cons]
    constructor
    · rintro ⟨projected, done⟩
      obtain ⟨between, first, rest⟩ := bind_eq_ok.mp done
      have applies := projectProperty_ok_iff.mp ⟨between, first⟩
      obtain ⟨each, ordered⟩ := ih.mp ⟨projected, rest⟩
      have after := fun other listed =>
        (applicable_after applies (projectProperty_constrained first)).mp (each other listed)
      exact ⟨⟨applies, fun other listed => (after other listed).1⟩,
        fun other listed => (after other listed).2, ordered⟩
    · rintro ⟨⟨applies, each⟩, within, ordered⟩
      obtain ⟨between, first⟩ := projectProperty_ok_iff.mpr applies
      have after := fun other =>
        @applicable_after _ _ _ other applies (projectProperty_constrained first)
      obtain ⟨projected, rest⟩ := (@ih between).mpr
        ⟨fun other listed => (after other).mpr ⟨each other listed, within other listed⟩, ordered⟩
      refine ⟨projected, ?_⟩
      exact bind_eq_ok.mpr ⟨between, first, rest⟩

theorem permits_texts {schema : Schema} {allowed : List String} {value : Value} :
    { schema with enum := some (allowed.map Value.text) }.Permits value ↔
      ∃ text ∈ allowed, value = .text text := by
  constructor
  · intro permits
    obtain ⟨_, listed, equals⟩ := permits _ rfl
    obtain ⟨text, kept, rfl⟩ := List.mem_map.mp listed
    exact ⟨text, kept, eq_text_of_equal equals⟩
  · rintro ⟨_, kept, rfl⟩ _ ⟨⟩
    exact ⟨_, List.mem_map_of_mem kept, decide_eq_true rfl⟩

variable {child : Schema} {name : String}

theorem Constrained.permits (step : Constrained properties projected constraint)
    (declared : properties.lookup name = some child) :
    ∃ narrow, projected.lookup name = some narrow ∧
      ∀ value, narrow.Permits value ↔ child.Permits value ∧
        (constraint.propertyName = name → ∃ text ∈ constraint.allowedValues, value = .text text) := by
  by_cases here : constraint.propertyName = name
  · subst here
    obtain ⟨_, held, _, inside, changed⟩ := step.changed
    cases Option.some.inj (declared.symm.trans held)
    refine ⟨_, changed, fun value => permits_texts.trans ⟨fun allowed => ⟨?_, fun _ => allowed⟩,
      fun both => both.2 rfl⟩⟩
    obtain ⟨text, listed, rfl⟩ := allowed
    exact fun base given => inside base given text listed
  · refine ⟨child, (step.others name (Ne.symm here)).trans declared, fun value => ?_⟩
    exact ⟨fun permits => ⟨permits, fun equals => absurd equals here⟩, And.left⟩

/-- What a run over the constraints leaves of a property: the values of all of them. -/
theorem fold_permits (done : constraints.foldlM projectProperty properties = .ok projected)
    (declared : properties.lookup name = some child) :
    ∃ narrow, projected.lookup name = some narrow ∧
      ∀ value, narrow.Permits value ↔ child.Permits value ∧ ∀ constraint ∈ constraints,
        constraint.propertyName = name → ∃ text ∈ constraint.allowedValues, value = .text text := by
  induction constraints generalizing properties child with
  | nil =>
    cases done
    exact ⟨child, declared, fun value => ⟨fun permits => ⟨permits, nofun⟩, And.left⟩⟩
  | cons _ _ ih =>
    obtain ⟨_, first, rest⟩ := bind_eq_ok.mp done
    obtain ⟨_, held, once⟩ := (projectProperty_constrained first).permits declared
    obtain ⟨narrow, kept, after⟩ := ih rest held
    refine ⟨narrow, kept, fun value => ?_⟩
    rw [after, once, List.forall_mem_cons, and_assoc]

variable {toolId : String}

theorem projectSchema_intersects {base projected : Schema}
    (done : projectSchema base toolId constraints = .ok projected) :
    Intersects base projected toolId constraints := by
  intro name child declared
  unfold projectSchema at done
  split at done
  · cases done
  · next properties given =>
    obtain ⟨_, folded, same⟩ := bind_eq_ok.mp done
    cases same
    rw [given] at declared
    obtain ⟨kept, found, permits⟩ := fold_permits folded declared
    refine ⟨kept, found, fun value => ?_⟩
    simp [permits]

theorem projectSchema_ok_iff {base : Schema} :
    (∃ projected, projectSchema base toolId constraints = .ok projected) ↔
      (∃ properties, base.properties = some properties ∧ ∀ constraint ∈ constraints,
        constraint.toolId = toolId → Applicable properties constraint) ∧
      constraints.Pairwise fun constraint other => constraint.toolId = toolId →
        other.toolId = toolId → other.propertyName = constraint.propertyName →
          other.allowedValues ⊆ constraint.allowedValues := by
  unfold projectSchema
  cases base.properties with
  | none => simp
  | some properties =>
    have folds := @fold_ok_iff properties
      (constraints.filter fun constraint => constraint.toolId = toolId)
    simp only [List.mem_filter, decide_eq_true_eq, and_imp, List.pairwise_filter] at folds
    simp only [Option.some.injEq, exists_eq_left', ← folds]
    constructor
    · rintro ⟨_, done⟩
      obtain ⟨narrow, folded, _⟩ := bind_eq_ok.mp done
      exact ⟨narrow, folded⟩
    · rintro ⟨narrow, folded⟩
      exact ⟨_, bind_eq_ok.mpr ⟨narrow, folded, rfl⟩⟩

end Projection

section Order

variable {text : SchemaText} {sha256 : String → String} {registry : ToolRegistry}
  {catalog : List AgentToolCatalogEntry} {context : TrustedToolContext}

theorem entryVisibility_ok_iff {entry : AgentToolCatalogEntry} (listed : entry ∈ catalog) :
    (∃ visibility, entryVisibility text sha256 registry context entry = .ok visibility) ↔
      ∀ definition, Shows registry catalog context entry definition → ∃ projected,
        projectSchema definition.argumentsSchema entry.toolId context.argumentEnumConstraints =
          .ok projected := by
  unfold entryVisibility
  by_cases granted : entry.toolId ∉ context.grantedToolIds
  · rw [if_pos granted]
    exact iff_of_true ⟨_, rfl⟩ fun _ shows => absurd shows.2.1 granted
  rw [if_neg granted]
  split
  · next unresolved =>
    refine iff_of_true ⟨_, rfl⟩ fun definition shows => ?_
    have found := shows.2.2
    rw [unresolved] at found
    cases found
  · next definition _ resolved =>
    have found : (registry.resolve entry.name entry.version).1 = some definition := by
      rw [resolved]
    constructor
    · rintro ⟨_, done⟩ _ shows
      cases Option.some.inj (found.symm.trans shows.2.2)
      obtain ⟨projected, narrowed, _⟩ := bind_eq_ok.mp done
      exact ⟨projected, narrowed⟩
    · intro projects
      obtain ⟨projected, narrowed⟩ := projects definition ⟨listed, not_not.mp granted, found⟩
      exact ⟨_, bind_eq_ok.mpr ⟨projected, narrowed, rfl⟩⟩

theorem built_iff_projects :
    (∃ snapshot, buildToolCapabilitySnapshot text sha256 registry catalog context = .ok snapshot) ↔
      (catalog.map AgentToolCatalogEntry.toolId).Nodup ∧
        ∀ entry definition, Shows registry catalog context entry definition → ∃ projected,
          projectSchema definition.argumentsSchema entry.toolId context.argumentEnumConstraints =
            .ok projected := by
  constructor
  · rintro ⟨_, built⟩
    obtain ⟨distinct, built⟩ := ite_error_eq_ok.mp built
    obtain ⟨views, viewed, _⟩ := bind_eq_ok.mp built
    refine ⟨not_not.mp distinct, fun entry definition shows => ?_⟩
    have member := (Sorting.mem_sortBy AgentToolCatalogEntry.toolId catalog entry).mpr shows.1
    obtain ⟨visibility, _, done⟩ := forall₂_mem_left (mapM_eq_ok.mp viewed) member
    exact (entryVisibility_ok_iff shows.1).mp ⟨visibility, done⟩ definition shows
  · rintro ⟨distinct, projects⟩
    obtain ⟨views, viewed⟩ := mapM_total (f := entryVisibility text sha256 registry context)
      fun entry member => (entryVisibility_ok_iff
        ((Sorting.mem_sortBy AgentToolCatalogEntry.toolId catalog entry).mp member)).mpr
          (projects entry)
    exact ⟨_, ite_error_eq_ok.mpr ⟨not_not.mpr distinct, bind_eq_ok.mpr ⟨views, viewed, rfl⟩⟩⟩

/-- A later constraint on the property of an earlier one is within it. -/
def Nested (registry : ToolRegistry) (catalog : List AgentToolCatalogEntry)
    (context : TrustedToolContext) (constraint other : ArgumentEnumConstraint) : Prop :=
  Beside registry catalog context constraint other → other.allowedValues ⊆ constraint.allowedValues

theorem built_iff :
    (∃ snapshot, buildToolCapabilitySnapshot text sha256 registry catalog context = .ok snapshot) ↔
      Prepared registry catalog context ∧
        context.argumentEnumConstraints.Pairwise (Nested registry catalog context) := by
  rw [built_iff_projects]
  simp only [projectSchema_ok_iff, Prepared, forall_and, and_assoc]
  refine and_congr_right fun _ => and_congr_right fun _ => ?_
  constructor
  · intro ordered
    refine List.pairwise_of_forall_sublist fun {constraint other} early beside => ?_
    obtain ⟨⟨entry, definition, shows, named⟩, sameTool, sameName⟩ := beside
    exact (ordered entry definition shows).forall_sublist early named.symm
      (sameTool.trans named.symm) sameName
  · intro ordered entry definition shows
    refine ordered.imp fun {constraint other} nested named same property => ?_
    exact nested ⟨⟨entry, definition, shows, named.symm⟩, same.trans named.symm, property⟩

variable {constraint other : ArgumentEnumConstraint}

theorem beside_symm (beside : Beside registry catalog context constraint other) :
    Beside registry catalog context other constraint := by
  obtain ⟨⟨entry, definition, shows, named⟩, sameTool, sameName⟩ := beside
  exact ⟨⟨entry, definition, shows, named.trans sameTool.symm⟩, sameTool.symm, sameName.symm⟩

theorem nested_of_shorter (nested : Nested registry catalog context other constraint)
    (shorter : other.allowedValues.length ≤ constraint.allowedValues.length) :
    Nested registry catalog context constraint other := by
  intro beside
  have subset := nested (beside_symm beside)
  have perm := (constraint.values_nodup.subperm subset).perm_of_length_le shorter
  exact fun text listed => perm.mem_iff.mpr listed

theorem not_nested_iff : ¬ Nested registry catalog context constraint other ∧
        ¬ Nested registry catalog context other constraint ↔
      Beside registry catalog context constraint other ∧
        ¬ constraint.allowedValues ⊆ other.allowedValues ∧
        ¬ other.allowedValues ⊆ constraint.allowedValues := by
  constructor
  · rintro ⟨forward, backward⟩
    obtain ⟨beside, outside⟩ := Classical.not_imp.mp forward
    exact ⟨beside, (Classical.not_imp.mp backward).2, outside⟩
  · rintro ⟨beside, first, second⟩
    exact ⟨fun nested => second (nested beside), fun nested => first (nested (beside_symm beside))⟩

theorem prepared_perm {constraints : List ArgumentEnumConstraint}
    (perm : constraints.Perm context.argumentEnumConstraints) :
    Prepared registry catalog (context.constrained constraints) ↔
      Prepared registry catalog context := by
  refine and_congr_right fun _ => forall₂_congr fun entry definition => imp_congr_right fun _ => ?_
  exact exists_congr fun properties => and_congr_right fun _ =>
    forall_congr' fun constraint => imp_congr_left perm.mem_iff

theorem built_intersects {snapshot : ToolCapabilitySnapshot}
    (built : buildToolCapabilitySnapshot text sha256 registry catalog context = .ok snapshot)
    {tool : VisibleToolDefinition} (visible : tool ∈ snapshot.visibleTools) :
    ∃ definition projected, (registry.resolve tool.name tool.version).1 = some definition ∧
      tool.argumentsSchemaJson = canonicalSchema text projected ∧
      Intersects definition.argumentsSchema projected (toolIdOf tool.name tool.version)
        context.argumentEnumConstraints := by
  obtain ⟨_, _, named, versioned, _, definition, projected, resolved, narrowed, shown, _⟩ :=
    shown_of_built built visible
  refine ⟨definition, projected, resolved, shown, ?_⟩
  rw [← named, ← versioned]
  exact projectSchema_intersects narrowed

end Order

namespace Sample

def draftOrFinal : ArgumentEnumConstraint :=
  ⟨"write@1", "tone", ["draft", "final"], by decide, by decide⟩

end Sample

end BackendHandbook.Tools
