import BackendHandbook.Foundation.Dict
import BackendHandbook.Foundation.Fallible
import BackendHandbook.Retrieval.Contracts

/-! The business-filter grammar, its execution plans and the match that adapters and the
application share. -/

namespace BackendHandbook.Retrieval

open Fallible

inductive FilterOperator
  | eq | in_ | and_ | or_ | not_
  deriving DecidableEq

def FilterOperator.value : FilterOperator → String
  | .eq => "EQ"
  | .in_ => "IN"
  | .and_ => "AND"
  | .or_ => "OR"
  | .not_ => "NOT"

/-- The operators in the order of their values. -/
def FilterOperator.sorted : List FilterOperator := [.and_, .eq, .in_, .not_, .or_]

abbrev FieldName := { name : String // name ≠ "" }

/-- Well-formed by construction: a membership test has a value and a connective two children. -/
inductive FilterExpression
  | eq (field : FieldName) (value : FieldValue)
  | in_ (field : FieldName) (value : FieldValue) (others : List FieldValue)
  | and_ (first second : FilterExpression) (others : List FilterExpression)
  | or_ (first second : FilterExpression) (others : List FilterExpression)
  | not_ (child : FilterExpression)

namespace FilterExpression

def operator : FilterExpression → FilterOperator
  | eq .. => .eq
  | in_ .. => .in_
  | and_ .. => .and_
  | or_ .. => .or_
  | not_ .. => .not_

def children : FilterExpression → List FilterExpression
  | eq .. => []
  | in_ .. => []
  | and_ first second others => first :: second :: others
  | or_ first second others => first :: second :: others
  | not_ child => [child]

mutual

def operators : FilterExpression → List FilterOperator
  | eq .. => [.eq]
  | in_ .. => [.in_]
  | and_ first second others =>
    .and_ :: (operators first ++ operators second ++ operatorsOf others)
  | or_ first second others =>
    .or_ :: (operators first ++ operators second ++ operatorsOf others)
  | not_ child => .not_ :: operators child

def operatorsOf : List FilterExpression → List FilterOperator
  | [] => []
  | child :: rest => operators child ++ operatorsOf rest

end

end FilterExpression

inductive ValueType
  | text | integer | boolean | tuple

/-- `isinstance(value, definition.value_type)`, where a `bool` is an `int` as well. -/
def ValueType.admits : ValueType → FieldValue → Bool
  | .text, .atom (.text _) => true
  | .integer, .atom (.number _) => true
  | .integer, .atom (.flag _) => true
  | .boolean, .atom (.flag _) => true
  | .tuple, .tuple _ => true
  | _, _ => false

structure FilterField where
  name : String
  valueType : ValueType
  clientFilterable : Bool

structure FilterSchema where
  schemaVersion : String
  fields : List FilterField
  (maxDepth maxNodes : Nat)
  present : schemaVersion ≠ "" ∧ fields ≠ []
  bounds_pos : 0 < maxDepth ∧ 0 < maxNodes
  names_nodup : (fields.map FilterField.name).Nodup

structure ProviderFilterCapabilities where
  capabilityVersion : String
  supportedOperators : List FilterOperator
  present : capabilityVersion ≠ "" ∧ supportedOperators ≠ []

inductive FilterPlanMode
  | direct | splitOr | authorizationPrefilterApplicationPostfilter

structure FilterPlan where
  mode : FilterPlanMode
  (authorizationScopeFingerprint schemaFingerprint providerCapabilityVersion : String)
  clientFilterFingerprint : Option String
  providerQueries : List (Option FilterExpression)
  applicationPostFilter : Option FilterExpression
  systemExcludedOccurrenceIds : List String

/-- `stable_hash` on each kind of document the retrieval components fingerprint. -/
structure Digests where
  (query principal : String → String)
  scope : String → String → String → String → AuthorizationRevisionVector → List String → String
  queryEncoder : QueryEncoderContract → String
  lexical : LexicalRetrievalContract → String
  retrievalPolicy : HybridRetrievalPolicy → String
  fusionPolicy : FusionPolicy → String
  bundle : SelectedRetrievalBundle → String
  filter : FilterExpression → String
  schema : FilterSchema → String
  plan : FilterPlanMode → String → String → String → Option String → List (Option String) →
    Option String → List String → String
  cacheKey : List String → String

def RetrievalAuthorizationScope.fingerprint (digests : Digests)
    (scope : RetrievalAuthorizationScope) : String :=
  digests.scope scope.tenantId scope.principalSubject scope.action scope.purpose scope.revisions
    scope.allowedOccurrenceIds

def FilterPlan.fingerprint (digests : Digests) (plan : FilterPlan) : String :=
  digests.plan plan.mode plan.authorizationScopeFingerprint plan.schemaFingerprint
    plan.providerCapabilityVersion plan.clientFilterFingerprint
    (plan.providerQueries.map (Option.map digests.filter))
    (plan.applicationPostFilter.map digests.filter) plan.systemExcludedOccurrenceIds

structure FilterPlanner where
  schema : FilterSchema
  capabilities : ProviderFilterCapabilities
  (allowSplitOr allowBusinessPostFilter : Bool)

namespace FilterPlanner

def checkLeaf (schema : FilterSchema) (field : FieldName) (values : List FieldValue) :
    Except String Unit :=
  match schema.fields.find? fun definition => definition.name == field.val with
  | none => .error ("FILTER_FIELD_NOT_ALLOWED:" ++ field.val)
  | some definition =>
    if !definition.clientFilterable then .error ("FILTER_FIELD_NOT_ALLOWED:" ++ field.val)
    else if !values.all definition.valueType.admits then
      .error ("FILTER_VALUE_TYPE_MISMATCH:" ++ field.val)
    else .ok ()

/-- The values an equality test is type-checked against: a tuple counts by its elements. -/
def eqValues : FieldValue → List FieldValue
  | .tuple values => values.map .atom
  | value => [value]

def checkSize (schema : FilterSchema) (depth count : Nat) : Except String Unit :=
  if schema.maxDepth < depth || schema.maxNodes < count then
    .error "FILTER_COMPLEXITY_LIMIT_EXCEEDED"
  else .ok ()

mutual

/-- The walk in preorder; the number of visited nodes is threaded through. -/
def walk (schema : FilterSchema) (depth count : Nat) : FilterExpression → Except String Nat
  | .eq field value => do
      checkSize schema depth (count + 1)
      checkLeaf schema field (eqValues value)
      pure (count + 1)
  | .in_ field value others => do
      checkSize schema depth (count + 1)
      checkLeaf schema field (value :: others)
      pure (count + 1)
  | .and_ first second others => do
      checkSize schema depth (count + 1)
      let count ← walk schema (depth + 1) (count + 1) first
      let count ← walk schema (depth + 1) count second
      walkAll schema (depth + 1) count others
  | .or_ first second others => do
      checkSize schema depth (count + 1)
      let count ← walk schema (depth + 1) (count + 1) first
      let count ← walk schema (depth + 1) count second
      walkAll schema (depth + 1) count others
  | .not_ child => do
      checkSize schema depth (count + 1)
      walk schema (depth + 1) (count + 1) child

def walkAll (schema : FilterSchema) (depth count : Nat) : List FilterExpression → Except String Nat
  | [] => .ok count
  | child :: rest => do
      let count ← walk schema depth count child
      walkAll schema depth count rest

end

variable (planner : FilterPlanner)
variable (expression : FilterExpression)

def validate : Except String Unit := do
  let _ ← walk planner.schema 1 0 expression
  pure ()

def supports : Bool :=
  expression.operators.all fun operator =>
    planner.capabilities.supportedOperators.contains operator

def unsupported : List FilterOperator :=
  FilterOperator.sorted.filter fun operator => expression.operators.contains operator &&
    !planner.capabilities.supportedOperators.contains operator

variable (digests : Digests) (scope : RetrievalAuthorizationScope)

def frame (mode : FilterPlanMode)
    (clientFilter : Option FilterExpression) (queries : List (Option FilterExpression))
    (postFilter : Option FilterExpression) (excluded : List String) : FilterPlan :=
  { mode, authorizationScopeFingerprint := scope.fingerprint digests
    schemaFingerprint := digests.schema planner.schema
    providerCapabilityVersion := planner.capabilities.capabilityVersion
    clientFilterFingerprint := clientFilter.map digests.filter, providerQueries := queries
    applicationPostFilter := postFilter, systemExcludedOccurrenceIds := excluded }

def plan (clientFilter : Option FilterExpression) (excluded : List String) :
    Except String FilterPlan :=
  match clientFilter with
  | none => .ok (planner.frame digests scope .direct none [none] none excluded)
  | some expression => do
      planner.validate expression
      if planner.supports expression then
        pure (planner.frame digests scope .direct (some expression) [some expression] none
          excluded)
      else if planner.allowSplitOr && expression.operator == .or_ &&
          expression.children.all planner.supports then
        pure (planner.frame digests scope .splitOr (some expression)
          (expression.children.map some) none excluded)
      else if planner.allowBusinessPostFilter then
        pure (planner.frame digests scope .authorizationPrefilterApplicationPostfilter
          (some expression) [none] (some expression) excluded)
      else
        .error ("UNSUPPORTED_FILTER_OPERATORS:" ++
          ",".intercalate ((planner.unsupported expression).map FilterOperator.value))

variable {planner}

theorem queries_present {digests : Digests} {scope : RetrievalAuthorizationScope}
    {clientFilter : Option FilterExpression} {excluded : List String} {result : FilterPlan}
    (planned : planner.plan digests scope clientFilter excluded = .ok result) :
    result.providerQueries ≠ [] := by
  cases clientFilter with
  | none =>
    rw [← Except.ok.inj planned]
    simp [frame]
  | some expression =>
    rcases bind_eq_ok.mp planned with ⟨_, _, chosen⟩
    split at chosen
    · rw [← Except.ok.inj chosen]
      simp [frame]
    · split at chosen
      · next split_ =>
        have disjunction : expression.operator = .or_ := by
          simp only [Bool.and_eq_true, beq_iff_eq] at split_
          exact split_.1.2
        rw [← Except.ok.inj chosen]
        cases expression <;>
          simp [FilterExpression.operator, FilterExpression.children, frame] at disjunction ⊢
      · split at chosen
        · rw [← Except.ok.inj chosen]
          simp [frame]
        · cases chosen

end FilterPlanner

mutual

def matchesFilter (metadata : Metadata) : FilterExpression → Bool
  | .eq field value => metadata.holds field.val value
  | .in_ field value others => (value :: others).any (metadata.holds field.val)
  | .and_ first second others =>
    matchesFilter metadata first && matchesFilter metadata second && matchesAll metadata others
  | .or_ first second others =>
    matchesFilter metadata first || matchesFilter metadata second || matchesAny metadata others
  | .not_ child => !matchesFilter metadata child

def matchesAll (metadata : Metadata) : List FilterExpression → Bool
  | [] => true
  | child :: rest => matchesFilter metadata child && matchesAll metadata rest

def matchesAny (metadata : Metadata) : List FilterExpression → Bool
  | [] => false
  | child :: rest => matchesFilter metadata child || matchesAny metadata rest

end

/-- `matches_filter` on an optional expression: no filter admits everything. -/
def admits (expression : Option FilterExpression) (metadata : Metadata) : Bool :=
  expression.all (matchesFilter metadata)

/-- Authorization is enforced independently of the business filter. -/
def authorizedAndBusinessMatch (scope : RetrievalAuthorizationScope) (occurrenceId : String)
    (metadata : Metadata) (businessFilter : Option FilterExpression) (excluded : List String) :
    Bool :=
  scope.allowedOccurrenceIds.contains occurrenceId && !excluded.contains occurrenceId &&
    metadata.holds "tenant_id" (.atom (.text scope.tenantId)) &&
    admits businessFilter metadata

/-! The derived cache of fused candidates and the signed cursor with its bindings. -/

structure RetrievalCacheKey where
  (tenantId principalHash action purpose authorizationScopeFingerprint bundleFingerprint
   generationId queryHash filterPlanFingerprint retrievalPolicyFingerprint fusionPolicyFingerprint
   degradationMode : String)
  deriving DecidableEq

def RetrievalCacheKey.fingerprint (digests : Digests) (key : RetrievalCacheKey) : String :=
  digests.cacheKey [key.tenantId, key.principalHash, key.action, key.purpose,
    key.authorizationScopeFingerprint, key.bundleFingerprint, key.generationId, key.queryHash,
    key.filterPlanFingerprint, key.retrievalPolicyFingerprint, key.fusionPolicyFingerprint,
    key.degradationMode]

/-- Derived candidate identities, never protected text. -/
structure RetrievalCacheEntry where
  key : RetrievalCacheKey
  candidates : List FusedCandidate
  expiresAt : Int

abbrev InMemoryRetrievalCache := Dict String RetrievalCacheEntry

namespace InMemoryRetrievalCache

variable (digests : Digests) (cache : InMemoryRetrievalCache)

def put (entry : RetrievalCacheEntry) : InMemoryRetrievalCache :=
  cache.insert (entry.key.fingerprint digests) entry

def get (key : RetrievalCacheKey) (now : Int) : Option RetrievalCacheEntry :=
  match cache.lookup (key.fingerprint digests) with
  | none => none
  | some entry =>
    if entry.expiresAt ≤ now then none
    else if entry.key ≠ key then none
    else some entry

@[simp] theorem get_empty (digests : Digests) (key : RetrievalCacheKey) (now : Int) :
    get digests ∅ key now = none := by
  simp [get]

theorem get_eq_some {digests : Digests} {cache : InMemoryRetrievalCache}
    {key : RetrievalCacheKey} {now : Int} {entry : RetrievalCacheEntry}
    (found : get digests cache key now = some entry) :
    cache.lookup (key.fingerprint digests) = some entry ∧ now < entry.expiresAt ∧
      entry.key = key := by
  unfold get at found
  split at found
  · cases found
  · next stored lookup =>
    split at found
    · cases found
    · next alive =>
      split at found
      · cases found
      · next same =>
        cases found
        exact ⟨lookup, by omega, by simpa using same⟩

end InMemoryRetrievalCache

structure RetrievalCursor where
  (cursorVersion operationId tenantId principalHash authorizationScopeFingerprint bundleFingerprint
   generationId queryHash filterPlanFingerprint retrievalPolicyFingerprint fusionPolicyFingerprint
   : String)
  (lexicalOffset denseOffset : Nat)
  expiresAt : Int
  deriving DecidableEq

/-- The signed codec: a token it made decodes to the cursor it was made from, and any other
text fails with a reason. -/
structure RetrievalCursorCodec (Token : Type) where
  encode : RetrievalCursor → Token
  decode : Token → Except String RetrievalCursor
  decode_encode : ∀ cursor, decode (encode cursor) = .ok cursor

/-- The first binding of a cursor that is no longer current. -/
def validateCurrent (digests : Digests) (cursor : RetrievalCursor)
    (bundle : SelectedRetrievalBundle) (scope : RetrievalAuthorizationScope)
    (principalHash queryHash filterPlanFingerprint : String) (now : Int) : Except String Unit :=
  if cursor.expiresAt ≤ now then .error "CURSOR_EXPIRED"
  else if cursor.tenantId ≠ bundle.tenantId ∨ cursor.principalHash ≠ principalHash then
    .error "CURSOR_PRINCIPAL_OR_TENANT_MISMATCH"
  else if cursor.bundleFingerprint ≠ digests.bundle bundle then
    .error "CURSOR_SELECTED_BUNDLE_CHANGED"
  else if cursor.generationId ≠ bundle.generationId then .error "CURSOR_GENERATION_CHANGED"
  else if cursor.authorizationScopeFingerprint ≠ scope.fingerprint digests then
    .error "CURSOR_AUTHORIZATION_CHANGED"
  else if cursor.queryHash ≠ queryHash then .error "CURSOR_QUERY_CHANGED"
  else if cursor.filterPlanFingerprint ≠ filterPlanFingerprint then
    .error "CURSOR_FILTER_CHANGED"
  else if cursor.retrievalPolicyFingerprint ≠ digests.retrievalPolicy bundle.retrievalPolicy ∨
      cursor.fusionPolicyFingerprint ≠ digests.fusionPolicy bundle.fusionPolicy then
    .error "CURSOR_POLICY_CHANGED"
  else .ok ()

end BackendHandbook.Retrieval
