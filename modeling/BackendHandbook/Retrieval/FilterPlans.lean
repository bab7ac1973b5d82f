import BackendHandbook.Retrieval.Frozen

/-! A filter plan admits the records that the client filter admits. -/

namespace BackendHandbook.Retrieval

open Fallible List

theorem matchesAny_eq (metadata : Metadata) (children : List FilterExpression) :
    matchesAny metadata children = children.any (matchesFilter metadata) := by
  induction children with
  | nil => rfl
  | cons _ _ ih => rw [matchesAny, ih, any_cons]

variable {planner : FilterPlanner} {digests : Digests} {scope : RetrievalAuthorizationScope}
  {clientFilter : Option FilterExpression} {excluded : List String} {result : FilterPlan}

/-- The provider is asked only what it supports, and its answers together, past the post filter,
are those of the client filter. -/
structure PreservesFilter (planner : FilterPlanner) (scope : RetrievalAuthorizationScope)
    (clientFilter : Option FilterExpression) (excluded : List String) (result : FilterPlan) :
    Prop where
  supported : ∀ query ∈ result.providerQueries, query.all planner.supports = true
  matched : ∀ occurrenceId metadata, ((result.providerQueries.any fun query =>
      authorizedAndBusinessMatch scope occurrenceId metadata query
        result.systemExcludedOccurrenceIds) && admits result.applicationPostFilter metadata) =
    authorizedAndBusinessMatch scope occurrenceId metadata clientFilter excluded

theorem frame_preserves {mode : FilterPlanMode} {queries : List (Option FilterExpression)}
    {postFilter : Option FilterExpression}
    (supported : ∀ query ∈ queries, query.all planner.supports = true)
    (admitted : ∀ metadata, (queries.any (admits · metadata) && admits postFilter metadata) =
      admits clientFilter metadata) :
    PreservesFilter planner scope clientFilter excluded
      (planner.frame digests scope mode clientFilter queries postFilter excluded) where
  supported
  matched occurrenceId metadata := by
    simp only [authorizedAndBusinessMatch, FilterPlanner.frame, ← and_any_distrib_left]
    rw [Bool.and_assoc, admitted]

theorem plan_preserves_filter
    (planned : planner.plan digests scope clientFilter excluded = .ok result) :
    PreservesFilter planner scope clientFilter excluded result := by
  cases clientFilter with
  | none =>
    cases planned
    apply frame_preserves <;> simp [admits]
  | some expression =>
    rcases bind_eq_ok.mp planned with ⟨_, _, chosen⟩
    split at chosen
    · next supported =>
      cases chosen
      apply frame_preserves <;> simp [admits, supported]
    · split at chosen
      · next separate =>
        simp only [Bool.and_eq_true, beq_iff_eq, all_eq_true] at separate
        cases chosen
        apply frame_preserves
        · simpa using separate.2
        · intro metadata
          cases expression <;> cases separate.1.2
          simp [admits, FilterExpression.children, matchesFilter, matchesAny_eq,
            Bool.or_assoc, any_map, Function.comp_def]
      · split at chosen
        · cases chosen
          apply frame_preserves <;> simp [admits]
        · cases chosen

/-- The provider has no disjunction, so the two tests are sent one by one. -/
def eitherCategory : FilterExpression :=
  .or_ (.eq ⟨"category", by decide⟩ (.atom (.text "finance")))
    (.eq ⟨"category", by decide⟩ (.atom (.text "billing"))) []

def splitPlan : FilterPlan :=
  Sample.environment.filterPlanner.frame Sample.digests Sample.scope .splitOr (some eitherCategory)
    (eitherCategory.children.map some) none ["occurrence:B"]

theorem plan_preserves_filter_split : PreservesFilter Sample.environment.filterPlanner Sample.scope
    (some eitherCategory) ["occurrence:B"] splitPlan :=
  @plan_preserves_filter _ Sample.digests _ _ _ _ (by rfl)

end BackendHandbook.Retrieval
