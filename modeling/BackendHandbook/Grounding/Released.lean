import BackendHandbook.Grounding.Orchestrator
import BackendHandbook.Retrieval.Frozen

/-! What a run of the orchestrator releases, and what its visible answer is made of. -/

namespace BackendHandbook.Grounding

open Text Retrieval Reranking Fallible GroundingValidator AuthorizedGroundingOrchestrator Sorting List

section Runs

variable {digests : GroundingDigests}

def Day102Response.Concluded (response : Day102Response) : Prop :=
  response.outcome ≠ .rejected ∧ response.outcome ≠ .unavailable ∧
    response.verificationMode ≠ .notRun

/-- A response that shows nothing: it says why instead. -/
structure Silent (response : Day102Response) : Prop where
  open_ : ¬ response.Concluded
  released : response.releasedClaims = []
  text : response.answerText = ""

/-- The texts in their order, then one sentence for each item that is not answered. -/
def visible (request : GroundingRequest) (texts answered : List String) : String :=
  " ".intercalate (texts ++
    (request.requestItems.filter fun item => item.itemId ∉ answered).map fun item =>
      abstention item.safeLabel)

/-- What one run went through up to its verified claims. -/
structure Verification (orchestrator : AuthorizedGroundingOrchestrator digests)
    (request : GroundingRequest) (answered : Answered digests)
    (extraction : ClaimExtractionResult) (judged : List Judged) : Prop where
  prechecked : (orchestrator.currentness .precheck).recheckIdentities digests
    (request.day101Response.hits.map FinalRerankedHit.identity) request = .ok answered.precheck
  planned : orchestrator.planner.plan digests request request.day101Response
    (currentHits request answered.precheck) answered.precheck.authorizationScopeFingerprint =
      .ok answered.bundle
  generated : (orchestrator.runGenerator (attemptId request answered.bundle)
    answered.bundle).result = .ok answered.generated
  extracted : orchestrator.extract answered.generated.answer answered.bundle = .ok extraction
  claims : ClaimsSound answered.generated.answer answered.bundle request.itemIds extraction
    answered.report.accepted
  verified : (orchestrator.runVerifier answered.report.accepted answered.bundle).result =
    .ok answered.verified
  results : ∃ verification, validateVerification digests answered.verified.results
    answered.report.accepted answered.bundle orchestrator.contract answered.verified.revision =
      .ok verification ∧ judge answered.report.accepted verification = some judged

section Stages

variable {orchestrator : AuthorizedGroundingOrchestrator digests} {request : GroundingRequest}
  {finished : Finished} {precheck : CurrentGroundingSources} {bundle : GroundingBundle digests}
  {generated : Generated} {made : Made}

theorem silent_emptyResponse {outcome : Day102Outcome} {reason : String}
    {planned : Option (GroundingBundle digests)} {told : Told}
    (early : outcome = .rejected ∨ outcome = .unavailable ∨ told.verificationMode = .notRun) :
    Silent (orchestrator.emptyResponse request made outcome reason planned told).response where
  open_ := by
    rintro ⟨kept, available, run⟩
    rcases early with same | same | same
    · exact kept same
    · exact available same
    · exact run same
  released := rfl
  text := rfl

variable {report : ClaimValidationReport} {attempt : String}

theorem readClaims_sound {answer : GeneratedAnswer} {extraction : ClaimExtractionResult}
    (done : orchestrator.readClaims request attempt bundle answer = .ok (extraction, report)) :
    orchestrator.extract answer bundle = .ok extraction ∧
      ClaimsSound answer bundle request.itemIds extraction report.accepted := by
  obtain ⟨_, _, done⟩ := bind_eq_ok.mp done
  obtain ⟨_, extract, done⟩ := bind_eq_ok.mp done
  obtain ⟨_, valid, done⟩ := bind_eq_ok.mp done
  cases done
  exact ⟨extract, validateClaims_sound valid⟩

theorem verifyClaims_cases
    (done : orchestrator.verifyClaims request precheck bundle generated report made =
      .ok finished) : Silent finished.response ∨ ∃ verified calls verification judged,
      (orchestrator.runVerifier report.accepted bundle).result = .ok verified ∧
      validateVerification digests verified.results report.accepted bundle orchestrator.contract
        verified.revision = .ok verification ∧ judge report.accepted verification = some judged ∧
      orchestrator.release request ⟨precheck, bundle, generated, report, verified, calls⟩
        judged = .ok finished := by
  unfold verifyClaims at done
  dsimp only at done
  split at done
  · cases done
    exact .inl (silent_emptyResponse (.inr (.inl rfl)))
  · cases done
  · next verified run =>
    split at done
    · cases done
      exact .inl (silent_emptyResponse (.inl rfl))
    · cases done
    · next verification valid =>
      split at done
      · cases done
      · next judged found =>
        exact .inr ⟨verified, _, verification, judged, run, valid, found, done⟩

theorem checkClaims_cases
    (done : orchestrator.checkClaims request attempt precheck bundle generated made =
      .ok finished) : Silent finished.response ∨ ∃ extraction report,
      orchestrator.extract generated.answer bundle = .ok extraction ∧
      ClaimsSound generated.answer bundle request.itemIds extraction report.accepted ∧
      orchestrator.verifyClaims request precheck bundle generated report made = .ok finished := by
  unfold checkClaims at done
  split at done
  · cases done
    exact .inl (silent_emptyResponse (.inl rfl))
  · cases done
    exact .inl (silent_emptyResponse (.inl rfl))
  · cases done
  · next extraction report read =>
    split at done
    · cases done
      exact .inl (silent_emptyResponse (.inr (.inr rfl)))
    · obtain ⟨extract, sound⟩ := readClaims_sound read
      exact .inr ⟨extraction, report, extract, sound, done⟩

theorem generateAnswer_cases
    (done : orchestrator.generateAnswer request precheck bundle = .ok finished) :
    Silent finished.response ∨ ∃ generated made,
      (orchestrator.runGenerator (attemptId request bundle) bundle).result = .ok generated ∧
      orchestrator.checkClaims request (attemptId request bundle) precheck bundle generated made =
        .ok finished := by
  unfold generateAnswer at done
  dsimp only at done
  split at done
  · cases done
    exact .inl (silent_emptyResponse (.inl rfl))
  · split at done
    · cases done
      exact .inl (silent_emptyResponse (.inr (.inl rfl)))
    · cases done
    · next generated run => exact .inr ⟨generated, _, run, done⟩

theorem execute_planned (done : orchestrator.execute request = .ok finished) :
    Silent finished.response ∨ ∃ precheck bundle,
      (orchestrator.currentness .precheck).recheckIdentities digests
        (request.day101Response.hits.map FinalRerankedHit.identity) request = .ok precheck ∧
      orchestrator.planner.plan digests request request.day101Response
        (currentHits request precheck) precheck.authorizationScopeFingerprint = .ok bundle ∧
      orchestrator.generateAnswer request precheck bundle = .ok finished := by
  unfold execute at done
  dsimp only at done
  split at done
  · cases done
    exact .inl (silent_emptyResponse (.inl rfl))
  · split at done
    · cases done
      exact .inl (silent_emptyResponse (.inr (.inl rfl)))
    · cases done
    · next precheck checked =>
      split at done
      · cases done
        exact .inl (silent_emptyResponse (.inr (.inr rfl)))
      · split at done
        · cases done
          exact .inl (silent_emptyResponse (.inl rfl))
        · cases done
        · next bundle planned => exact .inr ⟨precheck, bundle, checked, planned, done⟩

theorem execute_cases (done : orchestrator.execute request = .ok finished) :
    Silent finished.response ∨ ∃ answered extraction judged,
      Verification orchestrator request answered extraction judged ∧
      orchestrator.release request answered judged = .ok finished := by
  rcases execute_planned done with silent | ⟨precheck, bundle, checked, planned, done⟩
  · exact .inl silent
  rcases generateAnswer_cases done with silent | ⟨generated, _, run, done⟩
  · exact .inl silent
  rcases checkClaims_cases done with silent | ⟨extraction, report, extract, sound, done⟩
  · exact .inl silent
  rcases verifyClaims_cases done with
    silent | ⟨verified, calls, verification, judged, verify, valid, found, done⟩
  · exact .inl silent
  exact .inr ⟨⟨precheck, bundle, generated, report, verified, calls⟩, extraction, judged,
    { prechecked := checked, planned
      generated := run, extracted := extract, claims := sound, verified := verify
      results := ⟨verification, valid, found⟩ }, done⟩

end Stages

variable {claims : List ValidatedClaim} {one : Judged}

section Judgements

variable {orchestrator : AuthorizedGroundingOrchestrator digests} {request : GroundingRequest}
  {answered : Answered digests} {extraction : ClaimExtractionResult} {judged : List Judged}

/-- A judged claim with the verifier's own result behind it. -/
structure JudgedSound (answered : Answered digests) (one : Judged) : Prop where
  listed : one.1 ∈ answered.report.accepted
  citations : one.2.citations = one.1.citations
  backed : ∃ raw ∈ answered.verified.results, Judges answered.bundle raw one.1 ∧
    one.2.relation = raw.relation

theorem judge_ids {verification : List VerificationResult}
    (found : judge claims verification = some judged) :
    judged.map (fun one => claimIdOf one.1) = verification.map VerificationResult.claimId ∧
      ∀ one ∈ judged, one.1 ∈ claims ∧ claimIdOf one.1 = one.2.claimId ∧ one.2 ∈ verification := by
  have each : List.Forall₂ (fun result (one : Judged) =>
      one.2 = result ∧ Keyed.get claimIdOf claims result.claimId = some one.1)
      verification judged := by
    refine (Keyed.mapM_eq_some.mp found).imp ?_
    intro result one held
    obtain ⟨_, looked, rfl⟩ := Option.map_eq_some_iff.mp held
    exact ⟨rfl, looked⟩
  constructor
  · rw [eq_comm, ← forall₂_eq_eq_eq, forall₂_map_left_iff, forall₂_map_right_iff]
    exact each.imp fun result one held => (Keyed.key_of_get held.2).symm
  · intro one inside
    obtain ⟨_, listed, rfl, looked⟩ := forall₂_mem_right each inside
    exact ⟨Keyed.mem_of_get looked, Keyed.key_of_get looked, listed⟩

section

variable (verification : Verification orchestrator request answered extraction judged)
include verification

theorem Verification.judged_nodup : (judged.map fun one => claimIdOf one.1).Nodup := by
  obtain ⟨_, valid, found⟩ := verification.results
  rw [(judge_ids found).1]
  exact (validateVerification_sound valid).1

theorem Verification.judged_sound : ∀ one ∈ judged, JudgedSound answered one := by
  intro one inside
  obtain ⟨_, valid, found⟩ := verification.results
  obtain ⟨listed, same, given⟩ := (judge_ids found).2 one inside
  obtain ⟨raw, sent, validated, accepted, judges, id_, cited, relation⟩ :=
    ((validateVerification_sound valid).2 one.2 given).backed
  -- The claim a result was validated for is the one its id leads to.
  have identical : validated = one.1 := by
    apply inj_on_of_nodup_map verification.claims.ids_nodup accepted listed
    exact (judges.claimId.symm.trans id_.symm).trans same.symm
  rw [identical] at judges cited
  exact ⟨listed, cited, raw, sent, judges, relation⟩

theorem Verification.apart :
    judged.Pairwise fun first second => Apart first.1.claim second.1.claim := by
  have ordered := pairwise_map.mp verification.claims.ordered
  have apart : ∀ first ∈ answered.report.accepted, ∀ second ∈ answered.report.accepted,
      first ≠ second → Apart first.claim second.claim := by
    intro first inside second member different
    have symmetric : Std.Symm fun one other : ValidatedClaim => Apart one.claim other.claim :=
      ⟨fun _ _ => Apart.symm⟩
    have pairs : answered.report.accepted.Pairwise fun one other => Apart one.claim other.claim :=
      ordered.imp Or.inl
    exact pairs.forall inside member different
  refine (pairwise_map.mp verification.judged_nodup).imp_of_mem ?_
  intro first second inside member different
  refine apart first.1 (verification.judged_sound first inside).listed second.1
    (verification.judged_sound second member).listed ?_
  intro same
  exact different (congrArg claimIdOf same)

end

structure Supported (request : GroundingRequest) (answered : Answered digests)
    (extraction : ClaimExtractionResult) (one : Judged) : Prop where
  extracted : one.1.claim ∈ extraction.claims
  exact : Exact answered.generated.answer request.itemIds one.1.claim
  cited : Cited answered.bundle one.1.claim one.2.citations
  judged : ∃ raw ∈ answered.verified.results, Judges answered.bundle raw one.1 ∧
    raw.relation = .supported

theorem Verification.supported
    (verification : Verification orchestrator request answered extraction judged)
    (inside : one ∈ judged.filter isSupported) : Supported request answered extraction one := by
  obtain ⟨member, relation⟩ := mem_filter.mp inside
  have sound := verification.judged_sound one member
  obtain ⟨raw, sent, judges, same⟩ := sound.backed
  refine
    { extracted := verification.claims.extracted one.1 sound.listed
      exact := verification.claims.exact one.1 sound.listed, cited := ?_
      judged := ⟨raw, sent, judges, same.symm.trans (of_decide_eq_true relation)⟩ }
  rw [sound.citations]
  exact verification.claims.cited one.1 sound.listed

end Judgements

section Texts

variable {request : GroundingRequest}

theorem label_of_mem {item : RequestItem} (inside : item ∈ request.requestItems) :
    label request item.itemId = item.safeLabel := by
  rw [label, Keyed.get_of_mem request.items_nodup inside]
  rfl

theorem abstentions_of_coverage (released : List ClaimDecision) :
    (((coverage request released).filter fun item => item.status = .abstained).map fun item =>
      abstention (label request item.requestItemId)) = (request.requestItems.filter fun item =>
        item.itemId ∉ released.map ClaimDecision.requestItemId).map fun item =>
          abstention item.safeLabel := by
  unfold coverage
  rw [filter_map, map_map]
  have kept : ∀ item ∈ request.requestItems,
      ((fun covered : RequestCoverage => decide (covered.status = .abstained)) ∘
        fun item : RequestItem =>
          let claimIds := (released.filter fun claim => claim.requestItemId = item.itemId).map
            ClaimDecision.claimId
          { requestItemId := item.itemId
            status := if claimIds = [] then .abstained else .answered
            releasedClaimIds := claimIds
            reason :=
              if claimIds = [] then Day102FailureReason.requestItemUnanswered.value
              else Day102FailureReason.none.value }) item =
        decide (item.itemId ∉ released.map ClaimDecision.requestItemId) := by
    intro item _
    simp only [Function.comp_apply]
    split
    · next open_ => simpa using open_
    · next answered => simpa using answered
  rw [filter_congr kept]
  apply map_congr_left
  intro item inside
  exact congrArg abstention (label_of_mem (mem_of_mem_filter inside))

variable {orchestrator : AuthorizedGroundingOrchestrator digests} {answered : Answered digests}
  {extraction : ClaimExtractionResult} {judged : List Judged}

/-- The visible answer shows the released claims in the order of the generated answer. -/
theorem Verification.answer_visible
    (verification : Verification orchestrator request answered extraction judged)
    {kept : List Judged} (inside : ∀ one ∈ kept, one ∈ judged) (reason : String) :
    assembleAnswer request (kept.map (decision digests .released reason))
        (coverage request (kept.map (decision digests .released reason))) answered.report.accepted =
      visible request ((sortBy ExtractedClaim.answerStart
          (kept.map fun one => one.1.claim)).map ExtractedClaim.protectedText)
        ((kept.map (decision digests .released reason)).map ClaimDecision.requestItemId) := by
  have starts : ∀ one ∈ kept, answerOrder answered.report.accepted
      (decision digests .released reason one) = one.1.claim.answerStart := by
    intro one member
    have listed := (verification.judged_sound one (inside one member)).listed
    have found : Keyed.get claimIdOf answered.report.accepted (claimIdOf one.1) = some one.1 :=
      Keyed.get_of_mem verification.claims.ids_nodup listed
    change ((Keyed.get claimIdOf answered.report.accepted (claimIdOf one.1)).map _).getD 0 = _
    rw [found]
    rfl
  let start (one : Judged) : Nat := one.1.claim.answerStart
  have shown : (sortBy start kept).map (decision digests .released reason) =
      sortBy (answerOrder answered.report.accepted)
        (kept.map (decision digests .released reason)) := map_sortBy starts
  have spans : (sortBy start kept).map (fun one => one.1.claim) =
      sortBy ExtractedClaim.answerStart (kept.map fun one => one.1.claim) :=
    map_sortBy fun _ _ => rfl
  have texts : (sortBy (answerOrder answered.report.accepted)
        (kept.map (decision digests .released reason))).map ClaimDecision.protectedText =
      (sortBy ExtractedClaim.answerStart
        (kept.map fun one => one.1.claim)).map ExtractedClaim.protectedText := by
    rw [← shown, ← spans, map_map, map_map]
    rfl
  unfold assembleAnswer visible
  rw [abstentions_of_coverage, texts]

end Texts

variable (orchestrator : AuthorizedGroundingOrchestrator digests) (request : GroundingRequest)
  (answered : Answered digests) (extraction : ClaimExtractionResult)
  (final : CurrentGroundingSources)

/-- A released decision, the claim of the answer it is about, and what its release rests on. -/
structure Released (claim : ExtractedClaim) (decision : ClaimDecision) : Prop where
  named : decision.claimId = claim.claimId ∧ decision.requestItemId = claim.requestItemId
  shown : decision.protectedText = claim.protectedText
  extracted : claim ∈ extraction.claims
  exact : Exact answered.generated.answer request.itemIds claim
  cited : Cited answered.bundle claim decision.citations
  accepted : ∀ record ∈ decision.citations,
    record.sourceIdentity.occurrenceId ∈ final.acceptedOccurrenceIds
  current : ∀ record ∈ decision.citations,
    Current (orchestrator.currentness .finalCheck) request record.sourceIdentity
  supported : ∃ raw ∈ answered.verified.results, raw.claimId = claim.claimId ∧
    raw.claimDigest = claim.digest digests ∧ raw.bundleDigest = answered.bundle.digest ∧
    raw.citationWindowIds = decision.citations.map CitationRecord.windowId ∧
    raw.relation = .supported

/-- The released claims and the visible answer of a run that came to its decisions. -/
structure Shown (claims : List ExtractedClaim) (response : Day102Response) : Prop where
  rechecked : response.releasedClaims ≠ [] → ∃ identities,
    (orchestrator.currentness .finalCheck).recheckIdentities digests identities request = .ok final
  released : List.Forall₂ (Released orchestrator request answered extraction final) claims
    response.releasedClaims
  apart : claims.Pairwise Apart
  text : response.answerText = visible request
    ((sortBy ExtractedClaim.answerStart claims).map ExtractedClaim.protectedText)
    (response.releasedClaims.map ClaimDecision.requestItemId)

section Release

variable {orchestrator : AuthorizedGroundingOrchestrator digests} {request : GroundingRequest}
  {answered : Answered digests} {extraction : ClaimExtractionResult} {judged : List Judged}
  {final : CurrentGroundingSources} {finished : Finished}

variable {record : CitationRecord}

theorem accepted_of_stale (fresh : stale final one = []) (inside : record ∈ one.2.citations) :
    record.sourceIdentity.occurrenceId ∈ final.acceptedOccurrenceIds := by
  by_contra refused
  have listed : record.sourceIdentity.occurrenceId ∈
      ((citedIdentities one).map CandidateIdentity.occurrenceId).dedup :=
    mem_dedup.mpr (mem_map_of_mem (mem_map_of_mem inside))
  have kept : record.sourceIdentity.occurrenceId ∈ stale final one :=
    (mem_sortBy id _ _).mpr (mem_filter.mpr ⟨listed, decide_eq_true refused⟩)
  rw [fresh] at kept
  cases kept

theorem identity_of_occurrence {first second : Judged}
    (here : Supported request answered extraction first)
    (there : Supported request answered extraction second)
    {other : CitationRecord} (inside : record ∈ first.2.citations)
    (member : other ∈ second.2.citations)
    (same : record.sourceIdentity.occurrenceId = other.sourceIdentity.occurrenceId) :
    record.sourceIdentity = other.sourceIdentity := by
  obtain ⟨window, listed, rfl⟩ := here.cited.window_of_mem inside
  obtain ⟨source, found, rfl⟩ := there.cited.window_of_mem member
  have identical : window = source :=
    inj_on_of_nodup_map answered.bundle.occurrences_nodup listed found same
  rw [identical]
  rfl

theorem Verification.released
    (verification : Verification orchestrator request answered extraction judged)
    (checked : (orchestrator.currentness .finalCheck).recheckIdentities digests
      (Keyed.values CandidateIdentity.occurrenceId
        ((judged.filter isSupported).flatMap citedIdentities)) request = .ok final)
    (inside : one ∈ judged.filter isSupported) (fresh : stale final one = []) (reason : String) :
    Released orchestrator request answered extraction final one.1.claim
      (decision digests .released reason one) := by
  have sound := verification.supported inside
  obtain ⟨raw, sent, judges, relation⟩ := sound.judged
  refine
    { named := ⟨rfl, rfl⟩
      shown := rfl, extracted := sound.extracted, exact := sound.exact, cited := sound.cited
      accepted := fun record cited => accepted_of_stale fresh cited
      current := ?_
      supported := ⟨raw, sent, judges.claimId, judges.claimDigest, judges.bundleDigest, ?_,
        relation⟩ }
  · intro record cited
    obtain ⟨_, listed, same, current⟩ :=
      GroundingCurrentnessOracle.current_of_accepted checked (accepted_of_stale fresh cited)
    obtain ⟨_, member, given⟩ := mem_flatMap.mp (Keyed.mem_of_mem_values listed)
    obtain ⟨_, found, rfl⟩ := mem_map.mp given
    rw [← identity_of_occurrence (verification.supported member) sound found cited same]
    exact current
  · have cited := (verification.judged_sound one (mem_filter.mp inside).1).citations
    change raw.citationWindowIds = one.2.citations.map CitationRecord.windowId
    rw [cited]
    exact judges.citations

theorem concluded_conclude {released rejected : List ClaimDecision}
    {sourceRejections : List (String × String)} (run : answered.verified.mode ≠ .notRun) :
    (orchestrator.conclude request answered released rejected
      sourceRejections).response.Concluded := by
  refine ⟨?_, ?_, run⟩
  · unfold conclude finish
    dsimp only
    split_ifs <;> exact nofun
  · unfold conclude finish
    dsimp only
    split_ifs <;> exact nofun

theorem runVerifier_mode {bundle : GroundingBundle digests}
    {verified : Verified} (done : (orchestrator.runVerifier claims bundle).result = .ok verified) :
    verified.mode ≠ .notRun := by
  unfold runVerifier at done
  split at done
  · cases done
    exact nofun
  · split at done
    · cases done
    · next fallback _ =>
      split at done
      · cases replied : fallback.verify claims bundle orchestrator.contract with
        | error =>
          rw [replied] at done
          cases done
        | ok =>
          rw [replied] at done
          cases done
          exact nofun
      · cases done
  · cases done

theorem Verification.release_cases
    (verification : Verification orchestrator request answered extraction judged)
    (done : orchestrator.release request answered judged = .ok finished) :
    Silent finished.response ∨ (finished.response.Concluded ∧ ∃ final claims,
      Shown orchestrator request answered extraction final claims finished.response) := by
  have run := runVerifier_mode verification.verified
  unfold AuthorizedGroundingOrchestrator.release at done
  dsimp only at done
  split at done
  · cases done
    refine .inr ⟨concluded_conclude run, answered.precheck, [], ?_⟩
    exact
      { rechecked := fun shown => absurd rfl shown
        released := List.Forall₂.nil, apart := List.Pairwise.nil
        text := verification.answer_visible
          (fun _ inside => nomatch inside : ∀ one ∈ ([] : List Judged), one ∈ judged) "" }
  · split at done
    · cases done
      exact .inl (silent_emptyResponse (.inr (.inl rfl)))
    · cases done
    · next final checked =>
      cases done
      have kept : ∀ one ∈ (judged.filter isSupported).filter fun one => stale final one = [],
          one ∈ judged.filter isSupported ∧ stale final one = [] := by
        intro one inside
        obtain ⟨member, fresh⟩ := mem_filter.mp inside
        exact ⟨member, of_decide_eq_true fresh⟩
      refine .inr ⟨concluded_conclude run, final,
        ((judged.filter isSupported).filter fun one => stale final one = []).map
          (fun one => one.1.claim), ?_⟩
      refine
        { rechecked := fun _ => ⟨_, checked⟩
          released := ?_, apart := ?_
          text := verification.answer_visible
            (fun one inside => mem_of_mem_filter (kept one inside).1) _ }
      · refine forall₂_map_left_iff.mpr (forall₂_map_right_iff.mpr ?_)
        apply forall₂_same.mpr
        intro one inside
        obtain ⟨member, fresh⟩ := kept one inside
        exact verification.released checked member fresh _
      · apply pairwise_map.mpr
        exact (verification.apart.filter _).filter _

/-- What a run releases is exact, apart, cited from the planned bundle, current at the last
recheck, and supported by a result on that claim, that bundle and those citations. The visible
answer is made of the released texts and of what stays unanswered; a run that ends before its
decisions shows no text at all. -/
theorem released_claims_verified (done : orchestrator.execute request = .ok finished) :
    Silent finished.response ∨ (finished.response.Concluded ∧
      ∃ answered extraction judged final claims,
        Verification orchestrator request answered extraction judged ∧
        Shown orchestrator request answered extraction final claims finished.response) := by
  rcases execute_cases done with silent | ⟨answered, extraction, judged, verification, done⟩
  · exact .inl silent
  rcases verification.release_cases done with silent | ⟨concluded, final, claims, shown⟩
  · exact .inl silent
  exact .inr ⟨concluded, answered, extraction, judged, final, claims, verification, shown⟩

end Release

end Runs

/-! A request for two items, one of which the answer covers. -/

namespace Sample

def digests : GroundingDigests :=
  { Retrieval.Sample.digests with
    text := fun text => "text:" ++ text
    protectedQuery := fun tenantId query => "query:" ++ tenantId ++ ":" ++ query
    handoff := fun document => "handoff:" ++ document.originalQueryDigest
    groundingContract := fun contract => "contract:" ++ contract.contractVersion
    requestItems := fun items => "items:" ++ "|".intercalate (items.map Prod.fst)
    sourceWindow := fun key => "window:" ++ key.occurrenceId
    groundingBundle := fun document => "bundle:" ++ document.operationId
    generationAttempt := fun operationId bundle => "attempt:" ++ operationId ++ ":" ++ bundle
    claim := fun document => "claim:" ++ document.claimId
    citation := fun document => "citation:" ++ document.claimId ++ ":" ++ document.windowId
    verification := fun document => "verification:" ++ document.claimId }

def contract : GroundingContract :=
  { contractVersion := "day102-grounding-v1", generatorProvider := "classroom-generator"
    immutableGeneratorRevision := "fake-generator-001", generatorPromptRevision := "prompt-v1"
    claimExtractorRevision := "extractor-v1", verifierProvider := "classroom-verifier"
    verifierRevision := "verifier-v1", verificationPolicyVersion := "verification-v1"
    sourceWindowPolicyVersion := "window-v1", maxSourceWindows := 3, maxCharsPerWindow := 40
    maxTotalSourceChars := 80, maxClaims := 4, protectedDataPolicy := "PROTECTED_NO_LOG"
    egressPolicyVersion := "egress-v1", identities_present := by decide
    budgets_pos := by decide
    window_le_total := by decide
    revision_immutable := by decide +kernel }

def identity : CandidateIdentity :=
  { tenantId := "tenant-day100", documentId := "document:A", documentVersionId := "version:A"
    chunkSetId := "chunks", chunkId := "chunk:A", occurrenceId := "occurrence:A"
    provenanceFingerprint := "provenance:A", contentHash := "text:Refunds take 5 days."
    complete := by decide }

def sourceRecord : RetrievalRecord :=
  { identity
    text := "Refunds take 5 days.", metadata := [("tenant_id", .atom (.text "tenant-day100"))]
    embedding := [1, 0], present := by decide
    tenant_aligned := by decide
    keys_nodup := by decide }

def hit : FinalRerankedHit :=
  { rank := 1, identity
    sourceReference := "document:A:chunk:A", rerankerScore := some 1, priorFusionRank := 1
    text := "Refunds take 5 days." }

def response : Day101Response :=
  { outcome := .full, safeReason := "FULL_REWRITTEN_RERANKED_SUCCESS"
    rewriteMode := some "FULL_REWRITE", rerankingMode := some .rerankedSuccess, hits := [hit]
    originalQueryDigest := some "query:tenant-day100:refund policy"
    authorizationScopeFingerprint := some "scope" }

theorem query_asked : Text.strip "refund policy".toList ≠ [] := by decide

def request : GroundingRequest :=
  { operationId := "operation-day102", requestId := "request-day102", tenantId := "tenant-day100"
    principalSubject := "principal-day100", action := retrievalAction, purpose := retrievalPurpose
    originalQuery := "refund policy"
    requestItems := [⟨"time", "the refund time", "how long", by decide⟩,
      ⟨"channel", "the refund channel", "which channel", by decide⟩]
    day101Response := response, day101HandoffDigest := "handoff:query:tenant-day100:refund policy"
    identity_present := by decide
    query_present := query_asked
    items_present := by decide
    items_nodup := by decide }

def extractedClaim : ExtractedClaim :=
  { claimId := "claim:1", requestItemId := "time", answerStart := 0, answerEnd := 20
    protectedText := "Refunds take 5 days.", citationWindowIds := ["window:occurrence:A"]
    complete := by decide
    span_present := by decide
    citations_nodup := by decide }

def answer : GeneratedAnswer :=
  { attemptId := "attempt:operation-day102:bundle:operation-day102"
    bundleDigest := "bundle:operation-day102"
    generatorContractFingerprint := "contract:day102-grounding-v1"
    answerText := "Refunds take 5 days. Ask by phone.", complete := by decide
    text_present := by decide }

def orchestrator : AuthorizedGroundingOrchestrator digests :=
  { contract
    degradation := ⟨"degradation-v1", false, false, false, false, false, by decide⟩
    generatorEgress := ⟨"egress-v1", ["classroom-generator"], true, true, by decide⟩
    verifierEgress := ⟨"egress-v1", ["classroom-verifier"], true, true, by decide⟩
    currentness := fun _ => .ofRecords
      (InMemoryRetrievalAuthorization.initial.put Retrieval.Sample.scope) [sourceRecord]
    planner := ⟨contract, [], nodup_nil⟩, generator := ⟨0, fun _ _ _ => .ok answer⟩
    fallbackGenerator := none
    extract := fun answer _ => .ok
      ⟨answer.attemptId, answer.answerDigest digests, "extractor-v1", [extractedClaim]⟩
    verifier := ⟨0, "verifier-v1", fun claims bundle contract => .ok (claims.map fun item =>
      { claimId := item.claim.claimId, claimDigest := item.claim.digest digests
        bundleDigest := bundle.digest
        citationWindowIds := item.citations.map CitationRecord.windowId
        verifierRevision := "verifier-v1"
        verificationPolicyVersion := contract.verificationPolicyVersion, relation := .supported
        reason := "SUPPORTED" })⟩
    fallbackVerifier := none, revision_matches := rfl }

theorem answers : ((orchestrator.execute request).toOption.map fun finished =>
    (finished.response.releasedClaims.map ClaimDecision.claimId, finished.response.answerText)) =
      some (["claim:1"],
        "Refunds take 5 days. Unable to verify the refund channel from current sources.") := by
  decide +kernel

theorem released_claims_verified_partial : ∃ finished, orchestrator.execute request = .ok finished ∧
      finished.response.releasedClaims.map ClaimDecision.claimId = ["claim:1"] ∧
      finished.response.answerText =
        "Refunds take 5 days. Unable to verify the refund channel from current sources." ∧
      (Silent finished.response ∨ (finished.response.Concluded ∧
        ∃ answered extraction judged final claims,
          Verification orchestrator request answered extraction judged ∧
          Shown orchestrator request answered extraction final claims finished.response)) := by
  obtain ⟨finished, done, shown⟩ := exists_of_toOption answers
  obtain ⟨released, text⟩ := Prod.mk.inj shown
  exact ⟨finished, done, released, text, released_claims_verified done⟩

def revoked : AuthorizedGroundingOrchestrator digests :=
  { orchestrator with
    currentness := fun _ => .ofRecords
      (InMemoryRetrievalAuthorization.initial.put
        { Retrieval.Sample.scope with
          allowedOccurrenceIds := [], allowed_nodup := nodup_nil }) [sourceRecord] }

theorem revoked_answers : ((revoked.execute request).toOption.map fun finished =>
    (finished.response.releasedClaims, finished.response.answerText)) = some ([], "") := by
  decide +kernel

/-- After every source of the handoff is revoked nothing is left to answer from, and the answer is
empty instead of one sentence for each item. -/
theorem revoked_sources_empty_answer :
    ¬ ∀ (orchestrator : AuthorizedGroundingOrchestrator digests) (request : GroundingRequest)
      (finished : Finished), orchestrator.execute request = .ok finished → ∃ texts : List String,
        texts.Perm (finished.response.releasedClaims.map ClaimDecision.protectedText) ∧
        finished.response.answerText = visible request texts
          (finished.response.releasedClaims.map ClaimDecision.requestItemId) := by
  intro claimed
  obtain ⟨finished, done, shown⟩ := exists_of_toOption revoked_answers
  obtain ⟨released, text⟩ := Prod.mk.inj shown
  obtain ⟨_, perm, assembled⟩ := claimed revoked request finished done
  rw [released] at perm assembled
  cases perm.eq_nil
  rw [text] at assembled
  exact absurd assembled (by decide +kernel)

end Sample

end BackendHandbook.Grounding
