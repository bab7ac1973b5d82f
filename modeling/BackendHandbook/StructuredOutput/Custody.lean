import BackendHandbook.StructuredOutput.Steps

/-! Every job is held by one party at most, in every state that a schedule leads to. -/

namespace BackendHandbook.StructuredOutput

open Run Interleaving Phase List

def claimsLate (known : List Fact) : List (String × Uuid) :=
  known.filterMap fun
    | ⟨.claimLateOutcome jobId attemptId _ _, (.claimed, _)⟩ => some (jobId, attemptId)
    | _ => none

/-- How often a history calls on the completion to decide a job. -/
def decisions (known : List Fact) : Nat := known.countP fun fact => fact.1.decides.isSome

def Lawful (pydantic : Pydantic) : List Fact → Prop
  | [] => True
  | fact :: known => Allowed pydantic known fact.1 ∧ Lawful pydantic known

def Phase.Trail (claims : List (String × Uuid)) (decided : Nat) : Phase → Prop
  | .idle | .claimed .. | .answered .. => claims = [] ∧ decided = 0
  | .settled .. => claims = [] ∧ decided = 1
  | .lateClaimed jobId attemptId _ => claims = [(jobId, attemptId)] ∧ decided = 0
  | .lateSettled jobId attemptId _ | .consumed jobId attemptId _ =>
    claims = [(jobId, attemptId)] ∧ decided = 1
  | .departed => decided ≤ 1 ∧ (claims = [] ∨ decided = 0)

section Trails

variable {pydantic : Pydantic} {known : List Fact}
variable {claims : List (String × Uuid)}

variable {phase : Phase} {decided : Nat} {jobId : String}

theorem trail_decided {timeout : Bool} (decides : phase.Decides jobId timeout)
    (trail : phase.Trail claims decided) : (phase.decided timeout).Trail claims (decided + 1) := by
  cases decides with
  | answered | late => exact ⟨trail.1, congrArg (· + 1) trail.2⟩

theorem lawful_trail (lawful : Lawful pydantic known) :
    (behind known).Trail (claimsLate known) (decisions known) := by
  induction known with
  | nil => exact ⟨rfl, rfl⟩
  | cons fact known ih =>
    rcases lawful with ⟨allowed, before⟩
    have trail := ih before
    have counted : fact.1.decides.isSome = true → decisions (fact :: known) =
        decisions known + 1 := fun decides => countP_cons_of_pos decides
    rcases fact with ⟨call, answer⟩
    cases call with
    | disabled | modelMaxOutputTokens | disable | job | attachProviderRequestId
    | restoreJobFacts | recordCost => exact trail
    | claimForNewCall =>
      rw [allowed.1] at trail
      rw [behind, allowed.1]
      cases answer with
      | none | some => exact trail
    | markAttemptAwaitingLate jobId attemptId =>
      rw [show behind known = .settled jobId attemptId true from allowed] at trail
      exact ⟨le_of_eq trail.2, .inl trail.1⟩
    | closeAttempt =>
      rcases allowed with claimed | settled
      · rw [claimed] at trail
        exact ⟨le_of_eq_of_le trail.2 (Nat.zero_le 1), .inl trail.1⟩
      · rw [settled] at trail
        exact ⟨le_of_eq trail.2, .inl trail.1⟩
    | claimLateOutcome jobId attemptId =>
      have idle : behind known = .idle := allowed
      rw [idle] at trail
      rw [behind, idle]
      rcases answer with ⟨status, _⟩
      cases status with
      | claimed =>
        refine ⟨?_, trail.2⟩
        exact congrArg ((jobId, attemptId) :: ·) trail.1
      | terminalNoop | alreadyProcessing | rejected => exact trail
    | consumeLateOutcome =>
      rcases allowed with ⟨_, settled⟩
      rw [settled] at trail
      rw [behind, settled]
      exact trail
    | snapshotJobFacts =>
      rcases allowed with ⟨attemptId, claimed⟩
      rw [claimed] at trail
      rw [behind, claimed]
      cases answer with
      | none | some => exact trail
    | releaseLateOutcomeClaim =>
      rcases allowed with ⟨_, claimed⟩
      rw [claimed] at trail
      exact ⟨le_of_eq_of_le trail.2 (Nat.zero_le 1), .inr trail.2⟩
    | generate =>
      rcases allowed with ⟨_, claimed⟩
      rw [claimed] at trail
      rw [behind, claimed]
      cases answer with
      | error | ok => exact trail
    | completeSuccess =>
      rw [counted rfl]
      exact trail_decided allowed.1 trail
    | recordNonSuccess _ _ _ _ _ markFailed =>
      cases markFailed with
      | false => exact trail
      | true =>
        rw [counted rfl]
        exact trail_decided allowed trail
    | recordTimeoutPending =>
      rw [counted rfl]
      exact trail_decided allowed trail

theorem trail_dispatched {attemptId : Uuid} (trail : phase.Trail claims decided)
    (claimed : (jobId, attemptId) ∈ claims) (decides : 0 < decided) : phase.owns jobId = true := by
  cases phase with
  | lateSettled | consumed =>
    rw [trail.1] at claimed
    cases mem_singleton.mp claimed
    exact decide_eq_true rfl
  | lateClaimed => exact absurd trail.2 (by omega)
  | departed =>
    rcases trail.2 with none | _
    · rw [none] at claimed
      cases claimed
    · omega
  | _ =>
    rw [trail.1] at claimed
    cases claimed

theorem trail_once (trail : phase.Trail claims decided) : decided ≤ 1 := by
  cases phase with
  | departed => exact trail.1
  | settled | lateSettled | consumed => exact le_of_eq trail.2
  | _ => exact le_of_eq_of_le trail.2 (Nat.zero_le 1)

end Trails

section Contracts

variable (provider : Provider) (world : World)

theorem contract_onJob (own jobId : String) {change : ExecutionJob → ExecutionJob}
    (same : ∀ job, (change job).contract = job.contract) :
    ((world.onJob own change).jobs.lookup jobId).map (·.contract) =
      (world.jobs.lookup jobId).map (·.contract) := by
  rw [lookup_onJob]
  split
  · next here =>
    rw [here, Option.map_map]
    exact congrArg (Option.map · _) (funext same)
  · rfl

theorem contract_insert {own : String} {job rewritten : ExecutionJob}
    (found : world.jobs.lookup own = some job) (same : rewritten.contract = job.contract)
    (jobId : String) : ((world.jobs.insert own rewritten).lookup jobId).map (·.contract) =
      (world.jobs.lookup jobId).map (·.contract) := by
  rw [Dict.lookup_insert_eq]
  split
  · next here =>
    rw [here, found]
    exact congrArg some same
  · rfl

/-- The contract of a job is what it was at acceptance, and no job comes or goes. -/
theorem perform_contract (call : Call) (jobId : String) :
    ((perform provider call world).2.jobs.lookup jobId).map (·.contract) =
      (world.jobs.lookup jobId).map (·.contract) := by
  have attempts : ∀ (own : String) (attemptId : Uuid) (change : Attempt → Attempt),
      ((world.onJob own fun job => job.onAttempt attemptId change).jobs.lookup jobId).map
        (·.contract) = (world.jobs.lookup jobId).map (·.contract) := fun own attemptId change =>
    contract_onJob world own jobId fun job => (job.onAttempt_frame attemptId change).2.2.1
  have shuts : ∀ (own : String) (attemptId : Uuid) (change : Attempt → Attempt),
      ((world.onJob own fun job => (job.onAttempt attemptId change).shut attemptId).jobs.lookup
        jobId).map (·.contract) = (world.jobs.lookup jobId).map (·.contract) :=
    fun own attemptId change => contract_onJob world own jobId fun job =>
      ((job.onAttempt attemptId change).shut_frame attemptId).2.2.1.trans
        (job.onAttempt_frame attemptId change).2.2.1
  cases call with
  | disabled | modelMaxOutputTokens | disable | job | snapshotJobFacts | generate => rfl
  | claimForNewCall own correlationId =>
    simp only [perform]
    cases found : world.jobs.lookup own with
    | none => rfl
    | some job =>
      rcases claimForNewCall_cases job correlationId world.drawn with
        refused | ⟨_, _, claimed⟩
      · dsimp only
        rw [refused]
        exact contract_insert world found rfl jobId
      · dsimp only
        rw [claimed]
        exact contract_insert world found (by rfl) jobId
  | attachProviderRequestId own attemptId | markAttemptAwaitingLate own attemptId
  | releaseLateOutcomeClaim => exact attempts _ _ _
  | closeAttempt own attemptId | consumeLateOutcome own attemptId => exact shuts own attemptId _
  | claimLateOutcome own attemptId correlationId incoming =>
    simp only [perform]
    cases found : world.jobs.lookup own with
    | none => rfl
    | some job =>
      rcases claimLateOutcome_cases job attemptId correlationId incoming with
        ⟨_, kept⟩ | ⟨_, _, _, _, _, claimed⟩
      · dsimp only
        rw [kept]
        exact contract_insert world found rfl jobId
      · dsimp only
        rw [claimed]
        exact contract_insert world found (by rfl) jobId
  | restoreJobFacts own | recordNonSuccess own | recordCost own | recordTimeoutPending own =>
    exact contract_onJob world own jobId fun _ => rfl
  | completeSuccess own =>
    rw [perform_completeSuccess]
    refine contract_onJob world own jobId fun job => ?_
    unfold ExecutionJob.completeSuccess
    split
    · rfl
    · rfl

end Contracts

/-- What has been read of the jobs is still so. -/
structure Agrees (world : World) (known : List Fact) : Prop where
  read : ∀ jobId answer, (⟨.job jobId, answer⟩ : Fact) ∈ known →
    answer.map (·.contract) = (world.jobs.lookup jobId).map (·.contract)
  missing : ∀ jobId, (⟨.snapshotJobFacts jobId, none⟩ : Fact) ∈ known →
    world.jobs.lookup jobId = none

/-- Each job is held by one party at most, as it fits it, and the histories bear that out. -/
structure Held (pydantic : Pydantic) (world : World) (past : List (List Fact)) : Prop where
  fits : ∀ jobId, ∃ owner, Fits world jobId owner ∧
    (past.map behind).filter (Phase.owns jobId) = owner.toList
  agrees : ∀ known ∈ past, Agrees world known
  lawful : ∀ known ∈ past, Lawful pydantic known

section Moves

variable {pydantic : Pydantic} {world : World} {past : List (List Fact)}

theorem held_opening (opening : AcceptedJobs) : Held pydantic opening.world [] where
  fits jobId := by
    refine ⟨none, ⟨fun _ => ⟨rfl, rfl⟩, fun job found => ?_⟩, rfl⟩
    rcases opening.fresh jobId job found with ⟨_, _, _, rfl⟩
    refine .vacant rfl rfl rfl fun other lives => ?_
    rcases lives with wrong | wrong
    · cases wrong
    · cases wrong
  agrees known member := by cases member
  lawful known member := by cases member

theorem held_enters (world : World) (past : List (List Fact)) (held : Held pydantic world past) :
    Held pydantic world (past ++ [[]]) where
  fits jobId := by
    rcases held.fits jobId with ⟨owner, fits, only⟩
    refine ⟨owner, fits, ?_⟩
    rw [map_append, filter_append, only]
    exact append_nil _
  agrees known member := by
    rcases mem_append.mp member with old | new
    · exact held.agrees known old
    · rw [mem_singleton.mp new]
      exact ⟨fun jobId answer nothing => (by cases nothing),
        fun jobId nothing => (by cases nothing)⟩
  lawful known member := by
    rcases mem_append.mp member with old | new
    · exact held.lawful known old
    · rw [mem_singleton.mp new]
      trivial

variable {known : List Fact}

theorem agrees_later (provider : Provider) (call : Call)
    (agrees : Agrees world known) : Agrees (perform provider call world).2 known where
  read jobId answer member := by
    rw [perform_contract provider world call jobId]
    exact agrees.read jobId answer member
  missing jobId member := by
    have same := perform_contract provider world call jobId
    rw [agrees.missing jobId member] at same
    exact Option.map_eq_none_iff.mp same

theorem agrees_called (provider : Provider) (call : Call)
    (agrees : Agrees world known) : Agrees (perform provider call world).2
      (⟨call, (perform provider call world).1⟩ :: known) where
  read jobId answer member := by
    rcases mem_cons.mp member with here | before
    · cases here
      rfl
    · exact (agrees_later provider call agrees).read jobId answer before
  missing jobId member := by
    rcases mem_cons.mp member with here | before
    · rcases Sigma.mk.inj_iff.mp here with ⟨rfl, answer⟩
      have none := (eq_of_heq answer).symm
      exact Option.map_eq_none_iff.mp none
    · exact (agrees_later provider call agrees).missing jobId before

theorem mem_modify {items : List (List Fact)} {index : Nat} {item : List Fact}
    {change : List Fact → List Fact} (found : items[index]? = some known)
    (member : item ∈ items.modify index change) : item ∈ items ∨ item = change known := by
  rcases mem_iff_getElem?.mp member with ⟨place, listed⟩
  by_cases same : index = place
  · subst same
    rw [getElem?_modify_eq, found] at listed
    cases listed
    exact .inr rfl
  · rw [getElem?_modify_ne _ _ same] at listed
    exact .inl (mem_of_getElem? listed)

theorem held_moves (provider : Provider) (world : World) (past : List (List Fact)) (index : Nat)
    (known : List Fact) (call : Call) (held : Held pydantic world past)
    (listed : past[index]? = some known) (allowed : Allowed pydantic known call) :
    Held pydantic (perform provider call world).2
      (past.modify index fun known => ⟨call, (perform provider call world).1⟩ :: known) where
  fits jobId := by
    rcases held.fits jobId with ⟨owner, fits, only⟩
    have phases := map_modify behind
      (fun known => ⟨call, (perform provider call world).1⟩ :: known) listed
    have place : (past.map behind)[index]? = some (behind known) := by
      rw [getElem?_map, listed]
      rfl
    have moves := perform_moves provider world allowed jobId owner fits
    rw [phases]
    change ∃ owner, _ ∧ filter (Phase.owns jobId) ((past.map behind).set index
      (behindCall provider world (behind known) call)) = _
    cases owns : (behind known).owns jobId with
    | true =>
      have member : behind known ∈ (past.map behind).filter (Phase.owns jobId) :=
        mem_filter.mpr ⟨mem_of_getElem? place, owns⟩
      have own : owner = some (behind known) := by
        rw [only] at member
        exact Option.mem_toList.mp member
      rw [own] at only
      have after := (moves fun _ => own).2
      refine ⟨_, after, ?_⟩
      rw [filter_set_of_inside place owns only]
      cases keeps : (behindCall provider world (behind known) call).owns jobId with
      | true => rfl
      | false =>
        rw [owns]
        rfl
    | false =>
      have mine : (behind known).owns jobId = true → owner = some (behind known) := by
        intro lost
        rw [owns] at lost
        cases lost
      rcases moves mine with ⟨takes, after⟩
      refine ⟨_, after, ?_⟩
      rw [filter_set_of_outside place owns fun taken => by rw [only, takes owns taken]; rfl]
      cases keeps : (behindCall provider world (behind known) call).owns jobId with
      | true => rfl
      | false =>
        rw [owns]
        exact only
  agrees item member := by
    rcases mem_modify listed member with old | rfl
    · exact agrees_later provider call (held.agrees item old)
    · exact agrees_called provider call (held.agrees known (mem_of_getElem? listed))
  lawful item member := by
    rcases mem_modify listed member with old | rfl
    · exact held.lawful item old
    · exact ⟨allowed, held.lawful known (mem_of_getElem? listed)⟩

end Moves

end BackendHandbook.StructuredOutput
