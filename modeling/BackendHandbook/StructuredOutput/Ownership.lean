import BackendHandbook.StructuredOutput.Protocol

/-! Who holds a job: at most one party at a time, and what the job is like for it. -/

namespace BackendHandbook.StructuredOutput

open Interleaving

namespace ExecutionJob

variable (job : ExecutionJob)

def statusOf (attemptId : Uuid) : Option AttemptStatus :=
  (job.attempts.lookup attemptId).map (·.status)

def Live (attemptId : Uuid) : Prop :=
  job.statusOf attemptId = some .awaitingLateOutcome ∨
    job.statusOf attemptId = some .processingLateOutcome

theorem lookup_onAttempt (attemptId other : Uuid) (change : Attempt → Attempt) :
    (job.onAttempt attemptId change).attempts.lookup other =
      if other = attemptId then (job.attempts.lookup attemptId).map change
      else job.attempts.lookup other := by
  unfold onAttempt
  cases found : job.attempts.lookup attemptId with
  | none =>
    dsimp only
    split
    · next same =>
      rw [same]
      exact found
    · rfl
  | some attempt => exact Dict.lookup_insert_eq job.attempts attemptId other (change attempt)

theorem onAttempt_frame (attemptId : Uuid) (change : Attempt → Attempt) :
    (job.onAttempt attemptId change).status = job.status ∧
      (job.onAttempt attemptId change).openAttemptId = job.openAttemptId ∧
      (job.onAttempt attemptId change).contract = job.contract ∧
      (job.onAttempt attemptId change).resultArtifact = job.resultArtifact ∧
      (job.onAttempt attemptId change).events = job.events := by
  unfold onAttempt
  cases job.attempts.lookup attemptId with
  | none | some => exact ⟨rfl, rfl, rfl, rfl, rfl⟩

theorem statusOf_onAttempt (attemptId other : Uuid) (change : Attempt → Attempt)
    (status : AttemptStatus → AttemptStatus)
    (same : ∀ attempt, (change attempt).status = status attempt.status) :
    (job.onAttempt attemptId change).statusOf other =
      if other = attemptId then (job.statusOf attemptId).map status else job.statusOf other := by
  rw [statusOf, lookup_onAttempt]
  split
  · rw [Option.map_map, statusOf, Option.map_map]
    exact congrArg (Option.map · _) (funext same)
  · rfl

theorem shut_frame (attemptId : Uuid) :
    (job.shut attemptId).status = job.status ∧ (job.shut attemptId).attempts = job.attempts ∧
      (job.shut attemptId).contract = job.contract ∧
      (job.shut attemptId).resultArtifact = job.resultArtifact ∧
      (job.shut attemptId).events = job.events := by
  unfold shut
  split
  · exact ⟨rfl, rfl, rfl, rfl, rfl⟩
  · exact ⟨rfl, rfl, rfl, rfl, rfl⟩

end ExecutionJob

inductive Phase.Closes : Phase → Prop
  | settled (jobId : String) (attemptId : Uuid) : Closes (.settled jobId attemptId false)
  | lateSettled (jobId : String) (attemptId : Uuid) : Closes (.lateSettled jobId attemptId false)
  | consumed (jobId : String) (attemptId : Uuid) : Closes (.consumed jobId attemptId false)

/-- What a job is like for the party that holds it, and how many requests have been sent. -/
inductive Stage (job : ExecutionJob) (sent : Nat) : Option Phase → Prop
  | vacant (running : job.status = .running) (closed : job.openAttemptId = none)
      (unsent : sent = 0) (quiet : ∀ other, ¬ job.Live other) : Stage job sent none
  | claimed (jobId : String) (attemptId : Uuid) (running : job.status = .running)
      (held : job.openAttemptId = some attemptId) (unsent : sent = 0)
      (flying : job.statusOf attemptId = some .inFlight) (quiet : ∀ other, ¬ job.Live other) :
      Stage job sent (some (.claimed jobId attemptId))
  | answered (jobId : String) (attemptId : Uuid) (timeout : Bool)
      (running : job.status = .running) (held : job.openAttemptId = some attemptId)
      (once : sent ≤ 1) (flying : job.statusOf attemptId = some .inFlight)
      (quiet : ∀ other, ¬ job.Live other) :
      Stage job sent (some (.answered jobId attemptId timeout))
  | unsettled (jobId : String) (attemptId : Uuid) (pending : job.status = .pendingReconciliation)
      (once : sent ≤ 1) (flying : job.statusOf attemptId = some .inFlight)
      (quiet : ∀ other, ¬ job.Live other) :
      Stage job sent (some (.settled jobId attemptId true))
  | waiting (attemptId : Uuid) (pending : job.status = .pendingReconciliation)
      (once : sent ≤ 1) (awaiting : job.statusOf attemptId = some .awaitingLateOutcome)
      (only : ∀ other, job.Live other → other = attemptId) : Stage job sent none
  | processing (jobId : String) (attemptId : Uuid) (snapshot : Option JobFacts)
      (pending : job.status = .pendingReconciliation) (once : sent ≤ 1)
      (claimed : job.statusOf attemptId = some .processingLateOutcome)
      (only : ∀ other, job.Live other → other = attemptId)
      (snapped : ∀ facts, snapshot = some facts → facts.status = .pendingReconciliation) :
      Stage job sent (some (.lateClaimed jobId attemptId snapshot))
  | lateUnsettled (jobId : String) (attemptId : Uuid)
      (pending : job.status = .pendingReconciliation) (once : sent ≤ 1)
      (claimed : job.statusOf attemptId = some .processingLateOutcome)
      (only : ∀ other, job.Live other → other = attemptId) :
      Stage job sent (some (.lateSettled jobId attemptId true))
  | stranded (jobId : String) (attemptId : Uuid) (pending : job.status = .pendingReconciliation)
      (once : sent ≤ 1) (quiet : ∀ other, ¬ job.Live other) :
      Stage job sent (some (.consumed jobId attemptId true))
  | concluded (owner : Option Phase) (terminal : job.status.terminal = true) (once : sent ≤ 1)
      (closes : ∀ phase, owner = some phase → phase.Closes) : Stage job sent owner

namespace Stage

variable {job after : ExecutionJob} {sent : Nat} {owner : Option Phase} {jobId : String}
variable {attemptId : Uuid}

theorem once (stage : Stage job sent owner) : sent ≤ 1 := by
  cases stage with
  | vacant _ _ unsent | claimed _ _ _ _ unsent => exact unsent ▸ Nat.zero_le 1
  | answered _ _ _ _ _ once | unsettled _ _ _ once | waiting _ _ once | processing _ _ _ _ once
  | lateUnsettled _ _ _ once | stranded _ _ _ once | concluded _ _ once => exact once

/-- A stage depends on the statuses and on the open attempt alone. -/
theorem congr (stage : Stage job sent owner) (status : after.status = job.status)
    (held : after.openAttemptId = job.openAttemptId)
    (attempts : ∀ other, after.statusOf other = job.statusOf other) : Stage after sent owner := by
  have live : ∀ other, after.Live other ↔ job.Live other := by
    intro other
    rw [ExecutionJob.Live, attempts, ExecutionJob.Live]
  cases stage with
  | vacant running closed unsent quiet =>
    exact .vacant (status.trans running) (held.trans closed) unsent
      fun other lives => quiet other ((live other).mp lives)
  | claimed jobId attemptId running open_ unsent flying quiet =>
    exact .claimed jobId attemptId (status.trans running) (held.trans open_) unsent
      ((attempts _).trans flying) fun other lives => quiet other ((live other).mp lives)
  | answered jobId attemptId timeout running open_ once flying quiet =>
    exact .answered jobId attemptId timeout (status.trans running) (held.trans open_) once
      ((attempts _).trans flying) fun other lives => quiet other ((live other).mp lives)
  | unsettled jobId attemptId pending once flying quiet =>
    exact .unsettled jobId attemptId (status.trans pending) once ((attempts _).trans flying)
      fun other lives => quiet other ((live other).mp lives)
  | waiting attemptId pending once awaiting only =>
    exact .waiting attemptId (status.trans pending) once ((attempts _).trans awaiting)
      fun other lives => only other ((live other).mp lives)
  | processing jobId attemptId snapshot pending once claimed only snapped =>
    exact .processing jobId attemptId snapshot (status.trans pending) once
      ((attempts _).trans claimed) (fun other lives => only other ((live other).mp lives))
      snapped
  | lateUnsettled jobId attemptId pending once claimed only =>
    exact .lateUnsettled jobId attemptId (status.trans pending) once
      ((attempts _).trans claimed) fun other lives => only other ((live other).mp lives)
  | stranded jobId attemptId pending once quiet =>
    exact .stranded jobId attemptId (status.trans pending) once
      fun other lives => quiet other ((live other).mp lives)
  | concluded _ terminal once closes =>
    exact .concluded owner (by rw [status]; exact terminal) once closes

variable {status : AttemptStatus}

theorem only_of_set (only : ∀ other, job.Live other → other = attemptId)
    (set : ∀ other, after.statusOf other =
      if other = attemptId then (job.statusOf attemptId).map fun _ => status
      else job.statusOf other) : ∀ other, after.Live other → other = attemptId := by
  intro other lives
  by_contra different
  rw [ExecutionJob.Live, set, if_neg different] at lives
  exact different (only other lives)

theorem quiet_of_set (only : ∀ other, job.Live other → other = attemptId)
    (dead : status ≠ .awaitingLateOutcome ∧ status ≠ .processingLateOutcome)
    (set : ∀ other, after.statusOf other =
      if other = attemptId then (job.statusOf attemptId).map fun _ => status
      else job.statusOf other) : ∀ other, ¬ after.Live other := by
  intro other lives
  have same := only_of_set only set other lives
  rw [ExecutionJob.Live, set, if_pos same] at lives
  rcases lives with awaiting | claimed
  · rcases Option.map_eq_some_iff.mp awaiting with ⟨_, _, wrong⟩
    exact dead.1 wrong
  · rcases Option.map_eq_some_iff.mp claimed with ⟨_, _, wrong⟩
    exact dead.2 wrong

theorem attach (stage : Stage job sent owner) (providerRequestId : String) :
    Stage (job.attachProviderRequestId attemptId providerRequestId) sent owner := by
  rcases job.onAttempt_frame attemptId (fun attempt =>
    if attempt.providerRequestId.isNone then
      { attempt with providerRequestId := some providerRequestId }
    else attempt) with ⟨status, held, _⟩
  refine stage.congr status held fun other => ?_
  refine (job.statusOf_onAttempt attemptId other _ id ?_).trans ?_
  · intro attempt
    split
    · rfl
    · rfl
  · rw [Option.map_id, id]
    split
    · next same => rw [same]
    · rfl

theorem mark (stage : Stage job sent (some (.settled jobId attemptId true))) :
    Stage (job.markAttemptAwaitingLate attemptId) sent none := by
  have frame := job.onAttempt_frame attemptId fun attempt =>
    { attempt with status := .awaitingLateOutcome }
  have set := fun other => job.statusOf_onAttempt attemptId other
    (fun attempt => { attempt with status := .awaitingLateOutcome })
    (fun _ => .awaitingLateOutcome) (fun _ => rfl)
  cases stage with
  | unsettled _ _ pending once flying quiet =>
    refine .waiting attemptId (frame.1.trans pending) once ?_
      (only_of_set (fun other lives => absurd lives (quiet other)) set)
    refine (set attemptId).trans ?_
    rw [if_pos rfl, flying]
    rfl
  | concluded _ _ _ closes => cases closes _ rfl

theorem close_claimed (stage : Stage job sent (some (.claimed jobId attemptId))) :
    Stage (job.closeAttempt attemptId) sent none := by
  have frame := job.onAttempt_frame attemptId fun attempt => { attempt with status := .closed }
  have set := fun other => job.statusOf_onAttempt attemptId other
    (fun attempt => { attempt with status := .closed }) (fun _ => .closed) (fun _ => rfl)
  have shut := ExecutionJob.shut_frame
    (job.onAttempt attemptId fun attempt => { attempt with status := .closed }) attemptId
  have after : ∀ other, (job.closeAttempt attemptId).statusOf other =
      if other = attemptId then (job.statusOf attemptId).map fun _ => .closed
      else job.statusOf other := by
    intro other
    rw [← set other, ExecutionJob.statusOf, ExecutionJob.closeAttempt, shut.2.1]
    rfl
  cases stage with
  | claimed _ _ running held unsent _ quiet =>
    refine .vacant ((shut.1.trans frame.1).trans running) ?_ unsent
      (quiet_of_set (fun other lives => absurd lives (quiet other)) (by decide) after)
    rw [ExecutionJob.closeAttempt, ExecutionJob.shut, if_pos (frame.2.1.trans held)]
  | concluded _ _ _ closes => cases closes _ rfl

variable {phase : Phase}

theorem conclude {next : Option Phase} (stage : Stage job sent owner)
    (own : owner = some phase) (closing : phase.Closes) (status : after.status = job.status)
    (closes : ∀ phase, next = some phase → phase.Closes) : Stage after sent next := by
  have terminal : job.status.terminal = true := by
    cases stage with
    | concluded _ terminal => exact terminal
    | vacant | waiting => cases own
    | claimed | answered | unsettled | processing | lateUnsettled | stranded =>
      cases own; cases closing
  exact .concluded next (by rw [status]; exact terminal) stage.once closes

theorem close_settled (stage : Stage job sent (some (.settled jobId attemptId false))) :
    Stage (job.closeAttempt attemptId) sent none := by
  have frame := job.onAttempt_frame attemptId fun attempt => { attempt with status := .closed }
  have shut := ExecutionJob.shut_frame
    (job.onAttempt attemptId fun attempt => { attempt with status := .closed }) attemptId
  exact stage.conclude rfl (.settled jobId attemptId) (shut.1.trans frame.1) nofun

variable {timeout : Bool}

theorem consume (stage : Stage job sent (some (.lateSettled jobId attemptId timeout))) :
    Stage (job.consumeLateOutcome attemptId) sent (some (.consumed jobId attemptId timeout)) := by
  have frame := job.onAttempt_frame attemptId fun attempt => { attempt with status := .consumed }
  have set := fun other => job.statusOf_onAttempt attemptId other
    (fun attempt => { attempt with status := .consumed }) (fun _ => .consumed) (fun _ => rfl)
  have shut := ExecutionJob.shut_frame
    (job.onAttempt attemptId fun attempt => { attempt with status := .consumed }) attemptId
  have after : ∀ other, (job.consumeLateOutcome attemptId).statusOf other =
      if other = attemptId then (job.statusOf attemptId).map fun _ => .consumed
      else job.statusOf other := by
    intro other
    rw [← set other, ExecutionJob.statusOf, ExecutionJob.consumeLateOutcome, shut.2.1]
    rfl
  cases timeout with
  | false =>
    apply stage.conclude rfl (.lateSettled jobId attemptId) (shut.1.trans frame.1)
    rintro _ ⟨⟩
    exact .consumed jobId attemptId
  | true =>
    cases stage with
    | lateUnsettled _ _ pending once _ only =>
      exact .stranded jobId attemptId ((shut.1.trans frame.1).trans pending) once
        (quiet_of_set only (by decide) after)
    | concluded _ _ _ closes => cases closes _ rfl

theorem restore {snapshot : JobFacts}
    (stage : Stage job sent (some (.lateClaimed jobId attemptId (some snapshot)))) :
    Stage (job.restoreFacts snapshot) sent
      (some (.lateClaimed jobId attemptId (some snapshot))) := by
  cases stage with
  | processing _ _ _ _ once claimed only snapped =>
    exact .processing jobId attemptId _ (snapped snapshot rfl) once claimed only snapped
  | concluded _ _ _ closes => cases closes _ rfl

theorem release {snapshot : Option JobFacts}
    (stage : Stage job sent (some (.lateClaimed jobId attemptId snapshot))) :
    Stage (job.releaseLateOutcomeClaim attemptId) sent none := by
  have frame := job.onAttempt_frame attemptId fun attempt =>
    if attempt.status = .processingLateOutcome then
      { attempt with status := .awaitingLateOutcome }
    else attempt
  have set := fun other => job.statusOf_onAttempt attemptId other
    (fun attempt =>
      if attempt.status = .processingLateOutcome then
        { attempt with status := .awaitingLateOutcome }
      else attempt)
    (fun status => if status = .processingLateOutcome then .awaitingLateOutcome else status)
    (fun attempt => by split <;> rfl)
  cases stage with
  | processing _ _ _ pending once claimed only =>
    rw [claimed] at set
    refine .waiting attemptId (frame.1.trans pending) once ((set attemptId).trans (if_pos rfl)) ?_
    intro other lives
    by_contra different
    rw [ExecutionJob.Live, ExecutionJob.releaseLateOutcomeClaim, set, if_neg different] at lives
    exact different (only other lives)
  | concluded _ _ _ closes => cases closes _ rfl

theorem snapshot (stage : Stage job sent (some (.lateClaimed jobId attemptId none))) :
    Stage job sent (some (.lateClaimed jobId attemptId (some job.facts))) := by
  cases stage with
  | processing _ _ _ pending once claimed only =>
    refine .processing jobId attemptId _ pending once claimed only ?_
    rintro _ ⟨⟩
    exact pending
  | concluded _ _ _ closes => cases closes _ rfl

theorem send (stage : Stage job sent (some (.claimed jobId attemptId))) (timeout : Bool) :
    Stage job (sent + 1) (some (.answered jobId attemptId timeout)) := by
  cases stage with
  | claimed _ _ running held _ flying quiet =>
    exact .answered jobId attemptId timeout running held (by omega) flying quiet
  | concluded _ _ _ closes => cases closes _ rfl

theorem completable (stage : Stage job sent (some phase))
    (decides : phase.Decides jobId timeout) : job.completable = true := by
  unfold ExecutionJob.completable
  cases decides with
  | answered =>
    cases stage with
    | answered _ _ _ running => rw [running]; rfl
    | concluded _ _ _ closes => cases closes _ rfl
  | late =>
    cases stage with
    | processing _ _ _ pending => rw [pending]; rfl
    | concluded _ _ _ closes => cases closes _ rfl

theorem decide (stage : Stage job sent (some phase))
    (decides : phase.Decides jobId false) (terminal : after.status.terminal = true) :
    Stage after sent (some (phase.decided false)) := by
  refine .concluded _ terminal stage.once ?_
  rintro _ ⟨⟩
  cases decides with
  | answered => exact .settled jobId _
  | late => exact .lateSettled jobId _

theorem timeOut (stage : Stage job sent (some phase))
    (decides : phase.Decides jobId true) (providerRequestId : Option String) :
    Stage (job.recordTimeoutPending providerRequestId) sent (some (phase.decided true)) := by
  have status : (job.recordTimeoutPending providerRequestId).status = .pendingReconciliation :=
    if_pos (stage.completable decides)
  cases decides with
  | answered attemptId =>
    cases stage with
    | answered _ _ _ _ _ once flying quiet =>
      exact .unsettled jobId attemptId status once flying quiet
    | concluded _ _ _ closes => cases closes _ rfl
  | late attemptId =>
    cases stage with
    | processing _ _ _ _ once claimed only =>
      exact .lateUnsettled jobId attemptId status once claimed only
    | concluded _ _ _ closes => cases closes _ rfl

end Stage

section Claims

variable {job : ExecutionJob} {sent : Nat} {owner : Option Phase}

theorem claimForNewCall_cases (job : ExecutionJob) (correlationId : String) (attemptId : Uuid) :
    job.claimForNewCall correlationId attemptId = (none, job) ∨
      (job.status = .running ∧ job.openAttemptId = none ∧
        job.claimForNewCall correlationId attemptId =
          (some { attemptId, jobId := job.jobId, correlationId },
            { job.putAttempt { attemptId, jobId := job.jobId, correlationId } with
              openAttemptId := some attemptId })) := by
  unfold ExecutionJob.claimForNewCall
  by_cases running : job.status = .running
  · rw [if_neg (not_not.mpr running)]
    cases held : job.openAttemptId with
    | some => exact .inl rfl
    | none => exact .inr ⟨running, rfl, rfl⟩
  · rw [if_pos running]
    exact .inl rfl

theorem Stage.claim (stage : Stage job sent owner) (running : job.status = .running)
    (closed : job.openAttemptId = none) (jobId correlationId : String) (attemptId : Uuid) :
    owner = none ∧ Stage { job.putAttempt { attemptId, jobId := job.jobId, correlationId } with
        openAttemptId := some attemptId } sent (some (.claimed jobId attemptId)) := by
  have put : ∀ other, ExecutionJob.statusOf
      { job.putAttempt { attemptId, jobId := job.jobId, correlationId } with
        openAttemptId := some attemptId } other =
      if other = attemptId then some .inFlight else job.statusOf other := by
    intro other
    simp only [ExecutionJob.statusOf, ExecutionJob.putAttempt, Dict.lookup_insert_eq]
    split
    · rfl
    · rfl
  cases stage with
  | vacant _ _ unsent quiet =>
    refine ⟨rfl, .claimed jobId attemptId running rfl unsent ((put attemptId).trans (if_pos rfl))
      ?_⟩
    intro other lives
    rw [ExecutionJob.Live, put] at lives
    split at lives
    · rcases lives with wrong | wrong
      · cases wrong
      · cases wrong
    · exact quiet other lives
  | claimed _ _ _ held | answered _ _ _ _ held => cases held.symm.trans closed
  | unsettled _ _ pending | waiting _ pending | processing _ _ _ pending
  | lateUnsettled _ _ pending | stranded _ _ pending => cases running.symm.trans pending
  | concluded _ terminal =>
    rw [running] at terminal
    cases terminal

/-- A late outcome is claimed for an attempt that awaits it, or nothing changes. -/
theorem claimLateOutcome_cases (job : ExecutionJob) (attemptId : Uuid) (correlationId : String)
    (incoming : Option String) :
    ((job.claimLateOutcome attemptId correlationId incoming).1.1 ≠ .claimed ∧
        (job.claimLateOutcome attemptId correlationId incoming).2 = job) ∨
      ∃ attempt identifier, job.status.terminal = false ∧
        job.attempts.lookup attemptId = some attempt ∧ attempt.status = .awaitingLateOutcome ∧
          job.claimLateOutcome attemptId correlationId incoming =
            ((.claimed, ""), job.processing attemptId attempt identifier) := by
  unfold ExecutionJob.claimLateOutcome
  split
  · exact .inl ⟨nofun, rfl⟩
  · next active =>
    cases found : job.attempts.lookup attemptId with
    | none => exact .inl ⟨nofun, rfl⟩
    | some attempt =>
      dsimp only
      split
      · exact .inl ⟨nofun, rfl⟩
      split
      · exact .inl ⟨nofun, rfl⟩
      split
      · exact .inl ⟨nofun, rfl⟩
      split
      · exact .inl ⟨nofun, rfl⟩
      · next _ _ awaiting _ =>
        have awaits := not_not.mp awaiting
        have pending : job.status.terminal = false := eq_false_of_ne_true active
        cases attempt.providerRequestId with
        | none =>
          cases incoming with
          | none => exact .inl ⟨nofun, rfl⟩
          | some identifier => exact .inr ⟨attempt, identifier, pending, rfl, awaits, rfl⟩
        | some recorded =>
          cases incoming with
          | none => exact .inl ⟨nofun, rfl⟩
          | some =>
            dsimp only
            split
            · exact .inl ⟨nofun, rfl⟩
            · exact .inr ⟨attempt, recorded, pending, rfl, awaits, rfl⟩

theorem Stage.claimLate (stage : Stage job sent owner) {attemptId : Uuid} {attempt : Attempt}
    (active : job.status.terminal = false) (found : job.attempts.lookup attemptId = some attempt)
    (awaits : attempt.status = .awaitingLateOutcome) (jobId identifier : String) :
    owner = none ∧ Stage (job.processing attemptId attempt identifier) sent
      (some (.lateClaimed jobId attemptId none)) := by
  have awaiting : job.statusOf attemptId = some .awaitingLateOutcome := by
    rw [ExecutionJob.statusOf, found]
    exact congrArg some awaits
  have lives : job.Live attemptId := .inl awaiting
  have put : ∀ other, (job.processing attemptId attempt identifier).statusOf other =
      if other = attemptId then some .processingLateOutcome else job.statusOf other := by
    intro other
    simp only [ExecutionJob.statusOf, ExecutionJob.processing, Dict.lookup_insert_eq]
    split
    · rfl
    · rfl
  cases stage with
  | vacant _ _ _ quiet | claimed _ _ _ _ _ _ quiet | answered _ _ _ _ _ _ _ quiet
  | unsettled _ _ _ _ _ quiet | stranded _ _ _ _ quiet => exact absurd lives (quiet attemptId)
  | processing _ own _ _ _ claimed only | lateUnsettled _ own _ _ claimed only =>
    rw [only attemptId lives] at awaiting
    cases claimed.symm.trans awaiting
  | waiting _ pending once _ only =>
    refine ⟨rfl, .processing jobId attemptId none pending once
      ((put attemptId).trans (if_pos rfl)) ?_ nofun⟩
    intro other alive
    by_contra different
    rw [ExecutionJob.Live, put, if_neg different] at alive
    exact different ((only other alive).trans (only attemptId lives).symm)
  | concluded _ terminal =>
    rw [active] at terminal
    cases terminal

end Claims

end BackendHandbook.StructuredOutput
