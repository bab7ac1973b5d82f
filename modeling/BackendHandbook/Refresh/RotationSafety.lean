import BackendHandbook.Refresh.Soundness
import BackendHandbook.Refresh.Sweeping

/-! Refresh token rotation: what a client can get out of any sequence of requests. -/

namespace BackendHandbook.Refresh

open Run List

variable {vault : Vault}

def fact (e : SessionEvent vault) : Sigma (Call.Answer vault) := ⟨e.call, e.response⟩

def handed : SessionEvent vault → Option (String × Option (AuthSession vault))
  | ⟨_, .createSession .., (raw, session), _⟩ => some (raw, some session)
  | ⟨_, .rotateRefresh .., .ok result, _⟩ => result.rawRefreshToken.map fun raw =>
    (raw, result.session)
  | _ => none

def rotates (raw : String) : SessionEvent vault → Bool
  | ⟨_, .rotateRefresh rawToken .., .ok result, _⟩ => rawToken = raw && result.outcome = .rotated
  | _ => false

def recovers (raw : String) : SessionEvent vault → Bool
  | ⟨_, .rotateRefresh rawToken .., .ok result, _⟩ =>
    rawToken = raw && result.outcome = .graceRetry && result.rawRefreshToken.isSome
  | _ => false

/-- The session of a token that can be used: the token is its current one, and it is neither
revoked nor expired. -/
def Live (store : AuthSessionStore vault) (now : Instant) (raw : String)
    (returned : Option (AuthSession vault)) : Prop :=
  ∃ session ∈ store.sessions, returned = some session ∧
    session.refreshTokenHash = vault.digest raw ∧ session.revokedAt = none ∧ now < session.expiresAt

/-- A replay detected: nothing is issued, and the whole family is revoked. -/
def Detected (after : AuthSessionStore vault) (familyId : Uuid)
    (answer : Except Raised (RefreshResult vault)) : Prop :=
  ∃ result, answer = .ok result ∧ result.outcome = .replayDetected ∧
    result.rawRefreshToken = none ∧
      ∀ session ∈ after.sessions, session.tokenFamilyId = familyId → session.revokedAt.isSome = true

structure RotationSafety (vault : Vault) (run : ClockedRun) : Prop where
  once : ∀ raw, (run.schedule vault).countP (rotates raw) ≤ 1
  live : ∀ e ∈ run.schedule vault, ∀ raw returned, handed e = some (raw, returned) →
    Live e.after e.call.now raw returned
  replayed : ∀ front back first later raw at_ ttl grace granted session now nextTtl nextGrace fails
      answer, run.schedule vault = front ++ first :: back → later ∈ back →
    fact first = ⟨.rotateRefresh raw at_ ttl grace false, .ok granted⟩ →
      granted.outcome = .rotated → granted.session = some session →
        fact later = ⟨.rotateRefresh raw now nextTtl nextGrace fails, answer⟩ →
          (now < at_ + grace ∧ ∃ result, answer = .ok result ∧ result.outcome = .graceRetry) ∨
            Detected later.after session.tokenFamilyId answer
  recovered : ∀ raw, (run.schedule vault).countP (recovers raw) ≤ 1
  recoveredCurrent : ∀ e ∈ run.schedule vault, ∀ raw now ttl grace fails result returned,
    fact e = ⟨.rotateRefresh raw now ttl grace fails, .ok result⟩ → result.outcome = .graceRetry →
      result.rawRefreshToken = some returned → ∃ session ∈ e.before.sessions,
        session.inGrace (vault.digest raw) now = true ∧
          session.refreshTokenHash = vault.digest returned
  sweeps : ∀ other : ClockedRun,
    (other.calls.filter fun call => !call.sweeps) = (run.calls.filter fun call => !call.sweeps) →
      heard Call.sweeps (other.schedule vault) = heard Call.sweeps (run.schedule vault)

/-- A token is about to be handed out for a session that is over by then: one without a time to
live, or a lost answer recovered behind the expiry. -/
inductive Overdue (store : AuthSessionStore vault) : Call → Prop
  | created (userId : String) (now ttl : Int) (spent : ttl ≤ 0) :
      Overdue store (.createSession userId now ttl)
  | rotated (rawToken : String) (now ttl grace : Int) (session : AuthSession vault)
      (current : store.byCurrentHash.lookup (vault.digest rawToken) = some session.sessionId)
      (found : store.session session.sessionId = some session)
      (active : session.revokedAt = none) (unexpired : now < session.expiresAt)
      (spent : ttl ≤ 0) : Overdue store (.rotateRefresh rawToken now ttl grace false)
  | recovered (rawToken : String) (now ttl grace : Int) (fails : Bool)
      (session : AuthSession vault)
      (retired : store.byCurrentHash.lookup (vault.digest rawToken) = none)
      (found : store.sessions.find? (·.inGrace (vault.digest rawToken) now) = some session)
      (material : session.recoveryCiphertext.isSome = true) (expired : session.expiresAt ≤ now) :
      Overdue store (.rotateRefresh rawToken now ttl grace fails)

variable {result : RefreshResult vault}

section Steps

variable {store after : AuthSessionStore vault} {rawToken : String} {now ttl grace : Int}
variable {failBeforeCommit : Bool} {answer : Except Raised (RefreshResult vault)}
variable {session : AuthSession vault}

theorem recover_sound (sound : Sound store) (member : session ∈ store.sessions) :
    ∃ result, (store.recover session).1 = .ok result ∧ result.outcome = .graceRetry ∧
      ((session.recoveryCiphertext = none ∧ result.rawRefreshToken = none ∧
          (store.recover session).2 = store) ∨
        ∃ raw, session.recoveryCiphertext.isSome = true ∧ result.rawRefreshToken = some raw ∧
          session.refreshTokenHash = vault.digest raw ∧ result.session = some session.consume ∧
            (store.recover session).2 = store.update session.sessionId (·.consume)) := by
  rcases recover_cases store session with
    ⟨empty, kept, result, answered, retried, nothing⟩ |
    ⟨ciphertext, material, ⟨undecrypted, _⟩ | ⟨raw, decrypted, written, result, answered, retried,
      handed, returned⟩⟩
  · exact ⟨result, answered, retried, .inl ⟨empty, nothing, kept⟩⟩
  · rcases sound.material session member ciphertext material with ⟨raw, decrypted, _⟩
    cases undecrypted.symm.trans decrypted
  · rcases sound.material session member ciphertext material with ⟨_, same, own⟩
    cases decrypted.symm.trans same
    exact ⟨result, answered, retried, .inr ⟨raw, by rw [material]; rfl, handed, own, returned,
      written⟩⟩

theorem RotateStep.of_rotated (sound : Sound store)
    (step : RotateStep store rawToken now ttl grace failBeforeCommit answer after)
    (is : answer = .ok result) (outcome : result.outcome = .rotated) :
    ∃ session ∈ store.sessions, session.refreshTokenHash = vault.digest rawToken ∧
      store.byCurrentHash.lookup (vault.digest rawToken) = some session.sessionId ∧
        failBeforeCommit = false ∧
          result.session = some (session.rotate (vault.digest (vault.token store.drawn))
            (vault.encrypt (store.drawn + 1) (vault.token store.drawn)) now ttl grace) ∧
          after = store.rotated session (vault.digest (vault.token store.drawn))
            (vault.encrypt (store.drawn + 1) (vault.token store.drawn)) now ttl grace := by
  cases step with
  | refused _ _ _ _ unanswered =>
    rw [(unanswered result is).1] at outcome
    cases outcome
  | failed => cases is
  | rotated session current found _ _ commits =>
    cases is
    rcases sound.current_own current found with ⟨own, holds⟩
    exact ⟨session, own, holds, current, commits, rfl, rfl⟩
  | recovered _ _ found =>
    rcases recover_sound sound (mem_of_find?_eq_some found) with
      ⟨_, answered, retried, _⟩
    cases answered.symm.trans is
    cases retried.symm.trans outcome
  | replayed | unknown =>
    cases is
    cases outcome

theorem RotateStep.of_retried
    (step : RotateStep store rawToken now ttl grace failBeforeCommit answer after)
    (is : answer = .ok result) (outcome : result.outcome = .graceRetry) :
    ∃ session, store.byCurrentHash.lookup (vault.digest rawToken) = none ∧
      store.sessions.find? (·.inGrace (vault.digest rawToken) now) = some session ∧
        answer = (store.recover session).1 ∧ after = (store.recover session).2 := by
  cases step with
  | refused _ _ _ _ unanswered =>
    rw [(unanswered result is).1] at outcome
    cases outcome
  | failed => cases is
  | rotated | replayed | unknown =>
    cases is
    cases outcome
  | recovered session retired found => exact ⟨session, retired, found, rfl, rfl⟩

theorem unexpired_iff (now ttl : Int) : now < now + ttl ↔ 0 < ttl := by
  omega

theorem inGrace_active {hash : String}
    (inside : session.inGrace hash now = true) : session.revokedAt = none := by
  unfold AuthSession.inGrace at inside
  rw [Bool.and_eq_true] at inside
  exact Option.isNone_iff_eq_none.mp inside.2

theorem mem_update {sessionId : Uuid} {change : AuthSession vault → AuthSession vault}
    (member : session ∈ store.sessions) (own : session.sessionId = sessionId) :
    change session ∈ (store.update sessionId change).sessions :=
  mem_map.mpr ⟨session, member, if_pos own⟩

theorem live_iff_of_silent {e : SessionEvent vault} (nothing : handed e = none)
    (timely : ¬ Overdue store e.call) :
    (∀ raw returned, handed e = some (raw, returned) → Live after now raw returned) ↔
      ¬ Overdue store e.call := by
  refine ⟨fun _ => timely, fun _ raw returned hands => ?_⟩
  rw [nothing] at hands
  cases hands

theorem rotate_live_iff (sound : Sound store)
    (step : RotateStep store rawToken now ttl grace failBeforeCommit answer after) :
    (∀ raw returned, handed
        (⟨store, .rotateRefresh rawToken now ttl grace failBeforeCommit, answer, after⟩ :
          SessionEvent vault) = some (raw, returned) → Live after now raw returned) ↔
      ¬ Overdue store (.rotateRefresh rawToken now ttl grace failBeforeCommit) := by
  cases step with
  | refused _ _ current stopped unanswered =>
    apply live_iff_of_silent
    · cases answer with
      | error => rfl
      | ok result =>
        rw [handed, (unanswered result rfl).2]
        rfl
    · rintro (_ | ⟨_, _, _, _, session, own, found, active, unexpired, _⟩ |
        ⟨_, _, _, _, _, session, retired, _⟩)
      · cases current.symm.trans own
        rcases stopped session found with revoked | expired
        · rw [active] at revoked
          cases revoked
        · exact absurd unexpired (not_lt.mpr expired)
      · cases current.symm.trans retired
  | failed _ current fails =>
    subst fails
    apply live_iff_of_silent rfl
    rintro (_ | _ | ⟨_, _, _, _, _, session, retired, _⟩)
    cases current.symm.trans retired
  | rotated session current found active unexpired commits =>
    subst commits
    have own := sound.current_own current found
    constructor
    · rintro lives (_ | ⟨_, _, _, _, other, _, _, _, _, spent⟩ |
        ⟨_, _, _, _, _, other, retired, _⟩)
      · rcases lives _ _ rfl with ⟨_, _, returned, _, _, early⟩
        cases returned
        have positive : 0 < ttl := (unexpired_iff now ttl).mp early
        exact absurd positive (not_lt.mpr spent)
      · cases current.symm.trans retired
    · rintro timely raw returned hands
      cases hands
      refine ⟨_, Sound.rotate_mem own.1 _ _ now ttl grace, rfl, rfl, active, ?_⟩
      refine (unexpired_iff now ttl).mpr (not_le.mp fun spent => ?_)
      exact timely (.rotated rawToken now ttl grace session current found active unexpired spent)
  | recovered session retired found =>
    have member := mem_of_find?_eq_some found
    have inside := find?_some found
    rcases recover_sound sound member with ⟨_, answered, _, ⟨empty, nothing, _⟩ |
      ⟨raw, material, handsOut, own, returns, written⟩⟩
    · apply live_iff_of_silent
      · rw [answered, handed, nothing]
        rfl
      · rintro (_ | ⟨_, _, _, _, other, current, _⟩ |
          ⟨_, _, _, _, _, other, _, first, material, _⟩)
        · cases retired.symm.trans current
        · cases found.symm.trans first
          rw [empty] at material
          cases material
    · rw [answered, written]
      constructor
      · rintro lives (_ | ⟨_, _, _, _, other, current, _⟩ |
          ⟨_, _, _, _, _, other, _, first, _, expired⟩)
        · cases retired.symm.trans current
        · cases found.symm.trans first
          rcases lives raw _ (by rw [handed, handsOut]; rfl) with
            ⟨_, _, returned, _, _, early⟩
          cases returns.symm.trans returned
          exact absurd early (not_lt.mpr expired)
      · rintro timely _ _ hands
        rw [handed, handsOut] at hands
        cases hands
        refine ⟨_, mem_update member rfl, returns, own, inGrace_active inside, ?_⟩
        by_contra late
        exact timely (.recovered rawToken now ttl grace failBeforeCommit session retired found
          material (not_lt.mp late))
  | replayed _ retired out =>
    apply live_iff_of_silent rfl
    rintro (_ | ⟨_, _, _, _, other, current, _⟩ | ⟨_, _, _, _, _, other, _, first, _⟩)
    · cases retired.symm.trans current
    · cases out.symm.trans first
  | unknown retired out =>
    apply live_iff_of_silent rfl
    rintro (_ | ⟨_, _, _, _, _, current, _⟩ | ⟨_, _, _, _, _, _, _, first, _⟩)
    · cases retired.symm.trans current
    · cases out.symm.trans first

theorem create_live_iff (userId : String) :
    (∀ raw returned, handed (⟨store, .createSession userId now ttl,
        (store.createSession userId now ttl).1, (store.createSession userId now ttl).2⟩ :
          SessionEvent vault) = some (raw, returned) →
        Live (store.createSession userId now ttl).2 now raw returned) ↔
      ¬ Overdue store (.createSession userId now ttl) := by
  constructor
  · rintro lives (⟨_, _, _, spent⟩ | _ | _)
    rcases lives _ _ rfl with ⟨_, _, returned, _, _, early⟩
    cases returned
    have positive : 0 < ttl := (unexpired_iff now ttl).mp early
    exact absurd positive (not_lt.mpr spent)
  · rintro timely _ _ hands
    cases hands
    refine ⟨_, mem_append_right _ (mem_singleton_self _), rfl, rfl, rfl, ?_⟩
    refine (unexpired_iff now ttl).mpr (not_le.mp fun spent => ?_)
    exact timely (.created userId now ttl spent)

end Steps

section Runs

variable {run : ClockedRun} {e : SessionEvent vault} {raw : String}

theorem event_live_iff (member : e ∈ run.schedule vault) :
    (∀ raw returned, handed e = some (raw, returned) → Live e.after e.call.now raw returned) ↔
      ¬ Overdue e.before e.call := by
  have sound := (event_sound member).1
  rcases event_answer member with ⟨answered, moved⟩
  rcases e with ⟨before, call, _, _⟩
  dsimp only at sound answered moved ⊢
  subst answered
  subst moved
  cases call with
  | createSession => exact create_live_iff _
  | rotateRefresh rawToken now ttl grace failBeforeCommit =>
    exact rotate_live_iff sound (rotateRefresh_step before rawToken now ttl grace failBeforeCommit)
  | revokeSession | revokeFamily | revokeAllUserSessions | sweepExpiredRecoveryMaterial =>
    exact live_iff_of_silent rfl nofun

def Retired (raw : String) (familyId : Uuid) (store : AuthSessionStore vault) : Prop :=
  store.usedHashes.lookup (vault.digest raw) = some familyId

variable {familyId : Uuid} {call : Call}

theorem retired_step {store after : AuthSessionStore vault} (sound : Sound store)
    (step : StoreStep store call after) (retired : Retired raw familyId store) :
    Retired raw familyId after := by
  cases step with
  | tame _ _ moved => rw [Retired, moved.used]; exact retired
  | drew | created => exact retired
  | rotated _ _ _ _ _ current found =>
    rcases sound.current_own current found with ⟨_, holds⟩
    simp only [Retired, AuthSessionStore.rotated, Dict.lookup_insert_eq]
    rw [if_neg]
    · exact retired
    · intro same
      rw [holds] at same
      rw [Retired, same, sound.retired _ _ current] at retired
      cases retired

variable {fails : Bool}

variable {answer : Except Raised (RefreshResult vault)} {grace : Int}

theorem event_rotate {now ttl : Int} (member : e ∈ run.schedule vault)
    (is : fact e = ⟨.rotateRefresh raw now ttl grace fails, answer⟩) :
    RotateStep e.before raw now ttl grace fails answer e.after := by
  rcases event_answer member with ⟨answered, moved⟩
  rcases e with ⟨before, _, _, _⟩
  cases is
  rw [answered, moved]
  exact rotateRefresh_step before raw now ttl grace fails

theorem rotates_fact (rotated : rotates raw e = true) : ∃ now ttl grace fails result,
    fact e = ⟨.rotateRefresh raw now ttl grace fails, .ok result⟩ ∧ result.outcome = .rotated := by
  rcases e with ⟨_, call, response, _⟩
  cases call with
  | rotateRefresh _ now ttl grace fails =>
    cases response with
    | error => cases rotated
    | ok result =>
      rw [rotates, Bool.and_eq_true, decide_eq_true_eq, decide_eq_true_eq] at rotated
      rcases rotated with ⟨rfl, outcome⟩
      exact ⟨now, ttl, grace, fails, result, rfl, outcome⟩
  | _ => cases rotated

theorem recovers_fact (recovered : recovers raw e = true) : ∃ now ttl grace fails result,
    fact e = ⟨.rotateRefresh raw now ttl grace fails, .ok result⟩ ∧
      result.outcome = .graceRetry ∧ result.rawRefreshToken.isSome = true := by
  rcases e with ⟨_, call, response, _⟩
  cases call with
  | rotateRefresh _ now ttl grace fails =>
    cases response with
    | error => cases recovered
    | ok result =>
      rw [recovers, Bool.and_eq_true, Bool.and_eq_true, decide_eq_true_eq,
        decide_eq_true_eq] at recovered
      rcases recovered with ⟨⟨rfl, outcome⟩, handed⟩
      exact ⟨now, ttl, grace, fails, result, rfl, outcome, handed⟩
  | _ => cases recovered

def Windowed (raw : String) (familyId : Uuid) (limit : Instant) (store : AuthSessionStore vault) :
    Prop :=
  Retired raw familyId store ∧ ∀ session ∈ store.sessions,
    session.previousRefreshTokenHash = some (vault.digest raw) →
      session.retryGraceExpiresAt = some limit

variable {limit : Instant}

theorem windowed_step {store after : AuthSessionStore vault}
    (sound : Sound store) (step : StoreStep store call after)
    (windowed : Windowed raw familyId limit store) : Windowed raw familyId limit after := by
  refine ⟨retired_step sound step windowed.1, ?_⟩
  cases step with
  | tame _ _ moved =>
    rcases moved.sessions with ⟨_, tame, changed⟩
    intro session member holds
    rw [changed] at member
    rcases mem_map.mp member with ⟨old, inside, rfl⟩
    rw [(tame old).previous] at holds
    rw [(tame old).grace]
    exact windowed.2 old inside holds
  | drew => exact windowed.2
  | created =>
    intro session member holds
    rcases mem_append.mp member with old | new
    · exact windowed.2 session old holds
    · rw [mem_singleton.mp new] at holds
      cases holds
  | rotated _ now ttl grace session current found =>
    rcases sound.current_own current found with ⟨own, holds⟩
    have used := windowed.1
    intro listed member previous
    rcases sound.mem_rotated own _ _ now ttl grace member with ⟨old, _⟩ | rfl
    · exact windowed.2 listed old previous
    · have same : session.refreshTokenHash = vault.digest raw := Option.some.inj previous
      rw [holds] at same
      rw [Retired, ← same, sound.retired _ _ current] at used
      cases used

theorem rotated_event {now ttl : Int} (member : e ∈ run.schedule vault)
    (is : fact e = ⟨.rotateRefresh raw now ttl grace fails, .ok result⟩)
    (outcome : result.outcome = .rotated) : e.before.usedHashes.lookup (vault.digest raw) = none ∧
      ∃ session, result.session = some session ∧
        Windowed raw session.tokenFamilyId (now + grace) e.after := by
  have sound := (event_sound member).1
  rcases (event_rotate member is).of_rotated sound rfl outcome with
    ⟨_, own, holds, current, _, returned, moved⟩
  have unused := sound.retired _ _ current
  refine ⟨unused, _, returned, ?_, ?_⟩
  · rw [Retired, moved]
    simp only [AuthSessionStore.rotated, Dict.lookup_insert_eq]
    exact if_pos holds.symm
  · intro listed member previous
    rw [moved] at member
    rcases sound.mem_rotated own _ _ now ttl grace member with ⟨old, _⟩ | rfl
    · have used := sound.previous listed old _ previous
      rw [unused] at used
      cases used
    · rfl

theorem rotated_once (raw : String) : (run.schedule vault).countP (rotates raw) ≤ 1 := by
  refine counted_once (perform vault)
    (fun store => (store.usedHashes.lookup (vault.digest raw)).isSome) false (rotates raw) {}
    run.calls ?_ ?_
  · intro e member
    cases used : e.before.usedHashes.lookup (vault.digest raw) with
    | none => exact Bool.false_le _
    | some =>
      have kept := retired_step (event_sound member).1 (event_step member) used
      rw [kept]
  · intro e member rotated
    rcases rotates_fact rotated with ⟨_, _, _, _, _, is, outcome⟩
    rcases rotated_event member is outcome with ⟨unused, _, _, retired, _⟩
    rw [unused, retired]
    exact ⟨rfl, rfl⟩

theorem revokeFamily_revokes (store : AuthSessionStore vault) (familyId : Uuid) (now : Instant) :
    ∀ session ∈ (store.revokeFamily familyId now).2.sessions, session.tokenFamilyId = familyId →
      session.revokedAt.isSome = true := by
  intro session member own
  rcases mem_map.mp member with ⟨old, _, rfl⟩
  dsimp only at own ⊢
  split
  · rfl
  · next spared =>
    rw [if_neg spared] at own
    cases revoked : old.revokedAt with
    | some => rfl
    | none =>
      rw [own, revoked, decide_eq_true (rfl : familyId = familyId)] at spared
      exact absurd rfl spared

theorem presented_again {now ttl : Int} (member : e ∈ run.schedule vault)
    (windowed : Windowed raw familyId limit e.before)
    (is : fact e = ⟨.rotateRefresh raw now ttl grace fails, answer⟩) :
    (now < limit ∧ ∃ result, answer = .ok result ∧ result.outcome = .graceRetry) ∨
      Detected e.after familyId answer := by
  have sound := (event_sound member).1
  have retired : Retired raw familyId e.before := windowed.1
  have step := event_rotate member is
  have notCurrent : ∀ sessionId,
      e.before.byCurrentHash.lookup (vault.digest raw) ≠ some sessionId := by
    intro sessionId current
    rw [Retired, sound.retired _ _ current] at retired
    cases retired
  generalize e.after = after at step ⊢
  cases step with
  | refused _ sessionId current | failed sessionId current =>
    exact absurd current (notCurrent sessionId)
  | rotated session current => exact absurd current (notCurrent session.sessionId)
  | recovered session _ found =>
    have own := mem_of_find?_eq_some found
    have inside := find?_some found
    rcases recover_sound sound own with ⟨result, answered, retried, _⟩
    refine .inl ⟨?_, result, answered, retried⟩
    unfold AuthSession.inGrace at inside
    rw [Bool.and_eq_true, Bool.and_eq_true, decide_eq_true_eq] at inside
    rw [windowed.2 session own inside.1.1] at inside
    exact of_decide_eq_true inside.1.2
  | replayed _ _ _ used =>
    cases used.symm.trans retired
    exact .inr ⟨_, rfl, rfl, rfl, revokeFamily_revokes e.before familyId now⟩
  | unknown _ _ unused => cases unused.symm.trans retired

def Spent (raw : String) (store : AuthSessionStore vault) : Prop :=
  (∃ familyId, Retired raw familyId store) ∧ ∀ session ∈ store.sessions,
    session.previousRefreshTokenHash = some (vault.digest raw) → session.recoveryCiphertext = none

theorem spent_step {store after : AuthSessionStore vault} (sound : Sound store)
    (step : StoreStep store call after) (spent : Spent raw store) : Spent raw after := by
  rcases spent with ⟨⟨familyId, retired⟩, empty⟩
  refine ⟨⟨familyId, retired_step sound step retired⟩, ?_⟩
  cases step with
  | tame _ _ moved =>
    rcases moved.sessions with ⟨_, tame, changed⟩
    intro session member holds
    rw [changed] at member
    rcases mem_map.mp member with ⟨old, inside, rfl⟩
    rw [(tame old).previous] at holds
    rcases (tame old).recovery with same | gone
    · exact same.trans (empty old inside holds)
    · exact gone
  | drew => exact empty
  | created =>
    intro session member holds
    rcases mem_append.mp member with old | new
    · exact empty session old holds
    · rw [mem_singleton.mp new]
  | rotated _ now ttl grace session current found =>
    rcases sound.current_own current found with ⟨own, holds⟩
    intro listed member previous
    rcases sound.mem_rotated own _ _ now ttl grace member with ⟨old, _⟩ | rfl
    · exact empty listed old previous
    · have same : session.refreshTokenHash = vault.digest raw := Option.some.inj previous
      rw [holds] at same
      rw [Retired, ← same, sound.retired _ _ current] at retired
      cases retired

theorem recovered_event {now ttl : Int} {returned : String} (member : e ∈ run.schedule vault)
    (is : fact e = ⟨.rotateRefresh raw now ttl grace fails, .ok result⟩)
    (outcome : result.outcome = .graceRetry) (hands : result.rawRefreshToken = some returned) :
    ∃ session ∈ e.before.sessions, session.inGrace (vault.digest raw) now = true ∧
      session.refreshTokenHash = vault.digest returned ∧ ¬ Spent raw e.before ∧
        Spent raw e.after := by
  have sound := (event_sound member).1
  have stepped := event_step member
  rcases (event_rotate member is).of_retried rfl outcome with
    ⟨session, _, found, answered, moved⟩
  have own := mem_of_find?_eq_some found
  have inside := find?_some found
  have previous : session.previousRefreshTokenHash = some (vault.digest raw) := by
    unfold AuthSession.inGrace at inside
    rw [Bool.and_eq_true, Bool.and_eq_true, decide_eq_true_eq] at inside
    exact inside.1.1
  rcases recover_sound sound own with ⟨_, same, _, ⟨_, nothing, _⟩ |
    ⟨_, material, handsOut, holds, _, written⟩⟩
  · cases answered.trans same
    cases nothing.symm.trans hands
  · cases answered.trans same
    cases handsOut.symm.trans hands
    refine ⟨session, own, inside, holds, ?_, ?_, ?_⟩
    · intro spent
      rw [spent.2 session own previous] at material
      cases material
    · exact ⟨_, retired_step sound stepped (sound.previous session own _ previous)⟩
    · intro listed among holds
      rw [moved, written] at among
      rcases mem_map.mp among with ⟨old, before, rfl⟩
      by_cases sameId : old.sessionId = session.sessionId
      · rw [if_pos sameId]
        rfl
      · rw [if_neg sameId] at holds
        exact absurd (congrArg AuthSession.sessionId
          (sound.sole old before session own _ holds previous)) sameId

theorem recovered_once (raw : String) : (run.schedule vault).countP (recovers raw) ≤ 1 := by
  classical
  refine counted_once (perform vault) (fun store => decide (Spent raw store)) false (recovers raw)
    {} run.calls ?_ ?_
  · intro e member
    by_cases spent : Spent raw e.before
    · rw [decide_eq_true (spent_step (event_sound member).1 (event_step member) spent)]
      exact Bool.le_true _
    · rw [decide_eq_false spent]
      exact Bool.false_le _
  · intro e member recovered
    rcases recovers_fact recovered with ⟨_, _, _, _, _, is, outcome, handed⟩
    rcases Option.isSome_iff_exists.mp handed with ⟨_, hands⟩
    rcases recovered_event member is outcome hands with ⟨_, _, _, _, unspent, spent⟩
    rw [decide_eq_false unspent, decide_eq_true spent]
    exact ⟨rfl, rfl⟩

end Runs

/-- Rotation is safe in exactly the runs that hand out nothing overdue. -/
theorem rotation_safety_iff (vault : Vault) (run : ClockedRun) : RotationSafety vault run ↔
    ∀ e ∈ run.schedule vault, ¬ Overdue e.before e.call := by
  constructor
  · intro safe e member
    exact (event_live_iff member).mp (safe.live e member)
  · intro timely
    constructor
    · exact rotated_once
    · intro e member
      exact (event_live_iff member).mpr (timely e member)
    · intro front back first later raw at_ ttl grace granted session now nextTtl nextGrace fails
        answer split behind is outcome returned again
      have first_mem : first ∈ run.schedule vault := by
        rw [split]
        exact mem_append_right _ mem_cons_self
      have later_mem : later ∈ run.schedule vault := by
        rw [split]
        exact mem_append_right _ (mem_cons_of_mem _ behind)
      rcases rotated_event first_mem is outcome with ⟨_, own, same, windowed⟩
      cases same.symm.trans returned
      have kept : Windowed raw session.tokenFamilyId (at_ + grace) later.before := by
        refine kept_between (perform vault) _ ?_ split behind windowed
        intro e member before
        exact windowed_step (event_sound member).1 (event_step member) before
      exact presented_again later_mem kept again
    · exact recovered_once
    · intro e member raw now ttl grace fails result returned is outcome hands
      rcases recovered_event member is outcome hands with ⟨session, own, inside, holds, _⟩
      exact ⟨session, own, inside, holds⟩
    · intro other same
      exact (sweeps_silent vault).heard_eq {} other.calls run.calls same other.ordered run.ordered

namespace Sample

def boxes : Vault where
  token number := String.ofList (replicate (number + 1) 'a')
  fresh first second same := by
    have lengths := congrArg String.length same
    simpa using lengths
  digest := id
  injective := Function.injective_id
  Ciphertext := Nat × String
  encrypt nonce raw := (nonce, raw)
  decrypt box := some box.2
  decrypt_encrypt _ _ := rfl

/-- The token is rotated for five seconds with a window of ten, and presented again after six. -/
def lostAnswer : ClockedRun where
  calls := [.createSession "alice" 0 100, .rotateRefresh "a" 10 5 10 false,
    .rotateRefresh "a" 16 5 10 false]
  ordered := by decide

/-- The lost answer is recovered for a session that has expired. -/
theorem recovered_behind_expiry : ¬ RotationSafety boxes lostAnswer := by
  intro safe
  have member : Run.event (perform boxes) (Run.final (perform boxes) {} (lostAnswer.calls.take 2))
      (.rotateRefresh "a" 16 5 10 false) ∈ lostAnswer.schedule boxes :=
    Run.event_mem_trace (perform boxes) {} (lostAnswer.calls.take 2) [] _
  rcases safe.live _ member (boxes.token 3) _ rfl with ⟨_, _, returned, _, _, early⟩
  cases returned
  exact absurd early (by decide)

end Sample

end BackendHandbook.Refresh
