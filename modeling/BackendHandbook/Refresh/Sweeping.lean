import Mathlib
import BackendHandbook.Refresh.SessionStore

/-! Sweeps are not noticed: every request answers from the store that a sweep at its own time
would leave, and goes on to one that the sweep makes the same. -/

namespace BackendHandbook.Refresh

variable {vault : Vault}

variable {hash : String}

namespace AuthSession

variable (session : AuthSession vault)

/-- The session as a sweep leaves it. -/
def swept (now : Instant) : AuthSession vault :=
  if session.sweepable now then session.clearRecoveryMaterial else session

theorem swept_eq (now : Instant) : session.swept now =
    if session.retryGraceExpiresAt.any (· ≤ now) then session.clearRecoveryMaterial
    else session := by
  unfold swept sweepable
  cases past : session.retryGraceExpiresAt.any (· ≤ now) with
  | false => rfl
  | true =>
    rcases session with ⟨⟩
    next result recovery =>
    cases recovery with
    | some => rfl
    | none => cases result with | some hash => rfl | none => rfl

theorem swept_later {early late : Instant} (order : early ≤ late) :
    (session.swept early).swept late = session.swept late := by
  rw [swept_eq session early]
  split
  · next past =>
    have later : session.retryGraceExpiresAt.any (· ≤ late) = true := by
      cases window : session.retryGraceExpiresAt with
      | none =>
        rw [window] at past
        cases past
      | some =>
        rw [window] at past
        exact decide_eq_true (le_trans (of_decide_eq_true past) order)
    rw [swept_eq, swept_eq, if_pos later]
    exact if_pos later
  · rfl

variable (now : Instant)

theorem swept_frame : (session.swept now).sessionId = session.sessionId ∧
      (session.swept now).userId = session.userId ∧
      (session.swept now).tokenFamilyId = session.tokenFamilyId ∧
      (session.swept now).refreshTokenHash = session.refreshTokenHash ∧
      (session.swept now).revokedAt = session.revokedAt ∧
      (session.swept now).expiresAt = session.expiresAt ∧
      (session.swept now).previousRefreshTokenHash = session.previousRefreshTokenHash ∧
      (session.swept now).retryGraceExpiresAt = session.retryGraceExpiresAt := by
  unfold swept
  split
  · exact ⟨rfl, rfl, rfl, rfl, rfl, rfl, rfl, rfl⟩
  · exact ⟨rfl, rfl, rfl, rfl, rfl, rfl, rfl, rfl⟩

@[simp] theorem swept_sessionId : (session.swept now).sessionId = session.sessionId :=
  (session.swept_frame now).1

@[simp] theorem swept_userId : (session.swept now).userId = session.userId :=
  (session.swept_frame now).2.1

@[simp] theorem swept_tokenFamilyId : (session.swept now).tokenFamilyId = session.tokenFamilyId :=
  (session.swept_frame now).2.2.1

@[simp] theorem swept_refreshTokenHash :
    (session.swept now).refreshTokenHash = session.refreshTokenHash :=
  (session.swept_frame now).2.2.2.1

@[simp] theorem swept_revokedAt : (session.swept now).revokedAt = session.revokedAt :=
  (session.swept_frame now).2.2.2.2.1

@[simp] theorem swept_expiresAt : (session.swept now).expiresAt = session.expiresAt :=
  (session.swept_frame now).2.2.2.2.2.1

@[simp] theorem swept_inGrace (hash : String) (now : Instant) :
    (session.swept now).inGrace hash now = session.inGrace hash now := by
  rcases session.swept_frame now with ⟨_, _, _, _, revoked, _, previous, window⟩
  rw [inGrace, previous, window, revoked, inGrace]

theorem swept_of_inGrace {now : Instant}
    (inside : session.inGrace hash now = true) : session.swept now = session := by
  rw [swept_eq, if_neg]
  intro past
  unfold inGrace at inside
  cases window : session.retryGraceExpiresAt with
  | none =>
    rw [window] at past
    cases past
  | some limit =>
    rw [window, Bool.and_eq_true, Bool.and_eq_true] at inside
    rw [window] at past
    have early : now < limit := of_decide_eq_true inside.1.2
    have late : limit ≤ now := of_decide_eq_true past
    exact absurd early (not_lt.mpr late)

theorem swept_revoke (now : Instant) : (session.swept now).revoke now = session.revoke now := by
  unfold swept
  split
  · rfl
  · rfl

theorem swept_rotate (newHash : String) (ciphertext : vault.Ciphertext) (now ttl grace : Int) :
    (session.swept now).rotate newHash ciphertext now ttl grace =
      session.rotate newHash ciphertext now ttl grace := by
  unfold swept
  split
  · rfl
  · rfl

theorem swept_consume (now : Instant) :
    (session.swept now).consume.swept now = session.consume.swept now := by
  rw [swept_eq session]
  split
  · next past =>
    calc
      session.clearRecoveryMaterial.consume.swept now =
          session.clearRecoveryMaterial.consume.clearRecoveryMaterial := by
        rw [swept_eq]
        exact if_pos past
      _ = session.consume.clearRecoveryMaterial := rfl
      _ = session.consume.swept now := by
        rw [swept_eq]
        exact (if_pos past).symm
  · rfl

end AuthSession

namespace AuthSessionStore

variable (store : AuthSessionStore vault)

def swept (now : Instant) : AuthSessionStore vault :=
  { store with sessions := store.sessions.map (·.swept now) }

theorem swept_later {early late : Instant} (order : early ≤ late) :
    (store.swept early).swept late = store.swept late := by
  simp [swept, AuthSession.swept_later _ order]

@[simp] theorem swept_session (sessionId : Uuid) (now : Instant) :
    (store.swept now).session sessionId = (store.session sessionId).map (·.swept now) := by
  simp [swept, session, Function.comp_def]

theorem swept_update (sessionId : Uuid) (now : Instant)
    (change : AuthSession vault → AuthSession vault)
    (unnoticed : ∀ session, (change (session.swept now)).swept now = (change session).swept now) :
    ((store.swept now).update sessionId change).swept now =
      (store.update sessionId change).swept now := by
  have each : ∀ session : AuthSession vault,
      AuthSession.swept (if session.sessionId = sessionId then change (session.swept now)
        else session.swept now) now =
      AuthSession.swept (if session.sessionId = sessionId then change session else session) now := by
    intro session
    split
    · exact unnoticed session
    · exact session.swept_later (le_refl now)
  simp [swept, update, each]

theorem swept_revokeWhere (chosen : AuthSession vault → Bool) (now : Instant)
    (blind : ∀ session, chosen (session.swept now) = chosen session) :
    ((store.swept now).revokeWhere chosen now).1 = (store.revokeWhere chosen now).1 ∧
      ((store.swept now).revokeWhere chosen now).2.swept now =
        (store.revokeWhere chosen now).2.swept now := by
  have each : ∀ session : AuthSession vault,
      AuthSession.swept (if (chosen session && session.revokedAt.isNone) = true
        then (session.swept now).revoke now else session.swept now) now =
      AuthSession.swept (if (chosen session && session.revokedAt.isNone) = true
        then session.revoke now else session) now := by
    intro session
    split
    · rw [session.swept_revoke]
    · exact session.swept_later (le_refl now)
  constructor
  · simp [swept, revokeWhere, Function.comp_def, blind]
  · simp only [swept, revokeWhere, List.map_map, Function.comp_def, blind,
      AuthSession.swept_revokedAt, List.filter_map, List.foldl_map,
      AuthSession.swept_refreshTokenHash, each]

theorem swept_revokeSession (sessionId : Uuid) (now : Instant) :
    ((store.swept now).revokeSession sessionId now).1 = (store.revokeSession sessionId now).1 ∧
      ((store.swept now).revokeSession sessionId now).2.swept now =
        (store.revokeSession sessionId now).2.swept now := by
  unfold revokeSession
  rw [swept_session]
  cases found : store.session sessionId with
  | none => exact ⟨rfl, store.swept_later (le_refl now)⟩
  | some session =>
    simp only [Option.map_some, AuthSession.swept_revokedAt]
    split
    · exact ⟨rfl, store.swept_later (le_refl now)⟩
    · have updated := store.swept_update sessionId now (·.revoke now)
        fun session => by rw [session.swept_revoke]
      refine ⟨rfl, ?_⟩
      have sessions := congrArg AuthSessionStore.sessions updated
      simp only [swept, AuthSession.swept_refreshTokenHash] at sessions ⊢
      rw [sessions]
      rfl

theorem swept_rotateCurrent (sessionId : Uuid) (now ttl grace : Int) (failBeforeCommit : Bool) :
    ((store.swept now).rotateCurrent sessionId now ttl grace failBeforeCommit).1 =
        (store.rotateCurrent sessionId now ttl grace failBeforeCommit).1 ∧
      ((store.swept now).rotateCurrent sessionId now ttl grace failBeforeCommit).2.swept now =
        (store.rotateCurrent sessionId now ttl grace failBeforeCommit).2.swept now := by
  have again := store.swept_later (le_refl now)
  unfold rotateCurrent
  rw [swept_session]
  cases found : store.session sessionId with
  | none => exact ⟨rfl, again⟩
  | some session =>
    simp only [Option.map_some, AuthSession.swept_revokedAt, AuthSession.swept_expiresAt,
      AuthSession.swept_rotate]
    split
    · exact ⟨rfl, again⟩
    · split
      · have sessions := congrArg AuthSessionStore.sessions again
        refine ⟨rfl, ?_⟩
        simp only [swept] at sessions ⊢
        rw [sessions]
      · have updated := store.swept_update session.sessionId now
          (·.rotate (vault.digest (vault.token store.drawn))
            (vault.encrypt (store.drawn + 1) (vault.token store.drawn)) now ttl grace)
          fun session => by rw [session.swept_rotate]
        have sessions := congrArg AuthSessionStore.sessions updated
        refine ⟨rfl, ?_⟩
        simp only [swept, rotated, AuthSession.swept_sessionId,
          AuthSession.swept_refreshTokenHash, AuthSession.swept_tokenFamilyId] at sessions ⊢
        rw [sessions]

theorem swept_recover {session : AuthSession vault} {now : Instant}
    (inside : session.inGrace hash now = true) :
    ((store.swept now).recover (session.swept now)).1 = (store.recover session).1 ∧
      ((store.swept now).recover (session.swept now)).2.swept now =
        (store.recover session).2.swept now := by
  have again := store.swept_later (le_refl now)
  rw [session.swept_of_inGrace inside]
  unfold recover
  cases session.recoveryCiphertext with
  | none => exact ⟨rfl, again⟩
  | some ciphertext =>
    dsimp only
    cases vault.decrypt ciphertext with
    | none => exact ⟨rfl, again⟩
    | some =>
      exact ⟨rfl, store.swept_update session.sessionId now (·.consume)
        fun session => session.swept_consume now⟩

theorem swept_rotateRefresh (rawToken : String) (now ttl grace : Int) (failBeforeCommit : Bool) :
    ((store.swept now).rotateRefresh rawToken now ttl grace failBeforeCommit).1 =
        (store.rotateRefresh rawToken now ttl grace failBeforeCommit).1 ∧
      ((store.swept now).rotateRefresh rawToken now ttl grace failBeforeCommit).2.swept now =
        (store.rotateRefresh rawToken now ttl grace failBeforeCommit).2.swept now := by
  have again := store.swept_later (le_refl now)
  have current : (store.swept now).byCurrentHash = store.byCurrentHash := rfl
  have used : (store.swept now).usedHashes = store.usedHashes := rfl
  have window : (store.swept now).sessions.find? (·.inGrace (vault.digest rawToken) now) =
      (store.sessions.find? (·.inGrace (vault.digest rawToken) now)).map (·.swept now) := by
    simp [swept, Function.comp_def]
  unfold rotateRefresh
  dsimp only
  rw [current, used, window]
  cases store.byCurrentHash.lookup (vault.digest rawToken) with
  | some => exact store.swept_rotateCurrent _ now ttl grace failBeforeCommit
  | none =>
    cases found : store.sessions.find? (·.inGrace (vault.digest rawToken) now) with
    | some =>
      have inside := List.find?_some found
      exact store.swept_recover inside
    | none =>
      cases store.usedHashes.lookup (vault.digest rawToken) with
      | none => exact ⟨rfl, again⟩
      | some familyId =>
        have revoked := store.swept_revokeWhere (·.tokenFamilyId = familyId) now
          fun session => by simp
        exact ⟨rfl, revoked.2⟩

theorem swept_createSession (userId : String) (now ttl : Int) :
    ((store.swept now).createSession userId now ttl).1 = (store.createSession userId now ttl).1 ∧
      ((store.swept now).createSession userId now ttl).2.swept now =
        (store.createSession userId now ttl).2.swept now := by
  have sessions := congrArg AuthSessionStore.sessions (store.swept_later (le_refl now))
  refine ⟨rfl, ?_⟩
  simp only [swept, createSession, List.map_append] at sessions ⊢
  rw [sessions]

end AuthSessionStore

theorem sweeps_silent (vault : Vault) :
    Run.Silent (perform vault) Call.sweeps Call.now fun now store => store.swept now where
  later early late store order := store.swept_later order
  quiet call store sweeps := by
    cases call with
    | sweepExpiredRecoveryMaterial now => exact store.swept_later (le_refl now)
    | _ => cases sweeps
  answers call store other := by
    cases call with
    | createSession userId now ttl => exact (store.swept_createSession userId now ttl).1
    | rotateRefresh rawToken now ttl grace failBeforeCommit =>
      exact (store.swept_rotateRefresh rawToken now ttl grace failBeforeCommit).1
    | revokeSession sessionId now => exact (store.swept_revokeSession sessionId now).1
    | revokeFamily _ now =>
      exact (store.swept_revokeWhere _ now fun session => by
        simp).1
    | revokeAllUserSessions _ now =>
      exact (store.swept_revokeWhere _ now fun session => by
        simp).1
    | sweepExpiredRecoveryMaterial => cases other
  moves call store other := by
    cases call with
    | createSession userId now ttl => exact (store.swept_createSession userId now ttl).2
    | rotateRefresh rawToken now ttl grace failBeforeCommit =>
      exact (store.swept_rotateRefresh rawToken now ttl grace failBeforeCommit).2
    | revokeSession sessionId now => exact (store.swept_revokeSession sessionId now).2
    | revokeFamily _ now =>
      exact (store.swept_revokeWhere _ now fun session => by
        simp).2
    | revokeAllUserSessions _ now =>
      exact (store.swept_revokeWhere _ now fun session => by
        simp).2
    | sweepExpiredRecoveryMaterial => cases other

end BackendHandbook.Refresh
