import BackendHandbook.Foundation.Dict
import BackendHandbook.Foundation.Run

/-! Refresh sessions of devices: rotation of the token, recovery of a lost answer, replay,
revocation, and the sweep of recovery material. -/

namespace BackendHandbook.Refresh

abbrev Uuid := Nat

abbrev Instant := Int

/-- The secrets that are drawn, the digest of a token, and the cipher of recovery material. A
secret is never drawn twice, and no two tokens have the same digest. -/
structure Vault where
  token : Nat → String
  fresh : Function.Injective token
  digest : String → String
  injective : Function.Injective digest
  Ciphertext : Type
  encrypt : (nonce : Nat) → String → Ciphertext
  decrypt : Ciphertext → Option String
  decrypt_encrypt : ∀ nonce raw, decrypt (encrypt nonce raw) = some raw

inductive RefreshOutcome
  | rotated | graceRetry | replayDetected | invalid
  deriving DecidableEq

structure AuthSession (vault : Vault) where
  sessionId : Uuid
  userId : String
  tokenFamilyId : Uuid
  refreshTokenHash : String
  (createdAt expiresAt lastRotatedAt : Instant)
  rotationCounter : Nat := 0
  revokedAt : Option Instant := none
  previousRefreshTokenHash : Option String := none
  previousUsedAt : Option Instant := none
  retryGraceExpiresAt : Option Instant := none
  graceResultTokenHash : Option String := none
  recoveryCiphertext : Option vault.Ciphertext := none

structure RefreshResult (vault : Vault) where
  outcome : RefreshOutcome
  rawRefreshToken : Option String := none
  session : Option (AuthSession vault) := none
  reason : String := ""

inductive Raised
  | keyError | simulatedCommitFailure | invalidToken

variable {vault : Vault}

namespace AuthSession

variable (session : AuthSession vault)

def clearRecoveryMaterial : AuthSession vault :=
  { session with recoveryCiphertext := none, graceResultTokenHash := none }

def consume : AuthSession vault :=
  { session with recoveryCiphertext := none }

/-- The session revoked, with nothing left to recover. -/
def revoke (now : Instant) : AuthSession vault :=
  { session with revokedAt := some now }.clearRecoveryMaterial

/-- The immediately previous token, retried in its window on an unrevoked session. -/
def inGrace (hash : String) (now : Instant) : Bool :=
  session.previousRefreshTokenHash = some hash && session.retryGraceExpiresAt.any (now < ·) &&
    session.revokedAt.isNone

/-- The rotation facts, all together. -/
def rotate (newHash : String) (ciphertext : vault.Ciphertext) (now ttl grace : Int) :
    AuthSession vault :=
  { session with
    previousRefreshTokenHash := some session.refreshTokenHash, previousUsedAt := some now
    retryGraceExpiresAt := some (now + grace), graceResultTokenHash := some newHash
    recoveryCiphertext := some ciphertext, refreshTokenHash := newHash, lastRotatedAt := now
    rotationCounter := session.rotationCounter + 1, expiresAt := now + ttl }

/-- What a sweep destroys: recovery material whose window is over. -/
def sweepable (now : Instant) : Bool :=
  session.retryGraceExpiresAt.any (· ≤ now) &&
    (session.recoveryCiphertext.isSome || session.graceResultTokenHash.isSome)

end AuthSession

/-- The store, and how many secrets and identifiers have been drawn; `sessions` keeps its
records in the order they were created. -/
structure AuthSessionStore (vault : Vault) where
  sessions : List (AuthSession vault) := []
  byCurrentHash : Dict String Uuid := ∅
  usedHashes : Dict String Uuid := ∅
  drawn : Nat := 0

namespace AuthSessionStore

variable (store : AuthSessionStore vault)

def session (sessionId : Uuid) : Option (AuthSession vault) :=
  store.sessions.find? (·.sessionId = sessionId)

def update (sessionId : Uuid) (change : AuthSession vault → AuthSession vault) :
    AuthSessionStore vault :=
  { store with
    sessions := store.sessions.map fun session =>
      if session.sessionId = sessionId then change session else session }

/-- `create_session`; the token is drawn first, then the identifiers. -/
def createSession (userId : String) (now ttl : Int) :
    (String × AuthSession vault) × AuthSessionStore vault :=
  let raw := vault.token store.drawn
  let session : AuthSession vault :=
    { sessionId := store.drawn + 1
      userId := userId, tokenFamilyId := store.drawn + 2, refreshTokenHash := vault.digest raw
      createdAt := now, expiresAt := now + ttl, lastRotatedAt := now }
  ((raw, session),
    { store with
      sessions := store.sessions ++ [session]
      byCurrentHash := store.byCurrentHash.insert session.refreshTokenHash session.sessionId
      drawn := store.drawn + 3 })

def revokeWhere (chosen : AuthSession vault → Bool) (now : Instant) :
    Nat × AuthSessionStore vault :=
  let hit := fun session : AuthSession vault => chosen session && session.revokedAt.isNone
  (store.sessions.countP hit,
    { store with
      sessions := store.sessions.map fun session =>
        if hit session then session.revoke now else session
      byCurrentHash := (store.sessions.filter hit).foldl
        (fun byCurrentHash session => byCurrentHash.erase session.refreshTokenHash)
        store.byCurrentHash })

def revokeFamily (tokenFamilyId : Uuid) (now : Instant) : Nat × AuthSessionStore vault :=
  store.revokeWhere (·.tokenFamilyId = tokenFamilyId) now

def revokeAllUserSessions (userId : String) (now : Instant) : Nat × AuthSessionStore vault :=
  store.revokeWhere (·.userId = userId) now

def revokeSession (sessionId : Uuid) (now : Instant) : Bool × AuthSessionStore vault :=
  match store.session sessionId with
  | none => (false, store)
  | some session =>
    if session.revokedAt.isSome then (false, store)
    else
      (true,
        { store.update sessionId (·.revoke now) with
          byCurrentHash := store.byCurrentHash.erase session.refreshTokenHash })

def sweepExpiredRecoveryMaterial (now : Instant) : Nat × AuthSessionStore vault :=
  (store.sessions.countP (·.sweepable now),
    { store with
      sessions := store.sessions.map fun session =>
        if session.sweepable now then session.clearRecoveryMaterial else session })

/-- The commit of a rotation. -/
def rotated (session : AuthSession vault) (newHash : String) (ciphertext : vault.Ciphertext)
    (now ttl grace : Int) : AuthSessionStore vault :=
  { store.update session.sessionId (·.rotate newHash ciphertext now ttl grace) with
    byCurrentHash :=
      (store.byCurrentHash.erase session.refreshTokenHash).insert newHash session.sessionId
    usedHashes := store.usedHashes.insert session.refreshTokenHash session.tokenFamilyId
    drawn := store.drawn + 2 }

/-- The current token: the sole winner rotates it. -/
def rotateCurrent (sessionId : Uuid) (now ttl grace : Int) (failBeforeCommit : Bool) :
    Except Raised (RefreshResult vault) × AuthSessionStore vault :=
  match store.session sessionId with
  | none => (.error .keyError, store)
  | some session =>
    if session.revokedAt.isSome ∨ now ≥ session.expiresAt then
      (.ok { outcome := .invalid, reason := "revoked or expired" }, store)
    else
      let newRaw := vault.token store.drawn
      let newHash := vault.digest newRaw
      if failBeforeCommit then
        (.error .simulatedCommitFailure, { store with drawn := store.drawn + 1 })
      else
        let ciphertext := vault.encrypt (store.drawn + 1) newRaw
        (.ok
          { outcome := .rotated, rawRefreshToken := some newRaw
            session := some (session.rotate newHash ciphertext now ttl grace) },
          store.rotated session newHash ciphertext now ttl grace)

/-- The previous token in its window: the replacement is recovered once. -/
def recover (session : AuthSession vault) :
    Except Raised (RefreshResult vault) × AuthSessionStore vault :=
  match session.recoveryCiphertext with
  | none =>
    (.ok
      { outcome := .graceRetry, session := some session
        reason := "recovery already consumed; re-authenticate if B was not received" }, store)
  | some ciphertext =>
    match vault.decrypt ciphertext with
    | none => (.error .invalidToken, store)
    | some raw =>
      (.ok
        { outcome := .graceRetry, rawRefreshToken := some raw, session := some session.consume
          reason := "grace retry recovered the same replacement token B" },
        store.update session.sessionId (·.consume))

def rotateRefresh (rawToken : String) (now ttl grace : Int) (failBeforeCommit : Bool) :
    Except Raised (RefreshResult vault) × AuthSessionStore vault :=
  let hash := vault.digest rawToken
  match store.byCurrentHash.lookup hash with
  | some sessionId => store.rotateCurrent sessionId now ttl grace failBeforeCommit
  | none =>
    match store.sessions.find? (·.inGrace hash now) with
    | some session => store.recover session
    | none =>
      match store.usedHashes.lookup hash with
      | some familyId =>
        (.ok { outcome := .replayDetected, reason := "replayed used refresh token" },
          (store.revokeFamily familyId now).2)
      | none => (.ok { outcome := .invalid, reason := "unknown refresh token" }, store)

end AuthSessionStore

/-- One request, served under the lock of the store. -/
inductive Call
  | createSession (userId : String) (now ttl : Int)
  | rotateRefresh (rawToken : String) (now ttl grace : Int) (failBeforeCommit : Bool)
  | revokeSession (sessionId : Uuid) (now : Instant)
  | revokeFamily (tokenFamilyId : Uuid) (now : Instant)
  | revokeAllUserSessions (userId : String) (now : Instant)
  | sweepExpiredRecoveryMaterial (now : Instant)

def Call.now : Call → Instant
  | .createSession _ now _ => now
  | .rotateRefresh _ now _ _ _ => now
  | .revokeSession _ now => now
  | .revokeFamily _ now => now
  | .revokeAllUserSessions _ now => now
  | .sweepExpiredRecoveryMaterial now => now

def Call.sweeps : Call → Bool
  | .sweepExpiredRecoveryMaterial _ => true
  | _ => false

abbrev Call.Answer (vault : Vault) : Call → Type
  | .createSession .. => String × AuthSession vault
  | .rotateRefresh .. => Except Raised (RefreshResult vault)
  | .revokeSession .. => Bool
  | .revokeFamily .. => Nat
  | .revokeAllUserSessions .. => Nat
  | .sweepExpiredRecoveryMaterial _ => Nat

def perform (vault : Vault) : (call : Call) → AuthSessionStore vault →
    call.Answer vault × AuthSessionStore vault
  | .createSession userId now ttl, store => store.createSession userId now ttl
  | .rotateRefresh rawToken now ttl grace failBeforeCommit, store =>
    store.rotateRefresh rawToken now ttl grace failBeforeCommit
  | .revokeSession sessionId now, store => store.revokeSession sessionId now
  | .revokeFamily tokenFamilyId now, store => store.revokeFamily tokenFamilyId now
  | .revokeAllUserSessions userId now, store => store.revokeAllUserSessions userId now
  | .sweepExpiredRecoveryMaterial now, store => store.sweepExpiredRecoveryMaterial now

/-- A sequence of requests under a clock that does not go back. -/
structure ClockedRun where
  calls : List Call
  ordered : (calls.map Call.now).Pairwise (· ≤ ·)

abbrev SessionEvent (vault : Vault) := Run.Event (AuthSessionStore vault) Call (Call.Answer vault)

section Runs

variable (vault : Vault) (run : ClockedRun)

def ClockedRun.schedule : List (SessionEvent vault) := Run.trace (perform vault) {} run.calls

end Runs

/-! What one request can do to the refresh sessions. -/

variable {vault : Vault} {store after : AuthSessionStore vault}

/-- A session changed in what a revocation, a recovery or a sweep may change. -/
structure Tame (before after : AuthSession vault) : Prop where
  sessionId : after.sessionId = before.sessionId
  tokenFamilyId : after.tokenFamilyId = before.tokenFamilyId
  refreshTokenHash : after.refreshTokenHash = before.refreshTokenHash
  previous : after.previousRefreshTokenHash = before.previousRefreshTokenHash
  grace : after.retryGraceExpiresAt = before.retryGraceExpiresAt
  recovery : after.recoveryCiphertext = before.recoveryCiphertext ∨ after.recoveryCiphertext = none
  revoked : before.revokedAt.isSome = true → after.revokedAt.isSome = true

variable (session : AuthSession vault)

theorem Tame.refl : Tame session session := ⟨rfl, rfl, rfl, rfl, rfl, .inl rfl, id⟩

theorem revoke_tame (now : Instant) : Tame session (session.revoke now) :=
  ⟨rfl, rfl, rfl, rfl, rfl, .inr rfl, fun _ => rfl⟩

theorem clear_tame : Tame session session.clearRecoveryMaterial :=
  ⟨rfl, rfl, rfl, rfl, rfl, .inr rfl, id⟩

theorem consume_tame : Tame session session.consume := ⟨rfl, rfl, rfl, rfl, rfl, .inr rfl, id⟩

/-- Every session is changed tamely, and no token becomes current or is forgotten. -/
structure TameStep (store after : AuthSessionStore vault) : Prop where
  sessions : ∃ change : AuthSession vault → AuthSession vault,
    (∀ session, Tame session (change session)) ∧ after.sessions = store.sessions.map change
  current : ∀ hash sessionId, after.byCurrentHash.lookup hash = some sessionId →
    store.byCurrentHash.lookup hash = some sessionId
  used : after.usedHashes = store.usedHashes
  drawn : after.drawn = store.drawn

theorem TameStep.refl (store : AuthSessionStore vault) : TameStep store store :=
  ⟨⟨id, .refl, (List.map_id _).symm⟩, fun _ _ => id, rfl, rfl⟩

variable {change : AuthSession vault → AuthSession vault}

theorem ite_tame {chosen : AuthSession vault → Bool}
    (tame : ∀ session, Tame session (change session)) (session : AuthSession vault) :
    Tame session (if chosen session then change session else session) := by
  split
  · exact tame session
  · exact .refl session

variable {sessionId : Uuid} {dict : Dict String Uuid}

theorem lookup_of_erase {erased hash : String}
    (found : (dict.erase erased).lookup hash = some sessionId) :
    hash ≠ erased ∧ dict.lookup hash = some sessionId := by
  by_cases same : hash = erased
  · subst same
    rw [AList.lookup_erase] at found
    cases found
  · rw [AList.lookup_erase_ne same] at found
    exact ⟨same, found⟩

theorem lookup_of_foldl_erase {hits : List (AuthSession vault)} {hash : String}
    (found : (hits.foldl (fun dict session => dict.erase session.refreshTokenHash) dict).lookup
      hash = some sessionId) : dict.lookup hash = some sessionId := by
  induction hits generalizing dict with
  | nil => exact found
  | cons _ _ ih => exact (lookup_of_erase (ih found)).2

theorem revokeWhere_tame (chosen : AuthSession vault → Bool) (now : Instant) :
    TameStep store (store.revokeWhere chosen now).2 :=
  ⟨⟨_, ite_tame fun session => revoke_tame session now, rfl⟩,
    fun _ _ found => lookup_of_foldl_erase found, rfl, rfl⟩

theorem update_tame (tame : ∀ session, Tame session (change session)) (sessionId : Uuid) :
    TameStep store (store.update sessionId change) := by
  refine ⟨⟨fun session => if session.sessionId = sessionId then change session else session, ?_,
    rfl⟩, fun _ _ found => found, rfl, rfl⟩
  intro session
  dsimp only
  split
  · exact tame session
  · exact .refl session

theorem revokeSession_tame (sessionId : Uuid) (now : Instant) :
    TameStep store (store.revokeSession sessionId now).2 := by
  unfold AuthSessionStore.revokeSession
  cases found : store.session sessionId with
  | none => exact .refl store
  | some session =>
    dsimp only
    split
    · exact .refl store
    · have updated : TameStep store (store.update sessionId (·.revoke now)) :=
        update_tame (fun session => revoke_tame session now) sessionId
      exact ⟨updated.sessions, fun _ _ kept => (lookup_of_erase kept).2, updated.used,
        updated.drawn⟩

theorem sweep_tame (now : Instant) : TameStep store (store.sweepExpiredRecoveryMaterial now).2 :=
  ⟨⟨_, ite_tame clear_tame, rfl⟩, fun _ _ found => found, rfl, rfl⟩

theorem session_mem {session : AuthSession vault} (found : store.session sessionId = some session) :
    session ∈ store.sessions ∧ session.sessionId = sessionId := by
  have own := List.find?_some found
  exact ⟨List.mem_of_find?_eq_some found, of_decide_eq_true own⟩

/-- What a presented token comes to. -/
inductive RotateStep (store : AuthSessionStore vault) (rawToken : String) (now ttl grace : Int)
    (failBeforeCommit : Bool) :
    Except Raised (RefreshResult vault) → AuthSessionStore vault → Prop
  | refused (answer : Except Raised (RefreshResult vault)) (sessionId : Uuid)
      (current : store.byCurrentHash.lookup (vault.digest rawToken) = some sessionId)
      (stopped : ∀ session, store.session sessionId = some session →
        session.revokedAt.isSome = true ∨ now ≥ session.expiresAt)
      (unanswered : ∀ result, answer = .ok result →
        result.outcome = .invalid ∧ result.rawRefreshToken = none) :
      RotateStep store rawToken now ttl grace failBeforeCommit answer store
  | failed (sessionId : Uuid)
      (current : store.byCurrentHash.lookup (vault.digest rawToken) = some sessionId)
      (fails : failBeforeCommit = true) :
      RotateStep store rawToken now ttl grace failBeforeCommit (.error .simulatedCommitFailure)
        { store with drawn := store.drawn + 1 }
  | rotated (session : AuthSession vault)
      (current : store.byCurrentHash.lookup (vault.digest rawToken) = some session.sessionId)
      (found : store.session session.sessionId = some session)
      (active : session.revokedAt = none) (unexpired : now < session.expiresAt)
      (commits : failBeforeCommit = false) :
      RotateStep store rawToken now ttl grace failBeforeCommit
        (.ok
          { outcome := .rotated, rawRefreshToken := some (vault.token store.drawn)
            session := some (session.rotate (vault.digest (vault.token store.drawn))
              (vault.encrypt (store.drawn + 1) (vault.token store.drawn)) now ttl grace) })
        (store.rotated session (vault.digest (vault.token store.drawn))
          (vault.encrypt (store.drawn + 1) (vault.token store.drawn)) now ttl grace)
  | recovered (session : AuthSession vault)
      (retired : store.byCurrentHash.lookup (vault.digest rawToken) = none)
      (found : store.sessions.find? (·.inGrace (vault.digest rawToken) now) = some session) :
      RotateStep store rawToken now ttl grace failBeforeCommit (store.recover session).1
        (store.recover session).2
  | replayed (familyId : Uuid)
      (retired : store.byCurrentHash.lookup (vault.digest rawToken) = none)
      (out : store.sessions.find? (·.inGrace (vault.digest rawToken) now) = none)
      (used : store.usedHashes.lookup (vault.digest rawToken) = some familyId) :
      RotateStep store rawToken now ttl grace failBeforeCommit
        (.ok { outcome := .replayDetected, reason := "replayed used refresh token" })
        (store.revokeFamily familyId now).2
  | unknown (retired : store.byCurrentHash.lookup (vault.digest rawToken) = none)
      (out : store.sessions.find? (·.inGrace (vault.digest rawToken) now) = none)
      (unused : store.usedHashes.lookup (vault.digest rawToken) = none) :
      RotateStep store rawToken now ttl grace failBeforeCommit
        (.ok { outcome := .invalid, reason := "unknown refresh token" }) store

theorem rotateRefresh_step (store : AuthSessionStore vault) (rawToken : String)
    (now ttl grace : Int) (failBeforeCommit : Bool) :
    RotateStep store rawToken now ttl grace failBeforeCommit
      (store.rotateRefresh rawToken now ttl grace failBeforeCommit).1
      (store.rotateRefresh rawToken now ttl grace failBeforeCommit).2 := by
  unfold AuthSessionStore.rotateRefresh
  dsimp only
  cases current : store.byCurrentHash.lookup (vault.digest rawToken) with
  | some sessionId =>
    dsimp only
    unfold AuthSessionStore.rotateCurrent
    cases found : store.session sessionId with
    | none =>
      refine .refused _ sessionId current ?_ (fun result same => by cases same)
      intro session listed
      rw [found] at listed
      cases listed
    | some session =>
      dsimp only
      by_cases stopped : session.revokedAt.isSome = true ∨ now ≥ session.expiresAt
      · rw [if_pos stopped]
        refine .refused _ sessionId current ?_ ?_
        · intro other listed
          cases found.symm.trans listed
          exact stopped
        · rintro _ ⟨⟩
          exact ⟨rfl, rfl⟩
      · rw [if_neg stopped]
        cases failBeforeCommit with
        | true => exact .failed sessionId current rfl
        | false =>
          have own := (session_mem found).2
          rw [← own] at current found
          rw [not_or, not_le] at stopped
          refine .rotated session current found ?_ stopped.2 rfl
          cases revoked : session.revokedAt with
          | none => rfl
          | some =>
            rw [revoked] at stopped
            exact absurd rfl stopped.1
  | none =>
    cases out : store.sessions.find? (·.inGrace (vault.digest rawToken) now) with
    | some => exact .recovered _ current out
    | none =>
      cases used : store.usedHashes.lookup (vault.digest rawToken) with
      | some => exact .replayed _ current out used
      | none => exact .unknown current out used

theorem recover_cases (store : AuthSessionStore vault) (session : AuthSession vault) :
    (session.recoveryCiphertext = none ∧ (store.recover session).2 = store ∧
      ∃ result, (store.recover session).1 = .ok result ∧ result.outcome = .graceRetry ∧
        result.rawRefreshToken = none) ∨
    ∃ ciphertext, session.recoveryCiphertext = some ciphertext ∧
      ((vault.decrypt ciphertext = none ∧ (store.recover session) = (.error .invalidToken, store)) ∨
        ∃ raw, vault.decrypt ciphertext = some raw ∧
          (store.recover session).2 = store.update session.sessionId (·.consume) ∧
          ∃ result, (store.recover session).1 = .ok result ∧ result.outcome = .graceRetry ∧
            result.rawRefreshToken = some raw ∧ result.session = some session.consume) := by
  unfold AuthSessionStore.recover
  cases material : session.recoveryCiphertext with
  | none => exact .inl ⟨rfl, rfl, _, rfl, rfl, rfl⟩
  | some ciphertext =>
    refine .inr ⟨ciphertext, rfl, ?_⟩
    dsimp only
    cases decrypted : vault.decrypt ciphertext with
    | none => exact .inl ⟨rfl, rfl⟩
    | some raw => exact .inr ⟨raw, rfl, rfl, _, rfl, rfl, rfl, rfl⟩

theorem recover_tame (session : AuthSession vault) : TameStep store (store.recover session).2 := by
  rcases recover_cases store session with
    ⟨_, kept, _⟩ | ⟨_, _, ⟨_, raised⟩ | ⟨_, _, written, _⟩⟩
  · rw [kept]
    exact .refl store
  · rw [raised]
    exact .refl store
  · rw [written]
    exact update_tame consume_tame session.sessionId

/-- The ways the store can be moved. -/
inductive StoreStep (store : AuthSessionStore vault) : Call → AuthSessionStore vault → Prop
  | tame (call : Call) (after : AuthSessionStore vault) (moved : TameStep store after) :
      StoreStep store call after
  | drew (call : Call) : StoreStep store call { store with drawn := store.drawn + 1 }
  | created (userId : String) (now ttl : Int) :
      StoreStep store (.createSession userId now ttl) (store.createSession userId now ttl).2
  | rotated (rawToken : String) (now ttl grace : Int) (session : AuthSession vault)
      (current : store.byCurrentHash.lookup (vault.digest rawToken) = some session.sessionId)
      (found : store.session session.sessionId = some session) :
      StoreStep store (.rotateRefresh rawToken now ttl grace false)
        (store.rotated session (vault.digest (vault.token store.drawn))
          (vault.encrypt (store.drawn + 1) (vault.token store.drawn)) now ttl grace)

theorem perform_step (call : Call) (store : AuthSessionStore vault) :
    StoreStep store call (perform vault call store).2 := by
  cases call with
  | createSession => exact .created _ _ _
  | revokeSession sessionId now => exact .tame _ _ (revokeSession_tame sessionId now)
  | revokeFamily tokenFamilyId now | revokeAllUserSessions userId now =>
    exact .tame _ _ (revokeWhere_tame _ now)
  | sweepExpiredRecoveryMaterial now => exact .tame _ _ (sweep_tame now)
  | rotateRefresh rawToken now ttl grace failBeforeCommit =>
    have step := rotateRefresh_step store rawToken now ttl grace failBeforeCommit
    simp only [perform]
    generalize (store.rotateRefresh rawToken now ttl grace failBeforeCommit).2 = reached at step ⊢
    generalize (store.rotateRefresh rawToken now ttl grace failBeforeCommit).1 = answer at step
    cases step with
    | refused | unknown => exact .tame _ _ (.refl store)
    | failed => exact .drew _
    | rotated session current found _ _ commits =>
      subst commits
      exact .rotated rawToken now ttl grace session current found
    | recovered session => exact .tame _ _ (recover_tame session)
    | replayed => exact .tame _ _ (revokeWhere_tame _ now)

end BackendHandbook.Refresh
