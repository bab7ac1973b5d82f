import BackendHandbook.Refresh.SessionStore

/-! What holds of the refresh sessions in every state that requests lead to. -/

namespace BackendHandbook.Refresh

open List

variable {vault : Vault}

def Issued (vault : Vault) (drawn : Nat) (hash : String) : Prop :=
  ∃ number < drawn, hash = vault.digest (vault.token number)

/-- A current token is of its session and of no other, a previous one is retired, and the
recovery material of a session is its current token. -/
structure Sound (store : AuthSessionStore vault) : Prop where
  older : ∀ session ∈ store.sessions, session.sessionId < store.drawn
  distinct : ∀ session ∈ store.sessions, ∀ other ∈ store.sessions,
    session.sessionId = other.sessionId → session = other
  current : ∀ hash sessionId, store.byCurrentHash.lookup hash = some sessionId →
    ∃ session ∈ store.sessions, session.sessionId = sessionId ∧ session.refreshTokenHash = hash
  retired : ∀ hash sessionId, store.byCurrentHash.lookup hash = some sessionId →
    store.usedHashes.lookup hash = none
  issued : ∀ session ∈ store.sessions, Issued vault store.drawn session.refreshTokenHash
  used : ∀ hash familyId, store.usedHashes.lookup hash = some familyId →
    Issued vault store.drawn hash
  previous : ∀ session ∈ store.sessions, ∀ hash, session.previousRefreshTokenHash = some hash →
    store.usedHashes.lookup hash = some session.tokenFamilyId
  sole : ∀ session ∈ store.sessions, ∀ other ∈ store.sessions, ∀ hash,
    session.previousRefreshTokenHash = some hash → other.previousRefreshTokenHash = some hash →
      session = other
  material : ∀ session ∈ store.sessions, ∀ ciphertext,
    session.recoveryCiphertext = some ciphertext →
      ∃ raw, vault.decrypt ciphertext = some raw ∧ session.refreshTokenHash = vault.digest raw

variable {hash : String}

theorem Issued.later {drawn later : Nat} (issued : Issued vault drawn hash)
    (grows : drawn ≤ later) : Issued vault later hash := by
  rcases issued with ⟨number, early, same⟩
  exact ⟨number, lt_of_lt_of_le early grows, same⟩

theorem not_issued (drawn : Nat) : ¬ Issued vault drawn (vault.digest (vault.token drawn)) := by
  rintro ⟨number, _, same⟩
  have number_eq : drawn = number := vault.fresh (vault.injective same)
  omega

namespace Sound

variable {store after : AuthSessionStore vault}

theorem opening : Sound ({} : AuthSessionStore vault) where
  older _ member := by cases member
  distinct _ member := by cases member
  current hash sessionId found := by cases found
  retired hash sessionId found := by cases found
  issued _ member := by cases member
  used hash familyId found := by cases found
  previous _ member := by cases member
  sole _ member := by cases member
  material _ member := by cases member

theorem tame (sound : Sound store) (moved : TameStep store after) : Sound after := by
  rcases moved.sessions with ⟨change, tame, changed⟩
  have listed : ∀ session ∈ after.sessions, ∃ old ∈ store.sessions, change old = session := by
    intro session member
    rw [changed] at member
    exact mem_map.mp member
  constructor
  · intro session member
    rcases listed session member with ⟨old, inside, rfl⟩
    rw [moved.drawn, (tame old).sessionId]
    exact sound.older old inside
  · intro session member other second same
    rcases listed session member with ⟨old, inside, rfl⟩
    rcases listed other second with ⟨twin, beside, rfl⟩
    rw [(tame old).sessionId, (tame twin).sessionId] at same
    rw [sound.distinct old inside twin beside same]
  · intro hash sessionId found
    rcases sound.current hash sessionId (moved.current hash sessionId found) with
      ⟨old, inside, own, holds⟩
    refine ⟨change old, ?_, (tame old).sessionId.trans own, (tame old).refreshTokenHash.trans holds⟩
    rw [changed]
    exact mem_map_of_mem inside
  · intro hash sessionId found
    rw [moved.used]
    exact sound.retired hash sessionId (moved.current hash sessionId found)
  · intro session member
    rcases listed session member with ⟨old, inside, rfl⟩
    rw [moved.drawn, (tame old).refreshTokenHash]
    exact sound.issued old inside
  · intro hash familyId found
    rw [moved.used] at found
    rw [moved.drawn]
    exact sound.used hash familyId found
  · intro session member hash holds
    rcases listed session member with ⟨old, inside, rfl⟩
    rw [(tame old).previous] at holds
    rw [moved.used, (tame old).tokenFamilyId]
    exact sound.previous old inside hash holds
  · intro session member other second hash holds shared
    rcases listed session member with ⟨old, inside, rfl⟩
    rcases listed other second with ⟨twin, beside, rfl⟩
    rw [(tame old).previous] at holds
    rw [(tame twin).previous] at shared
    rw [sound.sole old inside twin beside hash holds shared]
  · intro session member ciphertext kept
    rcases listed session member with ⟨old, inside, rfl⟩
    rcases (tame old).recovery with same | gone
    · rw [same] at kept
      rw [(tame old).refreshTokenHash]
      exact sound.material old inside ciphertext kept
    · rw [gone] at kept
      cases kept

theorem drew (sound : Sound store) : Sound { store with drawn := store.drawn + 1 } where
  older session member := Nat.lt_succ_of_lt (sound.older session member)
  distinct := sound.distinct
  current := sound.current
  retired := sound.retired
  issued session member := (sound.issued session member).later (Nat.le_succ _)
  used hash familyId found := (sound.used hash familyId found).later (Nat.le_succ _)
  previous := sound.previous
  sole := sound.sole
  material := sound.material

theorem unknown_current (sound : Sound store) :
    store.byCurrentHash.lookup (vault.digest (vault.token store.drawn)) = none := by
  cases found : store.byCurrentHash.lookup (vault.digest (vault.token store.drawn)) with
  | none => rfl
  | some sessionId =>
    rcases sound.current _ sessionId found with ⟨session, member, _, holds⟩
    have issued := sound.issued session member
    rw [holds] at issued
    exact absurd issued (not_issued store.drawn)

theorem unknown_used (sound : Sound store) :
    store.usedHashes.lookup (vault.digest (vault.token store.drawn)) = none := by
  cases found : store.usedHashes.lookup (vault.digest (vault.token store.drawn)) with
  | none => rfl
  | some familyId => exact absurd (sound.used _ familyId found) (not_issued store.drawn)

theorem created (sound : Sound store) (userId : String) (now ttl : Int) :
    Sound (store.createSession userId now ttl).2 := by
  have grows : store.drawn ≤ store.drawn + 3 := Nat.le_add_right _ _
  have fresh : ∀ session ∈ store.sessions, session.sessionId ≠ store.drawn + 1 := by
    intro session member same
    have early := sound.older session member
    rw [same] at early
    exact absurd early (Nat.not_lt.mpr (Nat.le_succ _))
  simp only [AuthSessionStore.createSession]
  constructor
  · intro session member
    rcases mem_append.mp member with old | new
    · exact lt_of_lt_of_le (sound.older session old) grows
    · rw [mem_singleton.mp new]
      exact Nat.lt_succ_of_lt (Nat.lt_succ_self _)
  · intro session member other second same
    rcases mem_append.mp member with old | new
    · rcases mem_append.mp second with twin | newer
      · exact sound.distinct session old other twin same
      · rw [mem_singleton.mp newer] at same
        exact absurd same (fresh session old)
    · rcases mem_append.mp second with twin | newer
      · rw [mem_singleton.mp new] at same
        exact absurd same.symm (fresh other twin)
      · exact (mem_singleton.mp new).trans (mem_singleton.mp newer).symm
  · refine Dict.forall_insert ⟨_, mem_append_right _ (mem_singleton_self _), rfl, rfl⟩
      fun hash sessionId found => ?_
    rcases sound.current hash sessionId found with ⟨session, member, own, holds⟩
    exact ⟨session, mem_append_left _ member, own, holds⟩
  · exact Dict.forall_insert sound.unknown_used sound.retired
  · intro session member
    rcases mem_append.mp member with old | new
    · exact (sound.issued session old).later grows
    · rw [mem_singleton.mp new]
      exact ⟨store.drawn, by dsimp only; omega, rfl⟩
  · intro hash familyId found
    exact (sound.used hash familyId found).later grows
  · intro session member hash holds
    rcases mem_append.mp member with old | new
    · exact sound.previous session old hash holds
    · rw [mem_singleton.mp new] at holds
      cases holds
  · intro session member other second hash holds shared
    rcases mem_append.mp member with old | new
    · rcases mem_append.mp second with twin | newer
      · exact sound.sole session old other twin hash holds shared
      · rw [mem_singleton.mp newer] at shared
        cases shared
    · rw [mem_singleton.mp new] at holds
      cases holds
  · intro session member ciphertext kept
    rcases mem_append.mp member with old | new
    · exact sound.material session old ciphertext kept
    · rw [mem_singleton.mp new] at kept
      cases kept

theorem mem_rotated (sound : Sound store) {session listed : AuthSession vault}
    (own : session ∈ store.sessions) (newHash : String) (ciphertext : vault.Ciphertext)
    (now ttl grace : Int)
    (member : listed ∈ (store.rotated session newHash ciphertext now ttl grace).sessions) :
    (listed ∈ store.sessions ∧ listed.sessionId ≠ session.sessionId) ∨
      listed = session.rotate newHash ciphertext now ttl grace := by
  rcases mem_map.mp member with ⟨old, inside, rfl⟩
  by_cases same : old.sessionId = session.sessionId
  · rw [if_pos same, sound.distinct old inside session own same]
    exact .inr rfl
  · rw [if_neg same]
    exact .inl ⟨inside, same⟩

variable {session : AuthSession vault}

theorem rotate_mem (own : session ∈ store.sessions)
    (newHash : String) (ciphertext : vault.Ciphertext) (now ttl grace : Int) :
    session.rotate newHash ciphertext now ttl grace ∈
      (store.rotated session newHash ciphertext now ttl grace).sessions :=
  mem_map.mpr ⟨session, own, if_pos rfl⟩

theorem rotated (sound : Sound store) (own : session ∈ store.sessions)
    (current : store.byCurrentHash.lookup session.refreshTokenHash = some session.sessionId)
    (now ttl grace : Int) : Sound (store.rotated session (vault.digest (vault.token store.drawn))
      (vault.encrypt (store.drawn + 1) (vault.token store.drawn)) now ttl grace) := by
  have grows : store.drawn ≤ store.drawn + 2 := Nat.le_add_right _ _
  have unused : store.usedHashes.lookup session.refreshTokenHash = none := sound.retired _ _ current
  have different : vault.digest (vault.token store.drawn) ≠ session.refreshTokenHash :=
    (Dict.ne_of_absent sound.unknown_current current).symm
  have unretired : ∀ listed ∈ store.sessions,
      listed.previousRefreshTokenHash ≠ some session.refreshTokenHash := by
    intro listed member holds
    have used := sound.previous listed member _ holds
    rw [unused] at used
    cases used
  have members := fun listed => @mem_rotated vault store sound session listed own
    (vault.digest (vault.token store.drawn))
    (vault.encrypt (store.drawn + 1) (vault.token store.drawn)) now ttl grace
  constructor
  · intro listed member
    rcases members listed member with ⟨old, _⟩ | rfl
    · exact lt_of_lt_of_le (sound.older listed old) grows
    · exact lt_of_lt_of_le (sound.older session own) grows
  · intro listed member other second same
    rcases members listed member with ⟨old, elsewhere⟩ | rfl
    · rcases members other second with ⟨twin, _⟩ | rfl
      · exact sound.distinct listed old other twin same
      · exact absurd same elsewhere
    · rcases members other second with ⟨twin, elsewhere⟩ | rfl
      · exact absurd same.symm elsewhere
      · rfl
  · refine Dict.forall_insert ⟨_, rotate_mem own _ _ _ _ _, rfl, rfl⟩ fun hash sessionId found => ?_
    rcases lookup_of_erase found with ⟨kept, before⟩
    rcases sound.current hash sessionId before with ⟨listed, member, named, holds⟩
    have elsewhere : listed.sessionId ≠ session.sessionId := by
      intro same
      rw [sound.distinct listed member session own same] at holds
      exact kept holds.symm
    exact ⟨listed, mem_map.mpr ⟨listed, member, if_neg elsewhere⟩, named, holds⟩
  · intro hash sessionId found
    simp only [AuthSessionStore.rotated, Dict.lookup_insert_eq] at found ⊢
    split at found
    · next same =>
      rw [same, if_neg different]
      exact sound.unknown_used
    · rcases lookup_of_erase found with ⟨kept, before⟩
      rw [if_neg kept]
      exact sound.retired hash sessionId before
  · intro listed member
    rcases members listed member with ⟨old, _⟩ | rfl
    · exact (sound.issued listed old).later grows
    · exact ⟨store.drawn, Nat.lt_add_of_pos_right Nat.zero_lt_two, rfl⟩
  · exact Dict.forall_insert ((sound.issued session own).later grows) fun hash familyId found =>
      (sound.used hash familyId found).later grows
  · intro listed member hash holds
    simp only [AuthSessionStore.rotated, Dict.lookup_insert_eq]
    rcases members listed member with ⟨old, _⟩ | rfl
    · have apart : hash ≠ session.refreshTokenHash := by
        intro same
        exact unretired listed old (same ▸ holds)
      rw [if_neg apart]
      exact sound.previous listed old hash holds
    · cases holds
      exact if_pos rfl
  · intro listed member other second hash holds shared
    rcases members listed member with ⟨old, _⟩ | rfl
    · rcases members other second with ⟨twin, _⟩ | rfl
      · exact sound.sole listed old other twin hash holds shared
      · cases shared
        exact absurd holds (unretired listed old)
    · rcases members other second with ⟨twin, _⟩ | rfl
      · cases holds
        exact absurd shared (unretired other twin)
      · rfl
  · intro listed member ciphertext kept
    rcases members listed member with ⟨old, _⟩ | rfl
    · exact sound.material listed old ciphertext kept
    · cases kept
      exact ⟨_, vault.decrypt_encrypt _ _, rfl⟩

theorem current_own (sound : Sound store)
    (current : store.byCurrentHash.lookup hash = some session.sessionId)
    (found : store.session session.sessionId = some session) :
    session ∈ store.sessions ∧ session.refreshTokenHash = hash := by
  have own := (session_mem found).1
  rcases sound.current hash session.sessionId current with ⟨listed, member, named, holds⟩
  rw [← sound.distinct listed member session own named]
  exact ⟨member, holds⟩

theorem step (sound : Sound store) {call : Call} (moved : StoreStep store call after) :
    Sound after := by
  cases moved with
  | tame _ _ kept => exact sound.tame kept
  | drew => exact sound.drew
  | created => exact sound.created _ _ _
  | rotated _ now ttl grace _ current found =>
    rcases sound.current_own current found with ⟨own, holds⟩
    rw [← holds] at current
    exact sound.rotated own current now ttl grace

end Sound

section Runs

variable {run : ClockedRun} {e : SessionEvent vault}

theorem event_answer (member : e ∈ run.schedule vault) :
    e.response = (perform vault e.call e.before).1 ∧ e.after = (perform vault e.call e.before).2 :=
  Run.mem_trace_performed member

theorem event_step (member : e ∈ run.schedule vault) : StoreStep e.before e.call e.after := by
  rw [(event_answer member).2]
  exact perform_step e.call e.before

theorem event_sound (member : e ∈ run.schedule vault) : Sound e.before ∧ Sound e.after := by
  refine Run.kept_trace (perform vault) Sound {} run.calls ?_ Sound.opening e member
  intro other inside before
  exact before.step (event_step inside)

end Runs

end BackendHandbook.Refresh
