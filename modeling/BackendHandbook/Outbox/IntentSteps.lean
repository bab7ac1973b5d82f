import BackendHandbook.Outbox.AcceptedOnce

/-! What one call can do to the row of one intent. -/

namespace BackendHandbook.Outbox

open Run InMemoryJobStore List

def InMemoryJobStore.intentRow (store : InMemoryJobStore) (outboxEventId : Uuid) :
    Option OutboxRow :=
  store.outbox.find? (·.outboxEventId = outboxEventId)

def records (outboxEventId : Uuid) : Fact → Bool
  | ⟨.recordTransportFailure own .., .ok _⟩ => own = outboxEventId
  | _ => false

inductive RowStep (row : OutboxRow) : Fact → OutboxRow → Prop
  | same (fact : Fact) (unrecorded : records row.outboxEventId fact = false) :
      RowStep row fact row
  | claimed (ownerToken : String) (now holdTtl : Seconds) (batchSize : Int) (claimed : List Uuid)
      (claimable : row.claimable ownerToken now = true) (listed : row.outboxEventId ∈ claimed) :
      RowStep row ⟨.claimOutboxBatch ownerToken now holdTtl batchSize, .ok claimed⟩
        (row.heldBy ownerToken (now + holdTtl))
  | failed (ownerToken typeName : String) (nextAttemptAt : Seconds) (maxAttempts : Int)
      (now : Seconds) (live : row.requireLiveLease ownerToken now = .ok ()) :
      RowStep row
        ⟨.recordTransportFailure row.outboxEventId ownerToken typeName nextAttemptAt maxAttempts now,
          .ok (OutboxRow.failedBy typeName nextAttemptAt maxAttempts row).state⟩
        (OutboxRow.failedBy typeName nextAttemptAt maxAttempts row)
  | published (ownerToken : String) (now : Seconds) (unpublished : row.state ≠ .published)
      (live : row.requireLiveLease ownerToken now = .ok ()) :
      RowStep row ⟨.checkpointPublishedIfOwner row.outboxEventId ownerToken now, .ok ()⟩
        (OutboxRow.publishedBy now row)

section Rows

variable {store : InMemoryJobStore} {outboxEventId : Uuid} {row : OutboxRow}

theorem intentRow_id (found : store.intentRow outboxEventId = some row) :
    row.outboxEventId = outboxEventId := by
  have own := find?_some found
  exact of_decide_eq_true own

theorem find_own (rows : List OutboxRow) (own : row.outboxEventId = outboxEventId) :
    (row :: rows).find? (·.outboxEventId = outboxEventId) = some row := by
  simp [own]

theorem find_other (rows : List OutboxRow) (other : row.outboxEventId ≠ outboxEventId) :
    (row :: rows).find? (·.outboxEventId = outboxEventId) =
      rows.find? (·.outboxEventId = outboxEventId) := by
  simp [other]

theorem outboxRow_eq (outboxEventId : Uuid) : store.outboxRow outboxEventId =
    match store.intentRow outboxEventId with
    | none => .error (.keyError outboxEventId)
    | some row => .ok row :=
  rfl

theorem intentRow_of_outboxRow (found : store.outboxRow outboxEventId = .ok row) :
    store.intentRow outboxEventId = some row := by
  rw [outboxRow_eq] at found
  cases listed : store.intentRow outboxEventId with
  | none =>
    rw [listed] at found
    cases found
  | some =>
    rw [listed] at found
    exact congrArg some (Except.ok.inj found)

theorem intentRow_of_mem (distinct : (store.identities.map Prod.fst).Nodup)
    (member : row ∈ store.outbox) : store.intentRow row.outboxEventId = some row := by
  rcases mem_iff_append.mp member with ⟨front, back, split⟩
  rw [intentRow, split, find?_append]
  have earlier : front.find? (·.outboxEventId = row.outboxEventId) = none := by
    rw [find?_eq_none]
    intro other inside same
    rw [identities, split, map_map, map_append, nodup_append]
      at distinct
    exact distinct.2.2 _ (mem_map_of_mem inside) _ (mem_map_of_mem mem_cons_self)
      (of_decide_eq_true same)
  rw [earlier, Option.none_or, find_own back rfl]

theorem intentRow_updateRow (other : Uuid) (change : OutboxRow → OutboxRow)
    (same : ∀ row, (change row).outboxEventId = row.outboxEventId) :
    (store.updateRow other change).intentRow outboxEventId =
      (store.intentRow outboxEventId).map fun row =>
        if row.outboxEventId = other then change row else row := by
  simp only [intentRow, updateRow, find?_map]
  congr 2
  funext row
  simp only [Function.comp_apply]
  split
  · rw [same]
  · rfl

/-- What a scan makes of the row: it is as it was, or it has been claimed. -/
theorem find_claimRows (outboxEventId : Uuid) (ownerToken : String) (now holdTtl : Seconds)
    (batchSize : Int) (claimed : Nat) (rows : List OutboxRow) :
    ((claimRows ownerToken now holdTtl batchSize claimed rows).2.find?
        (·.outboxEventId = outboxEventId) = rows.find? (·.outboxEventId = outboxEventId)) ∨
      ∃ row, rows.find? (·.outboxEventId = outboxEventId) = some row ∧
        row.claimable ownerToken now = true ∧ outboxEventId ∈
          (claimRows ownerToken now holdTtl batchSize claimed rows).1 ∧
        (claimRows ownerToken now holdTtl batchSize claimed rows).2.find?
          (·.outboxEventId = outboxEventId) = some (row.heldBy ownerToken (now + holdTtl)) := by
  induction rows generalizing claimed with
  | nil => exact .inl rfl
  | cons row rows ih =>
    unfold claimRows
    by_cases own : row.outboxEventId = outboxEventId
    · by_cases claimable : row.claimable ownerToken now = true
      · refine .inr ⟨row, find_own rows own, claimable, ?_⟩
        rw [if_pos claimable]
        split
        · exact ⟨by rw [own]; exact mem_cons_self, find_own _ own⟩
        · exact ⟨by rw [own]; exact mem_cons_self, find_own _ own⟩
      · rw [if_neg claimable]
        exact .inl ((find_own _ own).trans (find_own rows own).symm)
    · rw [find_other rows own]
      split
      · split
        · exact .inl (find_other _ own)
        · rw [@find_other _ (row.heldBy ownerToken (now + holdTtl)) _ own]
          rcases ih (claimed + 1) with kept | ⟨held, found, claimable, listed, written⟩
          · exact .inl kept
          · exact .inr ⟨held, found, claimable, mem_cons_of_mem _ listed, written⟩
      · rcases ih claimed with kept | ⟨held, found, claimable, listed, written⟩
        · exact .inl ((find_other _ own).trans kept)
        · exact .inr ⟨held, found, claimable, listed, (find_other _ own).trans written⟩

variable {rows : List OutboxRow} {ownerToken : String}

theorem claimRows_complete {now : Seconds} (holdTtl : Seconds)
    (batchSize : Int) (claimed : Nat) (member : row ∈ rows)
    (claimable : row.claimable ownerToken now = true) :
    row.outboxEventId ∈ (claimRows ownerToken now holdTtl batchSize claimed rows).1 ∨
      batchSize ≤ claimed + (claimRows ownerToken now holdTtl batchSize claimed rows).1.length := by
  induction rows generalizing claimed with
  | nil => cases member
  | cons first _ ih =>
    unfold claimRows
    by_cases taken : first.claimable ownerToken now = true
    · rw [if_pos taken]
      split
      · next full =>
        refine .inr ?_
        exact full
      · rcases mem_cons.mp member with rfl | later
        · exact .inl mem_cons_self
        · rcases ih (claimed + 1) later with listed | full
          · exact .inl (mem_cons_of_mem _ listed)
          · simp only [length_cons]
            omega
    · rw [if_neg taken]
      rcases mem_cons.mp member with rfl | later
      · exact absurd claimable taken
      · exact ih claimed later

theorem mem_claimRows {now holdTtl : Seconds} {batchSize : Int}
    {claimed : Nat} (listed : outboxEventId ∈
      (claimRows ownerToken now holdTtl batchSize claimed rows).1) :
    ∃ row ∈ (claimRows ownerToken now holdTtl batchSize claimed rows).2,
      row.outboxEventId = outboxEventId ∧ row.relayOwner = some ownerToken := by
  induction rows generalizing claimed with
  | nil => cases listed
  | cons _ _ ih =>
    unfold claimRows at listed ⊢
    split at listed
    · next taken =>
      rw [if_pos taken]
      split at listed
      · next full =>
        rw [if_pos full]
        rw [mem_singleton.mp listed]
        exact ⟨_, mem_cons_self, rfl, rfl⟩
      · next room =>
        rw [if_neg room]
        rcases mem_cons.mp listed with rfl | later
        · exact ⟨_, mem_cons_self, rfl, rfl⟩
        · rcases ih later with ⟨row, inside, own, held⟩
          exact ⟨row, mem_cons_of_mem _ inside, own, held⟩
    · next left =>
      rw [if_neg left]
      rcases ih listed with ⟨row, inside, own, held⟩
      exact ⟨row, mem_cons_of_mem _ inside, own, held⟩

end Rows

section Events

variable {transport : Transport} {world : World} {outboxEventId : Uuid} {row : OutboxRow}

theorem perform_row (call : Call) (found : world.store.intentRow outboxEventId = some row) :
    ∃ later, (perform transport call world).2.store.intentRow outboxEventId = some later ∧
      RowStep row ⟨call, (perform transport call world).1⟩ later := by
  have own := intentRow_id found
  cases call with
  | acquire =>
    rw [perform]
    split
    · exact ⟨row, found, .same _ rfl⟩
    · exact ⟨row, found, .same _ rfl⟩
  | putIntent =>
    refine ⟨row, ?_, .same _ rfl⟩
    simp only [perform, World.withStore, intentRow, find?_append]
    rw [intentRow] at found
    rw [found]
    rfl
  | claimOutboxBatch ownerToken now holdTtl batchSize =>
    rcases find_claimRows outboxEventId ownerToken now holdTtl batchSize 0
      world.store.outbox with kept | ⟨_, listed, claimable, claimed, written⟩
    · exact ⟨row, kept.trans found, .same _ rfl⟩
    · cases found.symm.trans listed
      refine ⟨_, written, .claimed ownerToken now holdTtl batchSize _ claimable ?_⟩
      rw [own]
      exact claimed
  | recordTransportFailure other ownerToken typeName nextAttemptAt maxAttempts now =>
    simp only [perform, World.withStore]
    rcases recordTransportFailure_cases world.store other ownerToken typeName nextAttemptAt
      maxAttempts now with ⟨_, refused⟩ | ⟨stored, listed, live, recorded⟩
    · rw [refused]
      exact ⟨row, found, .same _ rfl⟩
    · rw [recorded]
      rw [intentRow_updateRow other (OutboxRow.failedBy typeName nextAttemptAt maxAttempts)
        (fun _ => rfl), found]
      by_cases same : row.outboxEventId = other
      · have there := intentRow_of_outboxRow listed
        rw [← same, own, found] at there
        cases there
        rw [← same]
        exact ⟨_, by rw [Option.map_some, if_pos rfl],
          .failed ownerToken typeName nextAttemptAt maxAttempts now live⟩
      · refine ⟨row, by rw [Option.map_some, if_neg same], .same _ ?_⟩
        exact decide_eq_false fun equal => same equal.symm
  | checkpointPublishedIfOwner other ownerToken now =>
    simp only [perform, World.withStore]
    rcases checkpointPublishedIfOwner_cases world.store other ownerToken now with
      ⟨_, kept⟩ | ⟨_, listed, unpublished, live, written⟩
    · rw [kept]
      exact ⟨row, found, .same _ rfl⟩
    · rw [written]
      rw [intentRow_updateRow other (OutboxRow.publishedBy now) (fun _ => rfl), found]
      by_cases same : row.outboxEventId = other
      · have there := intentRow_of_outboxRow listed
        rw [← same, own, found] at there
        cases there
        rw [← same]
        exact ⟨_, by rw [Option.map_some, if_pos rfl], .published ownerToken now unpublished live⟩
      · exact ⟨row, by rw [Option.map_some, if_neg same], .same _ rfl⟩
  | _ => exact ⟨row, found, .same _ rfl⟩

theorem perform_unrecorded (call : Call) (absent : world.store.intentRow outboxEventId = none) :
    records outboxEventId ⟨call, (perform transport call world).1⟩ = false := by
  cases call with
  | recordTransportFailure other ownerToken typeName nextAttemptAt maxAttempts now =>
    simp only [perform]
    rcases recordTransportFailure_cases world.store other ownerToken typeName nextAttemptAt
      maxAttempts now with ⟨_, refused⟩ | ⟨_, listed, _, recorded⟩
    · rw [refused]
      rfl
    · rw [recorded]
      apply decide_eq_false
      rintro rfl
      cases absent.symm.trans (intentRow_of_outboxRow listed)
  | _ => rfl

/-- A row that was not there is an intent that has just been put. -/
theorem perform_new (call : Call) (absent : world.store.intentRow outboxEventId = none)
    (found : (perform transport call world).2.store.intentRow outboxEventId = some row) :
    call = .putIntent row := by
  cases call with
  | acquire =>
    rw [perform] at found
    split at found
    · cases absent.symm.trans found
    · cases absent.symm.trans found
  | putIntent =>
    simp only [perform, World.withStore, intentRow, find?_append] at found
    rw [intentRow] at absent
    rw [absent] at found
    have inside := mem_of_find?_eq_some found
    rw [mem_singleton.mp inside]
  | claimOutboxBatch ownerToken now holdTtl batchSize =>
    rcases find_claimRows outboxEventId ownerToken now holdTtl batchSize 0
      world.store.outbox with kept | ⟨_, listed, _⟩
    · cases absent.symm.trans (kept.symm.trans found)
    · cases absent.symm.trans listed
  | recordTransportFailure other ownerToken typeName nextAttemptAt maxAttempts now =>
    simp only [perform, World.withStore] at found
    rcases recordTransportFailure_cases world.store other ownerToken typeName nextAttemptAt
      maxAttempts now with ⟨_, refused⟩ | ⟨stored, listed, live, recorded⟩
    · rw [refused] at found
      cases absent.symm.trans found
    · rw [recorded] at found
      rw [intentRow_updateRow other (OutboxRow.failedBy typeName nextAttemptAt maxAttempts)
        (fun _ => rfl), absent] at found
      cases found
  | checkpointPublishedIfOwner other ownerToken now =>
    simp only [perform, World.withStore] at found
    rcases checkpointPublishedIfOwner_cases world.store other ownerToken now with
      ⟨_, kept⟩ | ⟨_, _, _, _, written⟩
    · rw [kept] at found
      cases absent.symm.trans found
    · rw [written] at found
      rw [intentRow_updateRow other (OutboxRow.publishedBy now) (fun _ => rfl), absent] at found
      cases found
  | _ => cases absent.symm.trans found

end Events

end BackendHandbook.Outbox
