import BackendHandbook.Foundation.Fallible
import BackendHandbook.Foundation.Sorting
import BackendHandbook.Retrieval.Contracts

/-! Rank-only fusion: each branch is renumbered over all its pages, then the ranks of one
occurrence in the two branches are fused. -/

namespace BackendHandbook.Retrieval

open Fallible Sorting List

/-- Keep the best raw score of each occurrence in each branch, where it first appeared. -/
def keepBest (best : List BranchCandidate) (candidate : BranchCandidate) : List BranchCandidate :=
  match best with
  | [] => [candidate]
  | current :: rest =>
    if current.branch = candidate.branch ∧ current.identity.key = candidate.identity.key then
      (if current.rawScore < candidate.rawScore then candidate else current) :: rest
    else current :: keepBest rest candidate

def BranchCandidate.order (candidate : BranchCandidate) : ℚ ×ₗ String :=
  toLex (-candidate.rawScore, candidate.identity.occurrenceId)

def normalizeBranchRanks (candidates : List BranchCandidate) : List BranchCandidate :=
  let best := candidates.foldl keepBest []
  [RetrievalBranch.lexical, RetrievalBranch.dense].flatMap fun branch =>
    ((sortBy BranchCandidate.order (best.filter fun item => item.branch == branch)).zipIdx 1).map
      fun entry => { entry.1 with branchRank := entry.2 }

inductive FusionError
  | occurrenceIdentityConflict
  deriving DecidableEq

structure FusionGroup where
  identity : CandidateIdentity
  (lexical dense : Option BranchCandidate)

namespace FusionGroup

def improve (existing : Option BranchCandidate) (candidate : BranchCandidate) :
    Option BranchCandidate :=
  match existing with
  | none => some candidate
  | some current => if candidate.branchRank < current.branchRank then candidate else current

def absorb (group : FusionGroup) (candidate : BranchCandidate) : FusionGroup :=
  match candidate.branch with
  | .lexical => { group with lexical := improve group.lexical candidate }
  | .dense => { group with dense := improve group.dense candidate }

/-- Sorted by branch value: `"DENSE" < "LEXICAL"`. -/
def ordered (group : FusionGroup) : List BranchCandidate :=
  group.dense.toList ++ group.lexical.toList

def weight (policy : FusionPolicy) : RetrievalBranch → ℚ
  | .lexical => policy.lexicalWeight
  | .dense => policy.denseWeight

def fused (policy : FusionPolicy) (group : FusionGroup) : FusedCandidate :=
  { identity := group.identity
    rrfScore := group.ordered.foldl
      (fun score item => score + weight policy item.branch / (policy.rrfK + item.branchRank)) 0
    bestBranchRank := ((group.ordered.map BranchCandidate.branchRank).min?).getD 0
    branchCandidates := group.ordered }

end FusionGroup

def absorbCandidate (groups : List FusionGroup) (candidate : BranchCandidate) :
    Except FusionError (List FusionGroup) :=
  match groups with
  | [] => .ok [(FusionGroup.mk candidate.identity none none).absorb candidate]
  | group :: rest =>
    if group.identity.key = candidate.identity.key then
      if group.identity ≠ candidate.identity then .error .occurrenceIdentityConflict
      else .ok (group.absorb candidate :: rest)
    else (absorbCandidate rest candidate).map (group :: ·)

def FusedCandidate.order (candidate : FusedCandidate) : ℚ ×ₗ ℕ ×ₗ String :=
  toLex (-candidate.rrfScore, toLex (candidate.bestBranchRank, candidate.identity.occurrenceId))

def reciprocalRankFusion (policy : FusionPolicy) (candidates : List BranchCandidate) :
    Except FusionError (List FusedCandidate) := do
  let groups ← candidates.foldlM absorbCandidate []
  pure (sortBy FusedCandidate.order (groups.map (FusionGroup.fused policy)))

variable {fused : List FusedCandidate} {policy : FusionPolicy}

section Keys

theorem FusionGroup.absorb_identity (group : FusionGroup) (candidate : BranchCandidate) :
    (group.absorb candidate).identity = group.identity := by
  unfold absorb
  split <;> rfl

variable {groups after : List FusionGroup} {candidate : BranchCandidate}

theorem keys_absorbCandidate (absorbed : absorbCandidate groups candidate = .ok after) :
    after.map (fun group => group.identity.key) =
      if candidate.identity.key ∈ groups.map (fun group => group.identity.key) then
        groups.map (fun group => group.identity.key)
      else groups.map (fun group => group.identity.key) ++ [candidate.identity.key] := by
  induction groups generalizing after with
  | nil =>
    cases absorbed
    simp [FusionGroup.absorb_identity]
  | cons group rest ih =>
    simp only [absorbCandidate] at absorbed
    split at absorbed
    · next same =>
      split at absorbed
      · cases absorbed
      · cases absorbed
        simp [FusionGroup.absorb_identity, same]
    · next different =>
      cases inner : absorbCandidate rest candidate with
      | error => rw [inner] at absorbed; cases absorbed
      | ok =>
        rw [inner] at absorbed
        cases absorbed
        have keys := ih inner
        have apart : ¬ candidate.identity.key = group.identity.key := Ne.symm different
        simp only [map_cons, keys, mem_cons, apart, false_or]
        split <;> rfl

theorem keys_absorb_nodup (absorbed : absorbCandidate groups candidate = .ok after)
    (distinct : (groups.map fun group => group.identity.key).Nodup) :
    (after.map fun group => group.identity.key).Nodup := by
  rw [keys_absorbCandidate absorbed]
  split
  · exact distinct
  · next absent =>
    have single : [candidate.identity.key].Nodup := nodup_singleton _
    apply nodup_append.mpr ⟨distinct, single, ?_⟩
    intro key inside other last same
    rw [mem_singleton.mp last] at same
    exact absent (same ▸ inside)

theorem fused_keys_nodup {candidates : List BranchCandidate}
    (done : reciprocalRankFusion policy candidates = .ok fused) :
    (fused.map fun item => item.identity.occurrenceId).Nodup := by
  rcases bind_eq_ok.mp done with ⟨groups, folded, built⟩
  cases built
  have distinct : (groups.map fun group => group.identity.key).Nodup :=
    foldlM_kept (fun groups => (groups.map fun group => group.identity.key).Nodup)
      (fun _ _ _ _ kept absorbed => keys_absorb_nodup absorbed kept) nodup_nil folded
  have perm := (sortBy_perm FusedCandidate.order
    (groups.map (FusionGroup.fused policy))).map fun item => item.identity.occurrenceId
  rw [perm.nodup_iff, map_map]
  exact distinct

end Keys

section Coherence

/-- One occurrence has one identity. -/
def Coherent (candidates : List BranchCandidate) : Prop :=
  ∀ first ∈ candidates, ∀ second ∈ candidates,
    first.identity.key = second.identity.key → first.identity = second.identity

variable {candidate item : BranchCandidate}

theorem mem_keepBest {best : List BranchCandidate}
    (member : item ∈ keepBest best candidate) : item ∈ best ∨ item = candidate := by
  induction best with
  | nil => exact .inr (mem_singleton.mp member)
  | cons _ _ ih =>
    unfold keepBest at member
    split at member
    · rcases mem_cons.mp member with here | later
      · split at here
        · exact .inr here
        · exact .inl (here ▸ mem_cons_self)
      · exact .inl (mem_cons_of_mem _ later)
    · rcases mem_cons.mp member with here | later
      · exact .inl (here ▸ mem_cons_self)
      · rcases ih later with inside | last
        · exact .inl (mem_cons_of_mem _ inside)
        · exact .inr last

theorem mem_foldl_keepBest {candidates best : List BranchCandidate}
    (member : item ∈ candidates.foldl keepBest best) : item ∈ best ∨ item ∈ candidates := by
  induction candidates generalizing best with
  | nil => exact .inl member
  | cons _ _ ih =>
    rcases ih member with kept | later
    · rcases mem_keepBest kept with inside | here
      · exact .inl inside
      · exact .inr (here ▸ mem_cons_self)
    · exact .inr (mem_cons_of_mem _ later)

variable {candidates : List BranchCandidate}

theorem mem_normalizeBranchRanks (member : item ∈ normalizeBranchRanks candidates) :
    ∃ original ∈ candidates, item.identity = original.identity := by
  rcases mem_flatMap.mp member with ⟨branch, _, inside⟩
  rcases mem_map.mp inside with ⟨⟨original, _⟩, numbered, same⟩
  have chosen : original ∈ (candidates.foldl keepBest []).filter fun item =>
      item.branch == branch := by
    have sorted_ := fst_mem_of_mem_zipIdx numbered
    exact (mem_sortBy _ _ _).mp sorted_
  rcases mem_foldl_keepBest (mem_filter.mp chosen).1 with absurd_ | present
  · cases absurd_
  · exact ⟨original, present, by rw [← same]⟩

variable {groups : List FusionGroup}

/-- A group after an absorption is one of the groups before it, or names the candidate. -/
theorem mem_absorbCandidate {after : List FusionGroup}
    (absorbed : absorbCandidate groups candidate = .ok after) :
    ∀ group ∈ after, group.identity = candidate.identity ∨
      ∃ old ∈ groups, group.identity = old.identity := by
  induction groups generalizing after with
  | nil =>
    cases absorbed
    intro group member
    rw [mem_singleton.mp member, FusionGroup.absorb_identity]
    exact .inl rfl
  | cons head rest ih =>
    intro group member
    simp only [absorbCandidate] at absorbed
    split at absorbed
    · split at absorbed
      · cases absorbed
      · cases absorbed
        rcases mem_cons.mp member with here | later
        · rw [here, FusionGroup.absorb_identity]
          exact .inr ⟨head, mem_cons_self, rfl⟩
        · exact .inr ⟨group, mem_cons_of_mem _ later, rfl⟩
    · cases inner : absorbCandidate rest candidate with
      | error => rw [inner] at absorbed; cases absorbed
      | ok =>
        rw [inner] at absorbed
        cases absorbed
        rcases mem_cons.mp member with here | later
        · exact .inr ⟨head, mem_cons_self, by rw [here]⟩
        · rcases ih inner group later with new | ⟨old, inside, same⟩
          · exact .inl new
          · exact .inr ⟨old, mem_cons_of_mem _ inside, same⟩

theorem absorbCandidate_total
    (agree : ∀ group ∈ groups, group.identity.key = candidate.identity.key →
      group.identity = candidate.identity) :
    ∃ after, absorbCandidate groups candidate = .ok after := by
  induction groups with
  | nil => exact ⟨_, rfl⟩
  | cons head _ ih =>
    simp only [absorbCandidate]
    split
    · next same =>
      have identical := agree head mem_cons_self same
      simp only [identical, ne_eq]
      exact ⟨_, rfl⟩
    · rcases ih fun group member => agree group (mem_cons_of_mem _ member) with ⟨_, done⟩
      rw [done]
      exact ⟨_, rfl⟩

def NamedIn (candidates : List BranchCandidate) (groups : List FusionGroup) : Prop :=
  ∀ group ∈ groups, ∃ candidate ∈ candidates, group.identity = candidate.identity

theorem NamedIn.absorb {before after : List FusionGroup} (named : NamedIn candidates before)
    (inside : candidate ∈ candidates)
    (absorbed : absorbCandidate before candidate = .ok after) : NamedIn candidates after := by
  intro group member
  rcases mem_absorbCandidate absorbed group member with new | ⟨old, present, same⟩
  · exact ⟨candidate, inside, new⟩
  · rcases named old present with ⟨original, source, identical⟩
    exact ⟨original, source, same.trans identical⟩

theorem namedIn_nil (candidates : List BranchCandidate) : NamedIn candidates [] := by
  intro group member
  cases member

theorem mem_reciprocalRankFusion (done : reciprocalRankFusion policy candidates = .ok fused) :
    ∀ item ∈ fused, ∃ candidate ∈ candidates, item.identity = candidate.identity := by
  rcases bind_eq_ok.mp done with ⟨groups, folded, built⟩
  cases built
  have named : NamedIn candidates groups :=
    foldlM_kept (NamedIn candidates)
      (fun _ _ _ inside kept absorbed => kept.absorb inside absorbed) (namedIn_nil candidates)
      folded
  intro item member
  rcases mem_map.mp ((mem_sortBy _ _ _).mp member) with ⟨group, inside, rfl⟩
  exact named group inside

theorem fusion_total (policy : FusionPolicy) (coherent : Coherent candidates) :
    ∃ fused, reciprocalRankFusion policy candidates = .ok fused := by
  have absorbs : ∀ before candidate, candidate ∈ candidates → NamedIn candidates before →
      ∃ after, absorbCandidate before candidate = .ok after ∧ NamedIn candidates after := by
    intro before candidate inside named
    obtain ⟨after, done⟩ := absorbCandidate_total (by
      intro group member same
      obtain ⟨original, present, identical⟩ := named group member
      rw [identical] at same ⊢
      exact coherent original present candidate inside same)
    exact ⟨after, done, named.absorb inside done⟩
  rcases foldlM_total (NamedIn candidates) absorbs
    (namedIn_nil candidates) with ⟨groups, folded, _⟩
  exact ⟨_, bind_eq_ok.mpr ⟨groups, folded, rfl⟩⟩

end Coherence

end BackendHandbook.Retrieval
