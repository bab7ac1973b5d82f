import BackendHandbook.Authorization.Service
import BackendHandbook.Embedding.Contracts
import BackendHandbook.Foundation.Operations

/-! The guarded reader of protected chunks, and the system of authorizations, reads and changes
that interleave call by call. -/

namespace BackendHandbook.Authorization

open Chunking Interleaving Text
open Embedding (AuthorizedChunkView)

inductive GuardedReadOutcome
  | released | denied | indeterminate
  deriving DecidableEq

structure GuardedReadResult where
  outcome : GuardedReadOutcome
  (internalReasonCode safeExternalMessage : String)
  externalStatus : Nat
  decisionId : String
  chunks : List AuthorizedChunkView := []
  released_iff : outcome = .released ↔ chunks ≠ []

deriving instance DecidableEq for PermitClaims, SignedPermit

inductive ReadRaised
  | valueError (message : String)
  | keyError (key : String)

namespace GuardedChunkReader

def deny (permit : SignedPermit) (reason : String) : Except ReadRaised GuardedReadResult :=
  .ok
    { outcome := .denied
      internalReasonCode := reason, safeExternalMessage := "Resource not found or inaccessible"
      externalStatus := 404, decisionId := permit.claims.decisionId
      released_iff := by simp }

def indeterminate (permit : SignedPermit) : Except ReadRaised GuardedReadResult :=
  .ok
    { outcome := .indeterminate, internalReasonCode := "AUTHORIZATION_STATE_UNAVAILABLE"
      safeExternalMessage := "Service unavailable", externalStatus := 503
      decisionId := permit.claims.decisionId
      released_iff := by simp }

/-- What is shown of a chunk. -/
def view (chunk : Chunk) : AuthorizedChunkView :=
  { chunkId := chunk.chunkId
    text := chunk.candidate.text, contentHash := chunk.candidate.contentHash
    sourceSegments := chunk.candidate.sourceSegments }

/-- `by_id`: of several chunks with one id, the last. -/
def viewById (chunkSet : ChunkSet) (chunkId : String) : Except ReadRaised AuthorizedChunkView :=
  match chunkSet.chunks.reverse.find? (·.chunkId = chunkId) with
  | some chunk => .ok (view chunk)
  | none => .error (.keyError chunkId)

def release (permit : SignedPermit) (chunkSet : ChunkSet) : Except ReadRaised GuardedReadResult :=
  match permit.claims.chunkIds.mapM (viewById chunkSet) with
  | .error raised => .error raised
  | .ok chunks =>
    if carried : chunks ≠ [] then
      .ok
        { outcome := .released, internalReasonCode := "PERMIT_AND_CURRENT_STATE_VALID"
          safeExternalMessage := "Authorized", externalStatus := 200
          decisionId := permit.claims.decisionId
          chunks
          released_iff := by simp [carried] }
    else .error (.valueError "only a released read carries protected Chunk views")

def BoundTo (claims : PermitClaims) (binding : CurrentRAGBinding) : Prop :=
  binding.version.documentVersionId = claims.documentVersionId ∧
    (binding.selectionRevision : Int) = claims.selectionRevision ∧
    (binding.documentStateVersion : Int) = claims.documentStateVersion ∧
    (binding.documentFence : Int) = claims.documentFence ∧ claims.chunkIds ⊆ binding.chunkIds
  deriving Decidable

/-- The checks of membership and policy, the use of the permit, and the release. -/
def readCurrent (permit : SignedPermit) (chunkSet : ChunkSet) :
    AuthorizationProgram (Except ReadRaised GuardedReadResult) :=
  let claims := permit.claims
  .call (.readMembership claims.tenantId claims.subject) fun membership =>
  match membership with
  | .error _ => .done (indeterminate permit)
  | .ok membership =>
  .call (.readPolicy claims.tenantId claims.documentId) fun policy =>
  match policy with
  | .error _ => .done (indeterminate permit)
  | .ok policy =>
  match membership, policy with
  | some membership, some policy =>
    if membership.active = false then .done (deny permit "CURRENT_AUTHORIZATION_NOT_ACCESSIBLE")
    else if AuthorizationRevisionVector.current policy membership ≠ claims.revisions then
      .done (deny permit "PERMIT_AUTHORIZATION_REVISION_MISMATCH")
    else
      .call (.consumeOnce claims.permitId) fun (consumed : Bool) =>
      if consumed then .done (release permit chunkSet)
      else .done (deny permit "PERMIT_ALREADY_CONSUMED")
  | _, _ => .done (deny permit "CURRENT_AUTHORIZATION_NOT_ACCESSIBLE")

def chunkSet (provenance : ProvenanceDecision) (valid : provenance.outcome = .valid) : ChunkSet :=
  provenance.chunkSet.get (provenance.valid_iff.mp valid).2.2

def read (issuer : PermitIssuer) (permit : SignedPermit) (principal : AuthenticatedPrincipal)
    (expectedAction expectedAudience expectedPurpose : String) :
    AuthorizationProgram (Except ReadRaised GuardedReadResult) :=
  let claims := permit.claims
  if issuer.verifySignature permit = false then .done (deny permit "PERMIT_SIGNATURE_INVALID")
  else if claims.subject ≠ principal.subject ∨ claims.action ≠ expectedAction ∨
      claims.audience ≠ expectedAudience ∨ claims.purpose ≠ expectedPurpose then
    .done (deny permit "PERMIT_CONTEXT_BINDING_MISMATCH")
  else
  .call .clock fun (now : Int) =>
  if now < claims.issuedAt ∨ claims.expiresAt ≤ now then
    .done (deny permit "PERMIT_EXPIRED_OR_NOT_YET_VALID")
  else if principal.expired now then .done (deny permit "AUTHENTICATED_PRINCIPAL_EXPIRED")
  else if nonEmpty : requireNonEmpty [claims.tenantId, claims.documentId] = true then
    .call (.provenance ⟨claims.tenantId, claims.documentId, nonEmpty⟩ (some claims.chunkSetId))
      fun provenance =>
    match provenance with
    | .error (.valueError message) => .done (.error (.valueError message))
    | .ok provenance =>
      if valid : provenance.outcome = .valid then
        if BoundTo claims (provenance.current valid) then
          readCurrent permit (chunkSet provenance valid)
        else .done (deny permit "PERMIT_RESOURCE_REVISION_MISMATCH")
      else .done (deny permit "CURRENT_RESOURCE_BINDING_CHANGED")
  else .done (.error (.valueError "identity and contract values must not be empty"))

end GuardedChunkReader

/-- What the parties do. -/
inductive Operation
  | authorize (cached : Bool) (request : AuthorizationRequest)
  | read (permit : SignedPermit) (principal : AuthenticatedPrincipal)
      (expectedAction expectedAudience expectedPurpose : String)
  | change (change : Change)

inductive OperationResult
  | authorized (answer : Except ProvenanceRaised AuthorizationResult)
  | read (answer : Except ReadRaised GuardedReadResult)
  | changed

section System

variable (config : AuthorizationConfig)

def Operation.program : Operation → AuthorizationProgram OperationResult
  | .authorize cached request =>
    (RAGAuthorizationService.authorize config cached request).map .authorized
  | .read permit principal expectedAction expectedAudience expectedPurpose =>
    (GuardedChunkReader.read config.issuer permit principal expectedAction expectedAudience
      expectedPurpose).map .read
  | .change made => .call (.change made) fun _ => .done .changed

abbrev AuthorizationTurn := Turn Call Answer Unit (fun _ => String) OperationResult

abbrev AuthorizationMove := Move Operation Unit fun _ => String

abbrev authorizationTurns (moves : List AuthorizationMove) : List AuthorizationTurn :=
  turns (Operation.program config) moves

variable (start : AuthorizationState)

abbrev reachedBy (moves : List AuthorizationMove) :
    Pool AuthorizationState Call Answer Unit (fun _ => String) OperationResult :=
  reached (Operation.program config) (AuthorizationState.perform config) start moves

abbrev stateAt (front : List AuthorizationTurn) : AuthorizationState :=
  stateBehind (AuthorizationState.perform config) start front

abbrev CallsAt (moves : List AuthorizationMove) (index : Nat)
    (front : List AuthorizationTurn) (call : Call) : Prop :=
  PerformsAt (Operation.program config) (AuthorizationState.perform config) start moves index front
    call

abbrev authorizationTrace (moves : List AuthorizationMove) :
    List (Run.Event AuthorizationState Call Answer) :=
  systemTrace (Operation.program config) (AuthorizationState.perform config) start moves

def presents : AuthorizationMove → Option SignedPermit
  | .start (.read permit _ _ _ _) => some permit
  | _ => none

def issuedPermit : AuthorizationProgram OperationResult → Option SignedPermit
  | .done (.authorized (.ok result)) => result.permit
  | _ => none

def releasedViews : AuthorizationProgram OperationResult → Option (List AuthorizedChunkView)
  | .done (.read (.ok result)) => if result.outcome = .released then some result.chunks else none
  | _ => none

end System

end BackendHandbook.Authorization
