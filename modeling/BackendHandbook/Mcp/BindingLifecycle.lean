import BackendHandbook.Foundation.Run
import BackendHandbook.Mcp.Boundary
import Mathlib.Data.List.Induction

/-! The life of a request binding, under every order of dispatches, responses and aborts. -/

namespace BackendHandbook.Mcp

open Run MCPProtocolBoundary MCPProtocolBoundary

inductive BoundaryCall
  | dispatch (request : MCPRequestDTO) (applicationOperationId : String)
      (tenantId resourceId idempotencyKey : Option String) (sent : SendOutcome)
  | correlate (response : MCPResponseDTO)
  | abortBeforeDispatch (id : RequestId) (reason : String)
  | markOutcomeUnknown (id : RequestId) (reason : String)

section Model

variable (requestFingerprint : MCPRequestDTO → String)
variable (responseFingerprint : MCPResponseDTO → String)

def perform : BoundaryCall → MCPProtocolBoundary → ProtocolObservation × MCPProtocolBoundary
  | .dispatch request applicationOperationId tenantId resourceId idempotencyKey sent, boundary =>
    boundary.dispatch requestFingerprint responseFingerprint request applicationOperationId
      tenantId resourceId idempotencyKey sent
  | .correlate response, boundary => boundary.correlate responseFingerprint response
  | .abortBeforeDispatch id reason, boundary => boundary.abortBeforeDispatch id reason
  | .markOutcomeUnknown id reason, boundary => boundary.markOutcomeUnknown id reason

def accepts (id : RequestId) (observation : ProtocolObservation) : Bool :=
  observation.protocolRequestId = some id ∧
    observation.outcome ∈ [.protocolResult, .protocolError] ∧ observation.payload.isSome = true

/-- The request goes out, as far as anyone can tell. -/
def Sends (id : RequestId) (call : BoundaryCall) (boundary : MCPProtocolBoundary) : Prop :=
  ∃ request applicationOperationId tenantId resourceId idempotencyKey sent,
    call = .dispatch request applicationOperationId tenantId resourceId idempotencyKey sent ∧
      boundary.rejection request applicationOperationId = none ∧
      request.protocolRequestId = some id ∧ sent ≠ .timeoutBeforeSend

def Closed (boundary : MCPProtocolBoundary) (id : RequestId) : Prop :=
  boundary.bindingStatus.lookup id = some .conflict ∨
    boundary.bindingStatus.lookup id = some .abortedPreDispatch

def boundaryAfter (supported : List String) (calls : List BoundaryCall) : MCPProtocolBoundary :=
  final (perform requestFingerprint responseFingerprint) { supportedVersions := supported } calls

def boundaryTrace (boundary : MCPProtocolBoundary) (calls : List BoundaryCall) :
    List (Event MCPProtocolBoundary BoundaryCall fun _ => ProtocolObservation) :=
  trace (perform requestFingerprint responseFingerprint) boundary calls

/-- The binding law over the run of a new boundary. -/
structure BindingLaw (supported : List String) (calls : List BoundaryCall) : Prop where
  once : ∀ id, (boundaryTrace requestFingerprint responseFingerprint
    { supportedVersions := supported } calls).countP (fun e => accepts id e.response) ≤ 1
  settled : ∀ front back rest id, calls = front ++ back ++ rest →
    Closed (boundaryAfter requestFingerprint responseFingerprint supported front) id →
      (∀ e ∈ boundaryTrace requestFingerprint responseFingerprint
        (boundaryAfter requestFingerprint responseFingerprint supported front) back,
          accepts id e.response = false) ∧
        (boundaryAfter requestFingerprint responseFingerprint supported
          (front ++ back)).bindingStatus.lookup id ≠ some .completed
  sent : ∀ front call back rest id, calls = front ++ call :: back ++ rest →
    Sends id call (boundaryAfter requestFingerprint responseFingerprint supported front) →
      (boundaryAfter requestFingerprint responseFingerprint supported
        (front ++ call :: back)).bindingStatus.lookup id ≠ some .abortedPreDispatch

def Acceptable (boundary : MCPProtocolBoundary) (response : MCPResponseDTO) (id : RequestId) :
    Prop :=
  response.protocolRequestId = some id ∧ response.wellFormed = true ∧
    boundary.responseFingerprints.lookup id = none ∧
    ∃ binding, boundary.bindings.lookup id = some binding ∧
      claimsOther response.payload binding.applicationOperationId = false

def Brings (call : BoundaryCall) (boundary : MCPProtocolBoundary) (response : MCPResponseDTO) :
    Prop :=
  call = .correlate response ∨
    ∃ request applicationOperationId tenantId resourceId idempotencyKey,
      call = .dispatch request applicationOperationId tenantId resourceId idempotencyKey
        (.response response) ∧ boundary.rejection request applicationOperationId = none

/-- A first response for a request that is closed, or an abort of one that is pending. -/
def Reverses (call : BoundaryCall) (boundary : MCPProtocolBoundary) : Prop :=
  (∃ response id, Brings call boundary response ∧ Acceptable boundary response id ∧
      Closed boundary id) ∨
    ∃ id reason, call = .abortBeforeDispatch id reason ∧
      (boundary.bindings.lookup id).isSome ∧ boundary.bindingStatus.lookup id = some .pending

end Model

section Correlation

variable (responseFingerprint : MCPResponseDTO → String)

inductive CorrelateStep (boundary : MCPProtocolBoundary) (response : MCPResponseDTO) :
    ProtocolObservation × MCPProtocolBoundary → Prop
  | ignored (observation : ProtocolObservation) (unaccepted : observation.payload = none)
      (unacceptable : ∀ id, ¬ Acceptable boundary response id) :
      CorrelateStep boundary response (observation, boundary)
  | conflicted (id : RequestId) (observation : ProtocolObservation)
      (bound : (boundary.bindings.lookup id).isSome)
      (unaccepted : observation.payload = none)
      (unacceptable : ∀ id, ¬ Acceptable boundary response id) :
      CorrelateStep boundary response (observation, boundary.setStatus id .conflict)
  | accepted (id : RequestId) (binding : MCPRequestBinding)
      (acceptable : Acceptable boundary response id) :
      CorrelateStep boundary response
        ({ outcome := if response.result.isSome then .protocolResult else .protocolError
           protocolRequestId := some id
           applicationOperationId := some binding.applicationOperationId
           payload := some response.payload },
          boundary.complete id (responseFingerprint response))

theorem correlate_step (boundary : MCPProtocolBoundary) (response : MCPResponseDTO) :
    CorrelateStep responseFingerprint boundary response
      (boundary.correlate responseFingerprint response) := by
  simp only [MCPProtocolBoundary.correlate]
  cases named : response.protocolRequestId with
  | none =>
    refine .ignored _ rfl ?_
    intro id acceptable
    have same := acceptable.1
    rw [named] at same
    cases same
  | some id =>
  dsimp only
  cases found : boundary.bindings.lookup id with
  | none =>
    refine .ignored _ rfl ?_
    intro other acceptable
    rcases acceptable with ⟨same, _, _, binding, listed, _⟩
    rw [named] at same
    cases same
    rw [found] at listed
    cases listed
  | some binding =>
  dsimp only
  by_cases malformed : response.wellFormed = false
  · rw [if_pos malformed]
    refine .ignored _ rfl ?_
    intro other acceptable
    have formed := acceptable.2.1
    rw [malformed] at formed
    cases formed
  rw [if_neg malformed]
  by_cases other : claimsOther response.payload binding.applicationOperationId = true
  · rw [if_pos other]
    refine .conflicted id _ (by rw [found]; rfl) rfl ?_
    intro named' acceptable
    rcases acceptable with ⟨same, _, _, _, listed, agrees⟩
    rw [named] at same
    cases same
    rw [found] at listed
    cases listed
    rw [other] at agrees
    cases agrees
  rw [if_neg other]
  cases seen : boundary.responseFingerprints.lookup id with
  | none =>
    exact .accepted id binding ⟨named, by simpa using malformed, seen, binding, found,
      by simpa using other⟩
  | some previous =>
    have unacceptable : ∀ id, ¬ Acceptable boundary response id := by
      intro other acceptable
      rcases acceptable with ⟨same, _, unseen, _⟩
      rw [named] at same
      cases same
      rw [seen] at unseen
      cases unseen
    dsimp only
    by_cases same : previous = responseFingerprint response
    · rw [if_pos same]
      exact .ignored _ rfl unacceptable
    · rw [if_neg same]
      exact .conflicted id _ (by rw [found]; rfl) rfl unacceptable

variable {responseFingerprint} {boundary : MCPProtocolBoundary} {response : MCPResponseDTO}
variable {result : ProtocolObservation × MCPProtocolBoundary} {id : RequestId}

theorem unaccepted_accepts {observation : ProtocolObservation}
    (unaccepted : observation.payload = none) : accepts id observation = false := by
  simp [accepts, unaccepted]

theorem setStatus_lookup (boundary : MCPProtocolBoundary) (other id : RequestId)
    (status : BindingStatus) : (boundary.setStatus other status).bindingStatus.lookup id =
      if id = other then some status else boundary.bindingStatus.lookup id :=
  Dict.lookup_insert_eq _ _ _ _

theorem complete_lookup (boundary : MCPProtocolBoundary) (other id : RequestId)
    (fingerprint : String) : (boundary.complete other fingerprint).bindingStatus.lookup id =
      if id = other then some .completed else boundary.bindingStatus.lookup id :=
  Dict.lookup_insert_eq _ _ _ _

section

variable (step : CorrelateStep responseFingerprint boundary response result)
include step

theorem CorrelateStep.accepted_of (accepted : accepts id result.1 = true) :
    Acceptable boundary response id ∧ (result.2.responseFingerprints.lookup id).isSome := by
  cases step with
  | ignored observation unaccepted | conflicted other observation bound unaccepted =>
    rw [unaccepted_accepts unaccepted] at accepted
    cases accepted
  | accepted other _ acceptable =>
    have same : other = id := Option.some.inj (of_decide_eq_true accepted).1
    rw [same] at acceptable
    refine ⟨acceptable, ?_⟩
    simp [complete, same]

theorem CorrelateStep.accepts_acceptable (acceptable : Acceptable boundary response id) :
    accepts id result.1 = true := by
  cases step with
  | ignored _ _ unacceptable => exact absurd acceptable (unacceptable id)
  | conflicted _ _ _ _ unacceptable =>
    exact absurd acceptable (unacceptable id)
  | accepted other _ stored =>
    have same : other = id := Option.some.inj (stored.1.symm.trans acceptable.1)
    rw [same]
    simp only [accepts, Option.isSome_some]
    cases response.result.isSome with
    | true | false => decide

theorem CorrelateStep.bindings : result.2.bindings = boundary.bindings := by
  cases step <;> rfl

theorem CorrelateStep.recorded (recorded : (boundary.responseFingerprints.lookup id).isSome) :
    (result.2.responseFingerprints.lookup id).isSome := by
  cases step with
  | ignored | conflicted => exact recorded
  | accepted other =>
    simp only [complete, Dict.lookup_insert_eq]
    by_cases same : id = other
    · rw [if_pos same]
      rfl
    · rw [if_neg same]
      exact recorded

theorem CorrelateStep.closed (closed : Closed boundary id)
    (unacceptable : ¬ Acceptable boundary response id) : Closed result.2 id := by
  cases step with
  | ignored => exact closed
  | conflicted other =>
    simp only [Closed, setStatus_lookup]
    by_cases same : id = other
    · rw [if_pos same]
      exact .inl rfl
    · rw [if_neg same]
      exact closed
  | accepted other _ acceptable =>
    have different : id ≠ other := by
      intro same
      rw [same] at unacceptable
      exact unacceptable acceptable
    simp only [Closed, complete_lookup, if_neg different]
    exact closed

theorem CorrelateStep.unaborted
    (unaborted : boundary.bindingStatus.lookup id ≠ some .abortedPreDispatch) :
    result.2.bindingStatus.lookup id ≠ some .abortedPreDispatch := by
  cases step with
  | ignored => exact unaborted
  | conflicted other =>
    rw [setStatus_lookup]
    by_cases same : id = other
    · rw [if_pos same]
      decide
    · rw [if_neg same]
      exact unaborted
  | accepted other =>
    rw [complete_lookup]
    by_cases same : id = other
    · rw [if_pos same]
      decide
    · rw [if_neg same]
      exact unaborted

theorem CorrelateStep.paired (paired : ∀ id, (boundary.bindingStatus.lookup id).isSome →
      (boundary.bindings.lookup id).isSome)
    (id : RequestId) (present : (result.2.bindingStatus.lookup id).isSome) :
    (result.2.bindings.lookup id).isSome := by
  cases step with
  | ignored => exact paired id present
  | conflicted other _ bound =>
    by_cases same : id = other
    · rw [same]
      exact bound
    · rw [setStatus_lookup, if_neg same] at present
      exact paired id present
  | accepted other _ acceptable =>
    by_cases same : id = other
    · rcases acceptable with ⟨_, _, _, _, found, _⟩
      rw [same]
      simp [complete, found]
    · rw [complete_lookup, if_neg same] at present
      exact paired id present

end

end Correlation

section Effects

variable (responseFingerprint : MCPResponseDTO → String)

/-- What one call does. -/
inductive Effect (boundary : MCPProtocolBoundary) (call : BoundaryCall) :
    ProtocolObservation × MCPProtocolBoundary → Prop
  | kept (observation : ProtocolObservation) (unaccepted : observation.payload = none)
      (unaborting : ¬ Reverses call boundary) : Effect boundary call (observation, boundary)
  | unsent (observation : ProtocolObservation) (id : RequestId) (binding : MCPRequestBinding)
      (unaccepted : observation.payload = none) (fresh : boundary.bindings.lookup id = none)
      (unaborting : ¬ Reverses call boundary) :
      Effect boundary call (observation, (boundary.bind id binding).unbind id)
  | waiting (observation : ProtocolObservation) (id : RequestId) (binding : MCPRequestBinding)
      (unaccepted : observation.payload = none) (fresh : boundary.bindings.lookup id = none)
      (sends : Sends id call boundary) (unaborting : ¬ Reverses call boundary) :
      Effect boundary call
        (observation, (boundary.bind id binding).setStatus id .pendingReconciliation)
  | answered (id : RequestId) (binding : MCPRequestBinding) (response : MCPResponseDTO)
      (result : ProtocolObservation × MCPProtocolBoundary)
      (fresh : boundary.bindings.lookup id = none) (sends : Sends id call boundary)
      (brings : ∀ other, Brings call boundary other ↔ other = response)
      (step : CorrelateStep responseFingerprint (boundary.bind id binding) response result) :
      Effect boundary call result
  | correlated (response : MCPResponseDTO) (result : ProtocolObservation × MCPProtocolBoundary)
      (brings : ∀ other, Brings call boundary other ↔ other = response)
      (step : CorrelateStep responseFingerprint boundary response result) :
      Effect boundary call result
  | aborted (observation : ProtocolObservation) (id : RequestId) (reason : String)
      (unaccepted : observation.payload = none)
      (called : call = .abortBeforeDispatch id reason)
      (bound : (boundary.bindings.lookup id).isSome)
      (pending : boundary.bindingStatus.lookup id = some .pending) :
      Effect boundary call (observation, boundary.setStatus id .abortedPreDispatch)
  | unknown (observation : ProtocolObservation) (id : RequestId)
      (unaccepted : observation.payload = none) (bound : (boundary.bindings.lookup id).isSome)
      (waiting : boundary.bindingStatus.lookup id ∈
        [some BindingStatus.pending, some .pendingReconciliation])
      (unaborting : ¬ Reverses call boundary) :
      Effect boundary call (observation, boundary.setStatus id .pendingReconciliation)

variable {boundary : MCPProtocolBoundary}

theorem not_reverses {call : BoundaryCall} (quiet : ∀ response, ¬ Brings call boundary response)
    (other : ∀ id reason, call = .abortBeforeDispatch id reason →
      boundary.bindingStatus.lookup id = some .pending → boundary.bindings.lookup id = none) :
    ¬ Reverses call boundary := by
  intro reverses
  rcases reverses with ⟨response, id, brings, _⟩ | ⟨id, reason, called, bound, pending⟩
  · exact quiet response brings
  · rw [other id reason called pending] at bound
    cases bound

variable {request : MCPRequestDTO} {rejected : ProtocolObservation}

theorem validate_payload (refused : boundary.validate request = some rejected) :
    rejected.payload = none := by
  simp only [validate] at refused
  split at refused
  · cases refused
    rfl
  split at refused
  · cases refused
    rfl
  split at refused
  · cases refused
    rfl
  split at refused
  · cases refused
    rfl
  split at refused
  · cases refused
  split at refused
  · cases refused
  · cases refused
    rfl

variable {applicationOperationId : String}

theorem rejection_payload
    (refused : boundary.rejection request applicationOperationId = some rejected) :
    rejected.payload = none := by
  simp only [rejection] at refused
  split at refused
  · next validated =>
    cases refused
    exact validate_payload validated
  split at refused
  · cases refused
    rfl
  split at refused
  · cases refused
    rfl
  · cases refused

theorem validate_none
    (valid : boundary.validate request = none) : ∃ id, request.protocolRequestId = some id := by
  simp only [validate] at valid
  split at valid
  · cases valid
  split at valid
  · cases valid
  · next named =>
    rw [Option.isNone_iff_eq_none] at named
    exact Option.ne_none_iff_exists'.mp named

theorem rejection_none (admitted : boundary.rejection request applicationOperationId = none) :
    ∃ id, request.protocolRequestId = some id ∧ boundary.bindings.lookup id = none := by
  simp only [rejection] at admitted
  split at admitted
  · cases admitted
  next valid =>
  split at admitted
  · cases admitted
  split at admitted
  · cases admitted
  next unbound =>
  rcases validate_none valid with ⟨id, named⟩
  refine ⟨id, named, ?_⟩
  rw [named] at unbound
  simpa using unbound

theorem dispatch_effect (requestFingerprint : MCPRequestDTO → String)
    (boundary : MCPProtocolBoundary) (request : MCPRequestDTO) (applicationOperationId : String)
    (tenantId resourceId idempotencyKey : Option String) (sent : SendOutcome) :
    Effect responseFingerprint boundary
      (.dispatch request applicationOperationId tenantId resourceId idempotencyKey sent)
      (boundary.dispatch requestFingerprint responseFingerprint request applicationOperationId
        tenantId resourceId idempotencyKey sent) := by
  have brings : ∀ response, Brings (.dispatch request applicationOperationId tenantId resourceId
      idempotencyKey sent) boundary response ↔ sent = .response response ∧
        boundary.rejection request applicationOperationId = none := by
    intro response
    constructor
    · intro brings
      rcases brings with same | ⟨_, _, _, _, _, same, admitted⟩
      · cases same
      · cases same
        exact ⟨rfl, admitted⟩
    · intro answered
      rw [answered.1]
      exact .inr ⟨request, applicationOperationId, tenantId, resourceId, idempotencyKey, rfl,
        answered.2⟩
  have silent : (∀ response, sent = .response response →
      boundary.rejection request applicationOperationId ≠ none) →
      ¬ Reverses (.dispatch request applicationOperationId tenantId resourceId idempotencyKey sent)
        boundary := by
    intro unanswered
    apply not_reverses
    · intro response brought
      rcases (brings response).mp brought with ⟨same, admitted⟩
      exact unanswered response same admitted
    · intro _ _ called
      cases called
  simp only [MCPProtocolBoundary.dispatch]
  cases refused : boundary.rejection request applicationOperationId with
  | some rejected =>
    refine .kept rejected (rejection_payload refused) (silent ?_)
    intro response _ admitted
    rw [refused] at admitted
    cases admitted
  | none =>
    rcases rejection_none refused with ⟨id, named, fresh⟩
    have sends : sent ≠ .timeoutBeforeSend → Sends id (.dispatch request applicationOperationId
        tenantId resourceId idempotencyKey sent) boundary :=
      fun left => ⟨_, _, _, _, _, _, rfl, refused, named, left⟩
    rw [named]
    cases sent with
    | timeoutBeforeSend =>
      exact .unsent _ id _ rfl fresh (silent fun _ same => nomatch same)
    | timeoutAfterPossibleSend | noResponse =>
      exact .waiting _ id _ rfl fresh (sends (fun same => nomatch same))
        (silent fun _ same => nomatch same)
    | response response =>
      refine .answered id _ response _ fresh (sends (fun same => nomatch same)) ?_
        (correlate_step responseFingerprint _ response)
      intro other
      rw [brings other]
      constructor
      · intro answered
        cases answered.1
        rfl
      · intro same
        rw [same]
        exact ⟨rfl, refused⟩

theorem perform_effect (requestFingerprint : MCPRequestDTO → String)
    (boundary : MCPProtocolBoundary) (call : BoundaryCall) :
    Effect responseFingerprint boundary call
      (perform requestFingerprint responseFingerprint call boundary) := by
  cases call with
  | dispatch request applicationOperationId tenantId resourceId idempotencyKey sent =>
    exact dispatch_effect responseFingerprint requestFingerprint boundary request
      applicationOperationId tenantId resourceId idempotencyKey sent
  | correlate response =>
    refine .correlated response _ ?_ (correlate_step responseFingerprint boundary response)
    intro other
    constructor
    · rintro (same | ⟨_, _, _, _, _, same, _⟩)
      · cases same
        rfl
      · cases same
    · intro same
      rw [same]
      exact .inl rfl
  | abortBeforeDispatch id reason =>
    have quiet : ∀ response, ¬ Brings (.abortBeforeDispatch id reason) boundary response := by
      intro response brings
      rcases brings with same | ⟨_, _, _, _, _, same, _⟩
      · cases same
      · cases same
    simp only [perform, MCPProtocolBoundary.abortBeforeDispatch]
    cases found : boundary.bindings.lookup id with
    | none =>
      refine .kept _ rfl (not_reverses quiet ?_)
      intro other _ called _
      cases called
      exact found
    | some =>
      dsimp only
      by_cases other : boundary.bindingStatus.lookup id ≠ some .pending
      · rw [if_pos other]
        refine .kept _ rfl (not_reverses quiet ?_)
        intro _ _ called pending
        cases called
        exact absurd pending other
      · rw [if_neg other]
        exact .aborted _ id reason rfl rfl (by rw [found]; rfl) (not_not.mp other)
  | markOutcomeUnknown id reason =>
    have quiet : ∀ response, ¬ Brings (.markOutcomeUnknown id reason) boundary response := by
      intro response brings
      rcases brings with same | ⟨_, _, _, _, _, same, _⟩
      · cases same
      · cases same
    have unaborting : ¬ Reverses (.markOutcomeUnknown id reason) boundary := by
      apply not_reverses quiet
      intro _ _ called
      cases called
    simp only [perform, MCPProtocolBoundary.markOutcomeUnknown]
    cases found : boundary.bindings.lookup id with
    | none => exact .kept _ rfl unaborting
    | some =>
      dsimp only
      by_cases other : boundary.bindingStatus.lookup id ∉
          [some BindingStatus.pending, some .pendingReconciliation]
      · rw [if_pos other]
        exact .kept _ rfl unaborting
      · rw [if_neg other]
        exact .unknown _ id rfl (by rw [found]; rfl) (not_not.mp other) unaborting

end Effects

section Calls

variable {responseFingerprint : MCPResponseDTO → String} {boundary : MCPProtocolBoundary}
variable {call : BoundaryCall} {result : ProtocolObservation × MCPProtocolBoundary}
variable {id : RequestId}

def Paired (boundary : MCPProtocolBoundary) : Prop :=
  ∀ id, (boundary.bindingStatus.lookup id).isSome → (boundary.bindings.lookup id).isSome

theorem bind_lookup (own id : RequestId) (binding : MCPRequestBinding) :
    (boundary.bind own binding).bindings.lookup id =
        (if id = own then some binding else boundary.bindings.lookup id) ∧
      (boundary.bind own binding).bindingStatus.lookup id =
        if id = own then some .pending else boundary.bindingStatus.lookup id :=
  ⟨Dict.lookup_insert_eq _ _ _ _, Dict.lookup_insert_eq _ _ _ _⟩

theorem unbind_lookup (paired : Paired boundary) (own id : RequestId)
    (binding : MCPRequestBinding) (fresh : boundary.bindings.lookup own = none) :
    ((boundary.bind own binding).unbind own).bindings.lookup id = boundary.bindings.lookup id ∧
      ((boundary.bind own binding).unbind own).bindingStatus.lookup id =
        boundary.bindingStatus.lookup id := by
  by_cases same : id = own
  · have none : boundary.bindingStatus.lookup own = .none := by
      cases found : boundary.bindingStatus.lookup own with
      | none => rfl
      | some =>
        have bound := paired own (by rw [found]; rfl)
        rw [fresh] at bound
        cases bound
    rw [same, fresh, none]
    exact ⟨AList.lookup_erase _ _, AList.lookup_erase _ _⟩
  · simp [unbind, AList.lookup_erase_ne same, bind_lookup, if_neg same]

theorem bind_paired (paired : Paired boundary) (own : RequestId) (binding : MCPRequestBinding) :
    Paired (boundary.bind own binding) := by
  intro id present
  rw [(bind_lookup own id binding).2] at present
  rw [(bind_lookup own id binding).1]
  by_cases same : id = own
  · rw [if_pos same]
    rfl
  · rw [if_neg same] at present ⊢
    exact paired id present

theorem setStatus_paired (paired : Paired boundary) (own : RequestId) (status : BindingStatus)
    (bound : (boundary.bindings.lookup own).isSome) : Paired (boundary.setStatus own status) := by
  intro id present
  by_cases same : id = own
  · rw [same]
    exact bound
  · rw [setStatus_lookup, if_neg same] at present
    exact paired id present

section

variable (effect : Effect responseFingerprint boundary call result)
include effect

theorem Effect.paired (paired : Paired boundary) : Paired result.2 := by
  cases effect with
  | kept => exact paired
  | unsent _ own binding _ fresh =>
    intro id present
    rw [(unbind_lookup paired own id binding fresh).2] at present
    rw [(unbind_lookup paired own id binding fresh).1]
    exact paired id present
  | waiting _ own binding =>
    apply setStatus_paired (bind_paired paired own binding)
    rw [(bind_lookup own own binding).1, if_pos rfl]
    rfl
  | answered own binding _ _ _ _ _ step =>
    exact step.paired (bind_paired paired own binding)
  | correlated _ _ _ step => exact step.paired paired
  | aborted observation own reason unaccepted called bound
  | unknown observation own unaccepted bound =>
    exact setStatus_paired paired own _ bound

theorem Effect.accepted (accepted : accepts id result.1 = true) :
    boundary.responseFingerprints.lookup id = none ∧
      (result.2.responseFingerprints.lookup id).isSome = true := by
  have refused : ∀ observation : ProtocolObservation, observation.payload = none →
      accepts id observation = true → False := by
    intro observation unaccepted accepted
    rw [unaccepted_accepts unaccepted] at accepted
    cases accepted
  cases effect with
  | kept observation unaccepted | unsent observation own binding unaccepted
  | waiting observation own binding unaccepted | aborted observation own reason unaccepted
  | unknown observation own unaccepted => exact (refused _ unaccepted accepted).elim
  | answered own binding response _ fresh sends brings step | correlated response _ brings step =>
    have first := step.accepted_of accepted
    exact ⟨first.1.2.2.1, first.2⟩

theorem Effect.recorded (recorded : (boundary.responseFingerprints.lookup id).isSome = true) :
    (result.2.responseFingerprints.lookup id).isSome = true := by
  cases effect with
  | kept | unsent | waiting | aborted | unknown => exact recorded
  | answered own binding response _ fresh sends brings step | correlated response _ brings step =>
    exact step.recorded recorded

theorem Effect.bound (paired : Paired boundary) (bound : (result.2.bindings.lookup id).isSome) :
    (boundary.bindings.lookup id).isSome ∨ Sends id call boundary := by
  cases effect with
  | kept | aborted | unknown => exact .inl bound
  | unsent _ own binding _ fresh =>
    rw [(unbind_lookup paired own id binding fresh).1] at bound
    exact .inl bound
  | waiting _ own binding _ _ sends =>
    by_cases same : id = own
    · rw [same]
      exact .inr sends
    · refine .inl ?_
      simp only [setStatus] at bound
      rw [(bind_lookup own id binding).1, if_neg same] at bound
      exact bound
  | answered own binding _ _ _ sends _ step =>
    by_cases same : id = own
    · rw [same]
      exact .inr sends
    · rw [step.bindings, (bind_lookup own id binding).1, if_neg same] at bound
      exact .inl bound
  | correlated _ _ _ step =>
    rw [step.bindings] at bound
    exact .inl bound

end

variable {own : RequestId} {binding : MCPRequestBinding}

theorem acceptable_bind {response : MCPResponseDTO} (different : id ≠ own) :
    Acceptable (boundary.bind own binding) response id ↔ Acceptable boundary response id := by
  simp only [Acceptable, (bind_lookup own id binding).1, if_neg different]
  rfl

theorem closed_bind (different : id ≠ own) :
    Closed (boundary.bind own binding) id ↔ Closed boundary id := by
  simp [Closed, (bind_lookup own id binding).2, if_neg different]

theorem Closed.bound (closed : Closed boundary id) (paired : Paired boundary) :
    (boundary.bindings.lookup id).isSome := by
  apply paired
  rcases closed with status | status
  · rw [status]
    rfl
  · rw [status]
    rfl

section

variable (effect : Effect responseFingerprint boundary call result)
include effect

theorem Effect.closed (paired : Paired boundary) (quiet : ¬ Reverses call boundary)
    (closed : Closed boundary id) : accepts id result.1 = false ∧ Closed result.2 id := by
  have bound := closed.bound paired
  cases effect with
  | kept _ unaccepted => exact ⟨unaccepted_accepts unaccepted, closed⟩
  | unsent _ own binding unaccepted fresh =>
    refine ⟨unaccepted_accepts unaccepted, ?_⟩
    simp only [Closed, (unbind_lookup paired own id binding fresh).2]
    exact closed
  | waiting _ own _ unaccepted fresh =>
    have different : id ≠ own := by
      intro same
      rw [same, fresh] at bound
      cases bound
    refine ⟨unaccepted_accepts unaccepted, ?_⟩
    simp only [Closed, setStatus_lookup, if_neg different]
    exact (closed_bind different).mpr closed
  | answered own binding response _ fresh _ brings step =>
    have different : id ≠ own := by
      intro same
      rw [same, fresh] at bound
      cases bound
    have unacceptable : ¬ Acceptable (boundary.bind own binding) response id := by
      rw [acceptable_bind different]
      intro acceptable
      exact quiet (.inl ⟨response, id, (brings response).mpr rfl, acceptable, closed⟩)
    refine ⟨?_, step.closed ((closed_bind different).mpr closed) unacceptable⟩
    rw [← Bool.not_eq_true]
    intro accepted
    exact unacceptable (step.accepted_of accepted).1
  | correlated response _ brings step =>
    have unacceptable : ¬ Acceptable boundary response id := by
      intro acceptable
      exact quiet (.inl ⟨response, id, (brings response).mpr rfl, acceptable, closed⟩)
    refine ⟨?_, step.closed closed unacceptable⟩
    rw [← Bool.not_eq_true]
    intro accepted
    exact unacceptable (step.accepted_of accepted).1
  | aborted _ own reason _ called bound pending =>
    exact absurd (.inr ⟨own, reason, called, bound, pending⟩) quiet
  | unknown _ own unaccepted _ waiting =>
    have different : id ≠ own := by
      intro same
      rw [← same] at waiting
      rcases closed with status | status
      · rw [status] at waiting
        exact absurd waiting (by decide)
      · rw [status] at waiting
        exact absurd waiting (by decide)
    refine ⟨unaccepted_accepts unaccepted, ?_⟩
    simp only [Closed, setStatus_lookup, if_neg different]
    exact closed

theorem Effect.unaborted (paired : Paired boundary) (quiet : ¬ Reverses call boundary)
    (unaborted : ∀ id, boundary.bindingStatus.lookup id ≠ some .abortedPreDispatch)
    (id : RequestId) : result.2.bindingStatus.lookup id ≠ some .abortedPreDispatch := by
  have bindUnaborted : ∀ own binding,
      (boundary.bind own binding).bindingStatus.lookup id ≠ some .abortedPreDispatch := by
    intro own binding
    rw [(bind_lookup own id binding).2]
    by_cases same : id = own
    · rw [if_pos same]
      decide
    · rw [if_neg same]
      exact unaborted id
  cases effect with
  | kept => exact unaborted id
  | unsent _ own binding _ fresh =>
    rw [(unbind_lookup paired own id binding fresh).2]
    exact unaborted id
  | waiting _ own binding =>
    rw [setStatus_lookup]
    by_cases same : id = own
    · rw [if_pos same]
      decide
    · rw [if_neg same]
      exact bindUnaborted own binding
  | answered own binding _ _ _ _ _ step =>
    exact step.unaborted (bindUnaborted own binding)
  | correlated _ _ _ step => exact step.unaborted (unaborted id)
  | aborted _ own reason _ called bound pending =>
    exact absurd (.inr ⟨own, reason, called, bound, pending⟩) quiet
  | unknown _ own =>
    rw [setStatus_lookup]
    by_cases same : id = own
    · rw [if_pos same]
      decide
    · rw [if_neg same]
      exact unaborted id

theorem Effect.reversed (reverses : Reverses call boundary) :
    (∃ id, Closed boundary id ∧ accepts id result.1 = true) ∨
      ∃ id, (boundary.bindings.lookup id).isSome ∧
        result.2.bindingStatus.lookup id = some .abortedPreDispatch := by
  cases effect with
  | kept observation unaccepted unaborting
  | unsent observation own binding unaccepted fresh unaborting => exact absurd reverses unaborting
  | waiting observation own binding unaccepted fresh sends unaborting
  | unknown observation own unaccepted bound waiting unaborting =>
    exact absurd reverses unaborting
  | answered own _ _ _ fresh sends brings step =>
    rcases reverses with ⟨other, id, brought, acceptable, closed⟩ | ⟨id, reason, called, _⟩
    · rw [(brings other).mp brought] at acceptable
      have different : id ≠ own := by
        intro same
        rcases acceptable with ⟨_, _, _, _, found, _⟩
        rw [same, fresh] at found
        cases found
      exact .inl ⟨id, closed, step.accepts_acceptable ((acceptable_bind different).mpr
        acceptable)⟩
    · rcases sends with ⟨_, _, _, _, _, _, dispatched, _⟩
      cases dispatched.symm.trans called
  | correlated response _ brings step =>
    rcases reverses with ⟨other, id, brought, acceptable, closed⟩ | ⟨id, reason, called, _⟩
    · rw [(brings other).mp brought] at acceptable
      exact .inl ⟨id, closed, step.accepts_acceptable acceptable⟩
    · rcases (brings response).mpr rfl with same | ⟨_, _, _, _, _, same, _⟩
      · cases same.symm.trans called
      · cases same.symm.trans called
  | aborted _ own _ _ _ bound =>
    refine .inr ⟨own, bound, ?_⟩
    rw [setStatus_lookup, if_pos rfl]

end

end Calls

section Runs

variable {requestFingerprint : MCPRequestDTO → String}
variable {responseFingerprint : MCPResponseDTO → String} {supported : List String}

theorem boundaryAfter_concat (front : List BoundaryCall) (call : BoundaryCall) :
    boundaryAfter requestFingerprint responseFingerprint supported (front ++ [call]) =
      (perform requestFingerprint responseFingerprint call
        (boundaryAfter requestFingerprint responseFingerprint supported front)).2 := by
  rw [boundaryAfter, final_append]
  rfl

theorem boundaryAfter_paired (calls : List BoundaryCall) :
    Paired (boundaryAfter requestFingerprint responseFingerprint supported calls) := by
  apply kept_final (perform requestFingerprint responseFingerprint) Paired
  · intro e member paired
    rw [(mem_trace_performed member).2]
    exact (perform_effect responseFingerprint requestFingerprint e.before e.call).paired paired
  · intro id present
    cases present

theorem bound_was_sent (calls : List BoundaryCall) (id : RequestId)
    (bound : ((boundaryAfter requestFingerprint responseFingerprint supported
      calls).bindings.lookup id).isSome) : ∃ front call back, calls = front ++ call :: back ∧
      Sends id call (boundaryAfter requestFingerprint responseFingerprint supported front) := by
  induction calls using List.reverseRecOn with
  | nil =>
    cases bound
  | append_singleton calls call ih =>
    rw [boundaryAfter_concat] at bound
    rcases (perform_effect responseFingerprint requestFingerprint _ call).bound
      (boundaryAfter_paired calls) bound with before | sends
    · rcases ih before with ⟨front, sender, back, split, sends⟩
      exact ⟨front, sender, back ++ [call], by rw [split, List.append_assoc]; rfl, sends⟩
    · exact ⟨calls, call, [], rfl, sends⟩

variable {calls : List BoundaryCall}

theorem BindingLaw.quiet (law : BindingLaw requestFingerprint responseFingerprint supported calls) :
    ∀ e ∈ boundaryTrace requestFingerprint responseFingerprint
      { supportedVersions := supported } calls, ¬ Reverses e.call e.before := by
  intro e member reverses
  rcases mem_trace_split _ _ _ e member with ⟨front, back, split, same⟩
  have before : e.before = boundaryAfter requestFingerprint responseFingerprint supported front :=
    congrArg Event.before same
  rw [before] at reverses
  rcases (perform_effect responseFingerprint requestFingerprint _ e.call).reversed reverses with
    ⟨id, closed, accepted⟩ | ⟨id, bound, aborted⟩
  · have refused := (law.settled front (e.call :: back) [] id (by rw [split, List.append_nil])
      closed).1 _ List.mem_cons_self
    exact absurd (refused.symm.trans accepted) (by decide)
  · rcases bound_was_sent front id bound with ⟨first, sender, between, earlier, sends⟩
    have later := law.sent first sender (between ++ [e.call]) back id
      (by rw [split, earlier]; simp) sends
    rw [show first ++ sender :: (between ++ [e.call]) = front ++ [e.call] by rw [earlier]; simp,
      boundaryAfter_concat] at later
    exact later aborted

theorem accepted_once (calls : List BoundaryCall) (id : RequestId) :
    (boundaryTrace requestFingerprint responseFingerprint { supportedVersions := supported }
      calls).countP (fun e => accepts id e.response) ≤ 1 := by
  apply counted_once (perform requestFingerprint responseFingerprint)
    (fun boundary => (boundary.responseFingerprints.lookup id).isSome) false
  · intro e member
    have effect := perform_effect responseFingerprint requestFingerprint e.before e.call
    rw [(mem_trace_performed member).2]
    cases recorded : (e.before.responseFingerprints.lookup id).isSome with
    | false => exact Bool.false_le _
    | true => rw [effect.recorded recorded]
  · intro e member accepted
    have effect := perform_effect responseFingerprint requestFingerprint e.before e.call
    rw [(mem_trace_performed member).1] at accepted
    rw [(mem_trace_performed member).2, (effect.accepted accepted).1, (effect.accepted accepted).2]
    exact ⟨rfl, by decide⟩

/-- A request that is closed stays so, with no response accepted, where nothing is reversed. -/
theorem closed_settled {front back : List BoundaryCall} {id : RequestId}
    (quiet : ∀ e ∈ boundaryTrace requestFingerprint responseFingerprint
      (boundaryAfter requestFingerprint responseFingerprint supported front) back,
      ¬ Reverses e.call e.before)
    (closed : Closed (boundaryAfter requestFingerprint responseFingerprint supported front) id) :
    (∀ e ∈ boundaryTrace requestFingerprint responseFingerprint
        (boundaryAfter requestFingerprint responseFingerprint supported front) back,
        accepts id e.response = false) ∧
      Closed (boundaryAfter requestFingerprint responseFingerprint supported (front ++ back))
        id := by
  have step : ∀ e ∈ boundaryTrace requestFingerprint responseFingerprint
      (boundaryAfter requestFingerprint responseFingerprint supported front) back,
      Paired e.before ∧ Closed e.before id → Paired e.after ∧ Closed e.after id := by
    intro e member before
    have effect := perform_effect responseFingerprint requestFingerprint e.before e.call
    rw [(mem_trace_performed member).2]
    exact ⟨effect.paired before.1, (effect.closed before.1 (quiet e member) before.2).2⟩
  have paired : Paired (boundaryAfter requestFingerprint responseFingerprint supported front) :=
    boundaryAfter_paired front
  have start := And.intro paired closed
  constructor
  · intro e member
    have before := (kept_trace _ (fun boundary => Paired boundary ∧ Closed boundary id) _ back
      step start e member).1
    have effect := perform_effect responseFingerprint requestFingerprint e.before e.call
    rw [(mem_trace_performed member).1]
    exact (effect.closed before.1 (quiet e member) before.2).1
  · have last := (kept_final _ (fun boundary => Paired boundary ∧ Closed boundary id) _ back
      step start).2
    rw [boundaryAfter, final_append]
    exact last

theorem unaborted_after (quiet : ∀ e ∈ boundaryTrace requestFingerprint responseFingerprint
      { supportedVersions := supported } calls, ¬ Reverses e.call e.before) (id : RequestId) :
    (boundaryAfter requestFingerprint responseFingerprint supported
      calls).bindingStatus.lookup id ≠ some .abortedPreDispatch := by
  refine (kept_final (perform requestFingerprint responseFingerprint)
    (fun boundary => Paired boundary ∧
      ∀ id, boundary.bindingStatus.lookup id ≠ some .abortedPreDispatch) _ calls ?_ ?_).2 id
  · intro e member before
    have effect := perform_effect responseFingerprint requestFingerprint e.before e.call
    rw [(mem_trace_performed member).2]
    exact ⟨effect.paired before.1, effect.unaborted before.1 (quiet e member) before.2⟩
  · constructor
    · intro id present
      cases present
    · intro id
      simp only [Dict.lookup_empty]
      decide

/-- The binding law holds exactly where no first response comes for a request that is closed,
and no request is aborted while it is pending. -/
theorem binding_lifecycle (requestFingerprint : MCPRequestDTO → String)
    (responseFingerprint : MCPResponseDTO → String) (supported : List String)
    (calls : List BoundaryCall) :
    BindingLaw requestFingerprint responseFingerprint supported calls ↔
      ∀ e ∈ boundaryTrace requestFingerprint responseFingerprint
        { supportedVersions := supported } calls, ¬ Reverses e.call e.before := by
  constructor
  · intro law
    exact law.quiet
  · intro quiet
    constructor
    · exact accepted_once calls
    · intro front back rest id split closed
      have inside : ∀ e ∈ boundaryTrace requestFingerprint responseFingerprint
          (boundaryAfter requestFingerprint responseFingerprint supported front) back,
          ¬ Reverses e.call e.before := by
        intro e member
        apply quiet e
        rw [split, List.append_assoc, boundaryTrace, trace_append]
        apply List.mem_append_right _
        rw [trace_append]
        exact List.mem_append_left _ member
      have settled := closed_settled inside closed
      refine ⟨settled.1, ?_⟩
      intro completed
      rcases settled.2 with status | status
      · cases status.symm.trans completed
      · cases status.symm.trans completed
    · intro front call back rest id split sends
      refine unaborted_after ?_ id
      intro e member
      apply quiet e
      rw [split, boundaryTrace, trace_append]
      exact List.mem_append_left _ member

end Runs

namespace Sample

def requestFingerprint (_ : MCPRequestDTO) : String := "request"

def responseFingerprint (_ : MCPResponseDTO) : String := "response"

def request : MCPRequestDTO where
  specificationVersion := "2026-07-28"
  protocolRequestId := some (.number 1)
  method := "server/discover"
  params := .object []

/-- A response that claims another operation, then one that claims none. -/
def contradicted : List BoundaryCall :=
  [.dispatch request "operation-1" none none none (.response
    { protocolRequestId := some (.number 1)
      result := some [("application_operation_id", .text "operation-2")] }),
   .correlate { protocolRequestId := some (.number 1), result := some [] }]

/-- The second response is accepted for a request that is in conflict. -/
theorem conflict_completed :
    ¬ BindingLaw requestFingerprint responseFingerprint ["2026-07-28"] contradicted := by
  intro law
  have settled := law.settled (contradicted.take 1) (contradicted.drop 1) [] (.number 1) rfl
    (.inl (by decide +kernel))
  exact absurd settled.2 (by decide +kernel)

end Sample

end BackendHandbook.Mcp
