import BackendHandbook.Foundation.Run
import BackendHandbook.Foundation.Text
import BackendHandbook.Tools.Admission

/-! One effect, one key: what any sequence of admissions and executions performs. -/

namespace BackendHandbook.Tools

open Json (Value)
open Run

/-- A call admitted earlier is executed by its place among the admitted ones. -/
inductive ToolRequest
  | admission (rawProviderOutput attemptId jobId : String) (registry : ToolRegistry)
      (auth : AuthContext) (reports : InMemoryReportStore)
  | execute (index : Nat) (registry : ToolRegistry)

inductive ToolAnswer
  | admission (decision : Except ToolError AdmissionDecision)
  | execution (call : AdmittedToolCall) (result : ExecutionResult)
  | nothing

structure ToolDesk where
  executor : InMemoryToolExecutor := {}
  admitted : List AdmittedToolCall := []

open ToolDesk

section Model

variable (loads : String → Option Value) (sha256 : String → String)

def ToolDesk.perform : ToolRequest → ToolDesk → ToolAnswer × ToolDesk
  | .admission raw attemptId jobId registry auth reports, desk =>
    let decision := admitToolCall loads sha256 raw attemptId jobId registry auth reports
    (.admission decision, { desk with
      admitted := desk.admitted ++ (decision.toOption.bind (·.admittedCall)).toList })
  | .execute index registry, desk =>
    match desk.admitted[index]? with
    | some call =>
      let (result, executor) := desk.executor.execute sha256 call registry
      (.execution call result, { desk with executor })
    | none => (.nothing, desk)

abbrev ToolEvent := Event ToolDesk ToolRequest fun _ => ToolAnswer

def deskAfter (requests : List ToolRequest) : ToolDesk := final (perform loads sha256) {} requests

def deskTrace (requests : List ToolRequest) : List ToolEvent :=
  trace (perform loads sha256) {} requests

def performs (kind : AdmittedToolCall → Bool) (e : ToolEvent) : Bool :=
  match e.response with
  | .execution call result => kind call && result.status = .executed
  | _ => false

def suppresses (call : AdmittedToolCall) (e : ToolEvent) : Prop :=
  ∃ operationId, e.response = .execution call ⟨.duplicateSuppressed, operationId⟩

def Attempts (kind : AdmittedToolCall → Bool) (e : ToolEvent) : Prop :=
  ∃ index registry call, e.call = .execute index registry ∧
    e.before.admitted[index]? = some call ∧ kind call = true ∧
    registry.isActive call.toolName call.toolVersion = true

def ofEffect (effect : Effect) (call : AdmittedToolCall) : Bool := call.effect = effect

structure OneEffect (requests : List ToolRequest) : Prop where
  agree : ∀ first ∈ (deskAfter loads sha256 requests).admitted,
    ∀ second ∈ (deskAfter loads sha256 requests).admitted,
      first.idempotencyKey = second.idempotencyKey → first.effect = second.effect
  once : ∀ effect, (∃ e ∈ deskTrace loads sha256 requests, Attempts (ofEffect effect) e) →
    (deskTrace loads sha256 requests).countP (performs (ofEffect effect)) = 1
  unattempted : ∀ effect,
    (∀ e ∈ deskTrace loads sha256 requests, ¬ Attempts (ofEffect effect) e) →
      (deskTrace loads sha256 requests).countP (performs (ofEffect effect)) = 0
  suppressed : ∀ front e back call, deskTrace loads sha256 requests = front ++ e :: back →
    suppresses call e → ∃ earlier ∈ front, performs (ofEffect call.effect) earlier = true

/-- Cut at their colons, the fields have the same pieces, but not the same number of them in
each field. -/
def Confusable (first second : Effect) : Prop :=
  (Text.pieces ':' first.fields).flatten = (Text.pieces ':' second.fields).flatten ∧
    (Text.pieces ':' first.fields).map List.length ≠
      (Text.pieces ':' second.fields).map List.length

instance (first second : Effect) : Decidable (Confusable first second) :=
  inferInstanceAs (Decidable (_ ∧ _))

end Model

section Keys

/-- The key is of the joined fields. -/
def Effect.key (sha256 : String → String) (effect : Effect) : String :=
  "sha256:" ++ sha256 (String.intercalate ":" effect.fields)

theorem Effect.fields_injective : Function.Injective Effect.fields := by
  intro first second same
  rcases first with ⟨_, _, _, _, _⟩
  simp only [Effect.fields, List.cons.injEq, and_true] at same
  rcases same with ⟨names, versions, tenants, reports, numbers⟩
  rw [names, versions, tenants, reports, Text.int_toString_injective numbers]

variable {sha256 : String → String}

theorem Effect.key_eq_iff (injective : Function.Injective sha256)
    (first second : Effect) : first.key sha256 = second.key sha256 ↔
      (Text.pieces ':' first.fields).flatten = (Text.pieces ':' second.fields).flatten := by
  have filled : ∀ effect : Effect, effect.fields ≠ [] := fun _ => List.cons_ne_nil _ _
  rw [← Text.intercalate_eq_iff ':' (filled first) (filled second)]
  constructor
  · intro same
    have digests := String.toList_inj.mpr same
    rw [Effect.key, Effect.key, String.toList_append, String.toList_append] at digests
    exact injective (String.toList_inj.mp (List.append_cancel_left digests))
  · intro same
    exact congrArg (fun text => "sha256:" ++ sha256 text) same

theorem confusable_iff (injective : Function.Injective sha256) (first second : Effect) :
    Confusable first second ↔ first.key sha256 = second.key sha256 ∧ first ≠ second := by
  rw [Effect.key_eq_iff injective]
  constructor
  · rintro ⟨pieces, counts⟩
    refine ⟨pieces, ?_⟩
    intro same
    exact counts (by rw [same])
  · rintro ⟨pieces, different⟩
    refine ⟨pieces, ?_⟩
    intro counts
    exact different (Effect.fields_injective (Text.fields_eq_of_pieces ':' pieces counts))

end Keys

section Desk

variable (loads : String → Option Value) (sha256 : String → String)

inductive DeskStep (desk : ToolDesk) : ToolRequest → ToolAnswer × ToolDesk → Prop
  | admission (raw attemptId jobId : String) (registry : ToolRegistry) (auth : AuthContext)
      (reports : InMemoryReportStore) (decision : Except ToolError AdmissionDecision)
      (calls : List AdmittedToolCall)
      (keyed : ∀ call ∈ calls, call.idempotencyKey = call.effect.key sha256) :
      DeskStep desk (.admission raw attemptId jobId registry auth reports)
        (.admission decision, { desk with admitted := desk.admitted ++ calls })
  | execution (index : Nat) (registry : ToolRegistry) (call : AdmittedToolCall)
      (result : ExecutionResult) (executor : InMemoryToolExecutor)
      (found : desk.admitted[index]? = some call)
      (step : InMemoryToolExecutor.Step sha256 call registry desk.executor (result, executor)) :
      DeskStep desk (.execute index registry) (.execution call result, { desk with executor })
  | nothing (index : Nat) (registry : ToolRegistry) (missing : desk.admitted[index]? = none) :
      DeskStep desk (.execute index registry) (.nothing, desk)

theorem perform_deskStep (desk : ToolDesk) (request : ToolRequest) :
    DeskStep sha256 desk request (perform loads sha256 request desk) := by
  cases request with
  | admission raw attemptId jobId registry auth reports =>
    refine .admission raw attemptId jobId registry auth reports _ _ ?_
    intro call member
    rw [Option.mem_toList, Option.bind_eq_some_iff] at member
    rcases member with ⟨_, decided, admitted⟩
    cases outcome : admitToolCall loads sha256 raw attemptId jobId registry auth reports with
    | error =>
      rw [outcome] at decided
      cases decided
    | ok =>
      rw [outcome] at decided
      cases decided
      exact (admitToolCall_admits outcome admitted).key
  | execute index registry =>
    simp only [perform]
    cases found : desk.admitted[index]? with
    | none => exact .nothing index registry found
    | some call =>
      exact .execution index registry call _ _ found
        (InMemoryToolExecutor.execute_step sha256 call registry desk.executor)

variable {loads sha256} {requests : List ToolRequest} {e : ToolEvent}

theorem event_deskStep (member : e ∈ deskTrace loads sha256 requests) :
    DeskStep sha256 e.before e.call (e.response, e.after) := by
  have performed := mem_trace_performed member
  have same : perform loads sha256 e.call e.before = (e.response, e.after) :=
    Prod.ext performed.1.symm performed.2.symm
  have step := perform_deskStep loads sha256 e.before e.call
  rw [same] at step
  exact step

variable {desk : ToolDesk} {request : ToolRequest} {result : ToolAnswer × ToolDesk}

theorem DeskStep.admitted_extends (step : DeskStep sha256 desk request result) :
    desk.admitted <+: result.2.admitted := by
  cases step with
  | admission =>
    exact List.prefix_append _ _
  | execution | nothing => exact List.prefix_refl _

theorem DeskStep.keyed (step : DeskStep sha256 desk request result)
    (keyed : ∀ call ∈ desk.admitted, call.idempotencyKey = call.effect.key sha256) :
    ∀ call ∈ result.2.admitted, call.idempotencyKey = call.effect.key sha256 := by
  cases step with
  | admission _ _ _ _ _ _ _ _ fresh =>
    intro call member
    rcases List.mem_append.mp member with old | new
    · exact keyed call old
    · exact fresh call new
  | execution | nothing => exact keyed

theorem deskAfter_keyed (requests : List ToolRequest) :
    ∀ call ∈ (deskAfter loads sha256 requests).admitted,
      call.idempotencyKey = call.effect.key sha256 := by
  refine kept_final (perform loads sha256)
    (fun desk => ∀ call ∈ desk.admitted, call.idempotencyKey = call.effect.key sha256) {}
    requests ?_ ?_
  · intro e member
    exact (event_deskStep member).keyed
  · intro call member
    cases member

variable {call : AdmittedToolCall}

theorem admitted_of_before (member : e ∈ deskTrace loads sha256 requests) {index : Nat}
    (found : e.before.admitted[index]? = some call) :
    call ∈ (deskAfter loads sha256 requests).admitted := by
  have grown : e.before.admitted <+: (deskAfter loads sha256 requests).admitted := by
    refine kept_after (perform loads sha256)
      (fun desk => e.before.admitted <+: desk.admitted) ?_ member
      (event_deskStep member).admitted_extends
    intro later inside earlier
    exact earlier.trans (event_deskStep inside).admitted_extends
  exact grown.subset (List.mem_of_getElem? found)

def ofKey (key : String) (call : AdmittedToolCall) : Bool := call.idempotencyKey = key

theorem DeskStep.stored (step : DeskStep sha256 desk request result) (key : String) :
    (result.2.executor.operations.lookup key).isSome.toNat =
      (desk.executor.operations.lookup key).isSome.toNat +
        if performs (ofKey key) ⟨desk, request, result.1, result.2⟩ then 1 else 0 := by
  cases step with
  | admission | nothing => rfl
  | execution _ _ call _ _ _ step =>
    cases step with
    | rejected | suppressed => simp [performs]
    | executed _ _ fresh stored =>
      simp only [performs, ofKey, stored, decide_true, Bool.and_true, decide_eq_true_eq]
      by_cases same : key = call.idempotencyKey
      · rw [if_pos same, if_pos same.symm, same, fresh]
        rfl
      · rw [if_neg same, if_neg (Ne.symm same), Nat.add_zero]

theorem performed_key (requests : List ToolRequest) (key : String) :
    (deskTrace loads sha256 requests).countP (performs (ofKey key)) =
      ((deskAfter loads sha256 requests).executor.operations.lookup key).isSome.toNat := by
  have counted := measure_final (perform loads sha256)
    (fun desk => (desk.executor.operations.lookup key).isSome.toNat) (performs (ofKey key)) {}
    requests (fun e member => (event_deskStep member).stored key)
  simp only [Dict.lookup_empty, Option.isSome_none, Bool.toNat_false, Nat.zero_add] at counted
  exact counted.symm

section

variable (member : e ∈ deskTrace loads sha256 requests)
include member

theorem performs_attempts {kind : AdmittedToolCall → Bool} (performed : performs kind e = true) :
    Attempts kind e := by
  have step := event_deskStep member
  rcases e with ⟨_, _, _, _⟩
  dsimp only at step
  cases step with
  | admission | nothing => cases performed
  | execution index registry call _ _ found step =>
    simp only [performs, Bool.and_eq_true] at performed
    rcases performed with ⟨kinded, executed⟩
    cases step with
    | rejected | suppressed => cases executed
    | executed _ active =>
      exact ⟨index, registry, call, rfl, found, kinded, active⟩

variable {key : String}

theorem attempted_stored (attempted : Attempts (ofKey key) e) :
    (e.after.executor.operations.lookup key).isSome = true := by
  have step := event_deskStep member
  rcases e with ⟨_, _, _, changed⟩
  rcases attempted with ⟨_, _, call, requested, found, kinded, active⟩
  have same : call.idempotencyKey = key := of_decide_eq_true kinded
  dsimp only at step requested found
  rw [requested] at step
  cases step with
  | nothing _ _ missing => cases missing.symm.trans found
  | execution _ _ _ _ _ present step =>
    cases present.symm.trans found
    cases step with
    | rejected inactive => cases inactive.symm.trans active
    | suppressed _ _ stored =>
      rw [same] at stored
      exact Option.isSome_of_eq_some stored
    | executed _ _ _ stored =>
      have now := stored key
      rw [if_pos same.symm] at now
      exact Option.isSome_of_eq_some now

theorem suppresses_stored (suppressed : suppresses call e) :
    (e.before.executor.operations.lookup call.idempotencyKey).isSome = true ∧
      ∃ index : Nat, e.before.admitted[index]? = some call := by
  have step := event_deskStep member
  rcases e with ⟨_, _, _, _⟩
  rcases suppressed with ⟨_, answered⟩
  dsimp only at step answered
  rw [answered] at step
  cases step with
  | execution index _ _ _ _ found step =>
    cases step with
    | suppressed _ _ stored => exact ⟨Option.isSome_of_eq_some stored, index, found⟩

theorem stored_kept (stored : (e.before.executor.operations.lookup key).isSome = true) :
    (e.after.executor.operations.lookup key).isSome = true := by
  have counted := (event_deskStep member).stored key
  rw [stored] at counted
  cases after : (e.after.executor.operations.lookup key).isSome with
  | true => rfl
  | false =>
    rw [after] at counted
    simp only [Bool.toNat_false, Bool.toNat_true] at counted
    omega

theorem performs_congr {kind other : AdmittedToolCall → Bool}
    (same : ∀ call ∈ (deskAfter loads sha256 requests).admitted, kind call = other call) :
    performs kind e = performs other e := by
  have step := event_deskStep member
  have listed : ∀ (index : Nat) call, e.before.admitted[index]? = some call →
      call ∈ (deskAfter loads sha256 requests).admitted :=
    fun index call found => admitted_of_before member found
  rcases e with ⟨_, _, _, _⟩
  dsimp only at step listed
  cases step with
  | admission | nothing => rfl
  | execution index _ call _ _ found =>
    simp [performs, same call (listed index call found)]

end

section

variable (agree : ∀ first ∈ (deskAfter loads sha256 requests).admitted,
    ∀ second ∈ (deskAfter loads sha256 requests).admitted,
      first.idempotencyKey = second.idempotencyKey → first.effect = second.effect)
include agree

theorem ofEffect_eq_ofKey {known : AdmittedToolCall}
    (member : known ∈ (deskAfter loads sha256 requests).admitted) :
    ∀ call ∈ (deskAfter loads sha256 requests).admitted,
      ofEffect known.effect call = ofKey known.idempotencyKey call := by
  intro call listed
  refine decide_eq_decide.mpr ⟨?_, agree call listed known member⟩
  intro same
  rw [deskAfter_keyed requests call listed, deskAfter_keyed requests known member, same]

theorem oneEffect_of_agree : OneEffect loads sha256 requests where
  agree := agree
  once := by
    rintro effect ⟨e, member, attempted⟩
    rcases attempted with ⟨index, registry, call, requested, found, kinded, active⟩
    have known := admitted_of_before member found
    have same : call.effect = effect := of_decide_eq_true kinded
    have stored : ((deskAfter loads sha256 requests).executor.operations.lookup
        call.idempotencyKey).isSome = true := by
      refine kept_after (perform loads sha256)
        (fun desk => (desk.executor.operations.lookup call.idempotencyKey).isSome = true)
        (fun other inside => stored_kept inside) member ?_
      exact attempted_stored member
        ⟨index, registry, call, requested, found, decide_eq_true rfl, active⟩
    have counted : (deskTrace loads sha256 requests).countP
        (performs (ofKey call.idempotencyKey)) = 1 := by
      rw [performed_key, stored, Bool.toNat_true]
    rw [← same, ← counted]
    apply List.countP_congr
    intro other inside
    rw [performs_congr inside (ofEffect_eq_ofKey agree known)]
  unattempted := by
    intro effect quiet
    apply List.countP_eq_zero.mpr
    intro e member performed
    exact quiet e member (performs_attempts member performed)
  suppressed := by
    intro front e back call split suppressed
    have member : e ∈ deskTrace loads sha256 requests := by
      rw [split]
      exact List.mem_append_right _ List.mem_cons_self
    rcases suppresses_stored member suppressed with ⟨stored, _, found⟩
    have known := admitted_of_before member found
    rcases trace_eq_append_cons _ _ _ _ _ _ split with ⟨early, _, _, fronts, same, _⟩
    have before : e.before = deskAfter loads sha256 early := congrArg Event.before same
    have counted : 0 < front.countP (performs (ofKey call.idempotencyKey)) := by
      have performed : (deskTrace loads sha256 early).countP
          (performs (ofKey call.idempotencyKey)) = _ := performed_key early call.idempotencyKey
      rw [← before, stored, deskTrace, ← fronts] at performed
      rw [performed]
      exact Nat.one_pos
    rcases List.countP_pos_iff.mp counted with ⟨earlier, inside, performed⟩
    refine ⟨earlier, inside, ?_⟩
    have listed : earlier ∈ deskTrace loads sha256 requests := by
      rw [split]
      exact List.mem_append_left _ inside
    rw [performs_congr listed (ofEffect_eq_ofKey agree known)]
    exact performed

end

end Desk

/-- One effect has one key exactly where no two admitted calls have fields that are the same
text cut differently. -/
theorem one_effect_one_key (loads : String → Option Value) (sha256 : String → String)
    (injective : Function.Injective sha256) (requests : List ToolRequest) :
    OneEffect loads sha256 requests ↔ ∀ first ∈ (deskAfter loads sha256 requests).admitted,
        ∀ second ∈ (deskAfter loads sha256 requests).admitted,
          ¬ Confusable first.effect second.effect := by
  constructor
  · intro law first listed second member confusable
    rcases (confusable_iff injective _ _).mp confusable with ⟨keys, different⟩
    refine different (law.agree first listed second member ?_)
    rw [deskAfter_keyed requests first listed, deskAfter_keyed requests second member, keys]
  · intro apart
    apply oneEffect_of_agree
    intro first listed second member keys
    rw [deskAfter_keyed requests first listed, deskAfter_keyed requests second member] at keys
    by_contra different
    exact apart first listed second member
      ((confusable_iff injective _ _).mpr ⟨keys, different⟩)

namespace Sample

def candidateText (tenantId reportId : String) : String :=
  Json.object
    [("kind", Json.string "tool_call"), ("tool_call_id", Json.string "call-1"),
     ("tool_name", Json.string "publish_report"), ("tool_version", Json.string "v1"),
     ("arguments", Json.object
       [("tenant_id", Json.string tenantId), ("report_id", Json.string reportId)])]

def candidate (tenantId reportId : String) : Value :=
  .object
    [("kind", .text "tool_call"), ("tool_call_id", .text "call-1"),
     ("tool_name", .text "publish_report"), ("tool_version", .text "v1"),
     ("arguments", .object [("tenant_id", .text tenantId), ("report_id", .text reportId)])]

def loads (raw : String) : Option Value :=
  if raw = candidateText "a" "b:c" then some (candidate "a" "b:c")
  else if raw = candidateText "a:b" "c" then some (candidate "a:b" "c")
  else none

def digest (material : String) : String := material

def registry : ToolRegistry :=
  ToolRegistry.empty.add ⟨"publish_report", "v1", publishReportV1ArgumentsSchema⟩

def reports : InMemoryReportStore := .create [⟨"a", "b:c", .draft, 1⟩, ⟨"a:b", "c", .draft, 1⟩]

def admits (tenantId reportId : String) : ToolRequest :=
  .admission (candidateText tenantId reportId) "attempt-1" "job-1" registry
    ⟨tenantId, "user-1", "publisher"⟩ reports

/-- One call, executed twice. -/
def retried : List ToolRequest := [admits "a" "b:c", .execute 0 registry, .execute 0 registry]

theorem one_effect_one_key_retried : Function.Injective digest ∧ OneEffect loads digest retried :=
  ⟨Function.injective_id, (one_effect_one_key loads digest Function.injective_id retried).mpr
    (by decide +kernel)⟩

/-- The calls of two tenants, each executed once. -/
def confused : List ToolRequest :=
  [admits "a" "b:c", admits "a:b" "c", .execute 0 registry, .execute 1 registry]

/-- The two tenants share a key. -/
theorem tenants_confused : ¬ OneEffect loads digest confused := by
  intro law
  exact absurd law.agree (by decide +kernel)

/-- So the effect of the second is counted as a duplicate, and never performed. -/
example : (deskTrace loads digest confused).countP
    (performs (ofEffect ⟨"publish_report", "v1", "a:b", "c", 1⟩)) = 0 := by decide +kernel

end Sample

end BackendHandbook.Tools
