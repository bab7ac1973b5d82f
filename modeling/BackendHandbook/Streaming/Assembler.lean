import BackendHandbook.Foundation.Run
import Mathlib.Data.List.Induction
import Mathlib.Order.BooleanAlgebra.Basic
import Mathlib.Tactic.MkIffOfInductiveProp

/-! The assembly of one stream's events into a complete candidate, which is not yet admitted. -/

namespace BackendHandbook.Streaming

open Run

inductive StreamEventType
  | contentDelta | progress | completed | error
  deriving DecidableEq

inductive StreamAssemblyStatus
  | buffering | completeCandidate | malformedStream | streamError
  deriving DecidableEq

structure StreamEvent where
  (tenantId jobId attemptId streamId : String)
  sequence : Int
  eventType : StreamEventType
  data : String := ""

structure CompleteCandidate where
  (tenantId jobId attemptId streamId rawOutput : String)
  deriving DecidableEq

structure StreamAssemblyDecision where
  status : StreamAssemblyStatus
  safeReasonCode : String
  candidate : Option CompleteCandidate := none
  deriving DecidableEq

structure StreamAssembler where
  (tenantId jobId attemptId streamId : String)
  maxBufferBytes : Int
  nextSequence : Int := 1
  bufferBytes : Nat := 0
  parts : List String := []
  terminal : Bool := false
  maxBufferBytes_pos : 0 < maxBufferBytes

namespace StreamAssembler

def create (tenantId jobId attemptId streamId : String) (maxBufferBytes : Int) :
    Except String StreamAssembler :=
  if positive : 0 < maxBufferBytes then
    .ok { tenantId, jobId, attemptId, streamId, maxBufferBytes, maxBufferBytes_pos := positive }
  else .error "max_buffer_bytes must be positive"

/-- The event has the four identities of the assembler. -/
def Carries (assembler : StreamAssembler) (event : StreamEvent) : Prop :=
  event.tenantId = assembler.tenantId ∧ event.jobId = assembler.jobId ∧
    event.attemptId = assembler.attemptId ∧ event.streamId = assembler.streamId
  deriving Decidable

def accept (event : StreamEvent) (assembler : StreamAssembler) :
    StreamAssemblyDecision × StreamAssembler :=
  let closed := { assembler with terminal := true }
  if assembler.terminal then (⟨.malformedStream, "EVENT_AFTER_TERMINAL", none⟩, assembler)
  else if ¬ assembler.Carries event then
    (⟨.malformedStream, "STREAM_IDENTITY_MISMATCH", none⟩, closed)
  else if event.sequence ≠ assembler.nextSequence then
    (⟨.malformedStream, "STREAM_SEQUENCE_MISMATCH", none⟩, closed)
  else
    let counted := { assembler with nextSequence := assembler.nextSequence + 1 }
    match event.eventType with
    | .contentDelta =>
      let bufferBytes := assembler.bufferBytes + event.data.utf8ByteSize
      if assembler.maxBufferBytes < bufferBytes then
        (⟨.malformedStream, "STREAM_BUFFER_LIMIT_EXCEEDED", none⟩,
          { counted with terminal := true })
      else
        (⟨.buffering, "CONTENT_BUFFERED", none⟩,
          { counted with parts := assembler.parts ++ [event.data], bufferBytes })
    | .progress => (⟨.buffering, "PROGRESS_OBSERVED_NOT_CANDIDATE_CONTENT", none⟩, counted)
    | .error =>
      (⟨.streamError, "PROVIDER_STREAM_ERROR", none⟩, { counted with terminal := true })
    | .completed =>
      (⟨.completeCandidate, "STREAM_COMPLETED", some ⟨assembler.tenantId, assembler.jobId,
        assembler.attemptId, assembler.streamId, String.join assembler.parts⟩⟩,
        { counted with terminal := true })

/-- The concatenated texts of the content events. -/
def rawOutput (events : List StreamEvent) : String :=
  String.join ((events.filter (·.eventType = .contentDelta)).map (·.data))

/-- Events that leave a stream open. -/
structure Buffers (assembler : StreamAssembler) (events : List StreamEvent) : Prop where
  carried : ∀ event ∈ events, assembler.Carries event
  numbered : events.map (·.sequence) = (List.range events.length).map fun i : Nat => (i : Int) + 1
  unended : ∀ event ∈ events, event.eventType = .contentDelta ∨ event.eventType = .progress
  fits : (rawOutput events).utf8ByteSize ≤ assembler.maxBufferBytes

/-- The events of a stream up to the one that completes it. -/
@[mk_iff]
structure Completes (assembler : StreamAssembler) (front : List StreamEvent)
    (last : StreamEvent) : Prop where
  buffers : assembler.Buffers front
  carried : assembler.Carries last
  numbered : last.sequence = front.length + 1
  completed : last.eventType = .completed

/-- The assembler holds these events. -/
structure Holds (assembler state : StreamAssembler) (events : List StreamEvent) : Prop where
  same : (state.tenantId, state.jobId, state.attemptId, state.streamId, state.maxBufferBytes) =
    (assembler.tenantId, assembler.jobId, assembler.attemptId, assembler.streamId,
      assembler.maxBufferBytes)
  next : state.nextSequence = events.length + 1
  bytes : state.bufferBytes = (rawOutput events).utf8ByteSize
  joined : String.join state.parts = rawOutput events
  opened : state.terminal = false

variable {assembler state : StreamAssembler} {front : List StreamEvent} {event : StreamEvent}

theorem rawOutput_delta (delta : event.eventType = .contentDelta) :
    rawOutput (front ++ [event]) = rawOutput front ++ event.data := by
  simp [rawOutput, delta]

theorem rawOutput_other (other : event.eventType ≠ .contentDelta) :
    rawOutput (front ++ [event]) = rawOutput front := by
  simp [rawOutput, other]

theorem rawOutput_le :
    (rawOutput front).utf8ByteSize ≤ (rawOutput (front ++ [event])).utf8ByteSize := by
  by_cases delta : event.eventType = .contentDelta
  · rw [rawOutput_delta delta, String.utf8ByteSize_append]
    omega
  · rw [rawOutput_other delta]

theorem buffers_snoc : assembler.Buffers (front ++ [event]) ↔
    assembler.Buffers front ∧ assembler.Carries event ∧ event.sequence = front.length + 1 ∧
      (event.eventType = .contentDelta ∨ event.eventType = .progress) ∧
      (rawOutput (front ++ [event])).utf8ByteSize ≤ assembler.maxBufferBytes := by
  have less := @rawOutput_le front event
  constructor
  · intro all
    have numbered := all.numbered
    rw [List.length_append, List.length_singleton, List.range_succ, List.map_append,
      List.map_append] at numbered
    have parts := List.append_inj' numbered rfl
    have fits := all.fits
    exact ⟨⟨fun e member => all.carried e (by simp [member]), parts.1,
      fun e member => all.unended e (by simp [member]), by omega⟩, all.carried _ (by simp),
      List.singleton_inj.mp parts.2, all.unended _ (by simp), fits⟩
  · intro ⟨buffers, carried, numbered, kind, fits⟩
    constructor
    · simpa [or_imp, forall_and] using ⟨buffers.carried, carried⟩
    · simp [List.range_succ, buffers.numbered, numbered]
    · simpa [or_imp, forall_and] using ⟨buffers.unended, kind⟩
    · exact fits

/-- The candidate is the answer exactly to the event that completes the stream. -/
def Answers (assembler : StreamAssembler) (front : List StreamEvent) (last : StreamEvent)
    (decision : StreamAssemblyDecision) : Prop :=
  assembler.Completes front last ∧ decision =
      ⟨.completeCandidate, "STREAM_COMPLETED", some ⟨assembler.tenantId, assembler.jobId,
        assembler.attemptId, assembler.streamId, rawOutput front⟩⟩ ∨
    ¬ assembler.Completes front last ∧ decision.status ≠ .completeCandidate ∧
      decision.candidate = none

theorem accept_cases (holds : assembler.Holds state front) (buffers : assembler.Buffers front) :
    assembler.Answers front event (accept event state).1 ∧ (assembler.Buffers (front ++ [event]) ∧
          assembler.Holds (accept event state).2 (front ++ [event]) ∨
        ¬ assembler.Buffers (front ++ [event]) ∧ (accept event state).2.terminal = true) := by
  rcases holds with ⟨same, next, bytes, joined, opened⟩
  simp only [Prod.mk.injEq] at same
  rcases same with ⟨tenants, jobs, attempts, streams, limits⟩
  have identified : state.Carries event ↔ assembler.Carries event := by
    simp [Carries, *]
  rw [buffers_snoc, Answers, completes_iff]
  by_cases carried : assembler.Carries event
  · by_cases numbered : event.sequence = front.length + 1
    · cases kind : event.eventType with
      | contentDelta =>
        have delta := @rawOutput_delta front event kind
        by_cases above : assembler.maxBufferBytes <
            (rawOutput front).utf8ByteSize + event.data.utf8ByteSize
        · have past := not_le.mpr above
          simp [accept, *]
        · have fits := not_lt.mp above
          simp [accept, *]
          constructor <;> simp [delta, ← joined]
      | progress =>
        have other := @rawOutput_other front event (by simp [kind])
        have fits := buffers.fits
        simp [accept, *]
        constructor <;> simp [other, joined]
      | completed => simp [accept, *]
      | error => simp [accept, *]
    · simp [accept, *]
  · simp [accept, *]

theorem accept_terminal (closed : state.terminal = true) :
    accept event state = (⟨.malformedStream, "EVENT_AFTER_TERMINAL", none⟩, state) := by
  simp [accept, closed]

/-- Either every event so far has been held, or the stream has ended. -/
theorem final_cases (empty : assembler.Holds assembler []) (events : List StreamEvent) :
    assembler.Buffers events ∧ assembler.Holds (final accept assembler events) events ∨
    ¬ assembler.Buffers events ∧ (final accept assembler events).terminal = true := by
  induction events using List.reverseRecOn with
  | nil =>
    left
    exact ⟨⟨nofun, rfl, nofun, Int.le_of_lt assembler.maxBufferBytes_pos⟩, empty⟩
  | append_singleton front event ih =>
    rw [final_append]
    rcases ih with ⟨buffers, holds⟩ | ⟨ended, closed⟩
    · exact (accept_cases holds buffers).2
    · right
      rw [buffers_snoc]
      exact ⟨fun all => ended all.1, by simp [final, accept_terminal closed, closed]⟩

theorem final_answers (empty : assembler.Holds assembler []) (front : List StreamEvent)
    (last : StreamEvent) :
    assembler.Answers front last (accept last (final accept assembler front)).1 := by
  rcases final_cases empty front with ⟨buffers, holds⟩ | ⟨ended, closed⟩
  · exact (accept_cases holds buffers).1
  · right
    rw [accept_terminal closed]
    exact ⟨fun all => ended all.buffers, nofun, rfl⟩

/-- Only a buffering answer leaves the stream open. -/
theorem accept_closes (ends : (accept event state).1.status ≠ .buffering) :
    (accept event state).2.terminal = true := by
  by_cases closed : state.terminal = true
  · rw [accept_terminal closed, closed]
  · by_cases carried : state.Carries event
    · by_cases numbered : event.sequence = state.nextSequence
      · cases kind : event.eventType <;> simp [accept, closed, carried, numbered, kind] at ends ⊢
        split at ends
        · simp [*]
        · cases ends rfl
      · simp [accept, closed, carried, numbered]
    · simp [accept, closed, carried]

theorem trace_latched (events : List StreamEvent) :
    (trace accept state events).Pairwise fun earlier later =>
      earlier.response.status ≠ .buffering → later.response.status = .malformedStream := by
  rw [pairwise_iff_split]
  intro front later back split earlier inside ends
  have member : ∀ other ∈ front ++ later :: back, other ∈ trace accept state events :=
    fun other inside => split ▸ inside
  have closed : later.before.terminal = true := by
    apply kept_upto accept (·.terminal = true) split _ inside
    · have performed := mem_trace_performed (member earlier (by simp [inside]))
      rw [performed.1] at ends
      rw [performed.2]
      exact accept_closes ends
    · intro other before closed
      rw [(mem_trace_performed (member _ (by simp [before]))).2, accept_terminal closed, closed]
  rw [(mem_trace_performed (member _ (by simp))).1, accept_terminal closed]

/-- What is promised of the events that are fed to one assembler. -/
structure Faithful (assembler : StreamAssembler) : Prop where
  answers : ∀ front last,
    assembler.Answers front last (accept last (final accept assembler front)).1
  once : ∀ events,
    (trace accept assembler events).countP (·.response.status = .completeCandidate) ≤ 1
  latched : ∀ events, (trace accept assembler events).Pairwise fun earlier later =>
    earlier.response.status ≠ .buffering → later.response.status = .malformedStream

end StreamAssembler

end BackendHandbook.Streaming
