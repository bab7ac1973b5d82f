import BackendHandbook.Chunking.Tokenizer
import BackendHandbook.Foundation.Fallible
import Mathlib.Algebra.GroupWithZero.Nat
import Mathlib.Data.List.MinMax

/-! The pure, bounded strategy adapter, which produces untrusted chunk candidates only. -/

namespace BackendHandbook.Chunking

open Ingestion Pieces Text

namespace ChunkingStrategyAdapter

def refuse {α : Type} (safeReason : String) : Except Raised α :=
  .error (.chunkGenerationError safeReason)

/-! The boundary tests, at an offset into the text. -/

variable (text : List Char) (offset : Nat)

def isSection : Bool :=
  slice text offset (offset + 1) == ['#'] && (offset == 0 || text[offset - 1]? == some '\n')

def isParagraph : Bool := slice text (offset - 2) offset == ['\n', '\n']

def isSentence : Bool :=
  match (rstrip (text.take offset)).getLast? with
  | some last => ['.', '!', '?', '。', '！', '？'].contains last
  | none => false

def isWhitespace : Bool := 0 < offset && (text[offset - 1]?).any isSpace

def isTableRow : Bool :=
  0 < offset && text[offset - 1]? == some '\n' && slice text offset (offset + 1) == ['|']

/-- `text.count` of a fence of three backticks: the occurrences do not overlap. -/
def countFences : List Char → Nat
  | '\x60' :: '\x60' :: '\x60' :: rest => countFences rest + 1
  | _ :: rest => countFences rest
  | [] => 0

def isCodeLine (text : List Char) (offset : Nat) : Bool :=
  0 < offset && text[offset - 1]? == some '\n' && countFences (text.take offset) % 2 == 1

def priorities (contract : ChunkingContract) : List (String × (List Char → Nat → Bool)) :=
  (if contract.strategy = .sectionAware then
    [("SECTION", isSection), ("PARAGRAPH", isParagraph), ("TABLE_ROW", isTableRow),
      ("CODE_LINE", isCodeLine), ("SENTENCE", isSentence)]
  else [("SECTION", isSection), ("PARAGRAPH", isParagraph), ("SENTENCE", isSentence)]) ++
  (if contract.oversizedPolicy = .boundedFallback then [("WHITESPACE_FALLBACK", isWhitespace)]
  else [])

def endBefore (spans : List TokenSpan) (index : Nat) : Nat := (spans.getD (index - 1) default).end_

def choices (text : List Char) (spans : List TokenSpan) (lower limit : Nat)
    (predicate : List Char → Nat → Bool) : List Nat :=
  (List.range' lower (limit + 1 - lower)).filter fun index => predicate text (endBefore spans index)

/-- The choice nearest to the target, the smaller one of two. -/
def nearest (target : Nat) (choices : List Nat) : Option Nat :=
  choices.argmin fun index => toLex ((index - target) + (target - index), index)

def chooseEnd (text : List Char) (spans : List TokenSpan) (start : Nat)
    (contract : ChunkingContract) (bodyBudget : Nat) : Except Raised (Nat × String) :=
  let total := spans.length
  if total - start ≤ bodyBudget then .ok (total, "SOURCE_END")
  else
    let limit := min (start + bodyBudget) total
    let target := min (start + contract.softTargetTokens) limit
    if contract.strategy = .fixedToken then .ok (target, "FIXED_TOKEN_WINDOW")
    else
      let lower := start + max contract.minUsefulTokens (contract.overlapTokens + 1)
      match (priorities contract).findSome? fun priority =>
          (nearest target (choices text spans lower limit priority.2)).map (·, priority.1) with
      | some selected => .ok selected
      | none =>
        if contract.oversizedPolicy = .failClosed then refuse "OVERSIZED_ATOMIC_UNIT"
        else .ok (limit, "HARD_TOKEN_FALLBACK")

/-! The structural context that is repeated before a body. -/

def lineBreak (c : Char) : Bool :=
  let n := c.toNat
  (10 ≤ n && n ≤ 13) || (28 ≤ n && n ≤ 30) || n == 0x85 || n == 0x2028 || n == 0x2029

/-- `str.splitlines(keepends=True)`: a line ends after its break, and `\r\n` is one break. -/
def splitlines (text : List Char) : List (List Char) :=
  text.splitBy fun first second => !lineBreak first || (first == '\r' && second == '\n')

/-- The line without the carriage returns and newlines at its end. -/
def visible (line : List Char) : List Char := line.rdropWhile fun c => c == '\r' || c == '\n'

structure ContextState where
  heading : Option SourceSegment := none
  tableHeader : Option SourceSegment := none
  currentTable : Option (Nat × Nat) := none

def headingAfter (bodyStart offset : Nat) (line : List Char) (state : ContextState) :
    Except Raised (Option SourceSegment) :=
  if (lstrip line).head? = some '#' ∧ offset ≤ bodyStart then
    some <$> SourceSegment.make offset (offset + (visible line).length) "heading-context"
  else .ok state.heading

def tableHeaderAfter (offset : Nat) (line : List Char) (state : ContextState) :
    Except Raised (Option SourceSegment) :=
  if state.currentTable = none then
    some <$> SourceSegment.make offset (offset + (visible line).length) "table-header-context"
  else .ok state.tableHeader

def contextLine (bodyStart offset : Nat) (line : List Char) (state : ContextState) :
    Except Raised ContextState := do
  let heading ← headingAfter bodyStart offset line state
  if (lstrip line).head? = some '|' then
    let tableHeader ← tableHeaderAfter offset line state
    .ok { heading, tableHeader, currentTable := some (offset, offset + line.length) }
  else .ok { heading, tableHeader := none, currentTable := none }

def contextLoop (bodyStart : Nat) : Nat → List (List Char) → ContextState →
    Except Raised ContextState
  | _, [], state => .ok state
  | offset, line :: lines, state => do
      let after ← contextLine bodyStart offset line state
      let lineEnd := offset + line.length
      if offset ≤ bodyStart ∧ bodyStart < lineEnd then .ok after
      else contextLoop bodyStart lineEnd lines after

def ContextState.segments (state : ContextState) (bodyStart : Nat) : List SourceSegment :=
  (state.heading.filter (·.end_ ≤ bodyStart)).toList ++ (if state.currentTable = none then []
    else (state.tableHeader.filter (·.end_ ≤ bodyStart)).toList)

def contextSegments (canonical : List Char) (bodyStart : Nat) :
    Except Raised (List SourceSegment) := do
  let state ← contextLoop bodyStart 0 (splitlines canonical) {}
  .ok (state.segments bodyStart)

/-- `"\n".join(context_parts) + ("\n" if context_parts else "")`. -/
def contextPrefix (canonical : List Char) (version : NormalizationVersion)
    (contexts : List SourceSegment) : List Char :=
  ['\n'].intercalate (contexts.map fun segment => segment.normalized canonical version) ++
    (if contexts = [] then [] else ['\n'])

/-- What the loop reads and never changes. -/
structure Job where
  canonical : List Char
  contract : ChunkingContract
  normalized : NormalizedText
  spans : List TokenSpan
  estimatedMemoryBytes : Nat
  started : ℚ

structure LoopState where
  start : Nat := 0
  chunks : List ChunkCandidate := []
  outputChars : Nat := 0
  workUnits : Nat

section Loop

-- `clock n` is the answer to the n-th reading, the first of them `started`.
variable (hashing : Hashing) (tokenizer : TokenizerPort) (clock : Nat → ℚ) (job : Job)

def spendWork (state : LoopState) : Except Raised Nat :=
  if job.contract.deadlineSeconds < clock (state.chunks.length + 1) - job.started then
    refuse "CHUNKING_DEADLINE_EXCEEDED"
  else if job.contract.maxChunkCount ≤ state.chunks.length then
    refuse "MAX_CHUNK_COUNT_EXCEEDED"
  else
    let workUnits := state.workUnits +
      min job.contract.hardMaxTokens (job.spans.length - state.start)
    if job.contract.maxTokenWorkUnits < workUnits then refuse "TOKEN_WORK_BUDGET_EXCEEDED"
    else .ok workUnits

def contextAt (start : Nat) : Except Raised (List SourceSegment) :=
  match job.normalized.sourceOffsets[(job.spans.getD start default).start]? with
  | none => .error .indexError
  | some offset =>
    if job.contract.strategy = .sectionAware then contextSegments job.canonical offset.1
    else .ok []

/-- The end of the window from the start, inside the budget that the context leaves. -/
def windowEnd (start : Nat) (contexts : List SourceSegment) : Except Raised (Nat × String) :=
  let contextText := contextPrefix job.canonical job.contract.normalizationVersion contexts
  -- a difference below zero is refused like zero
  let bodyBudget := job.contract.hardMaxTokens - tokenizer.count contextText
  if bodyBudget < max job.contract.minUsefulTokens (job.contract.overlapTokens + 1) then
    refuse "STRUCTURAL_CONTEXT_EXCEEDS_TOKEN_BUDGET"
  else do
    let (end_, reason) ← chooseEnd job.normalized.text job.spans start job.contract bodyBudget
    if end_ ≤ start ∨ job.contract.hardMaxTokens < end_ - start then
      refuse "INVALID_STRATEGY_BOUNDARY"
    else .ok (end_, reason)

def emit (state : LoopState) (workUnits : Nat) (contexts : List SourceSegment) (end_ : Nat)
    (reason : String) : Except Raised LoopState := do
  let normalizedStart := (job.spans.getD state.start default).start
  let normalizedEnd := endBefore job.spans end_
  let (chunkStart, chunkEnd) ← job.normalized.sourceInterval normalizedStart normalizedEnd
  let content := contextPrefix job.canonical job.contract.normalizationVersion contexts ++
    slice job.normalized.text normalizedStart normalizedEnd
  let actualCount := tokenizer.count content
  let outputChars := state.outputChars + content.length
  let nextStart := end_ - job.contract.overlapTokens
  if job.contract.hardMaxTokens < actualCount then
    refuse "STRUCTURAL_CONTEXT_EXCEEDS_TOKEN_BUDGET"
  else if job.contract.maxOutputChars < outputChars then refuse "OUTPUT_SIZE_BUDGET_EXCEEDED"
  else if job.contract.maxEstimatedMemoryBytes < job.estimatedMemoryBytes + 4 * outputChars then
    refuse "ESTIMATED_MEMORY_BUDGET_EXCEEDED"
  else if end_ - state.start < job.contract.minUsefulTokens ∧
      job.contract.minUsefulTokens ≤ job.spans.length then
    refuse "MINIMUM_USEFUL_SIZE_NOT_MET"
  else if end_ < job.spans.length ∧ nextStart ≤ state.start then
    refuse "NON_ADVANCING_OVERLAP"
  else do
    let body ← SourceSegment.make chunkStart chunkEnd "body"
    let chunk : ChunkCandidate :=
      { ordinal := state.chunks.length
        text := String.ofList content, sourceSegments := contexts ++ [body]
        tokenCount := actualCount, contentHash := sha256Text hashing.text (String.ofList content)
        boundaryReason := reason
        overlapLeftTokens := if 0 < state.start then job.contract.overlapTokens else 0
        overlapRightTokens := if end_ < job.spans.length then job.contract.overlapTokens else 0
        joiner := if contexts = [] then "" else "\n" }
    .ok { start := nextStart, chunks := state.chunks ++ [chunk], outputChars, workUnits }

/-- One round of the loop: the end of its window, and the state with the next start. -/
def iteration (state : LoopState) : Except Raised (Nat × LoopState) := do
  let workUnits ← spendWork clock job state
  let contexts ← contextAt job state.start
  let (end_, reason) ← windowEnd tokenizer job state.start contexts
  let after ← emit hashing tokenizer job state workUnits contexts end_ reason
  .ok (end_, after)

/-- The loop, with fuel for its rounds: no answer means that it ran out of fuel. -/
def loop : Nat → LoopState → Option (Except Raised (List ChunkCandidate))
  | 0, _ => none
  | fuel + 1, state =>
    if state.start < job.spans.length then
      match iteration hashing tokenizer clock job state with
      | .error raised => some (.error raised)
      | .ok (end_, after) =>
        if end_ = job.spans.length then some (.ok after.chunks) else loop fuel after
    else some (.ok state.chunks)

end Loop

section Generate

variable (hashing : Hashing) (tokenizer : TokenizerPort) (clock : Nat → ℚ)

def utf8Length (text : List Char) : Nat := (text.map Char.utf8Size).sum

variable (parsed : ParsedArtifactDefinition) (contract : ChunkingContract)
  (operation : ChunkingOperationIdentity) (attempt : ChunkingAttemptIdentity)
  (experimentId : String)

def prepare : Except Raised Job :=
  let canonical := parsed.canonicalText.toList
  if experimentId = "" then refuse "EXPERIMENT_ID_REQUIRED"
  else if contract.tokenizer ≠ tokenizer.contract then refuse "TOKENIZER_CONTRACT_MISMATCH"
  else if operation.contractFingerprint ≠ contract.fingerprint hashing then
    refuse "CHUNKING_CONTRACT_MISMATCH"
  else if operation.parsedArtifactId ≠ parsed.parsedArtifactId then
    refuse "PARSED_ARTIFACT_BINDING_MISMATCH"
  else if attempt.operationId ≠ operation.operationId then refuse "ATTEMPT_OPERATION_MISMATCH"
  else if canonical = [] ∨ contract.maxInputChars < canonical.length then
    refuse "INPUT_SIZE_BUDGET_EXCEEDED"
  else if parsed.outputChecksumSha256 ≠ sha256Text hashing.text parsed.canonicalText then
    refuse "PARSED_ARTIFACT_CHECKSUM_MISMATCH"
  else
    let normalized := normalize canonical contract.normalizationVersion
    let spans := tokenizer.spans normalized.text
    let estimatedMemoryBytes :=
      utf8Length canonical + utf8Length normalized.text + 32 * spans.length
    if spans = [] then refuse "EMPTY_PARSED_ARTIFACT"
    else if contract.maxTokenWorkUnits < spans.length then refuse "TOKEN_WORK_BUDGET_EXCEEDED"
    else if contract.maxEstimatedMemoryBytes < estimatedMemoryBytes then
      refuse "ESTIMATED_MEMORY_BUDGET_EXCEEDED"
    else .ok { canonical, contract, normalized, spans, estimatedMemoryBytes, started := clock 0 }

def candidateOf (chunks : List ChunkCandidate) : ChunkSetCandidate :=
  { operation, attempt, experimentId, chunks
    manifest :=
      { chunkCount := chunks.length, sourceChecksum := parsed.outputChecksumSha256
        contractFingerprint := contract.fingerprint hashing
        chunksChecksum := candidateChunksChecksum hashing chunks } }

/-- The method, its loop given as many rounds as there are tokens. -/
def generate : Option (Except Raised ChunkSetCandidate) :=
  match prepare hashing tokenizer clock parsed contract operation attempt experimentId with
  | .error raised => some (.error raised)
  | .ok job =>
    (loop hashing tokenizer clock job job.spans.length { workUnits := job.spans.length }).map
      (·.map (candidateOf hashing parsed contract operation attempt experimentId))

end Generate

end ChunkingStrategyAdapter

/-! The structural context of a body: headings and table headers of the source above it, in
their order, and never an error. -/

open Fallible

namespace ChunkingStrategyAdapter

variable (canonical : List Char)

/-- The segment stands for source that begins, after its white space, with the character. -/
def Marked (mark : Char) (segment : SourceSegment) : Prop :=
  (lstrip (slice canonical segment.start segment.end_)).head? = some mark

/-- What the loop over the lines knows when it stands at the offset. -/
structure Kept (offset : Nat) (state : ContextState) : Prop where
  heading : ∀ segment ∈ state.heading, segment.role = "heading-context" ∧
    Marked canonical '#' segment ∧ segment.end_ ≤ offset
  tableHeader : ∀ segment ∈ state.tableHeader, segment.role = "table-header-context" ∧
    Marked canonical '|' segment ∧ segment.end_ ≤ offset ∧
    ∀ above ∈ state.heading, above.end_ ≤ segment.start

/-- The context that a body may repeat: above it, in order, and of the source it says. -/
structure Repeatable (bodyStart : Nat) (contexts : List SourceSegment) :
    Prop where
  marked : ∀ segment ∈ contexts,
    (segment.role = "heading-context" ∧ Marked canonical '#' segment) ∨
      (segment.role = "table-header-context" ∧ Marked canonical '|' segment)
  above : ∀ segment ∈ contexts, segment.end_ ≤ bodyStart
  ordered : contexts.Pairwise fun first second => first.end_ ≤ second.start

variable {mark : Char}

theorem head_lstrip_visible {line : List Char} (begins : (lstrip line).head? = some mark) :
    (lstrip (visible line)).head? = some mark ∧ (visible line) <+: line := by
  induction line using List.reverseRecOn with
  | nil => cases begins
  | append_singleton line last ih =>
    by_cases ends : last = '\r' ∨ last = '\n'
    · -- the line end is dropped, and it was not the mark
      have dropped : visible (line ++ [last]) = visible line := by
        rw [visible, List.rdropWhile_concat_pos _ _ _ (by simpa using ends), ← visible]
      have before : (lstrip line).head? = some mark := by
        rw [lstrip, List.dropWhile_append] at begins
        split at begins
        · have blank : isSpace last = true := by
            rcases ends with rfl | rfl <;> decide
          simp [blank] at begins
        · rename_i content
          rw [List.head?_append_of_ne_nil _ (by simpa using content)] at begins
          exact begins
      rcases ih before with ⟨same, inside⟩
      rw [dropped]
      exact ⟨same, inside.trans (List.prefix_append _ _)⟩
    · have kept : visible (line ++ [last]) = line ++ [last] := by
        rw [visible, List.rdropWhile_concat_neg _ _ _ (by simpa using ends)]
      rw [kept]
      exact ⟨begins, List.prefix_refl _⟩

theorem make_visible {canonical line rest : List Char} {offset : Nat} {role : String}
    (named : role ≠ "") (here : canonical.drop offset = line ++ rest)
    (begins : (lstrip line).head? = some mark) :
    Meets (fun segment => segment.role = role ∧ Marked canonical mark segment ∧
        segment.start = offset ∧ segment.end_ ≤ offset + line.length) (fun _ : Raised => False)
      (SourceSegment.make offset (offset + (visible line).length) role) := by
  rcases head_lstrip_visible begins with ⟨marked, inside⟩
  have shown : visible line ≠ [] := by
    intro empty
    rw [empty] at marked
    cases marked
  have length := List.length_pos_iff.mpr shown
  have shorter := inside.length_le
  have source : slice canonical offset (offset + (visible line).length) = visible line := by
    rcases inside with ⟨_, line_eq⟩
    rw [slice, here, Nat.add_sub_cancel_left, ← line_eq, List.append_assoc, line_eq, List.take_left]
  rw [SourceSegment.make, dif_pos ⟨by omega, named⟩]
  refine ⟨rfl, ?_, rfl, by dsimp only; omega⟩
  rw [Marked, source]
  exact marked

variable {state : ContextState}

theorem kept_later {canonical : List Char} {offset later : Nat}
    (kept : Kept canonical offset state) (order : offset ≤ later) : Kept canonical later state where
  heading := by
    intro segment member
    rcases kept.heading segment member with ⟨role, marked, ends⟩
    exact ⟨role, marked, by omega⟩
  tableHeader := by
    intro segment member
    rcases kept.tableHeader segment member with ⟨role, marked, _, above⟩
    exact ⟨role, marked, by omega, above⟩

variable {canonical line rest : List Char}

theorem headingAfter_meets {bodyStart offset : Nat} (kept : Kept canonical offset state)
    (here : canonical.drop offset = line ++ rest) :
    Meets (fun heading => ((lstrip line).head? = some '|' → heading = state.heading) ∧
      ∀ segment ∈ heading, segment.role = "heading-context" ∧ Marked canonical '#' segment ∧
        segment.end_ ≤ offset + line.length) (fun _ : Raised => False)
      (headingAfter bodyStart offset line state) := by
  apply meets_ite
  · rintro ⟨begins, _⟩
    obtain ⟨_, made, role, marked, _, ends⟩ :=
      (make_visible (by decide : "heading-context" ≠ "") here begins).answers
    rw [made]
    constructor
    · intro bar
      rw [begins] at bar
      cases bar
    · intro other member
      cases Option.mem_some_iff.mp member
      exact ⟨role, marked, ends⟩
  · intro _
    exact ⟨fun _ => rfl, (kept_later kept (Nat.le_add_right offset line.length)).heading⟩

theorem tableHeaderAfter_meets {offset : Nat} (kept : Kept canonical offset state)
    (here : canonical.drop offset = line ++ rest) (begins : (lstrip line).head? = some '|') :
    Meets (fun tableHeader => ∀ segment ∈ tableHeader, segment.role = "table-header-context" ∧
      Marked canonical '|' segment ∧ segment.end_ ≤ offset + line.length ∧
      ∀ above ∈ state.heading, above.end_ ≤ segment.start) (fun _ : Raised => False)
      (tableHeaderAfter offset line state) := by
  apply meets_ite
  · intro _
    obtain ⟨_, made, role, marked, starts, ends⟩ :=
      (make_visible (by decide : "table-header-context" ≠ "") here begins).answers
    rw [made]
    intro other member
    cases Option.mem_some_iff.mp member
    refine ⟨role, marked, ends, fun above inside => ?_⟩
    rw [starts]
    exact (kept.heading above inside).2.2
  · intro _
    exact (kept_later kept (Nat.le_add_right offset line.length)).tableHeader

theorem contextLine_meets {bodyStart offset : Nat} (kept : Kept canonical offset state)
    (here : canonical.drop offset = line ++ rest) :
    Meets (Kept canonical (offset + line.length)) (fun _ : Raised => False)
      (contextLine bodyStart offset line state) := by
  apply meets_bind (headingAfter_meets kept here)
  rintro _ ⟨unchanged, headed⟩
  apply meets_ite
  · intro begins
    cases unchanged begins
    apply meets_bind (tableHeaderAfter_meets kept here begins)
    intro tableHeader tabled
    exact ⟨headed, tabled⟩
  · intro _
    exact ⟨headed, fun segment member => by cases member⟩

variable {canonical : List Char} {bodyStart offset : Nat}

theorem contextLoop_meets {lines : List (List Char)} (kept : Kept canonical offset state)
    (here : canonical.drop offset = lines.flatten) :
    Meets (fun after => ∃ later, Kept canonical later after) (fun _ : Raised => False)
      (contextLoop bodyStart offset lines state) := by
  induction lines generalizing offset state with
  | nil => exact ⟨offset, kept⟩
  | cons _ _ ih =>
    apply meets_bind (contextLine_meets kept here)
    intro after next
    apply meets_ite
    · intro _
      exact ⟨_, next⟩
    · intro _
      apply ih next
      rw [← List.drop_drop, here, List.flatten_cons, List.drop_left]

theorem repeatable_segments (kept : Kept canonical offset state) :
    Repeatable canonical bodyStart (state.segments bodyStart) := by
  have headings : ∀ segment ∈ (state.heading.filter (·.end_ ≤ bodyStart)).toList,
      segment ∈ state.heading ∧ segment.end_ ≤ bodyStart := by
    simpa using member
  have headers : ∀ segment ∈ (if state.currentTable = none then []
      else (state.tableHeader.filter (·.end_ ≤ bodyStart)).toList),
      segment ∈ state.tableHeader ∧ segment.end_ ≤ bodyStart := by
    intro segment member
    split at member
    · cases member
    · simpa using member
  constructor
  · intro segment member
    rcases List.mem_append.mp member with inside | inside
    · rcases kept.heading segment (headings segment inside).1 with ⟨role, marked, _⟩
      exact .inl ⟨role, marked⟩
    · rcases kept.tableHeader segment (headers segment inside).1 with ⟨role, marked, _⟩
      exact .inr ⟨role, marked⟩
  · intro segment member
    rcases List.mem_append.mp member with inside | inside
    · exact (headings segment inside).2
    · exact (headers segment inside).2
  · have single : ∀ option : Option SourceSegment,
        option.toList.Pairwise fun first second => first.end_ ≤ second.start := by
      intro option
      cases option <;> simp
    rw [ContextState.segments, List.pairwise_append]
    refine ⟨single _, ?_, ?_⟩
    · split
      · exact List.Pairwise.nil
      · exact single _
    · intro above before segment after
      exact (kept.tableHeader segment (headers segment after).1).2.2.2 above
        (headings above before).1

theorem contextSegments_meets (canonical : List Char) (bodyStart : Nat) :
    Meets (Repeatable canonical bodyStart) (fun _ : Raised => False)
      (contextSegments canonical bodyStart) := by
  have start : Kept canonical 0 {} :=
    { heading := by
        intro segment member
        cases member
      tableHeader := by
        intro segment member
        cases member }
  have whole : canonical.drop 0 = (splitlines canonical).flatten := by
    rw [splitlines, List.flatten_splitBy, List.drop_zero]
  apply meets_bind (contextLoop_meets start whole)
  rintro _ ⟨_, kept⟩
  exact repeatable_segments kept

end ChunkingStrategyAdapter
end BackendHandbook.Chunking
