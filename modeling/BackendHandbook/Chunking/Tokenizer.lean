import BackendHandbook.Chunking.Contracts
import BackendHandbook.Foundation.Pieces

/-! Versioned normalization with a source map: every output code point keeps the interval of
the canonical text it stands for. -/

namespace BackendHandbook.Chunking

open Pieces

structure NormalizedText where
  text : List Char
  sourceOffsets : List (Nat × Nat)

def NormalizedText.sourceInterval (normalized : NormalizedText) (start end_ : Nat) :
    Except Raised (Nat × Nat) :=
  if end_ ≤ start ∨ normalized.sourceOffsets.length < end_ then
    .error (.valueError "normalized interval is invalid")
  else
    match normalized.sourceOffsets[start]?, normalized.sourceOffsets[end_ - 1]? with
    | some first, some last => .ok (first.1, last.2)
    | _, _ => .error .indexError

namespace Normalization

/-- The test `text[index] in " \t"`. -/
def horizontal (c : Char) : Bool := c == ' ' || c == '\t'

/-- Which neighbours go into one output code point: those of a run of blanks, under the
collapsing version. -/
def merges : NormalizationVersion → Char → Char → Bool
  | .identityV1, _, _ => false
  | .collapseHorizontalSpaceV1, first, second => horizontal first && horizontal second

/-- The parts of the text that become one code point each. -/
def pieces (text : List Char) (version : NormalizationVersion) : List (List Char) :=
  text.splitBy (merges version)

def outputOf : NormalizationVersion → List Char → Char
  | .identityV1, piece => piece.headD ' '
  | .collapseHorizontalSpaceV1, piece =>
    if horizontal (piece.headD ' ') then ' ' else piece.headD ' '

end Normalization

open Normalization in
def normalize (text : List Char) (version : NormalizationVersion) : NormalizedText :=
  { text := (pieces text version).map (outputOf version)
    sourceOffsets := intervalsFrom 0 (pieces text version) }

def SourceSegment.normalized (segment : SourceSegment) (canonical : List Char)
    (version : NormalizationVersion) : List Char :=
  (normalize (slice canonical segment.start segment.end_) version).text

variable {start end_ : Nat}

namespace Normalization

variable (text : List Char) (version : NormalizationVersion)

theorem flatten_pieces : (pieces text version).flatten = text := List.flatten_splitBy _ text

theorem pieces_nonempty : [] ∉ pieces text version := List.nil_notMem_splitBy _ text

theorem length_text : (normalize text version).text.length = (pieces text version).length :=
  List.length_map _

theorem getElem?_sourceOffsets {index : Nat}
    (within : index < (normalize text version).text.length) :
    (normalize text version).sourceOffsets[index]? =
      some (cut (pieces text version) index, cut (pieces text version) (index + 1)) := by
  rw [length_text] at within
  rw [normalize, getElem?_intervalsFrom _ _ _ within]
  simp

theorem sourceInterval_eq
    (order : start < end_) (within : end_ ≤ (normalize text version).text.length) :
    (normalize text version).sourceInterval start end_ =
      .ok (cut (pieces text version) start, cut (pieces text version) end_) := by
  have sizes : (normalize text version).sourceOffsets.length =
      (normalize text version).text.length := by
    rw [length_text, normalize, length_intervalsFrom]
  have valid : ¬ (end_ ≤ start ∨ (normalize text version).sourceOffsets.length < end_) := by
    omega
  have first := getElem?_sourceOffsets text version (Nat.lt_of_lt_of_le order within)
  have last := @getElem?_sourceOffsets text version (end_ - 1) (by omega)
  rw [Nat.sub_add_cancel (Nat.one_le_of_lt order)] at last
  rw [NormalizedText.sourceInterval, if_neg valid, first, last]

theorem normalize_slice (order : start ≤ end_) :
    (normalize (slice text (cut (pieces text version) start) (cut (pieces text version) end_))
      version).text = slice (normalize text version).text start end_ := by
  have again : pieces (slice text (cut (pieces text version) start)
      (cut (pieces text version) end_)) version = slice (pieces text version) start end_ :=
    splitBy_slice_cut _ text order
  rw [normalize, again, normalize, map_slice]

theorem cut_length :
    cut (pieces text version) (normalize text version).text.length = text.length := by
  rw [length_text, cut_of_length_le _ (Nat.le_refl _), flatten_pieces]

end Normalization

/-! The deterministic tokenizer behind the chunking port: words of ASCII letters, digits and
underscores, and every other code point by itself. -/

structure TokenSpan where
  (start end_ : Nat)
  deriving DecidableEq, Repr, Inhabited

/-- What the chunking code asks of a tokenizer, on texts as lists of code points. -/
structure TokenizerPort where
  contract : TokenizerContract
  spans : List Char → List TokenSpan
  count : List Char → Nat

namespace ClassroomTokenizer

def contract : TokenizerContract := ⟨"classroom-lexical", "1.0.0", by decide⟩

/-- The class `[A-Za-z0-9_]`. -/
def wordChar (c : Char) : Bool := c.isAlphanum || c == '_'

def joined (first second : Char) : Bool := wordChar first && wordChar second

variable (text : List Char)

/-- The matches of `[A-Za-z0-9_]+|\s|[^\s]`: a word as far as it goes, else one code point. -/
def tokens : List (List Char) := text.splitBy joined

def spans : List TokenSpan :=
  (intervalsFrom 0 (tokens text)).map fun interval => ⟨interval.1, interval.2⟩

def count : Nat := (spans text).length

def port : TokenizerPort := ⟨contract, spans, count⟩

variable (text : List Char)

@[simp] theorem length_spans : (spans text).length = (tokens text).length := by
  simp [spans]

theorem count_eq : count text = (tokens text).length := length_spans text

theorem getElem?_spans {index : Nat} (within : index < (tokens text).length) :
    (spans text)[index]? = some ⟨cut (tokens text) index, cut (tokens text) (index + 1)⟩ := by
  rw [spans, List.getElem?_map, getElem?_intervalsFrom _ _ _ within]
  simp

theorem flatten_tokens : (tokens text).flatten = text := List.flatten_splitBy joined text

theorem tokens_nonempty : [] ∉ tokens text := List.nil_notMem_splitBy joined text

theorem slice_cut_tokens (order : start ≤ end_) :
    slice text (cut (tokens text) start) (cut (tokens text) end_) =
      (slice (tokens text) start end_).flatten := by
  have pieces := slice_cut (tokens text) order
  rwa [flatten_tokens] at pieces

theorem tokens_slice (order : start ≤ end_) :
    tokens (slice text (cut (tokens text) start) (cut (tokens text) end_)) =
      slice (tokens text) start end_ :=
  splitBy_slice_cut joined text order

theorem tokens_flatten_slice (start end_ : Nat) :
    tokens (slice (tokens text) start end_).flatten = slice (tokens text) start end_ :=
  splitBy_slice joined text start end_

theorem tokens_append_break (first second : List Char) {c : Char} (breaks : wordChar c = false) :
    tokens (first ++ c :: second) = tokens (first ++ [c]) ++ tokens second := by
  have regrouped : first ++ c :: second = (first ++ [c]) ++ second := by simp
  rw [regrouped]
  apply List.splitBy_append
  intro last ends head _
  have same : last = c := by simpa using ends.symm
  rw [same, joined, breaks, Bool.false_and]

end ClassroomTokenizer

end BackendHandbook.Chunking
