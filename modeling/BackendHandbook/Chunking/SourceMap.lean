import BackendHandbook.Chunking.Tokenizer

/-! The normalization as a scan of the text, and what its source map promises. -/

namespace BackendHandbook.Chunking.Normalization

open Pieces List

/-- The scan from an index on; the inner loop runs over the blanks behind a blank. -/
def collapse (index : Nat) : List Char → List (Char × (Nat × Nat))
  | [] => []
  | c :: rest =>
    if horizontal c then
      let end_ := index + 1 + (rest.takeWhile horizontal).length
      (' ', (index, end_)) :: collapse end_ (rest.dropWhile horizontal)
    else (c, (index, index + 1)) :: collapse (index + 1) rest
  termination_by text => text.length
  decreasing_by
    · exact Nat.lt_succ_of_le (length_dropWhile_le _ rest)
    · exact Nat.lt_succ_self _

def scan (text : List Char) : NormalizationVersion → NormalizedText
  | .identityV1 => ⟨text, (range text.length).map fun index => (index, index + 1)⟩
  | .collapseHorizontalSpaceV1 => ⟨(collapse 0 text).map Prod.fst, (collapse 0 text).map Prod.snd⟩

variable {version : NormalizationVersion}

/-- What merges inwards and not over its end is the first piece. -/
theorem pieces_append {run : List Char} (rest : List Char)
    (nonempty : run ≠ []) (merged : run.IsChain fun first second => merges version first second)
    (breaks : ∀ last ∈ run.getLast?, ∀ next ∈ rest.head?, merges version last next = false) :
    pieces (run ++ rest) version = run :: pieces rest version := by
  rw [pieces, splitBy_append breaks, splitBy_of_isChain nonempty merged]
  rfl

variable {c : Char}

theorem pieces_blank (blank : horizontal c = true) (rest : List Char) :
    pieces (c :: rest) .collapseHorizontalSpaceV1 = (c :: rest.takeWhile horizontal) ::
        pieces (rest.dropWhile horizontal) .collapseHorizontalSpaceV1 := by
  have blanks : ∀ d ∈ c :: rest.takeWhile horizontal, horizontal d = true :=
    forall_mem_cons.mpr ⟨blank, fun _ member => mem_takeWhile_imp member⟩
  have whole := takeWhile_append_dropWhile (p := horizontal) (l := rest)
  conv_lhs => rw [← whole, ← cons_append]
  apply pieces_append _ (cons_ne_nil _ _)
  · apply Pairwise.isChain
    apply pairwise_of_forall_mem_list
    intro first early second late
    simp [merges, blanks first early, blanks second late]
  · intro last _ next head
    have stops := head?_dropWhile_not horizontal rest
    rw [head] at stops
    simp [merges, stops]

theorem pieces_other (rest : List Char) (other : ∀ next, merges version c next = false) :
    pieces (c :: rest) version = [c] :: pieces rest version := by
  apply pieces_append rest (cons_ne_nil _ _) (isChain_singleton c)
  intro last ends next _
  cases ends
  exact other next

theorem collapse_eq (index : Nat) (text : List Char) : (collapse index text).map Prod.fst =
        (pieces text .collapseHorizontalSpaceV1).map (outputOf .collapseHorizontalSpaceV1) ∧
      (collapse index text).map Prod.snd =
        intervalsFrom index (pieces text .collapseHorizontalSpaceV1) := by
  fun_induction collapse index text with
  | case1 => simp [pieces, intervalsFrom]
  | case2 index c rest blank end_ ih =>
    have reached : end_ = index + ((rest.takeWhile horizontal).length + 1) := by omega
    simpa [pieces_blank blank, intervalsFrom, outputOf, blank, reached] using ih
  | case3 index c rest other ih =>
    rw [pieces_other rest (by simp [merges, other])]
    simp [intervalsFrom, ih, outputOf, other]

theorem pieces_identity (text : List Char) : pieces text .identityV1 = text.map ([·]) := by
  induction text with
  | nil => rfl
  | cons c rest ih => rw [pieces_other rest fun _ => rfl, ih, map_cons]

theorem intervalsFrom_singles (offset : Nat) (text : List Char) :
    intervalsFrom offset (text.map ([·])) =
      (range' offset text.length).map fun index => (index, index + 1) := by
  induction text generalizing offset with
  | nil => rfl
  | cons c rest ih => simp [intervalsFrom, range'_succ, ih]

theorem scan_eq (text : List Char) (version : NormalizationVersion) :
    scan text version = normalize text version := by
  cases version with
  | identityV1 =>
    rw [scan, normalize, pieces_identity, intervalsFrom_singles, range_eq_range']
    simp [Function.comp_def, outputOf]
  | collapseHorizontalSpaceV1 =>
    rw [scan, normalize, (collapse_eq 0 text).1, (collapse_eq 0 text).2]

/-- Behind a run the output starts with what stopped the run. -/
theorem dropWhile_collapse (index : Nat) (rest : List Char) :
    ((collapse index (rest.dropWhile horizontal)).map Prod.fst).dropWhile horizontal =
      (collapse index (rest.dropWhile horizontal)).map Prod.fst := by
  have stops := head?_dropWhile_not horizontal rest
  cases left : rest.dropWhile horizontal with
  | nil => simp [collapse]
  | cons next behind =>
    simp only [left, head?_cons] at stops
    simp [collapse, stops]

/-- What is collapsed has no run left to collapse. -/
theorem collapse_again (index other : Nat) (text : List Char) :
    (collapse other ((collapse index text).map Prod.fst)).map Prod.fst =
      (collapse index text).map Prod.fst := by
  fun_induction collapse index text generalizing other with
  | case1 => simp [collapse]
  | case2 index c rest blank end_ ih =>
    have space : horizontal ' ' = true := rfl
    simp [collapse, space, dropWhile_collapse, ih]
  | case3 index c rest plain ih => simp [collapse, plain, ih]

theorem contiguous_intervalsFrom (offset : Nat) (pieces : List (List Char)) :
    (intervalsFrom offset pieces).map Prod.fst ++ [offset + pieces.flatten.length] =
      offset :: (intervalsFrom offset pieces).map Prod.snd := by
  induction pieces generalizing offset with
  | nil => rfl
  | cons piece pieces ih =>
    simpa [intervalsFrom, Nat.add_assoc] using ih (offset + piece.length)

/-- The source map of a normalized text: each interval starts where the one before it ends, the
first one at 0, and the last one ends with the text. -/
structure MapsSource (text : List Char) (version : NormalizationVersion)
    (normalized : NormalizedText) : Prop where
  model : normalized = normalize text version
  perCharacter : normalized.sourceOffsets.length = normalized.text.length
  nonEmpty : ∀ interval ∈ normalized.sourceOffsets, interval.1 < interval.2
  contiguous : normalized.sourceOffsets.map Prod.fst ++ [text.length] =
    0 :: normalized.sourceOffsets.map Prod.snd
  idempotent : (scan normalized.text version).text = normalized.text
  slices : ∀ start end_, start < end_ → end_ ≤ normalized.text.length →
    ∃ interval, normalized.sourceInterval start end_ = .ok interval ∧
      (scan (slice text interval.1 interval.2) version).text = slice normalized.text start end_

theorem scan_mapsSource (text : List Char) (version : NormalizationVersion) :
    MapsSource text version (scan text version) := by
  have sizes : (normalize text version).sourceOffsets.length =
      (normalize text version).text.length := by
    rw [length_text, normalize, length_intervalsFrom]
  have idempotent : (scan (scan text version).text version).text = (scan text version).text := by
    cases version with
    | identityV1 => rfl
    | collapseHorizontalSpaceV1 => exact collapse_again 0 0 text
  rw [scan_eq text] at idempotent ⊢
  refine ⟨rfl, sizes, ?_, ?_, idempotent, ?_⟩
  · intro interval member
    obtain ⟨index, inside, rfl⟩ := getElem_of_mem member
    have within := sizes ▸ inside
    have found := getElem?_sourceOffsets text version within
    rw [getElem?_eq_getElem inside] at found
    rw [Option.some.inj found]
    rw [length_text] at within
    exact cut_lt _ (pieces_nonempty text version) (Nat.lt_succ_self index) within
  · have joined := contiguous_intervalsFrom 0 (pieces text version)
    rwa [flatten_pieces, Nat.zero_add] at joined
  · intro start end_ order within
    refine ⟨_, sourceInterval_eq text version order within, ?_⟩
    rw [scan_eq]
    exact normalize_slice text version (Nat.le_of_lt order)

end BackendHandbook.Chunking.Normalization
