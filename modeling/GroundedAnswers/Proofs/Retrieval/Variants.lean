import GroundedAnswers.Proofs.Distinct
import GroundedAnswers.Proofs.Text.Trimming
import GroundedAnswers.Retrieval.Rephrasing

namespace GroundedAnswers

/-! Variants of a query. They are the query and the lines of an output, each where it comes first,
and written one a line they are read again. -/

/-! ## Lines -/

namespace Text

/-- What lines say: each without the blanks around it, if there is anything else in it. -/
def lineTexts (lines : List (List Char)) : List String :=
  (lines.map fun line => String.ofList (trimmed line)).filter (· ≠ "")

def textLines (text : String) : List String :=
  lineTexts (text.toList.splitOn '\n')

private theorem lineTexts_cons_congr {line line' : List Char} {lines lines' : List (List Char)}
    (same : trimmed line = trimmed line') (others : lineTexts lines = lineTexts lines') :
    lineTexts (line :: lines) = lineTexts (line' :: lines') := by
  unfold lineTexts at others ⊢
  rw [List.map_cons, List.map_cons, List.filter_cons, List.filter_cons, others, same]

/-- Line ends are blanks, so they do not matter. -/
theorem lineTexts_lines (text : List Char) :
    lineTexts (lines text) = lineTexts (splitBehind (fun character _ => character = '\n') text) := by
  unfold lines
  induction splitBehind (fun character _ => character = '\n') text with
  | nil => rfl
  | cons line others induction =>
      refine lineTexts_cons_congr ?_ induction
      dsimp only
      split
      · rename_i rest ending
        rw [List.reverse_eq_iff.mp ending, List.reverse_cons, List.reverse_cons,
          trimmed_concat (by decide), trimmed_concat (by decide)]
      · rename_i rest _ ending
        rw [List.reverse_eq_iff.mp ending, List.reverse_cons, trimmed_concat (by decide)]
      · rfl

/-- The same lines, with and without their line feeds. -/
inductive SameLines : List (List Char) → List (List Char) → Prop
  | none : SameLines [] [[]]
  | some {first first' : List Char} {others others' : List (List Char)}
      (same : first = first' ∨ first = first' ++ ['\n'])
      (rest : lineTexts others = lineTexts others') : SameLines (first :: others) (first' :: others')

private theorem SameLines.lineTexts_eq {pieces lines : List (List Char)}
    (same : SameLines pieces lines) :
    lineTexts pieces = lineTexts lines := by
  cases same with
  | none => rfl
  | some same rest =>
      refine lineTexts_cons_congr ?_ rest
      rcases same with rfl | rfl
      · rfl
      · exact trimmed_concat (by decide) _

private theorem sameLines_split (text : List Char) :
    SameLines (splitBehind (fun character _ => character = '\n') text) (text.splitOn '\n') := by
  induction text with
  | nil => exact .none
  | cons character rest induction =>
      rw [List.splitOn_cons_eq_if_modifyHead, splitBehind]
      by_cases feed : character = '\n'
      · rw [if_pos (decide_eq_true feed), if_pos (beq_iff_eq.mpr feed), feed]
        exact .some (.inr rfl) induction.lineTexts_eq
      · rw [if_neg (by simpa using feed), if_neg (by simpa using feed)]
        revert induction
        generalize splitBehind (fun character _ => character = '\n') rest = pieces
        generalize rest.splitOn '\n' = lines
        intro same
        cases same with
        | none => exact .some (.inl rfl) rfl
        | some same others => exact .some (same.imp (congrArg _) (congrArg _)) others

private theorem lineTexts_lines_eq (text : String) :
    lineTexts (lines text.toList) = textLines text :=
  (lineTexts_lines _).trans (sameLines_split _).lineTexts_eq

structure IsLine (line : String) : Prop where
  noFeed : '\n' ∉ line.toList
  trimmed : trim line = line
  nonempty : line ≠ ""

private theorem notMem_of_mem_splitOn {text line : List Char} {feed : Char}
    (member : line ∈ text.splitOn feed) : feed ∉ line := by
  induction text generalizing line with
  | nil =>
      rw [List.splitOn_nil, List.mem_singleton] at member
      exact member ▸ List.not_mem_nil
  | cons character rest induction =>
      rw [List.splitOn_cons_eq_if_modifyHead] at member
      split at member
      · rcases List.mem_cons.mp member with rfl | later
        · exact List.not_mem_nil
        · exact induction later
      · rename_i other
        cases lines : rest.splitOn feed with
        | nil => exact absurd lines (List.splitOn_ne_nil feed rest)
        | cons first others =>
            rw [lines, List.modifyHead_cons, List.mem_cons] at member
            rw [lines] at induction
            rcases member with rfl | later
            · rw [List.mem_cons, not_or]
              exact ⟨fun same => other (beq_iff_eq.mpr same.symm), induction List.mem_cons_self⟩
            · exact induction (List.mem_cons_of_mem _ later)

private theorem isLine_of_mem_textLines {text line : String} (member : line ∈ textLines text) :
    IsLine line := by
  rcases List.mem_filter.mp member with ⟨isText, nonempty⟩
  rcases List.mem_map.mp isText with ⟨piece, isPiece, rfl⟩
  refine ⟨fun feed => ?_, ?_, of_decide_eq_true nonempty⟩
  · rw [String.toList_ofList] at feed
    exact notMem_of_mem_splitOn isPiece ((isInfix_trimmed piece).subset feed)
  · rw [trim, String.toList_ofList, trimmed_trimmed]

private theorem textLines_intercalate {lines : List String} (some : lines ≠ [])
    (areLines : ∀ line ∈ lines, IsLine line) : textLines ("\n".intercalate lines) = lines := by
  have feed : "\n".toList = ['\n'] := rfl
  have apart : (['\n'].intercalate (lines.map String.toList)).splitOn '\n' =
      lines.map String.toList := by
    apply List.splitOn_intercalate
    · intro text member
      rcases List.mem_map.mp member with ⟨line, isLine, rfl⟩
      exact (areLines line isLine).noFeed
    · exact fun none => some (List.map_eq_nil_iff.mp none)
  have whole : (lines.map String.toList).map (fun line => String.ofList (Text.trimmed line)) =
      lines := by
    rw [List.map_map]
    exact (List.map_congr_left fun line isLine => (areLines line isLine).trimmed).trans
      (List.map_id lines)
  rw [textLines, String.toList_intercalate, feed, apart, lineTexts, whole, List.filter_eq_self]
  exact fun line isLine => decide_eq_true (areLines line isLine).nonempty

end Text

/-! ## Variants -/

private theorem foldl_addVariant (query : String) (lines : List String) :
    lines.foldl addVariant [query] = (query :: lines).eraseDups := by
  induction lines using List.reverseRecOn with
  | nil => rfl
  | append_singleton lines line induction =>
      rw [List.foldl_append, List.foldl_cons, List.foldl_nil, induction, addVariant,
        ← List.cons_append]
      by_cases known : line ∈ query :: lines
      · rw [if_pos (List.mem_eraseDups.mpr known), eraseDups_concat_of_mem known]
      · rw [if_neg fun member => known (List.mem_eraseDups.mp member),
          eraseDups_concat_of_notMem known]

private theorem queryVariants_eq (query output : String) :
    queryVariants query output = (query :: Text.textLines output).eraseDups := by
  rw [← Text.lineTexts_lines_eq]
  exact foldl_addVariant query _

theorem query_mem_queryVariants (query output : String) :
    query ∈ queryVariants query output := by
  rw [queryVariants_eq, List.mem_eraseDups]
  exact List.mem_cons_self

private theorem nodup_queryVariants (query output : String) :
    (queryVariants query output).Nodup := by
  rw [queryVariants_eq]
  exact nodup_eraseDups _

theorem length_queryVariants_le {query output : String}
    (noOther : ∀ variant ∈ queryVariants query output, variant = query) :
    (queryVariants query output).length ≤ 1 := by
  have repeated := List.eq_replicate_of_mem noOther
  have distinct := nodup_queryVariants query output
  rw [repeated] at distinct
  exact List.nodup_replicate.mp distinct

/-- The variants begin with the query as it is given. Behind it stands what the lines of the output
say, each different line once, in the order in which the lines come first. A query that is itself
such a line makes the variants a list of lines that leads to the same variants again. -/
theorem queryVariants_lists_lines (query output : String) :
    let lines := Text.textLines output
    ∃ others, queryVariants query output = query :: others ∧ (query :: others).Nodup ∧
      (∀ line, line ∈ others ↔ line ∈ lines ∧ line ≠ query) ∧
      (others.Pairwise fun earlier later => lines.idxOf earlier < lines.idxOf later) ∧
      (Text.trim query = query → query ≠ "" → '\n' ∉ query.toList →
        queryVariants query ("\n".intercalate (query :: others)) = query :: others) := by
  intro lines
  have distinct := nodup_queryVariants query output
  have ordered := pairwise_idxOf_eraseDups (query :: lines)
  have variants : queryVariants query output =
      query :: (lines.filter fun line => !line == query).eraseDups := by
    rw [queryVariants_eq, List.eraseDups_cons]
  rw [← queryVariants_eq, variants] at ordered
  rw [variants] at distinct
  generalize isOthers : (lines.filter fun line => !line == query).eraseDups = others at *
  have members (line : String) : line ∈ others ↔ line ∈ lines ∧ line ≠ query := by
    rw [← isOthers, List.mem_eraseDups, List.mem_filter]
    simp
  refine ⟨others, variants, distinct, members, ?_, fun trimmed nonempty noFeed => ?_⟩
  · refine (List.pairwise_cons.mp ordered).2.imp_of_mem fun isEarlier isLater first => ?_
    have earlierIs := ((members _).mp isEarlier).2
    have laterIs := ((members _).mp isLater).2
    rw [List.idxOf_cons_ne _ earlierIs.symm, List.idxOf_cons_ne _ laterIs.symm] at first
    exact Nat.lt_of_succ_lt_succ first
  · have areLines : ∀ line ∈ query :: others, Text.IsLine line := by
      rw [List.forall_mem_cons]
      refine ⟨⟨noFeed, trimmed, nonempty⟩, fun line member => ?_⟩
      exact Text.isLine_of_mem_textLines ((members line).mp member).1
    rw [queryVariants_eq, Text.textLines_intercalate (List.cons_ne_nil _ _) areLines,
      List.eraseDups_cons, List.filter_cons_of_neg (by simp), ← List.eraseDups_cons,
      eraseDups_of_nodup distinct]

/-- An output that repeats the query and one of its own lines, with blanks around them. -/
theorem queryVariants_lists_lines_repeated :
    let query := "What is Rust?"
    let output := "  What is Rust?\r\n\nHow does Rust work?\nwhat is rust\n\tHow does Rust work?"
    let others := ["How does Rust work?", "what is rust"]
    Text.trim query = query ∧ query ≠ "" ∧ '\n' ∉ query.toList ∧
    queryVariants query output = query :: others ∧
    queryVariants query ("\n".intercalate (query :: others)) = query :: others := by
  intro query output others
  have trimmed : Text.trim query = query := by decide +kernel
  have nonempty : query ≠ "" := by decide
  have noFeed : '\n' ∉ query.toList := by decide +kernel
  have variants : queryVariants query output = query :: others := by decide +kernel
  rcases queryVariants_lists_lines query output with ⟨found, foundAre, _, _, _, again⟩
  rw [variants, List.cons.injEq] at foundAre
  cases foundAre.2
  exact ⟨trimmed, nonempty, noFeed, variants, again trimmed nonempty noFeed⟩

end GroundedAnswers
