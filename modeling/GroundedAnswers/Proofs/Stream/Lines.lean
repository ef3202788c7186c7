import GroundedAnswers.Proofs.Text.Decoding
import GroundedAnswers.Proofs.Text.Trimming
import GroundedAnswers.Stream.Lines

namespace GroundedAnswers

/-! The lines of a body are those of its bytes as a whole, wherever the body is cut. -/

namespace Lines

private theorem text?_lineFeed (line : List UInt8) : text? (line ++ [0x0A]) = text? line := by
  rw [text?, Text.Utf8.decodeReplacing_lineFeed, Text.trimmed_concat (by decide), text?]

private theorem filterMap_text?_lineFeed (lines : List (List UInt8)) :
    (lines.map (· ++ [0x0A])).filterMap text? = lines.filterMap text? := by
  rw [List.filterMap_map]
  exact congrArg (List.filterMap · lines) (funext text?_lineFeed)

/-! ## Pieces between line feeds -/

/-- The pieces between line feeds. The first of them has begun with `pending`, in reverse order. -/
def pieces (pending bytes : List UInt8) : List (List UInt8) :=
  (bytes.splitOn 0x0A).modifyHead (pending.reverse ++ ·)

theorem pieces_start (bytes : List UInt8) : pieces [] bytes = bytes.splitOn 0x0A := by
  unfold pieces
  cases bytes.splitOn 0x0A <;> rfl

theorem pieces_nil (pending : List UInt8) : pieces pending [] = [pending.reverse] := by
  rw [pieces, List.splitOn_nil, List.modifyHead_cons, List.append_nil]

private theorem pieces_lineFeed (pending rest : List UInt8) :
    pieces pending (0x0A :: rest) = pending.reverse :: pieces [] rest := by
  rw [pieces_start, pieces, List.splitOn_cons_eq_if_modifyHead, if_pos (beq_self_eq_true _),
    List.modifyHead_cons, List.append_nil]

private theorem pieces_cons {byte : UInt8} (other : byte ≠ 0x0A) (pending rest : List UInt8) :
    pieces pending (byte :: rest) = pieces (byte :: pending) rest := by
  have notFeed : ¬(byte == 0x0A) = true := by
    simpa using other
  rw [pieces, List.splitOn_cons_eq_if_modifyHead, if_neg notFeed, List.modifyHead_modifyHead,
    pieces]
  refine congrArg (List.modifyHead · _) (funext fun piece => ?_)
  rw [Function.comp, List.reverse_cons, List.append_assoc, List.singleton_append]

private theorem split_pieces (pending bytes : List UInt8) :
    ∃ complete, (split pending bytes).1 = complete.map (· ++ [0x0A]) ∧
      ∀ later, pieces pending (bytes ++ later) =
        complete ++ pieces (split pending bytes).2 later := by
  induction bytes generalizing pending with
  | nil => exact ⟨[], rfl, fun _ => rfl⟩
  | cons byte rest induction =>
      by_cases feed : byte = 0x0A
      · subst feed
        rcases induction [] with ⟨complete, lines, goesOn⟩
        refine ⟨pending.reverse :: complete, ?_, fun later => ?_⟩
        · rw [split, if_pos rfl, List.map_cons, ← lines]
        · rw [split, if_pos rfl, List.cons_append, pieces_lineFeed, goesOn, List.cons_append]
      · rcases induction (byte :: pending) with ⟨complete, lines, goesOn⟩
        refine ⟨complete, ?_, fun later => ?_⟩
        · rw [split, if_neg feed, lines]
        · rw [split, if_neg feed, List.cons_append, pieces_cons feed, goesOn]

/-! ## A buffer for lines -/

/-- A buffer gives the lines of the pieces that are complete, and keeps the beginning of the next
one. -/
theorem push_pieces (pending content : List UInt8) :
    ∃ complete, (push pending content).1 = complete.filterMap text? ∧
      ∀ later, pieces pending (content ++ later) =
        complete ++ pieces (push pending content).2 later := by
  rcases split_pieces pending content with ⟨complete, lines, goesOn⟩
  refine ⟨complete, ?_, goesOn⟩
  change (split pending content).1.filterMap text? = complete.filterMap text?
  rw [lines, filterMap_text?_lineFeed]

/-- What comes out of a buffer that takes in the parts of a text one after the other and is emptied
in the end. -/
def fed (pending : List UInt8) : List (List UInt8) → List String
  | [] => (finish pending).toList
  | part :: rest =>
      let (lines, pending) := push pending part
      lines ++ fed pending rest

theorem fed_eq (pending : List UInt8) (parts : List (List UInt8)) :
    fed pending parts = (pieces pending parts.flatten).filterMap text? := by
  induction parts generalizing pending with
  | nil =>
      rw [fed, List.flatten_nil, pieces_nil, finish, List.filterMap_cons, List.filterMap_nil]
      cases text? pending.reverse <;> rfl
  | cons part rest induction =>
      rcases push_pieces pending part with ⟨complete, lines, goesOn⟩
      rw [fed, List.flatten_cons, goesOn, List.filterMap_append, ← induction, ← lines]

example : fed [] [Text.Utf8.encode "a\r", Text.Utf8.encode "\n\nb"] = ["a", "b"] := by
  decide +kernel

end Lines

end GroundedAnswers
