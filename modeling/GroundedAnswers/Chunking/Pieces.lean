import GroundedAnswers.Chunking.Strategy
import GroundedAnswers.Windows

namespace GroundedAnswers.Chunking

/-! The pieces that a text is cut into, before blanks are trimmed. The pieces of sentences and of
the recursive strategy make up the text again; windows may overlap. -/

/-! ## Windows -/

/-- How far windows lie apart. An overlap as large as the window is no overlap. -/
def stride (size overlap : Nat) : Nat :=
  if size ≤ overlap then size else size - overlap

theorem stride_pos {size : Nat} (positive : 0 < size) (overlap : Nat) :
    0 < stride size overlap := by
  unfold stride
  split <;> omega

/-! ## Packing -/

/-- Join neighbouring segments as long as they fit. A segment that is too long stands alone. -/
def pack (size : Nat) (current : List Char) : List (List Char) → List (List Char)
  | [] => if current = [] then [] else [current]
  | segment :: rest =>
      if current ≠ [] ∧ size < current.length + segment.length then
        current :: pack size segment rest
      else pack size (current ++ segment) rest

theorem flatten_pack (size : Nat) (current : List Char) (segments : List (List Char)) :
    (pack size current segments).flatten = current ++ segments.flatten := by
  induction segments generalizing current with
  | nil =>
      simp only [pack]
      split <;> simp_all
  | cons segment rest induction =>
      simp only [pack]
      split <;> simp [induction]

/-! ## Sentences -/

/-- A sentence ends behind a full stop, exclamation mark or question mark before a blank. -/
def endsSentence (character : Char) (rest : List Char) : Bool :=
  (character = '.' ∨ character = '!' ∨ character = '?') ∧ rest.head?.any Text.isBlank

def sentences (text : List Char) : List (List Char) :=
  Text.splitBehind endsSentence text

/-! ## Separators -/

def separators : List (List Char) :=
  [['\n', '\n'], ['\n'], ['.', ' '], [' ']]

/-- Cut a text that is too long behind the first separator that cuts it, pack the segments, and cut
what is still too long behind the narrower separators. -/
def cut (size : Nat) : List (List Char) → List Char → List (List Char)
  | [], text => [text]
  | separator :: narrower, text =>
      if text.length ≤ size then [text]
      else
        let segments := Text.splitKeeping separator text
        if segments.length ≤ 1 then cut size narrower text
        else (pack size [] segments).flatMap (cut size narrower)

theorem flatten_cut (size : Nat) (separators : List (List Char)) (text : List Char) :
    (cut size separators text).flatten = text := by
  induction separators generalizing text with
  | nil => simp [cut]
  | cons separator narrower induction =>
      have whole : ∀ pieces : List (List Char),
          (pieces.flatMap (cut size narrower)).flatten = pieces.flatten := by
        intro pieces
        induction pieces with
        | nil => rfl
        | cons piece pieces rest => simp [induction, rest]
      simp only [cut]
      split
      · simp
      · split
        · exact induction text
        · simp [whole, flatten_pack]

theorem cut_of_fits {size : Nat} {text : List Char} (separators : List (List Char))
    (fits : text.length ≤ size) : cut size separators text = [text] := by
  cases separators with
  | nil => rfl
  | cons separator narrower => simp [cut, fits]

/-! ## All strategies -/

def pieces (options : ChunkOptions) (text : List Char) : List (List Char) :=
  let size := options.effectiveSize
  match options.strategy with
  | .fixed =>
      let overlap := options.overlap.toNat
      windows size (stride size overlap) (stride_pos options.effectiveSize_pos overlap) text
  | .sentence => (pack size [] (sentences text)).map Text.trimmed
  | .recursive => (cut size separators text).map Text.trimmed

end GroundedAnswers.Chunking
