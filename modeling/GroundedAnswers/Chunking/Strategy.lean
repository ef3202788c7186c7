import GroundedAnswers.Json.Record
import GroundedAnswers.Text.Blank

namespace GroundedAnswers

/-! How a document is cut into chunks. Sizes count characters. -/

inductive ChunkStrategy where
  /-- Windows of one size, each starting before the end of the last one. -/
  | fixed
  /-- Whole sentences, as many as fit. -/
  | sentence
  /-- Paragraphs where they fit, else lines, sentences, or words. -/
  | recursive
  deriving DecidableEq, Repr

namespace ChunkStrategy

def name : ChunkStrategy → String
  | .fixed => "fixed"
  | .sentence => "sentence"
  | .recursive => "recursive"

def ofName? : String → Option ChunkStrategy
  | "fixed" => some .fixed
  | "sentence" => some .sentence
  | "recursive" => some .recursive
  | _ => none

theorem ofName?_name (strategy : ChunkStrategy) : ofName? strategy.name = some strategy := by
  cases strategy <;> rfl

/-- Read a name as users write it: in any case, and with blanks around it. -/
def read (text : String) : Except String ChunkStrategy :=
  let word := String.ofList ((Text.trimmed text.toList).map Char.toLower)
  match ofName? word with
  | some strategy => .ok strategy
  | none => .error s!"unknown chunk strategy '{word}'"

end ChunkStrategy

structure ChunkOptions where
  size : UInt64
  overlap : UInt64
  strategy : ChunkStrategy
  deriving DecidableEq, Repr

namespace ChunkOptions

def standard : ChunkOptions := ⟨1000, 200, .recursive⟩

/-- The size that counts: zero stands for the standard size. -/
def effectiveSize (options : ChunkOptions) : Nat :=
  if options.size = 0 then standard.size.toNat else options.size.toNat

theorem effectiveSize_pos (options : ChunkOptions) : 0 < options.effectiveSize := by
  unfold effectiveSize
  split
  · decide
  · rename_i nonzero
    exact Nat.pos_of_ne_zero fun zero => nonzero (UInt64.toNat.inj zero)

def toJson (options : ChunkOptions) : Json :=
  .object [("size", .ofNat options.size.toNat), ("overlap", .ofNat options.overlap.toNat),
    ("strategy", .string options.strategy.name)]

def ofJson? (json : Json) : Option ChunkOptions := do
  match ← json.slots? ["size", "overlap", "strategy"] with
  | [size, overlap, strategy] =>
      return ⟨← size.required Json.uint64?, ← overlap.required Json.uint64?,
        ← ChunkStrategy.ofName? (← strategy.required Json.alternative?)⟩
  | _ => none

end ChunkOptions

end GroundedAnswers
