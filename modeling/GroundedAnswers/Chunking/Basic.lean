import GroundedAnswers.Chunking.Pieces

namespace GroundedAnswers

/-! Chunks of a text: its pieces without the blank ones, numbered from zero. -/

/-- A rough count of tokens: four for every three words, and at least one. -/
def estimateTokens (text : String) : Nat :=
  max (Text.wordCount text * 4 / 3) 1

structure TextChunk where
  content : String
  index : Nat
  tokenCount : Nat
  deriving DecidableEq, Repr

namespace TextChunk

def of (index : Nat) (content : String) : TextChunk :=
  ⟨content, index, estimateTokens content⟩

def toJson (chunk : TextChunk) : Json :=
  .object [("content", .string chunk.content), ("index", .ofNat chunk.index),
    ("token_count", .ofNat chunk.tokenCount)]

def ofJson? (json : Json) : Option TextChunk := do
  match ← json.slots? ["content", "index", "token_count"] with
  | [content, index, tokenCount] =>
      return ⟨← content.required Json.string?, (← index.required Json.uint64?).toNat,
        (← tokenCount.required Json.uint64?).toNat⟩
  | _ => none

end TextChunk

def chunkText (options : ChunkOptions) (text : String) : List TextChunk :=
  let pieces := (Chunking.pieces options text.toList).filter fun piece => !piece.all Text.isBlank
  pieces.mapIdx fun index piece => .of index (String.ofList piece)

end GroundedAnswers
