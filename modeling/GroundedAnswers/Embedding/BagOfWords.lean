import GroundedAnswers.Embedding.Basic
import GroundedAnswers.Text.Terms
import GroundedAnswers.Text.Utf8

namespace GroundedAnswers.BagOfWords

/-! An embedding without a model. Each term of a text adds one to a dimension chosen by its hash,
and the vector is scaled to length one. Texts that share terms point in similar directions. -/

def dimensions : Nat := 16

def hashByte (hash : UInt32) (byte : UInt8) : UInt32 :=
  (hash ^^^ byte.toUInt32) * 16777619

def hash (term : String) : UInt32 :=
  (Text.Utf8.encode term).foldl hashByte 2166136261

def dimension (term : String) : Nat :=
  (hash term).toNat % dimensions

def bump (vector : Vector32) (term : String) : Vector32 :=
  vector.modify (dimension term) (· + 1.0)

def counts (text : String) : Vector32 :=
  (Text.terms text).foldl bump (List.replicate dimensions 0.0)

/-- The sum from left to right. A sum of nothing is a negative zero, which adds nothing to any
number. -/
def sum (values : List Float32) : Float32 :=
  values.foldl (· + ·) (-0.0)

def norm (vector : Vector32) : Float32 :=
  (sum (vector.map fun value => value * value)).sqrt

/-- Scale to length one. A vector of zeros stays as it is. -/
def normalized (vector : Vector32) : Vector32 :=
  let length := norm vector
  if 0.0 < length then vector.map (· / length) else vector

def embedding (text : String) : Vector32 :=
  normalized (counts text)

end GroundedAnswers.BagOfWords
