import GroundedAnswers.Number.Binary

namespace GroundedAnswers

open Number

/-! Prices of models in dollars for a thousand tokens. A model without a price costs nothing. -/

structure Price where
  input : Float
  output : Float

def prices : List (String × Price) := [
  ("gpt-4", ⟨0.03, 0.06⟩),
  ("gpt-4-turbo", ⟨0.01, 0.03⟩),
  ("gpt-4o", ⟨0.005, 0.015⟩),
  ("gpt-4o-mini", ⟨0.00015, 0.0006⟩),
  ("gpt-3.5-turbo", ⟨0.0005, 0.0015⟩),
  ("text-embedding-ada-002", ⟨0.0001, 0.0⟩),
  ("text-embedding-3-small", ⟨0.00002, 0.0⟩),
  ("text-embedding-3-large", ⟨0.00013, 0.0⟩),
  ("claude-3-opus-20240229", ⟨0.015, 0.075⟩),
  ("claude-3-sonnet-20240229", ⟨0.003, 0.015⟩),
  ("claude-3-haiku-20240307", ⟨0.00025, 0.00125⟩),
  ("claude-sonnet-4-20250514", ⟨0.003, 0.015⟩),
  ("claude-opus-4-20250514", ⟨0.015, 0.075⟩)]

def price? (model : String) : Option Price :=
  prices.lookup model

def estimateCost (model : String) (inputTokens outputTokens : UInt32) : Float :=
  match price? model with
  | some price =>
      floatOfInt inputTokens.toNat / 1000.0 * price.input +
        floatOfInt outputTokens.toNat / 1000.0 * price.output
  | none => 0.0

end GroundedAnswers
