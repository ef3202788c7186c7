import GroundedAnswers.Json.Record

namespace GroundedAnswers

/-! Counts of tokens. -/

def saturatingAdd (left right : UInt32) : UInt32 :=
  if left.toNat + right.toNat < UInt32.size then left + right else 0xFFFFFFFF

theorem toNat_saturatingAdd (left right : UInt32) :
    (saturatingAdd left right).toNat = min (left.toNat + right.toNat) (UInt32.size - 1) := by
  unfold saturatingAdd
  split
  · rename_i fits
    rw [UInt32.toNat_add, Nat.mod_eq_of_lt fits]
    omega
  · rename_i overflows
    rw [Nat.min_eq_right (by omega)]
    rfl

structure Usage where
  inputTokens : UInt32
  outputTokens : UInt32
  totalTokens : UInt32
  deriving DecidableEq, Repr

namespace Usage

def of (inputTokens outputTokens : UInt32) : Usage :=
  ⟨inputTokens, outputTokens, saturatingAdd inputTokens outputTokens⟩

def zero : Usage := of 0 0

/-- Later counts replace earlier ones, except that a count of zero leaves the earlier one. -/
def updated (current update : Usage) : Usage :=
  of (if update.inputTokens = 0 then current.inputTokens else update.inputTokens)
    (if update.outputTokens = 0 then current.outputTokens else update.outputTokens)

def toJson (usage : Usage) : Json :=
  .object [("input_tokens", .ofNat usage.inputTokens.toNat),
    ("output_tokens", .ofNat usage.outputTokens.toNat),
    ("total_tokens", .ofNat usage.totalTokens.toNat)]

def ofJson? (json : Json) : Option Usage := do
  match ← json.slots? ["input_tokens", "output_tokens", "total_tokens"] with
  | [inputTokens, outputTokens, totalTokens] =>
      return ⟨← inputTokens.required Json.uint32?, ← outputTokens.required Json.uint32?,
        ← totalTokens.required Json.uint32?⟩
  | _ => none

end Usage

end GroundedAnswers
