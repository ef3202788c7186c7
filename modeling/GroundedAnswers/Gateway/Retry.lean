import GroundedAnswers.Time.Duration

namespace GroundedAnswers

/-! When a failed attempt is repeated. -/

def saturatingMul (left right : UInt32) : UInt32 :=
  if left.toNat * right.toNat < UInt32.size then left * right else 0xFFFFFFFF

theorem toNat_saturatingMul (left right : UInt32) :
    (saturatingMul left right).toNat = min (left.toNat * right.toNat) (UInt32.size - 1) := by
  unfold saturatingMul
  split
  · rename_i fits
    rw [UInt32.toNat_mul, Nat.mod_eq_of_lt fits]
    omega
  · rename_i overflows
    rw [Nat.min_eq_right (by omega)]
    rfl

structure RetryPolicy where
  maxRetries : UInt32
  baseDelay : Duration
  deriving DecidableEq, Repr

namespace RetryPolicy

def standard : RetryPolicy :=
  ⟨3, .ofMilliseconds 500⟩

/-- How many times the base delay a retry waits: its number squared, up to the greatest 32-bit
number. -/
def backoffFactor (retry : UInt32) : UInt32 :=
  saturatingMul retry retry

def backoff (policy : RetryPolicy) (retry : UInt32) : Duration :=
  policy.baseDelay.times (backoffFactor retry)

example : (standard.backoff 3).milliseconds = 4500 := by decide +kernel

end RetryPolicy

end GroundedAnswers
