import Mathlib.Algebra.GroupWithZero.Nat
import GroundedAnswers.Gateway.Retry

namespace GroundedAnswers

/-! How long a retry waits. The words in which a duration is multiplied never wrap around, so the
wait is the exact multiple of the base delay, or the longest duration when that is too long. -/

/-! ## Multiples of durations -/

namespace Duration

private theorem nanoseconds_greatest :
    greatest.nanoseconds = UInt64.size * nanosecondsPerSecond - 1 := by
  decide +kernel

section

variable {left right result : UInt64}

private theorem toNat_of_product? (isProduct : product? left right = some result) :
    result.toNat = left.toNat * right.toNat := by
  unfold product? at isProduct
  split at isProduct
  · rename_i fits
    cases isProduct
    rw [UInt64.toNat_mul]
    exact Nat.mod_eq_of_lt fits
  · cases isProduct

private theorem product?_eq_none_iff :
    product? left right = none ↔ UInt64.size ≤ left.toNat * right.toNat := by
  unfold product?
  split <;> simp <;> omega

private theorem toNat_of_sum? (isSum : sum? left right = some result) :
    result.toNat = left.toNat + right.toNat := by
  unfold sum? at isSum
  split at isSum
  · rename_i fits
    cases isSum
    rw [UInt64.toNat_add]
    exact Nat.mod_eq_of_lt fits
  · cases isSum

private theorem sum?_eq_none_iff :
    sum? left right = none ↔ UInt64.size ≤ left.toNat + right.toNat := by
  unfold sum?
  split <;> simp <;> omega

end

variable (duration : Duration) (factor : UInt32)

/-- Thirty bits times thirty-two bits fit into sixty-four. -/
theorem toNat_scaledRemainder :
    (duration.scaledRemainder factor).toNat = duration.subsecondNanoseconds * factor.toNat := by
  have beyond := duration.subsecondNanoseconds_lt
  have bounded : factor.toNat < 2 ^ 32 := factor.toNat_lt
  rw [scaledRemainder, UInt64.toNat_mul, UInt32.toNat_toUInt64, UInt32.toNat_toUInt64]
  refine Nat.mod_eq_of_lt (Nat.lt_trans (Nat.mul_lt_mul'' beyond bounded) ?_)
  decide

private theorem multiple_div :
    duration.nanoseconds * factor.toNat / nanosecondsPerSecond =
      duration.seconds * factor.toNat +
        (duration.scaledRemainder factor).toNat / nanosecondsPerSecond := by
  rw [toNat_scaledRemainder, nanoseconds, Nat.add_mul, Nat.mul_right_comm, Nat.add_comm,
    Nat.add_mul_div_right _ _ (by decide), Nat.add_comm]

private theorem multiple_mod :
    duration.nanoseconds * factor.toNat % nanosecondsPerSecond =
      (duration.scaledRemainder factor).toNat % nanosecondsPerSecond := by
  rw [toNat_scaledRemainder, nanoseconds, Nat.add_mul, Nat.mul_right_comm, Nat.add_comm,
    Nat.add_mul_mod_self_right]

private theorem secondsTimes?_cases :
    let seconds := duration.nanoseconds * factor.toNat / nanosecondsPerSecond
    (seconds < UInt64.size ∧
      ∃ word, duration.secondsTimes? factor = some word ∧ word.toNat = seconds) ∨
    (UInt64.size ≤ seconds ∧ duration.secondsTimes? factor = none) := by
  intro seconds
  have whole : seconds = duration.seconds * factor.toNat +
      (duration.scaledRemainder factor / 1000000000).toNat := duration.multiple_div factor
  have factorIs : factor.toUInt64.toNat = factor.toNat := UInt32.toNat_toUInt64 factor
  cases product : product? duration.wholeSeconds factor.toUInt64 with
  | none =>
      have none : duration.secondsTimes? factor = none := by
        rw [secondsTimes?, product, Option.bind_none]
      rw [product?_eq_none_iff, factorIs] at product
      exact .inr ⟨whole ▸ Nat.le_add_right_of_le product, none⟩
  | some multiplied =>
      have multipliedIs := toNat_of_product? product
      have added : duration.secondsTimes? factor =
          sum? multiplied (duration.scaledRemainder factor / 1000000000) := by
        rw [secondsTimes?, product, Option.bind_some]
      rw [factorIs] at multipliedIs
      rw [added]
      cases sum : sum? multiplied (duration.scaledRemainder factor / 1000000000) with
      | none =>
          rw [sum?_eq_none_iff, multipliedIs] at sum
          exact .inr ⟨whole ▸ sum, rfl⟩
      | some word =>
          have wordIs := toNat_of_sum? sum
          rw [multipliedIs] at wordIs
          have same : word.toNat = seconds := wordIs.trans whole.symm
          exact .inl ⟨same ▸ word.toNat_lt, word, rfl, same⟩

private theorem times_cases :
    let exact := duration.nanoseconds * factor.toNat
    (exact / nanosecondsPerSecond < UInt64.size ∧
      (duration.times factor).nanoseconds = exact) ∨
    (UInt64.size ≤ exact / nanosecondsPerSecond ∧ duration.times factor = greatest) := by
  intro exact
  rcases duration.secondsTimes?_cases factor with ⟨fits, word, found, wordIs⟩ | ⟨large, none⟩
  · refine .inl ⟨fits, ?_⟩
    have beyond : (duration.scaledRemainder factor % 1000000000).toUInt32.toNat =
        exact % nanosecondsPerSecond := by
      rw [UInt64.toNat_toUInt32, UInt64.toNat_mod, duration.multiple_mod factor]
      exact Nat.mod_eq_of_lt (Nat.lt_trans (Nat.mod_lt _ (by decide)) (by decide))
    rw [times, times?, found, Option.map_some, Option.getD_some]
    change word.toNat * nanosecondsPerSecond +
      (duration.scaledRemainder factor % 1000000000).toUInt32.toNat = exact
    rw [wordIs, beyond, Nat.mul_comm]
    exact Nat.div_add_mod exact nanosecondsPerSecond
  · refine .inr ⟨large, ?_⟩
    rw [times, times?, none, Option.map_none, Option.getD_none]

private theorem nanoseconds_times :
    (duration.times factor).nanoseconds =
      min (duration.nanoseconds * factor.toNat) greatest.nanoseconds := by
  have size := nanoseconds_greatest
  unfold nanosecondsPerSecond at size
  rcases duration.times_cases factor with ⟨fits, exact⟩ | ⟨large, longest⟩
  · unfold nanosecondsPerSecond at fits
    omega
  · rw [longest]
    unfold nanosecondsPerSecond at large
    omega

end Duration

/-! ## Waits -/

namespace RetryPolicy

/-- The nanoseconds of a wait that nothing limits but the greatest factor. -/
def exactBackoff (base : UInt64) (retry : UInt32) : Nat :=
  base.toNat * 10 ^ 6 * min (retry.toNat ^ 2) (2 ^ 32 - 1)

private theorem toNat_backoffFactor (retry : UInt32) :
    (backoffFactor retry).toNat = min (retry.toNat ^ 2) (2 ^ 32 - 1) := by
  have greatest : UInt32.size - 1 = 2 ^ 32 - 1 := rfl
  rw [backoffFactor, toNat_saturatingMul, Nat.pow_two, greatest]

private theorem nanoseconds_mul_factor (base : UInt64) (retry : UInt32) :
    (Duration.ofMilliseconds base).nanoseconds * (backoffFactor retry).toNat =
      exactBackoff base retry := by
  rw [Duration.nanoseconds_ofMilliseconds, toNat_backoffFactor]
  rfl

private theorem exactBackoff_mono {base base' : UInt64} {retry retry' : UInt32}
    (longer : base ≤ base') (later : retry ≤ retry') :
    exactBackoff base retry ≤ exactBackoff base' retry' := by
  have square : retry.toNat ^ 2 ≤ retry'.toNat ^ 2 :=
    Nat.pow_le_pow_left (UInt32.le_iff_toNat_le.mp later) 2
  have factor : min (retry.toNat ^ 2) (2 ^ 32 - 1) ≤ min (retry'.toNat ^ 2) (2 ^ 32 - 1) := by
    omega
  exact Nat.mul_le_mul (Nat.mul_le_mul_right _ (UInt64.le_iff_toNat_le.mp longer)) factor

/-- A base delay of whole milliseconds is multiplied by the square of the retry's number, which
stops at the greatest 32-bit number. The wait is exact where its seconds fit into 64 bits, and the
longest duration elsewhere. No product on the way wraps around, and waits never fall. -/
theorem backoff_exact_or_longest (maxRetries : UInt32) (base : UInt64) (retry : UInt32) :
    let policy (base : UInt64) : RetryPolicy := ⟨maxRetries, .ofMilliseconds base⟩
    let exact := base.toNat * 10 ^ 6 * min (retry.toNat ^ 2) (2 ^ 32 - 1)
    let wait := (policy base).backoff retry
    (exact / 10 ^ 9 < 2 ^ 64 → wait.nanoseconds = exact) ∧
    (2 ^ 64 ≤ exact / 10 ^ 9 →
      wait.seconds = 2 ^ 64 - 1 ∧ wait.subsecondNanoseconds = 999999999) ∧
    wait.subsecondNanoseconds < 10 ^ 9 ∧
    (Duration.nanosecondsBeyond base).toNat = base.toNat % 1000 * 10 ^ 6 ∧
    (backoffFactor retry).toNat = min (retry.toNat ^ 2) (2 ^ 32 - 1) ∧
    ((policy base).baseDelay.scaledRemainder (backoffFactor retry)).toNat =
      (policy base).baseDelay.subsecondNanoseconds * (backoffFactor retry).toNat ∧
    ∀ base' retry', base ≤ base' → retry ≤ retry' →
      wait.nanoseconds ≤ ((policy base').backoff retry').nanoseconds := by
  intro policy exact wait
  have waitIs (base : UInt64) (retry : UInt32) : ((policy base).backoff retry).nanoseconds =
      min (exactBackoff base retry) Duration.greatest.nanoseconds := by
    rw [← nanoseconds_mul_factor]
    exact Duration.nanoseconds_times _ _
  have cases := (policy base).baseDelay.times_cases (backoffFactor retry)
  dsimp only at cases
  rw [nanoseconds_mul_factor] at cases
  refine ⟨fun fits => ?_, fun large => ?_, wait.subsecondNanoseconds_lt,
    Duration.toNat_nanosecondsBeyond base, toNat_backoffFactor retry,
    Duration.toNat_scaledRemainder _ _, fun base' retry' longer later => ?_⟩
  · rcases cases with ⟨_, isExact⟩ | ⟨large, _⟩
    · exact isExact
    · exact absurd fits (Nat.not_lt.mpr large)
  · rcases cases with ⟨fits, _⟩ | ⟨_, longest⟩
    · exact absurd fits (Nat.not_lt.mpr large)
    · change ((policy base).baseDelay.times (backoffFactor retry)).seconds = _ ∧
        ((policy base).baseDelay.times (backoffFactor retry)).subsecondNanoseconds = _
      rw [longest]
      exact ⟨rfl, rfl⟩
  · have grows := exactBackoff_mono longer later
    rw [waitIs, waitIs]
    omega

/-- The longest base delay: the wait before retry 31 still fits, with nanoseconds carried into its
seconds, and the wait before retry 65536 is the longest duration. -/
theorem backoff_exact_or_longest_carried :
    let base : UInt64 := 18446744073709551615
    let policy : RetryPolicy := ⟨3, .ofMilliseconds base⟩
    let exact (retry : Nat) := base.toNat * 10 ^ 6 * min (retry ^ 2) (2 ^ 32 - 1)
    exact 31 / 10 ^ 9 < 2 ^ 64 ∧ (policy.backoff 31).nanoseconds = exact 31 ∧
    (policy.backoff 31).seconds = 17727321054834879102 ∧
    2 ^ 64 ≤ exact 65536 / 10 ^ 9 ∧ (policy.backoff 65536).seconds = 2 ^ 64 - 1 ∧
    (31 : UInt32) ≤ 65536 ∧
    (policy.backoff 31).nanoseconds ≤ (policy.backoff 65536).nanoseconds := by
  intro base policy exact
  have fits : exact 31 / 10 ^ 9 < 2 ^ 64 := by decide +kernel
  have large : 2 ^ 64 ≤ exact 65536 / 10 ^ 9 := by decide +kernel
  have later : (31 : UInt32) ≤ 65536 := by decide
  rcases backoff_exact_or_longest 3 base 31 with ⟨isExact, _, _, _, _, _, grows⟩
  rcases backoff_exact_or_longest 3 base 65536 with ⟨_, isLongest, _⟩
  exact ⟨fits, isExact fits, by decide +kernel, large, (isLongest large).1, later,
    grows base 65536 (UInt64.le_refl base) later⟩

end RetryPolicy

end GroundedAnswers
