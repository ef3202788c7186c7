namespace GroundedAnswers

/-! Durations: whole seconds in a word of 64 bits, and the nanoseconds beyond them in one of 32.
Arithmetic stops at the longest duration. -/

structure Duration where
  wholeSeconds : UInt64
  /-- The nanoseconds beyond the whole seconds. -/
  remainder : UInt32
  remainder_lt : remainder < 1000000000
  deriving DecidableEq, Repr

namespace Duration

def nanosecondsPerSecond : Nat := 1000000000

def nanosecondsPerMillisecond : Nat := 1000000

def seconds (duration : Duration) : Nat :=
  duration.wholeSeconds.toNat

def subsecondNanoseconds (duration : Duration) : Nat :=
  duration.remainder.toNat

def nanoseconds (duration : Duration) : Nat :=
  duration.seconds * nanosecondsPerSecond + duration.subsecondNanoseconds

def milliseconds (duration : Duration) : Nat :=
  duration.nanoseconds / nanosecondsPerMillisecond

theorem subsecondNanoseconds_lt (duration : Duration) :
    duration.subsecondNanoseconds < nanosecondsPerSecond :=
  UInt32.lt_iff_toNat_lt.mp duration.remainder_lt

def greatest : Duration :=
  ⟨0xFFFFFFFFFFFFFFFF, 999999999, by decide⟩

/-! ## Milliseconds -/

/-- The nanoseconds of the milliseconds beyond whole seconds. -/
def nanosecondsBeyond (milliseconds : UInt64) : UInt32 :=
  (milliseconds % 1000).toUInt32 * 1000000

theorem toNat_nanosecondsBeyond (milliseconds : UInt64) :
    (nanosecondsBeyond milliseconds).toNat =
      milliseconds.toNat % 1000 * nanosecondsPerMillisecond := by
  have few : milliseconds.toNat % 1000 < 1000 := Nat.mod_lt _ (by decide)
  have kept : (milliseconds % 1000).toUInt32.toNat = milliseconds.toNat % 1000 := by
    rw [UInt64.toNat_toUInt32, UInt64.toNat_mod]
    exact Nat.mod_eq_of_lt (Nat.lt_trans few (by decide))
  rw [nanosecondsBeyond, UInt32.toNat_mul, kept]
  refine Nat.mod_eq_of_lt (Nat.lt_trans (Nat.mul_lt_mul_of_pos_right few ?_) ?_) <;> decide

theorem nanosecondsBeyond_lt (milliseconds : UInt64) :
    nanosecondsBeyond milliseconds < 1000000000 := by
  rw [UInt32.lt_iff_toNat_lt, toNat_nanosecondsBeyond]
  exact Nat.mul_lt_mul_of_pos_right (Nat.mod_lt _ (by decide)) (by decide)

def ofMilliseconds (milliseconds : UInt64) : Duration :=
  ⟨milliseconds / 1000, nanosecondsBeyond milliseconds, nanosecondsBeyond_lt milliseconds⟩

theorem nanoseconds_ofMilliseconds (milliseconds : UInt64) :
    (ofMilliseconds milliseconds).nanoseconds =
      milliseconds.toNat * nanosecondsPerMillisecond := by
  have seconds : (ofMilliseconds milliseconds).seconds = milliseconds.toNat / 1000 :=
    UInt64.toNat_div _ _
  have beyond : (ofMilliseconds milliseconds).subsecondNanoseconds =
      milliseconds.toNat % 1000 * nanosecondsPerMillisecond :=
    toNat_nanosecondsBeyond milliseconds
  rw [nanoseconds, seconds, beyond, nanosecondsPerSecond, nanosecondsPerMillisecond]
  omega

/-! ## Multiples -/

def product? (left right : UInt64) : Option UInt64 :=
  if left.toNat * right.toNat < UInt64.size then some (left * right) else none

def sum? (left right : UInt64) : Option UInt64 :=
  if left.toNat + right.toNat < UInt64.size then some (left + right) else none

/-- A multiple of the nanoseconds beyond the whole seconds, before whole seconds are carried. -/
def scaledRemainder (duration : Duration) (factor : UInt32) : UInt64 :=
  duration.remainder.toUInt64 * factor.toUInt64

theorem toUInt32_mod_lt (nanoseconds : UInt64) :
    (nanoseconds % 1000000000).toUInt32 < 1000000000 := by
  have few : nanoseconds.toNat % 1000000000 < 1000000000 := Nat.mod_lt _ (by decide)
  rw [UInt32.lt_iff_toNat_lt, UInt64.toNat_toUInt32, UInt64.toNat_mod]
  exact Nat.lt_of_le_of_lt (Nat.mod_le _ _) few

def secondsTimes? (duration : Duration) (factor : UInt32) : Option UInt64 :=
  (product? duration.wholeSeconds factor.toUInt64).bind
    (sum? · (duration.scaledRemainder factor / 1000000000))

def times? (duration : Duration) (factor : UInt32) : Option Duration :=
  let scaled := duration.scaledRemainder factor
  (duration.secondsTimes? factor).map fun seconds =>
    ⟨seconds, (scaled % 1000000000).toUInt32, toUInt32_mod_lt scaled⟩

/-- A multiple, or the longest duration when it is too long. -/
def times (duration : Duration) (factor : UInt32) : Duration :=
  (duration.times? factor).getD greatest

example : ((ofMilliseconds 2500).times 3).milliseconds = 7500 := by decide +kernel

end Duration

end GroundedAnswers
