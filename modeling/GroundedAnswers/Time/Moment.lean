import GroundedAnswers.Time.Duration

namespace GroundedAnswers

/-! Time is counted in turns, two for each nanosecond. In the first turn the callers go on, in the
second everything that runs beside them: cancellations from elsewhere and the readers of streams.
So at the same nanosecond a caller whose timer runs out is ahead of a cancellation. -/

/-- A number of turns since the start. -/
abbrev Moment := Nat

namespace Moment

/-- The callers' turn after so many milliseconds. -/
def ofMilliseconds (milliseconds : Nat) : Moment :=
  2 * (milliseconds * Duration.nanosecondsPerMillisecond)

def nanoseconds (moment : Moment) : Nat :=
  moment / 2

def milliseconds (moment : Moment) : Nat :=
  moment.nanoseconds / Duration.nanosecondsPerMillisecond

/-- The callers' turn a number of nanoseconds from now, and never earlier than now. -/
def after (now : Moment) (nanoseconds : Nat) : Moment :=
  max now (2 * (now.nanoseconds + nanoseconds))

/-- The turn beside the callers a number of nanoseconds from now. -/
def besideAfter (now : Moment) (nanoseconds : Nat) : Moment :=
  max now (2 * (now.nanoseconds + nanoseconds) + 1)

/-- The whole milliseconds from one moment to a later one, in a word of 64 bits. -/
def millisecondsUntil (start finish : Moment) : UInt64 :=
  ((finish.nanoseconds - start.nanoseconds) / Duration.nanosecondsPerMillisecond).toUInt64

theorem le_after (now : Moment) (nanoseconds : Nat) : now ≤ after now nanoseconds :=
  Nat.le_max_left _ _

theorem le_besideAfter (now : Moment) (nanoseconds : Nat) : now ≤ besideAfter now nanoseconds :=
  Nat.le_max_left _ _

@[simp] theorem nanoseconds_after (now : Moment) (nanoseconds : Nat) :
    (now.after nanoseconds).nanoseconds = now.nanoseconds + nanoseconds := by
  unfold after Moment.nanoseconds
  omega

theorem millisecondsUntil_after (now : Moment) (nanoseconds : Nat) :
    now.millisecondsUntil (now.after nanoseconds) =
      (nanoseconds / Duration.nanosecondsPerMillisecond).toUInt64 := by
  rw [millisecondsUntil, nanoseconds_after, Nat.add_sub_cancel_left]

example : after 1 0 = 1 := rfl

example : after 1 5 = 10 := rfl

end Moment

end GroundedAnswers
