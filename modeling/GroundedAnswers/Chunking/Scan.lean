import GroundedAnswers.Chunking.Strategy

namespace GroundedAnswers.Chunking

/-! Windows as a machine finds them: positions are words of 64 bits, and the loop that goes over
them stops with a fault where a sum or a difference does not fit, or where a part would reach
beyond the items. -/

inductive PositionFault where
  | overflow
  | outOfRange
  deriving DecidableEq, Repr

namespace Position

def add (left right : UInt64) : Except PositionFault UInt64 :=
  if left.toNat + right.toNat < UInt64.size then .ok (left + right) else .error .overflow

def subtract (left right : UInt64) : Except PositionFault UInt64 :=
  if right ≤ left then .ok (left - right) else .error .overflow

def stride (size overlap : UInt64) : Except PositionFault UInt64 :=
  if size ≤ overlap then .ok size else subtract size overlap

def slice (items : List α) (start stop : UInt64) : Except PositionFault (List α) :=
  if start ≤ stop ∧ stop.toNat ≤ items.length then
    .ok (items.extract start.toNat stop.toNat)
  else .error .outOfRange

end Position

/-- The windows that a loop finds from a position on. There are none yet when the loop takes more
rounds than it is given. -/
def scan (size stride : UInt64) (items : List α) :
    (rounds : Nat) → (start : UInt64) → Except PositionFault (Option (List (List α)))
  | 0, _ => .ok none
  | rounds + 1, start =>
      if start.toNat < items.length then do
        let stop := min (← Position.add start size) items.length.toUInt64
        let window ← Position.slice items start stop
        if stop.toNat = items.length then return some [window]
        else
          let others ← scan size stride items rounds (← Position.add start stride)
          return others.map (window :: ·)
      else return some []

def scanFixed (options : ChunkOptions) (items : List α) (rounds : Nat) :
    Except PositionFault (Option (List (List α))) := do
  let size := if options.size = 0 then ChunkOptions.standard.size else options.size
  scan size (← Position.stride size options.overlap) items rounds 0

example : scanFixed ⟨4, 2, .fixed⟩ "abcdefg".toList 3 =
    .ok (some ["abcd".toList, "cdef".toList, "efg".toList]) := by rfl

end GroundedAnswers.Chunking
