/-!
# Positions

A device counts the frames it transferred in a signed 64-bit counter that its owner
may set. A presentation counter is unsigned and is folded into the signed range
before a client sees it.
-/

namespace AudioRelay

/-- A number of frames and the time it was measured at, in nanoseconds. -/
structure Position where
  frames : Int
  time : Int
  deriving DecidableEq, Repr, Inhabited

namespace Position

/-- The greatest signed 64-bit number. -/
def maxFrames : Int := 0x7fffffffffffffff

/-- A signed 64-bit counter after some more frames. -/
def advance (count : Int) (frames : Nat) : Int := Int.bmod (count + frames) 0x10000000000000000

/-- A signed 64-bit clock reading. -/
def clock (nanos : Nat) : Int := min nanos maxFrames

/-- An unsigned counter in the signed range: above its end the range is subtracted
once, and what is still above the end is held there. -/
def fold (frames : Nat) : Int :=
  let folded : Int := if maxFrames < frames then frames - maxFrames else frames
  min folded maxFrames

/-- A folded counter is in the signed range. -/
theorem fold_mem_range (frames : Nat) : 0 ≤ fold frames ∧ fold frames ≤ maxFrames := by
  unfold fold maxFrames
  dsimp only
  split <;> omega

/-- A counter that is in the signed range already stays as it is. -/
theorem fold_of_le {frames : Nat} (h : (frames : Int) ≤ maxFrames) : fold frames = frames := by
  unfold fold
  dsimp only
  split <;> omega

end Position

end AudioRelay
