/-!
# Durations

Whole nanoseconds, and the time that a number of frames takes at a sample rate.
Every conversion is exact until its single rounding and stops at the largest
64-bit count of its unit.
-/

namespace AudioRelay

/-- The largest unsigned 64-bit number, where time computations stop growing. -/
def maxCount : Nat := 0xffffffffffffffff

/-- A length of time in whole nanoseconds. -/
structure Duration where
  nanos : Nat
  deriving DecidableEq, Repr, Inhabited

namespace Duration

/-- No time at all. -/
def zero : Duration := ⟨0⟩

/-- Whole microseconds. -/
def ofMicros (n : Nat) : Duration := ⟨n * 1000⟩

/-- Whole milliseconds. -/
def ofMillis (n : Nat) : Duration := ⟨n * 1000000⟩

/-- Whole seconds. -/
def ofSeconds (n : Nat) : Duration := ⟨n * 1000000000⟩

/-- The whole seconds of a duration. -/
def seconds (d : Duration) : Nat := d.nanos / 1000000000

/-- Nanoseconds beyond the whole seconds. -/
def subsecond (d : Duration) : Nat := d.nanos % 1000000000

/-- The whole milliseconds of a duration. -/
def millis (d : Duration) : Nat := d.nanos / 1000000

/-- The whole microseconds of a duration. -/
def micros (d : Duration) : Nat := d.nanos / 1000

/-- Seconds and the rest make up the whole duration. -/
theorem seconds_subsecond (d : Duration) :
    d.seconds * 1000000000 + d.subsecond = d.nanos := by
  unfold seconds subsecond; omega

/-- Time that `frames` frames take at `rate` frames a second, rounded down to a
nanosecond; a stream without a rate takes no time. -/
def ofFrames (frames rate : Nat) : Duration :=
  if rate = 0 then zero else ⟨min (frames * 1000000000 / rate) maxCount⟩

/-- Time to play `frames` frames out, rounded to the nearest microsecond with a
half going up; a stream without a rate takes no time. -/
def drain (frames rate : Nat) : Duration :=
  if rate = 0 then zero else ofMicros (min ((frames * 1000000 + rate / 2) / rate) maxCount)

end Duration

end AudioRelay
