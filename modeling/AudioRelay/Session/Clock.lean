import AudioRelay.Stream.Duration

/-!
# A clock for sleeping threads

Time moves only while every thread sleeps. A sleep ends when it was asked to, or
later where a lateness says so; the sleeps of a thread are numbered from zero, and a
sleep of no length is none.
-/

namespace AudioRelay

/-- One numbered sleep of a thread that ends later than asked. -/
structure Lateness where
  thread : String
  sleep : Nat
  extra : Duration
  deriving DecidableEq, Repr

/-- The time, and how many sleeps each thread has begun. -/
structure Clock where
  /-- Nanoseconds since the start. -/
  now : Nat
  late : List Lateness
  slept : List (String × Nat)
  deriving DecidableEq, Repr

namespace Clock

/-- A clock at the start of time. -/
def start (late : List Lateness) : Clock := ⟨0, late, []⟩

/-- How many sleeps a thread has begun. -/
def sleeps (c : Clock) (thread : String) : Nat := (c.slept.lookup thread).getD 0

/-- How much later the next sleep of a thread ends; entries for one sleep add up. -/
def lateness (c : Clock) (thread : String) : Nat :=
  c.late.foldl (fun sum l =>
    if l.thread = thread ∧ l.sleep = c.sleeps thread then sum + l.extra.nanos else sum) 0

/-- A thread falls asleep; the time its sleep ends. -/
def fallAsleep (c : Clock) (thread : String) (d : Duration) : Clock × Nat :=
  if d.nanos = 0 then (c, c.now)
  else
    ({ c with slept := (thread, c.sleeps thread + 1) :: c.slept.filter (·.1 ≠ thread) },
      c.now + d.nanos + c.lateness thread)

/-- Moves on to a time; time never runs back. -/
def advance (c : Clock) (time : Nat) : Clock := { c with now := max c.now time }

/-- A thread sleeps while nothing else happens. -/
def sleep (c : Clock) (thread : String) (d : Duration) : Clock :=
  let (c, wake) := c.fallAsleep thread d
  c.advance wake

end Clock

end AudioRelay
