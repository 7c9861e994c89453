import AudioRelay.Device.Stub
import AudioRelay.Session.Clock

/-!
# A null device used by one thread

The thread that transfers sleeps out every pause itself, so time moves with it.
-/

namespace AudioRelay

/-- A null device and the clock of its only user. -/
structure Solo where
  stub : Stub
  clock : Clock
  /-- Name of the thread that uses the device. -/
  thread : String

namespace Solo

/-- A device opened at the start of time. -/
def create (name : String) (config : PcmConfig) (thread : String) (late : List Lateness) : Solo :=
  ⟨Stub.create name config 0, Clock.start late, thread⟩

/-- Nanoseconds since the start. -/
def now (s : Solo) : Nat := s.clock.now

/-- The thread sleeps while nothing else happens. -/
def sleep (s : Solo) (pause : Duration) : Solo :=
  { s with clock := s.clock.sleep s.thread pause }

/-- A write, its pause slept out. -/
def write (s : Solo) (data : List UInt8) : Solo × Outcome Unit :=
  let (stub, outcome, pause) := s.stub.write data s.now
  ({ s with stub }.sleep pause, outcome)

/-- A read, its pause slept out. -/
def read (s : Solo) (length : Nat) : Solo × Outcome (List UInt8) :=
  let (stub, outcome, pause) := s.stub.read length s.now
  ({ s with stub }.sleep pause, outcome)

end Solo

end AudioRelay
