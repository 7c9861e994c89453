import AudioRelay.Device.Id
import AudioRelay.Error

/-!
# Events and counters

Events tell a listener about the health of a stream; they never stop it. Counters
grow over the life of an engine and wrap at 64 bits.
-/

namespace AudioRelay

/-- Something a listener is told while a stream runs. -/
inductive Event where
  /-- A pipe was too full for the end of a chunk; the rest is lost for this device. -/
  | framesDropped (device : DeviceId) (frames : Nat)
  /-- The capture pipe had too few frames; the end of the buffer is silence. -/
  | silenceInserted (frames : Nat)
  /-- A transfer failed for good. -/
  | deviceFailed (device : DeviceId) (message : String)
  | workerStarted (device : DeviceId)
  | workerStopped (device : DeviceId)
  deriving DecidableEq, Repr

/-- Cumulative statistics of an engine. -/
structure Counters where
  /-- Completed transfers. -/
  transfers : UInt64
  /-- Frames dropped, summed over devices. -/
  dropped : UInt64
  /-- Silent frames inserted. -/
  silence : UInt64
  /-- Transfers that failed for good while the stream ran. -/
  deviceErrors : UInt64
  workersStarted : UInt64
  deriving DecidableEq, Repr

/-- The counters of a new engine. -/
def Counters.zero : Counters := ⟨0, 0, 0, 0, 0⟩

end AudioRelay
