/-!
# Faults, failures and misuse

Each cause is a constructor and each wording is one function. Device faults happen
while streaming and are reported, never raised; engine failures are returned to the
client; misuse is a broken promise of the caller or of a device.
-/

namespace AudioRelay

/-- A fault that a device reports. -/
inductive DeviceError where
  /-- The transfer failed but may succeed if tried again. -/
  | transient (reason : String)
  /-- The device was stopped; transfers keep failing until it is opened anew. -/
  | stopped
  | openFailed (device reason : String)
  | positionUnavailable (reason : String)
  | custom (reason : String)
  deriving DecidableEq, Repr

namespace DeviceError

/-- The wording of a device fault. -/
def message : DeviceError → String
  | transient reason => s!"transient device error: {reason}"
  | stopped => "device stopped"
  | openFailed device reason => s!"failed to open device '{device}': {reason}"
  | positionUnavailable reason => s!"position unavailable: {reason}"
  | custom reason => reason

/-- Whether the same transfer is worth another attempt. -/
def isTransient : DeviceError → Bool
  | transient _ => true
  | _ => false

end DeviceError

/-- A failure that the engine returns to its client. -/
inductive EngineError where
  /-- No usable device could be opened, or the stream cannot be configured. -/
  | notInitialized (reason : String)
  /-- A query failed against an open device. -/
  | invalidOperation (reason : String)
  /-- The system refused to create a worker thread. -/
  | workerSpawn (device source : String)
  deriving DecidableEq, Repr

namespace EngineError

/-- The wording of an engine failure; a worker that could not be created names the cause. -/
def message : EngineError → String
  | notInitialized reason => s!"stream not initialized: {reason}"
  | invalidOperation reason => s!"invalid operation: {reason}"
  | workerSpawn device source => s!"failed to spawn worker for device '{device}': {source}"

/-- The text of the system's own error beneath a failure, if there is one. -/
def source? : EngineError → Option String
  | workerSpawn _ source => some source
  | _ => none

end EngineError

/-- A blocking pipe operation met a pipe that takes no more frames. -/
inductive PipeError where
  | shutdown
  deriving DecidableEq, Repr

/-- The wording of a refused pipe operation. -/
def PipeError.message : PipeError → String
  | shutdown => "pipe shut down"

/-- A broken promise: the operation is abandoned where it was noticed. -/
inductive Misuse where
  /-- A pipe of no frames. -/
  | noCapacity
  /-- A pipe of empty frames. -/
  | noFrameSize
  /-- A transfer counted in frames that have no bytes. -/
  | emptyFrames
  /-- A transfer on a stream without devices. -/
  | noDevices
  /-- A transfer of more frames than the buffer holds. -/
  | shortBuffer (held frames frameSize : Nat)
  /-- A device that gave up in the middle of a transfer. -/
  | deviceCrash
  deriving DecidableEq, Repr

/-- The wording of a broken promise. -/
def Misuse.message : Misuse → String
  | noCapacity => "pipe capacity must be non-zero"
  | noFrameSize => "frame size must be non-zero"
  | emptyFrames => "attempt to divide by zero"
  | noDevices => "transfer called with no open devices"
  | shortBuffer held frames frameSize =>
    s!"buffer holds {held} bytes, too short for {frames} frames of {frameSize} bytes"
  | deviceCrash => "scripted device panic"

end AudioRelay
