import AudioRelay.Device.Profile
import AudioRelay.Device.Position
import AudioRelay.Engine.Event
import AudioRelay.Number.Single

/-!
# Calls of the client

One client thread drives an engine. It makes one call at a time, and a call advances
by one atomic action at a time, so that workers may move in between.
-/

namespace AudioRelay

/-- How a client wants a drain to end. Devices give no drain signal, so both ways wait
equally long. -/
inductive DrainMode where
  /-- Once everything buffered has played. -/
  | all
  /-- Early enough to queue what comes next. -/
  | early
  deriving DecidableEq, Repr

instance : Inhabited DrainMode := ⟨.all⟩

/-- What a client can ask an engine to do. -/
inductive Call where
  /-- Negotiate the hardware configuration anew. -/
  | negotiate
  /-- Open the devices and set a worker to each. -/
  | start
  /-- Move frames between a buffer and the devices. -/
  | transfer (buffer : List UInt8) (frames : Nat)
  /-- Ask for a gain level; one that is not accepted changes nothing. -/
  | setGain (level : Single)
  /-- Refine a position by the first device's own. -/
  | refine (position : Position)
  /-- Wait as long as one buffer plays. -/
  | drain (mode : DrainMode)
  /-- Devices stay open; nothing happens. -/
  | pause
  /-- The client holds no frames of its own; nothing happens. -/
  | flush
  /-- Stop the workers and release every device. -/
  | standby
  deriving DecidableEq, Repr

/-- What a call gives back. -/
inductive Answer where
  | done
  | failed (error : EngineError)
  | misused (misuse : Misuse)
  /-- The buffer after a transfer, the frames moved and the latency in milliseconds. -/
  | moved (buffer : List UInt8) (frames latencyMs : Nat)
  | located (position : Position)
  deriving DecidableEq, Repr

/-- A transfer under way. -/
structure Passage where
  frames : Nat
  /-- The bytes of those frames. -/
  moved : List UInt8
  /-- The bytes of the buffer beyond them. -/
  tail : List UInt8
  /-- The greatest latency met so far. -/
  latencyMs : Nat
  deriving DecidableEq, Repr

/-- What the client thread will do next. -/
inductive ClientState where
  /-- Between calls. -/
  | answered (answer : Answer)
  /-- Start: open the first of `todo`. -/
  | opening (todo : List DeviceProfile) (opened : List (DeviceId × Nat))
  /-- Start: create the thread of lane `i`. -/
  | spawning (i : Nat)
  /-- Start: count the worker of lane `i`. -/
  | enrolling (i : Nat)
  /-- Start: tell the listener of the worker of lane `i`. -/
  | heralding (i : Nat)
  /-- Playback transfer: apply the gain. -/
  | scaling (p : Passage)
  /-- Playback transfer: write to the pipe of lane `i`. -/
  | sending (i : Nat) (p : Passage)
  /-- Playback transfer: count what the pipe of lane `i` did not take. -/
  | countingDrop (i missing : Nat) (p : Passage)
  /-- Playback transfer: tell the listener of it. -/
  | reportingDrop (i missing : Nat) (p : Passage)
  /-- Capture transfer: read from the pipe. -/
  | receiving (p : Passage)
  /-- Capture transfer: count the silence put in. -/
  | countingSilence (missing : Nat) (p : Passage)
  /-- Capture transfer: tell the listener of it. -/
  | reportingSilence (missing : Nat) (p : Passage)
  /-- Transfer: ask the device of lane `i` for its latency. -/
  | askingLatency (i : Nat) (p : Passage)
  /-- Transfer: count it. -/
  | countingTransfer (p : Passage)
  /-- Refinement: set the first device's counter. -/
  | rebasing (p : Position)
  /-- Refinement: ask the first device for its position. -/
  | locating
  | draining (wait : Duration)
  /-- Teardown: clear the running flag. -/
  | halting (answer : Answer)
  /-- Teardown: shut the capture pipe. -/
  | sealing (answer : Answer)
  /-- Teardown: stop the device of lane `i`. -/
  | stopping (i : Nat) (answer : Answer)
  /-- Teardown: wait until the worker of lane `i` has ended. -/
  | joining (i : Nat) (answer : Answer)
  /-- Teardown: let go of every device. -/
  | releasing (answer : Answer)
  deriving DecidableEq, Repr

/-- What moves the client thread. -/
inductive ClientInput where
  /-- It moves by itself, or what it asked for is done. -/
  | tick
  | opened (result : Except DeviceError Nat)
  /-- A thread was created, or refused with the system's own text. -/
  | spawned (result : Except String Unit)
  | latency (ms : Nat)
  | position (result : Except DeviceError Position)

/-- What the client thread asks of its surroundings before it can move. -/
inductive ClientRequest where
  /-- Nothing: it moves by itself. -/
  | move
  | openDevice (profile : DeviceProfile)
  | spawn
  | latency (device : Nat)
  | rebase (device : Nat) (frames : Int)
  | locate (device : Nat)
  | sleep (wait : Duration)
  | stop (device : Nat)
  /-- To be left alone until a worker has ended or a call is made. -/
  | wait
  deriving DecidableEq, Repr

end AudioRelay
