import AudioRelay.Device.Profile
import AudioRelay.Engine.Event
import AudioRelay.Pipe.Blocking
import AudioRelay.Retry

/-!
# Lanes and their workers

A lane is one bound device with a pipe and a worker thread of its own. A playback
worker takes chunks out of the pipe and hands each to the device; a capture worker
fills a chunk from the device and offers it to the pipe until all of it is taken. A
worker advances by one atomic action at a time: one look at the running flag, one pipe
operation, one device attempt, one counter update or one event. Its next state depends
on its own lane and the running flag alone.
-/

namespace AudioRelay

/-- A transfer of whole chunks between a worker and its device. -/
inductive Transfer where
  | write (chunk : List UInt8)
  | read (length : Nat)
  deriving DecidableEq, Repr

/-- What a worker will do next. -/
inductive WorkerState where
  /-- At the head of its loop: look whether the stream still runs. -/
  | looping
  /-- Playback: take a chunk out of the pipe. -/
  | taking
  /-- Playback: the pipe was empty; wait for a frame, a shutdown or a timeout. -/
  | idling
  /-- Attempt a transfer that may be attempted `left` times more. -/
  | transferring (transfer : Transfer) (left : Nat)
  /-- Pause before the next attempt. -/
  | pausing (transfer : Transfer) (left : Nat)
  /-- A transfer failed for good: look whether the stream still runs. -/
  | failing (fault : DeviceError)
  /-- Count the failure. -/
  | counting (fault : DeviceError)
  /-- Tell the listener of the failure. -/
  | reporting (fault : DeviceError)
  /-- Capture: `rest` of a chunk is not yet in the pipe; look whether the stream still runs. -/
  | pumping (rest : List UInt8)
  /-- Capture: offer `rest` to the pipe. -/
  | offering (rest : List UInt8) (offer : Offer)
  /-- Out of its loop: tell the listener. -/
  | leaving
  /-- The thread has ended. -/
  | gone
  /-- The thread died in its device. -/
  | crashed
  deriving DecidableEq, Repr

/-- What moves a worker. -/
inductive WorkerInput where
  /-- It moves by itself; a wait may end this way at any time. -/
  | tick
  /-- The device settled the transfer attempt; a write gives no bytes back. -/
  | settled (outcome : Outcome (List UInt8))
  deriving Repr

/-- What a worker's move leaves behind outside its lane. -/
inductive Note where
  | deviceErrorCounted
  | told (event : Event)
  deriving DecidableEq, Repr

/-- What every worker of a stream knows. -/
structure StreamPlan where
  direction : Direction
  /-- Frames of a full chunk. -/
  frames : Nat
  /-- Bytes a frame. -/
  frameSize : Nat
  retry : RetryPolicy
  deriving DecidableEq, Repr

namespace StreamPlan

/-- Bytes of a full chunk. -/
def chunkBytes (p : StreamPlan) : Nat := p.frames * p.frameSize

/-- The first thing a running worker does in its loop. -/
def firstMove (p : StreamPlan) : WorkerState :=
  match p.direction with
  | .output => .taking
  | .input => .transferring (.read p.chunkBytes) p.retry.spare

end StreamPlan

/-- One bound device with its pipe and, once its thread exists, its worker. -/
structure Lane where
  id : DeviceId
  /-- The opened device. -/
  device : Nat
  pipe : Pipe
  worker : Option WorkerState
  deriving DecidableEq, Repr

namespace WorkerState

/-- Whether the thread is no more. -/
def isOver : WorkerState → Bool
  | gone => true
  | crashed => true
  | _ => false

/-- Whether a transfer accepts the bytes that came back: a read fills its whole chunk. -/
def accepts : Transfer → List UInt8 → Bool
  | .write _, _ => true
  | .read length, bytes => bytes.length == length

/-- Where a worker goes once its transfer succeeded. -/
def afterSuccess : Transfer → List UInt8 → WorkerState
  | .write _, _ => looping
  | .read _, bytes => pumping bytes

/-- Where a worker goes once an attempt failed. -/
def afterFault (transfer : Transfer) (left : Nat) (fault : DeviceError) : WorkerState :=
  match Retry.again? fault left with
  | some left => pausing transfer left
  | none => failing fault

/-- Where a capture worker goes with what the pipe did not take. -/
def afterOffer (rest : List UInt8) : WorkerState :=
  if rest.isEmpty then looping else pumping rest

/-- One move of the worker of device `id`: its next state, the pipe after the move and
what it leaves behind. -/
def next (plan : StreamPlan) (running : Bool) (id : DeviceId) (pipe : Pipe) :
    WorkerState → WorkerInput → Option (WorkerState × Pipe × Option Note)
  | looping, .tick => some (if running then plan.firstMove else leaving, pipe, none)
  | taking, .tick =>
    match pipe.read plan.chunkBytes with
    | ([], pipe) => some (idling, pipe, none)
    | (chunk, pipe) => some (transferring (.write chunk) plan.retry.spare, pipe, none)
  | idling, .tick => some (looping, pipe, none)
  | transferring transfer left, .settled outcome =>
    match outcome with
    | .done bytes =>
      if accepts transfer bytes then some (afterSuccess transfer bytes, pipe, none) else none
    | .failed fault => some (afterFault transfer left fault, pipe, none)
    | .crashed _ => some (crashed, pipe, none)
  | pausing transfer left, .tick => some (transferring transfer left, pipe, none)
  | failing fault, .tick => some (if running then counting fault else looping, pipe, none)
  | counting fault, .tick => some (reporting fault, pipe, some .deviceErrorCounted)
  | reporting fault, .tick => some (looping, pipe, some (.told (.deviceFailed id fault.message)))
  | pumping rest, .tick =>
    some (if running then offering rest .entering else leaving, pipe, none)
  | offering rest offer, .tick =>
    match offer.step pipe rest with
    | (.going offer, pipe) => some (offering rest offer, pipe, none)
    | (.accepted frames, pipe) =>
      some (afterOffer (rest.drop (frames * pipe.frameSize)), pipe, none)
    | (.refused _, pipe) => some (leaving, pipe, none)
  | leaving, .tick => some (gone, pipe, some (.told (.workerStopped id)))
  | _, _ => none

end WorkerState

namespace Lane

/-- A lane whose thread does not exist yet, around an empty pipe. -/
def fresh (plan : StreamPlan) (id : DeviceId) (device : Nat) : Lane :=
  ⟨id, device, Pipe.empty plan.frames plan.frameSize, none⟩

/-- One move of the lane's worker. -/
def step (plan : StreamPlan) (running : Bool) (lane : Lane) (input : WorkerInput) :
    Option (Lane × Option Note) :=
  match lane.worker with
  | none => none
  | some worker =>
    (worker.next plan running lane.id lane.pipe input).map fun (worker, pipe, note) =>
      ({ lane with pipe, worker := some worker }, note)

/-- Whether no thread works on the lane. -/
def isQuiet (lane : Lane) : Bool :=
  match lane.worker with
  | none => true
  | some worker => worker.isOver

/-- What a worker asks of its surroundings before it can move. -/
inductive Request where
  /-- Nothing: it moves by itself. -/
  | move
  | transfer (transfer : Transfer)
  | sleep (pause : Duration)
  /-- To be left alone until another thread touches the lane. -/
  | wait
  deriving DecidableEq, Repr

/-- What the lane's worker asks for. A wait that nothing but a timeout would end is
not worth ending. -/
def request (plan : StreamPlan) (running : Bool) (lane : Lane) : Request :=
  match lane.worker with
  | none => .wait
  | some (.transferring transfer _) => .transfer transfer
  | some (.pausing _ _) => .sleep plan.retry.delay
  | some .idling => if running && lane.pipe.mustWait then .wait else .move
  | some (.offering _ offer) => if offer.isStuck lane.pipe then .wait else .move
  | some .gone => .wait
  | some .crashed => .wait
  | some _ => .move

end Lane

end AudioRelay
