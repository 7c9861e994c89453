import AudioRelay.Engine.Call
import AudioRelay.Engine.Config
import AudioRelay.Engine.Lane
import AudioRelay.Gain.Control
import AudioRelay.Gain.Scale

/-!
# The stream engine

An engine is one stream with the devices it is bound to. All its threads share the
running flag, the counters, the gain level and the listener; each lane is shared by
the client and one worker. `Engine.step` is the whole behaviour: any thread may take
the next atomic action, and what devices and the system answer is free.
-/

namespace AudioRelay

/-- An engine with all its threads, seen between two atomic actions. -/
structure Engine where
  context : StreamContext
  pcm : PcmConfig
  profiles : List DeviceProfile
  config : EngineConfig
  /-- Whether anyone listens to events. -/
  isListening : Bool
  /-- The gain that the next transfer applies. -/
  level : Single
  /-- Workers loop while this is set. -/
  isRunning : Bool
  counters : Counters
  /-- The bound devices in order of binding. -/
  lanes : List Lane
  client : ClientState
  /-- What the listener was told and by which thread, latest first. -/
  journal : List (String × Event)
  deriving DecidableEq, Repr

/-- What an engine is built from. -/
structure Blueprint where
  context : StreamContext
  profiles : List DeviceProfile
  config : EngineConfig
  gain : Single
  isListening : Bool

namespace Engine

/-- Why a context without a rate, a channel or a buffer cannot be used. -/
def unusable (c : StreamContext) : EngineError :=
  .notInitialized s!"unusable stream config: {c.rate} Hz, {c.channels} ch, {c.frames} frames"

/-- An idle engine; a gain that is not accepted leaves unity. -/
def build (b : Blueprint) : Except EngineError Engine :=
  match PcmConfig.ofContext? b.context with
  | none => .error (unusable b.context)
  | some pcm => .ok {
      context := b.context
      pcm
      profiles := b.profiles
      config := b.config
      isListening := b.isListening
      level := Gain.adjust Single.one b.gain
      isRunning := false
      counters := Counters.zero
      lanes := []
      client := .answered .done
      journal := [] }

/-- No device is bound. -/
def isIdle (e : Engine) : Bool := e.lanes.isEmpty

/-- What the workers of this stream know. -/
def plan (e : Engine) : StreamPlan :=
  ⟨e.context.direction, e.pcm.frames, e.pcm.frameSize, e.config.retryPolicy⟩

/-- The profiles that serve the stream: capture binds the first one only. -/
def candidates (e : Engine) : List DeviceProfile :=
  let matching := e.profiles.filter (·.direction = e.context.direction)
  match e.context.direction with
  | .input => matching.take 1
  | .output => matching

/-- The thread name of the worker of lane `i`. -/
def workerName (e : Engine) (i : Nat) : String :=
  let side := match e.context.direction with
    | .input => "in"
    | .output => "out"
  s!"{e.config.workerName}-{side}-{i}"

/-- The name that the client's events are recorded under. -/
def clientName : String := "client"

/-- Tells the listener, if there is one. -/
def tell (e : Engine) (thread : String) (event : Event) : Engine :=
  if e.isListening then { e with journal := (thread, event) :: e.journal } else e

/-- Ends the call under way. -/
def answer (e : Engine) (a : Answer) : Engine := { e with client := .answered a }

/-- The answer to the last call, once it is there. -/
def answer? (e : Engine) : Option Answer :=
  match e.client with
  | .answered a => some a
  | _ => none

end Engine

end AudioRelay
