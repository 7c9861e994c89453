import AudioRelay.Engine.Basic

/-!
# Steps of an engine

A step is the beginning of a call, one action of the client thread, one action of a
worker, or a gain request through a handle elsewhere. A step that its thread cannot
take in this state is none.
-/

namespace AudioRelay

/-- One atomic action of one thread. -/
inductive Action where
  | call (call : Call)
  | client (input : ClientInput)
  | worker (i : Nat) (input : WorkerInput)
  /-- A gain request through a handle, by any thread at any time. -/
  | adjust (level : Single)

namespace Engine

/-- Leaves a note of a worker behind. -/
def leave (e : Engine) (thread : String) : Option Note → Engine
  | none => e
  | some .deviceErrorCounted =>
    { e with counters := { e.counters with deviceErrors := e.counters.deviceErrors + 1 } }
  | some (.told event) => e.tell thread event

/-- One action of the worker of lane `i`. -/
def stepWorker (e : Engine) (i : Nat) (input : WorkerInput) : Option Engine :=
  match e.lanes[i]? with
  | none => none
  | some lane =>
    (lane.step e.plan e.isRunning input).map fun (lane, note) =>
      { e with lanes := e.lanes.set i lane }.leave (e.workerName i) note

/-- The end of a call that has to tear down first. -/
def tearDown (e : Engine) (a : Answer) : Engine := { e with client := .halting a }

/-- A transfer begins: too short a buffer is noticed before missing devices. -/
def beginTransfer (e : Engine) (buffer : List UInt8) (frames : Nat) : Engine :=
  let bytes := frames * e.context.frameSize
  if buffer.length < bytes then
    e.answer (.misused (.shortBuffer buffer.length frames e.context.frameSize))
  else if e.isIdle then e.answer (.misused .noDevices)
  else
    let passage : Passage := ⟨frames, buffer.take bytes, buffer.drop bytes, 0⟩
    match e.context.direction with
    | .input => { e with client := .receiving passage }
    | .output => { e with client := .scaling passage }

/-- A call begins. -/
def begin (e : Engine) : Call → Engine
  | .negotiate =>
    match PcmConfig.ofContext? e.context with
    | none => e.answer (.failed (unusable e.context))
    | some pcm => { e with pcm }.answer .done
  | .start => if e.isIdle then { e with client := .opening e.candidates [] } else e.answer .done
  | .transfer buffer frames => e.beginTransfer buffer frames
  | .setGain level => { e with level := Gain.adjust e.level level }.answer .done
  | .refine p =>
    if e.isIdle then e.answer (.failed (.notInitialized "no open devices"))
    else { e with client := .rebasing p }
  | .drain _ =>
    match e.context.drainWait with
    | none => e.answer .done
    | some wait => { e with client := .draining wait }
  | .pause => e.answer .done
  | .flush => e.answer .done
  | .standby => if e.isIdle then e.answer .done else e.tearDown .done

/-- A device was opened for the first of the profiles, or was not: then start fails
and lets go of the devices opened before. -/
def stepOpened (e : Engine) (todo : List DeviceProfile) (opened : List (DeviceId × Nat))
    (result : Except DeviceError Nat) : Option Engine :=
  match todo, result with
  | [], _ => none
  | p :: rest, .ok device => some { e with client := .opening rest (opened ++ [(p.id, device)]) }
  | p :: _, .error fault =>
    some (e.answer (.failed (.notInitialized s!"device '{p.id}': {fault.message}")))

/-- Every profile is open: bind the devices and set the running flag. -/
def bindLanes (e : Engine) (opened : List (DeviceId × Nat)) : Engine :=
  if opened.isEmpty then
    e.answer (.failed (.notInitialized s!"no {e.context.direction.label} device available"))
  else
    { e with
      lanes := opened.map fun (id, device) => Lane.fresh e.plan id device
      isRunning := true
      client := .spawning 0 }

/-- The thread of lane `i` was created, or was not: then start tears down. -/
def stepSpawned (e : Engine) (i : Nat) (result : Except String Unit) : Option Engine :=
  match e.lanes[i]?, result with
  | none, _ => none
  | some lane, .ok _ =>
    some { e with
      lanes := e.lanes.set i { lane with worker := some .looping }
      client := .enrolling i }
  | some lane, .error text => some (e.tearDown (.failed (.workerSpawn lane.id text)))

/-- Writes to the pipe of lane `i`; after the last lane the transfer is counted. -/
def send (e : Engine) (i : Nat) (p : Passage) : Engine :=
  match e.lanes[i]? with
  | none => { e with client := .countingTransfer p }
  | some lane =>
    let (frames, pipe) := lane.pipe.write p.moved
    { e with
      lanes := e.lanes.set i { lane with pipe }
      client :=
        if frames < p.frames then .countingDrop i (p.frames - frames) p else .askingLatency i p }

/-- Reads from the capture pipe and fills up with silence. -/
def receive (e : Engine) (p : Passage) : Option Engine :=
  match e.lanes with
  | [] => none
  | lane :: rest =>
    let (bytes, pipe) := lane.pipe.read p.moved.length
    let frames := bytes.length / e.context.frameSize
    let p := { p with moved := bytes ++ List.replicate (p.moved.length - bytes.length) 0 }
    some { e with
      lanes := { lane with pipe } :: rest
      client :=
        if frames < p.frames then .countingSilence (p.frames - frames) p else .askingLatency 0 p }

/-- What follows the latency of lane `i`. -/
def afterLatency (e : Engine) (i : Nat) (p : Passage) : ClientState :=
  match e.context.direction with
  | .output => .sending (i + 1) p
  | .input => .countingTransfer p

/-- The first device reported its position, or could not. -/
def locate (e : Engine) (result : Except DeviceError Position) : Engine :=
  match e.context.direction, result with
  | .input, .ok p => e.answer (.located p)
  | .input, .error fault =>
    e.answer (.failed (.invalidOperation s!"capture position: {fault.message}"))
  | .output, .ok p => e.answer (.located ⟨Position.fold p.frames.toNat, p.time⟩)
  | .output, .error fault =>
    e.answer (.failed (.invalidOperation s!"presentation position: {fault.message}"))

/-- Shuts the pipe of a capture stream so that its worker stops waiting for room. -/
def shutCapture (e : Engine) : Engine :=
  match e.context.direction with
  | .output => e
  | .input =>
    { e with lanes := e.lanes.map fun lane => { lane with pipe := lane.pipe.shutdown true } }

/-- The greatest latency a client is told, in milliseconds. -/
def maxLatency : Nat := 0x7fffffff

/-- One action of the client thread. -/
def stepClient (e : Engine) (input : ClientInput) : Option Engine :=
  match e.client, input with
  | .opening todo opened, .opened result => e.stepOpened todo opened result
  | .opening [] opened, .tick => some (e.bindLanes opened)
  | .spawning i, .spawned result => e.stepSpawned i result
  | .spawning i, .tick => if i < e.lanes.length then none else some (e.answer .done)
  | .enrolling i, .tick =>
    some { e with
      counters := { e.counters with workersStarted := e.counters.workersStarted + 1 }
      client := .heralding i }
  | .heralding i, .tick =>
    e.lanes[i]?.map fun lane =>
      { e with client := .spawning (i + 1) }.tell clientName (.workerStarted lane.id)
  | .scaling p, .tick =>
    some { e with
      client := .sending 0
        { p with moved := Gain.apply e.context.format e.context.channels e.level p.moved } }
  | .sending i p, .tick => some (e.send i p)
  | .countingDrop i missing p, .tick =>
    some { e with
      counters := { e.counters with dropped := e.counters.dropped + missing.toUInt64 }
      client := .reportingDrop i missing p }
  | .reportingDrop i missing p, .tick =>
    e.lanes[i]?.map fun lane =>
      { e with client := .askingLatency i p }.tell clientName (.framesDropped lane.id missing)
  | .receiving p, .tick => e.receive p
  | .countingSilence missing p, .tick =>
    some { e with
      counters := { e.counters with silence := e.counters.silence + missing.toUInt64 }
      client := .reportingSilence missing p }
  | .reportingSilence missing p, .tick =>
    some ({ e with client := .askingLatency 0 p }.tell clientName (.silenceInserted missing))
  | .askingLatency i p, .latency ms =>
    some { e with client := e.afterLatency i { p with latencyMs := max p.latencyMs ms } }
  | .countingTransfer p, .tick =>
    some ({ e with
      counters := { e.counters with transfers := e.counters.transfers + 1 } }.answer
        (.moved (p.moved ++ p.tail) p.frames (min p.latencyMs maxLatency)))
  | .rebasing _, .tick => some { e with client := .locating }
  | .locating, .position result => some (e.locate result)
  | .draining _, .tick => some (e.answer .done)
  | .halting a, .tick => some { e with isRunning := false, client := .sealing a }
  | .sealing a, .tick => some { e.shutCapture with client := .stopping 0 a }
  | .stopping i a, .tick =>
    some { e with client := if i < e.lanes.length then .stopping (i + 1) a else .joining 0 a }
  | .joining i a, .tick =>
    match e.lanes[i]? with
    | none => some { e with client := .releasing a }
    | some lane => if lane.isQuiet then some { e with client := .joining (i + 1) a } else none
  | .releasing a, .tick => some ({ e with lanes := [] }.answer a)
  | _, _ => none

/-- One atomic action. -/
def step (e : Engine) : Action → Option Engine
  | .call call => if e.answer?.isSome then some (e.begin call) else none
  | .client input => e.stepClient input
  | .worker i input => e.stepWorker i input
  | .adjust level => some { e with level := Gain.adjust e.level level }

/-- What the client thread asks for. -/
def clientRequest (e : Engine) : ClientRequest :=
  match e.client with
  | .answered _ => .wait
  | .opening (p :: _) _ => .openDevice p
  | .spawning i => if i < e.lanes.length then .spawn else .move
  | .askingLatency i _ => (e.lanes[i]?.map fun lane => .latency lane.device).getD .wait
  | .rebasing p => (e.lanes.head?.map fun lane => .rebase lane.device p.frames).getD .wait
  | .locating => (e.lanes.head?.map fun lane => .locate lane.device).getD .wait
  | .draining wait => .sleep wait
  | .stopping i _ => (e.lanes[i]?.map fun lane => .stop lane.device).getD .move
  | .joining i _ =>
    match e.lanes[i]? with
    | none => .move
    | some lane => if lane.isQuiet then .move else .wait
  | _ => .move

/-- What the worker of lane `i` asks for. -/
def workerRequest (e : Engine) (i : Nat) : Lane.Request :=
  (e.lanes[i]?.map (·.request e.plan e.isRunning)).getD .wait

end Engine

end AudioRelay
