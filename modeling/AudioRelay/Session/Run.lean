import AudioRelay.Session.Basic

/-!
# Running a session

Workers run until all of them are stuck, then the client goes on. When nobody can
move, the clock goes to the earliest end of a sleep; of the sleeps that end together
the workers' end first. A worker that could only be moved by a timeout is stuck.
-/

namespace AudioRelay.Session

/-- The worker of lane `i` takes a step. -/
def moveWorker (s : Session) (i : Nat) (input : WorkerInput) : Option Session :=
  (s.engine.step (.worker i input)).map fun engine => { s with engine }

/-- The worker of lane `i` goes on with `input` after a pause. -/
def pauseWorker (s : Session) (i device : Nat) (d : Device) (pause : Duration)
    (input : WorkerInput) : Option Session :=
  if s.isTimed && pause.nanos != 0 then
    let (clock, wake) := s.clock.fallAsleep (s.engine.workerName i) pause
    some { s.setRig device ⟨d, .asleep wake input⟩ with clock }
  else (s.setRig device ⟨d, .idle⟩).moveWorker i input

/-- A settled attempt is seen by an onlooker, if its device is a scripted one. -/
def witness (s : Session) (i device : Nat) (transfer : Transfer)
    (outcome : Outcome (List UInt8)) : Device → Session
  | .scripted _ => s.observe (.attempted device (s.engine.workerName i) transfer outcome)
  | .stub _ => s

/-- One turn of the worker of lane `i`, if it can move now. -/
def workerTurn (s : Session) (i : Nat) : Option Session :=
  match s.engine.lanes[i]? with
  | none => none
  | some lane =>
    match s.rig? lane.device with
    | none => none
    | some rig =>
      match rig.attempt with
      | .asleep wake input =>
        if wake ≤ s.clock.now then
          (s.setRig lane.device { rig with attempt := .idle }).moveWorker i input
        else none
      | attempt =>
        match s.engine.workerRequest i with
        | .wait => none
        | .move => s.moveWorker i .tick
        | .sleep pause => s.pauseWorker i lane.device rig.device pause .tick
        | .transfer transfer =>
          let (device, progress) := match attempt with
            | .held => rig.device.poll transfer
            | _ => rig.device.arrive transfer s.clock.now
          match progress, attempt with
          | .held, .held => none
          | .held, _ => some (s.setRig lane.device ⟨device, .held⟩)
          | .settled outcome pause, _ =>
            (s.witness i lane.device transfer outcome device).pauseWorker i lane.device device
              pause (.settled outcome)

/-- The worker of lane `i` runs until it is stuck. -/
def runWorker : Nat → Nat → Session → Session
  | 0, _, s => s
  | fuel + 1, i, s =>
    match s.workerTurn i with
    | none => s
    | some s => runWorker fuel i s

/-- More steps than the threads of a session can take before all of them are stuck:
every loop of a worker moves a byte, uses up a script entry or an attempt, or ends. -/
def budget (s : Session) : Nat :=
  let threads := s.engine.lanes.length + s.engine.profiles.length + 2
  let queued := s.rigs.foldl (fun sum rig =>
    match rig with
    | some ⟨.scripted d, _⟩ => sum + d.script.length + d.mock.capture.length
    | _ => sum) 0
  let bytes := queued + (threads + 1) * (s.engine.plan.chunkBytes + 16)
  bytes * threads * (s.engine.config.retryPolicy.spare + 2) * 32

/-- Every worker runs until all of them are stuck. -/
def settle (s : Session) : Session :=
  (List.range s.engine.lanes.length).foldl (fun s i => runWorker s.budget i s) s

/-- The client takes a step. -/
def moveClient (s : Session) (input : ClientInput) : Option Session :=
  (s.engine.step (.client input)).map fun engine => { s with engine }

/-- The client falls asleep, if sleeping takes time. -/
def sleepClient (s : Session) (pause : Duration) : Session :=
  if s.isTimed && pause.nanos != 0 then
    let (clock, wake) := s.clock.fallAsleep Engine.clientName pause
    { s with clock, clientWake := some wake }
  else s

/-- One turn of the client thread, if it can move now. -/
def clientTurn (s : Session) : Option Session :=
  match s.clientWake with
  | some wake => if wake ≤ s.clock.now then some { s with clientWake := none } else none
  | none =>
    match s.engine.clientRequest with
    | .wait => none
    | .move => s.moveClient .tick
    | .openDevice p =>
      let (s, result) := s.openDevice p
      s.moveClient (.opened result)
    | .spawn =>
      let (s, result) := s.spawn
      s.moveClient (.spawned result)
    | .latency device =>
      (s.device? device).bind fun d => s.moveClient (.latency d.latencyMs)
    | .rebase device frames => (s.modifyDevice device (·.reset frames)).moveClient .tick
    | .locate device =>
      (s.device? device).bind fun d =>
        s.moveClient (.position (d.position s.engine.context.direction s.clock.now))
    | .sleep pause => (s.sleepClient pause).moveClient .tick
    | .stop device => ((s.modifyDevice device (·.stop)).observe (.stopped device)).moveClient .tick

/-- The client is awake and has its answer. -/
def isClientFree (s : Session) : Bool := s.clientWake.isNone && s.engine.answer?.isSome

/-- The earliest end of a sleep. -/
def nextWake? (s : Session) : Option Nat :=
  let ends := s.clientWake.toList ++ s.rigs.filterMap fun rig =>
    match rig with
    | some ⟨_, .asleep wake _⟩ => some wake
    | _ => none
  ends.min?

/-- The client runs until it is free again, everyone else as far as they can. -/
def proceed : Nat → Session → Session
  | 0, s => s
  | fuel + 1, s =>
    match s.clientTurn with
    | some s => proceed fuel s
    | none =>
      let s := s.settle
      if s.isClientFree then s
      else
        match s.clientTurn with
        | some s => proceed fuel s
        | none =>
          match s.nextWake? with
          | none => s
          | some wake => proceed fuel { s with clock := s.clock.advance wake }.settle

/-- The client makes a call and waits for its answer. -/
def call (s : Session) (c : Call) : Session :=
  match s.engine.step (.call c) with
  | none => s
  | some engine =>
    let s := { s with engine }
    s.proceed s.budget

/-- The client sleeps between calls. -/
def sleep (s : Session) (pause : Duration) : Session :=
  let s := s.sleepClient pause
  s.proceed s.budget

/-- A gain request through a handle of another thread. -/
def adjust (s : Session) (level : Single) : Session :=
  match s.engine.step (.adjust level) with
  | none => s
  | some engine => { s with engine }

end AudioRelay.Session
