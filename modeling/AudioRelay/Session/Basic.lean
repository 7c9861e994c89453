import AudioRelay.Engine.Step
import AudioRelay.Session.Clock
import AudioRelay.Session.Device

/-!
# Sessions

A session is an engine with the devices it opens, the system that creates its threads
and the clock they sleep by. It answers what the engine's threads ask for; what each
thread does with the answer is `Engine.step`.
-/

namespace AudioRelay

/-- What becomes of one call of the opener. -/
inductive OpenPlan where
  | refuse (fault : DeviceError)
  | supply (setup : DeviceSetup)

/-- How devices are opened. -/
inductive Opener where
  /-- Every profile gets a null device. -/
  | stubs
  /-- The n-th call follows the n-th plan; beyond them a plain recording device is made. -/
  | scripted (plans : List OpenPlan)

/-- A transfer attempt inside a device. -/
inductive Attempt where
  | idle
  /-- Held by the device. -/
  | held
  /-- Its thread sleeps until `wake` and then goes on with `input`. -/
  | asleep (wake : Nat) (input : WorkerInput)

/-- A device and the attempt inside it. -/
structure Rig where
  device : Device
  attempt : Attempt

/-- Something an onlooker sees of the devices. -/
inductive Observation where
  | opened (profile : DeviceProfile) (mode : OpenMode) (pcm : PcmConfig)
  | attempted (device : Nat) (thread : String) (transfer : Transfer)
      (outcome : Outcome (List UInt8))
  | stopped (device : Nat)

/-- An engine among its devices. -/
structure Session where
  engine : Engine
  opener : Opener
  /-- Numbers of the threads that the system refuses to create. -/
  refusals : List Nat
  /-- How many threads the engine asked for. -/
  spawns : Nat
  /-- What every call of the opener made. -/
  rigs : List (Option Rig)
  clock : Clock
  /-- Whether sleeping takes time. -/
  isTimed : Bool
  /-- When the client wakes, while it sleeps. -/
  clientWake : Option Nat
  /-- What was seen of the devices, latest first. -/
  observed : List Observation

namespace Session

/-- A session outside time, with scripted or null devices. -/
def untimed (engine : Engine) (opener : Opener) (refusals : List Nat) : Session :=
  ⟨engine, opener, refusals, 0, [], Clock.start [], false, none, []⟩

/-- A session in time, with null devices. -/
def timed (engine : Engine) (late : List Lateness) : Session :=
  ⟨engine, .stubs, [], 0, [], Clock.start late, true, none, []⟩

/-- What the system says when it refuses a thread. -/
def refusalText : String := "Resource temporarily unavailable (os error 11)"

/-- What a call of the opener made, if it made anything. -/
def rig? (s : Session) (device : Nat) : Option Rig := (s.rigs[device]?).join

/-- The device that a call of the opener made. -/
def device? (s : Session) (device : Nat) : Option Device := (s.rig? device).map (·.device)

/-- Replaces a device and the attempt inside it. -/
def setRig (s : Session) (device : Nat) (rig : Rig) : Session :=
  { s with rigs := s.rigs.set device (some rig) }

/-- Changes a device from outside. -/
def modifyDevice (s : Session) (device : Nat) (change : Device → Device) : Session :=
  match s.rig? device with
  | none => s
  | some rig => s.setRig device { rig with device := change rig.device }

/-- An onlooker sees something. -/
def observe (s : Session) (o : Observation) : Session := { s with observed := o :: s.observed }

/-- Changes a scripted device between calls. -/
def setUp (s : Session) (device : Nat) (setup : DeviceSetup) : Session :=
  s.modifyDevice device fun
    | .scripted d => .scripted (setup.apply d)
    | .stub d => .stub d

/-- Whether neither the engine nor a worker holds a device any more. -/
def isReleased (s : Session) (device : Nat) : Bool :=
  s.engine.lanes.all fun lane => lane.device != device

/-- One call of the opener. -/
def openDevice (s : Session) (p : DeviceProfile) : Session × Except DeviceError Nat :=
  let pcm := s.engine.pcm
  let s := s.observe (.opened p (p.openMode pcm) pcm)
  let device := s.rigs.length
  let made : Except DeviceError Device :=
    match s.opener with
    | .stubs => .ok (.stub (Stub.create p.id pcm s.clock.now))
    | .scripted plans =>
      match plans[device]?.getD (.supply .unchanged) with
      | .refuse fault => .error fault
      | .supply setup =>
        .ok (.scripted
          (setup.apply (Scripted.ofMock (Mock.create p.id pcm.frameSize s.clock.now))))
  match made with
  | .error fault => ({ s with rigs := s.rigs ++ [none] }, .error fault)
  | .ok d => ({ s with rigs := s.rigs ++ [some ⟨d, .idle⟩] }, .ok device)

/-- One thread asked of the system. -/
def spawn (s : Session) : Session × Except String Unit :=
  ({ s with spawns := s.spawns + 1 },
    if s.refusals.contains s.spawns then .error refusalText else .ok ())

end Session

end AudioRelay
