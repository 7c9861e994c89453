import AudioRelay.Device.Scripted
import AudioRelay.Device.Stub
import AudioRelay.Engine.Lane

/-!
# Devices behind an engine

The devices that a session can open, under one set of operations. A transfer attempt
arrives once and then either settles, after a pause, or is held inside the device
until something else changes there.
-/

namespace AudioRelay

/-- An open device. -/
inductive Device where
  | scripted (d : Scripted)
  | stub (d : Stub)

namespace Device

/-- How far a transfer attempt has come. -/
inductive Progress where
  | held
  | settled (outcome : Outcome (List UInt8)) (pause : Duration)

/-- The outcome of a write, which gives no bytes back. -/
def written : Outcome Unit → Outcome (List UInt8)
  | .done _ => .done []
  | .failed fault => .failed fault
  | .crashed misuse => .crashed misuse

/-- A held attempt looks again. -/
def poll (d : Device) (transfer : Transfer) : Device × Progress :=
  match d, transfer with
  | scripted d, .write chunk =>
    if d.holdsWrite then (scripted d, .held)
    else
      let (d, outcome) := d.write chunk
      (scripted d, .settled (written outcome) .zero)
  | scripted d, .read length =>
    match d.finishRead? length with
    | none => (scripted d, .held)
    | some (d, outcome) => (scripted d, .settled outcome .zero)
  | stub d, _ => (stub d, .held)

/-- A transfer attempt arrives. -/
def arrive (d : Device) (transfer : Transfer) (now : Nat) : Device × Progress :=
  match d, transfer with
  | scripted d, .write chunk => (scripted d).poll (.write chunk)
  | scripted d, .read length =>
    match d.beginRead with
    | (d, some outcome) => (scripted d, .settled outcome .zero)
    | (d, none) => (scripted d).poll (.read length)
  | stub d, .write chunk =>
    let (d, outcome, pause) := d.write chunk now
    (stub d, .settled (written outcome) pause)
  | stub d, .read length =>
    let (d, outcome, pause) := d.read length now
    (stub d, .settled outcome pause)

/-- Stops the device for good. -/
def stop : Device → Device
  | scripted d => scripted d.stop
  | stub d => stub d.stop

/-- Sets the counter of transferred frames. -/
def reset (frames : Int) : Device → Device
  | scripted d => scripted (d.reset frames)
  | stub d => stub (d.reset frames)

/-- The latency the device reports. -/
def latencyMs : Device → Nat
  | scripted d => d.mock.latencyMs
  | stub d => d.latencyMs

/-- The position that matters for a direction; the presentation counter is raw. -/
def position (direction : Direction) (now : Nat) : Device → Except DeviceError Position
  | scripted d =>
    match direction with
    | .input => d.capturePosition now
    | .output => d.presentationPosition now
  | stub d =>
    match direction with
    | .input => .ok (d.capturePosition now)
    | .output => .ok (d.presentationPosition now)

end Device

end AudioRelay
