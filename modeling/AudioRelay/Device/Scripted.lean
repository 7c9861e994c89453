import AudioRelay.Device.Mock

/-!
# Scripted devices

A recording device whose transfer attempts follow a script: each attempt takes the
next entry, and an attempt beyond the script reaches the recording device itself.
Writes can be stalled, and position queries answered in the device's place. A stopped
device leaves its script alone.
-/

namespace AudioRelay

/-- What a script holds for one transfer attempt. -/
inductive ScriptEntry where
  /-- The attempt reaches the recording device. -/
  | pass
  /-- The attempt fails before it reaches the device. -/
  | fault (error : DeviceError)
  /-- The device takes the calling thread with it. -/
  | crash
  deriving DecidableEq, Repr

/-- A recording device under a script. -/
structure Scripted where
  mock : Mock
  script : List ScriptEntry
  /-- Whether writes wait until released or stopped. -/
  isStalled : Bool
  /-- Answer to capture position queries in place of the recording device's. -/
  captureAnswer : Option (Except DeviceError Position)
  /-- Answer to presentation position queries in place of the recording device's. -/
  presentationAnswer : Option (Except DeviceError Position)

namespace Scripted

/-- A device without a script. -/
def ofMock (mock : Mock) : Scripted := ⟨mock, [], false, none, none⟩

/-- The entry for the next attempt, taken from the script unless the device is stopped. -/
def nextEntry (d : Scripted) : Scripted × ScriptEntry :=
  if d.mock.isStopped then (d, .pass)
  else
    match d.script with
    | [] => (d, .pass)
    | entry :: rest => ({ d with script := rest }, entry)

/-- Whether a write waits at the gate. -/
def holdsWrite (d : Scripted) : Bool := d.isStalled && !d.mock.isStopped

/-- A write attempt past the gate. -/
def write (d : Scripted) (data : List UInt8) : Scripted × Outcome Unit :=
  match d.nextEntry with
  | (d, .fault error) => (d, .failed error)
  | (d, .crash) => (d, .crashed .deviceCrash)
  | (d, .pass) =>
    let (mock, outcome) := d.mock.write data
    ({ d with mock }, outcome)

/-- A read attempt arrives; it settles at once unless it reaches the recording device
and waits there. -/
def beginRead (d : Scripted) : Scripted × Option (Outcome (List UInt8)) :=
  match d.nextEntry with
  | (d, .fault error) => (d, some (.failed error))
  | (d, .crash) => (d, some (.crashed .deviceCrash))
  | (d, .pass) =>
    let (mock, fault) := d.mock.beginRead
    ({ d with mock }, fault.map .failed)

/-- A read that waits in the recording device, once it need not wait any more. -/
def finishRead? (d : Scripted) (length : Nat) : Option (Scripted × Outcome (List UInt8)) :=
  if d.mock.isWaiting length then none
  else
    let (mock, outcome) := d.mock.finishRead length
    some ({ d with mock }, outcome)

/-- A read attempt with nobody else around; nothing comes of one that is short of data and waits
for ever. -/
def read (d : Scripted) (length : Nat) : Scripted × Option (Outcome (List UInt8)) :=
  match d.beginRead with
  | (d, some outcome) => (d, some outcome)
  | (d, none) =>
    match d.finishRead? length with
    | some (d, outcome) => (d, some outcome)
    | none => (d, none)

/-- Stops the recording device. -/
def stop (d : Scripted) : Scripted := { d with mock := d.mock.stop }

/-- Always reaches the recording device. -/
def reset (d : Scripted) (frames : Int) : Scripted := { d with mock := d.mock.reset frames }

/-- The capture position, or the answer in its place. -/
def capturePosition (d : Scripted) (now : Nat) : Except DeviceError Position :=
  d.captureAnswer.getD (d.mock.capturePosition now)

/-- The presentation position, or the answer in its place. -/
def presentationPosition (d : Scripted) (now : Nat) : Except DeviceError Position :=
  d.presentationAnswer.getD (d.mock.presentationPosition now)

end Scripted

/-- Changes to a scripted device: script entries and captured bytes are added, all else
is replaced where it is given. -/
structure DeviceSetup where
  script : List ScriptEntry
  capture : List UInt8
  isStalled : Option Bool
  latencyMs : Option Nat
  presentation : Option Nat
  failPositions : Option Bool
  failWrites : Option Bool
  captureAnswer : Option (Except DeviceError Position)
  presentationAnswer : Option (Except DeviceError Position)

namespace DeviceSetup

/-- No change at all. -/
def unchanged : DeviceSetup := ⟨[], [], none, none, none, none, none, none, none⟩

/-- The device after the changes. -/
def apply (c : DeviceSetup) (d : Scripted) : Scripted where
  mock := { d.mock.push c.capture with
    latencyMs := c.latencyMs.getD d.mock.latencyMs
    presentation := c.presentation.or d.mock.presentation
    failPositions := c.failPositions.getD d.mock.failPositions
    failWrites := c.failWrites.getD d.mock.failWrites }
  script := d.script ++ c.script
  isStalled := c.isStalled.getD d.isStalled
  captureAnswer := c.captureAnswer.or d.captureAnswer
  presentationAnswer := c.presentationAnswer.or d.presentationAnswer

end DeviceSetup

end AudioRelay
