import AudioRelay.Device.Position
import AudioRelay.Retry

/-!
# The recording device

A device in memory: it keeps everything that is written and replays captured bytes
that were queued before. Transfers and position queries can be made to fail. A read
takes all its bytes at once or none: it waits until enough are queued, and a stop ends
the wait.
-/

namespace AudioRelay

/-- A device that records playback and replays queued capture data. -/
structure Mock where
  name : String
  /-- Bytes a frame, at least one. -/
  frameSize : Nat
  /-- When it was opened, in nanoseconds. -/
  openedAt : Nat
  /-- Every byte written so far. -/
  written : List UInt8
  /-- Captured bytes that no read has taken yet. -/
  capture : List UInt8
  isStopped : Bool
  stopCalls : Nat
  failReads : Bool
  failWrites : Bool
  failPositions : Bool
  /-- Reads attempted. -/
  reads : Nat
  /-- Writes attempted. -/
  writes : Nat
  latencyMs : Nat
  transferred : Int
  /-- Presentation counter to report in place of the frames transferred. -/
  presentation : Option Nat
  /-- Counter settings, oldest first. -/
  resets : List Int
  deriving DecidableEq, Repr

namespace Mock

/-- A fresh device; a frame has at least one byte. -/
def create (name : String) (frameSize openedAt : Nat) : Mock where
  name
  frameSize := max frameSize 1
  openedAt
  written := []
  capture := []
  isStopped := false
  stopCalls := 0
  failReads := false
  failWrites := false
  failPositions := false
  reads := 0
  writes := 0
  latencyMs := 0
  transferred := 0
  presentation := none
  resets := []

/-- Whole frames written so far. -/
def writtenFrames (m : Mock) : Nat := m.written.length / m.frameSize

/-- Queues captured bytes. -/
def push (m : Mock) (bytes : List UInt8) : Mock := { m with capture := m.capture ++ bytes }

/-- A read arrives: it counts, and fails at once where reads are made to fail. -/
def beginRead (m : Mock) : Mock × Option DeviceError :=
  ({ m with reads := m.reads + 1 },
    if m.failReads then some (.transient "mock read failure") else none)

/-- Whether a read of `length` bytes that has arrived still waits. -/
def isWaiting (m : Mock) (length : Nat) : Bool :=
  !m.isStopped && decide (m.capture.length < length)

/-- A read that has arrived and need not wait: a stop fails it and takes nothing. -/
def finishRead (m : Mock) (length : Nat) : Mock × Outcome (List UInt8) :=
  if m.isStopped then (m, .failed .stopped)
  else
    ({ m with
        capture := m.capture.drop length
        transferred := Position.advance m.transferred (length / m.frameSize) },
      .done (m.capture.take length))

/-- A write counts, and is refused by a stopped device before anything else. -/
def write (m : Mock) (data : List UInt8) : Mock × Outcome Unit :=
  let m := { m with writes := m.writes + 1 }
  if m.isStopped then (m, .failed .stopped)
  else if m.failWrites then (m, .failed (.transient "mock write failure"))
  else
    ({ m with
        written := m.written ++ data
        transferred := Position.advance m.transferred (data.length / m.frameSize) },
      .done ())

/-- Stops the device for good. -/
def stop (m : Mock) : Mock := { m with isStopped := true, stopCalls := m.stopCalls + 1 }

/-- What another thread does while a read waits. -/
inductive Interruption where
  | push (bytes : List UInt8)
  | stop
  deriving DecidableEq, Repr

/-- The device after another thread acted. -/
def interrupt (m : Mock) : Interruption → Mock
  | .push bytes => m.push bytes
  | .stop => m.stop

/-- A read that has arrived, while another thread acts; it ends as soon as it can. Nothing comes of
one that still waits when nobody is left to act: it waits for ever. -/
def finishDuring (length : Nat) :
    List Interruption → Mock → Mock × Option (Outcome (List UInt8))
  | [], m =>
    if m.isWaiting length then (m, none)
    else
      let (m, outcome) := m.finishRead length
      (m, some outcome)
  | i :: others, m =>
    if m.isWaiting length then finishDuring length others (m.interrupt i)
    else
      let (m, outcome) := m.finishRead length
      ((i :: others).foldl interrupt m, some outcome)

/-- A read from its arrival on, while another thread acts; nothing comes of one that waits for
ever. -/
def readDuring (m : Mock) (length : Nat) (others : List Interruption) :
    Mock × Option (Outcome (List UInt8)) :=
  match m.beginRead with
  | (m, some fault) => (others.foldl interrupt m, some (.failed fault))
  | (m, none) => finishDuring length others m

/-- A read with nobody else around: short of data it waits for ever. -/
def read (m : Mock) (length : Nat) : Mock × Option (Outcome (List UInt8)) := m.readDuring length []

/-- Sets the counter of transferred frames. -/
def reset (m : Mock) (frames : Int) : Mock :=
  { m with transferred := frames, resets := m.resets ++ [frames] }

/-- A position query: it fails where queries are made to. -/
def position (m : Mock) (frames : Int) (now : Nat) : Except DeviceError Position :=
  if m.failPositions then .error (.positionUnavailable "mock position failure")
  else .ok ⟨frames, Position.clock (now - m.openedAt)⟩

/-- The frames transferred. -/
def capturePosition (m : Mock) (now : Nat) : Except DeviceError Position :=
  m.position m.transferred now

/-- The presentation counter, in raw unsigned units. -/
def presentationPosition (m : Mock) (now : Nat) : Except DeviceError Position :=
  m.position ((m.presentation.map Int.ofNat).getD (max m.transferred 0)) now

end Mock

end AudioRelay
