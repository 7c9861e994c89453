import AudioRelay.Device.Position
import AudioRelay.Retry
import AudioRelay.Stream.Context

/-!
# The null device

Playback is thrown away, capture is a fixed stream of noise, and both keep the pace
of the stream: after every transfer the caller sleeps until the stream's clock, which
starts at the first transfer, has caught up with the frames transferred. One sleep is
never longer than one buffer.
-/

namespace AudioRelay

/-- The noise generator: a linear congruence of 32 bits. -/
structure Noise where
  seed : UInt32
  deriving DecidableEq, Repr

namespace Noise

/-- Where every device starts. -/
def initial : Noise := ⟨12345⟩

/-- One step of the congruence. -/
def next (n : Noise) : Noise := ⟨n.seed * 1103515245 + 12345⟩

/-- Bits 16 to 23 of the state. -/
def byte (n : Noise) : UInt8 := (n.seed >>> 16).toUInt8

/-- The next `length` bytes, each from the state after one more step. -/
def bytes (n : Noise) : Nat → List UInt8 × Noise
  | 0 => ([], n)
  | length + 1 =>
    let (rest, last) := n.next.bytes length
    (n.next.byte :: rest, last)

@[simp] theorem length_bytes (n : Noise) (length : Nat) : (n.bytes length).1.length = length := by
  induction length generalizing n with
  | zero => rfl
  | succ length ih => simp [bytes, ih]

/-- Noise does not depend on how it is cut into reads. -/
theorem bytes_add (n : Noise) (a b : Nat) :
    n.bytes (a + b) =
      ((n.bytes a).1 ++ ((n.bytes a).2.bytes b).1, ((n.bytes a).2.bytes b).2) := by
  induction a generalizing n with
  | zero => simp [bytes]
  | succ a ih =>
    rw [Nat.succ_add]
    simp [bytes, ih]

end Noise

/-- A device without hardware that keeps the pace of its stream. -/
structure Stub where
  name : String
  config : PcmConfig
  isStopped : Bool
  /-- When it was opened, in nanoseconds. -/
  openedAt : Nat
  /-- When the first transfer started the stream's clock. -/
  clock : Option Nat
  framesSinceStart : Nat
  transferred : Int
  noise : Noise
  deriving DecidableEq, Repr

namespace Stub

/-- A device opened at a time, its clock not yet started. -/
def create (name : String) (config : PcmConfig) (openedAt : Nat) : Stub where
  name
  config
  isStopped := false
  openedAt
  clock := none
  framesSinceStart := 0
  transferred := 0
  noise := Noise.initial

/-- Counts the frames of a transfer and gives the pause that keeps the pace. -/
def pace (s : Stub) (frames now : Nat) : Stub × Duration :=
  let start := s.clock.getD now
  let count := s.framesSinceStart + frames
  let expected := (Duration.ofFrames count s.config.rate).nanos
  ({ s with
      clock := some start
      framesSinceStart := count
      transferred := Position.advance s.transferred frames },
    ⟨min (expected - (now - start)) s.config.bufferDuration.nanos⟩)

/-- A transfer of `length` bytes, its frames counted before the pause. -/
def transfer {α : Type} (s : Stub) (length : Nat) (value : α) (now : Nat) :
    Stub × Outcome α × Duration :=
  if s.config.frameSize = 0 then (s, .crashed .emptyFrames, .zero)
  else
    let (s, pause) := s.pace (length / s.config.frameSize) now
    (s, .done value, pause)

/-- Noise at the pace of the stream; a stopped device gives none. -/
def read (s : Stub) (length now : Nat) : Stub × Outcome (List UInt8) × Duration :=
  if s.isStopped then (s, .failed .stopped, .zero)
  else
    let (bytes, noise) := s.noise.bytes length
    { s with noise }.transfer length bytes now

/-- Takes playback at the pace of the stream; a stopped device takes none. -/
def write (s : Stub) (data : List UInt8) (now : Nat) : Stub × Outcome Unit × Duration :=
  if s.isStopped then (s, .failed .stopped, .zero) else s.transfer data.length () now

/-- Stops the device for good. -/
def stop (s : Stub) : Stub := { s with isStopped := true }

/-- One buffer, in whole milliseconds that fit 32 bits. -/
def latencyMs (s : Stub) : Nat := min s.config.bufferDuration.millis 0xffffffff

/-- Sets the counter of transferred frames. -/
def reset (s : Stub) (frames : Int) : Stub := { s with transferred := frames }

/-- A number of frames, and the time since the device was opened. -/
def position (s : Stub) (frames : Int) (now : Nat) : Position :=
  ⟨frames, Position.clock (now - s.openedAt)⟩

/-- The frames transferred. -/
def capturePosition (s : Stub) (now : Nat) : Position := s.position s.transferred now

/-- The presentation counter, in raw unsigned units. -/
def presentationPosition (s : Stub) (now : Nat) : Position := s.position (max s.transferred 0) now

end Stub

end AudioRelay
