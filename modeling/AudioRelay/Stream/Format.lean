/-!
# Directions, sample formats and channel layouts

The vocabulary of a PCM stream. A frame is one sample of every channel, so its
size in bytes is the number of channels times the size of a sample.
-/

namespace AudioRelay

/-- Which way frames travel: capture brings them in, playback takes them out. -/
inductive Direction where
  | input
  | output
  deriving DecidableEq, Repr

namespace Direction

/-- Capture is the input direction. -/
def isInput : Direction → Bool
  | input => true
  | output => false

/-- The name used in messages. -/
def label : Direction → String
  | input => "Input"
  | output => "Output"

end Direction

/-- How one sample is written; every format is little-endian. -/
inductive SampleFormat where
  /-- Signed 16-bit integer. -/
  | i16
  /-- Signed 32-bit integer. -/
  | i32
  /-- Signed 24-bit integer in three bytes. -/
  | i24Packed
  /-- Fixed point with 23 fraction bits in a 32-bit word; gain treats the whole word as the
  sample. -/
  | i24Padded
  /-- Binary floating point of single precision, nominally between -1 and 1. -/
  | f32
  deriving DecidableEq, Repr

instance : Inhabited SampleFormat := ⟨.i16⟩

/-- Size of one sample in bytes. -/
def SampleFormat.bytes : SampleFormat → Nat
  | i16 => 2
  | i24Packed => 3
  | i32 => 4
  | i24Padded => 4
  | f32 => 4

theorem SampleFormat.bytes_pos (f : SampleFormat) : 0 < f.bytes := by
  cases f <;> decide

/-- How channels are named; two indexed channels are not the same layout as stereo. -/
inductive ChannelLayout where
  | mono
  | stereo
  | indexed (channels : Nat)
  deriving DecidableEq, Repr

/-- Number of interleaved channels. -/
def ChannelLayout.channels : ChannelLayout → Nat
  | mono => 1
  | stereo => 2
  | indexed n => n

end AudioRelay
