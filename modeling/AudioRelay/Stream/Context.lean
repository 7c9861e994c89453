import AudioRelay.Stream.Format
import AudioRelay.Stream.Duration

/-!
# Stream description and negotiated configuration

`StreamContext` is what a client asks for. `PcmConfig` is what a device is opened
with; it exists exactly for a context with a rate, a channel and a frame of buffer.
-/

namespace AudioRelay

/-- Description of one audio stream. -/
structure StreamContext where
  direction : Direction
  /-- Frames a second. -/
  rate : Nat
  layout : ChannelLayout
  format : SampleFormat
  /-- Capacity of every device pipe, in frames. -/
  frames : Nat
  deriving DecidableEq, Repr

namespace StreamContext

/-- Number of interleaved channels. -/
def channels (c : StreamContext) : Nat := c.layout.channels

/-- Size of one frame in bytes. -/
def frameSize (c : StreamContext) : Nat := c.channels * c.format.bytes

/-- Size of one full buffer in bytes. -/
def bufferBytes (c : StreamContext) : Nat := c.frames * c.frameSize

/-- Size of one full buffer, if a 64-bit count can hold it. -/
def bufferBytes? (c : StreamContext) : Option Nat :=
  if c.bufferBytes ≤ maxCount then some c.bufferBytes else none

/-- Time one full buffer takes. -/
def bufferDuration (c : StreamContext) : Duration := Duration.ofFrames c.frames c.rate

/-- How long a drain waits: the time to play one full buffer, and nothing for capture. -/
def drainWait (c : StreamContext) : Option Duration :=
  if c.direction.isInput then none else some (Duration.drain c.frames c.rate)

end StreamContext

/-- Hardware configuration that devices are opened with. -/
structure PcmConfig where
  channels : Nat
  /-- Frames a second. -/
  rate : Nat
  format : SampleFormat
  /-- Buffer size in frames. -/
  frames : Nat
  deriving DecidableEq, Repr

namespace PcmConfig

/-- Size of one frame in bytes. -/
def frameSize (p : PcmConfig) : Nat := p.channels * p.format.bytes

/-- Time one full buffer takes. -/
def bufferDuration (p : PcmConfig) : Duration := Duration.ofFrames p.frames p.rate

/-- The configuration of a usable stream: rate, channels and buffer are all nonzero. -/
def ofContext? (c : StreamContext) : Option PcmConfig :=
  if c.rate = 0 ∨ c.channels = 0 ∨ c.frames = 0 then none
  else some ⟨c.channels, c.rate, c.format, c.frames⟩

/-- A stream and its negotiated configuration agree on the size of a frame. -/
theorem frameSize_ofContext? {c : StreamContext} {p : PcmConfig} (h : ofContext? c = some p) :
    p.frameSize = c.frameSize := by
  unfold ofContext? at h
  split at h
  · cases h
  · cases h; rfl

end PcmConfig

end AudioRelay
