import AudioRelay.Error

/-!
# Pipes

A pipe is a bounded queue of whole frames between one writer and one reader.
Neither end waits: a write takes what fits, a read takes what is there, both in whole
frames. Once shut, a pipe takes nothing more; what is left in it can still be read
if the last shutdown asked for draining. Of the byte ring that holds the frames it is
taken for granted that bytes come out in the order in which they went in, and that a
push or a pop moves as many bytes as were asked for and as have room or are there.
-/

namespace AudioRelay

/-- A bounded queue of frames, held as bytes from oldest to newest. -/
structure Pipe where
  /-- Capacity in frames. -/
  capacity : Nat
  /-- Bytes a frame. -/
  frameSize : Nat
  content : List UInt8
  isShut : Bool
  /-- Whether what is left can be read once the pipe is shut. -/
  drains : Bool
  deriving DecidableEq, Repr

namespace Pipe

/-- An empty open pipe. -/
def empty (capacity frameSize : Nat) : Pipe := ⟨capacity, frameSize, [], false, false⟩

/-- A pipe for a caller; it needs room for a frame, and frames need bytes. -/
def create (capacity frameSize : Nat) : Except Misuse Pipe :=
  if capacity = 0 then .error .noCapacity
  else if frameSize = 0 then .error .noFrameSize
  else .ok (empty capacity frameSize)

/-- Whole frames in the pipe. -/
def available (p : Pipe) : Nat := p.content.length / p.frameSize

/-- Bytes that still fit. -/
def vacantBytes (p : Pipe) : Nat := p.capacity * p.frameSize - p.content.length

/-- Whole frames that still fit. -/
def vacant (p : Pipe) : Nat := p.vacantBytes / p.frameSize

/-- Whole frames in `bytes` bytes. -/
def framesIn (p : Pipe) (bytes : Nat) : Nat := bytes / p.frameSize

/-- Whether a read finds nothing because the pipe was shut without draining. -/
def isSealed (p : Pipe) : Bool := p.isShut && !p.drains

/-- Appends the first `frames` frames of `data`. -/
def push (p : Pipe) (frames : Nat) (data : List UInt8) : Pipe :=
  { p with content := p.content ++ data.take (frames * p.frameSize) }

/-- Removes the first `frames` frames. -/
def pop (p : Pipe) (frames : Nat) : List UInt8 × Pipe :=
  (p.content.take (frames * p.frameSize),
    { p with content := p.content.drop (frames * p.frameSize) })

/-- Takes as many whole frames of `data` as fit and says how many. -/
def write (p : Pipe) (data : List UInt8) : Nat × Pipe :=
  if p.isShut then (0, p)
  else
    let frames := min (p.framesIn data.length) p.vacant
    (frames, p.push frames data)

/-- Gives as many whole frames as are there and fit into `room` bytes. -/
def read (p : Pipe) (room : Nat) : List UInt8 × Pipe :=
  if p.isSealed then ([], p)
  else p.pop (min (p.framesIn room) p.available)

/-- Reads into the start of a buffer and says how many frames; the rest of the buffer stays. -/
def readInto (p : Pipe) (buffer : List UInt8) : Nat × List UInt8 × Pipe :=
  let (bytes, rest) := p.read buffer.length
  (bytes.length / p.frameSize, bytes ++ buffer.drop bytes.length, rest)

/-- The bytes a pipe gives and the bytes left in it are the bytes it held, in order. -/
theorem pop_append_content (p : Pipe) (frames : Nat) :
    (p.pop frames).1 ++ (p.pop frames).2.content = p.content :=
  List.take_append_drop _ _

/-- What a write takes goes behind what is there already. -/
theorem content_write (p : Pipe) (data : List UInt8) :
    (p.write data).2.content = p.content ++ data.take ((p.write data).1 * p.frameSize) := by
  unfold write
  split
  · simp
  · rfl

/-- A read takes from the front and loses nothing. -/
theorem read_append_content (p : Pipe) (room : Nat) :
    (p.read room).1 ++ (p.read room).2.content = p.content := by
  unfold read
  split
  · rfl
  · exact p.pop_append_content _

/-- Shuts the pipe for good; the last call decides about draining. -/
def shutdown (p : Pipe) (drain : Bool) : Pipe := { p with isShut := true, drains := drain }

/-- A pipe as its owner sees it from outside. -/
def describe (p : Pipe) : String :=
  s!"PipeControl \x7b capacity_frames: {p.capacity}, shutdown: {p.isShut} \x7d"

end Pipe

end AudioRelay
