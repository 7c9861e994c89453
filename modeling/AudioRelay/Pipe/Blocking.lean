import AudioRelay.Pipe.Basic

/-!
# Blocking pipe operations

A blocking write offers frames until the pipe takes at least one or is shut. A
waiting reader looks whether a frame is there. Both are small machines that advance
one look at the pipe at a time, so that the other end may move in between; a wait
may end at any time, by a wake-up or by a timeout.
-/

namespace AudioRelay

/-- Where a blocking write stands. -/
inductive Offer where
  /-- About to look whether the pipe is shut. -/
  | entering
  /-- About to write what fits. -/
  | writing
  /-- Found no free frame and waits. -/
  | waiting
  deriving DecidableEq, Repr

namespace Offer

/-- What a look at the pipe brings a blocking write. -/
inductive Progress where
  | going (next : Offer)
  | accepted (frames : Nat)
  | refused (fault : PipeError)
  deriving DecidableEq, Repr

/-- One look at the pipe. Data of less than a frame is accepted as no frames. -/
def step (offer : Offer) (p : Pipe) (data : List UInt8) : Progress × Pipe :=
  match offer with
  | entering => if p.isShut then (.refused .shutdown, p) else (.going writing, p)
  | writing =>
    let (frames, p') := p.write data
    if 0 < frames ∨ data.length < p.frameSize then (.accepted frames, p')
    else (.going waiting, p')
  | waiting => (.going entering, p)

/-- A wait that only the other end can make useful. -/
def isStuck (offer : Offer) (p : Pipe) : Bool :=
  match offer with
  | waiting => !p.isShut && p.vacant == 0
  | _ => false

/-- Looks at the pipe until the write settles or has to wait. -/
def run (p : Pipe) (data : List UInt8) : Progress × Pipe :=
  match entering.step p data with
  | (.going next, p') => next.step p' data
  | settled => settled

end Offer

namespace Pipe

/-- Whether a reader that wants a frame has to wait for one. -/
def mustWait (p : Pipe) : Bool := p.available == 0 && !p.isShut

/-- What the other end does while one end waits. -/
inductive Interruption where
  | read (room : Nat)
  | write (data : List UInt8)
  | shutdown (drain : Bool)
  deriving DecidableEq, Repr

/-- What came of it. -/
inductive Reaction where
  | gave (bytes : List UInt8)
  | took (frames : Nat)
  | shut
  deriving DecidableEq, Repr

/-- The pipe after the other end acted, and what came of it. -/
def interrupt (p : Pipe) : Interruption → Reaction × Pipe
  | .read room =>
    let (bytes, p) := p.read room
    (.gave bytes, p)
  | .write data =>
    let (frames, p) := p.write data
    (.took frames, p)
  | .shutdown drain => (.shut, p.shutdown drain)

/-- A blocking write, the other end acting once it waits: how it ends, if it does, and
what came of the other end's action, if it was needed. -/
def writeBlocking (p : Pipe) (data : List UInt8) (other : Option Interruption) :
    Option (Except PipeError Nat) × Option Reaction × Pipe :=
  match Offer.run p data with
  | (.accepted frames, p) => (some (.ok frames), none, p)
  | (.refused fault, p) => (some (.error fault), none, p)
  | (.going _, p) =>
    match other with
    | none => (none, none, p)
    | some other =>
      let (reaction, p) := p.interrupt other
      match Offer.run p data with
      | (.accepted frames, p) => (some (.ok frames), some reaction, p)
      | (.refused fault, p) => (some (.error fault), some reaction, p)
      | (.going _, p) => (none, some reaction, p)

/-- A wait for a frame, the other end acting meanwhile: whether there is one at its end,
and what came of the other end's action. -/
def waitReadable (p : Pipe) (other : Option Interruption) : Bool × Option Reaction × Pipe :=
  match other with
  | none => (decide (0 < p.available), none, p)
  | some other =>
    let (reaction, after) := p.interrupt other
    (decide (0 < if p.mustWait then after.available else p.available), some reaction, after)

end Pipe

end AudioRelay
