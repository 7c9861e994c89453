import AudioRelay.Proofs.Run

/-!
# Deeds on a lane

What happens on one lane, as an onlooker tells it: frames that the client offers to its pipe
or gets from it, chunks that its worker takes, and attempts that its device settles. Deeds are
read off the moments of a run, and what became of the frames is read off the deeds.
-/

namespace AudioRelay

deriving instance DecidableEq for Outcome
deriving instance DecidableEq for WorkerInput

/-- Something that happens on one lane. -/
inductive Deed where
  /-- A start bound the lane. -/
  | bound
  /-- Playback: a transfer has the gain on its frames and is about to offer them to the pipes. -/
  | gained (bytes : List UInt8)
  /-- Playback: of the `asked` frames in `bytes` the pipe accepted the first `frames`. -/
  | sent (bytes : List UInt8) (asked frames : Nat)
  /-- Capture: a transfer made up `buffer` from the pipe, the last `silent` frames with silence. -/
  | received (buffer : List UInt8) (silent : Nat)
  /-- The worker took a chunk out of the pipe. -/
  | took (chunk : List UInt8)
  /-- The device settled one attempt of the worker. -/
  | attempted (transfer : Transfer) (outcome : Outcome (List UInt8))
  deriving DecidableEq

/-- What the worker's next move does, seen from outside. -/
def WorkerState.deed? (plan : StreamPlan) (pipe : Pipe) : WorkerState → WorkerInput → Option Deed
  | taking, .tick =>
    match (pipe.read plan.chunkBytes).1 with
    | [] => none
    | chunk => some (.took chunk)
  | transferring transfer _, .settled outcome => some (.attempted transfer outcome)
  | _, _ => none

section

variable {plan : StreamPlan} {pipe pipe' : Pipe} {chunk : List UInt8}

/-- A worker that gets a chunk out of the pipe takes it. -/
theorem WorkerState.deed?_of_took (hr : pipe.read plan.chunkBytes = (chunk, pipe'))
    (hne : chunk ≠ []) : WorkerState.deed? plan pipe .taking .tick = some (.took chunk) := by
  cases chunk with
  | nil => contradiction
  | cons x rest => simp only [WorkerState.deed?, hr]

/-- A worker that finds the pipe empty does nothing that shows. -/
theorem WorkerState.deed?_of_starved (hr : pipe.read plan.chunkBytes = ([], pipe')) :
    WorkerState.deed? plan pipe .taking .tick = none := by
  simp only [WorkerState.deed?, hr]

end

/-- What a capture transfer of `asked` frames, `room` bytes, makes of the bytes it got. -/
def Deed.ofRead (frameSize asked room : Nat) (bytes : List UInt8) : Deed :=
  .received (bytes ++ List.replicate (room - bytes.length) 0) (asked - bytes.length / frameSize)

/-- What the client's next action does on lane `i`, if the client moves by itself. -/
def Engine.clientDeed? (e : Engine) (i : Nat) : Option Deed :=
  match e.client with
  | .opening [] opened => if opened.isEmpty then none else some .bound
  | .scaling p => some (.gained (Gain.apply e.context.format e.context.channels e.level p.moved))
  | .sending j p =>
    if j = i then e.lanes[i]?.map fun lane => .sent p.moved p.frames (lane.pipe.write p.moved).1
    else none
  | .receiving p =>
    if i = 0 then
      e.lanes[i]?.map fun lane =>
        .ofRead e.context.frameSize p.frames p.moved.length (lane.pipe.read p.moved.length).1
    else none
  | _ => none

/-- What a moment does on lane `i`. -/
def Moment.deed? (i : Nat) (m : Moment) : Option Deed :=
  match m.action with
  | .worker j input =>
    if j = i then
      m.engine.lanes[i]?.bind fun lane => lane.worker.bind (·.deed? m.engine.plan lane.pipe input)
    else none
  | .client .tick => m.engine.clientDeed? i
  | _ => none

/-- What happened on lane `i`. -/
def deeds (i : Nat) (h : List Moment) : List Deed := h.filterMap (Moment.deed? i)

theorem deeds_snoc (i : Nat) (h : List Moment) (m : Moment) :
    deeds i (h ++ [m]) = deeds i h ++ (m.deed? i).toList := by
  unfold deeds
  rw [List.filterMap_append]
  cases hm : m.deed? i <;> simp [hm]

namespace Deed

/-- Whether a start bound the lane. -/
def isBound : Deed → Bool
  | bound => true
  | _ => false

/-- The deeds since the lane was bound last. -/
def thisCycle (ds : List Deed) : List Deed := since isBound ds

/-- The buffers of transfers with the gain on them. -/
def gainedBuffers (ds : List Deed) : List (List UInt8) :=
  ds.filterMap fun
    | gained bytes => some bytes
    | _ => none

/-- The buffers offered to the pipe, with the frames asked for and the frames accepted. -/
def offers (ds : List Deed) : List (List UInt8 × Nat × Nat) :=
  ds.filterMap fun
    | sent bytes asked frames => some (bytes, asked, frames)
    | _ => none

/-- The bytes that the pipe accepted, transfer by transfer. -/
def accepted (frameSize : Nat) (ds : List Deed) : List (List UInt8) :=
  (offers ds).map fun (bytes, _, frames) => bytes.take (frames * frameSize)

/-- The frames that were dropped for the lane, transfer by transfer. -/
def dropped (ds : List Deed) : List Nat := (offers ds).map fun (_, asked, frames) => asked - frames

/-- The chunks that the worker took out of the pipe. -/
def taken (ds : List Deed) : List (List UInt8) :=
  ds.filterMap fun
    | took chunk => some chunk
    | _ => none

/-- The attempts that the device settled. -/
def attempts (ds : List Deed) : List (Transfer × Outcome (List UInt8)) :=
  ds.filterMap fun
    | attempted transfer outcome => some (transfer, outcome)
    | _ => none

/-- What an attempt wrote to the device. -/
def wrote? : Transfer × Outcome (List UInt8) → Option (List UInt8)
  | (.write chunk, .done _) => some chunk
  | _ => none

/-- What an attempt read from the device. -/
def gave? : Transfer × Outcome (List UInt8) → Option (List UInt8)
  | (.read _, .done bytes) => some bytes
  | _ => none

/-- The bytes that were written to the device, write by write. -/
def played (ds : List Deed) : List (List UInt8) := (attempts ds).filterMap wrote?

/-- The buffers that the device filled, read by read. -/
def filled (ds : List Deed) : List (List UInt8) := (attempts ds).filterMap gave?

/-- The buffers that transfers made up from the pipe, with the frames of silence in them. -/
def receipts (ds : List Deed) : List (List UInt8 × Nat) :=
  ds.filterMap fun
    | received buffer silent => some (buffer, silent)
    | _ => none

/-- The bytes that transfers returned and that are not silence, transfer by transfer. -/
def returned (frameSize : Nat) (ds : List Deed) : List (List UInt8) :=
  (receipts ds).map fun (buffer, silent) => buffer.take (buffer.length - silent * frameSize)

/-- What happened on lane `i` since the last start that bound the lanes. -/
def ofCycle (i : Nat) (h : List Moment) : List Deed := thisCycle (deeds i h)

/-- What happens on a lane adds to its cycle, and a binding begins a new one. -/
theorem ofCycle_snoc (i : Nat) (h : List Moment) (m : Moment) :
    ofCycle i (h ++ [m]) =
      match m.deed? i with
      | none => ofCycle i h
      | some d => if d.isBound then [] else ofCycle i h ++ [d] := by
  unfold ofCycle
  rw [deeds_snoc]
  cases m.deed? i with
  | none => rw [Option.toList_none, List.append_nil]
  | some d =>
    rw [Option.toList_some, thisCycle, since_snoc]
    rfl

section

variable (ds more : List Deed)

@[simp] theorem gainedBuffers_append :
    gainedBuffers (ds ++ more) = gainedBuffers ds ++ gainedBuffers more :=
  List.filterMap_append

@[simp] theorem offers_append : offers (ds ++ more) = offers ds ++ offers more :=
  List.filterMap_append

@[simp] theorem accepted_append (frameSize : Nat) :
    accepted frameSize (ds ++ more) = accepted frameSize ds ++ accepted frameSize more := by
  simp [accepted]

@[simp] theorem taken_append : taken (ds ++ more) = taken ds ++ taken more :=
  List.filterMap_append

@[simp] theorem attempts_append : attempts (ds ++ more) = attempts ds ++ attempts more :=
  List.filterMap_append

@[simp] theorem filled_append : filled (ds ++ more) = filled ds ++ filled more := by
  simp [filled]

@[simp] theorem receipts_append : receipts (ds ++ more) = receipts ds ++ receipts more :=
  List.filterMap_append

@[simp] theorem returned_append (frameSize : Nat) :
    returned frameSize (ds ++ more) = returned frameSize ds ++ returned frameSize more := by
  simp [returned]

end

end Deed

end AudioRelay
