import AudioRelay.Proofs.Worker

/-!
# Pipes are frame queues

A pipe counts bytes and works out frames by division at each of its ends. What it answers is
what a queue of frames answers that never holds more than its capacity: whole frames go in at the
back and come out at the front, and what is left of data or of a buffer beyond them is no frame.
-/

namespace AudioRelay

/-- The first `n` frames of some bytes. -/
def chunks (frameSize : Nat) : Nat → List UInt8 → List (List UInt8)
  | 0, _ => []
  | n + 1, bytes => bytes.take frameSize :: chunks frameSize n (bytes.drop frameSize)

/-- The whole frames of some bytes. -/
def wholeFrames (frameSize : Nat) (bytes : List UInt8) : List (List UInt8) :=
  chunks frameSize (bytes.length / frameSize) bytes

/-- A queue of at most `capacity` frames of `frameSize` bytes each, oldest first. -/
structure FrameQueue (capacity frameSize : Nat) where
  frames : List (List UInt8)
  isShut : Bool
  /-- Whether what is left can be read once the queue is shut. -/
  drains : Bool
  whole : ∀ frame ∈ frames, frame.length = frameSize
  bounded : frames.length ≤ capacity

/-- What can be asked of a pipe at either end. -/
inductive PipeCall where
  | write (data : List UInt8)
  | read (buffer : List UInt8)
  | shutdown (drain : Bool)
  /-- How many frames are there. -/
  | available
  /-- How many frames still fit. -/
  | vacant
  deriving DecidableEq, Repr

/-- What a pipe answers. -/
inductive PipeAnswer where
  /-- So many frames were accepted. -/
  | took (frames : Nat)
  /-- So many frames were given, and the buffer is so now. -/
  | gave (frames : Nat) (buffer : List UInt8)
  | shut
  | counted (frames : Nat)
  deriving DecidableEq, Repr

/-- A pipe answers a call. -/
def Pipe.serve (p : Pipe) : PipeCall → PipeAnswer × Pipe
  | .write data => (.took (p.write data).1, (p.write data).2)
  | .read buffer =>
    (.gave (p.readInto buffer).1 (p.readInto buffer).2.1, (p.readInto buffer).2.2)
  | .shutdown drain => (.shut, p.shutdown drain)
  | .available => (.counted p.available, p)
  | .vacant => (.counted p.vacant, p)

section

variable {frameSize n : Nat} {bytes : List UInt8} {frames : List (List UInt8)}

/-- A frame has as many bytes as every other. -/
theorem length_of_mem_chunks (enough : n * frameSize ≤ bytes.length) :
    ∀ frame ∈ chunks frameSize n bytes, frame.length = frameSize := by
  induction n generalizing bytes with
  | zero =>
    intro frame hmem
    contradiction
  | succ n ih =>
    intro frame hmem
    rw [Nat.succ_mul] at enough
    rcases List.mem_cons.mp hmem with rfl | hrest
    · rw [List.length_take]
      omega
    · refine ih ?_ frame hrest
      rw [List.length_drop]
      omega

/-- The frames of some bytes are those bytes. -/
theorem flatten_chunks (n : Nat) (bytes : List UInt8) :
    (chunks frameSize n bytes).flatten = bytes.take (n * frameSize) := by
  induction n generalizing bytes with
  | zero => rw [Nat.zero_mul, List.take_zero, chunks, List.flatten_nil]
  | succ n ih => rw [chunks, List.flatten_cons, ih, Nat.succ_mul, Nat.add_comm, List.take_add]

theorem length_of_mem_wholeFrames (bytes : List UInt8) :
    ∀ frame ∈ wholeFrames frameSize bytes, frame.length = frameSize :=
  length_of_mem_chunks (Nat.div_mul_le_self _ _)

/-- Frames of one size have as many bytes as that size says. -/
theorem length_flatten_of_whole (whole : ∀ frame ∈ frames, frame.length = frameSize) :
    frames.flatten.length = frames.length * frameSize := by
  induction frames with
  | nil => exact (Nat.zero_mul _).symm
  | cons frame rest ih =>
    obtain ⟨hframe, hrest⟩ := List.forall_mem_cons.mp whole
    rw [List.flatten_cons, List.length_append, hframe, ih hrest, List.length_cons, Nat.succ_mul,
      Nat.add_comm]

/-- The first bytes of frames of one size are the bytes of the first frames. -/
theorem take_flatten_of_whole (whole : ∀ frame ∈ frames, frame.length = frameSize)
    (n : Nat) : frames.flatten.take (n * frameSize) = (frames.take n).flatten := by
  induction frames generalizing n with
  | nil => rw [List.flatten_nil, List.take_nil, List.take_nil, List.flatten_nil]
  | cons frame rest ih =>
    obtain ⟨hframe, hrest⟩ := List.forall_mem_cons.mp whole
    cases n with
    | zero => rw [Nat.zero_mul, List.take_zero, List.take_zero, List.flatten_nil]
    | succ n =>
      rw [List.flatten_cons, List.take_succ_cons, List.flatten_cons, ← ih hrest, Nat.succ_mul,
        Nat.add_comm, List.take_append, hframe, Nat.add_sub_cancel_left,
        List.take_of_length_le (by omega)]

/-- Without its first bytes a list of frames is that of the frames after them. -/
theorem drop_flatten_of_whole (whole : ∀ frame ∈ frames, frame.length = frameSize)
    (n : Nat) : frames.flatten.drop (n * frameSize) = (frames.drop n).flatten := by
  have hsplit : (frames.take n).flatten ++ (frames.drop n).flatten = frames.flatten := by
    rw [← List.flatten_append, List.take_append_drop]
  have hcut := List.take_append_drop (n * frameSize) frames.flatten
  rw [take_flatten_of_whole whole] at hcut
  exact List.append_cancel_left (hcut.trans hsplit.symm)

end

namespace FrameQueue

variable {capacity frameSize : Nat}

/-- An empty open queue. -/
def empty (capacity frameSize : Nat) : FrameQueue capacity frameSize where
  frames := []
  isShut := false
  drains := false
  whole := by simp
  bounded := Nat.zero_le _

/-- Frames that still fit. -/
def free (q : FrameQueue capacity frameSize) : Nat := capacity - q.frames.length

/-- Takes the whole frames of `data` as far as they fit; a shut queue takes none. -/
def write (q : FrameQueue capacity frameSize) (data : List UInt8) :
    Nat × FrameQueue capacity frameSize :=
  if q.isShut then (0, q)
  else
    (min (data.length / frameSize) q.free,
      { q with
        frames := q.frames ++ (wholeFrames frameSize data).take q.free
        whole := fun frame hmem => (List.mem_append.mp hmem).elim (q.whole frame) fun hnew =>
          length_of_mem_wholeFrames data frame (List.mem_of_mem_take hnew)
        bounded := by
          have hbound := q.bounded
          rw [List.length_append, List.length_take, free]
          omega })

/-- Gives the oldest frames as far as they fit into the buffer, which keeps its other bytes;
a queue that was shut to be discarded gives none. -/
def read (q : FrameQueue capacity frameSize) (buffer : List UInt8) :
    Nat × List UInt8 × FrameQueue capacity frameSize :=
  if q.isShut && !q.drains then (0, buffer, q)
  else
    let n := min (buffer.length / frameSize) q.frames.length
    (n, (q.frames.take n).flatten ++ buffer.drop (n * frameSize),
      { q with
        frames := q.frames.drop n
        whole := fun frame hmem => q.whole frame (List.mem_of_mem_drop hmem)
        bounded := by
          have hbound := q.bounded
          rw [List.length_drop]
          exact Nat.le_trans (Nat.sub_le _ _) hbound })

/-- A queue answers a call. -/
def serve (q : FrameQueue capacity frameSize) :
    PipeCall → PipeAnswer × FrameQueue capacity frameSize
  | .write data => (.took (q.write data).1, (q.write data).2)
  | .read buffer => (.gave (q.read buffer).1 (q.read buffer).2.1, (q.read buffer).2.2)
  | .shutdown drain => (.shut, { q with isShut := true, drains := drain })
  | .available => (.counted q.frames.length, q)
  | .vacant => (.counted q.free, q)

end FrameQueue

/-- The answers to calls made one after the other, and what is left after them. -/
def answers {σ : Type} (serve : σ → PipeCall → PipeAnswer × σ) (s : σ) :
    List PipeCall → List PipeAnswer × σ
  | [] => ([], s)
  | call :: rest =>
    ((serve s call).1 :: (answers serve (serve s call).2 rest).1,
      (answers serve (serve s call).2 rest).2)

/-- A pipe holds the frames of a queue, byte for byte, and is shut as the queue is. -/
structure Pipe.Holds {capacity frameSize : Nat} (p : Pipe) (q : FrameQueue capacity frameSize) :
    Prop where
  capacity : p.capacity = capacity
  frameSize : p.frameSize = frameSize
  content : p.content = q.frames.flatten
  isShut : p.isShut = q.isShut
  drains : p.drains = q.drains

namespace Pipe.Holds

variable {capacity frameSize : Nat} {p : Pipe} {q : FrameQueue capacity frameSize}

/-- A new pipe holds the empty queue. -/
theorem empty (capacity frameSize : Nat) :
    (Pipe.empty capacity frameSize).Holds (FrameQueue.empty capacity frameSize) :=
  ⟨rfl, rfl, rfl, rfl, rfl⟩

theorem length_content (h : p.Holds q) : p.content.length = q.frames.length * frameSize := by
  rw [h.content, length_flatten_of_whole q.whole]

/-- The bytes in the pipe make up the frames in the queue. -/
theorem available (h : p.Holds q) (hf : 0 < frameSize) : p.available = q.frames.length := by
  rw [Pipe.available, h.frameSize, h.length_content, Nat.mul_div_cancel _ hf]

/-- The bytes that still fit make up the frames that still fit. -/
theorem vacant (h : p.Holds q) (hf : 0 < frameSize) : p.vacant = q.free := by
  rw [Pipe.vacant, vacantBytes, h.capacity, h.frameSize, h.length_content, ← Nat.sub_mul,
    Nat.mul_div_cancel _ hf, FrameQueue.free]

/-- A write takes the same frames. -/
theorem write (h : p.Holds q) (hf : 0 < frameSize) (data : List UInt8) :
    (p.write data).1 = (q.write data).1 ∧ (p.write data).2.Holds (q.write data).2 := by
  unfold Pipe.write FrameQueue.write
  rw [h.isShut]
  split
  · exact ⟨rfl, h⟩
  · have hcount : min (p.framesIn data.length) p.vacant =
        min (data.length / frameSize) q.free := by
      rw [framesIn, h.frameSize, h.vacant hf]
    refine ⟨hcount, h.capacity, h.frameSize, ?_, h.isShut, h.drains⟩
    have hbytes : ((wholeFrames frameSize data).take q.free).flatten =
        data.take (min (data.length / frameSize) q.free * frameSize) := by
      rw [← take_flatten_of_whole (length_of_mem_wholeFrames data), wholeFrames, flatten_chunks,
        List.take_take, ← Nat.mul_min_mul_right, Nat.min_comm]
    dsimp only [push]
    rw [hcount, h.content, h.frameSize, List.flatten_append, hbytes]

/-- A read fills the same frames into the buffer. -/
theorem read (h : p.Holds q) (hf : 0 < frameSize) (buffer : List UInt8) :
    (p.readInto buffer).1 = (q.read buffer).1 ∧
      (p.readInto buffer).2.1 = (q.read buffer).2.1 ∧
      (p.readInto buffer).2.2.Holds (q.read buffer).2.2 := by
  have hinto : p.readInto buffer = ((p.read buffer.length).1.length / p.frameSize,
      (p.read buffer.length).1 ++ buffer.drop (p.read buffer.length).1.length,
      (p.read buffer.length).2) := rfl
  rw [hinto]
  by_cases discards : (q.isShut && !q.drains) = true
  · simp only [Pipe.read, FrameQueue.read, isSealed, h.isShut, h.drains, discards, if_true]
    exact ⟨Nat.zero_div _, rfl, h⟩
  · have hcount : min (p.framesIn buffer.length) p.available =
        min (buffer.length / frameSize) q.frames.length := by
      rw [framesIn, h.frameSize, h.available hf]
    have hbytes (n : Nat) : p.content.take (n * p.frameSize) = (q.frames.take n).flatten := by
      rw [h.content, h.frameSize, take_flatten_of_whole q.whole]
    have hlength : (q.frames.take (min (buffer.length / frameSize) q.frames.length)).flatten.length
        = min (buffer.length / frameSize) q.frames.length * frameSize := by
      rw [length_flatten_of_whole fun frame hmem => q.whole frame (List.mem_of_mem_take hmem),
        List.length_take, Nat.min_eq_left (Nat.min_le_right _ _)]
    simp only [Pipe.read, FrameQueue.read, isSealed, h.isShut, h.drains, discards, if_false, pop,
      hcount, hbytes, hlength, Bool.false_eq_true]
    refine ⟨?_, trivial, h.capacity, h.frameSize, ?_, rfl, rfl⟩
    · rw [h.frameSize, Nat.mul_div_cancel _ hf]
    · rw [h.content, h.frameSize, drop_flatten_of_whole q.whole]

/-- A pipe answers as the queue that it holds, and holds what the queue becomes. -/
theorem serve (h : p.Holds q) (hf : 0 < frameSize) (call : PipeCall) :
    (p.serve call).1 = (q.serve call).1 ∧ (p.serve call).2.Holds (q.serve call).2 := by
  cases call with
  | write data =>
    obtain ⟨hcount, hnext⟩ := h.write hf data
    exact ⟨congrArg PipeAnswer.took hcount, hnext⟩
  | read buffer =>
    obtain ⟨hcount, hbuffer, hnext⟩ := h.read hf buffer
    refine ⟨?_, hnext⟩
    simp only [Pipe.serve, FrameQueue.serve, hcount, hbuffer]
  | shutdown drain => exact ⟨rfl, h.capacity, h.frameSize, h.content, rfl, rfl⟩
  | available => exact ⟨congrArg PipeAnswer.counted (h.available hf), h⟩
  | vacant => exact ⟨congrArg PipeAnswer.counted (h.vacant hf), h⟩

/-- All answers of a pipe are those of the queue that it holds. -/
theorem answers (h : p.Holds q) (hf : 0 < frameSize) (calls : List PipeCall) :
    (AudioRelay.answers Pipe.serve p calls).1 = (AudioRelay.answers FrameQueue.serve q calls).1 ∧
      (AudioRelay.answers Pipe.serve p calls).2.Holds
        (AudioRelay.answers FrameQueue.serve q calls).2 := by
  induction calls generalizing p q with
  | nil => exact ⟨rfl, h⟩
  | cons call rest ih =>
    obtain ⟨hanswer, hnext⟩ := h.serve hf call
    obtain ⟨hlater, hlast⟩ := ih hnext
    refine ⟨?_, hlast⟩
    simp only [AudioRelay.answers, hanswer, hlater]

end Pipe.Holds

/-- What a call asks about draining, if it shuts the pipe. -/
def PipeCall.drain? : PipeCall → Option Bool
  | shutdown drain => some drain
  | _ => none

/-- What the calls that shut the pipe ask about draining, in order. -/
def shutdowns (calls : List PipeCall) : List Bool := calls.filterMap PipeCall.drain?

/-- A call shuts a pipe and decides about draining, or it leaves both alone. -/
theorem Pipe.serve_flags (p : Pipe) (call : PipeCall) :
    (p.serve call).2.isShut = (p.isShut || call.drain?.isSome) ∧
      (p.serve call).2.drains = call.drain?.getD p.drains := by
  cases call with
  | write data =>
    simp only [serve, PipeCall.drain?, Option.isSome_none, Bool.or_false, Option.getD_none]
    refine ⟨p.write_isShut data, ?_⟩
    unfold write
    split <;> rfl
  | read buffer =>
    simp only [serve, readInto, PipeCall.drain?, Option.isSome_none, Bool.or_false,
      Option.getD_none]
    refine ⟨p.read_isShut _, ?_⟩
    unfold read
    split <;> rfl
  | shutdown drain => exact ⟨(Bool.or_true _).symm, rfl⟩
  | available | vacant => exact ⟨(Bool.or_false _).symm, rfl⟩

/-- A pipe stays shut, and the call that shut it last decides about draining. -/
theorem Pipe.answers_flags (p : Pipe) (calls : List PipeCall) :
    (answers serve p calls).2.isShut = (p.isShut || (shutdowns calls).getLast?.isSome) ∧
      (answers serve p calls).2.drains = (shutdowns calls).getLast?.getD p.drains := by
  induction calls generalizing p with
  | nil => exact ⟨(Bool.or_false _).symm, rfl⟩
  | cons call rest ih =>
    obtain ⟨hshut, hdrains⟩ := p.serve_flags call
    obtain ⟨hshut', hdrains'⟩ := ih (p.serve call).2
    simp only [answers, shutdowns, List.filterMap_cons] at hshut' hdrains' ⊢
    rw [hshut', hdrains', hshut, hdrains]
    cases call.drain? with
    | none => exact ⟨by rw [Option.isSome_none, Bool.or_false], rfl⟩
    | some drain =>
      rw [List.getLast?_cons]
      cases (List.filterMap PipeCall.drain? rest).getLast? <;> simp

/-- Whatever is asked of a pipe at its ends and in whatever order, it answers as a queue of at
most so many frames does: a write appends the whole frames of its data that fit, a read takes the
oldest frames that fit into its buffer and leaves the rest of the buffer as it is, a shut pipe
takes nothing more and gives something only if the last shutdown asked for draining. After any
calls the pipe holds whole frames, and what is there and what still fits make up its capacity. -/
theorem Pipe.answers_as_frame_queue {capacity frameSize : Nat} (hc : 0 < capacity)
    (hf : 0 < frameSize) (calls : List PipeCall) :
    ∃ p, Pipe.create capacity frameSize = .ok p ∧
      (answers Pipe.serve p calls).1 =
        (answers FrameQueue.serve (FrameQueue.empty capacity frameSize) calls).1 ∧
      (answers Pipe.serve p calls).2.Holds
        (answers FrameQueue.serve (FrameQueue.empty capacity frameSize) calls).2 ∧
      (answers Pipe.serve p calls).2.isShut = (shutdowns calls).getLast?.isSome ∧
      (answers Pipe.serve p calls).2.drains = (shutdowns calls).getLast?.getD false ∧
      frameSize ∣ (answers Pipe.serve p calls).2.content.length ∧
      (answers Pipe.serve p calls).2.available + (answers Pipe.serve p calls).2.vacant =
        capacity := by
  refine ⟨Pipe.empty capacity frameSize, ?_, ?_⟩
  · rw [create, if_neg (by omega), if_neg (by omega)]
  · obtain ⟨hanswers, holds⟩ := (Pipe.Holds.empty capacity frameSize).answers hf calls
    obtain ⟨hshut, hdrains⟩ := (Pipe.empty capacity frameSize).answers_flags calls
    refine ⟨hanswers, holds, hshut, hdrains, ?_, ?_⟩
    · rw [holds.length_content]
      exact Nat.dvd_mul_left _ _
    · have hbound :=
        (answers FrameQueue.serve (FrameQueue.empty capacity frameSize) calls).2.bounded
      rw [holds.available hf, holds.vacant hf, FrameQueue.free]
      omega

/-- Two frames of three fit; the pipe is shut to be discarded, and then to be drained. -/
theorem Pipe.answers_after_two_shutdowns :
    (answers Pipe.serve (Pipe.empty 2 2)
      [.write [1, 2, 3, 4, 5, 6, 7], .shutdown false, .read [0, 0], .vacant, .write [8, 9],
        .shutdown true, .read [0, 0, 0], .available]).1 =
      [.took 2, .shut, .gave 0 [0, 0], .counted 0, .took 0, .shut, .gave 1 [1, 2, 0],
        .counted 1] ∧
      ∃ p, Pipe.create 2 2 = .ok p ∧
        (answers Pipe.serve p [.write [1, 2, 3, 4, 5, 6, 7], .shutdown false, .read [0, 0], .vacant,
          .write [8, 9], .shutdown true, .read [0, 0, 0], .available]).1 =
          (answers FrameQueue.serve (FrameQueue.empty 2 2)
            [.write [1, 2, 3, 4, 5, 6, 7], .shutdown false, .read [0, 0], .vacant, .write [8, 9],
              .shutdown true, .read [0, 0, 0], .available]).1 := by
  obtain ⟨p, hp, hanswers, -⟩ := @Pipe.answers_as_frame_queue 2 2 (by decide) (by decide)
    [.write [1, 2, 3, 4, 5, 6, 7], .shutdown false, .read [0, 0], .vacant, .write [8, 9],
      .shutdown true, .read [0, 0, 0], .available]
  exact ⟨by decide, p, hp, hanswers⟩

end AudioRelay
