import AudioRelay.Proofs.Stock
import AudioRelay.Proofs.Transfer

/-!
# Checked sizes and cuts

Sizes in bytes are products of frames and the size of a frame, made in 64 bits, and buffers are cut
at them. Here pipes and transfers do what they do with every product checked for overflow, every cut
for its bound, and every copy for its length. On a pipe whose whole content is a size no check
fails, whatever is offered to it or asked of it.
-/

namespace AudioRelay

namespace Size

/-- A product of sizes; there is none if 64 bits do not hold it. -/
def mul? (a b : Nat) : Option Nat := if a * b ≤ maxCount then some (a * b) else none

/-- A sum of sizes; there is none if 64 bits do not hold it. -/
def add? (a b : Nat) : Option Nat := if a + b ≤ maxCount then some (a + b) else none

variable {a b n : Nat}

theorem mul?_of_le (h : a * b ≤ maxCount) : mul? a b = some (a * b) := if_pos h

theorem add?_of_le (h : a + b ≤ maxCount) : add? a b = some (a + b) := if_pos h

/-- A product is a size exactly if words multiply to it without wrapping. -/
theorem mul?_eq_some_iff :
    mul? a b = some n ↔ (UInt64.ofNat a * UInt64.ofNat b).toNat = a * b ∧ n = a * b := by
  have hword : (UInt64.ofNat a * UInt64.ofNat b).toNat = a * b % 2 ^ 64 := by
    rw [UInt64.toNat_mul, UInt64.toNat_ofNat', UInt64.toNat_ofNat', ← Nat.mul_mod]
  have hlt : a * b % 2 ^ 64 < 2 ^ 64 := Nat.mod_lt _ (by decide)
  have hmax : maxCount = 2 ^ 64 - 1 := rfl
  rw [hword, mul?]
  split
  · rename_i h
    have hexact : a * b % 2 ^ 64 = a * b := Nat.mod_eq_of_lt (by omega)
    simp only [hexact, Option.some.injEq, true_and, eq_comm]
  · simp only [reduceCtorEq, false_iff]
    omega

end Size

/-- A buffer cut behind its first frames: their bytes have to be a size, and within the buffer. -/
def cut? (buffer : List UInt8) (frames frameSize : Nat) : Option (List UInt8 × List UInt8) :=
  (Size.mul? frames frameSize).bind fun offset =>
    if offset ≤ buffer.length then some (buffer.take offset, buffer.drop offset) else none

section

variable {buffer data : List UInt8} {frames frameSize capacity : Nat}

theorem cut?_of_le (within : frames * frameSize ≤ buffer.length)
    (fits : frames * frameSize ≤ maxCount) :
    cut? buffer frames frameSize =
      some (buffer.take (frames * frameSize), buffer.drop (frames * frameSize)) := by
  rw [cut?, Size.mul?_of_le fits, Option.bind_some, if_pos within]

/-- Whole frames are cut off what they stand before. -/
theorem cut?_append {front rest : List UInt8} (whole : frameSize ∣ front.length)
    (fits : front.length ≤ maxCount) :
    cut? (front ++ rest) (front.length / frameSize) frameSize = some (front, rest) := by
  have hframes : front.length / frameSize * frameSize = front.length := Nat.div_mul_cancel whole
  have hwithin : front.length ≤ (front ++ rest).length := by
    rw [List.length_append]
    exact Nat.le_add_right _ _
  rw [cut?_of_le (hframes.trans_le hwithin) (hframes.trans_le fits), hframes, List.take_left,
    List.drop_left]

theorem cut?_of_lt (short : buffer.length < frames * frameSize) :
    cut? buffer frames frameSize = none := by
  rw [cut?, Size.mul?]
  split
  · rw [Option.bind_some, if_neg (Nat.not_le.mpr short)]
  · rfl

namespace Pipe

/-- Takes as many whole frames of `data` as fit; their bytes are cut off `data` and have to find
room. -/
def write? (p : Pipe) (data : List UInt8) : Option (Nat × Pipe) :=
  if p.isShut then some (0, p)
  else
    let frames := min (p.framesIn data.length) p.vacant
    if frames = 0 then some (0, p)
    else
      (cut? data frames p.frameSize).bind fun (front, _) =>
        if front.length ≤ p.vacantBytes then
          some (frames, { p with content := p.content ++ front })
        else none

/-- Gives as many whole frames as are there and fit into a buffer; the part of the buffer that they
replace is cut off and has to be filled. -/
def readInto? (p : Pipe) (buffer : List UInt8) : Option (Nat × List UInt8 × Pipe) :=
  if p.isSealed then some (0, buffer, p)
  else
    let frames := min (p.framesIn buffer.length) p.available
    if frames = 0 then some (0, buffer, p)
    else
      (cut? buffer frames p.frameSize).bind fun (front, rest) =>
        if front.length ≤ p.content.length then
          some (frames, p.content.take front.length ++ rest,
            { p with content := p.content.drop front.length })
        else none

variable {p : Pipe}

/-- What a read gives is cut off what it is put before. -/
theorem Sized.cut?_read (sized : p.Sized capacity frameSize)
    (fits : capacity * frameSize ≤ maxCount) (room : Nat) (rest : List UInt8) :
    cut? ((p.read room).1 ++ rest) ((p.read room).1.length / frameSize) frameSize =
      some ((p.read room).1, rest) := by
  have hwhole : frameSize ∣ (p.read room).1.length := by
    rw [← sized.frameSize]
    exact p.frameSize_dvd_length_read room
  have hthere : (p.read room).1.length ≤ p.content.length := by
    rw [← p.read_append_content room, List.length_append]
    exact Nat.le_add_right _ _
  exact cut?_append hwhole (hthere.trans (sized.bounded.trans fits))

/-- No check of a write fails on a pipe whose whole content is a size. -/
theorem write?_eq (fits : p.capacity * p.frameSize ≤ maxCount) (data : List UInt8) :
    p.write? data = some (p.write data) := by
  unfold write? write
  split
  · rfl
  · dsimp only
    split
    · rename_i hnone
      rw [hnone, push, Nat.zero_mul, List.take_zero, List.append_nil]
    · generalize hframes : min (p.framesIn data.length) p.vacant = frames
      have hdata : frames ≤ p.framesIn data.length := hframes ▸ Nat.min_le_left _ _
      have hroom : frames * p.frameSize ≤ p.vacantBytes :=
        Nat.mul_le_of_le_div _ _ _ (hframes ▸ Nat.min_le_right _ _)
      have hwithin : frames * p.frameSize ≤ data.length := Nat.mul_le_of_le_div _ _ _ hdata
      have hfits : frames * p.frameSize ≤ maxCount := hroom.trans ((Nat.sub_le _ _).trans fits)
      rw [cut?_of_le hwithin hfits, Option.bind_some, length_take_of_le_framesIn hdata,
        if_pos hroom, push]

/-- No check of a read fails on a pipe whose whole content is a size. -/
theorem readInto?_eq (sized : p.Sized capacity frameSize) (hsize : 0 < frameSize)
    (fits : capacity * frameSize ≤ maxCount) (buffer : List UInt8) :
    p.readInto? buffer = some (p.readInto buffer) := by
  obtain ⟨bounded, -, rfl, rfl⟩ := sized
  unfold readInto? readInto read
  split
  · simp only [List.length_nil, Nat.zero_div, List.nil_append, List.drop_zero]
  · dsimp only
    generalize hframes : min (p.framesIn buffer.length) p.available = frames
    have hbuffer : frames ≤ p.framesIn buffer.length := hframes ▸ Nat.min_le_left _ _
    have hthere : frames ≤ p.available := hframes ▸ Nat.min_le_right _ _
    have hgiven : (p.pop frames).1.length = frames * p.frameSize :=
      length_pop_of_le_available hthere
    rw [hgiven, Nat.mul_div_cancel _ hsize]
    split
    · rename_i hnone
      simp only [hnone, pop, Nat.zero_mul, List.take_zero, List.nil_append, List.drop_zero]
    · have hwithin : frames * p.frameSize ≤ buffer.length := Nat.mul_le_of_le_div _ _ _ hbuffer
      have hcontent : frames * p.frameSize ≤ p.content.length := Nat.mul_le_of_le_div _ _ _ hthere
      rw [cut?_of_le hwithin (hcontent.trans (bounded.trans fits)), Option.bind_some,
        length_take_of_le_framesIn hbuffer, if_pos hcontent, pop]

end Pipe

end

namespace Passage

/-- What a capture transfer makes of its buffer: how many frames the pipe gives, the buffer with
them and silence behind them, and the pipe after it. The silence begins at a cut of its own. -/
def fill? (p : Passage) (pipe : Pipe) (frameSize : Nat) : Option (Nat × List UInt8 × Pipe) :=
  (pipe.readInto? p.moved).bind fun (read, buffer, pipe) =>
    if read < p.frames then
      (cut? buffer read frameSize).map fun (front, rest) =>
        (read, front ++ List.replicate rest.length 0, pipe)
    else some (read, buffer, pipe)

/-- No check fails when a buffer of whole frames is filled, and it is filled as a transfer does. -/
theorem fill?_eq {p : Passage} {pipe : Pipe} {capacity frameSize : Nat}
    (sized : pipe.Sized capacity frameSize) (hsize : 0 < frameSize)
    (fits : capacity * frameSize ≤ maxCount) (whole : p.moved.length = p.frames * frameSize) :
    p.fill? pipe frameSize =
      some ((pipe.read p.moved.length).1.length / frameSize,
        (pipe.read p.moved.length).1 ++
          List.replicate (p.moved.length - (pipe.read p.moved.length).1.length) 0,
        (pipe.read p.moved.length).2) := by
  have hcut := sized.cut?_read fits p.moved.length
    (p.moved.drop (pipe.read p.moved.length).1.length)
  rw [fill?, Pipe.readInto?_eq sized hsize fits, Option.bind_some, Pipe.readInto, sized.frameSize]
  dsimp only
  split
  · rw [hcut, Option.map_some, List.length_drop]
  · -- all frames are there, so nothing of the buffer is left
    rename_i hall
    have hwhole : (pipe.read p.moved.length).1.length / frameSize * frameSize =
        (pipe.read p.moved.length).1.length := by
      rw [← sized.frameSize]
      exact Nat.div_mul_cancel (pipe.frameSize_dvd_length_read _)
    have hfull : (pipe.read p.moved.length).1.length = p.moved.length := by
      refine le_antisymm (pipe.length_read_le _) ?_
      calc p.moved.length = p.frames * frameSize := whole
        _ ≤ (pipe.read p.moved.length).1.length / frameSize * frameSize :=
          Nat.mul_le_mul_right _ (Nat.not_lt.mp hall)
        _ = (pipe.read p.moved.length).1.length := hwhole
    rw [hfull, List.drop_length, Nat.sub_self, List.replicate_zero]

end Passage

namespace Engine

/-- A transfer begins: a buffer that cannot be cut behind its frames is too short. -/
def beginCut (e : Engine) (buffer : List UInt8) (frames : Nat) : Engine :=
  match cut? buffer frames e.context.frameSize with
  | none => e.answer (.misused (.shortBuffer buffer.length frames e.context.frameSize))
  | some (moved, tail) =>
    if e.isIdle then e.answer (.misused .noDevices)
    else
      match e.context.direction with
      | .input => { e with client := .receiving ⟨frames, moved, tail, 0⟩ }
      | .output => { e with client := .scaling ⟨frames, moved, tail, 0⟩ }

/-- Writes to the pipe of lane `i`, checked. -/
def send? (e : Engine) (i : Nat) (p : Passage) : Option Engine :=
  match e.lanes[i]? with
  | none => some { e with client := .countingTransfer p }
  | some lane =>
    (lane.pipe.write? p.moved).map fun (frames, pipe) =>
      { e with
        lanes := e.lanes.set i { lane with pipe }
        client :=
          if frames < p.frames then .countingDrop i (p.frames - frames) p else .askingLatency i p }

/-- Reads from the capture pipe and fills up with silence, checked. -/
def receive? (e : Engine) (p : Passage) : Option Engine :=
  match e.lanes with
  | [] => none
  | lane :: rest =>
    (p.fill? lane.pipe e.context.frameSize).map fun (frames, moved, pipe) =>
      { e with
        lanes := { lane with pipe } :: rest
        client :=
          if frames < p.frames then .countingSilence (p.frames - frames) { p with moved }
          else .askingLatency 0 { p with moved } }

variable {e : Engine}

/-- A transfer of a buffer that memory can hold begins with the check of its size. -/
theorem beginTransfer_eq {buffer : List UInt8} (fits : buffer.length ≤ maxCount) (frames : Nat) :
    e.beginTransfer buffer frames = e.beginCut buffer frames := by
  unfold beginTransfer beginCut
  dsimp only
  split
  · rename_i short
    rw [cut?_of_lt short]
  · rename_i enough
    have within := Nat.le_of_not_lt enough
    have hcut := cut?_of_le within (within.trans fits)
    cases hd : e.context.direction with
    | input => simp only [hcut]
    | output => simp only [hcut]

/-- No check fails when the client writes to a pipe. -/
theorem send?_eq
    (sized : ∀ lane ∈ e.lanes, lane.pipe.capacity * lane.pipe.frameSize ≤ maxCount) (i : Nat)
    (p : Passage) : e.send? i p = some (e.send i p) := by
  unfold send? send
  cases hl : e.lanes[i]? with
  | none => rfl
  | some lane =>
    dsimp only
    rw [Pipe.write?_eq (sized lane (List.mem_of_getElem? hl)), Option.map_some]

/-- No check fails when the client reads from the capture pipe. -/
theorem receive?_eq {capacity : Nat} {p : Passage}
    (sized : ∀ lane ∈ e.lanes, lane.pipe.Sized capacity e.context.frameSize)
    (hsize : 0 < e.context.frameSize) (fits : capacity * e.context.frameSize ≤ maxCount)
    (whole : p.moved.length = p.frames * e.context.frameSize) : e.receive? p = e.receive p := by
  unfold receive? receive
  cases hl : e.lanes with
  | nil => rfl
  | cons lane rest =>
    have hlane : lane.pipe.Sized capacity e.context.frameSize :=
      sized lane (hl ▸ List.mem_cons_self)
    dsimp only
    rw [Passage.fill?_eq hlane hsize fits whole, Option.map_some]

end Engine

end AudioRelay
