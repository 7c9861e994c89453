import AudioRelay.Engine.Lane

/-!
# Moves of a worker

The moves of a worker as rules, one for each way a move can go. No move changes the
dimensions of the pipe or the owner of the lane.
-/

namespace AudioRelay

namespace Pipe

@[simp] theorem read_capacity (p : Pipe) (room : Nat) : (p.read room).2.capacity = p.capacity := by
  unfold read; split <;> rfl

@[simp] theorem read_frameSize (p : Pipe) (room : Nat) :
    (p.read room).2.frameSize = p.frameSize := by
  unfold read; split <;> rfl

@[simp] theorem read_isShut (p : Pipe) (room : Nat) : (p.read room).2.isShut = p.isShut := by
  unfold read; split <;> rfl

@[simp] theorem write_capacity (p : Pipe) (data : List UInt8) :
    (p.write data).2.capacity = p.capacity := by
  unfold write; split <;> rfl

@[simp] theorem write_frameSize (p : Pipe) (data : List UInt8) :
    (p.write data).2.frameSize = p.frameSize := by
  unfold write; split <;> rfl

@[simp] theorem write_isShut (p : Pipe) (data : List UInt8) :
    (p.write data).2.isShut = p.isShut := by
  unfold write; split <;> rfl

/-- A write that takes no frame leaves the pipe as it is. -/
theorem write_eq_self {p : Pipe} {data : List UInt8} (h : (p.write data).1 = 0) :
    (p.write data).2 = p := by
  unfold write at h ⊢
  split
  · rfl
  · rename_i hopen
    simp only [hopen, Bool.false_eq_true, if_false] at h
    simp only [h, push, Nat.zero_mul, List.take_zero, List.append_nil]

/-- What a read gives fits into the room. -/
theorem length_read_le (p : Pipe) (room : Nat) : (p.read room).1.length ≤ room := by
  unfold read
  split
  · exact Nat.zero_le _
  · have hframes : min (p.framesIn room) p.available * p.frameSize ≤ room :=
      Nat.le_trans (Nat.mul_le_mul_right _ (Nat.min_le_left _ _)) (Nat.div_mul_le_self _ _)
    exact Nat.le_trans (List.length_take_le _ _) hframes

/-- What a read gives is whole frames. -/
theorem frameSize_dvd_length_read (p : Pipe) (room : Nat) :
    p.frameSize ∣ (p.read room).1.length := by
  unfold read
  split
  · exact Nat.dvd_zero _
  · have hframes : min (p.framesIn room) p.available * p.frameSize ≤ p.content.length :=
      Nat.le_trans (Nat.mul_le_mul_right _ (Nat.min_le_right _ _)) (Nat.div_mul_le_self _ _)
    unfold pop
    rw [List.length_take, Nat.min_eq_left hframes]
    exact Nat.dvd_mul_left _ _

end Pipe

namespace WorkerState

/-- The moves of the worker of device `id` as rules: where a move starts and on what input,
then the next state, the pipe after the move and what is left behind. -/
inductive Move (plan : StreamPlan) (running : Bool) (id : DeviceId) (pipe : Pipe) :
    WorkerState → WorkerInput → WorkerState → Pipe → Option Note → Prop
  | entered : running = true → Move plan running id pipe looping .tick plan.firstMove pipe none
  | halted : running = false → Move plan running id pipe looping .tick leaving pipe none
  | took {chunk : List UInt8} {pipe' : Pipe} : pipe.read plan.chunkBytes = (chunk, pipe') →
      chunk ≠ [] → Move plan running id pipe taking .tick
        (transferring (.write chunk) plan.retry.spare) pipe' none
  | starved {pipe' : Pipe} : pipe.read plan.chunkBytes = ([], pipe') →
      Move plan running id pipe taking .tick idling pipe' none
  | woke : Move plan running id pipe idling .tick looping pipe none
  | wrote {chunk bytes : List UInt8} {left : Nat} :
      Move plan running id pipe (transferring (.write chunk) left) (.settled (.done bytes))
        looping pipe none
  | filled {bytes : List UInt8} {left : Nat} :
      Move plan running id pipe (transferring (.read bytes.length) left) (.settled (.done bytes))
        (pumping bytes) pipe none
  | retried {transfer : Transfer} {left : Nat} {fault : DeviceError} :
      fault.isTransient = true → Move plan running id pipe (transferring transfer (left + 1))
        (.settled (.failed fault)) (pausing transfer left) pipe none
  | gaveUp {transfer : Transfer} {left : Nat} {fault : DeviceError} :
      fault.isTransient = false ∨ left = 0 → Move plan running id pipe (transferring transfer left)
        (.settled (.failed fault)) (failing fault) pipe none
  | died {transfer : Transfer} {left : Nat} {misuse : Misuse} :
      Move plan running id pipe (transferring transfer left) (.settled (.crashed misuse))
        crashed pipe none
  | rested {transfer : Transfer} {left : Nat} :
      Move plan running id pipe (pausing transfer left) .tick (transferring transfer left) pipe none
  | blamed {fault : DeviceError} : running = true →
      Move plan running id pipe (failing fault) .tick (counting fault) pipe none
  | excused {fault : DeviceError} : running = false →
      Move plan running id pipe (failing fault) .tick looping pipe none
  | counted {fault : DeviceError} :
      Move plan running id pipe (counting fault) .tick (reporting fault) pipe
        (some .deviceErrorCounted)
  | reported {fault : DeviceError} :
      Move plan running id pipe (reporting fault) .tick looping pipe
        (some (.told (.deviceFailed id fault.message)))
  | offered {rest : List UInt8} : running = true →
      Move plan running id pipe (pumping rest) .tick (offering rest .entering) pipe none
  | abandoned {rest : List UInt8} : running = false →
      Move plan running id pipe (pumping rest) .tick leaving pipe none
  | admitted {rest : List UInt8} : pipe.isShut = false →
      Move plan running id pipe (offering rest .entering) .tick (offering rest .writing) pipe none
  | refused {rest : List UInt8} : pipe.isShut = true →
      Move plan running id pipe (offering rest .entering) .tick leaving pipe none
  | pushed {rest : List UInt8} {frames : Nat} {pipe' : Pipe} :
      pipe.write rest = (frames, pipe') → 0 < frames ∨ rest.length < pipe.frameSize →
      Move plan running id pipe (offering rest .writing) .tick
        (afterOffer (rest.drop (frames * pipe.frameSize))) pipe' none
  | parked {rest : List UInt8} : (pipe.write rest).1 = 0 → pipe.frameSize ≤ rest.length →
      Move plan running id pipe (offering rest .writing) .tick (offering rest .waiting) pipe none
  | roused {rest : List UInt8} :
      Move plan running id pipe (offering rest .waiting) .tick (offering rest .entering) pipe none
  | ended : Move plan running id pipe leaving .tick gone pipe (some (.told (.workerStopped id)))

/-- A worker whose transfer failed retries or gives up. -/
theorem move_of_failed {plan : StreamPlan} {running : Bool} {id : DeviceId} {pipe : Pipe}
    (transfer : Transfer) (left : Nat) (fault : DeviceError) :
    Move plan running id pipe (transferring transfer left) (.settled (.failed fault))
      (afterFault transfer left fault) pipe none := by
  cases left with
  | zero => exact .gaveUp (.inr rfl)
  | succ left =>
    cases hf : fault.isTransient with
    | false =>
      simp only [afterFault, Retry.again?, hf, Bool.false_eq_true, if_false]
      exact .gaveUp (.inl hf)
    | true =>
      simp only [afterFault, Retry.again?, hf, if_true]
      exact .retried hf

/-- Every move of a worker follows one of the rules. -/
theorem move_of_next {plan : StreamPlan} {running : Bool} {id : DeviceId} {pipe pipe' : Pipe}
    {w w' : WorkerState} {input : WorkerInput} {note : Option Note}
    (h : w.next plan running id pipe input = some (w', pipe', note)) :
    Move plan running id pipe w input w' pipe' note := by
  unfold next at h
  split at h
  · cases running <;> cases h
    · exact .halted rfl
    · exact .entered rfl
  · split at h
    · rename_i hr
      cases h; exact .starved hr
    · rename_i hne hr
      cases h; exact .took hr hne
  · cases h; exact .woke
  · rename_i transfer left outcome
    split at h
    · rename_i bytes
      split at h
      · rename_i hacc
        cases h
        cases transfer with
        | write chunk => exact .wrote
        | read length =>
          rw [accepts, beq_iff_eq] at hacc
          subst hacc
          exact .filled
      · contradiction
    · cases h; exact move_of_failed _ _ _
    · cases h; exact .died
  · cases h; exact .rested
  · cases running <;> cases h
    · exact .excused rfl
    · exact .blamed rfl
  · cases h; exact .counted
  · cases h; exact .reported
  · cases running <;> cases h
    · exact .abandoned rfl
    · exact .offered rfl
  · rename_i rest offer
    cases offer with
    | entering =>
      cases hs : pipe.isShut <;> simp only [Offer.step, hs] at h <;> cases h
      · exact .admitted hs
      · exact .refused hs
    | writing =>
      by_cases hg : 0 < (pipe.write rest).1 ∨ rest.length < pipe.frameSize
      · simp only [Offer.step, if_pos hg] at h
        cases h
        rw [Pipe.write_frameSize]
        exact .pushed rfl hg
      · have hzero : (pipe.write rest).1 = 0 := by omega
        simp only [Offer.step, if_neg hg, Pipe.write_eq_self hzero] at h
        cases h; exact .parked hzero (by omega)
    | waiting =>
      cases h; exact .roused
  · cases h; exact .ended
  · contradiction

/-- No move changes the dimensions of the pipe. -/
theorem Move.pipe_dimensions {plan : StreamPlan} {running : Bool} {id : DeviceId}
    {pipe pipe' : Pipe} {w w' : WorkerState} {input : WorkerInput} {note : Option Note}
    (h : Move plan running id pipe w input w' pipe' note) :
    pipe'.capacity = pipe.capacity ∧ pipe'.frameSize = pipe.frameSize := by
  cases h with
  | took hr _ =>
    obtain rfl : pipe' = (pipe.read plan.chunkBytes).2 := by rw [hr]
    exact ⟨pipe.read_capacity _, pipe.read_frameSize _⟩
  | starved hr =>
    obtain rfl : pipe' = (pipe.read plan.chunkBytes).2 := by rw [hr]
    exact ⟨pipe.read_capacity _, pipe.read_frameSize _⟩
  | @pushed rest _ _ hw _ =>
    obtain rfl : pipe' = (pipe.write rest).2 := by rw [hw]
    exact ⟨pipe.write_capacity _, pipe.write_frameSize _⟩
  | _ => exact ⟨rfl, rfl⟩

end WorkerState

/-- A step of a lane is a move of its worker. -/
theorem Lane.step_eq_some {plan : StreamPlan} {running : Bool} {lane lane' : Lane}
    {input : WorkerInput} {note : Option Note}
    (h : lane.step plan running input = some (lane', note)) :
    ∃ w w' pipe', lane.worker = some w ∧
      w.Move plan running lane.id lane.pipe input w' pipe' note ∧
      lane' = { lane with pipe := pipe', worker := some w' } := by
  unfold Lane.step at h
  split at h
  · contradiction
  · rename_i w hw
    obtain ⟨⟨w', pipe', note'⟩, hn, heq⟩ := Option.map_eq_some_iff.mp h
    obtain ⟨rfl, rfl⟩ := Prod.mk.inj heq
    exact ⟨w, w', pipe', hw, WorkerState.move_of_next hn, rfl⟩

end AudioRelay
