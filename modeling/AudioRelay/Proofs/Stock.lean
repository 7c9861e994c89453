import AudioRelay.Proofs.Interleaving
import AudioRelay.Proofs.View

/-!
# What the pipes of a stream hold

Whoever writes to a pipe of a stream or reads from it moves whole frames. A pipe holds whole
frames at every moment, and never more than the buffer of the stream.
-/

namespace AudioRelay

namespace Pipe.Sized

variable {p : Pipe} {capacity frameSize : Nat}

theorem empty (capacity frameSize : Nat) :
    (Pipe.empty capacity frameSize).Sized capacity frameSize :=
  ⟨Nat.zero_le _, Nat.dvd_zero _, rfl, rfl⟩

theorem write (h : p.Sized capacity frameSize) (data : List UInt8) :
    (p.write data).2.Sized capacity frameSize := by
  unfold Pipe.write
  split
  · exact h
  · exact h.push (Nat.min_le_left _ _) (Nat.min_le_right _ _)

theorem read (h : p.Sized capacity frameSize) (room : Nat) :
    (p.read room).2.Sized capacity frameSize := by
  unfold Pipe.read
  split
  · exact h
  · exact h.pop _

theorem shutdown (h : p.Sized capacity frameSize) (drain : Bool) :
    (p.shutdown drain).Sized capacity frameSize :=
  ⟨h.bounded, h.aligned, h.capacity, h.frameSize⟩

/-- The bytes in the pipe make up the frames in it. -/
theorem length_content (h : p.Sized capacity frameSize) :
    p.content.length = p.available * frameSize := by
  rw [available, h.frameSize, Nat.div_mul_cancel h.aligned]

/-- The pipe holds no more frames than it has room for. -/
theorem available_le (h : p.Sized capacity frameSize) (hf : 0 < frameSize) :
    p.available ≤ capacity := by
  have hbytes : p.available * frameSize ≤ capacity * frameSize := h.length_content ▸ h.bounded
  exact Nat.le_of_mul_le_mul_right hbytes hf

end Pipe.Sized

/-- A move of a worker puts whole frames into its pipe or takes them out. -/
theorem WorkerState.Move.sized {plan : StreamPlan} {running : Bool} {id : DeviceId}
    {pipe pipe' : Pipe} {w w' : WorkerState} {input : WorkerInput} {note : Option Note}
    {capacity frameSize : Nat} (hm : w.Move plan running id pipe input w' pipe' note)
    (h : pipe.Sized capacity frameSize) : pipe'.Sized capacity frameSize := by
  cases hm with
  | took hr _ =>
    obtain rfl : pipe' = (pipe.read plan.chunkBytes).2 := by rw [hr]
    exact h.read _
  | starved hr =>
    obtain rfl : pipe' = (pipe.read plan.chunkBytes).2 := by rw [hr]
    exact h.read _
  | @pushed rest _ _ hw _ =>
    obtain rfl : pipe' = (pipe.write rest).2 := by rw [hw]
    exact h.write _
  | _ => exact h

/-- A lane that is bound sees a pipe that holds whole frames and not too many. -/
def View.Sized (capacity frameSize : Nat) (v : View) : Prop :=
  ∀ s ∈ v.station, s.pipe.Sized capacity frameSize

/-- No change within a cycle lets a pipe hold anything else. -/
theorem View.Change.sized {c : StreamContext} {plan : StreamPlan} {v v' : View}
    {d : Option Deed} {capacity frameSize : Nat} (change : v.Change c plan v' d)
    (h : v.Sized capacity frameSize) : v'.Sized capacity frameSize := by
  intro s' hs'
  cases change with
  | still | asked | scaled | halted => exact h s' hs'
  | released => contradiction
  | staffed =>
    obtain ⟨s, hs, rfl⟩ := Option.map_eq_some_iff.mp hs'
    exact h s hs
  | shut =>
    obtain ⟨s, hs, rfl⟩ := Option.map_eq_some_iff.mp hs'
    exact (h s hs).shutdown true
  | sent _ hs =>
    obtain rfl := Option.some.inj hs'
    exact (h _ hs).write _
  | received _ hs =>
    obtain rfl := Option.some.inj hs'
    exact (h _ hs).read _
  | worked hs _ hm =>
    obtain rfl := Option.some.inj hs'
    exact hm.sized (h _ hs)

/-- The pipe of a lane holds whole frames, and no more than the buffer of the stream. -/
theorem Run.sized {b : Blueprint} {h : List Moment} {e : Engine} (run : Run b h e) {lane : Lane}
    (hlane : lane ∈ e.lanes) : lane.pipe.Sized b.context.frames b.context.frameSize := by
  obtain ⟨i, hi⟩ := List.mem_iff_getElem?.mp hlane
  have hsized : (e.view i).Sized b.context.frames b.context.frameSize := by
    rw [(run.view_eq (run.lt_candidates hi)).1]
    refine View.cycle_induction
      (fun v _ => v.Sized b.context.frames b.context.frameSize) ?_ ?_ ?_ _
    · exact fun s hs => absurd hs (Option.not_mem_none s)
    · intro v s hs
      obtain rfl := Option.some.inj hs
      exact .empty _ _
    · exact fun v v' d ds change h => change.sized h
  exact hsized _ (Engine.station_view hi)

end AudioRelay
