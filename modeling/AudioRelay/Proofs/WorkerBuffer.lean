import AudioRelay.Proofs.CheckedSize
import AudioRelay.Proofs.CopyLoop
import AudioRelay.Proofs.FrameBalance
import AudioRelay.Proofs.Silence

/-!
# The buffer of a worker

A worker's thread keeps one buffer of a full chunk and a count of the frames at its front that have
gone through the pipe. What it hands to its device, or offers to its pipe, is cut off that buffer.
The buffer and the count are read off the history, with every size and every cut checked on the way:
no check ever fails, and the cuts are what the worker's state says.
-/

namespace AudioRelay

/-- The variables of a worker's thread. -/
structure Scratch where
  buffer : List UInt8
  /-- Frames at the front of the buffer that have gone through the pipe: those of the chunk that a
  playback worker took, or those that a capture worker has written. -/
  moved : Nat
  deriving DecidableEq

namespace Scratch

/-- The variables of a thread that begins. -/
def fresh? (plan : StreamPlan) : Option Scratch :=
  (Size.mul? plan.frames plan.frameSize).map fun bytes => ⟨List.replicate bytes 0, 0⟩

/-- The variables after a move of the worker, checked. -/
def next? (plan : StreamPlan) (pipe : Pipe) (s : Scratch) :
    WorkerState → WorkerInput → Option Scratch
  | .taking, .tick =>
    (pipe.readInto? s.buffer).bind fun (frames, buffer, _) =>
      (cut? buffer frames plan.frameSize).map fun _ => ⟨buffer, frames⟩
  | .transferring (.read _) _, .settled (.done bytes) => some ⟨bytes, 0⟩
  | .offering _ .writing, .tick =>
    (cut? s.buffer s.moved plan.frameSize).bind fun (_, rest) =>
      (pipe.write? rest).bind fun (frames, _) =>
        (Size.add? s.moved frames).map fun moved => ⟨s.buffer, moved⟩
  | _, _ => some s

/-- What a worker is about, in terms of its variables: a chunk that goes to the device is cut off at
the front, and what is left to copy is cut off behind the frames that are written already. -/
def Shows (plan : StreamPlan) (s : Scratch) : WorkerState → Prop
  | .transferring (.write chunk) _ =>
    ∃ rest, cut? s.buffer s.moved plan.frameSize = some (chunk, rest)
  | .pausing (.write chunk) _ => ∃ rest, cut? s.buffer s.moved plan.frameSize = some (chunk, rest)
  | .pumping rest => s.moved < plan.frames ∧
      ∃ front, cut? s.buffer s.moved plan.frameSize = some (front, rest)
  | .offering rest _ => s.moved < plan.frames ∧
      ∃ front, cut? s.buffer s.moved plan.frameSize = some (front, rest)
  | _ => True

/-- Variables that a worker can have: a buffer of a full chunk, off which it cuts what it is
about. -/
structure Serves (plan : StreamPlan) (w : WorkerState) (s : Scratch) : Prop where
  full : s.buffer.length = plan.chunkBytes
  shows : s.Shows plan w

variable {plan : StreamPlan} {running : Bool} {id : DeviceId} {pipe pipe' : Pipe}
  {w w' : WorkerState} {input : WorkerInput} {note : Option Note} {s : Scratch}
  {chunk rest : List UInt8} {frames : Nat}

/-- A buffer of a full chunk is cut anywhere within it. -/
theorem cut?_of_full (full : s.buffer.length = plan.chunkBytes) (fits : plan.chunkBytes ≤ maxCount)
    (within : s.moved ≤ plan.frames) :
    cut? s.buffer s.moved plan.frameSize =
      some (s.buffer.take (s.moved * plan.frameSize),
        s.buffer.drop (s.moved * plan.frameSize)) := by
  have hbytes : s.moved * plan.frameSize ≤ plan.chunkBytes := Nat.mul_le_mul_right _ within
  exact cut?_of_le (full ▸ hbytes) (hbytes.trans fits)

/-- A playback worker takes a chunk to the front of its buffer. -/
theorem next?_taking (full : s.buffer.length = plan.chunkBytes)
    (sized : pipe.Sized plan.frames plan.frameSize) (hsize : 0 < plan.frameSize)
    (fits : plan.chunkBytes ≤ maxCount) (hr : pipe.read plan.chunkBytes = (chunk, pipe')) :
    ∃ s', s.next? plan pipe .taking .tick = some s' ∧ s'.buffer.length = plan.chunkBytes ∧
      ∃ rest, cut? s'.buffer s'.moved plan.frameSize = some (chunk, rest) := by
  have hroom : chunk.length ≤ plan.chunkBytes := by
    simpa only [hr] using pipe.length_read_le plan.chunkBytes
  have hcut : cut? (chunk ++ s.buffer.drop chunk.length) (chunk.length / plan.frameSize)
      plan.frameSize = some (chunk, s.buffer.drop chunk.length) := by
    simpa only [hr] using sized.cut?_read fits plan.chunkBytes (s.buffer.drop chunk.length)
  have hread : pipe.readInto s.buffer =
      (chunk.length / plan.frameSize, chunk ++ s.buffer.drop chunk.length, pipe') := by
    rw [Pipe.readInto, full, hr, sized.frameSize]
  refine ⟨⟨chunk ++ s.buffer.drop chunk.length, chunk.length / plan.frameSize⟩, ?_, ?_, _, hcut⟩
  · simp only [next?, Pipe.readInto?_eq sized hsize fits, hread, Option.bind_some, hcut,
      Option.map_some]
  · rw [List.length_append, List.length_drop, full]
    omega

/-- What a capture worker has left to copy is the frames that it has not written. -/
theorem Serves.rest_eq {offer : Offer} (h : s.Serves plan (.offering rest offer))
    (fits : plan.chunkBytes ≤ maxCount) :
    rest = s.buffer.drop (s.moved * plan.frameSize) ∧
      rest.length = (plan.frames - s.moved) * plan.frameSize := by
  obtain ⟨full, hmoved, front, hcut⟩ := h
  rw [cut?_of_full full fits hmoved.le] at hcut
  obtain rfl := (Prod.mk.inj (Option.some.inj hcut)).2
  refine ⟨rfl, ?_⟩
  rw [List.length_drop, full, Nat.sub_mul]
  rfl

/-- So many frames of what is left are not more than the frames left. -/
theorem Serves.frames_le {offer : Offer} (h : s.Serves plan (.offering rest offer))
    (hsize : 0 < plan.frameSize) (fits : plan.chunkBytes ≤ maxCount)
    (hle : frames * plan.frameSize ≤ rest.length) : frames ≤ plan.frames - s.moved := by
  rw [(h.rest_eq fits).2] at hle
  exact Nat.le_of_mul_le_mul_right hle hsize

/-- A capture worker counts the frames that its pipe takes. -/
theorem next?_writing (h : s.Serves plan (.offering rest .writing))
    (sized : pipe.Sized plan.frames plan.frameSize) (hsize : 0 < plan.frameSize)
    (fits : plan.chunkBytes ≤ maxCount) :
    s.next? plan pipe (.offering rest .writing) .tick =
      some ⟨s.buffer, s.moved + (pipe.write rest).1⟩ := by
  obtain ⟨front, hcut⟩ := h.shows.2
  have hroom : pipe.capacity * pipe.frameSize ≤ maxCount := by
    rw [sized.capacity, sized.frameSize]
    exact fits
  have htaken : (pipe.write rest).1 * plan.frameSize ≤ rest.length := by
    rw [← sized.frameSize]
    exact Nat.mul_le_of_le_div _ _ _ (pipe.write_le_framesIn rest)
  have hsum : s.moved + (pipe.write rest).1 ≤ maxCount := by
    have hframes := h.frames_le hsize fits htaken
    have hmoved := h.shows.1
    have hchunk : plan.frames ≤ plan.chunkBytes := Nat.le_mul_of_pos_right _ hsize
    omega
  simp only [next?, hcut, Option.bind_some, Pipe.write?_eq hroom, Size.add?_of_le hsum,
    Option.map_some]

/-- A capture worker that has written frames goes on behind them, if there is something left. -/
theorem Serves.advance {offer : Offer} (h : s.Serves plan (.offering rest offer))
    (hsize : 0 < plan.frameSize) (fits : plan.chunkBytes ≤ maxCount)
    (hle : frames * plan.frameSize ≤ rest.length) :
    Serves plan (WorkerState.afterOffer (rest.drop (frames * plan.frameSize)))
      ⟨s.buffer, s.moved + frames⟩ := by
  obtain ⟨hrest, hlength⟩ := h.rest_eq fits
  have hframes := h.frames_le hsize fits hle
  refine ⟨h.full, ?_⟩
  rw [WorkerState.afterOffer_drop hle]
  split
  · trivial
  · rename_i hmore
    have hlt : s.moved + frames < plan.frames := by
      have hne : frames ≠ plan.frames - s.moved := fun heq => hmore (by rw [hlength, heq])
      have hmoved := h.shows.1
      omega
    refine ⟨hlt, s.buffer.take ((s.moved + frames) * plan.frameSize), ?_⟩
    rw [cut?_of_full (s := ⟨s.buffer, s.moved + frames⟩) h.full fits hlt.le, hrest,
      List.drop_drop, ← Nat.add_mul]

/-- A thread begins with a buffer of its own. -/
theorem serves_fresh (fits : plan.chunkBytes ≤ maxCount) :
    ∃ s, fresh? plan = some s ∧ s.Serves plan .looping := by
  refine ⟨⟨List.replicate plan.chunkBytes 0, 0⟩, ?_, List.length_replicate, trivial⟩
  rw [fresh?, Size.mul?_of_le fits, Option.map_some]
  rfl

/-- No check of a move fails, and the worker stays with what its variables say. -/
theorem Serves.move (h : s.Serves plan w) (hm : w.Move plan running id pipe input w' pipe' note)
    (whole : w.Whole plan) (sized : pipe.Sized plan.frames plan.frameSize)
    (hframes : 0 < plan.frames) (hsize : 0 < plan.frameSize) (fits : plan.chunkBytes ≤ maxCount) :
    ∃ s', s.next? plan pipe w input = some s' ∧ s'.Serves plan w' := by
  cases hm with
  | entered =>
    refine ⟨s, rfl, h.full, ?_⟩
    unfold StreamPlan.firstMove
    split <;> trivial
  | took hr _ =>
    obtain ⟨s', hnext, hfull, hcut⟩ := next?_taking h.full sized hsize fits hr
    exact ⟨s', hnext, hfull, hcut⟩
  | starved hr =>
    obtain ⟨s', hnext, hfull, -⟩ := next?_taking h.full sized hsize fits hr
    exact ⟨s', hnext, hfull, trivial⟩
  | @filled bytes left =>
    refine ⟨⟨bytes, 0⟩, rfl, whole, hframes, [], ?_⟩
    rw [cut?_of_full (s := ⟨bytes, 0⟩) whole fits (Nat.zero_le _), Nat.zero_mul, List.take_zero,
      List.drop_zero]
  | @pushed rest frames pipe' hw hn =>
    obtain ⟨-, hle, -⟩ := StreamPlan.IsPart.write whole sized.frameSize hw hn
    have hnext := next?_writing h sized hsize fits
    rw [hw] at hnext
    rw [sized.frameSize] at hle ⊢
    exact ⟨_, hnext, h.advance hsize fits hle⟩
  | parked hzero _ =>
    -- the pipe took no frame, so the count stays
    have hnext := next?_writing h sized hsize fits
    rw [hzero] at hnext
    exact ⟨_, hnext, h.full, h.shows⟩
  | @retried transfer left fault _ | @rested transfer left =>
    cases transfer <;> exact ⟨s, rfl, h.full, h.shows⟩
  | @gaveUp transfer left fault _ | @died transfer left misuse =>
    cases transfer <;> exact ⟨s, rfl, h.full, trivial⟩
  | offered | admitted | roused => exact ⟨s, rfl, h.full, h.shows⟩
  | halted | woke | wrote | blamed | excused | counted | reported | abandoned | refused | ended =>
    exact ⟨s, rfl, h.full, trivial⟩

end Scratch

/-- The variables of the worker of lane `i` after a moment, given those before it. -/
def Moment.scratch? (i : Nat) (s : Option Scratch) (m : Moment) : Option Scratch :=
  match m.action with
  | .client (.spawned (.ok _)) =>
    if m.engine.client = .spawning i then Scratch.fresh? m.engine.plan else s
  | .worker j input =>
    if j = i then
      m.engine.lanes[i]?.bind fun lane => lane.worker.bind fun w =>
        s.bind (·.next? m.engine.plan lane.pipe w input)
    else s
  | _ => s

/-- The variables of the worker of lane `i`; there are none if no thread was created there, or if a
check failed since. -/
def scratch? (i : Nat) (h : List Moment) : Option Scratch := h.foldl (Moment.scratch? i) none

theorem scratch?_snoc (i : Nat) (h : List Moment) (m : Moment) :
    scratch? i (h ++ [m]) = m.scratch? i (scratch? i h) := by
  rw [scratch?, List.foldl_append]
  rfl

/-- Only the creation of threads brings workers. -/
theorem Engine.workerAt?_of_client {e e' : Engine} {input : ClientInput} {i : Nat}
    {w : WorkerState} (hs : ClientStep e input e') (others : ∀ r, input ≠ .spawned (.ok r))
    (hw : e'.workerAt? i = some w) : e.workerAt? i = some w := by
  have same (workers : e'.lanes.map (·.worker) = e.lanes.map (·.worker)) :
      e.workerAt? i = some w := by
    rwa [workerAt?_eq_join, ← workers, ← workerAt?_eq_join]
  cases hs with
  | @bound ids hc hne =>
    dsimp only [workerAt?] at hw
    rw [List.getElem?_map] at hw
    cases hl : ids[i]? <;> simp [hl, Lane.fresh] at hw
  | spawned => exact absurd rfl (others ())
  | sent hc hl _ => exact same (map_set_of_eq hl rfl)
  | received hc hl =>
    refine same ?_
    rw [hl]
    rfl
  | sealed hc =>
    refine same ?_
    unfold shutCapture
    split
    · rfl
    · rw [List.map_map]
      rfl
  | released => contradiction
  | located =>
    unfold locate at hw
    split at hw <;> exact hw
  | _ => exact hw

/-- What the client does but for the creation of threads leaves all variables alone. -/
theorem Moment.scratch?_of_client {e : Engine} {input : ClientInput} (i : Nat)
    (kept : Option Scratch) (others : ∀ r, input ≠ .spawned (.ok r)) :
    (Moment.mk e (.client input)).scratch? i kept = kept := by
  unfold scratch?
  split
  · rename_i r hr
    cases hr
    exact absurd rfl (others r)
  · rename_i hr
    cases hr
  · rfl

/-- If lane `i` has a worker, there are variables that it can have. -/
def Engine.Keeps (e : Engine) (plan : StreamPlan) (i : Nat) (kept : Option Scratch) : Prop :=
  ∀ w, e.workerAt? i = some w → ∃ s, kept = some s ∧ s.Serves plan w

namespace Engine

variable {e e' : Engine} {plan : StreamPlan} {i j : Nat} {kept : Option Scratch}

/-- A thread begins with variables of its own, and nothing else that the client does affects
any. -/
theorem keeps_client {input : ClientInput} (hs : ClientStep e input e') (hplan : e.plan = plan)
    (fits : plan.chunkBytes ≤ maxCount) (keeps : e.Keeps plan i kept) :
    e'.Keeps plan i ((Moment.mk e (.client input)).scratch? i kept) := by
  intro w hw
  by_cases spawned : ∃ r, input = .spawned (.ok r)
  · obtain ⟨r, rfl⟩ := spawned
    cases hs with
    | @spawned j lane hc hl =>
      by_cases hij : j = i
      · -- the new variables count, whatever an earlier thread of the lane left behind
        subst hij
        obtain ⟨hj, -⟩ := List.getElem?_eq_some_iff.mp hl
        rw [workerAt?, List.getElem?_set_self hj, Option.bind_some] at hw
        obtain rfl := Option.some.inj hw
        rw [Moment.scratch?, if_pos hc, hplan]
        exact Scratch.serves_fresh fits
      · rw [workerAt?, List.getElem?_set_ne hij] at hw
        have hother : e.client ≠ .spawning i := by
          rw [hc]
          exact fun heq => hij (ClientState.spawning.inj heq)
        rw [Moment.scratch?, if_neg hother]
        exact keeps w hw
  · have others : ∀ r, input ≠ .spawned (.ok r) := fun r hr => spawned ⟨r, hr⟩
    rw [Moment.scratch?_of_client i kept others]
    exact keeps w (workerAt?_of_client hs others hw)

/-- A worker moves on with its variables, and leaves those of the others alone. -/
theorem keeps_worker {input : WorkerInput} (hs : e.stepWorker j input = some e')
    (hplan : e.plan = plan)
    (whole : ∀ lane w, e.lanes[i]? = some lane → lane.worker = some w → w.Whole plan)
    (sized : ∀ lane ∈ e.lanes, lane.pipe.Sized plan.frames plan.frameSize)
    (hframes : 0 < plan.frames) (hsize : 0 < plan.frameSize)
    (fits : plan.chunkBytes ≤ maxCount) (keeps : e.Keeps plan i kept) :
    e'.Keeps plan i ((Moment.mk e (.worker j input)).scratch? i kept) := by
  intro w hw
  obtain ⟨lane, w₀, w', pipe, note, hl, hw₀, hm, he⟩ := stepWorker_eq_leave hs
  obtain ⟨counters, journal, hleft⟩ :=
    { e with lanes := e.lanes.set j { lane with pipe, worker := some w' } }.leave_eq
      (e.workerName j) note
  rw [hleft] at he
  subst he
  by_cases hij : j = i
  · subst hij
    obtain ⟨hj, -⟩ := List.getElem?_eq_some_iff.mp hl
    rw [workerAt?, List.getElem?_set_self hj, Option.bind_some] at hw
    obtain rfl := Option.some.inj hw
    have hbefore : e.workerAt? j = some w₀ := by rw [workerAt?, hl, Option.bind_some, hw₀]
    obtain ⟨s, rfl, serves⟩ := keeps w₀ hbefore
    rw [hplan] at hm
    obtain ⟨s', hnext, serves'⟩ := serves.move hm (whole lane w₀ hl hw₀)
      (sized lane (List.mem_of_getElem? hl)) hframes hsize fits
    refine ⟨s', ?_, serves'⟩
    simp only [Moment.scratch?, if_true, hl, hw₀, Option.bind_some, hplan, hnext]
  · rw [workerAt?, List.getElem?_set_ne hij] at hw
    simp only [Moment.scratch?, if_neg hij]
    exact keeps w hw

end Engine

/-- If a full chunk is a size, no check of a worker has failed in the course of a run, and every
worker is about what its variables say. -/
theorem Run.keeps {b : Blueprint} {h : List Moment} {e : Engine} (run : Run b h e)
    (fits : b.plan.chunkBytes ≤ maxCount) (i : Nat) : e.Keeps b.plan i (scratch? i h) := by
  induction run with
  | built hb =>
    obtain ⟨pcm, -, rfl⟩ := Engine.build_eq_ok hb
    intro w hw
    contradiction
  | @snoc h e e' a run hs ih =>
    rw [scratch?_snoc]
    cases a with
    | call c =>
      obtain ⟨-, rfl⟩ := Engine.step_call_eq_some hs
      intro w hw
      rw [Engine.workerAt?, (e.begin_keeps c).1] at hw
      exact ih w hw
    | adjust level =>
      cases hs
      exact ih
    | client input =>
      exact Engine.keeps_client (Engine.clientStep_of_stepClient hs) run.plan_eq fits ih
    | worker j input =>
      have hframes : 0 < b.context.frames := run.blueprint.1 ▸ run.sound.frames_pos
      have hsize : 0 < b.context.frameSize := run.blueprint.1 ▸ run.sound.frameSize_pos
      exact Engine.keeps_worker hs run.plan_eq (fun _ _ hl hw => run.whole hl hw)
        (fun _ hlane => run.sized hlane) hframes hsize fits ih

end AudioRelay
