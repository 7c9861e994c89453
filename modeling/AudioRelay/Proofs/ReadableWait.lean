import AudioRelay.Proofs.Chronicle
import AudioRelay.Proofs.FrameQueue
import AudioRelay.Proofs.Stock

/-!
# What a wait for a frame tells

A reader that waits for a frame is told whether one is in the pipe. That is whether a read gives
one, unless the pipe was shut to be discarded: then a wait still tells of the frames that were left
in it, though no read gives them any more. A stream never discards what is in its pipes, so its
readers are told the truth.
-/

namespace AudioRelay

/-- Where a reader that waits for a frame stands between two steps. -/
inductive Watching where
  /-- About to look whether a frame is there. -/
  | entering
  /-- Found none; about to take the lock. -/
  | locking
  /-- Has the lock and is about to look once more. -/
  | looking
  /-- Has the lock, found none again and is about to load the shutdown flag. -/
  | checking
  /-- Gave the lock back and sleeps. -/
  | sleeping
  /-- Woken, or its time is over; about to take the lock again. -/
  | waking
  /-- About to look for the last time. -/
  | leaving
  | done (isThere : Bool)
  deriving DecidableEq

namespace Watching

/-- One step of a wait, which takes none when it is done. It sleeps until its time is over or
somebody wakes it, whatever comes first. -/
def step (p : Pipe) : Watching → Option Watching
  | entering => some (if 0 < p.available then done true else locking)
  | locking => some looking
  | looking => some (if p.available = 0 then checking else leaving)
  | checking => some (if p.isShut then leaving else sleeping)
  | sleeping => some waking
  | waking => some leaving
  | leaving => some (done (decide (0 < p.available)))
  | done _ => none

/-- Where a wait stands after so many steps, when nobody else touches the pipe. -/
def after (p : Pipe) : Nat → Watching
  | 0 => entering
  | n + 1 => ((after p n).step p).getD (after p n)

/-- What a wait has found out by where it stands. -/
def Knows (p : Pipe) : Watching → Prop
  | checking => p.available = 0
  | sleeping => p.available = 0 ∧ p.isShut = false
  | done isThere => isThere = decide (0 < p.available)
  | _ => True

section

variable {p : Pipe} {w w' : Watching}

/-- A step finds out no more than is so. -/
theorem Knows.step (h : w.Knows p) (hs : w.step p = some w') : w'.Knows p := by
  cases w with
  | entering =>
    obtain rfl := Option.some.inj hs
    split
    · rename_i hthere
      exact (decide_eq_true hthere).symm
    · trivial
  | looking =>
    obtain rfl := Option.some.inj hs
    split
    · rename_i hnone
      exact hnone
    · trivial
  | checking =>
    obtain rfl := Option.some.inj hs
    split
    · trivial
    · rename_i hopen
      exact ⟨h, Bool.not_eq_true _ ▸ hopen⟩
  | locking | sleeping | waking =>
    obtain rfl := Option.some.inj hs
    trivial
  | leaving =>
    obtain rfl := Option.some.inj hs
    exact rfl
  | done isThere => contradiction

theorem knows_after (p : Pipe) (n : Nat) : (after p n).Knows p := by
  induction n with
  | zero => trivial
  | succ n ih =>
    rw [after]
    cases hs : (after p n).step p with
    | none => exact ih
    | some w => exact ih.step hs

/-- A wait that nobody disturbs is done after seven steps. -/
theorem after_seven (p : Pipe) : after p 7 = done (decide (0 < p.available)) := by
  by_cases hthere : 0 < p.available
  · simp [after, step, hthere]
  · have hnone : p.available = 0 := Nat.eq_zero_of_not_pos hthere
    cases hshut : p.isShut <;> simp [after, step, hnone, hshut]

end

end Watching

namespace Pipe

section

variable {p : Pipe} {buffer : List UInt8} {room : Nat}

/-- A read fills as many frames into its buffer as are there and fit. -/
theorem readInto_frames (hsize : 0 < p.frameSize) (hopen : p.isSealed = false) :
    (p.readInto buffer).1 = min (p.framesIn buffer.length) p.available := by
  have hread : p.read buffer.length =
      p.pop (min (p.framesIn buffer.length) p.available) := by
    rw [read, hopen]
    rfl
  have hlength : (p.pop (min (p.framesIn buffer.length) p.available)).1.length =
      min (p.framesIn buffer.length) p.available * p.frameSize :=
    length_pop_of_le_available (Nat.min_le_right _ _)
  simp only [readInto, hread, hlength, Nat.mul_div_cancel _ hsize]

/-- A read of a discarded pipe gives nothing. -/
theorem readInto_of_isSealed (hsealed : p.isSealed = true) :
    p.readInto buffer = (0, buffer, p) := by
  simp [readInto, read, hsealed]

/-- A wait tells whether a read gives a frame, unless the pipe is discarded. -/
theorem waitReadable_iff (hsize : 0 < p.frameSize) (hroom : p.frameSize ≤ buffer.length)
    (hopen : p.isSealed = false) :
    (p.waitReadable none).1 = true ↔ 0 < (p.readInto buffer).1 := by
  have hfits : 0 < p.framesIn buffer.length := Nat.div_pos hroom hsize
  rw [readInto_frames hsize hopen, waitReadable, decide_eq_true_iff]
  omega

/-- What was asked last about draining decides whether a pipe is discarded. -/
theorem isSealed_answers (capacity frameSize : Nat) (calls : List PipeCall) :
    (answers serve (empty capacity frameSize) calls).2.isSealed =
      decide ((shutdowns calls).getLast? = some false) := by
  obtain ⟨hshut, hdrains⟩ := (empty capacity frameSize).answers_flags calls
  rw [isSealed, hshut, hdrains]
  cases (shutdowns calls).getLast? with
  | none => rfl
  | some drain => cases drain <;> rfl

@[simp] theorem write_isSealed (p : Pipe) (data : List UInt8) :
    (p.write data).2.isSealed = p.isSealed := by
  unfold write
  split <;> rfl

@[simp] theorem read_isSealed (p : Pipe) (room : Nat) : (p.read room).2.isSealed = p.isSealed := by
  unfold read
  split <;> rfl

end

/-- How a wait for a frame goes that nobody disturbs, and what it tells a reader of its next read
into a buffer, when `last` was asked about draining by who shut the pipe last. -/
structure Tells (last : Option Bool) (buffer : List UInt8) (p : Pipe) : Prop where
  /-- It comes to an end, however long it may sleep. -/
  ends : Watching.after p 7 = .done (p.waitReadable none).1
  /-- It ends in no other way, however often it has looked. -/
  only : ∀ n isThere, Watching.after p n = .done isThere → isThere = (p.waitReadable none).1
  /-- It sleeps only if the pipe is empty and open. -/
  sleeps : ∀ n, Watching.after p n = .sleeping → p.available = 0 ∧ p.isShut = false
  /-- It leaves the pipe alone. -/
  keeps : (p.waitReadable none).2 = (none, p)
  /-- It tells whether the read gives a frame. -/
  truth : last ≠ some false → ((p.waitReadable none).1 = true ↔ 0 < (p.readInto buffer).1)
  /-- Of a discarded pipe it tells what is left, which no read gives. -/
  discarded : last = some false → p.readInto buffer = (0, buffer, p) ∧
    ((p.waitReadable none).1 = true ↔ 0 < p.available)

/-- After any calls a wait tells of the next read as it should, but for a discarded pipe. -/
theorem Tells.of_calls {capacity frameSize : Nat} {p : Pipe} {buffer : List UInt8}
    (hp : create capacity frameSize = .ok p) (hroom : frameSize ≤ buffer.length)
    (calls : List PipeCall) :
    (answers serve p calls).2.Tells (shutdowns calls).getLast? buffer := by
  unfold create at hp
  split at hp
  · contradiction
  split at hp
  · contradiction
  rename_i hzero
  obtain rfl := Except.ok.inj hp
  have hpos : 0 < frameSize := Nat.pos_of_ne_zero hzero
  have hsize : (answers serve (empty capacity frameSize) calls).2.frameSize = frameSize :=
    ((Holds.empty capacity frameSize).answers hpos calls).2.frameSize
  have hsealed := isSealed_answers capacity frameSize calls
  constructor
  case ends => exact Watching.after_seven _
  case only =>
    intro n isThere hdone
    have hknows := Watching.knows_after (answers serve (empty capacity frameSize) calls).2 n
    rwa [hdone] at hknows
  case sleeps =>
    intro n hsleeps
    have hknows := Watching.knows_after (answers serve (empty capacity frameSize) calls).2 n
    rwa [hsleeps] at hknows
  case keeps => rfl
  case truth =>
    intro hlast
    rw [decide_eq_false hlast] at hsealed
    exact waitReadable_iff (hsize.symm ▸ hpos) (hsize.symm ▸ hroom) hsealed
  case discarded =>
    intro hlast
    rw [decide_eq_true hlast] at hsealed
    exact ⟨readInto_of_isSealed hsealed, decide_eq_true_iff⟩

end Pipe

/-- A bound lane sees a pipe that is not discarded. -/
def View.Unsealed (v : View) : Prop := ∀ s ∈ v.station, s.pipe.isSealed = false

/-- No change within a cycle discards what is in a pipe. -/
theorem View.Change.unsealed {c : StreamContext} {plan : StreamPlan} {v v' : View}
    {d : Option Deed} (change : v.Change c plan v' d) (h : v.Unsealed) : v'.Unsealed := by
  intro s' hs'
  cases change with
  | still | asked | scaled | halted => exact h s' hs'
  | released => contradiction
  | staffed =>
    obtain ⟨s, hs, rfl⟩ := Option.map_eq_some_iff.mp hs'
    exact h s hs
  | shut =>
    obtain ⟨s, hs, rfl⟩ := Option.map_eq_some_iff.mp hs'
    rfl
  | sent _ hs =>
    obtain rfl := Option.some.inj hs'
    exact (Pipe.write_isSealed _ _).trans (h _ hs)
  | received _ hs =>
    obtain rfl := Option.some.inj hs'
    exact (Pipe.read_isSealed _ _).trans (h _ hs)
  | worked hs _ hm =>
    obtain rfl := Option.some.inj hs'
    have hsame := h _ hs
    cases hm with
    | took hr _ | starved hr =>
      rw [← Pipe.read_isSealed _ plan.chunkBytes, hr] at hsame
      exact hsame
    | @pushed rest _ _ hw _ =>
      rw [← Pipe.write_isSealed _ rest, hw] at hsame
      exact hsame
    | _ => exact hsame

/-- A worker's move that leaves no note changes its lane and nothing else. -/
theorem Engine.step_quietly {e : Engine} {i : Nat} {lane : Lane} {w w' : WorkerState} {p : Pipe}
    {input : WorkerInput} (hl : e.lanes[i]? = some lane) (hw : lane.worker = some w)
    (hnext : w.next e.plan e.isRunning lane.id lane.pipe input = some (w', p, none)) :
    ∃ e', e.step (.worker i input) = some e' ∧ e'.isRunning = e.isRunning ∧
      e'.lanes[i]? = some { lane with pipe := p, worker := some w' } := by
  refine ⟨{ e with lanes := e.lanes.set i { lane with pipe := p, worker := some w' } }, ?_, rfl, ?_⟩
  · simp only [step, stepWorker, hl, Lane.step, hw, hnext, Option.map_some]
    rfl
  · exact List.getElem?_set_self (List.getElem?_eq_some_iff.mp hl).1

namespace Run

variable {b : Blueprint} {h : List Moment} {e : Engine} {i : Nat} {lane : Lane}

/-- A stream never discards what is in a pipe. -/
theorem unsealed (run : Run b h e) (hl : e.lanes[i]? = some lane) : lane.pipe.isSealed = false := by
  have hunsealed : (e.view i).Unsealed := by
    rw [(run.view_eq (run.lt_candidates hl)).1]
    refine View.cycle_induction (fun v _ => v.Unsealed) ?_ ?_ ?_ _
    · exact fun s hs => absurd hs (Option.not_mem_none s)
    · intro v s hs
      obtain rfl := Option.some.inj hs
      rfl
    · exact fun v v' d ds change h => change.unsealed h
  exact hunsealed _ (Engine.station_view hl)

/-- What a wait at a lane's pipe tells, a read of it finds. -/
theorem wait_iff_read (run : Run b h e) (hl : e.lanes[i]? = some lane) {buffer : List UInt8}
    (hroom : b.context.frameSize ≤ buffer.length) :
    (lane.pipe.waitReadable none).1 = true ↔ 0 < (lane.pipe.readInto buffer).1 := by
  have hpos : 0 < b.context.frameSize := run.blueprint.1 ▸ run.sound.frameSize_pos
  have hsize := (run.sized (List.mem_of_getElem? hl)).frameSize
  exact Pipe.waitReadable_iff (hsize ▸ hpos) (hsize ▸ hroom) (run.unsealed hl)

/-- A playback worker about to read takes a chunk if a wait would tell it of a frame. -/
theorem takes_chunk (run : Run b h e) (hl : e.lanes[i]? = some lane)
    (hw : lane.worker = some .taking) (hthere : (lane.pipe.waitReadable none).1 = true) :
    ∃ e' chunk, e.step (.worker i .tick) = some e' ∧ chunk ≠ [] ∧
      e'.workerAt? i = some (.transferring (.write chunk) b.plan.retry.spare) := by
  have hframes : 0 < b.context.frames := run.blueprint.1 ▸ run.sound.frames_pos
  have hroom : b.context.frameSize ≤ (List.replicate b.plan.chunkBytes (0 : UInt8)).length := by
    rw [List.length_replicate]
    exact Nat.le_mul_of_pos_left _ hframes
  obtain ⟨⟨chunk, p⟩, hread⟩ : ∃ r, lane.pipe.read b.plan.chunkBytes = r := ⟨_, rfl⟩
  have hsome : chunk ≠ [] := by
    rintro rfl
    have hgives := (run.wait_iff_read hl hroom).mp hthere
    simp [Pipe.readInto, hread] at hgives
  obtain ⟨c, rest, rfl⟩ := List.exists_cons_of_ne_nil hsome
  have hnext : WorkerState.next e.plan e.isRunning lane.id lane.pipe .taking .tick =
      some (.transferring (.write (c :: rest)) b.plan.retry.spare, p, none) := by
    rw [run.plan_eq, WorkerState.next, hread]
  obtain ⟨e', hs, -, hl'⟩ := Engine.step_quietly hl hw hnext
  exact ⟨e', c :: rest, hs, hsome, by simp [Engine.workerAt?, hl']⟩

/-- A playback worker that waits for a frame and is told of one sends a chunk once it has gone
round its loop. -/
theorem sends_after_wait (run : Run b h e) (hdirection : b.context.direction = .output)
    (hrunning : e.isRunning = true) (hl : e.lanes[i]? = some lane)
    (hw : lane.worker = some .idling) (hthere : (lane.pipe.waitReadable none).1 = true) :
    ∃ past e' chunk, e.follow [.worker i .tick, .worker i .tick, .worker i .tick] =
        some (past, e') ∧
      chunk ≠ [] ∧
      e'.workerAt? i = some (.transferring (.write chunk) b.plan.retry.spare) := by
  have hloops : WorkerState.next e.plan e.isRunning lane.id lane.pipe .idling .tick =
      some (.looping, lane.pipe, none) := rfl
  obtain ⟨e₁, hs₁, hrunning₁, hl₁⟩ := Engine.step_quietly hl hw hloops
  have run₁ := run.snoc hs₁
  have htakes : WorkerState.next e₁.plan e₁.isRunning lane.id lane.pipe .looping .tick =
      some (.taking, lane.pipe, none) := by
    simp only [WorkerState.next, hrunning₁, hrunning, run₁.plan_eq, Blueprint.plan,
      StreamPlan.firstMove, hdirection, if_true]
  obtain ⟨e₂, hs₂, -, hl₂⟩ := Engine.step_quietly hl₁ rfl htakes
  obtain ⟨e₃, chunk, hs₃, hsome, hsends⟩ := (run₁.snoc hs₂).takes_chunk hl₂ rfl hthere
  have hfollow : e.follow [.worker i .tick, .worker i .tick, .worker i .tick] =
      some ([⟨e, .worker i .tick⟩, ⟨e₁, .worker i .tick⟩, ⟨e₂, .worker i .tick⟩], e₃) := by
    simp only [Engine.follow, hs₁, hs₂, hs₃, Option.map_some]
  exact ⟨_, e₃, chunk, hfollow, hsome, hsends⟩

end Run

namespace Pipe

/-- After any calls a wait for a frame tells whether the next read gives one, unless the pipe was
shut last to be discarded; and a playback worker that is told of a frame sends one. -/
theorem wait_tells_unless_discarded (capacity frameSize : Nat) (p : Pipe) (calls : List PipeCall)
    (buffer : List UInt8) (hp : create capacity frameSize = .ok p)
    (hroom : frameSize ≤ buffer.length) :
    (answers serve p calls).2.Tells (shutdowns calls).getLast? buffer ∧
    (∀ (b : Blueprint) h (e : Engine) (i : Nat) (lane : Lane) (chunk : List UInt8), Run b h e →
      e.lanes[i]? = some lane → b.context.frameSize ≤ chunk.length →
      ((lane.pipe.waitReadable none).1 = true ↔ 0 < (lane.pipe.readInto chunk).1)) ∧
    ∀ (b : Blueprint) h (e : Engine) (i : Nat) (lane : Lane), Run b h e →
      b.context.direction = .output → e.isRunning = true → e.lanes[i]? = some lane →
      lane.worker = some .idling → (lane.pipe.waitReadable none).1 = true →
      ∃ past e' chunk, e.follow [.worker i .tick, .worker i .tick, .worker i .tick] =
          some (past, e') ∧
        chunk ≠ [] ∧ e'.workerAt? i = some (.transferring (.write chunk) b.plan.retry.spare) := by
  refine ⟨Tells.of_calls hp hroom calls, ?_, ?_⟩
  · intro b h e i lane chunk run hl hroom
    exact run.wait_iff_read hl hroom
  · intro b h e i lane run hdirection hrunning hl hw hthere
    exact run.sends_after_wait hdirection hrunning hl hw hthere

/-- A pipe that is shut twice, to be drained in the end, and a device whose worker waits when a
frame comes. -/
theorem wait_tells_of_one_frame :
    (answers serve (empty 2 2) [.write [1, 2, 3], .shutdown false, .shutdown true]).2.Tells
      (some true) [0, 0] ∧
    ∃ h e lane, Run (.small .output [.attached 0 0 .output]) h e ∧ e.lanes[0]? = some lane ∧
      lane.worker = some .idling ∧ (lane.pipe.waitReadable none).1 = true ∧
      0 < (lane.pipe.readInto [0, 0]).1 ∧
      ∃ past e' chunk, e.follow [.worker 0 .tick, .worker 0 .tick, .worker 0 .tick] =
          some (past, e') ∧
        chunk ≠ [] ∧ e'.workerAt? 0 = some (.transferring (.write chunk) 2) := by
  obtain ⟨htells, hreads, hsends⟩ := wait_tells_unless_discarded 2 2 (empty 2 2)
    [.write [1, 2, 3], .shutdown false, .shutdown true] [0, 0] rfl (by decide)
  refine ⟨htells, ?_⟩
  have hfollow : ((Blueprint.small .output [.attached 0 0 .output]).follow
      [.call .start, .client (.opened (.ok 0)), .client .tick, .client (.spawned (.ok ())),
        .client .tick, .client .tick, .client .tick, .worker 0 .tick, .worker 0 .tick,
        .call (.transfer [1, 0] 1), .client .tick, .client .tick]).map
      (fun r => (r.2.isRunning, r.2.lanes)) =
      some (true, [⟨(DeviceProfile.attached 0 0 .output).id, 0, ⟨2, 2, [1, 0], false, false⟩,
        some .idling⟩]) := by
    decide
  obtain ⟨⟨h, e⟩, hf, hseen⟩ := Option.map_eq_some_iff.mp hfollow
  obtain ⟨hrunning, hlanes⟩ := Prod.mk.inj hseen
  have run := Run.of_follow hf
  have hl : e.lanes[0]? = some _ := congrArg (·[0]?) hlanes
  have hthere : (waitReadable ⟨2, 2, [1, 0], false, false⟩ none).1 = true := by decide
  exact ⟨h, e, _, run, hl, rfl, hthere, (hreads _ _ _ _ _ [0, 0] run hl (by decide)).mp hthere,
    hsends _ _ _ _ _ run rfl hrunning hl rfl hthere⟩

/-- A pipe that was shut to be discarded while a frame was in it: a wait tells of the frame again
and again and no read gives it. -/
theorem wait_tells_of_discarded_frame :
    ∃ p q, create 2 2 = .ok p ∧ (answers serve p [.write [1, 2], .shutdown false]).2 = q ∧
      q.waitReadable none = (true, none, q) ∧ q.readInto [0, 0] = (0, [0, 0], q) :=
  ⟨_, _, rfl, rfl, by decide, by decide⟩

end Pipe

end AudioRelay
