import AudioRelay.Proofs.BlockingProgress
import AudioRelay.Proofs.Chronicle

/-!
# The copy loop of a capture worker

A capture worker reads whole chunks and writes what is left of one, blocking, until nothing is.
What is left is whole frames. So a write that ends without an error took at least one of them, and
the loop never goes round in vain.
-/

namespace AudioRelay

/-- What is left of a chunk: whole frames, at least one of them. -/
def StreamPlan.IsPart (plan : StreamPlan) (rest : List UInt8) : Prop :=
  ∃ k, 0 < k ∧ k ≤ plan.frames ∧ rest.length = k * plan.frameSize

/-- A worker reads whole chunks and copies whole frames of them. -/
def WorkerState.Whole (plan : StreamPlan) : WorkerState → Prop
  | transferring (.read length) _ => length = plan.chunkBytes
  | pausing (.read length) _ => length = plan.chunkBytes
  | pumping rest => plan.IsPart rest
  | offering rest _ => plan.IsPart rest
  | _ => True

/-- What a look of a capture worker at its pipe makes of its lane when it offers `rest`. -/
inductive Lane.Offers (rest : List UInt8) (lane lane' : Lane) : Prop
  /-- It has to look again, and waits before only if the pipe is full or shut. -/
  | goesOn (offer : Offer) : lane'.pipe = lane.pipe → lane'.worker = some (.offering rest offer) →
      (offer = .waiting → lane.pipe.vacant = 0 ∨ lane.pipe.isShut = true) →
      Offers rest lane lane'
  /-- The pipe took frames, at least one; the worker goes on with what is behind them. -/
  | accepted (n : Nat) : 0 < n → n * lane.pipe.frameSize ≤ rest.length →
      lane'.pipe = lane.pipe.push n rest →
      lane'.worker = some (if n * lane.pipe.frameSize = rest.length then .looping
        else .pumping (rest.drop (n * lane.pipe.frameSize))) →
      Offers rest lane lane'
  /-- The pipe was shut. -/
  | refused : lane.pipe.isShut = true → lane'.pipe = lane.pipe → lane'.worker = some .leaving →
      Offers rest lane lane'

section

variable {plan : StreamPlan} {running : Bool} {id : DeviceId} {p p' : Pipe} {w w' : WorkerState}
  {input : WorkerInput} {note : Option Note} {rest : List UInt8} {n : Nat}

/-- A part of a chunk is not accepted as no frames. -/
theorem StreamPlan.IsPart.write (part : plan.IsPart rest) (hsize : p.frameSize = plan.frameSize)
    (hw : p.write rest = (n, p')) (hn : 0 < n ∨ rest.length < p.frameSize) :
    0 < n ∧ n * p.frameSize ≤ rest.length ∧ p' = p.push n rest := by
  obtain ⟨k, hk, -, hlength⟩ := part
  have hframe : p.frameSize ≤ rest.length := by
    rw [hsize, hlength]
    exact Nat.le_mul_of_pos_left _ hk
  have hpos : 0 < n := hn.resolve_right (Nat.not_lt.mpr hframe)
  unfold Pipe.write at hw
  split at hw
  · obtain ⟨rfl, -⟩ := Prod.mk.inj hw
    exact absurd hpos (Nat.lt_irrefl 0)
  · obtain ⟨rfl, rfl⟩ := Prod.mk.inj hw
    refine ⟨hpos, ?_, rfl⟩
    exact (Nat.mul_le_mul_right _ (Nat.min_le_left _ _)).trans (Nat.div_mul_le_self _ _)

/-- A pipe that takes nothing of a part is full or shut. -/
theorem StreamPlan.IsPart.full (part : plan.IsPart rest) (hsize : p.frameSize = plan.frameSize)
    (hpos : 0 < plan.frameSize) (hw : (p.write rest).1 = 0) :
    p.vacant = 0 ∨ p.isShut = true := by
  obtain ⟨k, hk, -, hlength⟩ := part
  have hthere : p.framesIn rest.length = k := by
    rw [Pipe.framesIn, hsize, hlength, Nat.mul_div_cancel _ hpos]
  unfold Pipe.write at hw
  split at hw
  · rename_i hshut
    exact .inr hshut
  · have hnone : min k p.vacant = 0 := hthere ▸ hw
    exact .inl (by omega)

/-- What is behind some frames of a part is a part, unless it is nothing. -/
theorem StreamPlan.IsPart.drop (part : plan.IsPart rest)
    (hsome : n * plan.frameSize < rest.length) : plan.IsPart (rest.drop (n * plan.frameSize)) := by
  obtain ⟨k, -, hframes, hlength⟩ := part
  have hlt : n < k := by
    rw [hlength] at hsome
    exact Nat.lt_of_mul_lt_mul_right hsome
  refine ⟨k - n, Nat.sub_pos_of_lt hlt, (Nat.sub_le _ _).trans hframes, ?_⟩
  rw [List.length_drop, hlength, Nat.sub_mul]

/-- Where a worker goes after its pipe took frames of what it offered. -/
theorem WorkerState.afterOffer_drop {bytes : Nat} (h : bytes ≤ rest.length) :
    afterOffer (rest.drop bytes) = if bytes = rest.length then looping
      else pumping (rest.drop bytes) := by
  by_cases all : bytes = rest.length
  · rw [if_pos all, all, List.drop_length]
    rfl
  · have hsome : rest.drop bytes ≠ [] := List.drop_eq_nil_iff.not.mpr (by omega)
    rw [if_neg all, afterOffer, if_neg (List.isEmpty_iff.not.mpr hsome)]

/-- No move makes a worker copy anything but whole frames. -/
theorem WorkerState.Move.whole (hm : w.Move plan running id p input w' p' note)
    (hsize : p.frameSize = plan.frameSize) (hframes : 0 < plan.frames) (h : w.Whole plan) :
    w'.Whole plan := by
  cases hm with
  | entered =>
    unfold StreamPlan.firstMove
    split
    · trivial
    · exact rfl
  | filled => exact ⟨plan.frames, hframes, le_refl _, h⟩
  | @retried transfer left fault _ | @rested transfer left =>
    cases transfer with
    | write chunk => trivial
    | read length => exact h
  | offered | admitted | parked | roused => exact h
  | @pushed rest n pipe' hw hn =>
    obtain ⟨-, hle, -⟩ := StreamPlan.IsPart.write h hsize hw hn
    rw [afterOffer_drop hle]
    split
    · trivial
    · rename_i hmore
      rw [hsize] at hmore hle ⊢
      exact StreamPlan.IsPart.drop h (lt_of_le_of_ne hle hmore)
  | halted | took | starved | woke | wrote | gaveUp | died | blamed | excused | counted
  | reported | abandoned | refused | ended => trivial

/-- A bound lane has a pipe of the stream's frames, and its worker copies whole frames. -/
def View.Whole (capacity : Nat) (plan : StreamPlan) (v : View) : Prop :=
  v.Sized capacity plan.frameSize ∧ ∀ s ∈ v.station, ∀ w ∈ s.worker, w.Whole plan

/-- No change within a cycle makes a worker copy anything else. -/
theorem View.Change.whole {c : StreamContext} {v v' : View} {d : Option Deed} {capacity : Nat}
    (change : v.Change c plan v' d) (hframes : 0 < plan.frames) (h : v.Whole capacity plan) :
    v'.Whole capacity plan := by
  refine ⟨change.sized h.1, fun s' hs' w' hw' => ?_⟩
  cases change with
  | still | asked | scaled | halted => exact h.2 s' hs' w' hw'
  | released => contradiction
  | staffed =>
    obtain ⟨s, hs, rfl⟩ := Option.map_eq_some_iff.mp hs'
    cases hw : s.worker with
    | none =>
      rw [hw] at hw'
      cases hw'
      trivial
    | some w =>
      rw [hw] at hw'
      cases hw'
      exact h.2 s hs w hw
  | shut =>
    obtain ⟨s, hs, rfl⟩ := Option.map_eq_some_iff.mp hs'
    exact h.2 s hs w' hw'
  | sent _ hs | received _ hs =>
    obtain rfl := Option.some.inj hs'
    exact h.2 _ hs w' hw'
  | worked hs hw hm =>
    obtain rfl := Option.some.inj hs'
    obtain rfl := Option.some.inj hw'
    exact hm.whole (h.1 _ hs).frameSize hframes (h.2 _ hs _ hw)

end

namespace Run

variable {b : Blueprint} {h : List Moment} {e e' : Engine} {i : Nat} {lane : Lane}
  {rest : List UInt8} {offer : Offer} {input : WorkerInput}

/-- What a worker still has to copy is whole frames, at least one of them. -/
theorem whole (run : Run b h e) (hl : e.lanes[i]? = some lane) {w : WorkerState}
    (hw : lane.worker = some w) : w.Whole b.plan := by
  have hframes : 0 < b.context.frames := run.blueprint.1 ▸ run.sound.frames_pos
  have hwhole : (e.view i).Whole b.context.frames b.plan := by
    rw [(run.view_eq (run.lt_candidates hl)).1]
    refine View.cycle_induction (fun v _ => v.Whole b.context.frames b.plan) ?_ ?_ ?_ _
    · exact ⟨fun s hs => absurd hs (Option.not_mem_none s),
        fun s hs => absurd hs (Option.not_mem_none s)⟩
    · refine fun v => ⟨fun s hs => ?_, fun s hs w hw => ?_⟩
      · obtain rfl := Option.some.inj hs
        exact .empty _ _
      · obtain rfl := Option.some.inj hs
        contradiction
    · exact fun v v' d ds change h => change.whole hframes h
  exact hwhole.2 _ (Engine.station_view hl) w hw

/-- A capture worker that offers what is left of a chunk moves at least one frame of it when its
pipe accepts, and leaves when it refuses. -/
theorem offers (run : Run b h e) (hl : e.lanes[i]? = some lane)
    (hw : lane.worker = some (.offering rest offer)) (hs : e.step (.worker i input) = some e') :
    b.plan.IsPart rest ∧ ∃ lane', e'.lanes[i]? = some lane' ∧ lane.Offers rest lane' := by
  have part : b.plan.IsPart rest := run.whole hl hw
  have hsize : lane.pipe.frameSize = b.plan.frameSize :=
    (run.sized (List.mem_of_getElem? hl)).frameSize
  obtain ⟨lane₀, lane', note, hl₀, hstep, counters, journal, rfl⟩ := Engine.stepWorker_eq_some hs
  obtain rfl : lane₀ = lane := Option.some.inj (hl₀.symm.trans hl)
  obtain ⟨w, w', pipe, hw₀, hm, rfl⟩ := Lane.step_eq_some hstep
  obtain rfl : w = .offering rest offer := Option.some.inj (hw₀.symm.trans hw)
  refine ⟨part, _, List.getElem?_set_self (List.getElem?_eq_some_iff.mp hl).1, ?_⟩
  cases hm with
  | admitted | roused => exact .goesOn _ rfl rfl nofun
  | parked hzero =>
    have hpos : 0 < b.context.frameSize := run.blueprint.1 ▸ run.sound.frameSize_pos
    exact .goesOn _ rfl rfl fun _ => part.full hsize hpos hzero
  | refused hshut => exact .refused hshut rfl rfl
  | pushed hwrite hn =>
    obtain ⟨hpos, hle, hpushed⟩ := part.write hsize hwrite hn
    exact .accepted _ hpos hle hpushed (congrArg some (WorkerState.afterOffer_drop hle))

end Run

/-- A blocking write makes progress or fails and leaves the pipe alone, whatever the other end and
those who shut the pipe do meanwhile. The looks of a capture worker are turns of such a write, and
a look that ends one moves the worker on by a frame at least. -/
theorem BlockingEnds.progresses_or_fails :
    (∀ (pipe : Pipe) (reader : Reading) (owes : Bool) (closers : List (Option Closing))
        (data : List UInt8) (turns : List BlockingTurn) (e : BlockingEnds)
        (past : List PipeOutcome),
      pipe.Sized pipe.capacity pipe.frameSize → reader.Stocked pipe →
      (BlockingEnds.begin pipe reader owes closers).play data turns = some (e, past) →
      e.Insists pipe data past) ∧
    (∀ (pipe : Pipe) (data : List UInt8) (offer : Offer) (w : BlockingWrite), 0 < pipe.frameSize →
      (Offer.Progress.going offer).Stands data w → offer.IsPlayed pipe data w) ∧
    ∀ (b : Blueprint) (h : List Moment) (e e' : Engine) (i : Nat) (lane : Lane)
        (rest : List UInt8) (offer : Offer) (input : WorkerInput),
      Run b h e → e.lanes[i]? = some lane → lane.worker = some (.offering rest offer) →
      e.step (.worker i input) = some e' →
      b.plan.IsPart rest ∧ ∃ lane', e'.lanes[i]? = some lane' ∧ lane.Offers rest lane' := by
  refine ⟨?_, ?_, ?_⟩
  · intro pipe reader owes closers data turns e past sized stocked hplay
    have sound := Sound.begin sized stocked data owes closers
    exact (sound.play hplay).insists
  · intro pipe data offer w hsize stands
    exact Offer.isPlayed hsize stands
  · intro b h e e' i lane rest offer input run hl hw hs
    exact run.offers hl hw hs

/-- A write finds a pipe of one frame full and falls asleep. The reader makes room and wakes it, and
it takes that room though the pipe is shut after it looked. In a stream, a worker whose pipe has
room for one of its two frames goes on with the other. -/
theorem BlockingEnds.progresses_after_sleep :
    (∃ e past, (BlockingEnds.begin ⟨1, 2, [9, 9], false, false⟩ .idle false []).play
        [1, 2, 3, 4, 5] [.writer, .writer, .writer, .read 2, .writer, .reader, .writer, .reader,
          .writer, .reader, .reader, .writer, .shutdown true, .writer, .writer, .closer 0,
          .closer 0, .writer, .writer, .writer, .closer 0] = some (e, past) ∧
      e.writer = .done (.ok 1) ∧ e.pipe = ⟨1, 2, [1, 2], true, true⟩ ∧ bytesOut past = [9, 9] ∧
      e.Insists ⟨1, 2, [9, 9], false, false⟩ [1, 2, 3, 4, 5] past) ∧
    Offer.writing.IsPlayed ⟨1, 2, [9, 9], false, false⟩ [1, 2, 3, 4, 5]
      (.trying (.entering [1, 2, 3, 4, 5])) ∧
    ∃ h e e' lane lane', Run (.small .input [.attached 0 0 .input]) h e ∧
      e.step (.worker 0 .tick) = some e' ∧ e'.workers = [.pumping [7, 8]] ∧
      e.lanes[0]? = some lane ∧ e'.lanes[0]? = some lane' ∧ lane.Offers [5, 6, 7, 8] lane' := by
  refine ⟨?_, ?_, ?_⟩
  · have hplay : ((BlockingEnds.begin ⟨1, 2, [9, 9], false, false⟩ .idle false []).play
        [1, 2, 3, 4, 5] [.writer, .writer, .writer, .read 2, .writer, .reader, .writer, .reader,
          .writer, .reader, .reader, .writer, .shutdown true, .writer, .writer, .closer 0,
          .closer 0, .writer, .writer, .writer, .closer 0]).map
        (fun x => (x.1.writer, x.1.pipe, bytesOut x.2)) =
          some (.done (.ok 1), ⟨1, 2, [1, 2], true, true⟩, [9, 9]) := by
      decide
    obtain ⟨⟨e, past⟩, hplayed, hseen⟩ := Option.map_eq_some_iff.mp hplay
    simp only [Prod.mk.injEq] at hseen
    obtain ⟨hdone, hpipe, hout⟩ := hseen
    refine ⟨e, past, hplayed, hdone, hpipe, hout, ?_⟩
    exact progresses_or_fails.1 _ .idle _ _ _ _ _ _ ⟨by decide, by decide, rfl, rfl⟩ trivial hplayed
  · exact progresses_or_fails.2.1 _ _ .writing _ (by decide) rfl
  · have hwatch : (Blueprint.small .input [.attached 0 0 .input]).watch
        [.call .start, .client (.opened (.ok 0)), .client .tick, .client (.spawned (.ok ())),
          .client .tick, .client .tick, .client .tick, .worker 0 .tick,
          .worker 0 (.settled (.done [1, 2, 3, 4])), .worker 0 .tick, .worker 0 .tick,
          .worker 0 .tick, .worker 0 .tick, .worker 0 (.settled (.done [5, 6, 7, 8])),
          .worker 0 .tick, .worker 0 .tick]
        (.call (.transfer [9, 9] 1)) [.client .tick]
        (fun _ _ e => (e.lanes.map (·.worker), (e.step (.worker 0 .tick)).map Engine.workers)) =
        some ([some (.offering [5, 6, 7, 8] .writing)], some [.pumping [7, 8]]) := by
      decide
    obtain ⟨h, e₀, later, e, run, hseen⟩ := Run.of_watch hwatch
    obtain ⟨hlanes, hnext⟩ := Prod.mk.inj hseen
    obtain ⟨e', hs, hworkers⟩ := Option.map_eq_some_iff.mp hnext
    obtain ⟨lane, hl⟩ := List.length_eq_one_iff.mp (by simpa using congrArg List.length hlanes)
    have hw : lane.worker = some (.offering [5, 6, 7, 8] .writing) := by
      rw [hl] at hlanes
      exact (List.cons.inj hlanes).1
    have hlane : e.lanes[0]? = some lane := by rw [hl]; rfl
    obtain ⟨-, lane', hlane', hoffers⟩ :=
      progresses_or_fails.2.2 _ _ _ _ _ _ _ _ _ run hlane hw hs
    exact ⟨_, e, e', lane, lane', run, hs, hworkers, hlane, hlane', hoffers⟩

end AudioRelay
