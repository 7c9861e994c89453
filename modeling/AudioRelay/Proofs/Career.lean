import AudioRelay.Proofs.Mark

/-!
# Careers of workers

What an onlooker noted of a lane says how far its worker has come: once it was announced that
was told once, and its end was told once unless it died. A worker stays in its loop while the
stream runs, and one that the client has joined is no more.
-/

namespace AudioRelay

/-- How far a client has brought the workers and the devices of its lanes. -/
structure Standing where
  /-- The lane whose worker was created and not yet announced. -/
  unannounced : Option Nat
  /-- Workers that were created and not yet counted. -/
  uncounted : Nat
  /-- Whether the pipes of a capture stream were shut. -/
  isSealed : Bool
  /-- Devices that were stopped. -/
  stopped : Nat
  /-- Workers that were joined. -/
  joined : Nat

/-- The standing of every client state over so many lanes. -/
def ClientState.standing (lanes : Nat) : ClientState → Standing
  | enrolling i => ⟨some i, 1, false, 0, 0⟩
  | heralding i => ⟨some i, 0, false, 0, 0⟩
  | stopping i _ => ⟨none, 0, true, i, 0⟩
  | joining i _ => ⟨none, 0, true, lanes, i⟩
  | releasing _ => ⟨none, 0, true, lanes, lanes⟩
  | _ => ⟨none, 0, false, 0, 0⟩

/-- What was told of the life of a worker that has come so far. -/
def Lane.news (s : Standing) (i : Nat) (lane : Lane) : List Event :=
  match lane.worker with
  | none => []
  | some w =>
    (if s.unannounced = some i then [] else [.workerStarted lane.id]) ++
      if w = .gone then [.workerStopped lane.id] else []

/-- The tries that a worker has left are no more than the policy allows. -/
def WorkerState.Within (spare : Nat) : WorkerState → Prop
  | transferring _ left => left ≤ spare
  | pausing _ left => left ≤ spare
  | _ => True

/-- What the marks of a cycle tell of a lane, and where its worker may be. -/
structure Career (direction : Direction) (spare : Nat) (running : Bool) (s : Standing)
    (ms : List Mark) (i : Nat) (lane : Lane) : Prop where
  spawned : ms.count (.spawned i) = lane.worker.isSome.toNat
  died : ms.count (.died i) = (decide (lane.worker = some .crashed)).toNat
  news : Mark.news i ms = lane.news s i
  loops : running = true → lane.worker ≠ some .leaving ∧ lane.worker ≠ some .gone
  unshut : running = true → lane.pipe.isShut = false
  shut : s.isSealed = true → direction = .input → lane.pipe.isShut = true
  joined : i < s.joined → lane.isQuiet = true
  within : ∀ w, lane.worker = some w → w.Within spare

namespace Career

variable {direction : Direction} {spare : Nat} {running : Bool} {s : Standing} {ms : List Mark}
  {i : Nat} {lane : Lane}

/-- Marks that tell the same life tell the same career. -/
theorem of_life (h : Career direction spare running s ms i lane) {more : List Mark}
    (hlife : Mark.life i more = Mark.life i ms) :
    Career direction spare running s more i lane := by
  obtain ⟨hspawned, hrest⟩ := Prod.mk.inj hlife
  obtain ⟨hdied, hnews⟩ := Prod.mk.inj hrest
  exact { h with
    spawned := hspawned.trans h.spawned
    died := hdied.trans h.died
    news := hnews.trans h.news }

/-- The marks of a worker that is no more tell its life to the end. -/
theorem told (h : Career direction spare running s ms i lane) (quiet : lane.isQuiet = true)
    (announced : s.unannounced ≠ some i) :
    lane.worker = none ∧ Mark.life i ms = (0, 0, []) ∨
      lane.worker.isSome = true ∧ Mark.Lived lane.id (Mark.life i ms) := by
  unfold Mark.Lived Mark.life
  rw [h.spawned, h.died, h.news]
  unfold Lane.isQuiet at quiet
  cases hw : lane.worker with
  | none => exact .inl ⟨rfl, by simp [Lane.news, hw]⟩
  | some w =>
    rw [hw] at quiet
    refine .inr ⟨rfl, ?_⟩
    cases w with
    | gone => exact .inl (by simp [Lane.news, hw, announced])
    | crashed => exact .inr (by simp [Lane.news, hw, announced])
    | _ => contradiction

/-- A worker that is no more is settled. -/
theorem settled (h : Career direction spare running s ms i lane) (quiet : lane.isQuiet = true)
    (announced : s.unannounced ≠ some i) : Mark.Settled i ms :=
  (h.told quiet announced).imp And.right fun told => ⟨lane.id, told.2⟩

/-- The client may go on, if it announces no worker by that. -/
theorem stand (h : Career direction spare running s ms i lane) {s' : Standing}
    (announced : s'.unannounced = some i ↔ s.unannounced = some i)
    (shut : s'.isSealed = true → direction = .input → lane.pipe.isShut = true)
    (joined : i < s'.joined → lane.isQuiet = true) :
    Career direction spare running s' ms i lane := by
  refine { h with news := ?_, shut := shut, joined := joined }
  rw [h.news]
  simp only [Lane.news, announced]

/-- The client may use the pipe of a lane, or shut it once the stream no longer runs. -/
theorem pipe (h : Career direction spare running s ms i lane) {pipe : Pipe}
    (unshut : running = true → pipe.isShut = false)
    (shut : s.isSealed = true → direction = .input → pipe.isShut = true) :
    Career direction spare running s ms i { lane with pipe } :=
  { h with unshut := unshut, shut := shut }

/-- A lane whose thread does not exist yet has no career. -/
theorem fresh (plan : StreamPlan) (direction : Direction) (spare : Nat) (running : Bool)
    (ps : List DeviceProfile) (i : Nat) (id : DeviceId) (device : Nat) :
    Career direction spare running ⟨none, 0, false, 0, 0⟩ (ps.map .asked) i
      (Lane.fresh plan id device) where
  spawned := List.count_eq_zero.mpr (by simp)
  died := List.count_eq_zero.mpr (by simp)
  news := Mark.news_map_asked i ps
  loops := by simp [Lane.fresh]
  unshut := fun _ => rfl
  shut := by simp
  joined := by simp
  within := by simp [Lane.fresh]

/-- The thread of a worker is created. -/
theorem spawn (h : Career direction spare running ⟨none, 0, false, 0, 0⟩ ms i lane)
    (hw : lane.worker = none) :
    Career direction spare running ⟨some i, 1, false, 0, 0⟩ (ms ++ [.spawned i]) i
      { lane with worker := some .looping } where
  spawned := by
    rw [List.count_append, h.spawned, hw]
    simp
  died := by
    rw [List.count_append, h.died, hw]
    simp
  news := by
    rw [Mark.news_append, h.news]
    simp [Lane.news, hw, Mark.news, Mark.event?]
  loops := by simp
  unshut := h.unshut
  shut := by simp
  joined := by simp
  within := by
    rintro w ⟨⟩
    trivial

/-- The listener is told of a worker that was created. -/
theorem announce (h : Career direction spare true ⟨some i, 0, false, 0, 0⟩ ms i lane)
    (staffed : lane.worker.isSome = true) :
    Career direction spare true ⟨none, 0, false, 0, 0⟩ (ms ++ [.announced i lane.id]) i lane := by
  obtain ⟨w, hw⟩ := Option.isSome_iff_exists.mp staffed
  have hgone : w ≠ .gone := by
    rintro rfl
    exact (h.loops rfl).2 hw
  refine { h with spawned := ?_, died := ?_, news := ?_, shut := by simp }
  · rw [← h.spawned, List.count_append]
    simp
  · rw [← h.died, List.count_append]
    simp
  · rw [Mark.news_append, h.news]
    simp [Lane.news, hw, hgone, Mark.news, Mark.event?, Mark.lane?]

/-- A live worker moves on without an onlooker's notice. -/
theorem keep {w w' : WorkerState} {pipe : Pipe} (h : Career direction spare running s ms i lane)
    (hw : lane.worker = some w) (live : w.isOver = false) (live' : w'.isOver = false)
    (shut : pipe.isShut = lane.pipe.isShut) (loops : running = true → w' ≠ .leaving)
    (within : w'.Within spare) :
    Career direction spare running s ms i { lane with pipe, worker := some w' } where
  spawned := by rw [h.spawned, hw]; rfl
  died := by
    rw [h.died, hw]
    cases w <;> cases w' <;> first | rfl | contradiction
  news := by
    have hgone : w ≠ .gone := by rintro rfl; contradiction
    have hgone' : w' ≠ .gone := by rintro rfl; contradiction
    rw [h.news]
    simp [Lane.news, hw, hgone, hgone']
  loops := by
    intro hrun
    refine ⟨?_, ?_⟩
    · rintro ⟨⟩
      exact loops hrun rfl
    · rintro ⟨⟩
      contradiction
  unshut := fun hrun => shut.trans (h.unshut hrun)
  shut := fun hs hd => shut.trans (h.shut hs hd)
  joined := by
    intro hj
    have quiet := h.joined hj
    simp only [Lane.isQuiet, hw, live, Bool.false_eq_true] at quiet
  within := by
    rintro x ⟨⟩
    exact within

/-- Every move of its worker goes on with a career, and its end is noted. -/
theorem work (plan : StreamPlan) {w w' : WorkerState} {pipe : Pipe} {input : WorkerInput}
    {note : Option Note} (h : Career plan.direction plan.retry.spare running s ms i lane)
    (hw : lane.worker = some w) (hm : w.Move plan running lane.id lane.pipe input w' pipe note) :
    Career plan.direction plan.retry.spare running s (ms ++ (w.mark? i lane.id input).toList) i
      { lane with pipe, worker := some w' } := by
  have within := h.within w hw
  have silent {w' : WorkerState} {pipe : Pipe} (live : w.isOver = false)
      (live' : w'.isOver = false) (shut : pipe.isShut = lane.pipe.isShut)
      (loops : running = true → w' ≠ .leaving) (within : w'.Within plan.retry.spare) :
      Career plan.direction plan.retry.spare running s (ms ++ []) i
        { lane with pipe, worker := some w' } := by
    rw [List.append_nil]
    exact h.keep hw live live' shut loops within
  cases hm with
  | entered hrun =>
    obtain ⟨live, stays, tries⟩ : plan.firstMove.isOver = false ∧ plan.firstMove ≠ .leaving ∧
        plan.firstMove.Within plan.retry.spare := by
      unfold StreamPlan.firstMove
      split
      · exact ⟨rfl, by simp, trivial⟩
      · exact ⟨rfl, by simp, Nat.le_refl _⟩
    exact silent rfl live rfl (fun _ => stays) tries
  | halted hrun | abandoned hrun =>
    exact silent rfl rfl rfl (fun running => absurd (hrun.symm.trans running) (by simp)) trivial
  | refused hshut =>
    refine silent rfl rfl rfl (fun running => ?_) trivial
    have unshut := h.unshut running
    rw [hshut] at unshut
    contradiction
  | @took chunk pipe hr hne =>
    have hshut := lane.pipe.read_isShut plan.chunkBytes
    rw [hr] at hshut
    exact silent rfl rfl hshut (by simp) (Nat.le_refl _)
  | @starved pipe hr =>
    have hshut := lane.pipe.read_isShut plan.chunkBytes
    rw [hr] at hshut
    exact silent rfl rfl hshut (by simp) trivial
  | @pushed rest frames pipe hw' hg =>
    have hshut := lane.pipe.write_isShut rest
    rw [hw'] at hshut
    unfold WorkerState.afterOffer
    split
    · exact silent rfl rfl hshut (by simp) trivial
    · exact silent rfl rfl hshut (by simp) trivial
  | retried ht => exact silent rfl rfl rfl (by simp) (Nat.le_of_succ_le within)
  | rested => exact silent rfl rfl rfl (by simp) within
  | woke | wrote | filled | gaveUp | blamed | excused | counted | reported | offered | admitted
  | parked | roused => exact silent rfl rfl rfl (by simp) trivial
  | @died transfer left misuse =>
    constructor
    case spawned =>
      rw [WorkerState.mark?, List.count_append, h.spawned, hw]
      simp
    case died =>
      rw [WorkerState.mark?, List.count_append, h.died, hw]
      simp
    case news =>
      rw [WorkerState.mark?, Mark.news_append, h.news]
      simp [Lane.news, hw, Mark.news, Mark.event?]
    case loops => simp
    case unshut => exact h.unshut
    case shut => exact h.shut
    case joined => exact fun _ => rfl
    case within =>
      rintro x ⟨⟩
      trivial
  | ended =>
    constructor
    case spawned =>
      rw [WorkerState.mark?, List.count_append, h.spawned, hw]
      simp
    case died =>
      rw [WorkerState.mark?, List.count_append, h.died, hw]
      simp
    case news =>
      rw [WorkerState.mark?, Mark.news_append, h.news]
      simp [Lane.news, hw, Mark.news, Mark.event?, Mark.lane?]
    case loops => exact fun hrun => absurd hw (h.loops hrun).1
    case unshut => exact h.unshut
    case shut => exact h.shut
    case joined => exact fun _ => rfl
    case within =>
      rintro x ⟨⟩
      trivial

end Career

end AudioRelay
