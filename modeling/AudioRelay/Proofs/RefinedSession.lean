import AudioRelay.Proofs.Refinement
import AudioRelay.Session.Report

/-!
# Refining a position among devices

In a session the two turns of a refinement touch the first device alone, and only its counter. A
device that answers from that counter gives the client's own count back, or zero for a negative one
in playback, so that a refined count is refined to itself.
-/

namespace AudioRelay

namespace Device

/-- The frames that a device counts. -/
def counter : Device → Int
  | scripted d => d.mock.transferred
  | stub d => d.transferred

/-- Whether a device answers a direction's position queries from its counter. -/
def AnswersFromCounter (direction : Direction) : Device → Prop
  | scripted d =>
    d.mock.failPositions = false ∧
      match direction with
      | .input => d.captureAnswer = none
      | .output => d.presentationAnswer = none ∧ d.mock.presentation = none
  | stub _ => True

theorem counter_reset (d : Device) (frames : Int) : (d.reset frames).counter = frames := by
  cases d <;> rfl

theorem AnswersFromCounter.reset {direction : Direction} {d : Device} (frames : Int)
    (h : d.AnswersFromCounter direction) : (d.reset frames).AnswersFromCounter direction := by
  cases d <;> exact h

end Device

/-- The count that a client is told of a device's counter: playback knows no negative counts. -/
def Direction.told : Direction → Int → Int
  | .input, frames => frames
  | .output, frames => max frames 0

/-- A told count is told as it is. -/
theorem Direction.told_told (d : Direction) (frames : Int) :
    d.told (d.told frames) = d.told frames := by
  cases d with
  | input => rfl
  | output => exact Int.max_eq_left (Int.le_max_right frames 0)

/-- A signed counter is folded to itself, or to zero if it is negative. -/
theorem Position.fold_toNat_max {frames : Int} (hword : frames ≤ maxFrames) :
    fold (max frames 0).toNat = max frames 0 := by
  have hnat : ((max frames 0).toNat : Int) = max frames 0 :=
    Int.toNat_of_nonneg (Int.le_max_right frames 0)
  have hrange : max frames 0 ≤ maxFrames := by
    rw [maxFrames] at hword ⊢
    omega
  rw [fold_of_le (hnat.symm ▸ hrange), hnat]

/-- A device that answers from its counter makes a refinement succeed with its count. -/
theorem Device.AnswersFromCounter.refinement {direction : Direction} {d : Device}
    (h : d.AnswersFromCounter direction) (hword : d.counter ≤ Position.maxFrames) (now : Nat) :
    ∃ time, refinement direction (d.position direction now) =
      .located ⟨direction.told d.counter, time⟩ := by
  have hfold := Position.fold_toNat_max hword
  cases d with
  | stub d =>
    cases direction with
    | input => exact ⟨_, rfl⟩
    | output => exact ⟨_, congrArg (fun frames => Answer.located ⟨frames, _⟩) hfold⟩
  | scripted d =>
    obtain ⟨hfails, hanswers⟩ := h
    cases direction with
    | input =>
      refine ⟨Position.clock (now - d.mock.openedAt), ?_⟩
      simp only [position, Scripted.capturePosition, hanswers, Option.getD_none,
        Mock.capturePosition, Mock.position, hfails]
      rfl
    | output =>
      refine ⟨Position.clock (now - d.mock.openedAt), ?_⟩
      simp only [position, Scripted.presentationPosition, hanswers, Option.getD_none,
        Mock.presentationPosition, Mock.position, hfails, Option.map_none]
      exact congrArg (fun frames => Answer.located ⟨frames, _⟩) hfold

namespace Session

variable {s s' s'' : Session} {device : Nat} {d : Device} {lane : Lane} {p : Position}

/-- A change of one device leaves the others alone. -/
theorem rig?_modifyDevice_of_ne {other : Nat} (h : other ≠ device) (change : Device → Device) :
    (s.modifyDevice device change).rig? other = s.rig? other := by
  unfold modifyDevice
  split
  · rfl
  · simp only [rig?, setRig, List.getElem?_set_ne h.symm]

/-- A change of a device leaves the attempt inside it alone. -/
theorem rig?_modifyDevice {rig : Rig} (hrig : s.rig? device = some rig)
    (change : Device → Device) :
    (s.modifyDevice device change).rig? device = some { rig with device := change rig.device } := by
  have hat : s.rigs[device]? = some (some rig) := Option.join_eq_some_iff.mp hrig
  have hlt : device < s.rigs.length := (List.getElem?_eq_some_iff.mp hat).1
  have hchange : s.modifyDevice device change =
      s.setRig device { rig with device := change rig.device } := by
    rw [modifyDevice, hrig]
  rw [hchange, setRig, rig?, List.getElem?_set_self hlt, Option.join_some]

theorem device?_modifyDevice (hd : s.device? device = some d) (change : Device → Device) :
    (s.modifyDevice device change).device? device = some (change d) := by
  obtain ⟨rig, hrig, rfl⟩ := Option.map_eq_some_iff.mp hd
  rw [device?, rig?_modifyDevice hrig]
  rfl

/-- Two sessions in which the client stands at the same point. -/
structure SameClient (s s' : Session) : Prop where
  client : s'.engine.client = s.engine.client
  wake : s'.clientWake = s.clientWake

theorem SameClient.refl (s : Session) : s.SameClient s := ⟨rfl, rfl⟩

theorem SameClient.trans (h : s.SameClient s') (h' : s'.SameClient s'') : s.SameClient s'' :=
  ⟨h'.client.trans h.client, h'.wake.trans h.wake⟩

theorem SameClient.moveWorker {i : Nat} {input : WorkerInput}
    (h : s.moveWorker i input = some s') : s.SameClient s' := by
  obtain ⟨engine, hs, rfl⟩ := Option.map_eq_some_iff.mp h
  exact ⟨(Engine.owners_of_stepWorker hs).1, rfl⟩

theorem SameClient.pauseWorker {i : Nat} {pause : Duration} {input : WorkerInput}
    (h : s.pauseWorker i device d pause input = some s') : s.SameClient s' := by
  unfold Session.pauseWorker at h
  split at h
  · obtain rfl := Option.some.inj h
    exact ⟨rfl, rfl⟩
  · have hmove : (s.setRig device ⟨d, .idle⟩).SameClient s' := .moveWorker h
    exact ⟨hmove.client, hmove.wake⟩

theorem SameClient.witness (s : Session) (i : Nat) (transfer : Transfer)
    (outcome : Outcome (List UInt8)) (d : Device) :
    s.SameClient (s.witness i device transfer outcome d) := by
  cases d <;> exact ⟨rfl, rfl⟩

/-- A worker's turn leaves the client where it is. -/
theorem SameClient.workerTurn {i : Nat} (h : s.workerTurn i = some s') : s.SameClient s' := by
  unfold Session.workerTurn at h
  split at h
  · contradiction
  split at h
  · contradiction
  split at h
  · split at h
    · have hmove := SameClient.moveWorker h
      exact ⟨hmove.client, hmove.wake⟩
    · contradiction
  split at h
  · contradiction
  · exact .moveWorker h
  · exact .pauseWorker h
  · split at h
    split at h
    · contradiction
    · obtain rfl := Option.some.inj h
      exact ⟨rfl, rfl⟩
    · exact (SameClient.witness ..).trans (.pauseWorker h)

theorem SameClient.runWorker (fuel i : Nat) (s : Session) :
    s.SameClient (Session.runWorker fuel i s) := by
  induction fuel generalizing s with
  | zero => exact .refl s
  | succ fuel ih =>
    unfold Session.runWorker
    split
    · exact .refl s
    · rename_i s' hs
      exact (SameClient.workerTurn hs).trans (ih s')

/-- Workers that run until they are stuck leave the client where it is. -/
theorem SameClient.settle (s : Session) : s.SameClient s.settle := by
  unfold Session.settle
  generalize List.range s.engine.lanes.length = lanes
  induction lanes generalizing s with
  | nil => exact .refl s
  | cons i rest ih => exact (SameClient.runWorker s.budget i s).trans (ih _)

theorem engine_modifyDevice (s : Session) (device : Nat) (change : Device → Device) :
    (s.modifyDevice device change).engine = s.engine ∧
      (s.modifyDevice device change).clientWake = s.clientWake ∧
      (s.modifyDevice device change).clock = s.clock := by
  unfold modifyDevice
  split <;> exact ⟨rfl, rfl, rfl⟩

/-- The session when a device has taken over the client's count. -/
def rebased (s : Session) (frames : Int) (device : Nat) : Session :=
  { s.modifyDevice device (·.reset frames) with
    engine := { s.engine with client := .locating } }

/-- The session when the client has the answer to a refinement. -/
def located (s : Session) (result : Except DeviceError Position) : Session :=
  { s with engine := { s.engine with
    client := .answered (refinement s.engine.context.direction result) } }

/-- It makes no difference where the client was before. -/
theorem rebased_client (s : Session) (c : ClientState) (frames : Int) (device : Nat) :
    { s with engine := { s.engine with client := c } }.rebased frames device =
      s.rebased frames device := by
  unfold rebased modifyDevice rig?
  cases (s.rigs[device]?).join <;> rfl

/-- The turn in which the first device takes over the client's count. -/
theorem clientTurn_rebasing (awake : s.clientWake = none)
    (hc : s.engine.client = .rebasing p) (first : s.engine.lanes.head? = some lane) :
    s.clientTurn = some (s.rebased p.frames lane.device) := by
  have hrequest : s.engine.clientRequest = .rebase lane.device p.frames := by
    simp only [Engine.clientRequest, hc, first, Option.map_some, Option.getD_some]
  have hstep : s.engine.step (.client .tick) = some { s.engine with client := .locating } := by
    simp only [Engine.step, Engine.stepClient, hc]
  simp only [clientTurn, awake, hrequest, moveClient, (s.engine_modifyDevice _ _).1, hstep,
    Option.map_some, rebased]

/-- The turn in which the first device tells where it is. -/
theorem clientTurn_locating (awake : s.clientWake = none) (hc : s.engine.client = .locating)
    (first : s.engine.lanes.head? = some lane) (hd : s.device? lane.device = some d) :
    s.clientTurn =
      some (s.located (d.position s.engine.context.direction s.clock.now)) := by
  have hrequest : s.engine.clientRequest = .locate lane.device := by
    simp only [Engine.clientRequest, hc, first, Option.map_some, Option.getD_some]
  have hstep (result : Except DeviceError Position) :
      s.engine.step (.client (.position result)) = some (s.engine.locate result) := by
    simp only [Engine.step, Engine.stepClient, hc]
  simp only [clientTurn, awake, hrequest, hd, Option.bind_some, moveClient, hstep, Option.map_some,
    Engine.locate_eq, located]

/-- A call has turns to spare. -/
theorem budget_ge (s : Session) : 32 ≤ s.budget := by
  unfold budget
  refine Nat.le_mul_of_pos_left 32 (Nat.mul_pos (Nat.mul_pos ?_ ?_) (Nat.succ_pos _))
  · exact Nat.add_pos_right _ (Nat.mul_pos (Nat.succ_pos _) (Nat.succ_pos _))
  · exact Nat.succ_pos _

/-- A client that has its answer has no turn. -/
theorem clientTurn_answered {a : Answer} (awake : s.clientWake = none)
    (hc : s.engine.client = .answered a) : s.clientTurn = none := by
  have hrequest : s.engine.clientRequest = .wait := by rw [Engine.clientRequest, hc]
  simp only [clientTurn, awake, hrequest]

theorem proceed_of_turn (h : s.clientTurn = some s') (fuel : Nat) :
    proceed (fuel + 1) s = proceed fuel s' := by
  rw [proceed, h]

/-- When the client has its answer, the workers still run until they are stuck. -/
theorem proceed_answered {a : Answer} (awake : s.clientWake = none)
    (hc : s.engine.client = .answered a) (fuel : Nat) : proceed (fuel + 1) s = s.settle := by
  have hsame := SameClient.settle s
  have hfree : s.settle.isClientFree = true := by
    simp only [isClientFree, hsame.wake, awake, Engine.answer?, hsame.client, hc]
    rfl
  rw [proceed, clientTurn_answered awake hc]
  exact if_pos hfree

section

variable (free : s.isClientFree = true)

include free

/-- The client of a free session is awake and has an answer. -/
theorem awake_of_isClientFree : s.clientWake = none ∧ s.engine.answer?.isSome = true := by
  simpa [isClientFree] using free

/-- A refinement is over after two turns of the client, and only then workers move. -/
theorem call_refine (first : s.engine.lanes.head? = some lane)
    (hd : s.device? lane.device = some d) (p : Position) :
    s.call (.refine p) = ((s.rebased p.frames lane.device).located
      ((d.reset p.frames).position s.engine.context.direction s.clock.now)).settle := by
  obtain ⟨awake, answered⟩ := awake_of_isClientFree free
  have hactive : s.engine.isIdle = false := by
    rw [Engine.isIdle, List.isEmpty_eq_false_iff_exists_mem]
    exact ⟨lane, List.mem_of_head? first⟩
  have hstep : s.engine.step (.call (.refine p)) =
      some { s.engine with client := .rebasing p } := by
    simp only [Engine.step, answered, if_true, Engine.begin, hactive, Bool.false_eq_true, if_false]
  obtain ⟨-, hwake, hclock⟩ := s.engine_modifyDevice lane.device (·.reset p.frames)
  have hrebase := clientTurn_rebasing
    (s := { s with engine := { s.engine with client := .rebasing p } }) awake rfl first
  rw [rebased_client] at hrebase
  have hlocate := clientTurn_locating (s := s.rebased p.frames lane.device)
    (hwake.trans awake) rfl first (device?_modifyDevice hd _)
  have hnow : (s.rebased p.frames lane.device).clock.now = s.clock.now := congrArg Clock.now hclock
  rw [hnow] at hlocate
  obtain ⟨fuel, hfuel⟩ : ∃ fuel,
      { s with engine := { s.engine with client := .rebasing p } }.budget = fuel + 3 :=
    Nat.exists_eq_add_of_le' (Nat.le_trans (by decide) (budget_ge _))
  have hcall : s.call (.refine p) =
      proceed (fuel + 3) { s with engine := { s.engine with client := .rebasing p } } := by
    rw [call, hstep, ← hfuel]
  have hend (result : Except DeviceError Position) := proceed_answered
    (s := (s.rebased p.frames lane.device).located result) (hwake.trans awake) rfl fuel
  rw [hcall, proceed_of_turn hrebase, proceed_of_turn hlocate, hend]
  rfl

/-- The answer to a refinement is what the first device tells once it counts as the client does. -/
theorem answer_call_refine (first : s.engine.lanes.head? = some lane)
    (hd : s.device? lane.device = some d) (p : Position) :
    (s.call (.refine p)).answer = refinement s.engine.context.direction
      ((d.reset p.frames).position s.engine.context.direction s.clock.now) := by
  rw [call_refine free first hd, answer, Engine.answer?, (SameClient.settle _).client]
  rfl

/-- A refinement with no open device changes nothing but the answer. -/
theorem call_refine_idle (idle : s.engine.isIdle = true) (p : Position) :
    s.call (.refine p) = { s with engine :=
      { s.engine with client := .answered (.failed (.notInitialized "no open devices")) } } := by
  obtain ⟨awake, answered⟩ := awake_of_isClientFree free
  have hstep : s.engine.step (.call (.refine p)) = some { s.engine with
      client := .answered (.failed (.notInitialized "no open devices")) } := by
    simp only [Engine.step, answered, if_true, Engine.begin, idle]
    rfl
  obtain ⟨fuel, hfuel⟩ : ∃ fuel, { s with engine := { s.engine with
      client := .answered (.failed (.notInitialized "no open devices")) } }.budget = fuel + 1 :=
    Nat.exists_eq_add_of_le' (Nat.le_trans (by decide) (budget_ge _))
  have hend := proceed_answered (s := { s with engine := { s.engine with
    client := .answered (.failed (.notInitialized "no open devices")) } }) awake rfl fuel
  have hlanes : s.engine.lanes = [] := List.isEmpty_iff.mp idle
  rw [call, hstep]
  simp only [hfuel, hend]
  rw [settle, hlanes]
  rfl

end

/-- What a refinement does in a session: it is over after two turns of the client, which touch the
first device alone, and in it the counter. -/
structure Refines (s : Session) (p : Position) (device : Nat) (d : Device) (s' : Session) :
    Prop where
  /-- Workers move only when the client has its answer. -/
  call : s.call (.refine p) = s'.settle
  reset : s'.device? device = some (d.reset p.frames)
  others : ∀ other, other ≠ device → s'.rig? other = s.rig? other
  /-- The device tells where it is after it took over the client's count. -/
  answer : (s.call (.refine p)).answer = refinement s.engine.context.direction
    ((d.reset p.frames).position s.engine.context.direction s.clock.now)

theorem refines (free : s.isClientFree = true) (first : s.engine.lanes.head? = some lane)
    (hd : s.device? lane.device = some d) (p : Position) :
    s.Refines p lane.device d ((s.rebased p.frames lane.device).located
      ((d.reset p.frames).position s.engine.context.direction s.clock.now)) where
  call := call_refine free first hd p
  reset := device?_modifyDevice hd _
  others _ hother := rig?_modifyDevice_of_ne hother _
  answer := answer_call_refine free first hd p

/-- A device that answers from its counter tells the client its own count. -/
theorem call_refine_told (free : s.isClientFree = true)
    (first : s.engine.lanes.head? = some lane) (hd : s.device? lane.device = some d)
    (plain : d.AnswersFromCounter s.engine.context.direction)
    (hword : p.frames ≤ Position.maxFrames) :
    ∃ time, (s.call (.refine p)).answer =
      .located ⟨s.engine.context.direction.told p.frames, time⟩ := by
  have hcounter := d.counter_reset p.frames
  obtain ⟨time, htold⟩ := (plain.reset p.frames).refinement (hcounter.symm ▸ hword) s.clock.now
  rw [hcounter] at htold
  exact ⟨time, (answer_call_refine free first hd p).trans htold⟩

end Session

/-- A told count is no more than what can be counted. -/
theorem Direction.told_le (d : Direction) {frames : Int} (h : frames ≤ Position.maxFrames) :
    d.told frames ≤ Position.maxFrames := by
  cases d with
  | input => exact h
  | output =>
    rw [told]
    rw [Position.maxFrames] at h ⊢
    omega

/-- What a client is told of a presentation counter that the first device reports in words. -/
structure Position.IsFoldOf (raw : UInt64) (frames : Int) : Prop where
  /-- No word overflows on the way. -/
  word : frames = (Position.foldWord raw).toInt
  nonneg : 0 ≤ frames
  le : frames ≤ maxFrames
  low : raw.toNat ≤ maxFrames → frames = raw.toNat
  high : maxFrames < raw.toNat → raw.toNat < maxCount → frames = raw.toNat - maxFrames
  top : raw.toNat = maxCount → frames = maxFrames

theorem Position.isFoldOf (raw : UInt64) : IsFoldOf raw (fold raw.toNat) where
  word := (toInt_foldWord raw).symm
  nonneg := (fold_mem_range raw.toNat).1
  le := (fold_mem_range raw.toNat).2
  low := fold_of_le
  high := fold_of_lt
  top h := fold_of_maxCount_le (Nat.le_of_eq h.symm)

/-- The position of a client after its refinement was answered: the one it had if the device could
not tell, what the device told of a capture, and the folded counter of a playback. -/
structure Position.Settles (p : Position) : Prop where
  captureFails : ∀ fault : DeviceError, refinement .input (.error fault) =
    .failed (.invalidOperation s!"capture position: {fault.message}")
  playbackFails : ∀ fault : DeviceError, refinement .output (.error fault) =
    .failed (.invalidOperation s!"presentation position: {fault.message}")
  unchanged : ∀ d fault, (refinement d (.error fault)).position p = p
  captured : ∀ q, (refinement .input (.ok q)).position p = q
  time : ∀ q, ((refinement .output (.ok q)).position p).time = q.time
  folded : ∀ (raw : UInt64) (time : Int),
    Position.IsFoldOf raw ((refinement .output (.ok ⟨raw.toNat, time⟩)).position p).frames

theorem Position.settles (p : Position) : p.Settles where
  captureFails _ := rfl
  playbackFails _ := rfl
  unchanged d fault := by cases d <;> rfl
  captured _ := rfl
  time _ := rfl
  folded raw _ := isFoldOf raw

/-- A refinement asks nothing without devices and the first one alone otherwise, first to take over
the client's count and then where it is; it leaves the position as it is if that fails, and an
answer from the count is the client's own. -/
theorem refinement_is_atomic_and_lossless :
    (∀ b h e₀ p later (e : Engine), Run b (h ++ ⟨e₀, .call (.refine p)⟩ :: later) e →
      (∀ m ∈ later, m.isCall = false) →
      (e₀.isIdle = true →
        e.client = .answered (.failed (.notInitialized "no open devices")) ∧
        ∀ m ∈ later, ∃ level, m.action = .adjust level) ∧
      ∀ lane, e₀.lanes.head? = some lane →
        Refining b.context.direction lane.device p (dealings later) e.client ∧
        (e.answer?.isSome = true ∨ (∃ e', e.step (.client .tick) = some e') ∨
          ∀ result, ∃ e', e.step (.client (.position result)) = some e')) ∧
    (∀ p : Position, p.Settles) ∧
    (∀ (s : Session) p, s.isClientFree = true → s.engine.isIdle = true →
      s.call (.refine p) = { s with engine := { s.engine with
        client := .answered (.failed (.notInitialized "no open devices")) } }) ∧
    ∀ (s : Session) (p : Position) lane (d : Device), s.isClientFree = true →
      s.engine.lanes.head? = some lane →
      s.device? lane.device = some d →
      (∃ s', s.Refines p lane.device d s') ∧
      (d.AnswersFromCounter s.engine.context.direction → p.frames ≤ Position.maxFrames →
        ∃ q, (s.call (.refine p)).answer = .located q ∧
          q.frames = s.engine.context.direction.told p.frames ∧
          ∀ (s' : Session) lane' (d' : Device), s'.isClientFree = true →
            s'.engine.lanes.head? = some lane' →
            s'.device? lane'.device = some d' →
            s'.engine.context.direction = s.engine.context.direction →
            d'.AnswersFromCounter s'.engine.context.direction →
            ∃ time, (s'.call (.refine q)).answer = .located ⟨q.frames, time⟩) := by
  refine ⟨?_, Position.settles, ?_, ?_⟩
  · intro b h e₀ p later e run alone
    refine ⟨fun idle => run.refines_idle idle alone, fun lane first => ?_⟩
    have stage := (run.refining first alone).1
    exact ⟨stage, stage.goes_on⟩
  · intro s p free idle
    exact Session.call_refine_idle free idle p
  · intro s p lane d free first hd
    refine ⟨⟨_, Session.refines free first hd p⟩, ?_⟩
    intro plain hword
    obtain ⟨time, htold⟩ := Session.call_refine_told free first hd plain hword
    refine ⟨_, htold, rfl, ?_⟩
    intro s' lane' d' free' first' hd' hdirection plain'
    obtain ⟨time', hagain⟩ := Session.call_refine_told free' first' hd' plain'
      (p := ⟨s.engine.context.direction.told p.frames, time⟩) (Direction.told_le _ hword)
    rw [hdirection, Direction.told_told] at hagain
    exact ⟨time', hagain⟩

/-- A playback that is not started refuses a refinement. One of two null devices refines -5 frames
while a worker moves, first to what a counter of all ones is folded to and then, as the devices
count, to no frames and again to no frames. -/
theorem refines_before_and_after_a_start :
    (∃ h e₀ e, Run (.small .output [.attached 0 0 .output])
        (h ++ [⟨e₀, .call (.refine ⟨-5, 1⟩)⟩]) e ∧
      e.client = .answered (.failed (.notInitialized "no open devices")) ∧
      ((Session.untimed e .stubs []).call (.refine ⟨-5, 1⟩)).engine = e) ∧
    ∃ h e₀ later e, Run (.small .output [.attached 0 0 .output, .attached 0 1 .output])
        (h ++ ⟨e₀, .call (.refine ⟨-5, 1⟩)⟩ :: later) e ∧ e₀.isIdle = false ∧
      Refining .output 0 ⟨-5, 1⟩ (dealings later) e.client ∧
      e.answer? = some (.located ⟨0x7fffffffffffffff, 7⟩) ∧
      ∃ (s : Session) (q : Position), s.engine = e ∧
        (s.call (.refine ⟨-5, 1⟩)).answer = .located q ∧ q.frames = 0 ∧
        ∃ time, (s.call (.refine q)).answer = .located ⟨0, time⟩ := by
  obtain ⟨hruns, -, hidle, hactive⟩ := refinement_is_atomic_and_lossless
  constructor
  · have hwatch : (Blueprint.small .output [.attached 0 0 .output]).watch []
        (.call (.refine ⟨-5, 1⟩)) [] (fun e₀ later e =>
          (e₀.isIdle, later.length, e.isIdle, e.answer?.isSome)) = some (true, 0, true, true) := by
      decide
    obtain ⟨h, e₀, later, e, run, hseen⟩ := Run.of_watch hwatch
    simp only [Prod.mk.injEq] at hseen
    obtain ⟨idle₀, hnone, idle, answered⟩ := hseen
    obtain rfl := List.length_eq_zero_iff.mp hnone
    have hclient := ((hruns _ _ _ _ _ _ run (List.forall_mem_nil _)).1 idle₀).1
    refine ⟨h, e₀, e, run, hclient, ?_⟩
    rw [hidle (Session.untimed e .stubs []) ⟨-5, 1⟩ answered idle, ← hclient]
    rfl
  · have hwatch : (Blueprint.small .output [.attached 0 0 .output, .attached 0 1 .output]).watch
        [.call .start, .client (.opened (.ok 0)), .client (.opened (.ok 1)), .client .tick,
          .client (.spawned (.ok ())), .client .tick, .client .tick, .client (.spawned (.ok ())),
          .client .tick, .client .tick, .client .tick]
        (.call (.refine ⟨-5, 1⟩))
        [.client .tick, .worker 0 .tick, .client (.position (.ok ⟨0xffffffffffffffff, 7⟩))]
        (fun e₀ later e => (e₀.isIdle, e₀.lanes.head?.map (·.device), later.all fun m => !m.isCall,
          e.lanes.head?.map (·.device), e.answer?)) =
        some (false, some 0, true, some 0, some (.located ⟨0x7fffffffffffffff, 7⟩)) := by
      decide
    obtain ⟨h, e₀, later, e, run, hseen⟩ := Run.of_watch hwatch
    simp only [Prod.mk.injEq] at hseen
    obtain ⟨active, hdevice₀, hcalls, hdevice, answered⟩ := hseen
    have alone : ∀ m ∈ later, m.isCall = false := by simpa using hcalls
    obtain ⟨lane₀, first₀, howner₀⟩ := Option.map_eq_some_iff.mp hdevice₀
    obtain ⟨lane, first, howner⟩ := Option.map_eq_some_iff.mp hdevice
    have stage := ((hruns _ _ _ _ _ _ run alone).2 lane₀ first₀).1
    rw [howner₀] at stage
    have output : e.context.direction = .output := by rw [run.blueprint.1]; rfl
    obtain ⟨s, hs⟩ : ∃ s : Session, s = { Session.untimed e .stubs [] with
      rigs := [some ⟨.stub (Stub.create "hw:0,0" e.pcm 0), .idle⟩,
        some ⟨.stub (Stub.create "hw:0,1" e.pcm 0), .idle⟩] } := ⟨_, rfl⟩
    have hengine : s.engine = e := congrArg Session.engine hs
    have free : s.isClientFree = true := by
      rw [Session.isClientFree, hengine, answered, hs]
      rfl
    have hfirst : s.engine.lanes.head? = some lane := hengine ▸ first
    have hd : s.device? lane.device = some (.stub (Stub.create "hw:0,0" e.pcm 0)) := by
      rw [howner, hs]
      rfl
    obtain ⟨q, htold, hzero, hagain⟩ :=
      (hactive s ⟨-5, 1⟩ lane _ free hfirst hd).2 trivial (by decide)
    obtain ⟨time, hfixed⟩ := hagain s lane _ free hfirst hd rfl trivial
    rw [hengine, output] at hzero
    rw [hzero] at hfixed
    exact ⟨h, e₀, later, e, run, active, stage, answered, s, q, hengine, htold, hzero, time, hfixed⟩

end AudioRelay
