import AudioRelay.Proofs.Balance
import AudioRelay.Proofs.Capture

/-!
# Frames and events

A playback transfer places each of its frames once for every lane: in the pipe, or as one that the
listener is told was dropped. A capture transfer fills its buffer with frames from the pipe and
with frames that the listener is told are silence. So the frames of the transfers that returned
are those that went through the pipes and those that were told of, but for what a transfer under
way has placed already.
-/

namespace AudioRelay

/-- The frames that a transfer under way has placed, counted for each lane. -/
def ClientState.placed (lanes : Nat) : ClientState → Nat
  | sending i p => i * p.frames
  | countingDrop i missing p => (i + 1) * p.frames - missing
  | reportingDrop i missing p => (i + 1) * p.frames - missing
  | countingSilence missing p => p.frames - missing
  | reportingSilence missing p => p.frames - missing
  | askingLatency i p => (i + 1) * p.frames
  | countingTransfer p => lanes * p.frames
  | _ => 0

/-- The frames that a transfer under way has placed, counted for each bound device. -/
def Engine.placed (e : Engine) : Nat := e.client.placed e.lanes.length

/-- The frames of a transfer, counted for each device that was bound. -/
def Completion.total (c : Completion) : Nat := c.frames * c.devices

/-- The whole frames in some buffers. -/
def countFrames (frameSize : Nat) (buffers : List (List UInt8)) : Nat :=
  (buffers.map (·.length / frameSize)).sum

theorem countFrames_append (frameSize : Nat) (buffers later : List (List UInt8)) :
    countFrames frameSize (buffers ++ later) =
      countFrames frameSize buffers + countFrames frameSize later := by
  rw [countFrames, List.map_append, List.sum_append]
  rfl

/-- The bytes that went between transfers and the pipe of a lane: what the pipe accepted in
playback, what was returned from it in capture. -/
def Deed.moved (d : Direction) (frameSize : Nat) (ds : List Deed) : List (List UInt8) :=
  match d with
  | .output => accepted frameSize ds
  | .input => returned frameSize ds

theorem Deed.moved_append (d : Direction) (frameSize : Nat) (ds more : List Deed) :
    moved d frameSize (ds ++ more) = moved d frameSize ds ++ moved d frameSize more := by
  cases d with
  | output => exact accepted_append _ _ _
  | input => exact returned_append _ _ _

/-- The frames that a moment moves between a transfer and the pipes of the first `n` lanes. -/
def Moment.framesMoved (n : Nat) (m : Moment) : Nat :=
  ∑ i ∈ Finset.range n, countFrames m.engine.context.frameSize
    (Deed.moved m.engine.context.direction m.engine.context.frameSize (m.deed? i).toList)

section

variable {frameSize n : Nat} {m : Moment}

/-- A write takes no more frames than there are in its data. -/
theorem Pipe.write_le_framesIn (p : Pipe) (data : List UInt8) :
    (p.write data).1 ≤ p.framesIn data.length := by
  unfold write
  split
  · exact Nat.zero_le _
  · exact Nat.min_le_left _ _

/-- Frames that the pipe accepted are as many as it said. -/
theorem countFrames_accepted {bytes : List UInt8} {asked frames : Nat} (hf : 0 < frameSize)
    (enough : frames * frameSize ≤ bytes.length) :
    countFrames frameSize (Deed.accepted frameSize [.sent bytes asked frames]) = frames := by
  have hone : Deed.accepted frameSize [.sent bytes asked frames] =
      [bytes.take (frames * frameSize)] := rfl
  rw [hone, countFrames, List.map_singleton, List.sum_singleton, List.length_take,
    Nat.min_eq_left enough, Nat.mul_div_cancel _ hf]

/-- A moment that moves no frames on any lane. -/
theorem Moment.framesMoved_eq_zero
    (quiet : ∀ i d, m.deed? i = some d → ∀ dir frameSize, Deed.moved dir frameSize [d] = []) :
    m.framesMoved n = 0 := by
  apply Finset.sum_eq_zero
  intro i _
  cases hd : m.deed? i with
  | none =>
    rw [Option.toList_none]
    cases m.engine.context.direction <;> rfl
  | some d =>
    rw [Option.toList_some, quiet i d hd]
    rfl

/-- A moment that moves frames on one lane alone. -/
theorem Moment.framesMoved_eq_single {j : Nat} {d : Deed} (hj : j < n) (here : m.deed? j = some d)
    (others : ∀ i, i ≠ j → m.deed? i = none) :
    m.framesMoved n = countFrames m.engine.context.frameSize
      (Deed.moved m.engine.context.direction m.engine.context.frameSize [d]) := by
  rw [framesMoved, Finset.sum_eq_single j, here, Option.toList_some]
  · intro i _ hne
    rw [others i hne, Option.toList_none]
    cases m.engine.context.direction <;> rfl
  · intro hout
    exact absurd (Finset.mem_range.mpr hj) hout

end

namespace Engine

variable {e e' : Engine} {asked : Option Call} {gain : Option Single}
  {opened : List (DeviceProfile × Nat)}

/-- A capture stream that has lanes has one. -/
theorem Sound.length_lanes_of_input (sound : e.Sound opened) (input : e.context.direction = .input)
    (hne : e.lanes ≠ []) : e.lanes.length = 1 := by
  have hlength := sound.length_lanes hne
  have hpos : 0 < e.lanes.length := List.length_pos_iff.mpr hne
  simp only [candidates, input, List.length_take] at hlength
  omega

/-- The client moves frames only where it writes to a pipe or reads from one. -/
theorem framesMoved_of_other {input : ClientInput} {n : Nat}
    (sends : ∀ i p, e.client ≠ .sending i p) (receives : ∀ p, e.client ≠ .receiving p) :
    (Moment.mk e (.client input)).framesMoved n = 0 := by
  apply Moment.framesMoved_eq_zero
  intro i d hd dir frameSize
  cases input with
  | tick =>
    simp only [Moment.deed?, clientDeed?] at hd
    split at hd
    · split at hd
      · contradiction
      · cases hd
        cases dir <;> rfl
    · cases hd
      cases dir <;> rfl
    · rename_i j p hc
      exact absurd hc (sends j p)
    · rename_i p hc
      exact absurd hc (receives p)
    · contradiction
  | _ => contradiction

/-- A playback transfer places its frames on the lane that it writes to, as far as the pipe takes
them. -/
theorem framesMoved_of_sending {i n : Nat} {p : Passage} {lane : Lane}
    (sound : e.Sound opened) (output : e.context.direction = .output)
    (carries : p.Made e.context asked gain) (hc : e.client = .sending i p)
    (hl : e.lanes[i]? = some lane) (hi : i < n) :
    (Moment.mk e (.client .tick)).framesMoved n = (lane.pipe.write p.moved).1 ∧
      (lane.pipe.write p.moved).1 ≤ p.frames := by
  have hpos := sound.frameSize_pos
  obtain ⟨m, hb⟩ := sound.bound (List.ne_nil_of_mem (List.mem_of_getElem? hl))
  obtain ⟨-, hwidth⟩ := hb.pipes lane (List.mem_of_getElem? hl)
  have hsize : lane.pipe.frameSize = e.context.frameSize := hwidth.trans sound.plan_eq.2
  have hle : (lane.pipe.write p.moved).1 ≤ p.frames := by
    have htook := lane.pipe.write_le_framesIn p.moved
    rwa [Pipe.framesIn, hsize, carries.length_moved, Nat.mul_div_cancel _ hpos] at htook
  refine ⟨?_, hle⟩
  have here : (Moment.mk e (.client .tick)).deed? i =
      some (.sent p.moved p.frames (lane.pipe.write p.moved).1) := by
    simp only [Moment.deed?, clientDeed?, hc, if_true, hl, Option.map_some]
  rw [Moment.framesMoved_eq_single hi here]
  · dsimp only
    rw [output]
    apply countFrames_accepted hpos
    rw [carries.length_moved]
    exact Nat.mul_le_mul_right _ hle
  · intro j hne
    simp only [Moment.deed?, clientDeed?, hc]
    exact if_neg hne.symm

/-- A capture transfer gets the frames that it reads from the pipe. -/
theorem framesMoved_of_receiving {n : Nat} {p : Passage} {lane : Lane} {rest : List Lane}
    (sound : e.Sound opened) (input : e.context.direction = .input)
    (carries : p.Raw e.context asked) (hc : e.client = .receiving p) (hl : e.lanes = lane :: rest)
    (hn : 0 < n) :
    (Moment.mk e (.client .tick)).framesMoved n =
        (lane.pipe.read p.moved.length).1.length / e.context.frameSize ∧
      (lane.pipe.read p.moved.length).1.length / e.context.frameSize ≤ p.frames := by
  have hpos := sound.frameSize_pos
  have hlane : e.lanes[0]? = some lane := by rw [hl]; rfl
  obtain ⟨m, hb⟩ := sound.bound (List.ne_nil_of_mem (List.mem_of_getElem? hlane))
  obtain ⟨-, hwidth⟩ := hb.pipes lane (List.mem_of_getElem? hlane)
  have hsize : lane.pipe.frameSize = e.context.frameSize := hwidth.trans sound.plan_eq.2
  have hwhole := lane.pipe.frameSize_dvd_length_read p.moved.length
  have hroom := lane.pipe.length_read_le p.moved.length
  rw [hsize] at hwhole
  rw [carries.length_moved] at hroom hwhole ⊢
  have here : (Moment.mk e (.client .tick)).deed? 0 = some (.ofRead e.context.frameSize p.frames
      (p.frames * e.context.frameSize)
      (lane.pipe.read (p.frames * e.context.frameSize)).1) := by
    simp only [Moment.deed?, clientDeed?, hc, if_true, hlane, Option.map_some,
      carries.length_moved]
  constructor
  · rw [Moment.framesMoved_eq_single hn here]
    · dsimp only
      rw [input]
      have hback := View.returned_ofRead hwhole hroom
      rw [Deed.moved, hback, countFrames, List.map_singleton, List.sum_singleton]
    · intro j hne
      simp only [Moment.deed?, clientDeed?, hc]
      exact if_neg hne
  · calc (lane.pipe.read (p.frames * e.context.frameSize)).1.length / e.context.frameSize
        ≤ p.frames * e.context.frameSize / e.context.frameSize := Nat.div_le_div_right hroom
      _ = p.frames := Nat.mul_div_cancel _ hpos

/-- A playback transfer that has met every lane moves no more frames. -/
theorem framesMoved_of_sent_all {i n : Nat} {p : Passage} (hc : e.client = .sending i p)
    (hl : e.lanes[i]? = none) : (Moment.mk e (.client .tick)).framesMoved n = 0 := by
  apply Moment.framesMoved_eq_zero
  intro j d hd
  simp only [Moment.deed?, clientDeed?, hc] at hd
  split at hd
  · rename_i hij
    rw [← hij, hl] at hd
    contradiction
  · contradiction

/-- A playback transfer has placed its frames on one lane more, but for those that the pipe did not
take. -/
theorem placed_sent {i frames : Nat} {p : Passage} {lane : Lane} {pipe : Pipe}
    (sound : e.Sound opened) (output : e.context.direction = .output)
    (carries : p.Made e.context asked gain) (hc : e.client = .sending i p)
    (hl : e.lanes[i]? = some lane) (hw : lane.pipe.write p.moved = (frames, pipe)) :
    e.placed + (Moment.mk e (.client .tick)).framesMoved e.candidates.length =
      ClientState.placed e.lanes.length
        (if frames < p.frames then .countingDrop i (p.frames - frames) p
        else .askingLatency i p) := by
  have hi : i < e.lanes.length := (List.getElem?_eq_some_iff.mp hl).1
  have hcount := sound.length_lanes (List.ne_nil_of_length_pos (by omega))
  obtain ⟨hmoved, hle⟩ := framesMoved_of_sending sound output carries hc hl (hcount ▸ hi)
  rw [hw] at hmoved hle
  rw [hmoved, placed, hc]
  split
  · simp only [ClientState.placed, Nat.succ_mul]
    omega
  · simp only [ClientState.placed, Nat.succ_mul]
    omega

/-- A capture transfer has placed the frames that it got from the pipe. -/
theorem placed_received {frames : Nat} {p q : Passage} {lane : Lane} {rest : List Lane}
    {bytes : List UInt8} {pipe : Pipe} (sound : e.Sound opened)
    (input : e.context.direction = .input) (carries : p.Raw e.context asked)
    (hc : e.client = .receiving p) (hl : e.lanes = lane :: rest)
    (hr : lane.pipe.read p.moved.length = (bytes, pipe))
    (hf : frames = bytes.length / e.context.frameSize) (hq : q.frames = p.frames) :
    e.placed + (Moment.mk e (.client .tick)).framesMoved e.candidates.length =
      ClientState.placed e.lanes.length
        (if frames < p.frames then .countingSilence (p.frames - frames) q
        else .askingLatency 0 q) := by
  have hne : e.lanes ≠ [] := by
    rw [hl]
    exact List.cons_ne_nil _ _
  have hn : 0 < e.candidates.length := by
    rw [← sound.length_lanes hne]
    exact List.length_pos_iff.mpr hne
  obtain ⟨hmoved, hle⟩ := framesMoved_of_receiving sound input carries hc hl hn
  rw [hr, ← hf] at hmoved hle
  rw [hmoved, placed, hc]
  split
  · simp only [ClientState.placed]
    omega
  · simp only [ClientState.placed]
    omega

/-- What an action of the client moves and tells of is placed, until the transfer returns. -/
theorem placed_client {input : ClientInput} (sound : e.Sound opened)
    (fits : e.client.Fits e.context.direction e.lanes.length)
    (carries : e.client.Carries e.context asked gain) (hs : e.step (.client input) = some e') :
    e.placed + (Moment.mk e (.client input)).framesMoved e.candidates.length +
        lostFrames e.context.direction
          ((Moment.mk e (.client input)).telling?.toList.map (·.event)) =
      ((Moment.mk e (.client input)).returned?.toList.map Completion.total).sum + e'.placed := by
  rw [returned?_client carries hs]
  cases clientStep_of_stepClient hs with
  | @sent i p lane frames pipe hc hl hw =>
    rw [hc] at carries fits
    have hplaced := placed_sent sound fits.1 carries hc hl hw
    rw [hplaced, placed, List.length_set]
    simp [Moment.telling?, clientTelling?, clientReturns?, hc, lostFrames]
  | @received p lane rest bytes pipe frames q hc hl hr hf hq =>
    rw [hc] at carries fits
    have hframes : q.frames = p.frames := by rw [hq]
    have hplaced := placed_received sound fits carries hc hl hr hf hframes
    have hlength : e.lanes.length = rest.length + 1 := congrArg List.length hl
    rw [hplaced, placed, List.length_cons, hlength]
    simp [Moment.telling?, clientTelling?, clientReturns?, hc, lostFrames]
  | @allSent i p hc hl =>
    rw [hc] at fits
    have hall : e.lanes.length = i := by
      rw [List.getElem?_eq_none_iff] at hl
      have hle := fits.2
      omega
    rw [framesMoved_of_sent_all hc hl]
    simp only [placed, hc, Moment.telling?, clientTelling?, clientReturns?, ClientState.placed,
      Option.toList_none, List.map_nil, lostFrames, List.sum_nil, hall]
    omega
  | @dropReported i missing p lane hc hl =>
    rw [hc] at carries fits
    obtain ⟨-, -, hle⟩ := carries
    rw [framesMoved_of_other (by simp [hc]) (by simp [hc])]
    simp only [placed, hc, Moment.telling?, clientTelling?, clientReturns?, ClientState.placed, hl,
      Option.map_some, Option.toList_some, Option.toList_none, List.map_singleton, List.map_nil,
      lostFrames, List.sum_singleton, List.sum_nil, fits.1, Event.lost, Nat.succ_mul]
    omega
  | @silenceReported missing p hc =>
    rw [hc] at carries fits
    obtain ⟨-, -, hle⟩ := carries
    rw [framesMoved_of_other (by simp [hc]) (by simp [hc])]
    simp only [placed, hc, Moment.telling?, clientTelling?, clientReturns?, ClientState.placed,
      Option.toList_some, Option.toList_none, List.map_singleton, List.map_nil,
      lostFrames, List.sum_singleton, List.sum_nil, fits.1, Event.lost]
    omega
  | @heralded i lane hc hl =>
    rw [framesMoved_of_other (by simp [hc]) (by simp [hc])]
    cases hd : e.context.direction <;>
      simp [placed, hc, Moment.telling?, clientTelling?, clientReturns?, ClientState.placed, hl,
        lostFrames, Event.lost]
  | @latencyTold i ms p hc =>
    rw [hc] at fits
    rw [framesMoved_of_other (by simp [hc]) (by simp [hc])]
    simp only [placed, hc, Moment.telling?, clientReturns?, afterLatency]
    cases hd : e.context.direction with
    | output => simp [ClientState.placed, lostFrames]
    | input =>
      have hi := fits.1
      have hone := sound.length_lanes_of_input hd (List.ne_nil_of_length_pos (by omega))
      have hzero := fits.2 hd
      simp [ClientState.placed, lostFrames, hone, hzero]
  | @transferred p hc =>
    rw [framesMoved_of_other (by simp [hc]) (by simp [hc])]
    simp [placed, hc, Moment.telling?, clientTelling?, clientReturns?, ClientState.placed,
      lostFrames, Completion.total, answer, Nat.mul_comm]
  | located hc =>
    rw [framesMoved_of_other (by simp [hc]) (by simp [hc])]
    simp only [placed, hc, Moment.telling?, clientReturns?, locate]
    split <;> rfl
  | opened hc | refused hc | unserved hc | bound hc _ | spawned hc _ | spawnRefused hc _
  | staffed hc _ | enrolled hc | scaled hc | dropCounted hc | silenceCounted hc | rebased hc
  | drained hc | halted hc | sealed hc | stopped hc _ | allStopped hc _ | joined hc _ _
  | allJoined hc _ | released hc =>
    rw [framesMoved_of_other (by simp [hc]) (by simp [hc])]
    simp [placed, hc, Moment.telling?, clientTelling?, clientReturns?, ClientState.placed,
      lostFrames, answer, tearDown]

/-- Nothing is placed between calls. -/
theorem placed_of_answered (answered : e.answer?.isSome = true) : e.placed = 0 := by
  obtain ⟨a, hc⟩ := answered_of_isSome answered
  rw [placed, hc]
  rfl

/-- A call begins with nothing placed. -/
theorem placed_begin (c : Call) : (e.begin c).placed = 0 := by
  cases c with
  | transfer buffer frames =>
    simp only [begin, beginTransfer]
    split
    · rfl
    · split
      · rfl
      · split <;> rfl
  | negotiate | start | refine | drain | standby =>
    simp only [begin]
    split <;> rfl
  | setGain | pause | flush => rfl

/-- A worker moves no frames between transfers and pipes. -/
theorem framesMoved_worker (i n : Nat) (input : WorkerInput) :
    (Moment.mk e (.worker i input)).framesMoved n = 0 := by
  apply Moment.framesMoved_eq_zero
  intro j d hd dir frameSize
  simp only [Moment.deed?] at hd
  split at hd
  · obtain ⟨lane, -, hlane⟩ := Option.bind_eq_some_iff.mp hd
    obtain ⟨w, -, hdeed⟩ := Option.bind_eq_some_iff.mp hlane
    rcases WorkerState.deed?_cases hdeed with ⟨chunk, rfl⟩ | ⟨transfer, outcome, rfl⟩
    · cases dir <;> rfl
    · cases dir <;> rfl
  · contradiction

/-- What a worker tells the listener is of no lost frames. -/
theorem lostFrames_worker (d : Direction) (i : Nat) (input : WorkerInput) :
    lostFrames d ((Moment.mk e (.worker i input)).telling?.toList.map (·.event)) = 0 := by
  have hlost : ∀ t, (Moment.mk e (.worker i input)).telling? = some t → t.event.lost d = 0 := by
    intro t ht
    cases input with
    | settled outcome => contradiction
    | tick =>
      simp only [Moment.telling?] at ht
      obtain ⟨lane, -, hlane⟩ := Option.bind_eq_some_iff.mp ht
      obtain ⟨event, hevent, rfl⟩ := Option.map_eq_some_iff.mp hlane
      obtain ⟨w, -, htold⟩ := Option.bind_eq_some_iff.mp hevent
      cases w <;> cases htold <;> cases d <;> rfl
  cases ht : (Moment.mk e (.worker i input)).telling? with
  | none => rfl
  | some t =>
    rw [Option.toList_some, List.map_singleton, lostFrames, List.map_singleton, List.sum_singleton]
    exact hlost t ht

/-- What an action moves and tells of is placed, until the transfer returns. -/
theorem placed_step {a : Action} (sound : e.Sound opened)
    (fits : e.client.Fits e.context.direction e.lanes.length)
    (carries : e.client.Carries e.context asked gain) (hs : e.step a = some e') :
    e.placed + (Moment.mk e a).framesMoved e.candidates.length +
        lostFrames e.context.direction ((Moment.mk e a).telling?.toList.map (·.event)) =
      ((Moment.mk e a).returned?.toList.map Completion.total).sum + e'.placed := by
  cases a with
  | call c =>
    obtain ⟨ha, rfl⟩ := step_call_eq_some hs
    have hquiet : (Moment.mk e (.call c)).framesMoved e.candidates.length = 0 :=
      Moment.framesMoved_eq_zero fun i d hd => by contradiction
    rw [placed_of_answered ha, placed_begin, hquiet]
    rfl
  | client input => exact placed_client sound fits carries hs
  | worker i input =>
    have hsame : e'.placed = e.placed := by
      obtain ⟨_, _, _, _, _, counters, journal, rfl⟩ := stepWorker_eq_some hs
      rw [placed, placed, List.length_set]
    rw [hsame, framesMoved_worker, lostFrames_worker]
    exact (Nat.zero_add _).symm
  | adjust level =>
    cases hs
    have hquiet : (Moment.mk e (.adjust level)).framesMoved e.candidates.length = 0 :=
      Moment.framesMoved_eq_zero fun i d hd => by contradiction
    rw [hquiet]
    exact (Nat.zero_add _).symm

end Engine

namespace Run

variable {b : Blueprint} {h : List Moment} {e : Engine}

/-- The frames of the transfers that returned, counted for each device, and those that the
transfer under way has placed are those that went between transfers and pipes and those that the
listener was told were lost, or would have been. -/
theorem frames_balance (run : Run b h e) :
    ((completions h).map Completion.total).sum + e.placed =
      (∑ i ∈ Finset.range b.candidates.length, countFrames b.context.frameSize
          (Deed.moved b.context.direction b.context.frameSize (deeds i h))) +
        lostFrames b.context.direction ((tellings h).map (·.event)) := by
  induction run with
  | built hb =>
    obtain ⟨pcm, -, rfl⟩ := Engine.build_eq_ok hb
    have hnone (i : Nat) : countFrames b.context.frameSize
        (Deed.moved b.context.direction b.context.frameSize (deeds i [])) = 0 := by
      cases b.context.direction <;> rfl
    rw [Finset.sum_eq_zero fun i _ => hnone i]
    rfl
  | @snoc h e e' a run hs ih =>
    have hcarries : e.client.Carries e.context (lastCall? h) (appliedGain? h) :=
      run.blueprint.1 ▸ run.carries
    have hstep := Engine.placed_step run.sound run.fits hcarries hs
    have htellings : tellings [⟨e, a⟩] = (Moment.mk e a).telling?.toList :=
      (tellings_cons _ _).trans (List.append_nil _)
    have hmoved : (∑ i ∈ Finset.range b.candidates.length, countFrames b.context.frameSize
        (Deed.moved b.context.direction b.context.frameSize (deeds i (h ++ [⟨e, a⟩])))) =
        (∑ i ∈ Finset.range b.candidates.length, countFrames b.context.frameSize
          (Deed.moved b.context.direction b.context.frameSize (deeds i h))) +
          (Moment.mk e a).framesMoved e.candidates.length := by
      rw [Moment.framesMoved, run.candidates_eq, ← Finset.sum_add_distrib]
      apply Finset.sum_congr rfl
      intro i _
      rw [deeds_snoc, Deed.moved_append, countFrames_append, run.blueprint.1]
    rw [run.blueprint.1] at hstep
    rw [hmoved, completions_snoc, tellings_append, htellings, List.map_append, List.map_append,
      List.sum_append, lostFrames_append]
    omega

/-- A transfer returns to the call that was made last, with the frames that the call asked for. -/
theorem returned?_eq_some {past rest : List Moment} {m : Moment} {c : Completion}
    (run : Run b (past ++ m :: rest) e) (returned : m.returned? = some c) :
    ∃ p buffer, m.engine.client = .countingTransfer p ∧ c = ⟨p.frames, m.engine.lanes.length⟩ ∧
      lastCall? past = some (.transfer buffer c.frames) := by
  obtain ⟨run', e', hs⟩ := run.before
  obtain ⟨e₀, a⟩ := m
  have hcarries := run'.carries
  rw [← run'.blueprint.1] at hcarries
  cases a with
  | client input =>
    rw [Engine.returned?_client hcarries hs] at returned
    unfold Engine.clientReturns? at returned
    split at returned
    · rename_i p hc
      cases returned
      rw [hc] at hcarries
      obtain ⟨buffer, hasked, -⟩ := hcarries
      exact ⟨p, buffer, hc, rfl, hasked⟩
    · contradiction
  | _ => contradiction

/-- Of a capture stream one device is bound when a transfer returns. -/
theorem devices_of_input (run : Run b h e) (input : b.context.direction = .input) {c : Completion}
    (hc : c ∈ completions h) : c.devices = 1 := by
  obtain ⟨m, hm, hreturned⟩ := List.mem_filterMap.mp hc
  obtain ⟨past, rest, rfl⟩ := List.append_of_mem hm
  obtain ⟨p, buffer, hclient, rfl, -⟩ := run.returned?_eq_some hreturned
  have run' := run.before.1
  have hst := run'.sound.stage
  rw [hclient] at hst
  exact run'.sound.length_lanes_of_input (run'.blueprint.1 ▸ input) hst.1.nonempty

/-- The listener is told of lost frames only if some were lost. -/
theorem told_lost_pos (run : Run b h e) {t : Telling} (ht : t ∈ tellings h) :
    (∀ id, t.event ≠ .framesDropped id 0) ∧ t.event ≠ .silenceInserted 0 := by
  obtain ⟨m, hm, htold⟩ := List.mem_filterMap.mp ht
  obtain ⟨past, rest, rfl⟩ := List.append_of_mem hm
  have hcarries := run.before.1.carries
  unfold Moment.telling? at htold
  split at htold
  · unfold Engine.clientTelling? at htold
    split at htold
    · obtain ⟨lane, -, rfl⟩ := Option.map_eq_some_iff.mp htold
      exact ⟨fun id => by simp, by simp⟩
    · rename_i i missing p hc
      obtain ⟨lane, -, rfl⟩ := Option.map_eq_some_iff.mp htold
      rw [hc] at hcarries
      obtain ⟨-, hpos, -⟩ := hcarries
      exact ⟨fun id => by simp; omega, by simp⟩
    · rename_i missing p hc
      cases htold
      rw [hc] at hcarries
      obtain ⟨-, hpos, -⟩ := hcarries
      exact ⟨fun id => by simp, by simp; omega⟩
    · contradiction
  · obtain ⟨lane, -, hlane⟩ := Option.bind_eq_some_iff.mp htold
    obtain ⟨event, hevent, rfl⟩ := Option.map_eq_some_iff.mp hlane
    obtain ⟨w, -, hw⟩ := Option.bind_eq_some_iff.mp hevent
    cases w <;> cases hw <;> exact ⟨fun id => by simp, by simp⟩
  · contradiction

/-- Whenever no thread is between an addition to a counter and the event that follows it, the
counters of dropped and of silent frames are the sums over the events that the listener was told
of, those of device failures and of started workers are the numbers of such events, and that of
transfers is the number of transfer calls that returned, each with the frames that it was asked
for; all of them wrap at 64 bits. No event tells of no lost frames. The frames of the transfers
that returned, once for every bound device, are those that pipes accepted and those that were
dropped; in capture they are those that were returned from the pipe and those that are silence. A
transfer under way adds the frames that it has placed so far, and between calls there are none. -/
theorem balanced (run : Run b h e) (listens : b.isListening = true) (told : e.hasTold = true) :
    e.counters.dropped = UInt64.ofNat (lostFrames .output (e.journal.map (·.2))) ∧
      e.counters.silence = UInt64.ofNat (lostFrames .input (e.journal.map (·.2))) ∧
      e.counters.deviceErrors = UInt64.ofNat ((e.journal.map (·.2)).countP Event.isFailure) ∧
      e.counters.workersStarted =
        UInt64.ofNat ((e.journal.map (·.2)).countP Event.isWorkerStarted) ∧
      e.counters.transfers = UInt64.ofNat (completions h).length ∧
      (∀ past m rest c, h = past ++ m :: rest → m.returned? = some c →
        ∃ buffer, lastCall? past = some (.transfer buffer c.frames)) ∧
      (∀ event ∈ e.journal.map (·.2),
        (∀ id, event ≠ .framesDropped id 0) ∧ event ≠ .silenceInserted 0) ∧
      (b.context.direction = .output →
        ((completions h).map Completion.total).sum + e.placed =
          (∑ i ∈ Finset.range b.serving.length,
            countFrames b.context.frameSize (Deed.accepted b.context.frameSize (deeds i h))) +
            lostFrames .output (e.journal.map (·.2))) ∧
      (b.context.direction = .input →
        ((completions h).map (·.frames)).sum + e.placed =
          countFrames b.context.frameSize (Deed.returned b.context.frameSize (deeds 0 h)) +
            lostFrames .input (e.journal.map (·.2))) ∧
      (e.answer?.isSome = true → e.placed = 0) := by
  have hcounters := run.counters_agree listens told
  have hframes := run.frames_balance
  refine ⟨by rw [hcounters], by rw [hcounters], by rw [hcounters], by rw [hcounters],
    by rw [hcounters], ?_, ?_, ?_, ?_, Engine.placed_of_answered⟩
  · intro past m rest c hsplit returned
    obtain ⟨p, buffer, -, -, hasked⟩ := (hsplit ▸ run).returned?_eq_some returned
    exact ⟨buffer, hasked⟩
  · intro event hevent
    obtain ⟨t, ht, rfl⟩ := List.mem_map.mp ((run.journal_perm listens).mem_iff.mp hevent)
    exact run.told_lost_pos ht
  · intro output
    rw [output, b.candidates_of_output output] at hframes
    rw [run.lostFrames_journal listens, hframes]
    rfl
  · intro input
    rw [input] at hframes
    rw [run.lostFrames_journal listens]
    have htotal : (completions h).map (·.frames) = (completions h).map Completion.total := by
      apply List.map_congr_left
      intro c hc
      rw [Completion.total, run.devices_of_input input hc, Nat.mul_one]
    rw [htotal, hframes]
    by_cases unserved : b.candidates = []
    · rw [unserved, (run.deeds_eq_nil unserved 0).1]
      rfl
    · have hone : b.candidates.length = 1 := by
        rw [Blueprint.length_candidates (List.length_pos_iff.mpr unserved), if_pos input]
      rw [hone, Finset.sum_range_one]
      rfl

/-- Two devices drop a frame each of a transfer of three; one of them then fails for good. -/
theorem balanced_after_failure :
    ∃ h e, Run (.small .output [.attached 0 0 .output, .attached 0 1 .output]) h e ∧
      e.hasTold = true ∧ completions h = [⟨3, 2⟩] ∧
      lostFrames .output (e.journal.map (·.2)) = 2 ∧
      e.counters.dropped = UInt64.ofNat (lostFrames .output (e.journal.map (·.2))) ∧
      e.counters.deviceErrors = UInt64.ofNat ((e.journal.map (·.2)).countP Event.isFailure) ∧
      (∑ i ∈ Finset.range 2, countFrames 2 (Deed.accepted 2 (deeds i h))) = 4 := by
  have hfollow : ((Blueprint.small .output [.attached 0 0 .output, .attached 0 1 .output]).follow
      [.call .start, .client (.opened (.ok 0)), .client (.opened (.ok 1)), .client .tick,
        .client (.spawned (.ok ())), .client .tick, .client .tick, .client (.spawned (.ok ())),
        .client .tick, .client .tick, .client .tick, .call (.transfer [1, 2, 3, 4, 5, 6] 3),
        .client .tick, .client .tick, .client .tick, .client .tick, .client (.latency 1),
        .client .tick, .client .tick, .client .tick, .client (.latency 1), .client .tick,
        .client .tick, .worker 0 .tick, .worker 0 .tick,
        .worker 0 (.settled (.failed (.custom "torn"))), .worker 0 .tick, .worker 0 .tick,
        .worker 0 .tick]).map
      (fun run => (run.2.hasTold, completions run.1, run.2.placed, run.2.answer?.isSome,
        lostFrames .output (run.2.journal.map (·.2)))) = some (true, [⟨3, 2⟩], 0, true, 2) := by
    decide
  obtain ⟨⟨h, e⟩, hrun, hseen⟩ := Option.map_eq_some_iff.mp hfollow
  simp only [Prod.mk.injEq] at hseen
  obtain ⟨told, hcompletions, hplaced, -, hlost⟩ := hseen
  have run := Run.of_follow hrun
  obtain ⟨hdropped, -, herrors, -, -, -, -, hframes, -⟩ := balanced run rfl told
  refine ⟨h, e, run, told, hcompletions, hlost, hdropped, herrors, ?_⟩
  have htotal := hframes rfl
  rw [hcompletions, hplaced, hlost] at htotal
  exact Nat.add_right_cancel htotal.symm

end Run

end AudioRelay
