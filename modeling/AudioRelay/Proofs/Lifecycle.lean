import AudioRelay.Proofs.Run
import AudioRelay.Proofs.Worker

/-!
# The life of an engine

Between two calls an engine is either off, with no lane, no worker and the running flag
cleared, or on, with a lane and a worker for every profile that serves the stream. The
invariant says what holds at each stage of a call as well, so it survives opens and spawns
that fail halfway, workers that die, and calls made in any order.
-/

namespace AudioRelay

namespace Moment

/-- Whether a start begins that has devices to open. -/
def isStart (m : Moment) : Bool :=
  match m.action with
  | .call .start => m.engine.isIdle
  | _ => false

/-- The profile and the device, if one was opened. -/
def opening? (m : Moment) : Option (DeviceProfile × Nat) :=
  match m.action, m.engine.client with
  | .client (.opened (.ok device)), .opening (p :: _) _ => some (p, device)
  | _, _ => none

end Moment

/-- The profiles opened since the last start began, each with the device it got. -/
def openings (h : List Moment) : List (DeviceProfile × Nat) :=
  (since Moment.isStart h).filterMap Moment.opening?

theorem openings_snoc (h : List Moment) (m : Moment) :
    openings (h ++ [m]) =
      if m.isStart then [] else m.opening?.elim (openings h) fun o => openings h ++ [o] := by
  unfold openings
  rw [since_snoc]
  split
  · rfl
  · rw [List.filterMap_append]
    cases hm : m.opening? <;> simp [hm]

/-- Lanes that serve the candidates in order, each by the device opened for it, of which
the first `n` have a worker. -/
structure Bound (pcm : PcmConfig) (candidates : List DeviceProfile)
    (opened : List (DeviceProfile × Nat)) (lanes : List Lane) (n : Nat) : Prop where
  profiles : opened.map (·.1) = candidates
  owners : lanes.map (fun lane => (lane.id, lane.device)) = opened.map fun o => (o.1.id, o.2)
  nonempty : lanes ≠ []
  staffed : ∀ (j : Nat) (lane : Lane), lanes[j]? = some lane → (lane.worker.isSome = true ↔ j < n)
  pipes : ∀ lane ∈ lanes, lane.pipe.capacity = pcm.frames ∧ lane.pipe.frameSize = pcm.frameSize

/-- How far a client is in the life of its stream. -/
inductive Stage where
  /-- Between calls, or asleep in a drain. -/
  | resting
  /-- Start: profiles are being opened. -/
  | opening (todo : List DeviceProfile) (opened : List (DeviceId × Nat))
  /-- Start: the first `n` workers exist. -/
  | staffing (n : Nat)
  /-- In a call that needs devices. -/
  | streaming
  /-- Teardown: the running flag is still set. -/
  | halting
  /-- Teardown: the running flag is cleared. -/
  | closing

/-- The stage of every client state. -/
def ClientState.stage : ClientState → Stage
  | answered _ => .resting
  | draining _ => .resting
  | opening todo opened => .opening todo opened
  | spawning i => .staffing i
  | enrolling i => .staffing (i + 1)
  | heralding i => .staffing (i + 1)
  | halting _ => .halting
  | sealing _ => .closing
  | stopping _ _ => .closing
  | joining _ _ => .closing
  | releasing _ => .closing
  | _ => .streaming

namespace Engine

/-- What holds of an engine at each stage. -/
def HoldsAt (e : Engine) (opened : List (DeviceProfile × Nat)) : Stage → Prop
  | .resting => e.lanes = [] ∧ e.isRunning = false ∨
      Bound e.pcm e.candidates opened e.lanes e.lanes.length ∧ e.isRunning = true
  | .opening todo ids => e.lanes = [] ∧ e.isRunning = false ∧
      opened.map (·.1) ++ todo = e.candidates ∧ ids = opened.map fun o => (o.1.id, o.2)
  | .staffing n => Bound e.pcm e.candidates opened e.lanes n ∧ e.isRunning = true
  | .streaming => Bound e.pcm e.candidates opened e.lanes e.lanes.length ∧ e.isRunning = true
  | .halting => (∃ n, Bound e.pcm e.candidates opened e.lanes n) ∧ e.isRunning = true
  | .closing => (∃ n, Bound e.pcm e.candidates opened e.lanes n) ∧ e.isRunning = false

/-- An engine whose configuration fits its context and whose lanes, workers and running flag
fit what its client is doing. -/
structure Sound (e : Engine) (opened : List (DeviceProfile × Nat)) : Prop where
  negotiated : PcmConfig.ofContext? e.context = some e.pcm
  stage : e.HoldsAt opened e.client.stage

/-- A usable stream has channels. -/
theorem Sound.channels_pos {e : Engine} {opened : List (DeviceProfile × Nat)}
    (sound : e.Sound opened) : 0 < e.context.channels := by
  have hn := sound.negotiated
  unfold PcmConfig.ofContext? at hn
  split at hn
  · contradiction
  · omega

/-- A usable stream has frames in its buffer. -/
theorem Sound.frames_pos {e : Engine} {opened : List (DeviceProfile × Nat)}
    (sound : e.Sound opened) : 0 < e.context.frames := by
  have hn := sound.negotiated
  unfold PcmConfig.ofContext? at hn
  split at hn
  · contradiction
  · omega

/-- Frames of a usable stream have bytes. -/
theorem Sound.frameSize_pos {e : Engine} {opened : List (DeviceProfile × Nat)}
    (sound : e.Sound opened) : 0 < e.context.frameSize :=
  Nat.mul_pos sound.channels_pos (SampleFormat.bytes_pos _)

end Engine

namespace Bound

variable {pcm : PcmConfig} {candidates : List DeviceProfile}
  {opened : List (DeviceProfile × Nat)} {lanes : List Lane} {n : Nat}

/-- Another lane of the same owner and dimensions may take the place of a lane. -/
theorem set (hb : Bound pcm candidates opened lanes n) {i m : Nat} {lane lane' : Lane}
    (hl : lanes[i]? = some lane) (owner : (lane'.id, lane'.device) = (lane.id, lane.device))
    (capacity : lane'.pipe.capacity = lane.pipe.capacity)
    (frameSize : lane'.pipe.frameSize = lane.pipe.frameSize)
    (worker : lane'.worker.isSome = true ↔ i < m) (others : ∀ j, j ≠ i → (j < n ↔ j < m)) :
    Bound pcm candidates opened (lanes.set i lane') m where
  profiles := hb.profiles
  owners := by
    rw [← hb.owners, List.map_set]
    apply List.ext_getElem?
    intro j
    rw [List.getElem?_set]
    split
    · rename_i hij
      subst hij
      obtain ⟨hi, _⟩ := List.getElem?_eq_some_iff.mp hl
      simp only [List.length_map, hi, if_true, List.getElem?_map, hl, Option.map_some, owner]
    · rfl
  nonempty := fun hnil => hb.nonempty ((List.set_eq_nil_iff _ _).mp hnil)
  staffed := by
    intro j x hx
    rw [List.getElem?_set] at hx
    split at hx
    · rename_i hij
      subst hij
      split at hx
      · cases hx; exact worker
      · contradiction
    · rename_i hij
      rw [hb.staffed j x hx, others j (Ne.symm hij)]
  pipes := by
    intro x hx
    have hold := hb.pipes lane (List.mem_of_getElem? hl)
    rcases List.mem_or_eq_of_mem_set hx with hmem | rfl
    · exact hb.pipes x hmem
    · exact ⟨capacity.trans hold.1, frameSize.trans hold.2⟩

/-- A move of its worker leaves a lane bound as it was. -/
theorem set_of_step (hb : Bound pcm candidates opened lanes n) {i : Nat} {plan : StreamPlan}
    {running : Bool} {lane lane' : Lane} {input : WorkerInput} {note : Option Note}
    (hl : lanes[i]? = some lane) (hs : lane.step plan running input = some (lane', note)) :
    Bound pcm candidates opened (lanes.set i lane') n := by
  obtain ⟨w, w', pipe', hw, hm, rfl⟩ := Lane.step_eq_some hs
  obtain ⟨hc, hf⟩ := hm.pipe_dimensions
  have hi := hb.staffed i lane hl
  rw [hw] at hi
  exact hb.set hl rfl hc hf hi fun _ _ => Iff.rfl

/-- Shutting pipes leaves the lanes bound as they were. -/
theorem map_shutdown (hb : Bound pcm candidates opened lanes n) (drain : Bool) :
    Bound pcm candidates opened
      (lanes.map fun lane => { lane with pipe := lane.pipe.shutdown drain }) n where
  profiles := hb.profiles
  owners := by
    rw [← hb.owners, List.map_map]
    rfl
  nonempty := fun hnil => hb.nonempty (List.map_eq_nil_iff.mp hnil)
  staffed := by
    intro j x hx
    rw [List.getElem?_map, Option.map_eq_some_iff] at hx
    obtain ⟨lane, hl, rfl⟩ := hx
    exact hb.staffed j lane hl
  pipes := by
    intro x hx
    obtain ⟨lane, hl, rfl⟩ := List.mem_map.mp hx
    exact hb.pipes lane hl

/-- Opened devices are bound by fresh lanes, none of which has a worker. -/
theorem fresh {plan : StreamPlan} (profiles : opened.map (·.1) = candidates)
    (hne : opened ≠ []) (hf : plan.frames = pcm.frames) (hs : plan.frameSize = pcm.frameSize) :
    Bound pcm candidates opened
      ((opened.map fun o => (o.1.id, o.2)).map fun (id, device) => Lane.fresh plan id device)
      0 where
  profiles := profiles
  owners := by
    rw [List.map_map, List.map_map]
    rfl
  nonempty := by simpa using hne
  staffed := by
    intro j x hx
    rw [List.map_map, List.getElem?_map, Option.map_eq_some_iff] at hx
    obtain ⟨o, _, rfl⟩ := hx
    simp [Lane.fresh]
  pipes := by
    intro x hx
    rw [List.map_map, List.mem_map] at hx
    obtain ⟨o, _, rfl⟩ := hx
    exact ⟨hf, hs⟩

/-- Once there are as many workers as lanes, all lanes are staffed. -/
theorem all (hb : Bound pcm candidates opened lanes n) (hn : lanes.length ≤ n) :
    Bound pcm candidates opened lanes lanes.length :=
  { hb with
    staffed := by
      intro j lane hl
      obtain ⟨hj, _⟩ := List.getElem?_eq_some_iff.mp hl
      rw [hb.staffed j lane hl]
      omega }

end Bound

namespace Engine

variable {e e' : Engine} {opened : List (DeviceProfile × Nat)}

/-- The workers' chunks are as long as the pipes that the lanes are bound with. -/
theorem Sound.plan_eq (h : e.Sound opened) :
    e.plan.frames = e.context.frames ∧ e.plan.frameSize = e.context.frameSize := by
  have hf := PcmConfig.frameSize_ofContext? h.negotiated
  have hn := h.negotiated
  unfold PcmConfig.ofContext? at hn
  split at hn
  · contradiction
  · refine ⟨?_, hf⟩
    unfold plan
    rw [← Option.some.inj hn]

/-- A call begins between two calls, when the engine is either off or on. -/
theorem Sound.off_or_on (h : e.Sound opened) (ha : e.answer?.isSome = true) :
    e.lanes = [] ∧ e.isRunning = false ∨
      Bound e.pcm e.candidates opened e.lanes e.lanes.length ∧ e.isRunning = true := by
  obtain ⟨a, hc⟩ := answered_of_isSome ha
  have hst := h.stage
  rw [hc] at hst
  exact hst

/-- A call leaves a sound engine sound. -/
theorem Sound.call (h : e.Sound opened) (ha : e.answer?.isSome = true) (c : Call) :
    (e.begin c).Sound (if Moment.isStart ⟨e, .call c⟩ then [] else opened) := by
  have hst := h.off_or_on ha
  have idle_iff : e.isIdle = true ↔ e.lanes = [] := List.isEmpty_iff
  have on (hidle : ¬e.isIdle = true) :
      Bound e.pcm e.candidates opened e.lanes e.lanes.length ∧ e.isRunning = true :=
    hst.resolve_left fun hoff => hidle (idle_iff.mpr hoff.1)
  cases c with
  | start =>
    by_cases hidle : e.isIdle = true
    · have hlanes := idle_iff.mp hidle
      have hoff := hst.resolve_right fun hon => hon.1.nonempty hlanes
      simp only [Engine.begin, Moment.isStart, hidle, if_true]
      exact ⟨h.negotiated, hoff.1, hoff.2, rfl, rfl⟩
    · simp only [Engine.begin, Moment.isStart, hidle]
      exact ⟨h.negotiated, hst⟩
  | negotiate =>
    simp only [Engine.begin, h.negotiated]
    exact ⟨h.negotiated, hst⟩
  | transfer buffer frames =>
    simp only [Engine.begin, beginTransfer]
    split
    · exact ⟨h.negotiated, hst⟩
    · split
      · exact ⟨h.negotiated, hst⟩
      · rename_i hidle
        split
        · exact ⟨h.negotiated, on hidle⟩
        · exact ⟨h.negotiated, on hidle⟩
  | refine p =>
    simp only [Engine.begin]
    split
    · exact ⟨h.negotiated, hst⟩
    · rename_i hidle
      exact ⟨h.negotiated, on hidle⟩
  | drain mode =>
    simp only [Engine.begin]
    split
    · exact ⟨h.negotiated, hst⟩
    · exact ⟨h.negotiated, hst⟩
  | standby =>
    simp only [Engine.begin]
    split
    · exact ⟨h.negotiated, hst⟩
    · rename_i hidle
      exact ⟨h.negotiated, ⟨_, (on hidle).1⟩, (on hidle).2⟩
  | setGain level => exact ⟨h.negotiated, hst⟩
  | pause => exact ⟨h.negotiated, hst⟩
  | flush => exact ⟨h.negotiated, hst⟩

/-- An action of the client leaves a sound engine sound. -/
theorem Sound.client {input : ClientInput} (h : e.Sound opened) (hs : ClientStep e input e') :
    e'.Sound ((Moment.mk e (.client input)).opening?.elim opened fun o => opened ++ [o]) := by
  have hst := h.stage
  cases hs with
  | @opened p rest ids device hc =>
    rw [hc] at hst
    obtain ⟨hlanes, hrun, hall, hids⟩ := hst
    simp only [Moment.opening?, hc, Option.elim_some]
    refine ⟨h.negotiated, hlanes, hrun, ?_, ?_⟩
    · change (opened ++ [(p, device)]).map (·.1) ++ rest = e.candidates
      simpa using hall
    · simp [hids]
  | refused hc =>
    rw [hc] at hst
    exact ⟨h.negotiated, .inl ⟨hst.1, hst.2.1⟩⟩
  | unserved hc =>
    rw [hc] at hst
    exact ⟨h.negotiated, .inl ⟨hst.1, hst.2.1⟩⟩
  | bound hc hne =>
    rw [hc] at hst
    obtain ⟨-, -, hall, rfl⟩ := hst
    have hopened : opened ≠ [] := fun hnil => hne (by rw [hnil]; rfl)
    rw [List.append_nil] at hall
    exact ⟨h.negotiated, .fresh hall hopened rfl rfl, rfl⟩
  | @spawned i lane hc hl =>
    rw [hc] at hst
    have hset : Bound e.pcm e.candidates opened
        (e.lanes.set i { lane with worker := some .looping }) (i + 1) := by
      refine hst.1.set hl rfl rfl rfl ?_ ?_
      · simp
      · intro j hj
        omega
    exact ⟨h.negotiated, hset, hst.2⟩
  | spawnRefused hc hl =>
    rw [hc] at hst
    exact ⟨h.negotiated, ⟨_, hst.1⟩, hst.2⟩
  | staffed hc hn =>
    rw [hc] at hst
    exact ⟨h.negotiated, .inr ⟨hst.1.all hn, hst.2⟩⟩
  | @sent i p lane frames pipe hc hl hw =>
    rw [hc] at hst
    obtain rfl : pipe = (lane.pipe.write p.moved).2 := by rw [hw]
    have hb : Bound e.pcm e.candidates opened
        (e.lanes.set i { lane with pipe := (lane.pipe.write p.moved).2 }) e.lanes.length :=
      hst.1.set hl rfl (lane.pipe.write_capacity _) (lane.pipe.write_frameSize _)
        (hst.1.staffed i lane hl) fun _ _ => Iff.rfl
    refine ⟨h.negotiated, ?_⟩
    dsimp only
    split
    · exact ⟨hb.all (Nat.le_of_eq List.length_set), hst.2⟩
    · exact ⟨hb.all (Nat.le_of_eq List.length_set), hst.2⟩
  | @received p lane rest bytes pipe frames q hc hl hr hf hq =>
    rw [hc] at hst
    obtain rfl : pipe = (lane.pipe.read p.moved.length).2 := by rw [hr]
    have hb := hst.1
    rw [hl] at hb
    have hset : Bound e.pcm e.candidates opened
        ({ lane with pipe := (lane.pipe.read p.moved.length).2 } :: rest) (rest.length + 1) :=
      hb.set (i := 0) rfl rfl (lane.pipe.read_capacity _) (lane.pipe.read_frameSize _)
        (hb.staffed 0 lane rfl) fun _ _ => Iff.rfl
    refine ⟨h.negotiated, ?_⟩
    dsimp only
    split
    · exact ⟨hset, hst.2⟩
    · exact ⟨hset, hst.2⟩
  | @latencyTold i ms p hc =>
    rw [hc] at hst
    refine ⟨h.negotiated, ?_⟩
    unfold afterLatency
    split
    · exact hst
    · exact hst
  | located hc =>
    rw [hc] at hst
    unfold locate
    split
    all_goals exact ⟨h.negotiated, .inr hst⟩
  | halted hc =>
    rw [hc] at hst
    exact ⟨h.negotiated, hst.1, rfl⟩
  | sealed hc =>
    rw [hc] at hst
    obtain ⟨⟨n, hb⟩, hrun⟩ := hst
    unfold shutCapture
    split
    · exact ⟨h.negotiated, ⟨n, hb⟩, hrun⟩
    · exact ⟨h.negotiated, ⟨n, hb.map_shutdown true⟩, hrun⟩
  | released hc =>
    rw [hc] at hst
    exact ⟨h.negotiated, .inl ⟨rfl, hst.2⟩⟩
  | transferred hc =>
    rw [hc] at hst
    exact ⟨h.negotiated, .inr hst⟩
  | enrolled hc | heralded hc _ | scaled hc | allSent hc _ | dropCounted hc | dropReported hc _
  | silenceCounted hc | silenceReported hc | rebased hc | drained hc | stopped hc _
  | allStopped hc _ | joined hc _ _ | allJoined hc _ =>
    rw [hc] at hst
    exact ⟨h.negotiated, hst⟩

/-- A worker's action keeps what holds at the client's stage. -/
theorem Sound.worker {i : Nat} {input : WorkerInput} (h : e.Sound opened)
    (hs : e.stepWorker i input = some e') : e'.Sound opened := by
  obtain ⟨lane, lane', note, hl, hstep, counters, journal, rfl⟩ := stepWorker_eq_some hs
  have busy : e.lanes ≠ [] := List.ne_nil_of_mem (List.mem_of_getElem? hl)
  have staffed (hb : Bound e.pcm e.candidates opened e.lanes e.lanes.length) :
      Bound e.pcm e.candidates opened (e.lanes.set i lane') (e.lanes.set i lane').length :=
    (hb.set_of_step hl hstep).all (Nat.le_of_eq List.length_set)
  have hst := h.stage
  refine ⟨h.negotiated, ?_⟩
  dsimp only
  generalize e.client.stage = stage at hst ⊢
  cases stage with
  | resting => exact .inr ((hst.resolve_left fun hoff => busy hoff.1).imp_left staffed)
  | opening todo ids => exact absurd hst.1 busy
  | staffing n => exact ⟨hst.1.set_of_step hl hstep, hst.2⟩
  | streaming => exact ⟨staffed hst.1, hst.2⟩
  | halting =>
    obtain ⟨⟨n, hb⟩, hrun⟩ := hst
    exact ⟨⟨n, hb.set_of_step hl hstep⟩, hrun⟩
  | closing =>
    obtain ⟨⟨n, hb⟩, hrun⟩ := hst
    exact ⟨⟨n, hb.set_of_step hl hstep⟩, hrun⟩

/-- Every atomic action leaves a sound engine sound. -/
theorem Sound.step {h : List Moment} {a : Action} (sound : e.Sound (openings h))
    (hs : e.step a = some e') : e'.Sound (openings (h ++ [⟨e, a⟩])) := by
  rw [openings_snoc]
  cases a with
  | call c =>
    obtain ⟨ha, rfl⟩ := step_call_eq_some hs
    exact sound.call ha c
  | client input => exact sound.client (clientStep_of_stepClient hs)
  | worker i input => exact sound.worker hs
  | adjust level =>
    cases hs
    exact ⟨sound.negotiated, sound.stage⟩

/-- An engine that was just built is off. -/
theorem sound_of_build {b : Blueprint} (hb : Engine.build b = .ok e) : e.Sound [] := by
  obtain ⟨pcm, hpcm, rfl⟩ := build_eq_ok hb
  exact ⟨hpcm, .inl ⟨rfl, rfl⟩⟩

end Engine

/-- Every engine that a run leads to is sound. -/
theorem Run.sound {b : Blueprint} {h : List Moment} {e : Engine} (run : Run b h e) :
    e.Sound (openings h) := by
  induction run with
  | built hb => exact Engine.sound_of_build hb
  | snoc _ hs ih => exact ih.step hs

namespace Engine

/-- The workers of a stream, dead ones included, in the order of their lanes. -/
def workers (e : Engine) : List WorkerState := e.lanes.filterMap (·.worker)

end Engine

/-- A bound lane has the id of its profile and the device that was opened for it. -/
theorem Bound.owner {pcm : PcmConfig} {candidates : List DeviceProfile}
    {opened : List (DeviceProfile × Nat)} {lanes : List Lane} {n j : Nat} {lane : Lane}
    (hb : Bound pcm candidates opened lanes n) (hl : lanes[j]? = some lane) :
    ∃ p, candidates[j]? = some p ∧ lane.id = p.id ∧ opened[j]? = some (p, lane.device) := by
  have howner := congrArg (·[j]?) hb.owners
  simp only [List.getElem?_map, hl, Option.map_some] at howner
  obtain ⟨⟨p, device⟩, ho, heq⟩ := Option.map_eq_some_iff.mp howner.symm
  obtain ⟨hid, rfl⟩ := Prod.mk.inj heq
  refine ⟨p, ?_, hid.symm, ho⟩
  rw [← hb.profiles, List.getElem?_map, ho]
  rfl

/-- There are as many lanes as candidates. -/
theorem Bound.length_eq {pcm : PcmConfig} {candidates : List DeviceProfile}
    {opened : List (DeviceProfile × Nat)} {lanes : List Lane} {n : Nat}
    (hb : Bound pcm candidates opened lanes n) : lanes.length = candidates.length := by
  have howners := congrArg List.length hb.owners
  have hprofiles := congrArg List.length hb.profiles
  simp only [List.length_map] at howners hprofiles
  exact howners.trans hprofiles

/-- The profiles of the stream's direction, in the order they were given. -/
def Blueprint.serving (b : Blueprint) : List DeviceProfile :=
  b.profiles.filter fun p => p.direction = b.context.direction

/-- The profiles that get a lane each, in order. -/
def Blueprint.candidates (b : Blueprint) : List DeviceProfile :=
  if b.context.direction = .input then b.serving.take 1 else b.serving

/-- In playback every serving profile gets a lane. -/
theorem Blueprint.candidates_of_output {b : Blueprint} (output : b.context.direction = .output) :
    b.candidates = b.serving := by
  have hplay : b.context.direction ≠ .input := by
    rw [output]
    decide
  exact if_neg hplay

/-- A candidate has the place of a serving profile. -/
theorem Blueprint.serving_of_candidates {b : Blueprint} {j : Nat} {p : DeviceProfile}
    (hp : b.candidates[j]? = some p) : b.serving[j]? = some p := by
  unfold candidates at hp
  split at hp
  · rw [List.getElem?_take] at hp
    split at hp
    · exact hp
    · contradiction
  · exact hp

/-- Capture has one candidate if it has any. -/
theorem Blueprint.length_candidates {b : Blueprint} (served : 0 < b.candidates.length) :
    b.candidates.length = if b.context.direction = .input then 1 else b.serving.length := by
  unfold candidates at served ⊢
  by_cases hin : b.context.direction = .input
  · rw [if_pos hin, List.length_take] at served
    rw [if_pos hin, if_pos hin, List.length_take]
    omega
  · rw [if_neg hin, if_neg hin]

namespace Engine

/-- Candidates are serving profiles, for capture the first one only. -/
theorem candidates_eq {b : Blueprint} {e : Engine} (hc : e.context = b.context)
    (hp : e.profiles = b.profiles) :
    e.candidates = b.candidates := by
  unfold candidates Blueprint.candidates Blueprint.serving
  rw [hc, hp]
  cases b.context.direction <;> rfl

end Engine

end AudioRelay
