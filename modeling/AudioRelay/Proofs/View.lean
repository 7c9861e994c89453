import AudioRelay.Proofs.Deed
import AudioRelay.Proofs.Lifecycle
import AudioRelay.Proofs.Passage

/-!
# A stream as one lane sees it

Of a whole engine one lane sees its own pipe and worker, the running flag, the gain level and
the transfer that has not reached it yet. Its view moves by itself: after every action of an
engine the view is determined by the view before and by what the action touches, and so is what
happens on the lane. Every other lane may do as it likes.
-/

namespace AudioRelay

/-- An action as far as it touches one lane. -/
inductive Touch where
  /-- The client begins a call. -/
  | call (c : Call)
  /-- A gain request from elsewhere. -/
  | adjust (level : Single)
  /-- The client binds the lanes. -/
  | bind
  /-- The lane gets its worker. -/
  | spawn
  /-- A playback transfer applies the gain. -/
  | scale
  /-- A playback transfer writes to the lane's pipe. -/
  | send
  /-- A capture transfer reads from the lane's pipe. -/
  | receive
  /-- The client clears the running flag. -/
  | halt
  /-- The client shuts the capture pipe. -/
  | shut
  /-- The client lets go of the lanes. -/
  | release
  /-- The lane's worker moves. -/
  | work (input : WorkerInput)
  deriving DecidableEq

/-- What the client's next action touches of lane `i`, if the client moves by itself. -/
def Engine.clientTouch? (e : Engine) (i : Nat) : Option Touch :=
  match e.client with
  | .opening [] opened => if opened.isEmpty then none else some .bind
  | .scaling _ => some .scale
  | .sending j _ => if j = i then some .send else none
  | .receiving _ => if i = 0 then some .receive else none
  | .halting _ => some .halt
  | .sealing _ => some .shut
  | .releasing _ => some .release
  | _ => none

/-- What a moment touches of lane `i`. -/
def Moment.touch? (i : Nat) (m : Moment) : Option Touch :=
  match m.action with
  | .call c => some (.call c)
  | .adjust level => some (.adjust level)
  | .worker j input => if j = i then some (.work input) else none
  | .client (.spawned (.ok _)) =>
    match m.engine.client with
    | .spawning j => if j = i then some .spawn else none
    | _ => none
  | .client .tick => m.engine.clientTouch? i
  | _ => none

/-- What touched lane `i` in the course of a history. -/
def touches (i : Nat) (h : List Moment) : List Touch := h.filterMap (Moment.touch? i)

/-- The pipe and the worker of a bound lane. -/
structure Station where
  pipe : Pipe
  worker : Option WorkerState

/-- The frames of a transfer that has yet to reach the lane. -/
structure Pending where
  frames : Nat
  bytes : List UInt8
  /-- Whether the gain is on them. -/
  isScaled : Bool

/-- What one lane sees of its engine. -/
structure View where
  level : Single
  isRunning : Bool
  station : Option Station
  pending : Option Pending

/-- The frames that a client state still holds for lane `i`. -/
def ClientState.pending (i : Nat) : ClientState → Option Pending
  | scaling p => some ⟨p.frames, p.moved, false⟩
  | sending j p => if j ≤ i then some ⟨p.frames, p.moved, true⟩ else none
  | countingDrop j _ p => if j < i then some ⟨p.frames, p.moved, true⟩ else none
  | reportingDrop j _ p => if j < i then some ⟨p.frames, p.moved, true⟩ else none
  | askingLatency j p => if j < i then some ⟨p.frames, p.moved, true⟩ else none
  | receiving p => if i = 0 then some ⟨p.frames, p.moved, false⟩ else none
  | _ => none

/-- What lane `i` sees of an engine. -/
def Engine.view (i : Nat) (e : Engine) : View where
  level := e.level
  isRunning := e.isRunning
  station := e.lanes[i]?.map fun lane => ⟨lane.pipe, lane.worker⟩
  pending := e.client.pending i

/-- A move of the worker; a worker that cannot move so stays. -/
def Station.work (plan : StreamPlan) (running : Bool) (input : WorkerInput) (s : Station) :
    Station :=
  match s.worker.bind fun w => w.next plan running "" s.pipe input with
  | none => s
  | some (w, pipe, _) => ⟨pipe, some w⟩

/-- What a move of the worker does, if it can move so. -/
def Station.deed? (plan : StreamPlan) (running : Bool) (input : WorkerInput) (s : Station) :
    Option Deed :=
  s.worker.bind fun w =>
    (w.next plan running "" s.pipe input).bind fun _ => w.deed? plan s.pipe input

namespace View

/-- What a view becomes by a touch; a touch out of place changes nothing. -/
def step (c : StreamContext) (plan : StreamPlan) (v : View) : Touch → View
  | .call (.setGain level) => { v with level := Gain.adjust v.level level }
  | .call (.transfer buffer frames) =>
    match v.station, v.pending with
    | some _, none =>
      if buffer.length < frames * c.frameSize then v
      else { v with pending := some ⟨frames, buffer.take (frames * c.frameSize), false⟩ }
    | _, _ => v
  | .call _ => v
  | .adjust level => { v with level := Gain.adjust v.level level }
  | .bind =>
    { v with
      isRunning := true
      station := some ⟨Pipe.empty plan.frames plan.frameSize, none⟩
      pending := none }
  | .spawn => { v with station := v.station.map fun s => ⟨s.pipe, some (s.worker.getD .looping)⟩ }
  | .scale =>
    match v.pending with
    | some ⟨frames, bytes, false⟩ =>
      { v with pending := some ⟨frames, Gain.apply c.format c.channels v.level bytes, true⟩ }
    | _ => v
  | .send =>
    match c.direction, v.station, v.pending with
    | .output, some s, some ⟨_, bytes, true⟩ =>
      { v with station := some ⟨(s.pipe.write bytes).2, s.worker⟩, pending := none }
    | _, _, _ => v
  | .receive =>
    match c.direction, v.station, v.pending with
    | .input, some s, some ⟨_, bytes, false⟩ =>
      { v with station := some ⟨(s.pipe.read bytes.length).2, s.worker⟩, pending := none }
    | _, _, _ => v
  | .halt => { v with isRunning := false }
  | .shut =>
    match c.direction, v.isRunning with
    | .input, false => { v with station := v.station.map fun s => ⟨s.pipe.shutdown true, s.worker⟩ }
    | _, _ => v
  | .release => { v with station := none }
  | .work input => { v with station := v.station.map (·.work plan v.isRunning input) }

/-- What happens on the lane by a touch. -/
def deed? (c : StreamContext) (plan : StreamPlan) (v : View) : Touch → Option Deed
  | .bind => some .bound
  | .scale =>
    match v.pending with
    | some ⟨_, bytes, false⟩ => some (.gained (Gain.apply c.format c.channels v.level bytes))
    | _ => none
  | .send =>
    match c.direction, v.station, v.pending with
    | .output, some s, some ⟨frames, bytes, true⟩ =>
      some (.sent bytes frames (s.pipe.write bytes).1)
    | _, _, _ => none
  | .receive =>
    match c.direction, v.station, v.pending with
    | .input, some s, some ⟨frames, bytes, false⟩ =>
      some (.ofRead c.frameSize frames bytes.length (s.pipe.read bytes.length).1)
    | _, _, _ => none
  | .work input => v.station.bind (·.deed? plan v.isRunning input)
  | _ => none

/-- The view after some touches. -/
def run (c : StreamContext) (plan : StreamPlan) (v : View) (ts : List Touch) : View :=
  ts.foldl (step c plan) v

/-- What happens on the lane in the course of some touches. -/
def deeds (c : StreamContext) (plan : StreamPlan) (v : View) : List Touch → List Deed
  | [] => []
  | t :: rest => (v.deed? c plan t).toList ++ (v.step c plan t).deeds c plan rest

/-- The view at the beginning of all runs with the same gain. -/
def start (gain : Single) : View := ⟨Gain.adjust Single.one gain, false, none, none⟩

end View

/-- The id of its device does not matter for where a worker goes. -/
theorem WorkerState.next_forget_id (plan : StreamPlan) (running : Bool) (id id' : DeviceId)
    (pipe : Pipe) (w : WorkerState) (input : WorkerInput) :
    (w.next plan running id pipe input).map (fun x => (x.1, x.2.1)) =
      (w.next plan running id' pipe input).map fun x => (x.1, x.2.1) := by
  unfold next
  split <;> rfl

/-- A station stays as it is, or its worker moves. -/
theorem Station.work_cases (plan : StreamPlan) (running : Bool) (input : WorkerInput)
    (s : Station) :
    s.work plan running input = s ∧ s.deed? plan running input = none ∨
      ∃ w w' pipe' note, s.worker = some w ∧
        w.Move plan running "" s.pipe input w' pipe' note ∧
        s.work plan running input = ⟨pipe', some w'⟩ ∧
        s.deed? plan running input = w.deed? plan s.pipe input := by
  unfold work deed?
  cases hw : s.worker with
  | none => exact .inl ⟨rfl, rfl⟩
  | some w =>
    simp only [Option.bind_some]
    cases hn : w.next plan running "" s.pipe input with
    | none => exact .inl ⟨rfl, rfl⟩
    | some moved =>
      obtain ⟨w', pipe', note⟩ := moved
      exact .inr ⟨w, w', pipe', note, rfl, WorkerState.move_of_next hn, rfl, rfl⟩

namespace Lane

variable {plan : StreamPlan} {running : Bool} {lane lane' : Lane} {input : WorkerInput}
  {note : Option Note}

/-- A step of a lane is a move of its worker, whatever the id of its device. -/
theorem next_eq_some (hs : lane.step plan running input = some (lane', note)) (id : DeviceId) :
    ∃ w w' note', lane.worker = some w ∧ lane'.worker = some w' ∧
      w.next plan running id lane.pipe input = some (w', lane'.pipe, note') := by
  unfold step at hs
  split at hs
  · contradiction
  · rename_i w hw
    obtain ⟨⟨w', pipe', note'⟩, hn, heq⟩ := Option.map_eq_some_iff.mp hs
    obtain ⟨rfl, rfl⟩ := Prod.mk.inj heq
    have hforget := w.next_forget_id plan running lane.id id lane.pipe input
    rw [hn] at hforget
    obtain ⟨⟨w'', pipe'', note''⟩, hn', heq'⟩ := Option.map_eq_some_iff.mp hforget.symm
    obtain ⟨rfl, rfl⟩ := Prod.mk.inj heq'
    exact ⟨w, _, note'', hw, rfl, hn'⟩

/-- A lane steps as its pipe and its worker do. -/
theorem work_eq (hs : lane.step plan running input = some (lane', note)) :
    Station.work plan running input ⟨lane.pipe, lane.worker⟩ = ⟨lane'.pipe, lane'.worker⟩ := by
  obtain ⟨w, w', note', hw, hw', hn⟩ := next_eq_some hs ""
  simp only [Station.work, hw, Option.bind_some, hn, hw']

/-- A step of a lane does what its worker does. -/
theorem deed?_eq (hs : lane.step plan running input = some (lane', note)) :
    Station.deed? plan running input ⟨lane.pipe, lane.worker⟩ =
      lane.worker.bind (·.deed? plan lane.pipe input) := by
  obtain ⟨w, w', note', hw, -, hn⟩ := next_eq_some hs ""
  simp only [Station.deed?, hw, Option.bind_some, hn]

end Lane

/-- A worker takes chunks and makes attempts, and does nothing else that shows. -/
theorem WorkerState.deed?_cases {plan : StreamPlan} {pipe : Pipe} {input : WorkerInput} {d : Deed}
    {w : WorkerState} (hd : w.deed? plan pipe input = some d) :
    (∃ chunk, d = .took chunk) ∨ ∃ transfer outcome, d = .attempted transfer outcome := by
  unfold deed? at hd
  split at hd
  · split at hd
    · contradiction
    · exact .inl ⟨_, (Option.some.inj hd).symm⟩
  · exact .inr ⟨_, _, (Option.some.inj hd).symm⟩
  · contradiction

namespace Engine

variable {e e' : Engine} {opened : List (DeviceProfile × Nat)} {i : Nat}

/-- The lanes of a sound engine, if it has any, are bound. -/
theorem Sound.bound (sound : e.Sound opened) (hne : e.lanes ≠ []) :
    ∃ n, Bound e.pcm e.candidates opened e.lanes n := by
  have hst := sound.stage
  generalize e.client.stage = stage at hst
  cases stage with
  | resting => exact ⟨_, (hst.resolve_left fun off => hne off.1).1⟩
  | opening todo ids => exact absurd hst.1 hne
  | staffing n => exact ⟨n, hst.1⟩
  | streaming => exact ⟨_, hst.1⟩
  | halting => exact hst.1
  | closing => exact hst.1

/-- A sound engine that has lanes has one for every candidate. -/
theorem Sound.length_lanes (sound : e.Sound opened) (hne : e.lanes ≠ []) :
    e.lanes.length = e.candidates.length := by
  obtain ⟨n, hb⟩ := sound.bound hne
  exact hb.length_eq

/-- A bound lane sees its pipe and its worker. -/
theorem station_view {lane : Lane} (hl : e.lanes[i]? = some lane) :
    (e.view i).station = some ⟨lane.pipe, lane.worker⟩ := by
  rw [view, hl]
  rfl

/-- Capture has one candidate at most. -/
theorem index_eq_zero (hi : i < e.candidates.length) (input : e.context.direction = .input) :
    i = 0 := by
  simp only [candidates, input, List.length_take] at hi
  omega

/-- A call changes the view of a lane as the lane sees it. -/
theorem view_begin (sound : e.Sound opened) (hi : i < e.candidates.length) (c : Call)
    (ha : e.answer?.isSome = true) :
    (e.begin c).view i = (e.view i).step e.context e.plan (.call c) := by
  obtain ⟨a, hc⟩ := answered_of_isSome ha
  cases c with
  | transfer buffer frames =>
    by_cases hidle : e.lanes = []
    · simp only [begin, beginTransfer, isIdle, hidle, List.isEmpty_nil, if_true]
      split <;> simp only [view, answer, hc, hidle, List.getElem?_nil, Option.map_none,
        ClientState.pending, View.step]
    · have hlane : i < e.lanes.length := by rwa [sound.length_lanes hidle]
      have hactive : e.lanes.isEmpty = false := by simpa using hidle
      simp only [begin, beginTransfer, isIdle, hactive, Bool.false_eq_true, if_false]
      split
      · rename_i hshort
        simp only [view, answer, hc, ClientState.pending, View.step,
          List.getElem?_eq_getElem hlane, Option.map_some, hshort, if_true]
      · rename_i henough
        cases hd : e.context.direction with
        | output =>
          simp only [view, hc, ClientState.pending, View.step,
            List.getElem?_eq_getElem hlane, Option.map_some, henough, if_false]
        | input =>
          simp only [view, hc, ClientState.pending, View.step, index_eq_zero hi hd, if_true,
            List.getElem?_eq_getElem (index_eq_zero hi hd ▸ hlane), Option.map_some, henough,
            if_false]
  | negotiate | start | refine | drain | standby =>
    simp only [begin]
    split <;> simp only [view, answer, tearDown, hc, ClientState.pending, View.step]
  | setGain | pause | flush =>
    simp only [begin, view, answer, hc, ClientState.pending, View.step]

/-- An action of the client changes the view of a lane by what it touches of it. -/
theorem view_client {input : ClientInput} (sound : e.Sound opened)
    (fits : e.client.Fits e.context.direction e.lanes.length) (hi : i < e.candidates.length)
    (hs : ClientStep e input e') :
    e'.view i = ((Moment.mk e (.client input)).touch? i).elim (e.view i)
      ((e.view i).step e.context e.plan) := by
  have hst := sound.stage
  cases hs with
  | @bound ids hc hne =>
    rw [hc] at hst
    obtain ⟨-, -, hall, hids⟩ := hst
    have hlen : i < ids.length := by
      rw [List.append_nil] at hall
      rw [hids, List.length_map, ← List.length_map, hall]
      exact hi
    have hempty : ids.isEmpty = false := by simpa using hne
    simp only [Moment.touch?, clientTouch?, hc, hempty, Bool.false_eq_true, if_false, view,
      ClientState.pending, Option.elim_some, View.step, List.getElem?_map,
      List.getElem?_eq_getElem hlen, Option.map_some, Lane.fresh]
  | @spawned j lane hc hl =>
    rw [hc] at hst
    by_cases hj : j = i
    · subst hj
      have hw : lane.worker = none := by
        have hstaffed := hst.1.staffed j lane hl
        simpa using hstaffed
      obtain ⟨hlt, _⟩ := List.getElem?_eq_some_iff.mp hl
      simp only [Moment.touch?, hc, if_true, view, ClientState.pending, Option.elim_some, View.step,
        List.getElem?_set_self hlt, hl, Option.map_some, hw, Option.getD_none]
    · simp only [Moment.touch?, hc, hj, if_false, view, ClientState.pending, Option.elim_none,
        List.getElem?_set_ne hj]
  | scaled hc =>
    simp only [Moment.touch?, clientTouch?, hc, view, ClientState.pending, Option.elim_some,
      View.step, Nat.zero_le, if_true]
  | @sent j p lane frames pipe hc hl hw =>
    rw [hc] at fits
    by_cases hj : j = i
    · subst hj
      obtain ⟨hlt, _⟩ := List.getElem?_eq_some_iff.mp hl
      simp only [Moment.touch?, clientTouch?, hc, if_true, view, ClientState.pending,
        Option.elim_some, View.step, fits.1, hl, Option.map_some, Nat.le_refl,
        List.getElem?_set_self hlt, hw]
      by_cases hfull : frames < p.frames <;> simp only [hfull, if_true, if_false, Nat.lt_irrefl]
    · have hle : j ≤ i ↔ j < i := by omega
      simp only [Moment.touch?, clientTouch?, hc, hj, if_false, view, ClientState.pending,
        Option.elim_none, List.getElem?_set_ne hj, hle]
      by_cases hfull : frames < p.frames <;> simp only [hfull, if_true, if_false]
  | @received p lane rest bytes pipe frames q hc hl hr hf hq =>
    rw [hc] at fits
    change e.context.direction = .input at fits
    obtain rfl := index_eq_zero hi fits
    simp only [Moment.touch?, clientTouch?, hc, if_true, view, ClientState.pending,
      Option.elim_some, View.step, fits, hl, List.getElem?_cons_zero, Option.map_some, hr]
    by_cases hshort : frames < p.frames <;> simp only [hshort, if_true, if_false, Nat.lt_irrefl]
  | halted hc =>
    simp only [Moment.touch?, clientTouch?, hc, view, ClientState.pending, Option.elim_some,
      View.step]
  | sealed hc =>
    rw [hc] at hst
    have hrun : e.isRunning = false := hst.2
    simp only [Moment.touch?, clientTouch?, hc, view, ClientState.pending, Option.elim_some,
      View.step, shutCapture, hrun]
    cases e.context.direction with
    | output => simp only [hrun]
    | input => cases hl : e.lanes[i]? <;> simp [hl]
  | released hc =>
    simp only [Moment.touch?, clientTouch?, hc, view, answer, ClientState.pending, Option.elim_some,
      View.step, List.getElem?_nil, Option.map_none]
  | located hc =>
    simp only [Moment.touch?, view, hc, ClientState.pending, Option.elim_none]
    unfold locate
    split <;> rfl
  | @silenceReported missing p hc =>
    rw [hc] at fits
    obtain rfl := index_eq_zero hi fits.1
    simp only [Moment.touch?, clientTouch?, hc, view, ClientState.pending, Option.elim_none,
      Nat.lt_irrefl, if_false]
  | @allSent j p hc hl =>
    rw [hc] at hst
    have hlanes := hst.1.length_eq
    rw [List.getElem?_eq_none_iff] at hl
    have hle : ¬j ≤ i := by omega
    have hne : ¬j = i := by omega
    simp only [Moment.touch?, clientTouch?, hc, view, ClientState.pending, Option.elim_none, hle,
      hne, if_false]
  | @latencyTold j ms p hc =>
    rw [hc] at fits
    simp only [Moment.touch?, hc, view, ClientState.pending, Option.elim_none, afterLatency]
    cases hd : e.context.direction with
    | output => rfl
    | input => simp only [fits.2 hd, index_eq_zero hi hd, Nat.lt_irrefl, if_false]
  | unserved hc =>
    simp only [Moment.touch?, clientTouch?, hc, List.isEmpty_nil, if_true, view, answer,
      ClientState.pending, Option.elim_none]
  | opened hc | refused hc | spawnRefused hc _ | staffed hc _ | enrolled hc | heralded hc _
  | dropCounted hc | dropReported hc _ | silenceCounted hc | transferred hc | rebased hc
  | drained hc | stopped hc _ | allStopped hc _ | joined hc _ _ | allJoined hc _ =>
    simp only [Moment.touch?, clientTouch?, hc, view, answer, tearDown, ClientState.pending,
      Option.elim_none]

/-- A worker's action changes the view of its own lane alone. -/
theorem view_worker {j : Nat} {input : WorkerInput} (hs : e.stepWorker j input = some e') :
    e'.view i = ((Moment.mk e (.worker j input)).touch? i).elim (e.view i)
      ((e.view i).step e.context e.plan) := by
  obtain ⟨lane, lane', note, hl, hstep, counters, journal, rfl⟩ := stepWorker_eq_some hs
  by_cases hj : j = i
  · subst hj
    obtain ⟨hlt, _⟩ := List.getElem?_eq_some_iff.mp hl
    simp only [Moment.touch?, if_true, view, Option.elim_some, View.step,
      List.getElem?_set_self hlt, hl, Option.map_some, lane.work_eq hstep]
  · simp only [Moment.touch?, hj, if_false, view, Option.elim_none, List.getElem?_set_ne hj]

/-- The view of a lane moves by itself. -/
theorem view_step {a : Action} (sound : e.Sound opened)
    (fits : e.client.Fits e.context.direction e.lanes.length) (hi : i < e.candidates.length)
    (hs : e.step a = some e') :
    e'.view i = ((Moment.mk e a).touch? i).elim (e.view i)
      ((e.view i).step e.context e.plan) := by
  cases a with
  | call c =>
    obtain ⟨ha, rfl⟩ := step_call_eq_some hs
    exact view_begin sound hi c ha
  | client input => exact view_client sound fits hi (clientStep_of_stepClient hs)
  | worker j input => exact view_worker hs
  | adjust level =>
    cases hs
    rfl

end Engine

namespace Engine

variable {e e' : Engine}

/-- What the client does on a lane is what the lane sees. -/
theorem clientDeed?_eq (fits : e.client.Fits e.context.direction e.lanes.length) (i : Nat) :
    e.clientDeed? i = (e.clientTouch? i).bind ((e.view i).deed? e.context e.plan) := by
  unfold clientDeed? clientTouch? view
  cases hc : e.client with
  | opening todo opened =>
    cases todo with
    | nil => cases opened <;> rfl
    | cons p rest => rfl
  | scaling p => rfl
  | sending j p =>
    rw [hc] at fits
    by_cases hj : j = i
    · subst hj
      simp only [if_true, Option.bind_some, View.deed?, fits.1, ClientState.pending, Nat.le_refl]
      cases e.lanes[j]? <;> rfl
    · simp only [hj, if_false, Option.bind_none]
  | receiving p =>
    rw [hc] at fits
    change e.context.direction = .input at fits
    by_cases hi : i = 0
    · subst hi
      simp only [if_true, Option.bind_some, View.deed?, fits, ClientState.pending]
      cases e.lanes[0]? <;> rfl
    · simp only [hi, if_false, Option.bind_none]
  | _ => rfl

/-- What happens on a lane is what the lane sees. -/
theorem deed?_eq {a : Action} (fits : e.client.Fits e.context.direction e.lanes.length)
    (hs : e.step a = some e') (i : Nat) :
    (Moment.mk e a).deed? i =
      ((Moment.mk e a).touch? i).bind ((e.view i).deed? e.context e.plan) := by
  cases a with
  | call c => cases c <;> rfl
  | adjust level => rfl
  | worker j input =>
    by_cases hj : j = i
    · subst hj
      obtain ⟨lane, lane', note, hl, hstep, -⟩ := stepWorker_eq_some hs
      simp only [Moment.deed?, Moment.touch?, if_true, Option.bind_some, View.deed?, view, hl,
        Option.map_some, lane.deed?_eq hstep]
    · simp only [Moment.deed?, Moment.touch?, hj, if_false, Option.bind_none]
  | client input =>
    cases input with
    | tick => exact clientDeed?_eq fits i
    | spawned result =>
      cases result with
      | error text => rfl
      | ok _ =>
        simp only [Moment.deed?, Moment.touch?]
        split
        · split <;> rfl
        · rfl
    | _ => rfl

end Engine

theorem touches_snoc (i : Nat) (h : List Moment) (m : Moment) :
    touches i (h ++ [m]) = touches i h ++ (m.touch? i).toList := by
  unfold touches
  rw [List.filterMap_append]
  cases hm : m.touch? i <;> simp [hm]

namespace View

variable (c : StreamContext) (plan : StreamPlan) (v : View) (ts : List Touch) (t : Touch)

/-- The changes of a view within a cycle as rules: what it becomes, and what happens on the lane
meanwhile. -/
inductive Change (c : StreamContext) (plan : StreamPlan) (v : View) : View → Option Deed → Prop
  | still (level : Single) : Change c plan v { v with level } none
  | asked {buffer : List UInt8} {frames : Nat} : v.pending = none →
      frames * c.frameSize ≤ buffer.length →
      Change c plan v
        { v with pending := some ⟨frames, buffer.take (frames * c.frameSize), false⟩ } none
  | staffed :
      Change c plan v
        { v with station := v.station.map fun s => ⟨s.pipe, some (s.worker.getD .looping)⟩ } none
  | scaled {frames : Nat} {bytes gained : List UInt8} : v.pending = some ⟨frames, bytes, false⟩ →
      Change c plan v { v with pending := some ⟨frames, gained, true⟩ } (some (.gained gained))
  | sent {s : Station} {frames : Nat} {bytes : List UInt8} : c.direction = .output →
      v.station = some s → v.pending = some ⟨frames, bytes, true⟩ →
      Change c plan v
        { v with station := some ⟨(s.pipe.write bytes).2, s.worker⟩, pending := none }
        (some (.sent bytes frames (s.pipe.write bytes).1))
  | received {s : Station} {frames : Nat} {bytes : List UInt8} : c.direction = .input →
      v.station = some s → v.pending = some ⟨frames, bytes, false⟩ →
      Change c plan v
        { v with station := some ⟨(s.pipe.read bytes.length).2, s.worker⟩, pending := none }
        (some (.ofRead c.frameSize frames bytes.length (s.pipe.read bytes.length).1))
  | halted : Change c plan v { v with isRunning := false } none
  | shut : v.isRunning = false →
      Change c plan v
        { v with station := v.station.map fun s => ⟨s.pipe.shutdown true, s.worker⟩ } none
  | released : Change c plan v { v with station := none } none
  | worked {s : Station} {w w' : WorkerState} {pipe : Pipe} {input : WorkerInput}
      {note : Option Note} : v.station = some s → s.worker = some w →
      w.Move plan v.isRunning "" s.pipe input w' pipe note →
      Change c plan v { v with station := some ⟨pipe, some w'⟩ } (w.deed? plan s.pipe input)

/-- Every touch but a binding changes a view by one of the rules. -/
theorem change_of_step {t : Touch} (ht : t ≠ .bind) :
    v.Change c plan (v.step c plan t) (v.deed? c plan t) := by
  have still : v.Change c plan v none := .still v.level
  cases t with
  | bind => contradiction
  | call a =>
    cases a with
    | setGain level => exact .still (Gain.adjust v.level level)
    | transfer buffer frames =>
      simp only [step]
      split
      · rename_i hst hp
        split
        · exact still
        · rename_i henough
          exact .asked hp (Nat.le_of_not_lt henough)
      · exact still
    | _ => exact still
  | adjust level => exact .still (Gain.adjust v.level level)
  | spawn => exact .staffed
  | scale =>
    simp only [step, deed?]
    split
    · rename_i hp
      exact .scaled hp
    · exact still
  | send =>
    simp only [step, deed?]
    split
    · rename_i hd hst hp
      exact .sent hd hst hp
    · exact still
  | receive =>
    simp only [step, deed?]
    split
    · rename_i hd hst hp
      exact .received hd hst hp
    · exact still
  | halt => exact .halted
  | shut =>
    simp only [step]
    split
    · rename_i hrun
      exact .shut hrun
    · exact still
  | release => exact .released
  | work input =>
    cases hst : v.station with
    | none =>
      simp only [step, deed?, hst, Option.map_none, Option.bind_none]
      rw [← hst]
      exact still
    | some s =>
      simp only [step, deed?, hst, Option.map_some, Option.bind_some]
      rcases s.work_cases plan v.isRunning input with
        ⟨hwork, hdeed⟩ | ⟨w, w', pipe', note, hw, hm, hwork, hdeed⟩
      · rw [hwork, hdeed, ← hst]
        exact still
      · rw [hwork, hdeed]
        exact .worked hst hw hm

/-- Nothing but a binding binds a lane. -/
theorem Change.isBound {c : StreamContext} {plan : StreamPlan} {v v' : View} {d : Deed}
    (h : v.Change c plan v' (some d)) : d.isBound = false := by
  generalize hd : some d = deed at h
  cases h with
  | still level | asked | staffed | halted | shut | released => contradiction
  | scaled | sent | received =>
    obtain rfl := Option.some.inj hd
    rfl
  | worked hst hw hm =>
    rcases WorkerState.deed?_cases hd.symm with ⟨chunk, rfl⟩ | ⟨transfer, outcome, rfl⟩
    · rfl
    · rfl

/-- Within a cycle deeds add up. -/
theorem thisCycle_append (ds : List Deed) {t : Touch} (ht : t ≠ .bind) :
    Deed.thisCycle (ds ++ (v.deed? c plan t).toList) =
      Deed.thisCycle ds ++ (v.deed? c plan t).toList := by
  have change := change_of_step c plan v ht
  cases hd : v.deed? c plan t with
  | none => simp only [Option.toList_none, List.append_nil]
  | some d =>
    rw [hd] at change
    simp only [Option.toList_some, Deed.thisCycle, since_snoc, change.isBound, Bool.false_eq_true,
      if_false]

/-- What holds of a view and the deeds of a cycle when no cycle has begun, when one begins, and
after every change within one, holds in the course of all touches. -/
theorem cycle_induction {c : StreamContext} {plan : StreamPlan} {v : View}
    (holds : View → List Deed → Prop) (start : holds v [])
    (bind : ∀ v, holds (step c plan v .bind) [])
    (within : ∀ v v' d ds, v.Change c plan v' d → holds v ds → holds v' (ds ++ d.toList))
    (ts : List Touch) :
    holds (v.run c plan ts) (Deed.thisCycle (v.deeds c plan ts)) := by
  suffices ∀ (v : View) (ds : List Deed), holds v (Deed.thisCycle ds) →
      holds (v.run c plan ts) (Deed.thisCycle (ds ++ v.deeds c plan ts)) from this v [] start
  induction ts with
  | nil =>
    intro v ds h
    rwa [deeds, List.append_nil]
  | cons t rest ih =>
    intro v ds h
    rw [deeds, ← List.append_assoc]
    refine ih (v.step c plan t) _ ?_
    by_cases ht : t = .bind
    · subst ht
      rw [deed?, Option.toList_some, Deed.thisCycle, since_snoc]
      exact bind v
    · rw [thisCycle_append c plan v ds ht]
      exact within v _ _ _ (change_of_step c plan v ht) h

theorem run_snoc : v.run c plan (ts ++ [t]) = (v.run c plan ts).step c plan t :=
  List.foldl_append

theorem deeds_snoc :
    v.deeds c plan (ts ++ [t]) =
      v.deeds c plan ts ++ ((v.run c plan ts).deed? c plan t).toList := by
  induction ts generalizing v with
  | nil => exact List.append_nil _
  | cons s rest ih =>
    simp only [List.cons_append, deeds, ih, List.append_assoc]
    rfl

end View

/-- What the workers of a stream know, in terms of what the engine was built from. -/
def Blueprint.plan (b : Blueprint) : StreamPlan :=
  ⟨b.context.direction, b.context.frames, b.context.frameSize, b.config.retryPolicy⟩

namespace Run

variable {b : Blueprint} {h : List Moment} {e : Engine} {i : Nat}

/-- Workers know the same in every cycle. -/
theorem plan_eq (run : Run b h e) : e.plan = b.plan := by
  obtain ⟨hcontext, -, hconfig⟩ := run.blueprint
  obtain ⟨hframes, hsize⟩ := run.sound.plan_eq
  unfold Blueprint.plan
  rw [← hcontext, ← hconfig, ← hframes, ← hsize]
  rfl

/-- The same profiles get lanes in every cycle. -/
theorem candidates_eq (run : Run b h e) : e.candidates = b.candidates :=
  Engine.candidates_eq run.blueprint.1 run.blueprint.2.1

/-- A lane has the place of a candidate. -/
theorem lt_candidates (run : Run b h e) {lane : Lane} (hl : e.lanes[i]? = some lane) :
    i < b.candidates.length := by
  have hne : e.lanes ≠ [] := List.ne_nil_of_mem (List.mem_of_getElem? hl)
  obtain ⟨hi, -⟩ := List.getElem?_eq_some_iff.mp hl
  rwa [run.sound.length_lanes hne, run.candidates_eq] at hi

/-- What a lane sees and what happened on it follow from what touched it. -/
theorem view_eq (run : Run b h e) (hi : i < b.candidates.length) :
    e.view i = (View.start b.gain).run b.context b.plan (touches i h) ∧
      deeds i h = (View.start b.gain).deeds b.context b.plan (touches i h) := by
  induction run with
  | built hb =>
    obtain ⟨pcm, -, rfl⟩ := Engine.build_eq_ok hb
    exact ⟨rfl, rfl⟩
  | @snoc h e e' a run hs ih =>
    obtain ⟨hview, hdeeds⟩ := ih
    have hlane : i < e.candidates.length := by rwa [run.candidates_eq]
    rw [touches_snoc, deeds_snoc, Engine.view_step run.sound run.fits hlane hs,
      Engine.deed?_eq run.fits hs, run.blueprint.1, run.plan_eq, hview, hdeeds]
    cases (Moment.mk e a).touch? i with
    | none => simp only [Option.elim_none, Option.bind_none, Option.toList_none, List.append_nil,
        and_self]
    | some t =>
      simp only [Option.elim_some, Option.bind_some, Option.toList_some, View.run_snoc,
        View.deeds_snoc, and_self]

end Run

end AudioRelay
