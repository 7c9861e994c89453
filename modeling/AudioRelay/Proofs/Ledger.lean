import AudioRelay.Proofs.Career

/-!
# The ledger of a stream

In every state of a run the marks since the last start account for the lanes: which profiles the
opener was called for, which devices were stopped, how many workers were counted, and the career
of each. Of a stream that was let go of, every worker's life is told to its end.
-/

namespace AudioRelay

/-- In a list where something is replaced by what looks the same, everything looks the same. -/
theorem map_set_of_eq {α β : Type} {f : α → β} {l : List α} {i : Nat} {x y : α}
    (hx : l[i]? = some x) (hf : f y = f x) : (l.set i y).map f = l.map f := by
  obtain ⟨hi, rfl⟩ := List.getElem?_eq_some_iff.mp hx
  have hi' : i < (l.map f).length := by rwa [List.length_map]
  have hsame : f l[i] = (l.map f)[i] := (List.getElem_map f).symm
  rw [List.map_set, hf, hsame, List.set_getElem_self hi']

namespace Engine

variable {e e' : Engine} {ms : List Mark}

/-- How far the client has brought its lanes. -/
def standing (e : Engine) : Standing := e.client.standing e.lanes.length

/-- A call that begins no start finds no lane unaccounted for, and leaves it so. -/
theorem begin_standing {a : Answer} (hc : e.client = .answered a) {c : Call}
    (hstart : ¬Moment.isStart ⟨e, .call c⟩ = true) :
    (e.begin c).client.standing e.lanes.length = e.client.standing e.lanes.length ∧
      ∀ todo ids, (e.begin c).client ≠ .opening todo ids := by
  rw [hc]
  cases c with
  | start =>
    have hidle : ¬e.isIdle = true := hstart
    rw [begin, if_neg hidle]
    exact ⟨rfl, fun todo ids hc => by contradiction⟩
  | negotiate | refine | drain | standby =>
    simp only [begin]
    split <;> exact ⟨rfl, fun todo ids hc => by contradiction⟩
  | transfer buffer frames =>
    simp only [begin, beginTransfer]
    split
    · exact ⟨rfl, fun todo ids hc => by contradiction⟩
    · split
      · exact ⟨rfl, fun todo ids hc => by contradiction⟩
      · split <;> exact ⟨rfl, fun todo ids hc => by contradiction⟩
  | setGain | pause | flush => exact ⟨rfl, fun todo ids hc => by contradiction⟩

/-- What the marks of a cycle tell of the lanes that are bound or about to be. -/
structure Ledger (e : Engine) (ms : List Mark) : Prop where
  opening : ∀ todo ids, e.client = .opening todo ids →
    ∃ ps, ms = ps.map .asked ∧ ps ++ todo = e.candidates
  asks : e.lanes ≠ [] → Mark.asks ms = e.candidates
  stops : e.lanes ≠ [] → Mark.stops ms = (e.lanes.map (·.device)).take e.standing.stopped
  enrolled : e.lanes ≠ [] → ms.countP Mark.isEnrolled + e.standing.uncounted =
    e.lanes.countP (·.worker.isSome)
  careers : ∀ i lane, e.lanes[i]? = some lane →
    Career e.context.direction e.config.retryPolicy.spare e.isRunning e.standing ms i lane
  settled : ∀ i, e.lanes.length ≤ i → Mark.Settled i ms

namespace Ledger

/-- Without lanes there is nothing to account for but the lives of workers that are no more. -/
theorem off (off : e.lanes = []) (closed : ∀ todo ids, e.client ≠ .opening todo ids)
    (settled : ∀ i, Mark.Settled i ms) : e.Ledger ms where
  settled := fun i _ => settled i
  opening := fun todo ids hc => absurd hc (closed todo ids)
  asks := fun hne => absurd off hne
  stops := fun hne => absurd off hne
  enrolled := fun hne => absurd off hne
  careers := by
    intro i lane hl
    rw [off] at hl
    contradiction

/-- While devices are opened the marks are the calls of the opener. -/
theorem opens (ps : List DeviceProfile) {todo : List DeviceProfile}
    {ids : List (DeviceId × Nat)} (off : e.lanes = []) (hc : e.client = .opening todo ids)
    (called : ps ++ todo = e.candidates) : e.Ledger (ps.map .asked) where
  opening := by
    intro todo' ids' hc'
    obtain ⟨rfl, rfl⟩ := ClientState.opening.inj (hc.symm.trans hc')
    exact ⟨ps, rfl, called⟩
  asks := fun hne => absurd off hne
  stops := fun hne => absurd off hne
  enrolled := fun hne => absurd off hne
  careers := by
    intro i lane hl
    rw [off] at hl
    contradiction
  settled := fun i _ => .inl (Mark.life_map_asked ps)

/-- What touches neither the lanes nor the standing of the client leaves the ledger as it is. -/
theorem keep (h : e.Ledger ms) (lanes : e'.lanes = e.lanes) (running : e'.isRunning = e.isRunning)
    (context : e'.context = e.context) (profiles : e'.profiles = e.profiles)
    (config : e'.config = e.config)
    (standing : e'.client.standing e.lanes.length = e.client.standing e.lanes.length)
    (closed : ∀ todo ids, e'.client ≠ .opening todo ids) : e'.Ledger ms := by
  have hstanding : e'.standing = e.standing := by rw [Engine.standing, lanes, standing]; rfl
  have hcandidates : e'.candidates = e.candidates := by rw [candidates, context, profiles]; rfl
  constructor
  case opening => exact fun todo ids hc => absurd hc (closed todo ids)
  case asks => rw [lanes, hcandidates]; exact h.asks
  case stops => rw [lanes, hstanding]; exact h.stops
  case enrolled => rw [lanes, hstanding]; exact h.enrolled
  case careers => rw [lanes, hstanding, running, context, config]; exact h.careers
  case settled => rw [lanes]; exact h.settled

/-- Another lane of the same device takes the place of a lane, and the marks tell its career. -/
theorem set (h : e.Ledger ms) {i : Nat} {lane lane' : Lane} {m : Option Mark}
    (hl : e.lanes[i]? = some lane) (lanes : e'.lanes = e.lanes.set i lane')
    (device : lane'.device = lane.device) (staffed : lane'.worker.isSome = lane.worker.isSome)
    (running : e'.isRunning = e.isRunning) (context : e'.context = e.context)
    (profiles : e'.profiles = e.profiles) (config : e'.config = e.config)
    (standing : e'.client.standing e.lanes.length = e.client.standing e.lanes.length)
    (closed : ∀ todo ids, e'.client ≠ .opening todo ids)
    (mark : ∀ x, m = some x → x.lane? = some i ∧ Mark.asks [x] = [] ∧ Mark.stops [x] = [] ∧
      x.isEnrolled = false)
    (career : Career e.context.direction e.config.retryPolicy.spare e.isRunning e.standing
      (ms ++ m.toList) i lane') : e'.Ledger (ms ++ m.toList) := by
  have hne : e.lanes ≠ [] := List.ne_nil_of_mem (List.mem_of_getElem? hl)
  have hstanding : e'.standing = e.standing := by
    rw [Engine.standing, lanes, List.length_set, standing]
    rfl
  have hcandidates : e'.candidates = e.candidates := by rw [candidates, context, profiles]; rfl
  obtain ⟨hasks, hstops, henrolled⟩ : Mark.asks m.toList = [] ∧ Mark.stops m.toList = [] ∧
      m.toList.countP Mark.isEnrolled = 0 := by
    cases m with
    | none => exact ⟨rfl, rfl, rfl⟩
    | some x =>
      obtain ⟨-, hasks, hstops, henrolled⟩ := mark x rfl
      exact ⟨hasks, hstops, by simp [henrolled]⟩
  constructor
  case opening => exact fun todo ids hc => absurd hc (closed todo ids)
  case asks =>
    intro _
    rw [Mark.asks_append, hasks, List.append_nil, hcandidates, h.asks hne]
  case stops =>
    intro _
    rw [Mark.stops_append, hstops, List.append_nil, hstanding, lanes, map_set_of_eq hl device,
      h.stops hne]
  case enrolled =>
    intro _
    have hcount : (e.lanes.set i lane').countP (·.worker.isSome) =
        e.lanes.countP (·.worker.isSome) := by
      have hmap := map_set_of_eq (f := fun lane : Lane => lane.worker.isSome) hl staffed
      have hid (l : List Lane) :
          l.countP (·.worker.isSome) = (l.map (·.worker.isSome)).countP id := by
        rw [List.countP_map]
        rfl
      rw [hid, hid, hmap]
    rw [List.countP_append, henrolled, Nat.add_zero, hstanding, lanes, hcount, h.enrolled hne]
  case careers =>
    intro j x hx
    rw [lanes, List.getElem?_set] at hx
    rw [hstanding, running, context, config]
    split at hx
    · rename_i hij
      subst hij
      split at hx
      · cases hx
        exact career
      · contradiction
    · rename_i hij
      refine (h.careers j x hx).of_life (Mark.life_append ?_)
      intro y hy heq
      rw [(mark y hy).1] at heq
      exact hij (Option.some.inj heq)
  case settled =>
    intro j hj
    rw [lanes, List.length_set] at hj
    refine (h.settled j hj).of_life (Mark.life_append ?_)
    intro y hy heq
    rw [(mark y hy).1] at heq
    obtain rfl := Option.some.inj heq
    obtain ⟨hi, -⟩ := List.getElem?_eq_some_iff.mp hl
    omega

/-- The client moves frames through the pipe of a lane. -/
theorem move (h : e.Ledger ms) {i : Nat} {lane : Lane} {pipe : Pipe} {client : ClientState}
    (hl : e.lanes[i]? = some lane) (shut : pipe.isShut = lane.pipe.isShut)
    (standing : client.standing e.lanes.length = e.client.standing e.lanes.length)
    (closed : ∀ todo ids, client ≠ .opening todo ids) :
    Ledger { e with lanes := e.lanes.set i { lane with pipe }, client } ms := by
  rw [← List.append_nil ms]
  refine h.set (m := none) hl rfl rfl rfl rfl rfl rfl rfl standing closed (by simp) ?_
  have career := h.careers i lane hl
  rw [Option.toList_none, List.append_nil]
  exact career.pipe (fun hrun => shut.trans (career.unshut hrun))
    (fun hs hd => shut.trans (career.shut hs hd))

/-- A worker's action goes on with the career of its lane. -/
theorem worker (h : e.Ledger ms) (closed : ∀ todo ids, e.client ≠ .opening todo ids) {i : Nat}
    {input : WorkerInput} (hs : e.stepWorker i input = some e') :
    e'.Ledger (ms ++ (Moment.mk e (.worker i input)).mark?.toList) := by
  obtain ⟨lane, w, w', pipe, note, hl, hw, hm, he⟩ := stepWorker_eq_leave hs
  obtain ⟨counters, journal, hleft⟩ :=
    { e with lanes := e.lanes.set i { lane with pipe, worker := some w' } }.leave_eq
      (e.workerName i) note
  rw [hleft] at he
  have hmark : (Moment.mk e (.worker i input)).mark? = w.mark? i lane.id input := by
    simp only [Moment.mark?, hl, hw, Option.bind_some]
  rw [hmark]
  have career := (h.careers i lane hl).work e.plan hw hm
  subst he
  refine h.set hl rfl rfl (by rw [hw]; rfl) rfl rfl rfl rfl rfl closed ?_ career
  intro x hx
  unfold WorkerState.mark? at hx
  split at hx
  · cases hx
    exact ⟨rfl, rfl, rfl, rfl⟩
  · cases hx
    exact ⟨rfl, rfl, rfl, rfl⟩
  · contradiction

/-- The client goes on over the same lanes. -/
theorem advance (h : e.Ledger ms) {m : Option Mark} (lanes : e'.lanes = e.lanes)
    (context : e'.context = e.context) (profiles : e'.profiles = e.profiles)
    (config : e'.config = e.config) (closed : ∀ todo ids, e'.client ≠ .opening todo ids)
    (asks : Mark.asks m.toList = [])
    (stops : Mark.stops ms = (e.lanes.map (·.device)).take e.standing.stopped →
      Mark.stops (ms ++ m.toList) = (e.lanes.map (·.device)).take e'.standing.stopped)
    (enrolled : m.toList.countP Mark.isEnrolled + e'.standing.uncounted = e.standing.uncounted)
    (careers : ∀ i lane, e.lanes[i]? = some lane →
      Career e.context.direction e.config.retryPolicy.spare e.isRunning e.standing ms i lane →
      Career e.context.direction e.config.retryPolicy.spare e'.isRunning e'.standing
        (ms ++ m.toList) i lane)
    (settled : ∀ i, e.lanes.length ≤ i →
      Mark.life i (ms ++ m.toList) = Mark.life i ms) :
    e'.Ledger (ms ++ m.toList) := by
  have hcandidates : e'.candidates = e.candidates := by rw [candidates, context, profiles]; rfl
  constructor
  case opening => exact fun todo ids hc => absurd hc (closed todo ids)
  case asks =>
    intro hne
    rw [lanes] at hne
    rw [Mark.asks_append, asks, List.append_nil, hcandidates, h.asks hne]
  case stops =>
    intro hne
    rw [lanes] at hne ⊢
    exact stops (h.stops hne)
  case enrolled =>
    intro hne
    rw [lanes] at hne ⊢
    rw [List.countP_append, Nat.add_assoc, enrolled, h.enrolled hne]
  case careers =>
    intro i lane hl
    rw [lanes] at hl
    rw [context, config]
    exact careers i lane hl (h.careers i lane hl)
  case settled =>
    intro i hi
    rw [lanes] at hi
    exact (h.settled i hi).of_life (settled i hi)

variable {opened : List (DeviceProfile × Nat)}

/-- Opened devices are bound by lanes without a career. -/
theorem bind (h : e.Ledger ms) {ids : List (DeviceId × Nat)}
    (hc : e.client = .opening [] ids) :
    Ledger { e with
      lanes := ids.map fun (id, device) => Lane.fresh e.plan id device
      isRunning := true
      client := .spawning 0 } ms := by
  obtain ⟨ps, rfl, hall⟩ := h.opening [] ids hc
  rw [List.append_nil] at hall
  constructor
  case opening => exact fun todo ids hc => by contradiction
  case asks => exact fun _ => (Mark.asks_map_asked ps).trans hall
  case stops => exact fun _ => Mark.stops_map_asked ps
  case enrolled =>
    intro _
    have hnone : ∀ l : List (DeviceId × Nat),
        (l.map fun (id, device) => Lane.fresh e.plan id device).countP (·.worker.isSome) = 0 := by
      intro l
      rw [List.countP_map]
      exact List.countP_eq_zero.mpr fun _ _ => by simp [Lane.fresh]
    have hcalls : (ps.map Mark.asked).countP Mark.isEnrolled = 0 := by
      rw [List.countP_map]
      exact List.countP_eq_zero.mpr fun _ _ => by simp [Mark.isEnrolled]
    exact (congrArg (· + 0) hcalls).trans (hnone ids).symm
  case careers =>
    intro i lane hl
    obtain ⟨⟨id, device⟩, -, rfl⟩ :=
      Option.map_eq_some_iff.mp ((List.getElem?_map ..).symm.trans hl)
    exact .fresh e.plan _ _ _ ps i id device
  case settled => exact fun i _ => .inl (Mark.life_map_asked ps)

/-- The thread of a worker is created. -/
theorem spawn (h : e.Ledger ms) (sound : e.Sound opened) {i : Nat} {lane : Lane}
    (hc : e.client = .spawning i) (hl : e.lanes[i]? = some lane) :
    Ledger { e with
      lanes := e.lanes.set i { lane with worker := some .looping }
      client := .enrolling i } (ms ++ [.spawned i]) := by
  have hst := sound.stage
  rw [hc] at hst
  obtain ⟨hi, hlane⟩ := List.getElem?_eq_some_iff.mp hl
  have hw : lane.worker = none := by
    have staffed := hst.1.staffed i lane hl
    simpa using staffed
  have standing : e.standing = ⟨none, 0, false, 0, 0⟩ := by
    rw [Engine.standing, hc]
    rfl
  have hne : e.lanes ≠ [] := hst.1.nonempty
  constructor
  case opening => exact fun todo ids hc => by contradiction
  case asks =>
    intro _
    rw [Mark.asks_append]
    exact (List.append_nil _).trans (h.asks hne)
  case stops =>
    intro _
    have stops := h.stops hne
    rw [standing] at stops
    rw [Mark.stops_append, stops]
    rfl
  case enrolled =>
    intro _
    have count := h.enrolled hne
    rw [standing] at count
    rw [List.countP_append, List.countP_set hi, hlane, hw]
    simpa [Mark.isEnrolled, Engine.standing, ClientState.standing] using count
  case careers =>
    intro j x hx
    rw [List.getElem?_set] at hx
    split at hx
    · rename_i hij
      subst hij
      cases hx
      have career := h.careers i lane hl
      rw [standing] at career
      exact career.spawn hw
    · rename_i hij
      have career := h.careers j x hx
      rw [standing] at career
      have hother : Mark.life j (ms ++ [.spawned i]) = Mark.life j ms :=
        Mark.life_concat (by simp [hij]) (by simp) (fun heq => absurd (Option.some.inj heq) hij)
      refine (career.of_life hother).stand ?_ (by simp [Engine.standing, ClientState.standing])
        (by simp [Engine.standing, ClientState.standing])
      simp [Engine.standing, ClientState.standing, hij]
  case settled =>
    intro j hj
    rw [List.length_set] at hj
    have hij : i ≠ j := by omega
    exact (h.settled j hj).of_life
      (Mark.life_concat (by simp [hij]) (by simp) (fun heq => absurd (Option.some.inj heq) hij))

/-- The running flag is cleared. -/
theorem halt (h : e.Ledger ms) {a : Answer} (hc : e.client = .halting a) :
    Ledger { e with isRunning := false, client := .sealing a } ms := by
  have hsame : e.standing = ⟨none, 0, false, 0, 0⟩ := by rw [Engine.standing, hc]; rfl
  rw [← List.append_nil ms]
  refine h.advance (m := none) rfl rfl rfl rfl (fun todo ids hc => by contradiction) rfl ?_ ?_ ?_
    (fun i _ => congrArg (Mark.life i) (List.append_nil ms))
  · intro stops
    rw [hsame] at stops
    rw [Option.toList_none, List.append_nil]
    exact stops
  · rw [hsame]
    rfl
  · intro i lane hl career
    rw [hsame] at career
    rw [Option.toList_none, List.append_nil]
    exact { career with loops := by simp, unshut := by simp }

/-- The pipes of a capture stream are shut. -/
theorem shut (h : e.Ledger ms) (running : e.isRunning = false) {a : Answer}
    (hc : e.client = .sealing a) :
    Ledger { e.shutCapture with client := .stopping 0 a } ms := by
  have hsame : e.standing = ⟨none, 0, false, 0, 0⟩ := by rw [Engine.standing, hc]; rfl
  unfold shutCapture
  cases hd : e.context.direction with
  | output =>
    rw [← List.append_nil ms]
    refine h.advance (m := none) rfl rfl rfl rfl (fun todo ids hc => by contradiction) rfl ?_ ?_ ?_
      (fun i _ => congrArg (Mark.life i) (List.append_nil ms))
    · intro stops
      rw [hsame] at stops
      rw [Option.toList_none, List.append_nil]
      exact stops
    · rw [hsame]
      rfl
    · intro i lane hl career
      rw [hsame] at career
      rw [Option.toList_none, List.append_nil]
      refine career.stand (by simp [Engine.standing, ClientState.standing]) ?_
        (by simp [Engine.standing, ClientState.standing])
      intro _ hin
      rw [hd] at hin
      contradiction
  | input =>
    have hne : e.lanes.map (fun lane => { lane with pipe := lane.pipe.shutdown true }) ≠ [] →
        e.lanes ≠ [] := fun hne hnil => hne (by rw [hnil]; rfl)
    constructor
    case opening => exact fun todo ids hc => by contradiction
    case asks => exact fun hlanes => h.asks (hne hlanes)
    case stops =>
      intro hlanes
      have stops := h.stops (hne hlanes)
      rw [hsame] at stops
      exact stops
    case enrolled =>
      intro hlanes
      have count := h.enrolled (hne hlanes)
      rw [hsame] at count
      dsimp only
      rw [List.countP_map]
      exact count
    case careers =>
      intro i lane hl
      obtain ⟨old, hold, rfl⟩ := Option.map_eq_some_iff.mp ((List.getElem?_map ..).symm.trans hl)
      have career := h.careers i old hold
      rw [hsame, running] at career
      have hshut : Career e.context.direction e.config.retryPolicy.spare false
          ⟨none, 0, false, 0, 0⟩ ms i { old with pipe := old.pipe.shutdown true } :=
        career.pipe (by simp) (by simp)
      dsimp only
      rw [running]
      exact hshut.stand (by simp [Engine.standing, ClientState.standing]) (fun _ _ => rfl)
        (by simp [Engine.standing, ClientState.standing])
    case settled =>
      intro i hi
      exact h.settled i (by rwa [List.length_map] at hi)

/-- A device is stopped. -/
theorem stop (h : e.Ledger ms) {i : Nat} {lane : Lane} {a : Answer} (hc : e.client = .stopping i a)
    (hl : e.lanes[i]? = some lane) :
    Ledger { e with client := .stopping (i + 1) a } (ms ++ [.stopped i lane.device]) := by
  have hsame : e.standing = ⟨none, 0, true, i, 0⟩ := by rw [Engine.standing, hc]; rfl
  have hlife (j : Nat) : Mark.life j (ms ++ [.stopped i lane.device]) = Mark.life j ms :=
    Mark.life_concat (by simp) (by simp) (fun _ => rfl)
  refine h.advance (m := some (.stopped i lane.device)) rfl rfl rfl rfl
    (fun todo ids hc => by contradiction) rfl ?_ ?_ ?_ (fun j _ => hlife j)
  · intro stops
    rw [hsame] at stops
    rw [Mark.stops_append, stops]
    simp [Engine.standing, ClientState.standing, List.take_add_one, hl, Mark.stops]
  · rw [hsame]
    rfl
  · intro j x hx career
    rw [hsame] at career
    exact (career.of_life (hlife j)).stand (by simp [Engine.standing, ClientState.standing])
      (fun _ => career.shut rfl) (by simp [Engine.standing, ClientState.standing])

/-- A worker is counted. -/
theorem enroll (h : e.Ledger ms) {i : Nat} (hc : e.client = .enrolling i) (counters : Counters) :
    Ledger { e with counters, client := .heralding i } (ms ++ [.enrolled i]) := by
  have hsame : e.standing = ⟨some i, 1, false, 0, 0⟩ := by rw [Engine.standing, hc]; rfl
  have hlife (j : Nat) : Mark.life j (ms ++ [.enrolled i]) = Mark.life j ms :=
    Mark.life_concat (by simp) (by simp) (fun _ => rfl)
  refine h.advance (m := some (.enrolled i)) rfl rfl rfl rfl
    (fun todo ids hc => by contradiction) rfl ?_ ?_ ?_ (fun j _ => hlife j)
  · intro stops
    rw [hsame] at stops
    rw [Mark.stops_append, stops]
    rfl
  · rw [hsame]
    rfl
  · intro j x hx career
    rw [hsame] at career
    exact (career.of_life (hlife j)).stand (by simp [Engine.standing, ClientState.standing])
      (by simp [Engine.standing, ClientState.standing])
      (by simp [Engine.standing, ClientState.standing])

/-- A worker is announced. -/
theorem herald (h : e.Ledger ms) (sound : e.Sound opened) {i : Nat} {lane : Lane}
    (hc : e.client = .heralding i) (hl : e.lanes[i]? = some lane)
    (journal : List (String × Event)) :
    Ledger { e with client := .spawning (i + 1), journal } (ms ++ [.announced i lane.id]) := by
  have hst := sound.stage
  rw [hc] at hst
  have hrun : e.isRunning = true := hst.2
  have hsame : e.standing = ⟨some i, 0, false, 0, 0⟩ := by rw [Engine.standing, hc]; rfl
  have hlife {j : Nat} (hij : i ≠ j) :
      Mark.life j (ms ++ [.announced i lane.id]) = Mark.life j ms :=
    Mark.life_concat (by simp) (by simp) (fun heq => absurd (Option.some.inj heq) hij)
  refine h.advance (m := some (.announced i lane.id)) rfl rfl rfl rfl
    (fun todo ids hc => by contradiction) rfl ?_ ?_ ?_ (fun j hj => hlife ?_)
  · intro stops
    rw [hsame] at stops
    rw [Mark.stops_append, stops]
    rfl
  · rw [hsame]
    rfl
  · intro j x hx career
    rw [hsame, hrun] at career
    dsimp only
    rw [hrun]
    by_cases hij : i = j
    · subst hij
      obtain rfl := Option.some.inj (hl.symm.trans hx)
      have staffed := (hst.1.staffed i lane hl).mpr (Nat.lt_succ_self i)
      exact career.announce staffed
    · exact (career.of_life (hlife hij)).stand
        (by simp [Engine.standing, ClientState.standing, hij])
        (by simp [Engine.standing, ClientState.standing])
        (by simp [Engine.standing, ClientState.standing])
  · obtain ⟨hi, -⟩ := List.getElem?_eq_some_iff.mp hl
    omega

/-- Joining goes on over the same lanes, of which the first `n` have no thread any more. -/
theorem join (h : e.Ledger ms) {client : ClientState} {n : Nat}
    (closed : ∀ todo ids, client ≠ .opening todo ids)
    (before : ∃ m, e.standing = ⟨none, 0, true, m, 0⟩ ∧ e.lanes.length ≤ m ∨
      e.standing = ⟨none, 0, true, e.lanes.length, m⟩)
    (after : client.standing e.lanes.length = ⟨none, 0, true, e.lanes.length, n⟩)
    (quiet : ∀ i lane, e.lanes[i]? = some lane → i < n →
      i < e.standing.joined ∨ lane.isQuiet = true) :
    Ledger { e with client } ms := by
  have hafter : ({ e with client } : Engine).standing = ⟨none, 0, true, e.lanes.length, n⟩ := after
  have hall : (e.lanes.map (·.device)).take e.lanes.length = e.lanes.map (·.device) :=
    List.take_of_length_le (Nat.le_of_eq (List.length_map _))
  obtain ⟨hunannounced, huncounted, hsealed, hstopped⟩ : e.standing.unannounced = none ∧
      e.standing.uncounted = 0 ∧ e.standing.isSealed = true ∧
      (e.lanes.map (·.device)).take e.standing.stopped = e.lanes.map (·.device) := by
    obtain ⟨m, ⟨hm, hle⟩ | hm⟩ := before
    · rw [hm]
      exact ⟨rfl, rfl, rfl, List.take_of_length_le (by rwa [List.length_map])⟩
    · rw [hm]
      exact ⟨rfl, rfl, rfl, hall⟩
  rw [← List.append_nil ms]
  refine h.advance (m := none) rfl rfl rfl rfl closed rfl ?_ ?_ ?_
    (fun i _ => congrArg (Mark.life i) (List.append_nil ms))
  · intro stops
    rw [Option.toList_none, List.append_nil, stops, hstopped, hafter, hall]
  · rw [hafter, huncounted]
    rfl
  · intro i lane hl career
    rw [Option.toList_none, List.append_nil, hafter]
    refine career.stand (by rw [hunannounced]) (fun _ => career.shut hsealed) ?_
    intro hi
    exact (quiet i lane hl hi).elim career.joined id

/-- When the client lets go of the lanes, the life of every worker is told to its end. -/
theorem over_at_release (h : e.Ledger ms) {a : Answer} (hc : e.client = .releasing a) (i : Nat) :
    Mark.Settled i ms := by
  have hsame : e.standing = ⟨none, 0, true, e.lanes.length, e.lanes.length⟩ := by
    rw [Engine.standing, hc]
    rfl
  rcases Nat.lt_or_ge i e.lanes.length with hi | hi
  · have career := h.careers i e.lanes[i] (List.getElem?_eq_getElem hi)
    rw [hsame] at career
    exact career.settled (career.joined hi) (by simp)
  · exact h.settled i hi

/-- Every action of the client keeps the ledger. -/
theorem client {input : ClientInput} (h : e.Ledger ms) (sound : e.Sound opened)
    (hs : ClientStep e input e') : e'.Ledger (ms ++ (e.clientMark? input).toList) := by
  have hst := sound.stage
  cases hs with
  | @opened p rest ids device hc =>
    rw [hc] at hst
    obtain ⟨ps, rfl, hall⟩ := h.opening (p :: rest) ids hc
    simp only [clientMark?, hc]
    have hasked : ps.map .asked ++ [.asked p] = (ps ++ [p]).map Mark.asked := by
      rw [List.map_append]
      rfl
    rw [Option.toList_some, hasked]
    exact .opens (ps ++ [p]) hst.1 rfl ((List.append_assoc ps [p] rest).trans hall)
  | @refused p rest ids fault hc =>
    rw [hc] at hst
    obtain ⟨ps, rfl, -⟩ := h.opening (p :: rest) ids hc
    simp only [clientMark?, hc]
    refine Ledger.off hst.1 (fun todo ids hc => by contradiction) fun i => ?_
    rw [Option.toList_some, ← List.map_singleton, ← List.map_append]
    exact .inl (Mark.life_map_asked _)
  | unserved hc =>
    rw [hc] at hst
    obtain ⟨ps, rfl, -⟩ := h.opening [] [] hc
    simp only [clientMark?, hc, Option.toList_none, List.append_nil]
    exact Ledger.off hst.1 (fun todo ids hc => by contradiction) fun i =>
      .inl (Mark.life_map_asked _)
  | released hc =>
    simp only [clientMark?, hc, Option.toList_none, List.append_nil]
    exact Ledger.off rfl (fun todo ids hc => by contradiction) (h.over_at_release hc)
  | bound hc hne =>
    simp only [clientMark?, hc, Option.toList_none, List.append_nil]
    exact h.bind hc
  | spawned hc hl =>
    simp only [clientMark?, hc]
    exact h.spawn sound hc hl
  | enrolled hc =>
    simp only [clientMark?, hc]
    exact h.enroll hc _
  | heralded hc hl =>
    simp only [clientMark?, hc, hl, Option.map_some]
    exact h.herald sound hc hl _
  | halted hc =>
    simp only [clientMark?, hc, Option.toList_none, List.append_nil]
    exact h.halt hc
  | sealed hc =>
    rw [hc] at hst
    simp only [clientMark?, hc, Option.toList_none, List.append_nil]
    exact h.shut hst.2 hc
  | stopped hc hl =>
    simp only [clientMark?, hc, hl, Option.map_some]
    exact h.stop hc hl
  | @allStopped i a hc hl =>
    simp only [clientMark?, hc, hl, Option.map_none, Option.toList_none, List.append_nil]
    rw [List.getElem?_eq_none_iff] at hl
    refine h.join (n := 0) (fun todo ids hc => by contradiction) ⟨i, .inl ⟨?_, hl⟩⟩ rfl ?_
    · rw [Engine.standing, hc]
      rfl
    · exact fun i lane hl hi => absurd hi (Nat.not_lt_zero i)
  | @joined i lane a hc hl hq =>
    simp only [clientMark?, hc, Option.toList_none, List.append_nil]
    have hsame : e.standing = ⟨none, 0, true, e.lanes.length, i⟩ := by rw [Engine.standing, hc]; rfl
    refine h.join (n := i + 1) (fun todo ids hc => by contradiction) ⟨i, .inr hsame⟩ rfl ?_
    intro j x hx hj
    rw [hsame]
    rcases Nat.lt_succ_iff_lt_or_eq.mp hj with hlt | rfl
    · exact .inl hlt
    · obtain rfl := Option.some.inj (hl.symm.trans hx)
      exact .inr hq
  | @allJoined i a hc hl =>
    simp only [clientMark?, hc, Option.toList_none, List.append_nil]
    rw [List.getElem?_eq_none_iff] at hl
    have hsame : e.standing = ⟨none, 0, true, e.lanes.length, i⟩ := by rw [Engine.standing, hc]; rfl
    refine h.join (n := e.lanes.length) (fun todo ids hc => by contradiction) ⟨i, .inr hsame⟩ rfl ?_
    intro j x hx hj
    rw [hsame]
    exact .inl (Nat.lt_of_lt_of_le hj hl)
  | @sent i p lane frames pipe hc hl hw =>
    have hshut := lane.pipe.write_isShut p.moved
    rw [hw] at hshut
    simp only [clientMark?, hc, Option.toList_none, List.append_nil]
    refine h.move hl hshut ?_ ?_
    · rw [hc]
      split <;> rfl
    · intro todo ids hc
      split at hc <;> contradiction
  | @received p lane rest bytes pipe frames q hc hl hr hf hq =>
    have hshut := lane.pipe.read_isShut p.moved.length
    rw [hr] at hshut
    have hzero : e.lanes[0]? = some lane := by rw [hl]; rfl
    have hset : { lane with pipe } :: rest = e.lanes.set 0 { lane with pipe } := by rw [hl]; rfl
    simp only [clientMark?, hc, Option.toList_none, List.append_nil]
    rw [hset]
    refine h.move hzero hshut ?_ ?_
    · rw [hc]
      split <;> rfl
    · intro todo ids hc
      split at hc <;> contradiction
  | located hc =>
    simp only [clientMark?, hc, Option.toList_none, List.append_nil]
    unfold locate
    split
    all_goals
      refine h.keep rfl rfl rfl rfl rfl ?_ (fun todo ids hc => by contradiction)
      rw [hc]
      rfl
  | @latencyTold i ms' p hc =>
    simp only [clientMark?, hc, Option.toList_none, List.append_nil]
    refine h.keep rfl rfl rfl rfl rfl ?_ ?_
    · rw [hc]
      dsimp only [afterLatency]
      split <;> rfl
    · intro todo ids hc
      dsimp only [afterLatency] at hc
      split at hc <;> contradiction
  | spawnRefused hc | staffed hc | scaled hc | allSent hc | dropCounted hc | dropReported hc
  | silenceCounted hc | silenceReported hc | transferred hc | rebased hc | drained hc =>
    simp only [clientMark?, hc, Option.toList_none, List.append_nil]
    refine h.keep rfl rfl rfl rfl rfl ?_ (fun todo ids hc => by contradiction)
    rw [hc]
    rfl

/-- A call leaves the ledger as it is, unless it begins a start that has devices to open. -/
theorem call (h : e.Ledger ms) {a : Answer} (hc : e.client = .answered a) (c : Call) :
    (e.begin c).Ledger (if Moment.isStart ⟨e, .call c⟩ then [] else ms) := by
  by_cases hstart : Moment.isStart ⟨e, .call c⟩ = true
  · rw [if_pos hstart]
    cases c with
    | start =>
      have hidle : e.isIdle = true := hstart
      have hoff : e.lanes = [] := List.isEmpty_iff.mp hidle
      simp only [begin, hidle, if_true]
      exact .opens [] hoff rfl rfl
    | _ => contradiction
  · rw [if_neg hstart]
    obtain ⟨hlanes, hrun, -, -, -⟩ := e.begin_keeps c
    obtain ⟨hcontext, hprofiles, hconfig⟩ := e.begin_blueprint c
    obtain ⟨hstanding, hclosed⟩ := e.begin_standing hc hstart
    exact h.keep hlanes hrun hcontext hprofiles hconfig hstanding hclosed

/-- Every atomic action keeps the ledger of the marks since the last start. -/
theorem step {history : List Moment} {a : Action} (h : e.Ledger (marks (ofStart history)))
    (sound : e.Sound (openings history)) (hs : e.step a = some e') :
    e'.Ledger (marks (ofStart (history ++ [⟨e, a⟩]))) := by
  unfold ofStart at h ⊢
  rw [since_snoc]
  cases a with
  | call c =>
    obtain ⟨ha, rfl⟩ := step_call_eq_some hs
    obtain ⟨a, hc⟩ := answered_of_isSome ha
    have hcall := h.call hc c
    split
    · rename_i hstart
      rwa [if_pos hstart] at hcall
    · rename_i hstart
      rw [if_neg hstart] at hcall
      rw [marks_append, marks_singleton]
      exact (List.append_nil _).symm ▸ hcall
  | client input =>
    rw [if_neg (by simp [Moment.isStart]), marks_append, marks_singleton]
    exact h.client sound (clientStep_of_stepClient hs)
  | worker i input =>
    rw [if_neg (by simp [Moment.isStart]), marks_append, marks_singleton]
    refine h.worker ?_ hs
    -- while devices are opened there is no lane for a worker to move on
    intro todo ids hc
    have hst := sound.stage
    rw [hc] at hst
    obtain ⟨lane, -, -, hl, -⟩ := stepWorker_eq_some hs
    rw [hst.1] at hl
    contradiction
  | adjust level =>
    rw [if_neg (by simp [Moment.isStart]), marks_append, marks_singleton]
    cases hs
    obtain ⟨opening, asks, stops, enrolled, careers, settled⟩ := h
    rw [Moment.mark?, Option.toList_none, List.append_nil]
    exact ⟨opening, asks, stops, enrolled, careers, settled⟩

end Ledger

end Engine

/-- In every state of a run the marks since the last start tell the careers of the lanes. -/
theorem Run.ledger {b : Blueprint} {h : List Moment} {e : Engine} (run : Run b h e) :
    e.Ledger (marks (ofStart h)) := by
  induction run with
  | built hb =>
    obtain ⟨pcm, -, rfl⟩ := Engine.build_eq_ok hb
    exact .off rfl (fun todo ids hc => by contradiction) fun i => .inl rfl
  | snoc run hs ih => exact ih.step run.sound hs

/-- Of a stream that was let go of, every worker's life is told to its end. -/
theorem Run.settled {b : Blueprint} {h : List Moment} {e : Engine} (run : Run b h e)
    (off : e.lanes = []) (i : Nat) : Mark.Settled i (marks (ofStart h)) :=
  run.ledger.settled i (by rw [off]; exact Nat.zero_le i)

end AudioRelay
