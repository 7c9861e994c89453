import Mathlib.Data.List.Induction
import AudioRelay.Proofs.Chronicle
import AudioRelay.Proofs.Lifecycle

/-!
# What an onlooker notes of a stream

Of the life of a stream an onlooker notes the calls of the opener, the workers that were
created, counted and announced, the devices that were stopped, and how workers ended. What the
notes tell of the lives of workers is what the listener was told of them.
-/

namespace AudioRelay

/-- Something that an onlooker notes of the life of a stream. -/
inductive Mark where
  /-- The opener was called for a profile. -/
  | asked (profile : DeviceProfile)
  /-- The thread of a lane's worker was created. -/
  | spawned (i : Nat)
  /-- The worker was counted. -/
  | enrolled (i : Nat)
  /-- The listener was told that the worker started. -/
  | announced (i : Nat) (id : DeviceId)
  /-- The engine stopped the device of a lane. -/
  | stopped (i device : Nat)
  /-- The worker's thread died in its device. -/
  | died (i : Nat)
  /-- The worker told the listener that it stopped, and its thread ended. -/
  | ended (i : Nat) (id : DeviceId)
  deriving DecidableEq

namespace Mark

/-- The lane that a mark is about. -/
def lane? : Mark → Option Nat
  | asked _ => none
  | spawned i => some i
  | enrolled i => some i
  | announced i _ => some i
  | stopped i _ => some i
  | died i => some i
  | ended i _ => some i

/-- Whether a worker was counted. -/
def isEnrolled : Mark → Bool
  | enrolled _ => true
  | _ => false

/-- What the listener was told of the life of a worker. -/
def event? : Mark → Option Event
  | announced _ id => some (.workerStarted id)
  | ended _ id => some (.workerStopped id)
  | _ => none

/-- The profiles that the opener was called for, in order. -/
def asks (ms : List Mark) : List DeviceProfile :=
  ms.filterMap fun
    | asked p => some p
    | _ => none

/-- The devices that were stopped, in order. -/
def stops (ms : List Mark) : List Nat :=
  ms.filterMap fun
    | stopped _ device => some device
    | _ => none

/-- What the listener was told of the life of the worker of lane `i`, in order. -/
def news (i : Nat) (ms : List Mark) : List Event :=
  ms.filterMap fun m => if m.lane? = some i then m.event? else none

section

variable (ms more : List Mark)

@[simp] theorem asks_append : asks (ms ++ more) = asks ms ++ asks more := List.filterMap_append

@[simp] theorem stops_append : stops (ms ++ more) = stops ms ++ stops more := List.filterMap_append

@[simp] theorem news_append (i : Nat) : news i (ms ++ more) = news i ms ++ news i more :=
  List.filterMap_append

/-- Calls of the opener are no news of any worker. -/
theorem news_map_asked (i : Nat) (ps : List DeviceProfile) : news i (ps.map asked) = [] := by
  unfold news
  rw [List.filterMap_map]
  exact List.filterMap_eq_nil_iff.mpr fun p _ => rfl

@[simp] theorem asks_map_asked (ps : List DeviceProfile) : asks (ps.map asked) = ps := by
  unfold asks
  rw [List.filterMap_map]
  exact List.filterMap_some

@[simp] theorem stops_map_asked (ps : List DeviceProfile) : stops (ps.map asked) = [] := by
  unfold stops
  rw [List.filterMap_map]
  exact List.filterMap_eq_nil_iff.mpr fun p _ => rfl

end

/-- What marks tell of the life of the worker of lane `i`: how often its thread was created and
died, and what the listener was told. -/
def life (i : Nat) (ms : List Mark) : Nat × Nat × List Event :=
  (ms.count (spawned i), ms.count (died i), news i ms)

/-- A life told to its end: that the worker started, and that it stopped unless its thread died. -/
def Lived (id : DeviceId) (life : Nat × Nat × List Event) : Prop :=
  life = (1, 0, [.workerStarted id, .workerStopped id]) ∨ life = (1, 1, [.workerStarted id])

/-- The life of a worker is told to its end, or there was none. -/
def Settled (i : Nat) (ms : List Mark) : Prop :=
  life i ms = (0, 0, []) ∨ ∃ id, Lived id (life i ms)

section

variable {i : Nat} {ms : List Mark}

/-- A mark that neither creates nor ends the worker of a lane nor tells of it does not concern
its life. -/
theorem life_concat {x : Mark} (hspawned : x ≠ spawned i) (hdied : x ≠ died i)
    (hnews : x.lane? = some i → x.event? = none) : life i (ms ++ [x]) = life i ms := by
  unfold life
  have hsilent : news i [x] = [] := by
    by_cases hx : x.lane? = some i
    · simp [news, hx, hnews hx]
    · simp [news, hx]
  rw [List.count_append, List.count_singleton, if_neg (by simpa using hspawned), List.count_append,
    List.count_singleton, if_neg (by simpa using hdied), news_append, hsilent, List.append_nil]
  rfl

/-- A mark about another lane does not concern the life of this one's worker. -/
theorem life_append {m : Option Mark} (hm : ∀ x, m = some x → x.lane? ≠ some i) :
    life i (ms ++ m.toList) = life i ms := by
  cases m with
  | none => rw [Option.toList_none, List.append_nil]
  | some x =>
    have hx := hm x rfl
    refine life_concat ?_ ?_ (fun heq => absurd heq hx)
    · rintro rfl
      exact hx rfl
    · rintro rfl
      exact hx rfl

/-- A worker whose life is told the same is settled the same. -/
theorem Settled.of_life {more : List Mark} (h : Settled i ms) (hlife : life i more = life i ms) :
    Settled i more := by
  rw [Settled, hlife]
  exact h

/-- Where only the opener was called there is no worker. -/
theorem life_map_asked (ps : List DeviceProfile) : life i (ps.map asked) = (0, 0, []) := by
  rw [life, news_map_asked, List.count_eq_zero.mpr (by simp), List.count_eq_zero.mpr (by simp)]

end

end Mark

/-- What an onlooker notes of a worker's next move. -/
def WorkerState.mark? (i : Nat) (id : DeviceId) : WorkerState → WorkerInput → Option Mark
  | transferring _ _, .settled (.crashed _) => some (.died i)
  | leaving, .tick => some (.ended i id)
  | _, _ => none

/-- What an onlooker notes of the client's next action. -/
def Engine.clientMark? (e : Engine) (input : ClientInput) : Option Mark :=
  match e.client, input with
  | .opening (p :: _) _, .opened _ => some (.asked p)
  | .spawning i, .spawned (.ok _) => some (.spawned i)
  | .enrolling i, .tick => some (.enrolled i)
  | .heralding i, .tick => e.lanes[i]?.map fun lane => .announced i lane.id
  | .stopping i _, .tick => e.lanes[i]?.map fun lane => .stopped i lane.device
  | _, _ => none

/-- What an onlooker notes of a moment. -/
def Moment.mark? (m : Moment) : Option Mark :=
  match m.action with
  | .client input => m.engine.clientMark? input
  | .worker i input =>
    m.engine.lanes[i]?.bind fun lane => lane.worker.bind (·.mark? i lane.id input)
  | _ => none

/-- What an onlooker notes in the course of a history. -/
def marks (h : List Moment) : List Mark := h.filterMap Moment.mark?

theorem marks_cons (m : Moment) (rest : List Moment) :
    marks (m :: rest) = m.mark?.toList ++ marks rest := by
  unfold marks
  cases hm : m.mark? <;> simp [hm]

theorem marks_append (h later : List Moment) : marks (h ++ later) = marks h ++ marks later :=
  List.filterMap_append

theorem marks_singleton (m : Moment) : marks [m] = m.mark?.toList :=
  (marks_cons m []).trans (List.append_nil _)

/-- A device that is stopped is that of a lane. -/
theorem Moment.lane_of_stop {m : Moment} {i device : Nat} (h : m.mark? = some (.stopped i device)) :
    ∃ lane, m.engine.lanes[i]? = some lane ∧ lane.device = device := by
  unfold mark? at h
  split at h
  · unfold Engine.clientMark? at h
    split at h
    case h_4 =>
      obtain ⟨lane, -, heq⟩ := Option.map_eq_some_iff.mp h
      contradiction
    case h_5 =>
      obtain ⟨lane, hl, heq⟩ := Option.map_eq_some_iff.mp h
      obtain ⟨rfl, rfl⟩ := Mark.stopped.inj heq
      exact ⟨lane, hl, rfl⟩
    all_goals cases h
  · obtain ⟨lane, -, h⟩ := Option.bind_eq_some_iff.mp h
    obtain ⟨w, -, h⟩ := Option.bind_eq_some_iff.mp h
    unfold WorkerState.mark? at h
    split at h <;> cases h
  · contradiction

/-- The moments since the last start began that had devices to open. -/
def ofStart (h : List Moment) : List Moment := since Moment.isStart h

/-- What is not of a kind comes after the last of that kind. -/
theorem since_append {α : Type} (kind : α → Bool) (l : List α) {more : List α}
    (hmore : ∀ x ∈ more, kind x = false) : since kind (l ++ more) = since kind l ++ more := by
  induction more using List.reverseRecOn with
  | nil => rw [List.append_nil, List.append_nil]
  | append_singleton more x ih =>
    have hx : kind x = false := hmore x (List.mem_append_right _ (List.mem_singleton.mpr rfl))
    rw [← List.append_assoc, since_snoc, hx, ih fun y hy => hmore y (List.mem_append_left _ hy),
      ← List.append_assoc]
    rfl

/-- What came after the last of a kind is part of a list. -/
theorem since_sublist {α : Type} {kind : α → Bool} {l : List α} : (since kind l).Sublist l := by
  have hkept : (l.reverse.takeWhile fun x => !kind x).Sublist l.reverse := List.takeWhile_sublist _
  rw [since, ← List.reverse_sublist, List.reverse_reverse]
  exact hkept

/-- Without another start a cycle goes on. -/
theorem ofStart_append (h : List Moment) {later : List Moment}
    (unstarted : ∀ m ∈ later, m.isStart = false) : ofStart (h ++ later) = ofStart h ++ later :=
  since_append Moment.isStart h unstarted

/-- A start that has devices to open begins a cycle. -/
theorem ofStart_start (h : List Moment) {m : Moment} {later : List Moment}
    (starts : m.isStart = true) (unstarted : ∀ m ∈ later, m.isStart = false) :
    ofStart (h ++ m :: later) = later := by
  rw [List.append_cons, ofStart_append _ unstarted, ofStart, since_snoc, if_pos starts,
    List.nil_append]

/-- Whether an event tells of the life of a worker. -/
def Event.isLife : Event → Bool
  | workerStarted _ => true
  | workerStopped _ => true
  | _ => false

/-- What was told of the life of the worker of lane `i`, in order. -/
def Telling.news (i : Nat) (ts : List Telling) : List Event :=
  ts.filterMap fun t => if t.lane = i ∧ t.event.isLife then some t.event else none

section

variable {i : Nat} {x : Mark} {t : Telling}

/-- A mark that no event goes with is no news. -/
theorem Mark.news_silent (silent : x.event? = none) : Mark.news i [x] = [] := by
  simp [news, silent]

/-- An event that is not about a worker's life is no news of it. -/
theorem Telling.news_silent (other : t.event.isLife = false) : Telling.news i [t] = [] := by
  simp [news, other]

/-- A mark is the news that its event is. -/
theorem Mark.news_eq_told (hlane : x.lane? = some t.lane) (hevent : x.event? = some t.event)
    (life : t.event.isLife = true) : Mark.news i [x] = Telling.news i [t] := by
  unfold Mark.news Telling.news
  by_cases hi : t.lane = i
  · simp [hlane, hevent, life, hi]
  · simp [hlane, hi]

end

/-- A worker's move tells of its life what it tells the listener. -/
theorem Moment.news_work (e : Engine) (i j : Nat) (input : WorkerInput) :
    Mark.news i (Moment.mk e (.worker j input)).mark?.toList =
      Telling.news i (Moment.mk e (.worker j input)).telling?.toList := by
  unfold Moment.mark? Moment.telling?
  cases input with
  | settled outcome =>
    dsimp only
    cases e.lanes[j]? with
    | none => rfl
    | some lane =>
      rw [Option.bind_some]
      cases lane.worker with
      | none => rfl
      | some w =>
        cases w with
        | transferring transfer left =>
          cases outcome with
          | crashed misuse => exact Mark.news_silent rfl
          | _ => rfl
        | _ => rfl
  | tick =>
    dsimp only
    cases e.lanes[j]? with
    | none => rfl
    | some lane =>
      rw [Option.bind_some, Option.bind_some]
      cases lane.worker with
      | none => rfl
      | some w =>
        cases w with
        | leaving => exact Mark.news_eq_told rfl rfl rfl
        | reporting fault => exact (Telling.news_silent rfl).symm
        | _ => rfl

/-- An action of the client tells of a worker's life what it tells the listener. -/
theorem Moment.news_client (e : Engine) (i : Nat) (input : ClientInput) :
    Mark.news i (Moment.mk e (.client input)).mark?.toList =
      Telling.news i (Moment.mk e (.client input)).telling?.toList := by
  unfold Moment.mark? Moment.telling? Engine.clientMark? Engine.clientTelling?
  cases input with
  | tick =>
    dsimp only
    cases e.client with
    | heralding j =>
      dsimp only
      cases e.lanes[j]? with
      | none => rfl
      | some lane => exact Mark.news_eq_told rfl rfl rfl
    | stopping j a =>
      dsimp only
      cases e.lanes[j]? with
      | none => rfl
      | some lane => exact Mark.news_silent rfl
    | reportingDrop j missing p =>
      dsimp only
      cases e.lanes[j]? with
      | none => rfl
      | some lane => exact (Telling.news_silent rfl).symm
    | enrolling j => exact Mark.news_silent rfl
    | reportingSilence missing p => exact (Telling.news_silent rfl).symm
    | opening todo ids => cases todo <;> rfl
    | _ => rfl
  | opened result =>
    cases e.client with
    | opening todo ids =>
      cases todo with
      | nil => rfl
      | cons p rest => exact Mark.news_silent rfl
    | _ => rfl
  | spawned result =>
    cases e.client with
    | spawning j =>
      cases result with
      | error text => rfl
      | ok done => exact Mark.news_silent rfl
    | opening todo ids => cases todo <;> rfl
    | _ => rfl
  | latency ms | position result =>
    cases e.client with
    | opening todo ids => cases todo <;> rfl
    | _ => rfl

/-- A mark tells of a worker's life what its moment tells the listener. -/
theorem Moment.news_mark? (i : Nat) (m : Moment) :
    Mark.news i m.mark?.toList = Telling.news i m.telling?.toList := by
  obtain ⟨e, a⟩ := m
  cases a with
  | call c | adjust level => rfl
  | client input => exact Moment.news_client e i input
  | worker j input => exact Moment.news_work e i j input

/-- Marks tell of the lives of workers what the listener was told of them. -/
theorem news_marks (i : Nat) (h : List Moment) :
    Mark.news i (marks h) = Telling.news i (tellings h) := by
  induction h with
  | nil => rfl
  | cons m rest ih =>
    rw [marks_cons, tellings_cons, Mark.news_append, m.news_mark?, ih]
    exact List.filterMap_append.symm

/-- The life of the worker of lane `i` in the course of a history: how often its thread was
created and died, and what the listener was told of it. -/
def life (i : Nat) (h : List Moment) : Nat × Nat × List Event :=
  ((marks h).count (.spawned i), (marks h).count (.died i), Telling.news i (tellings h))

/-- Marks tell the life of a worker. -/
theorem life_eq (i : Nat) (h : List Moment) : life i h = Mark.life i (marks h) := by
  rw [life, ← news_marks, Mark.life]

/-- A moment counts the worker that its mark says was counted. -/
theorem Moment.workersStarted_counts (m : Moment) :
    m.counts.workersStarted = UInt64.ofNat (m.mark?.toList.countP Mark.isEnrolled) := by
  obtain ⟨e, a⟩ := m
  unfold Moment.mark? Moment.counts
  cases a with
  | call c | adjust level => rfl
  | client input =>
    unfold Engine.clientMark? Engine.clientCounts
    dsimp only
    cases e.client with
    | opening todo ids => cases input <;> cases todo <;> rfl
    | spawning j =>
      cases input with
      | spawned result => cases result <;> rfl
      | _ => rfl
    | heralding j | stopping j a =>
      cases input with
      | tick =>
        dsimp only
        cases e.lanes[j]? <;> rfl
      | _ => rfl
    | _ => cases input <;> rfl
  | worker i input =>
    cases input with
    | tick =>
      dsimp only [Engine.workerAt?]
      cases e.lanes[i]? with
      | none => rfl
      | some lane =>
        rw [Option.bind_some, Option.bind_some]
        cases lane.worker with
        | none => rfl
        | some w => cases w <;> rfl
    | settled outcome =>
      dsimp only
      cases e.lanes[i]? with
      | none => rfl
      | some lane =>
        rw [Option.bind_some]
        cases lane.worker with
        | none => rfl
        | some w =>
          cases w with
          | transferring transfer left => cases outcome <;> rfl
          | _ => rfl

/-- The counter of workers grows with the marks of those that were counted. -/
theorem workersStarted_tally (h : List Moment) :
    (tally h).workersStarted = UInt64.ofNat ((marks h).countP Mark.isEnrolled) := by
  induction h with
  | nil => rfl
  | cons m rest ih =>
    have htally : (tally (m :: rest)).workersStarted =
        m.counts.workersStarted + (tally rest).workersStarted := rfl
    rw [htally, marks_cons, List.countP_append, UInt64.ofNat_add, m.workersStarted_counts, ih]

end AudioRelay
