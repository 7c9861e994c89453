import AudioRelay.Proofs.Chronicle

/-!
# Signs of device operations

A worker's device operation is one or more attempts of a transfer. What is seen of it are the
faults that are tried again, how it ended, and what a failure led to: a look at the running flag,
an addition to the counter, an event. What is counted and told of failures is read off the signs.
-/

namespace AudioRelay

/-- Something that is seen of a worker's device operations. -/
inductive Sign where
  /-- An attempt failed and is to be tried again. -/
  | tried (fault : DeviceError)
  | succeeded
  /-- The device took the worker's thread with it. -/
  | died
  /-- The operation's failure was returned to the worker, while the running flag was so. -/
  | failed (fault : DeviceError) (running : Bool)
  /-- The worker looked at the running flag because of the failure, and it was so. -/
  | looked (fault : DeviceError) (running : Bool)
  | counted
  | told (event : Event)
  deriving DecidableEq

namespace Sign

/-- Whether a failure was counted. -/
def isCounted : Sign → Bool
  | counted => true
  | _ => false

/-- What the listener was told of a failure. -/
def event? : Sign → Option Event
  | told event => some event
  | _ => none

theorem event?_eq_some {s : Sign} {event : Event} (h : s.event? = some event) : s = told event := by
  cases s with
  | told other => exact congrArg told (Option.some.inj h)
  | _ => contradiction

end Sign

/-- What is seen of a worker's next move. -/
def WorkerState.sign? (running : Bool) (id : DeviceId) : WorkerState → WorkerInput → Option Sign
  | transferring _ left, .settled (.failed fault) =>
    match Retry.again? fault left with
    | some _ => some (.tried fault)
    | none => some (.failed fault running)
  | transferring _ _, .settled (.done _) => some .succeeded
  | transferring _ _, .settled (.crashed _) => some .died
  | failing fault, .tick => some (.looked fault running)
  | counting _, .tick => some .counted
  | reporting fault, .tick => some (.told (.deviceFailed id fault.message))
  | _, _ => none

/-- What is seen of the device operations in a moment, and in which lane. -/
def Moment.sign? (m : Moment) : Option (Nat × Sign) :=
  match m.action with
  | .worker i input =>
    (m.engine.lanes[i]?.bind fun lane =>
      lane.worker.bind (·.sign? m.engine.isRunning lane.id input)).map (i, ·)
  | _ => none

/-- What is seen of the device operations of all lanes in the course of a history. -/
def signs (h : List Moment) : List (Nat × Sign) := h.filterMap Moment.sign?

/-- What is seen of the device operations of lane `i`. -/
def signsOf (i : Nat) (h : List Moment) : List Sign :=
  (signs h).filterMap fun s => if s.1 = i then some s.2 else none

theorem signs_snoc (h : List Moment) (m : Moment) :
    signs (h ++ [m]) = signs h ++ m.sign?.toList := by
  unfold signs
  rw [List.filterMap_append]
  cases hm : m.sign? <;> simp [hm]

theorem signsOf_snoc (i : Nat) (h : List Moment) (m : Moment) :
    signsOf i (h ++ [m]) =
      signsOf i h ++ m.sign?.toList.filterMap fun s => if s.1 = i then some s.2 else none := by
  unfold signsOf
  rw [signs_snoc, List.filterMap_append]

/-- A worker's move shows in its own lane alone. -/
theorem signsOf_work (i : Nat) (h : List Moment) {e : Engine} {j : Nat} {lane : Lane}
    {w : WorkerState} (hl : e.lanes[j]? = some lane) (hw : lane.worker = some w)
    (input : WorkerInput) :
    signsOf i (h ++ [⟨e, .worker j input⟩]) =
      signsOf i h ++ if j = i then (w.sign? e.isRunning lane.id input).toList else [] := by
  rw [signsOf_snoc]
  have hsign : (Moment.mk e (.worker j input)).sign? =
      (w.sign? e.isRunning lane.id input).map (j, ·) := by
    simp only [Moment.sign?, hl, hw, Option.bind_some]
  rw [hsign]
  cases w.sign? e.isRunning lane.id input with
  | none => simp
  | some s => by_cases hij : j = i <;> simp [hij]

/-- The signs of a lane are among those of all lanes. -/
theorem mem_signs {i : Nat} {s : Sign} {h : List Moment} :
    s ∈ signsOf i h ↔ (i, s) ∈ signs h := by
  unfold signsOf
  rw [List.mem_filterMap]
  constructor
  · rintro ⟨⟨j, x⟩, hx, hif⟩
    split at hif
    · rename_i hj
      cases hif
      exact hj ▸ hx
    · contradiction
  · exact fun hs => ⟨_, hs, if_pos rfl⟩

/-- A sign of a lane is seen when the lane's worker moves. -/
theorem Moment.sign?_eq_some {m : Moment} {i : Nat} {s : Sign} (hs : m.sign? = some (i, s)) :
    ∃ input lane w, m.action = .worker i input ∧ m.engine.lanes[i]? = some lane ∧
      lane.worker = some w ∧ w.sign? m.engine.isRunning lane.id input = some s := by
  unfold sign? at hs
  split at hs
  · rename_i j input ha
    obtain ⟨x, hx, heq⟩ := Option.map_eq_some_iff.mp hs
    obtain ⟨rfl, rfl⟩ := Prod.mk.inj heq
    obtain ⟨lane, hl, hlane⟩ := Option.bind_eq_some_iff.mp hx
    obtain ⟨w, hw, hsign⟩ := Option.bind_eq_some_iff.mp hlane
    exact ⟨input, lane, w, ha, hl, hw, hsign⟩
  · contradiction

/-- A failure is returned when its device settles the last attempt so. -/
theorem WorkerState.sign?_eq_failed {running flag : Bool} {id : DeviceId} {w : WorkerState}
    {input : WorkerInput} {fault : DeviceError}
    (hs : w.sign? running id input = some (.failed fault flag)) :
    input = .settled (.failed fault) ∧ flag = running := by
  unfold sign? at hs
  split at hs
  · split at hs <;> cases hs
    exact ⟨rfl, rfl⟩
  all_goals cases hs

/-- What the listener was told of a failure, and in which lane. -/
def Telling.failure? (t : Telling) : Option (Nat × Event) :=
  match t.event with
  | .deviceFailed _ _ => some (t.lane, t.event)
  | _ => none

/-- A moment counts the failure, and tells the listener of the failure, that its sign says. -/
theorem Moment.sign?_recorded (m : Moment) :
    m.counts.deviceErrors = UInt64.ofNat (m.sign?.toList.countP (·.2.isCounted)) ∧
      m.telling?.toList.filterMap Telling.failure? =
        m.sign?.toList.filterMap fun s => s.2.event?.map (s.1, ·) := by
  obtain ⟨e, a⟩ := m
  unfold sign? counts telling?
  cases a with
  | call c | adjust level => exact ⟨rfl, rfl⟩
  | client input =>
    cases input with
    | tick =>
      dsimp only [Engine.clientCounts, Engine.clientTelling?]
      cases e.client with
      | heralding j | reportingDrop j missing p =>
        dsimp only
        cases e.lanes[j]? <;> exact ⟨rfl, rfl⟩
      | _ => exact ⟨rfl, rfl⟩
    | _ => exact ⟨rfl, rfl⟩
  | worker i input =>
    cases input with
    | tick =>
      dsimp only [Engine.workerAt?]
      cases e.lanes[i]? with
      | none => exact ⟨rfl, rfl⟩
      | some lane =>
        simp only [Option.bind_some]
        cases lane.worker with
        | none => exact ⟨rfl, rfl⟩
        | some w => cases w <;> exact ⟨rfl, rfl⟩
    | settled outcome =>
      dsimp only
      cases e.lanes[i]? with
      | none => exact ⟨rfl, rfl⟩
      | some lane =>
        rw [Option.bind_some]
        cases lane.worker with
        | none => exact ⟨rfl, rfl⟩
        | some w =>
          rw [Option.bind_some]
          cases w with
          | transferring transfer left =>
            cases outcome with
            | failed fault =>
              dsimp only [WorkerState.sign?]
              cases Retry.again? fault left <;> exact ⟨rfl, rfl⟩
            | _ => exact ⟨rfl, rfl⟩
          | _ => exact ⟨rfl, rfl⟩

theorem signs_cons (m : Moment) (rest : List Moment) :
    signs (m :: rest) = m.sign?.toList ++ signs rest := by
  unfold signs
  cases hm : m.sign? <;> simp [hm]

/-- The counter of device failures grows with the signs of those that were counted. -/
theorem deviceErrors_tally (h : List Moment) :
    (tally h).deviceErrors = UInt64.ofNat ((signs h).countP (·.2.isCounted)) := by
  induction h with
  | nil => rfl
  | cons m rest ih =>
    have htally : (tally (m :: rest)).deviceErrors =
        m.counts.deviceErrors + (tally rest).deviceErrors := rfl
    rw [htally, signs_cons, List.countP_append, UInt64.ofNat_add, m.sign?_recorded.1, ih]

/-- What the listener was told of failures is what the signs say was told. -/
theorem failures_tellings (h : List Moment) :
    (tellings h).filterMap Telling.failure? =
      (signs h).filterMap fun s => s.2.event?.map (s.1, ·) := by
  induction h with
  | nil => rfl
  | cons m rest ih =>
    rw [signs_cons, tellings_cons, List.filterMap_append, List.filterMap_append,
      m.sign?_recorded.2, ih]

end AudioRelay
