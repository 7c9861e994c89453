import AudioRelay.Proofs.Exit
import AudioRelay.Proofs.Sign

/-!
# Silence about failures after a halt

The signs of a lane, over all cycles, are those of whole device operations and of one that may be
under way. A failure that is returned once the running flag was cleared is excused: its worker
looks at the flag before a later start can set it again. A failure whose look finds the flag set
is counted once and told once, however often its operation was tried.
-/

namespace AudioRelay

/-- How a device operation ended, and what a failure led to. -/
inductive Ending where
  | succeeded
  /-- The device took the worker's thread with it. -/
  | died
  /-- It failed, and the look that followed found the running flag cleared. -/
  | excused (fault : DeviceError) (running : Bool)
  /-- It failed while the running flag was set, and so the look that followed found it. -/
  | reported (fault : DeviceError)

/-- The signs of an ending on the device `id`. -/
def Ending.signs (id : DeviceId) : Ending → List Sign
  | succeeded => [.succeeded]
  | died => [.died]
  | excused fault running => [.failed fault running, .looked fault false]
  | reported fault =>
    [.failed fault true, .looked fault true, .counted, .told (.deviceFailed id fault.message)]

/-- A device operation that is over. -/
structure Operation where
  /-- Faults of the attempts that were tried again. -/
  tries : List DeviceError
  ending : Ending

namespace Operation

/-- The signs of an operation on the device `id`. -/
def signs (id : DeviceId) (op : Operation) : List Sign :=
  op.tries.map .tried ++ op.ending.signs id

/-- The signs of an operation that is not over, as far as its worker has come. -/
def Unfinished (spare : Nat) (running : Bool) : Option WorkerState → List Sign → Prop
  | some (.transferring _ left), ss =>
    ∃ tries : List DeviceError, tries.length + left ≤ spare ∧ ss = tries.map .tried
  | some (.pausing _ left), ss =>
    ∃ tries : List DeviceError, tries.length + left ≤ spare ∧ ss = tries.map .tried
  | some (.failing fault), ss => ∃ (tries : List DeviceError) (flag : Bool),
    tries.length ≤ spare ∧ (running = true → flag = true) ∧
      ss = tries.map .tried ++ [.failed fault flag]
  | some (.counting fault), ss => ∃ tries : List DeviceError, tries.length ≤ spare ∧
    ss = tries.map .tried ++ [.failed fault true, .looked fault true]
  | some (.reporting fault), ss => ∃ tries : List DeviceError, tries.length ≤ spare ∧
    ss = tries.map .tried ++ [.failed fault true, .looked fault true, .counted]
  | _, ss => ss = []

end Operation

/-- Signs of whole operations, and of one that is not over, as its worker stands. -/
def Tends (spare : Nat) (id : DeviceId) (running : Bool) (w : Option WorkerState)
    (ss : List Sign) : Prop :=
  ∃ (ops : List Operation) (rest : List Sign), ss = ops.flatMap (Operation.signs id) ++ rest ∧
    (∀ op ∈ ops, op.tries.length ≤ spare) ∧ Operation.Unfinished spare running w rest

namespace Tends

variable {spare : Nat} {id : DeviceId} {running : Bool} {w w' : Option WorkerState}
  {ss : List Sign}

/-- The flag may be cleared at any time. -/
theorem mono {running' : Bool} (h : Tends spare id running w ss)
    (clears : running' = true → running = true) : Tends spare id running' w ss := by
  obtain ⟨ops, rest, hss, htries, hrest⟩ := h
  refine ⟨ops, rest, hss, htries, ?_⟩
  cases w with
  | none => exact hrest
  | some w =>
    cases w with
    | failing fault =>
      obtain ⟨tries, flag, hlength, hflag, heq⟩ := hrest
      exact ⟨tries, flag, hlength, fun hrun => hflag (clears hrun), heq⟩
    | _ => exact hrest

/-- Between two operations the worker may be replaced, whatever the flag. -/
theorem renew {running' : Bool} (h : Tends spare id running w ss)
    (between : ∀ rest, Operation.Unfinished spare running w rest → rest = [])
    (idle : Operation.Unfinished spare running' w' []) : Tends spare id running' w' ss := by
  obtain ⟨ops, rest, hss, htries, hrest⟩ := h
  obtain rfl := between rest hrest
  exact ⟨ops, [], hss, htries, idle⟩

/-- An operation that is not over goes on. -/
theorem go_on {more : List Sign} (h : Tends spare id running w ss)
    (next : ∀ rest, Operation.Unfinished spare running w rest →
      Operation.Unfinished spare running w' (rest ++ more)) :
    Tends spare id running w' (ss ++ more) := by
  obtain ⟨ops, rest, rfl, htries, hrest⟩ := h
  exact ⟨ops, rest ++ more, List.append_assoc _ _ _, htries, next rest hrest⟩

/-- An operation comes to its end. -/
theorem finish {more : List Sign} (h : Tends spare id running w ss)
    (ends : ∀ rest, Operation.Unfinished spare running w rest → ∃ op : Operation,
      op.tries.length ≤ spare ∧ rest ++ more = op.signs id)
    (idle : Operation.Unfinished spare running w' []) : Tends spare id running w' (ss ++ more) := by
  obtain ⟨ops, rest, rfl, htries, hrest⟩ := h
  obtain ⟨op, hop, heq⟩ := ends rest hrest
  refine ⟨ops ++ [op], [], ?_, ?_, idle⟩
  · rw [List.append_assoc, heq, List.append_nil, List.flatMap_append, List.flatMap_singleton]
  · intro x hx
    rcases List.mem_append.mp hx with hold | hnew
    · exact htries x hold
    · rwa [List.mem_singleton.mp hnew]

/-- Every move of a worker goes on with its operations. -/
theorem move {plan : StreamPlan} {pipe pipe' : Pipe} {w w' : WorkerState} {input : WorkerInput}
    {note : Option Note} (h : Tends plan.retry.spare id running (some w) ss)
    (hm : w.Move plan running id pipe input w' pipe' note) :
    Tends plan.retry.spare id running (some w') (ss ++ (w.sign? running id input).toList) := by
  have begin (transfer : Transfer) : Operation.Unfinished plan.retry.spare running
      (some (.transferring transfer plan.retry.spare)) [] :=
    ⟨[], by simp, rfl⟩
  -- between two operations a move shows no sign
  have still {w' : WorkerState}
      (between : ∀ rest, Operation.Unfinished plan.retry.spare running (some w) rest → rest = [])
      (idle : Operation.Unfinished plan.retry.spare running (some w') []) :
      Tends plan.retry.spare id running (some w') (ss ++ []) := by
    rw [List.append_nil]
    exact h.renew between idle
  cases hm with
  | entered hrun =>
    refine still (fun _ hrest => hrest) ?_
    unfold StreamPlan.firstMove
    split
    · rfl
    · exact begin _
  | took hr hne => exact still (fun _ hrest => hrest) (begin _)
  | @pushed rest frames pipe' hw hg =>
    refine still (fun _ hrest => hrest) ?_
    unfold WorkerState.afterOffer
    split <;> rfl
  | halted | starved | woke | offered | abandoned | admitted | refused | parked | roused | ended =>
    exact still (fun _ hrest => hrest) rfl
  | wrote | filled =>
    refine h.finish (fun rest hrest => ?_) rfl
    obtain ⟨tries, hlength, rfl⟩ := hrest
    exact ⟨⟨tries, .succeeded⟩, by dsimp only; omega, rfl⟩
  | died =>
    refine h.finish (fun rest hrest => ?_) rfl
    obtain ⟨tries, hlength, rfl⟩ := hrest
    exact ⟨⟨tries, .died⟩, by dsimp only; omega, rfl⟩
  | @retried transfer left fault ht =>
    refine h.go_on fun rest hrest => ?_
    obtain ⟨tries, hlength, rfl⟩ := hrest
    have hagain : Retry.again? fault (left + 1) = some left := by
      rw [Retry.again?, if_pos ht]
    refine ⟨tries ++ [fault], by simp; omega, ?_⟩
    simp [WorkerState.sign?, hagain]
  | rested =>
    refine h.go_on fun rest hrest => ?_
    exact (List.append_nil rest).symm ▸ hrest
  | @gaveUp transfer left fault hf =>
    refine h.go_on fun rest hrest => ?_
    obtain ⟨tries, hlength, rfl⟩ := hrest
    have hagain : Retry.again? fault left = none := by
      rcases hf with hpermanent | rfl
      · cases left <;> simp only [Retry.again?, hpermanent, Bool.false_eq_true, if_false]
      · rfl
    refine ⟨tries, running, by omega, fun hrun => hrun, ?_⟩
    simp [WorkerState.sign?, hagain]
  | blamed hrun =>
    refine h.go_on fun rest hrest => ?_
    obtain ⟨tries, flag, hlength, hflag, rfl⟩ := hrest
    refine ⟨tries, hlength, ?_⟩
    rw [hflag hrun, hrun, List.append_assoc]
    rfl
  | @excused fault hrun =>
    refine h.finish (fun rest hrest => ?_) rfl
    obtain ⟨tries, flag, hlength, hflag, rfl⟩ := hrest
    refine ⟨⟨tries, .excused fault flag⟩, hlength, ?_⟩
    rw [hrun, List.append_assoc]
    rfl
  | counted =>
    refine h.go_on fun rest hrest => ?_
    obtain ⟨tries, hlength, rfl⟩ := hrest
    refine ⟨tries, hlength, ?_⟩
    rw [List.append_assoc]
    rfl
  | @reported fault =>
    refine h.finish (fun rest hrest => ?_) rfl
    obtain ⟨tries, hlength, rfl⟩ := hrest
    refine ⟨⟨tries, .reported fault⟩, hlength, ?_⟩
    rw [List.append_assoc]
    rfl

end Tends

namespace Engine

variable {e e' : Engine} {opened : List (DeviceProfile × Nat)} {ms : List Mark}

/-- The worker of a lane depends on the workers of the lanes alone. -/
theorem workerAt?_eq_join (e : Engine) (i : Nat) :
    e.workerAt? i = ((e.lanes.map (·.worker))[i]?).join := by
  rw [workerAt?, List.getElem?_map]
  cases e.lanes[i]? <;> rfl

/-- An action of the client leaves a worker as it is and sets no flag, or it replaces one that is
no more or is yet to come. -/
theorem workerAt?_client {input : ClientInput} (sound : e.Sound opened) (ledger : e.Ledger ms)
    (hs : ClientStep e input e') (i : Nat) :
    e'.workerAt? i = e.workerAt? i ∧ (e'.isRunning = true → e.isRunning = true) ∨
      (∀ w, e.workerAt? i = some w → w.isOver = true) ∧
        (e'.workerAt? i = none ∨ e'.workerAt? i = some .looping) := by
  have hst := sound.stage
  have same {e' : Engine} (workers : e'.lanes.map (·.worker) = e.lanes.map (·.worker))
      (running : e'.isRunning = e.isRunning) :
      e'.workerAt? i = e.workerAt? i ∧ (e'.isRunning = true → e.isRunning = true) :=
    ⟨by rw [workerAt?_eq_join, workerAt?_eq_join, workers], fun hrun => running.symm.trans hrun⟩
  cases hs with
  | @bound ids hc hne =>
    rw [hc] at hst
    refine .inr ⟨?_, .inl ?_⟩
    · intro w hw
      rw [workerAt?, hst.1] at hw
      contradiction
    · dsimp only [workerAt?]
      rw [List.getElem?_map]
      cases ids[i]? <;> rfl
  | @spawned j lane hc hl =>
    rw [hc] at hst
    by_cases hij : j = i
    · subst hij
      have unstaffed : lane.worker = none := by
        have staffed := hst.1.staffed j lane hl
        simpa using staffed
      refine .inr ⟨?_, .inr ?_⟩
      · intro w hw
        rw [workerAt?, hl, Option.bind_some, unstaffed] at hw
        contradiction
      · obtain ⟨hj, -⟩ := List.getElem?_eq_some_iff.mp hl
        rw [workerAt?, List.getElem?_set_self hj, Option.bind_some]
    · refine .inl ⟨?_, fun hrun => hrun⟩
      rw [workerAt?, workerAt?, List.getElem?_set_ne hij]
  | @sent j p lane frames pipe hc hl hw => exact .inl (same (map_set_of_eq hl rfl) rfl)
  | @received p lane rest bytes pipe frames q hc hl hr hf hq =>
    refine .inl (same ?_ rfl)
    rw [hl]
    rfl
  | sealed hc =>
    unfold shutCapture
    split
    · exact .inl (same rfl rfl)
    · refine .inl (same ?_ rfl)
      rw [List.map_map]
      rfl
  | released hc =>
    refine .inr ⟨?_, .inl rfl⟩
    intro w hw
    obtain ⟨lane, hl, hworker⟩ := Option.bind_eq_some_iff.mp hw
    have standing : e.standing = ⟨none, 0, true, e.lanes.length, e.lanes.length⟩ := by
      rw [Engine.standing, hc]
      rfl
    have career := ledger.careers i lane hl
    rw [standing] at career
    have quiet := career.joined (List.getElem?_eq_some_iff.mp hl).1
    rwa [Lane.isQuiet, hworker] at quiet
  | located hc =>
    unfold locate
    split <;> exact .inl (same rfl rfl)
  | halted hc => exact .inl ⟨rfl, fun hrun => by contradiction⟩
  | opened hc | refused hc | unserved hc | spawnRefused hc _ | staffed hc _ | enrolled hc
  | heralded hc _ | scaled hc | allSent hc _ | dropCounted hc | dropReported hc _
  | silenceCounted hc | silenceReported hc | latencyTold hc | transferred hc | rebased hc
  | drained hc | stopped hc _ | allStopped hc _ | joined hc _ _ | allJoined hc _ =>
    exact .inl (same rfl rfl)

end Engine

/-- A worker that is over has no operation under way. -/
theorem Operation.Unfinished.of_over {spare : Nat} {running : Bool} {w : Option WorkerState}
    {ss : List Sign} (h : Operation.Unfinished spare running w ss)
    (ended : ∀ x, w = some x → x.isOver = true) : ss = [] := by
  cases w with
  | none => exact h
  | some x =>
    have hover := ended x rfl
    cases x with
    | gone | crashed => exact h
    | _ => contradiction

/-- A worker that has an operation under way of which something was seen can go on with it. -/
theorem Operation.Unfinished.goes_on {spare : Nat} {e : Engine} {i : Nat} {ss : List Sign}
    (h : Operation.Unfinished spare e.isRunning (e.workerAt? i) ss) (seen : ss ≠ []) :
    ∃ w, e.workerAt? i = some w ∧ w.isOver = false ∧
      ∀ input, WorkerInput.Fits w input → (e.step (.worker i input)).isSome = true := by
  by_cases ended : ∀ w, e.workerAt? i = some w → w.isOver = true
  · exact absurd (h.of_over ended) seen
  · obtain ⟨w, hw, live⟩ : ∃ w, e.workerAt? i = some w ∧ w.isOver = false := by simpa using ended
    obtain ⟨lane, hl, hworker⟩ := Option.bind_eq_some_iff.mp hw
    exact ⟨w, hw, live, fun input fits => Engine.step_worker_isSome hl hworker live fits⟩

/-- What an operation that is not over has told is nothing yet. -/
theorem Operation.Unfinished.untold {spare : Nat} {running : Bool} {w : Option WorkerState}
    {ss : List Sign} (h : Operation.Unfinished spare running w ss) (event : Event) :
    .told event ∉ ss := by
  cases w with
  | none =>
    obtain rfl : ss = [] := h
    exact List.not_mem_nil
  | some w =>
    cases w with
    | transferring transfer left | pausing transfer left =>
      obtain ⟨tries, -, rfl⟩ := h
      simp
    | failing fault =>
      obtain ⟨tries, flag, -, -, rfl⟩ := h
      simp
    | counting fault | reporting fault =>
      obtain ⟨tries, -, rfl⟩ := h
      simp
    | _ =>
      obtain rfl : ss = [] := h
      exact List.not_mem_nil

/-- What is told of an operation is its failure, which it returned while the stream ran. -/
theorem Operation.of_told {id : DeviceId} {op : Operation} {event : Event}
    (told : .told event ∈ op.signs id) :
    ∃ fault, event = .deviceFailed id fault.message ∧ .failed fault true ∈ op.signs id := by
  obtain ⟨tries, ending⟩ := op
  cases ending with
  | reported fault =>
    refine ⟨fault, ?_, ?_⟩
    · simpa [signs, Ending.signs] using told
    · simp [signs, Ending.signs]
  | _ => simp [signs, Ending.signs] at told

/-- What is told of a lane's operations is a failure that one of them returned while the stream
ran. -/
theorem Tends.of_told {spare : Nat} {id : DeviceId} {running : Bool} {w : Option WorkerState}
    {ss : List Sign} (h : Tends spare id running w ss) {event : Event} (told : .told event ∈ ss) :
    ∃ fault, event = .deviceFailed id fault.message ∧ .failed fault true ∈ ss := by
  obtain ⟨ops, rest, rfl, -, hrest⟩ := h
  rcases List.mem_append.mp told with told | told
  · obtain ⟨op, hop, hsign⟩ := List.mem_flatMap.mp told
    obtain ⟨fault, hevent, hfailed⟩ := Operation.of_told hsign
    exact ⟨fault, hevent, List.mem_append_left _ (List.mem_flatMap.mpr ⟨op, hop, hfailed⟩)⟩
  · exact absurd told (hrest.untold event)

/-- Whether a moment opens a device. -/
def Moment.opens (device : Nat) (m : Moment) : Bool := m.opening?.any (·.2 == device)

/-- The engine has called stop on a device at some time, in this cycle or in an earlier one. -/
def WasStopped (device : Nat) (h : List Moment) : Prop := device ∈ Mark.stops (marks h)

instance (device : Nat) (h : List Moment) : Decidable (WasStopped device h) :=
  inferInstanceAs (Decidable (device ∈ Mark.stops (marks h)))

/-- The engine has called stop on a device since it was opened last. A stop before that does not
count, though an opener may hand the device out again that was stopped. -/
def IsStopped (device : Nat) (h : List Moment) : Prop :=
  WasStopped device (since (Moment.opens device) h)

instance (device : Nat) (h : List Moment) : Decidable (IsStopped device h) :=
  inferInstanceAs (Decidable (WasStopped device (since (Moment.opens device) h)))

/-- Every device answers with such faults only when it was stopped, in one of these senses. -/
def FailsOnly (stopped : Nat → List Moment → Prop) (late : DeviceError → Prop) (h : List Moment) :
    Prop :=
  ∀ past e i fault rest lane, h = past ++ ⟨e, .worker i (.settled (.failed fault))⟩ :: rest →
    late fault → e.lanes[i]? = some lane → stopped lane.device past

/-- No device is opened twice. -/
def OpensOnce (h : List Moment) : Prop := ((h.filterMap Moment.opening?).map (·.2)).Nodup

/-- The lane whose device answers that it is stopped. -/
def Moment.stoppedLane? (m : Moment) : Option Lane :=
  match m.action with
  | .worker i (.settled (.failed .stopped)) => m.engine.lanes[i]?
  | _ => none

theorem Moment.stoppedLane?_eq_some {m : Moment} {lane : Lane} (h : m.stoppedLane? = some lane) :
    ∃ i, m.action = .worker i (.settled (.failed .stopped)) ∧ m.engine.lanes[i]? = some lane := by
  unfold stoppedLane? at h
  split at h
  · rename_i i haction
    exact ⟨i, haction, h⟩
  · contradiction

/-- Whether every device that answers that it is stopped was, as a look at each answer tells. -/
def answersTruly (stopped : Nat → List Moment → Prop) [∀ device h, Decidable (stopped device h)]
    (h : List Moment) : Bool :=
  (List.range h.length).all fun n =>
    (h[n]?.bind Moment.stoppedLane?).all fun lane => decide (stopped lane.device (h.take n))

theorem answersTruly_iff {stopped : Nat → List Moment → Prop}
    [∀ device h, Decidable (stopped device h)] {h : List Moment} :
    answersTruly stopped h = true ↔ FailsOnly stopped (· = .stopped) h := by
  constructor
  · rintro truly past e i fault rest lane rfl rfl hl
    have hlength : past.length <
        (past ++ ⟨e, .worker i (.settled (.failed .stopped))⟩ :: rest).length := by
      simp
    have hhere := List.all_eq_true.mp truly past.length (List.mem_range.mpr hlength)
    rw [List.getElem?_append_right (Nat.le_refl _), Nat.sub_self, List.take_left] at hhere
    simpa [Moment.stoppedLane?, hl] using hhere
  · intro fails
    refine List.all_eq_true.mpr fun n hn => ?_
    have hlength : n < h.length := List.mem_range.mp hn
    have hsplit : h = h.take n ++ h[n] :: h.drop (n + 1) := by
      rw [List.getElem_cons_drop, List.take_append_drop]
    rw [List.getElem?_eq_getElem hlength, Option.bind_some, Option.all_eq_true]
    intro lane hlane
    obtain ⟨i, haction, hl⟩ := Moment.stoppedLane?_eq_some hlane
    refine decide_eq_true (fails _ h[n].engine i .stopped (h.drop (n + 1)) lane ?_ rfl hl)
    rwa [← haction]

instance (stopped : Nat → List Moment → Prop) [∀ device h, Decidable (stopped device h)]
    (h : List Moment) : Decidable (FailsOnly stopped (· = .stopped) h) :=
  decidable_of_iff _ answersTruly_iff

/-- Nothing comes after the last of a kind but what comes after the last of another kind, if that
one is the earlier. -/
theorem since_subset {α : Type} {kind other : α → Bool} {l : List α} {x : α}
    (hx : x ∈ since other l) (hkind : kind x = true) : since kind l ⊆ since other l := by
  induction l using List.reverseRecOn with
  | nil => exact fun y hy => hy
  | append_singleton l last ih =>
    rw [since_snoc] at hx ⊢
    rw [since_snoc]
    split at hx
    · contradiction
    · rename_i hother
      rw [if_neg hother]
      split
      · exact List.nil_subset _
      · rename_i hlast
        rcases List.mem_append.mp hx with hx | hx
        · exact List.append_subset.mpr
            ⟨fun y hy => List.mem_append_left _ (ih hx hy), List.subset_append_right _ _⟩
        · obtain rfl := List.mem_singleton.mp hx
          contradiction

namespace Run

variable {b : Blueprint} {h : List Moment} {e : Engine}

/-- The device of a lane was opened in this cycle. -/
theorem opened_of_lane (run : Run b h e) {i : Nat} {lane : Lane} (hl : e.lanes[i]? = some lane) :
    ∃ m ∈ ofStart h, ∃ p, m.opening? = some (p, lane.device) := by
  have hne : e.lanes ≠ [] := List.ne_nil_of_mem (List.mem_of_getElem? hl)
  obtain ⟨n, hb⟩ := run.sound.bound hne
  obtain ⟨p, -, -, hopened⟩ := hb.owner hl
  obtain ⟨m, hm, hopening⟩ := List.mem_filterMap.mp (List.mem_of_getElem? hopened)
  exact ⟨m, hm, p, hopening⟩

/-- Once a device of the cycle is stopped, the running flag is cleared. -/
theorem halted_of_isStopped (run : Run b h e) {i : Nat} {lane : Lane}
    (hl : e.lanes[i]? = some lane) (stopped : IsStopped lane.device h) : e.isRunning = false := by
  have hne : e.lanes ≠ [] := List.ne_nil_of_mem (List.mem_of_getElem? hl)
  -- the device was opened in this cycle, so it was stopped in this cycle
  obtain ⟨m, hm, p, hopening⟩ := run.opened_of_lane hl
  have hopens : Moment.opens lane.device m = true := by simp [Moment.opens, hopening]
  have hsince := since_subset hm hopens
  have hstop : lane.device ∈ Mark.stops (marks (ofStart h)) :=
    (List.filterMap_subset _ (List.filterMap_subset _ hsince)) stopped
  rw [run.ledger.stops hne] at hstop
  have hst := run.sound.stage
  unfold Engine.standing at hstop
  cases hc : e.client with
  | stopping j a | joining j a | releasing a =>
    rw [hc] at hst
    exact hst.2
  | _ =>
    rw [hc] at hstop
    contradiction

/-- A device that is opened only once is stopped after that if at all. -/
theorem isStopped_of_wasStopped (run : Run b h e) (once : OpensOnce h) {device : Nat}
    (was : WasStopped device h) : IsStopped device h := by
  obtain ⟨mark, hseen, hdevice⟩ := List.mem_filterMap.mp was
  obtain ⟨i, rfl⟩ : ∃ i, mark = .stopped i device := by
    cases mark with
    | stopped i d => exact ⟨i, by rw [Option.some.inj hdevice]⟩
    | _ => contradiction
  obtain ⟨m, hm, hmark⟩ := List.mem_filterMap.mp hseen
  obtain ⟨past, rest, rfl⟩ := List.append_of_mem hm
  obtain ⟨lane, hl, rfl⟩ := Moment.lane_of_stop hmark
  -- it was opened before the stop, so it is not opened again from the stop on
  obtain ⟨m₀, hm₀, p, hgiven⟩ := run.before.1.opened_of_lane hl
  have hbefore : lane.device ∈ (past.filterMap Moment.opening?).map (·.2) :=
    List.mem_map.mpr ⟨_, List.mem_filterMap.mpr ⟨m₀, since_sublist.subset hm₀, hgiven⟩, rfl⟩
  rw [OpensOnce, List.filterMap_append, List.map_append] at once
  have hlater : ∀ x ∈ m :: rest, Moment.opens lane.device x = false := by
    intro x hx
    cases hagain : x.opening? with
    | none => rw [Moment.opens, hagain, Option.any_none]
    | some o =>
      have hafter : o.2 ∈ ((m :: rest).filterMap Moment.opening?).map (·.2) :=
        List.mem_map.mpr ⟨o, List.mem_filterMap.mpr ⟨x, hx, hagain⟩, rfl⟩
      have hother := (List.nodup_append.mp once).2.2 _ hbefore _ hafter
      rw [Moment.opens, hagain, Option.any_some]
      exact beq_false_of_ne hother.symm
  rw [IsStopped, WasStopped, since_append _ _ hlater, marks_append, Mark.stops_append]
  refine List.mem_append_right _ ?_
  rw [marks_cons, hmark, Mark.stops_append]
  exact List.mem_append_left _ (List.mem_singleton.mpr rfl)

/-- A lane belongs to the candidate of its place. -/
theorem lane_id (run : Run b h e) {i : Nat} {lane : Lane} (hl : e.lanes[i]? = some lane) :
    ∃ p, b.candidates[i]? = some p ∧ lane.id = p.id := by
  have hne : e.lanes ≠ [] := List.ne_nil_of_mem (List.mem_of_getElem? hl)
  obtain ⟨n, hb⟩ := run.sound.bound hne
  obtain ⟨p, hp, hid, -⟩ := hb.owner hl
  rw [run.candidates_eq] at hp
  exact ⟨p, hp, hid⟩

/-- The signs of a lane are those of whole operations and of one that may be under way. -/
theorem tends (run : Run b h e) {i : Nat} {p : DeviceProfile} (hp : b.candidates[i]? = some p) :
    Tends b.plan.retry.spare p.id e.isRunning (e.workerAt? i) (signsOf i h) := by
  induction run with
  | built hb =>
    obtain ⟨pcm, -, rfl⟩ := Engine.build_eq_ok hb
    exact ⟨[], [], rfl, by simp, rfl⟩
  | @snoc h e e' a run hs ih =>
    cases a with
    | call c =>
      obtain ⟨-, rfl⟩ := Engine.step_call_eq_some hs
      obtain ⟨hlanes, hrun, -, -, -⟩ := e.begin_keeps c
      rw [signsOf_snoc, Engine.workerAt?, hlanes, hrun]
      exact (List.append_nil _).symm ▸ ih
    | adjust level =>
      cases hs
      rw [signsOf_snoc]
      exact (List.append_nil _).symm ▸ ih
    | client input =>
      rw [signsOf_snoc, Moment.sign?, Option.toList_none, List.filterMap_nil, List.append_nil]
      -- a new worker begins with no operation, and the flag is set for new workers alone
      rcases Engine.workerAt?_client run.sound run.ledger (Engine.clientStep_of_stepClient hs) i
        with ⟨hworker, hflag⟩ | ⟨hover, hnew⟩
      · rw [hworker]
        exact ih.mono hflag
      · refine ih.renew (fun rest hrest => hrest.of_over hover) ?_
        rcases hnew with hnew | hnew <;> rw [hnew] <;> rfl
    | worker j input =>
      obtain ⟨lane, w, w', pipe, note, hl, hw, hm, he⟩ := Engine.stepWorker_eq_leave hs
      obtain ⟨counters, journal, hleft⟩ :=
        { e with lanes := e.lanes.set j { lane with pipe, worker := some w' } }.leave_eq
          (e.workerName j) note
      rw [hleft] at he
      subst he
      rw [signsOf_work i h hl hw]
      by_cases hij : j = i
      · subst hij
        have hid : lane.id = p.id := by
          obtain ⟨q, hq, hid⟩ := run.lane_id hl
          obtain rfl := Option.some.inj (hp.symm.trans hq)
          exact hid
        have hbefore : e.workerAt? j = some w := by rw [Engine.workerAt?, hl, Option.bind_some, hw]
        have hj := (List.getElem?_eq_some_iff.mp hl).1
        rw [hid] at hm
        rw [hbefore, ← run.plan_eq] at ih
        rw [Engine.workerAt?, List.getElem?_set_self hj, Option.bind_some, ← run.plan_eq,
          if_pos rfl, hid]
        exact ih.move hm
      · rw [if_neg hij, List.append_nil, Engine.workerAt?, List.getElem?_set_ne hij]
        exact ih

/-- What is seen of an operation is seen of a candidate's lane. -/
theorem owner_of_sign (run : Run b h e) {i : Nat} {s : Sign} (hs : (i, s) ∈ signs h) :
    ∃ p, b.candidates[i]? = some p := by
  obtain ⟨m, hm, hsign⟩ := List.mem_filterMap.mp hs
  obtain ⟨past, rest, rfl⟩ := List.append_of_mem hm
  obtain ⟨input, lane, w, -, hl, -⟩ := Moment.sign?_eq_some hsign
  obtain ⟨p, hp, -⟩ := run.before.1.lane_id hl
  exact ⟨p, hp⟩

/-- A fault that devices answer with only when they are stopped is returned to no worker while
the stream runs. -/
theorem unreturned (run : Run b h e) {late : DeviceError → Prop}
    (stops : FailsOnly IsStopped late h)
    {fault : DeviceError} (hlate : late fault) (i : Nat) : (i, .failed fault true) ∉ signs h := by
  intro hs
  obtain ⟨⟨e₁, a⟩, hm, hsign⟩ := List.mem_filterMap.mp hs
  obtain ⟨past, rest, rfl⟩ := List.append_of_mem hm
  obtain ⟨input, lane, w, rfl, hl, -, hfailed⟩ := Moment.sign?_eq_some hsign
  obtain ⟨rfl, running⟩ := WorkerState.sign?_eq_failed hfailed
  have halted := run.before.1.halted_of_isStopped hl (stops past e₁ i fault rest lane rfl hlate hl)
  exact absurd (running.trans halted) (by decide)

/-- Where no device is opened twice, one that was stopped at all was stopped since it was opened. -/
theorem failsOnly_isStopped (run : Run b h e) (once : OpensOnce h) {late : DeviceError → Prop}
    (fails : FailsOnly WasStopped late h) : FailsOnly IsStopped late h := by
  rintro past e₁ i fault rest lane rfl hlate hl
  have hbegun : ((past.filterMap Moment.opening?).map (·.2)).Sublist
      (((past ++ ⟨e₁, .worker i (.settled (.failed fault))⟩ :: rest).filterMap
        Moment.opening?).map (·.2)) :=
    ((List.sublist_append_left _ _).filterMap _).map _
  exact run.before.1.isStopped_of_wasStopped (once.sublist hbegun)
    (fails past e₁ i fault rest lane rfl hlate hl)

/-- The signs of each lane, over all cycles and whatever the threads' order, are those of whole
device operations and of one that may be under way: one whose failure was returned when the
running flag was cleared is excused, and one whose worker found the flag set is counted once and
told once, after as many tries as the policy allows. The counter and the journal hold the failures
that the signs say were counted and told, and no others. In particular, faults that devices
answer with only when the engine has stopped them since it opened them last are never counted nor
told; where no device is opened twice, it is enough that the engine has stopped them at all. -/
theorem failures_after_halt_are_silent (run : Run b h e) :
    (∀ i p, b.candidates[i]? = some p → ∃ (ops : List Operation) (rest : List Sign),
        signsOf i h = ops.flatMap (Operation.signs p.id) ++ rest ∧
        (∀ op ∈ ops, op.tries.length ≤ b.plan.retry.spare) ∧
        Operation.Unfinished b.plan.retry.spare e.isRunning (e.workerAt? i) rest ∧
        (rest ≠ [] → ∃ w, e.workerAt? i = some w ∧ w.isOver = false ∧
          ∀ input, WorkerInput.Fits w input → (e.step (.worker i input)).isSome = true)) ∧
      (∀ s ∈ signs h, ∃ p, b.candidates[s.1]? = some p) ∧
      e.counters.deviceErrors = UInt64.ofNat ((signs h).countP (·.2.isCounted)) ∧
      (tellings h).filterMap Telling.failure? =
        ((signs h).filterMap fun s => s.2.event?.map (s.1, ·)) ∧
      e.journal = (if b.isListening then ((tellings h).map Telling.entry).reverse else []) ∧
      (∀ late : DeviceError → Prop, FailsOnly IsStopped late h →
        (∀ i fault, late fault → (i, .failed fault true) ∉ signs h) ∧
        ∀ t ∈ tellings h, ∀ id text, t.event = .deviceFailed id text →
          ∃ fault, text = fault.message ∧ ¬late fault ∧ (t.lane, .failed fault true) ∈ signs h) ∧
      (OpensOnce h → ∀ late : DeviceError → Prop,
        FailsOnly WasStopped late h → FailsOnly IsStopped late h) := by
  refine ⟨?_, fun s hs => run.owner_of_sign hs, ?_, failures_tellings h, run.journal_eq, ?_,
    fun once _ => run.failsOnly_isStopped once⟩
  · intro i p hp
    obtain ⟨ops, rest, hsigns, htries, hrest⟩ := run.tends hp
    exact ⟨ops, rest, hsigns, htries, hrest, hrest.goes_on⟩
  · rw [run.counters_eq, deviceErrors_tally]
  · intro late stops
    refine ⟨fun i fault hlate => run.unreturned stops hlate i, ?_⟩
    intro t ht id text hevent
    have hfailure : (t.lane, t.event) ∈ (tellings h).filterMap Telling.failure? :=
      List.mem_filterMap.mpr ⟨t, ht, by rw [Telling.failure?, hevent]⟩
    rw [failures_tellings] at hfailure
    obtain ⟨⟨i, s⟩, hs, hsign⟩ := List.mem_filterMap.mp hfailure
    obtain ⟨event, htold, heq⟩ := Option.map_eq_some_iff.mp hsign
    obtain ⟨rfl, rfl⟩ := Prod.mk.inj heq
    obtain rfl := Sign.event?_eq_some htold
    obtain ⟨p, hp⟩ := run.owner_of_sign hs
    obtain ⟨fault, hblamed, hfailed⟩ := (run.tends hp).of_told (mem_signs.mpr hs)
    obtain ⟨-, rfl⟩ := Event.deviceFailed.inj (hevent.symm.trans hblamed)
    have hreturned := mem_signs.mp hfailed
    exact ⟨fault, rfl, fun hlate => run.unreturned stops hlate t.lane hreturned, hreturned⟩

/-- A capture device fails twice, once for good; it fails again when a standby has stopped it, and
the next start opens another one. -/
theorem silent_when_stopped :
    ∃ h e, Run (.small .input [.attached 0 0 .input]) h e ∧ e.isRunning = true ∧
      OpensOnce h ∧ FailsOnly WasStopped (· = .stopped) h ∧
      signsOf 0 h = [.tried (.transient "busy"), .failed (.custom "torn") true,
        .looked (.custom "torn") true, .counted, .told (.deviceFailed "hw:0,0" "torn"),
        .failed .stopped false, .looked .stopped false] ∧
      e.counters.deviceErrors = UInt64.ofNat ((signs h).countP (·.2.isCounted)) ∧
      ∀ t ∈ tellings h, ∀ id text, t.event = .deviceFailed id text →
        ∃ fault, text = fault.message ∧ fault ≠ .stopped ∧
          (t.lane, .failed fault true) ∈ signs h := by
  have hfollow : ((Blueprint.small .input [.attached 0 0 .input]).follow
      [.call .start, .client (.opened (.ok 0)), .client .tick, .client (.spawned (.ok ())),
        .client .tick, .client .tick, .client .tick, .worker 0 .tick,
        .worker 0 (.settled (.failed (.transient "busy"))), .worker 0 .tick,
        .worker 0 (.settled (.failed (.custom "torn"))), .worker 0 .tick, .worker 0 .tick,
        .worker 0 .tick, .worker 0 .tick, .call .standby, .client .tick, .client .tick,
        .client .tick, .worker 0 (.settled (.failed .stopped)), .worker 0 .tick, .worker 0 .tick,
        .worker 0 .tick, .client .tick, .client .tick, .client .tick, .client .tick, .call .start,
        .client (.opened (.ok 1)), .client .tick, .client (.spawned (.ok ())),
        .client .tick, .client .tick, .client .tick, .worker 0 .tick]).map
      (fun run => (signsOf 0 run.1, run.2.isRunning,
        (run.1.filterMap Moment.opening?).map (·.2),
        decide (FailsOnly WasStopped (· = .stopped) run.1))) =
      some ([.tried (.transient "busy"), .failed (.custom "torn") true,
        .looked (.custom "torn") true, .counted, .told (.deviceFailed "hw:0,0" "torn"),
        .failed .stopped false, .looked .stopped false], true, [0, 1], true) := by
    decide
  obtain ⟨⟨h, e⟩, hrun, hseen⟩ := Option.map_eq_some_iff.mp hfollow
  have run := Run.of_follow hrun
  simp only [Prod.mk.injEq] at hseen
  obtain ⟨hsigns, running, hopened, hfails⟩ := hseen
  have once : OpensOnce h := by
    rw [OpensOnce, hopened]
    decide
  have fails : FailsOnly WasStopped (· = .stopped) h := of_decide_eq_true hfails
  obtain ⟨-, -, hcount, -, -, hlate, hliteral⟩ := run.failures_after_halt_are_silent
  exact ⟨h, e, run, running, once, fails, hsigns, hcount, (hlate _ (hliteral once _ fails)).2⟩

/-- A playback device is opened and stopped by a standby, and the next start is given the same
device, which still is stopped: it refuses the first write. -/
def handedOutAgain : List Action :=
  [.call .start, .client (.opened (.ok 0)), .client .tick, .client (.spawned (.ok ())),
    .client .tick, .client .tick, .client .tick, .call .standby, .client .tick, .client .tick,
    .client .tick, .client .tick, .worker 0 .tick, .worker 0 .tick, .client .tick, .client .tick,
    .client .tick, .call .start, .client (.opened (.ok 0)), .client .tick,
    .client (.spawned (.ok ())), .client .tick, .client .tick, .client .tick,
    .call (.transfer [1, 0] 1), .client .tick, .client .tick, .worker 0 .tick, .worker 0 .tick,
    .worker 0 (.settled (.failed .stopped)), .worker 0 .tick, .worker 0 .tick, .worker 0 .tick]

/-- A device that answers that it is stopped only after a stop may still be told of: it is enough
that an opener hands it out again, as that stop came before it was opened last. -/
theorem told_when_handed_out_again :
    ∃ h e, (Blueprint.small .output [.attached 0 0 .output]).follow handedOutAgain = some (h, e) ∧
      Run (.small .output [.attached 0 0 .output]) h e ∧
      FailsOnly WasStopped (· = .stopped) h ∧ ¬FailsOnly IsStopped (· = .stopped) h ∧
      signsOf 0 h = [.failed .stopped true, .looked .stopped true, .counted,
        .told (.deviceFailed "hw:0,0" DeviceError.stopped.message)] ∧
      e.counters.deviceErrors = 1 ∧
      e.journal.head? =
        some ("pcm-out-0", .deviceFailed "hw:0,0" DeviceError.stopped.message) := by
  have hfollow : ((Blueprint.small .output [.attached 0 0 .output]).follow handedOutAgain).map
      (fun run => (signsOf 0 run.1, run.2.counters.deviceErrors, run.2.journal.head?,
        decide (FailsOnly WasStopped (· = .stopped) run.1 ∧
          ¬FailsOnly IsStopped (· = .stopped) run.1))) =
      some ([.failed .stopped true, .looked .stopped true, .counted,
        .told (.deviceFailed "hw:0,0" DeviceError.stopped.message)], 1,
        some ("pcm-out-0", .deviceFailed "hw:0,0" DeviceError.stopped.message), true) := by
    decide
  obtain ⟨⟨h, e⟩, hrun, hseen⟩ := Option.map_eq_some_iff.mp hfollow
  simp only [Prod.mk.injEq] at hseen
  obtain ⟨hsigns, hcount, hjournal, hfails⟩ := hseen
  obtain ⟨hever, hanew⟩ := of_decide_eq_true hfails
  exact ⟨h, e, hrun, Run.of_follow hrun, hever, hanew, hsigns, hcount, hjournal⟩

end Run

end AudioRelay
