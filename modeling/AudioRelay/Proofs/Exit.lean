import AudioRelay.Proofs.DeviceCall
import AudioRelay.Proofs.Ledger

/-!
# How workers end

Once the running flag is cleared, a worker makes no more than one device call, of which it may
be in the middle, and its pipe takes frames from it once at most. From the moment the pipes of a
capture stream are shut, every move brings a worker nearer to its end, by a distance that knows
nothing of the data in its pipe or its device.
-/

namespace AudioRelay

namespace Moment

/-- Whether the client shuts the pipes of a capture stream, if this is one. -/
def isSeal (m : Moment) : Bool :=
  match m.action, m.engine.client with
  | .client .tick, .sealing _ => true
  | _, _ => false

/-- Whether the worker of lane `i` moves. -/
def isMove (i : Nat) (m : Moment) : Bool :=
  match m.action with
  | .worker j _ => j = i
  | _ => false

end Moment

/-- The frames that a pipe takes in a worker's next move, if it takes any. -/
def WorkerState.push? (pipe : Pipe) : WorkerState → Option Nat
  | offering rest .writing => if 0 < (pipe.write rest).1 then some (pipe.write rest).1 else none
  | _ => none

/-- The frames that the pipe of lane `i` takes from its worker, if it takes any. -/
def Moment.push? (i : Nat) (m : Moment) : Option Nat :=
  match m.action with
  | .worker j .tick =>
    if j = i then m.engine.lanes[i]?.bind fun lane => lane.worker.bind (·.push? lane.pipe) else none
  | _ => none

/-- The frames that the pipe of lane `i` took from its worker, offer by offer. -/
def pushes (i : Nat) (h : List Moment) : List Nat := h.filterMap (Moment.push? i)

/-- The moves that the worker of lane `i` made. -/
def moves (i : Nat) (h : List Moment) : List Moment := h.filter (Moment.isMove i)

theorem pushes_snoc (i : Nat) (h : List Moment) (m : Moment) :
    pushes i (h ++ [m]) = pushes i h ++ (m.push? i).toList := by
  unfold pushes
  rw [List.filterMap_append]
  cases hm : m.push? i <;> simp [hm]

theorem length_moves_snoc (i : Nat) (h : List Moment) (m : Moment) :
    (moves i (h ++ [m])).length = (moves i h).length + (m.isMove i).toNat := by
  unfold moves
  rw [List.filter_append, List.length_append]
  cases hm : m.isMove i <;> simp [hm]

/-- Something that may move a worker: a device settles a transfer as it was asked to, and all
else a worker does by itself. -/
def WorkerInput.Fits : WorkerState → WorkerInput → Prop
  | .transferring transfer _, .settled (.done bytes) => WorkerState.accepts transfer bytes = true
  | .transferring _ _, .settled _ => True
  | .transferring _ _, .tick => False
  | _, .tick => True
  | _, .settled _ => False

/-- A live worker moves on whatever fits. -/
theorem WorkerState.next_isSome {plan : StreamPlan} {running : Bool} {id : DeviceId} {pipe : Pipe}
    {w : WorkerState} {input : WorkerInput} (live : w.isOver = false) (fits : input.Fits w) :
    (w.next plan running id pipe input).isSome = true := by
  cases w with
  | gone | crashed => contradiction
  | transferring transfer left =>
    cases input with
    | tick => exact fits.elim
    | settled outcome =>
      cases outcome with
      | done bytes =>
        have accepted : accepts transfer bytes = true := fits
        simp only [next, accepted, if_true, Option.isSome_some]
      | failed fault | crashed misuse => rfl
  | taking | offering rest offer =>
    cases input with
    | settled outcome => exact fits.elim
    | tick =>
      simp only [next]
      split <;> rfl
  | _ =>
    cases input with
    | settled outcome => exact fits.elim
    | tick => rfl

/-- A live worker of a lane can make its next move. -/
theorem Engine.step_worker_isSome {e : Engine} {i : Nat} {lane : Lane} {w : WorkerState}
    {input : WorkerInput} (hl : e.lanes[i]? = some lane) (hw : lane.worker = some w)
    (live : w.isOver = false) (fits : input.Fits w) : (e.step (.worker i input)).isSome = true := by
  have hmove : (w.next e.plan e.isRunning lane.id lane.pipe input).isSome = true :=
    WorkerState.next_isSome live fits
  simp only [Engine.step, Engine.stepWorker, hl, Lane.step, hw, Option.isSome_map, hmove]

/-- The running flag is cleared, and no start is about to set it. -/
structure Engine.Halted (e : Engine) : Prop where
  flag : e.isRunning = false
  closed : ∀ todo ids, e.client ≠ .opening todo ids

/-- What an action does to lane `i` of an engine that is halted: its worker moves, or its pipe is
shut at most. -/
inductive Lane.Fade (plan : StreamPlan) (i : Nat) (a : Action) (lane : Lane) : Lane → Prop
  | worked {w w' : WorkerState} {input : WorkerInput} {pipe : Pipe} {note : Option Note} :
      a = .worker i input → lane.worker = some w →
      w.Move plan false lane.id lane.pipe input w' pipe note →
      Lane.Fade plan i a lane { lane with pipe, worker := some w' }
  | kept : (∀ input, a ≠ .worker i input) → Lane.Fade plan i a lane lane
  | shut : (∀ input, a ≠ .worker i input) →
      Lane.Fade plan i a lane { lane with pipe := lane.pipe.shutdown true }

namespace Lane

variable {plan : StreamPlan} {i : Nat} {a : Action} {lane lane' : Lane}

/-- A pipe that is shut stays so. -/
theorem Fade.isShut (h : Fade plan i a lane lane') (hshut : lane.pipe.isShut = true) :
    lane'.pipe.isShut = true := by
  cases h with
  | kept _ => exact hshut
  | shut _ => rfl
  | worked ha hw hm =>
    cases hm with
    | took hr _ | starved hr =>
      have hsame := lane.pipe.read_isShut plan.chunkBytes
      rw [hr] at hsame
      exact hsame.trans hshut
    | @pushed rest frames pipe hwrite hg =>
      have hsame := lane.pipe.write_isShut rest
      rw [hwrite] at hsame
      exact hsame.trans hshut
    | _ => exact hshut

/-- Only its own worker changes what a lane's worker will do. -/
theorem Fade.worker_eq (h : Fade plan i a lane lane') (other : ∀ input, a ≠ .worker i input) :
    lane'.worker = lane.worker := by
  cases h with
  | kept _ | shut _ => rfl
  | worked ha _ _ => exact absurd ha (other _)

end Lane

namespace Engine

variable {e e' : Engine} {opened : List (DeviceProfile × Nat)} {a : Action}

/-- A client that no longer streams sets the flag only by a start, and its lanes fade. -/
theorem Halted.client (halted : e.Halted) (sound : e.Sound opened) {input : ClientInput}
    (hs : ClientStep e input e') :
    e'.Halted ∧ ∀ i lane', e'.lanes[i]? = some lane' →
      ∃ lane, e.lanes[i]? = some lane ∧ Lane.Fade e.plan i (.client input) lane lane' := by
  have hst := sound.stage
  have other : ∀ (i : Nat) (wi : WorkerInput), Action.client input ≠ .worker i wi :=
    fun _ _ heq => by contradiction
  have kept {e' : Engine} (lanes : e'.lanes = e.lanes) (running : e'.isRunning = e.isRunning)
      (closed : ∀ todo ids, e'.client ≠ .opening todo ids) :
      e'.Halted ∧ ∀ i lane', e'.lanes[i]? = some lane' →
        ∃ lane, e.lanes[i]? = some lane ∧ Lane.Fade e.plan i (.client input) lane lane' := by
    refine ⟨⟨running.trans halted.flag, closed⟩, ?_⟩
    intro i lane' hl
    rw [lanes] at hl
    exact ⟨lane', hl, .kept (other i)⟩
  cases hs with
  | opened hc | refused hc | unserved hc | bound hc _ => exact absurd hc (halted.closed _ _)
  | spawned hc _ | sent hc _ _ | received hc _ _ _ _ =>
    rw [hc] at hst
    exact absurd (hst.2.symm.trans halted.flag) (by simp)
  | halted hc => exact kept rfl halted.flag.symm (fun todo ids hc => by contradiction)
  | @sealed a hc =>
    unfold shutCapture
    split
    · exact kept rfl rfl (fun todo ids hc => by contradiction)
    · refine ⟨⟨halted.flag, fun todo ids hc => by contradiction⟩, ?_⟩
      intro i lane' hl
      obtain ⟨lane, hold, rfl⟩ :=
        Option.map_eq_some_iff.mp ((List.getElem?_map ..).symm.trans hl)
      exact ⟨lane, hold, .shut (other i)⟩
  | released hc =>
    refine ⟨⟨halted.flag, fun todo ids hc => by contradiction⟩, ?_⟩
    intro i lane' hl
    contradiction
  | located hc =>
    unfold locate
    split <;> exact kept rfl rfl (fun todo ids hc => by contradiction)
  | @latencyTold i ms p hc =>
    refine kept rfl rfl ?_
    intro todo ids hc
    dsimp only [afterLatency] at hc
    split at hc <;> contradiction
  | spawnRefused hc _ | staffed hc _ | enrolled hc | heralded hc _ | scaled hc | allSent hc _
  | dropCounted hc | dropReported hc _ | silenceCounted hc | silenceReported hc | transferred hc
  | rebased hc | drained hc | stopped hc _ | allStopped hc _ | joined hc _ _ | allJoined hc _ =>
    exact kept rfl rfl (fun todo ids hc => by contradiction)

/-- Without a start a halted engine stays halted, and its lanes fade. -/
theorem Halted.step (halted : e.Halted) (sound : e.Sound opened) (hs : e.step a = some e')
    (unstarted : Moment.isStart ⟨e, a⟩ = false) :
    e'.Halted ∧ ∀ i lane', e'.lanes[i]? = some lane' →
      ∃ lane, e.lanes[i]? = some lane ∧ Lane.Fade e.plan i a lane lane' := by
  cases a with
  | call c =>
    obtain ⟨ha, rfl⟩ := step_call_eq_some hs
    obtain ⟨a, hc⟩ := answered_of_isSome ha
    obtain ⟨hlanes, hrun, -, -, -⟩ := e.begin_keeps c
    obtain ⟨-, hclosed⟩ := e.begin_standing hc (c := c) (by rw [unstarted]; simp)
    refine ⟨⟨hrun.trans halted.flag, hclosed⟩, ?_⟩
    intro i lane' hl
    rw [hlanes] at hl
    exact ⟨lane', hl, .kept fun input heq => by contradiction⟩
  | client input => exact halted.client sound (clientStep_of_stepClient hs)
  | worker j input =>
    obtain ⟨lane, w, w', pipe, note, hl, hw, hm, he⟩ := stepWorker_eq_leave hs
    obtain ⟨counters, journal, hleft⟩ :=
      { e with lanes := e.lanes.set j { lane with pipe, worker := some w' } }.leave_eq
        (e.workerName j) note
    rw [hleft] at he
    subst he
    rw [halted.flag] at hm
    refine ⟨⟨halted.flag, halted.closed⟩, ?_⟩
    intro i lane' hl'
    dsimp only at hl'
    rw [List.getElem?_set] at hl'
    split at hl'
    · rename_i hij
      subst hij
      split at hl'
      · cases hl'
        exact ⟨lane, hl, .worked rfl hw hm⟩
      · contradiction
    · rename_i hij
      refine ⟨lane', hl', .kept ?_⟩
      rintro input' heq
      exact hij (Action.worker.inj heq).1
  | adjust level =>
    cases hs
    refine ⟨⟨halted.flag, halted.closed⟩, ?_⟩
    intro i lane' hl
    exact ⟨lane', hl, .kept fun input heq => by contradiction⟩

end Engine

/-- Only a worker's own moves make attempts on its lane. -/
theorem Moment.attempts_of_other {e : Engine} {a : Action} {i : Nat}
    (other : ∀ input, a ≠ .worker i input) :
    Deed.attempts (Moment.deed? i ⟨e, a⟩).toList = [] := by
  cases a with
  | worker j input =>
    have hij : j ≠ i := by
      rintro rfl
      exact other input rfl
    simp only [Moment.deed?, if_neg hij]
    rfl
  | client input =>
    cases input with
    | tick =>
      simp only [Moment.deed?, Engine.clientDeed?]
      split
      · split <;> rfl
      · rfl
      · split
        · cases e.lanes[i]? <;> rfl
        · rfl
      · split
        · cases e.lanes[i]? <;> rfl
        · rfl
      · rfl
    | _ => rfl
  | _ => rfl

/-- Only a worker's own moves push frames into its pipe. -/
theorem Moment.push?_of_other {e : Engine} {a : Action} {i : Nat}
    (other : ∀ input, a ≠ .worker i input) : Moment.push? i ⟨e, a⟩ = none := by
  cases a with
  | worker j input =>
    have hij : j ≠ i := by
      rintro rfl
      exact other input rfl
    cases input with
    | tick => simp only [Moment.push?, if_neg hij]
    | settled outcome => rfl
  | _ => rfl

/-- Only a worker's own moves are its moves. -/
theorem Moment.isMove_of_other {e : Engine} {a : Action} {i : Nat}
    (other : ∀ input, a ≠ .worker i input) : Moment.isMove i ⟨e, a⟩ = false := by
  cases a with
  | worker j input =>
    refine decide_eq_false ?_
    rintro rfl
    exact other input rfl
  | _ => rfl

/-- The attempts are those of one call, which may have begun before; it is over or goes on. -/
def DeviceCall.AtMostOne (spare : Nat) (attempts : List (Transfer × Outcome (List UInt8))) : Prop :=
  ∃ c left, left ≤ spare ∧ attempts = DeviceCall.attempts c ∧
    (c.IsOver left ∨ ∃ more, c.IsOpen left more)

/-- No attempts are those of a call that has yet to be tried. -/
theorem DeviceCall.atMostOne_nil (spare : Nat) : DeviceCall.AtMostOne spare [] :=
  ⟨⟨.write [], []⟩, spare, Nat.le_refl _, rfl, .inr ⟨spare, rfl⟩⟩

/-- What a worker that is in this state has done since the running flag was cleared: the attempts
on its device, and the frames that its pipe took. -/
def WorkerState.Spent (spare : Nat) (attempts : List (Transfer × Outcome (List UInt8)))
    (pushed : List Nat) : WorkerState → Prop
  | taking => attempts = [] ∧ pushed = []
  | offering _ _ => attempts = [] ∧ pushed = []
  | transferring transfer left => pushed = [] ∧ ∃ first outcomes, first ≤ spare ∧
      attempts = (DeviceCall.mk transfer outcomes).attempts ∧
      Retry.left? first outcomes = some left
  | pausing transfer left => pushed = [] ∧ ∃ first outcomes, first ≤ spare ∧
      attempts = (DeviceCall.mk transfer outcomes).attempts ∧
      Retry.left? first outcomes = some left
  | _ => DeviceCall.AtMostOne spare attempts ∧ pushed.length ≤ 1

namespace WorkerState

variable {spare : Nat} {attempts : List (Transfer × Outcome (List UInt8))} {pushed : List Nat}
  {w w' : WorkerState}

/-- A worker that has done nothing since the flag was cleared may be anywhere. -/
theorem spent_nil (within : w.Within spare) : w.Spent spare [] [] := by
  cases w with
  | transferring transfer left | pausing transfer left => exact ⟨rfl, left, [], within, rfl, rfl⟩
  | taking | offering rest offer => exact ⟨rfl, rfl⟩
  | _ => exact ⟨DeviceCall.atMostOne_nil spare, Nat.zero_le _⟩

/-- Wherever a worker is, it made one call at most and pushed once at most. -/
theorem Spent.atMostOne (h : w.Spent spare attempts pushed) :
    DeviceCall.AtMostOne spare attempts ∧ pushed.length ≤ 1 := by
  cases w with
  | taking | offering rest offer =>
    obtain ⟨rfl, rfl⟩ := h
    exact ⟨DeviceCall.atMostOne_nil spare, Nat.zero_le _⟩
  | transferring transfer left | pausing transfer left =>
    obtain ⟨rfl, first, outcomes, hfirst, hattempts, hleft⟩ := h
    exact ⟨⟨_, first, hfirst, hattempts, .inr ⟨left, hleft⟩⟩, Nat.zero_le _⟩
  | _ => exact h

/-- A settled attempt is one of the call under way; one that leaves no other ends the call. -/
theorem Spent.settle {transfer : Transfer} {left : Nat}
    (h : (transferring transfer left).Spent spare attempts pushed)
    (last : Outcome (List UInt8)) (hlast : Retry.left? left [last] = none) :
    DeviceCall.AtMostOne spare (attempts ++ [(transfer, last)]) ∧ pushed.length ≤ 1 := by
  obtain ⟨rfl, first, outcomes, hfirst, rfl, hleft⟩ := h
  refine ⟨⟨⟨transfer, outcomes ++ [last]⟩, first, hfirst, ?_, .inl ?_⟩, Nat.zero_le _⟩
  · simp [DeviceCall.attempts]
  · exact ⟨outcomes, last, left, rfl, hleft, hlast⟩

/-- Every move of a worker after the flag was cleared keeps it within what it may do. -/
theorem Spent.move {plan : StreamPlan} {id : DeviceId} {pipe pipe' : Pipe} {input : WorkerInput}
    {note : Option Note} (h : w.Spent plan.retry.spare attempts pushed)
    (hm : w.Move plan false id pipe input w' pipe' note) :
    w'.Spent plan.retry.spare
      (attempts ++ Deed.attempts (w.deed? plan pipe input).toList)
      (pushed ++ (w.push? pipe).toList) := by
  have done := h.atMostOne
  have still {w' : WorkerState} (hs : w'.Spent plan.retry.spare attempts pushed) :
      w'.Spent plan.retry.spare (attempts ++ []) (pushed ++ []) := by
    rwa [List.append_nil, List.append_nil]
  have settled {transfer : Transfer} {left : Nat}
      (h : (transferring transfer left).Spent plan.retry.spare attempts pushed)
      (last : Outcome (List UInt8)) (hlast : Retry.left? left [last] = none) :
      DeviceCall.AtMostOne plan.retry.spare (attempts ++ [(transfer, last)]) ∧
        (pushed ++ []).length ≤ 1 := by
    rw [List.append_nil]
    exact h.settle last hlast
  cases hm with
  | @took chunk pipe' hr hne =>
    obtain ⟨rfl, rfl⟩ := h
    rw [deed?_of_took hr hne]
    exact ⟨rfl, plan.retry.spare, [], Nat.le_refl _, rfl, rfl⟩
  | starved hr =>
    rw [deed?_of_starved hr]
    exact still done
  | wrote | filled | died => exact settled h _ rfl
  | @gaveUp transfer left fault hf =>
    have hagain : Retry.again? fault left = none := by
      rcases hf with hpermanent | rfl
      · cases left <;> simp only [Retry.again?, hpermanent, Bool.false_eq_true, if_false]
      · rfl
    exact settled h (.failed fault) (by rw [Retry.left?, hagain, Option.bind_none])
  | @retried transfer left fault ht =>
    obtain ⟨rfl, first, outcomes, hfirst, rfl, hleft⟩ := h
    refine ⟨rfl, first, outcomes ++ [.failed fault], hfirst, ?_, ?_⟩
    · simp [DeviceCall.attempts, deed?, Deed.attempts]
    · rw [Retry.left?_snoc, hleft]
      simp only [Option.bind_some, Retry.left?, Retry.again?, ht, if_true]
  | @pushed rest frames pipe' hw hg =>
    obtain ⟨rfl, rfl⟩ := h
    have hone : (push? pipe (offering rest .writing)).toList.length ≤ 1 := by
      unfold push?
      split <;> simp
    have hspent : DeviceCall.AtMostOne plan.retry.spare [] ∧
        ([] ++ (push? pipe (offering rest .writing)).toList).length ≤ 1 :=
      ⟨DeviceCall.atMostOne_nil _, by rwa [List.nil_append]⟩
    unfold afterOffer
    split
    · exact hspent
    · exact hspent
  | parked hzero hroom =>
    rw [push?, hzero]
    exact still h
  | entered hrun | blamed hrun | offered hrun => contradiction
  | rested | admitted | roused => exact still h
  | halted | woke | excused | counted | reported | abandoned | refused | ended =>
    exact still done

/-- How many moves a worker is away from its end at most, once the flag is cleared and the pipe
of a capture stream is shut. -/
def distance (spare : Nat) : WorkerState → Nat
  | gone => 0
  | crashed => 0
  | leaving => 1
  | looping => 2
  | pumping _ => 2
  | offering _ .entering => 2
  | offering _ .waiting => 3
  | offering _ .writing => 4
  | idling => 3
  | failing _ => 3
  | reporting _ => 3
  | counting _ => 4
  | transferring _ left => 2 * left + 4
  | pausing _ left => 2 * left + 5
  | taking => 2 * spare + 5

/-- No worker is farther from its end than one that is about to take a chunk. -/
theorem distance_le (within : w.Within spare) : w.distance spare ≤ 2 * spare + 5 := by
  cases w with
  | transferring transfer left | pausing transfer left =>
    have hleft : left ≤ spare := within
    simp only [distance]
    omega
  | offering rest offer =>
    cases offer with
    | entering | writing | waiting =>
      simp only [distance]
      omega
  | _ =>
    simp only [distance]
    omega

/-- A live worker is not at its end. -/
theorem distance_pos (live : w.isOver = false) : 0 < w.distance spare := by
  cases w with
  | gone | crashed => contradiction
  | offering rest offer => cases offer <;> exact Nat.succ_pos _
  | _ => exact Nat.succ_pos _

/-- Every move brings a worker nearer to its end. -/
theorem Move.approaches {plan : StreamPlan} {id : DeviceId} {pipe pipe' : Pipe}
    {input : WorkerInput} {note : Option Note} (suits : w.Suits plan)
    (shut : plan.direction = .input → pipe.isShut = true)
    (hm : w.Move plan false id pipe input w' pipe' note) :
    w'.distance plan.retry.spare < w.distance plan.retry.spare := by
  cases hm with
  | entered hrun | blamed hrun | offered hrun => contradiction
  | admitted hopen => exact absurd (hopen.symm.trans (shut suits)) (by simp)
  | pushed hw hg =>
    unfold afterOffer
    split <;> simp only [distance] <;> omega
  | gaveUp _ | wrote | filled | died | retried _ | rested | took _ _ | starved _ | halted _ | woke
  | excused _ | counted | reported | abandoned _ | refused _ | parked _ _ | roused | ended =>
    simp only [distance]
    omega

end WorkerState

namespace Run

variable {b : Blueprint} {h later : List Moment} {e : Engine} {i : Nat}

/-- Every worker does what its stream is for. -/
theorem suits (run : Run b h e) {lane : Lane} {w : WorkerState} (hl : e.lanes[i]? = some lane)
    (hw : lane.worker = some w) : w.Suits b.plan := by
  obtain ⟨calls, accounted⟩ : ∃ calls, (e.view i).Accounted b.plan calls
      (Deed.thisCycle (deeds i h)) := by
    obtain ⟨hview, hdeeds⟩ := run.view_eq (run.lt_candidates hl)
    rw [hview, hdeeds]
    refine View.cycle_induction (fun v ds => ∃ calls, v.Accounted b.plan calls ds) ?_ ?_ ?_ _
    · exact ⟨[], View.accounted_nil fun s hs => by contradiction⟩
    · refine fun v => ⟨[], View.accounted_nil ?_⟩
      rintro s ⟨⟩
      rfl
    · rintro v v' d ds hchange ⟨calls, accounted⟩
      exact accounted.change hchange
  have hst := Engine.station_view hl
  exact (accounted.served _ hst).suits w hw

/-- No worker has more tries left than the policy allows. -/
theorem within (run : Run b h e) {lane : Lane} {w : WorkerState} (hl : e.lanes[i]? = some lane)
    (hw : lane.worker = some w) : w.Within b.plan.retry.spare := by
  have hwithin := (run.ledger.careers i lane hl).within w hw
  rw [run.blueprint.2.2] at hwithin
  exact hwithin

end Run

/-- What lane `i` has come to when `later` came after the running flag was cleared. -/
structure Engine.Winding (plan : StreamPlan) (i : Nat) (later : List Moment) (e : Engine) :
    Prop where
  halted : e.Halted
  only : DeviceCall.AtMostOne plan.retry.spare (Deed.attempts (deeds i later)) ∧
    (pushes i later).length ≤ 1
  suits : ∀ x ∈ Deed.attempts (deeds i later), x.1.Suits plan
  playback : plan.direction = .output → pushes i later = []
  spent : ∀ lane w, e.lanes[i]? = some lane → lane.worker = some w →
    w.Spent plan.retry.spare (Deed.attempts (deeds i later)) (pushes i later)

/-- Without a start a lane goes on winding down. -/
theorem Engine.Winding.step {b : Blueprint} {h past : List Moment} {e e' : Engine} {a : Action}
    {i : Nat} (winding : e.Winding b.plan i past) (run : Run b h e) (hs : e.step a = some e')
    (unstarted : Moment.isStart ⟨e, a⟩ = false) : e'.Winding b.plan i (past ++ [⟨e, a⟩]) := by
  obtain ⟨halted, hfade⟩ := winding.halted.step run.sound hs unstarted
  rw [run.plan_eq] at hfade
  by_cases hown : ∃ input, a = .worker i input
  · obtain ⟨input, rfl⟩ := hown
    obtain ⟨lane, w, w', pipe, note, hl, hw, hm, -⟩ := stepWorker_eq_leave hs
    rw [run.plan_eq, winding.halted.flag] at hm
    have hsuits := run.suits hl hw
    have hspent := (winding.spent lane w hl hw).move hm
    have hdeed : Moment.deed? i ⟨e, .worker i input⟩ = w.deed? b.plan lane.pipe input := by
      simp only [Moment.deed?, if_true, hl, hw, Option.bind_some, run.plan_eq]
    have hpush : (Moment.push? i ⟨e, .worker i input⟩).toList = (w.push? lane.pipe).toList := by
      cases input with
      | tick => simp only [Moment.push?, if_true, hl, hw, Option.bind_some]
      | settled outcome => cases hm <;> rfl
    have hafter : Deed.attempts (deeds i (past ++ [⟨e, .worker i input⟩])) =
        Deed.attempts (deeds i past) ++ Deed.attempts (w.deed? b.plan lane.pipe input).toList := by
      rw [deeds_snoc, Deed.attempts_append, hdeed]
    have hpushes : pushes i (past ++ [⟨e, .worker i input⟩]) =
        pushes i past ++ (w.push? lane.pipe).toList := by rw [pushes_snoc, hpush]
    constructor
    case halted => exact halted
    case only =>
      rw [hafter, hpushes]
      exact hspent.atMostOne
    case suits =>
      rw [hafter]
      intro x hx
      rcases List.mem_append.mp hx with hold | hnew
      · exact winding.suits x hold
      · unfold WorkerState.deed? at hnew
        split at hnew
        · split at hnew <;> contradiction
        · obtain rfl := List.mem_singleton.mp hnew
          exact hsuits
        · contradiction
    case playback =>
      intro output
      rw [hpushes, winding.playback output, List.nil_append]
      unfold WorkerState.push?
      split
      · exact absurd (output.symm.trans hsuits) (by decide)
      · rfl
    case spent =>
      intro lane' x hl' hx
      obtain ⟨old, hold, fade⟩ := hfade i lane' hl'
      obtain rfl := Option.some.inj (hl.symm.trans hold)
      cases fade with
      | kept other | shut other => exact absurd rfl (other input)
      | worked ha hw' hm' =>
        obtain ⟨-, rfl⟩ := Action.worker.inj ha
        obtain rfl := Option.some.inj (hw.symm.trans hw')
        cases hx
        rw [hafter, hpushes]
        exact (winding.spent lane w hl hw).move hm'
  · have other : ∀ input, a ≠ .worker i input := fun input ha => hown ⟨input, ha⟩
    have hafter : Deed.attempts (deeds i (past ++ [⟨e, a⟩])) = Deed.attempts (deeds i past) := by
      rw [deeds_snoc, Deed.attempts_append, Moment.attempts_of_other other, List.append_nil]
    have hpushes : pushes i (past ++ [⟨e, a⟩]) = pushes i past := by
      rw [pushes_snoc, Moment.push?_of_other other, Option.toList_none, List.append_nil]
    constructor
    case halted => exact halted
    case only => rw [hafter, hpushes]; exact winding.only
    case suits => rw [hafter]; exact winding.suits
    case playback => rw [hpushes]; exact winding.playback
    case spent =>
      rw [hafter, hpushes]
      intro lane' w hl' hw
      obtain ⟨lane, hl, fade⟩ := hfade i lane' hl'
      rw [fade.worker_eq other] at hw
      exact winding.spent lane w hl hw

/-- How near to its end the worker of lane `i` has come when `later` came after the seal. -/
structure Engine.Nearing (plan : StreamPlan) (i : Nat) (later : List Moment) (e : Engine) :
    Prop where
  halted : e.Halted
  bounded : (moves i later).length ≤ 2 * plan.retry.spare + 5
  shut : ∀ lane, e.lanes[i]? = some lane → plan.direction = .input → lane.pipe.isShut = true
  near : ∀ lane w, e.lanes[i]? = some lane → lane.worker = some w →
    (moves i later).length + w.distance plan.retry.spare ≤ 2 * plan.retry.spare + 5

/-- Without a start a worker comes nearer to its end by every move. -/
theorem Engine.Nearing.step {b : Blueprint} {h past : List Moment} {e e' : Engine} {a : Action}
    {i : Nat} (nearing : e.Nearing b.plan i past) (run : Run b h e) (hs : e.step a = some e')
    (unstarted : Moment.isStart ⟨e, a⟩ = false) : e'.Nearing b.plan i (past ++ [⟨e, a⟩]) := by
  obtain ⟨halted, hfade⟩ := nearing.halted.step run.sound hs unstarted
  rw [run.plan_eq] at hfade
  have shut : ∀ lane', e'.lanes[i]? = some lane' → b.plan.direction = .input →
      lane'.pipe.isShut = true := by
    intro lane' hl' input
    obtain ⟨lane, hl, fade⟩ := hfade i lane' hl'
    exact fade.isShut (nearing.shut lane hl input)
  by_cases hown : ∃ input, a = .worker i input
  · obtain ⟨input, rfl⟩ := hown
    obtain ⟨lane, w, w', pipe, note, hl, hw, hm, -⟩ := stepWorker_eq_leave hs
    rw [run.plan_eq, nearing.halted.flag] at hm
    have hcount : (moves i (past ++ [⟨e, .worker i input⟩])).length =
        (moves i past).length + 1 := by
      have hmine : Moment.isMove i ⟨e, .worker i input⟩ = true := decide_eq_true rfl
      rw [length_moves_snoc, hmine]
      rfl
    have happroach := hm.approaches (run.suits hl hw) (nearing.shut lane hl)
    have hnear := nearing.near lane w hl hw
    refine ⟨halted, by omega, shut, ?_⟩
    intro lane' x hl' hx
    obtain ⟨old, hold, fade⟩ := hfade i lane' hl'
    obtain rfl := Option.some.inj (hl.symm.trans hold)
    cases fade with
    | kept other | shut other => exact absurd rfl (other input)
    | worked ha hw' hm' =>
      obtain ⟨-, rfl⟩ := Action.worker.inj ha
      obtain rfl := Option.some.inj (hw.symm.trans hw')
      cases hx
      have hnext := hm'.approaches (run.suits hl hw) (nearing.shut lane hl)
      omega
  · have other : ∀ input, a ≠ .worker i input := fun input ha => hown ⟨input, ha⟩
    have hcount : (moves i (past ++ [⟨e, a⟩])).length = (moves i past).length := by
      rw [length_moves_snoc, Moment.isMove_of_other other]
      rfl
    refine ⟨halted, by rw [hcount]; exact nearing.bounded, shut, ?_⟩
    intro lane' w hl' hw
    obtain ⟨lane, hl, fade⟩ := hfade i lane' hl'
    rw [fade.worker_eq other] at hw
    rw [hcount]
    exact nearing.near lane w hl hw

namespace Engine

variable {e : Engine} {opened : List (DeviceProfile × Nat)}

/-- While there are lanes and the flag is cleared, the client tears down: it is about to shut the
pipes of a capture stream, or it did. -/
theorem Sound.sealing_or_sealed (sound : e.Sound opened) (flag : e.isRunning = false)
    (bound : e.lanes ≠ []) :
    (∃ a, e.client = .sealing a) ∨ e.standing.isSealed = true := by
  have hst := sound.stage
  unfold standing
  cases hc : e.client with
  | sealing a => exact .inl ⟨a, rfl⟩
  | stopping i a | joining i a | releasing a => exact .inr rfl
  | opening todo ids =>
    rw [hc] at hst
    exact absurd hst.1 bound
  | answered a | draining wait =>
    rw [hc] at hst
    rcases hst with hoff | hon
    · exact absurd hoff.1 bound
    · exact absurd (hon.2.symm.trans flag) (by simp)
  | _ =>
    rw [hc] at hst
    exact absurd (hst.2.symm.trans flag) (by simp)

end Engine

namespace Run

variable {b : Blueprint} {h later : List Moment} {e e₀ : Engine} {a : Answer}

/-- After the running flag was cleared every lane winds down. -/
theorem winding (run : Run b (h ++ ⟨e₀, .client .tick⟩ :: later) e)
    (halting : e₀.client = .halting a) (unstarted : ∀ m ∈ later, m.isStart = false) (i : Nat) :
    e.Winding b.plan i later := by
  obtain ⟨run₀, -⟩ := run.before
  refine run.after (motive := fun past e => e.Winding b.plan i past) ?_ ?_
  · intro e' hs
    simp only [Engine.step, Engine.stepClient, halting, Option.some.injEq] at hs
    subst hs
    refine ⟨⟨rfl, fun todo ids hc => by contradiction⟩, ?_, by simp [deeds, Deed.attempts],
      fun _ => rfl, ?_⟩
    · exact ⟨DeviceCall.atMostOne_nil _, Nat.zero_le _⟩
    · exact fun lane w hl hw => WorkerState.spent_nil (run₀.within hl hw)
  · intro past e e' a hp run winding hs
    refine winding.step run hs (unstarted _ ?_)
    exact hp.subset (List.mem_append_right _ (List.mem_singleton.mpr rfl))

/-- After the pipes of a capture stream were shut every worker nears its end. -/
theorem nearing (run : Run b (h ++ ⟨e₀, .client .tick⟩ :: later) e)
    (sealing : e₀.client = .sealing a) (unstarted : ∀ m ∈ later, m.isStart = false) (i : Nat) :
    e.Nearing b.plan i later := by
  obtain ⟨run₀, -⟩ := run.before
  refine run.after (motive := fun past e => e.Nearing b.plan i past) ?_ ?_
  · intro e' hs
    have run₁ := run₀.snoc hs
    have hclient : ∃ a, e'.client = .stopping 0 a := by
      simp only [Engine.step, Engine.stepClient, sealing, Option.some.injEq] at hs
      subst hs
      exact ⟨a, rfl⟩
    obtain ⟨a, hclient⟩ := hclient
    have hst := run₁.sound.stage
    rw [hclient] at hst
    refine ⟨⟨hst.2, fun todo ids hc => ?_⟩, Nat.zero_le _, ?_, ?_⟩
    · rw [hclient] at hc
      contradiction
    · intro lane hl input
      refine (run₁.ledger.careers i lane hl).shut ?_ ?_
      · rw [Engine.standing, hclient]
        rfl
      · rw [run₁.blueprint.1]
        exact input
    · intro lane w hl hw
      have hle := WorkerState.distance_le (run₁.within hl hw)
      rwa [moves, List.filter_nil, List.length_nil, Nat.zero_add]
  · intro past e e' a hp run nearing hs
    refine nearing.step run hs (unstarted _ ?_)
    exact hp.subset (List.mem_append_right _ (List.mem_singleton.mpr rfl))

/-- No live worker of a stream that no longer runs waits on its pipe, unless the client is about
to shut it. -/
theorem unblocked (run : Run b h e) (flag : e.isRunning = false) {i : Nat} {lane : Lane}
    {w : WorkerState} (hl : e.lanes[i]? = some lane) (hw : lane.worker = some w)
    (live : w.isOver = false) (waits : e.workerRequest i = .wait) : ∃ a, e.client = .sealing a := by
  have hsuits := run.suits hl hw
  have bound : e.lanes ≠ [] := List.ne_nil_of_mem (List.mem_of_getElem? hl)
  rw [Engine.workerRequest, hl, Option.map_some, Option.getD_some, flag, Lane.request, hw] at waits
  cases w with
  | gone | crashed => contradiction
  | offering rest offer =>
    refine (run.sound.sealing_or_sealed flag bound).resolve_right fun hsealed => ?_
    have input : e.context.direction = .input := by
      rw [run.blueprint.1]
      exact hsuits
    have hshut := (run.ledger.careers i lane hl).shut hsealed input
    have hfree : offer.isStuck lane.pipe = false := by
      cases offer <;> simp [Offer.isStuck, hshut]
    simp only [hfree, Bool.false_eq_true, if_false] at waits
    contradiction
  | _ => contradiction

/-- From the moment the running flag is cleared until the next start, a worker makes at most one
device call, of which it may be in the middle, and a capture worker at most one push that its
pipe takes frames of. From the moment the capture pipe is shut it makes no more than a fixed
number of moves, whatever is in its pipe or its device; until it has ended it can move on
whatever its device answers and by itself else, and it waits on its pipe at most until the
client's next action. -/
theorem worker_retires (run : Run b (h ++ ⟨e₀, .client .tick⟩ :: later) e)
    (halting : e₀.client = .halting a) (unstarted : ∀ m ∈ later, m.isStart = false) (i : Nat) :
    DeviceCall.AtMostOne b.plan.retry.spare (Deed.attempts (deeds i later)) ∧
      (∀ x ∈ Deed.attempts (deeds i later), x.1.Suits b.plan) ∧
      (pushes i later).length ≤ 1 ∧ (b.context.direction = .output → pushes i later = []) ∧
      (∀ between m after, later = between ++ m :: after → m.isSeal = true →
        (moves i after).length ≤ 2 * b.plan.retry.spare + 5) ∧
      ∀ lane w, e.lanes[i]? = some lane → lane.worker = some w → w.isOver = false →
        (∀ between m after, later = between ++ m :: after → m.isSeal = true →
          (moves i after).length < 2 * b.plan.retry.spare + 5) ∧
        (e.workerRequest i = .wait → ∃ a, e.client = .sealing a) ∧
        ∀ input, WorkerInput.Fits w input → (e.step (.worker i input)).isSome = true := by
  have winding := run.winding halting unstarted i
  have near : ∀ between m after, later = between ++ m :: after → m.isSeal = true →
      e.Nearing b.plan i after := by
    rintro between ⟨e₁, act⟩ after rfl hseal
    obtain ⟨rfl, a₁, hc⟩ : act = .client .tick ∧ ∃ a, e₁.client = .sealing a := by
      unfold Moment.isSeal at hseal
      split at hseal
      · rename_i a ha hc
        exact ⟨ha, a, hc⟩
      · contradiction
    rw [← List.cons_append, ← List.append_assoc] at run
    refine run.nearing hc (fun m hm => unstarted m ?_) i
    exact List.mem_append_right _ (List.mem_cons_of_mem _ hm)
  refine ⟨winding.only.1, winding.suits, winding.only.2, winding.playback, ?_, ?_⟩
  · exact fun between m after hlater hseal => (near between m after hlater hseal).bounded
  · intro lane w hl hw live
    refine ⟨?_, run.unblocked winding.halted.flag hl hw live, ?_⟩
    · intro between m after hlater hseal
      have hnear := (near between m after hlater hseal).near lane w hl hw
      have hpos : 0 < w.distance b.plan.retry.spare := WorkerState.distance_pos live
      omega
    · exact fun input fits => Engine.step_worker_isSome hl hw live fits

/-- A capture worker holds a chunk that its full pipe does not take when the flag is cleared; it
looks at its pipe once more after that was shut, and leaves. -/
theorem retires_from_full_pipe :
    ∃ h e₀ later e, Run (.small .input [.attached 0 0 .input])
        (h ++ ⟨e₀, .client .tick⟩ :: later) e ∧ e₀.client = .halting .done ∧
      e₀.workers = [.offering [5, 6, 7, 8] .waiting] ∧ e.workers = [.leaving] ∧
      (Deed.attempts (deeds 0 later)).length = 0 ∧ (pushes 0 later).length ≤ 1 ∧
      (e.step (.worker 0 .tick)).isSome = true := by
  have hwatch : (Blueprint.small .input [.attached 0 0 .input]).watch
      [.call .start, .client (.opened (.ok 0)), .client .tick, .client (.spawned (.ok ())),
        .client .tick, .client .tick, .client .tick, .worker 0 .tick,
        .worker 0 (.settled (.done [1, 2, 3, 4])), .worker 0 .tick, .worker 0 .tick,
        .worker 0 .tick, .worker 0 .tick, .worker 0 (.settled (.done [5, 6, 7, 8])),
        .worker 0 .tick, .worker 0 .tick, .worker 0 .tick, .call .standby]
      (.client .tick) [.client .tick, .worker 0 .tick, .worker 0 .tick]
      (fun e₀ later e => (e₀.client, e₀.workers, later.all fun m => !m.isStart,
        (Deed.attempts (deeds 0 later)).length,
        e.lanes.map fun lane => decide (lane.worker = some .leaving))) =
      some (.halting .done, [.offering [5, 6, 7, 8] .waiting], true, 0, [true]) := by
    decide
  obtain ⟨h, e₀, later, e, run, hseen⟩ := Run.of_watch hwatch
  simp only [Prod.mk.injEq] at hseen
  obtain ⟨halting, hbefore, hstarts, hattempts, hafter⟩ := hseen
  have unstarted : ∀ m ∈ later, m.isStart = false := by simpa using hstarts
  obtain ⟨lane, hlanes, hw⟩ : ∃ lane, e.lanes = [lane] ∧ lane.worker = some .leaving := by
    obtain ⟨lane, hlanes⟩ := List.length_eq_one_iff.mp (by simpa using congrArg List.length hafter)
    refine ⟨lane, hlanes, ?_⟩
    rw [hlanes] at hafter
    exact of_decide_eq_true (List.cons.inj hafter).1
  have hlane : e.lanes[0]? = some lane := by rw [hlanes]; rfl
  obtain ⟨-, -, hpushes, -, -, hlive⟩ := run.worker_retires halting unstarted 0
  obtain ⟨-, -, hmoves⟩ := hlive lane .leaving hlane hw rfl
  refine ⟨h, e₀, later, e, run, halting, hbefore, ?_, hattempts, hpushes, hmoves .tick trivial⟩
  rw [Engine.workers, hlanes, List.filterMap_cons_some hw, List.filterMap_nil]

end Run

end AudioRelay
