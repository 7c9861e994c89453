import AudioRelay.Proofs.Start

/-!
# Quiescence after a teardown

When a standby has given its answer, every device of the cycle was stopped once, every worker has
ended and told of its life as often as it should, and until the next start nothing of that cycle
moves any more. What the next start binds is fresh.
-/

namespace AudioRelay

/-- A worker that is over moves on nothing, whether or not the stream runs. -/
theorem WorkerState.next_of_isOver {w : WorkerState} (gone : w.isOver = true) (plan : StreamPlan)
    (running : Bool) (id : DeviceId) (pipe : Pipe) (input : WorkerInput) :
    w.next plan running id pipe input = none := by
  cases w with
  | gone | crashed => cases input <;> rfl
  | _ => contradiction

namespace Engine

/-- What a standby at `e₀` has brought about when it is to give its answer at `eᵣ`: the lanes are
those of `e₀`, every device of the cycle was stopped once, every worker has ended for good, and
its life is told to the end. -/
structure Dismissed (h : List Moment) (e₀ : Engine) (during : List Moment) (eᵣ : Engine) :
    Prop where
  returns : eᵣ.step (.client .tick) = some ({ eᵣ with lanes := [] }.answer .done)
  owners : eᵣ.lanes.map Lane.owner = e₀.lanes.map Lane.owner
  stops : Mark.stops (marks (ofStart h ++ ⟨e₀, .call .standby⟩ :: during)) =
    e₀.lanes.map (·.device)
  ended : ∀ lane ∈ eᵣ.lanes, ∃ w, lane.worker = some w ∧
    ∀ plan running id pipe input, w.next plan running id pipe input = none
  lived : ∀ i lane, e₀.lanes[i]? = some lane →
    Mark.Lived lane.id (life i (ofStart h ++ ⟨e₀, .call .standby⟩ :: during))

/-- An engine that was off throughout `after`, at the end of `past`: no worker moved, another
standby changes nothing but the answer, and what the next start binds is fresh. -/
structure Quiet (b : Blueprint) (past after : List Moment) (e : Engine) : Prop where
  off : e.lanes = []
  halted : e.isRunning = false
  still : ∀ m ∈ after, ∀ i input, m.action ≠ .worker i input
  standby : e.answer?.isSome = true → e.step (.call .standby) = some (e.answer .done)
  anew : e.answer?.isSome = true → e.Anew b
  fresh : ∀ later e', Run b (past ++ ⟨e, .call .start⟩ :: later) e' →
    (∀ m ∈ later, m.isStart = false) → e'.lanes ≠ [] → e'.Fresh b later

end Engine

namespace Run

variable {b : Blueprint} {h later : List Moment} {e e₀ : Engine}

/-- Of a stream that runs between two calls, the start of every worker was told, and no end. -/
theorem life_of_answered (run : Run b h e) (answered : e.answer?.isSome = true) {i : Nat}
    {lane : Lane} (hl : e.lanes[i]? = some lane) :
    life i (ofStart h) =
      (1, (decide (lane.worker = some .crashed)).toNat, [.workerStarted lane.id]) := by
  obtain ⟨a, hc⟩ := Engine.answered_of_isSome answered
  have bound : e.lanes ≠ [] := List.ne_nil_of_mem (List.mem_of_getElem? hl)
  obtain ⟨hb, hrun⟩ := (run.sound.off_or_on answered).resolve_left fun off => bound off.1
  have standing : e.standing = ⟨none, 0, false, 0, 0⟩ := by
    rw [Engine.standing, hc]
    rfl
  have career := run.ledger.careers i lane hl
  rw [standing] at career
  have staffed := (hb.staffed i lane hl).mpr (List.getElem?_eq_some_iff.mp hl).1
  obtain ⟨w, hw⟩ := Option.isSome_iff_exists.mp staffed
  have hgone : w ≠ .gone := by
    rintro rfl
    exact (career.loops hrun).2 hw
  rw [life_eq, Mark.life, career.spawned, career.died, career.news, staffed]
  simp [Lane.news, hw, hgone]

/-- A worker tells of its end only when the running flag is cleared. -/
theorem halted_of_stopped (run : Run b h e) {a : Action} {t : Telling} {id : DeviceId}
    (told : Moment.telling? ⟨e, a⟩ = some t) (stopped : t.event = .workerStopped id) :
    e.isRunning = false := by
  unfold Moment.telling? at told
  split at told
  · unfold Engine.clientTelling? at told
    split at told
    · obtain ⟨lane, -, rfl⟩ := Option.map_eq_some_iff.mp told
      contradiction
    · obtain ⟨lane, -, rfl⟩ := Option.map_eq_some_iff.mp told
      contradiction
    · cases told
      contradiction
    · contradiction
  · obtain ⟨lane, hl, hlane⟩ := Option.bind_eq_some_iff.mp told
    obtain ⟨event, hevent, rfl⟩ := Option.map_eq_some_iff.mp hlane
    obtain ⟨w, hw, hworker⟩ := Option.bind_eq_some_iff.mp hevent
    unfold WorkerState.event? at hworker
    split at hworker
    · cases hworker
      contradiction
    · rw [← Bool.not_eq_true]
      intro running
      exact ((run.ledger.careers _ lane hl).loops running).1 hw
    · contradiction
  · contradiction

/-- When a standby is about to let go of the lanes, the cycle is dismissed. -/
theorem dismissed {during : List Moment} {eᵣ : Engine}
    (run : Run b (h ++ ⟨e₀, .call .standby⟩ :: during) eᵣ)
    (unstarted : ∀ m ∈ during, m.isStart = false) (hc : eᵣ.client = .releasing .done)
    (answered : e₀.answer?.isSome = true) (bound : e₀.lanes ≠ [])
    (under : eᵣ.Tearing .done (e₀.lanes.map Lane.owner) during) :
    Engine.Dismissed h e₀ during eᵣ := by
  have hcycle : ofStart (h ++ ⟨e₀, .call .standby⟩ :: during) =
      ofStart h ++ ⟨e₀, .call .standby⟩ :: during := by
    refine ofStart_append h fun m hm => ?_
    rcases List.mem_cons.mp hm with rfl | hm
    · rfl
    · exact unstarted m hm
  obtain ⟨-, hstops, -, hlives, -⟩ := run.at_release hc
  rw [hcycle] at hstops hlives
  -- between two calls every lane had its worker
  have hb := (run.before.1.sound.off_or_on answered).resolve_left fun off => bound off.1
  have staffed (i : Nat) (lane : Lane) (hl : eᵣ.lanes[i]? = some lane) :
      lane.worker.isSome = true := by
    obtain ⟨old, hold, howner⟩ := under.origin hl
    have hsame : old.worker.isSome = lane.worker.isSome := congrArg (·.2.2) howner
    rw [← hsame]
    exact (hb.1.staffed i old hold).mpr (List.getElem?_eq_some_iff.mp hold).1
  constructor
  case returns => exact step_releasing hc
  case owners => exact under.owners
  case stops => rw [hstops, under.devices]
  case ended =>
    intro lane hmem
    obtain ⟨i, hi⟩ := List.mem_iff_getElem?.mp hmem
    have quiet := (hlives i lane hi).1
    obtain ⟨w, hw⟩ := Option.isSome_iff_exists.mp (staffed i lane hi)
    unfold Lane.isQuiet at quiet
    rw [hw] at quiet
    exact ⟨w, hw, WorkerState.next_of_isOver quiet⟩
  case lived =>
    intro i lane hl
    obtain ⟨lane', hl', howner⟩ := under.lane hl
    have hid : lane'.id = lane.id := congrArg (·.1) howner
    rcases (hlives i lane' hl').2 with ⟨unstaffed, -⟩ | ⟨-, hlived⟩
    · have hsome := staffed i lane' hl'
      rw [unstaffed] at hsome
      contradiction
    · rwa [hid] at hlived

/-- After a teardown let go of the lanes the engine is quiet until the next start. -/
theorem quiet {eᵣ : Engine} {a : Answer} (run : Run b (h ++ ⟨eᵣ, .client .tick⟩ :: later) e)
    (hc : eᵣ.client = .releasing a) (unstarted : ∀ m ∈ later, m.isStart = false) :
    e.Quiet b (h ++ ⟨eᵣ, .client .tick⟩ :: later) later := by
  have hst := run.before.1.sound.stage
  rw [hc] at hst
  obtain ⟨off, halted, still⟩ := run.stays_off (fun e' hs => by
    obtain rfl := Option.some.inj ((step_releasing hc).symm.trans hs)
    exact ⟨rfl, hst.2, fun todo ids hc => by contradiction⟩) unstarted
  have hidle : e.isIdle = true := List.isEmpty_iff.mpr off
  refine ⟨off, halted.flag, still, ?_, ?_, ?_⟩
  · intro answered
    simp only [Engine.step, answered, if_true, Engine.begin, hidle]
  · intro answered
    obtain ⟨a, hanswer⟩ := Engine.answered_of_isSome answered
    exact run.anew off hanswer
  · exact fun more e' run' unstarted' => run'.binds_fresh off unstarted'

/-- A standby on an active engine is under way and goes on, or it gave its answer when every
device of the cycle was stopped once and every worker had ended; from then until the next start
nothing of the cycle moves, another standby changes nothing, and the next start binds what is
fresh. At any time of the run workers told of their starts before a start was answered, of their
ends when the flag was cleared, and of both as often as they should once the engine was off. -/
theorem standby_leaves_nothing_moving (run : Run b (h ++ ⟨e₀, .call .standby⟩ :: later) e)
    (active : e₀.isIdle = false) (unstarted : ∀ m ∈ later, m.isStart = false) :
    (e.answer? = none ∧ e.GoesOn ∧
        (later.filter Moment.isClient).length ≤ 2 * e₀.lanes.length + 4 ∨
      ∃ during eᵣ after, later = during ++ ⟨eᵣ, .client .tick⟩ :: after ∧
        Engine.Dismissed h e₀ during eᵣ ∧
        e.Quiet b (h ++ ⟨e₀, .call .standby⟩ :: later) after) ∧
      (∀ past m rest, h ++ ⟨e₀, .call .standby⟩ :: later = past ++ m :: rest →
        (m.engine.answer?.isSome = true → ∀ i lane, m.engine.lanes[i]? = some lane →
          life i (ofStart past) =
            (1, (decide (lane.worker = some .crashed)).toNat, [.workerStarted lane.id])) ∧
        (m.engine.lanes = [] → ∀ i, life i (ofStart past) = (0, 0, []) ∨
          ∃ id, Mark.Lived id (life i (ofStart past))) ∧
        ∀ t id, m.telling? = some t → t.event = .workerStopped id → m.engine.isRunning = false) ∧
      e.journal =
        if b.isListening then
          ((tellings (h ++ ⟨e₀, .call .standby⟩ :: later)).map Telling.entry).reverse
        else [] := by
  obtain ⟨run₀, e₁, hs⟩ := run.before
  dsimp only at run₀ hs
  obtain ⟨answered, rfl⟩ := Engine.step_call_eq_some hs
  have bound : e₀.lanes ≠ [] := by
    intro hnil
    rw [Engine.isIdle, hnil] at active
    contradiction
  refine ⟨?_, ?_, run.journal_eq⟩
  · have torn := run.tearing (a := .done) (e₀.lanes.map Lane.owner) fun e' hs' => by
      obtain rfl := Option.some.inj (hs.symm.trans hs')
      simp only [Engine.begin, active, Bool.false_eq_true, if_false]
      exact ⟨rfl, rfl⟩
    refine torn.imp (fun under => ?_) ?_
    · have hunder := under.under_way
      rwa [List.length_map] at hunder
    · rintro ⟨during, eᵣ, after, rfl, under, hc⟩
      refine ⟨during, eᵣ, after, rfl, ?_, ?_⟩
      all_goals rw [← List.cons_append, ← List.append_assoc] at run
      · exact run.before.1.dismissed (fun m hm => unstarted m (List.mem_append_left _ hm)) hc
          answered bound under
      · rw [← List.cons_append, ← List.append_assoc]
        exact run.quiet hc fun m hm =>
          unstarted m (List.mem_append_right _ (List.mem_cons_of_mem _ hm))
  · intro past m rest hsplit
    rw [hsplit] at run
    have runₘ := run.before.1
    refine ⟨fun answered i lane => runₘ.life_of_answered answered, fun off i => ?_,
      fun t id => runₘ.halted_of_stopped⟩
    have settled := runₘ.settled off i
    rwa [Mark.Settled, ← life_eq] at settled

/-- One worker has died in its device and another waits when a standby is called; it gives its
answer, and another standby after a gain request finds the engine off. -/
theorem quiet_after_crash :
    ∃ h e₀ later e,
      Run (.small .output [.attached 0 0 .output, .attached 0 1 .output])
        (h ++ ⟨e₀, .call .standby⟩ :: later) e ∧ e₀.workers = [.crashed, .idling] ∧
      e₀.isIdle = false ∧ (∀ m ∈ later, m.isStart = false) ∧
      ∃ during eᵣ after, later = during ++ ⟨eᵣ, .client .tick⟩ :: after ∧
        Engine.Dismissed h e₀ during eᵣ ∧
        e.Quiet (.small .output [.attached 0 0 .output, .attached 0 1 .output])
          (h ++ ⟨e₀, .call .standby⟩ :: later) after := by
  have hwatch : (Blueprint.small .output [.attached 0 0 .output, .attached 0 1 .output]).watch
      [.call .start, .client (.opened (.ok 0)), .client (.opened (.ok 1)), .client .tick,
        .client (.spawned (.ok ())), .client .tick, .client .tick, .client (.spawned (.ok ())),
        .client .tick, .client .tick, .client .tick, .call (.transfer [1, 2] 1), .client .tick,
        .client .tick, .client (.latency 3), .worker 0 .tick, .worker 0 .tick,
        .worker 0 (.settled (.crashed .deviceCrash)), .worker 1 .tick, .worker 1 .tick,
        .client .tick, .client (.latency 5), .client .tick, .client .tick]
      (.call .standby)
      [.client .tick, .client .tick, .worker 1 .tick, .client .tick, .worker 1 .tick,
        .client .tick, .client .tick, .client .tick, .worker 1 .tick, .client .tick,
        .client .tick, .client .tick, .adjust Single.one, .call .standby]
      (fun e₀ later e => (e₀.workers, !e₀.isIdle && (later.all fun m => !m.isStart) &&
        e.answer?.isSome)) = some ([.crashed, .idling], true) := by
    decide
  obtain ⟨h, e₀, later, e, run, hseen⟩ := Run.of_watch hwatch
  simp only [Prod.mk.injEq, Bool.and_eq_true, Bool.not_eq_true'] at hseen
  obtain ⟨hworkers, ⟨active, hstarts⟩, answered⟩ := hseen
  have unstarted : ∀ m ∈ later, m.isStart = false := by simpa using hstarts
  obtain ⟨hend, -, -⟩ := run.standby_leaves_nothing_moving active unstarted
  have hdone := hend.resolve_left fun under => by
    rw [under.1] at answered
    contradiction
  exact ⟨h, e₀, later, e, run, hworkers, active, unstarted, hdone⟩

end Run

end AudioRelay
