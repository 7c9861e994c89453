import AudioRelay.Proofs.Run
import AudioRelay.Proofs.Worker

/-!
# What a run leaves behind

Each moment of a run adds at most one event to what the listener is told and something to the
counters; both are read off the history. Of the life of a stream an onlooker notes the calls of
the opener, the workers that were created, counted, announced and ended, and the devices that
were stopped.
-/

namespace AudioRelay

/-- What holds after a moment of a run, and after each of the moments that follow, holds at the
end. -/
theorem Run.after {b : Blueprint} {h later : List Moment} {m : Moment} {e : Engine}
    {motive : List Moment → Engine → Prop} (run : Run b (h ++ m :: later) e)
    (first : ∀ e', m.engine.step m.action = some e' → motive [] e')
    (next : ∀ (past : List Moment) (e e' : Engine) (a : Action), past ++ [⟨e, a⟩] <+: later →
      Run b (h ++ m :: past) e → motive past e → e.step a = some e' →
        motive (past ++ [⟨e, a⟩]) e') :
    motive later e := by
  obtain ⟨l, hl⟩ : ∃ l, l = h ++ m :: later := ⟨_, rfl⟩
  rw [← hl] at run
  induction run generalizing later with
  | built _ => simp at hl
  | @snoc l e e' a run hs ih =>
    rcases List.eq_nil_or_concat later with rfl | ⟨past, last, rfl⟩
    · obtain ⟨-, hm⟩ := List.append_inj' hl rfl
      obtain rfl := (List.cons.inj hm).1
      exact first e' hs
    · rw [List.concat_eq_append] at hl next ⊢
      rw [← List.cons_append, ← List.append_assoc] at hl
      obtain ⟨rfl, hm⟩ := List.append_inj' hl rfl
      obtain rfl := (List.cons.inj hm).1
      refine next past e e' a List.prefix_rfl run (ih ?_ rfl) hs
      intro earlier e₁ e₂ a₁ hp
      exact next earlier e₁ e₂ a₁ (hp.trans (List.prefix_append _ _))

/-- What there is to see of some actions from one of them on, if all of them can be taken. -/
def Blueprint.watch {α : Type} (b : Blueprint) (first : List Action) (a : Action)
    (rest : List Action) (look : Engine → List Moment → Engine → α) : Option α :=
  (b.follow first).bind fun x => (x.2.follow (a :: rest)).map fun y => look x.2 y.1.tail y.2

/-- Actions that can all be taken make a run, whichever of them it is looked at from. -/
theorem Run.of_watch {b : Blueprint} {first rest : List Action} {a : Action} {α : Type}
    {look : Engine → List Moment → Engine → α} {seen : α}
    (hf : b.watch first a rest look = some seen) :
    ∃ h e₀ later e, Run b (h ++ ⟨e₀, a⟩ :: later) e ∧ look e₀ later e = seen := by
  obtain ⟨⟨h, e₀⟩, hfirst, hrest⟩ := Option.bind_eq_some_iff.mp hf
  obtain ⟨⟨t, e⟩, hfrom, hseen⟩ := Option.map_eq_some_iff.mp hrest
  have run := (Run.of_follow hfirst).follow hfrom
  unfold Engine.follow at hfrom
  split at hfrom
  · contradiction
  · obtain ⟨⟨later, last⟩, -, heq⟩ := Option.map_eq_some_iff.mp hfrom
    obtain ⟨rfl, rfl⟩ := Prod.mk.inj heq
    exact ⟨h, e₀, later, last, run, hseen⟩

namespace Counters

instance : Add Counters where
  add c d := ⟨c.transfers + d.transfers, c.dropped + d.dropped, c.silence + d.silence,
    c.deviceErrors + d.deviceErrors, c.workersStarted + d.workersStarted⟩

theorem add_def (c d : Counters) :
    c + d = ⟨c.transfers + d.transfers, c.dropped + d.dropped, c.silence + d.silence,
      c.deviceErrors + d.deviceErrors, c.workersStarted + d.workersStarted⟩ := rfl

@[simp] theorem add_zero (c : Counters) : c + zero = c := by
  simp [add_def, zero]

@[simp] theorem zero_add (c : Counters) : zero + c = c := by
  simp [add_def, zero]

theorem add_assoc (c d f : Counters) : c + d + f = c + (d + f) := by
  simp [add_def, UInt64.add_assoc]

theorem add_comm (c d : Counters) : c + d = d + c := by
  simp [add_def, UInt64.add_comm]

end Counters

/-- Something that the listener was told: by which thread, and of which lane. -/
structure Telling where
  lane : Nat
  thread : String
  event : Event

/-- How a journal records it. -/
def Telling.entry (t : Telling) : String × Event := (t.thread, t.event)

/-- What a worker's next move tells the listener. -/
def WorkerState.event? (id : DeviceId) : WorkerState → Option Event
  | reporting fault => some (.deviceFailed id fault.message)
  | leaving => some (.workerStopped id)
  | _ => none

namespace Engine

/-- The worker of lane `i`, if there is one. -/
def workerAt? (e : Engine) (i : Nat) : Option WorkerState := e.lanes[i]?.bind (·.worker)

/-- What the client's next action tells the listener, if the client moves by itself. -/
def clientTelling? (e : Engine) : Option Telling :=
  match e.client with
  | .heralding i => e.lanes[i]?.map fun lane => ⟨i, clientName, .workerStarted lane.id⟩
  | .reportingDrop i missing _ =>
    e.lanes[i]?.map fun lane => ⟨i, clientName, .framesDropped lane.id missing⟩
  | .reportingSilence missing _ => some ⟨0, clientName, .silenceInserted missing⟩
  | _ => none

/-- What the client's next action adds to the counters, if the client moves by itself. -/
def clientCounts (e : Engine) : Counters :=
  match e.client with
  | .enrolling _ => { Counters.zero with workersStarted := 1 }
  | .countingDrop _ missing _ => { Counters.zero with dropped := missing.toUInt64 }
  | .countingSilence missing _ => { Counters.zero with silence := missing.toUInt64 }
  | .countingTransfer _ => { Counters.zero with transfers := 1 }
  | _ => Counters.zero

end Engine

namespace Moment

/-- What a moment tells the listener, if there is one. -/
def telling? (m : Moment) : Option Telling :=
  match m.action with
  | .client .tick => m.engine.clientTelling?
  | .worker i .tick =>
    m.engine.lanes[i]?.bind fun lane => (lane.worker.bind (·.event? lane.id)).map
      fun event => ⟨i, m.engine.workerName i, event⟩
  | _ => none

/-- What a moment adds to the counters. -/
def counts (m : Moment) : Counters :=
  match m.action with
  | .client .tick => m.engine.clientCounts
  | .worker i .tick =>
    match m.engine.workerAt? i with
    | some (.counting _) => { Counters.zero with deviceErrors := 1 }
    | _ => Counters.zero
  | _ => Counters.zero

end Moment

/-- What the listener was told in the course of a history, if there was one. -/
def tellings (h : List Moment) : List Telling := h.filterMap Moment.telling?

/-- What the counters gained in the course of a history. -/
def tally (h : List Moment) : Counters := (h.map Moment.counts).foldr (· + ·) Counters.zero

theorem tellings_cons (m : Moment) (rest : List Moment) :
    tellings (m :: rest) = m.telling?.toList ++ tellings rest := by
  unfold tellings
  cases ht : m.telling? <;> simp [ht]

theorem tellings_append (h later : List Moment) :
    tellings (h ++ later) = tellings h ++ tellings later :=
  List.filterMap_append

theorem tally_append (h later : List Moment) : tally (h ++ later) = tally h + tally later := by
  induction h with
  | nil => exact (Counters.zero_add _).symm
  | cons m rest ih => exact (congrArg (m.counts + ·) ih).trans (Counters.add_assoc _ _ _).symm

namespace Engine

variable {e e' : Engine}

/-- A worker's action moves its own worker and leaves what the move notes. -/
theorem stepWorker_eq_leave {i : Nat} {input : WorkerInput} (h : e.stepWorker i input = some e') :
    ∃ lane w w' pipe note, e.lanes[i]? = some lane ∧ lane.worker = some w ∧
      w.Move e.plan e.isRunning lane.id lane.pipe input w' pipe note ∧
      e' = { e with lanes := e.lanes.set i { lane with pipe, worker := some w' } }.leave
        (e.workerName i) note := by
  unfold stepWorker at h
  split at h
  · contradiction
  · rename_i lane hl
    obtain ⟨⟨lane', note⟩, hs, rfl⟩ := Option.map_eq_some_iff.mp h
    obtain ⟨w, w', pipe, hw, hm, rfl⟩ := Lane.step_eq_some hs
    exact ⟨lane, w, w', pipe, note, hl, hw, hm, rfl⟩

/-- An action that adds to the counters and to the journal what its moment does. -/
structure Records (e : Engine) (a : Action) (e' : Engine) : Prop where
  listening : e'.isListening = e.isListening
  counters : e'.counters = e.counters + (Moment.mk e a).counts
  journal : e'.journal =
    (if e.isListening then ((Moment.mk e a).telling?.map Telling.entry).toList else []) ++ e.journal

/-- A call changes neither the lanes nor the running flag nor what was counted and told. -/
theorem begin_keeps (e : Engine) (c : Call) :
    (e.begin c).lanes = e.lanes ∧ (e.begin c).isRunning = e.isRunning ∧
      (e.begin c).isListening = e.isListening ∧ (e.begin c).counters = e.counters ∧
      (e.begin c).journal = e.journal := by
  cases c with
  | negotiate | start | refine | drain | standby =>
    simp only [begin]
    split <;> exact ⟨rfl, rfl, rfl, rfl, rfl⟩
  | transfer buffer frames =>
    simp only [begin, beginTransfer]
    split
    · exact ⟨rfl, rfl, rfl, rfl, rfl⟩
    · split
      · exact ⟨rfl, rfl, rfl, rfl, rfl⟩
      · split <;> exact ⟨rfl, rfl, rfl, rfl, rfl⟩
  | setGain | pause | flush => exact ⟨rfl, rfl, rfl, rfl, rfl⟩

/-- An action of the client is recorded. -/
theorem records_client {input : ClientInput} (hs : ClientStep e input e') :
    e.Records (.client input) e' := by
  constructor
  case listening =>
    cases hs with
    | located hc => unfold locate; split <;> rfl
    | sealed hc => unfold shutCapture; split <;> rfl
    | _ => rfl
  case counters =>
    cases hs with
    | located hc =>
      unfold locate
      split <;> exact (Counters.add_zero _).symm
    | sealed hc =>
      unfold shutCapture
      split <;> simp only [Moment.counts, clientCounts, hc, Counters.add_zero]
    | enrolled hc | dropCounted hc | silenceCounted hc | transferred hc =>
      simp [Moment.counts, clientCounts, hc, answer, Counters.add_def, Counters.zero]
    | opened hc | refused hc | unserved hc | bound hc | spawned hc | spawnRefused hc | staffed hc
    | scaled hc | sent hc | allSent hc | received hc | latencyTold hc | rebased hc | drained hc
    | halted hc | stopped hc | allStopped hc | joined hc | allJoined hc | released hc
    | heralded hc | dropReported hc | silenceReported hc =>
      simp only [Moment.counts, clientCounts, hc, answer, tearDown, Counters.add_zero]
  case journal =>
    cases hs with
    | located hc =>
      unfold locate
      split <;> simp [Moment.telling?, answer]
    | sealed hc =>
      unfold shutCapture
      split <;> simp [Moment.telling?, clientTelling?, hc]
    | heralded hc hl | dropReported hc hl =>
      simp only [Moment.telling?, clientTelling?, hc, hl, told, Option.map_some]
      split <;> rfl
    | silenceReported hc =>
      simp only [Moment.telling?, clientTelling?, hc, told, Option.map_some]
      split <;> rfl
    | opened hc | refused hc | unserved hc | bound hc | spawned hc | spawnRefused hc | staffed hc
    | scaled hc | sent hc | allSent hc | received hc | latencyTold hc | rebased hc | drained hc
    | halted hc | stopped hc | allStopped hc | joined hc | allJoined hc | released hc
    | enrolled hc | dropCounted hc | silenceCounted hc | transferred hc =>
      simp [Moment.telling?, clientTelling?, hc, answer, tearDown]

/-- A worker's action is recorded. -/
theorem records_worker {i : Nat} {input : WorkerInput} (hs : e.stepWorker i input = some e') :
    e.Records (.worker i input) e' := by
  obtain ⟨lane, w, w', pipe, note, hl, hw, hm, rfl⟩ := stepWorker_eq_leave hs
  cases hm with
  | counted =>
    constructor <;> simp [leave, Moment.counts, workerAt?, Moment.telling?, WorkerState.event?, hl,
      hw, Counters.add_def, Counters.zero]
  | reported | ended =>
    simp only [leave, tell_eq]
    constructor
    · rfl
    · simp [Moment.counts, workerAt?, hl, hw]
    · simp only [Moment.telling?, WorkerState.event?, hl, hw, told, Option.bind_some,
        Option.map_some]
      split <;> rfl
  | _ =>
    constructor <;> simp [leave, Moment.counts, workerAt?, Moment.telling?, WorkerState.event?, hl,
      hw]

/-- Every action is recorded. -/
theorem records_step {a : Action} (hs : e.step a = some e') : e.Records a e' := by
  cases a with
  | call c =>
    obtain ⟨-, rfl⟩ := step_call_eq_some hs
    obtain ⟨-, -, hlistening, hcounters, hjournal⟩ := e.begin_keeps c
    exact ⟨hlistening, hcounters.trans (Counters.add_zero _).symm, by
      simp [hjournal, Moment.telling?]⟩
  | client input => exact records_client (clientStep_of_stepClient hs)
  | worker i input => exact records_worker hs
  | adjust level =>
    cases hs
    exact ⟨rfl, (Counters.add_zero _).symm, by simp [Moment.telling?]⟩

end Engine

namespace Run

variable {b : Blueprint} {h : List Moment} {e : Engine}

/-- The counters are the tally of the history. -/
theorem counters_eq (run : Run b h e) : e.counters = tally h := by
  induction run with
  | built hb =>
    obtain ⟨pcm, -, rfl⟩ := Engine.build_eq_ok hb
    rfl
  | snoc _ hs ih =>
    rw [(Engine.records_step hs).counters, ih, tally_append]
    simp [tally]

/-- Someone listens in the course of a run as from its beginning. -/
theorem isListening_eq (run : Run b h e) : e.isListening = b.isListening := by
  induction run with
  | built hb =>
    obtain ⟨pcm, -, rfl⟩ := Engine.build_eq_ok hb
    rfl
  | snoc _ hs ih => exact (Engine.records_step hs).listening.trans ih

/-- The journal is what the history told the listener, latest first. -/
theorem journal_eq (run : Run b h e) :
    e.journal = if b.isListening then ((tellings h).map Telling.entry).reverse else [] := by
  induction run with
  | built hb =>
    obtain ⟨pcm, -, rfl⟩ := Engine.build_eq_ok hb
    split <;> rfl
  | @snoc h e e' a run hs ih =>
    have htold : tellings [⟨e, a⟩] = (Moment.mk e a).telling?.toList :=
      (tellings_cons _ _).trans (List.append_nil _)
    rw [(Engine.records_step hs).journal, ih, run.isListening_eq, tellings_append, htold]
    split
    · cases (Moment.mk e a).telling? <;> simp
    · rfl

section

variable {later : List Moment} {e₀ : Engine} {c : Call}

/-- Since a call began the counters gained what was tallied. -/
theorem counters_since (run : Run b (h ++ ⟨e₀, .call c⟩ :: later) e) :
    e.counters = e₀.counters + tally later := by
  have htally : tally (h ++ ⟨e₀, .call c⟩ :: later) = tally h + tally later := by
    rw [List.append_cons, tally_append, tally_append]
    exact congrArg (· + _) (Counters.add_zero _)
  rw [run.counters_eq, htally, run.before.1.counters_eq]

/-- Since a call began the journal gained what the listener was told. -/
theorem journal_since (run : Run b (h ++ ⟨e₀, .call c⟩ :: later) e) :
    e.journal =
      (if b.isListening then ((tellings later).map Telling.entry).reverse else []) ++
        e₀.journal := by
  have htellings : tellings (h ++ ⟨e₀, .call c⟩ :: later) = tellings h ++ tellings later := by
    rw [List.append_cons, tellings_append, tellings_append]
    exact congrArg (· ++ _) (List.append_nil _)
  rw [run.journal_eq, htellings, run.before.1.journal_eq]
  split
  · rw [List.map_append, List.reverse_append]
  · rfl

end

end Run

end AudioRelay
