import AudioRelay.Proofs.Start

/-!
# Starts that fail

If an open fails, or nothing serves the stream, a start drops what it opened and nothing else has
happened. If a thread cannot be created it tears down what runs already. Either way the engine is
off again and keeps no device, and a later start goes on as on an engine that was just built.
-/

namespace AudioRelay

/-- The first candidates are the first profiles that serve. -/
theorem Blueprint.take_candidates {b : Blueprint} {j : Nat} (hj : j < b.candidates.length) :
    b.candidates.take (j + 1) = b.serving.take (j + 1) := by
  unfold candidates at hj ⊢
  split at hj
  · rename_i hin
    rw [List.length_take] at hj
    rw [if_pos hin, List.take_take, Nat.min_eq_left (by omega)]
  · rename_i hout
    rw [if_neg hout]

/-- Without profiles that serve there are no candidates. -/
theorem Blueprint.candidates_of_unserved {b : Blueprint} (unserved : b.serving = []) :
    b.candidates = [] := by
  rw [candidates, unserved]
  split <;> rfl

namespace Run

variable {b : Blueprint} {h later : List Moment} {e e₀ : Engine}

/-- An open that fails ends the call at once: the opener was called for the profiles up to the
one that failed, and nothing else has changed. -/
theorem open_refused {before after : List Moment} {e₁ : Engine} {fault : DeviceError}
    (run : Run b (h ++ ⟨e₀, .call .start⟩ :: later) e) (off : e₀.lanes = [])
    (alone : ∀ m ∈ later, m.isCall = false)
    (hlater : later = before ++ ⟨e₁, .client (.opened (.error fault))⟩ :: after) :
    ∃ j p, b.serving[j]? = some p ∧ marks later = (b.serving.take (j + 1)).map .asked ∧
      e₁.handles.length = j ∧
      e = { e₀ with
        client := .answered (.failed (.notInitialized s!"device '{p.id}': {fault.message}"))
        level := e.level } := by
  subst hlater
  have unstarted := fun m hm => Moment.isStart_of_isCall (alone m hm)
  rw [← List.cons_append, ← List.append_assoc] at run
  obtain ⟨run₁, e₂, hs⟩ := run.before
  dsimp only at run₁ hs
  obtain ⟨p, rest, ids, hc, rfl⟩ : ∃ p rest ids, e₁.client = .opening (p :: rest) ids ∧
      e₂ = e₁.answer (.failed (.notInitialized s!"device '{p.id}': {fault.message}")) := by
    cases Engine.clientStep_of_stepClient hs with
    | refused hc => exact ⟨_, _, _, hc, rfl⟩
  obtain ⟨heq, done, hmarks, hdone, hids⟩ :=
    run₁.opening_eq off (fun m hm => unstarted m (List.mem_append_left _ hm)) hc
  obtain ⟨hadjusts, e', hs', hlast⟩ := run.rests
    (a := .failed (.notInitialized s!"device '{p.id}': {fault.message}"))
    (fun e' hs' => by
      obtain rfl := Option.some.inj (hs.symm.trans hs')
      have hlanes : e₁.lanes = [] := by rw [heq]; exact off
      exact ⟨hlanes, rfl⟩)
    (fun x hx => alone x (List.mem_append_right _ (List.mem_cons_of_mem _ hx)))
  obtain rfl := Option.some.inj (hs.symm.trans hs')
  have hp : b.candidates[done.length]? = some p := by
    rw [← hdone, List.getElem?_append_right (Nat.le_refl _), Nat.sub_self]
    rfl
  have hj : done.length < b.candidates.length := (List.getElem?_eq_some_iff.mp hp).1
  refine ⟨done.length, p, Blueprint.serving_of_candidates hp, ?_, ?_, ?_⟩
  · have hasked : (Moment.mk e₁ (.client (.opened (.error fault)))).mark?.toList =
        [p].map .asked := by simp [Moment.mark?, Engine.clientMark?, hc]
    have htake : b.serving.take (done.length + 1) = done ++ [p] := by
      rw [← Blueprint.take_candidates hj, ← hdone, List.append_cons]
      exact List.take_left' List.length_append
    rw [List.append_cons, marks_append, marks_append, marks_singleton, marks_of_adjusts hadjusts,
      List.append_nil, hasked, hmarks, htake, List.map_append]
  · rw [Engine.handles, hc, heq, off]
    simpa using hids
  · rw [hlast, Engine.answer, heq]

/-- Without a profile that serves the opener is never called. -/
theorem unserved (run : Run b (h ++ ⟨e₀, .call .start⟩ :: later) e) (off : e₀.lanes = [])
    (alone : ∀ m ∈ later, m.isCall = false) (none_serves : b.serving = []) :
    marks later = [] ∧
      (e = { e₀ with client := .opening [] [], level := e.level } ∧
          (e.step (.client .tick)).isSome = true ∨
        e = { e₀ with
          client := .answered
            (.failed (.notInitialized s!"no {b.context.direction.label} device available"))
          level := e.level }) := by
  have hcandidates := Blueprint.candidates_of_unserved none_serves
  have unstarted := fun m hm => Moment.isStart_of_isCall (alone m hm)
  -- while devices are opened there is none to open
  have empty {later : List Moment} {e : Engine} {todo : List DeviceProfile}
      {ids : List (DeviceId × Nat)} (run : Run b (h ++ ⟨e₀, .call .start⟩ :: later) e)
      (unstarted : ∀ m ∈ later, m.isStart = false) (hc : e.client = .opening todo ids) :
      marks later = [] ∧ todo = [] ∧ ids = [] := by
    obtain ⟨-, done, hmarks, hdone, hids⟩ := run.opening_eq off unstarted hc
    rw [hcandidates] at hdone
    obtain ⟨rfl, rfl⟩ := List.append_eq_nil_iff.mp hdone
    exact ⟨hmarks, rfl, List.length_eq_zero_iff.mp hids⟩
  cases run.starts off unstarted with
  | opening todo ids heq =>
    have hclient : e.client = .opening todo ids := by rw [heq]
    obtain ⟨hmarks, rfl, rfl⟩ := empty run unstarted hclient
    refine ⟨hmarks, .inl ⟨heq, ?_⟩⟩
    simp only [Engine.step, Engine.stepClient, hclient, Option.isSome_some]
  | @closed before after e₁ todo ids input hclosed hlater heq hmove =>
    subst hlater
    have hclient : e₁.client = .opening todo ids := by rw [heq]
    rw [← List.cons_append, ← List.append_assoc] at run
    obtain ⟨run₁, e₂, hs⟩ := run.before
    dsimp only at run₁ hs
    obtain ⟨hmarks, rfl, rfl⟩ :=
      empty run₁ (fun m hm => unstarted m (List.mem_append_left _ hm)) hclient
    rcases hmove with ⟨fault, rfl⟩ | ⟨rfl, -⟩
    · simp only [Engine.step, Engine.stepClient, hclient, Engine.stepOpened, reduceCtorEq] at hs
    simp only [Engine.step, Engine.stepClient, hclient, Engine.bindLanes, List.isEmpty_nil, if_true,
      Option.some.injEq] at hs
    subst hs
    obtain ⟨hadjusts, e', hs', hlast⟩ := run.rests
      (a := .failed (.notInitialized s!"no {e₁.context.direction.label} device available"))
      (fun e' hs => by
        simp only [Engine.step, Engine.stepClient, hclient, Engine.bindLanes, List.isEmpty_nil,
          if_true, Option.some.injEq] at hs
        subst hs
        have hlanes : e₁.lanes = [] := by rw [heq]; exact off
        exact ⟨hlanes, rfl⟩)
      (fun x hx => alone x (List.mem_append_right _ (List.mem_cons_of_mem _ hx)))
    simp only [Engine.step, Engine.stepClient, hclient, Engine.bindLanes, List.isEmpty_nil, if_true,
      Option.some.injEq] at hs'
    subst hs'
    have hcontext : e₁.context = b.context := run₁.blueprint.1
    refine ⟨?_, .inr ?_⟩
    · have hsilent : (Moment.mk e₁ (.client .tick)).mark? = none := by
        simp only [Moment.mark?, Engine.clientMark?, hclient]
      rw [List.append_cons, marks_append, marks_append, marks_singleton, hmarks,
        marks_of_adjusts hadjusts, hsilent]
      rfl
    · generalize e₁.level = level at heq
      subst heq
      rw [← hcontext]
      exact hlast

end Run

/-- Where just the first `k` elements have a property, `k` elements have it. -/
theorem countP_of_first {α : Type} {p : α → Bool} {l : List α} {k : Nat} (hk : k ≤ l.length)
    (first : ∀ i x, l[i]? = some x → (p x = true ↔ i < k)) : l.countP p = k := by
  induction l generalizing k with
  | nil => exact (Nat.le_zero.mp hk).symm
  | cons x rest ih =>
    cases k with
    | zero =>
      refine List.countP_eq_zero.mpr fun y hy hp => ?_
      obtain ⟨i, hi⟩ := List.mem_iff_getElem?.mp hy
      exact absurd ((first i y hi).mp hp) (Nat.not_lt_zero i)
    | succ k =>
      have hrest : rest.countP p = k := by
        refine ih (Nat.le_of_succ_le_succ hk) fun i y hy => ?_
        exact (first (i + 1) y hy).trans Nat.succ_lt_succ_iff
      rw [List.countP_cons_of_pos ((first 0 x rfl).mpr (Nat.succ_pos k)), hrest]

/-- Whether the system refuses the thread of lane `i`. -/
def Moment.isRefusal (i : Nat) (m : Moment) : Bool :=
  match m.action, m.engine.client with
  | .client (.spawned (.error _)), .spawning j => j = i
  | _, _ => false

/-- A refusal comes with a text. -/
theorem Moment.eq_of_isRefusal {i : Nat} {m : Moment} (hm : m.isRefusal i = true) :
    ∃ e text, m = ⟨e, .client (.spawned (.error text))⟩ ∧ e.client = .spawning i := by
  obtain ⟨e, a⟩ := m
  unfold isRefusal at hm
  split at hm
  · rename_i text j ha hc
    exact ⟨e, text, by rw [← ha], by rw [← of_decide_eq_true hm, ← hc]⟩
  · contradiction

namespace Engine

/-- What is left of a start that gave up when the thread of lane `k` was refused: it names the
device of that lane, every device was stopped once, the workers of the lanes before were joined,
counted and their lives told to the end, and there were no others. What the journal has since the
start is what was told. -/
structure Unwound (b : Blueprint) (e₀ e₁ : Engine) (k : Nat) (text : String)
    (later : List Moment) (e : Engine) : Prop where
  answer : ∃ p, b.serving[k]? = some p ∧ e.client = .answered (.failed (.workerSpawn p.id text))
  stops : Mark.stops (marks later) = e₁.lanes.map (·.device)
  joined : ∃ during eᵣ after a, later = during ++ ⟨eᵣ, .client .tick⟩ :: after ∧
    eᵣ.client = .releasing a ∧ eᵣ.lanes.map Lane.owner = e₁.lanes.map Lane.owner ∧
    ∀ lane ∈ eᵣ.lanes, lane.isQuiet = true
  lived : ∀ i lane, e₁.lanes[i]? = some lane →
    i < k ∧ Mark.Lived lane.id (life i later) ∨ k ≤ i ∧ life i later = (0, 0, [])
  counted : e.counters.workersStarted = e₀.counters.workersStarted + UInt64.ofNat k
  journal : e.journal =
    (if b.isListening then ((tellings later).map Telling.entry).reverse else []) ++ e₀.journal

end Engine

/-- Whether a client in this state may be in the call of a start. -/
def ClientState.mayStart : ClientState → Bool
  | answered _ => true
  | opening _ _ => true
  | spawning _ => true
  | enrolling _ => true
  | heralding _ => true
  | halting _ => true
  | sealing _ => true
  | stopping _ _ => true
  | joining _ _ => true
  | releasing _ => true
  | _ => false

namespace Engine

variable {e e' : Engine} {opened : List (DeviceProfile × Nat)}

/-- A client in the call of a start, which holds no lanes once it gave a failure for an answer. -/
structure Starting (e : Engine) : Prop where
  mayStart : e.client.mayStart = true
  failed : ∀ error, e.client = .answered (.failed error) → e.lanes = []

/-- Every action but a call goes on with the call of a start. -/
theorem Starting.step {a : Action} (h : e.Starting) (sound : e.Sound opened)
    (hs : e.step a = some e') (alone : Moment.isCall ⟨e, a⟩ = false) : e'.Starting := by
  have hst := sound.stage
  have hstart := h.mayStart
  cases a with
  | call c => contradiction
  | adjust level =>
    cases hs
    exact ⟨h.mayStart, h.failed⟩
  | worker i input =>
    obtain ⟨lane, lane', -, hl, -, counters, journal, rfl⟩ := stepWorker_eq_some hs
    refine ⟨h.mayStart, fun error hc => ?_⟩
    rw [h.failed error hc] at hl
    contradiction
  | client input =>
    cases clientStep_of_stepClient hs with
    | refused hc | unserved hc =>
      rw [hc] at hst
      exact ⟨rfl, fun error _ => hst.1⟩
    | released hc => exact ⟨rfl, fun error _ => rfl⟩
    | staffed hc _ =>
      refine ⟨rfl, fun error hc => ?_⟩
      have hdone : Answer.done = .failed error := ClientState.answered.inj hc
      contradiction
    | opened hc | bound hc _ | spawned hc _ | spawnRefused hc _ | enrolled hc | heralded hc _
    | halted hc | sealed hc | stopped hc _ | allStopped hc _ | joined hc _ _ | allJoined hc _ =>
      exact ⟨rfl, fun error hc => by contradiction⟩
    | scaled hc | sent hc _ _ | allSent hc _ | dropCounted hc | dropReported hc _
    | received hc _ _ _ _ | silenceCounted hc | silenceReported hc | latencyTold hc
    | transferred hc | rebased hc | located hc | drained hc =>
      rw [hc] at hstart
      contradiction

end Engine

namespace Run

variable {b : Blueprint} {h later : List Moment} {e e₀ : Engine}

/-- A start that gave a failure for an answer left an engine that keeps nothing. -/
theorem anew_of_failed {error : EngineError} (run : Run b (h ++ ⟨e₀, .call .start⟩ :: later) e)
    (off : e₀.lanes = []) (alone : ∀ m ∈ later, m.isCall = false)
    (failed : e.client = .answered (.failed error)) : e.Anew b := by
  have starting : e.Starting := by
    refine run.after (motive := fun _ e => e.Starting) ?_ ?_
    · intro e' hs
      obtain ⟨-, rfl⟩ := Engine.step_call_eq_some hs
      have hidle : e₀.isIdle = true := List.isEmpty_iff.mpr off
      simp only [Engine.begin, hidle, if_true]
      exact ⟨rfl, fun error hc => by contradiction⟩
    · intro past e₁ e₂ a hp run₁ starting hs
      refine starting.step run₁.sound hs (alone _ ?_)
      exact hp.subset (List.mem_append_right _ (List.mem_singleton.mpr rfl))
  exact run.anew (starting.failed error failed) failed

/-- A start counts the workers that its marks say were counted. -/
theorem workersStarted_since (run : Run b (h ++ ⟨e₀, .call .start⟩ :: later) e) :
    e.counters.workersStarted =
      e₀.counters.workersStarted + UInt64.ofNat ((marks later).countP Mark.isEnrolled) := by
  rw [run.counters_since, Counters.add_def, workersStarted_tally]

/-- When a teardown has let go of the lanes, a start that was refused a thread is unwound. -/
theorem unwound {past rest during : List Moment} {e₁ eᵣ : Engine} {k : Nat} {p : DeviceProfile}
    {text : String} {a : Answer}
    (run : Run b (h ++ ⟨e₀, .call .start⟩ :: (past ++ ⟨eᵣ, .client .tick⟩ :: rest)) e)
    (off : e₀.lanes = []) (alone : ∀ m ∈ past ++ ⟨eᵣ, .client .tick⟩ :: rest, m.isCall = false)
    (hp : b.serving[k]? = some p) (ha : a = .failed (.workerSpawn p.id text))
    (hk : k ≤ e₁.lanes.length)
    (staffed : ∀ i x, e₁.lanes[i]? = some x → (x.worker.isSome = true ↔ i < k))
    (under : eᵣ.Tearing a (e₁.lanes.map Lane.owner) during) (hc : eᵣ.client = .releasing a) :
    Engine.Unwound b e₀ e₁ k text (past ++ ⟨eᵣ, .client .tick⟩ :: rest) e := by
  have from_release :
      Run b ((h ++ ⟨e₀, .call .start⟩ :: past) ++ ⟨eᵣ, .client .tick⟩ :: rest) e := by
    rwa [List.append_assoc, List.cons_append]
  obtain ⟨hadjusts, heq⟩ := from_release.rests_after_release hc
    fun x hx => alone x (List.mem_append_right _ (List.mem_cons_of_mem _ hx))
  have hmarks := marks_release past hc hadjusts
  obtain ⟨-, hstops, henrolled, hlives, -⟩ := from_release.before.1.at_release hc
  rw [ofStart_call h off fun m hm =>
    Moment.isStart_of_isCall (alone m (List.mem_append_left _ hm))] at hstops henrolled hlives
  have kept : ∀ i x, eᵣ.lanes[i]? = some x → (x.worker.isSome = true ↔ i < k) := by
    intro i x hx
    obtain ⟨y, hy, howner⟩ := under.origin hx
    have hsame : y.worker.isSome = x.worker.isSome := congrArg (·.2.2) howner
    rw [← hsame]
    exact staffed i y hy
  constructor
  case journal => exact run.journal_since
  case answer => exact ⟨p, hp, by rw [heq, ha]⟩
  case stops => rw [hmarks, hstops, under.devices]
  case joined =>
    refine ⟨past, eᵣ, rest, a, rfl, hc, under.owners, fun x hx => ?_⟩
    obtain ⟨i, hi⟩ := List.mem_iff_getElem?.mp hx
    exact (hlives i x hi).1
  case lived =>
    intro i x hx
    obtain ⟨y, hy, howner⟩ := under.lane hx
    have hyid : y.id = x.id := congrArg (·.1) howner
    have hlife := (hlives i y hy).2
    rw [life_eq, ← hmarks, ← life_eq, hyid] at hlife
    rcases hlife with ⟨unstaffed, hnone⟩ | ⟨hstaffed, hlived⟩
    · refine .inr ⟨Nat.le_of_not_lt fun hi => ?_, hnone⟩
      have hsome := (kept i y hy).mpr hi
      rw [unstaffed] at hsome
      contradiction
    · exact .inl ⟨(kept i y hy).mp hstaffed, hlived⟩
  case counted =>
    have hlength := under.length_lanes
    rw [List.length_map] at hlength
    have hcount := countP_of_first (p := fun lane : Lane => lane.worker.isSome)
      (by omega : k ≤ eᵣ.lanes.length) kept
    rw [run.workersStarted_since, hmarks, henrolled, hcount]

/-- A thread that cannot be created ends the call by a teardown. -/
theorem spawn_refused {before after : List Moment} {e₁ : Engine} {text : String}
    (run : Run b (h ++ ⟨e₀, .call .start⟩ :: later) e) (off : e₀.lanes = [])
    (alone : ∀ m ∈ later, m.isCall = false)
    (hlater : later = before ++ ⟨e₁, .client (.spawned (.error text))⟩ :: after) :
    ∃ k, e₁.client = .spawning k ∧ k < e₁.lanes.length ∧
      e₁.lanes.length = b.candidates.length ∧ Mark.asks (marks before) = b.candidates ∧
      (e.answer? = none ∧ e.GoesOn ∧
          (after.filter Moment.isClient).length ≤ 2 * e₁.lanes.length + 4 ∨
        Engine.Unwound b e₀ e₁ k text later e) := by
  subst hlater
  have whole := run
  rw [← List.cons_append, ← List.append_assoc] at run
  obtain ⟨run₁, e₂, hs⟩ := run.before
  dsimp only at run₁ hs
  obtain ⟨k, lane, hc, hl, rfl⟩ : ∃ k lane, e₁.client = .spawning k ∧ e₁.lanes[k]? = some lane ∧
      e₂ = e₁.tearDown (.failed (.workerSpawn lane.id text)) := by
    cases Engine.clientStep_of_stepClient hs with
    | spawnRefused hc hl => exact ⟨_, _, hc, hl, rfl⟩
  have hst := run₁.sound.stage
  rw [hc] at hst
  have hb := hst.1
  obtain ⟨hk, -⟩ := List.getElem?_eq_some_iff.mp hl
  obtain ⟨p, hp, hid, -⟩ := hb.owner hl
  rw [run₁.candidates_eq] at hp
  have hasks := run₁.ledger.asks hb.nonempty
  rw [ofStart_call h off fun m hm =>
    Moment.isStart_of_isCall (alone m (List.mem_append_left _ hm)), run₁.candidates_eq] at hasks
  refine ⟨k, hc, hk, by rw [hb.length_eq, run₁.candidates_eq], hasks, ?_⟩
  have torn := run.tearing (a := .failed (.workerSpawn lane.id text))
    (e₁.lanes.map Lane.owner)
    (fun e' hs' => by
      obtain rfl := Option.some.inj (hs.symm.trans hs')
      exact ⟨rfl, rfl⟩)
  refine torn.imp (fun under => ?_) ?_
  · have hunder := under.under_way
    rwa [List.length_map] at hunder
  · rintro ⟨during, eᵣ, rest, rfl, under, hcr⟩
    have hsplit : before ++ ⟨e₁, .client (.spawned (.error text))⟩ ::
        (during ++ ⟨eᵣ, .client .tick⟩ :: rest) =
          (before ++ ⟨e₁, .client (.spawned (.error text))⟩ :: during) ++
            ⟨eᵣ, .client .tick⟩ :: rest := by
      rw [List.append_assoc, List.cons_append]
    rw [hsplit] at whole alone ⊢
    exact whole.unwound off alone (Blueprint.serving_of_candidates hp) (by rw [hid])
      (Nat.le_of_lt hk) hb.staffed under hcr

/-- A start that fails keeps nothing. If an open fails, the opener was called for the profiles up
to the one whose device it could not give, the devices before are dropped and nothing else has
changed; if nothing serves, the opener was not called; if a thread cannot be created, the start
tears down, and it can go on until every device was stopped and every worker joined. After every
failure the engine is off, and a later start goes on as on an engine that was just built. -/
theorem failed_start_keeps_nothing (run : Run b (h ++ ⟨e₀, .call .start⟩ :: later) e)
    (idle : e₀.isIdle = true) (alone : ∀ m ∈ later, m.isCall = false) :
    (∀ before e₁ fault after, later = before ++ ⟨e₁, .client (.opened (.error fault))⟩ :: after →
      ∃ j p, b.serving[j]? = some p ∧ marks later = (b.serving.take (j + 1)).map .asked ∧
        e₁.handles.length = j ∧
        e = { e₀ with
          client := .answered (.failed (.notInitialized s!"device '{p.id}': {fault.message}"))
          level := e.level }) ∧
      (b.serving = [] → marks later = [] ∧
        (e = { e₀ with client := .opening [] [], level := e.level } ∧
            (e.step (.client .tick)).isSome = true ∨
          e = { e₀ with
            client := .answered
              (.failed (.notInitialized s!"no {b.context.direction.label} device available"))
            level := e.level })) ∧
      (∀ before e₁ text after, later = before ++ ⟨e₁, .client (.spawned (.error text))⟩ :: after →
        ∃ k, e₁.client = .spawning k ∧ k < e₁.lanes.length ∧
          e₁.lanes.length = b.candidates.length ∧ Mark.asks (marks before) = b.candidates ∧
          (e.answer? = none ∧ e.GoesOn ∧
              (after.filter Moment.isClient).length ≤ 2 * e₁.lanes.length + 4 ∨
            Engine.Unwound b e₀ e₁ k text later e)) ∧
      ∀ error, e.client = .answered (.failed error) → e.Anew b := by
  have off : e₀.lanes = [] := List.isEmpty_iff.mp idle
  refine ⟨?_, run.unserved off alone, ?_, fun error => run.anew_of_failed off alone⟩
  · exact fun before e₁ fault after => run.open_refused off alone
  · exact fun before e₁ text after => run.spawn_refused off alone

/-- Two devices open and the thread of the second is refused: the worker of the first writes once
and ends, and the start gives its failure. -/
theorem unwound_after_one_worker :
    ∃ h e₀ later e,
      Run (.small .output [.attached 0 0 .output, .attached 0 1 .output])
        (h ++ ⟨e₀, .call .start⟩ :: later) e ∧ e₀.isIdle = true ∧
      (∀ m ∈ later, m.isCall = false) ∧ e₀.counters.workersStarted.toNat = 0 ∧
      e.counters.workersStarted.toNat = 1 ∧ Mark.stops (marks later) = [0, 1] ∧
      (∃ e₁ text, Engine.Unwound (.small .output [.attached 0 0 .output, .attached 0 1 .output])
        e₀ e₁ 1 text later e) ∧
      e.Anew (.small .output [.attached 0 0 .output, .attached 0 1 .output]) := by
  have hwatch : (Blueprint.small .output [.attached 0 0 .output, .attached 0 1 .output]).watch []
      (.call .start)
      [.client (.opened (.ok 0)), .client (.opened (.ok 1)), .client .tick,
        .client (.spawned (.ok ())), .client .tick, .worker 0 .tick, .client .tick,
        .client (.spawned (.error "busy")), .worker 0 .tick, .client .tick, .client .tick,
        .client .tick, .client .tick, .client .tick, .worker 0 .tick, .worker 0 .tick,
        .worker 0 .tick, .client .tick, .client .tick, .client .tick, .client .tick]
      (fun e₀ later e => (e₀.isIdle && (later.all fun m => !m.isCall) &&
          later.any (Moment.isRefusal 1) && e.answer?.isSome,
        e₀.counters.workersStarted.toNat, e.counters.workersStarted.toNat,
        Mark.stops (marks later))) = some (true, 0, 1, [0, 1]) := by
    decide
  obtain ⟨h, e₀, later, e, run, hseen⟩ := Run.of_watch hwatch
  simp only [Prod.mk.injEq, Bool.and_eq_true] at hseen
  obtain ⟨⟨⟨⟨idle, hcalls⟩, hany⟩, hanswer⟩, hbefore, hafter, hstops⟩ := hseen
  have alone : ∀ m ∈ later, m.isCall = false := by simpa using hcalls
  obtain ⟨m, hm, hrefused⟩ := List.any_eq_true.mp hany
  obtain ⟨e₁, text, rfl, hc⟩ := Moment.eq_of_isRefusal hrefused
  obtain ⟨before, after, hlater⟩ := List.append_of_mem hm
  obtain ⟨-, -, hspawn, hfailed⟩ := run.failed_start_keeps_nothing idle alone
  obtain ⟨k, hk, -, -, -, hend⟩ := hspawn before e₁ text after hlater
  obtain rfl := ClientState.spawning.inj (hc.symm.trans hk)
  have hunwound := hend.resolve_left fun under => by
    rw [under.1] at hanswer
    contradiction
  obtain ⟨p, -, hanswered⟩ := hunwound.answer
  exact ⟨h, e₀, later, e, run, idle, alone, hbefore, hafter, hstops, ⟨e₁, text, hunwound⟩,
    hfailed _ hanswered⟩

end Run

end AudioRelay
