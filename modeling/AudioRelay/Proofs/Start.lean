import AudioRelay.Proofs.Restart
import AudioRelay.Proofs.Teardown

/-!
# Starts

A start asks the opener for one candidate after the other and holds what it gave until every
device is open; until then nothing else changes. An engine that is off holds no device, and its
next start goes on as on an engine that was just built.
-/

namespace AudioRelay

namespace Moment

/-- A moment that begins no call begins no start. -/
theorem isStart_of_isCall {m : Moment} (hm : m.isCall = false) : m.isStart = false := by
  unfold isStart
  unfold isCall at hm
  split
  · rename_i ha
    rw [ha] at hm
    contradiction
  · rfl

end Moment

namespace Engine

variable {e e' : Engine}

/-- The devices that an engine holds: those of its lanes, and those that a start under way
opened. -/
def handles (e : Engine) : List Nat :=
  e.lanes.map (·.device) ++
    match e.client with
    | .opening _ opened => opened.map (·.2)
    | _ => []

/-- An engine that is off and keeps nothing: a start on it goes on exactly as on one that was just
built with the present gain, but for what was counted and told before. -/
structure Anew (b : Blueprint) (e : Engine) : Prop where
  idle : e.isIdle = true
  halted : e.isRunning = false
  handles : e.handles = []
  starts : ∃ new, Engine.build { b with gain := e.level } = .ok new ∧
    ∀ actions, (e.begin .start).follow actions =
      ((new.begin .start).follow actions).map fun (h, last) =>
        (h.map (·.aged e.counters e.journal), last.aged e.counters e.journal)

/-- What is bound since a start began is fresh: the opener was called for every candidate, then the
lanes got empty pipes and no threads, and every thread was created after that. -/
def Fresh (b : Blueprint) (later : List Moment) (e : Engine) : Prop :=
  ∃ before e₁ after e₂, ∃ opened : List (DeviceId × Nat),
    later = before ++ ⟨e₁, .client .tick⟩ :: after ∧
    marks before = b.candidates.map .asked ∧ Mark.asks (marks after) = [] ∧
    e₁.lanes = [] ∧ e₁.step (.client .tick) = some e₂ ∧
    e₂.lanes = opened.map (fun (id, device) => Lane.fresh e₁.plan id device) ∧
    ∀ i lane, e.lanes[i]? = some lane →
      (marks after).count (.spawned i) = lane.worker.isSome.toNat

/-- Only a start opens devices. -/
theorem step_closed {a : Action} (closed : ∀ todo ids, e.client ≠ .opening todo ids)
    (hs : e.step a = some e') (unstarted : Moment.isStart ⟨e, a⟩ = false) :
    ∀ todo ids, e'.client ≠ .opening todo ids := by
  cases a with
  | call c =>
    obtain ⟨ha, rfl⟩ := step_call_eq_some hs
    obtain ⟨x, hc⟩ := answered_of_isSome ha
    exact (e.begin_standing hc (c := c) (by rw [unstarted]; simp)).2
  | worker i input =>
    obtain ⟨_, _, _, _, _, counters, journal, rfl⟩ := stepWorker_eq_some hs
    exact closed
  | adjust level =>
    cases hs
    exact closed
  | client input =>
    cases clientStep_of_stepClient hs with
    | opened hc => exact absurd hc (closed _ _)
    | located hc =>
      unfold locate
      split <;> exact fun todo ids hc => by contradiction
    | sealed hc => exact fun todo ids hc => by contradiction
    | sent hc hl hw =>
      intro todo ids hc
      dsimp only at hc
      split at hc <;> contradiction
    | received hc hl hr hf hq =>
      intro todo ids hc
      dsimp only at hc
      split at hc <;> contradiction
    | latencyTold hc =>
      intro todo ids hc
      dsimp only [afterLatency] at hc
      split at hc <;> contradiction
    | _ => exact fun todo ids hc => by contradiction

/-- An engine that opens devices, or has just gone on from there, in a call of its start. -/
inductive Starts (e₀ : Engine) (later : List Moment) (e : Engine) : Prop
  /-- Nothing has changed but what the client will do next. -/
  | opening (todo : List DeviceProfile) (ids : List (DeviceId × Nat)) :
      e = { e₀ with client := .opening todo ids, level := e.level } → Starts e₀ later e
  /-- An open failed, or no candidate was left. -/
  | closed (before after : List Moment) {e₁ : Engine} {todo : List DeviceProfile}
      {ids : List (DeviceId × Nat)} {input : ClientInput} :
      (∀ todo ids, e.client ≠ .opening todo ids) →
      later = before ++ ⟨e₁, .client input⟩ :: after →
      e₁ = { e₀ with client := .opening todo ids, level := e₁.level } →
      (∃ fault, input = .opened (.error fault)) ∨ input = .tick ∧ todo = [] → Starts e₀ later e

/-- Every action but another start goes on with a start. -/
theorem Starts.step {e₀ : Engine} {later : List Moment} {a : Action} (off : e₀.lanes = [])
    (h : e₀.Starts later e) (hs : e.step a = some e')
    (unstarted : Moment.isStart ⟨e, a⟩ = false) : e₀.Starts (later ++ [⟨e, a⟩]) e' := by
  cases h with
  | @closed before after _ _ _ _ hclosed hlater heq hmove =>
    refine .closed before (after ++ [⟨e, a⟩]) (step_closed hclosed hs unstarted) ?_ heq hmove
    rw [hlater, List.append_assoc, List.cons_append]
  | opening todo ids heq =>
    have hclient : e.client = .opening todo ids := by rw [heq]
    have hlanes : e.lanes = [] := by rw [heq]; exact off
    cases a with
    | call c =>
      obtain ⟨ha, -⟩ := step_call_eq_some hs
      obtain ⟨x, hc⟩ := answered_of_isSome ha
      rw [hclient] at hc
      contradiction
    | worker i input =>
      obtain ⟨lane, -, -, hl, -⟩ := stepWorker_eq_some hs
      rw [hlanes] at hl
      contradiction
    | adjust level =>
      cases hs
      exact .opening todo ids (by rw [heq])
    | client input =>
      have hstep := clientStep_of_stepClient hs
      have closed {input : ClientInput} (hclosed : ∀ todo ids, e'.client ≠ .opening todo ids)
          (hmove : (∃ fault, input = .opened (.error fault)) ∨ input = .tick ∧ todo = []) :
          e₀.Starts (later ++ [⟨e, .client input⟩]) e' :=
        .closed later [] hclosed rfl heq hmove
      cases hstep with
      | @opened p rest opened device hc =>
        exact .opening rest (opened ++ [(p.id, device)]) (by rw [heq])
      | refused hc => exact closed (fun todo ids hc => by contradiction) (.inl ⟨_, rfl⟩)
      | unserved hc | bound hc _ =>
        refine closed (fun todo ids hc => by contradiction) (.inr ⟨rfl, ?_⟩)
        exact (ClientState.opening.inj (hclient.symm.trans hc)).1
      | spawned hc _ | spawnRefused hc _ | staffed hc _ | enrolled hc | heralded hc _ | scaled hc
      | sent hc _ _ | allSent hc _ | dropCounted hc | dropReported hc _ | received hc _ _ _ _
      | silenceCounted hc | silenceReported hc | latencyTold hc | transferred hc | rebased hc
      | located hc | drained hc | halted hc | sealed hc | stopped hc _ | allStopped hc _
      | joined hc _ _ | allJoined hc _ | released hc =>
        rw [hclient] at hc
        contradiction

end Engine

namespace Run

variable {b : Blueprint} {h later : List Moment} {e e₀ : Engine}

/-- Between two calls an engine without lanes keeps nothing. -/
theorem anew {a : Answer} (run : Run b h e) (off : e.lanes = [])
    (answered : e.client = .answered a) : e.Anew b := by
  have hanswer : e.answer?.isSome = true := by rw [Engine.answer?, answered]; rfl
  refine ⟨List.isEmpty_iff.mpr off, ?_, ?_, run.starts_anew off hanswer⟩
  · exact ((run.sound.off_or_on hanswer).resolve_right fun on => on.1.nonempty off).2
  · rw [Engine.handles, answered, off]
    rfl

/-- In the call of a start, devices are being opened or that came to its end. -/
theorem starts (run : Run b (h ++ ⟨e₀, .call .start⟩ :: later) e) (off : e₀.lanes = [])
    (unstarted : ∀ m ∈ later, m.isStart = false) : e₀.Starts later e := by
  refine run.after (motive := fun past e => e₀.Starts past e) ?_ ?_
  · intro e' hs
    obtain ⟨-, rfl⟩ := Engine.step_call_eq_some hs
    have hidle : e₀.isIdle = true := List.isEmpty_iff.mpr off
    exact .opening e₀.candidates [] (by simp only [Engine.begin, hidle, if_true])
  · intro past e₁ e₂ a hp _ starts hs
    refine starts.step off hs (unstarted _ ?_)
    exact hp.subset (List.mem_append_right _ (List.mem_singleton.mpr rfl))

/-- A start on an engine without lanes begins a cycle. -/
theorem ofStart_call (h : List Moment) (off : e₀.lanes = [])
    (unstarted : ∀ m ∈ later, m.isStart = false) :
    ofStart (h ++ ⟨e₀, .call .start⟩ :: later) = later :=
  ofStart_start h (List.isEmpty_iff.mpr off) unstarted

/-- While devices are opened nothing else has changed, and the opener was called for the
candidates of those that are open. -/
theorem opening_eq (run : Run b (h ++ ⟨e₀, .call .start⟩ :: later) e) (off : e₀.lanes = [])
    (unstarted : ∀ m ∈ later, m.isStart = false) {todo : List DeviceProfile}
    {ids : List (DeviceId × Nat)} (hc : e.client = .opening todo ids) :
    e = { e₀ with client := .opening todo ids, level := e.level } ∧
      ∃ done, marks later = done.map .asked ∧ done ++ todo = b.candidates ∧
        ids.length = done.length := by
  constructor
  · cases run.starts off unstarted with
    | closed _ _ hclosed => exact absurd hc (hclosed todo ids)
    | opening todo' ids' heq =>
      have hclient : e.client = .opening todo' ids' := by rw [heq]
      obtain ⟨rfl, rfl⟩ := ClientState.opening.inj (hclient.symm.trans hc)
      exact heq
  · obtain ⟨done, hmarks, hdone⟩ := run.ledger.opening todo ids hc
    rw [ofStart_call h off unstarted] at hmarks
    rw [run.candidates_eq] at hdone
    refine ⟨done, hmarks, hdone, ?_⟩
    have hst := run.sound.stage
    rw [hc] at hst
    obtain ⟨-, -, hall, hids⟩ := hst
    rw [run.candidates_eq, ← hdone] at hall
    have hlength := congrArg List.length (List.append_cancel_right hall)
    rw [hids, List.length_map, ← hlength, List.length_map]

/-- What a start binds is fresh. -/
theorem binds_fresh (run : Run b (h ++ ⟨e₀, .call .start⟩ :: later) e) (off : e₀.lanes = [])
    (unstarted : ∀ m ∈ later, m.isStart = false) (bound : e.lanes ≠ []) : e.Fresh b later := by
  have ledger := run.ledger
  rw [ofStart_call h off unstarted] at ledger
  cases run.starts off unstarted with
  | opening _ _ heq => exact absurd (by rw [heq]; exact off) bound
  | @closed before after e₁ todo ids input hclosed hlater heq hmove =>
    subst hlater
    have hclient : e₁.client = .opening todo ids := by rw [heq]
    have hlanes : e₁.lanes = [] := by rw [heq]; exact off
    rw [← List.cons_append, ← List.append_assoc] at run
    obtain ⟨run₁, e₂, hs⟩ := run.before
    dsimp only at run₁ hs
    obtain ⟨-, done, hmarks, hdone, -⟩ :=
      run₁.opening_eq off (fun m hm => unstarted m (List.mem_append_left _ hm)) hclient
    have hst := run₁.sound.stage
    rw [hclient] at hst
    -- a start that ended here would have bound nothing
    have goes_on {a : Answer} (ends : e₂ = e₁.answer a) : False := by
      refine bound (run.stays_off (fun e' hs' => ?_) fun m hm => ?_).1
      · obtain rfl := Option.some.inj (hs.symm.trans hs')
        rw [ends]
        exact ⟨hlanes, hst.2.1, fun todo ids hc => by contradiction⟩
      · exact unstarted m (List.mem_append_right _ (List.mem_cons_of_mem _ hm))
    cases Engine.clientStep_of_stepClient hs with
    | refused hc | unserved hc => exact (goes_on rfl).elim
    | opened hc =>
      rcases hmove with ⟨fault, hinput⟩ | ⟨hinput, -⟩
      · exact absurd (ClientInput.opened.inj hinput) (by simp)
      · contradiction
    | @bound opened hc hne =>
      obtain ⟨rfl, rfl⟩ := ClientState.opening.inj (hclient.symm.trans hc)
      rw [List.append_nil] at hdone
      have hsilent : (Moment.mk e₁ (.client .tick)).mark? = none := by
        simp only [Moment.mark?, Engine.clientMark?, hclient]
      have hall : marks (before ++ ⟨e₁, .client .tick⟩ :: after) =
          b.candidates.map .asked ++ marks after := by
        rw [List.append_cons, marks_append, marks_append, marks_singleton, hsilent, hmarks, hdone,
          Option.toList_none, List.append_nil]
      rw [hall] at ledger
      refine ⟨before, e₁, after, _, ids, rfl, by rw [hmarks, hdone], ?_, hlanes, hs, rfl, ?_⟩
      · have hasks := ledger.asks bound
        rw [Mark.asks_append, Mark.asks_map_asked, run.candidates_eq] at hasks
        exact List.append_right_eq_self.mp hasks
      · intro i lane hl
        have hcount := (ledger.careers i lane hl).spawned
        rw [List.count_append, List.count_eq_zero.mpr (by simp), Nat.zero_add] at hcount
        exact hcount
    | spawned hc _ | spawnRefused hc _ | staffed hc _ | enrolled hc | heralded hc _ | scaled hc
    | sent hc _ _ | allSent hc _ | dropCounted hc | dropReported hc _ | received hc _ _ _ _
    | silenceCounted hc | silenceReported hc | latencyTold hc | transferred hc | rebased hc
    | located hc | drained hc | halted hc | sealed hc | stopped hc _ | allStopped hc _
    | joined hc _ _ | allJoined hc _ | released hc =>
      rw [hclient] at hc
      contradiction

end Run

end AudioRelay
