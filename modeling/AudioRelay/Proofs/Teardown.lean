import AudioRelay.Proofs.Exit

/-!
# Teardown

A teardown clears the running flag, shuts the pipes of a capture stream, stops every device,
joins every worker and lets go of the lanes. Each of its actions brings it nearer to its end, and
it waits for nothing but workers that can go on. Once it has let go, nothing is left to move.
-/

namespace AudioRelay

/-- What a teardown leaves of a lane until it lets go of it: its device, and whether it has a
worker. -/
def Lane.owner (lane : Lane) : DeviceId × Nat × Bool :=
  (lane.id, lane.device, lane.worker.isSome)

namespace ClientState

/-- The answer that a teardown under way will give. -/
def teardown? : ClientState → Option Answer
  | halting a => some a
  | sealing a => some a
  | stopping _ a => some a
  | joining _ a => some a
  | releasing a => some a
  | _ => none

/-- How many actions a teardown is away from its answer at most. -/
def remaining (lanes : Nat) : ClientState → Nat
  | halting _ => 2 * lanes + 5
  | sealing _ => 2 * lanes + 4
  | stopping i _ => lanes - i + lanes + 3
  | joining i _ => lanes - i + 2
  | releasing _ => 1
  | _ => 0

end ClientState

namespace Engine

/-- The client can go on by itself, or it waits for a live worker to end that can go on. -/
def GoesOn (e : Engine) : Prop :=
  (e.step (.client .tick)).isSome = true ∨
    ∃ i a lane w, e.client = .joining i a ∧ e.lanes[i]? = some lane ∧ lane.worker = some w ∧
      w.isOver = false ∧
      ∀ input, WorkerInput.Fits w input → (e.step (.worker i input)).isSome = true

/-- A teardown under way, with `later` since it began. -/
structure Tearing (a : Answer) (held : List (DeviceId × Nat × Bool)) (later : List Moment)
    (e : Engine) : Prop where
  client : e.client.teardown? = some a
  owners : e.lanes.map Lane.owner = held
  bounded : (later.filter Moment.isClient).length + e.client.remaining held.length ≤
    2 * held.length + 5

namespace Tearing

variable {a : Answer} {held : List (DeviceId × Nat × Bool)} {later : List Moment}
  {e e' : Engine}

/-- The lanes are as many as there were. -/
theorem length_lanes (h : e.Tearing a held later) : e.lanes.length = held.length := by
  rw [← h.owners, List.length_map]

/-- An action of the client goes on with the teardown, or lets go of the lanes. -/
theorem act {input : ClientInput} (h : e.Tearing a held later) (hs : ClientStep e input e') :
    e'.Tearing a held (later ++ [⟨e, .client input⟩]) ∨
      input = .tick ∧ e.client = .releasing a ∧ e' = { e with lanes := [] }.answer a := by
  have hclient := h.client
  have hbounded := h.bounded
  have hlength := h.length_lanes
  -- every action is one, and leaves one less
  have next {e' : Engine} (lanes : e'.lanes.map Lane.owner = e.lanes.map Lane.owner)
      (client : e'.client.teardown? = some a)
      (less : e'.client.remaining held.length < e.client.remaining held.length) :
      e'.Tearing a held (later ++ [⟨e, .client input⟩]) := by
    refine ⟨client, lanes.trans h.owners, ?_⟩
    have hone : (Moment.mk e (.client input)).isClient = true := rfl
    rw [List.filter_append, List.filter_cons_of_pos hone, List.filter_nil, List.length_append,
      List.length_singleton]
    omega
  cases hs with
  | halted hc =>
    rw [hc] at hclient
    refine .inl (next rfl hclient ?_)
    rw [hc]
    exact Nat.lt_succ_self _
  | sealed hc =>
    rw [hc] at hclient
    have less : ClientState.remaining held.length (.stopping 0 a) <
        e.client.remaining held.length := by
      rw [hc]
      simp only [ClientState.remaining]
      omega
    obtain rfl := Option.some.inj hclient
    unfold shutCapture
    split
    · exact .inl (next rfl rfl less)
    · refine .inl (next ?_ rfl less)
      rw [List.map_map]
      rfl
  | @stopped i lane x hc hl =>
    rw [hc] at hclient
    obtain ⟨hi, -⟩ := List.getElem?_eq_some_iff.mp hl
    refine .inl (next rfl hclient ?_)
    rw [hc]
    simp only [ClientState.remaining]
    omega
  | @allStopped i x hc hl =>
    rw [hc] at hclient
    refine .inl (next rfl hclient ?_)
    rw [hc]
    simp only [ClientState.remaining]
    omega
  | @joined i lane x hc hl hq =>
    rw [hc] at hclient
    obtain ⟨hi, -⟩ := List.getElem?_eq_some_iff.mp hl
    refine .inl (next rfl hclient ?_)
    rw [hc]
    simp only [ClientState.remaining]
    omega
  | @allJoined i x hc hl =>
    rw [hc] at hclient
    refine .inl (next rfl hclient ?_)
    rw [hc]
    simp only [ClientState.remaining]
    omega
  | released hc =>
    rw [hc] at hclient
    obtain rfl := Option.some.inj hclient
    exact .inr ⟨rfl, hc, rfl⟩
  | opened hc | refused hc | unserved hc | bound hc _ | spawned hc _ | spawnRefused hc _
  | staffed hc _ | enrolled hc | heralded hc _ | scaled hc | sent hc _ _ | allSent hc _
  | dropCounted hc | dropReported hc _ | received hc _ _ _ _ | silenceCounted hc
  | silenceReported hc | latencyTold hc | transferred hc | rebased hc | located hc | drained hc =>
    rw [hc] at hclient
    contradiction

/-- No thread but the client's goes on with a teardown. -/
theorem other {x : Action} (h : e.Tearing a held later) (client : e'.client = e.client)
    (lanes : e'.lanes.map Lane.owner = e.lanes.map Lane.owner)
    (apart : Moment.isClient ⟨e, x⟩ = false) : e'.Tearing a held (later ++ [⟨e, x⟩]) where
  client := by rw [client, h.client]
  owners := lanes.trans h.owners
  bounded := by
    rw [List.filter_append, List.filter_cons_of_neg (by rw [apart]; simp), List.filter_nil,
      List.append_nil, client]
    exact h.bounded

/-- Every action goes on with the teardown, but the one that lets go of the lanes. -/
theorem step {x : Action} (h : e.Tearing a held later) (hs : e.step x = some e') :
    e'.Tearing a held (later ++ [⟨e, x⟩]) ∨
      x = .client .tick ∧ e.client = .releasing a ∧ e' = { e with lanes := [] }.answer a := by
  cases x with
  | call c =>
    obtain ⟨ha, -⟩ := step_call_eq_some hs
    obtain ⟨y, hc⟩ := answered_of_isSome ha
    have hclient := h.client
    rw [hc] at hclient
    contradiction
  | client input =>
    rcases h.act (clientStep_of_stepClient hs) with under | ⟨rfl, done⟩
    · exact .inl under
    · exact .inr ⟨rfl, done⟩
  | worker i input =>
    obtain ⟨lane, w, w', pipe, note, hl, hw, -, he⟩ := stepWorker_eq_leave hs
    obtain ⟨counters, journal, hleft⟩ :=
      { e with lanes := e.lanes.set i { lane with pipe, worker := some w' } }.leave_eq
        (e.workerName i) note
    rw [hleft] at he
    subst he
    refine .inl (h.other rfl (map_set_of_eq hl ?_) rfl)
    rw [Lane.owner, Lane.owner, hw]
    rfl
  | adjust level =>
    cases hs
    exact .inl (h.other rfl rfl rfl)

/-- A teardown keeps the devices of its lanes. -/
theorem devices {lanes : List Lane} (h : e.Tearing a (lanes.map Lane.owner) later) :
    e.lanes.map (·.device) = lanes.map (·.device) := by
  have hsame := congrArg (List.map (·.2.1)) h.owners
  rwa [List.map_map, List.map_map] at hsame

/-- A teardown keeps the owner of each of its lanes. -/
theorem lane {lanes : List Lane} (h : e.Tearing a (lanes.map Lane.owner) later) {i : Nat}
    {lane : Lane} (hl : lanes[i]? = some lane) :
    ∃ lane', e.lanes[i]? = some lane' ∧ lane'.owner = lane.owner := by
  have hsame := congrArg (·[i]?) h.owners
  rw [List.getElem?_map, List.getElem?_map, hl] at hsame
  exact Option.map_eq_some_iff.mp hsame

/-- A teardown has no lanes but those that it began with. -/
theorem origin {lanes : List Lane} (h : e.Tearing a (lanes.map Lane.owner) later) {i : Nat}
    {lane' : Lane} (hl : e.lanes[i]? = some lane') :
    ∃ lane, lanes[i]? = some lane ∧ lane.owner = lane'.owner := by
  have hsame := congrArg (·[i]?) h.owners
  rw [List.getElem?_map, List.getElem?_map, hl] at hsame
  exact Option.map_eq_some_iff.mp hsame.symm

/-- A teardown under way can go on, or it waits for a worker that can. -/
theorem goesOn (h : e.Tearing a held later) : e.GoesOn := by
  have hclient := h.client
  cases hc : e.client with
  | halting x | sealing x | stopping i x | releasing x =>
    left
    simp only [Engine.step, stepClient, hc, Option.isSome_some]
  | joining i x =>
    rw [hc] at hclient
    obtain rfl := Option.some.inj hclient
    cases hl : e.lanes[i]? with
    | none =>
      left
      simp only [Engine.step, stepClient, hc, hl, Option.isSome_some]
    | some lane =>
      cases hq : lane.isQuiet with
      | true =>
        left
        simp only [Engine.step, stepClient, hc, hl, hq, if_true, Option.isSome_some]
      | false =>
        right
        unfold Lane.isQuiet at hq
        cases hw : lane.worker with
        | none =>
          rw [hw] at hq
          contradiction
        | some w =>
          rw [hw] at hq
          refine ⟨i, _, lane, w, hc, hl, hw, hq, ?_⟩
          exact fun input fits => step_worker_isSome hl hw hq fits
  | _ =>
    rw [hc] at hclient
    contradiction

/-- A teardown under way has no answer yet, it goes on, and its own actions are few. -/
theorem under_way (h : e.Tearing a held later) : e.answer? = none ∧ e.GoesOn ∧
    (later.filter Moment.isClient).length ≤ 2 * held.length + 4 := by
  have hclient := h.client
  have hbounded := h.bounded
  have left : e.answer? = none ∧ 1 ≤ e.client.remaining held.length := by
    unfold answer?
    generalize e.client = client at hclient ⊢
    cases client with
    | halting x | sealing x | stopping i x | joining i x | releasing x =>
      refine ⟨rfl, ?_⟩
      simp only [ClientState.remaining]
      omega
    | _ => contradiction
  exact ⟨left.1, h.goesOn, by omega⟩

end Tearing

end Engine

/-- Gain requests leave no marks. -/
theorem marks_of_adjusts {h : List Moment} (adjusts : ∀ x ∈ h, ∃ level, x.action = .adjust level) :
    marks h = [] := by
  unfold marks
  rw [List.filterMap_eq_nil_iff]
  intro x hx
  obtain ⟨level, ha⟩ := adjusts x hx
  rw [Moment.mark?, ha]

/-- Letting go of the lanes leaves no mark, nor do gain requests after that. -/
theorem marks_release {e : Engine} {a : Answer} (h : List Moment) {after : List Moment}
    (hc : e.client = .releasing a) (adjusts : ∀ x ∈ after, ∃ level, x.action = .adjust level) :
    marks (h ++ ⟨e, .client .tick⟩ :: after) = marks h := by
  have hsilent : (Moment.mk e (.client .tick)).mark? = none := by
    simp only [Moment.mark?, Engine.clientMark?, hc]
  rw [List.append_cons, marks_append, marks_append, marks_singleton, hsilent,
    marks_of_adjusts adjusts]
  simp

namespace Run

variable {b : Blueprint} {h later : List Moment} {m : Moment} {e : Engine} {a : Answer}

/-- Between two calls an engine without lanes does nothing by itself: there are gain requests
from elsewhere at most. -/
theorem rests (run : Run b (h ++ m :: later) e)
    (first : ∀ e', m.engine.step m.action = some e' → e'.lanes = [] ∧ e'.client = .answered a)
    (alone : ∀ x ∈ later, x.isCall = false) :
    (∀ x ∈ later, ∃ level, x.action = .adjust level) ∧
      ∃ e', m.engine.step m.action = some e' ∧ e = { e' with level := e.level } := by
  obtain ⟨-, e₁, hs₁⟩ := run.before
  obtain ⟨hlanes₁, hclient₁⟩ := first e₁ hs₁
  have key : (∀ x ∈ later, ∃ level, x.action = .adjust level) ∧
      e = { e₁ with level := e.level } := by
    refine run.after (motive := fun past e => (∀ x ∈ past, ∃ level, x.action = .adjust level) ∧
      e = { e₁ with level := e.level }) ?_ ?_
    · intro e' hs
      obtain rfl := Option.some.inj (hs₁.symm.trans hs)
      exact ⟨by simp, rfl⟩
    · rintro past e₂ e₃ x hp - ⟨hpast, heq⟩ hs
      have hclient : e₂.client = .answered a := by rw [heq]; exact hclient₁
      have hlanes : e₂.lanes = [] := by rw [heq]; exact hlanes₁
      cases x with
      | call c =>
        have hcall := alone ⟨e₂, .call c⟩
          (hp.subset (List.mem_append_right _ (List.mem_singleton.mpr rfl)))
        contradiction
      | client input =>
        simp [Engine.step, Engine.stepClient, hclient] at hs
      | worker i input =>
        obtain ⟨lane, -, -, hl, -⟩ := Engine.stepWorker_eq_some hs
        rw [hlanes] at hl
        contradiction
      | adjust level =>
        cases hs
        refine ⟨?_, ?_⟩
        · intro y hy
          rcases List.mem_append.mp hy with hold | hnew
          · exact hpast y hold
          · obtain rfl := List.mem_singleton.mp hnew
            exact ⟨level, rfl⟩
        · rw [heq]
  exact ⟨key.1, e₁, hs₁, key.2⟩

/-- After a teardown began it is under way, or it has let go of the lanes. -/
theorem tearing (held : List (DeviceId × Nat × Bool)) (run : Run b (h ++ m :: later) e)
    (begins : ∀ e', m.engine.step m.action = some e' →
      e'.client = .halting a ∧ e'.lanes.map Lane.owner = held) :
    e.Tearing a held later ∨
      ∃ during eᵣ after, later = during ++ ⟨eᵣ, .client .tick⟩ :: after ∧
        eᵣ.Tearing a held during ∧ eᵣ.client = .releasing a := by
  refine run.after (motive := fun past e => e.Tearing a held past ∨ ∃ during eᵣ after,
    past = during ++ ⟨eᵣ, .client .tick⟩ :: after ∧ eᵣ.Tearing a held during ∧
      eᵣ.client = .releasing a) ?_ ?_
  · intro e' hs
    obtain ⟨hclient, howners⟩ := begins e' hs
    refine .inl ⟨by rw [hclient]; rfl, howners, ?_⟩
    rw [hclient, List.filter_nil, List.length_nil, Nat.zero_add]
    exact Nat.le_refl _
  · rintro past e₁ e₂ x - - (under | ⟨during, eᵣ, after, rfl, done⟩) hs
    · rcases under.step hs with next | ⟨rfl, hc, -⟩
      · exact .inl next
      · exact .inr ⟨past, e₁, [], rfl, under, hc⟩
    · exact .inr ⟨during, eᵣ, after ++ [⟨e₁, x⟩], by simp, done⟩

/-- A teardown gives its answer when it lets go of the lanes. -/
theorem step_releasing {eᵣ : Engine} (hc : eᵣ.client = .releasing a) :
    eᵣ.step (.client .tick) = some ({ eᵣ with lanes := [] }.answer a) := by
  simp only [Engine.step, Engine.stepClient, hc]

/-- After a teardown let go of the lanes, nothing happens by itself any more. -/
theorem rests_after_release {eᵣ : Engine} (run : Run b (h ++ ⟨eᵣ, .client .tick⟩ :: later) e)
    (hc : eᵣ.client = .releasing a) (alone : ∀ x ∈ later, x.isCall = false) :
    (∀ x ∈ later, ∃ level, x.action = .adjust level) ∧
      e = { eᵣ with lanes := [], client := .answered a, level := e.level } := by
  have hrelease := step_releasing hc
  obtain ⟨hadjusts, e', hs, heq⟩ := run.rests (a := a)
    (fun e' hs => by
      obtain rfl := Option.some.inj (hrelease.symm.trans hs)
      exact ⟨rfl, rfl⟩)
    alone
  obtain rfl := Option.some.inj (hrelease.symm.trans hs)
  exact ⟨hadjusts, heq⟩

/-- Without a start an engine that has no lanes binds none, and no worker moves. -/
theorem stays_off (run : Run b (h ++ m :: later) e)
    (first : ∀ e', m.engine.step m.action = some e' → e'.lanes = [] ∧ e'.Halted)
    (unstarted : ∀ x ∈ later, x.isStart = false) :
    e.lanes = [] ∧ e.Halted ∧ ∀ x ∈ later, ∀ i input, x.action ≠ .worker i input := by
  refine run.after (motive := fun past e => e.lanes = [] ∧ e.Halted ∧
    ∀ x ∈ past, ∀ i input, x.action ≠ .worker i input) ?_ ?_
  · intro e' hs
    obtain ⟨hlanes, halted⟩ := first e' hs
    exact ⟨hlanes, halted, by simp⟩
  · rintro past e₁ e₂ x hp run₁ ⟨hlanes, halted, hpast⟩ hs
    have hx := unstarted _ (hp.subset (List.mem_append_right _ (List.mem_singleton.mpr rfl)))
    obtain ⟨halted', hfade⟩ := halted.step run₁.sound hs hx
    refine ⟨?_, halted', ?_⟩
    · refine List.eq_nil_iff_forall_not_mem.mpr fun lane hmem => ?_
      obtain ⟨i, hi⟩ := List.mem_iff_getElem?.mp hmem
      obtain ⟨old, hold, -⟩ := hfade i lane hi
      rw [hlanes] at hold
      contradiction
    · intro y hy i input
      rcases List.mem_append.mp hy with hold | hnew
      · exact hpast y hold i input
      · obtain rfl := List.mem_singleton.mp hnew
        rintro rfl
        obtain ⟨lane, -, -, hl, -⟩ := Engine.stepWorker_eq_some hs
        rw [hlanes] at hl
        contradiction

/-- When a teardown is about to let go of the lanes, the opener was called for every candidate,
every device was stopped once, every worker was counted and is no more, and its life is told to
its end. -/
theorem at_release (run : Run b h e) (hc : e.client = .releasing a) :
    Mark.asks (marks (ofStart h)) = b.candidates ∧
      Mark.stops (marks (ofStart h)) = e.lanes.map (·.device) ∧
      (marks (ofStart h)).countP Mark.isEnrolled = e.lanes.countP (·.worker.isSome) ∧
      (∀ i lane, e.lanes[i]? = some lane → lane.isQuiet = true ∧
        (lane.worker = none ∧ life i (ofStart h) = (0, 0, []) ∨
          lane.worker.isSome = true ∧ Mark.Lived lane.id (life i (ofStart h)))) ∧
      ∀ i, e.lanes.length ≤ i → Mark.Settled i (marks (ofStart h)) := by
  have hst := run.sound.stage
  rw [hc] at hst
  obtain ⟨⟨n, hb⟩, -⟩ := hst
  have ledger := run.ledger
  have standing : e.standing = ⟨none, 0, true, e.lanes.length, e.lanes.length⟩ := by
    rw [Engine.standing, hc]
    rfl
  have hstops := ledger.stops hb.nonempty
  have henrolled := ledger.enrolled hb.nonempty
  rw [standing, List.take_of_length_le (Nat.le_of_eq (List.length_map _))] at hstops
  rw [standing] at henrolled
  refine ⟨(ledger.asks hb.nonempty).trans run.candidates_eq, hstops, henrolled, ?_, ledger.settled⟩
  intro i lane hl
  have career := ledger.careers i lane hl
  rw [standing] at career
  have quiet := career.joined (List.getElem?_eq_some_iff.mp hl).1
  rw [life_eq]
  exact ⟨quiet, career.told quiet (by simp)⟩

end Run

end AudioRelay
