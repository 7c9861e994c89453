import AudioRelay.Proofs.Stock
import AudioRelay.Proofs.TransferStep

/-!
# The course of a transfer

From its call on, what a transfer carries and how far it has come follow from the lanes that it
met, the level that it read and the latencies that it was told, whatever the workers do in between.
So does what it leaves behind when it is answered.
-/

namespace AudioRelay

namespace Engine

variable {e e' : Engine}

/-- What is still to be told depends on the client and the owners of the lanes alone. -/
theorem pendingLoss_congr (client : e'.client = e.client)
    (owners : e'.lanes.map Lane.owner = e.lanes.map Lane.owner) :
    e'.pendingLoss = e.pendingLoss := by
  have hlane (i missing : Nat) :
      (e'.lanes[i]?.toList.map fun lane => (clientName, Event.framesDropped lane.id missing)) =
        e.lanes[i]?.toList.map fun lane => (clientName, Event.framesDropped lane.id missing) := by
    have hsame := congrArg (·[i]?) owners
    simp only [List.getElem?_map] at hsame
    cases hl : e.lanes[i]? with
    | none =>
      rw [hl, Option.map_none, Option.map_eq_none_iff] at hsame
      rw [hsame]
    | some lane =>
      rw [hl] at hsame
      obtain ⟨lane', hl', howner⟩ := Option.map_eq_some_iff.mp hsame
      have hid : lane'.id = lane.id := congrArg (·.1) howner
      rw [hl', Option.toList_some, Option.toList_some, List.map_singleton, List.map_singleton, hid]
  unfold pendingLoss
  rw [client]
  split
  · exact hlane _ _
  · exact hlane _ _
  · rfl
  · rfl
  · rfl

/-- How a transfer of the first `frames` frames of a buffer stands, given the lanes that it began
with and what came after its call. -/
structure Course (c : StreamContext) (lanes : List Lane) (buffer : List UInt8) (frames : Nat)
    (later : List Moment) (e : Engine) : Prop where
  bears : e.client.Bears (Passage.after c buffer frames later)
  owners : e.lanes.map Lane.owner = lanes.map Lane.owner
  met : (meetings later).map Lane.owner =
    (lanes.map Lane.owner).take (e.client.met lanes.length)
  heard : (latencies later).map (·.1) =
    (lanes.map (·.device)).take (e.client.heard lanes.length)
  scaled : (gains later).length = e.client.scaled c.direction
  told : lossesTold later ++ e.pendingLoss =
    (lossesMet c.direction frames later).map fun event => (clientName, event)
  counted : ∃ failures, tally later + e.client.uncounted =
    Counters.ofEvents (lossesMet c.direction frames later) +
      Counters.ofTransfers e.answer?.isSome.toNat + Counters.ofFailures failures
  bounded : later.countP Moment.isClient + e.client.ahead lanes.length ≤ 4 * lanes.length + 3

namespace Course

variable {c : StreamContext} {lanes : List Lane} {buffer : List UInt8} {frames : Nat}
  {later : List Moment}

theorem length_lanes (h : Course c lanes buffer frames later e) :
    e.lanes.length = lanes.length := by
  have hlength := congrArg List.length h.owners
  rwa [List.length_map, List.length_map] at hlength

theorem devices (h : Course c lanes buffer frames later e) :
    e.lanes.map (·.device) = lanes.map (·.device) := by
  have hsame := congrArg (List.map (·.2.1)) h.owners
  rwa [List.map_map, List.map_map] at hsame

/-- An action of the client goes on with its transfer. -/
theorem act {input : ClientInput} (h : Course c lanes buffer frames later e)
    (hcontext : e.context = c)
    (hs : e.TransferStep (Passage.after c buffer frames later) input e') :
    Course c lanes buffer frames (later ++ [⟨e, .client input⟩]) e' := by
  subst hcontext
  have hlength := h.length_lanes
  constructor
  case bears =>
    rw [Passage.after_snoc]
    exact hs.bears
  case owners => exact hs.owners.trans h.owners
  case met =>
    have hnext := congrArg (List.map Lane.owner) hs.met
    rw [List.map_append, List.map_take, List.map_take, h.owners, hlength] at hnext
    rw [meetings_snoc, List.map_append, h.met, hnext]
  case heard =>
    have hnext := hs.heard_eq
    rw [h.devices, hlength] at hnext
    rw [latencies_snoc, List.map_append, h.heard, hnext]
  case scaled => rw [gains_snoc, List.length_append, h.scaled, hs.scaled_eq]
  case told =>
    rw [lossesTold_append, lossesMet_append, List.append_assoc, hs.told_eq, ← List.append_assoc,
      h.told, List.map_append]
    rfl
  case counted =>
    -- What is lost at this moment is not counted yet, and what was lost before it may be now.
    obtain ⟨failures, hcounted⟩ := h.counted
    have htally : tally [⟨e, .client input⟩] = Moment.counts ⟨e, .client input⟩ :=
      Counters.add_zero _
    have hnone : Counters.ofTransfers e.answer?.isSome.toNat = Counters.zero := by
      rw [hs.busy]
      rfl
    rw [hnone, Counters.add_zero] at hcounted
    refine ⟨failures, ?_⟩
    rw [lossesMet_append, Counters.ofEvents_append]
    calc tally (later ++ [⟨e, .client input⟩]) + e'.client.uncounted
        = tally later + (Moment.counts ⟨e, .client input⟩ + e'.client.uncounted) := by
          rw [tally_append, htally, Counters.add_assoc]
      _ = (tally later + e.client.uncounted) +
            (Counters.ofEvents (lossesMet e.context.direction frames [⟨e, .client input⟩]) +
              Counters.ofTransfers e'.answer?.isSome.toNat) := by
          rw [hs.counted_eq]
          ac_rfl
      _ = _ := by
          rw [hcounted]
          ac_rfl
  case bounded =>
    have hnearer := hs.nearer
    have hbounded := h.bounded
    have hone : List.countP Moment.isClient [⟨e, .client input⟩] = 1 := rfl
    rw [hlength] at hnearer
    rw [List.countP_append]
    omega

/-- Actions of other threads leave a transfer where it is. -/
theorem other {x : Action} (h : Course c lanes buffer frames later e)
    (client : e'.client = e.client) (owners : e'.lanes.map Lane.owner = e.lanes.map Lane.owner)
    (apart : Moment.isClient ⟨e, x⟩ = false) (met : Moment.met? ⟨e, x⟩ = none)
    (gain : Moment.gain? ⟨e, x⟩ = none) (latency : Moment.latency? ⟨e, x⟩ = none)
    (told : lossesTold [⟨e, x⟩] = [])
    (counts : ∃ n, Moment.counts ⟨e, x⟩ = Counters.ofFailures n) :
    Course c lanes buffer frames (later ++ [⟨e, x⟩]) e' := by
  have hmeetings : meetings (later ++ [⟨e, x⟩]) = meetings later := by
    rw [meetings_snoc, met, Option.toList_none, List.append_nil]
  have hlosses : lossesMet c.direction frames (later ++ [⟨e, x⟩]) =
      lossesMet c.direction frames later := by rw [lossesMet, hmeetings, lossesMet]
  have hgains : gains (later ++ [⟨e, x⟩]) = gains later := by
    rw [gains_snoc, gain, Option.toList_none, List.append_nil]
  have hlatencies : latencies (later ++ [⟨e, x⟩]) = latencies later := by
    rw [latencies_snoc, latency, Option.toList_none, List.append_nil]
  constructor
  case bears =>
    rw [client, Passage.after, hgains, hmeetings, hlatencies]
    exact h.bears
  case owners => exact owners.trans h.owners
  case met => rw [hmeetings, client, h.met]
  case heard => rw [hlatencies, client, h.heard]
  case scaled => rw [hgains, client, h.scaled]
  case told =>
    rw [lossesTold_append, told, List.append_nil, pendingLoss_congr client owners, hlosses, h.told]
  case counted =>
    obtain ⟨failures, hcounted⟩ := h.counted
    obtain ⟨n, hn⟩ := counts
    have htally : tally [⟨e, x⟩] = Counters.ofFailures n :=
      (Counters.add_zero _).trans hn
    have hanswer : e'.answer? = e.answer? := by rw [answer?, answer?, client]
    refine ⟨failures + n, ?_⟩
    calc tally (later ++ [⟨e, x⟩]) + e'.client.uncounted
        = (tally later + e.client.uncounted) + Counters.ofFailures n := by
          rw [tally_append, htally, client]
          ac_rfl
      _ = _ := by
          rw [hcounted, hlosses, hanswer, Counters.ofFailures_add]
          ac_rfl
  case bounded =>
    rw [List.countP_append, client]
    simpa [apart] using h.bounded

/-- Workers tell the listener of failures and of their ends only. -/
theorem lossesTold_worker (e : Engine) (i : Nat) (input : WorkerInput) :
    lossesTold [⟨e, .worker i input⟩] = [] := by
  rw [lossesTold_singleton, List.filter_eq_nil_iff]
  intro entry hentry
  obtain ⟨t, ht, rfl⟩ := List.mem_map.mp hentry
  rw [Option.mem_toList] at ht
  unfold Moment.telling? at ht
  split at ht
  · contradiction
  · obtain ⟨lane, -, hlane⟩ := Option.bind_eq_some_iff.mp ht
    obtain ⟨event, hevent, rfl⟩ := Option.map_eq_some_iff.mp hlane
    obtain ⟨w, -, hw⟩ := Option.bind_eq_some_iff.mp hevent
    cases w with
    | reporting | leaving =>
      cases hw
      simp [Telling.entry, Event.isLoss]
    | _ => contradiction
  · contradiction

/-- Workers count failures only. -/
theorem counts_worker (e : Engine) (i : Nat) (input : WorkerInput) :
    ∃ n, Moment.counts ⟨e, .worker i input⟩ = Counters.ofFailures n := by
  unfold Moment.counts
  split
  · contradiction
  · split
    · exact ⟨1, rfl⟩
    · exact ⟨0, rfl⟩
  · exact ⟨0, rfl⟩

/-- A worker's action leaves a transfer where it is. -/
theorem worker {i : Nat} {input : WorkerInput} (h : Course c lanes buffer frames later e)
    (hs : e.stepWorker i input = some e') :
    Course c lanes buffer frames (later ++ [⟨e, .worker i input⟩]) e' := by
  obtain ⟨lane, w, w', pipe, note, hl, hw, hm, he⟩ := stepWorker_eq_leave hs
  obtain ⟨counters, journal, hleft⟩ :=
    { e with lanes := e.lanes.set i { lane with pipe, worker := some w' } }.leave_eq
      (e.workerName i) note
  rw [hleft] at he
  subst he
  refine h.other rfl (map_set_of_eq hl ?_) rfl rfl rfl rfl (lossesTold_worker e i input)
    (counts_worker e i input)
  rw [Lane.owner, Lane.owner, hw]
  rfl

/-- A transfer begins with what its call gave. -/
theorem begin {e₀ : Engine} (active : e₀.isIdle = false)
    (enough : frames * e₀.context.frameSize ≤ buffer.length) :
    Course e₀.context e₀.lanes buffer frames [] (e₀.begin (.transfer buffer frames)) := by
  cases hd : e₀.context.direction with
  | input =>
    have hbegin : e₀.begin (.transfer buffer frames) =
        { e₀ with client := .receiving (Passage.after e₀.context buffer frames []) } := by
      simp [Engine.begin, beginTransfer, Nat.not_lt.mpr enough, active, Passage.after,
        meetings, latencies, greatest, hd]
    rw [hbegin]
    refine ⟨rfl, rfl, rfl, rfl, ?_, rfl, ⟨0, rfl⟩, ?_⟩
    · rw [hd]
      rfl
    · simp [ClientState.ahead]
  | output =>
    have hbegin : e₀.begin (.transfer buffer frames) =
        { e₀ with client := .scaling (Passage.after e₀.context buffer frames []) } := by
      simp [Engine.begin, beginTransfer, Nat.not_lt.mpr enough, active, Passage.after,
        gains, latencies, greatest, hd]
    rw [hbegin]
    refine ⟨rfl, rfl, rfl, rfl, rfl, rfl, ⟨0, rfl⟩, ?_⟩
    simp [ClientState.ahead, ClientState.distance]

/-- An answered transfer has met every lane once, in order. -/
theorem met_all (h : Course c lanes buffer frames later e) (answered : e.answer?.isSome = true) :
    (meetings later).map Lane.owner = lanes.map Lane.owner := by
  obtain ⟨a, hc⟩ := answered_of_isSome answered
  have hall : e.client.met lanes.length = lanes.length := by
    rw [hc]
    rfl
  rw [h.met, hall, List.take_of_length_le (Nat.le_of_eq (List.length_map _))]

/-- An answered transfer has asked every device once, in order. -/
theorem heard_all (h : Course c lanes buffer frames later e)
    (answered : e.answer?.isSome = true) :
    (latencies later).map (·.1) = lanes.map (·.device) := by
  obtain ⟨a, hc⟩ := answered_of_isSome answered
  have hall : e.client.heard lanes.length = lanes.length := by
    rw [hc]
    rfl
  rw [h.heard, hall, List.take_of_length_le (Nat.le_of_eq (List.length_map _))]

/-- An answered transfer has told of all that it lost. -/
theorem told_all (h : Course c lanes buffer frames later e) (answered : e.answer?.isSome = true) :
    lossesTold later =
      (lossesMet c.direction frames later).map fun event => (clientName, event) := by
  obtain ⟨a, hc⟩ := answered_of_isSome answered
  have hnone : e.pendingLoss = [] := by rw [pendingLoss, hc]
  rw [← h.told, hnone, List.append_nil]

/-- An answered transfer has counted all that it lost, and itself. -/
theorem counted_all (h : Course c lanes buffer frames later e)
    (answered : e.answer?.isSome = true) :
    ∃ failures, tally later = Counters.ofEvents (lossesMet c.direction frames later) +
      Counters.ofTransfers 1 + Counters.ofFailures failures := by
  obtain ⟨a, hc⟩ := answered_of_isSome answered
  have hnone : e.client.uncounted = Counters.zero := by
    rw [hc]
    rfl
  obtain ⟨failures, hcounted⟩ := h.counted
  rw [hnone, Counters.add_zero, answered] at hcounted
  exact ⟨failures, hcounted⟩

/-- What an answered transfer gives back. -/
theorem answer (h : Course c lanes buffer frames later e) (answered : e.answer?.isSome = true) :
    e.client = .answered (.moved
      ((Passage.after c buffer frames later).moved ++ buffer.drop (frames * c.frameSize)) frames
      (min (greatest ((latencies later).map (·.2))) maxLatency)) := by
  obtain ⟨a, hc⟩ := answered_of_isSome answered
  have bears := h.bears
  rw [hc] at bears ⊢
  exact congrArg _ bears

end Course

end Engine

namespace Moment

/-- What a moment does to the lanes: nothing, or it changes the lane at `i`, which a transfer
meets. -/
def Alters (m : Moment) (i : Nat) (change : Lane → Lane) : Prop :=
  ∃ e', m.engine.step m.action = some e' ∧
    match m.met? with
    | none => e'.lanes = m.engine.lanes
    | some lane => m.engine.lanes[i]? = some lane ∧ e'.lanes = m.engine.lanes.set i (change lane)

/-- A lane that is met is one of the stream. -/
theorem mem_of_met? {m : Moment} {lane : Lane} (hm : m.met? = some lane) :
    lane ∈ m.engine.lanes := by
  unfold met? at hm
  split at hm
  · exact List.mem_of_getElem? hm
  · exact List.mem_of_getElem? hm
  · contradiction

/-- Only what becomes of the lane that is met counts, and where it is. -/
theorem Alters.congr {m : Moment} {i i' : Nat} {change change' : Lane → Lane}
    (h : m.Alters i change)
    (same : ∀ lane, m.met? = some lane → i = i' ∧ change lane = change' lane) :
    m.Alters i' change' := by
  obtain ⟨e', hs, hlanes⟩ := h
  refine ⟨e', hs, ?_⟩
  cases hm : m.met? with
  | none =>
    rw [hm] at hlanes
    exact hlanes
  | some lane =>
    rw [hm] at hlanes
    obtain ⟨rfl, hchange⟩ := same lane hm
    exact ⟨hlanes.1, hchange ▸ hlanes.2⟩

end Moment

namespace Run

variable {b : Blueprint} {h later : List Moment} {e₀ e : Engine} {buffer : List UInt8}
  {frames : Nat}

/-- The pipe of a lane that is met holds whole frames. -/
theorem sized_of_met {m₀ : Moment} (run : Run b (h ++ m₀ :: later) e) {lane : Lane}
    (hlane : lane ∈ meetings later) :
    lane.pipe.Sized b.context.frames b.context.frameSize := by
  obtain ⟨m, hm, hmet⟩ := List.mem_filterMap.mp hlane
  obtain ⟨past, rest, rfl⟩ := List.append_of_mem hm
  exact run.midway.1.sized (Moment.mem_of_met? hmet)

/-- A stream in a call that needs its devices is ready for a transfer. -/
theorem ready (run : Run b h e) (streaming : e.client.stage = .streaming) : e.Ready := by
  have hst := run.sound.stage
  rw [streaming] at hst
  obtain ⟨hb, running⟩ := hst
  constructor
  case single => exact fun input => run.sound.length_lanes_of_input input hb.nonempty
  case frameSize => exact run.sound.frameSize_pos
  case unshut =>
    intro lane hmem
    obtain ⟨i, hl⟩ := List.mem_iff_getElem?.mp hmem
    exact (run.ledger.careers i lane hl).unshut running
  case sized =>
    intro lane hmem
    exact (hb.pipes lane hmem).2.trans run.sound.plan_eq.2

/-- Every action of the client in a transfer of a run follows one of the rules. -/
theorem transferStep (run : Run b h e) {p : Passage} {input : ClientInput} {e' : Engine}
    (bears : e.client.Bears p) (hs : e.step (.client input) = some e') :
    e.TransferStep p input e' := by
  have streaming : e.client.stage = .streaming := by
    cases hc : e.client with
    | answered a => simp [Engine.step, Engine.stepClient, hc] at hs
    | scaling | sending | countingDrop | reportingDrop | receiving | countingSilence
    | reportingSilence | askingLatency | countingTransfer => rfl
    | _ =>
      rw [hc] at bears
      exact bears.elim
  have carries := run.carries
  rw [← run.blueprint.1] at carries
  exact Engine.transferStep bears run.fits carries (run.ready streaming)
    (Engine.clientStep_of_stepClient hs)

/-- Until the next call a transfer takes its course. -/
theorem course (run : Run b (h ++ ⟨e₀, .call (.transfer buffer frames)⟩ :: later) e)
    (active : e₀.isIdle = false) (enough : frames * b.context.frameSize ≤ buffer.length)
    (alone : ∀ m ∈ later, m.isCall = false) :
    e.Course b.context e₀.lanes buffer frames later := by
  have hcontext := run.before.1.blueprint.1
  refine run.after (motive := fun past e => e.Course b.context e₀.lanes buffer frames past) ?_ ?_
  · intro e' hs
    obtain ⟨-, rfl⟩ := Engine.step_call_eq_some hs
    rw [← hcontext] at enough ⊢
    exact Engine.Course.begin active enough
  · intro past e e' a hp run₁ course hs
    cases a with
    | call c =>
      have hcall := alone _ (hp.subset (List.mem_append_right _ (List.mem_singleton.mpr rfl)))
      contradiction
    | client input =>
      exact course.act run₁.blueprint.1 (run₁.transferStep course.bears hs)
    | worker i input => exact course.worker hs
    | adjust level =>
      cases hs
      exact course.other rfl rfl rfl rfl rfl rfl rfl ⟨0, rfl⟩

/-- A transfer that is not answered goes on. -/
theorem goes_on (run : Run b h e) {p : Passage} (bears : e.client.Bears p)
    (busy : e.answer?.isSome = false) : ∃ input e', e.step (.client input) = some e' := by
  cases hc : e.client with
  | receiving q =>
    have fits := run.fits
    rw [hc] at fits
    have ready : e.Ready := run.ready (by rw [hc]; rfl)
    obtain ⟨lane, hlane⟩ := List.length_eq_one_iff.mp (ready.single fits)
    refine ⟨.tick, ?_⟩
    simp only [Engine.step, Engine.stepClient, Engine.receive, hc, hlane]
    exact ⟨_, rfl⟩
  | countingSilence missing q | reportingSilence missing q =>
    refine ⟨.tick, ?_⟩
    simp only [Engine.step, Engine.stepClient, hc]
    exact ⟨_, rfl⟩
  | scaling q | sending i q | countingDrop i missing q | reportingDrop i missing q
  | askingLatency i q | countingTransfer q =>
    have moves : e.client.frames? = some q.frames := by
      rw [hc]
      rfl
    refine Engine.can_move run.fits moves ?_
    rw [Engine.answer?, hc]
  | answered a =>
    rw [Engine.answer?, hc] at busy
    contradiction
  | _ =>
    rw [hc] at bears
    exact bears.elim

section

variable (run : Run b (h ++ ⟨e₀, .call (.transfer buffer frames)⟩ :: later) e)
  (course : e.Course b.context e₀.lanes buffer frames later)

include run course

/-- A transfer is answered, or it goes on and has few actions left. -/
theorem answered_or_goes_on : e.answer?.isSome = true ∨
    (∃ input e', e.step (.client input) = some e') ∧
      later.countP Moment.isClient < 4 * e₀.lanes.length + 3 := by
  cases busy : e.answer?.isSome with
  | true => exact .inl rfl
  | false =>
    obtain ⟨input, e', hs⟩ := run.goes_on course.bears busy
    have hnearer := (run.transferStep course.bears hs).nearer
    have hbounded := course.bounded
    rw [course.length_lanes] at hnearer
    exact .inr ⟨⟨input, e', hs⟩, by omega⟩

/-- What the counters gained when a transfer is answered: the transfer, the frames that it lost,
and no started worker. -/
theorem counters_of_answered (answered : e.answer?.isSome = true) :
    e.counters.transfers = e₀.counters.transfers + 1 ∧
      e.counters.dropped = e₀.counters.dropped +
        UInt64.ofNat (lostFrames .output (lossesMet b.context.direction frames later)) ∧
      e.counters.silence = e₀.counters.silence +
        UInt64.ofNat (lostFrames .input (lossesMet b.context.direction frames later)) := by
  obtain ⟨failures, htally⟩ := course.counted_all answered
  have hcounters := run.counters_since
  rw [htally, Counters.ofEvents_eq] at hcounters
  rw [hcounters]
  simp [Counters.add_def, Counters.ofTransfers, Counters.ofFailures, Counters.zero]

/-- What the journal gained when a transfer is answered: of losses, those of the transfer. -/
theorem journal_of_answered (answered : e.answer?.isSome = true) :
    ∃ told : List (String × Event), e.journal = told.reverse ++ e₀.journal ∧
      told.filter (fun entry => entry.2.isLoss) =
        if b.isListening then (lossesMet b.context.direction frames later).map
          fun event => (Engine.clientName, event) else [] := by
  have hjournal := run.journal_since
  cases hlistening : b.isListening with
  | false =>
    rw [hlistening] at hjournal
    exact ⟨[], hjournal, rfl⟩
  | true =>
    rw [hlistening] at hjournal
    exact ⟨_, hjournal, course.told_all answered⟩

end

/-- In the course of a transfer the client alters no lane but the next one, and does to it what
the transfer does. -/
theorem alters {past rest : List Moment} {m : Moment}
    (run : Run b (h ++ ⟨e₀, .call (.transfer buffer frames)⟩ :: (past ++ m :: rest)) e)
    (course : m.engine.Course b.context e₀.lanes buffer frames past) (client : m.isClient = true) :
    m.Alters (meetings past).length (Lane.exchange b.context.direction frames
      (Passage.after b.context buffer frames past).moved) := by
  obtain ⟨run', e', hs⟩ := run.midway
  refine ⟨e', hs, ?_⟩
  obtain ⟨e₁, a⟩ := m
  cases a with
  | client input =>
    have step := run'.transferStep course.bears hs
    have hlanes := step.lanes
    rw [run'.blueprint.1] at hlanes
    cases hm : Moment.met? ⟨e₁, .client input⟩ with
    | none =>
      rw [hm] at hlanes
      exact hlanes
    | some lane =>
      have hnext := step.met_next hm
      have hcount : (meetings past).length = e₁.client.met e₁.lanes.length := by
        have hlength := congrArg List.length course.met
        obtain ⟨hlt, -⟩ := List.getElem?_eq_some_iff.mp hnext
        rw [List.length_map, List.length_take, List.length_map, ← course.length_lanes] at hlength
        dsimp only at hlength hlt
        omega
      rw [hm] at hlanes
      exact ⟨hcount ▸ hnext, hcount ▸ hlanes⟩
  | call | worker | adjust => contradiction

end Run

end AudioRelay
