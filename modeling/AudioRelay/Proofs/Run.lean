import AudioRelay.Engine.Step

/-!
# Runs of an engine

A run takes an engine that was just built through atomic actions, in any order that its
threads allow. Its history keeps every action with the engine that took it, so whatever an
onlooker may ask about the past is read off the history.
-/

namespace AudioRelay

/-- An action together with the engine that takes it. -/
structure Moment where
  engine : Engine
  action : Action

/-- What came after the last element of a kind, or everything if there is none. -/
def since {α : Type} (kind : α → Bool) (l : List α) : List α :=
  (l.reverse.takeWhile fun x => !kind x).reverse

theorem since_snoc {α : Type} (kind : α → Bool) (l : List α) (x : α) :
    since kind (l ++ [x]) = if kind x then [] else since kind l ++ [x] := by
  unfold since
  cases h : kind x <;> simp [h]

/-- Engines that a blueprint leads to, each with the history that led there. -/
inductive Run (b : Blueprint) : List Moment → Engine → Prop
  | built {e : Engine} : Engine.build b = .ok e → Run b [] e
  | snoc {h : List Moment} {e e' : Engine} {a : Action} :
      Run b h e → e.step a = some e' → Run b (h ++ [⟨e, a⟩]) e'

namespace Engine

/-- The engine after some actions and the moments passed, if every action can be taken. -/
def follow (e : Engine) : List Action → Option (List Moment × Engine)
  | [] => some ([], e)
  | a :: rest =>
    match e.step a with
    | none => none
    | some e' => (e'.follow rest).map fun (h, last) => (⟨e, a⟩ :: h, last)

end Engine

/-- The history and the engine after some actions, if all of them can be taken. -/
def Blueprint.follow (b : Blueprint) (actions : List Action) : Option (List Moment × Engine) :=
  match Engine.build b with
  | .error _ => none
  | .ok e => e.follow actions

/-- Actions that can be taken after a run prolong it. -/
theorem Run.follow {b : Blueprint} {h h' : List Moment} {e last : Engine} {actions : List Action}
    (run : Run b h e) (hf : e.follow actions = some (h', last)) : Run b (h ++ h') last := by
  induction actions generalizing h h' e with
  | nil =>
    obtain ⟨rfl, rfl⟩ := Prod.mk.inj (Option.some.inj hf)
    rwa [List.append_nil]
  | cons a rest ih =>
    unfold Engine.follow at hf
    cases hs : e.step a with
    | none => simp only [hs, reduceCtorEq] at hf
    | some e' =>
      simp only [hs, Option.map_eq_some_iff] at hf
      obtain ⟨⟨t, l⟩, ht, heq⟩ := hf
      obtain ⟨rfl, rfl⟩ := Prod.mk.inj heq
      rw [List.append_cons]
      exact ih (run.snoc hs) ht

/-- Actions that can all be taken make a run. -/
theorem Run.of_follow {b : Blueprint} {h : List Moment} {e : Engine} {actions : List Action}
    (hf : b.follow actions = some (h, e)) : Run b h e := by
  unfold Blueprint.follow at hf
  split at hf
  · contradiction
  · rename_i built
    exact (Run.built built).follow hf

/-- What a history begins with is a run up to the engine of the next moment, whose action that
engine could take. -/
theorem Run.before {b : Blueprint} {h h' : List Moment} {m : Moment} {e : Engine}
    (run : Run b (h ++ m :: h') e) :
    Run b h m.engine ∧ ∃ e', m.engine.step m.action = some e' := by
  obtain ⟨l, hl⟩ : ∃ l, l = h ++ m :: h' := ⟨_, rfl⟩
  rw [← hl] at run
  induction run generalizing h' with
  | built _ => simp at hl
  | @snoc l e e' a run hs ih =>
    rcases List.eq_nil_or_concat h' with rfl | ⟨rest, last, rfl⟩
    · obtain ⟨rfl, hm⟩ := List.append_inj' hl rfl
      obtain rfl := (List.cons.inj hm).1
      exact ⟨run, e', hs⟩
    · rw [List.concat_eq_append, ← List.cons_append, ← List.append_assoc] at hl
      exact ih (List.append_inj' hl rfl).1

/-- The same of a moment that comes after one that is kept in view. -/
theorem Run.midway {b : Blueprint} {h past rest : List Moment} {m₀ m : Moment} {e : Engine}
    (run : Run b (h ++ m₀ :: (past ++ m :: rest)) e) :
    Run b (h ++ m₀ :: past) m.engine ∧ ∃ e', m.engine.step m.action = some e' := by
  rw [← List.cons_append, ← List.append_assoc] at run
  exact run.before

namespace Engine

/-- A blueprint with a usable context makes an engine that is off. -/
theorem build_eq_ok {b : Blueprint} {e : Engine} (h : build b = .ok e) :
    ∃ pcm, PcmConfig.ofContext? b.context = some pcm ∧
      e = ⟨b.context, pcm, b.profiles, b.config, b.isListening, Gain.adjust Single.one b.gain,
        false, Counters.zero, [], .answered .done, []⟩ := by
  unfold build at h
  split at h
  · contradiction
  · rename_i pcm hpcm
    exact ⟨pcm, hpcm, (Except.ok.inj h).symm⟩

/-- A client that has its answer is between calls. -/
theorem answered_of_isSome {e : Engine} (h : e.answer?.isSome = true) :
    ∃ a, e.client = .answered a := by
  unfold answer? at h
  split at h
  · rename_i a hc
    exact ⟨a, hc⟩
  · contradiction

/-- The journal once the listener, if there is one, was told of an event. -/
def told (e : Engine) (thread : String) (event : Event) : List (String × Event) :=
  if e.isListening then (thread, event) :: e.journal else e.journal

/-- Telling the listener adds to the journal and changes nothing else. -/
theorem tell_eq (e : Engine) (thread : String) (event : Event) :
    e.tell thread event = { e with journal := e.told thread event } := by
  unfold tell told
  split <;> rfl

/-- A note of a worker goes to the counters or to the journal. -/
theorem leave_eq (e : Engine) (thread : String) (note : Option Note) :
    ∃ counters journal, e.leave thread note = { e with counters, journal } := by
  match note with
  | none => exact ⟨e.counters, e.journal, rfl⟩
  | some .deviceErrorCounted => exact ⟨_, e.journal, rfl⟩
  | some (.told event) =>
    exact ⟨e.counters, _, e.tell_eq thread event⟩

/-- A worker's action changes its own lane and leaves a note. -/
theorem stepWorker_eq_some {e e' : Engine} {i : Nat} {input : WorkerInput}
    (h : e.stepWorker i input = some e') :
    ∃ lane lane' note, e.lanes[i]? = some lane ∧
      lane.step e.plan e.isRunning input = some (lane', note) ∧
      ∃ counters journal, e' = { e with lanes := e.lanes.set i lane', counters, journal } := by
  unfold stepWorker at h
  split at h
  · contradiction
  · rename_i lane hl
    obtain ⟨⟨lane', note⟩, hs, rfl⟩ := Option.map_eq_some_iff.mp h
    obtain ⟨counters, journal, he⟩ :=
      { e with lanes := e.lanes.set i lane' }.leave_eq (e.workerName i) note
    exact ⟨lane, lane', note, hl, hs, counters, journal, he⟩

/-- A call begins once the last one is answered. -/
theorem step_call_eq_some {e e' : Engine} {c : Call} (h : e.step (.call c) = some e') :
    e.answer?.isSome = true ∧ e' = e.begin c := by
  simp only [step] at h
  split at h
  · rename_i ha
    exact ⟨ha, (Option.some.inj h).symm⟩
  · contradiction

/-- The actions of the client thread as rules, each with the state that it starts from. -/
inductive ClientStep (e : Engine) : ClientInput → Engine → Prop
  | opened {p : DeviceProfile} {rest : List DeviceProfile} {opened : List (DeviceId × Nat)}
      {device : Nat} : e.client = .opening (p :: rest) opened →
      ClientStep e (.opened (.ok device))
        { e with client := .opening rest (opened ++ [(p.id, device)]) }
  | refused {p : DeviceProfile} {rest : List DeviceProfile} {opened : List (DeviceId × Nat)}
      {fault : DeviceError} : e.client = .opening (p :: rest) opened →
      ClientStep e (.opened (.error fault))
        (e.answer (.failed (.notInitialized s!"device '{p.id}': {fault.message}")))
  | unserved : e.client = .opening [] [] →
      ClientStep e .tick (e.answer
        (.failed (.notInitialized s!"no {e.context.direction.label} device available")))
  | bound {opened : List (DeviceId × Nat)} : e.client = .opening [] opened → opened ≠ [] →
      ClientStep e .tick { e with
        lanes := opened.map fun (id, device) => Lane.fresh e.plan id device
        isRunning := true
        client := .spawning 0 }
  | spawned {i : Nat} {lane : Lane} : e.client = .spawning i → e.lanes[i]? = some lane →
      ClientStep e (.spawned (.ok ())) { e with
        lanes := e.lanes.set i { lane with worker := some .looping }
        client := .enrolling i }
  | spawnRefused {i : Nat} {lane : Lane} {text : String} :
      e.client = .spawning i → e.lanes[i]? = some lane →
      ClientStep e (.spawned (.error text)) (e.tearDown (.failed (.workerSpawn lane.id text)))
  | staffed {i : Nat} : e.client = .spawning i → e.lanes.length ≤ i →
      ClientStep e .tick (e.answer .done)
  | enrolled {i : Nat} : e.client = .enrolling i →
      ClientStep e .tick { e with
        counters := { e.counters with workersStarted := e.counters.workersStarted + 1 }
        client := .heralding i }
  | heralded {i : Nat} {lane : Lane} : e.client = .heralding i → e.lanes[i]? = some lane →
      ClientStep e .tick { e with
        client := .spawning (i + 1)
        journal := e.told clientName (.workerStarted lane.id) }
  | scaled {p : Passage} : e.client = .scaling p →
      ClientStep e .tick { e with
        client := .sending 0
          { p with moved := Gain.apply e.context.format e.context.channels e.level p.moved } }
  | sent {i : Nat} {p : Passage} {lane : Lane} {frames : Nat} {pipe : Pipe} :
      e.client = .sending i p → e.lanes[i]? = some lane →
      lane.pipe.write p.moved = (frames, pipe) →
      ClientStep e .tick { e with
        lanes := e.lanes.set i { lane with pipe }
        client :=
          if frames < p.frames then .countingDrop i (p.frames - frames) p else .askingLatency i p }
  | allSent {i : Nat} {p : Passage} : e.client = .sending i p → e.lanes[i]? = none →
      ClientStep e .tick { e with client := .countingTransfer p }
  | dropCounted {i missing : Nat} {p : Passage} : e.client = .countingDrop i missing p →
      ClientStep e .tick { e with
        counters := { e.counters with dropped := e.counters.dropped + missing.toUInt64 }
        client := .reportingDrop i missing p }
  | dropReported {i missing : Nat} {p : Passage} {lane : Lane} :
      e.client = .reportingDrop i missing p → e.lanes[i]? = some lane →
      ClientStep e .tick { e with
        client := .askingLatency i p
        journal := e.told clientName (.framesDropped lane.id missing) }
  | received {p : Passage} {lane : Lane} {rest : List Lane} {bytes : List UInt8} {pipe : Pipe}
      {frames : Nat} {q : Passage} : e.client = .receiving p → e.lanes = lane :: rest →
      lane.pipe.read p.moved.length = (bytes, pipe) → frames = bytes.length / e.context.frameSize →
      q = { p with moved := bytes ++ List.replicate (p.moved.length - bytes.length) 0 } →
      ClientStep e .tick { e with
        lanes := { lane with pipe } :: rest
        client :=
          if frames < p.frames then .countingSilence (p.frames - frames) q
          else .askingLatency 0 q }
  | silenceCounted {missing : Nat} {p : Passage} : e.client = .countingSilence missing p →
      ClientStep e .tick { e with
        counters := { e.counters with silence := e.counters.silence + missing.toUInt64 }
        client := .reportingSilence missing p }
  | silenceReported {missing : Nat} {p : Passage} : e.client = .reportingSilence missing p →
      ClientStep e .tick { e with
        client := .askingLatency 0 p
        journal := e.told clientName (.silenceInserted missing) }
  | latencyTold {i ms : Nat} {p : Passage} : e.client = .askingLatency i p →
      ClientStep e (.latency ms)
        { e with client := e.afterLatency i { p with latencyMs := max p.latencyMs ms } }
  | transferred {p : Passage} : e.client = .countingTransfer p →
      ClientStep e .tick ({ e with
        counters := { e.counters with transfers := e.counters.transfers + 1 } }.answer
          (.moved (p.moved ++ p.tail) p.frames (min p.latencyMs maxLatency)))
  | rebased {p : Position} : e.client = .rebasing p →
      ClientStep e .tick { e with client := .locating }
  | located {result : Except DeviceError Position} : e.client = .locating →
      ClientStep e (.position result) (e.locate result)
  | drained {wait : Duration} : e.client = .draining wait → ClientStep e .tick (e.answer .done)
  | halted {a : Answer} : e.client = .halting a →
      ClientStep e .tick { e with isRunning := false, client := .sealing a }
  | sealed {a : Answer} : e.client = .sealing a →
      ClientStep e .tick { e.shutCapture with client := .stopping 0 a }
  | stopped {i : Nat} {lane : Lane} {a : Answer} : e.client = .stopping i a →
      e.lanes[i]? = some lane → ClientStep e .tick { e with client := .stopping (i + 1) a }
  | allStopped {i : Nat} {a : Answer} : e.client = .stopping i a → e.lanes[i]? = none →
      ClientStep e .tick { e with client := .joining 0 a }
  | joined {i : Nat} {lane : Lane} {a : Answer} : e.client = .joining i a →
      e.lanes[i]? = some lane → lane.isQuiet = true →
      ClientStep e .tick { e with client := .joining (i + 1) a }
  | allJoined {i : Nat} {a : Answer} : e.client = .joining i a → e.lanes[i]? = none →
      ClientStep e .tick { e with client := .releasing a }
  | released {a : Answer} : e.client = .releasing a →
      ClientStep e .tick ({ e with lanes := [] }.answer a)

/-- Every action of the client thread follows one of the rules. -/
theorem clientStep_of_stepClient {e e' : Engine} {input : ClientInput}
    (h : e.stepClient input = some e') : ClientStep e input e' := by
  unfold stepClient at h
  split at h
  · rename_i todo opened result hc
    unfold stepOpened at h
    split at h
    · contradiction
    · cases h; exact .opened hc
    · cases h; exact .refused hc
  · rename_i opened hc
    unfold bindLanes at h
    split at h
    · rename_i hempty
      cases h
      rw [List.isEmpty_iff.mp hempty] at hc
      exact .unserved hc
    · rename_i hne
      cases h
      exact .bound hc fun hnil => hne (List.isEmpty_iff.mpr hnil)
  · rename_i i result hc
    unfold stepSpawned at h
    split at h
    · contradiction
    · rename_i lane hl
      cases h; exact .spawned hc hl
    · rename_i lane text hl
      cases h; exact .spawnRefused hc hl
  · rename_i i hc
    split at h
    · contradiction
    · cases h; exact .staffed hc (by omega)
  · rename_i i hc
    cases h; exact .enrolled hc
  · rename_i i hc
    obtain ⟨lane, hl, rfl⟩ := Option.map_eq_some_iff.mp h
    rw [tell_eq]
    exact .heralded hc hl
  · rename_i p hc
    cases h; exact .scaled hc
  · rename_i i p hc
    unfold send at h
    split at h
    · rename_i hl
      cases h; exact .allSent hc hl
    · rename_i lane hl
      cases h; exact .sent hc hl rfl
  · rename_i i missing p hc
    cases h; exact .dropCounted hc
  · rename_i i missing p hc
    obtain ⟨lane, hl, rfl⟩ := Option.map_eq_some_iff.mp h
    rw [tell_eq]
    exact .dropReported hc hl
  · rename_i p hc
    unfold receive at h
    split at h
    · contradiction
    · rename_i lane rest hl
      cases h
      exact .received (p := p) hc hl rfl rfl rfl
  · rename_i missing p hc
    cases h; exact .silenceCounted hc
  · rename_i missing p hc
    cases h
    rw [tell_eq]
    exact .silenceReported hc
  · rename_i i p ms hc
    cases h; exact .latencyTold hc
  · rename_i p hc
    cases h; exact .transferred hc
  · rename_i p hc
    cases h; exact .rebased hc
  · rename_i result hc
    cases h; exact .located hc
  · rename_i wait hc
    cases h; exact .drained hc
  · rename_i a hc
    cases h; exact .halted hc
  · rename_i a hc
    cases h; exact .sealed hc
  · rename_i i a hc
    cases hl : e.lanes[i]? with
    | none =>
      rw [if_neg (by rw [List.getElem?_eq_none_iff] at hl; omega)] at h
      cases h; exact .allStopped hc hl
    | some lane =>
      obtain ⟨hi, _⟩ := List.getElem?_eq_some_iff.mp hl
      rw [if_pos hi] at h
      cases h; exact .stopped hc hl
  · rename_i i a hc
    split at h
    · rename_i hl
      cases h; exact .allJoined hc hl
    · rename_i lane hl
      split at h
      · rename_i hq
        cases h; exact .joined hc hl hq
      · contradiction
  · rename_i a hc
    cases h; exact .released hc
  · contradiction

/-- A call does not change what an engine was built from. -/
theorem begin_blueprint (e : Engine) (c : Call) :
    (e.begin c).context = e.context ∧ (e.begin c).profiles = e.profiles ∧
      (e.begin c).config = e.config := by
  cases c with
  | negotiate | start | refine | drain | standby =>
    simp only [begin]
    split <;> exact ⟨rfl, rfl, rfl⟩
  | transfer buffer frames =>
    simp only [begin, beginTransfer]
    split
    · exact ⟨rfl, rfl, rfl⟩
    · split
      · exact ⟨rfl, rfl, rfl⟩
      · split <;> exact ⟨rfl, rfl, rfl⟩
  | setGain | pause | flush => exact ⟨rfl, rfl, rfl⟩

/-- No action changes what an engine was built from. -/
theorem step_blueprint {e e' : Engine} {a : Action} (hs : e.step a = some e') :
    e'.context = e.context ∧ e'.profiles = e.profiles ∧ e'.config = e.config := by
  cases a with
  | call c =>
    obtain ⟨-, rfl⟩ := step_call_eq_some hs
    exact e.begin_blueprint c
  | client input =>
    cases clientStep_of_stepClient hs with
    | located =>
      unfold locate
      split <;> exact ⟨rfl, rfl, rfl⟩
    | sealed =>
      unfold shutCapture
      split <;> exact ⟨rfl, rfl, rfl⟩
    | _ => exact ⟨rfl, rfl, rfl⟩
  | worker i input =>
    obtain ⟨_, _, _, _, _, counters, journal, rfl⟩ := stepWorker_eq_some hs
    exact ⟨rfl, rfl, rfl⟩
  | adjust level =>
    cases hs
    exact ⟨rfl, rfl, rfl⟩

end Engine

/-- An engine keeps what it was built from. -/
theorem Run.blueprint {b : Blueprint} {h : List Moment} {e : Engine} (run : Run b h e) :
    e.context = b.context ∧ e.profiles = b.profiles ∧ e.config = b.config := by
  induction run with
  | built hb =>
    obtain ⟨pcm, -, rfl⟩ := Engine.build_eq_ok hb
    exact ⟨rfl, rfl, rfl⟩
  | snoc _ hs ih =>
    obtain ⟨hc, hp, hf⟩ := Engine.step_blueprint hs
    exact ⟨hc.trans ih.1, hp.trans ih.2.1, hf.trans ih.2.2⟩

/-- A mono stream of 16-bit samples whose pipes hold two frames. -/
def Blueprint.small (direction : Direction) (profiles : List DeviceProfile) : Blueprint where
  context := ⟨direction, 48000, .mono, .i16, 2⟩
  profiles := profiles
  config := EngineConfig.default
  gain := Single.one
  isListening := true

end AudioRelay
