import AudioRelay.Proofs.Chronicle
import AudioRelay.Proofs.Level
import AudioRelay.Proofs.Lifecycle

/-!
# Starting again

What an engine counted and told before does not matter for what it does next. So a start on an
engine that is off, whatever happened to it before, goes on exactly as on an engine that was
just built with the present gain, but for the cumulative counters and the journal.
-/

namespace AudioRelay

/-- An engine that counted and told more in the past. -/
def Engine.aged (e : Engine) (counters : Counters) (journal : List (String × Event)) : Engine :=
  { e with counters := e.counters + counters, journal := e.journal ++ journal }

/-- A moment of an engine that counted and told more in the past. -/
def Moment.aged (m : Moment) (counters : Counters) (journal : List (String × Event)) : Moment :=
  { m with engine := m.engine.aged counters journal }

namespace Engine

variable (e : Engine) (past : Counters) (journal : List (String × Event))

/-- Counting goes on from what was counted before. -/
theorem count_comm (x y z : UInt64) : x + y + z = x + z + y := by
  rw [UInt64.add_assoc, UInt64.add_comm y, ← UInt64.add_assoc]

theorem tell_aged (thread : String) (event : Event) :
    (e.aged past journal).tell thread event = (e.tell thread event).aged past journal := by
  unfold tell aged
  split <;> rfl

theorem begin_aged (c : Call) :
    (e.aged past journal).begin c = (e.begin c).aged past journal := by
  obtain ⟨context, pcm, profiles, config, isListening, level, isRunning, counters, lanes, client,
    told⟩ := e
  cases c with
  | negotiate | drain =>
    unfold begin aged
    dsimp only
    split <;> rfl
  | start | refine | standby => cases lanes <;> rfl
  | transfer buffer frames =>
    unfold begin beginTransfer aged
    dsimp only
    split
    · rfl
    · cases lanes with
      | nil => rfl
      | cons lane rest =>
        simp only [isIdle, List.isEmpty_cons, Bool.false_eq_true, if_false]
        split <;> rfl
  | setGain | pause | flush => rfl

theorem bindLanes_aged (opened : List (DeviceId × Nat)) :
    (e.aged past journal).bindLanes opened = (e.bindLanes opened).aged past journal := by
  cases opened <;> rfl

theorem stepOpened_aged (todo : List DeviceProfile) (opened : List (DeviceId × Nat))
    (result : Except DeviceError Nat) :
    (e.aged past journal).stepOpened todo opened result =
      (e.stepOpened todo opened result).map (·.aged past journal) := by
  cases todo <;> cases result <;> rfl

theorem stepSpawned_aged (i : Nat) (result : Except String Unit) :
    (e.aged past journal).stepSpawned i result =
      (e.stepSpawned i result).map (·.aged past journal) := by
  unfold stepSpawned aged
  cases e.lanes[i]? <;> cases result <;> rfl

theorem send_aged (i : Nat) (p : Passage) :
    (e.aged past journal).send i p = (e.send i p).aged past journal := by
  unfold send aged
  cases e.lanes[i]? <;> rfl

theorem receive_aged (p : Passage) :
    (e.aged past journal).receive p = (e.receive p).map (·.aged past journal) := by
  unfold receive aged
  cases e.lanes <;> rfl

theorem locate_aged (result : Except DeviceError Position) :
    (e.aged past journal).locate result = (e.locate result).aged past journal := by
  unfold locate aged
  cases e.context.direction <;> cases result <;> rfl

theorem shutCapture_aged :
    (e.aged past journal).shutCapture = e.shutCapture.aged past journal := by
  unfold shutCapture aged
  cases e.context.direction <;> rfl

/-- The client goes on the same whatever was counted and told before. -/
theorem stepClient_aged (input : ClientInput) :
    (e.aged past journal).stepClient input = (e.stepClient input).map (·.aged past journal) := by
  have hclient : (e.aged past journal).client = e.client := rfl
  have hlanes : (e.aged past journal).lanes = e.lanes := rfl
  unfold stepClient
  rw [hclient]
  generalize e.client = client
  cases client with
  | opening todo opened =>
    cases input with
    | tick =>
      cases todo with
      | nil => exact congrArg some (e.bindLanes_aged past journal opened)
      | cons p rest => rfl
    | opened result => exact e.stepOpened_aged past journal todo opened result
    | _ => rfl
  | spawning i =>
    cases input with
    | tick =>
      by_cases hi : i < e.lanes.length
      · have hi' : i < (e.aged past journal).lanes.length := hi
        simp only [if_pos hi, if_pos hi', Option.map_none]
      · have hi' : ¬i < (e.aged past journal).lanes.length := hi
        simp only [if_neg hi, if_neg hi']
        rfl
    | spawned result => exact e.stepSpawned_aged past journal i result
    | _ => rfl
  | enrolling | countingDrop | countingSilence | countingTransfer =>
    cases input with
    | tick => simp [aged, answer, Counters.add_def, count_comm]
    | _ => rfl
  | heralding i =>
    cases input with
    | tick =>
      simp only [hlanes]
      cases e.lanes[i]? with
      | none => rfl
      | some lane =>
        exact congrArg some
          (tell_aged { e with client := .spawning (i + 1) } past journal clientName _)
    | _ => rfl
  | reportingDrop i missing p =>
    cases input with
    | tick =>
      simp only [hlanes]
      cases e.lanes[i]? with
      | none => rfl
      | some lane =>
        exact congrArg some
          (tell_aged { e with client := .askingLatency i p } past journal clientName _)
    | _ => rfl
  | reportingSilence missing p =>
    cases input with
    | tick =>
      exact congrArg some
        (tell_aged { e with client := .askingLatency 0 p } past journal clientName _)
    | _ => rfl
  | sending i p =>
    cases input with
    | tick => exact congrArg some (e.send_aged past journal i p)
    | _ => rfl
  | receiving p =>
    cases input with
    | tick => exact e.receive_aged past journal p
    | _ => rfl
  | locating =>
    cases input with
    | position result => exact congrArg some (e.locate_aged past journal result)
    | _ => rfl
  | sealing a =>
    cases input with
    | tick =>
      simp only [shutCapture_aged]
      rfl
    | _ => rfl
  | joining i a =>
    cases input with
    | tick =>
      simp only [hlanes]
      cases e.lanes[i]? with
      | none => rfl
      | some lane =>
        cases hq : lane.isQuiet <;> simp only [hq] <;> rfl
    | _ => rfl
  | _ => cases input <;> rfl

/-- A worker goes on the same whatever was counted and told before. -/
theorem stepWorker_aged (i : Nat) (input : WorkerInput) :
    (e.aged past journal).stepWorker i input =
      (e.stepWorker i input).map (·.aged past journal) := by
  have hlanes : (e.aged past journal).lanes = e.lanes := rfl
  unfold stepWorker
  rw [hlanes]
  cases e.lanes[i]? with
  | none => rfl
  | some lane =>
    have hstep : lane.step (e.aged past journal).plan (e.aged past journal).isRunning input =
        lane.step e.plan e.isRunning input := rfl
    dsimp only
    rw [hstep]
    cases lane.step e.plan e.isRunning input with
    | none => rfl
    | some moved =>
      obtain ⟨lane', note⟩ := moved
      refine congrArg some ?_
      match note with
      | none => rfl
      | some .deviceErrorCounted => simp [leave, aged, Counters.add_def, count_comm]
      | some (.told event) => exact tell_aged { e with lanes := e.lanes.set i lane' } _ _ _ _

/-- An engine goes on the same whatever was counted and told before. -/
theorem step_aged (a : Action) :
    (e.aged past journal).step a = (e.step a).map (·.aged past journal) := by
  cases a with
  | call c =>
    have hanswer : (e.aged past journal).answer? = e.answer? := rfl
    simp only [step]
    rw [hanswer]
    cases e.answer?.isSome with
    | true => exact congrArg some (e.begin_aged past journal c)
    | false => rfl
  | client input => exact e.stepClient_aged past journal input
  | worker i input => exact e.stepWorker_aged past journal i input
  | adjust level => rfl

/-- Actions lead to the same whatever was counted and told before. -/
theorem follow_aged (actions : List Action) :
    (e.aged past journal).follow actions =
      (e.follow actions).map fun (h, last) =>
        (h.map (·.aged past journal), last.aged past journal) := by
  induction actions generalizing e with
  | nil => rfl
  | cons a rest ih =>
    unfold follow
    rw [step_aged]
    cases e.step a with
    | none => rfl
    | some e' =>
      dsimp only [Option.map_some]
      rw [ih, Option.map_map, Option.map_map]
      rfl

end Engine

namespace Run

variable {b : Blueprint} {h : List Moment} {e : Engine}

/-- A start on an engine that is off goes on exactly as on one that was just built with the
present gain, but for what was counted and told before. -/
theorem starts_anew (run : Run b h e) (off : e.lanes = []) (answered : e.answer?.isSome = true) :
    ∃ new, Engine.build { b with gain := e.level } = .ok new ∧
      ∀ actions, (e.begin .start).follow actions =
        ((new.begin .start).follow actions).map fun (h, last) =>
          (h.map (·.aged e.counters e.journal), last.aged e.counters e.journal) := by
  obtain ⟨hcontext, hprofiles, hconfig⟩ := run.blueprint
  have sound := run.sound
  obtain ⟨-, hrunning⟩ := (sound.off_or_on answered).resolve_right fun hon => hon.1.nonempty off
  have hpcm : PcmConfig.ofContext? b.context = some e.pcm := by
    rw [← hcontext]
    exact sound.negotiated
  refine ⟨⟨b.context, e.pcm, b.profiles, b.config, b.isListening, e.level, false, Counters.zero, [],
    .answered .done, []⟩, ?_, ?_⟩
  · simp only [Engine.build, hpcm, run.level_accepted]
  · intro actions
    rw [← Engine.follow_aged, ← Engine.begin_aged]
    congr 1
    have hlistening := run.isListening_eq
    obtain ⟨context, pcm, profiles, config, isListening, level, isRunning, counters, lanes, client,
      journal⟩ := e
    obtain rfl : context = b.context := hcontext
    obtain rfl : profiles = b.profiles := hprofiles
    obtain rfl : config = b.config := hconfig
    obtain rfl : isListening = b.isListening := hlistening
    obtain rfl : lanes = [] := off
    obtain rfl : isRunning = false := hrunning
    simp [Engine.begin, Engine.isIdle, Engine.aged, Engine.candidates]

end Run

end AudioRelay
