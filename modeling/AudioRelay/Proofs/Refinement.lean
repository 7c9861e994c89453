import AudioRelay.Proofs.Teardown

/-!
# Refining a position

A refinement asks two things, both of the first device that is bound: to take over the client's
count, and then where it is. Nothing that other threads do meanwhile changes that. What the device
tells becomes the client's position, its counter folded for playback; if it cannot tell, the client
keeps the position it has.
-/

namespace AudioRelay

namespace Position

/-- A counter beyond the signed range has the range taken off once. -/
theorem fold_of_lt {frames : Nat} (hover : maxFrames < frames) (hword : frames < maxCount) :
    fold frames = frames - maxFrames := by
  rw [fold, if_pos hover]
  simp only [maxFrames, maxCount] at *
  omega

/-- The greatest word is held at the end of the signed range. -/
theorem fold_of_maxCount_le {frames : Nat} (hword : maxCount ≤ frames) :
    fold frames = maxFrames := by
  have hover : maxFrames < frames := by
    simp only [maxFrames, maxCount] at *
    omega
  rw [fold, if_pos hover]
  simp only [maxFrames, maxCount] at *
  omega

/-- The greatest number of the signed range as an unsigned word. -/
def greatestWord : UInt64 := 0x7fffffffffffffff

/-- A counter folded by word arithmetic. -/
def foldWord (frames : UInt64) : Int64 :=
  let folded := if greatestWord < frames then frames - greatestWord else frames
  if folded ≤ greatestWord then folded.toInt64 else Int64.maxValue

theorem toInt_toInt64 {word : UInt64} (h : word ≤ greatestWord) :
    word.toInt64.toInt = word.toNat := by
  have hle : word.toNat ≤ 0x7fffffffffffffff := UInt64.le_iff_toNat_le.mp h
  refine BitVec.toInt_eq_toNat_of_lt (x := word.toBitVec) ?_
  rw [UInt64.toNat_toBitVec]
  omega

/-- No word overflows when a counter is folded. -/
theorem toInt_foldWord (frames : UInt64) : (foldWord frames).toInt = fold frames.toNat := by
  have hgreatest : greatestWord.toNat = 0x7fffffffffffffff := rfl
  have hword : frames.toNat < 2 ^ 64 := frames.toNat_lt
  rw [foldWord]
  by_cases hover : greatestWord < frames
  · have hnat := UInt64.lt_iff_toNat_lt.mp hover
    have hsub : (frames - greatestWord).toNat = frames.toNat - greatestWord.toNat :=
      UInt64.toNat_sub_of_le _ _ (UInt64.le_of_lt hover)
    rw [if_pos hover]
    by_cases hfits : frames - greatestWord ≤ greatestWord
    · have hbound := UInt64.le_iff_toNat_le.mp hfits
      rw [if_pos hfits, toInt_toInt64 hfits, hsub,
        fold_of_lt (by rw [maxFrames]; omega) (by rw [maxCount]; omega), maxFrames]
      omega
    · have hbound : ¬(frames - greatestWord).toNat ≤ greatestWord.toNat :=
        fun h => hfits (UInt64.le_iff_toNat_le.mpr h)
      rw [if_neg hfits, fold_of_maxCount_le (by rw [maxCount]; omega)]
      rfl
  · have hfits : frames ≤ greatestWord := UInt64.not_lt.mp hover
    have hbound := UInt64.le_iff_toNat_le.mp hfits
    rw [if_neg hover, if_pos hfits, toInt_toInt64 hfits,
      fold_of_le (by rw [maxFrames]; omega)]

end Position

/-- What a client is told of a position that the first device reported. -/
def Direction.refined : Direction → Position → Position
  | .input, q => q
  | .output, q => ⟨Position.fold q.frames.toNat, q.time⟩

/-- The answer to a refinement once the first device told where it is, or could not. -/
def refinement : Direction → Except DeviceError Position → Answer
  | d, .ok q => .located (d.refined q)
  | .input, .error fault => .failed (.invalidOperation s!"capture position: {fault.message}")
  | .output, .error fault => .failed (.invalidOperation s!"presentation position: {fault.message}")

theorem Engine.locate_eq (e : Engine) (result : Except DeviceError Position) :
    e.locate result = { e with client := .answered (refinement e.context.direction result) } := by
  unfold locate refinement
  cases e.context.direction <;> cases result <;> rfl

/-- The position that a client has after an answer to its refinement. -/
def Answer.position (p : Position) : Answer → Position
  | .located q => q
  | _ => p

/-- What the client asks for before it goes on with its call, and what it is given. -/
def Moment.dealing? (m : Moment) : Option (ClientRequest × ClientInput) :=
  match m.action with
  | .client input => some (m.engine.clientRequest, input)
  | _ => none

/-- What a client asked for in turn, with what it was given. -/
def dealings (later : List Moment) : List (ClientRequest × ClientInput) :=
  later.filterMap Moment.dealing?

theorem dealings_snoc (later : List Moment) (m : Moment) :
    dealings (later ++ [m]) = dealings later ++ m.dealing?.toList := by
  rw [dealings, List.filterMap_append]
  cases hm : m.dealing? <;> simp [dealings, hm]

/-- How far the refinement of a position has come by what the client dealt and where it stands. -/
inductive Refining (d : Direction) (device : Nat) (p : Position) :
    List (ClientRequest × ClientInput) → ClientState → Prop
  | asked : Refining d device p [] (.rebasing p)
  | rebased : Refining d device p [(.rebase device p.frames, .tick)] .locating
  | located (result : Except DeviceError Position) :
      Refining d device p
        [(.rebase device p.frames, .tick), (.locate device, .position result)]
        (.answered (refinement d result))

namespace Engine

variable {e e' : Engine} {d : Direction} {device : Nat} {p : Position}
  {dealt : List (ClientRequest × ClientInput)}

/-- The client deals with the first device and goes on, and leaves the lanes alone. -/
theorem refining_client {input : ClientInput} (stage : Refining d device p dealt e.client)
    (direction : e.context.direction = d) (first : e.lanes.head?.map (·.device) = some device)
    (hs : e.step (.client input) = some e') :
    Refining d device p (dealt ++ [(e.clientRequest, input)]) e'.client ∧ e'.lanes = e.lanes := by
  obtain ⟨lane, hl, rfl⟩ := Option.map_eq_some_iff.mp first
  obtain ⟨c, hc⟩ : ∃ c, e.client = c := ⟨_, rfl⟩
  rw [hc] at stage
  cases stage with
  | asked =>
    cases input with
    | tick =>
      simp only [step, stepClient, hc, Option.some.injEq] at hs
      have hrequest : e.clientRequest = .rebase lane.device p.frames := by
        simp only [clientRequest, hc, hl, Option.map_some, Option.getD_some]
      rw [hrequest, ← hs]
      exact ⟨.rebased, rfl⟩
    | _ => simp [step, stepClient, hc] at hs
  | rebased =>
    cases input with
    | position result =>
      simp only [step, stepClient, hc, Option.some.injEq, locate_eq, direction] at hs
      have hrequest : e.clientRequest = .locate lane.device := by
        simp only [clientRequest, hc, hl, Option.map_some, Option.getD_some]
      rw [hrequest, ← hs]
      exact ⟨.located result, rfl⟩
    | _ => simp [step, stepClient, hc] at hs
  | located result => simp [step, stepClient, hc] at hs

/-- A worker leaves the client where it is and takes no lane from its owner. -/
theorem owners_of_stepWorker {i : Nat} {input : WorkerInput}
    (hs : e.stepWorker i input = some e') :
    e'.client = e.client ∧ e'.lanes.map Lane.owner = e.lanes.map Lane.owner := by
  obtain ⟨lane, w, w', pipe, note, hl, hw, -, rfl⟩ := stepWorker_eq_leave hs
  obtain ⟨counters, journal, hleft⟩ :=
    { e with lanes := e.lanes.set i { lane with pipe, worker := some w' } }.leave_eq
      (e.workerName i) note
  rw [hleft]
  refine ⟨rfl, map_set_of_eq hl ?_⟩
  rw [Lane.owner, Lane.owner, hw]
  rfl

end Engine

namespace Run

variable {b : Blueprint} {h later : List Moment} {e₀ e : Engine} {p : Position} {lane : Lane}

/-- A refinement with no open device is refused, and nothing is asked of anyone. -/
theorem refines_idle (run : Run b (h ++ ⟨e₀, .call (.refine p)⟩ :: later) e)
    (idle : e₀.isIdle = true) (alone : ∀ m ∈ later, m.isCall = false) :
    e.client = .answered (.failed (.notInitialized "no open devices")) ∧
      ∀ m ∈ later, ∃ level, m.action = .adjust level := by
  obtain ⟨adjusts, e', hs, he⟩ := run.rests
    (a := .failed (.notInitialized "no open devices")) (by
      intro e' hs
      obtain ⟨-, rfl⟩ := Engine.step_call_eq_some hs
      have hbegin : e₀.begin (.refine p) =
          e₀.answer (.failed (.notInitialized "no open devices")) := if_pos idle
      rw [hbegin]
      exact ⟨List.isEmpty_iff.mp idle, rfl⟩) alone
  refine ⟨?_, adjusts⟩
  obtain ⟨-, rfl⟩ := Engine.step_call_eq_some hs
  rw [he]
  exact congrArg Engine.client (if_pos idle)

/-- A refinement asks the first device and no other, whatever workers do meanwhile. -/
theorem refining (run : Run b (h ++ ⟨e₀, .call (.refine p)⟩ :: later) e)
    (first : e₀.lanes.head? = some lane) (alone : ∀ m ∈ later, m.isCall = false) :
    Refining b.context.direction lane.device p (dealings later) e.client ∧
      e.lanes.map Lane.owner = e₀.lanes.map Lane.owner := by
  refine run.after (motive := fun past e =>
    Refining b.context.direction lane.device p (dealings past) e.client ∧
      e.lanes.map Lane.owner = e₀.lanes.map Lane.owner) ?_ ?_
  · intro e' hs
    obtain ⟨-, rfl⟩ := Engine.step_call_eq_some hs
    have active : e₀.isIdle = false := by
      rw [Engine.isIdle, List.isEmpty_eq_false_iff_exists_mem]
      exact ⟨lane, List.mem_of_head? first⟩
    have hbegin : e₀.begin (.refine p) = { e₀ with client := .rebasing p } := by
      simp only [Engine.begin, active, Bool.false_eq_true, if_false]
    rw [hbegin]
    exact ⟨.asked, rfl⟩
  · rintro past e e' a hp before ⟨hstage, howners⟩ hs
    have hdevice : e.lanes.head?.map (·.device) = some lane.device := by
      have hhead := congrArg (fun owners => owners.head?.map (·.2.1)) howners
      simp only [List.head?_map, Option.map_map, first, Option.map_some] at hhead
      exact hhead
    rw [dealings_snoc]
    cases a with
    | call c =>
      have hcall := alone _ (hp.subset (List.mem_append_right _ (List.mem_singleton.mpr rfl)))
      contradiction
    | client input =>
      have hdirection : e.context.direction = b.context.direction := by rw [before.blueprint.1]
      obtain ⟨hnext, hlanes⟩ := Engine.refining_client hstage hdirection hdevice hs
      exact ⟨hnext, hlanes ▸ howners⟩
    | worker i input =>
      obtain ⟨hclient, hsame⟩ := Engine.owners_of_stepWorker hs
      rw [hclient]
      exact ⟨(List.append_nil _).symm ▸ hstage, hsame.trans howners⟩
    | adjust level =>
      cases hs
      exact ⟨(List.append_nil _).symm ▸ hstage, howners⟩

end Run

/-- A refinement that is not answered can go on, whatever the device tells. -/
theorem Refining.goes_on {e : Engine} {d : Direction} {device : Nat} {p : Position}
    {dealt : List (ClientRequest × ClientInput)} (stage : Refining d device p dealt e.client) :
    e.answer?.isSome = true ∨ (∃ e', e.step (.client .tick) = some e') ∨
      ∀ result, ∃ e', e.step (.client (.position result)) = some e' := by
  obtain ⟨c, hc⟩ : ∃ c, e.client = c := ⟨_, rfl⟩
  rw [hc] at stage
  cases stage with
  | asked =>
    have hs : e.step (.client .tick) = some { e with client := .locating } := by
      simp only [Engine.step, Engine.stepClient, hc]
    exact .inr (.inl ⟨_, hs⟩)
  | rebased =>
    have hs (result : Except DeviceError Position) :
        e.step (.client (.position result)) = some (e.locate result) := by
      simp only [Engine.step, Engine.stepClient, hc]
    exact .inr (.inr fun result => ⟨_, hs result⟩)
  | located result =>
    rw [Engine.answer?, hc]
    exact .inl rfl

end AudioRelay
