import AudioRelay.Proofs.Course
import AudioRelay.Proofs.GainSafety

/-!
# Playback transfers

A playback transfer whose buffer is too short is refused and changes nothing. Any other puts the
gain on its frames once, offers the same bytes to every pipe in the order of binding, and gives
them back. What a pipe has no room for is counted and told; the rest of the buffer is not touched.
-/

namespace AudioRelay

/-- What a stream makes of the first frames of a buffer under a gain level. -/
def StreamContext.gained (c : StreamContext) (level : Single) (frames : Nat)
    (buffer : List UInt8) : List UInt8 :=
  Gain.apply c.format c.channels level (buffer.take (frames * c.frameSize))

/-- A lane whose pipe took in some bytes. -/
def Lane.append (lane : Lane) (bytes : List UInt8) : Lane :=
  { lane with pipe := { lane.pipe with content := lane.pipe.content ++ bytes } }

/-- How a playback transfer of the first `frames` frames of a buffer went, from `e₀` that was
called to `e` that gives the answer. The lanes are seen as the transfer met them. -/
structure Engine.Played (e₀ : Engine) (buffer : List UInt8) (frames : Nat) (level : Single)
    (later : List Moment) (e : Engine) : Prop where
  /-- The level is the one of the moment at which the gain is put on, which happens once. -/
  current : ∃ past m rest, later = past ++ m :: rest ∧ m.gain? = some level ∧
    level = (requests past).foldl Gain.adjust e₀.level
  once : gains later = [level]
  /-- Every lane is met once, in the order of binding. -/
  met : (meetings later).map Lane.owner = e₀.lanes.map Lane.owner
  sized : ∀ lane ∈ meetings later,
    lane.pipe.Sized e₀.context.frames e₀.context.frameSize
  /-- The pipe that is met takes what it has room for, and the client alters nothing else. -/
  appended (past : List Moment) (m : Moment) (rest : List Moment) :
    later = past ++ m :: rest → m.isClient = true →
      m.Alters (meetings past).length fun lane =>
        lane.append ((e₀.context.gained level frames buffer).take
          (min frames lane.pipe.vacant * e₀.context.frameSize))
  /-- Every device is asked for its latency once, in the order of binding. -/
  asked : (latencies later).map (·.1) = e₀.lanes.map (·.device)
  answer : e.client = .answered (.moved
    (e₀.context.gained level frames buffer ++ buffer.drop (frames * e₀.context.frameSize)) frames
    (min (greatest ((latencies later).map (·.2))) maxLatency))
  /-- Of losses, a listener is told of those of the transfer, in the order of binding. -/
  told : ∃ told : List (String × Event), e.journal = told.reverse ++ e₀.journal ∧
    told.filter (fun entry => entry.2.isLoss) =
      if e₀.isListening then
        ((meetings later).filter fun lane => lane.pipe.vacant < frames).map fun lane =>
          (clientName, .framesDropped lane.id (frames - lane.pipe.vacant))
      else []
  dropped : e.counters.dropped = e₀.counters.dropped +
    UInt64.ofNat ((meetings later).map fun lane => frames - lane.pipe.vacant).sum
  silence : e.counters.silence = e₀.counters.silence
  transfers : e.counters.transfers = e₀.counters.transfers + 1

/-- The losses of a playback transfer are those of the lanes without room. -/
theorem lossesMet_output (frames : Nat) (later : List Moment) :
    lossesMet .output frames later =
      ((meetings later).filter fun lane => lane.pipe.vacant < frames).map fun lane =>
        .framesDropped lane.id (frames - lane.pipe.vacant) := by
  unfold lossesMet
  induction meetings later with
  | nil => rfl
  | cons lane rest ih =>
    by_cases h : lane.pipe.vacant < frames
    · rw [List.filterMap_cons_some (Lane.loss?_output h), ih,
        List.filter_cons_of_pos (by simpa using h), List.map_cons]
    · rw [List.filterMap_cons_none (Lane.loss?_eq_none (Nat.not_lt.mp h)), ih,
        List.filter_cons_of_neg (by simpa using h)]

/-- A playback transfer that meets a lane has read its level. -/
theorem Engine.Course.length_gains_of_met {c : StreamContext} {lanes : List Lane}
    {buffer : List UInt8} {frames : Nat} {past : List Moment} {m : Moment} {lane : Lane}
    (course : m.engine.Course c lanes buffer frames past) (output : c.direction = .output)
    (hm : m.met? = some lane) : (gains past).length = 1 := by
  rw [course.scaled, output]
  unfold Moment.met? at hm
  split at hm
  · rename_i hc
    rw [hc]
    rfl
  · rename_i hc
    rw [hc]
    rfl
  · contradiction

/-- A playback transfer that has read a level carries its frames under it. -/
theorem Passage.moved_after {c : StreamContext} {buffer : List UInt8} {frames : Nat}
    {past : List Moment} {level : Single} (output : c.direction = .output)
    (hpast : gains past = [level]) :
    (Passage.after c buffer frames past).moved = c.gained level frames buffer := by
  rw [Passage.after, output, hpast]
  rfl

/-- A level that was read before a moment is the one that is read in all. -/
theorem gains_of_once {past rest : List Moment} {m : Moment} {level : Single}
    (once : gains (past ++ m :: rest) = [level]) (hone : (gains past).length = 1) :
    gains past = [level] := by
  rw [gains, List.filterMap_append, List.append_eq_singleton_iff] at once
  rcases once with ⟨hnone, -⟩ | ⟨hall, -⟩
  · rw [gains, hnone] at hone
    contradiction
  · exact hall

namespace Run

variable {b : Blueprint} {h later : List Moment} {e₀ e : Engine} {buffer : List UInt8}
  {frames : Nat}

/-- Since a transfer began the level is what was asked for since. -/
theorem level_since (run : Run b (h ++ ⟨e₀, .call (.transfer buffer frames)⟩ :: later) e) :
    e.level = (requests later).foldl Gain.adjust e₀.level := by
  have hrequests : requests (h ++ ⟨e₀, .call (.transfer buffer frames)⟩ :: later) =
      requests h ++ requests later := List.filterMap_append
  rw [run.level_eq, run.before.1.level_eq, hrequests, ← List.cons_append, Gain.current_append]

/-- A transfer of more frames than its buffer holds is refused, and that is the end of it. -/
theorem refused (run : Run b (h ++ ⟨e₀, .call (.transfer buffer frames)⟩ :: later) e)
    (short : buffer.length < frames * b.context.frameSize)
    (alone : ∀ m ∈ later, m.isCall = false) :
    e₀.step (.call (.transfer buffer frames)) = some { e₀ with
      client := .answered (.misused (.shortBuffer buffer.length frames b.context.frameSize)) } ∧
    e.client = .answered (.misused (.shortBuffer buffer.length frames b.context.frameSize)) ∧
    ∀ m ∈ later, m.isClient = false := by
  obtain ⟨before, e₁, hstep⟩ := run.before
  obtain ⟨-, rfl⟩ := Engine.step_call_eq_some hstep
  have hbegin : e₀.begin (.transfer buffer frames) = { e₀ with
      client := .answered (.misused (.shortBuffer buffer.length frames b.context.frameSize)) } := by
    rw [← before.blueprint.1] at short ⊢
    exact if_pos short
  refine ⟨hbegin ▸ hstep, ?_⟩
  refine run.after
    (motive := fun past e => e.client =
        .answered (.misused (.shortBuffer buffer.length frames b.context.frameSize)) ∧
      ∀ m ∈ past, m.isClient = false) ?_ ?_
  · intro e' hs
    obtain ⟨-, rfl⟩ := Engine.step_call_eq_some hs
    rw [hbegin]
    exact ⟨rfl, List.forall_mem_nil _⟩
  · rintro past e e' a hp - ⟨hc, hpast⟩ hs
    have still : e'.client = e.client ∧ Moment.isClient ⟨e, a⟩ = false := by
      cases a with
      | call c =>
        have hcall := alone _ (hp.subset (List.mem_append_right _ (List.mem_singleton.mpr rfl)))
        contradiction
      | client input => simp [Engine.step, Engine.stepClient, hc] at hs
      | worker i input =>
        obtain ⟨_, _, _, _, _, counters, journal, rfl⟩ := Engine.stepWorker_eq_some hs
        exact ⟨rfl, rfl⟩
      | adjust level =>
        cases hs
        exact ⟨rfl, rfl⟩
    exact ⟨still.1.trans hc,
      List.forall_mem_append.mpr ⟨hpast, List.forall_mem_singleton.mpr still.2⟩⟩

section

variable (run : Run b (h ++ ⟨e₀, .call (.transfer buffer frames)⟩ :: later) e)
  (output : b.context.direction = .output) (active : e₀.isIdle = false)
  (enough : frames * b.context.frameSize ≤ buffer.length)
  (alone : ∀ m ∈ later, m.isCall = false)

include run output active enough alone

/-- A playback transfer that has read its level gives every pipe the same bytes. -/
theorem appends {level : Single} (once : gains later = [level]) {past rest : List Moment}
    {m : Moment} (hlater : later = past ++ m :: rest) (client : m.isClient = true) :
    m.Alters (meetings past).length fun lane =>
      lane.append ((b.context.gained level frames buffer).take
        (min frames lane.pipe.vacant * b.context.frameSize)) := by
  subst hlater
  have before := run.midway.1
  have course := before.course active enough fun x hx => alone x (List.mem_append_left _ hx)
  refine (run.alters course client).congr fun lane hm => ⟨rfl, ?_⟩
  have hpast := gains_of_once once (course.length_gains_of_met output hm)
  have hsize := (before.sized (Moment.mem_of_met? hm)).frameSize
  simp only [Lane.exchange, Pipe.push, Lane.append, output, Passage.moved_after output hpast, hsize]

/-- What becomes of a playback transfer that is answered. -/
theorem played (answered : e.answer?.isSome = true) :
    ∃ level, e₀.Played buffer frames level later e := by
  have course := run.course active enough alone
  have before := run.before.1
  have hcontext := before.blueprint.1
  have hlistening := before.isListening_eq
  obtain ⟨a, hc⟩ := Engine.answered_of_isSome answered
  have hone := course.scaled
  rw [hc, output] at hone
  obtain ⟨level, once⟩ := List.length_eq_one_iff.mp hone
  refine ⟨level, ?_⟩
  constructor
  case current =>
    obtain ⟨past, m, rest, hlater, -, hm, -⟩ := List.filterMap_eq_cons_iff.mp once
    subst hlater
    exact ⟨past, m, rest, rfl, hm, (Moment.level_of_gain? hm).symm.trans run.midway.1.level_since⟩
  case once => exact once
  case met => exact course.met_all answered
  case sized =>
    intro lane hlane
    rw [hcontext]
    exact run.sized_of_met hlane
  case appended =>
    intro past m rest hlater client
    rw [hcontext]
    exact run.appends output active enough alone once hlater client
  case asked => exact course.heard_all answered
  case answer =>
    rw [course.answer answered, Passage.moved_after output once, hcontext]
  case told =>
    obtain ⟨told, hjournal, hlosses⟩ := run.journal_of_answered course answered
    rw [output, lossesMet_output, List.map_map, ← hlistening] at hlosses
    exact ⟨told, hjournal, hlosses⟩
  case dropped =>
    rw [(run.counters_of_answered course answered).2.1, output, lossesMet, lostFrames_losses]
    rfl
  case silence =>
    rw [(run.counters_of_answered course answered).2.2, output, lossesMet,
      lostFrames_losses_of_ne (by decide)]
    exact UInt64.add_zero _
  case transfers => exact (run.counters_of_answered course answered).1

end

/-- A playback transfer of an active stream whose frames are more bytes than its buffer holds, or
more than can be counted, is refused, and nothing else changes. Any other goes on until it is
answered, which takes a few actions for each lane, and then it was played: the gain was put on its
frames once, at the level of that moment; every pipe took as many of them as it had room for when
it was met; what it had no room for was counted and told; and the answer is the buffer with the
gain on those frames, their number, and the greatest latency as far as one can be told. -/
theorem transfer_plays (run : Run b (h ++ ⟨e₀, .call (.transfer buffer frames)⟩ :: later) e)
    (output : b.context.direction = .output) (active : e₀.isIdle = false)
    (alone : ∀ m ∈ later, m.isCall = false) :
    (buffer.length ≤ maxCount →
      maxCount < frames * b.context.frameSize ∨ buffer.length < frames * b.context.frameSize →
      e₀.step (.call (.transfer buffer frames)) = some { e₀ with
        client := .answered (.misused (.shortBuffer buffer.length frames b.context.frameSize)) } ∧
      e.client = .answered (.misused (.shortBuffer buffer.length frames b.context.frameSize)) ∧
      ∀ m ∈ later, m.isClient = false) ∧
    (frames * b.context.frameSize ≤ buffer.length →
      (∃ level, e₀.Played buffer frames level later e) ∨
      (∃ input e', e.step (.client input) = some e') ∧
        later.countP Moment.isClient < 4 * e₀.lanes.length + 3) := by
  constructor
  · intro fits short
    exact run.refused (by omega) alone
  · intro enough
    rcases run.answered_or_goes_on (run.course active enough alone) with answered | goesOn
    · exact .inl (run.played output active enough alone answered)
    · exact .inr goesOn

/-- The first of two pipes is empty and the second holds a frame of its two when the frames 3, -3
and 7 are played under one half. One frame of the first and two of the second are lost, and the
byte behind the frames comes back as it was. -/
theorem played_with_room_for_two_and_one :
    ∃ h e₀ later e, Run (.small .output [.attached 0 0 .output, .attached 0 1 .output])
        (h ++ ⟨e₀, .call (.transfer [3, 0, 253, 255, 7, 0, 9] 3)⟩ :: later) e ∧
      e₀.isIdle = false ∧ (∀ m ∈ later, m.isCall = false) ∧
      (meetings later).map (·.pipe.vacant) = [2, 1] ∧
      (∃ level, e₀.Played [3, 0, 253, 255, 7, 0, 9] 3 level later e) ∧
      e.answer? = some (.moved [2, 0, 254, 255, 4, 0, 9] 3 7) := by
  have hwatch : (Blueprint.small .output [.attached 0 0 .output, .attached 0 1 .output]).watch
      [.call .start, .client (.opened (.ok 0)), .client (.opened (.ok 1)), .client .tick,
        .client (.spawned (.ok ())), .client .tick, .client .tick, .client (.spawned (.ok ())),
        .client .tick, .client .tick, .client .tick, .call (.transfer [1, 0] 1), .client .tick,
        .client .tick, .client (.latency 5), .client .tick, .client (.latency 7), .client .tick,
        .client .tick, .worker 0 .tick, .worker 0 .tick, .adjust ⟨0x3f000000⟩]
      (.call (.transfer [3, 0, 253, 255, 7, 0, 9] 3))
      [.client .tick, .client .tick, .client .tick, .client .tick, .client (.latency 5),
        .client .tick, .client .tick, .client .tick, .client (.latency 7), .client .tick,
        .client .tick]
      (fun e₀ later e => (e₀.isIdle, later.all fun m => !m.isCall,
        (meetings later).map (·.pipe.vacant), e.answer?)) =
      some (false, true, [2, 1], some (.moved [2, 0, 254, 255, 4, 0, 9] 3 7)) := by
    decide +kernel
  obtain ⟨h, e₀, later, e, run, hseen⟩ := Run.of_watch hwatch
  simp only [Prod.mk.injEq] at hseen
  obtain ⟨active, hcalls, hvacant, hanswer⟩ := hseen
  have alone : ∀ m ∈ later, m.isCall = false := by simpa using hcalls
  have enough : 3 * StreamContext.frameSize ⟨.output, 48000, .mono, .i16, 2⟩ ≤ 7 := by decide
  refine ⟨h, e₀, later, e, run, active, alone, hvacant, ?_, hanswer⟩
  rcases (run.transfer_plays rfl active alone).2 enough with played | ⟨⟨input, e', hs⟩, -⟩
  · exact played
  · obtain ⟨a, hc⟩ := Engine.answered_of_isSome (hanswer ▸ rfl : e.answer?.isSome = true)
    simp [Engine.step, Engine.stepClient, hc] at hs

end Run

end AudioRelay
