import AudioRelay.Proofs.Course

/-!
# Capture transfers

A capture transfer takes the oldest frames out of its one pipe and fills the buffer up with
silence, which is counted and told. It never reads the gain, and never has more frames of sound to
give than the buffer of the stream holds.
-/

namespace AudioRelay

/-- A lane whose pipe gave its oldest bytes away. -/
def Lane.withdraw (bytes : Nat) (lane : Lane) : Lane :=
  { lane with pipe := { lane.pipe with content := lane.pipe.content.drop bytes } }

/-- How a capture transfer of the first `frames` frames of a buffer went, from `e₀` that was called
to `e` that gives the answer. When the transfer met the lane, its pipe held `held` frames; later
its device told a latency of `ms`. -/
structure Engine.Recorded (e₀ : Engine) (buffer : List UInt8) (frames : Nat) (lane : Lane)
    (held ms : Nat) (later : List Moment) (e : Engine) : Prop where
  /-- The one lane of the stream is met, once. -/
  met : meetings later = [lane]
  owner : e₀.lanes.map Lane.owner = [lane.owner]
  content : lane.pipe.content.length = held * e₀.context.frameSize
  bounded : held ≤ e₀.context.frames
  /-- The oldest frames leave the pipe when it is met, and the client alters nothing else. -/
  taken (past : List Moment) (m : Moment) (rest : List Moment) :
    later = past ++ m :: rest → m.isClient = true →
      m.Alters 0 (Lane.withdraw (min frames held * e₀.context.frameSize))
  /-- The device is asked for its latency once. -/
  asked : latencies later = [(lane.device, ms)]
  /-- The gain is never read. -/
  unscaled : gains later = []
  answer : e.client = .answered (.moved
    (lane.pipe.content.take (min frames held * e₀.context.frameSize) ++
      List.replicate ((frames - min frames held) * e₀.context.frameSize) 0 ++
      buffer.drop (frames * e₀.context.frameSize)) frames (min ms maxLatency))
  /-- Of losses, a listener is told of the silence, if there is any. -/
  told : ∃ told : List (String × Event), e.journal = told.reverse ++ e₀.journal ∧
    told.filter (fun entry => entry.2.isLoss) =
      if e₀.isListening ∧ 0 < frames - min frames held then
        [(clientName, .silenceInserted (frames - min frames held))] else []
  silence : e.counters.silence = e₀.counters.silence + UInt64.ofNat (frames - min frames held)
  dropped : e.counters.dropped = e₀.counters.dropped
  transfers : e.counters.transfers = e₀.counters.transfers + 1

/-- What a capture transfer gives of a pipe of whole frames: frames, and silence for the rest. -/
theorem Lane.fill_eq {lane : Lane} {capacity frameSize frames : Nat} {bytes : List UInt8}
    (sized : lane.pipe.Sized capacity frameSize) (hbytes : bytes.length = frames * frameSize) :
    lane.fill frames bytes =
      lane.pipe.content.take (min frames lane.pipe.available * frameSize) ++
        List.replicate ((frames - min frames lane.pipe.available) * frameSize) 0 := by
  have hlength : (lane.pipe.pop (min frames lane.pipe.available)).1.length =
      min frames lane.pipe.available * frameSize := by
    rw [Pipe.length_pop_of_le_available (Nat.min_le_right _ _), sized.frameSize]
  rw [fill, hlength, hbytes, ← Nat.sub_mul, Pipe.pop, sized.frameSize]

namespace Run

variable {b : Blueprint} {h later : List Moment} {e₀ e : Engine} {buffer : List UInt8}
  {frames : Nat}

section

variable (run : Run b (h ++ ⟨e₀, .call (.transfer buffer frames)⟩ :: later) e)
  (input : b.context.direction = .input) (active : e₀.isIdle = false)
  (enough : frames * b.context.frameSize ≤ buffer.length)
  (alone : ∀ m ∈ later, m.isCall = false)

include run input active enough alone

/-- A capture transfer takes frames out of the lane that it meets. -/
theorem takes {lane : Lane} (met : meetings later = [lane]) {past rest : List Moment} {m : Moment}
    (hlater : later = past ++ m :: rest) (client : m.isClient = true) :
    m.Alters 0 (Lane.withdraw (min frames lane.pipe.available * b.context.frameSize)) := by
  subst hlater
  have before := run.midway.1
  have course := before.course active enough fun x hx => alone x (List.mem_append_left _ hx)
  refine (run.alters course client).congr fun lane' hm => ?_
  have hmeetings : meetings past ++ lane' :: meetings rest = [lane] := by
    rw [← met]
    unfold meetings
    rw [List.filterMap_append, List.filterMap_cons_some hm]
  rcases List.append_eq_singleton_iff.mp hmeetings with ⟨hpast, hfirst⟩ | ⟨-, hfirst⟩
  · obtain rfl := (List.cons.inj hfirst).1
    have hsize := (before.sized (Moment.mem_of_met? hm)).frameSize
    refine ⟨congrArg List.length hpast, ?_⟩
    simp only [Lane.exchange, Pipe.pop, Lane.withdraw, input, hsize]
  · contradiction

/-- What becomes of a capture transfer that is answered. -/
theorem recorded (answered : e.answer?.isSome = true) :
    ∃ lane held ms, e₀.Recorded buffer frames lane held ms later e := by
  have course := run.course active enough alone
  have before := run.before.1
  have hcontext := before.blueprint.1
  have hlistening := before.isListening_eq
  have hone : e₀.lanes.length = 1 :=
    before.sound.length_lanes_of_input (hcontext ▸ input) (by simpa [Engine.isIdle] using active)
  have hmet := course.met_all answered
  have hheard := course.heard_all answered
  obtain ⟨lane, met⟩ : ∃ lane, meetings later = [lane] := by
    have hlength := congrArg List.length hmet
    rw [List.length_map, List.length_map, hone] at hlength
    exact List.length_eq_one_iff.mp hlength
  rw [met, List.map_singleton] at hmet
  obtain ⟨ms, asked⟩ : ∃ ms, latencies later = [(lane.device, ms)] := by
    have hdevices : [lane.device] = e₀.lanes.map (·.device) := by
      have howners := congrArg (List.map (·.2.1)) hmet
      rwa [List.map_map] at howners
    rw [← hdevices, List.map_eq_singleton_iff] at hheard
    obtain ⟨⟨device, ms⟩, hlatencies, rfl⟩ := hheard
    exact ⟨ms, hlatencies⟩
  have sized := run.sized_of_met (met ▸ List.mem_singleton.mpr rfl : lane ∈ meetings later)
  have hsize : 0 < b.context.frameSize := hcontext ▸ before.sound.frameSize_pos
  obtain ⟨a, hc⟩ := Engine.answered_of_isSome answered
  have hmissing : frames - min frames lane.pipe.available = frames - lane.pipe.available := by
    omega
  refine ⟨lane, lane.pipe.available, ms, ?_⟩
  constructor
  case met => exact met
  case owner => exact hmet.symm
  case content => exact hcontext ▸ sized.length_content
  case bounded => exact hcontext ▸ sized.available_le hsize
  case taken =>
    intro past m rest hlater client
    rw [hcontext]
    exact run.takes input active enough alone met hlater client
  case asked => exact asked
  case unscaled =>
    have hscaled := course.scaled
    rw [hc, input] at hscaled
    exact List.eq_nil_of_length_eq_zero hscaled
  case answer =>
    have hbytes : (buffer.take (frames * b.context.frameSize)).length =
        frames * b.context.frameSize := by
      rw [List.length_take, Nat.min_eq_left enough]
    have hmoved : (Passage.after b.context buffer frames later).moved =
        lane.fill frames (buffer.take (frames * b.context.frameSize)) := by
      rw [Passage.after, input, met]
      rfl
    have hgreatest : greatest ((latencies later).map (·.2)) = ms := by
      rw [asked]
      exact Nat.zero_max ms
    rw [course.answer answered, hmoved, Lane.fill_eq sized hbytes, hgreatest, hcontext]
  case told =>
    obtain ⟨told, hjournal, hlost⟩ := run.journal_of_answered course answered
    refine ⟨told, hjournal, ?_⟩
    rw [hlost, input, lossesMet, met, ← hlistening, hmissing]
    by_cases short : lane.pipe.available < frames
    · rw [List.filterMap_cons_some (Lane.loss?_input short)]
      simp [Nat.sub_pos_of_lt short]
    · have hzero : frames - lane.pipe.available = 0 := Nat.sub_eq_zero_of_le (Nat.not_lt.mp short)
      rw [List.filterMap_cons_none (Lane.loss?_eq_none (Nat.not_lt.mp short))]
      simp [hzero]
  case silence =>
    rw [(run.counters_of_answered course answered).2.2, input, lossesMet, lostFrames_losses, met,
      hmissing]
    rfl
  case dropped =>
    rw [(run.counters_of_answered course answered).2.1, input, lossesMet,
      lostFrames_losses_of_ne (by decide)]
    exact UInt64.add_zero _
  case transfers => exact (run.counters_of_answered course answered).1

end

/-- A capture transfer of an active stream whose frames fit into its buffer goes on until it is
answered, which takes few actions, and then it was recorded: the frames that the pipe held, up to
those that were asked for, are the first of the buffer and are no longer in the pipe; the rest of
those asked for is silence, counted and told if there is any; the bytes behind them are as they
were, and the gain is on none. The answer gives the number asked for and the latency as far as it
can be told. -/
theorem transfer_records (run : Run b (h ++ ⟨e₀, .call (.transfer buffer frames)⟩ :: later) e)
    (input : b.context.direction = .input) (active : e₀.isIdle = false)
    (enough : frames * b.context.frameSize ≤ buffer.length)
    (alone : ∀ m ∈ later, m.isCall = false) :
    (∃ lane held ms, e₀.Recorded buffer frames lane held ms later e) ∨
    (∃ input e', e.step (.client input) = some e') ∧
      later.countP Moment.isClient < 4 * e₀.lanes.length + 3 := by
  rcases run.answered_or_goes_on (run.course active enough alone) with answered | goesOn
  · exact .inl (run.recorded input active enough alone answered)
  · exact .inr goesOn

/-- A worker put two frames into a pipe when three are asked for. The third is silence, and the
byte behind them stays. The device's latency is more than can be told. -/
theorem recorded_with_one_frame_of_silence :
    ∃ h e₀ later e, Run (.small .input [.attached 0 0 .input])
        (h ++ ⟨e₀, .call (.transfer [9, 9, 9, 9, 9, 9, 9] 3)⟩ :: later) e ∧
      e₀.isIdle = false ∧ (∀ m ∈ later, m.isCall = false) ∧
      (∃ lane held ms, e₀.Recorded [9, 9, 9, 9, 9, 9, 9] 3 lane held ms later e) ∧
      (meetings later).map (·.pipe.content) = [[1, 2, 3, 4]] ∧ e.counters.silence.toNat = 1 ∧
      e.answer? = some (.moved [1, 2, 3, 4, 0, 0, 9] 3 0x7fffffff) := by
  have hwatch : (Blueprint.small .input [.attached 0 0 .input]).watch
      [.call .start, .client (.opened (.ok 0)), .client .tick, .client (.spawned (.ok ())),
        .client .tick, .client .tick, .client .tick, .call (.setGain ⟨0x3f000000⟩),
        .worker 0 .tick, .worker 0 (.settled (.done [1, 2, 3, 4])), .worker 0 .tick,
        .worker 0 .tick]
      (.call (.transfer [9, 9, 9, 9, 9, 9, 9] 3))
      [.worker 0 .tick, .client .tick, .client .tick, .client .tick,
        .client (.latency 0x80000000), .client .tick]
      (fun e₀ later e => (e₀.isIdle || later.any Moment.isCall,
        (meetings later).map (·.pipe.content), e.counters.silence.toNat, e.answer?)) =
      some (false, [[1, 2, 3, 4]], 1, some (.moved [1, 2, 3, 4, 0, 0, 9] 3 0x7fffffff)) := by
    decide +kernel
  obtain ⟨h, e₀, later, e, run, hseen⟩ := Run.of_watch hwatch
  simp only [Prod.mk.injEq, Bool.or_eq_false_iff] at hseen
  obtain ⟨⟨active, hcalls⟩, hcontent, hsilence, hanswer⟩ := hseen
  have alone : ∀ m ∈ later, m.isCall = false := by simpa using hcalls
  have enough : 3 * StreamContext.frameSize ⟨.input, 48000, .mono, .i16, 2⟩ ≤ 7 := by decide
  refine ⟨h, e₀, later, e, run, active, alone, ?_, hcontent, hsilence, hanswer⟩
  rcases run.transfer_records rfl active enough alone with recorded | ⟨⟨input, e', hs⟩, -⟩
  · exact recorded
  · obtain ⟨a, hc⟩ := Engine.answered_of_isSome (hanswer ▸ rfl : e.answer?.isSome = true)
    simp [Engine.step, Engine.stepClient, hc] at hs

end Run

end AudioRelay
