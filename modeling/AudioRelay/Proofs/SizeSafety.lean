import AudioRelay.Proofs.WorkerBuffer

/-!
# The sizes of a stream

A stream computes the size of a frame for its context, for its configuration and for its gain, and
the size of a full buffer for its context, for each pipe and for each worker. Those of a frame are
the same and never overflow. Those of a full buffer are the same and overflow together, as nothing
refuses a stream for the size of its buffer. If they do not, no size overflows and no cut is out of
its buffer in any state of any run.
-/

namespace AudioRelay

namespace Engine

/-- What an engine computes the size of a frame and of a full buffer to be. -/
structure Measures (e : Engine) : Prop where
  frameSize : e.pcm.frameSize = e.context.frameSize
  /-- Channels are counted in 16 bits. -/
  frame : e.context.channels < 2 ^ 16 →
    Size.mul? e.context.channels e.context.format.bytes = some e.context.frameSize ∧
      Size.mul? e.pcm.channels e.pcm.format.bytes = some e.context.frameSize ∧
      Size.mul? (max e.context.channels 1) e.context.format.bytes = some e.context.frameSize
  /-- The gain scales every sample of a whole frame. -/
  gain : ∀ bytes, Gain.wholeSamples e.context.format e.context.channels bytes =
    bytes / e.context.frameSize * e.context.channels
  /-- A pipe can be created, and is so for every lane. -/
  pipe : Pipe.create e.pcm.frames e.pcm.frameSize =
    .ok (Pipe.empty e.context.frames e.context.frameSize)
  lanes : ∀ lane ∈ e.lanes, lane.pipe.capacity = e.context.frames ∧
    lane.pipe.frameSize = e.context.frameSize
  ring : Size.mul? e.pcm.frames e.pcm.frameSize = e.context.bufferBytes?
  chunk : Size.mul? e.plan.frames e.plan.frameSize = e.context.bufferBytes?

/-- No size overflows and no cut is out of its buffer, whatever the client does next and wherever
the workers are. -/
structure InBounds (h : List Moment) (e : Engine) : Prop where
  begins : ∀ buffer frames, buffer.length ≤ maxCount →
    e.beginTransfer buffer frames = e.beginCut buffer frames
  sends : ∀ i p, e.send? i p = some (e.send i p)
  receives : ∀ p, e.client = .receiving p →
    ∃ e', e.receive? p = some e' ∧ e.receive p = some e'
  works : ∀ i, e.Keeps e.plan i (scratch? i h)

end Engine

/-- A usable stream is negotiated as it is. -/
theorem PcmConfig.eq_of_ofContext? {c : StreamContext} {p : PcmConfig}
    (h : ofContext? c = some p) : p = ⟨c.channels, c.rate, c.format, c.frames⟩ := by
  unfold ofContext? at h
  split at h
  · contradiction
  · exact (Option.some.inj h).symm

/-- The size of a full buffer is there exactly if words multiply to it without wrapping. -/
theorem StreamContext.bufferBytes?_eq_some_iff {c : StreamContext} {bytes : Nat} :
    c.bufferBytes? = some bytes ↔
      (UInt64.ofNat c.frames * UInt64.ofNat c.frameSize).toNat = c.bufferBytes ∧
        bytes = c.bufferBytes :=
  Size.mul?_eq_some_iff

namespace Run

variable {b : Blueprint} {h : List Moment} {e : Engine}

/-- In every state the sizes of a stream are measured alike. -/
theorem measures (run : Run b h e) : e.Measures := by
  have hframes := run.sound.frames_pos
  have hsize := run.sound.frameSize_pos
  have hpcm := PcmConfig.eq_of_ofContext? run.sound.negotiated
  have hpcmFrames : e.pcm.frames = e.context.frames := by rw [hpcm]
  have hframeSize : e.pcm.frameSize = e.context.frameSize :=
    PcmConfig.frameSize_ofContext? run.sound.negotiated
  have hmax : max e.context.channels 1 = e.context.channels :=
    Nat.max_eq_left run.sound.channels_pos
  constructor
  case frameSize => exact hframeSize
  case frame =>
    intro few
    have hsample : e.context.format.bytes ≤ 4 := by cases e.context.format <;> decide
    have hlargest : 2 ^ 16 * 4 ≤ maxCount := by decide
    have hmul : Size.mul? e.context.channels e.context.format.bytes = some e.context.frameSize :=
      Size.mul?_of_le ((Nat.mul_le_mul few.le hsample).trans hlargest)
    rw [hmax, hpcm]
    exact ⟨hmul, hmul, hmul⟩
  case gain =>
    intro bytes
    rw [Gain.wholeSamples, hmax]
    rfl
  case pipe => rw [Pipe.create, hpcmFrames, hframeSize, if_neg hframes.ne', if_neg hsize.ne']
  case lanes =>
    intro lane hlane
    have sized := run.sized hlane
    rw [← run.blueprint.1] at sized
    exact ⟨sized.capacity, sized.frameSize⟩
  case ring =>
    rw [hpcmFrames, hframeSize]
    rfl
  case chunk =>
    rw [Engine.plan, hpcmFrames, hframeSize]
    rfl

/-- If the size of a full buffer does not overflow, nothing is out of bounds in any state. -/
theorem in_bounds (run : Run b h e) (fits : e.context.bufferBytes ≤ maxCount) :
    e.InBounds h := by
  have hsized : ∀ lane ∈ e.lanes, lane.pipe.Sized e.context.frames e.context.frameSize := by
    intro lane hlane
    rw [run.blueprint.1]
    exact run.sized hlane
  constructor
  case begins =>
    intro buffer frames hlength
    exact Engine.beginTransfer_eq hlength frames
  case sends =>
    intro i p
    refine Engine.send?_eq (fun lane hlane => ?_) i p
    rw [(hsized lane hlane).capacity, (hsized lane hlane).frameSize]
    exact fits
  case receives =>
    intro p hc
    have carries := run.carries
    have stage := run.sound.stage
    rw [hc] at carries stage
    rw [← run.blueprint.1] at carries
    have hreceive := Engine.receive?_eq hsized run.sound.frameSize_pos fits carries.length_moved
    obtain ⟨lane, rest, hl⟩ := List.exists_cons_of_ne_nil stage.1.nonempty
    rw [hreceive, Engine.receive, hl]
    exact ⟨_, rfl, rfl⟩
  case works =>
    intro i
    rw [run.plan_eq]
    rw [run.blueprint.1] at fits
    exact run.keeps fits i

/-- Every stream that can be built computes its sizes alike, in all of its states. Nothing but the
size of a full buffer can overflow, and if that does not, then every size that a transfer or a
worker computes fits and every cut that they make is within its buffer. -/
theorem sizes_are_safe (run : Run b h e) :
    e.Measures ∧
      (∀ bytes, e.context.bufferBytes? = some bytes ↔
        (UInt64.ofNat e.context.frames * UInt64.ofNat e.context.frameSize).toNat =
          e.context.bufferBytes ∧ bytes = e.context.bufferBytes) ∧
      (e.context.bufferBytes?.isSome = true → e.InBounds h) := by
  refine ⟨run.measures, fun bytes => StreamContext.bufferBytes?_eq_some_iff, fun hsome => ?_⟩
  apply run.in_bounds
  by_contra large
  rw [StreamContext.bufferBytes?, if_neg large] at hsome
  contradiction

/-- A capture worker has written one of the two frames in its buffer and is about to write the
other. -/
theorem sizes_are_safe_halfway :
    ∃ h e, Run (.small .input [.attached 0 0 .input]) h e ∧
      e.workerAt? 0 = some (.pumping [7, 8]) ∧ scratch? 0 h = some ⟨[5, 6, 7, 8], 1⟩ ∧
      e.Measures ∧ e.InBounds h := by
  have hfollow : ((Blueprint.small .input [.attached 0 0 .input]).follow
      [.call .start, .client (.opened (.ok 0)), .client .tick, .client (.spawned (.ok ())),
        .client .tick, .client .tick, .client .tick, .worker 0 .tick,
        .worker 0 (.settled (.done [1, 2, 3, 4])), .worker 0 .tick, .worker 0 .tick,
        .worker 0 .tick, .worker 0 .tick, .worker 0 (.settled (.done [5, 6, 7, 8])),
        .worker 0 .tick, .worker 0 .tick, .call (.transfer [9, 9] 1), .client .tick,
        .worker 0 .tick]).map
      (fun x => (x.2.workerAt? 0, scratch? 0 x.1, x.2.context.bufferBytes?)) =
      some (some (.pumping [7, 8]), some ⟨[5, 6, 7, 8], 1⟩, some 4) := by
    decide
  obtain ⟨⟨h, e⟩, hf, hseen⟩ := Option.map_eq_some_iff.mp hfollow
  simp only [Prod.mk.injEq] at hseen
  obtain ⟨hworker, hscratch, hbytes⟩ := hseen
  have run := Run.of_follow hf
  obtain ⟨measures, -, inBounds⟩ := sizes_are_safe run
  exact ⟨h, e, run, hworker, hscratch, measures, inBounds (by rw [hbytes]; rfl)⟩

/-- A stream of so many frames that their bytes are as many as words can tell apart is built and
started: the size of its full buffer is zero in words, and none as a size, so that its worker has no
buffer. -/
theorem starts_beyond_sizes :
    ∃ (b : Blueprint) (h : List Moment) (e : Engine), Run b h e ∧
      b.context = ⟨.output, 48000, .stereo, .i16, 2 ^ 62⟩ ∧ b.context.frames ≤ maxCount ∧
      (∃ e₀, Engine.build b = .ok e₀) ∧ e.context.bufferBytes? = none ∧
      Size.mul? e.pcm.frames e.pcm.frameSize = none ∧
      Size.mul? e.plan.frames e.plan.frameSize = none ∧
      (UInt64.ofNat e.pcm.frames * UInt64.ofNat e.pcm.frameSize).toNat = 0 ∧
      e.workerAt? 0 = some .looping ∧ scratch? 0 h = none := by
  have hfollow : (Blueprint.follow ⟨⟨.output, 48000, .stereo, .i16, 2 ^ 62⟩,
      [.attached 0 0 .output], .default, Single.one, true⟩
      [.call .start, .client (.opened (.ok 0)), .client .tick, .client (.spawned (.ok ()))]).map
      (fun x => (x.2.context.bufferBytes?,
        (UInt64.ofNat x.2.pcm.frames * UInt64.ofNat x.2.pcm.frameSize).toNat, x.2.workerAt? 0,
        scratch? 0 x.1)) =
      some (none, 0, some .looping, none) := by
    decide
  obtain ⟨⟨h, e⟩, hf, hseen⟩ := Option.map_eq_some_iff.mp hfollow
  simp only [Prod.mk.injEq] at hseen
  obtain ⟨hnone, hword, hworker, hscratch⟩ := hseen
  have run := Run.of_follow hf
  exact ⟨_, h, e, run, rfl, by decide, ⟨_, rfl⟩, hnone, run.measures.ring.trans hnone,
    run.measures.chunk.trans hnone, hword, hworker, hscratch⟩

end Run

end AudioRelay
