import AudioRelay.Proofs.PlayTime

/-!
# Times in machine words

The times of a buffer are computed in words: 64 bits of frames and 32 bits of rate, widened to 128
bits for the arithmetic and narrowed again for the result. No step overflows, so the words are the
times of the stream.
-/

namespace AudioRelay

namespace Wide

/-- The same number in 128 bits. -/
def widen {width : Nat} (x : BitVec width) : BitVec 128 := x.setWidth 128

/-- A product; there is none if it overflows. -/
def mul? (x y : BitVec 128) : Option (BitVec 128) := if x.umulOverflow y then none else some (x * y)

/-- A sum; there is none if it overflows. -/
def add? (x y : BitVec 128) : Option (BitVec 128) := if x.uaddOverflow y then none else some (x + y)

/-- The number in `width` bits, or the largest that they hold. -/
def narrow (width : Nat) (x : BitVec 128) : BitVec width :=
  if x.toNat < 2 ^ width then x.setWidth width else BitVec.allOnes width

/-- The nanoseconds that frames take. -/
def nanos? (frames : BitVec 64) (rate : BitVec 32) : Option (BitVec 64) :=
  if rate = 0 then some 0
  else (mul? (widen frames) 1000000000#128).map fun product => narrow 64 (product / widen rate)

/-- The microseconds that a drain of frames waits. -/
def drainMicros? (frames : BitVec 64) (rate : BitVec 32) : Option (BitVec 64) :=
  if rate = 0 then some 0
  else
    ((mul? (widen frames) 1000000#128).bind fun product => add? product (widen rate / 2#128)).map
      fun sum => narrow 64 (sum / widen rate)

/-- The milliseconds in nanoseconds, those of the whole seconds and of the rest. -/
def millis? (nanos : BitVec 64) : Option (BitVec 128) :=
  (mul? (widen (nanos / 1000000000#64)) 1000#128).bind fun seconds =>
    add? seconds (widen (nanos % 1000000000#64 / 1000000#64))

/-- The milliseconds that frames take, as a latency. -/
def latencyMs? (frames : BitVec 64) (rate : BitVec 32) : Option (BitVec 32) :=
  ((nanos? frames rate).bind millis?).map (narrow 32)

theorem toNat_widen {width : Nat} (h : width ≤ 128) (x : BitVec width) :
    (widen x).toNat = x.toNat :=
  BitVec.toNat_setWidth_of_le h

/-- What a word of 64 bits is multiplied by to change its unit does not make it overflow. -/
theorem mul?_widen (x : BitVec 64) (units : Nat) (h : units < 2 ^ 64) :
    ∃ z, mul? (widen x) (BitVec.ofNat 128 units) = some z ∧ z.toNat = x.toNat * units := by
  have hx : (widen x).toNat = x.toNat := toNat_widen (by decide) x
  have hunits : (BitVec.ofNat 128 units).toNat = units := by
    rw [BitVec.toNat_ofNat]
    exact Nat.mod_eq_of_lt (h.trans (by decide))
  have hlt : x.toNat * units < 2 ^ 64 * 2 ^ 64 := Nat.mul_lt_mul'' x.isLt h
  rw [← pow_add] at hlt
  have hfits : (widen x).umulOverflow (BitVec.ofNat 128 units) = false := by
    rw [BitVec.umulOverflow, hx, hunits]
    exact decide_eq_false (Nat.not_le.mpr hlt)
  refine ⟨widen x * BitVec.ofNat 128 units, ?_, ?_⟩
  · rw [mul?, hfits, if_neg Bool.false_ne_true]
  · rw [BitVec.toNat_mul, hx, hunits, Nat.mod_eq_of_lt hlt]

/-- A sum that 128 bits hold is the exact one. -/
theorem add?_eq {x y : BitVec 128} (h : x.toNat + y.toNat < 2 ^ 128) :
    ∃ z, add? x y = some z ∧ z.toNat = x.toNat + y.toNat := by
  have hfits : x.uaddOverflow y = false := decide_eq_false (Nat.not_le.mpr h)
  refine ⟨x + y, ?_, ?_⟩
  · rw [add?, hfits, if_neg Bool.false_ne_true]
  · rw [BitVec.toNat_add, Nat.mod_eq_of_lt h]

theorem toNat_narrow (width : Nat) (x : BitVec 128) :
    (narrow width x).toNat = min x.toNat (2 ^ width - 1) := by
  unfold narrow
  split
  · rename_i h
    rw [BitVec.toNat_setWidth, Nat.mod_eq_of_lt h]
    omega
  · rw [BitVec.toNat_allOnes]
    omega

section

variable {rate : BitVec 32}

theorem toNat_ne_zero (hrate : rate ≠ 0) : rate.toNat ≠ 0 := fun h =>
  hrate (BitVec.eq_of_toNat_eq h)

/-- Nanoseconds are computed without overflow. -/
theorem nanos?_eq (frames : BitVec 64) (hrate : rate ≠ 0) :
    ∃ w, nanos? frames rate = some w ∧
      w.toNat = (Duration.ofFrames frames.toNat rate.toNat).nanos := by
  obtain ⟨product, hmul, hproduct⟩ := mul?_widen frames 1000000000 (by decide)
  refine ⟨narrow 64 (product / widen rate), ?_, ?_⟩
  · rw [nanos?, if_neg hrate, hmul, Option.map_some]
  · rw [toNat_narrow, BitVec.toNat_udiv, hproduct, toNat_widen (by decide), Duration.ofFrames,
      if_neg (toNat_ne_zero hrate)]
    rfl

/-- The microseconds of a drain are computed without overflow. -/
theorem drainMicros?_eq (frames : BitVec 64) (hrate : rate ≠ 0) :
    ∃ w, drainMicros? frames rate = some w ∧
      Duration.ofMicros w.toNat = Duration.drain frames.toNat rate.toNat := by
  obtain ⟨product, hmul, hproduct⟩ := mul?_widen frames 1000000 (by decide)
  have hhalf : (widen rate / 2#128).toNat = rate.toNat / 2 := by
    rw [BitVec.toNat_udiv, toNat_widen (by decide)]
    rfl
  have hframes : frames.toNat < 2 ^ 64 := frames.isLt
  have hslow : rate.toNat < 2 ^ 32 := rate.isLt
  obtain ⟨sum, hadd, hsum⟩ := add?_eq (x := product) (y := widen rate / 2#128) (by omega)
  refine ⟨narrow 64 (sum / widen rate), ?_, ?_⟩
  · rw [drainMicros?, if_neg hrate, hmul, Option.bind_some, hadd, Option.map_some]
  · rw [toNat_narrow, BitVec.toNat_udiv, hsum, hhalf, hproduct, toNat_widen (by decide),
      Duration.drain, if_neg (toNat_ne_zero hrate)]
    rfl

/-- Milliseconds are computed without overflow. -/
theorem millis?_eq (nanos : BitVec 64) :
    ∃ w, millis? nanos = some w ∧ w.toNat = nanos.toNat / 1000000 := by
  obtain ⟨product, hmul, hproduct⟩ :=
    mul?_widen (nanos / 1000000000#64) 1000 (by decide)
  have hseconds : (nanos / 1000000000#64).toNat = nanos.toNat / 1000000000 := BitVec.toNat_udiv
  have hrest : (widen (nanos % 1000000000#64 / 1000000#64)).toNat =
      nanos.toNat % 1000000000 / 1000000 := toNat_widen (by decide) _
  have hnanos : nanos.toNat < 2 ^ 64 := nanos.isLt
  obtain ⟨sum, hadd, hsum⟩ :=
    add?_eq (x := product) (y := widen (nanos % 1000000000#64 / 1000000#64)) (by omega)
  refine ⟨sum, ?_, by omega⟩
  rw [millis?, hmul, Option.bind_some, hadd]

/-- The milliseconds of a latency are computed without overflow. -/
theorem latencyMs?_eq (frames : BitVec 64) (hrate : rate ≠ 0) :
    ∃ w, latencyMs? frames rate = some w ∧
      w.toNat = min (Duration.ofFrames frames.toNat rate.toNat).millis 0xffffffff := by
  obtain ⟨nanos, hnanos, hvalue⟩ := nanos?_eq frames hrate
  obtain ⟨millis, hmillis, hdown⟩ := millis?_eq nanos
  refine ⟨narrow 32 millis, ?_, ?_⟩
  · rw [latencyMs?, hnanos, Option.bind_some, hmillis, Option.map_some]
  · rw [toNat_narrow, hdown, hvalue, Duration.millis]
    rfl

end

/-- The times of a stream, and the latency of its null device, are what its words make of them. -/
structure Computes (frames : BitVec 64) (rate : BitVec 32) (c : StreamContext) (s : Stub) :
    Prop where
  buffer : ∃ w, nanos? frames rate = some w ∧ c.bufferDuration.nanos = w.toNat
  drain : c.direction = .output →
    ∃ w, drainMicros? frames rate = some w ∧ c.drainWait = some (.ofMicros w.toNat)
  latency : ∃ w, latencyMs? frames rate = some w ∧ s.latencyMs = w.toNat

theorem computes {frames : BitVec 64} {rate : BitVec 32} {c : StreamContext} {s : Stub}
    (hrate : rate ≠ 0) (hframes : c.frames = frames.toNat) (hsame : c.rate = rate.toNat)
    (opened : s.OpenedFor c) : Computes frames rate c s where
  buffer := by
    obtain ⟨w, hw, hvalue⟩ := nanos?_eq frames hrate
    refine ⟨w, hw, ?_⟩
    rw [StreamContext.bufferDuration, hframes, hsame, hvalue]
  drain := by
    intro output
    obtain ⟨w, hw, hvalue⟩ := drainMicros?_eq frames hrate
    refine ⟨w, hw, ?_⟩
    rw [StreamContext.drainWait_of_output output, hframes, hsame, hvalue]
  latency := by
    obtain ⟨w, hw, hvalue⟩ := latencyMs?_eq frames hrate
    refine ⟨w, hw, ?_⟩
    rw [opened.latencyMs, hframes, hsame, hvalue]

end Wide

/-- A stream's time of a buffer, its drain's wait and its null device's latency are the exact time
of the buffer, each rounded once and saturated. Unsaturated, the wait is half a microsecond from the
exact time at most, and so near to the other. More frames or a lower rate make none of the three
shorter. Words of 128 bits compute all of them without overflow. -/
theorem StreamContext.times_are_exact :
    (∀ (c : StreamContext) (s : Stub), 0 < c.rate → s.OpenedFor c → c.ExactTimes s) ∧
    (∀ (c c' : StreamContext) (s s' : Stub), 0 < c'.rate → c.frames ≤ c'.frames →
      c'.rate ≤ c.rate → s.OpenedFor c → s'.OpenedFor c' →
      c.bufferDuration.nanos ≤ c'.bufferDuration.nanos ∧
        (∀ wait wait', c.drainWait = some wait → c'.drainWait = some wait' →
          wait.nanos ≤ wait'.nanos) ∧
        s.latencyMs ≤ s'.latencyMs) ∧
    ∀ (frames : BitVec 64) (rate : BitVec 32) (c : StreamContext) (s : Stub), rate ≠ 0 →
      c.frames = frames.toNat → c.rate = rate.toNat → s.OpenedFor c →
      Wide.Computes frames rate c s := by
  refine ⟨?_, ?_, ?_⟩
  · intro c s hrate opened
    exact exactTimes hrate opened
  · intro c c' s s' hrate hframes hslower opened opened'
    exact times_mono hrate hframes hslower opened opened'
  · intro frames rate c s hrate hframes hsame opened
    exact Wide.computes hrate hframes hsame opened

/-- A frame at 128 Hz takes 7812 microseconds and a half: the wait is rounded up. The most frames
that a word counts saturate all three at 1 Hz. -/
theorem StreamContext.times_are_exact_at_a_half :
    ∃ (c c' : StreamContext) (s s' : Stub), s.OpenedFor c ∧ s'.OpenedFor c' ∧ c'.rate ≤ c.rate ∧
      c.ExactTimes s ∧ c.bufferDuration = ⟨7812500⟩ ∧ c.drainWait = some ⟨7813000⟩ ∧
      s.latencyMs = 7 ∧ c.bufferDuration.nanos ≤ c'.bufferDuration.nanos ∧
      s.latencyMs ≤ s'.latencyMs ∧ Wide.Computes (BitVec.allOnes 64) 1 c' s' ∧
      c'.bufferDuration.nanos = maxCount ∧ c'.drainWait = some (.ofMicros maxCount) ∧
      s'.latencyMs = 0xffffffff := by
  have hmono := times_are_exact.2.1 ⟨.output, 128, .stereo, .i16, 1⟩
    ⟨.output, 1, .mono, .f32, maxCount⟩ (Stub.create "null" ⟨2, 128, .i16, 1⟩ 0)
    (Stub.create "null" ⟨1, 1, .f32, maxCount⟩ 0) (by decide) (by decide) (by decide) ⟨rfl, rfl⟩
    ⟨rfl, rfl⟩
  refine ⟨_, _, _, _, ⟨rfl, rfl⟩, ⟨rfl, rfl⟩, by decide, ?_, rfl, rfl, rfl, hmono.1, hmono.2.2, ?_,
    rfl, rfl, rfl⟩
  · exact times_are_exact.1 _ _ (by decide) ⟨rfl, rfl⟩
  · exact times_are_exact.2.2 _ _ _ _ (by decide) rfl rfl ⟨rfl, rfl⟩

end AudioRelay
