import Mathlib.Algebra.Order.Floor.Semifield
import Mathlib.Algebra.Order.Round
import Mathlib.Data.Rat.Floor
import Mathlib.Tactic.Linarith
import AudioRelay.Device.Stub

/-!
# The time of a buffer

A stream, a drain and a null device each compute how long one buffer takes, in nanoseconds,
microseconds and milliseconds. All three are the exact time, a quotient, rounded once and held to
the largest number of their width. So they differ by their roundings alone, and they grow and
shrink together.
-/

namespace AudioRelay

/-- The exact time in seconds that frames take at a rate. -/
def playTime (frames rate : Nat) : Rat := frames / rate

section

variable {frames rate : Nat}

theorem playTime_nonneg : 0 ≤ playTime frames rate :=
  div_nonneg (Nat.cast_nonneg _) (Nat.cast_nonneg _)

/-- More frames take longer, and so do frames at a lower rate. -/
theorem playTime_mono {frames' rate' : Nat} (hrate : 0 < rate') (hframes : frames ≤ frames')
    (hslower : rate' ≤ rate) : playTime frames rate ≤ playTime frames' rate' := by
  unfold playTime
  gcongr

/-- A time in a unit of which there are `units` to the second is one quotient. -/
theorem playTime_mul (units : Nat) :
    playTime frames rate * units = (frames * units : Nat) / (rate : Rat) := by
  rw [playTime, div_mul_eq_mul_div, Nat.cast_mul]

/-- Rounding down is integer division. -/
theorem floor_playTime (frames rate units : Nat) :
    ⌊playTime frames rate * units⌋₊ = frames * units / rate := by
  rw [playTime_mul, Nat.floor_div_eq_div]

/-- Adding half the rate before an integer division rounds a half up, also if the rate is odd. -/
theorem round_playTime (frames : Nat) (hrate : 0 < rate) (units : Nat) :
    (round (playTime frames rate * units)).toNat = (frames * units + rate / 2) / rate := by
  have hhalf : playTime frames rate * units + 1 / 2 =
      ((2 * (frames * units) + rate : Nat) : Rat) / (2 * rate : Nat) := by
    have hne : (rate : Rat) ≠ 0 := Nat.cast_ne_zero.mpr hrate.ne'
    rw [playTime_mul]
    push_cast
    field_simp
  have htwice : (2 * (frames * units) + rate) / 2 = frames * units + rate / 2 := by omega
  rw [round_eq, Int.floor_toNat, hhalf, Nat.floor_div_eq_div, ← Nat.div_div_eq_div_mul, htwice]

end

/-- Rounding to the nearest integer is monotone. -/
theorem round_mono {x y : Rat} (h : x ≤ y) : round x ≤ round y := by
  rw [round_eq, round_eq]
  exact Int.floor_mono (by linarith)

theorem round_nonneg {x : Rat} (h : 0 ≤ x) : 0 ≤ round x := round_zero (α := Rat) ▸ round_mono h

namespace Duration

variable {frames rate : Nat}

/-- The time of a stream is the exact one, rounded down to a nanosecond. -/
theorem nanos_ofFrames (hrate : 0 < rate) :
    (ofFrames frames rate).nanos = min ⌊playTime frames rate * 10 ^ 9⌋₊ maxCount := by
  have hfloor := floor_playTime frames rate (10 ^ 9)
  rw [Nat.cast_pow, Nat.cast_ofNat] at hfloor
  rw [ofFrames, if_neg hrate.ne', hfloor]
  rfl

/-- The time of a drain is the exact one, rounded to the nearest microsecond. -/
theorem drain_eq (hrate : 0 < rate) :
    drain frames rate = ofMicros (min (round (playTime frames rate * 10 ^ 6)).toNat maxCount) := by
  have hround := round_playTime frames hrate (10 ^ 6)
  rw [Nat.cast_pow, Nat.cast_ofNat] at hround
  rw [drain, if_neg hrate.ne', hround]
  rfl

/-- Rounding a time down twice is rounding it down once, and what saturates at 64 bits of
nanoseconds saturates at 32 bits of milliseconds. -/
theorem millis_ofFrames (hrate : 0 < rate) :
    min (ofFrames frames rate).millis 0xffffffff =
      min ⌊playTime frames rate * 10 ^ 3⌋₊ 0xffffffff := by
  have hnested : ⌊playTime frames rate * 10 ^ 3⌋₊ = ⌊playTime frames rate * 10 ^ 9⌋₊ / 10 ^ 6 := by
    rw [← Nat.floor_div_natCast]
    congr 1
    push_cast
    ring
  rw [millis, nanos_ofFrames hrate, hnested]
  unfold maxCount
  omega

end Duration

/-- The nearest microsecond is half a microsecond away at most. -/
theorem abs_round_sub_le (t : Rat) :
    |(round (t * 10 ^ 6) : Rat) / 10 ^ 6 - t| ≤ 1 / 2 / 10 ^ 6 := by
  have hscaled : (round (t * 10 ^ 6) : Rat) / 10 ^ 6 - t =
      (round (t * 10 ^ 6) - t * 10 ^ 6) / 10 ^ 6 := by ring
  have hnear := abs_sub_round (t * 10 ^ 6)
  rw [hscaled, abs_div, abs_sub_comm, abs_of_pos (by positivity : (0 : Rat) < 10 ^ 6)]
  gcongr

/-- The nearest microsecond and the nanosecond below are half a microsecond apart at most. -/
theorem abs_round_sub_floor_le {t : Rat} (ht : 0 ≤ t) :
    |((round (t * 10 ^ 6)).toNat * 1000 : Int) - ⌊t * 10 ^ 9⌋₊| ≤ 500 := by
  have hunits : t * 10 ^ 9 = t * 10 ^ 6 * 1000 := by ring
  obtain ⟨x, hx⟩ : ∃ x, x = t * 10 ^ 6 := ⟨_, rfl⟩
  have hnonneg : 0 ≤ x := by rw [hx]; positivity
  rw [hunits, ← hx]
  have hpos : 0 ≤ round x := round_nonneg hnonneg
  have hlow := sub_half_lt_round x
  have hhigh := round_le_add_half x
  have hfloor := Nat.floor_le (a := x * 1000) (by positivity)
  have hnext := Nat.lt_floor_add_one (x * 1000)
  have habove : (⌊x * 1000⌋₊ : Rat) < round x * 1000 + 500 := by linarith
  have hbelow : (round x * 1000 : Rat) < ⌊x * 1000⌋₊ + 501 := by linarith
  norm_cast at habove hbelow
  rw [Int.toNat_of_nonneg hpos, abs_le]
  omega

/-- A null device that has the buffer and the rate of a stream. -/
def Stub.OpenedFor (s : Stub) (c : StreamContext) : Prop :=
  s.config.frames = c.frames ∧ s.config.rate = c.rate

namespace StreamContext

/-- The exact time of one full buffer. -/
def playTime (c : StreamContext) : Rat := AudioRelay.playTime c.frames c.rate

/-- The times of a stream's buffer, and the latency of its null device, are the exact time rounded
once and held to 64 bits of nanoseconds and of microseconds and to 32 bits of milliseconds. -/
structure ExactTimes (c : StreamContext) (s : Stub) : Prop where
  buffer : c.bufferDuration.nanos = min ⌊c.playTime * 10 ^ 9⌋₊ maxCount
  drain : c.direction = .output → c.drainWait =
    some (.ofMicros (min (round (c.playTime * 10 ^ 6)).toNat maxCount))
  latency : s.latencyMs = min ⌊c.playTime * 10 ^ 3⌋₊ 0xffffffff
  drain_near : ∀ wait, c.drainWait = some wait → (round (c.playTime * 10 ^ 6)).toNat ≤ maxCount →
    |(wait.nanos : Rat) / 10 ^ 9 - c.playTime| ≤ 1 / 2 / 10 ^ 6
  drain_near_buffer : ∀ wait, c.drainWait = some wait → ⌊c.playTime * 10 ^ 9⌋₊ ≤ maxCount →
    |(wait.nanos : Int) - c.bufferDuration.nanos| < 502

variable {c c' : StreamContext} {s s' : Stub}

/-- Only playback drains. -/
theorem drainWait_eq_some {wait : Duration} (h : c.drainWait = some wait) :
    c.direction = .output ∧ wait = .drain c.frames c.rate := by
  unfold drainWait at h
  cases hd : c.direction with
  | input => simp [hd, Direction.isInput] at h
  | output =>
    simp only [hd, Direction.isInput, Bool.false_eq_true, if_false, Option.some.injEq] at h
    exact ⟨rfl, h.symm⟩

/-- A drain of playback waits. -/
theorem drainWait_of_output (h : c.direction = .output) :
    c.drainWait = some (.drain c.frames c.rate) := by
  simp only [drainWait, h, Direction.isInput, Bool.false_eq_true, if_false]

end StreamContext

/-- The latency of a null device is the time of its stream's buffer. -/
theorem Stub.OpenedFor.latencyMs {c : StreamContext} {s : Stub} (h : s.OpenedFor c) :
    s.latencyMs = min (Duration.ofFrames c.frames c.rate).millis 0xffffffff := by
  rw [Stub.latencyMs, PcmConfig.bufferDuration, h.1, h.2]

namespace StreamContext

variable {c c' : StreamContext} {s s' : Stub}

theorem exactTimes (hrate : 0 < c.rate) (opened : s.OpenedFor c) : c.ExactTimes s where
  buffer := Duration.nanos_ofFrames hrate
  drain := fun output => by rw [drainWait_of_output output, Duration.drain_eq hrate, playTime]
  latency := by rw [opened.latencyMs, Duration.millis_ofFrames hrate, playTime]
  drain_near := by
    intro wait hwait hfits
    obtain ⟨-, rfl⟩ := drainWait_eq_some hwait
    have hround : 0 ≤ round (c.playTime * 10 ^ 6) :=
      round_nonneg (mul_nonneg playTime_nonneg (by norm_num))
    have hmicros : (((round (c.playTime * 10 ^ 6)).toNat * 1000 : Nat) : Rat) / 10 ^ 9 =
        (round (c.playTime * 10 ^ 6) : Rat) / 10 ^ 6 := by
      have hcast : ((round (c.playTime * 10 ^ 6)).toNat : Rat) = round (c.playTime * 10 ^ 6) := by
        exact_mod_cast congrArg (Int.cast (R := Rat)) (Int.toNat_of_nonneg hround)
      rw [Nat.cast_mul, hcast]
      push_cast
      ring
    rw [Duration.drain_eq hrate, ← playTime, Nat.min_eq_left hfits, Duration.ofMicros, hmicros]
    exact abs_round_sub_le _
  drain_near_buffer := by
    intro wait hwait hfits
    obtain ⟨-, rfl⟩ := drainWait_eq_some hwait
    have hnear := abs_le.mp (abs_round_sub_floor_le (t := c.playTime) playTime_nonneg)
    have hmicros : (round (c.playTime * 10 ^ 6)).toNat ≤ maxCount := by
      unfold maxCount at hfits ⊢
      omega
    rw [bufferDuration, Duration.drain_eq hrate, Duration.nanos_ofFrames hrate, ← playTime,
      Nat.min_eq_left hfits, Nat.min_eq_left hmicros, Duration.ofMicros, abs_lt]
    push_cast
    omega

/-- A longer time has longer approximations. -/
theorem times_mono (hrate : 0 < c'.rate) (hframes : c.frames ≤ c'.frames)
    (hslower : c'.rate ≤ c.rate) (opened : s.OpenedFor c) (opened' : s'.OpenedFor c') :
    c.bufferDuration.nanos ≤ c'.bufferDuration.nanos ∧
      (∀ wait wait', c.drainWait = some wait → c'.drainWait = some wait' →
        wait.nanos ≤ wait'.nanos) ∧
      s.latencyMs ≤ s'.latencyMs := by
  have hrate₀ : 0 < c.rate := hrate.trans_le hslower
  have hlonger : c.playTime ≤ c'.playTime := playTime_mono hrate hframes hslower
  have hscaled (units : Rat) (h : 0 ≤ units) : c.playTime * units ≤ c'.playTime * units :=
    mul_le_mul_of_nonneg_right hlonger h
  have times := exactTimes hrate₀ opened
  have times' := exactTimes hrate opened'
  refine ⟨?_, ?_, ?_⟩
  · rw [times.buffer, times'.buffer]
    exact min_le_min_right _ (Nat.floor_mono (hscaled _ (by norm_num)))
  · intro wait wait' hwait hwait'
    obtain ⟨output, -⟩ := drainWait_eq_some hwait
    obtain ⟨output', -⟩ := drainWait_eq_some hwait'
    obtain rfl := Option.some.inj ((times.drain output).symm.trans hwait)
    obtain rfl := Option.some.inj ((times'.drain output').symm.trans hwait')
    have hround := Int.toNat_le_toNat (round_mono (hscaled (10 ^ 6) (by norm_num)))
    exact Nat.mul_le_mul_right _ (min_le_min_right _ hround)
  · rw [times.latency, times'.latency]
    exact min_le_min_right _ (Nat.floor_mono (hscaled _ (by norm_num)))

end StreamContext

end AudioRelay
