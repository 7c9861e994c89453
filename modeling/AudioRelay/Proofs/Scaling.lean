import AudioRelay.Gain.Scale

/-!
# Buffers sample by sample

Scaling a buffer scales each sample of its whole frames by itself and changes no length. A sample
is found in a buffer by its number.
-/

namespace AudioRelay

/-- The bytes of sample `k` of a buffer. -/
def SampleFormat.sampleAt (format : SampleFormat) (k : Nat) (buffer : List UInt8) : List UInt8 :=
  (buffer.drop (k * format.bytes)).take format.bytes

namespace Gain

variable {format : SampleFormat} {channels count k : Nat} {gain : Single} {buffer : List UInt8}

/-- The samples in whole frames are in the buffer. -/
theorem wholeSamples_mul_le (format : SampleFormat) (channels bytes : Nat) :
    wholeSamples format channels bytes * format.bytes ≤ bytes := by
  rw [wholeSamples, Nat.mul_assoc]
  exact Nat.div_mul_le_self _ _

/-- A sample among `count` samples has all its bytes. -/
theorem length_sampleAt (hk : k < count) (enough : count * format.bytes ≤ buffer.length) :
    (format.sampleAt k buffer).length = format.bytes := by
  have hbytes : (k + 1) * format.bytes ≤ buffer.length :=
    Nat.le_trans (Nat.mul_le_mul_right _ hk) enough
  rw [Nat.succ_mul] at hbytes
  rw [SampleFormat.sampleAt, List.length_take, List.length_drop]
  omega

/-- Scaling samples changes no length. -/
theorem length_scaleSamples (enough : count * format.bytes ≤ buffer.length) :
    (scaleSamples format gain count buffer).length = buffer.length := by
  induction count generalizing buffer with
  | zero => rfl
  | succ count ih =>
    rw [Nat.succ_mul] at enough
    have hrest : count * format.bytes ≤ (buffer.drop format.bytes).length := by
      rw [List.length_drop]
      omega
    rw [scaleSamples, List.length_append, length_scaleSample, ih hrest, List.length_drop]
    omega

/-- Each of the samples is scaled by itself. -/
theorem sampleAt_scaleSamples (hk : k < count) :
    format.sampleAt k (scaleSamples format gain count buffer) =
      scaleSample format gain (format.sampleAt k buffer) := by
  induction count generalizing k buffer with
  | zero => omega
  | succ count ih =>
    have hfirst : (scaleSample format gain (buffer.take format.bytes)).length = format.bytes :=
      length_scaleSample _ _ _
    rw [scaleSamples]
    cases k with
    | zero =>
      rw [SampleFormat.sampleAt, SampleFormat.sampleAt, Nat.zero_mul, List.drop_zero,
        List.drop_zero, List.take_left' hfirst]
    | succ k =>
      have hnext := @ih k (buffer.drop format.bytes) (by omega)
      rw [SampleFormat.sampleAt, SampleFormat.sampleAt] at hnext ⊢
      rw [List.drop_drop] at hnext
      rw [Nat.succ_mul, Nat.add_comm, ← List.drop_drop, List.drop_left' hfirst, hnext]

/-- A buffer under a gain is as long as it was. -/
theorem length_apply (format : SampleFormat) (channels : Nat) (gain : Single)
    (buffer : List UInt8) : (apply format channels gain buffer).length = buffer.length := by
  unfold apply
  split
  · rfl
  · exact length_scaleSamples (wholeSamples_mul_le _ _ _)

/-- A gain other than unity scales each sample of the whole frames by itself. -/
theorem sampleAt_apply (hgain : gain ≠ Single.one)
    (hk : k < wholeSamples format channels buffer.length) :
    format.sampleAt k (apply format channels gain buffer) =
      scaleSample format gain (format.sampleAt k buffer) := by
  rw [apply, if_neg hgain]
  exact sampleAt_scaleSamples hk

end Gain

end AudioRelay
