import AudioRelay.Gain.Control
import AudioRelay.Proofs.Rounding
import AudioRelay.Proofs.Scaling

/-!
# Samples under a gain

Decoding is inverse to encoding, so what a scaled buffer holds is told in numbers: an integer
sample under an accepted gain is in the range of its width and does not change sides of zero, and
a finite floating-point sample is between minus one and one.
-/

namespace AudioRelay

namespace Sample

variable {width : Nat}

/-- Bytes of a number spell what is left of it in their width. -/
theorem natOfBytes_bytesOfNat (width n : Nat) :
    natOfBytes (bytesOfNat width n) = n % 256 ^ width := by
  induction width generalizing n with
  | zero => rw [bytesOfNat, natOfBytes, Nat.pow_zero, Nat.mod_one]
  | succ width ih =>
    rw [bytesOfNat, natOfBytes, ih, Nat.pow_succ', Nat.mod_mul, UInt8.toNat_ofNat']

/-- The patterns of a width are twice as many as the integers below zero in its range. -/
theorem pow_eq_two_mul (hwidth : 0 < width) :
    Nat.pow 256 width = 2 * Nat.pow 2 (8 * width - 1) := by
  have hexp : 8 * width = 8 * width - 1 + 1 := by omega
  calc 256 ^ width = 2 ^ (8 * width) := by rw [Nat.pow_mul]
    _ = 2 ^ (8 * width - 1 + 1) := by rw [← hexp]
    _ = 2 * 2 ^ (8 * width - 1) := Nat.pow_succ'

/-- What bytes spell is in the range of their number. -/
theorem intOfBytes_mem_range {bytes : List UInt8} (hlength : bytes.length = width)
    (hwidth : 0 < width) :
    (range width).1 ≤ intOfBytes bytes ∧ intOfBytes bytes ≤ (range width).2 := by
  have hpow := pow_eq_two_mul hwidth
  have hpos : 0 < Nat.pow 256 width := Nat.pow_pos (by decide)
  have hlow := Int.le_bmod (x := (natOfBytes bytes : Int)) hpos
  have hhigh := Int.bmod_lt (x := (natOfBytes bytes : Int)) hpos
  unfold intOfBytes range
  rw [hlength]
  dsimp only
  omega

/-- Decoding an integer sample is inverse to encoding it. -/
theorem intOfBytes_bytesOfInt {v : Int} (hwidth : 0 < width) (hlow : (range width).1 ≤ v)
    (hhigh : v ≤ (range width).2) : intOfBytes (bytesOfInt width v) = v := by
  have hpow := pow_eq_two_mul hwidth
  have hpos : 0 < Nat.pow 256 width := Nat.pow_pos (by decide)
  dsimp only [range] at hlow hhigh
  obtain ⟨residue, hresidue⟩ := Int.eq_ofNat_of_zero_le
    (Int.emod_nonneg v (b := (Nat.pow 256 width : Nat)) (by omega))
  have hlt : residue < Nat.pow 256 width := by
    have hbelow := Int.emod_lt_of_pos v (b := (Nat.pow 256 width : Nat)) (by omega)
    omega
  have hnat : natOfBytes (bytesOfInt width v) = residue := by
    rw [bytesOfInt, hresidue, Int.toNat_natCast, natOfBytes_bytesOfNat]
    exact Nat.mod_eq_of_lt hlt
  rw [intOfBytes, length_bytesOfInt, hnat, ← hresidue, Int.emod_bmod]
  exact Int.bmod_eq_of_le (by omega) (by omega)

end Sample

/-- The magnitude of a pattern is not below zero. -/
theorem Single.magnitude_nonneg {x : Single} {negative : Bool} {magnitude : Rat}
    (h : x.value = .finite negative magnitude) : 0 ≤ magnitude := by
  unfold value at h
  split at h
  · split at h <;> contradiction
  · split at h <;> (cases h; positivity)

namespace Gain

variable {format : SampleFormat} {channels frames k : Nat} {level x : Single} {q : Rat} {v : Int}
variable {bytes client queued : List UInt8} {bounds : Int × Int}

theorem clamp_mem (h : bounds.1 ≤ bounds.2) (v : Int) :
    bounds.1 ≤ clamp bounds v ∧ clamp bounds v ≤ bounds.2 := by
  unfold clamp
  omega

/-- A finite gain scales an integer sample to the rounded product, held to the range. -/
theorem scaleInt_of_toRat? {gain : Extended} (h : gain.toRat? = some q) :
    scaleInt bounds gain v =
      clamp bounds (Rounding.nearestAway (BinaryFormat.double.round (v * q))) := by
  cases gain with
  | finite negative magnitude =>
    cases h
    rfl
  | nan | infinite => contradiction

/-- A product that is not below zero is stored as such a sample. -/
theorem scaleInt_nonneg {gain : Extended} (hgain : gain.toRat? = some q) (hbounds : 0 ≤ bounds.2)
    (hproduct : 0 ≤ v * q) : 0 ≤ scaleInt bounds gain v := by
  have hrounded : 0 ≤ Rounding.nearestAway (BinaryFormat.double.round (v * q)) :=
    Rounding.le_nearestAway (by exact_mod_cast BinaryFormat.double.round_nonneg hproduct)
  rw [scaleInt_of_toRat? hgain, clamp]
  omega

/-- A product that is not above zero is stored as such a sample. -/
theorem scaleInt_nonpos {gain : Extended} (hgain : gain.toRat? = some q) (hbounds : bounds.1 ≤ 0)
    (hproduct : v * q ≤ 0) : scaleInt bounds gain v ≤ 0 := by
  have hrounded : Rounding.nearestAway (BinaryFormat.double.round (v * q)) ≤ 0 :=
    Rounding.nearestAway_le (by exact_mod_cast BinaryFormat.double.round_nonpos hproduct)
  rw [scaleInt_of_toRat? hgain, clamp]
  omega

/-- Frames have a whole number of samples. -/
theorem wholeSamples_eq (hchannels : 0 < channels) :
    wholeSamples format channels (frames * (channels * format.bytes)) = frames * channels := by
  have hframe : 0 < channels * format.bytes := Nat.mul_pos hchannels format.bytes_pos
  rw [wholeSamples, Nat.max_eq_left hchannels, Nat.mul_div_cancel _ hframe]

end Gain

end AudioRelay
