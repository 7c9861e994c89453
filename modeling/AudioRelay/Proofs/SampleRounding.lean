import Mathlib.Algebra.Order.Group.MinMax
import AudioRelay.Proofs.Nearest
import AudioRelay.Proofs.SampleGain

/-!
# Rounding of integer samples

The product of an integer sample and a gain is a number of double precision before it is rounded
to an integer. A sample of two or three bytes leaves the product so few digits that double
precision holds it, and the sample is rounded once. The product of a sample of four bytes may have
more digits. It is then rounded twice, and ends on a farther integer exactly where the first
rounding carries it away from zero onto the middle of two integers.
-/

namespace AudioRelay

namespace Sample

variable {bytes : List UInt8} {width : Nat} {v : Int}

theorem natOfBytes_append (low high : List UInt8) :
    natOfBytes (low ++ high) = natOfBytes low + 256 ^ low.length * natOfBytes high := by
  induction low with
  | nil => rw [List.nil_append, natOfBytes, List.length_nil, Nat.pow_zero, Nat.one_mul,
      Nat.zero_add]
  | cons b rest ih =>
    rw [List.cons_append, natOfBytes, natOfBytes, ih, List.length_cons, Nat.pow_succ']
    ring

theorem natOfBytes_lt (bytes : List UInt8) : natOfBytes bytes < 256 ^ bytes.length := by
  induction bytes with
  | nil => decide
  | cons b rest ih =>
    have hb : b.toNat < 256 := b.toNat_lt
    rw [natOfBytes, List.length_cons, Nat.pow_succ']
    omega

/-- The byte that continues a number beyond its highest byte, by the sign bit. -/
def signByte (bytes : List UInt8) : UInt8 :=
  if (bytes.getLastD 0).toNat < 0x80 then 0 else 0xff

/-- A number with its sign extended by a byte is the same number. -/
theorem intOfBytes_signExtended (h : bytes ≠ []) :
    intOfBytes (bytes ++ [signByte bytes]) = intOfBytes bytes := by
  obtain ⟨low, top, rfl⟩ : ∃ low top, bytes = low ++ [top] :=
    ⟨_, _, (List.dropLast_append_getLast h).symm⟩
  obtain ⟨n, hn⟩ : ∃ n, n = natOfBytes (low ++ [top]) := ⟨_, rfl⟩
  obtain ⟨size, hsize⟩ : ∃ size, size = 256 ^ low.length := ⟨_, rfl⟩
  have hlow : natOfBytes low < size := hsize ▸ natOfBytes_lt low
  have htop : n = natOfBytes low + size * top.toNat := by
    rw [hn, natOfBytes_append, hsize]
    rfl
  have hpatterns : Nat.pow 256 (low ++ [top]).length = 256 * size := by
    rw [List.length_append, hsize]
    exact Nat.pow_succ'
  have hextended : natOfBytes (low ++ [top] ++ [signByte (low ++ [top])]) =
      n + 256 * size * (signByte (low ++ [top])).toNat := by
    rw [natOfBytes_append, ← hn, ← hpatterns]
    rfl
  have hlength : Nat.pow 256 (low ++ [top] ++ [signByte (low ++ [top])]).length =
      256 * (256 * size) := by
    rw [List.length_append, ← hpatterns]
    exact Nat.pow_succ'
  rw [intOfBytes, intOfBytes, hextended, hlength, hpatterns, ← hn]
  unfold signByte
  rw [List.getLastD_concat]
  split
  · rename_i hpositive
    have hbound : size * top.toNat ≤ size * 127 := Nat.mul_le_mul_left _ (by omega)
    rw [Int.bmod_eq_of_le, Int.bmod_eq_of_le] <;> simp <;> omega
  · rename_i hnegative
    have hbyte : top.toNat < 256 := top.toNat_lt
    have hbound : size * 128 ≤ size * top.toNat := Nat.mul_le_mul_left _ (by omega)
    have habove : size * top.toNat ≤ size * 255 := Nat.mul_le_mul_left _ (by omega)
    rw [← Int.sub_bmod_right, ← Int.sub_bmod_right (n : Int), Int.bmod_eq_of_le, Int.bmod_eq_of_le]
      <;> simp <;> omega

/-- The lowest bytes of a number do not see what is beyond their width. -/
theorem bytesOfNat_congr {m n : Nat} (h : m % 256 ^ width = n % 256 ^ width) :
    bytesOfNat width m = bytesOfNat width n := by
  induction width generalizing m n with
  | zero => rfl
  | succ width ih =>
    rw [Nat.pow_succ', Nat.mod_mul, Nat.mod_mul] at h
    have hlow : m % 256 = n % 256 := by omega
    have hhigh : m / 256 % 256 ^ width = n / 256 % 256 ^ width := by omega
    have hbyte : UInt8.ofNat m = UInt8.ofNat n := by
      apply UInt8.toNat_inj.mp
      rw [UInt8.toNat_ofNat', UInt8.toNat_ofNat']
      exact hlow
    rw [bytesOfNat, bytesOfNat, hbyte, ih hhigh]

theorem take_bytesOfNat (width n : Nat) :
    (bytesOfNat (width + 1) n).take width = bytesOfNat width n := by
  induction width generalizing n with
  | zero => rfl
  | succ width ih =>
    rw [bytesOfNat, List.take_succ_cons, ih]
    rfl

/-- An integer loses its highest byte when it is stored in one byte less. -/
theorem take_bytesOfInt (width : Nat) (v : Int) :
    (bytesOfInt (width + 1) v).take width = bytesOfInt width v := by
  rw [bytesOfInt, take_bytesOfNat, bytesOfInt]
  apply bytesOfNat_congr
  have hdvd : ((Nat.pow 256 width : Nat) : Int) ∣ (Nat.pow 256 (width + 1) : Nat) :=
    Int.natCast_dvd_natCast.mpr (Nat.pow_dvd_pow 256 width.le_succ)
  have hpos (w : Nat) : ((Nat.pow 256 w : Nat) : Int) ≠ 0 := by
    have hpow : 0 < Nat.pow 256 w := Nat.pow_pos (by decide)
    omega
  apply Int.natCast_inj.mp
  rw [Int.natCast_emod, Int.natCast_emod, Int.toNat_of_nonneg (Int.emod_nonneg v (hpos _)),
    Int.toNat_of_nonneg (Int.emod_nonneg v (hpos _))]
  exact (Int.emod_emod_of_dvd v hdvd).trans (Int.emod_emod v (Nat.pow 256 width : Nat)).symm

theorem bytesOfNat_natOfBytes (bytes : List UInt8) :
    bytesOfNat bytes.length (natOfBytes bytes) = bytes := by
  induction bytes with
  | nil => rfl
  | cons b rest ih =>
    have hb : b.toNat < 256 := b.toNat_lt
    have hrest : (b.toNat + 256 * natOfBytes rest) / 256 = natOfBytes rest := by omega
    have hbyte : UInt8.ofNat (b.toNat + 256 * natOfBytes rest) = b := by
      apply UInt8.toNat_inj.mp
      rw [UInt8.toNat_ofNat']
      omega
    rw [List.length_cons, natOfBytes, bytesOfNat, hrest, hbyte, ih]

/-- Encoding an integer sample is inverse to decoding it. -/
theorem bytesOfInt_intOfBytes (bytes : List UInt8) :
    bytesOfInt bytes.length (intOfBytes bytes) = bytes := by
  have hlt : (natOfBytes bytes : Int) < (Nat.pow 256 bytes.length : Nat) := by
    exact_mod_cast natOfBytes_lt bytes
  rw [bytesOfInt, intOfBytes, Int.bmod_emod, Int.emod_eq_of_lt (by omega) hlt, Int.toNat_natCast,
    bytesOfNat_natOfBytes]

/-- Bytes are the two's complement of an integer, which is also what they spell with their sign
extended by a byte, and what is cut down to them. -/
structure StandsFor (bytes : List UInt8) (v : Int) : Prop where
  decoded : intOfBytes bytes = v
  encoded : bytesOfInt bytes.length v = bytes
  extended : intOfBytes (bytes ++ [signByte bytes]) = v
  truncated : (bytesOfInt (bytes.length + 1) v).take bytes.length = bytes

theorem standsFor_intOfBytes (h : bytes ≠ []) : StandsFor bytes (intOfBytes bytes) where
  decoded := rfl
  encoded := bytesOfInt_intOfBytes bytes
  extended := intOfBytes_signExtended h
  truncated := by rw [take_bytesOfInt, bytesOfInt_intOfBytes]

end Sample

namespace Gain

variable {format : SampleFormat} {channels k : Nat} {level : Single} {g p q : Rat} {v n : Int}
variable {bounds : Int × Int} {buffer : List UInt8}

/-- What an integer sample becomes under a gain. A finite gain takes it to the integer nearest to
the exact product, a half going away from zero, held to the bounds. An infinite product takes it
to the bound on its side, and an undefined one to silence. -/
structure Scales (bounds : Int × Int) (gain : Extended) (v w : Int) : Prop where
  finite (g : Rat) : gain.toRat? = some g →
    ∃ n, Rounding.IsNearestAway (v * g) n ∧ w = max bounds.1 (min bounds.2 n)
  undefined : gain = .nan → w = 0
  infinite (negative : Bool) : gain = .infinite negative →
    (v = 0 → w = 0) ∧ (0 < v → w = if negative then bounds.1 else bounds.2) ∧
      (v < 0 → w = if negative then bounds.2 else bounds.1)

/-- A sample of so few digits has a product that double precision holds. -/
theorem round_product (hg : level.value.toRat? = some g) (hv : |v| ≤ 2 ^ 29) :
    BinaryFormat.double.round (v * g) = v * g :=
  BinaryFormat.round_of_holds (by decide)
    ((Single.holds_of_toRat? hg).intCast_mul hv (by decide) (by decide))

/-- A sample of so few digits is rounded once. -/
theorem scales_scaleInt (hv : |v| ≤ 2 ^ 29) :
    Scales bounds level.value v (scaleInt bounds level.value v) where
  finite g hg := by
    rw [scaleInt_of_toRat? hg, round_product hg hv]
    exact ⟨_, Rounding.nearestAway_spec _, rfl⟩
  undefined hnan := by rw [hnan, scaleInt]
  infinite negative hinfinite := by
    rw [hinfinite, scaleInt]
    refine ⟨fun hv => if_pos hv, fun hv => ?_, fun hv => ?_⟩
    · rw [if_neg (by omega), decide_eq_false (by omega)]
      cases negative <;> rfl
    · rw [if_neg (by omega), decide_eq_true hv]
      cases negative <;> rfl

/-- A scaled sample is in the bounds under every gain. -/
theorem scaleInt_mem (hbounds : bounds.1 ≤ 0 ∧ 0 ≤ bounds.2) (gain : Extended) (v : Int) :
    bounds.1 ≤ scaleInt bounds gain v ∧ scaleInt bounds gain v ≤ bounds.2 := by
  unfold scaleInt
  split
  · exact hbounds
  · split_ifs <;> omega
  · exact clamp_mem (hbounds.1.trans hbounds.2) _

/-- A sample in the whole frames spells an integer. -/
theorem standsFor_sampleAt (hk : k < wholeSamples format channels buffer.length) :
    Sample.StandsFor (format.sampleAt k buffer)
      (Sample.intOfBytes (format.sampleAt k buffer)) := by
  apply Sample.standsFor_intOfBytes
  apply List.ne_nil_of_length_pos
  rw [length_sampleAt hk (wholeSamples_mul_le _ _ _)]
  exact format.bytes_pos

/-- The stored sample spells the scaled integer. -/
theorem standsFor_scaled (hformat : format ≠ .f32) (hlevel : level ≠ Single.one)
    (hk : k < wholeSamples format channels buffer.length) :
    Sample.StandsFor (format.sampleAt k (apply format channels level buffer))
      (scaleInt (Sample.range format.bytes) level.value
        (Sample.intOfBytes (format.sampleAt k buffer))) := by
  obtain ⟨v, hv⟩ : ∃ v, v = Sample.intOfBytes (format.sampleAt k buffer) := ⟨_, rfl⟩
  obtain ⟨w, hw⟩ : ∃ w, w = scaleInt (Sample.range format.bytes) level.value v := ⟨_, rfl⟩
  have hstored : format.sampleAt k (apply format channels level buffer) =
      Sample.bytesOfInt format.bytes w := by
    rw [sampleAt_apply hlevel hk, hw, hv]
    cases format with
    | f32 => contradiction
    | i16 | i32 | i24Packed | i24Padded => rfl
  have hrange : (Sample.range format.bytes).1 ≤ w ∧ w ≤ (Sample.range format.bytes).2 := by
    rw [hw]
    apply scaleInt_mem
    cases format <;> decide
  have hdecoded := Sample.intOfBytes_bytesOfInt format.bytes_pos hrange.1 hrange.2
  have hsome : Sample.bytesOfInt format.bytes w ≠ [] := by
    apply List.ne_nil_of_length_pos
    rw [Sample.length_bytesOfInt]
    exact format.bytes_pos
  have hstands := Sample.standsFor_intOfBytes hsome
  rw [hdecoded] at hstands
  rwa [hstored, ← hv, ← hw]

/-- Every sample of two or three bytes in the whole frames is scaled with one rounding. -/
theorem apply_rounds_once (hformat : format = .i16 ∨ format = .i24Packed)
    (hlevel : level ≠ Single.one) (hk : k < wholeSamples format channels buffer.length) :
    ∃ v w, Sample.StandsFor (format.sampleAt k buffer) v ∧
      Sample.StandsFor (format.sampleAt k (apply format channels level buffer)) w ∧
      Scales (Sample.range format.bytes) level.value v w := by
  have hinteger : format ≠ .f32 := by rcases hformat with rfl | rfl <;> decide
  refine ⟨_, _, standsFor_sampleAt hk, standsFor_scaled hinteger hlevel hk, scales_scaleInt ?_⟩
  have hrange := Sample.intOfBytes_mem_range
    (length_sampleAt hk (wholeSamples_mul_le format _ _)) format.bytes_pos
  have hsmall : -2 ^ 29 ≤ (Sample.range format.bytes).1 ∧
      (Sample.range format.bytes).2 ≤ 2 ^ 29 := by
    rcases hformat with rfl | rfl <;> decide
  exact abs_le.mpr ⟨hsmall.1.trans hrange.1, hrange.2.trans hsmall.2⟩

/-- A packed sample of 3 becomes -2 at half its size and the other sign. -/
theorem rounds_minus_one_and_a_half :
    (SampleFormat.i24Packed = .i16 ∨ SampleFormat.i24Packed = .i24Packed) ∧
      (⟨0xbf000000⟩ : Single) ≠ Single.one ∧ 0 < wholeSamples .i24Packed 1 3 ∧
      apply .i24Packed 1 ⟨0xbf000000⟩ [3, 0, 0] = [0xfe, 0xff, 0xff] ∧
      ∃ v w, Sample.StandsFor (SampleFormat.i24Packed.sampleAt 0 [3, 0, 0]) v ∧
        Sample.StandsFor (SampleFormat.i24Packed.sampleAt 0
          (apply .i24Packed 1 ⟨0xbf000000⟩ [3, 0, 0])) w ∧
        Scales (Sample.range SampleFormat.i24Packed.bytes) (Single.value ⟨0xbf000000⟩) v w :=
  ⟨by decide, by decide, by decide, by decide +kernel,
    apply_rounds_once (by decide) (by decide) (by decide)⟩

/-- The number of the bounds that is nearest to `q`. -/
def hold (bounds : Int × Int) (q : Rat) : Rat := max (bounds.1 : Rat) (min (bounds.2 : Rat) q)

theorem hold_intCast (bounds : Int × Int) (n : Int) : hold bounds n = clamp bounds n := by
  rw [hold, clamp]
  push_cast
  rfl

/-- Holding two numbers to bounds does not take them apart. -/
theorem abs_hold_sub_le (bounds : Int × Int) (p q : Rat) :
    |hold bounds p - hold bounds q| ≤ |p - q| := by
  calc |hold bounds p - hold bounds q|
      ≤ max |(bounds.1 : Rat) - bounds.1| |min (bounds.2 : Rat) p - min (bounds.2 : Rat) q| :=
        abs_max_sub_max_le_max _ _ _ _
    _ ≤ max |(bounds.1 : Rat) - bounds.1| (max |(bounds.2 : Rat) - bounds.2| |p - q|) := by
        gcongr
        exact abs_min_sub_min_le_max _ _ _ _
    _ = |p - q| := by simp

theorem range_four : Sample.range 4 = (-2147483648, 2147483647) := by decide

/-- The integer found for a product that is rounded to double precision first. -/
def roundedTwice (p : Rat) : Int := Rounding.nearestAway (BinaryFormat.double.round p)

theorem roundedTwice_spec (p : Rat) :
    Rounding.IsNearestAway (BinaryFormat.double.round p) (roundedTwice p) :=
  Rounding.nearestAway_spec _

/-- Where rounding to double precision carries a product away from zero onto the middle of two
integers, of which the farther one is in the bounds. -/
structure CarriedAway (bounds : Int × Int) (p : Rat) : Prop where
  farther : |p| < |BinaryFormat.double.round p|
  middle : ∃ j : Int, BinaryFormat.double.round p = j + 1 / 2
  inside : bounds.1 ≤ roundedTwice p ∧ roundedTwice p ≤ bounds.2

/-- What a product that is rounded twice becomes: an integer no farther than a half and `2⁻²³` from
the product held to the bounds, and no farther than a half unless the product was carried away. -/
structure RoundsTwice (bounds : Int × Int) (p : Rat) (w : Int) : Prop where
  close : |(w : Rat) - hold bounds p| ≤ 1 / 2 + 1 / 2 ^ 23
  nearest : |(w : Rat) - hold bounds p| ≤ 1 / 2 ↔ ¬CarriedAway bounds p

/-- Beyond the range both roundings stay beyond it. -/
theorem clamp_eq_hold_of_beyond (h : 2 ^ 31 ≤ |p|) :
    (clamp (Sample.range 4) (roundedTwice p) : Rat) = hold (Sample.range 4) p := by
  have hheld : BinaryFormat.double.Holds ((2 ^ 31 : Int) : Rat) :=
    ⟨2 ^ 31, 0, by decide, by decide, by norm_num⟩
  rw [range_four, ← hold_intCast]
  obtain hpos | hneg := le_abs.mp h
  · have hround : 2 ^ 31 ≤ roundedTwice p :=
      Rounding.le_nearestAway (BinaryFormat.le_round (by decide) hheld (by exact_mod_cast hpos))
    have hcast : (2 : Rat) ^ 31 ≤ roundedTwice p := by
      exact_mod_cast hround
    rw [hold, hold, min_eq_left (by push_cast; linarith), min_eq_left (by push_cast; linarith)]
  · have hheldNeg : BinaryFormat.double.Holds ((-2 ^ 31 : Int) : Rat) := by
      rw [Int.cast_neg]
      exact hheld.neg
    have hround : roundedTwice p ≤ -2 ^ 31 :=
      Rounding.nearestAway_le
        (BinaryFormat.round_le (by decide) hheldNeg (by push_cast; linarith))
    have hcast : (roundedTwice p : Rat) ≤ -2 ^ 31 := by
      exact_mod_cast hround
    rw [hold, hold, max_eq_left, max_eq_left]
    · exact (min_le_right _ _).trans (by push_cast; linarith)
    · exact (min_le_right _ _).trans (by push_cast; linarith)

/-- Rounding to double precision is off by very little within the range. -/
theorem abs_double_round_sub_le (h : |p| < 2 ^ 31) :
    |BinaryFormat.double.round p - p| ≤ 1 / 2 ^ 23 := by
  have hunit : BinaryFormat.double.unit p ≤ -22 :=
    BinaryFormat.double.unit_le 31 (by decide) (by exact_mod_cast h)
  calc |BinaryFormat.double.round p - p|
      ≤ (2 : Rat) ^ BinaryFormat.double.unit p / 2 := BinaryFormat.double.abs_round_sub_le p
    _ ≤ (2 : Rat) ^ (-22 : Int) / 2 := by
        gcongr
        exact one_le_two
    _ = 1 / 2 ^ 23 := by norm_num

/-- Within the range the integer found is little more than a half off. -/
theorem abs_roundedTwice_sub_le (h : |p| < 2 ^ 31) :
    |(roundedTwice p : Rat) - p| ≤ 1 / 2 + 1 / 2 ^ 23 := by
  calc |(roundedTwice p : Rat) - p|
      ≤ |(roundedTwice p : Rat) - BinaryFormat.double.round p| +
          |BinaryFormat.double.round p - p| := abs_sub_le _ _ _
    _ ≤ 1 / 2 + 1 / 2 ^ 23 := add_le_add (roundedTwice_spec p).near (abs_double_round_sub_le h)

/-- Within the range the integer found is nearest to the product unless the first rounding went away
from zero onto the middle of two integers. -/
theorem near_iff (h : |p| < 2 ^ 31) :
    |(roundedTwice p : Rat) - p| ≤ 1 / 2 ↔
      ¬(|p| < |BinaryFormat.double.round p| ∧
        ∃ j : Int, BinaryFormat.double.round p = j + 1 / 2) := by
  have hclose := abs_roundedTwice_sub_le h
  have hsize : |roundedTwice p| ≤ 2 ^ 32 := by
    have hcast : |(roundedTwice p : Rat)| ≤ 2 ^ 32 := by
      linarith [abs_sub_abs_le_abs_sub (roundedTwice p : Rat) p]
    exact_mod_cast hcast
  rw [Rounding.middle_iff]
  exact BinaryFormat.near_iff_of_round (by decide) (roundedTwice_spec p)
    (BinaryFormat.holds_middle hsize (by decide) (by decide))

/-- A product that is carried away to an integer of the bounds is within them itself. -/
theorem hold_of_carriedAway (hbounds : bounds.1 ≤ 0 ∧ 0 ≤ bounds.2) (h : CarriedAway bounds p) :
    hold bounds p = p ∧ |p| < |(roundedTwice p : Rat)| := by
  obtain ⟨hfarther, hmiddle, hinside⟩ := h
  have haway := hfarther.trans ((roundedTwice_spec p).away (Rounding.middle_iff.mp hmiddle))
  refine ⟨?_, haway⟩
  have hlow : (bounds.1 : Rat) ≤ roundedTwice p := by
    exact_mod_cast hinside.1
  have hhigh : (roundedTwice p : Rat) ≤ bounds.2 := by
    exact_mod_cast hinside.2
  have hzero : (bounds.1 : Rat) ≤ 0 ∧ (0 : Rat) ≤ bounds.2 := by exact_mod_cast hbounds
  -- The integer is on the side of the product and farther from zero.
  obtain hpos | hneg := le_total 0 p
  · have hround := Rounding.le_nearestAway (n := 0)
      (by exact_mod_cast BinaryFormat.double.round_nonneg hpos)
    have hcast : (0 : Rat) ≤ roundedTwice p := by
      exact_mod_cast hround
    rw [abs_of_nonneg hpos, abs_of_nonneg hcast] at haway
    rw [hold, min_eq_right (by linarith), max_eq_right (by linarith)]
  · have hround := Rounding.nearestAway_le (n := 0)
      (by exact_mod_cast BinaryFormat.double.round_nonpos hneg)
    have hcast : (roundedTwice p : Rat) ≤ 0 := by
      exact_mod_cast hround
    rw [abs_of_nonpos hneg, abs_of_nonpos hcast] at haway
    rw [hold, min_eq_right (by linarith), max_eq_right (by linarith)]

/-- Beyond the bounds the integer and the product are held to the same bound. -/
theorem clamp_eq_hold_of_outside (hbounds : bounds.1 ≤ bounds.2) (hnear : |(n : Rat) - p| < 1)
    (h : n < bounds.1 ∨ bounds.2 < n) : (clamp bounds n : Rat) = hold bounds p := by
  rw [← hold_intCast]
  rw [abs_lt] at hnear
  have hcast : (bounds.1 : Rat) ≤ bounds.2 := by exact_mod_cast hbounds
  obtain hlow | hhigh := h
  · have hbelow : (n : Rat) ≤ bounds.1 - 1 := by exact_mod_cast Int.le_sub_one_of_lt hlow
    rw [hold, hold, min_eq_right (by linarith), min_eq_right (by linarith),
      max_eq_left (by linarith), max_eq_left (by linarith)]
  · have habove : (bounds.2 : Rat) + 1 ≤ n := by exact_mod_cast hhigh
    rw [hold, hold, min_eq_left (by linarith), min_eq_left (by linarith)]

/-- A sample of four bytes is rounded twice. -/
theorem roundsTwice_scaleInt (hg : level.value.toRat? = some g) :
    RoundsTwice (Sample.range 4) (v * g) (scaleInt (Sample.range 4) level.value v) := by
  obtain ⟨p, hp⟩ : ∃ p, p = v * g := ⟨_, rfl⟩
  rw [scaleInt_of_toRat? hg, ← hp]
  change RoundsTwice _ p (clamp _ (roundedTwice p))
  have hbounds : (Sample.range 4).1 ≤ 0 ∧ 0 ≤ (Sample.range 4).2 := by decide
  obtain hbeyond | hwithin := le_or_gt (2 ^ 31) |p|
  · have hexact :
        |(clamp (Sample.range 4) (roundedTwice p) : Rat) - hold (Sample.range 4) p| = 0 := by
      rw [clamp_eq_hold_of_beyond hbeyond, sub_self, abs_zero]
    refine ⟨by rw [hexact]; positivity, iff_of_true (by rw [hexact]; positivity) fun hcarried => ?_⟩
    -- An integer of the bounds is not farther from zero than the range reaches.
    have hsize : |roundedTwice p| ≤ 2 ^ 31 := by
      have hinside := hcarried.inside
      rw [range_four] at hinside
      exact abs_le.mpr ⟨hinside.1, by omega⟩
    have hcast : |(roundedTwice p : Rat)| ≤ 2 ^ 31 := by exact_mod_cast hsize
    linarith [(hold_of_carriedAway hbounds hcarried).2]
  · have hclose := abs_roundedTwice_sub_le hwithin
    have hlipschitz := abs_hold_sub_le (Sample.range 4) (roundedTwice p) p
    rw [hold_intCast] at hlipschitz
    refine ⟨hlipschitz.trans hclose, fun hnear hcarried => ?_, fun hcarried => ?_⟩
    · have hclamp : clamp (Sample.range 4) (roundedTwice p) = roundedTwice p := by
        have hinside := hcarried.inside
        unfold clamp
        omega
      rw [(hold_of_carriedAway hbounds hcarried).1, hclamp] at hnear
      exact (near_iff hwithin).mp hnear ⟨hcarried.farther, hcarried.middle⟩
    · by_cases hnear : |(roundedTwice p : Rat) - p| ≤ 1 / 2
      · exact hlipschitz.trans hnear
      · rw [near_iff hwithin, not_not] at hnear
        have houtside : roundedTwice p < (Sample.range 4).1 ∨
            (Sample.range 4).2 < roundedTwice p := by
          by_contra hinside
          rw [not_or, not_lt, not_lt] at hinside
          exact hcarried ⟨hnear.1, hnear.2, hinside⟩
        rw [clamp_eq_hold_of_outside (by decide) (hclose.trans_lt (by norm_num)) houtside, sub_self,
          abs_zero]
        positivity

/-- Every sample of four bytes in the whole frames is scaled with two roundings. -/
theorem apply_rounds_twice (hformat : format = .i32 ∨ format = .i24Padded)
    (hlevel : level ≠ Single.one) (hg : level.value.toRat? = some g)
    (hk : k < wholeSamples format channels buffer.length) :
    ∃ v w, Sample.StandsFor (format.sampleAt k buffer) v ∧
      Sample.StandsFor (format.sampleAt k (apply format channels level buffer)) w ∧
      RoundsTwice (-2147483648, 2147483647) (v * g) w := by
  have hinteger : format ≠ .f32 ∧ format.bytes = 4 := by rcases hformat with rfl | rfl <;> decide
  have hscaled := standsFor_scaled hinteger.1 hlevel hk
  rw [hinteger.2] at hscaled
  rw [← range_four]
  exact ⟨_, _, standsFor_sampleAt hk, hscaled, roundsTwice_scaleInt hg⟩

/-- A sample of 2139095041 at almost its size is stored as 2139094914. -/
theorem rounds_up_from_the_middle :
    (SampleFormat.i32 = .i32 ∨ SampleFormat.i32 = .i24Padded) ∧
      (⟨0x3f7fffff⟩ : Single) ≠ Single.one ∧
      (Single.value ⟨0x3f7fffff⟩).toRat? = some (16777215 / 16777216) ∧
      0 < wholeSamples .i32 1 4 ∧
      ∃ v w, Sample.StandsFor (SampleFormat.i32.sampleAt 0 [0x01, 0x00, 0x80, 0x7f]) v ∧
        Sample.StandsFor (SampleFormat.i32.sampleAt 0
          (apply .i32 1 ⟨0x3f7fffff⟩ [0x01, 0x00, 0x80, 0x7f])) w ∧
        RoundsTwice (-2147483648, 2147483647) (v * (16777215 / 16777216)) w :=
  ⟨by decide, by decide, by decide +kernel, by decide,
    apply_rounds_twice (by decide) (by decide) (by decide +kernel) (by decide)⟩

/-- The exact product there is 2139094913.5 - 2⁻²⁴, which the first rounding carries onto the
middle of two integers: the stored integer is not the nearest one. -/
theorem farther_than_half :
    Sample.intOfBytes [0x01, 0x00, 0x80, 0x7f] = 2139095041 ∧
      (Single.value ⟨0x3f7fffff⟩).toRat? = some (16777215 / 16777216) ∧
      Sample.intOfBytes (apply .i32 1 ⟨0x3f7fffff⟩ [0x01, 0x00, 0x80, 0x7f]) = 2139094914 ∧
      1 / 2 < |((2139094914 : Int) : Rat) -
        hold (-2147483648, 2147483647) (2139095041 * (16777215 / 16777216))| := by
  refine ⟨by decide, by decide +kernel, by decide +kernel, ?_⟩
  rw [hold]
  norm_num

end Gain

end AudioRelay
