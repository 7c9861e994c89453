import AudioRelay.Proofs.NearestPattern
import AudioRelay.Proofs.SampleRounding

/-!
# Floating-point samples under a gain

Double precision holds the product of any two numbers of single precision, so a floating-point
sample is rounded once, after its product was held between minus one and one. It stays a number
unless it or the gain is none, or zero meets an infinity, and it has the sign of its product.
-/

namespace AudioRelay

namespace Extended

variable {a b : Extended} {s t : Bool} {m p q : Rat}

/-- The sign of an extended number, if it is one. -/
def sign? : Extended → Option Bool
  | nan => none
  | infinite negative => some negative
  | finite negative _ => some negative

theorem infinite_mul_finite (s t : Bool) (m : Rat) :
    (infinite s).mul (finite t m) = if m = 0 then nan else infinite (s != t) := rfl

theorem finite_mul_infinite (s t : Bool) (m : Rat) :
    (finite s m).mul (infinite t) = if m = 0 then nan else infinite (s != t) := rfl

theorem toRat?_finite_eq_zero_iff : (finite s m).toRat? = some 0 ↔ m = 0 := by
  cases s <;> simp [toRat?]

/-- A product with no number is none, nor is that of zero and an infinity. -/
theorem mul_eq_nan_iff : a.mul b = nan ↔ a = nan ∨ b = nan ∨
    ∃ s, a.toRat? = some 0 ∧ b = infinite s ∨ a = infinite s ∧ b.toRat? = some 0 := by
  cases a with
  | nan => cases b <;> simp [mul]
  | infinite u =>
    cases b with
    | nan => simp [mul]
    | infinite t => simp [mul, toRat?]
    | finite t q => simp [infinite_mul_finite, toRat?_finite_eq_zero_iff]
  | finite u p =>
    cases b with
    | nan => simp [mul]
    | infinite t => simp [finite_mul_infinite, toRat?_finite_eq_zero_iff]
    | finite t q => simp [mul]

/-- The sign of a product. -/
theorem sign?_mul (ha : a.sign? = some s) (hb : b.sign? = some t) (h : a.mul b ≠ nan) :
    (a.mul b).sign? = some (s != t) := by
  cases a with
  | nan => contradiction
  | infinite u =>
    cases ha
    cases b with
    | nan => contradiction
    | infinite v => cases hb; rfl
    | finite v q =>
      cases hb
      rw [infinite_mul_finite] at h ⊢
      rw [if_neg (fun hq => h (if_pos hq)), sign?]
  | finite u p =>
    cases ha
    cases b with
    | nan => contradiction
    | infinite v =>
      cases hb
      rw [finite_mul_infinite] at h ⊢
      rw [if_neg (fun hp => h (if_pos hp)), sign?]
    | finite v q => cases hb; rfl

/-- The signed value of a product is the product of the signed values. -/
theorem toRat?_mul (ha : a.toRat? = some p) (hb : b.toRat? = some q) :
    (a.mul b).toRat? = some (p * q) := by
  cases a with
  | nan | infinite u => contradiction
  | finite u m =>
    cases b with
    | nan | infinite v => contradiction
    | finite v n =>
      cases ha
      cases hb
      cases u <;> cases v <;> simp [mul, toRat?]

/-- A number with a signed value is finite. -/
theorem eq_finite_of_toRat? (h : a.toRat? = some q) :
    ∃ s m, a = finite s m ∧ q = if s then -m else m := by
  cases a with
  | nan | infinite u => contradiction
  | finite u m => exact ⟨u, m, rfl, (Option.some.inj h).symm⟩

/-- A finite product is one of finite numbers. -/
theorem mul_eq_finite (h : a.mul b = finite s m) :
    ∃ u p t q, a = finite u p ∧ b = finite t q ∧ s = (u != t) ∧ m = p * q := by
  cases a with
  | nan => cases b <;> contradiction
  | infinite u =>
    cases b with
    | nan | infinite v => contradiction
    | finite v q =>
      rw [infinite_mul_finite] at h
      split_ifs at h
  | finite u p =>
    cases b with
    | nan => contradiction
    | infinite v =>
      rw [finite_mul_infinite] at h
      split_ifs at h
    | finite v q =>
      cases h
      exact ⟨u, p, v, q, rfl, rfl, rfl, rfl⟩

end Extended

namespace Single

variable {x y : Single} {s : Bool} {m p q : Rat}

/-- A pattern that stands for a number has its sign. -/
theorem sign?_value (h : x.value ≠ .nan) : x.value.sign? = some x.negative := by
  unfold value at h ⊢
  split_ifs at h ⊢ <;> first | rfl | contradiction

/-- The pattern of an undefined product stands for no number. -/
theorem isNaN_undefined : undefined.isNaN = true := by decide +kernel

theorem isNaN_iff : x.isNaN = true ↔ x.exponent = 255 ∧ x.fraction ≠ 0 := by
  unfold isNaN value
  split_ifs with hexponent hfraction
  · simp [hexponent, hfraction]
  · simp [hexponent, hfraction]
  · simp [hexponent]
  · simp [hexponent]

/-- A pattern without a value has none when it is marked as quiet. -/
theorem isNaN_quiet (h : x.isNaN = true) : x.quiet.isNaN = true := by
  have hbits : x.quiet.bits.toNat = x.bits.toNat ||| 2 ^ 22 := UInt32.toNat_or _ _
  have hhigh : x.quiet.bits.toNat / 2 ^ 23 = x.bits.toNat / 2 ^ 23 := by
    rw [hbits, Nat.or_div_two_pow, Nat.div_eq_of_lt (by decide : 2 ^ 22 < 2 ^ 23), Nat.or_zero]
  have hlow : 2 ^ 22 ≤ x.quiet.bits.toNat % 2 ^ 23 := by
    rw [hbits, Nat.or_mod_two_pow]
    exact Nat.right_le_or
  rw [isNaN_iff] at h ⊢
  unfold exponent fraction at h ⊢
  omega

/-- The magnitude of a finite pattern is a number of single precision. -/
theorem holds_magnitude (h : x.value = .finite s m) : BinaryFormat.single.Holds m := by
  have hsigned : BinaryFormat.single.Holds (if s then -m else m) :=
    holds_of_toRat? (x := x) (by rw [h]; rfl)
  cases s with
  | false => exact hsigned
  | true =>
    rw [← neg_neg m]
    exact hsigned.neg

/-- The magnitude of a finite pattern is below the 128th power of two. -/
theorem magnitude_lt (h : x.value = .finite s m) : m < 2 ^ 128 := by
  have hfraction : x.fraction < 2 ^ 23 := Nat.mod_lt _ (by decide)
  have hexponent : x.exponent < 256 := Nat.mod_lt _ (by decide)
  unfold value at h
  split_ifs at h with htop hzero
  · cases h
    calc (x.fraction : Rat) * 2 ^ (-149 : Int)
        ≤ 2 ^ (23 : Int) * 2 ^ (-149 : Int) := by
          gcongr
          exact_mod_cast hfraction.le
      _ < 2 ^ 128 := by norm_num
  · cases h
    have hunits : 0x800000 + x.fraction < 2 ^ 24 := by omega
    have hplace : (x.exponent : Int) - 150 ≤ 104 := by omega
    calc ((0x800000 + x.fraction : Nat) : Rat) * 2 ^ ((x.exponent : Int) - 150)
        < 2 ^ (24 : Int) * 2 ^ ((x.exponent : Int) - 150) := by
          gcongr
          exact_mod_cast hunits
      _ ≤ 2 ^ (24 : Int) * 2 ^ (104 : Int) := by
          gcongr
          exact one_le_two
      _ = 2 ^ 128 := by norm_num

theorem abs_lt_of_toRat? (h : x.value.toRat? = some q) : |q| < 2 ^ 128 := by
  cases hvalue : x.value with
  | nan | infinite =>
    rw [hvalue] at h
    contradiction
  | finite s m =>
    have hsize : |q| = m := by
      rw [hvalue] at h
      cases h
      split
      · rw [abs_neg, abs_of_nonneg (magnitude_nonneg hvalue)]
      · exact abs_of_nonneg (magnitude_nonneg hvalue)
    exact hsize ▸ magnitude_lt hvalue

/-- Double precision holds the product of two finite patterns. -/
theorem holds_mul (hx : x.value.toRat? = some p) (hy : y.value.toRat? = some q) :
    BinaryFormat.double.Holds (p * q) :=
  (holds_of_toRat? hx).mul (holds_of_toRat? hy) (by decide) (by decide)

end Single

namespace Gain

variable {channels k : Nat} {level x y : Single} {buffer : List UInt8}

/-- What a floating-point sample `x` becomes under a gain. The product is exact before it is held
between minus one and one, and what is held is rounded correctly. An infinite product is held to
the bound on its side. -/
structure ScalesSingle (gain x y : Single) : Prop where
  undefined : y.isNaN = true ↔ x.isNaN = true ∨ gain.isNaN = true ∨
    ∃ s, x.value.toRat? = some 0 ∧ gain.value = .infinite s ∨
      x.value = .infinite s ∧ gain.value.toRat? = some 0
  /-- A zero has the sign of its product, too. -/
  side : y.isNaN = false → y.negative = (x.negative != gain.negative)
  bounded : y.isNaN = false → ∃ r, y.value.toRat? = some r ∧ -1 ≤ r ∧ r ≤ 1
  exact (p g : Rat) : x.value.toRat? = some p → gain.value.toRat? = some g →
    BinaryFormat.double.round (p * g) = p * g ∧ |p * g| < 2 ^ 256
  finite (p g : Rat) : x.value.toRat? = some p → gain.value.toRat? = some g →
    ∃ r, Single.IsNearest (max (-1) (min 1 (p * g))) r y
  infinite : y.isNaN = false → x.value.toRat? = none ∨ gain.value.toRat? = none →
    y.value = .finite y.negative 1

/-- An infinite product is held to one. -/
theorem value_scaleSingle_of_infinite {s : Bool} (h : x.value.mul level.value = .infinite s) :
    (scaleSingle level x).value = .finite s 1 := by
  have hone : BinaryFormat.single.round 1 = 1 :=
    BinaryFormat.round_of_holds (by decide) ⟨1, 0, by decide, by decide, by norm_num⟩
  unfold scaleSingle
  rw [h]
  dsimp only
  rw [(Single.value_round s zero_le_one (le_refl 1)).1, hone]

/-- A finite product is rounded once it is held, and not before. -/
theorem scaleSingle_of_finite {s : Bool} {m : Rat} (h : x.value.mul level.value = .finite s m) :
    0 ≤ m ∧ scaleSingle level x = Single.round s (min 1 m) := by
  obtain ⟨u, p, t, q, hx, hg, -, rfl⟩ := Extended.mul_eq_finite h
  have hexact : BinaryFormat.double.round (p * q) = p * q :=
    BinaryFormat.round_of_holds (by decide)
      ((Single.holds_magnitude hx).mul (Single.holds_magnitude hg) (by decide) (by decide))
  refine ⟨mul_nonneg (Single.magnitude_nonneg hx) (Single.magnitude_nonneg hg), ?_⟩
  unfold scaleSingle
  rw [h]
  dsimp only
  rw [hexact, min_comm, min_def]

/-- The stored pattern has the sign of the product. -/
theorem sign?_scaleSingle (h : x.value.mul level.value ≠ .nan) :
    (scaleSingle level x).value.sign? = (x.value.mul level.value).sign? := by
  cases hproduct : x.value.mul level.value with
  | nan => contradiction
  | infinite s =>
    rw [value_scaleSingle_of_infinite hproduct]
    rfl
  | finite s m =>
    obtain ⟨hm, hround⟩ := scaleSingle_of_finite hproduct
    rw [hround, (Single.value_round s (le_min zero_le_one hm) (min_le_left _ _)).1]
    rfl

/-- A stored pattern stands for no number just where the product is undefined. -/
theorem isNaN_scaleSingle :
    (scaleSingle level x).isNaN = true ↔ x.value.mul level.value = .nan := by
  refine ⟨fun hnan => ?_, fun hproduct => ?_⟩
  · by_contra hproduct
    have hsign := sign?_scaleSingle hproduct
    have hvalue : (scaleSingle level x).value = .nan := by simpa [Single.isNaN] using hnan
    rw [hvalue] at hsign
    cases hmul : x.value.mul level.value with
    | nan => contradiction
    | infinite s | finite s m =>
      rw [hmul] at hsign
      contradiction
  · unfold scaleSingle
    rw [hproduct]
    dsimp only
    split
    · rename_i hx
      exact Single.isNaN_quiet hx
    · exact Single.isNaN_undefined

/-- Holding between minus one and one does not depend on the side. -/
theorem hold_signed (s : Bool) {m : Rat} (hm : 0 ≤ m) :
    max (-1) (min 1 (if s then -m else m)) = if s then -min 1 m else min 1 m := by
  cases s with
  | false =>
    have hlow : -1 ≤ min 1 m := le_min (by norm_num) (by linarith)
    exact max_eq_right hlow
  | true =>
    have hnonpos : -m ≤ 1 := by linarith
    simp only [if_true]
    rw [min_eq_right hnonpos]
    obtain hin | hout := le_total m 1
    · rw [min_eq_right hin, max_eq_right (by linarith)]
    · rw [min_eq_left hout, max_eq_left (by linarith)]

/-- A sample has the sign of its product. -/
theorem negative_scaleSingle (hnumber : (scaleSingle level x).isNaN = false) :
    (scaleSingle level x).negative = (x.negative != level.negative) := by
  have hproduct : x.value.mul level.value ≠ .nan := by
    intro hnan
    rw [isNaN_scaleSingle.mpr hnan] at hnumber
    contradiction
  have hfactors : x.value ≠ .nan ∧ level.value ≠ .nan := by
    rw [Ne, Extended.mul_eq_nan_iff, not_or, not_or] at hproduct
    exact ⟨hproduct.1, hproduct.2.1⟩
  have hstored : (scaleSingle level x).value ≠ .nan := by
    simpa [Single.isNaN] using hnumber
  have hsign := Extended.sign?_mul (Single.sign?_value hfactors.1)
    (Single.sign?_value hfactors.2) hproduct
  rw [← sign?_scaleSingle hproduct, Single.sign?_value hstored] at hsign
  exact Option.some.inj hsign

/-- A sample that is a number is between minus one and one. -/
theorem scaleSingle_mem (hnumber : (scaleSingle level x).isNaN = false) :
    ∃ r, (scaleSingle level x).value.toRat? = some r ∧ -1 ≤ r ∧ r ≤ 1 := by
  cases hproduct : x.value.mul level.value with
  | nan =>
    rw [isNaN_scaleSingle.mpr hproduct] at hnumber
    contradiction
  | infinite s =>
    rw [value_scaleSingle_of_infinite hproduct]
    refine ⟨_, rfl, ?_⟩
    split <;> norm_num
  | finite s m =>
    obtain ⟨hm, hround⟩ := scaleSingle_of_finite hproduct
    have hheld : 0 ≤ min 1 m ∧ min 1 m ≤ 1 := ⟨le_min zero_le_one hm, min_le_left _ _⟩
    have hlow := BinaryFormat.single.round_nonneg hheld.1
    have hhigh : BinaryFormat.single.round (min 1 m) ≤ 1 :=
      BinaryFormat.round_le (by decide) ⟨1, 0, by decide, by decide, by norm_num⟩ hheld.2
    rw [hround, (Single.value_round s hheld.1 hheld.2).1]
    refine ⟨_, rfl, ?_⟩
    split <;> constructor <;> linarith

/-- The sample of a finite product is the nearest one to the product that was held. -/
theorem isNearest_scaleSingle {p g : Rat} (hp : x.value.toRat? = some p)
    (hg : level.value.toRat? = some g) :
    ∃ r, Single.IsNearest (max (-1) (min 1 (p * g))) r (scaleSingle level x) := by
  obtain ⟨s, m, hproduct, hsigned⟩ := Extended.eq_finite_of_toRat? (Extended.toRat?_mul hp hg)
  obtain ⟨hm, hround⟩ := scaleSingle_of_finite hproduct
  rw [hsigned, hold_signed s hm, hround]
  exact ⟨_, Single.isNearest_round s (le_min zero_le_one hm) (min_le_left _ _)⟩

/-- Every floating-point sample is scaled so. -/
theorem scalesSingle_scaleSingle (level x : Single) :
    ScalesSingle level x (scaleSingle level x) where
  undefined := by
    rw [isNaN_scaleSingle, Extended.mul_eq_nan_iff]
    simp [Single.isNaN]
  side := negative_scaleSingle
  bounded := scaleSingle_mem
  exact p g hp hg := by
    refine ⟨BinaryFormat.round_of_holds (by decide) (Single.holds_mul hp hg), ?_⟩
    calc |p * g| = |p| * |g| := abs_mul p g
      _ < 2 ^ 128 * 2 ^ 128 := mul_lt_mul'' (Single.abs_lt_of_toRat? hp)
          (Single.abs_lt_of_toRat? hg) (abs_nonneg p) (abs_nonneg g)
      _ = 2 ^ 256 := by norm_num
  finite p g := isNearest_scaleSingle
  infinite := by
    intro hnumber hinfinite
    cases hproduct : x.value.mul level.value with
    | nan =>
      rw [isNaN_scaleSingle.mpr hproduct] at hnumber
      contradiction
    | infinite s =>
      have hvalue := value_scaleSingle_of_infinite hproduct
      have hsign := Single.sign?_value (x := scaleSingle level x) (by rw [hvalue]; nofun)
      rw [hvalue] at hsign ⊢
      rw [← Option.some.inj hsign]
    | finite s m =>
      obtain ⟨u, p, t, q, hx, hg, -, -⟩ := Extended.mul_eq_finite hproduct
      rw [hx, hg] at hinfinite
      obtain hnone | hnone := hinfinite <;> contradiction

/-- Every floating-point sample in the whole frames is the clamped exact product, rounded once. -/
theorem apply_rounds_singles (hlevel : level ≠ Single.one)
    (hk : k < wholeSamples .f32 channels buffer.length) :
    ∃ x y, Sample.bytesOfSingle x = SampleFormat.f32.sampleAt k buffer ∧
      Sample.bytesOfSingle y = SampleFormat.f32.sampleAt k (apply .f32 channels level buffer) ∧
      ScalesSingle level x y := by
  have hlength := length_sampleAt hk (wholeSamples_mul_le _ _ _)
  obtain ⟨x, hx⟩ : ∃ x, x = Sample.singleOfBytes (SampleFormat.f32.sampleAt k buffer) := ⟨_, rfl⟩
  refine ⟨x, scaleSingle level x, ?_, ?_, scalesSingle_scaleSingle level x⟩
  · have hbytes := Sample.bytesOfNat_natOfBytes (SampleFormat.f32.sampleAt k buffer)
    have hlt := Sample.natOfBytes_lt (SampleFormat.f32.sampleAt k buffer)
    rw [hlength] at hbytes hlt
    rw [hx, Sample.bytesOfSingle, Sample.singleOfBytes, UInt32.toNat_ofNat_of_lt' hlt]
    exact hbytes
  · rw [sampleAt_apply hlevel hk, scaleSample, hx]

/-- Half of the smallest subnormal number is a tie, and becomes a zero with its sign. -/
theorem rounds_half_of_the_smallest :
    (⟨0x3f000000⟩ : Single) ≠ Single.one ∧ 0 < wholeSamples .f32 1 4 ∧
      apply .f32 1 ⟨0x3f000000⟩ [1, 0, 0, 0x80] = [0, 0, 0, 0x80] ∧
      ∃ x y, Sample.bytesOfSingle x = SampleFormat.f32.sampleAt 0 [1, 0, 0, 0x80] ∧
        Sample.bytesOfSingle y =
          SampleFormat.f32.sampleAt 0 (apply .f32 1 ⟨0x3f000000⟩ [1, 0, 0, 0x80]) ∧
        ScalesSingle ⟨0x3f000000⟩ x y :=
  ⟨by decide, by decide, by decide +kernel, apply_rounds_singles (by decide) (by decide)⟩

end Gain

end AudioRelay
