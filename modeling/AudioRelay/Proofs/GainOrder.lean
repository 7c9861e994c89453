import AudioRelay.Proofs.FloatGain

/-!
# Order under a gain

Every step of scaling an integer sample is monotone: both roundings find nearest numbers, and
nearest numbers of ordered numbers do not cross. A louder sample therefore stays a louder one, and
a higher level makes none quieter. Unity takes every sample of the range to itself, so leaving
the buffer alone is what scaling would do.
-/

namespace AudioRelay

namespace Rounding

variable {a b p q : Rat}

/-- Two numbers are the same if the nearest candidates to them are in the other order. -/
theorem eq_of_crossed (hab : a < b) (hpq : p ≤ q) (hp : |b - p| ≤ |a - p|)
    (hq : |a - q| ≤ |b - q|) : p = q := by
  have hmiddle_le : (a + b) / 2 ≤ p := by
    by_contra hbelow
    rw [abs_of_pos (a := b - p) (by linarith)] at hp
    cases abs_cases (a - p) <;> linarith
  have hle_middle : q ≤ (a + b) / 2 := by
    by_contra habove
    rw [abs_of_neg (a := a - q) (by linarith)] at hq
    cases abs_cases (b - q) <;> linarith
  linarith

/-- Rounding to an integer is monotone. -/
theorem nearestAway_mono (h : p ≤ q) : nearestAway p ≤ nearestAway q := by
  by_contra hcrossed
  rw [not_le] at hcrossed
  have hcast : (nearestAway q : Rat) < nearestAway p := by exact_mod_cast hcrossed
  have hsame : p = q := eq_of_crossed hcast h
    (abs_sub_le_of_near (nearestAway_spec p).near _)
    (abs_sub_le_of_near (nearestAway_spec q).near _)
  rw [hsame] at hcrossed
  exact lt_irrefl _ hcrossed

/-- An integer is not rounded. -/
theorem nearestAway_intCast (n : Int) : nearestAway n = n :=
  le_antisymm (nearestAway_le (le_refl _)) (le_nearestAway (le_refl _))

end Rounding

namespace BinaryFormat

variable {f : BinaryFormat} {p q : Rat}

/-- A rounded number is a number of the format. -/
theorem holds_round (hdigits : 0 < f.digits) (q : Rat) : f.Holds (f.round q) := by
  have hunits := f.abs_units_le q
  obtain hfew | htop := lt_or_eq_of_le hunits
  · exact ⟨_, _, hfew, f.finest_le_unit q, rfl⟩
  · -- One unit more than the digits count is the first number of the next binade.
    have hdouble : (2 : Int) ^ f.digits = 2 ^ (f.digits - 1) * 2 := by
      rw [← pow_succ, Nat.sub_add_cancel hdigits]
    have hpos : (0 : Int) < 2 ^ (f.digits - 1) := by positivity
    obtain ⟨k, hk, hhalf⟩ : ∃ k : Int, |k| = 2 ^ (f.digits - 1) ∧ f.units q = k * 2 := by
      obtain hup | hdown := (abs_eq (by positivity)).mp htop
      · exact ⟨2 ^ (f.digits - 1), abs_of_pos hpos, by rw [hup, hdouble]⟩
      · exact ⟨-2 ^ (f.digits - 1), by rw [abs_neg, abs_of_pos hpos], by rw [hdown, hdouble]; ring⟩
    refine ⟨k, f.unit q + 1, by omega, (f.finest_le_unit q).trans (by omega), ?_⟩
    rw [round, hhalf, zpow_add_one₀ two_ne_zero]
    push_cast
    ring

/-- Rounding to a binary format is monotone. -/
theorem round_mono (hdigits : 0 < f.digits) (h : p ≤ q) : f.round p ≤ f.round q := by
  by_contra hcrossed
  rw [not_le] at hcrossed
  have hsame : p = q := Rounding.eq_of_crossed hcrossed h
    (round_nearest hdigits (holds_round hdigits q) p)
    (round_nearest hdigits (holds_round hdigits p) q)
  rw [hsame] at hcrossed
  exact lt_irrefl _ hcrossed

/-- Integers below the power of the digits are not rounded. -/
theorem round_intCast (hdigits : 0 < f.digits) (hfinest : f.finest ≤ 0) {v : Int}
    (hv : |v| < 2 ^ f.digits) : f.round v = v :=
  round_of_holds hdigits ⟨v, 0, hv, hfinest, by rw [zpow_zero, mul_one]⟩

end BinaryFormat

/-- An integer is in the range of so many bytes. -/
def Sample.Fits (width : Nat) (v : Int) : Prop := (range width).1 ≤ v ∧ v ≤ (range width).2

namespace Gain

variable {format : SampleFormat} {channels count k : Nat} {level level' : Single}
variable {gain gain' : Extended} {p q : Rat} {v w : Int} {bounds : Int × Int} {buffer : List UInt8}

theorem clamp_mono (bounds : Int × Int) (h : v ≤ w) : clamp bounds v ≤ clamp bounds w := by
  unfold clamp
  omega

/-- Scaling keeps the order of products. -/
theorem scaleInt_le_scaleInt (hp : gain.toRat? = some p) (hq : gain'.toRat? = some q)
    (h : v * p ≤ w * q) : scaleInt bounds gain v ≤ scaleInt bounds gain' w := by
  have hrounded := BinaryFormat.round_mono (f := BinaryFormat.double) (by decide) h
  rw [scaleInt_of_toRat? hp, scaleInt_of_toRat? hq]
  exact clamp_mono bounds (Rounding.nearestAway_mono hrounded)

theorem toRat?_one : Single.one.value.toRat? = some 1 := by decide +kernel

theorem range_spec (format : SampleFormat) :
    (Sample.range format.bytes).1 ≤ 0 ∧ 0 ≤ (Sample.range format.bytes).2 ∧
      -2 ^ 31 ≤ (Sample.range format.bytes).1 ∧ (Sample.range format.bytes).2 ≤ 2 ^ 31 := by
  cases format <;> decide

/-- Unity scales every sample of the range to itself. -/
theorem scaleInt_one (hv : Sample.Fits format.bytes v) :
    scaleInt (Sample.range format.bytes) Single.one.value v = v := by
  obtain ⟨hlow, hhigh⟩ := hv
  have hrange := range_spec format
  have hsmall : |v| < 2 ^ BinaryFormat.double.digits :=
    (abs_le.mpr ⟨by omega, by omega⟩ : |v| ≤ 2 ^ 31).trans_lt (by decide)
  rw [scaleInt_of_toRat? toRat?_one, mul_one,
    BinaryFormat.round_intCast (by decide) (by decide) hsmall, Rounding.nearestAway_intCast]
  unfold clamp
  omega

/-- A level with a sign takes a sample to the other side of zero or to zero, and a level without
one leaves it on its side; this holds for infinite levels and levels that are no numbers, too. -/
theorem scaleInt_side (hbounds : bounds.1 ≤ 0 ∧ 0 ≤ bounds.2) (level : Single) (v : Int) :
    (0 ≤ (if level.negative then -v else v) → 0 ≤ scaleInt bounds level.value v) ∧
      ((if level.negative then -v else v) ≤ 0 → scaleInt bounds level.value v ≤ 0) := by
  cases hlevel : level.value with
  | nan => exact ⟨fun _ => le_refl _, fun _ => le_refl _⟩
  | infinite s =>
    have hsign := Single.sign?_value (x := level) (by simp [hlevel])
    rw [hlevel] at hsign
    rw [← Option.some.inj hsign]
    -- The bound taken is on the side of the product; a sample of zero stays zero.
    cases s with
    | false =>
      simp only [Bool.false_eq_true, if_false, scaleInt, bne_iff_ne, ne_eq, decide_eq_false_iff_not]
      split_ifs <;> omega
    | true =>
      simp only [if_true, scaleInt, bne_iff_ne, ne_eq, decide_eq_true_eq]
      split_ifs <;> omega
  | finite s m =>
    have hsign := Single.sign?_value (x := level) (by simp [hlevel])
    have hm := Single.magnitude_nonneg hlevel
    rw [hlevel] at hsign
    have hproduct : (v : Rat) * (if s then -m else m) = (if s then -v else v : Int) * m := by
      cases s
      · rfl
      · simp
    rw [← Option.some.inj hsign]
    refine ⟨fun hv => scaleInt_nonneg rfl hbounds.2 ?_, fun hv => scaleInt_nonpos rfl hbounds.1 ?_⟩
    · rw [hproduct]
      exact mul_nonneg (by exact_mod_cast hv) hm
    · rw [hproduct]
      exact mul_nonpos_of_nonpos_of_nonneg (by exact_mod_cast hv) hm

/-- A higher level makes no sample quieter. -/
theorem abs_scaleInt_le (hbounds : bounds.1 ≤ 0 ∧ 0 ≤ bounds.2) (hp : gain.toRat? = some p)
    (hq : gain'.toRat? = some q) (hnonneg : 0 ≤ p) (h : p ≤ q) :
    |scaleInt bounds gain v| ≤ |scaleInt bounds gain' v| := by
  obtain hv | hv := le_total 0 v
  · have hcast : (0 : Rat) ≤ v := by exact_mod_cast hv
    have hlow := scaleInt_nonneg hp hbounds.2 (mul_nonneg hcast hnonneg)
    have hle : scaleInt bounds gain v ≤ scaleInt bounds gain' v :=
      scaleInt_le_scaleInt hp hq (mul_le_mul_of_nonneg_left h hcast)
    rwa [abs_of_nonneg hlow, abs_of_nonneg (hlow.trans hle)]
  · have hcast : (v : Rat) ≤ 0 := by exact_mod_cast hv
    have hhigh := scaleInt_nonpos hp hbounds.1 (mul_nonpos_of_nonpos_of_nonneg hcast hnonneg)
    have hle : scaleInt bounds gain' v ≤ scaleInt bounds gain v :=
      scaleInt_le_scaleInt hq hp (mul_le_mul_of_nonpos_left h hcast)
    rwa [abs_of_nonpos hhigh, abs_of_nonpos (hle.trans hhigh), neg_le_neg_iff]

/-- Scaling at unity leaves a sample of an integer format as it is. -/
theorem scaleSample_one (hformat : format ≠ .f32) {bytes : List UInt8}
    (hlength : bytes.length = format.bytes) : scaleSample format Single.one bytes = bytes := by
  have hscaled : scaleSample format Single.one bytes = Sample.bytesOfInt format.bytes
      (scaleInt (Sample.range format.bytes) Single.one.value (Sample.intOfBytes bytes)) := by
    cases format with
    | f32 => contradiction
    | i16 | i32 | i24Packed | i24Padded => rfl
  rw [hscaled, scaleInt_one (Sample.intOfBytes_mem_range hlength format.bytes_pos), ← hlength,
    Sample.bytesOfInt_intOfBytes]

/-- Scaling at unity would leave every buffer of an integer format as it is. -/
theorem scaleSamples_one (hformat : format ≠ .f32) (enough : count * format.bytes ≤ buffer.length) :
    scaleSamples format Single.one count buffer = buffer := by
  induction count generalizing buffer with
  | zero => rfl
  | succ count ih =>
    rw [Nat.succ_mul] at enough
    have hfirst : (buffer.take format.bytes).length = format.bytes := by
      rw [List.length_take]
      omega
    have hrest : count * format.bytes ≤ (buffer.drop format.bytes).length := by
      rw [List.length_drop]
      omega
    rw [scaleSamples, scaleSample_one hformat hfirst, ih hrest, List.take_append_drop]

/-- The integer that is stored for a sample under a level. -/
def stored (format : SampleFormat) (level : Single) (v : Int) : Int :=
  Sample.intOfBytes (apply format 1 level (Sample.bytesOfInt format.bytes v))

/-- Every level stores the scaled integer, unity included. -/
theorem stored_eq_scaleInt (hformat : format ≠ .f32) (hv : Sample.Fits format.bytes v) :
    stored format level v = scaleInt (Sample.range format.bytes) level.value v := by
  have hdecoded := Sample.intOfBytes_bytesOfInt format.bytes_pos hv.1 hv.2
  by_cases hone : level = Single.one
  · rw [stored, apply, if_pos hone, hdecoded, hone, scaleInt_one hv]
  · have hsingle : 0 < wholeSamples format 1 (Sample.bytesOfInt format.bytes v).length := by
      rw [Sample.length_bytesOfInt, wholeSamples, max_self, one_mul, Nat.div_self format.bytes_pos]
      decide
    have hwhole {bytes : List UInt8} (hlength : bytes.length = format.bytes) :
        format.sampleAt 0 bytes = bytes := by
      rw [SampleFormat.sampleAt, zero_mul, List.drop_zero, List.take_of_length_le hlength.le]
    have hscaled := (standsFor_scaled hformat hone hsingle).decoded
    rwa [hwhole (Sample.length_bytesOfInt _ _), hdecoded,
      hwhole ((length_apply _ _ _ _).trans (Sample.length_bytesOfInt _ _))] at hscaled

/-- How the samples that an integer format stores follow the samples and the levels. -/
structure Orderly (format : SampleFormat) : Prop where
  /-- The whole frames of any buffer hold what is stored for each sample alone. -/
  everywhere (channels : Nat) (level : Single) (buffer : List UInt8) (k : Nat) (v : Int) :
    k < wholeSamples format channels buffer.length →
    Sample.StandsFor (format.sampleAt k buffer) v →
    Sample.Fits format.bytes v ∧ Sample.StandsFor
      (format.sampleAt k (apply format channels level buffer)) (stored format level v)
  monotone (level : Single) (g : Rat) (v w : Int) : level.value.toRat? = some g → 0 ≤ g →
    Sample.Fits format.bytes v → Sample.Fits format.bytes w → v ≤ w →
    stored format level v ≤ stored format level w
  side (level : Single) (g : Rat) (v : Int) : level.value.toRat? = some g → 0 ≤ g →
    Sample.Fits format.bytes v →
    (0 ≤ v → 0 ≤ stored format level v) ∧ (v ≤ 0 → stored format level v ≤ 0)
  louder (level level' : Single) (g g' : Rat) (v : Int) : level.value.toRat? = some g →
    level'.value.toRat? = some g' → 0 ≤ g → g ≤ g' → Sample.Fits format.bytes v →
    |stored format level v| ≤ |stored format level' v|
  softer (level : Single) (g : Rat) (v : Int) : level.value.toRat? = some g → 0 ≤ g → g ≤ 1 →
    Sample.Fits format.bytes v → |stored format level v| ≤ |v|
  /-- The general formula agrees with leaving a buffer alone. -/
  unity : (∀ v, Sample.Fits format.bytes v →
      scaleInt (Sample.range format.bytes) Single.one.value v = v) ∧
    ∀ channels buffer, scaleSamples format Single.one
      (wholeSamples format channels buffer.length) buffer = apply format channels Single.one buffer
  /-- A level of any kind leaves a sample on the side of its product. -/
  upright (level : Single) (v : Int) : Sample.Fits format.bytes v →
    (0 ≤ (if level.negative then -v else v) → 0 ≤ stored format level v) ∧
      ((if level.negative then -v else v) ≤ 0 → stored format level v ≤ 0)

/-- The whole frames of a buffer hold what is stored for each of its samples. -/
theorem standsFor_stored (hformat : format ≠ .f32)
    (hk : k < wholeSamples format channels buffer.length)
    (hv : Sample.StandsFor (format.sampleAt k buffer) v) :
    Sample.Fits format.bytes v ∧ Sample.StandsFor
      (format.sampleAt k (apply format channels level buffer)) (stored format level v) := by
  have hlength := length_sampleAt hk (wholeSamples_mul_le _ _ _)
  have hfits : Sample.Fits format.bytes v :=
    hv.decoded ▸ Sample.intOfBytes_mem_range hlength format.bytes_pos
  refine ⟨hfits, ?_⟩
  rw [stored_eq_scaleInt hformat hfits]
  by_cases hone : level = Single.one
  · rw [apply, if_pos hone, hone, scaleInt_one hfits]
    exact hv
  · rw [← hv.decoded]
    exact standsFor_scaled hformat hone hk

/-- Gain is monotone in the sample and in the level, and unity is no exception. -/
theorem orderly_apply (hformat : format ≠ .f32) : Orderly format := by
  have hrange := range_spec format
  have hbounds := And.intro hrange.1 hrange.2.1
  refine ⟨?everywhere, ?monotone, ?side, ?louder, ?softer, ?unity, ?upright⟩
  case everywhere =>
    intro channels level buffer k v hk hv
    exact standsFor_stored hformat hk hv
  case monotone =>
    intro level g v w hg hnonneg hv hw hle
    rw [stored_eq_scaleInt hformat hv, stored_eq_scaleInt hformat hw]
    exact scaleInt_le_scaleInt hg hg
      (mul_le_mul_of_nonneg_right (by exact_mod_cast hle) hnonneg)
  case side =>
    intro level g v hg hnonneg hv
    rw [stored_eq_scaleInt hformat hv]
    refine ⟨fun hpos => ?_, fun hneg => ?_⟩
    · exact scaleInt_nonneg hg hbounds.2 (mul_nonneg (by exact_mod_cast hpos) hnonneg)
    · exact scaleInt_nonpos hg hbounds.1
        (mul_nonpos_of_nonpos_of_nonneg (by exact_mod_cast hneg) hnonneg)
  case louder =>
    intro level level' g g' v hg hg' hnonneg hle hv
    rw [stored_eq_scaleInt hformat hv, stored_eq_scaleInt hformat hv]
    exact abs_scaleInt_le hbounds hg hg' hnonneg hle
  case softer =>
    -- Unity is the level at which a sample is as loud as it was.
    intro level g v hg hnonneg hle hv
    have hquieter := abs_scaleInt_le (v := v) hbounds hg toRat?_one hnonneg hle
    rwa [scaleInt_one hv, ← stored_eq_scaleInt hformat hv] at hquieter
  case unity =>
    refine ⟨fun v hv => scaleInt_one hv, fun channels buffer => ?_⟩
    rw [apply, if_pos rfl, scaleSamples_one hformat (wholeSamples_mul_le _ _ _)]
  case upright =>
    intro level v hv
    rw [stored_eq_scaleInt hformat hv]
    exact scaleInt_side hbounds level v

/-- Words of four bytes keep their order where products have more digits than double precision, and
the least one does not wrap when its sign is turned. -/
theorem orderly_words :
    SampleFormat.i32 ≠ .f32 ∧ stored .i32 ⟨0x3f7fffff⟩ 2139095040 = 2139094913 ∧
      stored .i32 ⟨0x3f7fffff⟩ 2139095041 = 2139094914 ∧
      stored .i32 ⟨0xbf800000⟩ (-2147483648) = 2147483647 ∧ Orderly .i32 :=
  ⟨by decide, by decide +kernel, by decide +kernel, by decide +kernel,
    orderly_apply (by decide)⟩

end Gain

end AudioRelay
