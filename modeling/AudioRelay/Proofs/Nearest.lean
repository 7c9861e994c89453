import AudioRelay.Proofs.Rounding

/-!
# Nearest numbers

Rounding to an integer finds a nearest integer, and rounding to a binary format finds a number to
which no other number of the format comes closer. A number that the format holds is therefore not
changed, and none that it holds is passed. Rounding to a format with digits to spare and then to
an integer finds a nearest integer too, unless the first rounding ends in the middle of two.
-/

namespace AudioRelay

namespace Rounding

variable {q : Rat} {m n : Int}

/-- A nearest integer to a number; of two that are equally near, the one farther from zero. -/
structure IsNearestAway (q : Rat) (n : Int) : Prop where
  near : |(n : Rat) - q| ≤ 1 / 2
  away : |(n : Rat) - q| = 1 / 2 → |q| < |(n : Rat)|

/-- An integer that is less than one away from another one is that one. -/
theorem eq_of_abs_sub_lt_one (h : |(n : Rat) - m| < 1) : n = m := by
  have hcast : |n - m| < 1 := by exact_mod_cast h
  have hzero := Int.abs_lt_one_iff.mp hcast
  omega

/-- What is at most a half away is as near as any integer. -/
theorem abs_sub_le_of_near (h : |(n : Rat) - q| ≤ 1 / 2) (m : Int) :
    |(n : Rat) - q| ≤ |(m : Rat) - q| := by
  by_contra hfarther
  rw [not_le] at hfarther
  have hsame : n = m := by
    apply eq_of_abs_sub_lt_one
    calc |(n : Rat) - m| ≤ |(n : Rat) - q| + |q - m| := abs_sub_le _ _ _
      _ = |(n : Rat) - q| + |(m : Rat) - q| := by rw [abs_sub_comm q]
      _ < 1 := by linarith
  rw [hsame] at hfarther
  exact lt_irrefl _ hfarther

/-- Rounding with halves away from zero is what it is called. -/
theorem nearestAway_spec (q : Rat) : IsNearestAway q (nearestAway q) := by
  unfold nearestAway
  split
  · rename_i hq
    have hlow := Rat.floor_le (q + 1 / 2)
    have hhigh := Rat.lt_floor (x := q + 1 / 2)
    have hnear : |((q + 1 / 2).floor : Rat) - q| ≤ 1 / 2 := abs_le.mpr ⟨by linarith, by linarith⟩
    refine ⟨hnear, fun hhalf => ?_⟩
    -- The lower of the two neighbours is never taken.
    have habove : q < (q + 1 / 2).floor := by
      cases (abs_eq (by norm_num)).mp hhalf <;> linarith
    rw [abs_of_nonneg hq, abs_of_nonneg (hq.trans habove.le)]
    exact habove
  · rename_i hq
    rw [not_le] at hq
    have hlow := Rat.floor_le (1 / 2 - q)
    have hhigh := Rat.lt_floor (x := 1 / 2 - q)
    have hcast : ((-(1 / 2 - q).floor : Int) : Rat) = -((1 / 2 - q).floor : Rat) := Int.cast_neg _
    have hnear : |((-(1 / 2 - q).floor : Int) : Rat) - q| ≤ 1 / 2 := by
      rw [hcast]
      exact abs_le.mpr ⟨by linarith, by linarith⟩
    refine ⟨hnear, fun hhalf => ?_⟩
    have hbelow : -((1 / 2 - q).floor : Rat) < q := by
      rw [hcast] at hhalf
      cases (abs_eq (by norm_num)).mp hhalf <;> linarith
    rw [hcast, abs_of_neg hq, abs_of_neg (hbelow.trans hq)]
    exact neg_lt_neg hbelow

/-- The integer found lies a half away exactly where it was taken from the middle of two. -/
theorem middle_iff : (∃ j : Int, q = j + 1 / 2) ↔ |(nearestAway q : Rat) - q| = 1 / 2 := by
  have hnear := (nearestAway_spec q).near
  obtain ⟨n, hn⟩ : ∃ n, n = nearestAway q := ⟨_, rfl⟩
  rw [← hn] at hnear ⊢
  refine ⟨fun ⟨j, hj⟩ => ?_, fun hhalf => ?_⟩
  · -- Only the two neighbours of the middle are within a half.
    rw [hj, abs_le] at hnear
    have hlow : j ≤ n := by
      have hcast : (j : Rat) ≤ n := by linarith
      exact_mod_cast hcast
    have hhigh : n ≤ j + 1 := by
      have hcast : (n : Rat) ≤ j + 1 := by linarith
      exact_mod_cast hcast
    obtain hj' | hj' : n = j ∨ n = j + 1 := by omega
    · rw [hj, hj', abs_of_neg (by linarith)]
      ring
    · rw [hj, hj', Int.cast_add, Int.cast_one, abs_of_pos (by linarith)]
      ring
  · obtain hup | hdown := (abs_eq (by norm_num)).mp hhalf
    · refine ⟨n - 1, ?_⟩
      push_cast
      linarith
    · exact ⟨n, by linarith⟩

/-- Rounding to even is at most a half off. -/
theorem abs_nearestEven_sub_le (q : Rat) : |(nearestEven q : Rat) - q| ≤ 1 / 2 := by
  have hlow := Rat.floor_le q
  have hhigh := Rat.lt_floor (x := q)
  unfold nearestEven
  dsimp only
  split_ifs <;> push_cast at hhigh ⊢ <;> exact abs_le.mpr ⟨by linarith, by linarith⟩

end Rounding

namespace BinaryFormat

variable {f g : BinaryFormat} {p q x : Rat} {n : Int}

/-- The numbers of a format: integers below the power of its digits, times a power of two that is
no finer than its finest unit. -/
def Holds (f : BinaryFormat) (q : Rat) : Prop :=
  ∃ k e : Int, |k| < 2 ^ f.digits ∧ f.finest ≤ e ∧ q = k * (2 : Rat) ^ e

theorem Holds.neg (h : f.Holds q) : f.Holds (-q) := by
  obtain ⟨k, e, hk, he, hq⟩ := h
  refine ⟨-k, e, by rwa [abs_neg], he, ?_⟩
  rw [hq]
  push_cast
  ring

/-- A product with an integer has as many digits more as the integer has. -/
theorem Holds.intCast_mul {v : Int} {width : Nat} (h : f.Holds q) (hv : |v| ≤ 2 ^ width)
    (hdigits : f.digits + width ≤ g.digits) (hfinest : g.finest ≤ f.finest) :
    g.Holds (v * q) := by
  obtain ⟨k, e, hk, he, hq⟩ := h
  refine ⟨v * k, e, ?_, hfinest.trans he, ?_⟩
  · calc |v * k| = |v| * |k| := abs_mul v k
      _ ≤ 2 ^ width * |k| := by gcongr
      _ < 2 ^ width * 2 ^ f.digits := by gcongr
      _ = 2 ^ (f.digits + width) := by rw [← pow_add, Nat.add_comm]
      _ ≤ 2 ^ g.digits := by gcongr; exact one_le_two
  · rw [hq]
    push_cast
    ring

/-- No unit in the last place is finer than the finest one. -/
theorem finest_le_unit (f : BinaryFormat) (q : Rat) : f.finest ≤ f.unit q := by
  unfold unit
  split
  · exact le_refl _
  · exact le_max_right _ _

/-- A number of coarser digits counted in a finer unit. -/
theorem mul_zpow_of_le (k : Int) {unit e : Int} (h : unit ≤ e) :
    (k : Rat) * (2 : Rat) ^ e = (k * 2 ^ (e - unit).toNat : Int) * (2 : Rat) ^ unit := by
  push_cast
  rw [mul_assoc, ← zpow_natCast, ← zpow_add₀ two_ne_zero]
  congr 2
  omega

/-- Distances counted in units of the last place. -/
theorem abs_mul_unit_sub (f : BinaryFormat) (q r : Rat) :
    |r * (2 : Rat) ^ f.unit q - q| = |r - q / (2 : Rat) ^ f.unit q| * (2 : Rat) ^ f.unit q := by
  have hpos : (0 : Rat) < (2 : Rat) ^ f.unit q := by positivity
  calc |r * (2 : Rat) ^ f.unit q - q|
      = |(r - q / (2 : Rat) ^ f.unit q) * (2 : Rat) ^ f.unit q| := by
        rw [sub_mul, div_mul_cancel₀ _ hpos.ne']
    _ = |r - q / (2 : Rat) ^ f.unit q| * (2 : Rat) ^ f.unit q := by
        rw [abs_mul, abs_of_pos hpos]

/-- The rounded number is off by no more than half a unit in the last place. -/
theorem abs_round_sub_le (f : BinaryFormat) (q : Rat) :
    |f.round q - q| ≤ (2 : Rat) ^ f.unit q / 2 := by
  calc |f.round q - q|
      = |(f.units q : Rat) - q / (2 : Rat) ^ f.unit q| * (2 : Rat) ^ f.unit q :=
        abs_mul_unit_sub f q _
    _ ≤ 1 / 2 * (2 : Rat) ^ f.unit q := by
        gcongr
        exact Rounding.abs_nearestEven_sub_le _
    _ = (2 : Rat) ^ f.unit q / 2 := by ring

/-- No multiple of the unit in the last place comes closer than the rounded number. -/
theorem round_nearest_multiple (f : BinaryFormat) (q : Rat) (k : Int) :
    |f.round q - q| ≤ |k * (2 : Rat) ^ f.unit q - q| := by
  have hnear := Rounding.abs_sub_le_of_near
    (Rounding.abs_nearestEven_sub_le (q / (2 : Rat) ^ f.unit q)) k
  rw [round, abs_mul_unit_sub, abs_mul_unit_sub]
  exact mul_le_mul_of_nonneg_right hnear (by positivity)

/-- Above the finest unit the unit in the last place follows the binade. -/
theorem binade_of_finest_lt (h : f.finest < f.unit q) :
    q ≠ 0 ∧ Rounding.binade q = f.digits + f.unit q - 1 := by
  have hq : q ≠ 0 := by
    intro hzero
    rw [unit, if_pos hzero] at h
    exact lt_irrefl _ h
  refine ⟨hq, ?_⟩
  unfold unit at h ⊢
  rw [if_neg hq] at h ⊢
  omega

/-- A number of the format with digits finer than the last place of another is the smaller one. -/
theorem abs_le_binade {k e : Int} (hk : |k| < 2 ^ f.digits) (he : f.finest ≤ e)
    (hunit : e < f.unit q) : |(k : Rat) * (2 : Rat) ^ e| ≤ (2 : Rat) ^ Rounding.binade q := by
  have hbinade := (binade_of_finest_lt (he.trans_lt hunit)).2
  have hcast : |(k : Rat)| ≤ (2 : Rat) ^ (f.digits : Int) := by exact_mod_cast hk.le
  calc |(k : Rat) * (2 : Rat) ^ e|
      = |(k : Rat)| * (2 : Rat) ^ e := by
        rw [abs_mul, abs_of_pos (a := (2 : Rat) ^ e) (by positivity)]
    _ ≤ (2 : Rat) ^ (f.digits : Int) * (2 : Rat) ^ e := by gcongr
    _ = (2 : Rat) ^ (f.digits + e) := by rw [← zpow_add₀ two_ne_zero]
    _ ≤ (2 : Rat) ^ Rounding.binade q := by
        rw [hbinade]
        gcongr
        · exact one_le_two
        · omega

/-- The lower bound of a binade is a multiple of the unit in the last place. -/
theorem binade_eq_mul_unit (hdigits : 0 < f.digits) (h : f.finest < f.unit q) :
    (2 : Rat) ^ Rounding.binade q = (2 ^ (f.digits - 1) : Int) * (2 : Rat) ^ f.unit q := by
  rw [(binade_of_finest_lt h).2]
  push_cast
  rw [← zpow_natCast, ← zpow_add₀ two_ne_zero]
  congr 1
  omega

/-- No number of the format comes closer than the rounded number. -/
theorem round_nearest (hdigits : 0 < f.digits) (hx : f.Holds x) (q : Rat) :
    |f.round q - q| ≤ |x - q| := by
  obtain ⟨k, e, hk, he, rfl⟩ := hx
  obtain hcoarse | hfine := le_or_gt (f.unit q) e
  · -- A number of coarser digits is a multiple of the unit in the last place.
    rw [mul_zpow_of_le k hcoarse]
    exact round_nearest_multiple f q _
  · -- A number of finer digits is not beyond the lower bound of the binade, on either side.
    have hfinest := he.trans_lt hfine
    have hinside := abs_le.mp (abs_le_binade hk he hfine)
    have hbelow := (Rounding.binade_spec (binade_of_finest_lt hfinest).1).1
    rw [binade_eq_mul_unit hdigits hfinest] at hinside hbelow
    obtain hpos | hneg := le_abs.mp hbelow
    · apply (round_nearest_multiple f q (2 ^ (f.digits - 1))).trans
      rw [abs_of_nonpos (by linarith), abs_of_nonpos (by linarith)]
      linarith
    · apply (round_nearest_multiple f q (-2 ^ (f.digits - 1))).trans
      rw [Int.cast_neg, neg_mul, abs_of_nonneg (by linarith), abs_of_nonneg (by linarith)]
      linarith

/-- A number of the format is not rounded. -/
theorem round_of_holds (hdigits : 0 < f.digits) (hq : f.Holds q) : f.round q = q := by
  have hnear := round_nearest hdigits hq q
  rw [sub_self, abs_zero, abs_nonpos_iff] at hnear
  exact sub_eq_zero.mp hnear

/-- Rounding does not pass a number of the format from above. -/
theorem le_round (hdigits : 0 < f.digits) (hx : f.Holds x) (h : x ≤ q) : x ≤ f.round q := by
  by_contra hpassed
  rw [not_le] at hpassed
  have hnear := round_nearest hdigits hx q
  rw [abs_of_nonpos (by linarith), abs_of_nonpos (by linarith)] at hnear
  linarith

/-- Rounding does not pass a number of the format from below. -/
theorem round_le (hdigits : 0 < f.digits) (hx : f.Holds x) (h : q ≤ x) : f.round q ≤ x := by
  by_contra hpassed
  rw [not_le] at hpassed
  have hnear := round_nearest hdigits hx q
  rw [abs_of_nonneg (by linarith), abs_of_nonneg (by linarith)] at hnear
  linarith

/-- The middle of two integers is held by a format with enough digits. -/
theorem holds_middle {width : Nat} (hn : |n| ≤ 2 ^ width) (hdigits : width + 2 < f.digits)
    (hfinest : f.finest ≤ -1) : f.Holds (n + 1 / 2) ∧ f.Holds (n - 1 / 2) := by
  have hwide : (2 : Int) ^ width * 8 ≤ 2 ^ f.digits := by
    calc (2 : Int) ^ width * 8 = 2 ^ (width + 3) := by rw [pow_add]; rfl
      _ ≤ 2 ^ f.digits := pow_le_pow_right₀ (by decide) hdigits
  have hpos : (1 : Int) ≤ 2 ^ width := one_le_pow₀ (by decide)
  rw [abs_le] at hn
  refine ⟨⟨2 * n + 1, -1, ?_, hfinest, ?_⟩, ⟨2 * n - 1, -1, ?_, hfinest, ?_⟩⟩
  · rw [abs_lt]
    omega
  · push_cast
    ring
  · rw [abs_lt]
    omega
  · push_cast
    ring

/-- An integer nearest to a rounded number is nearest to the number itself, unless rounding went
away from zero onto the middle of two integers. -/
theorem near_iff_of_round (hdigits : 0 < f.digits) (hn : Rounding.IsNearestAway (f.round p) n)
    (hmiddle : f.Holds (n + 1 / 2) ∧ f.Holds (n - 1 / 2)) :
    |(n : Rat) - p| ≤ 1 / 2 ↔ ¬(|p| < |f.round p| ∧ |(n : Rat) - f.round p| = 1 / 2) := by
  obtain ⟨hhigh, hlow⟩ := hmiddle
  obtain hinside | hhalf := lt_or_eq_of_le hn.near
  · -- Neither middle is passed when the rounded number stands between them.
    have habove : p ≤ n + 1 / 2 := by
      by_contra hpassed
      linarith [le_round hdigits hhigh (not_le.mp hpassed).le, (abs_lt.mp hinside).1]
    have hbelow : n - 1 / 2 ≤ p := by
      by_contra hpassed
      linarith [round_le hdigits hlow (not_le.mp hpassed).le, (abs_lt.mp hinside).2]
    exact iff_of_true (abs_le.mpr ⟨by linarith, by linarith⟩) fun h => hinside.ne h.2
  have haway := hn.away hhalf
  rw [and_iff_left hhalf, not_lt]
  obtain hn | hn | hn := lt_trichotomy n 0
  · have hcast : (n : Rat) ≤ -1 := by exact_mod_cast Int.le_sub_one_of_lt hn
    have hround : f.round p = n + 1 / 2 := by
      rw [abs_of_neg (a := (n : Rat)) (by linarith)] at haway
      cases (abs_eq (by norm_num)).mp hhalf <;> linarith [neg_abs_le (f.round p)]
    have hneg : p < 0 := by
      by_contra hpos
      linarith [f.round_nonneg (not_lt.mp hpos)]
    have hbelow : n - 1 / 2 ≤ p := by
      by_contra hpassed
      linarith [round_le hdigits hlow (not_le.mp hpassed).le]
    rw [hround, abs_of_neg hneg, abs_of_neg (a := (n : Rat) + 1 / 2) (by linarith), abs_le]
    exact ⟨fun h => by linarith, fun h => ⟨by linarith, by linarith⟩⟩
  · rw [hn, Int.cast_zero, abs_zero] at haway
    exact absurd haway (not_lt.mpr (abs_nonneg _))
  · have hcast : (1 : Rat) ≤ n := by exact_mod_cast hn
    have hround : f.round p = n - 1 / 2 := by
      rw [abs_of_pos (a := (n : Rat)) (by linarith)] at haway
      cases (abs_eq (by norm_num)).mp hhalf <;> linarith [le_abs_self (f.round p)]
    have hpos : 0 < p := by
      by_contra hneg
      linarith [f.round_nonpos (not_lt.mp hneg)]
    have habove : p ≤ n + 1 / 2 := by
      by_contra hpassed
      linarith [le_round hdigits hhigh (not_le.mp hpassed).le]
    rw [hround, abs_of_pos hpos, abs_of_pos (a := (n : Rat) - 1 / 2) (by linarith), abs_le]
    exact ⟨fun h => by linarith, fun h => ⟨by linarith, by linarith⟩⟩

end BinaryFormat

/-- Every finite pattern stands for a number of single precision. -/
theorem Single.holds_of_toRat? {x : Single} {q : Rat} (h : x.value.toRat? = some q) :
    BinaryFormat.single.Holds q := by
  have hfraction : x.fraction < 2 ^ 23 := Nat.mod_lt _ (by decide)
  -- The sign of a pattern is the sign of its number of units.
  have hsigned {negative : Bool} {magnitude : Rat} (hvalue : x.value = .finite negative magnitude)
      (hmagnitude : BinaryFormat.single.Holds magnitude) : BinaryFormat.single.Holds q := by
    rw [hvalue] at h
    cases h
    cases negative with
    | false => exact hmagnitude
    | true => exact hmagnitude.neg
  unfold value at h hsigned
  split at h
  · split at h <;> contradiction
  rename_i hfinite
  rw [if_neg hfinite] at hsigned
  split at h
  · rename_i hzero
    rw [if_pos hzero] at hsigned
    refine hsigned rfl ⟨x.fraction, -149, ?_, le_refl _, rfl⟩
    rw [abs_of_nonneg (by omega)]
    show _ < (2 : Int) ^ 24
    omega
  · rename_i hnormal
    rw [if_neg hnormal] at hsigned
    refine hsigned rfl ⟨(0x800000 + x.fraction : Nat), x.exponent - 150, ?_, ?_, rfl⟩
    · rw [abs_of_nonneg (by omega)]
      show _ < (2 : Int) ^ 24
      omega
    · show (-149 : Int) ≤ _
      omega

end AudioRelay
