import Mathlib.Data.Rat.Floor
import Mathlib.Algebra.Order.Field.Power
import Mathlib.Tactic.Linarith
import Mathlib.Tactic.Positivity
import AudioRelay.Number.Single

/-!
# Bounds of rounding

Rounding to an integer never passes an integer bound, so it keeps signs. The binade of a number
says between which powers of two it lies, and from this follows where its nearest pattern of
single precision stands among the patterns.
-/

namespace AudioRelay

namespace Rounding

variable {q : Rat} {n : Int}

/-- Rounding does not pass an integer from above. -/
theorem le_nearestAway (h : (n : Rat) ≤ q) : n ≤ nearestAway q := by
  unfold nearestAway
  split
  · rw [Rat.le_floor_iff]
    linarith
  · have hbelow : (1 / 2 - q).floor < -n + 1 := by
      rw [Rat.floor_lt_iff]
      push_cast
      linarith
    omega

/-- Rounding does not pass an integer from below. -/
theorem nearestAway_le (h : q ≤ n) : nearestAway q ≤ n := by
  unfold nearestAway
  split
  · have hbelow : (q + 1 / 2).floor < n + 1 := by
      rw [Rat.floor_lt_iff]
      push_cast
      linarith
    omega
  · have habove : -n ≤ (1 / 2 - q).floor := by
      rw [Rat.le_floor_iff]
      push_cast
      linarith
    omega

/-- Rounding to even does not pass an integer from above. -/
theorem le_nearestEven (h : (n : Rat) ≤ q) : n ≤ nearestEven q := by
  have hfloor : n ≤ q.floor := Rat.le_floor_iff.mpr h
  unfold nearestEven
  dsimp only
  split_ifs <;> omega

/-- Rounding to even does not pass an integer from below. -/
theorem nearestEven_le (h : q ≤ n) : nearestEven q ≤ n := by
  have hfloor : (q.floor : Rat) ≤ q := Rat.floor_le q
  have hle : q.floor ≤ n := by
    have hcast : (q.floor : Rat) ≤ n := hfloor.trans h
    exact_mod_cast hcast
  -- The next integer is taken only if the number is above its floor.
  have hnext (habove : 1 / 2 ≤ q - q.floor) : q.floor + 1 ≤ n := by
    have hcast : (q.floor : Rat) < n := by linarith
    have hlt : q.floor < n := by exact_mod_cast hcast
    omega
  unfold nearestEven
  dsimp only
  split_ifs with hlow hhigh heven
  · exact hle
  · exact hnext hhigh.le
  · exact hle
  · exact hnext (not_lt.mp hlow)

theorem rat_abs_eq (q : Rat) : q.abs = |q| := by
  unfold Rat.abs
  split
  · rename_i h
    exact (abs_of_nonneg h).symm
  · rename_i h
    exact (abs_of_neg (not_le.mp h)).symm

/-- A nonzero number is not below the power of its binade, and is below the next one. -/
theorem binade_spec (hq : q ≠ 0) :
    (2 : Rat) ^ binade q ≤ |q| ∧ |q| < (2 : Rat) ^ (binade q + 1) := by
  have hsize : |q| = (q.num.natAbs : Rat) / q.den := by
    conv_lhs => rw [← Rat.num_div_den q]
    rw [abs_div, Nat.abs_cast, Nat.cast_natAbs, Int.cast_abs]
  have hden : (0 : Rat) < q.den := by exact_mod_cast q.den_pos
  -- Both parts of the fraction lie between powers of two.
  have hnum : q.num.natAbs ≠ 0 := by simpa using hq
  have hnumLow : (2 : Rat) ^ (q.num.natAbs.log2 : Int) ≤ q.num.natAbs := by
    exact_mod_cast Nat.log2_self_le hnum
  have hnumHigh : (q.num.natAbs : Rat) < (2 : Rat) ^ ((q.num.natAbs.log2 : Int) + 1) := by
    exact_mod_cast Nat.lt_log2_self (n := q.num.natAbs)
  have hdenLow : (2 : Rat) ^ (q.den.log2 : Int) ≤ q.den := by
    exact_mod_cast Nat.log2_self_le q.den_nz
  have hdenHigh : (q.den : Rat) < (2 : Rat) ^ ((q.den.log2 : Int) + 1) := by
    exact_mod_cast Nat.lt_log2_self (n := q.den)
  obtain ⟨guess, hguess⟩ : ∃ guess : Int, guess = q.num.natAbs.log2 - q.den.log2 := ⟨_, rfl⟩
  have habove : |q| < (2 : Rat) ^ (guess + 1) := by
    rw [hsize, div_lt_iff₀ hden]
    calc (q.num.natAbs : Rat) < (2 : Rat) ^ ((q.num.natAbs.log2 : Int) + 1) := hnumHigh
      _ = (2 : Rat) ^ (guess + 1) * (2 : Rat) ^ (q.den.log2 : Int) := by
        rw [← zpow_add₀ two_ne_zero]
        congr 1
        omega
      _ ≤ (2 : Rat) ^ (guess + 1) * q.den := by gcongr
  have hbelow : (2 : Rat) ^ (guess - 1) ≤ |q| := by
    rw [hsize, le_div_iff₀ hden]
    calc (2 : Rat) ^ (guess - 1) * q.den
        ≤ (2 : Rat) ^ (guess - 1) * (2 : Rat) ^ ((q.den.log2 : Int) + 1) := by gcongr
      _ = (2 : Rat) ^ (q.num.natAbs.log2 : Int) := by
        rw [← zpow_add₀ two_ne_zero]
        congr 1
        omega
      _ ≤ q.num.natAbs := hnumLow
  have hbinade : binade q = if (2 : Rat) ^ guess ≤ |q| then guess else guess - 1 := by
    rw [← rat_abs_eq, hguess]
    rfl
  rw [hbinade]
  split_ifs with hfits
  · exact ⟨hfits, habove⟩
  · refine ⟨hbelow, ?_⟩
    rw [Int.sub_add_cancel]
    exact not_le.mp hfits

end Rounding

namespace BinaryFormat

variable {q : Rat}

/-- Rounding keeps a number that is not negative so. -/
theorem round_nonneg (f : BinaryFormat) (h : 0 ≤ q) : 0 ≤ f.round q := by
  have hunits : 0 ≤ f.units q := by
    apply Rounding.le_nearestEven
    push_cast
    positivity
  have hcast : (0 : Rat) ≤ f.units q := by exact_mod_cast hunits
  unfold round
  positivity

/-- Rounding keeps a number that is not positive so. -/
theorem round_nonpos (f : BinaryFormat) (h : q ≤ 0) : f.round q ≤ 0 := by
  have hpower : (0 : Rat) < (2 : Rat) ^ f.unit q := by positivity
  have hunits : f.units q ≤ 0 := by
    apply Rounding.nearestEven_le
    push_cast
    exact div_nonpos_of_nonpos_of_nonneg h hpower.le
  have hcast : (f.units q : Rat) ≤ 0 := by exact_mod_cast hunits
  exact mul_nonpos_of_nonpos_of_nonneg hcast hpower.le

/-- A number has no more units in the last place than its format has patterns of digits. -/
theorem abs_le_mul_unit (f : BinaryFormat) (q : Rat) :
    |q| ≤ (2 : Rat) ^ f.digits * (2 : Rat) ^ f.unit q := by
  by_cases hq : q = 0
  · rw [hq, abs_zero]
    positivity
  · have hunit : Rounding.binade q + 1 ≤ f.digits + f.unit q := by
      unfold unit
      rw [if_neg hq]
      omega
    calc |q| ≤ (2 : Rat) ^ (Rounding.binade q + 1) := (Rounding.binade_spec hq).2.le
      _ ≤ (2 : Rat) ^ ((f.digits : Int) + f.unit q) := zpow_le_zpow_right₀ one_le_two hunit
      _ = (2 : Rat) ^ f.digits * (2 : Rat) ^ f.unit q := by
        rw [zpow_add₀ two_ne_zero, zpow_natCast]

/-- A rounded number has no more units than that, on either side. -/
theorem abs_units_le (f : BinaryFormat) (q : Rat) : |f.units q| ≤ 2 ^ f.digits := by
  have hpower : (0 : Rat) < (2 : Rat) ^ f.unit q := by positivity
  obtain ⟨hlow, hhigh⟩ := abs_le.mp (f.abs_le_mul_unit q)
  rw [abs_le]
  constructor
  · apply Rounding.le_nearestEven
    push_cast
    rwa [le_div_iff₀ hpower, neg_mul]
  · apply Rounding.nearestEven_le
    push_cast
    rwa [div_le_iff₀ hpower]

/-- The unit in the last place of a number below a power of two. -/
theorem unit_le (f : BinaryFormat) (place : Int) (hfinest : f.finest ≤ place - f.digits)
    (h : |q| < (2 : Rat) ^ place) : f.unit q ≤ place - f.digits := by
  unfold unit
  split_ifs with hq
  · exact hfinest
  · have hbinade : Rounding.binade q < place := by
      rw [← zpow_lt_zpow_iff_right₀ (one_lt_two : (1 : Rat) < 2)]
      exact (Rounding.binade_spec hq).1.trans_lt h
    omega

end BinaryFormat

namespace Single

variable {q : Rat}

/-- Numbers that are not above one count no more units than the pattern of one. -/
theorem place_le_of_le_one (hq : 0 ≤ q) (h : q ≤ 1) :
    (BinaryFormat.single.unit q + 149).toNat * 0x800000 +
      (BinaryFormat.single.units q).toNat ≤ 0x3f800000 := by
  -- Unity is where the unit in the last place grows.
  by_cases hone : q = 1
  · have hunit : BinaryFormat.single.unit 1 = -23 := by decide
    have hunits : BinaryFormat.single.units 1 = 0x800000 := by decide +kernel
    rw [hone, hunit, hunits]
    decide
  have hbelow : |q| < (2 : Rat) ^ (0 : Int) := by
    rw [abs_of_nonneg hq, zpow_zero]
    exact lt_of_le_of_ne h hone
  have hunit : BinaryFormat.single.unit q ≤ -24 :=
    BinaryFormat.single.unit_le 0 (by decide) hbelow
  have hunits : BinaryFormat.single.units q ≤ 2 ^ 24 :=
    (le_abs_self _).trans (BinaryFormat.single.abs_units_le q)
  omega

/-- Below the sign of a pattern stand its exponent and its fraction. -/
theorem fields_of_body {x : Single} {body : Nat} {negative : Bool} (h : body < 0x80000000)
    (hx : x = ⟨UInt32.ofNat (body + if negative then 0x80000000 else 0)⟩) :
    x.negative = negative ∧ x.exponent = body / 0x800000 ∧ x.fraction = body % 0x800000 := by
  have hbits : x.bits.toNat = body + if negative then 0x80000000 else 0 := by
    rw [hx, UInt32.toNat_ofNat_of_lt']
    show _ < 2 ^ 32
    split <;> omega
  unfold Single.negative exponent fraction
  rw [hbits]
  cases negative with
  | false =>
    simp only [Bool.false_eq_true, if_false, decide_eq_false_iff_not]
    omega
  | true =>
    simp only [if_true, decide_eq_true_eq]
    omega

end Single

end AudioRelay
