import AudioRelay.Proofs.Nearest

/-!
# Nearest patterns

Of two numbers of a binary format that come equally close, rounding takes the one with an even
count of units in the last place. A pattern of single precision counts the units of its number, so
encoding finds a pattern to which no other one comes closer, and of two that come equally close
the one that ends in an even digit. Subnormal numbers and zeros with a sign are no exception.
-/

namespace AudioRelay

namespace Rounding

/-- A nearest integer to a number; of two that are equally near, the even one. -/
structure IsNearestEven (q : Rat) (n : Int) : Prop where
  near : |(n : Rat) - q| ≤ 1 / 2
  even : |(n : Rat) - q| = 1 / 2 → n % 2 = 0

/-- Rounding to even is what it is called. -/
theorem nearestEven_spec (q : Rat) : IsNearestEven q (nearestEven q) where
  near := abs_nearestEven_sub_le q
  even := by
    intro hhalf
    have hlow := Rat.floor_le q
    have hhigh := Rat.lt_floor (x := q)
    unfold nearestEven at hhalf ⊢
    dsimp only at hhalf ⊢
    split_ifs at hhalf ⊢ with hbelow habove heven
    · rw [abs_of_nonpos (by linarith)] at hhalf
      linarith
    · push_cast at hhalf hhigh
      rw [abs_of_nonneg (by linarith)] at hhalf
      linarith
    · exact heven
    · omega

end Rounding

namespace BinaryFormat

variable {f g : BinaryFormat} {p q x : Rat}

/-- A product has as many digits as both factors together, and their places add up. -/
theorem Holds.mul (hp : f.Holds p) (hq : f.Holds q) (hdigits : f.digits + f.digits ≤ g.digits)
    (hfinest : g.finest ≤ f.finest + f.finest) : g.Holds (p * q) := by
  obtain ⟨k, e, hk, he, rfl⟩ := hp
  obtain ⟨l, d, hl, hd, rfl⟩ := hq
  refine ⟨k * l, e + d, ?_, by omega, ?_⟩
  · calc |k * l| = |k| * |l| := abs_mul k l
      _ < 2 ^ f.digits * 2 ^ f.digits := mul_lt_mul'' hk hl (abs_nonneg _) (abs_nonneg _)
      _ = 2 ^ (f.digits + f.digits) := (pow_add _ _ _).symm
      _ ≤ 2 ^ g.digits := pow_le_pow_right₀ (by decide) hdigits
  · rw [zpow_add₀ two_ne_zero]
    push_cast
    ring

/-- A number that comes as close as the rounded number is a multiple of the unit, too. -/
theorem eq_mul_unit_of_near (hdigits : 0 < f.digits) (hx : f.Holds x)
    (hnear : |x - q| ≤ |f.round q - q|) : ∃ k : Int, x = k * (2 : Rat) ^ f.unit q := by
  obtain ⟨k, e, hk, he, rfl⟩ := hx
  obtain hcoarse | hfine := le_or_gt (f.unit q) e
  · exact ⟨_, mul_zpow_of_le k hcoarse⟩
  · -- A number of finer digits comes as close only if it is the lower bound of the binade.
    have hfinest := he.trans_lt hfine
    have hinside := abs_le.mp (abs_le_binade hk he hfine)
    have hbelow := (Rounding.binade_spec (binade_of_finest_lt hfinest).1).1
    have hbound := binade_eq_mul_unit hdigits hfinest
    rw [hbound] at hinside hbelow
    obtain hpos | hneg := le_abs.mp hbelow
    · refine ⟨2 ^ (f.digits - 1), ?_⟩
      have hround := round_nearest_multiple f q (2 ^ (f.digits - 1))
      rw [abs_of_nonpos (by linarith)] at hnear
      rw [abs_of_nonpos (a := _ * _ - q) (by linarith)] at hround
      linarith
    · refine ⟨-2 ^ (f.digits - 1), ?_⟩
      have hround := round_nearest_multiple f q (-2 ^ (f.digits - 1))
      rw [Int.cast_neg, neg_mul] at hround ⊢
      rw [abs_of_nonneg (by linarith)] at hnear
      rw [abs_of_nonneg (a := -_ - q) (by linarith)] at hround
      linarith

/-- If another number of the format comes as close, the units are even in number. -/
theorem even_units_of_tie (hdigits : 0 < f.digits) (hx : f.Holds x) (hne : x ≠ f.round q)
    (htie : |x - q| = |f.round q - q|) : f.units q % 2 = 0 := by
  obtain ⟨k, rfl⟩ := eq_mul_unit_of_near hdigits hx htie.le
  have hpos : (0 : Rat) < (2 : Rat) ^ f.unit q := by positivity
  have hk : k ≠ f.units q := fun h => hne (by rw [h, round])
  rw [round, abs_mul_unit_sub, abs_mul_unit_sub] at htie
  have hequal := mul_right_cancel₀ hpos.ne' htie
  have hspec := Rounding.nearestEven_spec (q / (2 : Rat) ^ f.unit q)
  apply hspec.even
  -- Two integers are at least one apart.
  have happart : (1 : Rat) ≤ |(k : Rat) - f.units q| := by
    by_contra hclose
    exact hk (Rounding.eq_of_abs_sub_lt_one (not_le.mp hclose))
  have hsum := abs_sub_le (k : Rat) (q / (2 : Rat) ^ f.unit q) (f.units q)
  rw [hequal, abs_sub_comm (q / (2 : Rat) ^ f.unit q)] at hsum
  refine le_antisymm hspec.near ?_
  change 1 / 2 ≤ |(f.units q : Rat) - q / (2 : Rat) ^ f.unit q|
  linarith

/-- Above the finest unit a number has as many units as its digits allow. -/
theorem le_units (hdigits : 0 < f.digits) (hq : 0 ≤ q) (h : f.finest < f.unit q) :
    2 ^ (f.digits - 1) ≤ f.units q := by
  have hbelow := (Rounding.binade_spec (binade_of_finest_lt h).1).1
  rw [binade_eq_mul_unit hdigits h, abs_of_nonneg hq] at hbelow
  apply Rounding.le_nearestEven
  rwa [le_div_iff₀ (by positivity)]

end BinaryFormat

namespace Single

variable {negative : Bool} {q : Rat}

/-- A pattern counts the units of its number: units in a place stand for so many of them, and end
in the same digit. -/
theorem value_of_place {x : Single} {unit : Int} {units : Nat} (hfinest : -149 ≤ unit)
    (hunits : units ≤ 2 ^ 24) (hnormal : -149 < unit → 2 ^ 23 ≤ units)
    (hbody : (unit + 149).toNat * 0x800000 + units < 0x7f800000)
    (hx : x = ⟨UInt32.ofNat ((unit + 149).toNat * 0x800000 + units +
      if negative then 0x80000000 else 0)⟩) :
    x.value = .finite negative (units * (2 : Rat) ^ unit) ∧ x.fraction % 2 = units % 2 := by
  obtain ⟨place, hplace⟩ : ∃ place : Nat, place = (unit + 149).toNat := ⟨_, rfl⟩
  obtain ⟨hnegative, hexponent, hfraction⟩ := fields_of_body (by omega) hx
  rw [← hplace] at hexponent hfraction hbody
  refine ⟨?_, by omega⟩
  unfold value
  rw [if_neg (by omega), hnegative]
  obtain hsubnormal | hone | htop : units < 2 ^ 23 ∨ 2 ^ 23 ≤ units ∧ units < 2 ^ 24 ∨
      units = 2 ^ 24 := by omega
  · -- Fewer units than a normal number has are units of the finest kind.
    have hunit : unit = -149 := by omega
    have hsame : x.fraction = units := by omega
    rw [if_pos (by omega), hsame, hunit]
  · have hsame : 0x800000 + x.fraction = units := by omega
    have hexp : (x.exponent : Int) - 150 = unit := by omega
    rw [if_neg (by omega), hsame, hexp]
  · -- The next binade begins with half as many units of twice the size.
    have hsame : 0x800000 + x.fraction = 2 ^ 23 := by omega
    have hexp : (x.exponent : Int) - 150 = unit + 1 := by omega
    rw [if_neg (by omega), hsame, hexp, htop, zpow_add_one₀ two_ne_zero]
    norm_num
    ring

/-- Encoding a number that is not above one rounds it to single precision. -/
theorem value_round (negative : Bool) (hq : 0 ≤ q) (h : q ≤ 1) :
    (round negative q).value = .finite negative (BinaryFormat.single.round q) ∧
      ((round negative q).fraction : Int) % 2 = BinaryFormat.single.units q % 2 := by
  have hbody := place_le_of_le_one hq h
  have hunits : BinaryFormat.single.units q ≤ 2 ^ 24 :=
    (le_abs_self _).trans (BinaryFormat.single.abs_units_le q)
  have hnonneg : 0 ≤ BinaryFormat.single.units q := by
    apply Rounding.le_nearestEven
    push_cast
    positivity
  have hfinest : -149 ≤ BinaryFormat.single.unit q := BinaryFormat.single.finest_le_unit q
  obtain ⟨units, hcast⟩ := Int.eq_ofNat_of_zero_le hnonneg
  have hnormal : -149 < BinaryFormat.single.unit q → 2 ^ 23 ≤ units := by
    intro hcoarse
    have hle : 2 ^ 23 ≤ BinaryFormat.single.units q :=
      BinaryFormat.le_units (by decide) hq hcoarse
    omega
  rw [hcast, Int.toNat_natCast] at hbody
  have hpattern : round negative q = ⟨UInt32.ofNat ((BinaryFormat.single.unit q + 149).toNat *
      0x800000 + units + if negative then 0x80000000 else 0)⟩ := by
    unfold round
    dsimp only
    rw [hcast, Int.toNat_natCast, Nat.min_eq_left (by omega)]
  obtain ⟨hvalue, heven⟩ := value_of_place hfinest (by omega) hnormal (by omega) hpattern
  rw [hvalue, BinaryFormat.round, hcast]
  exact ⟨rfl, by omega⟩

/-- A pattern stands for a number `r` to which `q` is correctly rounded: no finite pattern stands
for one that comes closer, and the pattern ends in an even digit if another number comes as
close. -/
structure IsNearest (q r : Rat) (y : Single) : Prop where
  value : y.value.toRat? = some r
  near (z : Single) (t : Rat) : z.value.toRat? = some t → |r - q| ≤ |t - q|
  even (z : Single) (t : Rat) : z.value.toRat? = some t → t ≠ r → |t - q| = |r - q| →
    y.fraction % 2 = 0

/-- Encoding a number that is not above one is correct for either sign. -/
theorem isNearest_round (negative : Bool) (hq : 0 ≤ q) (h : q ≤ 1) :
    IsNearest (if negative then -q else q)
      (if negative then -BinaryFormat.single.round q else BinaryFormat.single.round q)
      (round negative q) := by
  obtain ⟨hvalue, heven⟩ := value_round negative hq h
  have near {t : Rat} (ht : BinaryFormat.single.Holds t) :
      |BinaryFormat.single.round q - q| ≤ |t - q| := BinaryFormat.round_nearest (by decide) ht q
  have even {t : Rat} (ht : BinaryFormat.single.Holds t) (hne : t ≠ BinaryFormat.single.round q)
      (htie : |t - q| = |BinaryFormat.single.round q - q|) :
      (round negative q).fraction % 2 = 0 := by
    have hunits := BinaryFormat.even_units_of_tie (by decide) ht hne htie
    omega
  have hround : (round negative q).value.toRat? = some (if negative then
      -BinaryFormat.single.round q else BinaryFormat.single.round q) := by
    rw [hvalue]
    rfl
  cases negative with
  | false =>
    exact ⟨hround, fun z t hz => near (holds_of_toRat? hz),
      fun z t hz => even (holds_of_toRat? hz)⟩
  | true =>
    -- Distances are those of the numbers with the other sign.
    have hflip (s : Rat) : |s - -q| = |-s - q| := by
      rw [← abs_neg, neg_sub', neg_neg]
    simp only [if_true] at hround ⊢
    refine ⟨hround, fun z t hz => ?_, fun z t hz hne htie => ?_⟩
    · rw [hflip, hflip, neg_neg]
      exact near (holds_of_toRat? hz).neg
    · rw [hflip, hflip, neg_neg] at htie
      exact even (holds_of_toRat? hz).neg (fun heq => hne (neg_eq_iff_eq_neg.mp heq)) htie

end Single

end AudioRelay
