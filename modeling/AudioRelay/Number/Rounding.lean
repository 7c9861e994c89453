/-!
# Rounding of exact numbers

Rational numbers are rounded to integers and to binary formats. A binary format
keeps a fixed number of significant binary digits until its finest unit is reached;
below that the digits run out and the spacing stays the same.
-/

namespace AudioRelay

namespace Rounding

/-- The nearest integer; a half goes away from zero. -/
def nearestAway (q : Rat) : Int :=
  if 0 ≤ q then (q + 1 / 2).floor else -(1 / 2 - q).floor

/-- The nearest integer; a half goes to the even neighbour. -/
def nearestEven (q : Rat) : Int :=
  let below := q.floor
  if q - below < 1 / 2 then below
  else if 1 / 2 < q - below then below + 1
  else if below % 2 = 0 then below
  else below + 1

/-- The exponent of the greatest power of two that is not above a nonzero number's
size. -/
def binade (q : Rat) : Int :=
  let guess : Int := q.num.natAbs.log2 - q.den.log2
  if (2 : Rat) ^ guess ≤ q.abs then guess else guess - 1

end Rounding

/-- A binary floating-point format without an upper bound. -/
structure BinaryFormat where
  /-- Significant binary digits. -/
  digits : Nat
  /-- Exponent of the finest unit in the last place. -/
  finest : Int
  deriving DecidableEq, Repr

namespace BinaryFormat

/-- 24 digits, the finest unit at the 149th place. -/
def single : BinaryFormat := ⟨24, -149⟩

/-- 53 digits, the finest unit at the 1074th place. -/
def double : BinaryFormat := ⟨53, -1074⟩

/-- Exponent of the unit in the last place for numbers of the size of `q`. -/
def unit (f : BinaryFormat) (q : Rat) : Int :=
  if q = 0 then f.finest else max (Rounding.binade q + 1 - f.digits) f.finest

/-- How many units in the last place come nearest to `q`; a half goes to the even
count. -/
def units (f : BinaryFormat) (q : Rat) : Int :=
  Rounding.nearestEven (q / (2 : Rat) ^ f.unit q)

/-- The number of the format nearest to `q`. -/
def round (f : BinaryFormat) (q : Rat) : Rat :=
  f.units q * (2 : Rat) ^ f.unit q

end BinaryFormat

end AudioRelay
