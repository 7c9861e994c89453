import AudioRelay.Number.Rounding

/-!
# Single-precision numbers by their bits

A pattern of 32 bits stands for an extended number: a signed magnitude, an infinity
or no number at all. Decoding and products are exact; encoding rounds once, to the
nearest pattern with ties to even.
-/

namespace AudioRelay

/-- What a bit pattern stands for. A zero keeps its sign. -/
inductive Extended where
  | nan
  | infinite (negative : Bool)
  | finite (negative : Bool) (magnitude : Rat)
  deriving DecidableEq, Repr

namespace Extended

/-- The exact product; nothing is the product of zero and an infinity. -/
def mul : Extended → Extended → Extended
  | nan, _ => nan
  | _, nan => nan
  | infinite s, infinite t => infinite (s != t)
  | infinite s, finite t m => if m = 0 then nan else infinite (s != t)
  | finite s m, infinite t => if m = 0 then nan else infinite (s != t)
  | finite s m, finite t n => finite (s != t) (m * n)

/-- The signed value of a finite number. -/
def toRat? : Extended → Option Rat
  | finite negative magnitude => some (if negative then -magnitude else magnitude)
  | _ => none

end Extended

/-- A number of single precision, named by its bits. -/
structure Single where
  bits : UInt32
  deriving DecidableEq, Repr, Inhabited

namespace Single

/-- Unity. -/
def one : Single := ⟨0x3f800000⟩

/-- The pattern that an undefined product leaves. -/
def undefined : Single := ⟨0xffc00000⟩

/-- The pattern that stands for every pattern without a value. -/
def noNumber : Single := ⟨0x7fc00000⟩

/-- The sign bit. -/
def negative (x : Single) : Bool := decide (0x80000000 ≤ x.bits.toNat)

/-- The eight bits of the exponent. -/
def exponent (x : Single) : Nat := x.bits.toNat / 0x800000 % 0x100

/-- The 23 bits of the fraction. -/
def fraction (x : Single) : Nat := x.bits.toNat % 0x800000

/-- The extended number that a pattern stands for. -/
def value (x : Single) : Extended :=
  if x.exponent = 255 then
    if x.fraction = 0 then .infinite x.negative else .nan
  else if x.exponent = 0 then
    .finite x.negative ((x.fraction : Rat) * (2 : Rat) ^ (-149 : Int))
  else
    .finite x.negative
      (((0x800000 + x.fraction : Nat) : Rat) * (2 : Rat) ^ ((x.exponent : Int) - 150))

/-- Whether a pattern stands for no number. -/
def isNaN (x : Single) : Bool := x.value = .nan

/-- The nearest pattern to a signed magnitude; beyond the greatest number lies
infinity. Counting units in the last place numbers the patterns in order, so the
exponent field needs no separate carry. -/
def round (negative : Bool) (magnitude : Rat) : Single :=
  let format := BinaryFormat.single
  let place := (format.unit magnitude + 149).toNat * 0x800000
  let body := min (place + (format.units magnitude).toNat) 0x7f800000
  ⟨UInt32.ofNat (body + if negative then 0x80000000 else 0)⟩

/-- A pattern without a value, marked as quiet; its sign and payload stay. -/
def quiet (x : Single) : Single := ⟨x.bits ||| 0x00400000⟩

/-- One pattern for all patterns without a value. -/
def canonical (x : Single) : Single := if x.isNaN then noNumber else x

end Single

end AudioRelay
