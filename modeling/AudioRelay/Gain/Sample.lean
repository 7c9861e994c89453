import AudioRelay.Number.Single
import AudioRelay.Stream.Format

/-!
# Samples as bytes

Every sample is little-endian. Integers are in two's complement of their width;
floating-point samples are kept by their bits.
-/

namespace AudioRelay.Sample

/-- The number that bytes spell, least significant byte first. -/
def natOfBytes : List UInt8 → Nat
  | [] => 0
  | b :: rest => b.toNat + 256 * natOfBytes rest

/-- The lowest `width` bytes of a number, least significant byte first. -/
def bytesOfNat : Nat → Nat → List UInt8
  | 0, _ => []
  | width + 1, n => UInt8.ofNat n :: bytesOfNat width (n / 256)

@[simp] theorem length_bytesOfNat (width n : Nat) : (bytesOfNat width n).length = width := by
  induction width generalizing n with
  | zero => rfl
  | succ width ih => simp [bytesOfNat, ih]

/-- The integer that bytes spell in two's complement. -/
def intOfBytes (bytes : List UInt8) : Int := Int.bmod (natOfBytes bytes) (Nat.pow 256 bytes.length)

/-- Two's complement of an integer in `width` bytes. -/
def bytesOfInt (width : Nat) (v : Int) : List UInt8 :=
  bytesOfNat width (v % (Nat.pow 256 width : Nat)).toNat

@[simp] theorem length_bytesOfInt (width : Nat) (v : Int) :
    (bytesOfInt width v).length = width :=
  length_bytesOfNat _ _

/-- The floating-point number that four bytes spell. -/
def singleOfBytes (bytes : List UInt8) : Single := ⟨UInt32.ofNat (natOfBytes bytes)⟩

/-- The four bytes of a floating-point number. -/
def bytesOfSingle (x : Single) : List UInt8 := bytesOfNat 4 x.bits.toNat

/-- Least and greatest integer of a width in bytes. -/
def range (width : Nat) : Int × Int :=
  (-(Nat.pow 2 (8 * width - 1) : Nat), (Nat.pow 2 (8 * width - 1) : Nat) - 1)

end AudioRelay.Sample
