import AudioRelay.Gain.Sample

/-!
# Gain on raw buffers

Scaling takes whole frames only and leaves unity gain bit for bit alone. A sample
times the gain is first a number of double precision. An integer sample is then rounded
to an integer with halves going away from zero, and held to the range of its width. A
floating-point sample is held between -1 and 1, and rounded to single precision.
-/

namespace AudioRelay.Gain

/-- The integer of the range that is nearest to `v`. -/
def clamp (range : Int × Int) (v : Int) : Int := max range.1 (min range.2 v)

/-- An integer sample under a gain; an undefined product becomes silence. -/
def scaleInt (range : Int × Int) (gain : Extended) (v : Int) : Int :=
  match gain with
  | .nan => 0
  | .infinite negative =>
    if v = 0 then 0 else if decide (v < 0) != negative then range.1 else range.2
  | .finite negative magnitude =>
    let product := BinaryFormat.double.round (v * if negative then -magnitude else magnitude)
    clamp range (Rounding.nearestAway product)

/-- A floating-point sample under a gain. A sample without a value stays one. -/
def scaleSingle (gain x : Single) : Single :=
  match x.value.mul gain.value with
  | .nan => if x.isNaN then x.quiet else Single.undefined
  | .infinite negative => Single.round negative 1
  | .finite negative magnitude =>
    let product := BinaryFormat.double.round magnitude
    Single.round negative (if product ≤ 1 then product else 1)

/-- The bytes of one sample under a gain. -/
def scaleSample (format : SampleFormat) (gain : Single) (bytes : List UInt8) : List UInt8 :=
  match format with
  | .f32 => Sample.bytesOfSingle (scaleSingle gain (Sample.singleOfBytes bytes))
  | _ =>
    Sample.bytesOfInt format.bytes
      (scaleInt (Sample.range format.bytes) gain.value (Sample.intOfBytes bytes))

@[simp] theorem length_scaleSample (format : SampleFormat) (gain : Single) (bytes : List UInt8) :
    (scaleSample format gain bytes).length = format.bytes := by
  cases format <;> simp [scaleSample, Sample.bytesOfSingle, SampleFormat.bytes]

/-- Scales the first `count` samples and keeps the bytes after them. -/
def scaleSamples (format : SampleFormat) (gain : Single) : Nat → List UInt8 → List UInt8
  | 0, bytes => bytes
  | count + 1, bytes =>
    scaleSample format gain (bytes.take format.bytes) ++
      scaleSamples format gain count (bytes.drop format.bytes)

/-- How many samples stand in the whole frames of a buffer; a stream without
channels counts as one channel. -/
def wholeSamples (format : SampleFormat) (channels bytes : Nat) : Nat :=
  bytes / (max channels 1 * format.bytes) * max channels 1

/-- Scales every sample in the whole frames of a buffer. -/
def apply (format : SampleFormat) (channels : Nat) (gain : Single) (buffer : List UInt8) :
    List UInt8 :=
  if gain = Single.one then buffer
  else scaleSamples format gain (wholeSamples format channels buffer.length) buffer

end AudioRelay.Gain
