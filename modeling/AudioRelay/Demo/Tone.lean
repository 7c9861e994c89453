/-!
# A test tone

A sine of 440 Hz in 16-bit stereo, computed in single precision and cut toward zero.
-/

namespace AudioRelay.Demo

/-- A full turn. -/
def turn : Float32 := 6.2831855

/-- How far the phase moves from one frame to the next. -/
def phaseStep : Float32 := 440.0 * turn / 48000.0

/-- The phase of the next frame, kept below a full turn. -/
def nextPhase (phase : Float32) : Float32 :=
  let phase := phase + phaseStep
  if phase < turn then phase else phase - turn

/-- One frame of the tone: the same sample in both channels. -/
def toneFrame (phase : Float32) : List UInt8 :=
  let sample := (phase.sin * 32767.0 * 0.8).toInt16.toUInt16
  let bytes := [sample.toUInt8, (sample >>> 8).toUInt8]
  bytes ++ bytes

/-- The next frames of the tone and the phase after them. -/
def tone (phase : Float32) : Nat → List UInt8 × Float32
  | 0 => ([], phase)
  | frames + 1 =>
    let (rest, last) := tone (nextPhase phase) frames
    (toneFrame phase ++ rest, last)

end AudioRelay.Demo
