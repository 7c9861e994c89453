import AudioRelay.Demo.Transcript
import AudioRelay.Gain.Sample

/-!
# Capture in bursts

A second of noise from a null device, read in bursts of two device buffers, so that
every burst ends in silence.
-/

namespace AudioRelay.Demo.Capture

/-- Frames of the device buffer. -/
def deviceFrames : Nat := 160

/-- Frames of a burst: two device buffers. -/
def burstFrames : Nat := 2 * deviceFrames

/-- A microphone of 16000 mono frames a second. -/
def blueprint : Blueprint where
  context := ⟨.input, 16000, .mono, .i16, deviceFrames⟩
  profiles := [(DeviceProfile.attached 0 0 .input).withId "stub-mic"]
  config := EngineConfig.default
  gain := Single.one
  isListening := true

/-- Silence is told. -/
def lineOf : Event → Option Line
  | .silenceInserted frames => some (.output s!"  padded {frames} frames of silence")
  | _ => none

/-- The greatest size of a 16-bit sample. -/
def peak : List UInt8 → Nat
  | low :: high :: rest => max (Sample.intOfBytes [low, high]).natAbs (peak rest)
  | _ => 0

/-- Bursts of a tenth of a second each, and the number of frames asked for. -/
def bursts : Nat → List UInt8 → Int → Transcript → Int × Transcript
  | 0, _, frames, t => (frames, t)
  | left + 1, buffer, frames, t =>
    let t := t.sleep lineOf (Duration.ofMillis 100)
    let t := t.call lineOf (.transfer buffer burstFrames)
    let buffer := match t.session.answer with
      | .moved buffer _ _ => buffer
      | _ => buffer
    bursts left buffer (frames + burstFrames)
      (t.print s!"read {burstFrames} frames, peak {peak buffer}")

/-- The whole demonstration with a built engine. -/
def listen (engine : Engine) (late : List Lateness) : Transcript :=
  let t : Transcript := ⟨Session.timed engine late, []⟩
  let t := t.call lineOf .start
  let (frames, t) := bursts 10 (List.replicate (burstFrames * 2) 0) 0 t
  let t := t.call lineOf (.refine ⟨frames, 0⟩)
  let t := match t.session.answer with
    | .located p => t.print s!"device position: {p.frames} frames"
    | _ => t
  let t := t.call lineOf .standby
  let counters := t.session.engine.counters
  t.print s!"\n{counters.transfers} transfers, {counters.silence} silence frames inserted"

/-- The whole demonstration. -/
def run (late : List Lateness) : Except EngineError Transcript :=
  (Engine.build blueprint).map (listen · late)

end AudioRelay.Demo.Capture
