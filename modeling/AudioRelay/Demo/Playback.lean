import AudioRelay.Demo.Tone
import AudioRelay.Demo.Transcript

/-!
# Playback to two devices

A tone goes to two null devices for three seconds, a chunk every ten milliseconds.
A late client catches up without sleeping.
-/

namespace AudioRelay.Demo.Playback

/-- Frames a second. -/
def rate : Nat := 48000

/-- Frames of a chunk, and of every device buffer. -/
def chunkFrames : Nat := 480

/-- How long the tone plays. -/
def length : Duration := Duration.ofSeconds 3

/-- Time between chunks. -/
def interval : Duration := Duration.ofMicros (chunkFrames * 1000000 / rate)

/-- A built-in and an external speaker at half gain. -/
def blueprint : Blueprint where
  context := ⟨.output, rate, .stereo, .i16, chunkFrames⟩
  profiles := [DeviceProfile.attached 0 0 .output,
    DeviceProfile.ofAddress "usb:CARD_1_DEV_0" .output true]
  config := EngineConfig.default
  gain := ⟨0x3f000000⟩
  isListening := true

/-- Dropped frames and failed devices are warned of. -/
def lineOf : Event → Option Line
  | .framesDropped device frames => some (.warning s!"Warning: '{device}' dropped {frames} frames")
  | .deviceFailed device text => some (.warning s!"Device '{device}' error: {text}")
  | _ => none

/-- Chunks from the time `next` on, until the playback is over; every chunk moves the
next one an interval on, so there are never more than fit into the playback. -/
def chunks : Nat → Nat → Float32 → Transcript → Transcript
  | 0, _, _, t => t
  | fuel + 1, next, phase, t =>
    if length.nanos ≤ t.now then t
    else
      let (chunk, phase) := tone phase chunkFrames
      let t := t.call lineOf (.transfer chunk chunkFrames)
      let next := next + interval.nanos
      chunks fuel next phase (t.sleep lineOf ⟨next - t.now⟩)

/-- The whole demonstration with a built engine. -/
def play (engine : Engine) (late : List Lateness) : Transcript :=
  let t : Transcript := ⟨Session.timed engine late, []⟩
  let t := t.call lineOf .start
  let t := t.print s!"Playing to {t.session.engine.lanes.length} devices for 3 seconds..."
  let t := chunks (length.nanos / interval.nanos) t.now 0.0 t
  let t := t.call lineOf (.drain .all)
  let t := t.call lineOf .standby
  let counters := t.session.engine.counters
  (t.print "\nPlayback complete!").print
    s!"{counters.transfers} transfers, {counters.dropped} frames dropped, {counters.deviceErrors} device errors"

/-- The whole demonstration. -/
def run (late : List Lateness) : Except EngineError Transcript :=
  (Engine.build blueprint).map (play · late)

end AudioRelay.Demo.Playback
