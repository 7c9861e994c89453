import AudioRelay.Demo.Capture
import AudioRelay.Demo.Playback

/-!
# Command line

Runs a demonstration by name and prints its lines: ordinary lines to the standard
output, warnings to the standard error.
-/

open AudioRelay

/-- Prints what a demonstration wrote. -/
def printTranscript (lines : List Demo.Line) : IO Unit :=
  for line in lines do
    match line with
    | .output text => IO.println text
    | .warning text => IO.eprintln text

/-- Prints a finished demonstration or why it could not begin. -/
def printResult (result : Except EngineError Demo.Transcript) : IO UInt32 := do
  match result with
  | .ok t =>
    printTranscript t.lines.reverse
    return 0
  | .error e =>
    IO.eprintln e.message
    return 1

/-- Runs the demonstration that the only argument names. -/
def main (args : List String) : IO UInt32 := do
  match args with
  | ["playback"] => printResult (Demo.Playback.run [])
  | ["capture"] => printResult (Demo.Capture.run [])
  | _ =>
    IO.eprintln "usage: playback | capture"
    return 2
