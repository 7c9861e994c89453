import AudioRelay.Session.Report

/-!
# Demonstration runs

A demonstration drives a session in time and writes lines, ordinary ones and
warnings. Events are turned into lines as they happen.
-/

namespace AudioRelay.Demo

/-- Which of its two streams a demonstration writes a line to. -/
inductive Line where
  | output (text : String)
  | warning (text : String)
  deriving DecidableEq, Repr

/-- A demonstration under way. -/
structure Transcript where
  session : Session
  /-- Lines written so far, latest first. -/
  lines : List Line

namespace Transcript

/-- Writes an ordinary line. -/
def print (t : Transcript) (text : String) : Transcript :=
  { t with lines := .output text :: t.lines }

/-- Writes the lines for everything the listener was told. -/
def hear (t : Transcript) (lineOf : Event → Option Line) : Transcript :=
  let heard := t.session.engine.journal.filterMap fun (_, event) => lineOf event
  { session := { t.session with engine := { t.session.engine with journal := [] } }
    lines := heard ++ t.lines }

/-- Makes a call and hears what comes of it. -/
def call (t : Transcript) (lineOf : Event → Option Line) (c : Call) : Transcript :=
  { t with session := t.session.call c }.hear lineOf

/-- Sleeps between calls. -/
def sleep (t : Transcript) (lineOf : Event → Option Line) (pause : Duration) : Transcript :=
  { t with session := t.session.sleep pause }.hear lineOf

/-- Nanoseconds since the start. -/
def now (t : Transcript) : Nat := t.session.clock.now

/-- The ordinary lines, first to last. -/
def output (t : Transcript) : List String :=
  t.lines.reverse.filterMap fun
    | .output text => some text
    | .warning _ => none

/-- The warnings, first to last. -/
def warnings (t : Transcript) : List String :=
  t.lines.reverse.filterMap fun
    | .warning text => some text
    | .output _ => none

end Transcript

end AudioRelay.Demo
