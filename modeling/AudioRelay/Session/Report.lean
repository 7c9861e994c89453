import AudioRelay.Session.Run

/-!
# Reports

What happened in a session since the last report: calls of the opener, events by
thread, transfer attempts by device, and stopped devices, each in order of time.
-/

namespace AudioRelay

/-- A settled transfer attempt. -/
structure SettledAttempt where
  thread : String
  transfer : Transfer
  outcome : Outcome (List UInt8)

/-- What happened since the last report. -/
structure Report where
  openings : List (DeviceProfile × OpenMode × PcmConfig)
  /-- Threads in order of their first event, each with its events. -/
  events : List (String × List Event)
  /-- Devices in order of their first attempt, each with its attempts. -/
  attempts : List (Nat × List SettledAttempt)
  stops : List Nat

namespace Report

/-- Pairs gathered by their first part, in order of first appearance. -/
def gather {κ α : Type} [BEq κ] (pairs : List (κ × α)) : List (κ × List α) :=
  (pairs.map (·.1)).eraseDups.map fun key =>
    (key, (pairs.filter (·.1 == key)).map (·.2))

/-- The thread of the latest attempt. -/
def latestThread (attempts : List SettledAttempt) : String :=
  (attempts.getLast?.map (·.thread)).getD ""

end Report

namespace Session

/-- What happened since the last report, and the session with a new page. -/
def report (s : Session) : Report × Session :=
  let seen := s.observed.reverse
  ({ openings := seen.filterMap fun
        | .opened profile mode pcm => some (profile, mode, pcm)
        | _ => none
     events := Report.gather s.engine.journal.reverse
     attempts := Report.gather (seen.filterMap fun
        | .attempted device thread transfer outcome => some (device, ⟨thread, transfer, outcome⟩)
        | _ => none)
     stops := seen.filterMap fun
        | .stopped device => some device
        | _ => none },
    { s with engine := { s.engine with journal := [] }, observed := [] })

/-- The answer to the last call. -/
def answer (s : Session) : Answer := s.engine.answer?.getD .done

end Session

end AudioRelay
