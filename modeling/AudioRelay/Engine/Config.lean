import AudioRelay.Retry

/-!
# Engine tuning

A wait on a pipe may end at any time, so the two waiting times bound how long a thread
sleeps without looking and never what it does.
-/

namespace AudioRelay

/-- How an engine treats its devices and names its workers. -/
structure EngineConfig where
  /-- Attempts for each device transfer. -/
  attempts : Nat
  /-- Pause between attempts. -/
  retryDelay : Duration
  /-- Longest wait of a playback worker on an empty pipe. -/
  idleWait : Duration
  /-- Longest single wait of a capture worker on a full pipe. -/
  writeWait : Duration
  /-- First part of every worker's name. -/
  workerName : String
  deriving DecidableEq, Repr

namespace EngineConfig

/-- Three attempts a millisecond apart, waits of one and of ten milliseconds. -/
def default : EngineConfig :=
  ⟨3, Duration.ofMillis 1, Duration.ofMillis 1, Duration.ofMillis 10, "pcm"⟩

/-- The policy for device transfers; at least one attempt is made. -/
def retryPolicy (c : EngineConfig) : RetryPolicy := ⟨max c.attempts 1, c.retryDelay⟩

end EngineConfig

end AudioRelay
