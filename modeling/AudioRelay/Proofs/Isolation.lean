import AudioRelay.Proofs.View

/-!
# Isolation of playback devices

Take two runs in which a lane is touched alike: the same calls, the same outcomes of its device,
its worker and the client in the same order. Whatever the other devices do, and however many
there are, the same happens on the lane. And no device keeps a transfer from moving all of its
frames.
-/

namespace AudioRelay

/-- Lanes that are touched alike in two runs of streams alike take the same bytes, drop the same
frames and make the same attempts, whatever becomes of the other lanes; and in both runs every
transfer moves all of its frames. -/
theorem Run.isolated {b₁ b₂ : Blueprint} {h₁ h₂ : List Moment} {e₁ e₂ : Engine} {i₁ i₂ : Nat}
    (run₁ : Run b₁ h₁ e₁) (run₂ : Run b₂ h₂ e₂) (output : b₁.context.direction = .output)
    (context : b₂.context = b₁.context) (gain : b₂.gain = b₁.gain)
    (retry : b₂.config.retryPolicy = b₁.config.retryPolicy) (bound₁ : i₁ < b₁.serving.length)
    (bound₂ : i₂ < b₂.serving.length) (alike : touches i₁ h₁ = touches i₂ h₂) :
    Deed.accepted b₁.context.frameSize (deeds i₁ h₁) =
        Deed.accepted b₂.context.frameSize (deeds i₂ h₂) ∧
      Deed.dropped (deeds i₁ h₁) = Deed.dropped (deeds i₂ h₂) ∧
      Deed.attempts (deeds i₁ h₁) = Deed.attempts (deeds i₂ h₂) ∧
      e₁.view i₁ = e₂.view i₂ ∧ DeliversAll h₁ e₁ ∧ DeliversAll h₂ e₂ := by
  have output₂ : b₂.context.direction = .output := by rw [context, output]
  have lane₁ : i₁ < b₁.candidates.length := by rwa [b₁.candidates_of_output output]
  have lane₂ : i₂ < b₂.candidates.length := by rwa [b₂.candidates_of_output output₂]
  have plan : b₂.plan = b₁.plan := by rw [Blueprint.plan, context, retry, Blueprint.plan]
  obtain ⟨hview₁, hdeeds₁⟩ := run₁.view_eq lane₁
  obtain ⟨hview₂, hdeeds₂⟩ := run₂.view_eq lane₂
  rw [context, plan, gain, ← alike, ← hview₁] at hview₂
  rw [context, plan, gain, ← alike, ← hdeeds₁] at hdeeds₂
  rw [hdeeds₂, context]
  exact ⟨rfl, rfl, rfl, hview₂.symm, run₁.delivers_all output, run₂.delivers_all output₂⟩

/-- A device drops and plays the same next to one that dies in its first write as it does alone. -/
theorem Run.isolated_from_crash :
    ∃ h₁ e₁ h₂ e₂, Run (.small .output [.attached 0 0 .output]) h₁ e₁ ∧
      Run (.small .output [.attached 0 1 .output, .attached 0 0 .output]) h₂ e₂ ∧
      e₂.workers = [.crashed, .looping] ∧ Deed.dropped (deeds 0 h₁) = [1] ∧
      Deed.accepted 2 (deeds 0 h₁) = Deed.accepted 2 (deeds 1 h₂) ∧
      Deed.dropped (deeds 0 h₁) = Deed.dropped (deeds 1 h₂) ∧
      Deed.attempts (deeds 0 h₁) = Deed.attempts (deeds 1 h₂) := by
  have hfollow₁ : ((Blueprint.small .output [.attached 0 0 .output]).follow
      [.call .start, .client (.opened (.ok 0)), .client .tick, .client (.spawned (.ok ())),
        .client .tick, .client .tick, .client .tick,
        .call (.transfer [1, 2, 3, 4, 5, 6] 3), .client .tick, .client .tick, .client .tick,
        .worker 0 .tick, .worker 0 .tick, .worker 0 (.settled (.done []))]).map
        (fun x => (touches 0 x.1, Deed.dropped (deeds 0 x.1))) =
      some ([.call .start, .bind, .spawn, .call (.transfer [1, 2, 3, 4, 5, 6] 3), .scale, .send,
        .work .tick, .work .tick, .work (.settled (.done []))], [1]) := by
    decide
  have hfollow₂ : ((Blueprint.small .output [.attached 0 1 .output, .attached 0 0 .output]).follow
      [.call .start, .client (.opened (.ok 0)), .client (.opened (.ok 1)), .client .tick,
        .client (.spawned (.ok ())), .client .tick, .client .tick, .client (.spawned (.ok ())),
        .client .tick, .client .tick, .client .tick,
        .call (.transfer [1, 2, 3, 4, 5, 6] 3), .client .tick, .client .tick, .client .tick,
        .client .tick, .client (.latency 9), .worker 0 .tick, .worker 0 .tick,
        .worker 0 (.settled (.crashed .deviceCrash)), .client .tick,
        .worker 1 .tick, .worker 1 .tick, .worker 1 (.settled (.done []))]).map
        (fun x => (touches 1 x.1, x.2.workers)) =
      some ([.call .start, .bind, .spawn, .call (.transfer [1, 2, 3, 4, 5, 6] 3), .scale, .send,
        .work .tick, .work .tick, .work (.settled (.done []))], [.crashed, .looping]) := by
    decide
  obtain ⟨⟨h₁, e₁⟩, hf₁, heq₁⟩ := Option.map_eq_some_iff.mp hfollow₁
  obtain ⟨⟨h₂, e₂⟩, hf₂, heq₂⟩ := Option.map_eq_some_iff.mp hfollow₂
  obtain ⟨htouches₁, hdropped⟩ := Prod.mk.inj heq₁
  obtain ⟨htouches₂, hworkers⟩ := Prod.mk.inj heq₂
  have halike : touches 0 h₁ = touches 1 h₂ := htouches₁.trans htouches₂.symm
  obtain ⟨haccepted, hdrops, hattempts, -⟩ :=
    Run.isolated (Run.of_follow hf₁) (Run.of_follow hf₂) rfl rfl rfl rfl (by decide) (by decide)
      halike
  exact ⟨h₁, e₁, h₂, e₂, Run.of_follow hf₁, Run.of_follow hf₂, hworkers, hdropped, haccepted,
    hdrops, hattempts⟩

end AudioRelay
