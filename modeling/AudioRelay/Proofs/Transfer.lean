import Mathlib.Data.List.Induction
import AudioRelay.Proofs.Passage
import AudioRelay.Proofs.Scaling
import AudioRelay.Proofs.Worker

/-!
# What a transfer carries

From its call to its answer a transfer carries the frames that the call asked for and the buffer
that the call gave: a playback transfer has the buffer's bytes under the gain of the moment when
it applied it, a capture transfer as many bytes as it is to fill. Whatever other threads do in
between, the call and the gain are read off the history.
-/

namespace AudioRelay

namespace Moment

/-- The call that the client makes. -/
def call? (m : Moment) : Option Call :=
  match m.action with
  | .call c => some c
  | _ => none

/-- The level that a playback transfer applies. -/
def gain? (m : Moment) : Option Single :=
  match m.action, m.engine.client with
  | .client .tick, .scaling _ => some m.engine.level
  | _, _ => none

end Moment

/-- The call that was made last. -/
def lastCall? (h : List Moment) : Option Call := (h.filterMap Moment.call?).getLast?

/-- The level that a playback transfer applied since the last call. -/
def appliedGain? (h : List Moment) : Option Single :=
  ((since Moment.isCall h).filterMap Moment.gain?).getLast?

theorem lastCall?_snoc (h : List Moment) (m : Moment) :
    lastCall? (h ++ [m]) = m.call?.or (lastCall? h) := by
  unfold lastCall?
  rw [List.filterMap_append, List.getLast?_append]
  cases hm : m.call? <;> simp [hm]

theorem appliedGain?_snoc (h : List Moment) (m : Moment) :
    appliedGain? (h ++ [m]) = if m.isCall then none else m.gain?.or (appliedGain? h) := by
  unfold appliedGain?
  rw [since_snoc]
  split
  · rfl
  · rw [List.filterMap_append, List.getLast?_append]
    cases hm : m.gain? <;> simp [hm]

/-- What a transfer of the stream's direction is to make of the bytes of its frames: playback puts
the gain on them, capture replaces them one for one. -/
def StreamContext.Makes (c : StreamContext) (gain : Option Single) (bytes moved : List UInt8) :
    Prop :=
  match c.direction with
  | .output => ∃ level, gain = some level ∧ moved = Gain.apply c.format c.channels level bytes
  | .input => moved.length = bytes.length

namespace Passage

/-- A passage has the frames that the call asked for, the buffer's bytes beyond them, and bytes
that `made` relates to the buffer's bytes of those frames. -/
def Of (c : StreamContext) (asked : Option Call) (made : List UInt8 → List UInt8 → Prop)
    (p : Passage) : Prop :=
  ∃ buffer, asked = some (.transfer buffer p.frames) ∧ p.frames * c.frameSize ≤ buffer.length ∧
    p.tail = buffer.drop (p.frames * c.frameSize) ∧
    made (buffer.take (p.frames * c.frameSize)) p.moved

/-- The bytes are those of the buffer. -/
def Raw (c : StreamContext) (asked : Option Call) : Passage → Prop :=
  Of c asked fun bytes moved => moved = bytes

/-- The bytes are what the transfer is to make. -/
def Made (c : StreamContext) (asked : Option Call) (gain : Option Single) : Passage → Prop :=
  Of c asked (c.Makes gain)

end Passage

/-- What a transfer under way carries, given the call that was made last and the gain that was
applied since; a teardown never ends in the answer of a transfer. -/
def ClientState.Carries (c : StreamContext) (asked : Option Call) (gain : Option Single) :
    ClientState → Prop
  | scaling p => p.Raw c asked
  | sending _ p => p.Made c asked gain
  | countingDrop _ missing p => p.Made c asked gain ∧ 0 < missing ∧ missing ≤ p.frames
  | reportingDrop _ missing p => p.Made c asked gain ∧ 0 < missing ∧ missing ≤ p.frames
  | receiving p => p.Raw c asked
  | countingSilence missing p => p.Made c asked gain ∧ 0 < missing ∧ missing ≤ p.frames
  | reportingSilence missing p => p.Made c asked gain ∧ 0 < missing ∧ missing ≤ p.frames
  | askingLatency _ p => p.Made c asked gain
  | countingTransfer p => p.Made c asked gain
  | halting a => (answered a).frames? = none
  | sealing a => (answered a).frames? = none
  | stopping _ a => (answered a).frames? = none
  | joining _ a => (answered a).frames? = none
  | releasing a => (answered a).frames? = none
  | _ => True

namespace Passage

variable {c : StreamContext} {asked : Option Call} {gain : Option Single} {p : Passage}

/-- What is made of bytes is as long as they are. -/
theorem length_of_makes {bytes moved : List UInt8} (h : c.Makes gain bytes moved) :
    moved.length = bytes.length := by
  unfold StreamContext.Makes at h
  split at h
  · obtain ⟨level, -, rfl⟩ := h
    exact Gain.length_apply _ _ _ _
  · exact h

theorem Raw.length_moved (h : p.Raw c asked) : p.moved.length = p.frames * c.frameSize := by
  obtain ⟨buffer, -, enough, -, hraw⟩ := h
  rw [hraw, List.length_take, Nat.min_eq_left enough]

theorem Made.length_moved (h : p.Made c asked gain) :
    p.moved.length = p.frames * c.frameSize := by
  obtain ⟨buffer, -, enough, -, hmade⟩ := h
  rw [length_of_makes hmade, List.length_take, Nat.min_eq_left enough]

/-- A passage under the gain is made. -/
theorem Raw.scale (h : p.Raw c asked) (output : c.direction = .output) (level : Single) :
    Made c asked (some level) { p with moved := Gain.apply c.format c.channels level p.moved } := by
  obtain ⟨buffer, hasked, enough, htail, hraw⟩ := h
  refine ⟨buffer, hasked, enough, htail, ?_⟩
  unfold StreamContext.Makes
  rw [output]
  exact ⟨level, rfl, congrArg (Gain.apply c.format c.channels level) hraw⟩

/-- A passage that is filled up is made. -/
theorem Raw.fill (h : p.Raw c asked) (input : c.direction = .input) {bytes : List UInt8}
    (hbytes : bytes.length ≤ p.moved.length) :
    Made c asked gain
      { p with moved := bytes ++ List.replicate (p.moved.length - bytes.length) 0 } := by
  obtain ⟨buffer, hasked, enough, htail, hraw⟩ := h
  refine ⟨buffer, hasked, enough, htail, ?_⟩
  unfold StreamContext.Makes
  rw [input, ← hraw]
  simp only [List.length_append, List.length_replicate]
  omega

end Passage

namespace Engine

variable {e e' : Engine} {asked : Option Call} {gain : Option Single}

/-- An action of the client goes on with what the transfer carries. -/
theorem carries_client {input : ClientInput}
    (fits : e.client.Fits e.context.direction e.lanes.length)
    (carries : e.client.Carries e.context asked gain) (hs : ClientStep e input e') :
    e'.client.Carries e.context asked ((Moment.mk e (.client input)).gain?.or gain) := by
  by_cases hscale : ∃ p, e.client = .scaling p
  · obtain ⟨p, hc⟩ := hscale
    cases hs with
    | scaled hc' =>
      rw [hc] at carries fits hc'
      cases hc'
      simp only [Moment.gain?, hc, Option.some_or]
      exact carries.scale fits e.level
    | _ => simp_all
  have hgain : (Moment.mk e (.client input)).gain? = none := by
    unfold Moment.gain?
    split
    · rename_i p _ hc
      exact absurd ⟨p, hc⟩ hscale
    · rfl
  rw [hgain, Option.none_or]
  cases hs with
  | scaled hc => exact absurd ⟨_, hc⟩ hscale
  | @sent i p lane frames pipe hc hl hw =>
    rw [hc] at carries
    dsimp only
    split
    · exact ⟨carries, by omega, by omega⟩
    · exact carries
  | @received p lane rest bytes pipe frames q hc hl hr hf hq =>
    rw [hc] at carries fits
    have hroom := lane.pipe.length_read_le p.moved.length
    rw [hr] at hroom
    have filled : q.Made e.context asked gain := hq ▸ carries.fill fits hroom
    have hframes : q.frames = p.frames := by rw [hq]
    dsimp only
    split
    · exact ⟨filled, by omega, by omega⟩
    · exact filled
  | allSent hc _ | dropCounted hc | silenceCounted hc =>
    rw [hc] at carries
    exact carries
  | dropReported hc _ | silenceReported hc =>
    rw [hc] at carries
    exact carries.1
  | latencyTold hc =>
    rw [hc] at carries
    unfold afterLatency
    dsimp only
    split <;> exact carries
  | halted hc | stopped hc _ | allStopped hc _ | joined hc _ _ | allJoined hc _ =>
    rw [hc] at carries
    exact carries
  | sealed hc =>
    rw [hc] at carries
    exact carries
  | located hc =>
    unfold locate
    split <;> trivial
  | spawnRefused hc _ => rfl
  | opened hc | refused hc | unserved hc | bound hc _ | spawned hc _ | staffed hc _ | enrolled hc
  | heralded hc _ | transferred hc | rebased hc | drained hc | released hc => trivial

/-- A call that transfers begins with what it asks for. -/
theorem carries_begin (c : Call) (gain : Option Single) :
    (e.begin c).client.Carries e.context (some c) gain := by
  cases c with
  | transfer buffer frames =>
    simp only [begin, beginTransfer]
    split
    · trivial
    · rename_i enough
      split
      · trivial
      · have raw : Passage.Raw e.context (some (.transfer buffer frames))
            ⟨frames, buffer.take (frames * e.context.frameSize),
              buffer.drop (frames * e.context.frameSize), 0⟩ :=
          ⟨buffer, rfl, Nat.le_of_not_lt enough, rfl, rfl⟩
        split <;> exact raw
  | standby =>
    simp only [begin]
    split
    · trivial
    · rfl
  | negotiate | start | refine | drain =>
    simp only [begin]
    split <;> trivial
  | setGain | pause | flush => trivial

end Engine

/-- In every run a transfer carries what its call asked for, under the gain that it applied. -/
theorem Run.carries {b : Blueprint} {h : List Moment} {e : Engine} (run : Run b h e) :
    e.client.Carries b.context (lastCall? h) (appliedGain? h) := by
  induction run with
  | built hb =>
    obtain ⟨pcm, -, rfl⟩ := Engine.build_eq_ok hb
    trivial
  | @snoc h e e' a run hs ih =>
    rw [lastCall?_snoc, appliedGain?_snoc]
    rw [← run.blueprint.1] at ih ⊢
    cases a with
    | call c =>
      obtain ⟨-, rfl⟩ := Engine.step_call_eq_some hs
      exact e.carries_begin c _
    | client input =>
      exact Engine.carries_client run.fits ih (Engine.clientStep_of_stepClient hs)
    | worker i input =>
      obtain ⟨_, _, _, _, _, counters, journal, rfl⟩ := Engine.stepWorker_eq_some hs
      exact ih
    | adjust level =>
      cases hs
      exact ih

end AudioRelay
