import AudioRelay.Proofs.PlaybackTransfer

/-!
# Cuts between buffers

Gain works sample by sample, and a sample is never cut by the end of a frame. So a buffer may be
cut after any whole frame: both parts under the gain are the whole buffer under it, and two
transfers in place of one offer the same bytes to every pipe.
-/

namespace AudioRelay

namespace Gain

variable {format : SampleFormat} {channels count more k : Nat} {level : Single}
variable {a b bytes buffer : List UInt8}

/-- Samples of two buffers are scaled as those of one. -/
theorem scaleSamples_append (ha : a.length = count * format.bytes) :
    scaleSamples format level (count + more) (a ++ b) =
      scaleSamples format level count a ++ scaleSamples format level more b := by
  induction count generalizing a with
  | zero =>
    rw [Nat.zero_mul, List.length_eq_zero_iff] at ha
    rw [ha, Nat.zero_add, List.nil_append, scaleSamples, List.nil_append]
  | succ count ih =>
    rw [Nat.succ_mul] at ha
    have hfirst : format.bytes ≤ a.length := by omega
    have hrest : (a.drop format.bytes).length = count * format.bytes := by
      rw [List.length_drop]
      omega
    rw [Nat.succ_add, scaleSamples, scaleSamples, List.take_append_of_le_length hfirst,
      List.drop_append_of_le_length hfirst, ih hrest, List.append_assoc]

/-- Bytes behind the samples stay as they are. -/
theorem scaleSamples_eq_append (enough : count * format.bytes ≤ buffer.length) :
    scaleSamples format level count buffer =
      scaleSamples format level count (buffer.take (count * format.bytes)) ++
        buffer.drop (count * format.bytes) := by
  have hcut : scaleSamples format level (count + 0)
      (buffer.take (count * format.bytes) ++ buffer.drop (count * format.bytes)) = _ :=
    scaleSamples_append (List.length_take_of_le enough)
  rwa [List.take_append_drop] at hcut

/-- The bytes of the samples in whole frames. -/
theorem wholeSamples_mul_eq (format : SampleFormat) (channels bytes : Nat) :
    wholeSamples format channels bytes * format.bytes =
      bytes - bytes % (max channels 1 * format.bytes) := by
  have hdivided := Nat.div_add_mod' bytes (max channels 1 * format.bytes)
  rw [wholeSamples, Nat.mul_assoc]
  omega

/-- A buffer of whole frames adds its samples to those of what follows. -/
theorem wholeSamples_add (hwhole : max channels 1 * format.bytes ∣ a.length) :
    a.length = wholeSamples format channels a.length * format.bytes ∧
      wholeSamples format channels (a ++ b).length =
        wholeSamples format channels a.length + wholeSamples format channels b.length := by
  have hframe : 0 < max channels 1 * format.bytes :=
    Nat.mul_pos (Nat.le_max_right _ _) format.bytes_pos
  constructor
  · rw [wholeSamples_mul_eq, Nat.mod_eq_zero_of_dvd hwhole, Nat.sub_zero]
  · obtain ⟨frames, hframes⟩ := hwhole
    rw [List.length_append, wholeSamples, wholeSamples, wholeSamples, hframes,
      Nat.mul_add_div hframe, Nat.mul_div_cancel_left _ hframe, Nat.add_mul]

/-- Gain on both parts of a buffer that is cut after whole frames is gain on the buffer. -/
theorem apply_append (hwhole : max channels 1 * format.bytes ∣ a.length) :
    apply format channels level (a ++ b) =
      apply format channels level a ++ apply format channels level b := by
  obtain ⟨hall, hcount⟩ := wholeSamples_add (b := b) hwhole
  unfold apply
  split
  · rfl
  · rw [hcount, scaleSamples_append hall]

/-- A sample alone is scaled as one. -/
theorem apply_of_sample (hlevel : level ≠ Single.one) (hlength : bytes.length = format.bytes) :
    apply format 1 level bytes = scaleSample format level bytes := by
  have hone : wholeSamples format 1 bytes.length = 1 := by
    rw [hlength, wholeSamples, Nat.max_self, Nat.one_mul, Nat.div_self format.bytes_pos]
  rw [apply, if_neg hlevel, hone, scaleSamples, scaleSamples, List.take_of_length_le hlength.le,
    List.drop_of_length_le hlength.le, List.append_nil]

/-- How gain treats a buffer: every sample in the whole frames by itself, whatever the channels,
and no other byte. -/
structure Samplewise (format : SampleFormat) (channels : Nat) (level : Single)
    (buffer : List UInt8) : Prop where
  length : (apply format channels level buffer).length = buffer.length
  /-- What is no whole frame stays as it is. -/
  tail : (apply format channels level buffer).drop
      (buffer.length - buffer.length % (max channels 1 * format.bytes)) =
    buffer.drop (buffer.length - buffer.length % (max channels 1 * format.bytes))
  /-- The whole frames become what they become as frames of one channel. -/
  frames : (apply format channels level buffer).take
      (buffer.length - buffer.length % (max channels 1 * format.bytes)) =
    apply format 1 level (buffer.take
      (buffer.length - buffer.length % (max channels 1 * format.bytes)))
  sample (k : Nat) : k < wholeSamples format channels buffer.length →
    format.sampleAt k (apply format channels level buffer) =
      apply format 1 level (format.sampleAt k buffer)

theorem samplewise_apply (format : SampleFormat) (channels : Nat) (level : Single)
    (buffer : List UInt8) : Samplewise format channels level buffer := by
  have enough := wholeSamples_mul_le format channels buffer.length
  by_cases hone : level = Single.one
  · have hsame (channels : Nat) (buffer : List UInt8) :
        apply format channels level buffer = buffer := if_pos hone
    exact ⟨by rw [hsame], by rw [hsame], by rw [hsame, hsame], fun k _ => by rw [hsame, hsame]⟩
  have hlength : (buffer.take (wholeSamples format channels buffer.length * format.bytes)).length =
      wholeSamples format channels buffer.length * format.bytes := List.length_take_of_le enough
  have hscaled : (scaleSamples format level (wholeSamples format channels buffer.length)
      (buffer.take (wholeSamples format channels buffer.length * format.bytes))).length =
      wholeSamples format channels buffer.length * format.bytes :=
    (length_scaleSamples hlength.ge).trans hlength
  have hsplit : apply format channels level buffer = scaleSamples format level
      (wholeSamples format channels buffer.length)
      (buffer.take (wholeSamples format channels buffer.length * format.bytes)) ++
        buffer.drop (wholeSamples format channels buffer.length * format.bytes) := by
    rw [apply, if_neg hone, scaleSamples_eq_append enough]
  constructor
  case length => exact length_apply _ _ _ _
  case tail => rw [← wholeSamples_mul_eq, hsplit, List.drop_left' hscaled]
  case frames =>
    have hsamples : wholeSamples format 1
        (wholeSamples format channels buffer.length * format.bytes) =
        wholeSamples format channels buffer.length := by
      have hmono (frames : Nat) :
          wholeSamples format 1 (frames * (1 * format.bytes)) = frames * 1 :=
        wholeSamples_eq Nat.one_pos
      have hsame := hmono (wholeSamples format channels buffer.length)
      rwa [Nat.one_mul, Nat.mul_one] at hsame
    rw [← wholeSamples_mul_eq, hsplit, List.take_left' hscaled, apply, if_neg hone, hlength,
      hsamples]
  case sample =>
    intro k hk
    rw [sampleAt_apply hone hk, apply_of_sample hone (length_sampleAt hk enough)]

end Gain

/-- The bytes that a moment offers to the pipe of lane `i`. -/
def Moment.offered? (i : Nat) (m : Moment) : Option (List UInt8) :=
  match m.deed? i with
  | some (.sent bytes _ _) => some bytes
  | _ => none

/-- The buffers that are offered to the pipe of lane `i`, in order. -/
def offered (i : Nat) (h : List Moment) : List (List UInt8) := h.filterMap (Moment.offered? i)

/-- The client offers bytes to a lane when it sends to it, and at no other moment. -/
theorem Moment.isSome_offered? {m : Moment} {i : Nat} (hi : i < m.engine.lanes.length) :
    (m.offered? i).isSome = m.isOffer i := by
  obtain ⟨e, a⟩ := m
  cases hoffer : Moment.isOffer i ⟨e, a⟩ with
  | true =>
    unfold isOffer at hoffer
    split at hoffer
    · rename_i j p ha hc
      have hj : j = i := by simpa using hoffer
      dsimp only at ha hc hi
      simp only [offered?, deed?, Engine.clientDeed?, ha, hc, if_pos hj,
        List.getElem?_eq_getElem hi, Option.map_some, Option.isSome_some]
    · contradiction
  | false =>
    -- A deed by which bytes are sent belongs to a client that sends.
    cases hsome : Moment.offered? i ⟨e, a⟩ with
    | none => rfl
    | some bytes =>
      unfold offered? at hsome
      split at hsome
      · rename_i hd
        obtain ⟨ha, p, hc, -⟩ := Moment.sending_of_sent hd
        dsimp only at ha hc
        simp [isOffer, ha, hc] at hoffer
      · contradiction

/-- A playback transfer of a run, from its call on a stream with devices to its answer. It put
`level` on its frames. -/
structure Transferred (b : Blueprint) (h : List Moment) (e₀ : Engine) (buffer : List UInt8)
    (frames : Nat) (level : Single) (later : List Moment) (e : Engine) : Prop where
  run : Run b (h ++ ⟨e₀, .call (.transfer buffer frames)⟩ :: later) e
  active : e₀.isIdle = false
  enough : frames * b.context.frameSize ≤ buffer.length
  alone : ∀ m ∈ later, m.isCall = false
  answered : e.answer?.isSome = true
  gained : gains later = [level]

namespace Transferred

variable {b : Blueprint} {h later : List Moment} {e₀ e : Engine} {buffer bytes : List UInt8}
  {frames i : Nat} {level : Single} {m : Moment}

/-- What is offered to a lane is the frames of the transfer under its level. -/
theorem eq_gained (t : Transferred b h e₀ buffer frames level later e)
    (output : b.context.direction = .output) (hm : m ∈ later) (hbytes : m.offered? i = some bytes) :
    bytes = b.context.gained level frames buffer := by
  obtain ⟨past, rest, rfl⟩ := List.append_of_mem hm
  have run := t.run.midway.1
  have course := run.course t.active t.enough fun x hx => t.alone x (List.mem_append_left _ hx)
  have hone := course.scaled
  have bears := course.bears
  unfold Moment.offered? at hbytes
  split at hbytes
  · rename_i hd
    cases hbytes
    obtain ⟨-, p, hc, rfl, -⟩ := Moment.sending_of_sent hd
    rw [hc, output] at hone
    rw [hc] at bears
    rw [bears, Passage.moved_after output (gains_of_once t.gained hone)]
  · contradiction

/-- Every lane is offered the frames of the transfer under its level, once. -/
theorem offered_eq (t : Transferred b h e₀ buffer frames level later e)
    (output : b.context.direction = .output) (hi : i < e₀.lanes.length) :
    offered i later = [b.context.gained level frames buffer] := by
  have hlanes {past rest : List Moment} {m : Moment} (hlater : later = past ++ m :: rest) :
      i < m.engine.lanes.length := by
    subst hlater
    have course := t.run.midway.1.course t.active t.enough
      fun x hx => t.alone x (List.mem_append_left _ hx)
    rwa [course.length_lanes]
  have hlength : (offered i later).length = 1 := by
    have underWay := t.run.under_way output h later e₀ buffer frames rfl t.active
      (t.run.before.1.blueprint.1 ▸ t.enough) (List.find?_eq_none.mpr (by simpa using t.alone))
    have course := t.run.course t.active t.enough t.alone
    rw [offered, List.length_filterMap_eq_countP, ← (underWay.answered t.answered).2 i
      (course.length_lanes ▸ hi)]
    apply List.countP_congr
    intro m hm
    obtain ⟨past, rest, hlater⟩ := List.append_of_mem hm
    rw [Moment.isSome_offered? (hlanes hlater)]
  obtain ⟨bytes, hbytes⟩ := List.length_eq_one_iff.mp hlength
  have hmem : bytes ∈ offered i later := by
    rw [hbytes]
    exact List.mem_singleton.mpr rfl
  obtain ⟨m, hm, hoffer⟩ := List.mem_filterMap.mp hmem
  rw [hbytes, t.eq_gained output hm hoffer]

/-- A stream with devices has a lane for every candidate. -/
theorem length_lanes (t : Transferred b h e₀ buffer frames level later e) :
    e₀.lanes.length = b.candidates.length := by
  have before := t.run.before.1
  have hne : e₀.lanes ≠ [] := by
    intro hnone
    have active := t.active
    rw [Engine.isIdle, hnone] at active
    contradiction
  rw [before.sound.length_lanes hne, before.candidates_eq]

/-- A transfer is one if it looks like one. -/
theorem of_watch (b : Blueprint) (first rest : List Action) (buffer : List UInt8) (frames i : Nat)
    (level : Single) (offers : List (List UInt8))
    (enough : frames * b.context.frameSize ≤ buffer.length)
    (hwatch : b.watch first (.call (.transfer buffer frames)) rest
      (fun e₀ later e => (!e₀.isIdle && (later.all fun m => !m.isCall) && e.answer?.isSome,
        gains later, offered i later)) = some (true, [level], offers)) :
    ∃ h e₀ later e, Transferred b h e₀ buffer frames level later e ∧ offered i later = offers := by
  obtain ⟨h, e₀, later, e, run, hseen⟩ := Run.of_watch hwatch
  simp only [Prod.mk.injEq, Bool.and_eq_true, Bool.not_eq_true', List.all_eq_true] at hseen
  obtain ⟨⟨⟨active, alone⟩, answered⟩, gained, hoffers⟩ := hseen
  exact ⟨h, e₀, later, e, ⟨run, active, enough, alone, answered, gained⟩, hoffers⟩

end Transferred

/-- Gain treats every sample of the whole frames by itself, so a buffer may be cut after any whole
frame. Under one level a playback transfer of `n + m` frames offers to every pipe what a transfer
of the first `n` of them and one of the others offer, in the same run or in others. -/
theorem Run.indifferent_to_cuts :
    (∀ (format : SampleFormat) (channels : Nat) (level : Single) (a b : List UInt8),
      max channels 1 * format.bytes ∣ a.length →
        Gain.apply format channels level (a ++ b) =
          Gain.apply format channels level a ++ Gain.apply format channels level b) ∧
    (∀ (format : SampleFormat) (channels : Nat) (level : Single) (buffer : List UInt8),
      Gain.Samplewise format channels level buffer) ∧
    ∀ (b : Blueprint) (h h₁ h₂ later later₁ later₂ : List Moment) (e₀ e₁ e₂ e e' e'' : Engine)
      (buffer first second : List UInt8) (n m : Nat) (level : Single),
      b.context.direction = .output →
      Transferred b h e₀ buffer (n + m) level later e →
      Transferred b h₁ e₁ first n level later₁ e' →
      Transferred b h₂ e₂ second m level later₂ e'' →
      buffer.take ((n + m) * b.context.frameSize) =
        first.take (n * b.context.frameSize) ++ second.take (m * b.context.frameSize) →
      ∀ i < e₀.lanes.length, (offered i later).flatten =
        (offered i later₁).flatten ++ (offered i later₂).flatten := by
  refine ⟨fun _ _ _ _ _ => Gain.apply_append, Gain.samplewise_apply, ?_⟩
  intro b h h₁ h₂ later later₁ later₂ e₀ e₁ e₂ e e' e'' buffer first second n m level output
    whole start rest hcut i hi
  have hcandidates := whole.length_lanes ▸ hi
  have hchannels : 0 < b.context.channels :=
    whole.run.blueprint.1 ▸ whole.run.sound.channels_pos
  have hwhole : max b.context.channels 1 * b.context.format.bytes ∣
      (first.take (n * b.context.frameSize)).length := by
    rw [List.length_take_of_le start.enough, Nat.max_eq_left hchannels]
    exact Nat.dvd_mul_left _ _
  rw [whole.offered_eq output hi, start.offered_eq output (start.length_lanes ▸ hcandidates),
    rest.offered_eq output (rest.length_lanes ▸ hcandidates)]
  simp only [List.flatten_singleton, StreamContext.gained]
  rw [hcut, Gain.apply_append hwhole]

/-- The frames 3, -3 and 7 under one half in one transfer, and in one of a frame and one of two,
though the pipe has room for two frames only. -/
theorem Run.cut_after_first_frame :
    ∃ later later₁ later₂, offered 0 later = [[2, 0, 254, 255, 4, 0]] ∧
      offered 0 later₁ = [[2, 0]] ∧ offered 0 later₂ = [[254, 255, 4, 0]] ∧
      (offered 0 later).flatten = (offered 0 later₁).flatten ++ (offered 0 later₂).flatten := by
  obtain ⟨h, e₀, later, e, t, hbytes⟩ := Transferred.of_watch
    (.small .output [.attached 0 0 .output])
    [.call .start, .client (.opened (.ok 0)), .client .tick, .client (.spawned (.ok ())),
      .client .tick, .client .tick, .client .tick, .adjust ⟨0x3f000000⟩]
    [.client .tick, .client .tick, .client .tick, .client .tick, .client (.latency 5),
      .client .tick, .client .tick]
    [3, 0, 253, 255, 7, 0] 3 0 ⟨0x3f000000⟩ [[2, 0, 254, 255, 4, 0]]
    (by decide) (by decide +kernel)
  obtain ⟨h₁, e₁, later₁, e', t₁, hbytes₁⟩ := Transferred.of_watch
    (.small .output [.attached 0 0 .output])
    [.call .start, .client (.opened (.ok 0)), .client .tick, .client (.spawned (.ok ())),
      .client .tick, .client .tick, .client .tick, .adjust ⟨0x3f000000⟩]
    [.client .tick, .client .tick, .client (.latency 5), .client .tick, .client .tick]
    [3, 0] 1 0 ⟨0x3f000000⟩ [[2, 0]] (by decide) (by decide +kernel)
  obtain ⟨h₂, e₂, later₂, e'', t₂, hbytes₂⟩ := Transferred.of_watch
    (.small .output [.attached 0 0 .output])
    [.call .start, .client (.opened (.ok 0)), .client .tick, .client (.spawned (.ok ())),
      .client .tick, .client .tick, .client .tick, .adjust ⟨0x3f000000⟩,
      .call (.transfer [3, 0] 1), .client .tick, .client .tick, .client (.latency 5),
      .client .tick, .client .tick]
    [.client .tick, .client .tick, .client .tick, .client .tick, .client (.latency 5),
      .client .tick, .client .tick]
    [253, 255, 7, 0] 2 0 ⟨0x3f000000⟩ [[254, 255, 4, 0]] (by decide) (by decide +kernel)
  have hlane : 0 < e₀.lanes.length := by
    rw [t.length_lanes]
    decide
  exact ⟨later, later₁, later₂, hbytes, hbytes₁, hbytes₂,
    Run.indifferent_to_cuts.2.2 _ h h₁ h₂ later later₁ later₂ e₀ e₁ e₂ e e' e'' _ _ _ 1 2 _ rfl
      t t₁ t₂ rfl 0 hlane⟩

end AudioRelay
