import AudioRelay.Proofs.DeviceCall

/-!
# Conservation of playback frames

What a pipe accepts of the buffers offered to it leaves through the worker in the same order:
the accepted bytes of a cycle are the chunks that its worker took, followed by what is still in
the pipe. Each chunk is handed to the device in one call, so the device plays the taken bytes
except for the chunks of calls that failed.
-/

namespace AudioRelay

namespace View

/-- The buffer with the gain on it that has yet to reach the lane. -/
def waiting (v : View) : Option (List UInt8) :=
  v.pending.bind fun p => if p.isScaled then some p.bytes else none

/-- Of the bytes accepted in a cycle those that the worker has not taken are `rest`, and they
are what the pipe holds while there is one. -/
structure Flows (plan : StreamPlan) (rest : List UInt8) (v : View) (ds : List Deed) : Prop where
  order : (Deed.accepted plan.frameSize ds).flatten = (Deed.taken ds).flatten ++ rest
  chunks : ∀ chunk ∈ Deed.taken ds,
    ∃ n, 0 < n ∧ n ≤ plan.frames ∧ chunk.length = n * plan.frameSize
  buffers : Deed.gainedBuffers ds = (Deed.offers ds).map (·.1) ++ v.waiting.toList
  pipe : ∀ s, v.station = some s →
    s.pipe.content = rest ∧ s.pipe.frameSize = plan.frameSize

variable {c : StreamContext} {plan : StreamPlan} {calls : List DeviceCall} {rest : List UInt8}
  {v v' : View} {ds more : List Deed}

/-- What neither takes from the lane nor adds to it leaves its flow as it is. -/
theorem Flows.quiet (h : v.Flows plan rest ds)
    (pipe : ∀ s', v'.station = some s' → ∃ s, v.station = some s ∧
      s'.pipe.content = s.pipe.content ∧ s'.pipe.frameSize = s.pipe.frameSize)
    (taken : Deed.taken more = []) (offers : Deed.offers more = [])
    (buffers : v.waiting.toList ++ Deed.gainedBuffers more = v'.waiting.toList) :
    v'.Flows plan rest (ds ++ more) where
  order := by
    have accepted : Deed.accepted plan.frameSize more = [] := by
      rw [Deed.accepted, offers, List.map_nil]
    rw [Deed.accepted_append, accepted, Deed.taken_append, taken, List.append_nil, List.append_nil]
    exact h.order
  chunks := by
    rw [Deed.taken_append, taken, List.append_nil]
    exact h.chunks
  buffers := by
    rw [Deed.gainedBuffers_append, Deed.offers_append, offers, List.append_nil, h.buffers,
      List.append_assoc, buffers]
  pipe := by
    intro s' hs'
    obtain ⟨s, hs, hcontent, hsize⟩ := pipe s' hs'
    obtain ⟨hrest, hwidth⟩ := h.pipe s hs
    exact ⟨hcontent.trans hrest, hsize.trans hwidth⟩

/-- A taken chunk is whole frames, at least one and no more than a full chunk. -/
theorem chunk_of_read {pipe pipe' : Pipe} {chunk : List UInt8}
    (width : pipe.frameSize = plan.frameSize) (hr : pipe.read plan.chunkBytes = (chunk, pipe'))
    (hne : chunk ≠ []) :
    ∃ n, 0 < n ∧ n ≤ plan.frames ∧ chunk.length = n * plan.frameSize := by
  have hle := pipe.length_read_le plan.chunkBytes
  have hdvd := pipe.frameSize_dvd_length_read plan.chunkBytes
  rw [hr] at hle hdvd
  rw [width] at hdvd
  obtain ⟨n, hn⟩ := hdvd
  rw [Nat.mul_comm] at hn
  have hpos : 0 < chunk.length := List.length_pos_iff.mpr hne
  unfold StreamPlan.chunkBytes at hle
  dsimp only at hn hle
  rw [hn] at hpos hle
  have hsize : 0 < plan.frameSize := Nat.pos_of_mul_pos_left hpos
  have hsome : 0 < n := Nat.pos_of_mul_pos_right hpos
  have hfits : n ≤ plan.frames := Nat.le_of_mul_le_mul_right hle hsize
  exact ⟨n, hsome, hfits, hn⟩

/-- A playback worker takes from the front of the pipe and does nothing else to it. -/
theorem Flows.work {s : Station} {w w' : WorkerState} {pipe : Pipe} {input : WorkerInput}
    {note : Option Note} (h : v.Flows plan rest ds) (output : plan.direction = .output)
    (hst : v.station = some s) (suits : w.Suits plan)
    (hm : w.Move plan v.isRunning "" s.pipe input w' pipe note) :
    ∃ rest', View.Flows plan rest' { v with station := some ⟨pipe, some w'⟩ }
      (ds ++ (w.deed? plan s.pipe input).toList) := by
  obtain ⟨hcontent, hwidth⟩ := h.pipe s hst
  cases hm with
  | @took chunk pipe hr hne =>
    have hsplit := s.pipe.read_append_content plan.chunkBytes
    have hsame := s.pipe.read_frameSize plan.chunkBytes
    rw [hr] at hsplit hsame
    rw [WorkerState.deed?_of_took hr hne]
    refine ⟨pipe.content, ?_, ?_, ?_, ?_⟩
    · rw [Deed.accepted_append, Deed.taken_append, List.flatten_append, h.order, ← hcontent,
        ← hsplit]
      simp [Deed.accepted, Deed.offers, Deed.taken]
    · intro x hx
      rw [Deed.taken_append] at hx
      rcases List.mem_append.mp hx with hold | hnew
      · exact h.chunks x hold
      · rw [List.mem_singleton.mp hnew]
        exact chunk_of_read hwidth hr hne
    · rw [Deed.gainedBuffers_append, Deed.offers_append, h.buffers]
      simp [Deed.gainedBuffers, Deed.offers, waiting]
    · rintro s' ⟨⟩
      exact ⟨rfl, hsame.trans hwidth⟩
  | @starved pipe hr =>
    have hsplit := s.pipe.read_append_content plan.chunkBytes
    have hsame := s.pipe.read_frameSize plan.chunkBytes
    rw [hr] at hsplit hsame
    rw [WorkerState.deed?_of_starved hr]
    refine ⟨rest, h.quiet ?_ rfl rfl (List.append_nil _)⟩
    rintro s' ⟨⟩
    exact ⟨s, hst, hsplit, hsame⟩
  | pushed hw hg =>
    have hplay : plan.direction = .input := suits
    rw [output] at hplay
    contradiction
  | _ =>
    refine ⟨rest, h.quiet ?_ rfl rfl (List.append_nil _)⟩
    rintro s' ⟨⟩
    exact ⟨s, hst, rfl, rfl⟩

/-- A write adds to the end of the pipe what it accepts. -/
theorem Flows.write {s : Station} {frames : Nat} {bytes : List UInt8} (h : v.Flows plan rest ds)
    (hst : v.station = some s) (hp : v.pending = some ⟨frames, bytes, true⟩) :
    View.Flows plan (s.pipe.write bytes).2.content
      { v with station := some ⟨(s.pipe.write bytes).2, s.worker⟩, pending := none }
      (ds ++ [.sent bytes frames (s.pipe.write bytes).1]) := by
  obtain ⟨hcontent, hwidth⟩ := h.pipe s hst
  have hwrite := s.pipe.content_write bytes
  rw [hcontent, hwidth] at hwrite
  constructor
  case order =>
    rw [Deed.accepted_append, Deed.taken_append, List.flatten_append, h.order, hwrite]
    simp [Deed.accepted, Deed.offers, Deed.taken]
  case chunks =>
    intro x hx
    apply h.chunks x
    simpa [Deed.taken] using hx
  case buffers =>
    rw [Deed.gainedBuffers_append, Deed.offers_append, h.buffers]
    simp [Deed.gainedBuffers, Deed.offers, waiting, hp]
  case pipe =>
    rintro s' ⟨⟩
    exact ⟨rfl, (s.pipe.write_frameSize bytes).trans hwidth⟩

/-- A change within a cycle keeps the flow of a playback lane. -/
theorem Flows.change (h : v.Flows plan rest ds) (accounted : v.Accounted plan calls ds)
    (output : plan.direction = .output) (direction : c.direction = .output) {d : Option Deed}
    (hc : v.Change c plan v' d) : ∃ rest', v'.Flows plan rest' (ds ++ d.toList) := by
  have same : ∀ s', v.station = some s' → ∃ s, v.station = some s ∧
      s'.pipe.content = s.pipe.content ∧ s'.pipe.frameSize = s.pipe.frameSize :=
    fun s' hs' => ⟨s', hs', rfl, rfl⟩
  cases hc with
  | still | halted => exact ⟨rest, h.quiet same rfl rfl (List.append_nil _)⟩
  | asked hp _ =>
    refine ⟨rest, h.quiet same rfl rfl ?_⟩
    simp only [waiting, hp]
    rfl
  | scaled hp =>
    refine ⟨rest, h.quiet same rfl rfl ?_⟩
    simp only [waiting, hp]
    rfl
  | sent _ hst hp => exact ⟨_, h.write hst hp⟩
  | received hd _ _ =>
    rw [direction] at hd
    contradiction
  | staffed | shut _ =>
    refine ⟨rest, h.quiet ?_ rfl rfl (List.append_nil _)⟩
    intro s' hs'
    obtain ⟨s, hs, rfl⟩ := Option.map_eq_some_iff.mp hs'
    exact ⟨s, hs, rfl, rfl⟩
  | released =>
    exact ⟨rest, h.quiet (fun s' hs' => by contradiction) rfl rfl (List.append_nil _)⟩
  | worked hst hw hm =>
    have suits := (accounted.served _ hst).suits _ hw
    exact h.work output hst suits hm

/-- Nothing is in flow before a cycle or at its beginning. -/
theorem flows_nil (pending : v.pending = none)
    (pipe : ∀ s, v.station = some s → s.pipe = Pipe.empty plan.frames plan.frameSize) :
    v.Flows plan [] [] where
  order := rfl
  chunks := by simp [Deed.taken]
  buffers := by
    rw [waiting, pending]
    rfl
  pipe := by
    intro s hs
    rw [pipe s hs]
    exact ⟨rfl, rfl⟩

/-- Whatever touches a playback lane, its calls account for its deeds and its bytes flow. -/
theorem flows (c : StreamContext) (plan : StreamPlan) (v : View) (off : v.station = none)
    (idle : v.pending = none) (output : plan.direction = .output)
    (direction : c.direction = .output) (ts : List Touch) :
    ∃ calls rest, (v.run c plan ts).Accounted plan calls (Deed.thisCycle (v.deeds c plan ts)) ∧
      (v.run c plan ts).Flows plan rest (Deed.thisCycle (v.deeds c plan ts)) := by
  refine cycle_induction (fun v ds => ∃ calls rest, v.Accounted plan calls ds ∧
    v.Flows plan rest ds) ?_ ?_ ?_ ts
  · exact ⟨[], [], accounted_nil (by simp [off]), flows_nil idle (by simp [off])⟩
  · intro v
    refine ⟨[], [], accounted_nil ?_, flows_nil rfl ?_⟩
    · rintro s ⟨⟩
      rfl
    · rintro s ⟨⟩
      rfl
  · rintro v v' d ds hc ⟨calls, rest, accounted, flows⟩
    obtain ⟨calls', accounted'⟩ := accounted.change hc
    obtain ⟨rest', flows'⟩ := flows.change accounted output direction hc
    exact ⟨calls', rest', accounted', flows'⟩

end View

/-- A playback worker makes a call for each chunk that it took, in order. -/
theorem Logged.writes {plan : StreamPlan} {calls : List DeviceCall} {ds : List Deed}
    (hl : Logged plan calls ds) (output : plan.direction = .output) :
    calls.map (·.transfer) = (Deed.taken ds).map .write := by
  rw [hl.taken, List.map_filterMap, ← List.filterMap_eq_map]
  apply List.filterMap_congr
  intro c hc
  have suits := hl.transfers c hc
  unfold DeviceCall.chunk?
  cases ht : c.transfer with
  | write chunk => simp [ht]
  | read length =>
    rw [ht, Transfer.Suits, output] at suits
    exact absurd suits.1 (by simp)

/-- In every state of a playback stream the bytes that a pipe accepted in this cycle are the
chunks that its worker took, in order, and what is in the pipe. A chunk is whole frames, at
least one and no more than a pipe holds, and is handed to the device in one call; so the device
has played the taken bytes without the chunks of calls that did not succeed. -/
theorem Run.playback_conserved {b : Blueprint} {h : List Moment} {e : Engine} {i : Nat}
    (run : Run b h e) (output : b.context.direction = .output) (hi : i < b.serving.length) :
    ∃ rest calls,
      (Deed.accepted b.context.frameSize (Deed.ofCycle i h)).flatten =
        (Deed.taken (Deed.ofCycle i h)).flatten ++ rest ∧
      (∀ lane, e.lanes[i]? = some lane → rest = lane.pipe.content) ∧
      (Deed.offers (Deed.ofCycle i h)).map (·.1) <+: Deed.gainedBuffers (Deed.ofCycle i h) ∧
      (∀ chunk ∈ Deed.taken (Deed.ofCycle i h),
        ∃ n, 0 < n ∧ n ≤ b.context.frames ∧ chunk.length = n * b.context.frameSize) ∧
      calls.map (·.transfer) = (Deed.taken (Deed.ofCycle i h)).map .write ∧
      Deed.attempts (Deed.ofCycle i h) = calls.flatMap (·.attempts) ∧
      DeviceCall.InTurn b.config.retryPolicy.spare calls ∧
      Deed.played (Deed.ofCycle i h) = calls.filterMap (·.played?) := by
  have hlane : i < b.candidates.length := by rwa [b.candidates_of_output output]
  obtain ⟨hview, hdeeds⟩ := run.view_eq hlane
  obtain ⟨calls, rest, accounted, flows⟩ :=
    View.flows b.context b.plan (View.start b.gain) rfl rfl output output (touches i h)
  rw [← hview, ← hdeeds, ← Deed.ofCycle] at accounted flows
  refine ⟨rest, calls, flows.order, ?_, ?_, flows.chunks, accounted.logged.writes output,
    accounted.logged.attempts, accounted.inTurn, ?_⟩
  · intro lane hl
    obtain ⟨hcontent, -⟩ := flows.pipe _ (Engine.station_view hl)
    exact hcontent.symm
  · rw [flows.buffers]
    exact List.prefix_append _ _
  · rw [Deed.played, accounted.logged.attempts]
    exact accounted.inTurn.played

/-- A device fails once and then plays its first chunk, while the next one waits in the pipe and
a third frame was dropped. -/
theorem Run.conserved_after_retry :
    ∃ h e, Run (.small .output [.attached 0 0 .output]) h e ∧
      Deed.accepted 2 (Deed.ofCycle 0 h) = [[1, 2, 3, 4], [7, 8]] ∧
      Deed.taken (Deed.ofCycle 0 h) = [[1, 2, 3, 4]] ∧
      Deed.played (Deed.ofCycle 0 h) = [[1, 2, 3, 4]] ∧
      (e.lanes.map fun lane => lane.pipe.content) = [[7, 8]] := by
  have hfollow : ((Blueprint.small .output [.attached 0 0 .output]).follow
      [.call .start, .client (.opened (.ok 0)), .client .tick, .client (.spawned (.ok ())),
        .client .tick, .client .tick, .client .tick,
        .call (.transfer [1, 2, 3, 4, 5, 6] 3), .client .tick, .client .tick, .worker 0 .tick,
        .worker 0 .tick, .worker 0 (.settled (.failed (.transient "busy"))), .worker 0 .tick,
        .worker 0 (.settled (.done [])), .client .tick, .client .tick, .client (.latency 1),
        .client .tick, .client .tick,
        .call (.transfer [7, 8] 1), .client .tick, .client .tick]).map
        (fun x => (Deed.accepted 2 (Deed.ofCycle 0 x.1), Deed.taken (Deed.ofCycle 0 x.1),
          Deed.played (Deed.ofCycle 0 x.1), x.2.lanes.length)) =
      some ([[1, 2, 3, 4], [7, 8]], [[1, 2, 3, 4]], [[1, 2, 3, 4]], 1) := by
    decide
  obtain ⟨⟨h, e⟩, hf, heq⟩ := Option.map_eq_some_iff.mp hfollow
  simp only [Prod.mk.injEq] at heq
  obtain ⟨haccepted, htaken, hplayed, hlength⟩ := heq
  obtain ⟨rest, calls, horder, hcontent, -⟩ :=
    Run.playback_conserved (i := 0) (Run.of_follow hf) rfl (by decide)
  obtain ⟨lane, hlanes⟩ := List.length_eq_one_iff.mp hlength
  have hrest : rest = [7, 8] := by
    change (Deed.accepted 2 (Deed.ofCycle 0 h)).flatten = _ at horder
    rw [haccepted, htaken] at horder
    simpa using horder.symm
  refine ⟨h, e, Run.of_follow hf, haccepted, htaken, hplayed, ?_⟩
  rw [hlanes, List.map_cons, ← hcontent lane (by rw [hlanes]; rfl), hrest]
  rfl

end AudioRelay
