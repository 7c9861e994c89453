import AudioRelay.Proofs.SharedDevice
import Mathlib.Data.List.InsertIdx

/-!
# Whole reads

Only a look of its own ends a read that waits, and it can end exactly when it is not short any
more: it takes all its bytes at that moment or none. So the bytes pushed to a device are those that
reads gave, in the order in which they ended, and then the queue.
-/

namespace AudioRelay.SharedMock

variable {s s' : SharedMock} {turn : Turn} {notice : Option Notice} {past later : List Notice}
  {frameSize : Nat}

/-! ### How reads wait and end -/

/-- A read that arrives has to wait exactly if it is short and reads are not made to fail. -/
theorem step_read (s : SharedMock) (buffer : List UInt8) :
    ∃ s' notice, s.step (.read buffer) = some (s', notice) ∧
      (notice = none ↔ s.device.failReads = false ∧ s.device.IsShort buffer.length) := by
  have hsome : (s.step (.read buffer)).isSome = true := by
    unfold step
    dsimp only
    split
    · rfl
    · split <;> rfl
  obtain ⟨⟨s', notice⟩, hs⟩ := Option.isSome_iff_exists.mp hsome
  refine ⟨s', notice, hs, ?_⟩
  cases taken_of_step hs with
  | refused hfail => simp [hfail]
  | blocked hfail hwaits => exact iff_of_true rfl ⟨hfail, Mock.isWaiting_iff.mp hwaits⟩
  | passed hfail hm => exact iff_of_false nofun fun hblocked => hm.not_isShort hblocked.2

/-- A read that waits ends at its next look exactly if it is not short any more. -/
theorem step_look (h : s.Alert) {k : Nat} {r : Reader} (hr : s.waiting[k]? = some r) :
    (∃ s' notice, s.step (.look k) = some (s', some notice)) ↔
      ¬ s.device.IsShort r.buffer.length := by
  constructor
  · rintro ⟨s', notice, hs⟩
    cases taken_of_step hs with
    | left hr' hm =>
      obtain rfl := Option.some.inj (hr.symm.trans hr')
      exact hm.not_isShort
  · intro hready
    have hrests : ¬ s.device.isWaiting r.buffer.length = true := mt Mock.isWaiting_iff.mp hready
    have hwoken : r.isWoken = true := by
      by_contra hsleeps
      exact hrests (h r (List.mem_of_getElem? hr) (Bool.not_eq_true _ ▸ hsleeps))
    obtain ⟨buffer, isWoken⟩ := r
    obtain rfl : isWoken = true := hwoken
    obtain ⟨⟨device, outcome⟩, hfinish⟩ : ∃ r, s.device.finishRead buffer.length = r := ⟨_, rfl⟩
    refine ⟨⟨device, s.waiting.eraseIdx k⟩, .ofRead buffer outcome, ?_⟩
    simp only [step, hr, if_neg hrests, hfinish]

/-- The buffers of the reads that wait after a turn: one that arrives and has to wait comes last,
and one that ends leaves its place. -/
def Turn.waitingAfter (buffers : List (List UInt8)) : Turn → Option Notice → List (List UInt8)
  | .read buffer, none => buffers ++ [buffer]
  | .look k, some _ => buffers.eraseIdx k
  | _, _ => buffers

/-- A read that waits on keeps its place and its buffer. -/
theorem map_buffer_set {waiting : List Reader} {k : Nat} {r r' : Reader}
    (hr : waiting[k]? = some r) (hbuffer : r'.buffer = r.buffer) :
    (waiting.set k r').map Reader.buffer = waiting.map Reader.buffer := by
  obtain ⟨hk, rfl⟩ := List.getElem?_eq_some_iff.mp hr
  have hmapped : k < (waiting.map Reader.buffer).length := by rwa [List.length_map]
  have hplace : (waiting.map Reader.buffer)[k] = waiting[k].buffer := List.getElem_map _
  rw [List.map_set, hbuffer, ← hplace, List.set_getElem_self]

/-- Only its own look ends a read that waits. -/
theorem Taken.buffers (h : s.Taken turn s' notice) :
    s'.waiting.map Reader.buffer = turn.waitingAfter (s.waiting.map Reader.buffer) notice := by
  cases h with
  | refused | passed | wrote => rfl
  | blocked => exact List.map_append
  | left => exact (List.eraseIdx_map _ _ _).symm
  | slept hr => exact map_buffer_set hr rfl
  | roused hr => exact map_buffer_set hr rfl
  | @touched t =>
    have hsame : (if t.wakes then s.waiting.map Reader.wake else s.waiting).map Reader.buffer =
        s.waiting.map Reader.buffer := by
      split
      · rw [List.map_map]
        rfl
      · rfl
    exact hsame

/-- What a read that ends after some notices leaves behind: it gives the oldest bytes that were
pushed and not given, one for each place of its buffer, and counts their frames; or it fails, and
nothing changes but the number of attempts. -/
def Settles (past : List Notice) (s s' : SharedMock) (buffer filled : List UInt8) :
    Outcome (List UInt8) → Prop
  | .done bytes => bytes.length = buffer.length ∧ filled = bytes ∧
      bytes = ((past.flatMap Notice.pushedBytes).drop
        (past.flatMap Notice.givenBytes).length).take buffer.length ∧
      s'.device = { s.device with
        reads := s'.device.reads
        capture := s.device.capture.drop buffer.length
        transferred :=
          Position.advance s.device.transferred (buffer.length / s.device.frameSize) }
  | .failed _ => filled = buffer ∧ s'.device = { s.device with reads := s'.device.reads }
  | .crashed _ => False

/-- Reads at a device that was opened with a size of frames, after some notices. -/
structure Whole (frameSize : Nat) (past : List Notice) (s : SharedMock) : Prop where
  frameSize : s.device.frameSize = max frameSize 1
  /-- The bytes pushed are those that reads gave, as they ended, and then the queue. -/
  conserved : past.flatMap Notice.pushedBytes =
    past.flatMap Notice.givenBytes ++ s.device.capture
  /-- The data of the writes that succeeded is kept in order. -/
  written : s.device.written = past.flatMap Notice.writtenBytes
  /-- Every read counts once, however it ends and while it waits. -/
  counted : s.device.reads = past.countP Notice.isRead + s.waiting.length
  /-- A read that arrives is blocked exactly if it is short, unless reads are made to fail. -/
  arrives : ∀ buffer, ∃ s' notice, s.step (.read buffer) = some (s', notice) ∧
    (notice = none ↔ s.device.failReads = false ∧ s.device.IsShort buffer.length)
  /-- A read that sleeps is short. -/
  sleeps : ∀ r ∈ s.waiting, r.isWoken = false → s.device.IsShort r.buffer.length
  /-- A read that waits can end exactly if it is not short. -/
  ends : ∀ k r, s.waiting[k]? = some r →
    ((∃ s' notice, s.step (.look k) = some (s', some notice)) ↔
      ¬ s.device.IsShort r.buffer.length)
  /-- Nothing but its own look ends it. -/
  remains : ∀ turn s' notice, s.step turn = some (s', notice) →
    s'.waiting.map Reader.buffer = turn.waitingAfter (s.waiting.map Reader.buffer) notice
  /-- A read that ends takes all its bytes or none. -/
  settles : ∀ turn s' buffer outcome filled,
    s.step turn = some (s', some (.read buffer outcome filled)) →
      s.Settles past s' buffer filled outcome
  /-- A read that goes on waiting has done nothing but count. -/
  waits : ∀ s', (∃ buffer, s.step (.read buffer) = some (s', none)) ∨
    (∃ k, s.step (.look k) = some (s', none)) →
      s'.device = { s.device with reads := s'.device.reads }

/-- A read that ends, whether it just arrived or waited, takes all its bytes or none. -/
theorem Sound.settles_of_finishes {m m' : Mock} {waiting : List Reader}
    {buffer buffer' filled : List UInt8} {outcome outcome' : Outcome (List UInt8)}
    (h : s.Sound frameSize past)
    (hm : m.Finishes buffer.length m' outcome) (harrived : m = { s.device with reads := m.reads })
    (heq : Notice.ofRead buffer outcome = .read buffer' outcome' filled) :
    s.Settles past ⟨m', waiting⟩ buffer' filled outcome' := by
  have hunread : (past.flatMap Notice.pushedBytes).drop (past.flatMap Notice.givenBytes).length =
      s.device.capture := by
    rw [h.conserved, List.drop_left]
  have hcapture : m.capture = s.device.capture := by rw [harrived]
  cases hm with
  | stopped =>
    obtain ⟨rfl, rfl, rfl⟩ := Notice.read.inj heq
    exact ⟨rfl, harrived⟩
  | served _ hlength =>
    obtain ⟨rfl, rfl, rfl⟩ := Notice.read.inj heq
    have hfull : (m.capture.take buffer.length).length = buffer.length :=
      List.length_take_of_le hlength
    refine ⟨hfull, copyInto_of_length_eq hfull, ?_, ?_⟩
    · rw [hunread, hcapture]
    · rw [harrived]

/-- However a turn ends a read, it takes all its bytes or none. -/
theorem Sound.settles {buffer filled : List UInt8} {outcome : Outcome (List UInt8)}
    (h : s.Sound frameSize past) (ht : s.Taken turn s' notice)
    (heq : notice = some (.read buffer outcome filled)) :
    s.Settles past s' buffer filled outcome := by
  cases ht with
  | refused =>
    obtain ⟨rfl, rfl, rfl⟩ := Notice.read.inj (Option.some.inj heq)
    exact ⟨rfl, rfl⟩
  | passed _ hm => exact h.settles_of_finishes hm rfl (Option.some.inj heq)
  | left _ hm => exact h.settles_of_finishes hm rfl (Option.some.inj heq)
  | blocked | slept | roused => contradiction
  | wrote => exact absurd (Option.some.inj heq) nofun
  | @touched t =>
    cases t with
    | push => exact absurd (Option.some.inj heq) nofun
    | _ => contradiction

theorem Sound.whole (h : s.Sound frameSize past) : s.Whole frameSize past where
  frameSize := h.frameSize
  conserved := h.conserved
  written := h.written
  counted := h.reads
  arrives := s.step_read
  sleeps r hr hsleeps := Mock.isWaiting_iff.mp (h.alert r hr hsleeps)
  ends k r hr := step_look h.alert hr
  remains turn s' notice hs := (taken_of_step hs).buffers
  settles turn s' buffer outcome filled hs := h.settles (taken_of_step hs) rfl
  waits s' hwaits := by
    rcases hwaits with ⟨buffer, hs⟩ | ⟨k, hs⟩
    · cases taken_of_step hs with
      | blocked => rfl
    · cases taken_of_step hs with
      | slept => rfl

/-! ### Reads at a device that was just opened -/

/-- Whatever threads do with a device, in whatever order, a read of it takes all its bytes or none,
and is blocked exactly as long as it is short. -/
theorem reads_are_whole (name : String) (frameSize openedAt latencyMs : Nat) (turns : List Turn)
    (s : SharedMock) (past : List Notice)
    (h : (fresh name frameSize openedAt latencyMs).play turns = some (s, past)) :
    s.Whole frameSize past := by
  have hsound := (Sound.fresh name frameSize openedAt latencyMs).play h
  rw [List.nil_append] at hsound
  exact hsound.whole

/-- The turns of two reads that wait, of which the one that came second is served first, of a third
that fails at once, and of a fourth that a stop ends. -/
def overtaking : List Turn :=
  [.read [9, 9, 9, 9], .read [8, 8], .touch (.push [1, 2, 3]), .look 0, .look 1,
    .touch (.failReads true), .read [7], .touch (.failReads false), .write [5, 6, 7],
    .touch (.push [4, 5]), .look 0, .touch (.push [6, 7]), .rouse 0, .look 0, .read [6, 6],
    .touch .stop, .look 0]

theorem reads_are_whole_when_overtaken :
    ∃ s past, (fresh "in" 2 0 0).play overtaking = some (s, past) ∧ s.Whole 2 past ∧
      past.flatMap Notice.givenBytes = [1, 2, 3, 4, 5, 6] ∧ s.device.capture = [7] ∧
      s.device.written = [5, 6, 7] ∧ s.device.reads = 4 ∧ s.device.transferred = 4 := by
  have hplay : ((fresh "in" 2 0 0).play overtaking).map (fun r =>
      (r.2.flatMap Notice.givenBytes, r.1.device.capture, r.1.device.written, r.1.device.reads,
        r.1.device.transferred)) = some ([1, 2, 3, 4, 5, 6], [7], [5, 6, 7], 4, 4) := by
    decide
  obtain ⟨⟨s, past⟩, hplay, hseen⟩ := Option.map_eq_some_iff.mp hplay
  simp only [Prod.mk.injEq] at hseen
  exact ⟨s, past, hplay, reads_are_whole "in" 2 0 0 overtaking s past hplay, hseen⟩

end AudioRelay.SharedMock
