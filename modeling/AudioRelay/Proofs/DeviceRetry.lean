import AudioRelay.Proofs.RetryCount
import AudioRelay.Proofs.SharedDevice

/-!
# Retries on a recording device

An attempt on a recording device takes effect as a whole or not at all. So a transfer with retries
takes effect once or not at all, whatever other threads do to the device before each attempt and
while a read waits, and the device counts as many attempts as were made. A read that is still short
of data when nobody is left to act waits for ever, and then so does its run; it has taken nothing.
An attempt to read is one that threads see at the device they share.
-/

namespace AudioRelay

namespace Mock

/-- The captured bytes that an action queues. -/
def Touch.bytes : Touch → List UInt8
  | .push bytes => bytes
  | _ => []

/-- What another thread does while a read waits, it can do at other times too. -/
def Interruption.toTouch : Interruption → Touch
  | .push bytes => .push bytes
  | .stop => .stop

/-- A device that other threads may have queued bytes at and that is otherwise where it was, as far
as transfers go. -/
structure Queues (m : Mock) (bytes : List UInt8) (m' : Mock) : Prop where
  capture : m'.capture = m.capture ++ bytes
  written : m'.written = m.written
  reads : m'.reads = m.reads
  writes : m'.writes = m.writes

theorem Queues.touch (m : Mock) (t : Touch) : m.Queues t.bytes (m.touch t) := by
  cases t with
  | push bytes => exact ⟨rfl, rfl, rfl, rfl⟩
  | _ => exact ⟨(List.append_nil _).symm, rfl, rfl, rfl⟩

theorem Queues.refl (m : Mock) : m.Queues [] m := ⟨(List.append_nil _).symm, rfl, rfl, rfl⟩

theorem Queues.trans {m₁ m₂ m₃ : Mock} {bytes bytes' : List UInt8} (h : m₁.Queues bytes m₂)
    (h' : m₂.Queues bytes' m₃) : m₁.Queues (bytes ++ bytes') m₃ :=
  ⟨by rw [h'.capture, h.capture, List.append_assoc], h'.written.trans h.written,
    h'.reads.trans h.reads, h'.writes.trans h.writes⟩

/-- Other threads do nothing to a device but queue what they push. -/
theorem Queues.foldl_touch (m : Mock) (touches : List Touch) :
    m.Queues (touches.flatMap Touch.bytes) (touches.foldl Mock.touch m) := by
  induction touches generalizing m with
  | nil => exact .refl m
  | cons t rest ih => exact (Queues.touch m t).trans (ih _)

theorem touch_toTouch (m : Mock) (i : Interruption) : m.touch i.toTouch = m.interrupt i := by
  cases i <;> rfl

theorem foldl_interrupt (m : Mock) (others : List Interruption) :
    others.foldl interrupt m = (others.map Interruption.toTouch).foldl touch m := by
  rw [List.foldl_map]
  congr 1
  funext m i
  exact (m.touch_toTouch i).symm

/-- What is pushed by those who act while a read waits. -/
def pushed (others : List Interruption) : List UInt8 :=
  (others.map Interruption.toTouch).flatMap Touch.bytes

theorem Queues.foldl_interrupt (m : Mock) (others : List Interruption) :
    m.Queues (pushed others) (others.foldl interrupt m) := by
  rw [Mock.foldl_interrupt]
  exact .foldl_touch m _

/-- What a read of `length` bytes has left of a queue by now: while it waits, it takes nothing. -/
def LeavesYet (length : Nat) (queue left : List UInt8) : Option (Outcome (List UInt8)) → Prop
  | some outcome => Leaves length queue left outcome
  | none => left = queue

/-- What a read that has arrived does to a device at which other threads queue some bytes. -/
structure Takes (m : Mock) (length : Nat) (queued : List UInt8)
    (r : Mock × Option (Outcome (List UInt8))) : Prop where
  capture : LeavesYet length (m.capture ++ queued) r.1.capture r.2
  written : r.1.written = m.written
  reads : r.1.reads = m.reads
  writes : r.1.writes = m.writes
  /-- It waits for ever only where it is short in the end. -/
  waits : r.2 = none → r.1.IsShort length

/-- A read may take bytes that were queued before. -/
theorem Takes.after {m₁ m₂ : Mock} {length : Nat} {early queued : List UInt8}
    {r : Mock × Option (Outcome (List UInt8))} (hearly : m₁.Queues early m₂)
    (h : m₂.Takes length queued r) : m₁.Takes length (early ++ queued) r where
  capture := by
    rw [← List.append_assoc, ← hearly.capture]
    exact h.capture
  written := h.written.trans hearly.written
  reads := h.reads.trans hearly.reads
  writes := h.writes.trans hearly.writes
  waits := h.waits

/-- A read that is over leaves what is queued later. -/
theorem Takes.before {m₁ m₂ m₃ : Mock} {length : Nat} {queued late : List UInt8}
    {outcome : Outcome (List UInt8)} (h : m₁.Takes length queued (m₂, some outcome))
    (hlate : m₂.Queues late m₃) : m₁.Takes length (queued ++ late) (m₃, some outcome) where
  capture := by
    have hleaves : Leaves length (m₁.capture ++ queued) m₂.capture outcome := h.capture
    simp only [LeavesYet, hlate.capture, ← List.append_assoc]
    cases outcome with
    | done bytes => exact ⟨hleaves.1, by rw [hleaves.2, List.append_assoc]⟩
    | failed fault => exact congrArg (· ++ late) hleaves
    | crashed misuse => exact hleaves
  written := hlate.written.trans h.written
  reads := hlate.reads.trans h.reads
  writes := hlate.writes.trans h.writes
  waits := nofun

/-- A read that fails takes nothing. -/
theorem Takes.nothing (m : Mock) (length : Nat) (fault : DeviceError) :
    m.Takes length [] (m, some (.failed fault)) :=
  ⟨(List.append_nil _).symm, rfl, rfl, rfl, nofun⟩

/-- A read that waits has taken nothing. -/
theorem Takes.waiting {m : Mock} {length : Nat} (hwaits : m.isWaiting length = true) :
    m.Takes length [] (m, none) :=
  ⟨(List.append_nil _).symm, rfl, rfl, rfl, fun _ => isWaiting_iff.mp hwaits⟩

theorem Takes.finishRead {m : Mock} {length : Nat} (hready : m.isWaiting length = false) :
    m.Takes length [] ((m.finishRead length).1, some (m.finishRead length).2) := by
  have hm := finishes_finishRead hready
  obtain ⟨-, hwritten, hreads, hwrites, -⟩ := hm.keeps
  exact ⟨(List.append_nil m.capture).symm ▸ hm.leaves, hwritten, hreads, hwrites, nofun⟩

theorem finishDuring_of_ready {m : Mock} {length : Nat} (h : m.isWaiting length = false)
    (others : List Interruption) :
    finishDuring length others m =
      (others.foldl interrupt (m.finishRead length).1, some (m.finishRead length).2) := by
  cases others <;> simp [finishDuring, h]

/-- A read takes its bytes or nothing, whatever is pushed while it waits. -/
theorem Takes.finishDuring (length : Nat) (others : List Interruption) (m : Mock) :
    m.Takes length (pushed others) (finishDuring length others m) := by
  induction others generalizing m with
  | nil =>
    cases hwaits : m.isWaiting length with
    | true =>
      rw [Mock.finishDuring, if_pos hwaits]
      exact .waiting hwaits
    | false =>
      rw [finishDuring_of_ready hwaits]
      exact .finishRead hwaits
  | cons i rest ih =>
    cases hwaits : m.isWaiting length with
    | true =>
      rw [Mock.finishDuring, if_pos hwaits, ← List.singleton_append, pushed, List.map_append,
        List.flatMap_append]
      exact (ih (m.interrupt i)).after (Queues.foldl_interrupt m [i])
    | false =>
      rw [finishDuring_of_ready hwaits]
      exact (Takes.finishRead hwaits).before (Queues.foldl_interrupt _ (i :: rest))

/-- A read that arrives takes its bytes or nothing, and counts. -/
theorem Takes.readDuring (m : Mock) (length : Nat) (others : List Interruption) :
    m.arrived.Takes length (pushed others) (m.readDuring length others) := by
  unfold Mock.readDuring
  rw [beginRead_eq]
  cases m.failReads with
  | true => exact (Takes.nothing _ length _).before (Queues.foldl_interrupt _ others)
  | false => exact .finishDuring length others _

end Mock

namespace SharedMock

variable {s s' s'' : SharedMock} {turn : Turn} {notice : Option Notice} {rest : List Turn}
  {later : List Notice}

/-! ### A read and one other thread -/

theorem play_of_step (hs : s.step turn = some (s', notice))
    (hrest : s'.play rest = some (s'', later)) :
    s.play (turn :: rest) = some (s'', notice.toList ++ later) := by
  rw [play] at hrest ⊢
  rw [takeTurns, hs]
  dsimp only
  rw [hrest]
  rfl

/-- No read ends when a thread acts that makes no transfer. -/
theorem filter_isRead_ofTouch (t : Mock.Touch) :
    (Notice.ofTouch? t).toList.filter Notice.isRead = [] := by cases t <;> rfl

/-- Others act at a device in which nobody waits, and no read ends. -/
theorem play_touches {m : Mock} (touches : List Mock.Touch)
    (hrest : play ⟨touches.foldl Mock.touch m, []⟩ rest = some (s', later)) :
    ∃ seen, play ⟨m, []⟩ (touches.map .touch ++ rest) = some (s', seen) ∧
      seen.filter Notice.isRead = later.filter Notice.isRead := by
  induction touches generalizing m with
  | nil => exact ⟨later, hrest, rfl⟩
  | cons t touches ih =>
    obtain ⟨seen, hplay, hseen⟩ := ih hrest
    have hacted : step ⟨m, []⟩ (.touch t) = some (⟨m.touch t, []⟩, Notice.ofTouch? t) := by
      simp only [step, List.map_nil, ite_self]
    refine ⟨_, play_of_step hacted hplay, ?_⟩
    rw [List.filter_append, filter_isRead_ofTouch, List.nil_append, hseen]

/-- Turns in which others act while a read waits, and the read looks again. -/
def Meanwhile (others : List Mock.Interruption) (turns : List Turn) : Prop :=
  turns.filterMap Turn.touch? = others.map Mock.Interruption.toTouch ∧
    ∀ turn ∈ turns, turn.touch? = none → turn = .look 0

/-- Others act while a read waits that looks after each of them. -/
theorem Meanwhile.cons {others : List Mock.Interruption} (h : Meanwhile others rest)
    (i : Mock.Interruption) : Meanwhile (i :: others) (.touch i.toTouch :: .look 0 :: rest) := by
  refine ⟨?_, ?_⟩
  · rw [List.map_cons, ← h.1]
    rfl
  · simp only [List.mem_cons]
    rintro turn (rfl | rfl | hturn) hnone
    · contradiction
    · rfl
    · exact h.2 turn hturn hnone

/-- Others act when no read waits any more. -/
theorem Meanwhile.touches (others : List Mock.Interruption) :
    Meanwhile others ((others.map Mock.Interruption.toTouch).map .touch) := by
  refine ⟨?_, ?_⟩
  · rw [List.filterMap_map]
    exact List.filterMap_some
  · rintro turn hturn hnone
    obtain ⟨t, -, rfl⟩ := List.mem_map.mp hturn
    contradiction

/-- What a read with a buffer has left of a device in which nobody else waits, and what threads saw
of its end: it waits there still, or all of them saw it end. -/
def Shows (buffer : List UInt8) (r : Mock × Option (Outcome (List UInt8))) (s : SharedMock)
    (seen : List Notice) : Prop :=
  s = ⟨r.1, if r.2.isNone then [⟨buffer, false⟩] else []⟩ ∧
    seen.filter Notice.isRead = (r.2.map (Notice.ofRead buffer)).toList

/-- After a read is over others act, and threads have seen its end. -/
theorem play_of_over {m : Mock} {buffer : List UInt8} {outcome : Outcome (List UInt8)}
    (others : List Mock.Interruption)
    (hover : s.step turn = some (⟨m, []⟩, some (.ofRead buffer outcome))) :
    ∃ later seen, s.play (turn :: later) =
        some (⟨others.foldl Mock.interrupt m, []⟩, seen) ∧
      Meanwhile others later ∧ seen.filter Notice.isRead = [.ofRead buffer outcome] := by
  have hnone : play ⟨(others.map Mock.Interruption.toTouch).foldl Mock.touch m, []⟩ [] =
      some (⟨(others.map Mock.Interruption.toTouch).foldl Mock.touch m, []⟩, []) := rfl
  obtain ⟨seen, hplay, hseen⟩ := play_touches _ hnone
  rw [List.append_nil, ← Mock.foldl_interrupt] at hplay
  refine ⟨_, _, play_of_step hover hplay, .touches others, ?_⟩
  rw [Option.toList_some, List.singleton_append, List.filter_cons_of_pos rfl, hseen]
  rfl

/-- A read that sleeps while one other thread acts, looking after each of its actions. -/
theorem play_finishDuring {m : Mock} {buffer : List UInt8} (others : List Mock.Interruption)
    (hwaits : m.isWaiting buffer.length = true) :
    ∃ later s seen, play ⟨m, [⟨buffer, false⟩]⟩ later = some (s, seen) ∧
      Meanwhile others later ∧ Shows buffer (Mock.finishDuring buffer.length others m) s seen := by
  induction others generalizing m with
  | nil =>
    refine ⟨[], _, _, rfl, .touches [], ?_⟩
    rw [Mock.finishDuring, if_pos hwaits]
    exact ⟨rfl, rfl⟩
  | cons i rest ih =>
    have hwakes : i.toTouch.wakes = true := by cases i <;> rfl
    have htouched : step ⟨m, [⟨buffer, false⟩]⟩ (.touch i.toTouch) =
        some (⟨m.interrupt i, [⟨buffer, true⟩]⟩, Notice.ofTouch? i.toTouch) := by
      rw [step, Mock.touch_toTouch, if_pos hwakes]
      rfl
    rw [Mock.finishDuring, if_pos hwaits]
    by_cases hwaits' : (m.interrupt i).isWaiting buffer.length = true
    · obtain ⟨later, s, seen, hplay, hmeanwhile, hshows⟩ := ih hwaits'
      have hlooked : step ⟨m.interrupt i, [⟨buffer, true⟩]⟩ (.look 0) =
          some (⟨m.interrupt i, [⟨buffer, false⟩]⟩, none) := if_pos hwaits'
      refine ⟨_, s, _, play_of_step htouched (play_of_step hlooked hplay), hmeanwhile.cons i,
        hshows.1, ?_⟩
      rw [List.filter_append, filter_isRead_ofTouch]
      exact hshows.2
    · have hlooked : step ⟨m.interrupt i, [⟨buffer, true⟩]⟩ (.look 0) =
          some (⟨((m.interrupt i).finishRead buffer.length).1, []⟩,
            some (.ofRead buffer ((m.interrupt i).finishRead buffer.length).2)) := if_neg hwaits'
      obtain ⟨later, seen, hplay, hmeanwhile, hseen⟩ := play_of_over rest hlooked
      rw [Mock.finishDuring_of_ready (Bool.not_eq_true _ ▸ hwaits')]
      refine ⟨_, _, _, play_of_step htouched hplay, hmeanwhile.cons i, rfl, ?_⟩
      rw [List.filter_append, filter_isRead_ofTouch]
      exact hseen

/-- A read during which one other thread acts goes as these turns do: it arrives and looks again
until it is over, or waits there for ever. -/
theorem play_readDuring (m : Mock) (buffer : List UInt8) (others : List Mock.Interruption) :
    ∃ later s seen, play ⟨m, []⟩ (.read buffer :: later) = some (s, seen) ∧
      Meanwhile others later ∧ Shows buffer (m.readDuring buffer.length others) s seen := by
  by_cases hfail : m.failReads = true
  · have harrived : step ⟨m, []⟩ (.read buffer) =
        some (⟨m.arrived, []⟩,
          some (.ofRead buffer (.failed (.transient "mock read failure")))) := by
      simp only [step, Mock.beginRead_eq, if_pos hfail]
    obtain ⟨later, seen, hplay, hmeanwhile, hseen⟩ := play_of_over others harrived
    refine ⟨later, _, seen, hplay, hmeanwhile, ?_⟩
    simp only [Mock.readDuring, Mock.beginRead_eq, if_pos hfail]
    exact ⟨rfl, hseen⟩
  · have hread : m.readDuring buffer.length others =
        Mock.finishDuring buffer.length others m.arrived := by
      simp only [Mock.readDuring, Mock.beginRead_eq, if_neg hfail]
    rw [hread]
    by_cases hwaits : m.arrived.isWaiting buffer.length = true
    · obtain ⟨later, s, seen, hplay, hmeanwhile, hshows⟩ := play_finishDuring others hwaits
      have harrived : step ⟨m, []⟩ (.read buffer) =
          some (⟨m.arrived, [⟨buffer, false⟩]⟩, none) := by
        simp only [step, Mock.beginRead_eq, if_neg hfail, if_pos hwaits, List.nil_append]
      exact ⟨later, s, _, play_of_step harrived hplay, hmeanwhile, hshows⟩
    · have harrived : step ⟨m, []⟩ (.read buffer) =
          some (⟨(m.arrived.finishRead buffer.length).1, []⟩,
            some (.ofRead buffer (m.arrived.finishRead buffer.length).2)) := by
        simp only [step, Mock.beginRead_eq, if_neg hfail, if_neg hwaits]
      obtain ⟨later, seen, hplay, hmeanwhile, hseen⟩ := play_of_over others harrived
      rw [Mock.finishDuring_of_ready (Bool.not_eq_true _ ▸ hwaits)]
      exact ⟨later, _, seen, hplay, hmeanwhile, rfl, hseen⟩

end SharedMock

/-- A transfer under way: how often it was attempted, and its device and its buffer as they are. -/
structure Attempts where
  made : Nat
  device : Mock
  buffer : List UInt8

namespace Attempts

/-- An attempt to write the buffer, when others act before attempt `k` as `others k` tells. -/
def write (others : Nat → List Mock.Touch) (t : Attempts) : Attempts × Outcome Unit :=
  let (device, outcome) := ((others (t.made + 1)).foldl Mock.touch t.device).write t.buffer
  (⟨t.made + 1, device, t.buffer⟩, outcome)

/-- An attempt to fill the buffer, when others act before attempt `k` as `others k` tells and while
it waits as `during k` tells. Nothing comes of one that waits for ever. -/
def read (others : Nat → List Mock.Touch) (during : Nat → List Mock.Interruption) (t : Attempts) :
    Attempts × Option (Outcome (List UInt8)) :=
  let (device, outcome) := ((others (t.made + 1)).foldl Mock.touch t.device).readDuring
    t.buffer.length (during (t.made + 1))
  (⟨t.made + 1, device, outcome.elim t.buffer (Outcome.fill t.buffer)⟩, outcome)

/-- What `count` attempts to write leave behind, of which only the last may succeed. -/
structure WritesOnce (t : Attempts) (count : Nat) (r : Attempts × Outcome Unit) : Prop where
  made : r.1.made = t.made + count
  writes : r.1.device.writes = t.device.writes + count
  reads : r.1.device.reads = t.device.reads
  buffer : r.1.buffer = t.buffer
  /-- Nothing is taken from the queue. -/
  capture : t.device.capture <+: r.1.device.capture
  /-- The buffer is appended if the last attempt succeeds, and nothing otherwise. -/
  written : r.1.device.written = t.device.written ∧ (∃ fault, r.2 = .failed fault) ∨
    r.1.device.written = t.device.written ++ t.buffer ∧ r.2 = .done ()

/-- What reads into a buffer have taken from a queue and left there and in the buffer: all the bytes
of the buffer if one succeeded, and nothing if the last failed or waits. -/
def Took (buffer queue : List UInt8) (u : Attempts) : Option (Outcome (List UInt8)) → Prop
  | some (.done bytes) =>
    bytes.length = buffer.length ∧ queue = bytes ++ u.device.capture ∧ u.buffer = bytes
  | some (.failed _) | none => u.device.capture = queue ∧ u.buffer = buffer
  | some (.crashed _) => False

/-- What `count` attempts to read leave behind, of which only the last may succeed or wait for ever,
when others queue some bytes meanwhile. -/
structure ReadsOnce (t : Attempts) (count : Nat) (queued : List UInt8)
    (r : Attempts × Option (Outcome (List UInt8))) : Prop where
  made : r.1.made = t.made + count
  reads : r.1.device.reads = t.device.reads + count
  writes : r.1.device.writes = t.device.writes
  written : r.1.device.written = t.device.written
  /-- The length of the buffer is taken if the last attempt succeeds, and nothing otherwise. -/
  took : Took t.buffer (t.device.capture ++ queued) r.1 r.2
  /-- The last attempt waits for ever only at a device that is short of data and not stopped. -/
  waits : r.2 = none → r.1.device.IsShort t.buffer.length

variable {t u : Attempts} {n count : Nat} {queued later : List UInt8}

/-- An attempt to write appends the buffer or nothing. -/
theorem write_writesOnce (others : Nat → List Mock.Touch) (t : Attempts) :
    t.WritesOnce 1 (t.write others) := by
  have hqueues := Mock.Queues.foldl_touch t.device (others (t.made + 1))
  have hcapture : t.device.capture <+:
      ((others (t.made + 1)).foldl Mock.touch t.device).capture := ⟨_, hqueues.capture.symm⟩
  have hwrites := congrArg (· + 1) hqueues.writes
  unfold write Mock.write
  dsimp only
  split
  · exact ⟨rfl, hwrites, hqueues.reads, rfl, hcapture, .inl ⟨hqueues.written, _, rfl⟩⟩
  split
  · exact ⟨rfl, hwrites, hqueues.reads, rfl, hcapture, .inl ⟨hqueues.written, _, rfl⟩⟩
  · exact ⟨rfl, hwrites, hqueues.reads, rfl, hcapture,
      .inr ⟨congrArg (· ++ t.buffer) hqueues.written, rfl⟩⟩

/-- What a read leaves of a queue is in its buffer. -/
theorem took_of_leaves {buffer queue : List UInt8} {made : Nat} {device : Mock}
    {outcome : Option (Outcome (List UInt8))}
    (h : Mock.LeavesYet buffer.length queue device.capture outcome) :
    Took buffer queue ⟨made, device, outcome.elim buffer (Outcome.fill buffer)⟩ outcome := by
  match outcome with
  | some (.done bytes) =>
    obtain ⟨hlength, hqueue⟩ := h
    exact ⟨hlength, hqueue, copyInto_of_length_eq hlength⟩
  | some (.failed fault) => exact ⟨h, rfl⟩
  | some (.crashed misuse) => exact h
  | none => exact ⟨h, rfl⟩

/-- An attempt to read takes the length of the buffer or nothing. -/
theorem read_readsOnce (others : Nat → List Mock.Touch) (during : Nat → List Mock.Interruption)
    (t : Attempts) :
    t.ReadsOnce 1 ((others (t.made + 1)).flatMap Mock.Touch.bytes ++
      Mock.pushed (during (t.made + 1))) (t.read others during) := by
  have hearly := Mock.Queues.foldl_touch t.device (others (t.made + 1))
  have htakes := Mock.Takes.readDuring ((others (t.made + 1)).foldl Mock.touch t.device)
    t.buffer.length (during (t.made + 1))
  have hcapture : Mock.LeavesYet t.buffer.length _ _ _ := htakes.capture
  rw [Mock.arrived, hearly.capture, List.append_assoc] at hcapture
  exact ⟨rfl, htakes.reads.trans (congrArg (· + 1) hearly.reads),
    htakes.writes.trans hearly.writes, htakes.written.trans hearly.written,
    took_of_leaves hcapture, htakes.waits⟩

/-- Attempts to write go on after a fault. -/
theorem WritesOnce.trans {fault : DeviceError} {r : Attempts × Outcome Unit}
    (h : t.WritesOnce n (u, .failed fault)) (h' : u.WritesOnce count r) :
    t.WritesOnce (n + count) r where
  made := by rw [h'.made, h.made, Nat.add_assoc]
  writes := by rw [h'.writes, h.writes, Nat.add_assoc]
  reads := h'.reads.trans h.reads
  buffer := h'.buffer.trans h.buffer
  capture := h.capture.trans h'.capture
  written := by
    obtain ⟨hwritten, -⟩ | ⟨-, hdone⟩ := h.written
    · rw [← hwritten, ← h.buffer]
      exact h'.written
    · contradiction

/-- Attempts to read go on after a fault. -/
theorem ReadsOnce.trans {fault : DeviceError} {r : Attempts × Option (Outcome (List UInt8))}
    (h : t.ReadsOnce n queued (u, some (.failed fault))) (h' : u.ReadsOnce count later r) :
    t.ReadsOnce (n + count) (queued ++ later) r := by
  obtain ⟨hcapture, hbuffer⟩ : u.device.capture = t.device.capture ++ queued ∧
    u.buffer = t.buffer := h.took
  constructor
  case made => rw [h'.made, h.made, Nat.add_assoc]
  case reads => rw [h'.reads, h.reads, Nat.add_assoc]
  case writes => exact h'.writes.trans h.writes
  case written => exact h'.written.trans h.written
  case took =>
    rw [← List.append_assoc, ← hcapture, ← hbuffer]
    exact h'.took
  case waits => exact hbuffer ▸ h'.waits

/-- The bytes that others queue before and during the first `k` attempts to read. -/
def queuedAmid (others : Nat → List Mock.Touch) (during : Nat → List Mock.Interruption) (k : Nat) :
    List UInt8 :=
  (List.range k).flatMap fun n =>
    (others (n + 1)).flatMap Mock.Touch.bytes ++ Mock.pushed (during (n + 1))

section

variable {policy : RetryPolicy} {others : Nat → List Mock.Touch}
  {during : Nat → List Mock.Interruption} {m : Mock} {buffer : List UInt8}

/-- A run of attempts to write takes effect once or not at all. -/
theorem run_writesOnce (last : policy.IsLast
    (fun k => (Retry.trial (write others) (policy.rest fun _ t => t) t k).2) count) :
    t.WritesOnce count (Retry.run policy (write others) (fun _ t => t) t) := by
  obtain ⟨u, ⟨fault, hfruitless⟩, hrun⟩ := Retry.run_induction last
    (P := fun n u => ∃ fault, t.WritesOnce n (u, .failed fault))
    ⟨.stopped, rfl, rfl, rfl, rfl, List.prefix_rfl, .inl ⟨rfl, _, rfl⟩⟩ (by
      rintro n u u' fault' ⟨fault, hfruitless⟩ hattempt
      rw [policy.rest_self]
      exact ⟨fault', hfruitless.trans (hattempt ▸ write_writesOnce others u)⟩)
  have hcount : count - 1 + 1 = count := Nat.sub_add_cancel last.1.1
  rw [hrun, ← hcount]
  exact hfruitless.trans (write_writesOnce others u)

/-- A run of attempts to read takes effect once or not at all. -/
theorem await_readsOnce (last : policy.IsLast (fun k => (Retry.trial
    (Retry.settling (read others during)) (policy.rest fun _ t => t) ⟨0, m, buffer⟩ k).2) count) :
    Attempts.ReadsOnce ⟨0, m, buffer⟩ count (queuedAmid others during count)
      (Retry.await policy (read others during) (fun _ t => t) ⟨0, m, buffer⟩) := by
  have hnext {n : Nat} {u : Attempts} {fault : DeviceError}
      (h : Attempts.ReadsOnce ⟨0, m, buffer⟩ n (queuedAmid others during n)
        (u, some (.failed fault))) :
      Attempts.ReadsOnce ⟨0, m, buffer⟩ (n + 1) (queuedAmid others during (n + 1))
        (u.read others during) := by
    have hmade : u.made = n := h.made.trans (Nat.zero_add n)
    have hattempt := h.trans (read_readsOnce others during u)
    rw [hmade] at hattempt
    rw [queuedAmid, List.range_succ, List.flatMap_append, List.flatMap_singleton]
    exact hattempt
  obtain ⟨u, ⟨fault, hfruitless⟩, hrun⟩ := Retry.await_induction last
    (P := fun n u => ∃ fault, Attempts.ReadsOnce ⟨0, m, buffer⟩ n
      (queuedAmid others during n) (u, some (.failed fault)))
    ⟨.stopped, rfl, rfl, rfl, rfl, ⟨(List.append_nil _).symm, rfl⟩, nofun⟩ (by
      rintro n u u' fault' ⟨fault, hfruitless⟩ hattempt
      rw [policy.rest_self]
      exact ⟨fault', hattempt ▸ hnext hfruitless⟩)
  have hcount : count - 1 + 1 = count := Nat.sub_add_cancel last.1.1
  rw [hrun, ← hcount]
  exact hnext hfruitless

end

/-- What an attempt to read comes to is what threads see of a read at a device that they share, when
others act before it arrives and while it waits: either they see it end and what is in its buffer
then, or it waits there for ever. -/
def IsSeen (others : Nat → List Mock.Touch) (during : Nat → List Mock.Interruption) (t : Attempts)
    (r : Attempts × Option (Outcome (List UInt8))) : Prop :=
  ∃ later seen, SharedMock.play ⟨t.device, []⟩
      ((others (t.made + 1)).map .touch ++ .read t.buffer :: later) =
        some (⟨r.1.device, if r.2.isNone then [⟨t.buffer, false⟩] else []⟩, seen) ∧
    SharedMock.Meanwhile (during (t.made + 1)) later ∧
    seen.filter Notice.isRead =
      (r.2.map fun outcome => .read t.buffer outcome r.1.buffer).toList

theorem isSeen_read (others : Nat → List Mock.Touch) (during : Nat → List Mock.Interruption)
    (t : Attempts) : t.IsSeen others during (t.read others during) := by
  obtain ⟨later, s, seen, hplay, hmeanwhile, rfl, hseen⟩ := SharedMock.play_readDuring
    ((others (t.made + 1)).foldl Mock.touch t.device) t.buffer (during (t.made + 1))
  obtain ⟨seen', hplay', hseen'⟩ := SharedMock.play_touches (others (t.made + 1)) hplay
  refine ⟨later, seen', hplay', hmeanwhile, ?_⟩
  obtain ⟨⟨device, outcome⟩, hread⟩ : ∃ r, ((others (t.made + 1)).foldl Mock.touch
    t.device).readDuring t.buffer.length (during (t.made + 1)) = r := ⟨_, rfl⟩
  rw [hseen', hseen, read, hread]
  cases outcome <;> rfl

end Attempts

/-- A run of a policy makes its attempts up to the last and gives back what that one comes to, with
a pause between each two; a 32-bit counter of them does not overflow; and on a recording device it
takes effect once or not at all. A run of reads there may also wait for ever in its last attempt, as
threads see it do at a device that they share. -/
theorem Retry.run_is_exact :
    (∀ (α : Type) (policy : RetryPolicy) (outcome : Nat → Outcome α), ∃ c,
      policy.IsLast outcome c ∧
      run policy (noting (scripted outcome)) (pausing fun _ n => n) (0, []) =
        ((c, beats policy c), outcome c) ∧
      (beats policy c).count .attempt = c ∧
      (beats policy c).countP (· ≠ .attempt) = if policy.delay = .zero then 0 else c - 1) ∧
    (∀ (σ α : Type) (attempts : UInt32) delay (operation : σ → σ × Outcome α) sleep s,
      ∃ last : UInt32,
        RetryPolicy.IsLast ⟨attempts.toNat, delay⟩
          (fun k => (trial operation (RetryPolicy.rest ⟨attempts.toNat, delay⟩ sleep) s k).2)
          last.toNat ∧
        countUp attempts operation (RetryPolicy.rest ⟨attempts.toNat, delay⟩ sleep) 1 s =
          some (last, run ⟨attempts.toNat, delay⟩ operation sleep s)) ∧
    (∀ policy others (t : Attempts), ∃ c,
      policy.IsLast (fun k => (trial (Attempts.write others) (policy.rest fun _ t => t) t k).2) c ∧
      t.WritesOnce c (run policy (Attempts.write others) (fun _ t => t) t)) ∧
    (∀ policy others during m buffer, ∃ c,
      policy.IsLast (fun k => (trial (settling (Attempts.read others during))
        (policy.rest fun _ t => t) ⟨0, m, buffer⟩ k).2) c ∧
      Attempts.ReadsOnce ⟨0, m, buffer⟩ c (Attempts.queuedAmid others during c)
        (await policy (Attempts.read others during) (fun _ t => t) ⟨0, m, buffer⟩)) ∧
    ∀ others during (t : Attempts), t.IsSeen others during (t.read others during) := by
  refine ⟨?_, ?_, ?_, ?_, Attempts.isSeen_read⟩
  · intro α policy outcome
    obtain ⟨c, last⟩ := policy.exists_isLast outcome
    exact ⟨c, last, run_scripted last, count_attempt_beats policy last.1.1,
      count_pause_beats policy c⟩
  · intro σ α attempts delay operation sleep s
    exact countUp_eq_run attempts delay operation sleep s
  · intro policy others t
    obtain ⟨c, last⟩ := policy.exists_isLast _
    exact ⟨c, last, Attempts.run_writesOnce last⟩
  · intro policy others during m buffer
    obtain ⟨c, last⟩ := policy.exists_isLast _
    exact ⟨c, last, Attempts.await_readsOnce last⟩

/-- A read of two bytes waits for ever in its first attempt if one is queued and nobody acts. -/
example : Retry.await .default (Attempts.read (fun _ => []) fun _ => []) (fun _ t => t)
    ⟨0, (Mock.create "in" 2 0).push [1], [9, 9]⟩ =
      (⟨1, ((Mock.create "in" 2 0).push [1]).arrived, [9, 9]⟩, none) := rfl

end AudioRelay
