import AudioRelay.Device.Mock

/-!
# A recording device between threads

A read that is short of data gives the lock of the device back and sleeps there until bytes are
pushed or the device is stopped; then it looks again. Every turn that a thread takes is in the
accounts of the device: bytes come in by pushes and go out by reads, in order, and attempts count.
And whoever makes an end to the waiting of a read wakes it, so none sleeps that need not wait.
-/

namespace AudioRelay

namespace Mock

/-- What a thread that makes no transfer can do to a device. -/
inductive Touch where
  | push (bytes : List UInt8)
  | stop
  | failReads (on : Bool)
  | failWrites (on : Bool)
  | failPositions (on : Bool)
  | setLatency (ms : Nat)
  | setPresentation (frames : Nat)
  | reset (frames : Int)

/-- The device after another thread acted. -/
def touch (m : Mock) : Touch → Mock
  | .push bytes => m.push bytes
  | .stop => m.stop
  | .failReads on => { m with failReads := on }
  | .failWrites on => { m with failWrites := on }
  | .failPositions on => { m with failPositions := on }
  | .setLatency ms => { m with latencyMs := ms }
  | .setPresentation frames => { m with presentation := some frames }
  | .reset frames => m.reset frames

/-- What a read of `length` bytes leaves of a queue: it takes its bytes from the front or takes
nothing. -/
def Leaves (length : Nat) (queue left : List UInt8) : Outcome (List UInt8) → Prop
  | .done bytes => bytes.length = length ∧ queue = bytes ++ left
  | .failed _ => left = queue
  | .crashed _ => False

end Mock

/-- A read that waits: the buffer of its caller, and whether it was woken since it looked last. -/
structure Reader where
  buffer : List UInt8
  isWoken : Bool
  deriving DecidableEq

/-- The read, woken. -/
def Reader.wake (r : Reader) : Reader := { r with isWoken := true }

/-- Whether an action wakes those who wait in the device. -/
def Mock.Touch.wakes : Mock.Touch → Bool
  | .push _ => true
  | .stop => true
  | _ => false

/-- A buffer into which drained bytes are copied one by one, as long as there is one of each. -/
def copyInto : List UInt8 → List UInt8 → List UInt8
  | _ :: buffer, b :: drained => b :: copyInto buffer drained
  | buffer, _ => buffer

/-- As many bytes as a buffer has places fill it. -/
theorem copyInto_of_length_eq {buffer drained : List UInt8} (h : drained.length = buffer.length) :
    copyInto buffer drained = drained := by
  induction buffer generalizing drained with
  | nil =>
    obtain rfl := List.eq_nil_of_length_eq_zero h
    rfl
  | cons place buffer ih =>
    cases drained with
    | nil => contradiction
    | cons b drained => rw [copyInto, ih (Nat.succ.inj h)]

/-- What is in the buffer of a read that came to this: drained bytes were copied into it, if there
are any. -/
def Outcome.fill (buffer : List UInt8) : Outcome (List UInt8) → List UInt8
  | .done drained => copyInto buffer drained
  | _ => buffer

/-- What threads see of a turn at a device. -/
inductive Notice where
  | pushed (bytes : List UInt8)
  /-- A read ended: the buffer it came with, and what is in it now. -/
  | read (buffer : List UInt8) (outcome : Outcome (List UInt8)) (filled : List UInt8)
  | wrote (data : List UInt8) (outcome : Outcome Unit)

namespace Notice

/-- The end of a read. -/
def ofRead (buffer : List UInt8) (outcome : Outcome (List UInt8)) : Notice :=
  .read buffer outcome (outcome.fill buffer)

/-- What an action lets others see. -/
def ofTouch? : Mock.Touch → Option Notice
  | .push bytes => some (.pushed bytes)
  | _ => none

def isRead : Notice → Bool
  | .read .. => true
  | _ => false

def isWrite : Notice → Bool
  | .wrote .. => true
  | _ => false

/-- The bytes pushed. -/
def pushedBytes : Notice → List UInt8
  | .pushed bytes => bytes
  | _ => []

/-- The bytes in the buffer of a read that succeeded. -/
def givenBytes : Notice → List UInt8
  | .read _ (.done _) filled => filled
  | _ => []

/-- The data of a write that succeeded. -/
def writtenBytes : Notice → List UInt8
  | .wrote data (.done _) => data
  | _ => []

section

variable (buffer : List UInt8) (outcome : Outcome (List UInt8))

@[simp] theorem isRead_ofRead : (ofRead buffer outcome).isRead = true := by cases outcome <;> rfl

@[simp] theorem isWrite_ofRead : (ofRead buffer outcome).isWrite = false := by cases outcome <;> rfl

@[simp] theorem pushedBytes_ofRead : (ofRead buffer outcome).pushedBytes = [] := by
  cases outcome <;> rfl

@[simp] theorem writtenBytes_ofRead : (ofRead buffer outcome).writtenBytes = [] := by
  cases outcome <;> rfl

end

end Notice

/-- Turns taken one after the other as a step tells, and what threads saw of them. -/
def takeTurns {σ τ : Type} (step : σ → τ → Option (σ × Option Notice)) (s : σ) :
    List τ → Option (σ × List Notice)
  | [] => some (s, [])
  | turn :: rest =>
    match step s turn with
    | none => none
    | some (s', notice) =>
      (takeTurns step s' rest).map fun (s'', later) => (s'', notice.toList ++ later)

/-- The first of some turns, and those that come after it. -/
theorem takeTurns_cons {σ τ : Type} {step : σ → τ → Option (σ × Option Notice)} {s s' : σ}
    {turn : τ} {rest : List τ} {later : List Notice}
    (h : takeTurns step s (turn :: rest) = some (s', later)) :
    ∃ between notice after, step s turn = some (between, notice) ∧
      takeTurns step between rest = some (s', after) ∧ later = notice.toList ++ after := by
  rw [takeTurns] at h
  split at h
  · contradiction
  · rename_i between notice hs
    obtain ⟨⟨last, after⟩, hafter, heq⟩ := Option.map_eq_some_iff.mp h
    obtain ⟨rfl, rfl⟩ := Prod.mk.inj heq
    exact ⟨between, notice, after, hs, hafter, rfl⟩

/-- A recording device that threads share, and the reads that wait in it. -/
structure SharedMock where
  device : Mock
  waiting : List Reader

namespace SharedMock

/-- What a thread does while it has the lock of the device. -/
inductive Turn where
  /-- A read arrives with its buffer. -/
  | read (buffer : List UInt8)
  /-- The read at a place among those that wait looks again, if it was woken. -/
  | look (k : Nat)
  /-- The read at a place among those that wait is woken for no reason. -/
  | rouse (k : Nat)
  | write (data : List UInt8)
  | touch (t : Mock.Touch)

/-- What an action does to the device, if a turn is one. -/
def Turn.touch? : Turn → Option Mock.Touch
  | .touch t => some t
  | _ => none

/-- A device just opened, with a latency set. -/
def fresh (name : String) (frameSize openedAt latencyMs : Nat) : SharedMock :=
  ⟨{ Mock.create name frameSize openedAt with latencyMs }, []⟩

/-- Someone takes a turn. -/
def step (s : SharedMock) : Turn → Option (SharedMock × Option Notice)
  | .read buffer =>
    match s.device.beginRead with
    | (device, some fault) => some ({ s with device }, some (.ofRead buffer (.failed fault)))
    | (device, none) =>
      if device.isWaiting buffer.length then
        some (⟨device, s.waiting ++ [⟨buffer, false⟩]⟩, none)
      else
        let (device, outcome) := device.finishRead buffer.length
        some ({ s with device }, some (.ofRead buffer outcome))
  | .look k =>
    match s.waiting[k]? with
    | some ⟨buffer, true⟩ =>
      if s.device.isWaiting buffer.length then
        some ({ s with waiting := s.waiting.set k ⟨buffer, false⟩ }, none)
      else
        let (device, outcome) := s.device.finishRead buffer.length
        some (⟨device, s.waiting.eraseIdx k⟩, some (.ofRead buffer outcome))
    | _ => none
  | .rouse k =>
    match s.waiting[k]? with
    | some r => some ({ s with waiting := s.waiting.set k r.wake }, none)
    | none => none
  | .write data =>
    let (device, outcome) := s.device.write data
    some ({ s with device }, some (.wrote data outcome))
  | .touch t =>
    some (⟨s.device.touch t, if t.wakes then s.waiting.map Reader.wake else s.waiting⟩,
      Notice.ofTouch? t)

/-- Turns taken one after the other, and what threads saw of them. -/
def play (s : SharedMock) (turns : List Turn) : Option (SharedMock × List Notice) :=
  takeTurns step s turns

end SharedMock

/-! ### What one turn does -/

/-- What a read comes to that need not wait. -/
inductive Mock.Finishes (m : Mock) (length : Nat) : Mock → Outcome (List UInt8) → Prop
  | stopped : m.isStopped = true → Finishes m length m (.failed .stopped)
  | served : m.isStopped = false → length ≤ m.capture.length →
      Finishes m length
        { m with
          capture := m.capture.drop length
          transferred := Position.advance m.transferred (length / m.frameSize) }
        (.done (m.capture.take length))

/-- A read of so many bytes is short: fewer are queued, and the device is not stopped. -/
def Mock.IsShort (m : Mock) (length : Nat) : Prop :=
  m.isStopped = false ∧ m.capture.length < length

theorem Mock.isWaiting_iff {m : Mock} {length : Nat} :
    m.isWaiting length = true ↔ m.IsShort length := by
  simp [isWaiting, IsShort]

theorem Mock.finishes_finishRead {m : Mock} {length : Nat} (h : m.isWaiting length = false) :
    m.Finishes length (m.finishRead length).1 (m.finishRead length).2 := by
  unfold finishRead
  split
  · rename_i hstopped
    exact .stopped hstopped
  · rename_i hstopped
    have hrunning : m.isStopped = false := Bool.not_eq_true _ ▸ hstopped
    refine .served hrunning (Nat.le_of_not_lt fun hshort => ?_)
    rw [isWaiting_iff.mpr ⟨hrunning, hshort⟩] at h
    contradiction

/-- The device after a read arrived. -/
def Mock.arrived (m : Mock) : Mock := { m with reads := m.reads + 1 }

theorem Mock.beginRead_eq (m : Mock) :
    m.beginRead =
      (m.arrived, if m.failReads then some (.transient "mock read failure") else none) := rfl

/-- A read that ends is not short. -/
theorem Mock.Finishes.not_isShort {m m' : Mock} {length : Nat} {outcome : Outcome (List UInt8)}
    (h : m.Finishes length m' outcome) : ¬ m.IsShort length := by
  rintro ⟨hrunning, hshort⟩
  cases h with
  | stopped hstopped =>
    rw [hrunning] at hstopped
    contradiction
  | served _ hlength => exact Nat.not_lt_of_le hlength hshort

/-- A read that ends takes its bytes from the front of the queue or takes nothing. -/
theorem Mock.Finishes.leaves {m m' : Mock} {length : Nat} {outcome : Outcome (List UInt8)}
    (h : m.Finishes length m' outcome) : Leaves length m.capture m'.capture outcome := by
  cases h with
  | stopped => exact rfl
  | served _ hlength =>
    exact ⟨List.length_take_of_le hlength, (List.take_append_drop _ _).symm⟩

/-- A read that ends leaves the rest of a device as it was. -/
theorem Mock.Finishes.keeps {m m' : Mock} {length : Nat} {outcome : Outcome (List UInt8)}
    (h : m.Finishes length m' outcome) :
    m'.frameSize = m.frameSize ∧ m'.written = m.written ∧ m'.reads = m.reads ∧
      m'.writes = m.writes ∧ m'.isStopped = m.isStopped := by
  cases h <;> exact ⟨rfl, rfl, rfl, rfl, rfl⟩

/-- What is taken from a queue is in the buffer of a read when it ends. -/
theorem Mock.Leaves.given {buffer queue left : List UInt8} {outcome : Outcome (List UInt8)}
    (h : Leaves buffer.length queue left outcome) :
    queue = (Notice.ofRead buffer outcome).givenBytes ++ left := by
  cases outcome with
  | done drained =>
    obtain ⟨hlength, rfl⟩ := h
    rw [Notice.ofRead, Notice.givenBytes, Outcome.fill, copyInto_of_length_eq hlength]
  | failed fault => exact h.symm
  | crashed misuse => contradiction

/-- No read adds to a queue. -/
theorem Mock.Leaves.length_le {length : Nat} {queue left : List UInt8}
    {outcome : Outcome (List UInt8)} (h : Leaves length queue left outcome) :
    left.length ≤ queue.length := by
  cases outcome with
  | done drained =>
    obtain ⟨-, rfl⟩ := h
    rw [List.length_append]
    exact Nat.le_add_left _ _
  | failed fault => exact Nat.le_of_eq (congrArg List.length h)
  | crashed misuse => contradiction

/-- A read waits on as long as nothing is queued and the device is not stopped. -/
theorem Mock.isWaiting_mono {m m' : Mock} {length : Nat} (hstopped : m'.isStopped = m.isStopped)
    (hcapture : m'.capture.length ≤ m.capture.length) (h : m.isWaiting length = true) :
    m'.isWaiting length = true := by
  rw [isWaiting_iff] at h ⊢
  exact ⟨hstopped.trans h.1, Nat.lt_of_le_of_lt hcapture h.2⟩

/-- Only an action that wakes those who wait can end their waiting. -/
theorem Mock.isWaiting_touch {m : Mock} {t : Touch} (h : t.wakes = false) (length : Nat) :
    (m.touch t).isWaiting length = m.isWaiting length := by
  cases t with
  | push | stop => contradiction
  | _ => rfl

/-- What a write comes to. -/
inductive Mock.Writes (m : Mock) (data : List UInt8) : Mock → Outcome Unit → Prop
  | stopped : m.isStopped = true →
      Writes m data { m with writes := m.writes + 1 } (.failed .stopped)
  | failing : m.isStopped = false → m.failWrites = true →
      Writes m data { m with writes := m.writes + 1 } (.failed (.transient "mock write failure"))
  | taken : m.isStopped = false → m.failWrites = false →
      Writes m data
        { m with
          writes := m.writes + 1
          written := m.written ++ data
          transferred := Position.advance m.transferred (data.length / m.frameSize) }
        (.done ())

theorem Mock.writes_write (m : Mock) (data : List UInt8) :
    m.Writes data (m.write data).1 (m.write data).2 := by
  unfold write
  dsimp only
  split
  · rename_i hstopped
    exact .stopped hstopped
  · rename_i hstopped
    have hrunning : m.isStopped = false := Bool.not_eq_true _ ▸ hstopped
    split
    · rename_i hfail
      exact .failing hrunning hfail
    · rename_i hfail
      exact .taken hrunning (Bool.not_eq_true _ ▸ hfail)

namespace SharedMock

variable {s s' : SharedMock} {turn : Turn} {notice : Option Notice} {past later : List Notice}

/-- A turn of each kind, with what has to hold for it to be taken. -/
inductive Taken (s : SharedMock) : Turn → SharedMock → Option Notice → Prop
  | refused {buffer : List UInt8} : s.device.failReads = true →
      Taken s (.read buffer) { s with device := s.device.arrived }
        (some (.ofRead buffer (.failed (.transient "mock read failure"))))
  | blocked {buffer : List UInt8} : s.device.failReads = false →
      s.device.isWaiting buffer.length = true →
      Taken s (.read buffer)
        ⟨s.device.arrived, s.waiting ++ [⟨buffer, false⟩]⟩ none
  | passed {buffer : List UInt8} {m : Mock} {outcome : Outcome (List UInt8)} :
      s.device.failReads = false →
      s.device.arrived.Finishes buffer.length m outcome →
      Taken s (.read buffer) { s with device := m } (some (.ofRead buffer outcome))
  | slept {k : Nat} {buffer : List UInt8} : s.waiting[k]? = some ⟨buffer, true⟩ →
      s.device.isWaiting buffer.length = true →
      Taken s (.look k) { s with waiting := s.waiting.set k ⟨buffer, false⟩ } none
  | left {k : Nat} {buffer : List UInt8} {m : Mock} {outcome : Outcome (List UInt8)} :
      s.waiting[k]? = some ⟨buffer, true⟩ → s.device.Finishes buffer.length m outcome →
      Taken s (.look k) ⟨m, s.waiting.eraseIdx k⟩ (some (.ofRead buffer outcome))
  | roused {k : Nat} {r : Reader} : s.waiting[k]? = some r →
      Taken s (.rouse k) { s with waiting := s.waiting.set k r.wake } none
  | wrote {data : List UInt8} {m : Mock} {outcome : Outcome Unit} :
      s.device.Writes data m outcome →
      Taken s (.write data) { s with device := m } (some (.wrote data outcome))
  | touched {t : Mock.Touch} :
      Taken s (.touch t)
        ⟨s.device.touch t, if t.wakes then s.waiting.map Reader.wake else s.waiting⟩
        (Notice.ofTouch? t)

/-- Every turn is of one of these kinds. -/
theorem taken_of_step (hs : s.step turn = some (s', notice)) : s.Taken turn s' notice := by
  cases turn with
  | read buffer =>
    simp only [step, Mock.beginRead_eq] at hs
    by_cases hfail : s.device.failReads = true
    · rw [if_pos hfail] at hs
      cases hs
      exact .refused hfail
    · rw [if_neg hfail] at hs
      have hfail : s.device.failReads = false := Bool.not_eq_true _ ▸ hfail
      dsimp only at hs
      split at hs
      · rename_i hwaiting
        cases hs
        exact .blocked hfail hwaiting
      · rename_i hready
        cases hs
        exact .passed hfail (Mock.finishes_finishRead (Bool.not_eq_true _ ▸ hready))
  | look k =>
    simp only [step] at hs
    split at hs
    · rename_i buffer hr
      split at hs
      · rename_i hwaiting
        cases hs
        exact .slept hr hwaiting
      · rename_i hready
        cases hs
        exact .left hr (Mock.finishes_finishRead (Bool.not_eq_true _ ▸ hready))
    · contradiction
  | rouse k =>
    simp only [step] at hs
    split at hs
    · rename_i r hr
      cases hs
      exact .roused hr
    · contradiction
  | write data =>
    cases hs
    exact .wrote (s.device.writes_write data)
  | touch t =>
    cases hs
    exact .touched

/-! ### What holds between any two turns -/

/-- What one turn adds to the accounts of a device: bytes come in by pushes and go out by reads, in
order; the data of writes that succeed is kept; each attempt counts once, a read when it arrives. -/
structure Accounts (s s' : SharedMock) (seen : List Notice) : Prop where
  frameSize : s'.device.frameSize = s.device.frameSize
  capture : s.device.capture ++ seen.flatMap Notice.pushedBytes =
    seen.flatMap Notice.givenBytes ++ s'.device.capture
  written : s'.device.written = s.device.written ++ seen.flatMap Notice.writtenBytes
  reads : s'.device.reads + s.waiting.length =
    s.device.reads + seen.countP Notice.isRead + s'.waiting.length
  writes : s'.device.writes = s.device.writes + seen.countP Notice.isWrite

/-- A turn that shows nothing and leaves the bytes and the counters alone is in the accounts. -/
theorem Accounts.quiet (hframe : s'.device.frameSize = s.device.frameSize)
    (hcapture : s'.device.capture = s.device.capture)
    (hwritten : s'.device.written = s.device.written)
    (hreads : s'.device.reads + s.waiting.length = s.device.reads + s'.waiting.length)
    (hwrites : s'.device.writes = s.device.writes) : Accounts s s' [] where
  frameSize := hframe
  capture := by simp [hcapture]
  written := by simp [hwritten]
  reads := hreads
  writes := hwrites

/-- A read that ends, whether it just arrived or waited, is in the accounts. -/
theorem Accounts.ended {m m' : Mock} {buffer : List UInt8} {outcome : Outcome (List UInt8)}
    {waiting : List Reader} (hm : m.Finishes buffer.length m' outcome)
    (hframe : m.frameSize = s.device.frameSize) (hcapture : m.capture = s.device.capture)
    (hwritten : m.written = s.device.written) (hwrites : m.writes = s.device.writes)
    (hreads : m.reads + s.waiting.length = s.device.reads + 1 + waiting.length) :
    Accounts s ⟨m', waiting⟩ [.ofRead buffer outcome] := by
  obtain ⟨hframe', hwritten', hreads', hwrites', -⟩ := hm.keeps
  have hgiven := hm.leaves.given
  constructor
  case frameSize => exact hframe'.trans hframe
  case capture => simpa [hcapture] using hgiven
  case written => simpa using hwritten'.trans hwritten
  case reads => simpa [hreads'] using hreads
  case writes => simpa using hwrites'.trans hwrites

/-- A write is in the accounts. -/
theorem Accounts.wrote {m : Mock} {data : List UInt8} {outcome : Outcome Unit}
    (hm : s.device.Writes data m outcome) :
    Accounts s { s with device := m } [.wrote data outcome] := by
  cases hm with
  | stopped | failing =>
    exact ⟨rfl, (List.append_nil _), (List.append_nil _).symm, rfl, rfl⟩
  | taken =>
    refine ⟨rfl, List.append_nil _, ?_, rfl, rfl⟩
    simp [Notice.writtenBytes]

/-- Every turn is in the accounts. -/
theorem Taken.accounts (h : s.Taken turn s' notice) : s.Accounts s' notice.toList := by
  cases h with
  | refused =>
    refine ⟨rfl, List.append_nil _, (List.append_nil _).symm, ?_, rfl⟩
    simp [Mock.arrived]
  | @blocked buffer =>
    refine .quiet rfl rfl rfl ?_ rfl
    rw [List.length_append, List.length_singleton, Mock.arrived]
    exact Nat.add_right_comm _ _ _
  | passed _ hm =>
    refine .ended hm rfl rfl rfl rfl ?_
    rw [Mock.arrived]
  | slept | roused =>
    refine .quiet rfl rfl rfl ?_ rfl
    rw [List.length_set]
  | @left k buffer _ _ hr hm =>
    refine .ended hm rfl rfl rfl rfl ?_
    have hk := (List.getElem?_eq_some_iff.mp hr).1
    rw [List.length_eraseIdx_of_lt hk]
    omega
  | wrote hm => exact .wrote hm
  | @touched t =>
    have hreads : s.device.reads + s.waiting.length =
        s.device.reads + (if t.wakes then s.waiting.map Reader.wake else s.waiting).length := by
      split
      · rw [List.length_map]
      · rfl
    cases t with
    | push bytes =>
      exact ⟨rfl, by simp [Notice.ofTouch?, Notice.pushedBytes, Notice.givenBytes, Mock.touch,
        Mock.push], (List.append_nil _).symm, hreads, rfl⟩
    | _ => exact .quiet rfl rfl rfl hreads rfl

/-- Nobody sleeps who need not wait. -/
def Alert (s : SharedMock) : Prop :=
  ∀ r ∈ s.waiting, r.isWoken = false → s.device.isWaiting r.buffer.length = true

/-- Nobody need be woken where no bytes came in and the device was not stopped. -/
theorem Alert.mono (h : s.Alert) (hstopped : s'.device.isStopped = s.device.isStopped)
    (hcapture : s'.device.capture.length ≤ s.device.capture.length)
    (hwaiting : ∀ r ∈ s'.waiting, r.isWoken = false →
      r ∈ s.waiting ∨ s'.device.isWaiting r.buffer.length = true) : s'.Alert := by
  intro r hr hsleeps
  rcases hwaiting r hr hsleeps with hbefore | hwaits
  · exact Mock.isWaiting_mono hstopped hcapture (h r hbefore hsleeps)
  · exact hwaits

/-- After every turn nobody sleeps who need not wait. -/
theorem Taken.alert (ht : s.Taken turn s' notice) (h : s.Alert) : s'.Alert := by
  cases ht with
  | refused => exact h.mono rfl (Nat.le_refl _) fun r hr _ => .inl hr
  | blocked _ hwaits =>
    refine h.mono rfl (Nat.le_refl _) fun r hr _ => ?_
    rcases List.mem_append.mp hr with hbefore | hnew
    · exact .inl hbefore
    · obtain rfl := List.mem_singleton.mp hnew
      exact .inr hwaits
  | passed _ hm =>
    exact h.mono hm.keeps.2.2.2.2 hm.leaves.length_le fun r hr _ => .inl hr
  | slept _ hwaits =>
    refine h.mono rfl (Nat.le_refl _) fun r hr _ => ?_
    rcases List.mem_or_eq_of_mem_set hr with hbefore | rfl
    · exact .inl hbefore
    · exact .inr hwaits
  | left _ hm =>
    exact h.mono hm.keeps.2.2.2.2 hm.leaves.length_le fun r hr _ =>
      .inl (List.mem_of_mem_eraseIdx hr)
  | roused =>
    refine h.mono rfl (Nat.le_refl _) fun r hr hsleeps => ?_
    rcases List.mem_or_eq_of_mem_set hr with hbefore | rfl
    · exact .inl hbefore
    · contradiction
  | wrote hm => cases hm <;> exact h.mono rfl (Nat.le_refl _) fun r hr _ => .inl hr
  | @touched t =>
    intro r hr hsleeps
    cases hwakes : t.wakes with
    | true =>
      rw [hwakes, if_pos rfl] at hr
      obtain ⟨r, -, rfl⟩ := List.mem_map.mp hr
      contradiction
    | false =>
      rw [hwakes] at hr
      exact (Mock.isWaiting_touch hwakes _).trans (h r hr hsleeps)

/-- What holds of a device and its readers after some notices. -/
structure Sound (frameSize : Nat) (past : List Notice) (s : SharedMock) : Prop where
  frameSize : s.device.frameSize = max frameSize 1
  conserved : past.flatMap Notice.pushedBytes =
    past.flatMap Notice.givenBytes ++ s.device.capture
  written : s.device.written = past.flatMap Notice.writtenBytes
  reads : s.device.reads = past.countP Notice.isRead + s.waiting.length
  writes : s.device.writes = past.countP Notice.isWrite
  alert : s.Alert

variable {frameSize : Nat} {turns : List Turn}

theorem Sound.fresh (name : String) (frameSize openedAt latencyMs : Nat) :
    (fresh name frameSize openedAt latencyMs).Sound frameSize [] where
  frameSize := rfl
  conserved := rfl
  written := rfl
  reads := rfl
  writes := rfl
  alert _ hr := absurd hr List.not_mem_nil

theorem Sound.step (h : s.Sound frameSize past) (hs : s.step turn = some (s', notice)) :
    s'.Sound frameSize (past ++ notice.toList) := by
  have ht := taken_of_step hs
  have haccounts := ht.accounts
  constructor
  case frameSize => exact haccounts.frameSize.trans h.frameSize
  case conserved =>
    rw [List.flatMap_append, List.flatMap_append, h.conserved, List.append_assoc,
      haccounts.capture, List.append_assoc]
  case written => rw [haccounts.written, h.written, List.flatMap_append]
  case reads =>
    have hreads := haccounts.reads
    rw [h.reads] at hreads
    rw [List.countP_append]
    omega
  case writes => rw [haccounts.writes, h.writes, List.countP_append]
  case alert => exact ht.alert h.alert

/-- After any turns of any threads the accounts are right and nobody oversleeps. -/
theorem Sound.play (h : s.Sound frameSize past) (hplay : s.play turns = some (s', later)) :
    s'.Sound frameSize (past ++ later) := by
  induction turns generalizing s past later with
  | nil =>
    obtain ⟨rfl, rfl⟩ := Prod.mk.inj (Option.some.inj hplay)
    rwa [List.append_nil]
  | cons turn rest ih =>
    obtain ⟨between, notice, after, hs, hafter, rfl⟩ := takeTurns_cons hplay
    rw [← List.append_assoc]
    exact ih (h.step hs) hafter

end SharedMock

end AudioRelay
