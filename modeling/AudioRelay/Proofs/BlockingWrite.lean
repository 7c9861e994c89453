import AudioRelay.Proofs.Stock

/-!
# Blocking writes between their atomic steps

A blocking write looks whether the pipe is shut, writes what fits without waiting, and when that
was nothing looks once more, under the lock that guards waiting, before it goes to sleep. Whoever
makes room or shuts the pipe takes the lock afterwards and wakes it. So nothing happens between
the last look and the sleep that does not wake it, and it sleeps on only while the pipe is full
and open.
-/

namespace AudioRelay

/-- Where a blocking write stands between two steps. -/
inductive BlockingWrite where
  /-- About to load the shutdown flag. -/
  | entering
  /-- In the write that does not wait. -/
  | trying (w : Writing)
  /-- Wrote so many frames; about to take the lock and wake readers. -/
  | telling (frames : Nat)
  /-- Found no free frame; about to take the lock. -/
  | locking
  /-- Has the lock and is about to load the shutdown flag. -/
  | checking
  /-- Has the lock and is about to observe whether a frame fits. -/
  | measuring
  /-- Gave the lock back and waits. -/
  | sleeping
  /-- Woken, or its time is over; about to take the lock again, for nothing but to give it back. -/
  | waking
  | done (result : Except PipeError Nat)
  deriving DecidableEq

/-- The frames that a write decided for. -/
def PipeOutcome.framesIn : PipeOutcome → Nat
  | written _ frames _ => frames
  | given .. => 0

/-- The frames that a read decided for. -/
def PipeOutcome.framesOut : PipeOutcome → Nat
  | written .. => 0
  | given _ _ frames _ => frames

namespace BlockingWrite

/-- Where the write goes after it wrote so many frames of its data without waiting. -/
def afterWrite (p : Pipe) (data : List UInt8) (frames : Nat) : BlockingWrite :=
  if 0 < frames then telling frames
  else if data.length < p.frameSize then done (.ok 0)
  else locking

/-- One step of a blocking write. It cannot take one while it sleeps, and takes none when it is
done. -/
def step (p : Pipe) (data : List UInt8) :
    BlockingWrite → Option (BlockingWrite × Pipe × Option PipeOutcome)
  | entering =>
    some (if p.isShut then done (.error .shutdown) else trying (.entering data), p, none)
  | trying w => (w.step p).map fun (w', p', outcome) =>
    (outcome.elim (trying w') fun o => afterWrite p data o.framesIn, p', outcome)
  | telling frames => some (done (.ok frames), p, none)
  | locking => some (checking, p, none)
  | checking => some (if p.isShut then entering else measuring, p, none)
  | measuring => some (if p.vacantBytes < p.frameSize then sleeping else entering, p, none)
  | sleeping => none
  | waking => some (entering, p, none)
  | done _ => none

/-- Whether it has the lock, so that nobody can wake it. -/
def hasLock : BlockingWrite → Bool
  | checking => true
  | measuring => true
  | _ => false

/-- Where it is after somebody woke those who wait for room. -/
def woken : BlockingWrite → BlockingWrite
  | sleeping => waking
  | w => w

end BlockingWrite

/-- A pipe with a blocking write under way, a reader, and those who are shutting it. Everybody else
has the lock for the one step in which they wake those who wait. -/
structure BlockingEnds where
  pipe : Pipe
  writer : BlockingWrite
  reader : Reading
  /-- The reader made room and is about to take the lock and wake the writer. -/
  owes : Bool
  /-- The shutdowns under way; one that stored its flags is about to take the lock and wake all. -/
  closers : List (Option Closing)
  deriving DecidableEq

/-- Whose turn it is while a write blocks. -/
inductive BlockingTurn where
  | writer
  /-- The writer wakes for no reason, or because its time is over. -/
  | wake
  | read (room : Nat)
  | reader
  | shutdown (drain : Bool)
  /-- The shutdown at a place among those under way. -/
  | closer (k : Nat)
  deriving DecidableEq

namespace BlockingEnds

/-- A blocking write begins, wherever the others stand. -/
def begin (pipe : Pipe) (reader : Reading) (owes : Bool) (closers : List (Option Closing)) :
    BlockingEnds :=
  ⟨pipe, .entering, reader, owes, closers⟩

/-- Someone takes their turn while `data` is written. -/
def step (data : List UInt8) (e : BlockingEnds) :
    BlockingTurn → Option (BlockingEnds × Option PipeOutcome)
  | .writer => (e.writer.step e.pipe data).map fun (w, p, outcome) =>
    ({ e with writer := w, pipe := p }, outcome)
  | .wake =>
    match e.writer with
    | .sleeping => some ({ e with writer := .waking }, none)
    | _ => none
  | .read room =>
    match e.reader, e.owes with
    | .idle, false => some ({ e with reader := .entering room }, none)
    | _, _ => none
  | .reader =>
    if e.owes then
      if e.writer.hasLock then none
      else some ({ e with writer := e.writer.woken, owes := false }, none)
    else
      (e.reader.step e.pipe).map fun (r, p, outcome) =>
        ({ e with reader := r, pipe := p, owes := outcome.any (0 < ·.framesOut) }, outcome)
  | .shutdown drain => some ({ e with closers := e.closers ++ [some (.storing drain)] }, none)
  | .closer k =>
    match e.closers[k]? with
    | none => none
    | some none =>
      if e.writer.hasLock then none
      else some ({ e with writer := e.writer.woken, closers := e.closers.eraseIdx k }, none)
    | some (some c) =>
      some ({ e with closers := e.closers.set k (c.step e.pipe).1, pipe := (c.step e.pipe).2 },
        none)

/-- Turns taken one after the other, and what came of the writes and reads that ended. -/
def play (data : List UInt8) (e : BlockingEnds) :
    List BlockingTurn → Option (BlockingEnds × List PipeOutcome)
  | [] => some (e, [])
  | turn :: rest =>
    match e.step data turn with
    | none => none
    | some (e', outcome) =>
      (e'.play data rest).map fun (e'', later) => (e'', outcome.toList ++ later)

end BlockingEnds

/-! ### What holds between any two steps -/

/-- A write of `data` is under way and has decided for frames that are there and fit, if for any. -/
def Writing.Of (data : List UInt8) (p : Pipe) : Writing → Prop
  | idle => False
  | entering d => d = data
  | measuring d => d = data
  | pushing d frames => d = data ∧ 0 < frames ∧ frames ≤ p.framesIn data.length ∧ frames ≤ p.vacant

/-- What a blocking write of `data` has put in, given where it stands. -/
def BlockingWrite.HasPut (data : List UInt8) (p : Pipe) (put : List UInt8) : BlockingWrite → Prop
  | trying w => put = [] ∧ w.Of data p
  | telling n => put = data.take (n * p.frameSize) ∧ 0 < n ∧ n ≤ p.framesIn data.length
  | done (.ok n) => put = data.take (n * p.frameSize) ∧ n ≤ p.framesIn data.length ∧
      (n = 0 → data.length < p.frameSize)
  | done (.error fault) => put = [] ∧ fault = .shutdown ∧ p.isShut = true
  | _ => put = []

/-- A writer that is about to sleep or sleeps, though it need not, is about to be woken. -/
def BlockingEnds.Alert (e : BlockingEnds) : Prop :=
  match e.writer with
  | .measuring => e.pipe.isShut = true → none ∈ e.closers
  | .sleeping => (e.pipe.isShut = true → none ∈ e.closers) ∧ (0 < e.pipe.vacant → e.owes = true)
  | _ => True

/-- What holds of a blocking write of `data`, when `past` came of writes and reads since `start`
was in the pipe. -/
structure BlockingEnds.Sound (capacity frameSize : Nat) (start data : List UInt8)
    (past : List PipeOutcome) (e : BlockingEnds) : Prop where
  sized : e.pipe.Sized capacity frameSize
  stocked : e.reader.Stocked e.pipe
  moved : start ++ bytesIn past = bytesOut past ++ e.pipe.content
  put : e.writer.HasPut data e.pipe (bytesIn past)
  alert : e.Alert

section

variable {capacity frameSize : Nat} {start data put : List UInt8} {past : List PipeOutcome}
  {p p' : Pipe} {w w' : BlockingWrite} {e e' : BlockingEnds} {outcome : Option PipeOutcome}

/-- A turn of each kind, with what has to hold for it to be taken. -/
inductive BlockingEnds.Taken (data : List UInt8) (e : BlockingEnds) :
    BlockingTurn → BlockingEnds → Option PipeOutcome → Prop
  | wrote {w : BlockingWrite} {p : Pipe} {outcome : Option PipeOutcome} :
      e.writer.step e.pipe data = some (w, p, outcome) →
      Taken data e .writer { e with writer := w, pipe := p } outcome
  | woke : e.writer = .sleeping → Taken data e .wake { e with writer := .waking } none
  | began {room : Nat} : e.reader = .idle → e.owes = false →
      Taken data e (.read room) { e with reader := .entering room } none
  | roused : e.owes = true → e.writer.hasLock = false →
      Taken data e .reader { e with writer := e.writer.woken, owes := false } none
  | read {r : Reading} {p : Pipe} {outcome : Option PipeOutcome} : e.owes = false →
      e.reader.step e.pipe = some (r, p, outcome) →
      Taken data e .reader
        { e with reader := r, pipe := p, owes := outcome.any (0 < ·.framesOut) } outcome
  | joined {drain : Bool} :
      Taken data e (.shutdown drain) { e with closers := e.closers ++ [some (.storing drain)] } none
  | released {k : Nat} : e.closers[k]? = some none → e.writer.hasLock = false →
      Taken data e (.closer k)
        { e with writer := e.writer.woken, closers := e.closers.eraseIdx k } none
  | closed {k : Nat} {c : Closing} : e.closers[k]? = some (some c) →
      Taken data e (.closer k)
        { e with closers := e.closers.set k (c.step e.pipe).1, pipe := (c.step e.pipe).2 } none

/-- Every turn is of one of these kinds. -/
theorem BlockingEnds.taken_of_step {turn : BlockingTurn}
    (hs : e.step data turn = some (e', outcome)) : e.Taken data turn e' outcome := by
  cases turn with
  | writer =>
    obtain ⟨⟨w, p, o⟩, hw, heq⟩ := Option.map_eq_some_iff.mp hs
    cases heq
    exact .wrote hw
  | wake =>
    simp only [BlockingEnds.step] at hs
    split at hs
    · rename_i hwriter
      cases hs
      exact .woke hwriter
    · contradiction
  | read room =>
    simp only [BlockingEnds.step] at hs
    split at hs
    · rename_i hidle hfree
      cases hs
      exact .began hidle hfree
    · contradiction
  | reader =>
    simp only [BlockingEnds.step] at hs
    split at hs
    · rename_i howes
      split at hs
      · contradiction
      · rename_i hlock
        cases hs
        exact .roused howes (Bool.not_eq_true _ ▸ hlock)
    · rename_i hfree
      obtain ⟨⟨r, p, o⟩, hr, heq⟩ := Option.map_eq_some_iff.mp hs
      cases heq
      exact .read (Bool.not_eq_true _ ▸ hfree) hr
  | shutdown drain =>
    cases hs
    exact .joined
  | closer k =>
    simp only [BlockingEnds.step] at hs
    split at hs
    · contradiction
    · rename_i hk
      split at hs
      · contradiction
      · rename_i hlock
        cases hs
        exact .released hk (Bool.not_eq_true _ ▸ hlock)
    · rename_i c hc
      cases hs
      exact .closed hc

/-- Turns are taken one after the other. -/
theorem BlockingEnds.play_cons {turn : BlockingTurn} {rest : List BlockingTurn}
    {later : List PipeOutcome} (hplay : e.play data (turn :: rest) = some (e', later)) :
    ∃ next outcome more, e.step data turn = some (next, outcome) ∧
      next.play data rest = some (e', more) ∧ later = outcome.toList ++ more := by
  simp only [BlockingEnds.play] at hplay
  split at hplay
  · contradiction
  · rename_i next outcome hstep
    obtain ⟨⟨last, more⟩, hrest, heq⟩ := Option.map_eq_some_iff.mp hplay
    cases heq
    exact ⟨next, outcome, more, hstep, hrest, rfl⟩

/-- What a write did does not depend on what is taken out of the pipe or on who shuts it. -/
theorem BlockingWrite.HasPut.mono (h : w.HasPut data p put) (hsize : p'.frameSize = p.frameSize)
    (hroom : p.vacant ≤ p'.vacant) (hshut : p.isShut = true → p'.isShut = true) :
    w.HasPut data p' put := by
  have hframes : p'.framesIn data.length = p.framesIn data.length := by
    rw [Pipe.framesIn, Pipe.framesIn, hsize]
  cases w with
  | trying w =>
    refine ⟨h.1, ?_⟩
    cases w with
    | idle => exact h.2.elim
    | entering d | measuring d => exact h.2
    | pushing d frames =>
      obtain ⟨-, hd, hpos, hthere, hfits⟩ := h
      exact ⟨hd, hpos, hframes ▸ hthere, hfits.trans hroom⟩
  | telling n =>
    simp only [HasPut, hsize, hframes] at h ⊢
    exact h
  | done result =>
    cases result with
    | ok n =>
      simp only [HasPut, hsize, hframes] at h ⊢
      exact h
    | error fault => exact ⟨h.1, h.2.1, hshut h.2.2⟩
  | entering | locking | checking | measuring | sleeping | waking => exact h

/-- A write that wakes up has done nothing since. -/
theorem BlockingWrite.HasPut.woken (h : w.HasPut data p put) : w.woken.HasPut data p put := by
  cases w <;> exact h

/-- Nobody but a sleeper or one about to sleep needs to be woken. -/
theorem BlockingEnds.alert_woken (pipe : Pipe) (w : BlockingWrite) (reader : Reading) (owes : Bool)
    (closers : List (Option Closing)) (hlock : w.hasLock = false) :
    BlockingEnds.Alert ⟨pipe, w.woken, reader, owes, closers⟩ := by
  cases w <;> trivial

/-- Others leave a writer that has to be woken so. -/
theorem BlockingEnds.Alert.mono (h : e.Alert) (hwriter : e'.writer = e.writer)
    (hshut : (e.pipe.isShut = true → none ∈ e.closers) →
      e'.pipe.isShut = true → none ∈ e'.closers)
    (hroom : (0 < e.pipe.vacant → e.owes = true) → 0 < e'.pipe.vacant → e'.owes = true) :
    e'.Alert := by
  unfold Alert at h ⊢
  rw [hwriter]
  cases hw : e.writer with
  | measuring =>
    rw [hw] at h
    exact hshut h
  | sleeping =>
    rw [hw] at h
    exact ⟨hshut h.1, hroom h.2⟩
  | _ => trivial

/-- The step of a write inside a blocking one leaves the pipe alone, or it pushes what it decided
for. -/
theorem Writing.Of.step {w w' : Writing} (h : w.Of data p)
    (hs : w.step p = some (w', p', outcome)) :
    outcome = none ∧ p' = p ∧ w'.Of data p ∨
      outcome = some (.written data 0 []) ∧ p' = p ∧
        (p.isShut = true ∨ min (p.framesIn data.length) p.vacant = 0) ∨
      ∃ n, w = pushing data n ∧ 0 < n ∧ n ≤ p.framesIn data.length ∧ n ≤ p.vacant ∧
        p' = p.push n data ∧ outcome = some (.written data n (data.take (n * p.frameSize))) := by
  cases w with
  | idle => contradiction
  | entering d =>
    obtain rfl : d = data := h
    simp only [Writing.step] at hs
    split at hs
    · rename_i hshut
      cases hs
      exact .inr (.inl ⟨rfl, rfl, .inl hshut⟩)
    · cases hs
      exact .inl ⟨rfl, rfl, rfl⟩
  | measuring d =>
    obtain rfl : d = data := h
    simp only [Writing.step] at hs
    split at hs
    · rename_i hnone
      cases hs
      exact .inr (.inl ⟨rfl, rfl, .inr hnone⟩)
    · rename_i hsome
      cases hs
      exact .inl ⟨rfl, rfl, rfl, Nat.pos_of_ne_zero hsome, Nat.min_le_left _ _,
        Nat.min_le_right _ _⟩
  | pushing d n =>
    obtain ⟨rfl, hpos, hthere, hfits⟩ := h
    simp only [Writing.step, Pipe.pushSlice_of_fits d hfits] at hs
    cases hs
    exact .inr (.inr ⟨n, rfl, hpos, hthere, hfits, rfl, rfl⟩)

namespace BlockingEnds.Sound

/-- The writer takes a step that leaves the pipe alone and ends no write. -/
theorem quiet (h : e.Sound capacity frameSize start data past)
    (hput : w.HasPut data e.pipe (bytesIn past)) (halert : Alert { e with writer := w }) :
    BlockingEnds.Sound capacity frameSize start data past { e with writer := w } :=
  ⟨h.sized, h.stocked, h.moved, hput, halert⟩

/-- The write inside takes a step. -/
theorem trying {w : Writing} {w' : Writing} (h : e.Sound capacity frameSize start data past)
    (hwriter : e.writer = .trying w) (hs : w.step e.pipe = some (w', p', outcome)) :
    BlockingEnds.Sound capacity frameSize start data (past ++ outcome.toList)
      { e with
        writer := outcome.elim (.trying w') fun o => .afterWrite e.pipe data o.framesIn
        pipe := p' } := by
  have hput := h.put
  rw [hwriter] at hput
  obtain ⟨hnone, hof⟩ := hput
  rcases hof.step hs with ⟨rfl, rfl, hof'⟩ | ⟨rfl, rfl, -⟩ | ⟨n, -, hpos, hthere, hfits, rfl, rfl⟩
  · rw [Option.toList_none, List.append_nil]
    exact h.quiet ⟨hnone, hof'⟩ trivial
  · -- Nothing was written, so nothing was put in.
    have hnothing : bytesIn (past ++ [.written data 0 []]) = [] := by
      rw [bytesIn_append, hnone]
      rfl
    have hnoneOut : bytesOut (past ++ [.written data 0 []]) = bytesOut past := by
      rw [bytesOut_append]
      exact List.append_nil _
    rw [Option.toList_some]
    refine ⟨h.sized, h.stocked, ?_, ?_, ?_⟩
    · have hmoved := h.moved
      rwa [hnothing, hnoneOut, ← hnone]
    · rw [hnothing]
      simp only [Option.elim_some, PipeOutcome.framesIn, BlockingWrite.afterWrite, Nat.lt_irrefl,
        if_false]
      split
      · rename_i hshort
        exact ⟨by simp, Nat.zero_le _, fun _ => hshort⟩
      · rfl
    · simp only [Option.elim_some, PipeOutcome.framesIn, BlockingWrite.afterWrite, Nat.lt_irrefl,
        if_false]
      split <;> trivial
  · have hall : bytesIn (past ++ [.written data n (data.take (n * e.pipe.frameSize))]) =
        data.take (n * e.pipe.frameSize) := by
      rw [bytesIn_append, hnone]
      exact List.append_nil _
    have hnoneOut : bytesOut (past ++ [.written data n (data.take (n * e.pipe.frameSize))]) =
        bytesOut past := by
      rw [bytesOut_append]
      exact List.append_nil _
    have hafter : BlockingWrite.afterWrite e.pipe data n = .telling n := if_pos hpos
    rw [Option.toList_some, Option.elim_some, PipeOutcome.framesIn, hafter]
    refine ⟨h.sized.push hthere hfits, ?_, ?_, ?_, trivial⟩
    · have hstocked := h.stocked
      cases hreader : e.reader with
      | popping room observed =>
        rw [hreader] at hstocked
        exact hstocked.trans (Pipe.available_le_push _ _)
      | _ => trivial
    · have hmoved := h.moved
      rw [hnone, List.append_nil] at hmoved
      rw [hall, hnoneOut, hmoved, Pipe.push, List.append_assoc]
    · rw [hall]
      exact ⟨rfl, hpos, hthere⟩

/-- The writer takes a step. -/
theorem writer (h : e.Sound capacity frameSize start data past)
    (hs : e.writer.step e.pipe data = some (w', p', outcome)) :
    BlockingEnds.Sound capacity frameSize start data (past ++ outcome.toList)
      { e with writer := w', pipe := p' } := by
  have hput := h.put
  cases hwriter : e.writer with
  | sleeping | done =>
    rw [hwriter] at hs
    contradiction
  | trying w =>
    rw [hwriter] at hs
    obtain ⟨⟨w₁, p₁, o⟩, hw, heq⟩ := Option.map_eq_some_iff.mp hs
    cases heq
    exact h.trying hwriter hw
  | entering =>
    rw [hwriter] at hs hput
    cases hs
    rw [Option.toList_none, List.append_nil]
    split
    · rename_i hshut
      exact h.quiet ⟨hput, rfl, hshut⟩ trivial
    · exact h.quiet ⟨hput, rfl⟩ trivial
  | telling n =>
    rw [hwriter] at hs hput
    cases hs
    rw [Option.toList_none, List.append_nil]
    exact h.quiet ⟨hput.1, hput.2.2, fun hzero => absurd hzero hput.2.1.ne'⟩ trivial
  | locking | waking =>
    rw [hwriter] at hs hput
    cases hs
    rw [Option.toList_none, List.append_nil]
    exact h.quiet hput trivial
  | checking =>
    rw [hwriter] at hs hput
    cases hs
    rw [Option.toList_none, List.append_nil]
    split
    · exact h.quiet hput trivial
    · rename_i hopen
      exact h.quiet hput fun hshut => absurd hshut hopen
  | measuring =>
    have halert := h.alert
    rw [Alert, hwriter] at halert
    rw [hwriter] at hs hput
    cases hs
    rw [Option.toList_none, List.append_nil]
    split
    · rename_i hfull
      have hvacant : e.pipe.vacant = 0 := Nat.div_eq_of_lt hfull
      exact h.quiet hput ⟨halert, fun hroom => absurd hvacant hroom.ne'⟩
    · exact h.quiet hput trivial

/-- Somebody who took the lock wakes the writer. -/
theorem wake (h : e.Sound capacity frameSize start data past) (hlock : e.writer.hasLock = false)
    (owes : Bool) (closers : List (Option Closing)) :
    BlockingEnds.Sound capacity frameSize start data past
      { e with writer := e.writer.woken, owes := owes, closers := closers } :=
  ⟨h.sized, h.stocked, h.moved, h.put.woken, alert_woken _ _ _ _ _ hlock⟩

/-- The reader takes a step of a read. If that makes room, it owes the writer a wake-up. -/
theorem reader {r : Reading} (h : e.Sound capacity frameSize start data past)
    (hfree : e.owes = false) (hs : e.reader.step e.pipe = some (r, p', outcome)) :
    BlockingEnds.Sound capacity frameSize start data (past ++ outcome.toList)
      { e with reader := r, pipe := p', owes := outcome.any (0 < ·.framesOut) } := by
  rcases Reading.step_cases hs with
    ⟨rfl, hstocked, hquiet⟩ | ⟨room, observed, -, rfl, hp, rfl⟩
  · have hbytes : bytesIn (past ++ outcome.toList) = bytesIn past ∧
        bytesOut (past ++ outcome.toList) = bytesOut past := by
      rw [bytesIn_append, bytesOut_append]
      cases outcome with
      | none => exact ⟨List.append_nil _, List.append_nil _⟩
      | some o =>
        obtain ⟨-, hin, hout⟩ := (hquiet o rfl).complete
        simp [bytesIn, bytesOut, hin, hout]
    have howes : outcome.any (0 < ·.framesOut) = false := by
      cases outcome with
      | none => rfl
      | some o =>
        have hzero := hquiet o rfl
        cases o with
        | written => rfl
        | given room observed frames bytes => simp [PipeOutcome.framesOut, hzero.1]
    have halert := h.alert
    rw [howes, ← hfree]
    refine ⟨h.sized, hstocked, ?_, ?_, halert⟩
    · rw [hbytes.1, hbytes.2]
      exact h.moved
    · rw [hbytes.1]
      exact h.put
  · obtain ⟨n, hn⟩ : ∃ n, n = min (e.pipe.framesIn room) observed := ⟨_, rfl⟩
    rw [← hn] at hp ⊢
    subst hp
    have hin : bytesIn (past ++ [.given room (some observed) n (e.pipe.pop n).1]) =
        bytesIn past := by
      rw [bytesIn_append]
      exact List.append_nil _
    have hout : bytesOut (past ++ [.given room (some observed) n (e.pipe.pop n).1]) =
        bytesOut past ++ (e.pipe.pop n).1 := by
      simp [bytesOut, PipeOutcome.bytesOut]
    rw [Option.toList_some]
    refine ⟨h.sized.pop n, trivial, ?_, ?_, ?_⟩
    · rw [hin, hout, h.moved, List.append_assoc, e.pipe.pop_append_content]
    · rw [hin]
      exact h.put.mono rfl (Pipe.vacant_le_pop n) id
    · refine h.alert.mono rfl id fun hroom hroom' => ?_
      obtain rfl | hpos := Nat.eq_zero_or_pos n
      · -- A read of no frame makes no room.
        rw [Pipe.pop_zero] at hroom'
        have howes := hroom hroom'
        rw [hfree] at howes
        contradiction
      · simp [PipeOutcome.framesOut, hpos]

/-- A shutdown stores a flag. When both are stored, it owes everyone a wake-up. -/
theorem close {k : Nat} {c : Closing} (h : e.Sound capacity frameSize start data past)
    (hc : e.closers[k]? = some (some c)) :
    BlockingEnds.Sound capacity frameSize start data past
      { e with closers := e.closers.set k (c.step e.pipe).1, pipe := (c.step e.pipe).2 } := by
  have hsame : (c.step e.pipe).2.content = e.pipe.content ∧
      (c.step e.pipe).2.capacity = e.pipe.capacity ∧
      (c.step e.pipe).2.frameSize = e.pipe.frameSize ∧
      (e.pipe.isShut = true → (c.step e.pipe).2.isShut = true) := by
    cases c <;> simp [Closing.step]
  obtain ⟨hcontent, hcapacity, hsize, hshut⟩ := hsame
  have hvacant : (c.step e.pipe).2.vacant = e.pipe.vacant := by
    rw [Pipe.vacant, Pipe.vacant, Pipe.vacantBytes, Pipe.vacantBytes, hcontent, hcapacity, hsize]
  refine ⟨?_, ?_, ?_, h.put.mono hsize hvacant.ge hshut, h.alert.mono rfl ?_ ?_⟩
  · exact ⟨hcontent ▸ h.sized.bounded, hcontent ▸ h.sized.aligned, hcapacity.trans h.sized.capacity,
      hsize.trans h.sized.frameSize⟩
  · have hstocked := h.stocked
    dsimp only
    cases hreader : e.reader with
    | popping room observed =>
      rw [hreader] at hstocked
      rw [Reading.Stocked, Pipe.available, hcontent, hsize]
      exact hstocked
    | _ => trivial
  · dsimp only
    rw [hcontent]
    exact h.moved
  · intro hpending hnow
    obtain ⟨hk, hget⟩ := List.getElem?_eq_some_iff.mp hc
    cases c with
    | storing drain =>
      obtain ⟨j, hj⟩ := List.mem_iff_getElem?.mp (hpending hnow)
      have hne : k ≠ j := by
        rintro rfl
        rw [hc] at hj
        cases hj
      refine List.mem_iff_getElem?.mpr ⟨j, ?_⟩
      rw [List.getElem?_set_ne hne, hj]
    | sealing => exact List.mem_set hk _
  · exact fun howes hroom => howes (hvacant ▸ hroom)

/-- A shutdown begins. -/
theorem join (h : e.Sound capacity frameSize start data past) (c : Closing) :
    BlockingEnds.Sound capacity frameSize start data past
      { e with closers := e.closers ++ [some c] } := by
  refine ⟨h.sized, h.stocked, h.moved, h.put, h.alert.mono rfl ?_ id⟩
  exact fun hpending hshut => List.mem_append_left _ (hpending hshut)

/-- Whoever takes their turn. -/
theorem step (h : e.Sound capacity frameSize start data past) {turn : BlockingTurn}
    (hs : e.step data turn = some (e', outcome)) :
    e'.Sound capacity frameSize start data (past ++ outcome.toList) := by
  cases taken_of_step hs with
  | wrote hw => exact h.writer hw
  | read hfree hr => exact h.reader hfree hr
  | woke hwriter =>
    have hput := h.put
    rw [hwriter] at hput
    rw [Option.toList_none, List.append_nil]
    exact h.quiet hput trivial
  | began =>
    rw [Option.toList_none, List.append_nil]
    exact ⟨h.sized, trivial, h.moved, h.put, h.alert⟩
  | roused _ hlock =>
    rw [Option.toList_none, List.append_nil]
    exact h.wake hlock false e.closers
  | released _ hlock =>
    rw [Option.toList_none, List.append_nil]
    exact h.wake hlock e.owes _
  | joined =>
    rw [Option.toList_none, List.append_nil]
    exact h.join _
  | closed hc =>
    rw [Option.toList_none, List.append_nil]
    exact h.close hc

/-- Whatever turns are taken. -/
theorem play (h : e.Sound capacity frameSize start data past) {turns : List BlockingTurn}
    {later : List PipeOutcome} (hplay : e.play data turns = some (e', later)) :
    e'.Sound capacity frameSize start data (past ++ later) := by
  induction turns generalizing e past later with
  | nil =>
    cases hplay
    rwa [List.append_nil]
  | cons turn rest ih =>
    obtain ⟨next, outcome, more, hstep, hrest, rfl⟩ := play_cons hplay
    rw [← List.append_assoc]
    exact ih (h.step hstep) hrest

end BlockingEnds.Sound

end

end AudioRelay
