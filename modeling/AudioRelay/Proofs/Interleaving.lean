import AudioRelay.Proofs.Worker

/-!
# Pipes between their atomic steps

A write loads the shutdown flag, observes how much fits and pushes; a read loads the shutdown
flag, if need be the drain flag, observes how much is there and pops; a shutdown stores the drain
flag and then the shutdown flag. Between any two of these steps the other end, or anyone who shuts
the pipe, may act, so that what an end decided upon may rest on an observation that is stale by
the time it moves bytes. It can only be stale in the right direction: only the writer fills the
pipe and only the reader empties it. Of the byte ring below it is taken for granted that bytes
come out in the order in which they went in, that a push or a pop moves as many bytes as were
asked for and as have room or are there, and that an observation shows what the other end has
moved so far; one that missed the latest of it would err on the safe side.
-/

namespace AudioRelay

namespace Pipe

/-- The writer's ring appends as much of some bytes as fits; what went in, and the pipe then. -/
def pushSlice (p : Pipe) (bytes : List UInt8) : List UInt8 × Pipe :=
  (bytes.take p.vacantBytes, { p with content := p.content ++ bytes.take p.vacantBytes })

end Pipe

/-- What came of a write or a read. -/
inductive PipeOutcome where
  /-- A write decided for so many frames of its data, and these bytes went in. -/
  | written (data : List UInt8) (frames : Nat) (bytes : List UInt8)
  /-- A read had room for so many bytes and observed so many frames, if it was let to look at
  all; it decided for so many frames, and these bytes came out. -/
  | given (room : Nat) (observed : Option Nat) (frames : Nat) (bytes : List UInt8)
  deriving DecidableEq, Repr

/-- Where a write stands between two steps. -/
inductive Writing where
  | idle
  /-- About to load the shutdown flag. -/
  | entering (data : List UInt8)
  /-- About to observe how much fits. -/
  | measuring (data : List UInt8)
  /-- About to push so many frames. -/
  | pushing (data : List UInt8) (frames : Nat)
  deriving DecidableEq, Repr

/-- Where a read stands between two steps. -/
inductive Reading where
  | idle
  /-- About to load the shutdown flag. -/
  | entering (room : Nat)
  /-- Found the pipe shut and is about to load the drain flag. -/
  | checking (room : Nat)
  /-- About to observe how much is there. -/
  | measuring (room : Nat)
  /-- About to pop what fits of the frames observed. -/
  | popping (room observed : Nat)
  deriving DecidableEq, Repr

/-- Where a shutdown stands between two steps. -/
inductive Closing where
  /-- About to store the drain flag. -/
  | storing (drain : Bool)
  /-- About to store the shutdown flag. -/
  | sealing
  deriving DecidableEq, Repr

/-- One step of a write. -/
def Writing.step (p : Pipe) : Writing → Option (Writing × Pipe × Option PipeOutcome)
  | idle => none
  | entering data =>
    if p.isShut then some (idle, p, some (.written data 0 [])) else some (measuring data, p, none)
  | measuring data =>
    let frames := min (p.framesIn data.length) p.vacant
    if frames = 0 then some (idle, p, some (.written data 0 []))
    else some (pushing data frames, p, none)
  | pushing data frames =>
    let (bytes, p') := p.pushSlice (data.take (frames * p.frameSize))
    some (idle, p', some (.written data frames bytes))

/-- One step of a read. -/
def Reading.step (p : Pipe) : Reading → Option (Reading × Pipe × Option PipeOutcome)
  | idle => none
  | entering room => some (if p.isShut then checking room else measuring room, p, none)
  | checking room =>
    if p.drains then some (measuring room, p, none)
    else some (idle, p, some (.given room none 0 []))
  | measuring room =>
    if min (p.framesIn room) p.available = 0 then
      some (idle, p, some (.given room (some p.available) 0 []))
    else some (popping room p.available, p, none)
  | popping room observed =>
    let frames := min (p.framesIn room) observed
    let (bytes, p') := p.pop frames
    some (idle, p', some (.given room (some observed) frames bytes))

/-- One step of a shutdown, which is over after the second. -/
def Closing.step (p : Pipe) : Closing → Option Closing × Pipe
  | storing drain => (some sealing, { p with drains := drain })
  | sealing => (none, { p with isShut := true })

/-- A pipe with its two ends and those who are shutting it. -/
structure Ends where
  pipe : Pipe
  writer : Writing
  reader : Reading
  closers : List Closing
  deriving DecidableEq, Repr

/-- Whose turn it is: a call begins, or one that has begun takes a step. -/
inductive Turn where
  | write (data : List UInt8)
  | writer
  | read (room : Nat)
  | reader
  | shutdown (drain : Bool)
  /-- The shutdown at a place among those under way. -/
  | closer (k : Nat)
  deriving DecidableEq, Repr

namespace Ends

/-- A new pipe, of which nobody has asked anything. -/
def fresh (capacity frameSize : Nat) : Ends :=
  ⟨Pipe.empty capacity frameSize, .idle, .idle, []⟩

/-- Someone takes their turn. Each end does one thing at a time; anyone may shut the pipe. -/
def step (e : Ends) : Turn → Option (Ends × Option PipeOutcome)
  | .write data =>
    match e.writer with
    | .idle => some ({ e with writer := .entering data }, none)
    | _ => none
  | .writer => (e.writer.step e.pipe).map fun (w, p, outcome) =>
    ({ e with writer := w, pipe := p }, outcome)
  | .read room =>
    match e.reader with
    | .idle => some ({ e with reader := .entering room }, none)
    | _ => none
  | .reader => (e.reader.step e.pipe).map fun (r, p, outcome) =>
    ({ e with reader := r, pipe := p }, outcome)
  | .shutdown drain => some ({ e with closers := e.closers ++ [.storing drain] }, none)
  | .closer k =>
    match e.closers[k]? with
    | none => none
    | some c =>
      match c.step e.pipe with
      | (some c', p) => some ({ e with closers := e.closers.set k c', pipe := p }, none)
      | (none, p) => some ({ e with closers := e.closers.eraseIdx k, pipe := p }, none)

/-- Turns taken one after the other, and what came of the calls that ended. -/
def play (e : Ends) : List Turn → Option (Ends × List PipeOutcome)
  | [] => some (e, [])
  | turn :: rest =>
    match e.step turn with
    | none => none
    | some (e', outcome) => (e'.play rest).map fun (e'', later) => (e'', outcome.toList ++ later)

end Ends

/-! ### Calls that nobody interrupts -/

section

variable {p : Pipe} {e : Ends}

/-- Frames that fit are pushed as a whole. -/
theorem Pipe.pushSlice_of_fits {n : Nat} (data : List UInt8) (h : n ≤ p.vacant) :
    p.pushSlice (data.take (n * p.frameSize)) = (data.take (n * p.frameSize), p.push n data) := by
  have hbytes : n * p.frameSize ≤ p.vacantBytes :=
    Nat.le_trans (Nat.mul_le_mul_right _ h) (Nat.div_mul_le_self _ _)
  rw [pushSlice, List.take_of_length_le (Nat.le_trans (List.length_take_le _ _) hbytes)]
  rfl

theorem Pipe.push_zero (p : Pipe) (data : List UInt8) : p.push 0 data = p := by
  rw [push, Nat.zero_mul, List.take_zero, List.append_nil]

theorem Pipe.pop_zero (p : Pipe) : p.pop 0 = ([], p) := by
  rw [pop, Nat.zero_mul, List.take_zero, List.drop_zero]

/-- The steps of a write that nobody interrupts make up a write. -/
theorem Ends.write_alone (h : e.writer = .idle) (data : List UInt8) :
    ∃ n, e.play (.write data :: List.replicate n .writer) =
      some ({ e with pipe := (e.pipe.write data).2 },
        [.written data (e.pipe.write data).1
          (data.take ((e.pipe.write data).1 * e.pipe.frameSize))]) := by
  obtain ⟨pipe, writer, reader, closers⟩ := e
  subst h
  by_cases shut : pipe.isShut = true
  · refine ⟨1, ?_⟩
    simp [play, step, Writing.step, Pipe.write, List.replicate, shut]
  by_cases full : min (pipe.framesIn data.length) pipe.vacant = 0
  · refine ⟨2, ?_⟩
    simp [play, step, Writing.step, Pipe.write, List.replicate, shut, full, Pipe.push_zero]
  · refine ⟨3, ?_⟩
    simp [play, step, Writing.step, Pipe.write, List.replicate, shut, full,
      Pipe.pushSlice_of_fits data (Nat.min_le_right _ _)]

/-- From where it observes how much is there, a read that nobody interrupts takes that. -/
theorem Ends.measure_alone {room frames : Nat} (h : e.reader = .measuring room)
    (hframes : frames = min (e.pipe.framesIn room) e.pipe.available) :
    ∃ n, e.play (List.replicate n .reader) =
      some ({ e with reader := .idle, pipe := (e.pipe.pop frames).2 },
        [.given room (some e.pipe.available) frames (e.pipe.pop frames).1]) := by
  obtain ⟨pipe, writer, reader, closers⟩ := e
  subst h hframes
  by_cases nothing : min (pipe.framesIn room) pipe.available = 0
  · refine ⟨1, ?_⟩
    simp [play, step, Reading.step, List.replicate, nothing, Pipe.pop_zero]
  · refine ⟨2, ?_⟩
    simp [play, step, Reading.step, List.replicate, nothing]

/-- The steps of a read that nobody interrupts make up a read. -/
theorem Ends.read_alone (h : e.reader = .idle) (room : Nat) :
    ∃ n, e.play (.read room :: List.replicate n .reader) =
      some ({ e with pipe := (e.pipe.read room).2 },
        [if e.pipe.isSealed then .given room none 0 (e.pipe.read room).1
          else .given room (some e.pipe.available) (min (e.pipe.framesIn room) e.pipe.available)
            (e.pipe.read room).1]) := by
  obtain ⟨pipe, writer, reader, closers⟩ := e
  subst h
  obtain ⟨n, hmeasure⟩ := measure_alone (e := ⟨pipe, writer, .measuring room, closers⟩) rfl rfl
  by_cases shut : pipe.isShut = true
  · by_cases drains : pipe.drains = true
    · refine ⟨n + 2, ?_⟩
      simp [play, step, Reading.step, Pipe.read, Pipe.isSealed, List.replicate, shut, drains,
        hmeasure]
    · refine ⟨2, ?_⟩
      simp [play, step, Reading.step, Pipe.read, Pipe.isSealed, List.replicate, shut, drains]
  · refine ⟨n + 1, ?_⟩
    simp [play, step, Reading.step, Pipe.read, Pipe.isSealed, List.replicate, shut, hmeasure]

/-- The two steps of a shutdown that nobody interrupts make up a shutdown. -/
theorem Ends.shutdown_alone (e : Ends) (drain : Bool) :
    e.play [.shutdown drain, .closer e.closers.length, .closer e.closers.length] =
      some ({ e with pipe := e.pipe.shutdown drain }, []) := by
  simp [play, step, Closing.step, Pipe.shutdown, List.eraseIdx_append_of_length_le]

end

/-! ### What holds between any two steps -/

namespace PipeOutcome

/-- The bytes that a write put in. -/
def bytesIn : PipeOutcome → List UInt8
  | written _ _ bytes => bytes
  | given .. => []

/-- The bytes that a read got out. -/
def bytesOut : PipeOutcome → List UInt8
  | written .. => []
  | given _ _ _ bytes => bytes

/-- A call moved all the frames that it decided for: a write the first frames of its data, a read
as many of the frames it observed as have room. -/
def Complete (frameSize : Nat) : PipeOutcome → Prop
  | written data frames bytes =>
    bytes = data.take (frames * frameSize) ∧ bytes.length = frames * frameSize
  | given room observed frames bytes =>
    bytes.length = frames * frameSize ∧
      match observed with
      | none => frames = 0
      | some n => frames = min (room / frameSize) n

/-- A read that was not let to look at what is there. -/
def isSuppressed : PipeOutcome → Bool
  | given _ none _ _ => true
  | _ => false

/-- A call that moved nothing, and rightly so. -/
def Quiet (p : Pipe) : PipeOutcome → Prop
  | written _ frames bytes => frames = 0 ∧ bytes = []
  | given room observed frames bytes => frames = 0 ∧ bytes = [] ∧
      ∀ n ∈ observed, n = p.available ∧ min (p.framesIn room) n = 0

end PipeOutcome

/-- All that was put in. -/
def bytesIn (outcomes : List PipeOutcome) : List UInt8 := outcomes.flatMap PipeOutcome.bytesIn

/-- All that was got out. -/
def bytesOut (outcomes : List PipeOutcome) : List UInt8 := outcomes.flatMap PipeOutcome.bytesOut

/-- A pipe of given dimensions that holds whole frames and not too many. -/
structure Pipe.Sized (capacity frameSize : Nat) (p : Pipe) : Prop where
  bounded : p.content.length ≤ capacity * frameSize
  aligned : frameSize ∣ p.content.length
  capacity : p.capacity = capacity
  frameSize : p.frameSize = frameSize

/-- The frames that a write is about to push are there, and fit. -/
def Writing.Fits (p : Pipe) : Writing → Prop
  | pushing data frames => frames ≤ p.framesIn data.length ∧ frames ≤ p.vacant
  | _ => True

/-- The frames that a read has observed are there. -/
def Reading.Stocked (p : Pipe) : Reading → Prop
  | popping _ observed => observed ≤ p.available
  | _ => True

/-- What holds of a pipe and its ends after what came of the calls so far. -/
structure Ends.Sound (capacity frameSize : Nat) (past : List PipeOutcome) (e : Ends) : Prop where
  sized : e.pipe.Sized capacity frameSize
  fits : e.writer.Fits e.pipe
  stocked : e.reader.Stocked e.pipe
  /-- What came out is what went in, up to what is still there. -/
  moved : bytesIn past = bytesOut past ++ e.pipe.content
  complete : ∀ outcome ∈ past, outcome.Complete frameSize

section

variable {capacity frameSize n : Nat} {p p' : Pipe} {data : List UInt8}
  {outcome : Option PipeOutcome} {past : List PipeOutcome} {e e' : Ends}

/-- So many frames of the data are so many bytes. -/
theorem Pipe.length_take_of_le_framesIn (h : n ≤ p.framesIn data.length) :
    (data.take (n * p.frameSize)).length = n * p.frameSize := by
  have hbytes : n * p.frameSize ≤ data.length :=
    Nat.le_trans (Nat.mul_le_mul_right _ h) (Nat.div_mul_le_self _ _)
  rw [List.length_take, Nat.min_eq_left hbytes]

/-- So many frames in the pipe are so many bytes. -/
theorem Pipe.length_pop_of_le_available (h : n ≤ p.available) :
    (p.pop n).1.length = n * p.frameSize := by
  have hbytes : n * p.frameSize ≤ p.content.length :=
    Nat.le_trans (Nat.mul_le_mul_right _ h) (Nat.div_mul_le_self _ _)
  rw [pop, List.length_take, Nat.min_eq_left hbytes]

/-- What the writer does leaves the reader as much as there was. -/
theorem Pipe.available_le_push (n : Nat) (data : List UInt8) :
    p.available ≤ (p.push n data).available := by
  apply Nat.div_le_div_right
  rw [push, List.length_append]
  omega

/-- What the reader does leaves the writer as much room as there was. -/
theorem Pipe.vacant_le_pop (n : Nat) : p.vacant ≤ (p.pop n).2.vacant := by
  apply Nat.div_le_div_right
  simp only [vacantBytes, pop, List.length_drop]
  omega

namespace Pipe.Sized

theorem push (h : p.Sized capacity frameSize) (hdata : n ≤ p.framesIn data.length)
    (hroom : n ≤ p.vacant) : (p.push n data).Sized capacity frameSize := by
  have hbytes : n * p.frameSize ≤ p.vacantBytes :=
    Nat.le_trans (Nat.mul_le_mul_right _ hroom) (Nat.div_mul_le_self _ _)
  have hlength : (p.push n data).content.length = p.content.length + n * frameSize := by
    rw [Pipe.push, List.length_append, length_take_of_le_framesIn hdata, h.frameSize]
  refine ⟨?_, ?_, h.capacity, h.frameSize⟩
  · have hbound := h.bounded
    rw [vacantBytes, h.capacity, h.frameSize] at hbytes
    omega
  · rw [hlength]
    exact Nat.dvd_add h.aligned (Nat.dvd_mul_left _ _)

theorem pop (h : p.Sized capacity frameSize) (n : Nat) :
    (p.pop n).2.Sized capacity frameSize := by
  have hlength : (p.pop n).2.content.length = p.content.length - n * frameSize := by
    rw [Pipe.pop, List.length_drop, h.frameSize]
  refine ⟨?_, ?_, h.capacity, h.frameSize⟩
  · exact hlength ▸ Nat.le_trans (Nat.sub_le _ _) h.bounded
  · rw [hlength]
    exact Nat.dvd_sub h.aligned (Nat.dvd_mul_left _ _)

end Pipe.Sized

/-- A call that moved nothing moved all that it decided for. -/
theorem PipeOutcome.Quiet.complete {o : PipeOutcome} (h : o.Quiet p) :
    o.Complete p.frameSize ∧ o.bytesIn = [] ∧ o.bytesOut = [] := by
  cases o with
  | written data frames bytes =>
    obtain ⟨rfl, rfl⟩ := h
    simp [Complete, bytesIn, bytesOut]
  | given room observed frames bytes =>
    obtain ⟨rfl, rfl, hobserved⟩ := h
    cases observed with
    | none => simp [Complete, bytesIn, bytesOut]
    | some n =>
      refine ⟨⟨(Nat.zero_mul _).symm, ?_⟩, rfl, rfl⟩
      exact (hobserved n rfl).2.symm

/-- A step of a write leaves the pipe alone and decides for frames that fit, or it pushes. -/
theorem Writing.step_cases {w w' : Writing} (h : w.step p = some (w', p', outcome)) :
    (p' = p ∧ w'.Fits p ∧ ∀ o ∈ outcome, o.Quiet p) ∨
      ∃ data frames, w = pushing data frames ∧ w' = idle ∧
        p' = (p.pushSlice (data.take (frames * p.frameSize))).2 ∧
        outcome = some (.written data frames
          (p.pushSlice (data.take (frames * p.frameSize))).1) := by
  cases w with
  | idle => contradiction
  | entering data =>
    refine .inl ?_
    simp only [step] at h
    split at h <;> cases h <;> simp [Fits, PipeOutcome.Quiet]
  | measuring data =>
    refine .inl ?_
    simp only [step] at h
    split at h
    · cases h
      simp [Fits, PipeOutcome.Quiet]
    · cases h
      exact ⟨rfl, ⟨Nat.min_le_left _ _, Nat.min_le_right _ _⟩, nofun⟩
  | pushing data frames =>
    cases h
    exact .inr ⟨data, frames, rfl, rfl, rfl, rfl⟩

/-- A step of a read leaves the pipe alone and knows what is there, or it pops. -/
theorem Reading.step_cases {r r' : Reading} (h : r.step p = some (r', p', outcome)) :
    (p' = p ∧ r'.Stocked p ∧ ∀ o ∈ outcome, o.Quiet p) ∨
      ∃ room observed, r = popping room observed ∧ r' = idle ∧
        p' = (p.pop (min (p.framesIn room) observed)).2 ∧
        outcome = some (.given room (some observed) (min (p.framesIn room) observed)
          (p.pop (min (p.framesIn room) observed)).1) := by
  cases r with
  | idle => contradiction
  | entering room =>
    refine .inl ?_
    simp only [step] at h
    split at h <;> cases h <;> simp [Stocked]
  | checking room =>
    refine .inl ?_
    simp only [step] at h
    split at h <;> cases h <;> simp [Stocked, PipeOutcome.Quiet]
  | measuring room =>
    refine .inl ?_
    simp only [step] at h
    split at h <;> cases h <;> simp_all [Stocked, PipeOutcome.Quiet]
  | popping room observed =>
    cases h
    exact .inr ⟨room, observed, rfl, rfl, rfl, rfl⟩

theorem bytesIn_append (past later : List PipeOutcome) :
    bytesIn (past ++ later) = bytesIn past ++ bytesIn later :=
  List.flatMap_append

theorem bytesOut_append (past later : List PipeOutcome) :
    bytesOut (past ++ later) = bytesOut past ++ bytesOut later :=
  List.flatMap_append

/-- With only the outcome that a step brings, if any, to be looked at. -/
theorem forall_mem_append_toList {α : Type} {P : α → Prop} {past : List α} {new : Option α}
    (hpast : ∀ a ∈ past, P a) (hnew : ∀ a ∈ new, P a) : ∀ a ∈ past ++ new.toList, P a := by
  intro a ha
  rcases List.mem_append.mp ha with hold | hlast
  · exact hpast a hold
  · exact hnew a (Option.mem_toList.mp hlast)

namespace Ends.Sound

theorem fresh (capacity frameSize : Nat) :
    (Ends.fresh capacity frameSize).Sound capacity frameSize [] where
  sized := ⟨Nat.zero_le _, Nat.dvd_zero _, rfl, rfl⟩
  fits := trivial
  stocked := trivial
  moved := rfl
  complete := by simp

/-- A step that leaves the pipe alone and ends a call only with nothing moved. -/
theorem quiet (h : e.Sound capacity frameSize past) (hpipe : e'.pipe = e.pipe)
    (hfits : e'.writer.Fits e.pipe) (hstocked : e'.reader.Stocked e.pipe)
    (hquiet : ∀ o ∈ outcome, o.Quiet e.pipe) :
    e'.Sound capacity frameSize (past ++ outcome.toList) := by
  have hcomplete : ∀ o ∈ outcome, o.Complete frameSize ∧ o.bytesIn = [] ∧ o.bytesOut = [] :=
    fun o ho => h.sized.frameSize ▸ (hquiet o ho).complete
  refine ⟨hpipe ▸ h.sized, hpipe ▸ hfits, hpipe ▸ hstocked, ?_,
    forall_mem_append_toList h.complete fun o ho => (hcomplete o ho).1⟩
  rw [bytesIn_append, bytesOut_append, hpipe, h.moved]
  cases outcome with
  | none => simp [bytesIn, bytesOut]
  | some o => simp [bytesIn, bytesOut, hcomplete o rfl]

/-- The writer pushes what it decided for: since it looked, the reader has only made room. -/
theorem push {frames : Nat} (h : e.Sound capacity frameSize past)
    (hwriter : e.writer = .pushing data frames) :
    Ends.Sound capacity frameSize
      (past ++ [.written data frames
        (e.pipe.pushSlice (data.take (frames * e.pipe.frameSize))).1])
      { e with
        writer := .idle
        pipe := (e.pipe.pushSlice (data.take (frames * e.pipe.frameSize))).2 } := by
  obtain ⟨hdata, hroom⟩ : frames ≤ e.pipe.framesIn data.length ∧ frames ≤ e.pipe.vacant := by
    simpa only [hwriter, Writing.Fits] using h.fits
  rw [Pipe.pushSlice_of_fits data hroom]
  refine ⟨h.sized.push hdata hroom, trivial, ?_, ?_, ?_⟩
  · cases hreader : e.reader with
    | popping room observed =>
      have hstocked := h.stocked
      rw [hreader] at hstocked
      exact Nat.le_trans hstocked (Pipe.available_le_push _ _)
    | _ => trivial
  · rw [bytesIn_append, bytesOut_append, h.moved]
    simp [bytesIn, bytesOut, PipeOutcome.bytesIn, PipeOutcome.bytesOut, Pipe.push]
  · refine List.forall_mem_append.mpr ⟨h.complete, List.forall_mem_singleton.mpr ?_⟩
    rw [← h.sized.frameSize]
    exact ⟨rfl, Pipe.length_take_of_le_framesIn hdata⟩

/-- The reader pops what it decided for: since it looked, the writer has only added frames. -/
theorem pop {room observed : Nat} (h : e.Sound capacity frameSize past)
    (hreader : e.reader = .popping room observed) :
    Ends.Sound capacity frameSize
      (past ++ [.given room (some observed) (min (e.pipe.framesIn room) observed)
        (e.pipe.pop (min (e.pipe.framesIn room) observed)).1])
      { e with
        reader := .idle
        pipe := (e.pipe.pop (min (e.pipe.framesIn room) observed)).2 } := by
  have hstocked : observed ≤ e.pipe.available := by
    simpa only [hreader, Reading.Stocked] using h.stocked
  refine ⟨h.sized.pop _, ?_, trivial, ?_, ?_⟩
  · cases hwriter : e.writer with
    | pushing data frames =>
      obtain ⟨hdata, hroom⟩ : frames ≤ e.pipe.framesIn data.length ∧ frames ≤ e.pipe.vacant := by
        simpa only [hwriter, Writing.Fits] using h.fits
      exact ⟨hdata, Nat.le_trans hroom (Pipe.vacant_le_pop _)⟩
    | _ => trivial
  · rw [bytesIn_append, bytesOut_append, h.moved]
    simp [bytesIn, bytesOut, PipeOutcome.bytesIn, PipeOutcome.bytesOut, Pipe.pop]
  · refine List.forall_mem_append.mpr ⟨h.complete, List.forall_mem_singleton.mpr ?_⟩
    rw [← h.sized.frameSize]
    exact ⟨Pipe.length_pop_of_le_available (Nat.le_trans (Nat.min_le_right _ _) hstocked), rfl⟩

/-- A shutdown touches flags only. -/
theorem close (h : e.Sound capacity frameSize past) (closers : List Closing)
    (isShut drains : Bool) :
    Ends.Sound capacity frameSize past
      { e with
        pipe := { e.pipe with isShut := isShut, drains := drains }
        closers := closers } where
  sized := ⟨h.sized.bounded, h.sized.aligned, h.sized.capacity, h.sized.frameSize⟩
  fits := by
    obtain ⟨pipe, writer, reader, cs⟩ := e
    cases writer <;> exact h.fits
  stocked := by
    obtain ⟨pipe, writer, reader, cs⟩ := e
    cases reader <;> exact h.stocked
  moved := h.moved
  complete := h.complete

/-- Whoever takes their turn. -/
theorem step (h : e.Sound capacity frameSize past) {turn : Turn}
    (hstep : e.step turn = some (e', outcome)) :
    e'.Sound capacity frameSize (past ++ outcome.toList) := by
  cases turn with
  | write data =>
    simp only [Ends.step] at hstep
    split at hstep <;> cases hstep
    exact h.quiet rfl trivial h.stocked (by simp)
  | writer =>
    obtain ⟨⟨w, p, o⟩, hw, heq⟩ := Option.map_eq_some_iff.mp hstep
    cases heq
    rcases Writing.step_cases hw with ⟨rfl, hfits, hquiet⟩ | ⟨data, frames, hwriter, rfl, rfl, rfl⟩
    · exact h.quiet rfl hfits h.stocked hquiet
    · exact h.push hwriter
  | read room =>
    simp only [Ends.step] at hstep
    split at hstep <;> cases hstep
    exact h.quiet rfl h.fits trivial (by simp)
  | reader =>
    obtain ⟨⟨r, p, o⟩, hr, heq⟩ := Option.map_eq_some_iff.mp hstep
    cases heq
    rcases Reading.step_cases hr with
      ⟨rfl, hstocked, hquiet⟩ | ⟨room, observed, hreader, rfl, rfl, rfl⟩
    · exact h.quiet rfl h.fits hstocked hquiet
    · exact h.pop hreader
  | shutdown drain =>
    cases hstep
    exact h.quiet rfl h.fits h.stocked (by simp)
  | closer k =>
    simp only [Ends.step] at hstep
    split at hstep
    · contradiction
    · rename_i c hc
      cases c <;> cases hstep <;> rw [Option.toList_none, List.append_nil]
      · exact h.close _ e.pipe.isShut _
      · exact h.close _ true e.pipe.drains

/-- Whatever turns are taken. -/
theorem play (h : e.Sound capacity frameSize past) {turns : List Turn}
    {later : List PipeOutcome} (hplay : e.play turns = some (e', later)) :
    e'.Sound capacity frameSize (past ++ later) := by
  induction turns generalizing e past later with
  | nil =>
    cases hplay
    rwa [List.append_nil]
  | cons turn rest ih =>
    simp only [Ends.play] at hplay
    split at hplay
    · contradiction
    · rename_i next outcome hstep
      obtain ⟨⟨last, rest'⟩, hrest, heq⟩ := Option.map_eq_some_iff.mp hplay
      cases heq
      rw [← List.append_assoc]
      exact ih (h.step hstep) hrest

end Ends.Sound

end

/-! ### Shut to be drained -/

/-- What a shutdown that is under way has already seen to. -/
def Closing.Drains (p : Pipe) : Closing → Prop
  | storing drain => drain = true
  | sealing => p.drains = true

/-- Every shutdown asks for draining: the drain flag is up before the shutdown flag is. -/
structure Ends.Draining (e : Ends) : Prop where
  shut : e.pipe.isShut = true → e.pipe.drains = true
  closing : ∀ c ∈ e.closers, c.Drains e.pipe
  checking : ∀ room, e.reader = .checking room → e.pipe.drains = true

section

variable {p p' : Pipe} {outcome : Option PipeOutcome} {e e' : Ends} {later : List PipeOutcome}

/-- The writer touches no flag and suppresses no read. -/
theorem Writing.step_flags {w w' : Writing} (h : w.step p = some (w', p', outcome)) :
    p'.isShut = p.isShut ∧ p'.drains = p.drains ∧ ∀ o ∈ outcome, o.isSuppressed = false := by
  cases w with
  | idle => contradiction
  | entering data | measuring data =>
    simp only [step] at h
    split at h <;> cases h <;> simp [PipeOutcome.isSuppressed]
  | pushing data frames =>
    cases h
    simp [PipeOutcome.isSuppressed]

/-- The reader touches no flag, looks at the drain flag only if the pipe is shut, and gives up
only if it is down. -/
theorem Reading.step_flags {r r' : Reading} (h : r.step p = some (r', p', outcome)) :
    p'.isShut = p.isShut ∧ p'.drains = p.drains ∧
      (∀ room, r' = checking room → p.isShut = true) ∧
      ∀ o ∈ outcome, o.isSuppressed = true → ∃ room, r = checking room ∧ p.drains = false := by
  cases r with
  | idle => contradiction
  | entering room | checking room | measuring room =>
    simp only [step] at h
    split at h <;> cases h <;> simp_all [PipeOutcome.isSuppressed]
  | popping room observed =>
    cases h
    simp [PipeOutcome.isSuppressed]

namespace Ends.Draining

theorem fresh (capacity frameSize : Nat) : (Ends.fresh capacity frameSize).Draining where
  shut := by simp [Ends.fresh, Pipe.empty]
  closing := by simp [Ends.fresh]
  checking := by simp [Ends.fresh]

/-- A turn of whoever asks for draining, if for anything. -/
theorem step (h : e.Draining) {turn : Turn} (hturn : turn ≠ .shutdown false)
    (hstep : e.step turn = some (e', outcome)) :
    e'.Draining ∧ ∀ o ∈ outcome, o.isSuppressed = false := by
  cases turn with
  | write data =>
    simp only [Ends.step] at hstep
    split at hstep <;> cases hstep
    exact ⟨⟨h.shut, h.closing, h.checking⟩, by simp⟩
  | writer =>
    obtain ⟨⟨w, p, o⟩, hw, heq⟩ := Option.map_eq_some_iff.mp hstep
    cases heq
    obtain ⟨hshut, hdrains, hopen⟩ := Writing.step_flags hw
    refine ⟨⟨?_, ?_, ?_⟩, hopen⟩
    · simpa only [hshut, hdrains] using h.shut
    · intro c hc
      have hclosing := h.closing c hc
      cases c with
      | storing drain => exact hclosing
      | sealing => exact hdrains.trans hclosing
    · intro room hreader
      exact hdrains.trans (h.checking room hreader)
  | read room =>
    simp only [Ends.step] at hstep
    split at hstep <;> cases hstep
    exact ⟨⟨h.shut, h.closing, by simp⟩, by simp⟩
  | reader =>
    obtain ⟨⟨r, p, o⟩, hr, heq⟩ := Option.map_eq_some_iff.mp hstep
    cases heq
    obtain ⟨hshut, hdrains, hchecking, hsuppressed⟩ := Reading.step_flags hr
    refine ⟨⟨?_, ?_, ?_⟩, ?_⟩
    · simpa only [hshut, hdrains] using h.shut
    · intro c hc
      have hclosing := h.closing c hc
      cases c with
      | storing drain => exact hclosing
      | sealing => exact hdrains.trans hclosing
    · intro room hreader
      exact hdrains.trans (h.shut (hchecking room hreader))
    · intro o ho
      rw [← Bool.not_eq_true]
      intro hsup
      obtain ⟨room, hreader, hdown⟩ := hsuppressed o ho hsup
      have hup := h.checking room hreader
      rw [hdown] at hup
      contradiction
  | shutdown drain =>
    cases hstep
    refine ⟨⟨h.shut, ?_, h.checking⟩, by simp⟩
    refine List.forall_mem_append.mpr ⟨h.closing, List.forall_mem_singleton.mpr ?_⟩
    cases drain with
    | false => exact absurd rfl hturn
    | true => rfl
  | closer k =>
    simp only [Ends.step] at hstep
    split at hstep
    · contradiction
    · rename_i c hc
      have hclosing := h.closing c (List.mem_of_getElem? hc)
      cases c with
      | storing drain =>
        cases hstep
        obtain rfl : drain = true := hclosing
        refine ⟨⟨fun _ => rfl, ?_, fun _ _ => rfl⟩, by simp⟩
        intro c' hc'
        rcases List.mem_or_eq_of_mem_set hc' with hold | rfl
        · cases c' with
          | storing drain => exact h.closing _ hold
          | sealing => rfl
        · rfl
      | sealing =>
        cases hstep
        refine ⟨⟨fun _ => hclosing, ?_, h.checking⟩, by simp⟩
        intro c' hc'
        exact h.closing c' (List.mem_of_mem_eraseIdx hc')

/-- No read is suppressed if every shutdown asks for draining. -/
theorem play (h : e.Draining) {turns : List Turn} (hturns : .shutdown false ∉ turns)
    (hplay : e.play turns = some (e', later)) : ∀ o ∈ later, o.isSuppressed = false := by
  induction turns generalizing e later with
  | nil =>
    cases hplay
    simp
  | cons turn rest ih =>
    obtain ⟨hturn, hrest⟩ := List.ne_and_not_mem_of_not_mem_cons hturns
    simp only [Ends.play] at hplay
    split at hplay
    · contradiction
    · rename_i next outcome hstep
      obtain ⟨⟨last, rest'⟩, hlast, heq⟩ := Option.map_eq_some_iff.mp hplay
      cases heq
      obtain ⟨hnext, hnow⟩ := h.step hturn.symm hstep
      intro o ho
      rcases List.mem_append.mp ho with hfirst | hlater
      · exact hnow o (Option.mem_toList.mp hfirst)
      · exact ih hnext hrest hlast o hlater

end Ends.Draining

end

/-- In whatever order a writer, a reader and any number of shutdowns take their steps: what the
writer decided to push still fits when it pushes and what the reader observed is still there when
it pops, the pipe holds whole frames and never more than its capacity, and what came out is the
beginning of what went in. If every shutdown asks for draining, no read is suppressed: each takes
as many of the frames it observed as it has room for. -/
theorem Ends.play_sound {capacity frameSize : Nat} {turns : List Turn} {e : Ends}
    {outcomes : List PipeOutcome}
    (hplay : (Ends.fresh capacity frameSize).play turns = some (e, outcomes)) :
    e.Sound capacity frameSize outcomes ∧
      bytesOut outcomes <+: bytesIn outcomes ∧
      (.shutdown false ∉ turns → ∀ room observed frames bytes,
        .given room observed frames bytes ∈ outcomes →
          ∃ n, observed = some n ∧ frames = min (room / frameSize) n ∧
            bytes.length = frames * frameSize) := by
  have sound : e.Sound capacity frameSize outcomes := by
    simpa only [List.nil_append] using (Sound.fresh capacity frameSize).play hplay
  refine ⟨sound, ⟨e.pipe.content, sound.moved.symm⟩, ?_⟩
  intro hturns room observed frames bytes hmem
  have hopen := (Draining.fresh capacity frameSize).play hturns hplay _ hmem
  obtain ⟨hbytes, hframes⟩ := sound.complete _ hmem
  cases observed with
  | none => contradiction
  | some n => exact ⟨n, rfl, hframes, hbytes⟩

/-- Both ends move what they decided upon some steps before; a write that came in while the pipe
was open pushes after it was shut to be drained, and the reader still gets a frame of it. -/
theorem Ends.sound_with_stale_looks :
    (Ends.fresh 2 2).play
        [.write [1, 2, 3, 4, 5], .writer, .writer, .read 5, .reader, .writer, .reader,
          .write [6, 7, 8, 9], .shutdown true, .closer 0, .reader, .writer, .writer, .closer 0,
          .writer, .read 2, .reader, .reader, .reader, .reader] =
      some (⟨⟨2, 2, [8, 9], true, true⟩, .idle, .idle, []⟩,
        [.written [1, 2, 3, 4, 5] 2 [1, 2, 3, 4], .given 5 (some 2) 2 [1, 2, 3, 4],
          .written [6, 7, 8, 9] 2 [6, 7, 8, 9], .given 2 (some 2) 1 [6, 7]]) ∧
      Ends.Sound 2 2
        [.written [1, 2, 3, 4, 5] 2 [1, 2, 3, 4], .given 5 (some 2) 2 [1, 2, 3, 4],
          .written [6, 7, 8, 9] 2 [6, 7, 8, 9], .given 2 (some 2) 1 [6, 7]]
        ⟨⟨2, 2, [8, 9], true, true⟩, .idle, .idle, []⟩ := by
  have hplay : (Ends.fresh 2 2).play
      [.write [1, 2, 3, 4, 5], .writer, .writer, .read 5, .reader, .writer, .reader,
        .write [6, 7, 8, 9], .shutdown true, .closer 0, .reader, .writer, .writer, .closer 0,
        .writer, .read 2, .reader, .reader, .reader, .reader] =
      some (⟨⟨2, 2, [8, 9], true, true⟩, .idle, .idle, []⟩,
        [.written [1, 2, 3, 4, 5] 2 [1, 2, 3, 4], .given 5 (some 2) 2 [1, 2, 3, 4],
          .written [6, 7, 8, 9] 2 [6, 7, 8, 9], .given 2 (some 2) 1 [6, 7]]) := by
    decide
  exact ⟨hplay, (Ends.play_sound hplay).1⟩

end AudioRelay
