import AudioRelay.Proofs.BlockingWrite

/-!
# How a blocking write ends

Once there is room for a frame or the pipe is shut, a blocking write has no reason to wait any
more. Then each of its steps brings its end nearer and nobody holds it up: if it sleeps, somebody
is about to wake it. Its steps that nobody interrupts are the looks of an offer.
-/

namespace AudioRelay

/-- How many steps a blocking write takes at most, once it has no reason to wait. A shut pipe ends
it sooner. -/
def BlockingWrite.left (isShut : Bool) : BlockingWrite → Nat
  | done _ => 0
  | telling _ => 1
  | trying .idle => 0
  | trying (.pushing _ _) => 2
  | trying (.measuring _) => if isShut then 4 else 5
  | trying (.entering _) => if isShut then 4 else 6
  | entering => if isShut then 1 else 7
  | waking => if isShut then 2 else 8
  | sleeping => if isShut then 3 else 9
  | measuring => if isShut then 4 else 8
  | checking => if isShut then 2 else 9
  | locking => if isShut then 3 else 10

/-- Whether the answer of a blocking write is settled. -/
def BlockingWrite.isSettled : BlockingWrite → Bool
  | telling _ => true
  | done _ => true
  | _ => false

namespace BlockingEnds

/-- A blocking write has no reason to wait, or no need. -/
def Bound (e : BlockingEnds) : Prop :=
  (0 < e.pipe.vacant ∨ e.pipe.isShut = true) ∨ e.writer.isSettled = true

/-- How many steps the writer takes at most, if it is bound to end. -/
def left (e : BlockingEnds) : Nat := e.writer.left e.pipe.isShut

end BlockingEnds

section

variable {capacity frameSize : Nat} {start data put : List UInt8} {past : List PipeOutcome}
  {p p' : Pipe} {w w' : BlockingWrite} {e e' : BlockingEnds} {outcome : Option PipeOutcome}

theorem BlockingWrite.left_le (isShut : Bool) (w : BlockingWrite) : w.left isShut ≤ 10 := by
  cases isShut <;> cases w with
  | trying w => cases w <;> simp [left]
  | _ => simp [left]

/-- Neither a shutdown nor a wake-up holds a blocking write up. -/
theorem BlockingWrite.left_mono {isShut isShut' : Bool} (h : isShut = true → isShut' = true)
    (w : BlockingWrite) :
    w.left isShut' ≤ w.left isShut ∧ w.woken.left isShut' ≤ w.left isShut := by
  cases isShut <;> cases isShut' <;> cases w with
  | trying w => cases w <;> simp_all [left, woken]
  | _ => simp_all [left, woken]

/-- Others leave a writer that is bound to end so, and do not hold it up. -/
theorem BlockingEnds.Bound.other (h : e.Bound)
    (hw : e'.writer = e.writer ∨ e'.writer = e.writer.woken)
    (hroom : e.pipe.vacant ≤ e'.pipe.vacant)
    (hshut : e.pipe.isShut = true → e'.pipe.isShut = true) : e'.Bound ∧ e'.left ≤ e.left := by
  obtain ⟨hstay, hwake⟩ := e.writer.left_mono hshut
  have hsettled : e.writer.woken.isSettled = e.writer.isSettled := by
    cases e.writer <;> rfl
  constructor
  · refine h.imp (fun free => free.imp (fun hvacant => hvacant.trans_le hroom) hshut) ?_
    rcases hw with hw | hw
    · exact fun settled => hw ▸ settled
    · exact fun settled => hw ▸ hsettled.trans settled
  · unfold BlockingEnds.left
    rcases hw with hw | hw
    · exact hw ▸ hstay
    · exact hw ▸ hwake

namespace BlockingEnds.Sound

/-- A step of the write inside one that has no reason to wait brings its end nearer. -/
theorem nearer_trying {w : Writing} {w' : Writing} (hof : w.Of data p)
    (free : 0 < p.vacant ∨ p.isShut = true) (hs : w.step p = some (w', p', outcome)) :
    ((0 < p'.vacant ∨ p'.isShut = true) ∨ BlockingWrite.isSettled
        (outcome.elim (.trying w') fun o => .afterWrite p data o.framesIn) = true) ∧
      BlockingWrite.left p'.isShut
        (outcome.elim (.trying w') fun o => .afterWrite p data o.framesIn) <
          BlockingWrite.left p.isShut (.trying w) := by
  cases w with
  | idle => contradiction
  | entering d =>
    simp only [Writing.step] at hs
    split at hs
    · rename_i hshut
      cases hs
      refine ⟨.inl free, ?_⟩
      simp only [Option.elim_some, PipeOutcome.framesIn, BlockingWrite.afterWrite, Nat.lt_irrefl,
        if_false, hshut]
      split <;> simp [BlockingWrite.left]
    · rename_i hopen
      cases hs
      refine ⟨.inl free, ?_⟩
      simp [BlockingWrite.left, hopen]
  | measuring d =>
    obtain rfl : d = data := hof
    simp only [Writing.step] at hs
    split at hs
    · rename_i hnone
      cases hs
      refine ⟨.inl free, ?_⟩
      simp only [Option.elim_some, PipeOutcome.framesIn, BlockingWrite.afterWrite, Nat.lt_irrefl,
        if_false]
      split
      · simp only [BlockingWrite.left]
        split <;> omega
      · -- Frames of the data would have been taken if there was room for one.
        rename_i hlong
        have hshut : p.isShut = true := by
          refine free.resolve_left fun hroom => ?_
          have hsize : 0 < p.frameSize := by
            by_contra hzero
            rw [Pipe.vacant, Nat.eq_zero_of_not_pos hzero, Nat.div_zero] at hroom
            exact Nat.lt_irrefl _ hroom
          have hthere : 0 < p.framesIn d.length := Nat.div_pos (Nat.le_of_not_lt hlong) hsize
          omega
        simp [BlockingWrite.left, hshut]
    · cases hs
      refine ⟨.inl free, ?_⟩
      simp only [Option.elim_none, BlockingWrite.left]
      split <;> omega
  | pushing d n =>
    obtain ⟨-, hpos, -, -⟩ := hof
    cases hs
    have hafter : BlockingWrite.afterWrite p data n = .telling n := if_pos hpos
    rw [Option.elim_some, PipeOutcome.framesIn, hafter]
    exact ⟨.inr rfl, Nat.lt_succ_self 1⟩

/-- A step of a writer that is bound to end brings its end nearer. -/
theorem nearer (h : e.Sound capacity frameSize start data past) (bound : e.Bound)
    (hs : e.writer.step e.pipe data = some (w', p', outcome)) :
    BlockingEnds.Bound { e with writer := w', pipe := p' } ∧ w'.left p'.isShut < e.left := by
  unfold BlockingEnds.left
  have free (hopen : e.writer.isSettled = false) : 0 < e.pipe.vacant ∨ e.pipe.isShut = true :=
    bound.resolve_right (Bool.not_eq_true _ ▸ hopen)
  cases hwriter : e.writer with
  | sleeping | done =>
    rw [hwriter] at hs
    contradiction
  | telling n =>
    rw [hwriter] at hs
    cases hs
    exact ⟨.inr rfl, Nat.one_pos⟩
  | trying w =>
    have hput := h.put
    rw [hwriter] at hs hput free
    obtain ⟨⟨w₁, p₁, o⟩, hw, heq⟩ := Option.map_eq_some_iff.mp hs
    cases heq
    exact nearer_trying hput.2 (free rfl) hw
  | entering | locking | checking | waking =>
    rw [hwriter] at hs free
    cases hs
    refine ⟨.inl (free rfl), ?_⟩
    cases e.pipe.isShut <;> simp [BlockingWrite.left]
  | measuring =>
    rw [hwriter] at hs free
    cases hs
    refine ⟨.inl (free rfl), ?_⟩
    split
    · -- It sleeps though the pipe was shut since it looked.
      rename_i hfull
      have hshut : e.pipe.isShut = true := by
        refine (free rfl).resolve_left fun hroom => ?_
        rw [Pipe.vacant, Nat.div_eq_of_lt hfull] at hroom
        exact Nat.lt_irrefl _ hroom
      simp [BlockingWrite.left, hshut]
    · cases e.pipe.isShut <;> simp [BlockingWrite.left]

/-- Whoever takes a turn, a writer that is bound to end stays so, and is not held up. -/
theorem nearer_step (h : e.Sound capacity frameSize start data past) (bound : e.Bound)
    {turn : BlockingTurn} (hs : e.step data turn = some (e', outcome)) :
    e'.Bound ∧ (if turn = .writer then 1 else 0) + e'.left ≤ e.left := by
  have other (hw : e'.writer = e.writer ∨ e'.writer = e.writer.woken)
      (hroom : e.pipe.vacant ≤ e'.pipe.vacant)
      (hshut : e.pipe.isShut = true → e'.pipe.isShut = true) (hne : turn ≠ .writer) :
      e'.Bound ∧ (if turn = .writer then 1 else 0) + e'.left ≤ e.left := by
    rw [if_neg hne, Nat.zero_add]
    exact bound.other hw hroom hshut
  cases taken_of_step hs with
  | wrote hw =>
    obtain ⟨bound', hlt⟩ := h.nearer bound hw
    refine ⟨bound', ?_⟩
    rw [if_pos rfl, Nat.add_comm]
    exact hlt
  | woke hwriter => exact other (.inr (by rw [hwriter]; rfl)) (le_refl _) id nofun
  | began | joined => exact other (.inl rfl) (le_refl _) id nofun
  | roused | released => exact other (.inr rfl) (le_refl _) id nofun
  | read _ hr =>
    have hshut := (Reading.step_flags hr).1
    rcases Reading.step_cases hr with ⟨rfl, -⟩ | ⟨room, observed, -, -, rfl, -⟩
    · exact other (.inl rfl) (le_refl _) id nofun
    · exact other (.inl rfl) (Pipe.vacant_le_pop _) id nofun
  | @closed k c hc =>
    cases c with
    | storing drain => exact other (.inl rfl) (le_refl _) id nofun
    | sealing => exact other (.inl rfl) (le_refl _) (fun _ => rfl) nofun

/-- A writer that is bound to end takes only so many more steps. -/
theorem nearer_play (h : e.Sound capacity frameSize start data past) (bound : e.Bound)
    {turns : List BlockingTurn} {later : List PipeOutcome}
    (hplay : e.play data turns = some (e', later)) :
    e'.Bound ∧ turns.count .writer + e'.left ≤ e.left := by
  induction turns generalizing e past later with
  | nil =>
    cases hplay
    exact ⟨bound, Nat.le_of_eq (Nat.zero_add _)⟩
  | cons turn rest ih =>
    obtain ⟨next, outcome, more, hstep, hrest, rfl⟩ := BlockingEnds.play_cons hplay
    obtain ⟨bound', hnow⟩ := h.nearer_step bound hstep
    obtain ⟨bound'', hlater⟩ := ih (h.step hstep) bound' hrest
    refine ⟨bound'', ?_⟩
    simp only [List.count_cons, beq_iff_eq] at hlater ⊢
    omega

end BlockingEnds.Sound

/-- Somebody other than the writer is about to wake it, and can. -/
def BlockingEnds.WakesUp (data : List UInt8) (e : BlockingEnds) : Prop :=
  ∃ turn e', (turn = .reader ∨ ∃ k, turn = .closer k) ∧ e.step data turn = some (e', none) ∧
    e'.writer = .waking

/-- The writer can take its next step. -/
def BlockingEnds.GoesOn (data : List UInt8) (e : BlockingEnds) : Prop :=
  ∃ e' outcome, e.step data .writer = some (e', outcome)

namespace BlockingEnds.Sound

/-- A writer sleeps on only while the pipe is full and open. -/
theorem waits (h : e.Sound capacity frameSize start data past) (hwriter : e.writer = .sleeping)
    (free : 0 < e.pipe.vacant ∨ e.pipe.isShut = true) : e.WakesUp data := by
  have halert := h.alert
  rw [Alert, hwriter] at halert
  obtain ⟨hshut, hroom⟩ := halert
  rcases free with hvacant | hclosed
  · refine ⟨.reader, { e with writer := .waking, owes := false }, .inl rfl, ?_, rfl⟩
    simp [BlockingEnds.step, hroom hvacant, hwriter, BlockingWrite.hasLock, BlockingWrite.woken]
  · obtain ⟨k, hk⟩ := List.mem_iff_getElem?.mp (hshut hclosed)
    refine ⟨.closer k, { e with writer := .waking, closers := e.closers.eraseIdx k },
      .inr ⟨k, rfl⟩, ?_, rfl⟩
    simp [BlockingEnds.step, hk, hwriter, BlockingWrite.hasLock, BlockingWrite.woken]

/-- A writer that neither sleeps nor is done can take its next step. -/
theorem goesOn (h : e.Sound capacity frameSize start data past) (awake : e.writer ≠ .sleeping)
    (busy : ∀ result, e.writer ≠ .done result) : e.GoesOn data := by
  have hput := h.put
  have step (hs : (e.writer.step e.pipe data).isSome = true) : e.GoesOn data := by
    obtain ⟨⟨w, p, o⟩, hw⟩ := Option.isSome_iff_exists.mp hs
    refine ⟨{ e with writer := w, pipe := p }, o, ?_⟩
    rw [BlockingEnds.step, hw]
    rfl
  cases hwriter : e.writer with
  | sleeping => contradiction
  | done result => exact absurd hwriter (busy result)
  | trying w =>
    rw [hwriter] at hput step
    apply step
    rw [BlockingWrite.step, Option.isSome_map]
    cases w with
    | idle => exact hput.2.elim
    | entering d | measuring d =>
      simp only [Writing.step]
      split <;> rfl
    | pushing d n => rfl
  | _ =>
    rw [hwriter] at step
    exact step rfl

end BlockingEnds.Sound

/-! ### What a blocking write promises -/

/-- What a blocking write of `data` keeps to, when `past` came of writes and reads since `pipe` was
what it found. -/
structure BlockingEnds.Insists (pipe : Pipe) (data : List UInt8) (past : List PipeOutcome)
    (e : BlockingEnds) : Prop where
  /-- Nothing else goes in, and what comes out is what was there or went in, in its order. -/
  moved : pipe.content ++ bytesIn past = bytesOut past ++ e.pipe.content
  sized : e.pipe.Sized pipe.capacity pipe.frameSize
  /-- It takes whole frames from the front of the data, at least one if there is one. -/
  accepted : ∀ n, e.writer = .done (.ok n) → (0 < n ↔ pipe.frameSize ≤ data.length) ∧
    n ≤ data.length / pipe.frameSize ∧ bytesIn past = data.take (n * pipe.frameSize)
  /-- It fails only because the pipe is shut, and then has put nothing in. -/
  refused : ∀ fault, e.writer = .done (.error fault) →
    fault = .shutdown ∧ e.pipe.isShut = true ∧ bytesIn past = []
  /-- It sleeps on only while the pipe is full and open. -/
  waits : e.writer = .sleeping → e.pipe.vacant = 0 ∧ e.pipe.isShut = false ∨ e.WakesUp data
  /-- Nothing but its sleep stops it. -/
  goesOn : e.writer ≠ .sleeping → (∀ result, e.writer ≠ .done result) → e.GoesOn data
  /-- Once there is room or the pipe is shut, it is done after ten of its steps at most, and
  until then takes the next or is about to be woken. -/
  ends : 0 < e.pipe.vacant ∨ e.pipe.isShut = true → ∀ turns e' later,
    e.play data turns = some (e', later) → turns.count .writer ≤ 10 ∧
      ((∃ result, e'.writer = .done result) ∨ e'.GoesOn data ∨ e'.WakesUp data)

namespace BlockingEnds.Sound

/-- A writer that is bound to end is done, can take its next step or is about to be woken. -/
theorem moves (h : e.Sound capacity frameSize start data past) (bound : e.Bound) :
    (∃ result, e.writer = .done result) ∨ e.GoesOn data ∨ e.WakesUp data := by
  by_cases asleep : e.writer = .sleeping
  · have free : 0 < e.pipe.vacant ∨ e.pipe.isShut = true := by
      refine bound.resolve_right fun settled => ?_
      rw [asleep] at settled
      contradiction
    exact .inr (.inr (h.waits asleep free))
  by_cases busy : ∃ result, e.writer = .done result
  · exact .inl busy
  · exact .inr (.inl (h.goesOn asleep (not_exists.mp busy)))

/-- The promises of a blocking write hold at every moment. -/
theorem insists {pipe : Pipe} (h : e.Sound pipe.capacity pipe.frameSize pipe.content data past) :
    e.Insists pipe data past := by
  have hput := h.put
  have hsize : e.pipe.frameSize = pipe.frameSize := h.sized.frameSize
  refine ⟨h.moved, h.sized, ?_, ?_, ?_, h.goesOn, ?_⟩
  · intro n hdone
    rw [hdone] at hput
    obtain ⟨hbytes, hframes, hzero⟩ := hput
    rw [Pipe.framesIn, hsize] at hframes
    rw [hsize] at hbytes hzero
    refine ⟨⟨fun hpos => ?_, fun hframe => ?_⟩, hframes, hbytes⟩
    · by_contra hshort
      rw [Nat.div_eq_of_lt (Nat.lt_of_not_le hshort)] at hframes
      omega
    · exact Nat.pos_of_ne_zero fun hn => absurd (hzero hn) (Nat.not_lt.mpr hframe)
  · intro fault hdone
    rw [hdone] at hput
    exact ⟨hput.2.1, hput.2.2, hput.1⟩
  · intro asleep
    by_cases free : 0 < e.pipe.vacant ∨ e.pipe.isShut = true
    · exact .inr (h.waits asleep free)
    · obtain ⟨hfull, hopen⟩ := not_or.mp free
      exact .inl ⟨Nat.eq_zero_of_not_pos hfull, Bool.not_eq_true _ ▸ hopen⟩
  · intro free turns e' later hplay
    obtain ⟨bound', hcount⟩ := h.nearer_play (.inl free) hplay
    have hleft : e.left ≤ 10 := BlockingWrite.left_le _ _
    exact ⟨by omega, (h.play hplay).moves bound'⟩

/-- A blocking write begins, with a reader that may be in the middle of a read. -/
theorem begin {reader : Reading} (hsized : p.Sized p.capacity p.frameSize)
    (hstocked : reader.Stocked p) (data : List UInt8) (owes : Bool)
    (closers : List (Option Closing)) :
    (BlockingEnds.begin p reader owes closers).Sound p.capacity p.frameSize p.content data [] :=
  ⟨hsized, hstocked, List.append_nil _, rfl, trivial⟩

end BlockingEnds.Sound

/-! ### The looks of an offer -/

/-- Where a blocking write of `data` may stand when an offer got so far. One that found the pipe
shut just before it would have slept does not sleep. -/
def Offer.Progress.Stands (data : List UInt8) : Offer.Progress → BlockingWrite → Prop
  | going .entering, w => w = .entering
  | going .writing, w => w = .trying (.entering data)
  | going .waiting, w => w = .sleeping ∨ w = .entering
  | accepted frames, w => w = .done (.ok frames)
  | refused fault, w => w = .done (.error fault)

/-- The write that an offer makes in one look, when nobody interrupts it. -/
theorem BlockingEnds.write_turns (hsize : 0 < p.frameSize) (data : List UInt8) (reader : Reading)
    (owes : Bool) (closers : List (Option Closing)) :
    ∃ n w' outcomes,
      BlockingEnds.play data ⟨p, .trying (.entering data), reader, owes, closers⟩
        (List.replicate n .writer) =
          some (⟨(Offer.writing.step p data).2, w', reader, owes, closers⟩, outcomes) ∧
      (Offer.writing.step p data).1.Stands data w' := by
  obtain ⟨n, hn⟩ : ∃ n, n = min (p.framesIn data.length) p.vacant := ⟨_, rfl⟩
  by_cases shut : p.isShut = true
  · by_cases short : data.length < p.frameSize
    · refine ⟨1, .done (.ok 0), [.written data 0 []], ?_⟩
      simp [play, step, BlockingWrite.step, Writing.step, BlockingWrite.afterWrite,
        PipeOutcome.framesIn, Offer.step, Offer.Progress.Stands, Pipe.write, shut, short]
    · -- It looks once more and finds the pipe shut.
      refine ⟨3, .entering, [.written data 0 []], ?_⟩
      simp [play, step, BlockingWrite.step, Writing.step, BlockingWrite.afterWrite,
        PipeOutcome.framesIn, Offer.step, Offer.Progress.Stands, Pipe.write, List.replicate, shut,
        short]
  obtain hnone | hpos := Nat.eq_zero_or_pos n
  · have hzero : min (p.framesIn data.length) p.vacant = 0 := hn ▸ hnone
    by_cases short : data.length < p.frameSize
    · refine ⟨2, .done (.ok 0), [.written data 0 []], ?_⟩
      simp [play, step, BlockingWrite.step, Writing.step, BlockingWrite.afterWrite,
        PipeOutcome.framesIn, Offer.step, Offer.Progress.Stands, Pipe.write, Pipe.push_zero,
        List.replicate, shut, hzero, short]
    · -- It looks once more and finds the pipe open and full.
      have hthere : 0 < p.framesIn data.length := Nat.div_pos (Nat.le_of_not_lt short) hsize
      have hfull : p.vacantBytes < p.frameSize := by
        by_contra hroom
        have hvacant : 0 < p.vacant := Nat.div_pos (Nat.le_of_not_lt hroom) hsize
        omega
      refine ⟨5, .sleeping, [.written data 0 []], ?_⟩
      simp [play, step, BlockingWrite.step, Writing.step, BlockingWrite.afterWrite,
        PipeOutcome.framesIn, Offer.step, Offer.Progress.Stands, Pipe.write, Pipe.push_zero,
        List.replicate, shut, hzero, short, hfull]
  · have hfits : n ≤ p.vacant := hn ▸ Nat.min_le_right _ _
    refine ⟨4, .done (.ok n), [.written data n (data.take (n * p.frameSize))], ?_⟩
    simp [play, step, BlockingWrite.step, Writing.step, BlockingWrite.afterWrite,
      PipeOutcome.framesIn, Offer.step, Offer.Progress.Stands, Pipe.write, List.replicate, shut,
      ← hn, hpos, hpos.ne', Pipe.pushSlice_of_fits data hfits]

/-- A look of an offer is some turns of a blocking write that stands at `w`, while nobody else
takes theirs. -/
def Offer.IsPlayed (offer : Offer) (p : Pipe) (data : List UInt8) (w : BlockingWrite) : Prop :=
  ∀ reader owes closers, ∃ turns w' outcomes, (∀ turn ∈ turns, turn = .writer ∨ turn = .wake) ∧
    BlockingEnds.play data ⟨p, w, reader, owes, closers⟩ turns =
      some (⟨(offer.step p data).2, w', reader, owes, closers⟩, outcomes) ∧
    (offer.step p data).1.Stands data w'

/-- Every look of an offer is turns of a blocking write. -/
theorem Offer.isPlayed (hsize : 0 < p.frameSize) {offer : Offer}
    (h : (Progress.going offer).Stands data w) : offer.IsPlayed p data w := by
  intro reader owes closers
  cases offer with
  | entering =>
    obtain rfl : w = .entering := h
    refine ⟨[.writer], if p.isShut then .done (.error .shutdown) else .trying (.entering data), [],
      by simp, ?_⟩
    cases hshut : p.isShut <;>
      simp [BlockingEnds.play, BlockingEnds.step, BlockingWrite.step, step, Progress.Stands, hshut]
  | writing =>
    obtain rfl : w = .trying (.entering data) := h
    obtain ⟨n, w', outcomes, hplay, hstands⟩ :=
      BlockingEnds.write_turns hsize data reader owes closers
    exact ⟨_, w', outcomes, fun turn ht => .inl (List.eq_of_mem_replicate ht), hplay, hstands⟩
  | waiting =>
    rcases h with rfl | rfl
    · exact ⟨[.wake, .writer], .entering, [], by simp, rfl, rfl⟩
    · exact ⟨[], .entering, [], by simp, rfl, rfl⟩

end

end AudioRelay
