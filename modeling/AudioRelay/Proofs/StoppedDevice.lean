import AudioRelay.Device.Stub
import AudioRelay.Proofs.DeviceRetry

/-!
# Stopped devices

A device that was stopped refuses every transfer that comes afterwards, moves no byte for it and
counts no frame, whatever else threads do; a transfer with retries is attempted once. There is one
exception: a recording device whose reads are made to fail tells a read of that and not of the
stop, so a read with retries goes on until the switch is off or the policy is exhausted.
-/

namespace AudioRelay

/-- A run whose first attempt is not worth another makes no other and does not pause. -/
theorem Retry.run_noting_once {σ α : Type} {operation : σ → σ × Outcome α}
    {sleep : Duration → σ → σ} (policy : RetryPolicy) {s t : σ} {outcome : Outcome α}
    (hfirst : operation s = (t, outcome)) (hsettled : outcome.isTransient = false) :
    run policy (noting operation) (pausing sleep) (s, []) = ((t, [.attempt]), outcome) := by
  have htrial : trial operation (policy.rest sleep) s 1 = (t, outcome) := hfirst
  have last : policy.IsLast (fun k => (trial operation (policy.rest sleep) s k).2) 1 := by
    refine ⟨⟨Nat.le_refl 1, .inl ?_⟩, fun k hk => hk.1⟩
    simpa only [htrial] using hsettled
  rw [run_noting last, run_eq_trial last, htrial]
  rfl

/-! ### A recording device -/

namespace Mock

/-- What a stopped device tells a read that arrives. -/
def refusal (failsReads : Bool) : DeviceError :=
  if failsReads then .transient "mock read failure" else .stopped

/-- The setting of the switch that makes reads fail, if an action changes it. -/
def Touch.failReads? : Touch → Option Bool
  | .failReads on => some on
  | _ => none

/-- The setting of the counter of transferred frames, if an action changes it. -/
def Touch.reset? : Touch → Option Int
  | .reset frames => some frames
  | _ => none

/-- Whether reads are made to fail after some actions. -/
def failsAfter (on : Bool) (touches : List Touch) : Bool :=
  touches.foldl (fun on t => t.failReads?.getD on) on

/-- Reads are made to fail if they were before or if someone sees to it. -/
theorem of_failsAfter {on : Bool} {touches : List Touch} (h : failsAfter on touches = true) :
    on = true ∨ .failReads true ∈ touches := by
  induction touches generalizing on with
  | nil => exact .inl h
  | cons t rest ih =>
    rcases ih h with hon | hlater
    · cases t with
      | failReads setting =>
        obtain rfl : setting = true := hon
        exact .inr List.mem_cons_self
      | _ => exact .inl hon
    · exact .inr (List.mem_cons_of_mem t hlater)

variable {m : Mock}

theorem failReads_touch (m : Mock) (t : Touch) :
    (m.touch t).failReads = t.failReads?.getD m.failReads := by
  cases t <;> rfl

theorem transferred_touch (m : Mock) (t : Touch) :
    (m.touch t).transferred = t.reset?.getD m.transferred := by
  cases t <;> rfl

/-- No action starts a stopped device again. -/
theorem isStopped_touch (h : m.isStopped = true) (t : Touch) : (m.touch t).isStopped = true := by
  cases t with
  | stop => rfl
  | _ => exact h

theorem isStopped_foldl_touch (h : m.isStopped = true) (touches : List Touch) :
    (touches.foldl touch m).isStopped = true := by
  induction touches generalizing m with
  | nil => exact h
  | cons t rest ih => exact ih (isStopped_touch h t)

theorem failReads_foldl_touch (m : Mock) (touches : List Touch) :
    (touches.foldl touch m).failReads = failsAfter m.failReads touches := by
  induction touches generalizing m with
  | nil => rfl
  | cons t rest ih =>
    rw [List.foldl_cons, ih, failReads_touch]
    rfl

/-- It makes no difference to the count of reads when others act. -/
theorem arrived_foldl_touch (m : Mock) (touches : List Touch) :
    touches.foldl touch m.arrived = (touches.foldl touch m).arrived := by
  induction touches generalizing m with
  | nil => rfl
  | cons t rest ih =>
    have hswap : m.arrived.touch t = (m.touch t).arrived := by cases t <;> rfl
    rw [List.foldl_cons, List.foldl_cons, hswap, ih]

/-- A stopped device refuses a write. -/
theorem write_of_stopped (h : m.isStopped = true) (data : List UInt8) :
    m.write data = ({ m with writes := m.writes + 1 }, .failed .stopped) := by
  rw [write]
  exact if_pos h

/-- Nobody waits in a stopped device. -/
theorem isWaiting_of_stopped (h : m.isStopped = true) (length : Nat) :
    m.isWaiting length = false := by
  simp [isWaiting, h]

theorem finishRead_of_stopped (h : m.isStopped = true) (length : Nat) :
    m.finishRead length = (m, .failed .stopped) := if_pos h

/-- A read that ends in a stopped device takes nothing. -/
theorem Finishes.eq_of_stopped {m' : Mock} {length : Nat} {outcome : Outcome (List UInt8)}
    (hm : m.Finishes length m' outcome) (h : m.isStopped = true) :
    m' = m ∧ outcome = .failed .stopped := by
  cases hm with
  | stopped => exact ⟨rfl, rfl⟩
  | served hrunning =>
    rw [h] at hrunning
    contradiction

theorem Writes.eq_of_stopped {m' : Mock} {data : List UInt8} {outcome : Outcome Unit}
    (hm : m.Writes data m' outcome) (h : m.isStopped = true) :
    m' = { m with writes := m.writes + 1 } ∧ outcome = .failed .stopped := by
  cases hm with
  | stopped => exact ⟨rfl, rfl⟩
  | failing hrunning | taken hrunning =>
    rw [h] at hrunning
    contradiction

/-- A stopped device refuses a read, whatever others do meanwhile. -/
theorem readDuring_of_stopped (h : m.isStopped = true) (length : Nat)
    (others : List Interruption) :
    m.readDuring length others =
      ((others.foldl interrupt m).arrived, some (.failed (refusal m.failReads))) := by
  have hready := isWaiting_of_stopped (m := m.arrived) h length
  have hfinish := finishRead_of_stopped (m := m.arrived) h length
  rw [foldl_interrupt, ← arrived_foldl_touch, ← foldl_interrupt, readDuring, beginRead_eq, refusal]
  cases m.failReads with
  | true => rfl
  | false => simp [finishDuring_of_ready hready, hfinish]

end Mock

/-- A refused transfer: nothing was put into the buffer of a read, and the device said that it was
stopped, unless reads may have been made to fail. -/
def Notice.IsRefusal (mayFail : Prop) : Notice → Prop
  | .pushed _ => True
  | .read buffer outcome filled =>
    filled = buffer ∧ (outcome = .failed .stopped ∨
      mayFail ∧ outcome = .failed (.transient "mock read failure"))
  | .wrote _ outcome => outcome = .failed .stopped

/-- The more may be said of a refusal, the less it says. -/
theorem Notice.IsRefusal.imp {mayFail mayFail' : Prop} (himp : mayFail → mayFail')
    {notice : Notice} (h : notice.IsRefusal mayFail) : notice.IsRefusal mayFail' := by
  cases notice with
  | pushed => trivial
  | read buffer outcome filled => exact ⟨h.1, h.2.imp_right fun hfails => ⟨himp hfails.1, hfails.2⟩⟩
  | wrote => exact h

namespace SharedMock

variable {s s' s'' : SharedMock} {turn : Turn} {turns rest : List Turn} {notice : Option Notice}
  {seen later : List Notice}

/-- The device was stopped, and whoever waits in it was woken. -/
structure Stopped (s : SharedMock) : Prop where
  isStopped : s.device.isStopped = true
  woken : ∀ r ∈ s.waiting, r.isWoken = true

/-- What a device does that refuses every transfer: a read that arrives is told why and does not
wait, one that waited ends as soon as it looks again, and of none is anything left but the count. -/
structure Refuses (s : SharedMock) : Prop where
  read : ∀ buffer, s.step (.read buffer) =
    some ({ s with device := s.device.arrived },
      some (.read buffer (.failed (Mock.refusal s.device.failReads)) buffer))
  look : ∀ k (hk : k < s.waiting.length), s.step (.look k) =
    some ({ s with waiting := s.waiting.eraseIdx k },
      some (.read s.waiting[k].buffer (.failed .stopped) s.waiting[k].buffer))
  write : ∀ data, s.step (.write data) =
    some ({ s with device := { s.device with writes := s.device.writes + 1 } },
      some (.wrote data (.failed .stopped)))

theorem Stopped.refuses (h : s.Stopped) : s.Refuses where
  read buffer := by
    have hready := Mock.isWaiting_of_stopped (m := s.device.arrived) h.isStopped buffer.length
    have hfinish := Mock.finishRead_of_stopped (m := s.device.arrived) h.isStopped buffer.length
    rw [step, Mock.beginRead_eq, Mock.refusal]
    cases s.device.failReads with
    | true => rfl
    | false => simp [hready, hfinish, Notice.ofRead, Outcome.fill]
  look k hk := by
    have hready := Mock.isWaiting_of_stopped h.isStopped s.waiting[k].buffer.length
    have hfinish := Mock.finishRead_of_stopped h.isStopped s.waiting[k].buffer.length
    have hr : s.waiting[k]? = some ⟨s.waiting[k].buffer, true⟩ := by
      rw [List.getElem?_eq_getElem hk, ← h.woken _ (List.getElem_mem hk)]
    simp [step, hr, hready, hfinish, Notice.ofRead, Outcome.fill]
  write data := by
    simp only [step, Mock.write_of_stopped h.isStopped]

/-- What turns come to that are taken after a stop: what is pushed is queued and counters and
switches are as they are set, but no byte and no frame is moved by a transfer. -/
structure Frozen (s : SharedMock) (turns : List Turn) (seen : List Notice) (s' : SharedMock) :
    Prop where
  stopped : s'.Stopped
  written : s'.device.written = s.device.written
  capture : s'.device.capture = s.device.capture ++ seen.flatMap Notice.pushedBytes
  transferred : s'.device.transferred =
    (turns.filterMap Turn.touch?).foldl (fun frames t => t.reset?.getD frames) s.device.transferred
  failReads : s'.device.failReads =
    Mock.failsAfter s.device.failReads (turns.filterMap Turn.touch?)
  refused : ∀ notice ∈ seen,
    notice.IsRefusal (s.device.failReads = true ∨ Turn.touch (.failReads true) ∈ turns)

/-- A turn that only counts attempts, and shows a refusal or nothing. -/
theorem Frozen.counted (h : s.Stopped) {reads writes : Nat} {waiting : List Reader}
    (hwoken : ∀ r ∈ waiting, r.isWoken = true) (hturn : turn.touch? = none)
    (hpushed : notice.toList.flatMap Notice.pushedBytes = [])
    (hrefused : ∀ r ∈ notice, r.IsRefusal (s.device.failReads = true)) :
    s.Frozen [turn] notice.toList ⟨{ s.device with reads, writes }, waiting⟩ := by
  have htouches : [turn].filterMap Turn.touch? = [] := by simp [hturn]
  constructor
  case stopped => exact ⟨h.isStopped, hwoken⟩
  case written => rfl
  case capture => rw [hpushed, List.append_nil]
  case transferred => rw [htouches, List.foldl_nil]
  case failReads => rw [htouches, Mock.failsAfter, List.foldl_nil]
  case refused =>
    intro r hr
    exact (hrefused r (Option.mem_toList.mp hr)).imp .inl

/-- After a stop every turn leaves the device as it is said to. -/
theorem Taken.frozen (h : s.Stopped) (ht : s.Taken turn s' notice) :
    s.Frozen [turn] notice.toList s' := by
  cases ht with
  | refused hfail =>
    refine .counted h h.woken rfl (by simp) ?_
    rintro r ⟨⟩
    exact ⟨rfl, .inr ⟨hfail, rfl⟩⟩
  -- A read that finds the device stopped neither falls asleep nor goes on sleeping.
  | blocked _ hwaits | slept _ hwaits =>
    rw [Mock.isWaiting_of_stopped h.isStopped] at hwaits
    contradiction
  | passed _ hm =>
    obtain ⟨rfl, rfl⟩ := hm.eq_of_stopped h.isStopped
    refine .counted h h.woken rfl (by simp) ?_
    rintro r ⟨⟩
    exact ⟨rfl, .inl rfl⟩
  | left _ hm =>
    obtain ⟨rfl, rfl⟩ := hm.eq_of_stopped h.isStopped
    refine .counted h (fun r hr => h.woken r (List.mem_of_mem_eraseIdx hr)) rfl (by simp) ?_
    rintro r ⟨⟩
    exact ⟨rfl, .inl rfl⟩
  | roused =>
    refine .counted h (fun r hr => ?_) rfl rfl (fun r hr => ?_)
    · rcases List.mem_or_eq_of_mem_set hr with hbefore | rfl
      · exact h.woken r hbefore
      · rfl
    · contradiction
  | wrote hm =>
    obtain ⟨rfl, rfl⟩ := hm.eq_of_stopped h.isStopped
    refine .counted h h.woken rfl rfl ?_
    rintro r ⟨⟩
    rfl
  | @touched t =>
    constructor
    case stopped =>
      refine ⟨Mock.isStopped_touch h.isStopped t, fun r hr => ?_⟩
      split at hr
      · obtain ⟨r, -, rfl⟩ := List.mem_map.mp hr
        rfl
      · exact h.woken r hr
    case transferred => exact Mock.transferred_touch _ t
    case failReads => exact Mock.failReads_touch _ t
    case written => cases t <;> rfl
    case capture =>
      cases t with
      | push bytes => simp [Notice.ofTouch?, Notice.pushedBytes, Mock.touch, Mock.push]
      | _ => exact (List.append_nil _).symm
    case refused =>
      intro r hr
      cases t with
      | push bytes =>
        obtain rfl := List.mem_singleton.mp hr
        trivial
      | _ => contradiction

/-- What turns come to goes on with what later turns come to. -/
theorem Frozen.trans (h : s.Frozen turns seen s') (h' : s'.Frozen rest later s'') :
    s.Frozen (turns ++ rest) (seen ++ later) s'' where
  stopped := h'.stopped
  written := h'.written.trans h.written
  capture := by rw [h'.capture, h.capture, List.flatMap_append, List.append_assoc]
  transferred := by
    rw [h'.transferred, h.transferred, ← List.foldl_append, ← List.filterMap_append]
  failReads := by
    rw [h'.failReads, h.failReads, Mock.failsAfter, Mock.failsAfter, Mock.failsAfter,
      ← List.foldl_append, ← List.filterMap_append]
  refused notice hr := by
    rcases List.mem_append.mp hr with hr | hr
    · exact (h.refused notice hr).imp (.imp_right (List.mem_append_left rest))
    · refine (h'.refused notice hr).imp ?_
      -- The switch that later turns find on was on before, or an earlier turn put it on.
      rintro (hon | hon)
      · rw [h.failReads] at hon
        rcases Mock.of_failsAfter hon with hon | hon
        · exact .inl hon
        · obtain ⟨turn, hturn, htouch⟩ := List.mem_filterMap.mp hon
          cases turn with
          | touch t =>
            obtain rfl := Option.some.inj htouch
            exact .inr (List.mem_append_left rest hturn)
          | _ => contradiction
      · exact .inr (List.mem_append_right turns hon)

/-- Whatever threads do with a stopped device, it leaves the device as it is said to. -/
theorem Frozen.play (h : s.Stopped) (hplay : s.play turns = some (s', seen)) :
    s.Frozen turns seen s' := by
  induction turns generalizing s seen with
  | nil =>
    obtain ⟨rfl, rfl⟩ := Prod.mk.inj (Option.some.inj hplay)
    exact ⟨h, rfl, (List.append_nil _).symm, rfl, rfl, fun _ hnone => absurd hnone List.not_mem_nil⟩
  | cons turn rest ih =>
    obtain ⟨between, notice, after, hs, hafter, rfl⟩ := takeTurns_cons hplay
    have hfirst := Taken.frozen h (taken_of_step hs)
    exact hfirst.trans (ih hfirst.stopped hafter)

/-- A stop leaves the device as it is said to, and nobody sleeps in it. -/
theorem Frozen.stop (s : SharedMock) : s.Frozen [.touch .stop] []
    ⟨s.device.stop, s.waiting.map Reader.wake⟩ where
  stopped := by
    refine ⟨rfl, fun r hr => ?_⟩
    obtain ⟨r, -, rfl⟩ := List.mem_map.mp hr
    rfl
  written := rfl
  capture := (List.append_nil _).symm
  transferred := rfl
  failReads := rfl
  refused _ hnone := absurd hnone List.not_mem_nil

/-- Whatever threads do from a stop on, it leaves the device as it is said to. -/
theorem Frozen.of_stop (hplay : s.play (.touch .stop :: turns) = some (s', seen)) :
    s.Frozen (.touch .stop :: turns) seen s' := by
  obtain ⟨between, notice, after, hs, hafter, rfl⟩ := takeTurns_cons hplay
  obtain ⟨rfl, rfl⟩ := Prod.mk.inj (Option.some.inj hs)
  have hstop := Frozen.stop s
  exact hstop.trans (.play hstop.stopped hafter)

end SharedMock

/-! ### Retries on a recording device -/

namespace Attempts

/-- What others do before and during the first `k` attempts to read. -/
def amid (others : Nat → List Mock.Touch) (during : Nat → List Mock.Interruption) (k : Nat) :
    List Mock.Touch :=
  (List.range k).flatMap fun n =>
    others (n + 1) ++ (during (n + 1)).map Mock.Interruption.toTouch

variable {m : Mock} {others : Nat → List Mock.Touch} {during : Nat → List Mock.Interruption}

theorem amid_succ (k : Nat) :
    amid others during (k + 1) =
      amid others during k ++
        (others (k + 1) ++ (during (k + 1)).map Mock.Interruption.toTouch) := by
  rw [amid, List.range_succ, List.flatMap_append, List.flatMap_singleton, amid]

/-- Nobody who acts while a read waits changes the switch. -/
theorem failsAfter_append_interruptions (on : Bool) (touches : List Mock.Touch)
    (interruptions : List Mock.Interruption) :
    Mock.failsAfter on (touches ++ interruptions.map Mock.Interruption.toTouch) =
      Mock.failsAfter on touches := by
  rw [Mock.failsAfter, List.foldl_append]
  change Mock.failsAfter (Mock.failsAfter on touches) _ = _
  generalize Mock.failsAfter on touches = after
  induction interruptions with
  | nil => rfl
  | cons i rest ih => cases i <;> exact ih

/-- The state of a transfer after `k` attempts to read from a stopped device: others did what they
did, and the attempts count. -/
def refusedReads (m : Mock) (buffer : List UInt8) (others : Nat → List Mock.Touch)
    (during : Nat → List Mock.Interruption) (k : Nat) : Attempts :=
  ⟨k, (amid others during k).foldl Mock.touch { m with reads := m.reads + k }, buffer⟩

/-- One more attempt to read from a stopped device. -/
theorem read_refusedReads (h : m.isStopped = true) (buffer : List UInt8) (k : Nat) :
    (refusedReads m buffer others during k).read others during =
      (refusedReads m buffer others during (k + 1),
        some (.failed
          (Mock.refusal (Mock.failsAfter m.failReads (amid others during (k + 1)))))) := by
  have hstopped : ({ m with reads := m.reads + k } : Mock).isStopped = true := h
  have hattempt := Mock.readDuring_of_stopped
    (Mock.isStopped_foldl_touch hstopped (amid others during k ++ others (k + 1)))
    buffer.length (during (k + 1))
  rw [Mock.failReads_foldl_touch, Mock.foldl_interrupt, ← List.foldl_append,
    ← Mock.arrived_foldl_touch, List.foldl_append, List.append_assoc, ← amid_succ] at hattempt
  rw [amid_succ, ← List.append_assoc, failsAfter_append_interruptions, read, refusedReads]
  dsimp only
  rw [hattempt]
  rfl

theorem before_read_of_stopped (h : m.isStopped = true) (policy : RetryPolicy)
    (buffer : List UInt8) (k : Nat) :
    Retry.before (Retry.settling (read others during)) (policy.rest fun _ t => t) ⟨0, m, buffer⟩ k =
      refusedReads m buffer others during k := by
  induction k with
  | zero => rfl
  | succ k ih => rw [Retry.before, ih, Retry.settling, read_refusedReads h, policy.rest_self]; rfl

end Attempts

/-- What a run of attempts comes to on a recording device that was stopped. -/
structure Mock.GivesUp (m : Mock) : Prop where
  /-- A write is attempted once. -/
  write : ∀ (policy : RetryPolicy) others buffer,
    Retry.run policy (Retry.noting (Attempts.write others)) (Retry.pausing fun _ t => t)
      (⟨0, m, buffer⟩, []) =
        ((⟨1, { (others 1).foldl Mock.touch m with writes := m.writes + 1 }, buffer⟩, [.attempt]),
          .failed .stopped)
  /-- A read is attempted as long as others make it fail; nothing is left of it but the counts and
  what others did, and it is attempted once if reads are not made to fail at first. -/
  read : ∀ (policy : RetryPolicy) others during buffer, ∃ c,
    policy.IsLast (fun k => (.failed (Mock.refusal (Mock.failsAfter m.failReads
      (Attempts.amid others during k))) : Outcome (List UInt8))) c ∧
    (Mock.failsAfter m.failReads (others 1) = false → c = 1) ∧
    Retry.await policy (Retry.noting (Attempts.read others during)) (Retry.pausing fun _ t => t)
      (⟨0, m, buffer⟩, []) =
        ((Attempts.refusedReads m buffer others during c, Retry.beats policy c),
          some (.failed
            (Mock.refusal (Mock.failsAfter m.failReads (Attempts.amid others during c)))))

theorem Mock.givesUp_of_stopped {m : Mock} (h : m.isStopped = true) : m.GivesUp where
  write policy others buffer := by
    have hstopped := isStopped_foldl_touch h (others 1)
    have hwrites := (Queues.foldl_touch m (others 1)).writes
    refine Retry.run_noting_once policy ?_ rfl
    rw [Attempts.write]
    dsimp only
    rw [write_of_stopped hstopped, hwrites]
  read policy others during buffer := by
    have hread (k : Nat) (hk : 1 ≤ k) :
        Attempts.read others during (Retry.before (Retry.settling (Attempts.read others during))
          (policy.rest fun _ t => t) ⟨0, m, buffer⟩ (k - 1)) =
            (Attempts.refusedReads m buffer others during k, some (.failed
              (refusal (failsAfter m.failReads (Attempts.amid others during k))))) := by
      -- Attempts are numbered from one, the states between them from zero.
      obtain ⟨k, rfl⟩ := Nat.exists_eq_add_of_le' hk
      rw [Nat.add_sub_cancel, Attempts.before_read_of_stopped h, Attempts.read_refusedReads h]
    obtain ⟨c, last⟩ := policy.exists_isLast fun k => (.failed (refusal (failsAfter m.failReads
      (Attempts.amid others during k))) : Outcome (List UInt8))
    have hlast : policy.IsLast (fun k => (Retry.trial (Retry.settling (Attempts.read others during))
        (policy.rest fun _ t => t) ⟨0, m, buffer⟩ k).2) c := last.congr fun k hk => by
      rw [Retry.trial, Retry.settling, hread k hk]
      rfl
    refine ⟨c, last, fun hoff => ?_, ?_⟩
    · have hfirst : failsAfter m.failReads (Attempts.amid others during 1) = false := by
        rwa [Attempts.amid, List.range_one, List.flatMap_singleton,
          Attempts.failsAfter_append_interruptions]
      refine Nat.le_antisymm (last.2 ⟨Nat.le_refl 1, .inl ?_⟩) last.1.1
      simp only [hfirst, refusal]
      rfl
    · rw [Retry.await_noting hlast, Retry.await_eq_trial hlast, hread c last.1.1]

/-! ### A device without hardware -/

/-- A transfer that a caller asks for. -/
inductive Errand where
  | read (buffer : List UInt8)
  | write (data : List UInt8)

/-- The transfer, refused. -/
def Errand.refused : Errand → Notice
  | .read buffer => .read buffer (.failed .stopped) buffer
  | .write data => .wrote data (.failed .stopped)

namespace Stub

/-- A transfer that found the device running, once it has the lock. -/
def carryOut (d : Stub) (now : Nat) : Errand → Stub × Notice
  | .read buffer =>
    let (bytes, noise) := d.noise.bytes buffer.length
    let (d, outcome, _) := { d with noise }.transfer buffer.length bytes now
    (d, .ofRead buffer outcome)
  | .write data =>
    let (d, outcome, _) := d.transfer data.length () now
    (d, .wrote data outcome)

/-- A transfer at a time, as its caller sees it. -/
def attempt (d : Stub) (now : Nat) : Errand → Stub × Notice
  | .read buffer => ((d.read buffer.length now).1, .ofRead buffer (d.read buffer.length now).2.1)
  | .write data => ((d.write data now).1, .wrote data (d.write data now).2.1)

variable {d : Stub}

/-- A transfer looks whether the device runs, and then is carried out or refused. -/
theorem attempt_eq (d : Stub) (now : Nat) (e : Errand) :
    d.attempt now e = if d.isStopped then (d, e.refused) else d.carryOut now e := by
  by_cases h : d.isStopped = true
  · cases e <;> simp only [attempt, read, write, if_pos h] <;> rfl
  · cases e <;> simp only [attempt, read, write, if_neg h] <;> rfl

theorem isStopped_transfer {α : Type} (d : Stub) (length : Nat) (value : α) (now : Nat) :
    (d.transfer length value now).1.isStopped = d.isStopped := by
  rw [transfer]
  split <;> rfl

/-- Nothing that was under way starts a stopped device again. -/
theorem isStopped_carryOut (d : Stub) (now : Nat) (e : Errand) :
    (d.carryOut now e).1.isStopped = d.isStopped := by
  cases e with
  | read buffer =>
    exact isStopped_transfer { d with noise := (d.noise.bytes buffer.length).2 } _ _ _
  | write data => exact isStopped_transfer d _ _ _

end Stub

/-- A device without hardware that threads share, and the transfers that found it running and wait
for its lock. -/
structure SharedStub where
  device : Stub
  passed : List Errand

namespace SharedStub

/-- What a thread does. -/
inductive Turn where
  /-- A transfer looks whether the device runs. -/
  | arrive (e : Errand)
  /-- The transfer at a place among those that wait for the lock gets it at a time. -/
  | carryOut (k now : Nat)
  | stop
  | reset (frames : Int)

/-- The setting of the counter of transferred frames, if a turn changes it. -/
def Turn.reset? : Turn → Option Int
  | .reset frames => some frames
  | _ => none

/-- Someone takes a turn. -/
def step (s : SharedStub) : Turn → Option (SharedStub × Option Notice)
  | .arrive e =>
    if s.device.isStopped then some (s, some e.refused)
    else some ({ s with passed := s.passed ++ [e] }, none)
  | .carryOut k now =>
    s.passed[k]?.map fun e =>
      (⟨(s.device.carryOut now e).1, s.passed.eraseIdx k⟩, some (s.device.carryOut now e).2)
  | .stop => some ({ s with device := s.device.stop }, none)
  | .reset frames => some ({ s with device := s.device.reset frames }, none)

/-- Turns taken one after the other, and what threads saw of them. -/
def play (s : SharedStub) (turns : List Turn) : Option (SharedStub × List Notice) :=
  takeTurns step s turns

variable {s s' s'' : SharedStub} {turn : Turn} {turns : List Turn} {notice : Option Notice}
  {seen later : List Notice}

/-- What turns come to that are taken after a stop: no transfer passes any more, and where none
waits for the lock nothing but the counter is changed, and that only by who sets it. -/
structure Frozen (s : SharedStub) (turns : List Turn) (seen : List Notice) (s' : SharedStub) :
    Prop where
  isStopped : s'.device.isStopped = true
  passed : s'.passed.Sublist s.passed
  device : s.passed = [] → s'.device =
    { s.device with
      isStopped := true
      transferred := turns.foldl (fun frames turn => turn.reset?.getD frames) s.device.transferred }
  refused : s.passed = [] → ∀ notice ∈ seen, notice.IsRefusal False

/-- After a stop every turn leaves the device as it is said to. -/
theorem Frozen.step (h : s.device.isStopped = true) (hs : s.step turn = some (s', notice)) :
    s.Frozen [turn] notice.toList s' := by
  have hsame : s.device = { s.device with isStopped := true } := by rw [← h]
  cases turn with
  | arrive e =>
    rw [SharedStub.step, if_pos h] at hs
    cases hs
    refine ⟨h, .refl _, fun _ => hsame, fun _ r hr => ?_⟩
    obtain rfl := List.mem_singleton.mp hr
    cases e with
    | read => exact ⟨rfl, .inl rfl⟩
    | write => rfl
  | carryOut k now =>
    obtain ⟨e, he, heq⟩ := Option.map_eq_some_iff.mp hs
    cases heq
    -- Only a transfer that passed before the stop can still be carried out.
    have hbusy : s.passed ≠ [] := by
      rintro hnone
      rw [hnone] at he
      contradiction
    exact ⟨(Stub.isStopped_carryOut _ now e).trans h, List.eraseIdx_sublist _ _,
      fun hnone => absurd hnone hbusy, fun hnone => absurd hnone hbusy⟩
  | stop =>
    cases hs
    exact ⟨rfl, .refl _, fun _ => rfl, fun _ _ hnone => absurd hnone List.not_mem_nil⟩
  | reset frames =>
    cases hs
    refine ⟨h, .refl _, fun _ => ?_, fun _ _ hnone => absurd hnone List.not_mem_nil⟩
    exact congrArg (Stub.reset · frames) hsame

/-- What turns come to goes on with what later turns come to. -/
theorem Frozen.trans {rest : List Turn} (h : s.Frozen turns seen s')
    (h' : s'.Frozen rest later s'') : s.Frozen (turns ++ rest) (seen ++ later) s'' where
  isStopped := h'.isStopped
  passed := h'.passed.trans h.passed
  device hnone := by
    have hnone' : s'.passed = [] := List.sublist_nil.mp (hnone ▸ h.passed)
    rw [h'.device hnone', h.device hnone, List.foldl_append]
  refused hnone notice hr := by
    have hnone' : s'.passed = [] := List.sublist_nil.mp (hnone ▸ h.passed)
    rcases List.mem_append.mp hr with hr | hr
    · exact h.refused hnone notice hr
    · exact h'.refused hnone' notice hr

/-- Whatever threads do with a stopped device, it leaves the device as it is said to. -/
theorem Frozen.play (h : s.device.isStopped = true) (hplay : s.play turns = some (s', seen)) :
    s.Frozen turns seen s' := by
  induction turns generalizing s seen with
  | nil =>
    obtain ⟨rfl, rfl⟩ := Prod.mk.inj (Option.some.inj hplay)
    exact ⟨h, .refl _, fun _ => by rw [List.foldl_nil, ← h], fun _ _ hnone =>
      absurd hnone List.not_mem_nil⟩
  | cons turn rest ih =>
    obtain ⟨between, notice, after, hs, hafter, rfl⟩ := takeTurns_cons hplay
    have hfirst := Frozen.step h hs
    exact hfirst.trans (ih hfirst.isStopped hafter)

/-- Whatever threads do from a stop on, it leaves the device as it is said to. -/
theorem Frozen.of_stop (hplay : s.play (.stop :: turns) = some (s', seen)) :
    s.Frozen (.stop :: turns) seen s' := by
  obtain ⟨between, notice, after, hs, hafter, rfl⟩ := takeTurns_cons hplay
  obtain ⟨rfl, rfl⟩ := Prod.mk.inj (Option.some.inj hs)
  have hstop : s.Frozen [.stop] [] { s with device := s.device.stop } :=
    ⟨rfl, .refl _, fun _ => rfl, fun _ _ hnone => absurd hnone List.not_mem_nil⟩
  exact hstop.trans (.play hstop.isStopped hafter)

end SharedStub

/-- What becomes of transfers at a device without hardware that was stopped. -/
structure Stub.GivesUp (d : Stub) : Prop where
  attempt : ∀ now e, d.attempt now e = (d, e.refused)
  read : ∀ (policy : RetryPolicy) length now,
    Retry.run policy
      (Retry.noting fun d => ((Stub.read d length now).1, (Stub.read d length now).2.1))
      (Retry.pausing fun _ d => d) (d, []) = ((d, [.attempt]), .failed .stopped)
  write : ∀ (policy : RetryPolicy) data now,
    Retry.run policy
      (Retry.noting fun d => ((Stub.write d data now).1, (Stub.write d data now).2.1))
      (Retry.pausing fun _ d => d) (d, []) = ((d, [.attempt]), .failed .stopped)

theorem Stub.givesUp_of_stopped {d : Stub} (h : d.isStopped = true) : d.GivesUp where
  attempt now e := by rw [attempt_eq, if_pos h]
  read policy length now := by
    refine Retry.run_noting_once policy ?_ rfl
    simp only [Stub.read, if_pos h]
  write policy data now := by
    refine Retry.run_noting_once policy ?_ rfl
    simp only [Stub.write, if_pos h]

/-! ### Both devices -/

/-- Whatever state a stop finds a device in and whatever threads do from then on, every transfer
that comes afterwards is refused and moves nothing, and its retries give up. -/
theorem stop_is_final (mock mock' : SharedMock) (stub stub' : SharedStub)
    (turns : List SharedMock.Turn) (turns' : List SharedStub.Turn) (seen seen' : List Notice)
    (hmock : mock.play (.touch .stop :: turns) = some (mock', seen))
    (hstub : stub.play (.stop :: turns') = some (stub', seen')) :
    (mock.Frozen (.touch .stop :: turns) seen mock' ∧ mock'.Refuses ∧ mock'.device.GivesUp) ∧
      stub.Frozen (.stop :: turns') seen' stub' ∧ stub'.device.GivesUp ∧
        ∀ e, stub'.step (.arrive e) = some (stub', some e.refused) := by
  have hfrozen := SharedMock.Frozen.of_stop hmock
  have hfrozen' := SharedStub.Frozen.of_stop hstub
  constructor
  · exact ⟨hfrozen, hfrozen.stopped.refuses, Mock.givesUp_of_stopped hfrozen.stopped.isStopped⟩
  · exact ⟨hfrozen', Stub.givesUp_of_stopped hfrozen'.isStopped,
      fun e => if_pos hfrozen'.isStopped⟩

/-- A device with one byte queued, and a read of two that waits in it. -/
def SharedMock.short : SharedMock :=
  ⟨((Mock.create "in" 2 0).push [1]).arrived, [⟨[9, 9], false⟩]⟩

/-- Turns after a stop that finds a read waiting: bytes are pushed and the counter is set, reads are
made to fail and then are not, and transfers of both directions come. -/
def SharedMock.afterwards : List SharedMock.Turn :=
  [.look 0, .touch (.push [4, 5]), .read [9, 9], .touch (.failReads true), .read [8],
    .write [6, 7], .touch (.reset (-3)), .touch (.failReads false), .read [7, 7]]

/-- A device without hardware that is not yet in use. -/
def SharedStub.unused : SharedStub := ⟨Stub.create "hw:1,2" ⟨2, 48000, .i16, 480⟩ 0, []⟩

/-- Turns after a stop: transfers of both directions come, and the counter is set. -/
def SharedStub.afterwards : List SharedStub.Turn :=
  [.arrive (.read [9, 9]), .reset 7, .arrive (.write [1, 2, 3, 4])]

theorem stop_is_final_with_a_read_waiting : ∃ mock seen stub seen',
    SharedMock.short.play (.touch .stop :: SharedMock.afterwards) = some (mock, seen) ∧
    SharedStub.unused.play (.stop :: SharedStub.afterwards) = some (stub, seen') ∧
    SharedMock.short.Frozen (.touch .stop :: SharedMock.afterwards) seen mock ∧
    mock.Refuses ∧ mock.device.GivesUp ∧ stub.device.GivesUp ∧
    (seen.length = 6 ∧ mock.device.capture = [1, 4, 5] ∧ mock.device.transferred = -3) ∧
    (seen'.length = 2 ∧ stub.device.noise = Noise.initial ∧ stub.device.transferred = 7) := by
  have hmock : (SharedMock.short.play (.touch .stop :: SharedMock.afterwards)).map (fun r =>
      (r.2.length, r.1.device.capture, r.1.device.transferred)) = some (6, [1, 4, 5], -3) := by
    decide
  have hstub : (SharedStub.unused.play (.stop :: SharedStub.afterwards)).map (fun r =>
      (r.2.length, r.1.device.noise, r.1.device.transferred)) = some (2, Noise.initial, 7) := by
    decide
  obtain ⟨⟨mock, seen⟩, hmock, hseen⟩ := Option.map_eq_some_iff.mp hmock
  obtain ⟨⟨stub, seen'⟩, hstub, hseen'⟩ := Option.map_eq_some_iff.mp hstub
  simp only [Prod.mk.injEq] at hseen hseen'
  obtain ⟨⟨hfrozen, hrefuses, hgivesUp⟩, -, hgivesUp', -⟩ :=
    stop_is_final _ _ _ _ _ _ _ _ hmock hstub
  exact ⟨mock, seen, stub, seen', hmock, hstub, hfrozen, hrefuses, hgivesUp, hgivesUp', hseen,
    hseen'⟩

/-- A recording device that was stopped while its reads are made to fail. -/
def Mock.deaf : Mock :=
  { Mock.create "mock" 2 0 with isStopped := true, stopCalls := 1, failReads := true }

/-- A read that comes after the stop is not told of it if reads are made to fail, and with retries
it is attempted as often as the policy allows. -/
theorem stopped_read_is_attempted_again :
    (SharedMock.fresh "mock" 2 0 0).play
        [.touch (.failReads true), .touch .stop, .read [0xaa, 0xaa]] =
      some (⟨Mock.deaf.arrived, []⟩,
        [.read [0xaa, 0xaa] (.failed (.transient "mock read failure")) [0xaa, 0xaa]]) ∧
    Retry.await .default (Retry.noting (Attempts.read (fun _ => []) fun _ => []))
      (Retry.pausing fun _ t => t) (⟨0, Mock.deaf, [0xaa, 0xaa]⟩, []) =
        ((⟨3, { Mock.deaf with reads := 3 }, [0xaa, 0xaa]⟩, Retry.beats .default 3),
          some (.failed (.transient "mock read failure"))) := by
  refine ⟨rfl, ?_⟩
  rfl

end AudioRelay
