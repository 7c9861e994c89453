import AudioRelay.Device.Mock
import AudioRelay.Device.Stub
import Mathlib.Logic.Function.Iterate

/-!
# The null device, replayed

A recording device that was loaded with enough of the noise answers every call as the null device
does, transfers and frame counts alike: the two keep different books, but count the frames of each
transfer in the same way. The noise that is read depends on how much is read and on nothing else.
-/

namespace AudioRelay

/-! ### The noise, in numbers -/

namespace Noise

/-- The linear congruence modulo `2 ^ 32`. -/
def congruence (n : Nat) : Nat := (n * 1103515245 + 12345) % 0x100000000

/-- A byte of the noise: bits 16 to 23 of the iterates of the congruence, after the start. -/
def streamByte (k : Nat) : UInt8 := UInt8.ofNat (congruence^[k + 1] 12345 / 0x10000 % 0x100)

/-- The first bytes of the noise. -/
def stream (length : Nat) : List UInt8 := (List.range length).map streamByte

theorem toNat_seed_next (n : Noise) : n.next.seed.toNat = congruence n.seed.toNat := by
  simp [next, congruence, UInt32.toNat_add, UInt32.toNat_mul]

theorem toNat_seed_iterate (k : Nat) (n : Noise) :
    (next^[k] n).seed.toNat = congruence^[k] n.seed.toNat := by
  induction k generalizing n with
  | zero => rfl
  | succ k ih => rw [Function.iterate_succ_apply, ih, toNat_seed_next, Function.iterate_succ_apply]

theorem byte_eq (n : Noise) : n.byte = UInt8.ofNat (n.seed.toNat / 0x10000 % 0x100) := by
  apply UInt8.toNat_inj.mp
  simp [byte, Nat.shiftRight_eq_div_pow]

/-- What the generator gives, byte by byte, and where it is afterwards. -/
theorem bytes_eq (n : Noise) (length : Nat) :
    n.bytes length = ((List.range length).map fun k => (next^[k + 1] n).byte, next^[length] n) := by
  induction length generalizing n with
  | zero => rfl
  | succ length ih =>
    rw [bytes, ih, Function.iterate_succ_apply, List.range_succ_eq_map, List.map_cons,
      List.map_map]
    have hlater : (List.range length).map (fun k => (next^[k + 1] n.next).byte) =
        (List.range length).map ((fun k => (next^[k + 1] n).byte) ∘ Nat.succ) := by
      refine List.map_congr_left fun k _ => ?_
      rw [Function.comp_apply, Function.iterate_succ_apply next (k + 1)]
    rw [hlater]
    rfl

/-- From the start the generator gives the noise. -/
theorem bytes_initial (length : Nat) : (initial.bytes length).1 = stream length := by
  rw [bytes_eq, stream]
  refine List.map_congr_left fun k _ => ?_
  rw [byte_eq, toNat_seed_iterate]
  rfl

end Noise

/-! ### Calls and replies -/

/-- What a client asks of a device. -/
inductive Ask where
  | read (length : Nat)
  | write (data : List UInt8)
  | stop
  | reset (frames : Int)
  | capturePosition
  | presentationPosition

/-- What a client learns from a call. -/
inductive Reply where
  | read (outcome : Outcome (List UInt8))
  /-- The read waits, and nobody is there to end that. -/
  | blocked
  | wrote (outcome : Outcome Unit)
  | silent
  | frames (count : Except DeviceError Int)

/-- The bytes that a reply gives. -/
def Reply.bytes : Reply → List UInt8
  | .read (.done bytes) => bytes
  | _ => []

/-- The bytes that a call reads from a device that is stopped or not. -/
def Ask.demand (isStopped : Bool) : Ask → Nat
  | .read length => if isStopped then 0 else length
  | _ => 0

/-- Whether a device is stopped after a call. -/
def Ask.stops (isStopped : Bool) : Ask → Bool
  | .stop => true
  | _ => isStopped

/-- The bytes that calls read, one after the other, from a device that is stopped or not before the
first. -/
def demand (isStopped : Bool) : List Ask → Nat
  | [] => 0
  | ask :: rest => ask.demand isStopped + demand (ask.stops isStopped) rest

/-- A null device answers a call at a time. -/
def Stub.serve (d : Stub) (now : Nat) : Ask → Stub × Reply
  | .read length =>
    let (d, outcome, _) := d.read length now
    (d, .read outcome)
  | .write data =>
    let (d, outcome, _) := d.write data now
    (d, .wrote outcome)
  | .stop => (d.stop, .silent)
  | .reset frames => (d.reset frames, .silent)
  | .capturePosition => (d, .frames (.ok (d.capturePosition now).frames))
  | .presentationPosition => (d, .frames (.ok (d.presentationPosition now).frames))

/-- A recording device answers a call at a time. -/
def Mock.serve (m : Mock) (now : Nat) : Ask → Mock × Reply
  | .read length =>
    match m.beginRead with
    | (m, some fault) => (m, .read (.failed fault))
    | (m, none) =>
      if m.isWaiting length then (m, .blocked)
      else
        let (m, outcome) := m.finishRead length
        (m, .read outcome)
  | .write data =>
    let (m, outcome) := m.write data
    (m, .wrote outcome)
  | .stop => (m.stop, .silent)
  | .reset frames => (m.reset frames, .silent)
  | .capturePosition => (m, .frames ((m.capturePosition now).map Position.frames))
  | .presentationPosition => (m, .frames ((m.presentationPosition now).map Position.frames))

/-- A device answers calls, each at its time, one after the other. -/
def serveAll {σ : Type} (serve : σ → Nat → Ask → σ × Reply) (s : σ) :
    List (Ask × Nat) → σ × List Reply
  | [] => (s, [])
  | (ask, now) :: rest =>
    let (s, reply) := serve s now ask
    let (s, later) := serveAll serve s rest
    (s, reply :: later)

/-! ### The null device alone -/

namespace Stub

variable {d : Stub}

/-- A transfer counts its frames and leaves the noise alone. -/
theorem transfer_eq {α : Type} (hframed : 1 ≤ d.config.frameSize) (length : Nat) (value : α)
    (now : Nat) : ∃ clock framesSinceStart pause, d.transfer length value now =
      ({ d with
          clock, framesSinceStart
          transferred := Position.advance d.transferred (length / d.config.frameSize) },
        .done value, pause) := by
  rw [transfer, if_neg (Nat.ne_of_gt hframed)]
  exact ⟨_, _, _, rfl⟩

/-- What a null device answers and what its books say afterwards. -/
inductive Serves (d : Stub) : Ask → Stub → Reply → Prop
  | refusedRead {length : Nat} : d.isStopped = true →
      Serves d (.read length) d (.read (.failed .stopped))
  | refusedWrite {data : List UInt8} : d.isStopped = true →
      Serves d (.write data) d (.wrote (.failed .stopped))
  | read {length framesSinceStart : Nat} {clock : Option Nat} : d.isStopped = false →
      Serves d (.read length)
        { d with
          clock, framesSinceStart
          transferred := Position.advance d.transferred (length / d.config.frameSize)
          noise := (d.noise.bytes length).2 }
        (.read (.done (d.noise.bytes length).1))
  | write {data : List UInt8} {framesSinceStart : Nat} {clock : Option Nat} :
      d.isStopped = false →
      Serves d (.write data)
        { d with
          clock, framesSinceStart
          transferred := Position.advance d.transferred (data.length / d.config.frameSize) }
        (.wrote (.done ()))
  | stop : Serves d .stop d.stop .silent
  | reset {frames : Int} : Serves d (.reset frames) (d.reset frames) .silent
  | capturePosition : Serves d .capturePosition d (.frames (.ok d.transferred))
  | presentationPosition :
      Serves d .presentationPosition d (.frames (.ok (max d.transferred 0)))

theorem serves_serve (hframed : 1 ≤ d.config.frameSize) (now : Nat) (ask : Ask) :
    d.Serves ask (d.serve now ask).1 (d.serve now ask).2 := by
  cases ask with
  | read length =>
    by_cases hstopped : d.isStopped = true
    · simp only [serve, Stub.read, if_pos hstopped]
      exact .refusedRead hstopped
    · obtain ⟨clock, count, pause, htransfer⟩ := transfer_eq
        (d := { d with noise := (d.noise.bytes length).2 }) hframed length
        (d.noise.bytes length).1 now
      simp only [serve, Stub.read, if_neg hstopped, htransfer]
      exact .read (Bool.not_eq_true _ ▸ hstopped)
  | write data =>
    by_cases hstopped : d.isStopped = true
    · simp only [serve, Stub.write, if_pos hstopped]
      exact .refusedWrite hstopped
    · obtain ⟨clock, count, pause, htransfer⟩ := transfer_eq hframed data.length () now
      simp only [serve, Stub.write, if_neg hstopped, htransfer]
      exact .write (Bool.not_eq_true _ ▸ hstopped)
  | stop => exact .stop
  | reset frames => exact .reset
  | capturePosition => exact .capturePosition
  | presentationPosition => exact .presentationPosition

end Stub

/-- What a call takes of the noise: a read that is not refused its length, and every other call
nothing. -/
theorem Stub.Serves.takes {d d' : Stub} {ask : Ask} {reply : Reply} (h : d.Serves ask d' reply) :
    (reply.bytes, d'.noise) = d.noise.bytes (ask.demand d.isStopped) := by
  cases h with
  | refusedRead hstopped =>
    rw [Ask.demand, if_pos hstopped]
    rfl
  | read hrunning =>
    rw [Ask.demand, hrunning]
    rfl
  | _ => rfl

theorem Stub.Serves.keeps {d d' : Stub} {ask : Ask} {reply : Reply} (h : d.Serves ask d' reply) :
    d'.config = d.config ∧ d'.isStopped = ask.stops d.isStopped := by
  cases h <;> exact ⟨rfl, rfl⟩

/-- Calls take of the noise what they ask for, in order. -/
theorem Stub.serveAll_takes {d : Stub} (hframed : 1 ≤ d.config.frameSize)
    (asked : List (Ask × Nat)) :
    ((serveAll serve d asked).2.flatMap Reply.bytes, (serveAll serve d asked).1.noise) =
      d.noise.bytes (demand d.isStopped (asked.map Prod.fst)) := by
  induction asked generalizing d with
  | nil => rfl
  | cons entry rest ih =>
    obtain ⟨ask, now⟩ := entry
    have hserves := serves_serve hframed now ask
    obtain ⟨hconfig, hstopped⟩ := hserves.keeps
    have htakes := hserves.takes
    have hlater := ih (d := (d.serve now ask).1) (hconfig ▸ hframed)
    rw [hstopped] at hlater
    rw [List.map_cons, demand, Noise.bytes_add, ← htakes, ← hlater, serveAll]
    rfl

/-! ### A recording device whose transfers are not made to fail -/

namespace Mock

variable {m : Mock}

theorem serve_read_of_stopped (hfail : m.failReads = false) (hstopped : m.isStopped = true)
    (now length : Nat) :
    m.serve now (.read length) = ({ m with reads := m.reads + 1 }, .read (.failed .stopped)) := by
  simp [serve, beginRead, isWaiting, finishRead, hfail, hstopped]

theorem serve_read_of_queued (hfail : m.failReads = false) (hrunning : m.isStopped = false)
    {length : Nat} (hqueued : length ≤ m.capture.length) (now : Nat) :
    m.serve now (.read length) =
      ({ m with
          reads := m.reads + 1
          capture := m.capture.drop length
          transferred := Position.advance m.transferred (length / m.frameSize) },
        .read (.done (m.capture.take length))) := by
  simp [serve, beginRead, isWaiting, finishRead, hfail, hrunning, Nat.not_lt_of_le hqueued]

theorem serve_write_of_stopped (hstopped : m.isStopped = true) (now : Nat) (data : List UInt8) :
    m.serve now (.write data) =
      ({ m with writes := m.writes + 1 }, .wrote (.failed .stopped)) := by
  simp [serve, write, hstopped]

theorem serve_write_of_running (hfail : m.failWrites = false) (hrunning : m.isStopped = false)
    (now : Nat) (data : List UInt8) :
    m.serve now (.write data) =
      ({ m with
          writes := m.writes + 1
          written := m.written ++ data
          transferred := Position.advance m.transferred (data.length / m.frameSize) },
        .wrote (.done ())) := by
  simp [serve, write, hfail, hrunning]

theorem serve_positions (hfail : m.failPositions = false) (hnone : m.presentation = none)
    (now : Nat) :
    m.serve now .capturePosition = (m, .frames (.ok m.transferred)) ∧
      m.serve now .presentationPosition = (m, .frames (.ok (max m.transferred 0))) := by
  simp [serve, capturePosition, presentationPosition, position, hfail, hnone, Except.map]

end Mock

/-! ### Side by side -/

/-- A recording device has the books of a null device, and some of the noise that comes next. -/
structure Replays (k : Nat) (d : Stub) (m : Mock) : Prop where
  isFramed : 1 ≤ d.config.frameSize
  frameSize : m.frameSize = d.config.frameSize
  isStopped : m.isStopped = d.isStopped
  transferred : m.transferred = d.transferred
  capture : m.capture = (d.noise.bytes k).1
  failReads : m.failReads = false
  failWrites : m.failWrites = false
  failPositions : m.failPositions = false
  presentation : m.presentation = none

/-- A recording device that replays noise gives the next of it, and keeps the rest. -/
theorem Replays.noise {k length : Nat} {d : Stub} {m : Mock} (h : Replays k d m)
    (hlength : length ≤ k) :
    length ≤ m.capture.length ∧ m.capture.take length = (d.noise.bytes length).1 ∧
      m.capture.drop length = ((d.noise.bytes length).2.bytes (k - length)).1 := by
  have hcapture : m.capture =
      (d.noise.bytes length).1 ++ ((d.noise.bytes length).2.bytes (k - length)).1 := by
    rw [h.capture, ← Nat.add_sub_cancel' hlength, Noise.bytes_add, Nat.add_sub_cancel_left]
  have hfirst := Noise.length_bytes d.noise length
  refine ⟨?_, ?_, ?_⟩
  · rw [hcapture, List.length_append, hfirst]
    exact Nat.le_add_right _ _
  · rw [hcapture, List.take_left' hfirst]
  · rw [hcapture, List.drop_left' hfirst]

/-- A call that does not ask for more noise than is left is answered alike. -/
theorem Replays.serve {k : Nat} {d d' : Stub} {m : Mock} {ask : Ask} {reply : Reply}
    (h : Replays k d m) (hdemand : ask.demand d.isStopped ≤ k) (hserves : d.Serves ask d' reply)
    (now : Nat) :
    (m.serve now ask).2 = reply ∧
      Replays (k - ask.demand d.isStopped) d' (m.serve now ask).1 := by
  have hstop {b : Bool} (hd : d.isStopped = b) : m.isStopped = b := h.isStopped.trans hd
  cases hserves with
  | refusedRead hstopped =>
    rw [Mock.serve_read_of_stopped h.failReads (hstop hstopped), Ask.demand, if_pos hstopped]
    exact ⟨rfl, { h with }⟩
  | refusedWrite hstopped =>
    rw [Mock.serve_write_of_stopped (hstop hstopped)]
    exact ⟨rfl, { h with }⟩
  | @read length _ _ hrunning =>
    have hasked : (Ask.read length).demand d.isStopped = length := by
      rw [Ask.demand, hrunning]
      rfl
    rw [hasked] at hdemand ⊢
    obtain ⟨hqueued, hbytes, hleft⟩ := h.noise hdemand
    rw [Mock.serve_read_of_queued h.failReads (hstop hrunning) hqueued, hbytes, hleft,
      h.transferred, h.frameSize]
    exact ⟨rfl, { h with frameSize := rfl, transferred := rfl, capture := rfl }⟩
  | write hrunning =>
    rw [Mock.serve_write_of_running h.failWrites (hstop hrunning), h.transferred, h.frameSize]
    exact ⟨rfl, { h with frameSize := rfl, transferred := rfl }⟩
  | stop => exact ⟨rfl, { h with isStopped := rfl }⟩
  | reset => exact ⟨rfl, { h with transferred := rfl }⟩
  | capturePosition =>
    rw [(Mock.serve_positions h.failPositions h.presentation now).1, h.transferred]
    exact ⟨rfl, { h with }⟩
  | presentationPosition =>
    rw [(Mock.serve_positions h.failPositions h.presentation now).2, h.transferred]
    exact ⟨rfl, { h with }⟩

/-- Calls that do not ask for more noise than is left are answered alike. -/
theorem Replays.serveAll {k : Nat} {d : Stub} {m : Mock} (h : Replays k d m)
    (asked : List (Ask × Nat × Nat)) (hdemand : demand d.isStopped (asked.map Prod.fst) ≤ k) :
    (serveAll Mock.serve m (asked.map fun (ask, _, now) => (ask, now))).2 =
      (serveAll Stub.serve d (asked.map fun (ask, now, _) => (ask, now))).2 := by
  induction asked generalizing d m k with
  | nil => rfl
  | cons entry rest ih =>
    obtain ⟨ask, now, now'⟩ := entry
    change ask.demand d.isStopped + demand (ask.stops d.isStopped) (rest.map Prod.fst) ≤ k
      at hdemand
    have hserves := Stub.serves_serve h.isFramed now ask
    obtain ⟨hreply, hreplays⟩ := h.serve (Nat.le_of_add_right_le hdemand) hserves now'
    have hrest : demand (d.serve now ask).1.isStopped (rest.map Prod.fst) ≤
        k - ask.demand d.isStopped := by
      rw [hserves.keeps.2]
      exact Nat.le_sub_of_add_le' hdemand
    have hlater := ih hreplays hrest
    rw [List.map_cons, List.map_cons, AudioRelay.serveAll, AudioRelay.serveAll]
    exact congrArg₂ List.cons hreply hlater

/-- A null device answers any calls as a recording device with the same frames does that was loaded
with as much of the noise as they read, or more; and what they read is the noise from its start on,
however they cut it and whatever comes between. -/
theorem Stub.is_replayed_by_mock (name name' : String) (config : PcmConfig)
    (openedAt openedAt' latencyMs k : Nat) (asked : List (Ask × Nat × Nat))
    (hframed : 1 ≤ config.frameSize) (hloaded : demand false (asked.map Prod.fst) ≤ k) :
    let stub := serveAll serve (create name config openedAt)
      (asked.map fun (ask, now, _) => (ask, now))
    let mock := serveAll Mock.serve
      ({ Mock.create name' config.frameSize openedAt' with latencyMs }.push (Noise.stream k))
      (asked.map fun (ask, _, now) => (ask, now))
    mock.2 = stub.2 ∧
      stub.2.flatMap Reply.bytes = Noise.stream (demand false (asked.map Prod.fst)) ∧
      stub.1.noise.seed.toNat = Noise.congruence^[demand false (asked.map Prod.fst)] 12345 := by
  have hreplays : Replays k (create name config openedAt)
      ({ Mock.create name' config.frameSize openedAt' with latencyMs }.push (Noise.stream k)) := by
    refine ⟨hframed, Nat.max_eq_left hframed, rfl, rfl, ?_, rfl, rfl, rfl, rfl⟩
    exact (Noise.bytes_initial k).symm
  have htakes := serveAll_takes (d := create name config openedAt) hframed
    (asked.map fun (ask, now, _) => (ask, now))
  rw [List.map_map] at htakes
  obtain ⟨hbytes, hnoise⟩ := Prod.mk.inj htakes
  refine ⟨hreplays.serveAll asked hloaded, hbytes.trans (Noise.bytes_initial _), ?_⟩
  rw [hnoise, Noise.bytes_eq, Noise.toNat_seed_iterate]
  rfl

/-- Reads and writes that are no whole numbers of frames, between them settings of the counter and
questions for it, and transfers after a stop. -/
def oddCalls : List (Ask × Nat × Nat) :=
  [(.read 5, 0, 10), (.write [1, 2, 3, 4, 5, 6, 7], 20, 30), (.capturePosition, 40, 50),
    (.reset (-9), 60, 70), (.presentationPosition, 80, 90), (.read 3, 100, 110),
    (.write [1, 2, 3, 4], 120, 130), (.capturePosition, 140, 150), (.stop, 160, 170),
    (.read 8, 180, 190), (.write [1], 200, 210), (.presentationPosition, 220, 230)]

theorem Stub.is_replayed_by_mock_at_odd_lengths :
    let config : PcmConfig := ⟨2, 48000, .i16, 480⟩
    let stub := serveAll serve (create "hw:1,2" config 0)
      (oddCalls.map fun (ask, now, _) => (ask, now))
    let mock := serveAll Mock.serve
      ({ Mock.create "in" config.frameSize 7 with latencyMs := 3 }.push (Noise.stream 8))
      (oddCalls.map fun (ask, _, now) => (ask, now))
    config.frameSize = 4 ∧ demand false (oddCalls.map Prod.fst) = 8 ∧ mock.2 = stub.2 ∧
      stub.2.flatMap Reply.bytes = Noise.stream 8 ∧
      stub.1.noise.seed.toNat = Noise.congruence^[8] 12345 := by
  have hdemand : demand false (oddCalls.map Prod.fst) = 8 := by decide
  have hreplayed := is_replayed_by_mock "hw:1,2" "in" ⟨2, 48000, .i16, 480⟩ 0 7 3 8 oddCalls
    (by decide) (Nat.le_of_eq hdemand)
  rw [hdemand] at hreplayed
  exact ⟨by decide, hdemand, hreplayed⟩

end AudioRelay
