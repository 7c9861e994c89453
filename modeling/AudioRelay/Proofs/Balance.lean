import Mathlib.Algebra.BigOperators.Fin
import AudioRelay.Proofs.Silence
import AudioRelay.Proofs.Transfer

/-!
# Counters and events

A thread first adds to a counter and then tells the listener. In between the thread owes an event;
what the counters hold is what the listener was told of, the transfers that returned, and what is
owed. So the counters agree with the events whenever nothing is owed.
-/

namespace AudioRelay

namespace Counters

instance : Std.Associative (fun c d : Counters => c + d) := ⟨add_assoc⟩

instance : Std.Commutative (fun c d : Counters => c + d) := ⟨add_comm⟩

/-- What the counters gained before the listener is told of an event. -/
def ofEvent : Event → Counters
  | .framesDropped _ frames => { zero with dropped := UInt64.ofNat frames }
  | .silenceInserted frames => { zero with silence := UInt64.ofNat frames }
  | .deviceFailed _ _ => { zero with deviceErrors := 1 }
  | .workerStarted _ => { zero with workersStarted := 1 }
  | .workerStopped _ => zero

/-- What the counters gained before the listener was told of some events. -/
def ofEvents (events : List Event) : Counters := (events.map ofEvent).foldr (· + ·) zero

/-- What the counters gain by transfers that return. -/
def ofTransfers (n : Nat) : Counters := { zero with transfers := UInt64.ofNat n }

/-- What the counters gain by device failures. -/
def ofFailures (n : Nat) : Counters := { zero with deviceErrors := UInt64.ofNat n }

theorem ofEvents_append (events later : List Event) :
    ofEvents (events ++ later) = ofEvents events + ofEvents later := by
  induction events with
  | nil => exact (zero_add _).symm
  | cons event rest ih =>
    exact (congrArg (ofEvent event + ·) ih).trans (add_assoc _ _ _).symm

theorem ofTransfers_add (m n : Nat) : ofTransfers (m + n) = ofTransfers m + ofTransfers n := by
  simp [ofTransfers, add_def, zero, UInt64.ofNat_add]

theorem ofFailures_add (m n : Nat) : ofFailures (m + n) = ofFailures m + ofFailures n := by
  simp [ofFailures, add_def, zero, UInt64.ofNat_add]

end Counters

namespace Event

/-- The frames that an event says were lost in a stream of a direction: dropped for a device in
playback, replaced by silence in capture. -/
def lost : Direction → Event → Nat
  | .output, framesDropped _ frames => frames
  | .input, silenceInserted frames => frames
  | _, _ => 0

/-- Whether a device failed. -/
def isFailure : Event → Bool
  | deviceFailed _ _ => true
  | _ => false

/-- Whether a worker started. -/
def isWorkerStarted : Event → Bool
  | workerStarted _ => true
  | _ => false

end Event

/-- The frames that some events say were lost in a stream of a direction. -/
def lostFrames (d : Direction) (events : List Event) : Nat := (events.map (Event.lost d)).sum

theorem lostFrames_append (d : Direction) (events later : List Event) :
    lostFrames d (events ++ later) = lostFrames d events + lostFrames d later := by
  rw [lostFrames, List.map_append, List.sum_append]
  rfl

/-- What the counters gained before some events, counter by counter. -/
theorem Counters.ofEvents_eq (events : List Event) :
    Counters.ofEvents events = {
      transfers := 0
      dropped := UInt64.ofNat (lostFrames .output events)
      silence := UInt64.ofNat (lostFrames .input events)
      deviceErrors := UInt64.ofNat (events.countP Event.isFailure)
      workersStarted := UInt64.ofNat (events.countP Event.isWorkerStarted) } := by
  induction events with
  | nil => rfl
  | cons event rest ih =>
    have hsplit : Counters.ofEvents (event :: rest) = ofEvent event + Counters.ofEvents rest := rfl
    rw [hsplit, ih]
    cases event <;>
      simp [ofEvent, add_def, zero, lostFrames, Event.lost, List.countP_cons, Event.isFailure,
        Event.isWorkerStarted, UInt64.ofNat_add, UInt64.add_comm]

/-! ### What is owed -/

/-- What the client has counted and not yet told. -/
def ClientState.owed : ClientState → Counters
  | heralding _ => { Counters.zero with workersStarted := 1 }
  | reportingDrop _ missing _ => { Counters.zero with dropped := UInt64.ofNat missing }
  | reportingSilence missing _ => { Counters.zero with silence := UInt64.ofNat missing }
  | _ => Counters.zero

/-- Whether the client has counted something and not yet told it. -/
def ClientState.isTelling : ClientState → Bool
  | heralding _ => true
  | reportingDrop _ _ _ => true
  | reportingSilence _ _ => true
  | _ => false

/-- Whether a worker has counted a failure and not yet told it. -/
def WorkerState.isTelling : WorkerState → Bool
  | reporting _ => true
  | _ => false

namespace Engine

/-- Whether the worker of lane `i` has counted a failure and not yet told it. -/
def isTellingAt (e : Engine) (i : Nat) : Bool := (e.workerAt? i).any WorkerState.isTelling

/-- No thread is between an addition to a counter and the event that follows it. -/
def hasTold (e : Engine) : Bool :=
  !e.client.isTelling && (List.range e.lanes.length).all fun i => !e.isTellingAt i

/-- How many of the first `n` workers have counted a failure and not yet told it. -/
def untold (n : Nat) (e : Engine) : Nat := ∑ i ∈ Finset.range n, (e.isTellingAt i).toNat

/-- What the threads have counted and not yet told. -/
def owed (n : Nat) (e : Engine) : Counters := e.client.owed + Counters.ofFailures (e.untold n)

end Engine

/-- A transfer that returned: its frames, and how many devices were bound. -/
structure Completion where
  frames : Nat
  devices : Nat
  deriving DecidableEq, Repr

/-- The frames of a transfer that was just answered. -/
def ClientState.moved? : ClientState → Option Nat
  | answered (.moved _ frames _) => some frames
  | _ => none

/-- The transfer that returns in a moment. -/
def Moment.returned? (m : Moment) : Option Completion :=
  match m.action with
  | .client _ => (m.engine.step m.action).bind fun e =>
    e.client.moved?.map (⟨·, m.engine.lanes.length⟩)
  | _ => none

/-- The transfers that returned in the course of a history. -/
def completions (h : List Moment) : List Completion := h.filterMap Moment.returned?

theorem completions_snoc (h : List Moment) (m : Moment) :
    completions (h ++ [m]) = completions h ++ m.returned?.toList := by
  unfold completions
  rw [List.filterMap_append]
  cases hm : m.returned? <;> simp [hm]

/-- What a moment gives back of what is owed: an event is told, or a transfer returns. -/
def Moment.paid (m : Moment) : Counters :=
  Counters.ofEvents (m.telling?.toList.map (·.event)) +
    Counters.ofTransfers m.returned?.toList.length

/-- A moment that tells nothing and returns nothing gives nothing back. -/
theorem Moment.paid_eq_zero {m : Moment} (told : m.telling? = none)
    (returned : m.returned? = none) :
    m.paid = Counters.zero := by
  rw [paid, told, returned]
  rfl

namespace Engine

variable {e e' : Engine} {asked : Option Call} {gain : Option Single}

/-- The transfer that returns by the client's next action. -/
def clientReturns? (e : Engine) : Option Completion :=
  match e.client with
  | .countingTransfer p => some ⟨p.frames, e.lanes.length⟩
  | _ => none

/-- A transfer returns when it has been counted, and no other call answers like one. -/
theorem returned?_client {input : ClientInput} (carries : e.client.Carries e.context asked gain)
    (hs : e.step (.client input) = some e') :
    (Moment.mk e (.client input)).returned? = e.clientReturns? := by
  have hreturned : (Moment.mk e (.client input)).returned? =
      e'.client.moved?.map (⟨·, e.lanes.length⟩) := by
    simp only [Moment.returned?, hs, Option.bind_some]
  rw [hreturned]
  cases clientStep_of_stepClient hs with
  | sent hc _ _ | received hc _ _ _ _ =>
    simp only [clientReturns?, hc]
    split <;> rfl
  | latencyTold hc =>
    simp only [clientReturns?, hc, afterLatency]
    split <;> rfl
  | located hc =>
    simp only [clientReturns?, hc, locate]
    split <;> rfl
  | @released a hc =>
    rw [hc] at carries
    simp only [clientReturns?, hc, answer]
    cases a with
    | moved out frames ms => contradiction
    | _ => rfl
  | opened hc | refused hc | unserved hc | bound hc _ | spawned hc _ | spawnRefused hc _
  | staffed hc _ | enrolled hc | heralded hc _ | scaled hc | allSent hc _ | dropCounted hc
  | dropReported hc _ | silenceCounted hc | silenceReported hc | transferred hc | rebased hc
  | drained hc | halted hc | sealed hc | stopped hc _ | allStopped hc _ | joined hc _ _
  | allJoined hc _ =>
    simp only [clientReturns?, hc]
    rfl

/-- The client owes what it counts until it tells it. -/
theorem owed_client {input : ClientInput} (carries : e.client.Carries e.context asked gain)
    (hs : e.step (.client input) = some e') :
    e.client.owed + (Moment.mk e (.client input)).counts =
      (Moment.mk e (.client input)).paid + e'.client.owed := by
  rw [Moment.paid, returned?_client carries hs]
  cases clientStep_of_stepClient hs with
  | heralded hc hl | dropReported hc hl =>
    simp [Moment.counts, Moment.telling?, clientTelling?, clientCounts, clientReturns?,
      ClientState.owed, Counters.ofEvents, Counters.ofEvent, Counters.ofTransfers,
      Counters.add_def, Counters.zero, hc, hl]
  | sent hc _ _ | received hc _ _ _ _ =>
    simp only [Moment.counts, Moment.telling?, clientTelling?, clientCounts, clientReturns?, hc]
    split <;> rfl
  | latencyTold hc =>
    simp only [Moment.counts, Moment.telling?, clientReturns?, afterLatency, hc]
    split <;> rfl
  | located hc =>
    simp only [Moment.counts, Moment.telling?, clientReturns?, locate, hc]
    split <;> rfl
  | enrolled hc | dropCounted hc | silenceCounted hc | silenceReported hc | transferred hc =>
    simp [Moment.counts, Moment.telling?, clientTelling?, clientCounts, clientReturns?,
      ClientState.owed, Counters.ofEvents, Counters.ofEvent, Counters.ofTransfers,
      Counters.add_def, Counters.zero, answer, hc]
  | opened hc | refused hc | unserved hc | bound hc _ | spawned hc _ | spawnRefused hc _
  | staffed hc _ | scaled hc | allSent hc _ | rebased hc | drained hc | halted hc | sealed hc
  | stopped hc _ | allStopped hc _ | joined hc _ _ | allJoined hc _ | released hc =>
    simp only [Moment.counts, Moment.telling?, clientTelling?, clientCounts, clientReturns?, hc]
    rfl

/-- A call begins with nothing owed. -/
theorem owed_begin (c : Call) : (e.begin c).client.owed = Counters.zero := by
  cases c with
  | transfer buffer frames =>
    simp only [begin, beginTransfer]
    split
    · rfl
    · split
      · rfl
      · split <;> rfl
  | negotiate | start | refine | drain | standby =>
    simp only [begin]
    split <;> rfl
  | setGain | pause | flush => rfl

/-- The client leaves what the workers owe as it is. -/
theorem untold_client {input : ClientInput} {opened : List (DeviceProfile × Nat)}
    {ms : List Mark} (sound : e.Sound opened) (ledger : e.Ledger ms) (hs : ClientStep e input e')
    (n : Nat) : e'.untold n = e.untold n := by
  apply Finset.sum_congr rfl
  intro i _
  unfold isTellingAt
  rcases workerAt?_client sound ledger hs i with ⟨hsame, -⟩ | ⟨hover, hnew⟩
  · rw [hsame]
  · have hold : (e.workerAt? i).any WorkerState.isTelling = false := by
      cases hw : e.workerAt? i with
      | none => rfl
      | some w =>
        have ended := hover w hw
        cases w <;> first | rfl | contradiction
    rw [hold]
    rcases hnew with hnew | hnew <;> rw [hnew] <;> rfl

/-- Only its own worker changes what is owed on a lane. -/
theorem untold_set {i n : Nat} {lane lane' : Lane} (hi : i < n) (hl : e.lanes[i]? = some lane)
    (hlanes : e'.lanes = e.lanes.set i lane') :
    e'.untold n + (lane.worker.any WorkerState.isTelling).toNat =
      e.untold n + (lane'.worker.any WorkerState.isTelling).toNat := by
  have hmem : i ∈ Finset.range n := Finset.mem_range.mpr hi
  have hhere : e.isTellingAt i = lane.worker.any WorkerState.isTelling := by
    rw [isTellingAt, workerAt?, hl, Option.bind_some]
  have hthere : e'.isTellingAt i = lane'.worker.any WorkerState.isTelling := by
    obtain ⟨hlt, -⟩ := List.getElem?_eq_some_iff.mp hl
    rw [isTellingAt, workerAt?, hlanes, List.getElem?_set_self hlt, Option.bind_some]
  have hothers : ∑ j ∈ (Finset.range n).erase i, (e'.isTellingAt j).toNat =
      ∑ j ∈ (Finset.range n).erase i, (e.isTellingAt j).toNat := by
    apply Finset.sum_congr rfl
    intro j hj
    have hne : i ≠ j := (Finset.ne_of_mem_erase hj).symm
    rw [isTellingAt, isTellingAt, workerAt?, workerAt?, hlanes, List.getElem?_set_ne hne]
  rw [untold, untold, ← Finset.add_sum_erase _ _ hmem, ← Finset.add_sum_erase _ _ hmem, hothers,
    hhere, hthere]
  omega

/-- A worker owes a failure that it counts until it tells it. -/
theorem untold_worker {i n : Nat} {input : WorkerInput} (hi : i < n)
    (hs : e.stepWorker i input = some e') :
    Counters.ofFailures (e.untold n) + (Moment.mk e (.worker i input)).counts =
      (Moment.mk e (.worker i input)).paid + Counters.ofFailures (e'.untold n) := by
  obtain ⟨lane, w, w', pipe, note, hl, hw, hm, he⟩ := stepWorker_eq_leave hs
  obtain ⟨counters, journal, hleft⟩ :=
    { e with lanes := e.lanes.set i { lane with pipe, worker := some w' } }.leave_eq
      (e.workerName i) note
  have hlanes : e'.lanes = e.lanes.set i { lane with pipe, worker := some w' } := by
    rw [he, hleft]
  have hsum := untold_set hi hl hlanes
  rw [hw, Option.any_some, Option.any_some] at hsum
  have hpaid : (Moment.mk e (.worker i input)).paid =
      Counters.ofEvents ((Moment.mk e (.worker i input)).telling?.toList.map (·.event)) :=
    Counters.add_zero _
  rw [hpaid]
  cases hm with
  | counted =>
    have hone : e'.untold n = e.untold n + 1 := by simpa [WorkerState.isTelling] using hsum
    rw [hone, Counters.ofFailures_add]
    simp [Moment.counts, Moment.telling?, workerAt?, hl, hw, WorkerState.event?, Counters.ofEvents,
      Counters.ofFailures]
  | reported =>
    have hone : 1 + e'.untold n = e.untold n := by
      rw [Nat.add_comm]
      simpa [WorkerState.isTelling] using hsum
    rw [← hone, Counters.ofFailures_add]
    simp [Moment.counts, Moment.telling?, workerAt?, hl, hw, WorkerState.event?, Counters.ofEvents,
      Counters.ofEvent, Counters.ofFailures]
  | entered _ =>
    have hsame : e'.untold n = e.untold n := by
      unfold StreamPlan.firstMove at hsum
      split at hsum <;> simpa [WorkerState.isTelling] using hsum
    rw [hsame]
    simp [Moment.counts, Moment.telling?, workerAt?, hl, hw, WorkerState.event?, Counters.ofEvents]
  | pushed _ _ =>
    have hsame : e'.untold n = e.untold n := by
      unfold WorkerState.afterOffer at hsum
      split at hsum <;> simpa [WorkerState.isTelling] using hsum
    rw [hsame]
    simp [Moment.counts, Moment.telling?, workerAt?, hl, hw, WorkerState.event?, Counters.ofEvents]
  | _ =>
    have hsame : e'.untold n = e.untold n := by simpa [WorkerState.isTelling] using hsum
    rw [hsame]
    simp [Moment.counts, Moment.telling?, workerAt?, hl, hw, WorkerState.event?, Counters.ofEvents,
      Counters.ofEvent]

/-- Every action pays for what it counts, or leaves it owed. -/
theorem owed_step {a : Action} {n : Nat} {opened : List (DeviceProfile × Nat)} {ms : List Mark}
    (sound : e.Sound opened) (ledger : e.Ledger ms)
    (carries : e.client.Carries e.context asked gain) (hn : e.candidates.length = n)
    (hs : e.step a = some e') :
    e.owed n + (Moment.mk e a).counts = (Moment.mk e a).paid + e'.owed n := by
  cases a with
  | call c =>
    obtain ⟨ha, rfl⟩ := step_call_eq_some hs
    obtain ⟨answer, hc⟩ := answered_of_isSome ha
    obtain ⟨hlanes, -⟩ := e.begin_keeps c
    have hbefore : e.client.owed = Counters.zero := by rw [hc]; rfl
    have hsame : (e.begin c).untold n = e.untold n := by
      simp only [untold, isTellingAt, workerAt?, hlanes]
    rw [owed, owed, hbefore, owed_begin, hsame, Moment.paid_eq_zero rfl rfl]
    exact Counters.add_comm _ _
  | client input =>
    have hclient := owed_client carries hs
    rw [owed, owed, untold_client sound ledger (clientStep_of_stepClient hs) n,
      ← Counters.add_assoc, ← hclient]
    ac_rfl
  | worker i input =>
    have hi : i < n := by
      obtain ⟨lane, _, _, _, _, hl, -⟩ := stepWorker_eq_leave hs
      obtain ⟨hlt, -⟩ := List.getElem?_eq_some_iff.mp hl
      have hlength := sound.length_lanes (List.ne_nil_of_length_pos (by omega))
      omega
    have hclient : e'.client = e.client := by
      obtain ⟨_, _, _, _, _, counters, journal, rfl⟩ := stepWorker_eq_some hs
      rfl
    rw [owed, owed, hclient, Counters.add_assoc, untold_worker hi hs]
    ac_rfl
  | adjust level =>
    cases hs
    rw [Moment.paid_eq_zero rfl rfl, Counters.zero_add]
    exact Counters.add_zero _

/-- Nothing is owed when no thread is between an addition to a counter and its event. -/
theorem owed_of_hasTold (told : e.hasTold = true) (n : Nat) : e.owed n = Counters.zero := by
  rw [hasTold, Bool.and_eq_true, List.all_eq_true, Bool.not_eq_true'] at told
  obtain ⟨hclient, hworkers⟩ := told
  have hnone : e.untold n = 0 := by
    apply Finset.sum_eq_zero
    intro i _
    by_cases hi : i < e.lanes.length
    · have hquiet := hworkers i (List.mem_range.mpr hi)
      rw [Bool.not_eq_true'] at hquiet
      rw [hquiet]
      rfl
    · rw [isTellingAt, workerAt?, List.getElem?_eq_none (by omega)]
      rfl
  have hzero : e.client.owed = Counters.zero := by
    cases hc : e.client with
    | heralding i | reportingDrop i missing p | reportingSilence missing p =>
      rw [hc] at hclient
      contradiction
    | _ => rfl
  rw [owed, hzero, hnone]
  rfl

end Engine

namespace Run

variable {b : Blueprint} {h : List Moment} {e : Engine}

/-- The counters hold what the listener was told of, or would have been, the transfers that
returned, and what is owed. -/
theorem counters_balance (run : Run b h e) :
    e.counters = Counters.ofEvents ((tellings h).map (·.event)) +
      Counters.ofTransfers (completions h).length + e.owed b.candidates.length := by
  induction run with
  | built hb =>
    obtain ⟨pcm, -, rfl⟩ := Engine.build_eq_ok hb
    simp [Engine.owed, Engine.untold, Engine.isTellingAt, Engine.workerAt?, ClientState.owed,
      tellings, completions, Counters.ofEvents, Counters.ofTransfers, Counters.ofFailures,
      Counters.add_def, Counters.zero]
  | @snoc h e e' a run hs ih =>
    have hstep : e.owed b.candidates.length + (Moment.mk e a).counts =
        (Moment.mk e a).paid + e'.owed b.candidates.length :=
      Engine.owed_step run.sound run.ledger (run.blueprint.1 ▸ run.carries)
        (by rw [run.candidates_eq]) hs
    have htellings : (tellings (h ++ [⟨e, a⟩])).map (·.event) =
        (tellings h).map (·.event) ++ (Moment.mk e a).telling?.toList.map (·.event) := by
      have hone : tellings [⟨e, a⟩] = (Moment.mk e a).telling?.toList :=
        (tellings_cons _ _).trans (List.append_nil _)
      rw [tellings_append, List.map_append, hone]
    rw [(Engine.records_step hs).counters, ih, Counters.add_assoc, hstep, htellings,
      completions_snoc, Counters.ofEvents_append, List.length_append, Counters.ofTransfers_add,
      Moment.paid]
    ac_rfl

/-- The journal has the events that the listener was told of, latest first. -/
theorem journal_perm (run : Run b h e) (listens : b.isListening = true) :
    (e.journal.map (·.2)).Perm ((tellings h).map (·.event)) := by
  rw [run.journal_eq, if_pos listens, List.map_reverse, List.map_map]
  exact List.reverse_perm _

/-- The journal tells of the frames that the listener was told were lost. -/
theorem lostFrames_journal (run : Run b h e) (listens : b.isListening = true) (d : Direction) :
    lostFrames d (e.journal.map (·.2)) = lostFrames d ((tellings h).map (·.event)) :=
  ((run.journal_perm listens).map (Event.lost d)).sum_eq

/-- Whenever nothing is owed, every counter is what the journal says, or the number of transfers
that returned. -/
theorem counters_agree (run : Run b h e) (listens : b.isListening = true)
    (told : e.hasTold = true) :
    e.counters = {
      transfers := UInt64.ofNat (completions h).length
      dropped := UInt64.ofNat (lostFrames .output (e.journal.map (·.2)))
      silence := UInt64.ofNat (lostFrames .input (e.journal.map (·.2)))
      deviceErrors := UInt64.ofNat ((e.journal.map (·.2)).countP Event.isFailure)
      workersStarted := UInt64.ofNat ((e.journal.map (·.2)).countP Event.isWorkerStarted) } := by
  have hperm := run.journal_perm listens
  rw [run.counters_balance, Engine.owed_of_hasTold told, Counters.add_zero, Counters.ofEvents_eq,
    run.lostFrames_journal listens, run.lostFrames_journal listens, hperm.countP_eq,
    hperm.countP_eq]
  simp [Counters.ofTransfers, Counters.add_def, Counters.zero]

end Run

end AudioRelay
