import Mathlib.Data.List.Basic
import AudioRelay.Proofs.View

/-!
# Device calls

A worker hands each transfer to its device in one call: attempts of the same transfer, of
which all but the last came to a transient fault. A worker makes one call after the other, so
the attempts that its device settled are those of its calls in order, and no call but the
last can be open.
-/

namespace AudioRelay

namespace Retry

/-- The attempts that are left to a call whose attempts came out so, if it is not over. -/
def left? {α : Type} (left : Nat) : List (Outcome α) → Option Nat
  | [] => some left
  | .failed fault :: rest => (again? fault left).bind fun left => left? left rest
  | _ :: _ => none

/-- The last attempt decides whether a call that was not over is so now. -/
theorem left?_snoc {α : Type} (left : Nat) (outcomes : List (Outcome α)) (last : Outcome α) :
    left? left (outcomes ++ [last]) = (left? left outcomes).bind fun left => left? left [last] := by
  induction outcomes generalizing left with
  | nil => rfl
  | cons o rest ih =>
    cases o with
    | failed fault =>
      simp only [List.cons_append, left?, Option.bind_assoc]
      congr 1
      funext left
      exact ih left
    | done value => rfl
    | crashed misuse => rfl

/-- A call that is not over has met nothing but faults. -/
theorem failed_of_left? {α : Type} {left spare : Nat} {outcomes : List (Outcome α)}
    (h : left? spare outcomes = some left) : ∀ o ∈ outcomes, ∃ fault, o = .failed fault := by
  induction outcomes generalizing spare with
  | nil => simp
  | cons o rest ih =>
    cases o with
    | failed fault =>
      obtain ⟨next, -, hrest⟩ := Option.bind_eq_some_iff.mp h
      intro x hx
      rcases List.mem_cons.mp hx with rfl | hmem
      · exact ⟨fault, rfl⟩
      · exact ih hrest x hmem
    | done value => contradiction
    | crashed misuse => contradiction

end Retry

/-- A transfer that was handed to a device, and what its attempts came to so far. -/
structure DeviceCall where
  transfer : Transfer
  outcomes : List (Outcome (List UInt8))

namespace DeviceCall

/-- The attempts of a call. -/
def attempts (c : DeviceCall) : List (Transfer × Outcome (List UInt8)) :=
  c.outcomes.map fun outcome => (c.transfer, outcome)

/-- The chunk of a write. -/
def chunk? (c : DeviceCall) : Option (List UInt8) :=
  match c.transfer with
  | .write chunk => some chunk
  | .read _ => none

/-- What the last attempt of a call brought, if it succeeded. -/
def result? (c : DeviceCall) : Option (List UInt8) :=
  match c.outcomes.getLast? with
  | some (.done bytes) => some bytes
  | _ => none

/-- The chunk that a call wrote. -/
def played? (c : DeviceCall) : Option (List UInt8) := c.result?.bind fun _ => c.chunk?

/-- The buffer that a call filled. -/
def filled? (c : DeviceCall) : Option (List UInt8) :=
  match c.transfer with
  | .write _ => none
  | .read _ => c.result?

/-- The call may be attempted once more and then `left` times. -/
def IsOpen (spare : Nat) (c : DeviceCall) (left : Nat) : Prop :=
  Retry.left? spare c.outcomes = some left

/-- The call has ended: the last attempt ended it, and none before did. -/
def IsOver (spare : Nat) (c : DeviceCall) : Prop :=
  ∃ earlier last left, c.outcomes = earlier ++ [last] ∧
    Retry.left? spare earlier = some left ∧ Retry.left? left [last] = none

/-- Calls of which only the last may be open. -/
def InTurn (spare : Nat) (calls : List DeviceCall) : Prop :=
  ∀ (n : Nat) (c : DeviceCall), calls[n]? = some c →
    c.IsOver spare ∨ (∃ left, c.IsOpen spare left) ∧ n + 1 = calls.length

variable {spare : Nat} {calls : List DeviceCall} {c : DeviceCall}

/-- Faults bring nothing, so only the last attempt of a call can bring something. -/
theorem filterMap_attempts {f : Transfer × Outcome (List UInt8) → Option (List UInt8)}
    (hf : ∀ transfer fault, f (transfer, .failed fault) = none)
    (hc : c.IsOver spare ∨ ∃ left, c.IsOpen spare left) :
    c.attempts.filterMap f =
      (c.outcomes.getLast?.bind fun last => f (c.transfer, last)).toList := by
  have faults {left : Nat} {outcomes : List (Outcome (List UInt8))}
      (h : Retry.left? spare outcomes = some left) :
      outcomes.filterMap (fun o => f (c.transfer, o)) = [] := by
    rw [List.filterMap_eq_nil_iff]
    intro o ho
    obtain ⟨fault, rfl⟩ := Retry.failed_of_left? h o ho
    exact hf c.transfer fault
  unfold attempts
  rw [List.filterMap_map]
  rcases hc with ⟨earlier, last, left, heq, hleft, -⟩ | ⟨left, hopen⟩
  · rw [heq, List.filterMap_append, Function.comp_def, faults hleft, List.getLast?_concat]
    cases hlast : f (c.transfer, last) <;> simp [hlast]
  · rw [Function.comp_def, faults hopen]
    cases hlast : c.outcomes.getLast? with
    | none => rfl
    | some last =>
      obtain ⟨fault, rfl⟩ := Retry.failed_of_left? hopen last (List.mem_of_getLast? hlast)
      rw [Option.bind_some, hf]
      rfl

/-- Calls made in turn write the chunks of those that succeeded. -/
theorem InTurn.played (turn : InTurn spare calls) :
    (calls.flatMap attempts).filterMap Deed.wrote? = calls.filterMap played? := by
  rw [List.filterMap_flatMap, List.filterMap_eq_flatMap_toList]
  apply List.flatMap_congr
  intro c hc
  obtain ⟨n, hn⟩ := List.mem_iff_getElem?.mp hc
  have faultless (t : Transfer) (fault : DeviceError) : Deed.wrote? (t, .failed fault) = none := by
    cases t <;> rfl
  rw [filterMap_attempts faultless ((turn n c hn).imp_right And.left)]
  unfold played? chunk? result?
  cases c.outcomes.getLast? with
  | none => rfl
  | some last => cases last <;> cases c.transfer <;> rfl

/-- Calls made in turn read what those that succeeded filled. -/
theorem InTurn.filled (turn : InTurn spare calls) :
    (calls.flatMap attempts).filterMap Deed.gave? = calls.filterMap filled? := by
  rw [List.filterMap_flatMap, List.filterMap_eq_flatMap_toList]
  apply List.flatMap_congr
  intro c hc
  obtain ⟨n, hn⟩ := List.mem_iff_getElem?.mp hc
  have faultless (t : Transfer) (fault : DeviceError) : Deed.gave? (t, .failed fault) = none := by
    cases t <;> rfl
  rw [filterMap_attempts faultless ((turn n c hn).imp_right And.left)]
  unfold filled? result?
  cases c.outcomes.getLast? with
  | none => cases c.transfer <;> rfl
  | some last => cases last <;> cases c.transfer <;> rfl

/-- Calls that are all over were made in turn. -/
theorem inTurn_of_over (ended : ∀ c ∈ calls, c.IsOver spare) : InTurn spare calls :=
  fun _ _ hc => .inl (ended _ (List.mem_of_getElem? hc))

/-- A call may be made once all others are over. -/
theorem inTurn_snoc {left : Nat} (ended : ∀ c ∈ calls, c.IsOver spare) (hc : c.IsOpen spare left) :
    InTurn spare (calls ++ [c]) := by
  intro n x hx
  rw [List.getElem?_append] at hx
  split at hx
  · exact .inl (ended x (List.mem_of_getElem? hx))
  · obtain ⟨hn, rfl⟩ := List.getElem?_eq_some_iff.mp hx
    simp only [List.length_singleton] at hn
    refine .inr ⟨⟨left, ?_⟩, by rw [List.length_append, List.length_singleton]; omega⟩
    simpa using hc

end DeviceCall

/-- Transfers that a worker of a stream makes: playback writes chunks, capture reads whole ones. -/
def Transfer.Suits (plan : StreamPlan) : Transfer → Prop
  | .write _ => plan.direction = .output
  | .read length => plan.direction = .input ∧ length = plan.chunkBytes

/-- What a worker of a stream does. -/
def WorkerState.Suits (plan : StreamPlan) : WorkerState → Prop
  | taking => plan.direction = .output
  | idling => plan.direction = .output
  | transferring transfer _ => transfer.Suits plan
  | pausing transfer _ => transfer.Suits plan
  | pumping _ => plan.direction = .input
  | offering _ _ => plan.direction = .input
  | _ => True

/-- Where a worker stands with its calls: one is open while it transfers, else none is. -/
def Serves (spare : Nat) (calls : List DeviceCall) : Option WorkerState → Prop
  | some (.transferring transfer left) =>
    ∃ before outcomes, calls = before ++ [⟨transfer, outcomes⟩] ∧
      (∀ c ∈ before, c.IsOver spare) ∧ Retry.left? spare outcomes = some left
  | some (.pausing transfer left) =>
    ∃ before outcomes, calls = before ++ [⟨transfer, outcomes⟩] ∧
      (∀ c ∈ before, c.IsOver spare) ∧ Retry.left? spare outcomes = some left
  | _ => ∀ c ∈ calls, c.IsOver spare

/-- Calls that account for every chunk that was taken and for every attempt. -/
structure Logged (plan : StreamPlan) (calls : List DeviceCall) (ds : List Deed) : Prop where
  transfers : ∀ c ∈ calls, c.transfer.Suits plan
  taken : Deed.taken ds = calls.filterMap (·.chunk?)
  attempts : Deed.attempts ds = calls.flatMap (·.attempts)

/-- A worker that does what its stream is for, and the calls it has made. -/
structure Served (plan : StreamPlan) (w : Option WorkerState) (calls : List DeviceCall)
    (ds : List Deed) : Prop where
  suits : ∀ x, w = some x → x.Suits plan
  logged : Logged plan calls ds
  serves : Serves plan.retry.spare calls w

namespace Logged

variable {plan : StreamPlan} {calls : List DeviceCall} {ds : List Deed}

/-- Other deeds concern no call. -/
theorem quiet (hl : Logged plan calls ds) {more : List Deed} (taken : Deed.taken more = [])
    (attempts : Deed.attempts more = []) : Logged plan calls (ds ++ more) where
  transfers := hl.transfers
  taken := by rw [Deed.taken_append, taken, List.append_nil, hl.taken]
  attempts := by rw [Deed.attempts_append, attempts, List.append_nil, hl.attempts]

/-- A call begins without an attempt. -/
theorem hand (hl : Logged plan calls ds) {transfer : Transfer} (suits : transfer.Suits plan)
    {more : List Deed} (taken : Deed.taken more = (DeviceCall.mk transfer []).chunk?.toList)
    (attempts : Deed.attempts more = []) :
    Logged plan (calls ++ [⟨transfer, []⟩]) (ds ++ more) where
  transfers := by
    intro c hc
    rcases List.mem_append.mp hc with hmem | hnew
    · exact hl.transfers c hmem
    · rw [List.mem_singleton.mp hnew]
      exact suits
  taken := by
    rw [Deed.taken_append, taken, hl.taken, List.filterMap_append]
    rfl
  attempts := by
    rw [Deed.attempts_append, attempts, hl.attempts, List.flatMap_append]
    rfl

/-- An attempt is one of the open call. -/
theorem settle {before : List DeviceCall} {transfer : Transfer}
    {outcomes : List (Outcome (List UInt8))}
    (hl : Logged plan (before ++ [⟨transfer, outcomes⟩]) ds) (last : Outcome (List UInt8)) :
    Logged plan (before ++ [⟨transfer, outcomes ++ [last]⟩])
      (ds ++ [.attempted transfer last]) where
  transfers := by
    intro c hc
    rcases List.mem_append.mp hc with hmem | hnew
    · exact hl.transfers c (List.mem_append_left _ hmem)
    · rw [List.mem_singleton.mp hnew]
      exact hl.transfers ⟨transfer, outcomes⟩
        (List.mem_append_right _ (List.mem_singleton.mpr rfl))
  taken := by
    rw [Deed.taken_append, hl.taken, List.filterMap_append, List.filterMap_append]
    exact List.append_nil _
  attempts := by
    rw [Deed.attempts_append, hl.attempts]
    simp [DeviceCall.attempts, Deed.attempts]

end Logged

namespace Served

variable {plan : StreamPlan} {calls : List DeviceCall} {ds : List Deed} {transfer : Transfer}
  {left : Nat}

/-- A settled attempt is one of the open call. -/
theorem settle (hs : Served plan (some (.transferring transfer left)) calls ds)
    (last : Outcome (List UInt8)) :
    ∃ before outcomes, (∀ c ∈ before, c.IsOver plan.retry.spare) ∧
      Retry.left? plan.retry.spare outcomes = some left ∧
      Logged plan (before ++ [⟨transfer, outcomes ++ [last]⟩])
        (ds ++ [.attempted transfer last]) := by
  obtain ⟨before, outcomes, rfl, ended, hleft⟩ := hs.serves
  exact ⟨before, outcomes, ended, hleft, hs.logged.settle last⟩

/-- An attempt that leaves none ends the call. -/
theorem finish (hs : Served plan (some (.transferring transfer left)) calls ds)
    (last : Outcome (List UInt8)) (hlast : Retry.left? left [last] = none) :
    ∃ calls', Logged plan calls' (ds ++ [.attempted transfer last]) ∧
      ∀ c ∈ calls', c.IsOver plan.retry.spare := by
  obtain ⟨before, outcomes, ended, hleft, hlog⟩ := hs.settle last
  refine ⟨_, hlog, ?_⟩
  intro c hc
  rcases List.mem_append.mp hc with hmem | hnew
  · exact ended c hmem
  · rw [List.mem_singleton.mp hnew]
    exact ⟨outcomes, last, left, rfl, hleft, hlast⟩

/-- A call begins when none is open. -/
theorem begin (hl : Logged plan calls ds) (ended : ∀ c ∈ calls, c.IsOver plan.retry.spare)
    (transfer : Transfer) (suits : transfer.Suits plan) {more : List Deed}
    (taken : Deed.taken more = (DeviceCall.mk transfer []).chunk?.toList)
    (attempts : Deed.attempts more = []) :
    Served plan (some (.transferring transfer plan.retry.spare)) (calls ++ [⟨transfer, []⟩])
      (ds ++ more) where
  suits := by
    rintro x ⟨⟩
    exact suits
  logged := hl.hand suits taken attempts
  serves := ⟨calls, [], rfl, ended, rfl⟩

/-- A worker that goes on between calls. -/
theorem of_over {w : WorkerState} (suits : w.Suits plan) (logged : Logged plan calls ds)
    (serves : Serves plan.retry.spare calls (some w)) : Served plan (some w) calls ds where
  suits := by
    rintro x ⟨⟩
    exact suits
  logged := logged
  serves := serves

/-- Every move of a worker leaves it a worker that makes its calls in turn. -/
theorem move {running : Bool} {id : DeviceId} {pipe pipe' : Pipe} {w w' : WorkerState}
    {input : WorkerInput} {note : Option Note} (hs : Served plan (some w) calls ds)
    (hm : w.Move plan running id pipe input w' pipe' note) :
    ∃ calls', Served plan (some w') calls' (ds ++ (w.deed? plan pipe input).toList) := by
  have suits := hs.suits w rfl
  -- A worker whose device settles nothing has made the same calls.
  have still {w' : WorkerState} (suits' : w'.Suits plan)
      (serves : Serves plan.retry.spare calls (some w')) :
      ∃ calls', Served plan (some w') calls' (ds ++ []) :=
    ⟨calls, .of_over suits' (hs.logged.quiet rfl rfl) serves⟩
  cases hm with
  | entered hrun =>
    unfold StreamPlan.firstMove
    cases hd : plan.direction with
    | output => exact still hd hs.serves
    | input => exact ⟨_, .begin hs.logged hs.serves (.read plan.chunkBytes) ⟨hd, rfl⟩ rfl rfl⟩
  | @took chunk pipe' hr hne =>
    rw [WorkerState.deed?_of_took hr hne]
    exact ⟨_, .begin hs.logged hs.serves (.write chunk) suits rfl rfl⟩
  | starved hr =>
    rw [WorkerState.deed?_of_starved hr]
    exact still suits hs.serves
  | @wrote chunk bytes left =>
    obtain ⟨calls', hlog, ended⟩ := hs.finish (.done bytes) rfl
    exact ⟨calls', .of_over trivial hlog ended⟩
  | @filled bytes left =>
    obtain ⟨calls', hlog, ended⟩ := hs.finish (.done bytes) rfl
    exact ⟨calls', .of_over suits.1 hlog ended⟩
  | @retried transfer left fault ht =>
    obtain ⟨before, outcomes, ended, hleft, hlog⟩ := hs.settle (.failed fault)
    refine ⟨_, .of_over suits hlog ⟨before, _, rfl, ended, ?_⟩⟩
    rw [Retry.left?_snoc, hleft]
    simp only [Option.bind_some, Retry.left?, Retry.again?, ht, if_true]
  | @gaveUp transfer left fault hf =>
    have hagain : Retry.again? fault left = none := by
      rcases hf with hpermanent | rfl
      · cases left <;> simp only [Retry.again?, hpermanent, Bool.false_eq_true, if_false]
      · rfl
    obtain ⟨calls', hlog, ended⟩ :=
      hs.finish (.failed fault) (by rw [Retry.left?, hagain, Option.bind_none])
    exact ⟨calls', .of_over trivial hlog ended⟩
  | @died transfer left misuse =>
    obtain ⟨calls', hlog, ended⟩ := hs.finish (.crashed misuse) rfl
    exact ⟨calls', .of_over trivial hlog ended⟩
  | rested => exact still suits hs.serves
  | @pushed rest frames pipe' hw hg =>
    unfold WorkerState.afterOffer
    split
    · exact still trivial hs.serves
    · exact still suits hs.serves
  | woke | blamed | excused | counted | reported | refused | ended | halted | abandoned =>
    exact still trivial hs.serves
  | offered | admitted | parked | roused =>
    exact still suits hs.serves

/-- A worker makes its calls in turn. -/
theorem inTurn {w : Option WorkerState} (hs : Served plan w calls ds) :
    DeviceCall.InTurn plan.retry.spare calls := by
  have serves := hs.serves
  unfold Serves at serves
  split at serves
  · obtain ⟨before, outcomes, rfl, ended, hleft⟩ := serves
    exact DeviceCall.inTurn_snoc ended hleft
  · obtain ⟨before, outcomes, rfl, ended, hleft⟩ := serves
    exact DeviceCall.inTurn_snoc ended hleft
  · exact DeviceCall.inTurn_of_over serves

/-- A worker that comes to a lane has its calls yet to make. -/
theorem staff {w : Option WorkerState} (hs : Served plan w calls ds) :
    Served plan (some (w.getD .looping)) calls ds := by
  cases w with
  | none => exact .of_over trivial hs.logged hs.serves
  | some w => exact hs

end Served

/-- The calls of a cycle account for its deeds, and the worker, while there is one, stands where
they leave it. -/
structure View.Accounted (plan : StreamPlan) (calls : List DeviceCall) (v : View)
    (ds : List Deed) : Prop where
  logged : Logged plan calls ds
  inTurn : DeviceCall.InTurn plan.retry.spare calls
  served : ∀ s, v.station = some s → Served plan s.worker calls ds

namespace View

variable {c : StreamContext} {plan : StreamPlan} {calls : List DeviceCall} {v v' : View}
  {ds more : List Deed}

/-- What does not concern the worker leaves its calls as they are. -/
theorem Accounted.quiet (h : v.Accounted plan calls ds)
    (worker : ∀ s', v'.station = some s' → ∃ s, v.station = some s ∧ s'.worker = s.worker)
    (taken : Deed.taken more = []) (attempts : Deed.attempts more = []) :
    v'.Accounted plan calls (ds ++ more) where
  logged := h.logged.quiet taken attempts
  inTurn := h.inTurn
  served := by
    intro s' hs'
    obtain ⟨s, hs, hw⟩ := worker s' hs'
    obtain ⟨suits, logged, serves⟩ := h.served s hs
    rw [hw]
    exact ⟨suits, logged.quiet taken attempts, serves⟩

/-- A change adds to the calls what it adds to the deeds. -/
theorem Accounted.change (h : v.Accounted plan calls ds) {d : Option Deed}
    (hc : v.Change c plan v' d) : ∃ calls', v'.Accounted plan calls' (ds ++ d.toList) := by
  have same : ∀ s', v.station = some s' → ∃ s, v.station = some s ∧ s'.worker = s.worker :=
    fun s' hs' => ⟨s', hs', rfl⟩
  cases hc with
  | worked hst hw hm =>
    have served := h.served _ hst
    rw [hw] at served
    obtain ⟨calls', served'⟩ := served.move hm
    refine ⟨calls', served'.logged, served'.inTurn, ?_⟩
    rintro s' ⟨⟩
    exact served'
  | staffed =>
    refine ⟨calls, h.logged.quiet rfl rfl, h.inTurn, ?_⟩
    intro s' hs'
    obtain ⟨s, hs, rfl⟩ := Option.map_eq_some_iff.mp hs'
    obtain ⟨suits, logged, serves⟩ := (h.served s hs).staff
    exact ⟨suits, logged.quiet rfl rfl, serves⟩
  | shut _ =>
    refine ⟨calls, h.quiet ?_ rfl rfl⟩
    intro s' hs'
    obtain ⟨s, hs, rfl⟩ := Option.map_eq_some_iff.mp hs'
    exact ⟨s, hs, rfl⟩
  | sent _ hst _ | received _ hst _ =>
    refine ⟨calls, h.quiet ?_ rfl rfl⟩
    rintro s' ⟨⟩
    exact ⟨_, hst, rfl⟩
  | released => exact ⟨calls, h.quiet (fun s' hs' => by contradiction) rfl rfl⟩
  | still | asked | scaled | halted => exact ⟨calls, h.quiet same rfl rfl⟩

/-- A lane that was just bound has made no calls. -/
theorem accounted_nil (h : ∀ s, v.station = some s → s.worker = none) :
    v.Accounted plan [] [] where
  logged := ⟨by simp, rfl, rfl⟩
  inTurn := by simp [DeviceCall.InTurn]
  served := by
    intro s hs
    rw [h s hs]
    exact ⟨by simp, ⟨by simp, rfl, rfl⟩, by simp [Serves]⟩

end View

end AudioRelay
