import Mathlib.Data.List.TakeWhile
import AudioRelay.Proofs.Run

/-!
# Transfers under way

A transfer goes the way of its stream and meets lanes that exist. So a playback transfer is
never stuck and never waits for a worker: each of its actions brings it nearer to the answer
that all frames were moved, whatever the pipes take of them.
-/

namespace AudioRelay

namespace ClientState

/-- A transfer goes the way of its stream and asks for lanes that exist. -/
def Fits (direction : Direction) (lanes : Nat) : ClientState → Prop
  | scaling _ => direction = .output
  | sending i _ => direction = .output ∧ i ≤ lanes
  | countingDrop i _ _ => direction = .output ∧ i < lanes
  | reportingDrop i _ _ => direction = .output ∧ i < lanes
  | receiving _ => direction = .input
  | countingSilence _ _ => direction = .input ∧ 0 < lanes
  | reportingSilence _ _ => direction = .input ∧ 0 < lanes
  | askingLatency i _ => i < lanes ∧ (direction = .input → i = 0)
  | _ => True

/-- The frames of a transfer under way, or of the one that was answered last. -/
def frames? : ClientState → Option Nat
  | answered (.moved _ frames _) => some frames
  | scaling p => some p.frames
  | sending _ p => some p.frames
  | countingDrop _ _ p => some p.frames
  | reportingDrop _ _ p => some p.frames
  | askingLatency _ p => some p.frames
  | countingTransfer p => some p.frames
  | _ => none

/-- Whether a playback transfer has offered its frames to lane `i` already. -/
def hasOffered (i : Nat) : ClientState → Bool
  | scaling _ => false
  | sending j _ => i < j
  | countingDrop j _ _ => i ≤ j
  | reportingDrop j _ _ => i ≤ j
  | askingLatency j _ => i ≤ j
  | _ => true

/-- How many actions a playback transfer is away from its answer at most. -/
def distance (lanes : Nat) : ClientState → Nat
  | scaling _ => 4 * lanes + 3
  | sending i _ => 4 * (lanes - i) + 2
  | countingDrop i _ _ => 4 * (lanes - i) + 1
  | reportingDrop i _ _ => 4 * (lanes - i)
  | askingLatency i _ => 4 * (lanes - i) - 1
  | countingTransfer _ => 1
  | _ => 0

end ClientState

namespace Engine

variable {e e' : Engine}

/-- The client goes on as its stream and its lanes allow. -/
theorem fits_client {input : ClientInput}
    (fits : e.client.Fits e.context.direction e.lanes.length) (hs : ClientStep e input e') :
    e'.client.Fits e'.context.direction e'.lanes.length := by
  cases hs with
  | bound hc _ | spawned hc _ | enrolled hc | heralded hc _ | unserved hc | refused hc
  | opened hc | staffed hc _ | spawnRefused hc _ | allSent hc _ | rebased hc | drained hc
  | halted hc | stopped hc _ | allStopped hc _ | joined hc _ _ | allJoined hc _ | released hc
  | transferred hc => trivial
  | scaled hc =>
    rw [hc] at fits
    exact ⟨fits, Nat.zero_le _⟩
  | @sent i p lane frames pipe hc hl hw =>
    rw [hc] at fits
    obtain ⟨hi, _⟩ := List.getElem?_eq_some_iff.mp hl
    dsimp only
    rw [List.length_set]
    split
    · exact ⟨fits.1, hi⟩
    · exact ⟨hi, fun hin => by rw [fits.1] at hin; contradiction⟩
  | dropCounted hc =>
    rw [hc] at fits
    exact fits
  | @dropReported i missing p lane hc hl =>
    rw [hc] at fits
    exact ⟨fits.2, fun hin => by rw [fits.1] at hin; contradiction⟩
  | received hc hl hr hf hq =>
    rw [hc] at fits
    dsimp only
    split
    · exact ⟨fits, Nat.succ_pos _⟩
    · exact ⟨Nat.succ_pos _, fun _ => rfl⟩
  | silenceCounted hc =>
    rw [hc] at fits
    exact fits
  | @silenceReported missing p hc =>
    rw [hc] at fits
    exact ⟨fits.2, fun _ => rfl⟩
  | latencyTold hc =>
    rw [hc] at fits
    dsimp only [afterLatency]
    split
    · rename_i hd
      exact ⟨hd, fits.1⟩
    · trivial
  | located hc =>
    unfold locate
    split <;> trivial
  | sealed hc =>
    unfold shutCapture
    split <;> trivial

/-- No action takes a transfer astray. -/
theorem fits_step {a : Action} (fits : e.client.Fits e.context.direction e.lanes.length)
    (hs : e.step a = some e') : e'.client.Fits e'.context.direction e'.lanes.length := by
  cases a with
  | call c =>
    obtain ⟨ha, rfl⟩ := step_call_eq_some hs
    cases c with
    | transfer buffer frames =>
      unfold begin beginTransfer
      dsimp only
      split
      · trivial
      · split
        · trivial
        · split
          · rename_i hd
            exact hd
          · rename_i hd
            exact hd
    | negotiate | start | refine | drain | standby =>
      simp only [begin]
      split
      · trivial
      · trivial
    | setGain | pause | flush => trivial
  | client input => exact fits_client fits (clientStep_of_stepClient hs)
  | worker i input =>
    obtain ⟨_, _, _, _, _, counters, journal, rfl⟩ := stepWorker_eq_some hs
    simp only [List.length_set]
    exact fits
  | adjust level =>
    cases hs
    exact fits

end Engine

/-- In every run transfers go the way of their stream and ask for lanes that exist. -/
theorem Run.fits {b : Blueprint} {h : List Moment} {e : Engine} (run : Run b h e) :
    e.client.Fits e.context.direction e.lanes.length := by
  induction run with
  | built hb =>
    obtain ⟨pcm, -, rfl⟩ := Engine.build_eq_ok hb
    trivial
  | snoc _ hs ih => exact Engine.fits_step ih hs

namespace Moment

/-- Whether the client makes a call. -/
def isCall (m : Moment) : Bool :=
  match m.action with
  | .call _ => true
  | _ => false

/-- Whether the client goes on with its call. -/
def isClient (m : Moment) : Bool :=
  match m.action with
  | .client _ => true
  | _ => false

/-- Whether the client offers the frames of a transfer to the pipe of lane `i`. -/
def isOffer (i : Nat) (m : Moment) : Bool :=
  match m.action, m.engine.client with
  | .client .tick, .sending j _ => j == i
  | _, _ => false

end Moment

namespace Engine

variable {e e' : Engine} {frames : Nat}

/-- An action of the client in a playback transfer keeps the frames in mind and brings the
answer nearer. -/
theorem approach {input : ClientInput} (output : e.context.direction = .output)
    (fits : e.client.Fits e.context.direction e.lanes.length)
    (hf : e.client.frames? = some frames) (hs : ClientStep e input e') :
    e'.client.frames? = some frames ∧ e'.lanes.length = e.lanes.length ∧
      e'.client.distance e'.lanes.length < e.client.distance e.lanes.length := by
  cases hs with
  | scaled hc =>
    rw [hc] at hf ⊢
    exact ⟨hf, rfl, Nat.lt_succ_self _⟩
  | @sent i p lane taken pipe hc hl hw =>
    rw [hc] at hf fits ⊢
    obtain ⟨hi, _⟩ := List.getElem?_eq_some_iff.mp hl
    dsimp only
    rw [List.length_set]
    split
    · exact ⟨hf, rfl, Nat.lt_succ_self _⟩
    · refine ⟨hf, rfl, ?_⟩
      simp only [ClientState.distance]
      omega
  | allSent hc hl =>
    rw [hc] at hf ⊢
    refine ⟨hf, rfl, ?_⟩
    simp only [ClientState.distance]
    omega
  | dropCounted hc =>
    rw [hc] at hf ⊢
    exact ⟨hf, rfl, Nat.lt_succ_self _⟩
  | @dropReported i missing p lane hc hl =>
    rw [hc] at hf ⊢
    obtain ⟨hi, _⟩ := List.getElem?_eq_some_iff.mp hl
    refine ⟨hf, rfl, ?_⟩
    simp only [ClientState.distance]
    omega
  | @latencyTold i ms p hc =>
    rw [hc] at hf fits ⊢
    have hi := fits.1
    simp only [afterLatency, output, ClientState.frames?, ClientState.distance] at hf ⊢
    exact ⟨hf, trivial, by omega⟩
  | transferred hc =>
    rw [hc] at hf ⊢
    exact ⟨hf, rfl, Nat.one_pos⟩
  | opened hc | refused hc | unserved hc | bound hc _ | spawned hc _ | spawnRefused hc _
  | staffed hc _ | enrolled hc | heralded hc _ | received hc _ _ _ _ | silenceCounted hc
  | silenceReported hc | rebased hc | located hc | drained hc | halted hc | sealed hc
  | stopped hc _ | allStopped hc _ | joined hc _ _ | allJoined hc _ | released hc =>
    rw [hc] at hf
    contradiction

/-- An action of the client in a playback transfer offers the frames to no lane twice. -/
theorem offer_once {input : ClientInput} {i : Nat} (output : e.context.direction = .output)
    (hi : i < e.lanes.length) (hf : e.client.frames? = some frames) (hs : ClientStep e input e') :
    (e.client.hasOffered i).toNat + (Moment.isOffer i ⟨e, .client input⟩).toNat =
      (e'.client.hasOffered i).toNat := by
  cases hs with
  | scaled hc => simp [Moment.isOffer, ClientState.hasOffered, hc]
  | @sent j p lane taken pipe hc hl hw =>
    have hoffered : (decide (i < j)).toNat + (j == i).toNat = (decide (i ≤ j)).toNat := by
      rcases Nat.lt_trichotomy i j with hlt | heq | hgt
      · simp [hlt, Nat.le_of_lt hlt, Nat.ne_of_gt hlt]
      · simp [heq]
      · simp [Nat.not_lt_of_gt hgt, Nat.not_le_of_gt hgt, Nat.ne_of_lt hgt]
    simp only [Moment.isOffer, hc]
    split
    · exact hoffered
    · exact hoffered
  | @allSent j p hc hl =>
    rw [List.getElem?_eq_none_iff] at hl
    have hlt : i < j := by omega
    have hne : j ≠ i := by omega
    simp [Moment.isOffer, ClientState.hasOffered, hc, hlt, hne]
  | dropCounted hc => simp [Moment.isOffer, ClientState.hasOffered, hc]
  | @dropReported j missing p lane hc hl =>
    simp [Moment.isOffer, ClientState.hasOffered, hc]
  | @latencyTold j ms p hc =>
    have hle : decide (i ≤ j) = decide (i < j + 1) := by
      rw [decide_eq_decide]
      omega
    simp only [Moment.isOffer, ClientState.hasOffered, hc, afterLatency, output]
    rw [hle]
    rfl
  | transferred hc => simp [Moment.isOffer, ClientState.hasOffered, hc, answer]
  | opened hc | refused hc | unserved hc | bound hc _ | spawned hc _ | spawnRefused hc _
  | staffed hc _ | enrolled hc | heralded hc _ | received hc _ _ _ _ | silenceCounted hc
  | silenceReported hc | rebased hc | located hc | drained hc | halted hc | sealed hc
  | stopped hc _ | allStopped hc _ | joined hc _ _ | allJoined hc _ | released hc =>
    rw [hc] at hf
    contradiction

/-- A playback transfer under way can go on. -/
theorem can_move (fits : e.client.Fits e.context.direction e.lanes.length)
    (hf : e.client.frames? = some frames) (busy : e.answer? = none) :
    ∃ input e', e.step (.client input) = some e' := by
  cases hc : e.client with
  | answered a =>
    rw [answer?, hc] at busy
    contradiction
  | askingLatency i p =>
    refine ⟨.latency 0, ?_⟩
    simp only [step, stepClient, hc]
    exact ⟨_, rfl⟩
  | reportingDrop i missing p =>
    rw [hc] at fits
    refine ⟨.tick, ?_⟩
    simp only [step, stepClient, hc, List.getElem?_eq_getElem fits.2]
    exact ⟨_, rfl⟩
  | scaling p | sending i p | countingDrop i missing p | countingTransfer p =>
    refine ⟨.tick, ?_⟩
    simp only [step, stepClient, hc]
    exact ⟨_, rfl⟩
  | _ =>
    rw [hc] at hf
    contradiction

/-- A transfer that was answered was answered with its frames. -/
theorem answered_of_frames? (hf : e.client.frames? = some frames)
    (ha : e.answer?.isSome = true) : ∃ out ms, e.client = .answered (.moved out frames ms) := by
  obtain ⟨a, hc⟩ := answered_of_isSome ha
  rw [hc] at hf ⊢
  cases a with
  | moved out asked ms =>
    obtain rfl := Option.some.inj hf
    exact ⟨out, ms, rfl⟩
  | _ => contradiction

end Engine

/-- How a playback transfer of `frames` frames stands at `e`, when `later` came after its call. -/
structure UnderWay (frames : Nat) (later : List Moment) (e : Engine) : Prop where
  asked : e.client.frames? = some frames
  bounded : later.countP Moment.isClient + e.client.distance e.lanes.length ≤
    4 * e.lanes.length + 3
  offered : ∀ i < e.lanes.length, later.countP (Moment.isOffer i) = (e.client.hasOffered i).toNat

/-- What happened in the course of a call, if `later` came after it. -/
def duringCall (later : List Moment) : List Moment := later.takeWhile fun m => !m.isCall

/-- The engine that takes the next call, or the last one if no other call came. -/
def Engine.atNextCall (later : List Moment) (e : Engine) : Engine :=
  (later.find? Moment.isCall).elim e (·.engine)

/-- A playback transfer of `frames` frames moves them all: its answer says so and it has offered
them to every lane once; or it is the last call, the client can go on with it, and only so many
actions of the client are left. -/
def Delivers (frames : Nat) (later : List Moment) (e : Engine) : Prop :=
  (∃ out ms, (e.atNextCall later).client = .answered (.moved out frames ms)) ∧
      (∀ i < (e.atNextCall later).lanes.length,
        (duringCall later).countP (Moment.isOffer i) = 1) ∨
    later.find? Moment.isCall = none ∧ (∃ input e', e.step (.client input) = some e') ∧
      later.countP Moment.isClient < 4 * e.lanes.length + 3

/-- Every transfer of a history moves all of its frames if it has enough bytes for them and
finds devices bound. -/
def DeliversAll (h : List Moment) (e : Engine) : Prop :=
  ∀ (earlier later : List Moment) (e₀ : Engine) (buffer : List UInt8) (frames : Nat),
    h = earlier ++ ⟨e₀, .call (.transfer buffer frames)⟩ :: later → e₀.isIdle = false →
      frames * e₀.context.frameSize ≤ buffer.length → Delivers frames later e

namespace UnderWay

variable {frames : Nat} {later : List Moment} {e e' : Engine}

/-- An action of the client brings a transfer nearer to its answer. -/
theorem client {input : ClientInput} (h : UnderWay frames later e)
    (output : e.context.direction = .output)
    (fits : e.client.Fits e.context.direction e.lanes.length) (hs : Engine.ClientStep e input e') :
    UnderWay frames (later ++ [⟨e, .client input⟩]) e' := by
  obtain ⟨hf, hlength, hlt⟩ := Engine.approach output fits h.asked hs
  have hbound := h.bounded
  refine ⟨hf, ?_, ?_⟩
  · have hone : List.countP Moment.isClient [⟨e, .client input⟩] = 1 := rfl
    rw [List.countP_append]
    omega
  · intro i hi
    rw [hlength] at hi
    have honce := Engine.offer_once output hi h.asked hs
    have hsingle : List.countP (Moment.isOffer i) [⟨e, .client input⟩] =
        (Moment.isOffer i ⟨e, .client input⟩).toNat := by
      cases hoffer : Moment.isOffer i ⟨e, .client input⟩ <;> simp [hoffer]
    rw [List.countP_append, h.offered i hi, hsingle, honce]

/-- Other threads leave a transfer where it is. -/
theorem other {a : Action} (h : UnderWay frames later e) (client : e'.client = e.client)
    (lanes : e'.lanes.length = e.lanes.length)
    (others : Moment.isClient ⟨e, a⟩ = false ∧ ∀ i, Moment.isOffer i ⟨e, a⟩ = false) :
    UnderWay frames (later ++ [⟨e, a⟩]) e' := by
  obtain ⟨asked, bounded, offered⟩ := h
  rw [← client, ← lanes] at bounded
  refine ⟨client ▸ asked, ?_, ?_⟩
  · rw [List.countP_append]
    simpa [others.1] using bounded
  · intro i hi
    rw [lanes] at hi
    rw [List.countP_append, offered i hi, client]
    simp [others.2 i]

end UnderWay

/-- Until the next call a playback transfer is under way, or answered. -/
theorem Run.under_way {b : Blueprint} {h : List Moment} {e : Engine} (run : Run b h e)
    (output : b.context.direction = .output) :
    ∀ (earlier later : List Moment) (e₀ : Engine) (buffer : List UInt8) (frames : Nat),
      h = earlier ++ ⟨e₀, .call (.transfer buffer frames)⟩ :: later → e₀.isIdle = false →
      frames * e₀.context.frameSize ≤ buffer.length → later.find? Moment.isCall = none →
      UnderWay frames later e := by
  induction run with
  | built _ =>
    intro earlier later e₀ buffer frames heq
    exact absurd heq.symm (List.append_ne_nil_of_right_ne_nil _ (List.cons_ne_nil _ _))
  | @snoc h e e' a run hs ih =>
    intro earlier later e₀ buffer frames heq active enough quiet
    have hd : e.context.direction = .output := by rw [run.blueprint.1, output]
    rcases List.eq_nil_or_concat later with rfl | ⟨later, m, rfl⟩
    · -- The transfer has just begun.
      obtain ⟨rfl, hm⟩ := List.append_inj' heq rfl
      obtain ⟨rfl, rfl⟩ := Moment.mk.inj (List.cons.inj hm).1
      obtain ⟨-, rfl⟩ := Engine.step_call_eq_some hs
      simp only [Engine.begin, Engine.beginTransfer, if_neg (Nat.not_lt.mpr enough), active, hd,
        Bool.false_eq_true, if_false]
      exact ⟨rfl, Nat.le_of_eq (Nat.zero_add _), fun i hi => rfl⟩
    · rw [List.concat_eq_append] at heq quiet ⊢
      rw [← List.cons_append, ← List.append_assoc] at heq
      obtain ⟨hh, hm⟩ := List.append_inj' heq rfl
      obtain rfl := (List.cons.inj hm).1
      rw [List.find?_append, Option.or_eq_none_iff] at quiet
      have underWay := ih earlier later e₀ buffer frames hh active enough quiet.1
      cases a with
      | call c => simp [Moment.isCall] at quiet
      | client input => exact underWay.client hd run.fits (Engine.clientStep_of_stepClient hs)
      | worker i input =>
        obtain ⟨_, lane, _, _, _, counters, journal, rfl⟩ := Engine.stepWorker_eq_some hs
        exact underWay.other rfl List.length_set ⟨rfl, fun _ => rfl⟩
      | adjust level =>
        cases hs
        exact underWay.other rfl rfl ⟨rfl, fun _ => rfl⟩

/-- A transfer that is answered has offered its frames to every lane once. -/
theorem UnderWay.answered {frames : Nat} {later : List Moment} {e : Engine}
    (h : UnderWay frames later e) (ha : e.answer?.isSome = true) :
    (∃ out ms, e.client = .answered (.moved out frames ms)) ∧
      ∀ i < e.lanes.length, later.countP (Moment.isOffer i) = 1 := by
  obtain ⟨out, ms, hc⟩ := Engine.answered_of_frames? h.asked ha
  refine ⟨⟨out, ms, hc⟩, ?_⟩
  intro i hi
  have hoffered := h.offered i hi
  rw [hc] at hoffered
  exact hoffered

/-- No playback transfer is refused or held up: it moves all of its frames, whatever becomes of
them behind the pipes. -/
theorem Run.delivers_all {b : Blueprint} {h : List Moment} {e : Engine} (run : Run b h e)
    (output : b.context.direction = .output) : DeliversAll h e := by
  intro earlier later e₀ buffer frames heq active enough
  unfold Delivers Engine.atNextCall duringCall
  cases hfind : later.find? Moment.isCall with
  | some m =>
    obtain ⟨hcall, between, rest, rfl, hbetween⟩ := List.find?_eq_some_iff_append.mp hfind
    rw [heq, ← List.cons_append, ← List.append_assoc] at run
    obtain ⟨run', e', hs⟩ := run.before
    have quiet : between.find? Moment.isCall = none :=
      List.find?_eq_none.mpr fun x hx => by simpa using hbetween x hx
    have underWay := run'.under_way output earlier between e₀ buffer frames rfl active enough quiet
    have hduring : (between ++ m :: rest).takeWhile (fun m => !m.isCall) = between := by
      rw [List.takeWhile_append_of_pos hbetween, List.takeWhile_cons_of_neg (by simp [hcall]),
        List.append_nil]
    rw [hduring]
    obtain ⟨me, ma⟩ := m
    cases ma with
    | call c => exact .inl (underWay.answered (Engine.step_call_eq_some hs).1)
    | _ => contradiction
  | none =>
    have underWay := run.under_way output earlier later e₀ buffer frames heq active enough hfind
    cases ha : e.answer? with
    | some a =>
      have answered : e.answer?.isSome = true := by rw [ha]; rfl
      have hduring : later.takeWhile (fun m => !m.isCall) = later := by
        rw [List.takeWhile_eq_self_iff]
        intro x hx
        have hcall := List.find?_eq_none.mp hfind x hx
        simpa using hcall
      rw [hduring]
      exact .inl (underWay.answered answered)
    | none =>
      obtain ⟨input, e', hs⟩ := Engine.can_move run.fits underWay.asked ha
      have hd : e.context.direction = .output := by rw [run.blueprint.1, output]
      have hlt :=
        (Engine.approach hd run.fits underWay.asked (Engine.clientStep_of_stepClient hs)).2.2
      have hbound := underWay.bounded
      exact .inr ⟨rfl, ⟨input, e', hs⟩, by omega⟩

end AudioRelay
