import AudioRelay.Error
import AudioRelay.Stream.Duration

/-!
# Bounded retries

A transfer is attempted until it succeeds, fails for good or has used up its
attempts; only transient faults are worth another attempt. A policy of no attempts
still makes the first one. An attempt may also never end, and then neither does the run.
-/

namespace AudioRelay

/-- How often a transfer is attempted, and the pause between attempts. -/
structure RetryPolicy where
  attempts : Nat
  delay : Duration
  deriving DecidableEq, Repr

namespace RetryPolicy

/-- Three attempts, a millisecond apart. -/
def default : RetryPolicy := ⟨3, Duration.ofMillis 1⟩

/-- Attempts that may follow the first. -/
def spare (p : RetryPolicy) : Nat := p.attempts - 1

end RetryPolicy

/-- What one attempt came to. -/
inductive Outcome (α : Type) where
  | done (value : α)
  | failed (fault : DeviceError)
  /-- The device broke its promise and took the calling thread with it. -/
  | crashed (misuse : Misuse)
  deriving Repr

namespace Outcome

variable {α : Type}

/-- What an attempt that may never end counts as among others, where none stands for one that never
ends: it has no value to give, and no other attempt follows it. -/
def ofOption : Option (Outcome α) → Outcome (Option α)
  | some (.done value) => .done (some value)
  | some (.failed fault) => .failed fault
  | some (.crashed misuse) => .crashed misuse
  | none => .done none

/-- What came of an attempt that counts so. -/
def toOption : Outcome (Option α) → Option (Outcome α)
  | .done (some value) => some (.done value)
  | .done none => none
  | .failed fault => some (.failed fault)
  | .crashed misuse => some (.crashed misuse)

@[simp] theorem toOption_ofOption (outcome : Option (Outcome α)) :
    (ofOption outcome).toOption = outcome := by
  match outcome with
  | some (.done _) | some (.failed _) | some (.crashed _) | none => rfl

end Outcome

namespace Retry

/-- The attempts left after a fault, if it is to be tried again. -/
def again? (fault : DeviceError) : Nat → Option Nat
  | 0 => none
  | left + 1 => if fault.isTransient then some left else none

/-- Attempts an operation until it settles; `left` attempts may follow a transient
fault, each after a rest. -/
def attempt {σ α : Type} (operation : σ → σ × Outcome α) (rest : σ → σ) : Nat → σ → σ × Outcome α
  | left, s =>
    match operation s with
    | (s, .failed fault) =>
      match left with
      | 0 => (s, .failed fault)
      | left + 1 =>
        if fault.isTransient then attempt operation rest left (rest s) else (s, .failed fault)
    | settled => settled

/-- After a fault either another attempt follows a rest, or the fault is the outcome. -/
theorem attempt_of_failed {σ α : Type} {operation : σ → σ × Outcome α} {rest : σ → σ} {left : Nat}
    {s t : σ} {fault : DeviceError} (h : operation s = (t, .failed fault)) :
    attempt operation rest left s =
      match again? fault left with
      | none => (t, .failed fault)
      | some left => attempt operation rest left (rest t) := by
  cases left with
  | zero => rw [attempt, h]; rfl
  | succ left =>
    rw [attempt, h]
    cases hf : fault.isTransient <;> simp only [again?, hf, if_true, if_false, Bool.false_eq_true]

/-- Attempts an operation as often as the policy allows, sleeping between attempts
unless there is no delay. -/
def run {σ α : Type} (policy : RetryPolicy) (operation : σ → σ × Outcome α)
    (sleep : Duration → σ → σ) (s : σ) : σ × Outcome α :=
  attempt operation (fun s => if policy.delay = .zero then s else sleep policy.delay s)
    policy.spare s

/-- An operation that may never end, as one that counts among the attempts of a run. -/
def settling {σ α : Type} (operation : σ → σ × Option (Outcome α)) (s : σ) :
    σ × Outcome (Option α) :=
  (operation s).map id .ofOption

/-- Nothing of what comes of an operation is lost when it counts among attempts. -/
theorem map_settling {σ α : Type} (operation : σ → σ × Option (Outcome α)) (s : σ) :
    (settling operation s).map id Outcome.toOption = operation s :=
  Prod.ext rfl (Outcome.toOption_ofOption _)

/-- Attempts an operation that may never end as often as the policy allows; nothing comes of a run
of which an attempt never ends. -/
def await {σ α : Type} (policy : RetryPolicy) (operation : σ → σ × Option (Outcome α))
    (sleep : Duration → σ → σ) (s : σ) : σ × Option (Outcome α) :=
  (run policy (settling operation) sleep s).map id Outcome.toOption

end Retry

end AudioRelay
