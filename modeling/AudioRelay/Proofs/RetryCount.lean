import AudioRelay.Retry
import Mathlib.Order.Nat

/-!
# How many attempts a run makes

A run of a policy ends with the first attempt that is not worth another, or with the last one that
the policy allows. What it gives back is what that attempt came to, and there is one pause between
each two attempts. A loop that counts its attempts up in 32 bits makes the same attempts and its
counter says how many they are. An attempt that never ends is the last, and nothing comes of its
run.
-/

namespace AudioRelay

/-- Whether an attempt that came out so is worth another. -/
def Outcome.isTransient {α : Type} : Outcome α → Bool
  | .failed fault => fault.isTransient
  | _ => false

/-- Only a fault is worth another attempt. -/
theorem Outcome.failed_of_isTransient {α : Type} {outcome : Outcome α}
    (h : outcome.isTransient = true) :
    ∃ fault, outcome = .failed fault ∧ fault.isTransient = true := by
  cases outcome with
  | failed fault => exact ⟨fault, rfl, h⟩
  | _ => contradiction

/-- What a run does between two attempts. -/
def RetryPolicy.rest {σ : Type} (policy : RetryPolicy) (sleep : Duration → σ → σ) (s : σ) : σ :=
  if policy.delay = .zero then s else sleep policy.delay s

/-- Nothing happens between two attempts if a pause does nothing. -/
theorem RetryPolicy.rest_self {σ : Type} (policy : RetryPolicy) (s : σ) :
    policy.rest (fun _ s => s) s = s := ite_self _

/-- The number of an attempt is that of the last one of a run: it is the first that is not worth
another or the last that the policy allows. -/
def RetryPolicy.IsLast {α : Type} (policy : RetryPolicy) (outcome : Nat → Outcome α) (c : Nat) :
    Prop :=
  IsLeast {k | 1 ≤ k ∧ ((outcome k).isTransient = false ∨ k = max policy.attempts 1)} c

namespace RetryPolicy

variable {α : Type} {policy : RetryPolicy} {outcome : Nat → Outcome α} {c : Nat}

theorem exists_isLast (policy : RetryPolicy) (outcome : Nat → Outcome α) :
    ∃ c, policy.IsLast outcome c :=
  ⟨_, Nat.isLeast_find ⟨max policy.attempts 1, le_max_right _ _, .inr rfl⟩⟩

/-- Only which attempts are worth another decides which is the last, and they are numbered from
one. -/
theorem IsLast.congr {β : Type} {outcome' : Nat → Outcome β}
    (h : ∀ k, 1 ≤ k → (outcome' k).isTransient = (outcome k).isTransient)
    (last : policy.IsLast outcome c) : policy.IsLast outcome' c := by
  obtain ⟨⟨hpos, hsettles⟩, hleast⟩ := last
  refine ⟨⟨hpos, ?_⟩, fun k hk => hleast ⟨hk.1, ?_⟩⟩
  · rwa [h c hpos]
  · rw [← h k hk.1]
    exact hk.2

/-- Every attempt before the last is worth another. -/
theorem IsLast.transient (last : policy.IsLast outcome c) {k : Nat} (h : k + 1 < c) :
    (outcome (k + 1)).isTransient = true := by
  by_contra hsettled
  have hle := last.2 ⟨Nat.le_add_left 1 k, .inl (Bool.not_eq_true _ ▸ hsettled)⟩
  omega

/-- A policy allows the last attempt. -/
theorem IsLast.le (last : policy.IsLast outcome c) : c ≤ max policy.attempts 1 :=
  last.2 ⟨le_max_right _ _, .inr rfl⟩

end RetryPolicy

namespace Retry

section

variable {σ α : Type} {operation : σ → σ × Outcome α} {rest : σ → σ}

/-- The state that attempt `n + 1` finds when another attempt followed each one before it. -/
def before (operation : σ → σ × Outcome α) (rest : σ → σ) (s : σ) : Nat → σ
  | 0 => s
  | n + 1 => rest (operation (before operation rest s n)).1

/-- What attempt `k` does and comes to when another attempt followed each one before it. -/
def trial (operation : σ → σ × Outcome α) (rest : σ → σ) (s : σ) (k : Nat) : σ × Outcome α :=
  operation (before operation rest s (k - 1))

/-- What follows the first attempt is a run of its own. -/
theorem before_succ (s : σ) (n : Nat) :
    before operation rest s (n + 1) = before operation rest (rest (operation s).1) n := by
  induction n with
  | zero => rfl
  | succ n ih => rw [before, ih, before]

/-- After a first attempt that is worth another come the attempts of a run of its own. -/
theorem transient_tail {s : σ} {n : Nat}
    (htransient : ∀ k < n + 1, (operation (before operation rest s k)).2.isTransient = true) :
    ∃ t fault, operation s = (t, .failed fault) ∧ fault.isTransient = true ∧
      (∀ k, before operation rest s (k + 1) = before operation rest (rest t) k) ∧
      ∀ k < n, (operation (before operation rest (rest t) k)).2.isTransient = true := by
  obtain ⟨⟨t, outcome⟩, ho⟩ : ∃ r, operation s = r := ⟨_, rfl⟩
  have hfirst : outcome.isTransient = true := by
    have h := htransient 0 n.succ_pos
    rwa [before, ho] at h
  obtain ⟨fault, rfl, hfault⟩ := Outcome.failed_of_isTransient hfirst
  have hnext (k : Nat) : before operation rest s (k + 1) = before operation rest (rest t) k := by
    rw [before_succ, ho]
  refine ⟨t, fault, ho, hfault, hnext, fun k hk => ?_⟩
  rw [← hnext]
  exact htransient (k + 1) (Nat.succ_lt_succ hk)

/-- Attempts that are worth another are followed by one as long as one is left. -/
theorem attempt_eq {s : σ} {left n : Nat} (hleft : n ≤ left)
    (htransient : ∀ k < n, (operation (before operation rest s k)).2.isTransient = true)
    (hlast : (operation (before operation rest s n)).2.isTransient = false ∨ n = left) :
    attempt operation rest left s = operation (before operation rest s n) := by
  induction n generalizing s left with
  | zero =>
    obtain ⟨⟨t, outcome⟩, ho⟩ : ∃ r, operation s = r := ⟨_, rfl⟩
    cases outcome with
    | failed fault =>
      rw [attempt_of_failed ho]
      simp only [before, ho, Outcome.isTransient] at hlast ⊢
      cases left with
      | zero => rfl
      | succ left => simp_all [again?]
    | _ => simp only [attempt, before, ho]
  | succ n ih =>
    obtain ⟨t, fault, ho, hfault, hthere, hthen⟩ := transient_tail htransient
    obtain ⟨left, rfl⟩ : ∃ l, left = l + 1 := ⟨left - 1, by omega⟩
    have hagain : again? fault (left + 1) = some left := if_pos hfault
    simp only [attempt_of_failed ho, hagain, hthere] at hlast ⊢
    exact ih (Nat.le_of_succ_le_succ hleft) hthen (hlast.imp_right Nat.succ.inj)

/-- A run makes its attempts up to the last and gives back what that one comes to. -/
theorem run_eq_trial {policy : RetryPolicy} {sleep : Duration → σ → σ} {s : σ} {c : Nat}
    (last : policy.IsLast (fun k => (trial operation (policy.rest sleep) s k).2) c) :
    run policy operation sleep s = trial operation (policy.rest sleep) s c := by
  have hpos := last.1.1
  have hle := last.le
  refine attempt_eq (by unfold RetryPolicy.spare; omega) ?_ ?_
  · intro k hk
    exact last.transient (by omega)
  · refine last.1.2.imp_right fun hmax => ?_
    unfold RetryPolicy.spare
    omega

/-- The same of a run whose attempts may never end. -/
theorem await_eq_trial {operation : σ → σ × Option (Outcome α)} {policy : RetryPolicy}
    {sleep : Duration → σ → σ} {s : σ} {c : Nat}
    (last : policy.IsLast (fun k => (trial (settling operation) (policy.rest sleep) s k).2) c) :
    await policy operation sleep s =
      operation (before (settling operation) (policy.rest sleep) s (c - 1)) := by
  rw [await, run_eq_trial last, trial, map_settling]

/-- What holds at first and stays so with a fault holds before the last attempt. -/
theorem run_induction {policy : RetryPolicy} {sleep : Duration → σ → σ} {s : σ} {c : Nat}
    (last : policy.IsLast (fun k => (trial operation (policy.rest sleep) s k).2) c)
    {P : Nat → σ → Prop} (first : P 0 s)
    (again : ∀ n t u fault, P n t → operation t = (u, .failed fault) →
      P (n + 1) (policy.rest sleep u)) :
    ∃ t, P (c - 1) t ∧ run policy operation sleep s = operation t := by
  have hbefore : ∀ n < c, P n (before operation (policy.rest sleep) s n) := by
    intro n
    induction n with
    | zero => exact fun _ => first
    | succ n ih =>
      intro hn
      obtain ⟨fault, hfault, -⟩ := Outcome.failed_of_isTransient (last.transient hn)
      exact again n _ _ fault (ih (Nat.lt_of_succ_lt hn)) (Prod.ext rfl hfault)
  have hpos := last.1.1
  exact ⟨_, hbefore (c - 1) (by omega), run_eq_trial last⟩

/-- The same of a run whose attempts may never end; nothing comes of it if its last does not. -/
theorem await_induction {operation : σ → σ × Option (Outcome α)} {policy : RetryPolicy}
    {sleep : Duration → σ → σ} {s : σ} {c : Nat}
    (last : policy.IsLast (fun k => (trial (settling operation) (policy.rest sleep) s k).2) c)
    {P : Nat → σ → Prop} (first : P 0 s)
    (again : ∀ n t u fault, P n t → operation t = (u, some (.failed fault)) →
      P (n + 1) (policy.rest sleep u)) :
    ∃ t, P (c - 1) t ∧ await policy operation sleep s = operation t := by
  obtain ⟨t, ht, hrun⟩ := run_induction last first fun n t u fault ht hfault => by
    refine again n t u fault ht ?_
    have hoption := congrArg (Prod.map id Outcome.toOption) hfault
    rwa [map_settling] at hoption
  exact ⟨t, ht, by rw [await, hrun, map_settling]⟩

/-- A loop that counts its attempts up from `count`, and its counter in the end. There is no result
if the counter overflows. -/
def countUp (attempts : UInt32) (operation : σ → σ × Outcome α) (rest : σ → σ) (count : UInt32)
    (s : σ) : Option (UInt32 × σ × Outcome α) :=
  match operation s with
  | (t, .failed fault) =>
    if fault.isTransient = true ∧ count < attempts then
      if count.toNat + 1 < UInt32.size then
        countUp attempts operation rest (count + 1) (rest t)
      else none
    else some (count, t, .failed fault)
  | settled => some (count, settled)
termination_by attempts.toNat - count.toNat
decreasing_by
  have hlt : count.toNat < attempts.toNat := UInt32.lt_iff_toNat_lt.mp (And.right ‹_›)
  have hnext : (count + 1).toNat = count.toNat + 1 := by
    rw [UInt32.toNat_add]
    exact Nat.mod_eq_of_lt ‹_›
  omega

/-- The loop makes the attempts up to the last, and its counter goes up by one for each but the
first. -/
theorem countUp_eq {attempts count : UInt32} {s : σ} {n : Nat}
    (hbound : count.toNat + n ≤ max attempts.toNat count.toNat)
    (htransient : ∀ k < n, (operation (before operation rest s k)).2.isTransient = true)
    (hlast : (operation (before operation rest s n)).2.isTransient = false ∨
      attempts.toNat ≤ count.toNat + n) :
    ∃ last : UInt32, last.toNat = count.toNat + n ∧ countUp attempts operation rest count s =
      some (last, operation (before operation rest s n)) := by
  induction n generalizing s count with
  | zero =>
    refine ⟨count, rfl, ?_⟩
    obtain ⟨⟨t, outcome⟩, ho⟩ : ∃ r, operation s = r := ⟨_, rfl⟩
    simp only [before, ho] at hlast ⊢
    cases outcome with
    | failed fault =>
      have hstops : ¬(fault.isTransient = true ∧ count < attempts) := by
        rintro ⟨ht, hlt⟩
        have hlt := UInt32.lt_iff_toNat_lt.mp hlt
        simp only [Outcome.isTransient, ht, reduceCtorEq, false_or] at hlast
        omega
      rw [countUp, ho]
      exact if_neg hstops
    | _ => rw [countUp, ho]
  | succ n ih =>
    obtain ⟨t, fault, ho, hfault, hthere, hthen⟩ := transient_tail htransient
    have hlt : count.toNat < attempts.toNat := by omega
    have hfits : count.toNat + 1 < UInt32.size := by
      have hword : attempts.toNat < UInt32.size := attempts.toNat_lt
      omega
    have hnext : (count + 1).toNat = count.toNat + 1 := by
      rw [UInt32.toNat_add]
      exact Nat.mod_eq_of_lt hfits
    have hagain : countUp attempts operation rest count s =
        countUp attempts operation rest (count + 1) (rest t) := by
      rw [countUp, ho]
      exact (if_pos ⟨hfault, UInt32.lt_iff_toNat_lt.mpr hlt⟩).trans (if_pos hfits)
    rw [hagain, hthere]
    rw [hthere] at hlast
    have hbound : (count + 1).toNat + n ≤ max attempts.toNat (count + 1).toNat := by omega
    obtain ⟨last, hcount, hrun⟩ := ih hbound hthen (hlast.imp_right fun h => by omega)
    exact ⟨last, by omega, hrun⟩

end

/-- A loop that counts from one in 32 bits does what a run does; its counter does not overflow and
says in the end how many attempts there were. -/
theorem countUp_eq_run {σ α : Type} (attempts : UInt32) (delay : Duration)
    (operation : σ → σ × Outcome α) (sleep : Duration → σ → σ) (s : σ) :
    ∃ last : UInt32,
      RetryPolicy.IsLast ⟨attempts.toNat, delay⟩
        (fun k => (trial operation (RetryPolicy.rest ⟨attempts.toNat, delay⟩ sleep) s k).2)
        last.toNat ∧
      countUp attempts operation (RetryPolicy.rest ⟨attempts.toNat, delay⟩ sleep) 1 s =
        some (last, run ⟨attempts.toNat, delay⟩ operation sleep s) := by
  obtain ⟨policy, hpolicy⟩ : ∃ p : RetryPolicy, p = ⟨attempts.toNat, delay⟩ := ⟨_, rfl⟩
  have hattempts : policy.attempts = attempts.toNat := congrArg RetryPolicy.attempts hpolicy
  obtain ⟨c, isLast⟩ := policy.exists_isLast
    fun k => (trial operation (policy.rest sleep) s k).2
  have hpos := isLast.1.1
  have hle := isLast.le
  have hone : (1 : UInt32).toNat = 1 := rfl
  have hbound : (1 : UInt32).toNat + (c - 1) ≤ max attempts.toNat (1 : UInt32).toNat := by omega
  have htransient : ∀ k < c - 1,
      (operation (before operation (policy.rest sleep) s k)).2.isTransient = true :=
    fun k hk => isLast.transient (by omega)
  have hsettles :
      (operation (before operation (policy.rest sleep) s (c - 1))).2.isTransient = false ∨
        attempts.toNat ≤ (1 : UInt32).toNat + (c - 1) :=
    isLast.1.2.imp_right fun hmax => by omega
  obtain ⟨last, hlast, hrun⟩ := countUp_eq hbound htransient hsettles
  obtain rfl : last.toNat = c := by omega
  rw [← hpolicy, run_eq_trial isLast]
  exact ⟨last, isLast, hrun⟩

/-- What a run does, as far as others can tell. -/
inductive Beat where
  | attempt
  | pause (delay : Duration)
  deriving DecidableEq

/-- An operation that takes down when it is attempted. -/
def noting {σ ρ : Type} (operation : σ → σ × ρ) : σ × List Beat → (σ × List Beat) × ρ
  | (s, log) => (((operation s).1, log ++ [.attempt]), (operation s).2)

/-- A pause that is taken down. -/
def pausing {σ : Type} (sleep : Duration → σ → σ) (delay : Duration) : σ × List Beat → σ × List Beat
  | (s, log) => (sleep delay s, log ++ [.pause delay])

/-- The pause of a policy between two attempts, if it makes one. -/
def pauses (policy : RetryPolicy) : List Beat :=
  if policy.delay = .zero then [] else [.pause policy.delay]

/-- So many attempts with a policy's pauses between them. -/
def beats (policy : RetryPolicy) (c : Nat) : List Beat :=
  (List.replicate (c - 1) (.attempt :: pauses policy)).flatten ++ [.attempt]

section

variable {σ α : Type} {operation : σ → σ × Outcome α} {sleep : Duration → σ → σ}

theorem before_noting (policy : RetryPolicy) (s : σ) (n : Nat) :
    before (noting operation) (policy.rest (pausing sleep)) (s, []) n =
      (before operation (policy.rest sleep) s n,
        (List.replicate n (.attempt :: pauses policy)).flatten) := by
  induction n with
  | zero => rfl
  | succ n ih =>
    rw [before, ih, before, List.replicate_succ', List.flatten_concat]
    by_cases hdelay : policy.delay = .zero
    · simp [noting, pauses, RetryPolicy.rest, hdelay]
    · simp [noting, pauses, pausing, RetryPolicy.rest, hdelay]

/-- What is taken down of a run: its attempts up to the last and the pauses between them. -/
theorem run_noting {policy : RetryPolicy} {s : σ} {c : Nat}
    (last : policy.IsLast (fun k => (trial operation (policy.rest sleep) s k).2) c) :
    run policy (noting operation) (pausing sleep) (s, []) =
      (((run policy operation sleep s).1, beats policy c), (run policy operation sleep s).2) := by
  have htrial (k : Nat) : trial (noting operation) (policy.rest (pausing sleep)) (s, []) k =
      (((trial operation (policy.rest sleep) s k).1, beats policy k),
        (trial operation (policy.rest sleep) s k).2) := by
    rw [trial, before_noting]
    rfl
  have hlast : policy.IsLast
      (fun k => (trial (noting operation) (policy.rest (pausing sleep)) (s, []) k).2) c := by
    simpa only [htrial] using last
  rw [run_eq_trial hlast, run_eq_trial last, htrial]

/-- The same of a run whose attempts may never end. -/
theorem await_noting {operation : σ → σ × Option (Outcome α)} {policy : RetryPolicy} {s : σ}
    {c : Nat}
    (last : policy.IsLast (fun k => (trial (settling operation) (policy.rest sleep) s k).2) c) :
    await policy (noting operation) (pausing sleep) (s, []) =
      (((await policy operation sleep s).1, beats policy c),
        (await policy operation sleep s).2) := by
  have hcommute : settling (noting operation) = noting (settling operation) := rfl
  rw [await, hcommute, run_noting last]
  rfl

/-- So many attempts are made. -/
theorem count_attempt_beats (policy : RetryPolicy) {c : Nat} (hpos : 1 ≤ c) :
    (beats policy c).count .attempt = c := by
  have hround : (Beat.attempt :: pauses policy).count .attempt = 1 := by
    unfold pauses
    split <;> simp
  rw [beats, List.count_append, List.count_flatten, List.map_replicate, hround,
    List.sum_replicate_nat, List.count_singleton_self]
  omega

/-- There is a pause between each two attempts if the policy has a delay, and none otherwise. -/
theorem count_pause_beats (policy : RetryPolicy) (c : Nat) :
    (beats policy c).countP (· ≠ .attempt) = if policy.delay = .zero then 0 else c - 1 := by
  have hround : (Beat.attempt :: pauses policy).countP (· ≠ .attempt) =
      if policy.delay = .zero then 0 else 1 := by
    unfold pauses
    split <;> simp
  rw [beats, List.countP_append, List.countP_flatten, List.map_replicate, hround,
    List.sum_replicate_nat]
  split <;> simp

end

/-- An operation that comes to what a script says, and how often it was attempted. -/
def scripted {α : Type} (outcome : Nat → Outcome α) (n : Nat) : Nat × Outcome α :=
  (n + 1, outcome (n + 1))

theorem trial_scripted {α : Type} (policy : RetryPolicy) (outcome : Nat → Outcome α) {k : Nat}
    (hpos : 1 ≤ k) :
    trial (scripted outcome) (policy.rest fun _ n => n) 0 k = (k, outcome k) := by
  have hbefore (n : Nat) : before (scripted outcome) (policy.rest fun _ n => n) 0 n = n := by
    induction n with
    | zero => rfl
    | succ n ih => rw [before, ih, scripted, RetryPolicy.rest_self]
  rw [trial, hbefore, scripted, Nat.sub_add_cancel hpos]

/-- A run of a script makes the attempts up to the last and gives back what that one comes to. -/
theorem run_scripted {α : Type} {policy : RetryPolicy} {outcome : Nat → Outcome α} {c : Nat}
    (last : policy.IsLast outcome c) :
    run policy (noting (scripted outcome)) (pausing fun _ n => n) (0, []) =
      ((c, beats policy c), outcome c) := by
  have hlast := last.congr fun k hpos =>
    congrArg (·.2.isTransient) (trial_scripted policy outcome hpos)
  rw [run_noting hlast, run_eq_trial hlast, trial_scripted policy outcome last.1.1]

end Retry

end AudioRelay
