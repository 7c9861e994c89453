import Mathlib.Data.List.Induction
import AudioRelay.Proofs.Run

/-!
# The gain level

A stream has one level, whoever asks for another: the client by a call, and any thread that holds
a handle on it. The last request that was accepted is the level, through every handle.
-/

namespace AudioRelay

/-- The level that a moment asks for. -/
def Moment.request? (m : Moment) : Option Single :=
  match m.action with
  | .call (.setGain request) => some request
  | .adjust request => some request
  | _ => none

/-- The levels that were asked for. -/
def requests (h : List Moment) : List Single := h.filterMap Moment.request?

theorem requests_snoc (h : List Moment) (m : Moment) :
    requests (h ++ [m]) = requests h ++ m.request?.toList := by
  unfold requests
  rw [List.filterMap_append]
  cases hm : m.request? <;> simp [hm]

namespace Gain

/-- The level after requests: the last that is accepted, or unity. -/
def current (requests : List Single) : Single :=
  (requests.filter accepts).getLast?.getD Single.one

theorem current_snoc (requests : List Single) (request : Single) :
    current (requests ++ [request]) = adjust (current requests) request := by
  unfold current adjust
  rw [List.filter_append, List.getLast?_append]
  cases hr : accepts request <;> simp [hr]

theorem current_append (requests more : List Single) :
    current (requests ++ more) = more.foldl adjust (current requests) := by
  induction more generalizing requests with
  | nil => rw [List.append_nil, List.foldl_nil]
  | cons request rest ih => rw [List.append_cons, ih, current_snoc, List.foldl_cons]

/-- Unity is accepted, so whatever is asked for, the level is one that is accepted. -/
theorem accepts_current (requests : List Single) : accepts (current requests) = true := by
  induction requests using List.reverseRecOn with
  | nil => decide
  | append_singleton requests request ih =>
    rw [current_snoc, adjust]
    split
    · assumption
    · exact ih

namespace Board

/-- What the holder of a handle does: a further handle is made of it, or it asks for a level. -/
inductive Use where
  | share (handle : Nat)
  | set (handle : Nat) (request : Single)

/-- The level that a use asks for. -/
def Use.request? : Use → Option Single
  | share _ => none
  | set _ request => some request

/-- The board after a use, if there is such a handle. -/
def use (b : Board) : Use → Option Board
  | .share handle => if handle < b.handles.length then some (b.share handle) else none
  | .set handle request =>
    if handle < b.handles.length then some (b.set handle request) else none

/-- The board after some uses, if there are the handles that they need. -/
def uses (b : Board) : List Use → Option Board
  | [] => some b
  | u :: rest => (b.use u).bind (·.uses rest)

/-- All handles are on one level. -/
structure Shared (b : Board) (level : Single) : Prop where
  levels : b.levels = [level]
  handles : ∀ place ∈ b.handles, place = 0

variable {b b' : Board} {level : Single} {handle : Nat} {u : Use}

/-- Every handle reads the one level. -/
theorem Shared.level_eq (shared : b.Shared level) (hh : handle < b.handles.length) :
    b.level handle = level := by
  have hplace := shared.handles _ (List.getElem_mem hh)
  rw [Board.level, List.getElem?_eq_getElem hh, hplace, shared.levels]
  rfl

/-- A use of any handle asks for the one level, or leaves it alone. -/
theorem Shared.use (shared : b.Shared level) (hu : b.use u = some b') :
    b'.Shared (u.request?.elim level (adjust level)) := by
  obtain ⟨levels, handles⟩ := b
  obtain ⟨rfl, hzero⟩ := shared
  cases u with
  | share handle =>
    obtain ⟨hh, hset⟩ := Option.ite_none_right_eq_some.mp hu
    cases hset
    simp only [share, List.getElem?_eq_getElem hh]
    refine ⟨rfl, fun place hplace => ?_⟩
    rcases List.mem_append.mp hplace with hold | hnew
    · exact hzero place hold
    · rw [List.mem_singleton.mp hnew]
      exact hzero _ (List.getElem_mem hh)
  | set handle request =>
    obtain ⟨hh, hset⟩ := Option.ite_none_right_eq_some.mp hu
    cases hset
    have hplace := hzero _ (List.getElem_mem hh)
    simp only [set, List.getElem?_eq_getElem hh, hplace]
    exact ⟨rfl, hzero⟩

/-- After any uses all handles read the last level that was asked for and accepted. -/
theorem Shared.uses {past : List Single} {l : List Use} (shared : b.Shared (current past))
    (hu : b.uses l = some b') : b'.Shared (current (past ++ l.filterMap Use.request?)) := by
  induction l generalizing past b with
  | nil =>
    cases hu
    rwa [List.filterMap_nil, List.append_nil]
  | cons u rest ih =>
    obtain ⟨next, hnext, hrest⟩ := Option.bind_eq_some_iff.mp hu
    have hshared := shared.use hnext
    rw [List.filterMap_cons]
    cases hr : u.request? with
    | none =>
      rw [hr] at hshared
      exact ih hshared hrest
    | some request =>
      rw [hr, Option.elim_some, ← current_snoc] at hshared
      rw [List.append_cons]
      exact ih hshared hrest

end Board

end Gain

/-- An action asks for a level, or it leaves the level alone. -/
theorem Engine.step_level {e e' : Engine} {a : Action} (hs : e.step a = some e') :
    e'.level = (Moment.mk e a).request?.elim e.level (Gain.adjust e.level) := by
  cases a with
  | call c =>
    obtain ⟨-, rfl⟩ := step_call_eq_some hs
    cases c with
    | negotiate | start | refine | drain | standby =>
      simp only [begin]
      split <;> rfl
    | transfer buffer frames =>
      simp only [begin, beginTransfer]
      split
      · rfl
      · split
        · rfl
        · split <;> rfl
    | setGain | pause | flush => rfl
  | client input =>
    cases clientStep_of_stepClient hs with
    | located => unfold locate; split <;> rfl
    | sealed => unfold shutCapture; split <;> rfl
    | _ => rfl
  | worker i input =>
    obtain ⟨_, _, _, _, _, counters, journal, rfl⟩ := stepWorker_eq_some hs
    rfl
  | adjust request =>
    cases hs
    rfl

/-- The level is the last that was asked for and accepted, by the blueprint or since. -/
theorem Run.level_eq {b : Blueprint} {h : List Moment} {e : Engine} (run : Run b h e) :
    e.level = Gain.current (b.gain :: requests h) := by
  induction run with
  | built hb =>
    obtain ⟨pcm, -, rfl⟩ := Engine.build_eq_ok hb
    exact (Gain.current_snoc [] b.gain).symm
  | @snoc h e e' a run hs ih =>
    rw [Engine.step_level hs, requests_snoc, ih]
    cases (Moment.mk e a).request? with
    | none => rw [Option.toList_none, List.append_nil, Option.elim_none]
    | some request =>
      rw [Option.toList_some, Option.elim_some, ← List.cons_append, Gain.current_snoc]

/-- An engine with the present level can be built. -/
theorem Run.level_accepted {b : Blueprint} {h : List Moment} {e : Engine} (run : Run b h e) :
    Gain.adjust Single.one e.level = e.level := by
  rw [Gain.adjust, run.level_eq, if_pos (Gain.accepts_current _)]

end AudioRelay
