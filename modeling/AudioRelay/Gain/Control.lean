import AudioRelay.Number.Single

/-!
# Gain controls

A level is accepted if it is finite and not below zero; anything else leaves the
level as it was. Handles may share a level: what one sets, all of them read.
-/

namespace AudioRelay.Gain

/-- Finite and not below zero; a zero may carry a sign. -/
def accepts (level : Single) : Bool :=
  match level.value with
  | .finite negative magnitude => !negative || magnitude = 0
  | _ => false

/-- The level after a request. -/
def adjust (level request : Single) : Single := if accepts request then request else level

/-- Levels, and for every handle the place of its level. -/
structure Board where
  levels : List Single
  handles : List Nat
  deriving DecidableEq, Repr

namespace Board

/-- One control with one handle; any level can be built in. -/
def ofLevel (level : Single) : Board := ⟨[level], [0]⟩

/-- The level that a handle reads. -/
def level (b : Board) (handle : Nat) : Single :=
  (b.handles[handle]?.bind (b.levels[·]?)).getD Single.one

/-- A request through a handle. -/
def set (b : Board) (handle : Nat) (request : Single) : Board :=
  match b.handles[handle]? with
  | none => b
  | some place => { b with levels := b.levels.modify place (adjust · request) }

/-- A further handle on the same level; it is the last one. -/
def share (b : Board) (handle : Nat) : Board :=
  match b.handles[handle]? with
  | none => b
  | some place => { b with handles := b.handles ++ [place] }

/-- An independent control with a handle of its own; it is the last one. -/
def add (b : Board) (level : Single) : Board :=
  ⟨b.levels ++ [level], b.handles ++ [b.levels.length]⟩

end Board

end AudioRelay.Gain
