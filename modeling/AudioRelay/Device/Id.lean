/-!
# Device ids

An id is text. Ids order by their UTF-8 bytes, which is the order by code point.
-/

namespace AudioRelay

/-- Identifier of a device in events and messages. -/
abbrev DeviceId := String

namespace DeviceId

/-- The id of a device that was given none: its card and its number. -/
def ofAddress (card device : Nat) : DeviceId := s!"hw:{card},{device}"

/-- The ids in ascending order, equal ones kept. -/
def sorted (ids : List DeviceId) : List DeviceId :=
  ids.mergeSort fun a b => decide (a ≤ b)

/-- How many different ids there are. -/
def distinct (ids : List DeviceId) : Nat := ids.eraseDups.length

/-- For each id the place of the first id equal to it. -/
def firstPlaces (ids : List DeviceId) : List Nat := ids.map fun id => ids.idxOf id

end DeviceId

end AudioRelay
