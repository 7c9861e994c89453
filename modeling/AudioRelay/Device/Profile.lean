import AudioRelay.Device.Id
import AudioRelay.Device.Address
import AudioRelay.Stream.Context

/-!
# Device profiles

A profile says where a device lives and which way it serves. It fixes how the
device is opened: a built-in one is asked for the stream's buffer size, an external
one has to match the configuration exactly.
-/

namespace AudioRelay

/-- Where a device lives and which direction it serves. -/
structure DeviceProfile where
  id : DeviceId
  card : Nat
  device : Nat
  direction : Direction
  /-- External rather than built in. -/
  isExternal : Bool
  deriving DecidableEq, Repr

/-- How a device must be opened. -/
inductive OpenMode where
  /-- Built in; the buffer size is a request. -/
  | attached (frames : Nat)
  /-- Hot-pluggable; a near match is not good enough. -/
  | external (exact : Bool)
  deriving DecidableEq, Repr

namespace DeviceProfile

/-- Card and device of an address that names none. -/
def defaultAddress : Nat × Nat := (0, 0)

/-- A built-in device. -/
def attached (card device : Nat) (direction : Direction) : DeviceProfile :=
  ⟨DeviceId.ofAddress card device, card, device, direction, false⟩

/-- An external device. -/
def external (card device : Nat) (direction : Direction) : DeviceProfile :=
  { attached card device direction with isExternal := true }

/-- A device named by a textual address; without a usable group it is the default one. -/
def ofAddress (address : String) (direction : Direction) (isExternal : Bool) : DeviceProfile :=
  let (card, device) := (Address.cardAndDevice? address).getD defaultAddress
  ⟨DeviceId.ofAddress card device, card, device, direction, isExternal⟩

/-- The same device under another id. -/
def withId (p : DeviceProfile) (id : DeviceId) : DeviceProfile := { p with id }

/-- How a device of this profile is opened under a configuration. -/
def openMode (p : DeviceProfile) (pcm : PcmConfig) : OpenMode :=
  if p.isExternal then .external true else .attached pcm.frames

end DeviceProfile

end AudioRelay
