import Mathlib.Tactic.Common

/-!
# Types

`GattlibppTypes.h`, `Characteristics.cpp` and `Services.cpp`. Of gattlib's own
types only what this code reads is kept: `uuid_t` is copied and handed back, so a
number names it, and connection and adapter pointers are numbers, with `none` for
`NULL`. The two UUID conversions are gattlib's and are parameters (`Gattlib`).
-/

namespace Gattlibpp

abbrev UUID := String

abbrev BinaryBuffer := List UInt8

/-- gattlib's `uuid_t`. -/
abbrev GlUuid := Nat

/-- `gatt_connection_t *`, not `NULL`. -/
abbrev Conn := Nat

/-- `AdapterPtr`. -/
abbrev Adapter := Nat

/-- gattlib's conversions, `none` where they return non-zero. -/
class Gattlib where
  uuidToString : GlUuid → Option String
  stringToUuid : String → Option GlUuid

/-- Conversions for two UUIDs, for runs that are computed. -/
@[reducible] def Gattlib.sample : Gattlib where
  uuidToString
    | 1 => some "2a19"
    | 2 => some "2A6E"
    | _ => none
  stringToUuid s := if s = "2a19" then some 1 else if s = "2a6e" then some 2 else none

/-! ## Callbacks -/

/-- What a `std::function` holds: a function of the user, `shutdown`'s `doneCb` of the
given invocation, or a lambda that only prints. -/
inductive Fn where
  | user (id : Nat)
  | doneCb (frame : Nat)
  | debugPrint
  deriving DecidableEq, Repr

/-- A `std::function`, which may be empty. -/
abbrev Callback := Option Fn

/-! ## Services -/

/-- `gattlib_primary_service_t`: its UUID, and the rest, which is only copied. -/
structure GlPrimaryService where
  uuid : GlUuid
  rest : Nat
  deriving DecidableEq, Repr

namespace Service

structure Details where
  id : UUID
  deviceId : UUID
  glUuid : GlUuid
  glService : GlPrimaryService
  deriving DecidableEq, Repr

/-- `ServDetailsStruct(devId, servUUID, glservice)`. -/
def Details.ofGatt (devId servUUID : UUID) (glservice : GlPrimaryService) : Details where
  deviceId := devId
  id := servUUID
  glService := glservice
  glUuid := glservice.uuid

end Service

/-! ## Characteristics -/

/-- `gattlib_characteristic_t`, the two fields this code reads. -/
structure GlCharacteristic where
  properties : UInt8
  uuid : GlUuid
  deriving DecidableEq, Repr

namespace Characteristic

inductive Property where
  | broadcast | read | writeWithoutResp | write | notify | indicate | undefined
  deriving DecidableEq, Repr

/-- The enumerator's value. -/
def Property.bits : Property → UInt8
  | broadcast => 0x01
  | read => 0x02
  | writeWithoutResp => 0x04
  | write => 0x08
  | notify => 0x10
  | indicate => 0x20
  | undefined => 0xff

structure Details where
  id : UUID
  deviceId : UUID
  properties : List Property
  valid : Bool
  registeredForNotifs : Bool
  glUuid : GlUuid
  deriving DecidableEq, Repr

/-- `possVals`, closed by `Undefined`. -/
def possVals : List Property :=
  [.broadcast, .read, .writeWithoutResp, .write, .notify, .indicate, .undefined]

/-- The loop over `possVals` of `CharDetailsStruct`'s constructor. -/
def propertiesOf (bits : UInt8) : List Property :=
  (possVals.takeWhile (· ≠ .undefined)).filter fun v => bits &&& v.bits ≠ 0

/-- `CharDetailsStruct(devId, charUUID, char_desc)`. -/
def Details.ofGatt (devId charUUID : UUID) (charDesc : GlCharacteristic) : Details where
  deviceId := devId
  registeredForNotifs := false
  glUuid := charDesc.uuid
  id := charUUID
  properties := propertiesOf charDesc.properties
  valid := true

namespace Details

def supports (c : Details) (p : Property) : Bool := p ∈ c.properties

def supportSubscriptions (c : Details) : Bool := c.supports .notify || c.supports .indicate

def supportsWrites (c : Details) : Bool := c.supports .write || c.supports .writeWithoutResp

def supportsReads (c : Details) : Bool := c.supports .read

end Details

end Characteristic

end Gattlibpp
