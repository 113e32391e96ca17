import Mathlib.Logic.Relation
import Mathlib.Data.List.Basic
import Mathlib.Tactic.Common
import Gattlibpp.Model.Types

/-!
# Device records

`DeviceDetails.h` and `DeviceDetails.cpp`. A `std::map` is a `TreeMap`: both keep
their keys in ascending order. References into `characteristics` stay valid until
`clearCharacteristics`, so the record counts its clears (`epoch`) and a reference
names the epoch it was taken in (`CharRef`).
-/

namespace Gattlibpp

open Std (TreeMap)

namespace Device

/-- `normalizeCharacteristicUUID`: `::tolower` on every character. -/
def normalizeCharacteristicUUID (uuid : UUID) : UUID :=
  String.ofList (uuid.toList.map Char.toLower)

/-- `normalizeServiceUUID`. -/
def normalizeServiceUUID (uuid : UUID) : UUID :=
  String.ofList (uuid.toList.map Char.toLower)

theorem toLower_toLower (c : Char) : c.toLower.toLower = c.toLower := by
  by_cases h : c.val ≥ 'A'.val ∧ c.val ≤ 'Z'.val
  · have hlower : c.toLower.val = c.val + ('a'.val - 'A'.val) := by
      unfold Char.toLower
      rw [dif_pos h]
    refine dif_neg fun h' => ?_
    rw [hlower] at h'
    simp only [ge_iff_le, UInt32.le_iff_toNat_le, UInt32.toNat_add,
      show ('a'.val - 'A'.val).toNat = 32 from rfl, show 'A'.val.toNat = 65 from rfl,
      show 'Z'.val.toNat = 90 from rfl] at h h'
    omega
  · rw [show c.toLower = c from dif_neg h, show c.toLower = c from dif_neg h]

theorem normalizeCharacteristicUUID_idem (u : UUID) :
    normalizeCharacteristicUUID (normalizeCharacteristicUUID u) =
      normalizeCharacteristicUUID u := by
  unfold normalizeCharacteristicUUID
  rw [String.toList_ofList, List.map_map]
  congr 2
  exact funext toLower_toLower

theorem normalizeServiceUUID_idem (u : UUID) :
    normalizeServiceUUID (normalizeServiceUUID u) = normalizeServiceUUID u :=
  normalizeCharacteristicUUID_idem u

structure Details where
  id : UUID
  connection : Option Conn
  discoveryDone : Bool
  numRegisteredForNotifs : UInt8
  services : TreeMap UUID Service.Details
  characteristics : TreeMap UUID Characteristic.Details
  notifHandlers : TreeMap UUID Callback
  /-- How often `clearCharacteristics` has run: not a field of the source. -/
  epoch : Nat

/-- `DeviceDetailsStruct(did)`. -/
def Details.new (did : UUID) : Details where
  id := did
  connection := none
  discoveryDone := false
  numRegisteredForNotifs := 0
  services := ∅
  characteristics := ∅
  notifHandlers := ∅
  epoch := 0

/-- A `Characteristic::Details &` into a record's map. -/
structure CharRef where
  key : UUID
  epoch : Nat
  deriving DecidableEq, Repr

namespace Details

variable (d : Details)

def hasNotificationHandlerFor (uuid : UUID) : Bool :=
  d.notifHandlers.contains (normalizeCharacteristicUUID uuid)

/-- `notificationHandler`, where there is one (`hasNotificationHandlerFor`). -/
def notificationHandler (uuid : UUID) : Callback :=
  (d.notifHandlers[normalizeCharacteristicUUID uuid]?).join

def setNotificationHandler (forUUID : UUID) (hndler : Callback) : Details :=
  { d with notifHandlers := d.notifHandlers.insert (normalizeCharacteristicUUID forUUID) hndler }

def addService (uuid : UUID) (glServ : GlPrimaryService) : Details :=
  let suid := normalizeServiceUUID uuid
  { d with services := d.services.insertIfNew suid (.ofGatt d.id suid glServ) }

def clearServices : Details := { d with services := ∅ }

def clearCharacteristics : Details := { d with characteristics := ∅, epoch := d.epoch + 1 }

/-- `addCharacteristic`: `std::map::insert` keeps an entry that is there. -/
def addCharacteristic (uuid : UUID) (glChar : GlCharacteristic) : Details :=
  let cuid := normalizeCharacteristicUUID uuid
  let cd := Characteristic.Details.ofGatt d.id cuid glChar
  if cd.valid then { d with characteristics := d.characteristics.insertIfNew cuid cd } else d

def hasService (uuid : UUID) : Bool :=
  d.services.contains (normalizeServiceUUID uuid)

def hasCharacteristic (uuid : UUID) : Bool :=
  d.characteristics.contains (normalizeCharacteristicUUID uuid)

/-- `characteristic`, `none` where the source dereferences `end()`. -/
def characteristic (uuid : UUID) : Option Characteristic.Details :=
  d.characteristics[normalizeCharacteristicUUID uuid]?

/-- The reference `characteristic` returns. -/
def charRef (uuid : UUID) : CharRef := ⟨normalizeCharacteristicUUID uuid, d.epoch⟩

/-- What a reference refers to, `none` once its node is gone. -/
def deref (r : CharRef) : Option Characteristic.Details :=
  if r.epoch = d.epoch then d.characteristics[r.key]? else none

/-- `characteristic(uuid).registeredForNotifs = b`. -/
def setRegistered (uuid : UUID) (b : Bool) : Details :=
  let setFlag (c : Characteristic.Details) := { c with registeredForNotifs := b }
  { d with characteristics := d.characteristics.modify (normalizeCharacteristicUUID uuid) setFlag }

end Details

end Device

abbrev DeviceMap := TreeMap UUID Device.Details

end Gattlibpp
