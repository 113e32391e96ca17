import Gattlibpp.Model.Effects

/-!
# Discovery

Service and characteristic discovery, the one-shot `performDiscovery`, and the
chain of steps that `deviceConnected` starts through the report queue.
-/

namespace Gattlibpp

open Open

section
variable [Gattlib]

/-- The loop of `performServiceDiscovery`. -/
def Device.Details.addServices (d : Device.Details) (l : List GlPrimaryService) :
    Device.Details :=
  l.foldl (fun d s =>
    match Gattlib.uuidToString s.uuid with
    | some uuidStr => d.addService uuidStr s
    | none => d) d

/-- The loop of `performCharacteristicsDiscovery`. -/
def Device.Details.addCharacteristics (d : Device.Details) (l : List GlCharacteristic) :
    Device.Details :=
  l.foldl (fun d c =>
    match Gattlib.uuidToString c.uuid with
    | some uuidStr => d.addCharacteristic uuidStr c
    | none => d) d

/-- What adding a service keeps, the loop keeps. -/
theorem Device.Details.addServices_same {β : Type} {g : Device.Details → β}
    (hg : ∀ (d : Device.Details) u s, g (d.addService u s) = g d) (d : Device.Details)
    (l : List GlPrimaryService) : g (d.addServices l) = g d := by
  unfold addServices
  induction l generalizing d with
  | nil => rfl
  | cons s l ih =>
    rw [List.foldl_cons, ih]
    cases Gattlib.uuidToString s.uuid with
    | none => rfl
    | some u => exact hg d u s

/-- What adding a characteristic keeps, the loop keeps. -/
theorem Device.Details.addCharacteristics_same {β : Type} {g : Device.Details → β}
    (hg : ∀ (d : Device.Details) u c, g (d.addCharacteristic u c) = g d) (d : Device.Details)
    (l : List GlCharacteristic) : g (d.addCharacteristics l) = g d := by
  unfold addCharacteristics
  induction l generalizing d with
  | nil => rfl
  | cons c l ih =>
    rw [List.foldl_cons, ih]
    cases Gattlib.uuidToString c.uuid with
    | none => rfl
    | some u => exact hg d u c

/-- An invariant of adding a characteristic is one of the loop. -/
theorem Device.Details.addCharacteristics_keeps {R : Device.Details → Prop}
    (hR : ∀ (d : Device.Details) u c, Gattlib.uuidToString c.uuid = some u → R d →
      R (d.addCharacteristic u c)) {d : Device.Details} (h : R d) (l : List GlCharacteristic) :
    R (d.addCharacteristics l) := by
  unfold addCharacteristics
  induction l generalizing d with
  | nil => exact h
  | cons c l ih =>
    rw [List.foldl_cons]
    cases hc : Gattlib.uuidToString c.uuid with
    | none => exact ih h
    | some u => exact ih (hR d u c hc h)

def performServiceDiscovery (onDevice : UUID) : Ble Bool := do
  let r ← callOut (.discoverPrimary onDevice (← record onDevice).connection)
  if r.rc ≠ 0 then return false
  else
    locked onDevice do
      updateRecord onDevice fun d => d.clearServices.addServices r.serviceList
    return true

def performCharacteristicsDiscovery (onDevice : UUID) : Ble Bool := do
  let r ← callOut (.discoverChar onDevice (← record onDevice).connection)
  if r.rc ≠ 0 then return false
  else
    locked onDevice do
      updateRecord onDevice fun d => d.clearCharacteristics.addCharacteristics r.characteristicList
    return true

def performDiscovery (onDevice : UUID) : Ble Bool := do
  if (← record onDevice).discoveryDone then return true
  else if ! (← performServiceDiscovery onDevice) then return false
  else if ! (← performCharacteristicsDiscovery onDevice) then return false
  else
    updateRecord onDevice fun d => { d with discoveryDone := true }
    return true

def BLECentral.servicesFor (b : BLECentral) (device : UUID) : List Service.Details :=
  match b.deviceDetails device with
  | some dets => if dets.discoveryDone then dets.services.toList.map (·.2) else []
  | none => []

def BLECentral.characteristicsFor (b : BLECentral) (device : UUID) : List Characteristic.Details :=
  match b.deviceDetails device with
  | some dets => if dets.discoveryDone then dets.characteristics.toList.map (·.2) else []
  | none => []

def autoDiscoverServicesStep (onDevice : UUID) : Ble Unit := do
  let _ ← performServiceDiscovery onDevice
  pushReport (.autoDiscoverCharacteristicsStep onDevice)

def autoDiscoverCharacteristicsStep (onDevice : UUID) : Ble Unit := do
  let _ ← performCharacteristicsDiscovery onDevice
  updateRecord onDevice fun d => { d with discoveryDone := true }
  pushReport .reportConnected

end

/-- The lambda `autoDiscoverCharacteristicsStep` queues. -/
def reportConnected : Ble Unit := currentOpCompleted

end Gattlibpp
