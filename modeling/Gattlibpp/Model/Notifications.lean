import Gattlibpp.Model.Requests

/-!
# Notifications

`startNotification`, `stopNotification`, `stopAllNotifications` and the way in
from gattlib, `handleNotification`.
-/

namespace Gattlibpp

open Open

section
variable [Gattlib]

/-- `startNotification` counts a registration. The first one also registers the library's
handlers. -/
def countRegistered (dets : UUID) : Ble Unit := do
  if (← record dets).numRegisteredForNotifs ≠ 0 then
    updateRecord dets fun d => { d with numRegisteredForNotifs := d.numRegisteredForNotifs + 1 }
  else
    let ho := (← record dets).id
    let _ ← callOut (.registerNotification (← record dets).connection (some ho))
    let _ ← callOut (.registerIndication (← record dets).connection (some ho))
    updateRecord dets fun d => { d with numRegisteredForNotifs := 1 }

/-- `startNotification` starts the notifications of the characteristic. -/
def startForChar (dets : UUID) (charUuid : GlUuid) (failure : Callback) : Ble Bool := do
  let r ← callOut (.notificationStart (← record dets).connection charUuid)
  if r.rc ≠ 0 then
    triggerCbIfSet failure
    updateRecord dets fun d => { d with numRegisteredForNotifs := d.numRegisteredForNotifs - 1 }
    return false
  else return true

/-- The guarded block of `startNotification`; false where it returns false. -/
def startNotificationBlock (dets characteristicUuid : UUID) (charUuid : GlUuid)
    (inDataCallback failure : Callback) : Ble Bool := do
  let d ← record dets
  let shouldRegister := (d.characteristic characteristicUuid).all (! ·.registeredForNotifs)
  if shouldRegister then
    -- changes nothing where the map has no entry
    updateRecord dets (·.setRegistered characteristicUuid true)
  updateRecord dets (·.setNotificationHandler characteristicUuid inDataCallback)
  if shouldRegister then
    countRegistered dets
    startForChar dets charUuid failure
  else return true

def startNotification (device characteristicUuid : UUID) (inDataCallback failure : Callback) :
    Ble Bool :=
  ensureAdapterAvail failure do
    if ! (← ble).isConnected device then
      triggerCbIfSet failure
      return false
    else
      let dets := normalizeDeviceUUID device
      match ← getUUIDForCharOrFail dets characteristicUuid (·.supportSubscriptions) failure with
      | none => return false
      | some charUuid =>
        locked dets (startNotificationBlock dets characteristicUuid charUuid inDataCallback failure)

/-- `stopNotification` counts a registration less, unless there is none. The last one also
cancels the library's handlers. -/
def countUnregistered (dets : UUID) : Ble Unit := do
  if (← record dets).numRegisteredForNotifs ≠ 0 then
    updateRecord dets fun d => { d with numRegisteredForNotifs := d.numRegisteredForNotifs - 1 }
    if (← record dets).numRegisteredForNotifs = 0 then
      let _ ← callOut (.registerNotification (← record dets).connection none)
      let _ ← callOut (.registerIndication (← record dets).connection none)

/-- `stopNotification` stops the notifications of the characteristic. -/
def stopForChar (dets : UUID) (charUuid : GlUuid) (failure : Callback) : Ble Bool := do
  let r ← callOut (.notificationStop (← record dets).connection charUuid)
  if r.rc ≠ 0 then
    triggerCbIfSet failure
    return false
  else return true

/-- The guarded block of `stopNotification`; false where it returns false. -/
def stopNotificationBlock (dets characteristicUuid : UUID) (charUuid : GlUuid)
    (failure : Callback) : Ble Bool := do
  let d ← record dets
  let shouldUnRegister := (d.characteristic characteristicUuid).all (·.registeredForNotifs)
  if shouldUnRegister then
    -- changes nothing where the map has no entry
    updateRecord dets (·.setRegistered characteristicUuid false)
    countUnregistered dets
    stopForChar dets charUuid failure
  else return true

def stopNotification (device chrUuid : UUID) (succ failure : Callback) : Ble Bool :=
  ensureAdapterAvail failure do
    if ! (← ble).isConnected device then
      triggerCbIfSet failure
      return false
    else
      let dets := normalizeDeviceUUID device
      match ← getUUIDForCharOrFail dets chrUuid (·.supportSubscriptions) failure with
      | none => return false
      | some charUuid =>
        if ← locked dets (stopNotificationBlock dets chrUuid charUuid failure) then
          if succ.isSome then pushReport (.callback succ)
          return true
        else return false

/-- Follow an iterator into the characteristics of `dets`, taken at `epoch`. -/
def charAt (dets key : UUID) (epoch : Nat) : Ble Characteristic.Details := do
  match (← record dets).deref ⟨key, epoch⟩ with
  | some c => return c
  | none => Prog.halt .freedIterator

/-- `foreachCharacteristic` with the lambda of `stopAllNotifications`. -/
def stopAllLoop (dets : UUID) (epoch : Nat) : List UUID → Ble Unit
  | [] => pure ()
  | key :: rest => do
    let aChar ← charAt dets key epoch
    if aChar.registeredForNotifs then
      let _ ← stopNotification (← record dets).id aChar.id none none
    -- `iter++`
    let _ ← charAt dets key epoch
    stopAllLoop dets epoch rest

def stopAllNotifications (device : UUID) : Ble Unit := do
  match (← ble).deviceDetails device with
  | none => return ()
  | some dev => stopAllLoop (normalizeDeviceUUID device) dev.epoch dev.characteristics.keys

end

/-! ## Incoming -/

/-- The loop over `devices` of `handleNotification`. -/
def handleNotificationLoop (charUUID : UUID) (data : BinaryBuffer) : List UUID → Ble Unit
  | [] => pure ()
  | dets :: rest => do
    locked dets do
      let d ← record dets
      if d.hasNotificationHandlerFor charUUID then
        pushReport (.notification (d.notificationHandler charUUID) data)
    handleNotificationLoop charUUID data rest

def handleNotification (charUUID : UUID) (data : BinaryBuffer) : Ble Unit := do
  handleNotificationLoop charUUID data (← ble).devices.keys

end Gattlibpp
