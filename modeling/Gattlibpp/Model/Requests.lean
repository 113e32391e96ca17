import Gattlibpp.Model.Effects

/-!
# Requests

The operations that queue an action, and the ones that only report: scan and
stopScan, connect and disconnect, read and write, isConnected, isEnabled, enable.
-/

namespace Gattlibpp

open Open

/-! ## Scanning -/

def scan (runSeconds : UInt16) (scanCompleted deviceDiscoveredCb failure : Callback) : Ble Bool :=
  ensureAdapterAvail failure do
    if (← ble).isScanning then return true
    else
      let b ← ble
      if b.connectedTo ≠ "" ∧ b.asyncActions.length = 0 then
        match b.deviceDetails b.connectedTo with
        | some dets =>
          if dets.connection.isSome then
            -- the source builds this action and never queues it
            let _autoDisconnAction : AsyncAction.Details :=
              { name := "autodisconn"
                callbacks := { success := some .debugPrint, failure := some .debugPrint }
                trigger := .autodisconn dets.id }
        | none => pure ()
      update fun b => { b with devDiscoveredCb := deviceDiscoveredCb }
      queueAsyncAction
        { name := "scan"
          callbacks := { success := scanCompleted, failure := failure }
          trigger := .scan runSeconds }
      update fun b => { b with isScanning := true }
      return true

def stopScan (succ failure : Callback) : Ble Bool :=
  ensureAdapterAvail failure do
    if ! (← ble).isScanning then
      queueAsyncAction
        { name := "stopScanDone"
          callbacks := { success := succ, failure := failure }
          trigger := .stopScanDone }
      return true
    else
      match (← ble).asyncActions with
      | front :: _ =>
        if front.isRunning ∧ front.name = "scan" then
          AsyncAction.cancelWithoutCallback front.id
      | [] => pure ()
      queueAsyncAction
        { name := "stopScan"
          callbacks := { success := succ, failure := failure }
          trigger := .stopScan }
      return true

/-! ## Connections -/

/-- `connect`. Without `parameters` it is the overload that passes a reference to `connParams`,
which the trigger closure copies. -/
def connect (devUUID : UUID) (parameters : Option ConnectionParams) (succ failure : Callback) :
    Ble Bool :=
  ensureAdapterAvail failure do
    let devId := normalizeDeviceUUID devUUID
    if (← ble).isConnected devId then
      triggerCbIfSet failure
      return false
    else
      if ((← ble).deviceDetails devId).isNone then
        -- `devices[devId].id = devId`
        update fun b => { b with devices := b.devices.insert devId (.new devId) }
      update fun b => { b with connectedTo := devId }
      let connParams := (← ble).connParams
      queueAsyncAction
        { name := "connect"
          callbacks := { success := succ, failure := failure }
          trigger := .connect devId (parameters.getD connParams) }
      return true

def disconnect (devId : UUID) (succ failure : Callback) : Ble Bool :=
  ensureAdapterAvail failure do
    if ! (← ble).isConnected devId then
      triggerCbIfSet failure
      return false
    else
      queueAsyncAction
        { name := "disconnect"
          callbacks := { success := succ, failure := failure }
          trigger := .disconnect (normalizeDeviceUUID devId) }
      return true

/-! ## Reading and writing -/

section
variable [Gattlib]

/-- `getUUIDForCharOrFail`, `none` where it returns false. -/
def getUUIDForCharOrFail (dets charuid : UUID) (opSupp : Characteristic.Details → Bool)
    (failure : Callback) : Ble (Option GlUuid) := do
  if (← record dets).discoveryDone then
    locked dets do
      match (← record dets).characteristic charuid with
      | none =>
        triggerCbIfSet failure
        return none
      | some charDets =>
        if ! opSupp charDets then
          triggerCbIfSet failure
          return none
        else return some charDets.glUuid
  else
    match Gattlib.stringToUuid charuid with
    | none =>
      triggerCbIfSet failure
      return none
    | some uuid => return some uuid

/-- `dets->characteristic(charuid)`: a reference into the map. -/
def characteristicRef (dets charuid : UUID) : Ble Device.CharRef := do
  let d ← record dets
  if d.hasCharacteristic charuid then return d.charRef charuid else Prog.halt .endIterator

def read (device charUuid : UUID) (inData failure : Callback) : Ble Bool :=
  ensureAdapterAvail failure do
    if ! (← ble).isConnected device then
      triggerCbIfSet failure
      return false
    else
      let dets := normalizeDeviceUUID device
      match ← getUUIDForCharOrFail dets charUuid (·.supportsReads) failure with
      | none => return false
      | some _ =>
        let charDets ← characteristicRef dets charUuid
        queueAsyncAction
          { name := "read"
            callbacks := { datareceived := inData, failure := failure }
            trigger := .read dets charDets }
        return true

/-- `write`. Its buffer is the action's copy of `value`; `new` throws and never returns `NULL`. -/
def write (device charUuid : UUID) (value : BinaryBuffer) (succ failure : Callback) : Ble Bool :=
  ensureAdapterAvail failure do
    if ! (← ble).isConnected device then
      triggerCbIfSet failure
      return false
    else
      let dets := normalizeDeviceUUID device
      match ← getUUIDForCharOrFail dets charUuid (·.supportsWrites) failure with
      | none => return false
      | some _ =>
        let charDets ← characteristicRef dets charUuid
        queueAsyncAction
          { name := "write"
            callbacks := { success := succ, failure := failure }
            trigger := .write dets charDets value }
        return true

end

/-! ## Reports -/

/-- `isConnected(device, succ, failure)`. -/
def reportIsConnected (device : UUID) (succ failure : Callback) : Ble Bool :=
  ensureAdapterAvail failure do
    if (← ble).isConnected device then pushReport (.callback succ)
    else pushReport (.callback failure)
    return true

def isEnabled (succ failure : Callback) : Ble Bool :=
  ensureAdapterAvail failure do
    pushReport (.callback succ)
    return true

def enable (succ failure : Callback) : Ble Bool :=
  ensureAdapterAvail failure do
    let r ← callOut (.adapterPowered (← ble).adapter)
    if r.rc ≠ 0 then pushReport (.callback succ)
    else pushReport (.callback failure)
    return true

end Gattlibpp
