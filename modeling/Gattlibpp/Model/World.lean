import Gattlibpp.Open.Machine
import Gattlibpp.Model.Device

/-!
# The central and its world

`BLECentral` is the singleton's data members. Closures are data: the trigger of an
action (`Trigger`), the callbacks waiting in `reportQueue` (`QueuedOp`) and the
user's functions (`Fn`). `Call` is everything the library calls out to, `Move`
everything that calls in: the public operations and gattlib's callbacks.

`World` adds what only proofs look at: the serial numbers that name actions, the
calls and ticks in progress, and the log.
-/

namespace Gattlibpp

open Std (TreeMap)
open Device (CharRef)

/-- Names an action, as its address does in the source. -/
abbrev ActionId := Nat

inductive Address.Type where
  | bredr | lePublic | leRandom
  deriving DecidableEq, Repr

/-- `ConnectionParamsStruct`; `gattlib_bt_sec_level_t` is gattlib's. -/
structure ConnectionParams where
  destinationType : Address.Type := .lePublic
  security : Nat := 0
  psm : Int := 0
  mtu : Int := 0
  deriving DecidableEq, Repr

/-! ## Actions -/

/-- The trigger closures, with what each captures. -/
inductive Trigger where
  | autodisconn (devId : UUID)
  | scan (runSeconds : UInt16)
  | stopScanDone
  | stopScan
  | connect (devId : UUID) (parameters : ConnectionParams)
  | disconnect (devDets : UUID)
  | read (dets : UUID) (charDets : CharRef)
  | write (dets : UUID) (charDets : CharRef) (buffer : BinaryBuffer)
  deriving DecidableEq, Repr

structure CallbacksContainer where
  success : Callback := none
  failure : Callback := none
  discovered : Callback := none
  datareceived : Callback := none
  deriving DecidableEq, Repr

namespace AsyncAction

inductive State where
  | pending | triggered | completed
  deriving DecidableEq, Repr

/-- `AsyncActionDetailsStruct`; `id` stands for its address. -/
structure Details where
  id : ActionId := 0
  name : String
  state : State := .pending
  callbacks : CallbacksContainer
  trigger : Trigger
  waitCount : UInt16 := 0
  deriving DecidableEq, Repr

namespace Details

def isPending (a : Details) : Bool := a.state = .pending

def isRunning (a : Details) : Bool := a.state = .triggered

def isDone (a : Details) : Bool := a.state = .completed

end Details

end AsyncAction

/-- The elements of `reportQueue`. `of` names the action a read's data belongs to. -/
inductive QueuedOp where
  | callback (cb : Callback)
  | readData (drcb : Callback) (binBuf : BinaryBuffer) (of : ActionId)
  | notification (notifHandler : Callback) (notifBuf : BinaryBuffer)
  | autoDiscoverServicesStep (onDevice : UUID)
  | autoDiscoverCharacteristicsStep (onDevice : UUID)
  | reportConnected
  deriving DecidableEq, Repr

/-! ## Calling out -/

/-- Why a user function is called: for the outcome of an action, to report that a
request failed at once, or from the report queue, a scan or a notification. -/
inductive Role where
  | success (of : ActionId)
  | failure (of : ActionId)
  | data (of : ActionId)
  | refused
  | queued
  | discovered
  | notified
  deriving DecidableEq, Repr

inductive Arg where
  | nothing
  | data (buf : BinaryBuffer)
  | device (id : UUID) (name : String)
  deriving DecidableEq, Repr

/-- Calls out of the library: gattlib's functions and the user's. Besides its arguments an
asynchronous call carries the action that makes it, a scan call whether `adapter_is_open`,
and a discovery the device it is for. -/
inductive Call where
  | user (fn : Nat) (arg : Arg) (role : Role)
  | asyncProcessAll
  | adapterOpen (name : Option String)
  | adapterClose (adapter : Option Adapter)
  | adapterPowered (adapter : Option Adapter)
  | scanEnable (of : ActionId) (isOpen : Bool) (seconds : UInt16)
  | scanDisable (of : ActionId) (isOpen : Bool)
  | connect (of : ActionId) (devId : UUID) (parameters : ConnectionParams)
  | disconnect (of : ActionId) (connection : Option Conn)
  | readChar (of : ActionId) (connection : Option Conn) (uuid : GlUuid)
  | writeChar (of : ActionId) (connection : Option Conn) (uuid : GlUuid) (buffer : BinaryBuffer)
  | discoverPrimary (onDevice : UUID) (connection : Option Conn)
  | discoverChar (onDevice : UUID) (connection : Option Conn)
  | registerNotification (connection : Option Conn) (handler : Option UUID)
  | registerIndication (connection : Option Conn) (handler : Option UUID)
  | notificationStart (connection : Option Conn) (uuid : GlUuid)
  | notificationStop (connection : Option Conn) (uuid : GlUuid)
  deriving DecidableEq, Repr

/-- The action an asynchronous gattlib call is made for. -/
def Call.action : Call → Option ActionId
  | scanEnable a _ _ | scanDisable a _ | connect a _ _ | disconnect a _ | readChar a _ _
  | writeChar a _ _ _ => some a
  | _ => none

/-- What a call comes back with: nothing, a return code, or a return code of 0 with
what the call wrote through its pointers. -/
inductive Resp where
  | void
  | code (rc : Int)
  | adapter (a : Adapter)
  | services (l : List GlPrimaryService)
  | characteristics (l : List GlCharacteristic)
  deriving DecidableEq, Repr

namespace Resp

/-- The return code. -/
def rc : Resp → Int
  | code rc => rc
  | _ => 0

def adapter? : Resp → Option Adapter
  | adapter a => some a
  | _ => none

def serviceList : Resp → List GlPrimaryService
  | services l => l
  | _ => []

def characteristicList : Resp → List GlCharacteristic
  | characteristics l => l
  | _ => []

end Resp

/-! ## Calling in -/

/-- gattlib's callbacks. A `NULL` pointer is `none`. -/
inductive Event where
  | connected (connection : Option Conn)
  | disconnected
  | deviceDiscovered (addr name : Option String)
  | scanComplete
  | readChar (buffer : Option BinaryBuffer)
  | opDone
  | opFailed
  | scanDisableDone
  | notification (uuid : GlUuid) (data : Option BinaryBuffer)
  deriving DecidableEq, Repr

/-- The public operations that change anything. `startScan` is `scan` for 0 seconds, and
the overloads with a service UUID and `writeWithoutResponse` only forward. -/
inductive Op where
  | adapterOpen (name : String)
  | adapterClose
  | shutdown
  | processAsync
  | setAutoDiscoverOnConnect (setTo : Bool)
  | setConnectionParameters (p : ConnectionParams)
  | scan (runSeconds : UInt16) (scanCompleted deviceDiscoveredCb failure : Callback)
  | stopScan (succ failure : Callback)
  | connect (device : UUID) (parameters : Option ConnectionParams) (succ failure : Callback)
  | disconnect (device : UUID) (succ failure : Callback)
  | read (device charUuid : UUID) (inData failure : Callback)
  | write (device charUuid : UUID) (value : BinaryBuffer) (succ failure : Callback)
  | startNotification (device charUuid : UUID) (inDataCallback failure : Callback)
  | stopNotification (device charUuid : UUID) (succ failure : Callback)
  | stopAllNotifications (device : UUID)
  | isConnected (device : UUID) (succ failure : Callback)
  | isEnabled (succ failure : Callback)
  | enable (succ failure : Callback)
  | deviceName (device : UUID)
  deriving DecidableEq, Repr

/-- What an operation returns. -/
inductive Ret where
  | void
  | bool (b : Bool)
  | name (n : String)
  deriving DecidableEq, Repr

/-- A call into the library. `of` says which action's gattlib call a callback answers. -/
inductive Move where
  | api (op : Op)
  | event (of : Option ActionId) (ev : Event)
  deriving DecidableEq, Repr

/-! ## The world -/

/-- What the log records. -/
inductive Obs where
  | enter (m : Move)
  | exit (m : Move) (r : Ret)
  | raised (m : Move)
  | call (e : Call)
  | ret (e : Call) (r : Resp)
  | queued (a : AsyncAction.Details)
  | triggered (a : ActionId)
  | cancelled (a : ActionId)
  | popped (a : AsyncAction.Details)
  | freed (a : ActionId)
  | pushed (op : QueuedOp)
  | ran (op : QueuedOp)
  deriving DecidableEq, Repr

/-- Undefined behaviour of the source. -/
inductive Fault where
  /-- `deviceConnected` follows a `NULL` record. -/
  | nullRecord
  /-- `(*iter).second` at `end()`. -/
  | endIterator
  /-- A reference into `characteristics` whose node was freed. -/
  | freedCharacteristic
  /-- An action or its closure used after `pop`. -/
  | freedAction
  /-- `doneCb` writes a local of a `shutdown` that has returned. -/
  | freedLocal
  /-- An iterator into `characteristics` used after its node was freed. -/
  | freedIterator
  /-- A non-recursive mutex locked twice by its thread. -/
  | relock
  deriving DecidableEq, Repr

/-- The data members of `BLECentral`. -/
structure BLECentral where
  adapter : Option Adapter := none
  adapterName : String := ""
  devices : DeviceMap := ∅
  adapterIsOpen : Bool := false
  isScanning : Bool := false
  autoDiscover : Bool := true
  connectedTo : UUID := ""
  connParams : ConnectionParams := {}
  namesCache : TreeMap UUID String := ∅
  devDiscoveredCb : Callback := none
  asyncActions : List AsyncAction.Details := []
  reportQueue : List QueuedOp := []

/-- The central and what only proofs look at. -/
structure World where
  ble : BLECentral := {}
  /-- The next serial number. -/
  serial : Nat := 0
  /-- The calls out in progress, innermost first. -/
  calls : List Call := []
  /-- What each tick that runs reports still has to run of its copy of the queue. -/
  ticks : List (List QueuedOp) := []
  /-- The devices whose `conn_mutex` is held. -/
  held : List UUID := []
  /-- The `shutdown`s in progress, with their `adaptCloseCalled`. -/
  shutdowns : List (Nat × Bool) := []
  log : List Obs := []

namespace World

/-- The central as constructed. -/
def init : World := {}

def note (w : World) (o : Obs) : World := { w with log := w.log ++ [o] }

/-- A call out starts. -/
def push (w : World) (e : Call) : World :=
  { w with calls := e :: w.calls, log := w.log ++ [.call e] }

/-- The innermost call out comes back. -/
def back (w : World) (e : Call) (r : Resp) : World :=
  { w with calls := w.calls.tail, log := w.log ++ [.ret e r] }

def updateBle (w : World) (f : BLECentral → BLECentral) : World := { w with ble := f w.ble }

/-- Change the record of a device. -/
def updateDevice (w : World) (dev : UUID) (f : Device.Details → Device.Details) : World :=
  w.updateBle fun b => { b with devices := b.devices.modify dev f }

/-- Change the action that `a` points to. -/
def updateAction (w : World) (a : ActionId) (f : AsyncAction.Details → AsyncAction.Details) :
    World :=
  w.updateBle fun b =>
    { b with asyncActions := b.asyncActions.map fun x => if x.id = a then f x else x }

/-- The action `a` points to, if it is still in the queue. -/
def action (w : World) (a : ActionId) : Option AsyncAction.Details :=
  w.ble.asyncActions.find? fun x => x.id = a

def front (w : World) : Option AsyncAction.Details := w.ble.asyncActions.head?

/-! ## Fields after an effect -/

variable (w : World)

@[simp] theorem note_ble (o : Obs) : (w.note o).ble = w.ble := rfl
@[simp] theorem note_calls (o : Obs) : (w.note o).calls = w.calls := rfl
@[simp] theorem note_ticks (o : Obs) : (w.note o).ticks = w.ticks := rfl
@[simp] theorem note_held (o : Obs) : (w.note o).held = w.held := rfl
@[simp] theorem note_serial (o : Obs) : (w.note o).serial = w.serial := rfl
@[simp] theorem note_log (o : Obs) : (w.note o).log = w.log ++ [o] := rfl

@[simp] theorem push_ble (e : Call) : (w.push e).ble = w.ble := rfl
@[simp] theorem push_calls (e : Call) : (w.push e).calls = e :: w.calls := rfl
@[simp] theorem push_ticks (e : Call) : (w.push e).ticks = w.ticks := rfl
@[simp] theorem push_held (e : Call) : (w.push e).held = w.held := rfl
@[simp] theorem push_serial (e : Call) : (w.push e).serial = w.serial := rfl
@[simp] theorem push_log (e : Call) : (w.push e).log = w.log ++ [.call e] := rfl

@[simp] theorem back_ble (e : Call) (r : Resp) : (w.back e r).ble = w.ble := rfl
@[simp] theorem back_calls (e : Call) (r : Resp) : (w.back e r).calls = w.calls.tail := rfl
@[simp] theorem back_ticks (e : Call) (r : Resp) : (w.back e r).ticks = w.ticks := rfl
@[simp] theorem back_held (e : Call) (r : Resp) : (w.back e r).held = w.held := rfl
@[simp] theorem back_serial (e : Call) (r : Resp) : (w.back e r).serial = w.serial := rfl
@[simp] theorem back_log (e : Call) (r : Resp) : (w.back e r).log = w.log ++ [.ret e r] := rfl

@[simp] theorem updateBle_ble (f : BLECentral → BLECentral) : (w.updateBle f).ble = f w.ble := rfl
@[simp] theorem updateBle_calls (f : BLECentral → BLECentral) :
    (w.updateBle f).calls = w.calls := rfl
@[simp] theorem updateBle_ticks (f : BLECentral → BLECentral) :
    (w.updateBle f).ticks = w.ticks := rfl
@[simp] theorem updateBle_held (f : BLECentral → BLECentral) : (w.updateBle f).held = w.held := rfl
@[simp] theorem updateBle_serial (f : BLECentral → BLECentral) :
    (w.updateBle f).serial = w.serial := rfl
@[simp] theorem updateBle_log (f : BLECentral → BLECentral) : (w.updateBle f).log = w.log := rfl

@[simp] theorem updateDevice_calls (dev : UUID) (f : Device.Details → Device.Details) :
    (w.updateDevice dev f).calls = w.calls := rfl
@[simp] theorem updateDevice_ticks (dev : UUID) (f : Device.Details → Device.Details) :
    (w.updateDevice dev f).ticks = w.ticks := rfl
@[simp] theorem updateDevice_held (dev : UUID) (f : Device.Details → Device.Details) :
    (w.updateDevice dev f).held = w.held := rfl
@[simp] theorem updateDevice_serial (dev : UUID) (f : Device.Details → Device.Details) :
    (w.updateDevice dev f).serial = w.serial := rfl
@[simp] theorem updateDevice_log (dev : UUID) (f : Device.Details → Device.Details) :
    (w.updateDevice dev f).log = w.log := rfl

section
variable (t : ActionId) (f : AsyncAction.Details → AsyncAction.Details)

@[simp] theorem updateAction_calls : (w.updateAction t f).calls = w.calls := rfl
@[simp] theorem updateAction_ticks : (w.updateAction t f).ticks = w.ticks := rfl
@[simp] theorem updateAction_held : (w.updateAction t f).held = w.held := rfl
@[simp] theorem updateAction_serial : (w.updateAction t f).serial = w.serial := rfl
@[simp] theorem updateAction_log : (w.updateAction t f).log = w.log := rfl

end

theorem action_updateAction {f : AsyncAction.Details → AsyncAction.Details}
    (hf : ∀ x, (f x).id = x.id) (a b : ActionId) :
    (w.updateAction a f).action b = (w.action b).map fun x => if x.id = a then f x else x := by
  simp only [updateAction, action, updateBle_ble, List.find?_map]
  congr 2
  funext x
  simp only [Function.comp_apply]
  split <;> simp [hf]

end World

end Gattlibpp
