import Gattlibpp.Model.World

/-!
# Effects

The library as programs over `World` that call out through `callOut`: adapter,
callbacks and the actions of the queue. Every later module is written in these.
-/

namespace Gattlibpp

open Open

abbrev Ble (α : Type) := Prog World Call Resp Fault α

def ble : Ble BLECentral := fun w => .done w w.ble

def update (f : BLECentral → BLECentral) : Ble Unit := Prog.modify (·.updateBle f)

def note (o : Obs) : Ble Unit := Prog.modify (·.note o)

/-- Call out and wait for the answer. -/
def callOut (e : Call) : Ble Resp := fun w =>
  .call (w.push e) e fun r w' => .done (w'.back e r) r

@[simp] theorem ble_apply (w : World) : ble w = .done w w.ble := rfl

@[simp] theorem update_apply (f : BLECentral → BLECentral) (w : World) :
    update f w = .done (w.updateBle f) () := rfl

@[simp] theorem note_apply (o : Obs) (w : World) : note o w = .done (w.note o) () := rfl

/-- `reportQueue.push_back(op)`. -/
def pushReport (op : QueuedOp) : Ble Unit := do
  update fun b => { b with reportQueue := b.reportQueue ++ [op] }
  note (.pushed op)

/-! ## Device records -/

/-- `normalizeDeviceUUID`, which leaves its argument as it is. -/
def normalizeDeviceUUID (devUuid : UUID) : UUID := devUuid

namespace BLECentral

variable (b : BLECentral)

def deviceDetails (devId : UUID) : Option Device.Details := b.devices[normalizeDeviceUUID devId]?

def isConnected (devId : UUID) : Bool :=
  match b.deviceDetails devId with
  | none => false
  | some dev => dev.connection.isSome

theorem isConnected_iff (dev : UUID) :
    b.isConnected dev = true ↔ ∃ d, b.devices[dev]? = some d ∧ d.connection.isSome = true := by
  simp only [isConnected, deviceDetails, normalizeDeviceUUID]
  cases b.devices[dev]? <;> simp

end BLECentral

/-- Follow a record pointer. -/
def record (dets : UUID) : Ble Device.Details := do
  match (← ble).devices[dets]? with
  | some d => return d
  | none => Prog.halt .nullRecord

def updateRecord (dets : UUID) (f : Device.Details → Device.Details) : Ble Unit :=
  Prog.modify (·.updateDevice dets f)

/-- A `DEVDETS_LOCKGUARD` block. -/
def locked {α : Type} (dets : UUID) (p : Ble α) : Ble α := do
  if dets ∈ (← Prog.get).held then Prog.halt .relock
  else
    Prog.within (fun w => { w with held := dets :: w.held })
      (fun w => { w with held := w.held.tail }) p

/-! ## Adapter -/

def adapterClose : Ble Bool := do
  if ! (← ble).adapterIsOpen then return false
  else
    let _ ← callOut (.adapterClose (← ble).adapter)
    update fun b => { b with adapterIsOpen := false }
    return true

/-- The second half of `adapterOpen`, with no adapter open. -/
def adapterOpenFresh (name : String) : Ble Bool := do
  let r ← callOut (.adapterOpen (if name = "" then none else some name))
  if r.rc ≠ 0 then return false
  else
    update fun b => { b with adapter := r.adapter?, adapterName := name, adapterIsOpen := true }
    return true

def adapterOpen (name : String) : Ble Bool := do
  if (← ble).adapterIsOpen then
    if name = (← ble).adapterName then return true
    else
      let _ ← adapterClose
      adapterOpenFresh name
  else adapterOpenFresh name

def openAdapterIfRequired : Ble Bool := do
  if (← ble).adapterIsOpen then return true else adapterOpen ""

/-! ## User functions -/

/-- `shutdown`'s `doneCb`, of invocation `frame`. -/
def doneCb (frame : Nat) : Ble Unit := do
  let _ ← adapterClose
  if (← Prog.get).shutdowns.any (·.1 = frame) then
    Prog.modify fun w =>
      { w with shutdowns := w.shutdowns.map (fun p => if p.1 = frame then (frame, true) else p) }
  else Prog.halt .freedLocal

def Fn.invoke (f : Fn) (arg : Arg) (role : Role) : Ble Unit := do
  match f with
  | .user id =>
    let _ ← callOut (.user id arg role)
    return ()
  | .doneCb frame => Gattlibpp.doneCb frame
  | .debugPrint => return ()

/-- Call a `std::function`; an empty one throws `std::bad_function_call`. -/
def Callback.invoke (cb : Callback) (arg : Arg) (role : Role) : Ble Unit :=
  match cb with
  | none => Prog.raise
  | some f => f.invoke arg role

/-- Call a `std::function` unless it is empty. -/
def Callback.invokeIfSet (cb : Callback) (arg : Arg) (role : Role) : Ble Unit :=
  match cb with
  | none => pure ()
  | some f => f.invoke arg role

/-- `BLECENTRAL_TRIGGER_CB_IFSET`. -/
def triggerCbIfSet (thecb : Callback) : Ble Unit := Callback.invokeIfSet thecb .nothing .refused

/-- `BLECENTRAL_ENSURE_ADAPTER_AVAIL(failcb)` at the head of `rest`. -/
def ensureAdapterAvail (failcb : Callback) (rest : Ble Bool) : Ble Bool := do
  if ← openAdapterIfRequired then rest
  else
    triggerCbIfSet failcb
    return false

/-! ## Actions -/

namespace AsyncAction

/-- Follow a `thisAction` pointer. -/
def deref (thisAction : ActionId) : Ble Details := do
  match (← Prog.get).action thisAction with
  | some a => return a
  | none => Prog.halt .freedAction

def markCompleted (thisAction : ActionId) : Ble Unit := do
  let _ ← deref thisAction
  Prog.modify (·.updateAction thisAction fun a => { a with state := .completed })

def cancelWithoutCallback (thisAction : ActionId) : Ble Unit := do
  markCompleted thisAction
  note (.cancelled thisAction)

def completedWithSuccess (thisAction : ActionId) : Ble Unit := do
  markCompleted thisAction
  let a ← deref thisAction
  Callback.invokeIfSet a.callbacks.success .nothing (.success thisAction)

def completedWithFailure (thisAction : ActionId) : Ble Unit := do
  markCompleted thisAction
  let a ← deref thisAction
  Callback.invokeIfSet a.callbacks.failure .nothing (.failure thisAction)

end AsyncAction

/-- `asyncActions.push(dets)`: the copy in the queue gets an address of its own. -/
def queueAsyncAction (dets : AsyncAction.Details) : Ble Unit := Prog.modify fun w =>
  let a := { dets with id := w.serial }
  { w with
    ble := { w.ble with asyncActions := w.ble.asyncActions ++ [a] }
    serial := w.serial + 1
    log := w.log ++ [.queued a] }

def currentOpCompleted : Ble Unit := do
  match (← ble).asyncActions with
  | [] => return ()
  | front :: _ => AsyncAction.completedWithSuccess front.id

def currentOpFailed : Ble Unit := do
  match (← ble).asyncActions with
  | [] => return ()
  | front :: _ => AsyncAction.completedWithFailure front.id

end Gattlibpp
