import Gattlibpp.Model.Notifications
import Gattlibpp.Model.Discovery

/-!
# The tick

The trigger closures, the callbacks of the report queue, and `processAsync`.
-/

namespace Gattlibpp

open Open

/-! ## Triggers -/

/-- Use what a trigger closure captured: it lives in its action. -/
def closureOf (thisAction : ActionId) : Ble Unit := do
  let _ ← AsyncAction.deref thisAction
  return ()

/-- `charDets.gl_uuid` through the captured reference. -/
def capturedUuid (dets : UUID) (charDets : Device.CharRef) : Ble GlUuid := do
  match (← record dets).deref charDets with
  | some c => return c.glUuid
  | none => Prog.halt .freedCharacteristic

def Trigger.fire (t : Trigger) (thisAction : ActionId) : Ble Unit := do
  match t with
  | .autodisconn devId =>
    let _ ← Gattlibpp.disconnect devId (some .debugPrint) (some .debugPrint)
    return ()
  | .scan runSeconds =>
    let r ← callOut (.scanEnable thisAction (← ble).adapterIsOpen runSeconds)
    if r.rc ≠ 0 then
      closureOf thisAction
      update fun b => { b with isScanning := false }
      AsyncAction.completedWithFailure thisAction
  | .stopScanDone => AsyncAction.completedWithSuccess thisAction
  | .stopScan =>
    let r ← callOut (.scanDisable thisAction (← ble).adapterIsOpen)
    if r.rc ≠ 0 then AsyncAction.completedWithFailure thisAction
  | .connect devId parameters =>
    let r ← callOut (.connect thisAction devId parameters)
    if r.rc ≠ 0 then AsyncAction.completedWithFailure thisAction
  | .disconnect devDets =>
    let r ← callOut (.disconnect thisAction (← record devDets).connection)
    if r.rc ≠ 0 then AsyncAction.completedWithFailure thisAction
  | .read dets charDets =>
    let uuid ← capturedUuid dets charDets
    let r ← callOut (.readChar thisAction (← record dets).connection uuid)
    if r.rc ≠ 0 then AsyncAction.completedWithFailure thisAction
  | .write dets charDets buffer =>
    let uuid ← capturedUuid dets charDets
    let r ← callOut (.writeChar thisAction (← record dets).connection uuid buffer)
    if r.rc ≠ 0 then AsyncAction.completedWithFailure thisAction
    -- `delete [] buffer`
    closureOf thisAction
    note (.freed thisAction)

/-- `AsyncActionDetailsStruct::run`. -/
def AsyncAction.Details.run (thisAction : AsyncAction.Details) : Ble Bool := do
  if ! thisAction.isPending then return false
  else
    Prog.modify (·.updateAction thisAction.id fun a => { a with state := .triggered })
    note (.triggered thisAction.id)
    thisAction.trigger.fire thisAction.id
    return true

/-! ## Reports -/

section
variable [Gattlib]

/-- `(*iter)()` on an element of the copied queue. -/
def QueuedOp.run (op : QueuedOp) : Ble Unit :=
  match op with
  | .callback cb => Callback.invoke cb .nothing .queued
  | .readData drcb binBuf of => Callback.invoke drcb (.data binBuf) (.data of)
  | .notification notifHandler notifBuf => Callback.invoke notifHandler (.data notifBuf) .notified
  | .autoDiscoverServicesStep onDevice => Gattlibpp.autoDiscoverServicesStep onDevice
  | .autoDiscoverCharacteristicsStep onDevice => Gattlibpp.autoDiscoverCharacteristicsStep onDevice
  | .reportConnected => Gattlibpp.reportConnected

/-- The loop over the copied queue. -/
def runReports : List QueuedOp → Ble Unit
  | [] => pure ()
  | op :: rest => do
    Prog.modify fun w => { w with ticks := rest :: w.ticks.tail }
    note (.ran op)
    op.run
    runReports rest

/-- The last part of the tick, on the front action. -/
def tickAction : Ble Unit := do
  match (← ble).asyncActions with
  | [] => return ()
  | actDets :: rest =>
    if actDets.isPending then
      let _ ← actDets.run
      return ()
    else if actDets.isDone then
      update fun b => { b with asyncActions := rest }
      note (.popped actDets)
    else
      Prog.modify (·.updateAction actDets.id fun a => { a with waitCount := a.waitCount + 1 })

def processAsync : Ble Unit := do
  let _ ← callOut .asyncProcessAll
  let q := (← ble).reportQueue
  -- the block of the local copy
  Prog.within (fun w => { w with ticks := q :: w.ticks })
    (fun w => { w with ticks := w.ticks.tail }) do
      if q.length ≠ 0 then
        update fun b => { b with reportQueue := [] }
        runReports q
  tickAction

end

end Gattlibpp
