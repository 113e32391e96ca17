import Gattlibpp.Model.Tick

/-!
# The system

gattlib's callbacks, `shutdown`, the public operations by name, and the system
they make: every move of the user or of gattlib starts a program, also from
inside calls that are still open.
-/

namespace Gattlibpp

open Open

/-! ## Callbacks -/

def readDataReceived (buf : BinaryBuffer) : Ble Unit := do
  match (← ble).asyncActions with
  | [] => return ()
  | curAct :: _ =>
    if curAct.callbacks.datareceived.isSome then
      pushReport (.readData curAct.callbacks.datareceived buf curAct.id)
    AsyncAction.markCompleted curAct.id

def deviceDiscovered (id : UUID) (name : String) : Ble Unit := do
  update fun b => { b with namesCache := b.namesCache.insert id name }
  Callback.invokeIfSet (← ble).devDiscoveredCb (.device id name) .discovered

def scanCompleted : Ble Unit := do
  update fun b => { b with isScanning := false }
  currentOpCompleted

def scanDisableCompleted : Ble Unit := do
  update fun b => { b with isScanning := false }
  currentOpCompleted

def deviceConnected (connection : Option Conn) : Ble Unit := do
  let dets := normalizeDeviceUUID (← ble).connectedTo
  let _ ← record dets
  updateRecord dets fun d => { d with connection := connection }
  if connection.isSome then
    if (← ble).autoDiscover then pushReport (.autoDiscoverServicesStep dets)
    else currentOpCompleted
  else
    -- the source's `if (asyncActions.size()) front().completedWithFailure()`
    currentOpFailed

def deviceDisconnected : Ble Unit := do
  let dets := normalizeDeviceUUID (← ble).connectedTo
  -- changes nothing where there is no record
  updateRecord dets fun d => { d with connection := none }
  update fun b => { b with connectedTo := "" }
  currentOpCompleted

section
variable [Gattlib]

/-- The `clib_` functions. -/
def Event.handle (ev : Event) : Ble Unit :=
  match ev with
  | .connected connection => deviceConnected connection
  | .disconnected => deviceDisconnected
  | .deviceDiscovered addr name => Gattlibpp.deviceDiscovered (addr.getD "") (name.getD "")
  | .scanComplete => scanCompleted
  | .readChar buffer =>
    match buffer with
    | none => pure ()
    | some buf => if buf.length ≠ 0 then readDataReceived buf else pure ()
  | .opDone => currentOpCompleted
  | .opFailed => currentOpFailed
  | .scanDisableDone => scanDisableCompleted
  | .notification uuid data =>
    match data with
    | none => pure ()
    | some data =>
      if data.length ≠ 0 then
        match Gattlib.uuidToString uuid with
        | none => pure ()
        | some uuidStr => handleNotification uuidStr data
      else pure ()

/-! ## Shutdown -/

/-- `shutdown`'s loop of at most 1000 ticks. -/
def shutdownLoop (frame : Nat) : Nat → Ble Unit
  | 0 => pure ()
  | n + 1 => do
    if (← Prog.get).shutdowns.any (· = (frame, true)) then return ()
    else
      processAsync
      shutdownLoop frame n

def shutdown : Ble Unit := do
  let b ← ble
  if b.connectedTo ≠ "" then
    match b.deviceDetails b.connectedTo with
    | some dev =>
      let frame := (← Prog.get).serial
      Prog.within
        (fun w => { w with serial := w.serial + 1, shutdowns := (frame, false) :: w.shutdowns })
        (fun w => { w with shutdowns := w.shutdowns.tail }) do
          stopAllNotifications b.connectedTo
          let _ ← disconnect dev.id (some (.doneCb frame)) (some (.doneCb frame))
          shutdownLoop frame 1000
    | none =>
      let _ ← adapterClose
      return ()
  else
    let _ ← adapterClose
    return ()

/-! ## Operations -/

/-- `deviceName`: `namesCache[devUUID]`, which inserts an empty name. -/
def deviceName (devUUID : UUID) : Ble String := do
  update fun b => { b with namesCache := b.namesCache.insertIfNew devUUID "" }
  return (← ble).namesCache[devUUID]?.getD ""

def Op.run (op : Op) : Ble Ret :=
  match op with
  | .adapterOpen name => return .bool (← Gattlibpp.adapterOpen name)
  | .adapterClose => return .bool (← Gattlibpp.adapterClose)
  | .shutdown => do Gattlibpp.shutdown; return .void
  | .processAsync => do Gattlibpp.processAsync; return .void
  | .setAutoDiscoverOnConnect setTo => do
    Gattlibpp.update fun b => { b with autoDiscover := setTo }
    return .void
  | .setConnectionParameters p => do
    Gattlibpp.update fun b => { b with connParams := p }
    return .void
  | .scan runSeconds scanCompleted deviceDiscoveredCb failure =>
    return .bool (← Gattlibpp.scan runSeconds scanCompleted deviceDiscoveredCb failure)
  | .stopScan succ failure => return .bool (← Gattlibpp.stopScan succ failure)
  | .connect device parameters succ failure =>
    return .bool (← Gattlibpp.connect device parameters succ failure)
  | .disconnect device succ failure => return .bool (← Gattlibpp.disconnect device succ failure)
  | .read device charUuid inData failure =>
    return .bool (← Gattlibpp.read device charUuid inData failure)
  | .write device charUuid value succ failure =>
    return .bool (← Gattlibpp.write device charUuid value succ failure)
  | .startNotification device charUuid inDataCallback failure =>
    return .bool (← Gattlibpp.startNotification device charUuid inDataCallback failure)
  | .stopNotification device charUuid succ failure =>
    return .bool (← Gattlibpp.stopNotification device charUuid succ failure)
  | .stopAllNotifications device => do Gattlibpp.stopAllNotifications device; return .void
  | .isConnected device succ failure =>
    return .bool (← reportIsConnected device succ failure)
  | .isEnabled succ failure => return .bool (← Gattlibpp.isEnabled succ failure)
  | .enable succ failure => return .bool (← Gattlibpp.enable succ failure)
  | .deviceName device => return .name (← Gattlibpp.deviceName device)

/-- The program a move starts. -/
def Move.prog (m : Move) : Ble Unit :=
  Prog.trapped (·.note (.raised m)) do
    note (.enter m)
    match m with
    | .api op =>
      let r ← op.run
      note (.exit m r)
    | .event _ ev =>
      ev.handle
      note (.exit m .void)

/-- What the environment may do: the moves it may make and the answers it may give. -/
structure Policy where
  enter : World → Move → Prop
  ans : World → Call → Resp → Prop

/-- No restriction. -/
def Policy.any : Policy where
  enter _ _ := True
  ans _ _ _ := True

instance (w : World) (m : Move) : Decidable (Policy.any.enter w m) := isTrue trivial

instance (w : World) (e : Call) (r : Resp) : Decidable (Policy.any.ans w e r) := isTrue trivial

/-- The library in an environment that keeps to `P`. -/
def system (P : Policy) : System World Call Resp Fault Move where
  prog := Move.prog
  enter := P.enter
  ans := P.ans

instance {P : Policy} [∀ w m, Decidable (P.enter w m)] (w : World) (m : Move) :
    Decidable ((system P).enter w m) := inferInstanceAs (Decidable (P.enter w m))

instance {P : Policy} [∀ w e r, Decidable (P.ans w e r)] (w : World) (e : Call) (r : Resp) :
    Decidable ((system P).ans w e r) := inferInstanceAs (Decidable (P.ans w e r))

/-- The states reached from `w0` with no call open at first. -/
def Reach (P : Policy) (w0 : World) : Config World Call Resp Fault → Prop :=
  (system P).Reach ⟨w0, [], none⟩

end

end Gattlibpp
