import Gattlibpp.Model.System

/-!
# What a step can do

`Act` says once what the library does to the world between two points where
control is outside: one constructor for each kind of stretch, with the guard under
which it runs. `Request` is the stretch of an accepted request, and `Subs` a change
to the notification state of a device record. Every invariant is proved against
these; `Act/Fits` proves that the programs do nothing else.
-/

namespace Gattlibpp

open Open

/-! ## Effects on the world -/

inductive Outcome where
  | success | failure
  deriving DecidableEq, Repr

namespace Outcome

def callback : Outcome → CallbacksContainer → Callback
  | success, c => c.success
  | failure, c => c.failure

def role : Outcome → ActionId → Role
  | success, t => .success t
  | failure, t => .failure t

end Outcome

namespace World

def complete (w : World) (t : ActionId) : World :=
  w.updateAction t fun a => { a with state := .completed }

/-- A callback is called: control leaves if it is a function of the user. -/
def invoke (w : World) (cb : Callback) (arg : Arg) (role : Role) : World :=
  match cb with
  | some (.user id) => w.push (.user id arg role)
  | _ => w

/-- An action becomes Completed and its callback is called. -/
def finish (w : World) (how : Outcome) (t : ActionId) : World :=
  (w.complete t).invoke ((w.action t).bind fun a => how.callback a.callbacks) .nothing (how.role t)

/-- The front action, if there is one, is finished. -/
def finishFront (w : World) (how : Outcome) : World :=
  match w.front with
  | none => w
  | some a => w.finish how a.id

def start (w : World) (t : ActionId) : World :=
  (w.updateAction t fun a => { a with state := .triggered }).note (.triggered t)

def report (w : World) (op : QueuedOp) : World :=
  (w.updateBle fun b => { b with reportQueue := b.reportQueue ++ [op] }).note (.pushed op)

def enqueue (w : World) (a : AsyncAction.Details) : World :=
  { w with
    ble := { w.ble with asyncActions := w.ble.asyncActions ++ [{ a with id := w.serial }] }
    serial := w.serial + 1
    log := w.log ++ [.queued { a with id := w.serial }] }

/-- `gattlib_async_process_all` comes back, and the tick copies the report queue. -/
def takeReports (w : World) (r : Resp) : World :=
  { w.back .asyncProcessAll r with
    ticks := w.ble.reportQueue :: w.ticks
    ble := { w.ble with reportQueue := [] } }

/-- A completed front is popped between `w` and `w'`. -/
def Pops (w w' : World) : Prop :=
  ∀ a rest, w.ble.asyncActions = a :: rest → a.state = .completed → .popped a ∈ w'.log

/-- The connection a trigger on `dev` passes. -/
def connectionOf (w : World) (dev : UUID) : Option Conn :=
  (w.ble.devices[dev]?).bind (·.connection)

/-- The characteristic a captured reference refers to. -/
def captured (w : World) (dev : UUID) (r : Device.CharRef) : Option Characteristic.Details :=
  (w.ble.devices[dev]?).bind (·.deref r)

variable (w : World)

theorem action_complete {t : ActionId} {a : AsyncAction.Details} (h : w.action t = some a) :
    (w.complete t).action t = some { a with state := .completed } := by
  have hid : a.id = t := by simpa using List.find?_some h
  rw [complete, action_updateAction, h, Option.map_some, if_pos hid]
  exact fun _ => rfl

theorem action_of_front {a : AsyncAction.Details} (h : w.front = some a) :
    w.action a.id = some a := by
  unfold front at h
  cases hq : w.ble.asyncActions with
  | nil => rw [hq] at h; cases h
  | cons x xs => rw [hq] at h; cases h; simp [action, hq]

theorem action_start {a : AsyncAction.Details} (h : w.front = some a) :
    (w.start a.id).action a.id = some { a with state := .triggered } := by
  change (w.updateAction a.id _).action a.id = _
  rw [action_updateAction, w.action_of_front h, Option.map_some, if_pos rfl]
  exact fun _ => rfl

@[simp] theorem invoke_held (cb : Callback) (arg : Arg) (role : Role) :
    (w.invoke cb arg role).held = w.held := by
  unfold invoke
  split <;> rfl

theorem invoke_ble (cb : Callback) (arg : Arg) (role : Role) :
    (w.invoke cb arg role).ble = w.ble := by
  unfold invoke
  split <;> rfl

theorem finish_ble (how : Outcome) (t : ActionId) : (w.finish how t).ble = (w.complete t).ble :=
  (w.complete t).invoke_ble ..

@[simp] theorem finish_held (how : Outcome) (t : ActionId) : (w.finish how t).held = w.held :=
  (w.complete t).invoke_held ..

@[simp] theorem finishFront_held (how : Outcome) : (w.finishFront how).held = w.held := by
  unfold finishFront
  split
  · rfl
  · exact w.finish_held ..

@[simp] theorem complete_calls (t : ActionId) : (w.complete t).calls = w.calls := rfl
@[simp] theorem complete_ticks (t : ActionId) : (w.complete t).ticks = w.ticks := rfl
@[simp] theorem complete_held (t : ActionId) : (w.complete t).held = w.held := rfl
@[simp] theorem complete_serial (t : ActionId) : (w.complete t).serial = w.serial := rfl
@[simp] theorem complete_log (t : ActionId) : (w.complete t).log = w.log := rfl

@[simp] theorem start_calls (t : ActionId) : (w.start t).calls = w.calls := rfl
@[simp] theorem start_ticks (t : ActionId) : (w.start t).ticks = w.ticks := rfl
@[simp] theorem start_held (t : ActionId) : (w.start t).held = w.held := rfl
@[simp] theorem start_serial (t : ActionId) : (w.start t).serial = w.serial := rfl
@[simp] theorem start_log (t : ActionId) : (w.start t).log = w.log ++ [.triggered t] := rfl

@[simp] theorem takeReports_calls (r : Resp) : (w.takeReports r).calls = w.calls.tail := rfl
@[simp] theorem takeReports_ticks (r : Resp) :
    (w.takeReports r).ticks = w.ble.reportQueue :: w.ticks := rfl
@[simp] theorem takeReports_held (r : Resp) : (w.takeReports r).held = w.held := rfl
@[simp] theorem takeReports_log (r : Resp) :
    (w.takeReports r).log = w.log ++ [.ret .asyncProcessAll r] := rfl

@[simp] theorem report_calls (op : QueuedOp) : (w.report op).calls = w.calls := rfl
@[simp] theorem report_ticks (op : QueuedOp) : (w.report op).ticks = w.ticks := rfl
@[simp] theorem report_held (op : QueuedOp) : (w.report op).held = w.held := rfl
@[simp] theorem report_serial (op : QueuedOp) : (w.report op).serial = w.serial := rfl
@[simp] theorem report_log (op : QueuedOp) : (w.report op).log = w.log ++ [.pushed op] := rfl

@[simp] theorem enqueue_calls (a : AsyncAction.Details) : (w.enqueue a).calls = w.calls := rfl
@[simp] theorem enqueue_ticks (a : AsyncAction.Details) : (w.enqueue a).ticks = w.ticks := rfl
@[simp] theorem enqueue_held (a : AsyncAction.Details) : (w.enqueue a).held = w.held := rfl
@[simp] theorem enqueue_serial (a : AsyncAction.Details) :
    (w.enqueue a).serial = w.serial + 1 := rfl
@[simp] theorem enqueue_log (a : AsyncAction.Details) :
    (w.enqueue a).log = w.log ++ [.queued { a with id := w.serial }] := rfl

end World

/-- How a callback of gattlib completes the front action, if it does so at once. -/
def Event.outcome (b : BLECentral) : Event → Option Outcome
  | .connected connection =>
    if connection.isSome then if b.autoDiscover then none else some .success else some .failure
  | .disconnected | .scanComplete | .scanDisableDone | .opDone => some .success
  | .opFailed => some .failure
  | _ => none

/-- What a callback of gattlib changes besides the front action. -/
def Event.apply (w : World) : Event → World
  | .connected connection =>
    w.updateDevice w.ble.connectedTo fun d => { d with connection := connection }
  | .disconnected =>
    (w.updateDevice w.ble.connectedTo fun d => { d with connection := none }).updateBle
      fun b => { b with connectedTo := "" }
  | .scanComplete | .scanDisableDone => w.updateBle fun b => { b with isScanning := false }
  | _ => w

/-- A move that only enters: an operation, or a callback that touches no action. -/
def Move.Idle : Move → Prop
  | .api _ => True
  | .event _ ev =>
    match ev with
    | .notification .. | .readChar none | .readChar (some []) => True
    | _ => False

def World.named (w : World) (id : UUID) (name : String) : World :=
  w.updateBle fun b => { b with namesCache := b.namesCache.insert id name }

/-- `deviceDiscovered`, up to where control leaves. -/
def World.discovered (w : World) (id : UUID) (name : String) : World :=
  (w.named id name).invoke w.ble.devDiscoveredCb (.device id name) .discovered

@[simp] theorem World.discovered_held (w : World) (id : UUID) (name : String) :
    (w.discovered id name).held = w.held :=
  (w.named id name).invoke_held ..

theorem World.discovered_ble (w : World) (id : UUID) (name : String) :
    (w.discovered id name).ble = (w.named id name).ble :=
  (w.named id name).invoke_ble ..

/-- Running an element of the report queue, up to where control leaves. -/
def QueuedOp.apply (w : World) : QueuedOp → World
  | .callback cb => w.invoke cb .nothing .queued
  | .readData drcb binBuf of => w.invoke drcb (.data binBuf) (.data of)
  | .notification notifHandler notifBuf => w.invoke notifHandler (.data notifBuf) .notified
  | .autoDiscoverServicesStep dev => w.push (.discoverPrimary dev (w.connectionOf dev))
  | .autoDiscoverCharacteristicsStep dev => w.push (.discoverChar dev (w.connectionOf dev))
  | .reportConnected => w.finishFront .success

@[simp] theorem QueuedOp.apply_held (w : World) (op : QueuedOp) : (op.apply w).held = w.held := by
  cases op with
  | callback | readData | notification => exact w.invoke_held ..
  | autoDiscoverServicesStep | autoDiscoverCharacteristicsStep => rfl
  | reportConnected => exact w.finishFront_held _

/-- Running it throws: its function is empty. -/
def QueuedOp.Throws : QueuedOp → Prop
  | .callback cb | .readData cb _ _ | .notification cb _ => cb = none
  | _ => False

/-- A report that was run has thrown. -/
def World.Threw (w : World) : Prop := ∃ op, .ran op ∈ w.log ∧ op.Throws

theorem World.Threw.mono {w w' : World} (h : w.Threw) (hl : w.log <+: w'.log) : w'.Threw :=
  h.imp fun _ hop => ⟨hl.subset hop.1, hop.2⟩

/-- A trigger closure, up to where control leaves. -/
def Trigger.apply (w : World) (t : ActionId) : Trigger → World
  | .autodisconn _ => w
  | .scan runSeconds => w.push (.scanEnable t w.ble.adapterIsOpen runSeconds)
  | .stopScanDone => w.finish .success t
  | .stopScan => w.push (.scanDisable t w.ble.adapterIsOpen)
  | .connect devId parameters => w.push (.connect t devId parameters)
  | .disconnect dev => w.push (.disconnect t (w.connectionOf dev))
  | .read dev r =>
    match w.captured dev r with
    | none => w
    | some c => w.push (.readChar t (w.connectionOf dev) c.glUuid)
  | .write dev r buffer =>
    match w.captured dev r with
    | none => w
    | some c => w.push (.writeChar t (w.connectionOf dev) c.glUuid buffer)

@[simp] theorem Trigger.apply_held (w : World) (t : ActionId) (tr : Trigger) :
    (tr.apply w t).held = w.held := by
  cases tr with
  | read | write => simp only [Trigger.apply]; split <;> rfl
  | stopScanDone => exact w.finish_held ..
  | _ => rfl

/-- The captured reference of a read or write action, with its device. -/
def Trigger.charRef : Trigger → Option (UUID × Device.CharRef)
  | .read dev r => some (dev, r)
  | .write dev r _ => some (dev, r)
  | _ => none

/-- gattlib's functions for notifications. -/
def Call.notifies : Call → Bool
  | .registerNotification .. | .registerIndication .. | .notificationStart ..
  | .notificationStop .. => true
  | _ => false

/-- Calls that belong to no action, to no discovery step and to no tick. -/
def Call.Plain : Call → Prop
  | .user _ _ role => role = .refused
  | .asyncProcessAll | .discoverPrimary .. | .discoverChar .. => False
  | e => e.action = none

/-- The functions an operation is given. -/
def Op.functions : Op → List Callback
  | .scan _ scanCompleted deviceDiscoveredCb failure => [scanCompleted, deviceDiscoveredCb, failure]
  | .stopScan succ failure | .connect _ _ succ failure | .disconnect _ succ failure
  | .write _ _ _ succ failure | .stopNotification _ _ succ failure | .isConnected _ succ failure
  | .isEnabled succ failure | .enable succ failure => [succ, failure]
  | .read _ _ inData failure => [inData, failure]
  | .startNotification _ _ inDataCallback failure => [inDataCallback, failure]
  | _ => []

/-- The functions an operation is given to be called as `role`. -/
def Op.functionsFor (op : Op) (role : Role) : List Callback :=
  match role with
  | .success _ =>
    match op with
    | .scan _ succ _ _ | .stopScan succ _ | .connect _ _ succ _ | .disconnect _ succ _
    | .write _ _ _ succ _ => [succ]
    | _ => []
  | .failure _ =>
    match op with
    | .scan _ _ _ failure | .stopScan _ failure | .connect _ _ _ failure | .disconnect _ _ failure
    | .read _ _ _ failure | .write _ _ _ _ failure => [failure]
    | _ => []
  | .data _ =>
    match op with
    | .read _ _ inData _ => [inData]
    | _ => []
  | .refused =>
    match op with
    | .scan _ _ _ failure | .stopScan _ failure | .connect _ _ _ failure | .disconnect _ _ failure
    | .read _ _ _ failure | .write _ _ _ _ failure | .startNotification _ _ _ failure
    | .stopNotification _ _ _ failure | .isConnected _ _ failure | .isEnabled _ failure
    | .enable _ failure => [failure]
    | _ => []
  | .queued =>
    match op with
    | .isConnected _ succ failure | .enable succ failure => [succ, failure]
    | .isEnabled succ _ | .stopNotification _ _ succ _ => [succ]
    | _ => []
  | .discovered =>
    match op with
    | .scan _ _ deviceDiscoveredCb _ => [deviceDiscoveredCb]
    | _ => []
  | .notified =>
    match op with
    | .startNotification _ _ inDataCallback _ => [inDataCallback]
    | _ => []

theorem Op.functionsFor_subset (op : Op) (role : Role) : op.functionsFor role ⊆ op.functions := by
  cases role <;> cases op <;> simp [functionsFor, functions]

/-- The user has passed `cb` to be called as `role` before `w`. -/
def Policy.Gives (P : Policy) (w : World) (role : Role) (cb : Callback) : Prop :=
  ∃ w0 op, P.enter w0 (.api op) ∧ w0.log ++ [.enter (.api op)] <+: w.log ∧ cb ∈ op.functionsFor role

theorem Policy.Gives.mono {P : Policy} {w w' : World} {role : Role} {cb : Callback}
    (h : P.Gives w role cb) (hl : w.log <+: w'.log) : P.Gives w' role cb := by
  obtain ⟨w0, op, hm, hl0, hcb⟩ := h
  exact ⟨w0, op, hm, hl0.trans hl, hcb⟩

/-- What a plain call passes is the user's function, or a handle of the library's own, and an
adapter is opened and closed in turn. -/
def Call.Handled (P : Policy) (w : World) : Call → Prop
  | .user fn arg role => arg = .nothing ∧ P.Gives w role (some (.user fn))
  | .adapterOpen _ => w.ble.adapterIsOpen = false
  | .adapterClose a => w.ble.adapterIsOpen = true ∧ a = w.ble.adapter
  | .adapterPowered a => a = w.ble.adapter
  | .registerNotification c _ | .registerIndication c _ | .notificationStart c _
  | .notificationStop c _ => ∃ dev, c = w.connectionOf dev
  | _ => True

/-- Answers after which the caller has nothing to do. -/
def Call.Settled (e : Call) (r : Resp) : Prop :=
  match e with
  | .asyncProcessAll | .discoverPrimary .. | .discoverChar .. | .adapterClose _ => False
  | .adapterOpen _ => r.rc ≠ 0
  | e => e.action = none ∨ r.rc = 0

/-- What an asynchronous call that was refused changes besides its action. -/
def Call.refusedApply (w : World) : Call → World
  | .scanEnable .. => w.updateBle fun b => { b with isScanning := false }
  | _ => w

theorem Call.refusedApply_eq (w : World) (e : Call) : ∃ isScanning : Bool,
    e.refusedApply w = w.updateBle fun b => { b with isScanning := isScanning } := by
  cases e <;> first | exact ⟨w.ble.isScanning, rfl⟩ | exact ⟨false, rfl⟩

/-! ## Callers -/

/-- What an entry does to the moves in progress, innermost first, and to the moves that make the
open calls, innermost call first. -/
def Obs.nest : List Move × List (Option Move) → Obs → List Move × List (Option Move)
  | (ms, cs), .enter m => (m :: ms, cs)
  | (ms, cs), .exit _ _ | (ms, cs), .raised _ => (ms.tail, cs)
  | (ms, cs), .call _ => (ms, ms.head? :: cs)
  | (ms, cs), .ret _ _ => (ms, cs.tail)
  | mcs, _ => mcs

/-- The moves in progress, innermost first. -/
def inProgress (log : List Obs) : List Move := (log.foldl Obs.nest ([], [])).1

/-- The moves that make the open calls, innermost call first. -/
def callers (log : List Obs) : List (Option Move) := (log.foldl Obs.nest ([], [])).2

/-- The entry opens no call and closes none. -/
def Obs.inner : Obs → Bool
  | .call _ | .ret _ _ => false
  | _ => true

section
variable (log : List Obs)

@[simp] theorem inProgress_enter (m : Move) :
    inProgress (log ++ [.enter m]) = m :: inProgress log := by
  simp [inProgress, Obs.nest]

@[simp] theorem inProgress_call (e : Call) : inProgress (log ++ [.call e]) = inProgress log := by
  simp [inProgress, Obs.nest]

@[simp] theorem inProgress_ret (e : Call) (r : Resp) :
    inProgress (log ++ [.ret e r]) = inProgress log := by
  simp [inProgress, Obs.nest]

@[simp] theorem callers_call (e : Call) :
    callers (log ++ [.call e]) = (inProgress log).head? :: callers log := by
  simp [callers, inProgress, Obs.nest]

@[simp] theorem callers_ret (e : Call) (r : Resp) :
    callers (log ++ [.ret e r]) = (callers log).tail := by
  simp [callers, Obs.nest]

theorem callers_inner {o : Obs} (ho : o.inner = true) : callers (log ++ [o]) = callers log := by
  cases o with
  | call | ret => cases ho
  | _ => simp [callers, Obs.nest]

theorem callers_inners {l : List Obs} (hl : ∀ o ∈ l, o.inner = true) (log : List Obs) :
    callers (log ++ l) = callers log := by
  induction l generalizing log with
  | nil => rw [List.append_nil]
  | cons o l ih =>
    obtain ⟨ho, hl⟩ := List.forall_mem_cons.mp hl
    rw [List.append_cons, ih hl, callers_inner log ho]

end

section
variable [Gattlib]

/-- What `autoDiscoverServicesStep` does with the answer. -/
def World.servicesStep (w : World) (dev : UUID) (r : Resp) : World :=
  if r.rc ≠ 0 then w
  else w.updateDevice dev fun d => d.clearServices.addServices r.serviceList

/-- What `autoDiscoverCharacteristicsStep` does with the answer. -/
def World.charsStep (w : World) (dev : UUID) (r : Resp) : World :=
  (if r.rc ≠ 0 then w
    else w.updateDevice dev fun d =>
      d.clearCharacteristics.addCharacteristics r.characteristicList).updateDevice dev
    fun d => { d with discoveryDone := true }

/-- A step of the discovery changes device records only. -/
theorem World.servicesStep_eq (w : World) (dev : UUID) (r : Resp) : ∃ devices : DeviceMap,
    w.servicesStep dev r = w.updateBle fun b => { b with devices := devices } := by
  unfold servicesStep
  split
  · exact ⟨w.ble.devices, rfl⟩
  · exact ⟨_, rfl⟩

theorem World.charsStep_eq (w : World) (dev : UUID) (r : Resp) : ∃ devices : DeviceMap,
    w.charsStep dev r = w.updateBle fun b => { b with devices := devices } := by
  unfold charsStep
  split <;> exact ⟨_, rfl⟩

/-- `w'` differs from `w` only in the serial numbers that are left and the `shutdown`s in progress. -/
structure World.Inert (w w' : World) : Prop where
  ble : w'.ble = w.ble
  serial : w.serial ≤ w'.serial
  calls : w'.calls = w.calls
  ticks : w'.ticks = w.ticks
  held : w'.held = w.held
  log : w'.log = w.log

namespace World.Inert

variable {w w' : World} (h : w.Inert w')
include h

omit [Gattlib] in
theorem devices : w'.ble.devices = w.ble.devices := by rw [h.ble]

omit [Gattlib] in
theorem adapterIsOpen : w'.ble.adapterIsOpen = w.ble.adapterIsOpen := by rw [h.ble]

omit [Gattlib] in
theorem isScanning : w'.ble.isScanning = w.ble.isScanning := by rw [h.ble]

omit [Gattlib] in
theorem autoDiscover : w'.ble.autoDiscover = w.ble.autoDiscover := by rw [h.ble]

omit [Gattlib] in
theorem connectedTo : w'.ble.connectedTo = w.ble.connectedTo := by rw [h.ble]

omit [Gattlib] in
theorem asyncActions : w'.ble.asyncActions = w.ble.asyncActions := by rw [h.ble]

omit [Gattlib] in
theorem reportQueue : w'.ble.reportQueue = w.ble.reportQueue := by rw [h.ble]

end World.Inert

/-- No move is made from inside `gattlib_adapter_open`. -/
def Policy.OpensQuietly (P : Policy) : Prop :=
  ∀ (w : World) (m : Move) (name : Option String) (cs : List Call),
    w.calls = .adapterOpen name :: cs → ¬ P.enter w m

/-- The operations that put a function of the caller in the report queue, and which one. -/
def Op.Reports (b : BLECentral) (cb : Callback) : Op → Prop
  | .isConnected dev succ fail => cb = if b.isConnected dev then succ else fail
  | .isEnabled succ _ => cb = succ
  | .enable succ fail => cb = succ ∨ cb = fail
  | .stopNotification _ _ succ _ => cb = succ ∧ succ.isSome
  | _ => False

/-- gattlib may have answered to an `enable` with these functions so that it reports `cb`. -/
def Policy.Powers (P : Policy) (succ fail cb : Callback) : Prop :=
  ∃ w a r, P.ans w (.adapterPowered a) r ∧
    (callers w.log).head? = some (some (.api (.enable succ fail))) ∧
    cb = if r.rc ≠ 0 then succ else fail

/-- The user may have asked for the report `cb` at `w`. -/
def Policy.Reports (P : Policy) (w : World) (cb : Callback) : Prop :=
  ∃ w0 op, P.enter w0 (.api op) ∧ w0.log ++ [.enter (.api op)] <+: w.log ∧ op.Reports w.ble cb ∧
    (∀ dev succ fail, op = .isConnected dev succ fail → P.OpensQuietly →
      w.ble.devices = w0.ble.devices) ∧
    ∀ succ fail, op = .enable succ fail → P.OpensQuietly → P.Powers succ fail cb

/-- gattlib has notified of `data` for the characteristic `u` before `w`. -/
def Policy.Notified (P : Policy) (w : World) (u : UUID) (data : BinaryBuffer) : Prop :=
  ∃ w0 of uuid, P.enter w0 (.event of (.notification uuid (some data))) ∧
    w0.log ++ [.enter (.event of (.notification uuid (some data)))] <+: w.log ∧
    Gattlib.uuidToString uuid = some u

theorem Policy.Notified.mono {P : Policy} {w w' : World} {u : UUID} {data : BinaryBuffer}
    (h : P.Notified w u data) (hl : w.log <+: w'.log) : P.Notified w' u data := by
  obtain ⟨w0, of, uuid, hm, hl0, hu⟩ := h
  exact ⟨w0, of, uuid, hm, hl0.trans hl, hu⟩

/-- The user has set the connection parameters to `p` before `w`. -/
def Policy.Sets (P : Policy) (w : World) (p : ConnectionParams) : Prop :=
  ∃ w0, P.enter w0 (.api (.setConnectionParameters p)) ∧
    w0.log ++ [.enter (.api (.setConnectionParameters p))] <+: w.log

/-- A tick may run with the calls `cs` open and inside the ticks `ts`: the move that asks for it
found them so. -/
def Policy.Ticks (P : Policy) (cs : List Call) (ts : List (List QueuedOp)) : Prop :=
  ∃ w0, (P.enter w0 (.api .processAsync) ∨ P.enter w0 (.api .shutdown)) ∧ w0.calls = cs ∧
    w0.ticks = ts

/-! ## Acts -/

/-- Whether acts tell gattlib about notifications, where they give which lock back, and whether
they free the nodes of actions and characteristics. -/
structure Terms where
  notifies : Prop := True
  unlocks : World → UUID → Prop := fun _ _ => True
  frees : Prop := True

/-- What the terms `T` allow, `T'` does. -/
structure Terms.Within (T T' : Terms) : Prop where
  notifies : T.notifies → T'.notifies
  unlocks : ∀ w dev, T.unlocks w dev → T'.unlocks w dev
  frees : T.frees → T'.frees

omit [Gattlib] in
theorem Terms.within_any (T : Terms) : T.Within {} :=
  ⟨fun _ => trivial, fun _ _ _ => trivial, fun _ => trivial⟩

/-- A stretch of the library from `w` to `w'`, on the terms `T`. -/
inductive Stretch (T : Terms) (P : Policy) (w : World) : World → Prop where
  | enter (m : Move) : P.enter w m → m.Idle → Stretch T P w (w.note (.enter m))
  /-- A callback of gattlib completes the front action, if there is one. -/
  | event (of : Option ActionId) (ev : Event) (how : Outcome) :
      P.enter w (.event of ev) → ev.outcome w.ble = some how →
      (∀ c, ev = .connected c → (w.ble.devices[w.ble.connectedTo]?).isSome) →
      Stretch T P w ((ev.apply (w.note (.enter (.event of ev)))).finishFront how)
  /-- `deviceConnected` with auto discovery starts the chain of steps. -/
  | eventAuto (of : Option ActionId) (c : Conn) :
      P.enter w (.event of (.connected (some c))) → w.ble.autoDiscover = true →
      (w.ble.devices[w.ble.connectedTo]?).isSome →
      Stretch T P w (((Event.connected (some c)).apply
        (w.note (.enter (.event of (.connected (some c)))))).report
          (.autoDiscoverServicesStep w.ble.connectedTo))
  /-- `readDataReceived` for the front action. -/
  | eventRead (of : Option ActionId) (buf : BinaryBuffer) (a : AsyncAction.Details) :
      P.enter w (.event of (.readChar (some buf))) → buf ≠ [] → w.front = some a →
      Stretch T P w
        ((if a.callbacks.datareceived.isSome then
            (w.note (.enter (.event of (.readChar (some buf))))).report
              (.readData a.callbacks.datareceived buf a.id)
          else w.note (.enter (.event of (.readChar (some buf))))).complete a.id)
  | eventReadNone (of : Option ActionId) (buf : BinaryBuffer) :
      P.enter w (.event of (.readChar (some buf))) → w.front = none →
      Stretch T P w (w.note (.enter (.event of (.readChar (some buf)))))
  /-- An exception has left a report. -/
  | raised (m : Move) : w.Threw → Stretch T P w (w.note (.raised m))
  | freed (t : ActionId) : Stretch T P w (w.note (.freed t))
  /-- `deviceDiscovered`. -/
  | eventDiscovered (of : Option ActionId) (addr name : Option String) :
      P.enter w (.event of (.deviceDiscovered addr name)) →
      Stretch T P w ((w.note (.enter (.event of (.deviceDiscovered addr name)))).discovered
        (addr.getD "") (name.getD ""))
  | call (e : Call) : e.Plain → (e.notifies = true → T.notifies) → e.Handled P w →
      Stretch T P w (w.push e)
  | back (e : Call) (r : Resp) (cs : List Call) : w.calls = e :: cs → P.ans w e r → e.Settled r →
      Stretch T P w (w.back e r)
  /-- gattlib refuses an asynchronous call. -/
  | refused (e : Call) (r : Resp) (cs : List Call) (t : ActionId) (a : AsyncAction.Details) :
      w.calls = e :: cs → P.ans w e r → e.action = some t → r.rc ≠ 0 → w.action t = some a →
      Stretch T P w ((e.refusedApply (w.back e r)).finish .failure t)
  /-- A tick starts, by a move or from `shutdown`. -/
  | tick : ((∃ w0, P.enter w0 (.api .processAsync) ∧ w = w0.note (.enter (.api .processAsync))) ∨
        ∃ w0, P.enter w0 (.api .shutdown) ∧ w0.calls = w.calls ∧ w0.ticks = w.ticks) →
      Stretch T P w (w.push .asyncProcessAll)
  | takeReports (r : Resp) (cs : List Call) :
      w.calls = .asyncProcessAll :: cs → P.ans w .asyncProcessAll r → P.Ticks cs w.ticks →
      Stretch T P w (w.takeReports r)
  | ran (op : QueuedOp) (rest : List QueuedOp) (ts : List (List QueuedOp)) :
      w.ticks = (op :: rest) :: ts → P.Ticks w.calls ts →
      Stretch T P w (op.apply ({ w with ticks := rest :: ts }.note (.ran op)))
  /-- The reports are run, and there is no action. -/
  | endTick (ts : List (List QueuedOp)) : w.ticks = [] :: ts → P.Ticks w.calls ts →
      w.ble.asyncActions = [] →
      Stretch T P w { w with ticks := ts }
  | trigger (ts : List (List QueuedOp)) (a : AsyncAction.Details) :
      w.ticks = [] :: ts → P.Ticks w.calls ts → w.front = some a → a.state = .pending →
      (∀ p, a.trigger.charRef = some p → (w.captured p.1 p.2).isSome) →
      Stretch T P w (a.trigger.apply ({ w with ticks := ts }.start a.id) a.id)
  | pop (ts : List (List QueuedOp)) (a : AsyncAction.Details) (rest : List AsyncAction.Details) :
      w.ticks = [] :: ts → P.Ticks w.calls ts → w.ble.asyncActions = a :: rest →
      a.state = .completed → T.frees →
      Stretch T P w (({ w with ticks := ts }.updateBle fun b => { b with asyncActions := rest }).note
        (.popped a))
  | wait (ts : List (List QueuedOp)) (a : AsyncAction.Details) :
      w.ticks = [] :: ts → P.Ticks w.calls ts → w.front = some a → a.state = .triggered →
      Stretch T P w ({ w with ticks := ts }.updateAction a.id fun a =>
        { a with waitCount := a.waitCount + 1 })
  | services (dev : UUID) (c : Option Conn) (r : Resp) (cs : List Call) :
      w.calls = .discoverPrimary dev c :: cs → P.ans w (.discoverPrimary dev c) r →
      Stretch T P w (((w.back (.discoverPrimary dev c) r).servicesStep dev r).report
        (.autoDiscoverCharacteristicsStep dev))
  | chars (dev : UUID) (c : Option Conn) (r : Resp) (cs : List Call) :
      w.calls = .discoverChar dev c :: cs → P.ans w (.discoverChar dev c) r →
      (r.rc = 0 → dev ∉ w.held) → T.frees →
      Stretch T P w (((w.back (.discoverChar dev c) r).charsStep dev r).report .reportConnected)
  | report (cb : Callback) : P.Reports w cb → Stretch T P w (w.report (.callback cb))
  | notify (dev u : UUID) (d : Device.Details) (buf : BinaryBuffer) :
      P.Notified w u buf → w.ble.devices[dev]? = some d → d.hasNotificationHandlerFor u = true →
      Stretch T P w (w.report (.notification (d.notificationHandler u) buf))
  | adapterOpened (name : String) (r : Resp) (cs : List Call) :
      w.calls = .adapterOpen (if name = "" then none else some name) :: cs →
      P.ans w (.adapterOpen (if name = "" then none else some name)) r → r.rc = 0 →
      Stretch T P w ((w.back (.adapterOpen (if name = "" then none else some name)) r).updateBle
        fun b => { b with adapter := r.adapter?, adapterName := name, adapterIsOpen := true })
  | adapterClosed (a : Option Adapter) (r : Resp) (cs : List Call) :
      w.calls = .adapterClose a :: cs → P.ans w (.adapterClose a) r →
      Stretch T P w ((w.back (.adapterClose a) r).updateBle fun b => { b with adapterIsOpen := false })
  | setAutoDiscover (b : Bool) : Stretch T P w (w.updateBle fun ble => { ble with autoDiscover := b })
  | setConnectionParameters (p : ConnectionParams) : P.Sets w p →
      Stretch T P w (w.updateBle fun ble => { ble with connParams := p })
  | deviceName (dev : UUID) :
      Stretch T P w (w.updateBle fun b => { b with namesCache := b.namesCache.insertIfNew dev "" })
  | lock (dev : UUID) : dev ∉ w.held → Stretch T P w { w with held := dev :: w.held }
  | unlock (dev : UUID) (ds : List UUID) : w.held = dev :: ds → T.unlocks w dev →
      Stretch T P w { w with held := ds }
  | inert (w' : World) : w.Inert w' → Stretch T P w w'

/-- A stretch on any terms. -/
abbrev Act (P : Policy) : World → World → Prop := Stretch {} P

/-! ## Requests -/

/-- An accepted request. -/
inductive Request (w : World) : Op → World → Prop where
  | scan (runSeconds : UInt16) (succ disc fail : Callback) :
      w.ble.adapterIsOpen = true → w.ble.isScanning = false →
      Request w (.scan runSeconds succ disc fail)
        (((w.updateBle fun b => { b with devDiscoveredCb := disc }).enqueue
          { name := "scan", callbacks := { success := succ, failure := fail },
            trigger := .scan runSeconds }).updateBle fun b => { b with isScanning := true })
  | stopScanDone (succ fail : Callback) :
      w.ble.adapterIsOpen = true → w.ble.isScanning = false →
      Request w (.stopScan succ fail) (w.enqueue
        { name := "stopScanDone", callbacks := { success := succ, failure := fail },
          trigger := .stopScanDone })
  | stopScan (succ fail : Callback) :
      w.ble.adapterIsOpen = true → w.ble.isScanning = true →
      (∀ a, w.front = some a → ¬ (a.isRunning = true ∧ a.name = "scan")) →
      Request w (.stopScan succ fail) (w.enqueue
        { name := "stopScan", callbacks := { success := succ, failure := fail },
          trigger := .stopScan })
  /-- `stopScan` cancels the scan that runs at the front. -/
  | stopScanCancel (succ fail : Callback) (a : AsyncAction.Details) :
      w.ble.adapterIsOpen = true → w.ble.isScanning = true →
      w.front = some a → a.state = .triggered → a.name = "scan" →
      Request w (.stopScan succ fail) (((w.complete a.id).note (.cancelled a.id)).enqueue
        { name := "stopScan", callbacks := { success := succ, failure := fail },
          trigger := .stopScan })
  | connect (dev : UUID) (p : Option ConnectionParams) (succ fail : Callback) :
      w.ble.adapterIsOpen = true → w.ble.isConnected dev = false →
      Request w (.connect dev p succ fail) ((w.updateBle fun b =>
        { b with
          devices := if (b.deviceDetails dev).isNone then b.devices.insert dev (.new dev)
            else b.devices
          connectedTo := dev }).enqueue
        { name := "connect", callbacks := { success := succ, failure := fail },
          trigger := .connect dev (p.getD w.ble.connParams) })
  | disconnect (dev : UUID) (succ fail : Callback) :
      w.ble.adapterIsOpen = true → w.ble.isConnected dev = true →
      Request w (.disconnect dev succ fail) (w.enqueue
        { name := "disconnect", callbacks := { success := succ, failure := fail },
          trigger := .disconnect dev })
  | read (dev u : UUID) (d : Device.Details) (inData fail : Callback) :
      w.ble.adapterIsOpen = true → w.ble.isConnected dev = true →
      w.ble.devices[dev]? = some d → d.hasCharacteristic u = true →
      Request w (.read dev u inData fail) (w.enqueue
        { name := "read", callbacks := { datareceived := inData, failure := fail },
          trigger := .read dev (d.charRef u) })
  | write (dev u : UUID) (d : Device.Details) (value : BinaryBuffer) (succ fail : Callback) :
      w.ble.adapterIsOpen = true → w.ble.isConnected dev = true →
      w.ble.devices[dev]? = some d → d.hasCharacteristic u = true →
      Request w (.write dev u value succ fail) (w.enqueue
        { name := "write", callbacks := { success := succ, failure := fail },
          trigger := .write dev (d.charRef u) value })

/-- The device and characteristic a request looks up with `characteristic`. -/
def Op.lookup : Op → Option (UUID × UUID)
  | .read dev u _ _ => some (dev, u)
  | .write dev u _ _ _ => some (dev, u)
  | _ => none

/-- From `w` to `w'` the adapter was opened at most. -/
structure World.Opened (w w' : World) : Prop where
  devices : w'.ble.devices = w.ble.devices
  isScanning : w'.ble.isScanning = w.ble.isScanning
  autoDiscover : w'.ble.autoDiscover = w.ble.autoDiscover
  connectedTo : w'.ble.connectedTo = w.ble.connectedTo
  asyncActions : w'.ble.asyncActions = w.ble.asyncActions
  reportQueue : w'.ble.reportQueue = w.ble.reportQueue
  calls : w'.calls = w.calls
  ticks : w'.ticks = w.ticks
  held : w'.held = w.held
  log : w.log <+: w'.log

/-- From `w` to `w'` the adapter was opened at most, and no move has been made. -/
structure World.Readied (w w' : World) : Prop extends w.Opened w' where
  inProgress : inProgress w'.log = inProgress w.log

/-- Where a request that runs at `w` comes from: a move of the user, `shutdown`, or the trigger of
an action. -/
inductive Origin (P : Policy) (inv : World → Prop) (op : Op) (w : World) : Prop where
  | entered (w0 : World) : inv w0 → P.enter w0 (.api op) →
      w0.log ++ [.enter (.api op)] <+: w.log → (P.OpensQuietly → w0.Opened w) →
      Origin P inv op w
  | shutdown (w0 : World) (dev : UUID) (frame : Nat) :
      op = .disconnect dev (some (.doneCb frame)) (some (.doneCb frame)) → inv w0 →
      P.enter w0 (.api .shutdown) → w0.log ++ [.enter (.api .shutdown)] <+: w.log →
      w0.ble.connectedTo ≠ "" → (w0.ble.devices[w0.ble.connectedTo]?).isSome → Origin P inv op w
  | autodisconn (w0 : World) (a : AsyncAction.Details) (dev : UUID) :
      op = .disconnect dev (some .debugPrint) (some .debugPrint) → inv w0 → w0.front = some a →
      a.trigger = .autodisconn dev → Origin P inv op w

/-! ## Notification state -/

/-- The characteristic but for its mark. -/
def Characteristic.Details.unmarked (c : Characteristic.Details) : Characteristic.Details :=
  { c with registeredForNotifs := false }

/-- Two records that differ at most in their notification state. -/
structure Device.Details.SameCore (d d' : Device.Details) : Prop where
  id : d'.id = d.id
  connection : d'.connection = d.connection
  discoveryDone : d'.discoveryDone = d.discoveryDone
  services : d'.services = d.services
  epoch : d'.epoch = d.epoch
  characteristics : ∀ k : UUID, (d'.characteristics[k]?).map (·.unmarked) =
    (d.characteristics[k]?).map (·.unmarked)

omit [Gattlib] in
theorem Device.Details.SameCore.glUuid {d d' : Device.Details} (h : d.SameCore d') (k : UUID) :
    (d'.characteristics[k]?).map (·.glUuid) = (d.characteristics[k]?).map (·.glUuid) := by
  have hk := congrArg (Option.map Characteristic.Details.glUuid) (h.characteristics k)
  rw [Option.map_map, Option.map_map] at hk
  exact hk

omit [Gattlib] in
theorem Device.Details.SameCore.trans {d d' d'' : Device.Details} (h : d.SameCore d')
    (h' : d'.SameCore d'') : d.SameCore d'' where
  id := h'.id.trans h.id
  connection := h'.connection.trans h.connection
  discoveryDone := h'.discoveryDone.trans h.discoveryDone
  services := h'.services.trans h.services
  epoch := h'.epoch.trans h.epoch
  characteristics k := (h'.characteristics k).trans (h.characteristics k)

/-- The user has started notifications for `dev` and `u` with the handler `cb` before `w`. -/
def Policy.Starts (P : Policy) (w : World) (dev u : UUID) (cb : Callback) : Prop :=
  ∃ w0 fail, P.enter w0 (.api (.startNotification dev u cb fail)) ∧
    w0.log ++ [.enter (.api (.startNotification dev u cb fail))] <+: w.log

omit [Gattlib] in
theorem Policy.Starts.mono {P : Policy} {w w' : World} {dev u : UUID} {cb : Callback}
    (h : P.Starts w dev u cb) (hl : w.log <+: w'.log) : P.Starts w' dev u cb := by
  obtain ⟨w0, fail, hm, hl0⟩ := h
  exact ⟨w0, fail, hm, hl0.trans hl⟩

/-- A change to the notification state of a device record. A handler is set by
`startNotification`, and none is erased. -/
inductive Subs (P : Policy) (w : World) : World → Prop where
  | mk (dev : UUID) (f : Device.Details → Device.Details) :
      (∀ d : Device.Details, d.SameCore (f d)) →
      ((∀ d : Device.Details, (f d).notifHandlers = d.notifHandlers) ∨ ∃ u cb, P.Starts w dev u cb ∧
        ∀ d : Device.Details, (f d).notifHandlers = (d.setNotificationHandler u cb).notifHandlers) →
      Subs P w (w.updateDevice dev f)

/-! ## Hazards -/

/-- The device whose record a report follows. -/
@[simp] def QueuedOp.onDevice : QueuedOp → Option UUID
  | .autoDiscoverServicesStep dev | .autoDiscoverCharacteristicsStep dev => some dev
  | _ => none

/-- The function a report calls. -/
def QueuedOp.function : QueuedOp → Callback
  | .callback cb | .readData cb _ _ | .notification cb _ => cb
  | _ => none

/-- The device whose record a trigger follows. -/
def Trigger.onDevice : Trigger → Option UUID
  | .disconnect dev | .read dev _ | .write dev _ _ => some dev
  | _ => none

/-- What is known of a run with the invariant `inv` where the library is about to reach undefined
behaviour, besides what it looks up for a read or write. `calm` is what it keeps but for its
ticks. -/
inductive Hazard (P : Policy) (inv : World → Prop) (calm : World → World → Prop) : Fault → Prop where
  /-- A connection is reported, to a device without a record. -/
  | connected (w : World) (of : Option ActionId) (c : Option Conn) :
      inv w → P.enter w (.event of (.connected c)) → w.ble.devices[w.ble.connectedTo]? = none →
      Hazard P inv calm .nullRecord
  | report (w : World) (op : QueuedOp) (rest : List QueuedOp) (ts : List (List QueuedOp))
      (dev : UUID) : inv w → w.ticks = (op :: rest) :: ts → op.onDevice = some dev →
      w.ble.devices[dev]? = none → Hazard P inv calm .nullRecord
  | trigger (w : World) (a : AsyncAction.Details) (dev : UUID) : inv w → w.front = some a →
      a.state = .pending → a.trigger.onDevice = some dev → w.ble.devices[dev]? = none →
      Hazard P inv calm .nullRecord
  /-- An action is gone when a call that it made comes back. -/
  | popped (w w' : World) (t : ActionId) : calm w w' → (w.action t).isSome → w'.action t = none →
      Hazard P inv calm .freedAction
  /-- A characteristic is gone when a call made on its account comes back. -/
  | cleared (w w' : World) (dev : UUID) (r : Device.CharRef) : calm w w' →
      (w.captured dev r).isSome → w'.captured dev r = none → Hazard P inv calm .freedIterator
  /-- A move has entered with the lock held. -/
  | held (w0 w : World) (m : Move) (dev : UUID) : inv w0 → P.enter w0 m → w0.held = w.held →
      inv w → dev ∈ w.held → Hazard P inv calm .relock
  /-- The user has passed `shutdown`'s closure on. -/
  | passed (w : World) (op : Op) (frame : Nat) : inv w → P.enter w (.api op) →
      some (.doneCb frame) ∈ op.functions → Hazard P inv calm .freedLocal
  /-- `shutdown` makes its closure. -/
  | shutdown (w : World) : inv w → P.enter w (.api .shutdown) → w.ble.connectedTo ≠ "" →
      (w.ble.devices[w.ble.connectedTo]?).isSome → Hazard P inv calm .freedLocal
  | finished (w : World) (a : AsyncAction.Details) (how : Outcome) (frame : Nat) : inv w →
      a ∈ w.ble.asyncActions → how.callback a.callbacks = some (.doneCb frame) →
      Hazard P inv calm .freedLocal
  | reported (w : World) (op : QueuedOp) (rest : List QueuedOp) (ts : List (List QueuedOp))
      (frame : Nat) : inv w → w.ticks = (op :: rest) :: ts → op.function = some (.doneCb frame) →
      Hazard P inv calm .freedLocal
  | discovered (w : World) (frame : Nat) : inv w → w.ble.devDiscoveredCb = some (.doneCb frame) →
      Hazard P inv calm .freedLocal

end

end Gattlibpp
