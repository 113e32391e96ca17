import Gattlibpp.Model.System
import Gattlibpp.Open.Marks

/-!
# The log grows with every step

Every program of the library only adds to the log, and the first thing it adds after a call
has come back is the answer.
-/

namespace Gattlibpp

open Open

/-- The log grows, and starts with the answer after a call. -/
def logged : Marking World Call Resp where
  grows w w' := w.log <+: w'.log
  marked e r w w' := w.log ++ [.ret e r] <+: w'.log
  refl _ := List.prefix_rfl
  trans h h' := h.trans h'
  keep h h' := h.trans h'

/-- The program adds to the log, and notes the answers to its calls first. -/
abbrev Traced {α : Type} (p : Ble α) : Prop := Prog.Marked logged p

/-! ## Primitives -/

/-- A change that leaves the log. -/
theorem modify_traced {f : World → World} (hf : ∀ w, (f w).log = w.log) :
    Traced (Prog.modify f : Ble Unit) :=
  .modify fun w => show w.log <+: (f w).log from hf w ▸ List.prefix_rfl

theorem within_traced {α : Type} {f g : World → World} {p : Ble α} (hf : ∀ w, (f w).log = w.log)
    (hg : ∀ w, (g w).log = w.log) (hp : Traced p) : Traced (Prog.within f g p : Ble α) :=
  .within (fun w => show w.log <+: (f w).log from hf w ▸ List.prefix_rfl)
    (fun w => show w.log <+: (g w).log from hg w ▸ List.prefix_rfl) hp

@[grind ←] theorem ble_traced : Traced ble := ⟨fun _ => List.prefix_rfl, fun _ => trivial⟩

@[grind ←] theorem update_traced (f : BLECentral → BLECentral) : Traced (update f) := modify_traced fun _ => rfl

@[grind ←] theorem note_traced (o : Obs) : Traced (note o) :=
  Prog.Marked.modify (M := logged) fun w => List.prefix_append w.log [o]

@[grind ←] theorem callOut_traced (e : Call) : Traced (callOut e) where
  grows w := List.prefix_append w.log [.call e]
  marked _ _ _ := ⟨List.prefix_rfl, trivial⟩

@[grind ←] theorem pushReport_traced (op : QueuedOp) : Traced (pushReport op) := by
  grind [pushReport]

@[grind ←] theorem record_traced (dev : UUID) : Traced (record dev) := by
  refine .bind ble_traced fun b => ?_
  cases b.devices[dev]? <;> grind

@[grind ←] theorem updateRecord_traced (dev : UUID) (f : Device.Details → Device.Details) :
    Traced (updateRecord dev f) := modify_traced fun _ => rfl

@[grind ←] theorem locked_traced {α : Type} {dev : UUID} {p : Ble α} (hp : Traced p) : Traced (locked dev p) := by
  refine .bind .get fun w => .ite (.halt _) ?_
  exact within_traced (fun _ => rfl) (fun _ => rfl) hp

/-! ## Effects -/

@[grind ←] theorem adapterClose_traced : Traced adapterClose := by grind [adapterClose]

@[grind ←] theorem adapterOpenFresh_traced (name : String) : Traced (adapterOpenFresh name) := by
  grind [adapterOpenFresh]

@[grind ←] theorem adapterOpen_traced (name : String) : Traced (adapterOpen name) := by
  grind [adapterOpen]

@[grind ←] theorem doneCb_traced (frame : Nat) : Traced (doneCb frame) := by
  refine .bind adapterClose_traced fun _ => .bind .get fun w => .ite ?_ (.halt _)
  exact modify_traced fun _ => rfl

@[grind ←] theorem Fn.invoke_traced (f : Fn) (arg : Arg) (role : Role) : Traced (f.invoke arg role) := by
  cases f <;> grind [Fn.invoke]

@[grind ←] theorem Callback.invoke_traced (cb : Callback) (arg : Arg) (role : Role) :
    Traced (Callback.invoke cb arg role) := by
  cases cb <;> grind [Callback.invoke]

@[grind ←] theorem Callback.invokeIfSet_traced (cb : Callback) (arg : Arg) (role : Role) :
    Traced (Callback.invokeIfSet cb arg role) := by
  cases cb <;> grind [Callback.invokeIfSet]

@[grind ←] theorem triggerCbIfSet_traced (cb : Callback) : Traced (triggerCbIfSet cb) := Callback.invokeIfSet_traced ..

@[grind ←] theorem ensureAdapterAvail_traced {fail : Callback} {rest : Ble Bool} (h : Traced rest) :
    Traced (ensureAdapterAvail fail rest) := by
  grind [ensureAdapterAvail, openAdapterIfRequired]

@[grind ←] theorem AsyncAction.deref_traced (t : ActionId) : Traced (AsyncAction.deref t) := by
  refine .bind .get fun w => ?_
  cases w.action t <;> grind

@[grind ←] theorem AsyncAction.markCompleted_traced (t : ActionId) : Traced (AsyncAction.markCompleted t) :=
  .bind (AsyncAction.deref_traced t) fun _ => modify_traced fun _ => rfl

@[grind ←] theorem AsyncAction.cancelWithoutCallback_traced (t : ActionId) :
    Traced (AsyncAction.cancelWithoutCallback t) :=
  .bind (markCompleted_traced t) fun _ => note_traced _

@[grind ←] theorem AsyncAction.completedWithSuccess_traced (t : ActionId) : Traced (AsyncAction.completedWithSuccess t) := by
  grind [AsyncAction.completedWithSuccess]

@[grind ←] theorem AsyncAction.completedWithFailure_traced (t : ActionId) : Traced (AsyncAction.completedWithFailure t) := by
  grind [AsyncAction.completedWithFailure]

@[grind ←] theorem queueAsyncAction_traced (a : AsyncAction.Details) : Traced (queueAsyncAction a) :=
  Prog.Marked.modify (M := logged) fun w => List.prefix_append w.log [.queued _]

@[grind ←] theorem currentOpCompleted_traced : Traced currentOpCompleted := by
  refine .bind ble_traced fun b => ?_
  cases b.asyncActions <;> grind

@[grind ←] theorem currentOpFailed_traced : Traced currentOpFailed := by
  refine .bind ble_traced fun b => ?_
  cases b.asyncActions <;> grind

/-! ## Requests -/

@[grind ←] theorem scan_traced (s : UInt16) (succ disc fail : Callback) : Traced (scan s succ disc fail) := by
  refine ensureAdapterAvail_traced (.bind ble_traced fun b => .ite (.pure _) (.bind ble_traced fun b => ?_))
  have hqueue : Traced (do
      update fun b => { b with devDiscoveredCb := disc }
      queueAsyncAction
        { name := "scan", callbacks := { success := succ, failure := fail }, trigger := .scan s }
      update fun b => { b with isScanning := true }
      return true) := by grind
  refine .ite ?_ hqueue
  cases b.deviceDetails b.connectedTo with
  | none => exact hqueue
  | some d => exact .ite hqueue hqueue

@[grind ←] theorem stopScan_traced (succ fail : Callback) : Traced (stopScan succ fail) := by
  refine ensureAdapterAvail_traced (.bind ble_traced fun b => .ite (by grind) (.bind ble_traced fun b => ?_))
  cases b.asyncActions <;> grind

@[grind ←] theorem connect_traced (dev : UUID) (p : Option ConnectionParams) (succ fail : Callback) :
    Traced (connect dev p succ fail) := by
  refine ensureAdapterAvail_traced (.bind ble_traced fun b => ?_)
  grind

@[grind ←] theorem disconnect_traced (dev : UUID) (succ fail : Callback) :
    Traced (disconnect dev succ fail) := by
  refine ensureAdapterAvail_traced (.bind ble_traced fun b => ?_)
  grind

@[grind ←] theorem characteristicRef_traced (dev u : UUID) : Traced (characteristicRef dev u) := by
  grind [characteristicRef]

@[grind ←] theorem reportIsConnected_traced (dev : UUID) (succ fail : Callback) :
    Traced (reportIsConnected dev succ fail) := ensureAdapterAvail_traced (by grind)

@[grind ←] theorem isEnabled_traced (succ fail : Callback) : Traced (isEnabled succ fail) :=
  ensureAdapterAvail_traced (by grind)

@[grind ←] theorem enable_traced (succ fail : Callback) : Traced (enable succ fail) :=
  ensureAdapterAvail_traced (by grind)

/-! ## Notifications -/

@[grind ←] theorem countRegistered_traced (dev : UUID) : Traced (countRegistered dev) := by
  grind [countRegistered]

@[grind ←] theorem startForChar_traced (dev : UUID) (g : GlUuid) (fail : Callback) :
    Traced (startForChar dev g fail) := by
  grind [startForChar]

@[grind ←] theorem startNotificationBlock_traced (dev u : UUID) (g : GlUuid) (cb fail : Callback) :
    Traced (startNotificationBlock dev u g cb fail) := by
  refine .bind (record_traced dev) fun d => ?_
  have hset : Traced (updateRecord dev (·.setNotificationHandler u cb)) := updateRecord_traced ..
  have hrest : Traced (if (d.characteristic u).all (! ·.registeredForNotifs) then do
      countRegistered dev
      startForChar dev g fail
    else return true) := by grind
  exact .ite (.bind (updateRecord_traced ..) fun _ => .bind hset fun _ => hrest)
    (.bind hset fun _ => hrest)

@[grind ←] theorem countUnregistered_traced (dev : UUID) : Traced (countUnregistered dev) := by
  refine .bind (record_traced dev) fun d => .ite (.bind (updateRecord_traced ..) fun _ => ?_) (.pure _)
  exact .bind (record_traced dev) fun d => by grind

@[grind ←] theorem stopForChar_traced (dev : UUID) (g : GlUuid) (fail : Callback) :
    Traced (stopForChar dev g fail) := by
  grind [stopForChar]

@[grind ←] theorem stopNotificationBlock_traced (dev u : UUID) (g : GlUuid) (fail : Callback) :
    Traced (stopNotificationBlock dev u g fail) := by
  grind [stopNotificationBlock]

@[grind ←] theorem charAt_traced (dev key : UUID) (epoch : Nat) : Traced (charAt dev key epoch) := by
  refine .bind (record_traced dev) fun d => ?_
  cases d.deref ⟨key, epoch⟩ <;> grind

@[grind ←] theorem handleNotification_traced (u : UUID) (data : BinaryBuffer) :
    Traced (handleNotification u data) := by
  refine .bind ble_traced fun b => ?_
  induction b.devices.keys with
  | nil => exact .pure _
  | cons dev rest ih => exact .bind (locked_traced (by grind)) fun _ => ih

/-! ## The tick -/

@[grind ←] theorem capturedUuid_traced (dev : UUID) (r : Device.CharRef) : Traced (capturedUuid dev r) := by
  refine .bind (record_traced dev) fun d => ?_
  cases d.deref r <;> grind

@[grind ←] theorem closureOf_traced (t : ActionId) : Traced (closureOf t) := by grind [closureOf]

@[grind ←] theorem Trigger.fire_traced (tr : Trigger) (t : ActionId) : Traced (tr.fire t) := by
  cases tr <;> unfold Trigger.fire <;> grind

@[grind ←] theorem AsyncAction.Details.run_traced (a : AsyncAction.Details) : Traced a.run := by
  refine .ite (by grind) (.bind (modify_traced fun _ => rfl) fun _ => ?_)
  grind

@[grind ←] theorem tickAction_traced : Traced tickAction := by
  refine .bind ble_traced fun b => ?_
  cases b.asyncActions with
  | nil => grind
  | cons a rest =>
    refine .ite (by grind) (.ite (by grind) ?_)
    exact modify_traced fun _ => rfl

@[grind ←] theorem deviceName_traced (dev : UUID) : Traced (Gattlibpp.deviceName dev) :=
  .bind (update_traced _) fun _ => .bind ble_traced fun _ => .pure _

/-! ## Moves -/

section
variable [Gattlib]

@[grind ←] theorem getUUIDForCharOrFail_traced (dev u : UUID) (supp : Characteristic.Details → Bool)
    (fail : Callback) : Traced (getUUIDForCharOrFail dev u supp fail) := by
  refine .bind (record_traced dev) fun d => .ite (locked_traced (.bind (record_traced dev) fun d => ?_)) ?_
  · cases d.characteristic u <;> grind
  · cases Gattlib.stringToUuid u <;> grind

@[grind ←] theorem read_traced (dev u : UUID) (inData fail : Callback) : Traced (read dev u inData fail) := by
  refine ensureAdapterAvail_traced (.bind ble_traced fun b => .ite (by grind) ?_)
  refine .bind (getUUIDForCharOrFail_traced ..) fun r => ?_
  cases r <;> grind

@[grind ←] theorem write_traced (dev u : UUID) (value : BinaryBuffer) (succ fail : Callback) :
    Traced (write dev u value succ fail) := by
  refine ensureAdapterAvail_traced (.bind ble_traced fun b => .ite (by grind) ?_)
  refine .bind (getUUIDForCharOrFail_traced ..) fun r => ?_
  cases r <;> grind

@[grind ←] theorem startNotification_traced (dev u : UUID) (cb fail : Callback) :
    Traced (startNotification dev u cb fail) := by
  refine ensureAdapterAvail_traced (.bind ble_traced fun b => .ite (by grind) ?_)
  refine .bind (getUUIDForCharOrFail_traced ..) fun r => ?_
  cases r <;> grind

@[grind ←] theorem stopNotification_traced (dev u : UUID) (succ fail : Callback) :
    Traced (stopNotification dev u succ fail) := by
  refine ensureAdapterAvail_traced (.bind ble_traced fun b => .ite (by grind) ?_)
  refine .bind (getUUIDForCharOrFail_traced ..) fun r => ?_
  cases r <;> grind

@[grind ←] theorem stopAllLoop_traced (dev : UUID) (epoch : Nat) (keys : List UUID) :
    Traced (stopAllLoop dev epoch keys) := by
  induction keys with
  | nil => exact .pure _
  | cons key rest ih => grind [stopAllLoop]

@[grind ←] theorem stopAllNotifications_traced (dev : UUID) : Traced (stopAllNotifications dev) := by
  refine .bind ble_traced fun b => ?_
  cases b.deviceDetails dev <;> grind

@[grind ←] theorem performServiceDiscovery_traced (dev : UUID) : Traced (performServiceDiscovery dev) := by
  refine .bind (record_traced dev) fun d => .bind (callOut_traced _) fun r => .ite (by grind) ?_
  exact .bind (locked_traced (by grind)) fun _ => by grind

@[grind ←] theorem performCharacteristicsDiscovery_traced (dev : UUID) :
    Traced (performCharacteristicsDiscovery dev) := by
  refine .bind (record_traced dev) fun d => .bind (callOut_traced _) fun r => .ite (by grind) ?_
  exact .bind (locked_traced (by grind)) fun _ => by grind

@[grind ←] theorem QueuedOp.run_traced (op : QueuedOp) : Traced op.run := by
  cases op with
  | callback | readData | notification => exact Callback.invoke_traced ..
  | autoDiscoverServicesStep => exact .bind (performServiceDiscovery_traced _) fun _ => by grind
  | autoDiscoverCharacteristicsStep =>
    refine .bind (performCharacteristicsDiscovery_traced _) fun _ => ?_
    exact .bind (updateRecord_traced ..) fun _ => by grind
  | reportConnected => exact currentOpCompleted_traced

@[grind ←] theorem runReports_traced (q : List QueuedOp) : Traced (runReports q) := by
  induction q with
  | nil => exact .pure _
  | cons op rest ih =>
    refine .bind (modify_traced fun _ => rfl) fun _ => .bind (note_traced _) fun _ => ?_
    exact .bind (QueuedOp.run_traced op) fun _ => ih

@[grind ←] theorem processAsync_traced : Traced processAsync := by
  refine .bind (callOut_traced _) fun _ => .bind ble_traced fun b => .bind ?_ fun _ => tickAction_traced
  exact within_traced (fun _ => rfl) (fun _ => rfl) (by grind)

@[grind ←] theorem Event.handle_traced (ev : Event) : Traced ev.handle := by
  cases ev with
  | readChar buf =>
    cases buf with
    | none => exact .pure _
    | some buf =>
      refine .ite (.bind ble_traced fun b => ?_) (.pure _)
      cases b.asyncActions <;> grind
  | notification uuid data =>
    cases data with
    | none => exact .pure _
    | some data =>
      refine .ite ?_ (.pure _)
      cases Gattlib.uuidToString uuid <;> grind
  | connected c =>
    refine .bind ble_traced fun b => .bind (record_traced _) fun _ => ?_
    exact .bind (updateRecord_traced ..) fun _ => by grind
  | disconnected =>
    refine .bind ble_traced fun b => .bind (updateRecord_traced ..) fun _ => ?_
    exact .bind (update_traced _) fun _ => currentOpCompleted_traced
  | deviceDiscovered addr name =>
    refine .bind (update_traced _) fun _ => .bind ble_traced fun b => ?_
    exact Callback.invokeIfSet_traced ..
  | scanComplete | scanDisableDone => exact .bind (update_traced _) fun _ => currentOpCompleted_traced
  | opDone => exact currentOpCompleted_traced
  | opFailed => exact currentOpFailed_traced

@[grind ←] theorem shutdownLoop_traced (frame n : Nat) : Traced (shutdownLoop frame n) := by
  induction n with
  | zero => exact .pure _
  | succ n ih => exact .bind .get fun w => .ite (.pure _) (.bind processAsync_traced fun _ => ih)

@[grind ←] theorem shutdown_traced : Traced shutdown := by
  refine .bind ble_traced fun b => .ite ?_ (by grind)
  cases b.deviceDetails b.connectedTo with
  | none => grind
  | some dev =>
    refine .bind .get fun w => within_traced (fun _ => rfl) (fun _ => rfl) ?_
    grind

@[grind ←] theorem Op.run_traced (op : Op) : Traced op.run := by
  cases op <;> unfold Op.run <;> grind

/-- Every move is traced. -/
theorem Move.prog_traced (m : Move) : Traced m.prog := by
  refine .trapped (fun w => List.prefix_append w.log [.raised m]) (.bind (note_traced _) fun _ => ?_)
  cases m <;> grind

/-- A move that enters is noted first. -/
theorem Move.prog_enters (m : Move) (w : World) : w.log ++ [.enter m] <+: (m.prog w).state.log := by
  have henters {p : Ble Unit} (hp : Traced p) :
      w.log ++ [.enter m] <+: (Prog.trapped (·.note (.raised m)) p (w.note (.enter m))).state.log :=
    (hp.grows (w.note (.enter m))).trans
      (Out.trap_grows (M := logged) fun w => List.prefix_append w.log [.raised m])
  cases m with
  | api op =>
    have hrun : Traced (do
      let r ← op.run
      note (.exit (.api op) r)) := by grind
    exact henters hrun
  | event of ev =>
    have hrun : Traced (do
      ev.handle
      note (.exit (.event of ev) .void)) := by grind
    exact henters hrun

end

end Gattlibpp
