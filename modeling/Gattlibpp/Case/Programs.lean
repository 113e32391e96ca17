import Gattlibpp.Case.Blind
import Gattlibpp.Model.System

/-!
# The programs and letter case

Every program of the library does the same in worlds that are alike. Where a characteristic UUID
is passed in, so do the programs for two spellings of it, once the device is discovered: all they
look at is the normalized UUID.
-/

namespace Gattlibpp

open Open Device

section
variable {i : Set UUID}

/-! ## Adapter and callbacks -/

theorem adapterClose_blind : Blind i adapterClose := by
  refine .bind ble_blind fun _ => .ite (.pure _) (.bind ble_blind fun _ => ?_)
  exact .bind (callOut_blind _) fun _ => .bind (update_blind fun _ => rfl) fun _ => .pure _

theorem adapterOpenFresh_blind (name : String) : Blind i (adapterOpenFresh name) := by
  refine .bind (callOut_blind _) fun r => .ite (.pure _) ?_
  exact .bind (update_blind fun _ => rfl) fun _ => .pure _

theorem adapterOpen_blind (name : String) : Blind i (adapterOpen name) := by
  refine .bind ble_blind fun b => .ite (.bind ble_blind fun b => .ite (.pure _) ?_) ?_
  · exact .bind adapterClose_blind fun _ => adapterOpenFresh_blind name
  · exact adapterOpenFresh_blind name

theorem openAdapterIfRequired_blind : Blind i openAdapterIfRequired :=
  .bind ble_blind fun _ => .ite (.pure _) (adapterOpen_blind "")

theorem doneCb_blind (frame : Nat) : Blind i (doneCb frame) := by
  refine .bind adapterClose_blind fun _ => ?_
  refine get_same (fun _ _ => rfl) fun w => .ite ?_ (.halt _)
  exact modify_blind (fun _ _ => rfl) fun _ => subset_rfl

theorem Fn.invoke_blind (f : Fn) (arg : Arg) (role : Role) : Blind i (f.invoke arg role) := by
  cases f with
  | user id => exact .bind (callOut_blind _) fun _ => .pure _
  | doneCb frame => exact doneCb_blind frame
  | debugPrint => exact .pure _

theorem Callback.invoke_blind (cb : Callback) (arg : Arg) (role : Role) :
    Blind i (cb.invoke arg role) := by
  cases cb with
  | none => exact .raise
  | some f => exact f.invoke_blind arg role

theorem Callback.invokeIfSet_blind (cb : Callback) (arg : Arg) (role : Role) :
    Blind i (cb.invokeIfSet arg role) := by
  cases cb with
  | none => exact .pure _
  | some f => exact f.invoke_blind arg role

theorem triggerCbIfSet_blind (cb : Callback) : Blind i (triggerCbIfSet cb) :=
  Callback.invokeIfSet_blind cb _ _

theorem ensureAdapterAvail_same {failcb : Callback} {p q : Ble Bool}
    (h : p.Same World.Alike i q) :
    (ensureAdapterAvail failcb p).Same World.Alike i (ensureAdapterAvail failcb q) := by
  refine .bind openAdapterIfRequired_blind fun b => .ite h ?_
  exact .bind (triggerCbIfSet_blind failcb) fun _ => .pure _

/-! ## Actions -/

namespace AsyncAction

theorem deref_blind (a : ActionId) : Blind i (deref a) := by
  refine get_same (fun _ _ => rfl) fun w => ?_
  cases w.action a with
  | some x => exact .pure _
  | none => exact .halt _

theorem markCompleted_blind (a : ActionId) : Blind i (markCompleted a) :=
  .bind (deref_blind a) fun _ => updateAction_blind

theorem cancelWithoutCallback_blind (a : ActionId) : Blind i (cancelWithoutCallback a) :=
  .bind (markCompleted_blind a) fun _ => note_blind _

theorem completedWithSuccess_blind (a : ActionId) : Blind i (completedWithSuccess a) := by
  refine .bind (markCompleted_blind a) fun _ => .bind (deref_blind a) fun x => ?_
  exact Callback.invokeIfSet_blind _ _ _

theorem completedWithFailure_blind (a : ActionId) : Blind i (completedWithFailure a) := by
  refine .bind (markCompleted_blind a) fun _ => .bind (deref_blind a) fun x => ?_
  exact Callback.invokeIfSet_blind _ _ _

end AsyncAction

theorem queueAsyncAction_blind (dets : AsyncAction.Details) :
    Blind i (queueAsyncAction dets) := by
  intro j _ w w' hw
  obtain ⟨l, rfl, hl, hi⟩ := hw
  refine .done () ⟨_, rfl, ?_, hi⟩
  simp only [List.map_append, hl]

theorem currentOpCompleted_blind : Blind i currentOpCompleted := by
  refine .bind ble_blind fun b => ?_
  split
  · exact .pure _
  · exact AsyncAction.completedWithSuccess_blind _

theorem currentOpFailed_blind : Blind i currentOpFailed := by
  refine .bind ble_blind fun b => ?_
  split
  · exact .pure _
  · exact AsyncAction.completedWithFailure_blind _

/-! ## Requests -/

theorem scan_blind (runSeconds : UInt16) (scanCompleted deviceDiscoveredCb failure : Callback) :
    Blind i (scan runSeconds scanCompleted deviceDiscoveredCb failure) := by
  refine ensureAdapterAvail_same (.bind ble_blind fun b => .ite (.pure _) ?_)
  refine .bind ble_blind fun b => ?_
  extract_lets rest
  have hrest : Blind i (rest ()) := by
    refine .bind (update_blind fun _ => rfl) fun _ => ?_
    exact .bind (queueAsyncAction_blind _) fun _ => .bind (update_blind fun _ => rfl) fun _ => .pure _
  refine .ite ?_ hrest
  split
  · exact .ite hrest hrest
  · exact hrest

theorem stopScan_blind (succ failure : Callback) : Blind i (stopScan succ failure) := by
  refine ensureAdapterAvail_same (.bind ble_blind fun b => .ite ?_ (.bind ble_blind fun b => ?_))
  · exact .bind (queueAsyncAction_blind _) fun _ => .pure _
  · extract_lets rest
    have hrest (x : Unit) : Blind i (rest x) := .bind (queueAsyncAction_blind _) fun _ => .pure _
    split
    · exact .ite (.bind (AsyncAction.cancelWithoutCallback_blind _) hrest) (hrest ())
    · exact hrest ()

/-- A record is made only where there is none. -/
theorem insertNew_bind {α : Type} (devId : UUID) {rest : Unit → Ble α}
    (hrest : ∀ x, Blind i (rest x)) : Blind i (ble >>= fun b =>
      if (b.deviceDetails devId).isNone then
        (update fun b => { b with devices := b.devices.insert devId (.new devId) }) >>= rest
      else rest ()) := by
  refine ble_bind fun j w w' hij hw => ?_
  simp only [Prog.ite_apply]
  split
  · rename_i hnone
    obtain ⟨l, rfl, hl, hi⟩ := hw
    have hdone : w.doneDevices ⊆ (w.updateBle fun b =>
        { b with devices := b.devices.insert devId (.new devId) }).doneDevices := by
      rintro k ⟨d, hd, hdone⟩
      have hne : devId ≠ k := by
        rintro rfl
        rw [BLECentral.deviceDetails, normalizeDeviceUUID, hd] at hnone
        cases hnone
      refine ⟨d, ?_, hdone⟩
      rw [World.updateBle_ble, Std.TreeMap.getElem?_insert, if_neg]
      · exact hd
      · simpa using hne
    exact .bind (.done () ⟨l, rfl, hl, hi.trans hdone⟩) fun x => (hrest x).mono hij
  · exact hrest () j hij w w' hw

theorem connect_blind (devUUID : UUID) (parameters : Option ConnectionParams)
    (succ failure : Callback) : Blind i (connect devUUID parameters succ failure) := by
  refine ensureAdapterAvail_same (.bind ble_blind fun b => .ite ?_ (insertNew_bind _ fun _ => ?_))
  · exact .bind (triggerCbIfSet_blind failure) fun _ => .pure _
  refine .bind (update_blind fun _ => rfl) fun _ => .bind ble_blind fun b => ?_
  exact .bind (queueAsyncAction_blind _) fun _ => .pure _

theorem disconnect_blind (devId : UUID) (succ failure : Callback) :
    Blind i (disconnect devId succ failure) := by
  refine ensureAdapterAvail_same (.bind ble_blind fun b => .ite ?_ ?_)
  · exact .bind (triggerCbIfSet_blind failure) fun _ => .pure _
  · exact .bind (queueAsyncAction_blind _) fun _ => .pure _

/-- Two spellings of a characteristic UUID of `dev`: different ones only once `dev` is
discovered. -/
def Spelled (i : Set UUID) (dev u u' : UUID) : Prop :=
  u' = u ∨ dev ∈ i ∧ u'.toLower = u.toLower

theorem Spelled.toLower {dev u u' : UUID} (h : Spelled i dev u u') : u'.toLower = u.toLower := by
  obtain rfl | ⟨-, h⟩ := h
  · rfl
  · exact h

theorem Spelled.normalize {dev u u' : UUID} (h : Spelled i dev u u') :
    normalizeCharacteristicUUID u' = normalizeCharacteristicUUID u := by
  rw [normalizeCharacteristicUUID_eq, normalizeCharacteristicUUID_eq, h.toLower]

theorem characteristicRef_blind (dets u : UUID) : Blind i (characteristicRef dets u) :=
  .bind (record_blind dets) fun _ => .ite (.pure _) (.halt _)

theorem characteristicRef_congr {dets u u' : UUID}
    (h : normalizeCharacteristicUUID u' = normalizeCharacteristicUUID u) :
    characteristicRef dets u' = characteristicRef dets u := by
  unfold characteristicRef Details.hasCharacteristic Details.charRef
  rw [h]

section
variable [Gattlib]

theorem getUUIDForCharOrFail_blind (dets u : UUID) (opSupp : Characteristic.Details → Bool)
    (failure : Callback) : Blind i (getUUIDForCharOrFail dets u opSupp failure) := by
  refine .bind (record_blind dets) fun _ => .ite (locked_same (.bind (record_blind dets) ?_)) ?_
  · intro d
    cases d.characteristic u with
    | none => exact .bind (triggerCbIfSet_blind failure) fun _ => .pure _
    | some c => exact .ite (.bind (triggerCbIfSet_blind failure) fun _ => .pure _) (.pure _)
  · cases Gattlib.stringToUuid u with
    | none => exact .bind (triggerCbIfSet_blind failure) fun _ => .pure _
    | some g => exact .pure _

/-- Where the device is discovered, the string is looked up in the record. -/
theorem getUUIDForCharOrFail_same {dets u u' : UUID} (hu : Spelled i dets u u')
    (opSupp : Characteristic.Details → Bool) (failure : Callback) :
    (getUUIDForCharOrFail dets u opSupp failure).Same World.Alike i
      (getUUIDForCharOrFail dets u' opSupp failure) := by
  have hnorm := hu.normalize
  obtain rfl | ⟨hdev, -⟩ := hu
  · exact getUUIDForCharOrFail_blind dets _ opSupp failure
  intro j hj w w' hw
  have hsame : getUUIDForCharOrFail dets u' opSupp failure w' =
      getUUIDForCharOrFail dets u opSupp failure w' := by
    obtain ⟨l, rfl, -, hi⟩ := hw
    obtain ⟨d, hd, hdone⟩ := hi (hj hdev)
    simp only [getUUIDForCharOrFail, record, Prog.bind_apply, ble_apply, Out.bind_done, hd,
      Prog.pure_apply, hdone, if_true, Details.characteristic, hnorm]
  rw [hsame]
  exact getUUIDForCharOrFail_blind dets u opSupp failure j hj w w' hw

theorem read_same {device u u' : UUID} (hu : Spelled i device u u') (inData failure : Callback) :
    (read device u inData failure).Same World.Alike i (read device u' inData failure) := by
  refine ensureAdapterAvail_same (.bind ble_blind fun b => .ite ?_ ?_)
  · exact .bind (triggerCbIfSet_blind failure) fun _ => .pure _
  refine .bind (getUUIDForCharOrFail_same hu _ failure) fun g => ?_
  cases g with
  | none => exact .pure _
  | some g =>
    rw [characteristicRef_congr hu.normalize]
    refine .bind (characteristicRef_blind _ _) fun _ => ?_
    exact .bind (queueAsyncAction_blind _) fun _ => .pure _

theorem write_same {device u u' : UUID} (hu : Spelled i device u u') (value : BinaryBuffer)
    (succ failure : Callback) : (write device u value succ failure).Same World.Alike i
      (write device u' value succ failure) := by
  refine ensureAdapterAvail_same (.bind ble_blind fun b => .ite ?_ ?_)
  · exact .bind (triggerCbIfSet_blind failure) fun _ => .pure _
  refine .bind (getUUIDForCharOrFail_same hu _ failure) fun g => ?_
  cases g with
  | none => exact .pure _
  | some g =>
    rw [characteristicRef_congr hu.normalize]
    refine .bind (characteristicRef_blind _ _) fun _ => ?_
    exact .bind (queueAsyncAction_blind _) fun _ => .pure _

end

theorem reportIsConnected_blind (device : UUID) (succ failure : Callback) :
    Blind i (reportIsConnected device succ failure) := by
  refine ensureAdapterAvail_same (.bind ble_blind fun b => .ite ?_ ?_)
  · exact .bind (pushReport_blind _) fun _ => .pure _
  · exact .bind (pushReport_blind _) fun _ => .pure _

theorem isEnabled_blind (succ failure : Callback) : Blind i (isEnabled succ failure) :=
  ensureAdapterAvail_same (.bind (pushReport_blind _) fun _ => .pure _)

theorem enable_blind (succ failure : Callback) : Blind i (enable succ failure) := by
  refine ensureAdapterAvail_same (.bind ble_blind fun b => .bind (callOut_blind _) fun r => .ite ?_ ?_)
  · exact .bind (pushReport_blind _) fun _ => .pure _
  · exact .bind (pushReport_blind _) fun _ => .pure _

/-! ## Notifications -/

theorem countRegistered_blind (dets : UUID) : Blind i (countRegistered dets) := by
  refine .bind (record_blind dets) fun d => .ite (updateRecord_blind fun _ h => h) ?_
  refine .bind (record_blind dets) fun _ => .bind (record_blind dets) fun _ => ?_
  refine .bind (callOut_blind _) fun _ => .bind (record_blind dets) fun _ => ?_
  exact .bind (callOut_blind _) fun _ => updateRecord_blind fun _ h => h

theorem startForChar_blind (dets : UUID) (g : GlUuid) (failure : Callback) :
    Blind i (startForChar dets g failure) := by
  refine .bind (record_blind dets) fun _ => .bind (callOut_blind _) fun r => .ite ?_ (.pure _)
  refine .bind (triggerCbIfSet_blind failure) fun _ => ?_
  exact .bind (updateRecord_blind fun _ h => h) fun _ => .pure _

theorem startNotificationBlock_blind (dets u : UUID) (g : GlUuid) (cb failure : Callback) :
    Blind i (startNotificationBlock dets u g cb failure) := by
  refine .bind (record_blind dets) fun d => ?_
  extract_lets shouldRegister rest
  have hrest (x : Unit) : Blind i (rest x) := by
    refine .bind (updateRecord_blind fun _ h => h) fun _ => .ite ?_ (.pure _)
    exact .bind (countRegistered_blind dets) fun _ => startForChar_blind dets g failure
  exact .ite (.bind (updateRecord_blind fun _ h => h) hrest) (hrest ())

theorem startNotificationBlock_congr {dets u u' : UUID}
    (h : normalizeCharacteristicUUID u' = normalizeCharacteristicUUID u) (g : GlUuid)
    (cb failure : Callback) :
    startNotificationBlock dets u' g cb failure = startNotificationBlock dets u g cb failure := by
  unfold startNotificationBlock Details.characteristic Details.setRegistered
    Details.setNotificationHandler
  rw [h]

theorem countUnregistered_blind (dets : UUID) : Blind i (countUnregistered dets) := by
  refine .bind (record_blind dets) fun d => .ite ?_ (.pure _)
  refine .bind (updateRecord_blind fun _ h => h) fun _ => .bind (record_blind dets) fun _ => ?_
  refine .ite (.bind (record_blind dets) fun _ => .bind (callOut_blind _) fun _ => ?_) (.pure _)
  exact .bind (record_blind dets) fun _ => .bind (callOut_blind _) fun _ => .pure _

theorem stopForChar_blind (dets : UUID) (g : GlUuid) (failure : Callback) :
    Blind i (stopForChar dets g failure) := by
  refine .bind (record_blind dets) fun _ => .bind (callOut_blind _) fun r => .ite ?_ (.pure _)
  exact .bind (triggerCbIfSet_blind failure) fun _ => .pure _

theorem stopNotificationBlock_blind (dets u : UUID) (g : GlUuid) (failure : Callback) :
    Blind i (stopNotificationBlock dets u g failure) := by
  refine .bind (record_blind dets) fun d => .ite ?_ (.pure _)
  refine .bind (updateRecord_blind fun _ h => h) fun _ => ?_
  exact .bind (countUnregistered_blind dets) fun _ => stopForChar_blind dets g failure

theorem stopNotificationBlock_congr {dets u u' : UUID}
    (h : normalizeCharacteristicUUID u' = normalizeCharacteristicUUID u) (g : GlUuid)
    (failure : Callback) :
    stopNotificationBlock dets u' g failure = stopNotificationBlock dets u g failure := by
  unfold stopNotificationBlock Details.characteristic Details.setRegistered
  rw [h]

theorem charAt_blind (dets key : UUID) (epoch : Nat) : Blind i (charAt dets key epoch) := by
  refine .bind (record_blind dets) fun d => ?_
  cases d.deref ⟨key, epoch⟩ with
  | some c => exact .pure _
  | none => exact .halt _

section
variable [Gattlib]

theorem startNotification_same {device u u' : UUID} (hu : Spelled i device u u')
    (cb failure : Callback) : (startNotification device u cb failure).Same World.Alike i
      (startNotification device u' cb failure) := by
  refine ensureAdapterAvail_same (.bind ble_blind fun b => .ite ?_ ?_)
  · exact .bind (triggerCbIfSet_blind failure) fun _ => .pure _
  refine .bind (getUUIDForCharOrFail_same hu _ failure) fun g => ?_
  cases g with
  | none => exact .pure _
  | some g =>
    simp only [startNotificationBlock_congr hu.normalize]
    exact locked_same (startNotificationBlock_blind _ _ g cb failure)

theorem stopNotification_same {device u u' : UUID} (hu : Spelled i device u u')
    (succ failure : Callback) : (stopNotification device u succ failure).Same World.Alike i
      (stopNotification device u' succ failure) := by
  refine ensureAdapterAvail_same (.bind ble_blind fun b => .ite ?_ ?_)
  · exact .bind (triggerCbIfSet_blind failure) fun _ => .pure _
  refine .bind (getUUIDForCharOrFail_same hu _ failure) fun g => ?_
  cases g with
  | none => exact .pure _
  | some g =>
    simp only [stopNotificationBlock_congr hu.normalize]
    refine .bind (locked_same (stopNotificationBlock_blind _ _ g failure)) fun b => .ite ?_ (.pure _)
    exact .ite (.bind (pushReport_blind _) fun _ => .pure _) (.pure _)

theorem stopAllLoop_blind (dets : UUID) (epoch : Nat) (keys : List UUID) :
    Blind i (stopAllLoop dets epoch keys) := by
  induction keys with
  | nil => exact .pure _
  | cons key rest ih =>
    refine .bind (charAt_blind dets key epoch) fun c => ?_
    extract_lets next
    have hnext (x : Unit) : Blind i (next x) := .bind (charAt_blind dets key epoch) fun _ => ih
    refine .ite (.bind (record_blind dets) fun d => ?_) (hnext ())
    exact .bind (stopNotification_same (.inl rfl) none none) fun _ => hnext ()

theorem stopAllNotifications_blind (device : UUID) : Blind i (stopAllNotifications device) := by
  refine .bind ble_blind fun b => ?_
  cases b.deviceDetails device with
  | none => exact .pure _
  | some dev => exact stopAllLoop_blind _ _ _

end

theorem handleNotificationLoop_blind (u : UUID) (data : BinaryBuffer) (keys : List UUID) :
    Blind i (handleNotificationLoop u data keys) := by
  induction keys with
  | nil => exact .pure _
  | cons dets rest ih =>
    refine .bind (locked_same (.bind (record_blind dets) fun d => ?_)) fun _ => ih
    exact .ite (pushReport_blind _) (.pure _)

theorem handleNotificationLoop_congr {u u' : UUID}
    (h : normalizeCharacteristicUUID u' = normalizeCharacteristicUUID u) (data : BinaryBuffer)
    (keys : List UUID) : handleNotificationLoop u' data keys = handleNotificationLoop u data keys := by
  induction keys with
  | nil => rfl
  | cons dets rest ih =>
    unfold handleNotificationLoop Details.hasNotificationHandlerFor Details.notificationHandler
    rw [h, ih]

/-- An incoming notification is handled whatever the spelling of its UUID. -/
theorem handleNotification_same {u u' : UUID}
    (h : normalizeCharacteristicUUID u' = normalizeCharacteristicUUID u) (data : BinaryBuffer) :
    (handleNotification u data).Same World.Alike i (handleNotification u' data) := by
  refine .bind ble_blind fun b => ?_
  rw [handleNotificationLoop_congr h]
  exact handleNotificationLoop_blind u data _

/-! ## Discovery -/

section
variable [Gattlib]

theorem performServiceDiscovery_blind (dev : UUID) : Blind i (performServiceDiscovery dev) := by
  refine .bind (record_blind dev) fun d => .bind (callOut_blind _) fun r => .ite (.pure _) ?_
  refine .bind (locked_same (updateRecord_blind fun d hd => ?_)) fun _ => .pure _
  rwa [Details.addServices_same (g := Details.discoveryDone) fun _ _ _ => rfl]

theorem performCharacteristicsDiscovery_blind (dev : UUID) :
    Blind i (performCharacteristicsDiscovery dev) := by
  refine .bind (record_blind dev) fun d => .bind (callOut_blind _) fun r => .ite (.pure _) ?_
  refine .bind (locked_same (updateRecord_blind fun d hd => ?_)) fun _ => .pure _
  rwa [Details.addCharacteristics_same (g := Details.discoveryDone) fun _ _ _ => rfl]

theorem autoDiscoverServicesStep_blind (dev : UUID) : Blind i (autoDiscoverServicesStep dev) :=
  .bind (performServiceDiscovery_blind dev) fun _ => pushReport_blind _

theorem autoDiscoverCharacteristicsStep_blind (dev : UUID) :
    Blind i (autoDiscoverCharacteristicsStep dev) := by
  refine .bind (performCharacteristicsDiscovery_blind dev) fun _ => ?_
  exact .bind (updateRecord_blind fun _ _ => rfl) fun _ => pushReport_blind _

end

/-! ## The tick -/

theorem capturedUuid_blind (dets : UUID) (r : CharRef) : Blind i (capturedUuid dets r) := by
  refine .bind (record_blind dets) fun d => ?_
  cases d.deref r with
  | some c => exact .pure _
  | none => exact .halt _

theorem closureOf_blind (a : ActionId) : Blind i (closureOf a) :=
  .bind (AsyncAction.deref_blind a) fun _ => .pure _

theorem Trigger.fire_blind (t : Trigger) (a : ActionId) : Blind i (t.fire a) := by
  have hfail : Blind i (AsyncAction.completedWithFailure a) :=
    AsyncAction.completedWithFailure_blind a
  cases t with
  | autodisconn devId => exact .bind (disconnect_blind devId _ _) fun _ => .pure _
  | scan runSeconds =>
    refine .bind ble_blind fun b => .bind (callOut_blind _) fun r => .ite ?_ (.pure _)
    exact .bind (closureOf_blind a) fun _ => .bind (update_blind fun _ => rfl) fun _ => hfail
  | stopScanDone => exact AsyncAction.completedWithSuccess_blind a
  | stopScan =>
    exact .bind ble_blind fun b => .bind (callOut_blind _) fun r => .ite hfail (.pure _)
  | connect devId parameters => exact .bind (callOut_blind _) fun r => .ite hfail (.pure _)
  | disconnect dev =>
    exact .bind (record_blind dev) fun d => .bind (callOut_blind _) fun r => .ite hfail (.pure _)
  | read dets charDets =>
    refine .bind (capturedUuid_blind dets charDets) fun g => .bind (record_blind dets) fun d => ?_
    exact .bind (callOut_blind _) fun r => .ite hfail (.pure _)
  | write dets charDets buffer =>
    refine .bind (capturedUuid_blind dets charDets) fun g => .bind (record_blind dets) fun d => ?_
    refine .bind (callOut_blind _) fun r => ?_
    extract_lets rest
    have hrest (x : Unit) : Blind i (rest x) := .bind (closureOf_blind a) fun _ => note_blind _
    exact .ite (.bind hfail hrest) (hrest ())

theorem AsyncAction.Details.run_blind (a : AsyncAction.Details) : Blind i a.run := by
  refine .ite (.pure _) (.bind updateAction_blind fun _ => .bind (note_blind _) fun _ => ?_)
  exact .bind (a.trigger.fire_blind a.id) fun _ => .pure _

theorem tickAction_blind : Blind i tickAction := by
  refine .bind ble_blind fun b => ?_
  cases b.asyncActions with
  | nil => exact .pure _
  | cons a rest =>
    refine .ite (.bind a.run_blind fun _ => .pure _) (.ite ?_ updateAction_blind)
    exact .bind (update_blind fun _ => rfl) fun _ => note_blind _

section
variable [Gattlib]

theorem QueuedOp.run_blind (op : QueuedOp) : Blind i op.run := by
  cases op with
  | callback cb => exact cb.invoke_blind _ _
  | readData drcb binBuf of => exact drcb.invoke_blind _ _
  | notification notifHandler notifBuf => exact notifHandler.invoke_blind _ _
  | autoDiscoverServicesStep dev => exact autoDiscoverServicesStep_blind dev
  | autoDiscoverCharacteristicsStep dev => exact autoDiscoverCharacteristicsStep_blind dev
  | reportConnected => exact currentOpCompleted_blind

theorem runReports_blind (q : List QueuedOp) : Blind i (runReports q) := by
  induction q with
  | nil => exact .pure _
  | cons op rest ih =>
    refine .bind (modify_blind (fun _ _ => rfl) fun _ => subset_rfl) fun _ => ?_
    exact .bind (note_blind _) fun _ => .bind op.run_blind fun _ => ih

theorem processAsync_blind : Blind i processAsync := by
  refine .bind (callOut_blind _) fun _ => .bind ble_blind fun b => ?_
  refine .bind (.within (.ite ?_ (.pure _)) ?_ ?_) fun _ => tickAction_blind
  · exact .bind (update_blind fun _ => rfl) fun _ => runReports_blind b.reportQueue
  · exact fun j w w' hw =>
      hw.change (f := fun w => { w with ticks := b.reportQueue :: w.ticks }) (fun _ _ => rfl)
        fun _ => subset_rfl
  · exact fun j w w' hw => hw.change (f := fun w => { w with ticks := w.ticks.tail })
      (fun _ _ => rfl) fun _ => subset_rfl

end

/-! ## gattlib's callbacks -/

theorem readDataReceived_blind (buf : BinaryBuffer) : Blind i (readDataReceived buf) := by
  refine .bind ble_blind fun b => ?_
  cases b.asyncActions with
  | nil => exact .pure _
  | cons a rest =>
    have hmark : Blind i (AsyncAction.markCompleted a.id) := AsyncAction.markCompleted_blind a.id
    exact .ite (.bind (pushReport_blind _) fun _ => hmark) hmark

theorem deviceDiscovered_blind (id : UUID) (name : String) : Blind i (deviceDiscovered id name) := by
  refine .bind (update_blind fun _ => rfl) fun _ => .bind ble_blind fun b => ?_
  exact b.devDiscoveredCb.invokeIfSet_blind _ _

theorem scanCompleted_blind : Blind i scanCompleted :=
  .bind (update_blind fun _ => rfl) fun _ => currentOpCompleted_blind

theorem deviceConnected_blind (connection : Option Conn) : Blind i (deviceConnected connection) := by
  refine .bind ble_blind fun b => .bind (record_blind _) fun d => ?_
  refine .bind (updateRecord_blind fun _ h => h) fun _ => .ite ?_ currentOpFailed_blind
  exact .bind ble_blind fun b => .ite (pushReport_blind _) currentOpCompleted_blind

theorem deviceDisconnected_blind : Blind i deviceDisconnected := by
  refine .bind ble_blind fun b => .bind (updateRecord_blind fun _ h => h) fun _ => ?_
  exact .bind (update_blind fun _ => rfl) fun _ => currentOpCompleted_blind

section
variable [Gattlib]

theorem Event.handle_blind (ev : Event) : Blind i ev.handle := by
  cases ev with
  | connected connection => exact deviceConnected_blind connection
  | disconnected => exact deviceDisconnected_blind
  | deviceDiscovered addr name => exact deviceDiscovered_blind _ _
  | scanComplete => exact scanCompleted_blind
  | readChar buffer =>
    cases buffer with
    | none => exact .pure _
    | some buf => exact .ite (readDataReceived_blind buf) (.pure _)
  | opDone => exact currentOpCompleted_blind
  | opFailed => exact currentOpFailed_blind
  | scanDisableDone => exact scanCompleted_blind
  | notification uuid data =>
    cases data with
    | none => exact .pure _
    | some data =>
      refine .ite ?_ (.pure _)
      cases Gattlib.uuidToString uuid with
      | none => exact .pure _
      | some u => exact handleNotification_same rfl data

/-! ## Shutdown and the moves -/

theorem shutdownLoop_blind (frame n : Nat) : Blind i (shutdownLoop frame n) := by
  induction n with
  | zero => exact .pure _
  | succ n ih =>
    refine get_same (fun _ _ => rfl) fun w => .ite (.pure _) ?_
    exact .bind processAsync_blind fun _ => ih

theorem shutdown_blind : Blind i shutdown := by
  have hclose : Blind i (adapterClose >>= fun _ => pure ()) :=
    .bind adapterClose_blind fun _ => .pure _
  refine .bind ble_blind fun b => .ite ?_ hclose
  cases b.deviceDetails b.connectedTo with
  | none => exact hclose
  | some dev =>
    refine get_same (fun _ _ => rfl) fun w => .within ?_ ?_ ?_
    · refine .bind (stopAllNotifications_blind _) fun _ => ?_
      exact .bind (disconnect_blind _ _ _) fun _ => shutdownLoop_blind w.serial 1000
    · exact fun _ _ _ hw => hw.change (f := fun v =>
        { v with serial := v.serial + 1, shutdowns := (w.serial, false) :: v.shutdowns })
        (fun _ _ => rfl) fun _ => subset_rfl
    · exact fun _ _ _ hw => hw.change (f := fun w => { w with shutdowns := w.shutdowns.tail })
        (fun _ _ => rfl) fun _ => subset_rfl

end

theorem deviceName_blind (dev : UUID) : Blind i (deviceName dev) :=
  .bind (update_blind fun _ => rfl) fun _ => .bind ble_blind fun _ => .pure _

end

end Gattlibpp
