import Gattlibpp.Quiet.Basic

/-!
# What an operation returns

An operation that returns false has called its failure callback, once, and has queued nothing;
one that returns true has called nothing back and has queued one entry, with the callbacks of
the caller. `scan` while a scan is on returns true and queues nothing.
-/

namespace Gattlibpp

open Open

/-! ## The contract -/

/-- The operations that are called with two callbacks, and the two: the one for success (or
for the data of a read), and the one for failure. -/
def Op.callbacks : Op → Option (Callback × Callback)
  | .scan _ succ _ fail => some (succ, fail)
  | .stopScan succ fail => some (succ, fail)
  | .connect _ _ succ fail => some (succ, fail)
  | .disconnect _ succ fail => some (succ, fail)
  | .read _ _ inData fail => some (inData, fail)
  | .write _ _ _ succ fail => some (succ, fail)
  | .stopNotification _ _ succ fail => some (succ, fail)
  | .isConnected _ succ fail => some (succ, fail)
  | .isEnabled succ fail => some (succ, fail)
  | .enable succ fail => some (succ, fail)
  | _ => none

@[simp] def Obs.userCall : Obs → Option (Nat × Arg)
  | call (.user fn arg _) => some (fn, arg)
  | _ => none

/-- The calls of user functions in the log. -/
def userCalls (log : List Obs) : List (Nat × Arg) := log.filterMap Obs.userCall

@[simp] theorem userCalls_append (l l' : List Obs) :
    userCalls (l ++ l') = userCalls l ++ userCalls l' := List.filterMap_append

@[simp] theorem userCalls_cons (o : Obs) (l : List Obs) :
    userCalls (o :: l) = o.userCall.toList ++ userCalls l := by
  simp only [userCalls, List.filterMap_cons]
  cases o.userCall <;> rfl

@[simp] theorem userCalls_nil : userCalls [] = [] := rfl

namespace AsyncAction.Details

/-- The action apart from how far it has got. -/
def request (a : Details) : Details := { a with state := .pending, waitCount := 0 }

/-- The action is new and has the callbacks of the caller. -/
def Carries (a : Details) (succ fail : Callback) : Prop :=
  a.state = .pending ∧ a.callbacks.failure = fail ∧
    (a.callbacks.success = succ ∨ a.callbacks.datareceived = succ)

end AsyncAction.Details

namespace World

/-- Turned down: the failure callback is called once, and nothing is queued. -/
structure Refused (w w' : World) (fail : Nat) : Prop where
  called : userCalls w'.log = userCalls w.log ++ [(fail, .nothing)]
  asyncActions : w'.ble.asyncActions = w.ble.asyncActions
  reportQueue : w'.ble.reportQueue = w.ble.reportQueue

/-- Accepted: nothing is called back, and one entry is queued. -/
structure Accepted (w w' : World) (succ fail : Callback) : Prop where
  called : userCalls w'.log = userCalls w.log
  entry : (∃ q a, w'.ble.asyncActions = q ++ [a] ∧ a.Carries succ fail ∧
      q.map (·.request) = w.ble.asyncActions.map (·.request) ∧
      w'.ble.reportQueue = w.ble.reportQueue) ∨
    ∃ cb, (cb = succ ∨ cb = fail) ∧ w'.ble.reportQueue = w.ble.reportQueue ++ [.callback cb] ∧
      w'.ble.asyncActions = w.ble.asyncActions

/-- What the contract says of a call that returned `r`. -/
def Contract (w : World) (succ fail : Nat) (r : Ret) (w' : World) : Prop :=
  (r = .bool false ∧ w.Refused w' fail) ∨
    (r = .bool true ∧ w.Accepted w' (some (.user succ)) (some (.user fail)))

/-- Nothing has been called back or queued from `w` to `w'`. -/
structure Same (w w' : World) : Prop where
  called : userCalls w'.log = userCalls w.log
  asyncActions : w'.ble.asyncActions = w.ble.asyncActions
  reportQueue : w'.ble.reportQueue = w.ble.reportQueue
  isScanning : w'.ble.isScanning = w.ble.isScanning

variable {w w' w'' : World} {succ fail : Nat}

theorem Same.refl (w : World) : w.Same w := ⟨rfl, rfl, rfl, rfl⟩

theorem Same.trans (h : w.Same w') (h' : w'.Same w'') : w.Same w'' :=
  ⟨h'.called.trans h.called, h'.asyncActions.trans h.asyncActions,
    h'.reportQueue.trans h.reportQueue, h'.isScanning.trans h.isScanning⟩

theorem Same.contract {r : Ret} (h : w.Same w') (hc : w'.Contract succ fail r w'') :
    w.Contract succ fail r w'' := by
  rcases hc with ⟨hr, hc⟩ | ⟨hr, hc⟩
  · exact .inl ⟨hr, h.called ▸ hc.called, hc.asyncActions.trans h.asyncActions,
      hc.reportQueue.trans h.reportQueue⟩
  · refine .inr ⟨hr, hc.called.trans h.called, ?_⟩
    rcases hc.entry with ⟨q, a, hq, ha, hs, hrq⟩ | ⟨cb, hcb, hrq, hq⟩
    · exact .inl ⟨q, a, hq, ha, h.asyncActions ▸ hs, hrq.trans h.reportQueue⟩
    · exact .inr ⟨cb, hcb, h.reportQueue ▸ hrq, hq.trans h.asyncActions⟩

theorem Contract.keep {r : Ret} (hc : w.Contract succ fail r w')
    (hcalled : userCalls w''.log = userCalls w'.log)
    (hq : w''.ble.asyncActions = w'.ble.asyncActions)
    (hrq : w''.ble.reportQueue = w'.ble.reportQueue) : w.Contract succ fail r w'' := by
  rcases hc with ⟨hr, hc⟩ | ⟨hr, hc⟩
  · exact .inl ⟨hr, hcalled.trans hc.called, hq.trans hc.asyncActions, hrq.trans hc.reportQueue⟩
  · exact .inr ⟨hr, hcalled.trans hc.called, by rw [hq, hrq]; exact hc.entry⟩

end World

section
variable {w : World} {succ fail : Nat} {X : World → Prop}

/-- The request is turned down after nothing has happened. -/
theorem refuse_quiet {w1 : World} {Q : Bool → World → Prop} (hw : w.Same w1)
    (hk : ∀ w', w.Refused w' fail → Q false w') :
    ((do triggerCbIfSet (some (.user fail)); return false : Ble Bool) w1).Safe quiet Q X := by
  simp only [triggerCbIfSet, Prog.bind_apply, safe_bind, user_quiet]
  intro r
  refine hk _ ⟨?_, hw.asyncActions, hw.reportQueue⟩
  simp [hw.called]

theorem ensureAdapterAvail_quiet {rest : Ble Bool} {Q : Bool → World → Prop}
    (hfail : ∀ w', w.Refused w' fail → Q false w')
    (hk : ∀ w', w.Same w' → (rest w').Safe quiet Q X) :
    (ensureAdapterAvail (some (.user fail)) rest w).Safe quiet Q X := by
  simp only [ensureAdapterAvail, openAdapterIfRequired, adapterOpen, ble_apply, Prog.bind_apply,
    Out.bind_done, Prog.ite_apply, Prog.pure_apply]
  split
  · exact hk w (.refl w)
  · simp only [adapterOpenFresh, Prog.bind_apply, safe_bind, callOut_quiet, Prog.ite_apply]
    intro r
    have hask : w.Same (w.asked (.adapterOpen none) r) := ⟨by simp, rfl, rfl, rfl⟩
    split
    · exact refuse_quiet hask hfail
    · exact hk _ (hask.trans ⟨rfl, rfl, rfl, rfl⟩)

/-- A new action is queued at the end. -/
theorem World.contract_enqueue {w1 : World} {a : AsyncAction.Details} (hw : w.Same w1)
    (ha : a.Carries (some (.user succ)) (some (.user fail))) :
    w.Contract succ fail (.bool true) (w1.enqueue a) := by
  refine hw.contract (.inr ⟨rfl, ?_, .inl ⟨w1.ble.asyncActions, _, rfl, ha, rfl, rfl⟩⟩)
  simp

/-- A callback is put in the report queue. -/
theorem World.contract_report {w1 : World} {cb : Callback} (hw : w.Same w1)
    (hcb : cb = some (.user succ) ∨ cb = some (.user fail)) :
    w.Contract succ fail (.bool true) (w1.report (.callback cb)) := by
  refine hw.contract (.inr ⟨rfl, ?_, .inr ⟨cb, hcb, rfl, rfl⟩⟩)
  simp

theorem scan_quiet {runSeconds : UInt16} {disc : Callback} (hs : w.ble.isScanning = false) :
    (scan runSeconds (some (.user succ)) disc (some (.user fail)) w).Safe quiet
      (fun b w' => w.Contract succ fail (.bool b) w') X := by
  refine ensureAdapterAvail_quiet (fun _ h => .inl ⟨rfl, h⟩) fun w1 hw => ?_
  have hs1 : w1.ble.isScanning = false := hw.isScanning.trans hs
  have hq : w.Same (w1.updateBle fun b => { b with devDiscoveredCb := disc }) :=
    hw.trans ⟨rfl, rfl, rfl, rfl⟩
  have hend := World.contract_enqueue hq (a :=
    { name := "scan"
      callbacks := { success := some (.user succ), failure := some (.user fail) }
      trigger := .scan runSeconds }) ⟨rfl, rfl, .inl rfl⟩
  simp only [ble_apply, Prog.bind_apply, Out.bind_done, Prog.ite_apply, hs1, Bool.false_eq_true,
    if_false]
  -- the action the source builds for a connected device is dropped
  split
  · cases w1.ble.deviceDetails w1.ble.connectedTo with
    | none => exact hend.keep rfl rfl rfl
    | some dets =>
      simp only [Prog.ite_apply]
      split <;> exact hend.keep rfl rfl rfl
  · exact hend.keep rfl rfl rfl

theorem stopScan_quiet : (stopScan (some (.user succ)) (some (.user fail)) w).Safe quiet
    (fun b w' => w.Contract succ fail (.bool b) w') X := by
  refine ensureAdapterAvail_quiet (fun _ h => .inl ⟨rfl, h⟩) fun w1 hw => ?_
  have hqueue {a : AsyncAction.Details} (ha : a.Carries (some (.user succ)) (some (.user fail))) :
      w.Contract succ fail (.bool true) (w1.enqueue a) := World.contract_enqueue hw ha
  simp only [ble_apply, Prog.bind_apply, Out.bind_done, Prog.ite_apply]
  split
  · exact hqueue ⟨rfl, rfl, .inl rfl⟩
  · cases hf : w1.ble.asyncActions with
    | nil => exact hqueue ⟨rfl, rfl, .inl rfl⟩
    | cons front rest =>
      simp only [Prog.ite_apply]
      split
      · -- the scan that runs at the front is cancelled: it stays in the queue, Completed
        have ha : w1.action front.id = some front := by simp [World.action, hf]
        simp only [AsyncAction.cancelWithoutCallback, AsyncAction.markCompleted, AsyncAction.deref,
          Prog.bind_apply, Prog.get_apply, Out.bind_done, ha, Prog.pure_apply]
        refine .inr ⟨rfl, ?_, .inl ⟨_, _, rfl, ⟨rfl, rfl, .inl rfl⟩, ?_, hw.reportQueue⟩⟩
        · refine Eq.trans ?_ hw.called
          exact (userCalls_append ..).trans (by simp)
        · rw [← hw.asyncActions]
          change (w1.ble.asyncActions.map _).map _ = _
          rw [List.map_map]
          refine List.map_congr_left fun x _ => ?_
          simp only [Function.comp_apply]
          split <;> rfl
      · exact hqueue ⟨rfl, rfl, .inl rfl⟩

theorem connect_quiet {dev : UUID} {p : Option ConnectionParams} :
    (connect dev p (some (.user succ)) (some (.user fail)) w).Safe quiet
      (fun b w' => w.Contract succ fail (.bool b) w') X := by
  refine ensureAdapterAvail_quiet (fun _ h => .inl ⟨rfl, h⟩) fun w1 hw => ?_
  have hqueue {w2 : World} {a : AsyncAction.Details} (hw2 : w1.Same w2)
      (ha : a.Carries (some (.user succ)) (some (.user fail))) :
      w.Contract succ fail (.bool true) (w2.enqueue a) := World.contract_enqueue (hw.trans hw2) ha
  simp only [ble_apply, Prog.bind_apply, Out.bind_done]
  simp only [ble_apply, Prog.bind_apply, Out.bind_done, Prog.ite_apply]
  split
  · exact refuse_quiet hw fun _ h => .inl ⟨rfl, h⟩
  · split <;> exact hqueue ⟨rfl, rfl, rfl, rfl⟩ ⟨rfl, rfl, .inl rfl⟩

theorem disconnect_quiet {dev : UUID} :
    (Gattlibpp.disconnect dev (some (.user succ)) (some (.user fail)) w).Safe quiet
      (fun b w' => w.Contract succ fail (.bool b) w') X := by
  refine ensureAdapterAvail_quiet (fun _ h => .inl ⟨rfl, h⟩) fun w1 hw => ?_
  simp only [ble_apply, Prog.bind_apply, Out.bind_done, Prog.ite_apply]
  split
  · exact refuse_quiet hw fun _ h => .inl ⟨rfl, h⟩
  · exact World.contract_enqueue hw ⟨rfl, rfl, .inl rfl⟩

theorem reportIsConnected_quiet {dev : UUID} :
    (reportIsConnected dev (some (.user succ)) (some (.user fail)) w).Safe quiet
      (fun b w' => w.Contract succ fail (.bool b) w') X := by
  refine ensureAdapterAvail_quiet (fun _ h => .inl ⟨rfl, h⟩) fun w1 hw => ?_
  simp only [ble_apply, Prog.bind_apply, Out.bind_done, Prog.ite_apply]
  split
  · exact World.contract_report hw (.inl rfl)
  · exact World.contract_report hw (.inr rfl)

theorem isEnabled_quiet : (isEnabled (some (.user succ)) (some (.user fail)) w).Safe quiet
    (fun b w' => w.Contract succ fail (.bool b) w') X :=
  ensureAdapterAvail_quiet (fun _ h => .inl ⟨rfl, h⟩) fun _ hw =>
    World.contract_report hw (.inl rfl)

theorem enable_quiet : (enable (some (.user succ)) (some (.user fail)) w).Safe quiet
    (fun b w' => w.Contract succ fail (.bool b) w') X := by
  refine ensureAdapterAvail_quiet (fun _ h => .inl ⟨rfl, h⟩) fun w1 hw => ?_
  simp only [ble_apply, Prog.bind_apply, Out.bind_done, safe_bind, callOut_quiet, Prog.ite_apply]
  intro r
  have hask : w.Same (w1.asked (.adapterPowered w1.ble.adapter) r) :=
    hw.trans ⟨by simp, rfl, rfl, rfl⟩
  split
  · exact World.contract_report hask (.inl rfl)
  · exact World.contract_report hask (.inr rfl)

/-! ## Characteristics -/

section
variable [Gattlib] {dev u : UUID}

theorem getUUIDForCharOrFail_quiet {supp : Characteristic.Details → Bool}
    {Q : Option GlUuid → World → Prop} {w0 : World} (hw : w0.Same w)
    (hnone : ∀ w', w0.Refused w' fail → Q none w')
    (hsome : ∀ g w', w0.Same w' → Q (some g) w') :
    (getUUIDForCharOrFail dev u supp (some (.user fail)) w).Safe quiet Q X := by
  have hrefuse {w1 : World} {Q : Option GlUuid → World → Prop} {X : World → Prop} (h : w0.Same w1)
      (hnone : ∀ w', w0.Refused w' fail → Q none w') :
      ((do triggerCbIfSet (some (.user fail)); return none : Ble (Option GlUuid)) w1).Safe
        quiet Q X := by
    simp only [triggerCbIfSet, Prog.bind_apply, safe_bind, user_quiet]
    intro r
    exact hnone _ ⟨by simp [h.called], h.asyncActions, h.reportQueue⟩
  simp only [getUUIDForCharOrFail, Prog.bind_apply, safe_bind]
  refine record_quiet fun d hd => ?_
  rw [Prog.ite_apply]
  split
  · refine locked_quiet fun _ => ?_
    simp only [Prog.bind_apply, safe_bind]
    refine record_quiet fun d' _ => ?_
    have hw' : w0.Same { w with held := dev :: w.held } := ⟨hw.1, hw.2, hw.3, hw.4⟩
    cases d'.characteristic u with
    | none => exact hrefuse hw' fun w' h => hnone _ ⟨h.1, h.2, h.3⟩
    | some c =>
      simp only [Prog.ite_apply]
      split
      · exact hrefuse hw' fun w' h => hnone _ ⟨h.1, h.2, h.3⟩
      · exact hsome _ _ ⟨hw.1, hw.2, hw.3, hw.4⟩
  · cases Gattlib.stringToUuid u with
    | none => exact hrefuse hw hnone
    | some g => exact hsome g w hw

/-- The lookup and the queueing of a read or a write. -/
theorem lookup_quiet {supp : Characteristic.Details → Bool} {w0 : World}
    {act : Device.CharRef → AsyncAction.Details} (hw : w0.Same w)
    (ha : ∀ r, (act r).Carries (some (.user succ)) (some (.user fail))) :
    (((do
      match ← getUUIDForCharOrFail dev u supp (some (.user fail)) with
      | none => return false
      | some _ =>
        let charDets ← characteristicRef dev u
        queueAsyncAction (act charDets)
        return true) : Ble Bool) w).Safe quiet
      (fun b w' => w0.Contract succ fail (.bool b) w') X := by
  simp only [Prog.bind_apply, safe_bind]
  refine getUUIDForCharOrFail_quiet hw (fun _ h => .inl ⟨rfl, h⟩) fun g w1 hw1 => ?_
  simp only [characteristicRef, Prog.bind_apply, safe_bind]
  refine record_quiet fun d _ => ?_
  simp only [Prog.ite_apply]
  split
  · exact World.contract_enqueue hw1 (ha _)
  · exact trivial

theorem read_quiet : (read dev u (some (.user succ)) (some (.user fail)) w).Safe quiet
    (fun b w' => w.Contract succ fail (.bool b) w') X := by
  refine ensureAdapterAvail_quiet (fun _ h => .inl ⟨rfl, h⟩) fun w1 hw => ?_
  simp only [ble_apply, Prog.bind_apply, Out.bind_done, Prog.ite_apply]
  split
  · exact refuse_quiet hw fun _ h => .inl ⟨rfl, h⟩
  · exact lookup_quiet hw fun _ => ⟨rfl, rfl, .inr rfl⟩

theorem write_quiet {value : BinaryBuffer} :
    (write dev u value (some (.user succ)) (some (.user fail)) w).Safe quiet
      (fun b w' => w.Contract succ fail (.bool b) w') X := by
  refine ensureAdapterAvail_quiet (fun _ h => .inl ⟨rfl, h⟩) fun w1 hw => ?_
  simp only [ble_apply, Prog.bind_apply, Out.bind_done, Prog.ite_apply]
  split
  · exact refuse_quiet hw fun _ h => .inl ⟨rfl, h⟩
  · exact lookup_quiet hw fun _ => ⟨rfl, rfl, .inl rfl⟩

omit [Gattlib] in
theorem countUnregistered_quiet {Q : Unit → World → Prop} {w0 : World} (hw : w0.Same w)
    (hk : ∀ w', w0.Same w' → Q () w') : (countUnregistered dev w).Safe quiet Q X := by
  simp only [countUnregistered, Prog.bind_apply, safe_bind]
  refine record_quiet fun d _ => ?_
  rw [Prog.ite_apply]
  split
  · simp only [updateRecord, Prog.modify_apply, Prog.bind_apply, Out.bind_done, safe_bind]
    refine record_quiet fun d1 _ => ?_
    rw [Prog.ite_apply]
    split
    · simp only [Prog.bind_apply, safe_bind]
      refine record_quiet fun d2 _ => callOut_quiet.mpr fun r => record_quiet fun d3 _ => ?_
      refine callOut_quiet.mpr fun r' => hk _ (hw.trans ⟨?_, rfl, rfl, rfl⟩)
      simp
    · exact hk _ (hw.trans ⟨rfl, rfl, rfl, rfl⟩)
  · exact hk _ hw

omit [Gattlib] in
theorem stopNotificationBlock_quiet {g : GlUuid} {Q : Bool → World → Prop} {w0 : World}
    (hw : w0.Same w) (hfalse : ∀ w', w0.Refused w' fail → Q false w')
    (htrue : ∀ w', w0.Same w' → Q true w') :
    (stopNotificationBlock dev u g (some (.user fail)) w).Safe quiet Q X := by
  simp only [stopNotificationBlock, Prog.bind_apply, safe_bind]
  refine record_quiet fun d _ => ?_
  rw [Prog.ite_apply]
  split
  · simp only [updateRecord, Prog.modify_apply, Prog.bind_apply, Out.bind_done, safe_bind]
    refine countUnregistered_quiet (hw.trans ⟨rfl, rfl, rfl, rfl⟩) fun w1 hw1 => ?_
    simp only [stopForChar, Prog.bind_apply, safe_bind]
    refine record_quiet fun d1 _ => callOut_quiet.mpr fun r => ?_
    have hask : w0.Same (w1.asked (.notificationStop d1.connection g) r) :=
      hw1.trans ⟨by simp, rfl, rfl, rfl⟩
    rw [Prog.ite_apply]
    split
    · exact refuse_quiet hask hfalse
    · exact htrue _ hask
  · exact htrue _ hw

theorem stopNotification_quiet :
    (stopNotification dev u (some (.user succ)) (some (.user fail)) w).Safe quiet
      (fun b w' => w.Contract succ fail (.bool b) w') X := by
  refine ensureAdapterAvail_quiet (fun _ h => .inl ⟨rfl, h⟩) fun w1 hw => ?_
  simp only [ble_apply, Prog.bind_apply, Out.bind_done, Prog.ite_apply]
  split
  · exact refuse_quiet hw fun _ h => .inl ⟨rfl, h⟩
  · rw [safe_bind]
    refine getUUIDForCharOrFail_quiet hw (fun _ h => .inl ⟨rfl, h⟩) fun g w2 hw2 => ?_
    simp only [Prog.bind_apply, safe_bind]
    refine locked_quiet fun _ => ?_
    have hsame : w.Same { w2 with held := normalizeDeviceUUID dev :: w2.held } :=
      ⟨hw2.1, hw2.2, hw2.3, hw2.4⟩
    refine stopNotificationBlock_quiet hsame ?_ ?_
    · exact fun w' h => .inl ⟨rfl, h.1, h.2, h.3⟩
    · exact fun w' h => World.contract_report ⟨h.1, h.2, h.3, h.4⟩ (.inl rfl)

/-! ## The result -/

/-- The contract holds of the operation, called at `w` with two functions of the user: it
returns a Boolean, and whatever gattlib answers it does what it returned. -/
def Op.Keeps (op : Op) (w : World) (succ fail : Nat) : Prop :=
  ∀ a w', op.Returns w a w' → ∃ r, a = some r ∧ w.Contract succ fail r w'

theorem Op.contract_quiet {op : Op} (h : op.callbacks = some (some (.user succ), some (.user fail)))
    (hs : (∃ s disc, op = .scan s (some (.user succ)) disc (some (.user fail))) →
      w.ble.isScanning = false) :
    (op.run w).Safe quiet (fun r w' => w.Contract succ fail r w') fun _ => False := by
  cases op with
  | scan s _ disc =>
    cases h
    simp only [Op.run, Prog.bind_apply, safe_bind]
    exact scan_quiet (hs ⟨s, disc, rfl⟩)
  | stopScan =>
    cases h
    simp only [Op.run, Prog.bind_apply, safe_bind]
    exact stopScan_quiet
  | connect =>
    cases h
    simp only [Op.run, Prog.bind_apply, safe_bind]
    exact connect_quiet
  | disconnect =>
    cases h
    simp only [Op.run, Prog.bind_apply, safe_bind]
    exact disconnect_quiet
  | read =>
    cases h
    simp only [Op.run, Prog.bind_apply, safe_bind]
    exact read_quiet
  | write =>
    cases h
    simp only [Op.run, Prog.bind_apply, safe_bind]
    exact write_quiet
  | stopNotification =>
    cases h
    simp only [Op.run, Prog.bind_apply, safe_bind]
    exact stopNotification_quiet
  | isConnected =>
    cases h
    simp only [Op.run, Prog.bind_apply, safe_bind]
    exact reportIsConnected_quiet
  | isEnabled =>
    cases h
    simp only [Op.run, Prog.bind_apply, safe_bind]
    exact isEnabled_quiet
  | enable =>
    cases h
    simp only [Op.run, Prog.bind_apply, safe_bind]
    exact enable_quiet
  | _ => cases h

omit [Gattlib] in
/-- gattlib may open the adapter where it is closed, so that the operation goes on. -/
theorem ensureAdapterAvail_opens (w : World) : ∃ w1, w.Same w1 ∧ ∀ {fail : Callback}
    {rest : Ble Bool} {Q : Bool → World → Prop} {X : World → Prop},
    (ensureAdapterAvail fail rest w).Safe quiet Q X → (rest w1).Safe quiet Q X := by
  cases ho : w.ble.adapterIsOpen with
  | true =>
    refine ⟨w, .refl w, fun {fail rest Q X} h => ?_⟩
    simpa [ensureAdapterAvail, openAdapterIfRequired, ho] using h
  | false =>
    refine ⟨(w.asked (.adapterOpen none) (.adapter 0)).updateBle fun b =>
      { b with adapter := some 0, adapterName := "", adapterIsOpen := true }, ?_, ?_⟩
    · exact ⟨by simp, rfl, rfl, rfl⟩
    · intro fail rest Q X h
      simp only [ensureAdapterAvail, openAdapterIfRequired, adapterOpen, adapterOpenFresh, ble_apply,
        Prog.bind_apply, Out.bind_done, Prog.ite_apply, ho, Bool.false_eq_true, if_false,
        safe_bind, callOut_quiet] at h
      have h1 := h (.adapter 0)
      simpa [Resp.rc, Resp.adapter?] using h1

/-- `scan` while a scan is on returns true and queues nothing. -/
theorem scan_dropped {s : UInt16} {succ disc fail : Callback} (hs : w.ble.isScanning = true) :
    ∃ w', (Op.scan s succ disc fail).Returns w (some (.bool true)) w' ∧ w.Same w' := by
  by_contra hno
  have hsafe : ((Op.scan s succ disc fail).run w).Safe quiet
      (fun r w' => ¬ (r = .bool true ∧ w.Same w')) fun _ => True :=
    safe_of_exec fun a w' hx => by
      cases a with
      | none => exact trivial
      | some r =>
        rintro ⟨rfl, hw⟩
        exact hno ⟨w', hx, hw⟩
  simp only [Op.run, Prog.bind_apply, safe_bind] at hsafe
  obtain ⟨w1, hw, hrest⟩ := ensureAdapterAvail_opens w
  have hs1 : w1.ble.isScanning = true := hw.isScanning.trans hs
  have hend := hrest hsafe
  simp only [ble_apply, Prog.bind_apply, Out.bind_done, Prog.ite_apply, hs1, if_true,
    Prog.pure_apply, safe_done] at hend
  exact hend ⟨trivial, hw⟩

omit [Gattlib] in
/-- A call that has queued nothing must not return true. -/
theorem World.Same.not_contract {w w' : World} {succ fail : Nat} (hw : w.Same w') :
    ¬ w.Contract succ fail (.bool true) w' := by
  rintro (⟨hr, -⟩ | ⟨-, hc⟩)
  · cases hr
  · rcases hc.entry with ⟨q, a, hq, -, hs, -⟩ | ⟨cb, -, hrq, -⟩
    · have hlen := congrArg List.length hs
      rw [hw.asyncActions] at hq
      simp [hq] at hlen
    · rw [hw.reportQueue] at hrq
      simp at hrq

/-- **An operation keeps its contract** unless it is a `scan` while a scan is on: that returns
true and queues nothing. -/
theorem contract_kept (op : Op) (w : World) (succ fail : Nat)
    (h : op.callbacks = some (some (.user succ), some (.user fail))) :
    op.Keeps w succ fail ↔
      ¬ ((∃ s disc, op = .scan s (some (.user succ)) disc (some (.user fail))) ∧
        w.ble.isScanning = true) := by
  constructor
  · rintro hk ⟨⟨s, disc, rfl⟩, hs⟩
    obtain ⟨w', hx, hw⟩ := scan_dropped hs
    obtain ⟨r, hr, hc⟩ := hk _ w' hx
    cases hr
    exact hw.not_contract hc
  · intro hs a w' hx
    have hpost := hx.post (op.contract_quiet h fun hscan =>
      Bool.eq_false_iff.mpr fun ht => hs ⟨hscan, ht⟩)
    cases a with
    | none => exact hpost.elim
    | some r => exact ⟨r, rfl, hpost⟩

end

/-- A scan asked for before anything else is queued, or turned down. -/
theorem contract_kept_first :
    @Op.Keeps .sample (.scan 5 (some (.user 1)) (some (.user 3)) (some (.user 2))) .init 1 2 := by
  let _ := Gattlib.sample
  exact (contract_kept _ .init 1 2 rfl).mpr (by simp [World.init])

/-- A second scan is accepted and dropped: neither of its callbacks will ever be called. -/
theorem contract_kept_scanning : ∃ (c : Config World Call Resp Fault) (w' : World),
    @Reach .sample .any .init c ∧ c.fault = none ∧ c.stack = [] ∧
      @Op.Returns .sample (.scan 5 (some (.user 1)) (some (.user 3)) (some (.user 2))) c.s
        (some (.bool true)) w' ∧
      ¬ c.s.Contract 1 2 (.bool true) w' := by
  let _ := Gattlib.sample
  obtain ⟨c, hc, hP⟩ := (system .any).reach_of_run_any
    [.enter (.api (.scan 5 none none none)), .answer (.adapter 3)]
    (c := ⟨.init, [], none⟩)
    (P := fun c => c.fault.isNone && (c.stack.isEmpty && c.s.ble.isScanning)) (by decide)
  simp only [Bool.and_eq_true, Option.isNone_iff_eq_none, List.isEmpty_iff] at hP
  obtain ⟨w', hx, hw⟩ : ∃ w',
      (Op.scan 5 (some (.user 1)) (some (.user 3)) (some (.user 2))).Returns c.s
        (some (.bool true)) w' ∧ c.s.Same w' := scan_dropped hP.2.2
  exact ⟨c, w', hc, hP.1, hP.2.1, hx, hw.not_contract⟩

end

end Gattlibpp
