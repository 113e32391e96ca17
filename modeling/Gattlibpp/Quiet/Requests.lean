import Gattlibpp.Quiet.Basic

/-!
# Accepted requests

A scan, a stopScan or a connect that returns true has, when it is called undisturbed, at most
opened the adapter and then made its request.
-/

namespace Gattlibpp

open Open

section
variable {w : World} {X : World → Prop}

/-- Calling a function of the user or a `doneCb`, where nothing is asked of the state after. -/
theorem triggerCbIfSet_returns {cb : Callback} {Q : Unit → World → Prop} (hQ : ∀ w', Q () w') :
    (triggerCbIfSet cb w).Safe quiet Q X := by
  cases cb with
  | none => exact hQ w
  | some f =>
    cases f with
    | user id =>
      simp only [triggerCbIfSet, user_quiet]
      exact fun r => hQ _
    | debugPrint => exact hQ w
    | doneCb frame =>
      simp only [triggerCbIfSet, Callback.invokeIfSet, Fn.invoke, doneCb, adapterClose, ble_apply,
        Prog.bind_apply, Out.bind_done, Prog.ite_apply, Prog.pure_apply]
      split
      · simp only [Prog.bind_apply, Prog.get_apply, Out.bind_done, Prog.ite_apply]
        split
        · exact hQ _
        · exact trivial
      · simp only [safe_bind, callOut_quiet, update_apply, Prog.bind_apply, Out.bind_done,
          Prog.pure_apply, Prog.get_apply, Prog.ite_apply, safe_done]
        intro r
        split
        · exact hQ _
        · exact trivial

/-- The request is turned down. -/
theorem refuse_granted {failcb : Callback} {Q : Bool → World → Prop} (hfalse : ∀ w', Q false w') :
    ((do triggerCbIfSet failcb; return false : Ble Bool) w).Safe quiet Q X := by
  rw [Prog.bind_apply, safe_bind]
  exact triggerCbIfSet_returns fun w' => hfalse w'

/-- The head of an operation: what follows runs with the adapter open. -/
theorem ensureAdapterAvail_granted {failcb : Callback} {rest : Ble Bool} {Q : Bool → World → Prop}
    (hfalse : ∀ w', Q false w')
    (hk : ∀ w', w.Opened w' → w'.ble.adapterIsOpen = true → (rest w').Safe quiet Q X) :
    (ensureAdapterAvail failcb rest w).Safe quiet Q X := by
  simp only [ensureAdapterAvail, openAdapterIfRequired, adapterOpen, ble_apply, Prog.bind_apply,
    Out.bind_done, Prog.ite_apply, Prog.pure_apply]
  split
  · rename_i hopen
    exact hk w ⟨rfl, rfl, rfl, rfl, rfl, rfl, rfl, rfl, rfl, List.prefix_rfl⟩ hopen
  · simp only [adapterOpenFresh, Prog.bind_apply, safe_bind, callOut_quiet, Prog.ite_apply]
    intro r
    split
    · exact refuse_granted hfalse
    · refine hk _ ⟨rfl, rfl, rfl, rfl, rfl, rfl, rfl, rfl, rfl, ?_⟩ rfl
      simp

/-- The adapter is opened at most, and then the request is made. -/
def World.Requested (op : Op) (w w' : World) : Prop := ∃ w1, w.Opened w1 ∧ Request w1 op w'

theorem stopScan_granted {succ fail : Callback} : (stopScan succ fail w).Safe quiet
    (fun b w' => b = true → w.Requested (.stopScan succ fail) w') X := by
  refine ensureAdapterAvail_granted (fun _ => nofun) fun w1 hw hopen => ?_
  simp only [ble_apply, Prog.bind_apply, Out.bind_done, Prog.ite_apply]
  split
  · rename_i hs
    exact fun _ => ⟨w1, hw, .stopScanDone succ fail hopen (by simpa using hs)⟩
  · rename_i hs
    have hs : w1.ble.isScanning = true := by simpa using hs
    cases hq : w1.ble.asyncActions with
    | nil =>
      exact fun _ => ⟨w1, hw, .stopScan succ fail hopen hs fun a h => by simp [World.front, hq] at h⟩
    | cons front rest =>
      have hf : w1.front = some front := by rw [World.front, hq]; rfl
      simp only [Prog.ite_apply]
      split
      · rename_i hc
        have hrun : front.state = .triggered := by simpa [AsyncAction.Details.isRunning] using hc.1
        have ha : w1.action front.id = some front := by simp [World.action, hq]
        simp only [AsyncAction.cancelWithoutCallback, AsyncAction.markCompleted, AsyncAction.deref,
          Prog.bind_apply, Prog.get_apply, Out.bind_done, ha, Prog.pure_apply]
        exact fun _ => ⟨w1, hw, .stopScanCancel succ fail front hopen hs hf hrun hc.2⟩
      · rename_i hc
        refine fun _ => ⟨w1, hw, .stopScan succ fail hopen hs fun a h => ?_⟩
        rw [hf] at h
        cases h
        exact hc

theorem connect_granted {dev : UUID} {p : Option ConnectionParams} {succ fail : Callback} :
    (connect dev p succ fail w).Safe quiet
      (fun b w' => b = true → w.Requested (.connect dev p succ fail) w') X := by
  refine ensureAdapterAvail_granted (fun _ => nofun) fun w1 hw hopen => ?_
  simp only [ble_apply, Prog.bind_apply, Out.bind_done]
  simp only [ble_apply, Prog.bind_apply, Out.bind_done, Prog.ite_apply]
  split
  · exact refuse_granted fun _ => nofun
  · rename_i hc
    have hc : w1.ble.isConnected dev = false := by simpa [normalizeDeviceUUID] using hc
    have hr := Request.connect dev p succ fail hopen hc
    simp only [World.updateBle] at hr
    split
    · rename_i hd
      rw [if_pos (show (w1.ble.deviceDetails dev).isNone = true from hd)] at hr
      exact fun _ => ⟨w1, hw, hr⟩
    · rename_i hd
      rw [if_neg (show ¬ (w1.ble.deviceDetails dev).isNone = true from hd)] at hr
      exact fun _ => ⟨w1, hw, hr⟩

/-- A scan is dropped where a scan is on. -/
theorem scan_granted {runSeconds : UInt16} {succ disc fail : Callback}
    (hs : w.ble.isScanning = false) : (scan runSeconds succ disc fail w).Safe quiet
      (fun b w' => b = true → w.Requested (.scan runSeconds succ disc fail) w') X := by
  refine ensureAdapterAvail_granted (fun _ => nofun) fun w1 hw hopen => ?_
  have hs1 : w1.ble.isScanning = false := hw.isScanning.trans hs
  have hr := Request.scan runSeconds succ disc fail hopen hs1
  simp only [ble_apply, Prog.bind_apply, Out.bind_done, Prog.ite_apply, hs1, Bool.false_eq_true,
    if_false]
  -- the action the source builds for a connected device is dropped
  split
  · cases w1.ble.deviceDetails w1.ble.connectedTo with
    | none => exact fun _ => ⟨w1, hw, hr⟩
    | some dets =>
      simp only [Prog.ite_apply]
      split <;> exact fun _ => ⟨w1, hw, hr⟩
  · exact fun _ => ⟨w1, hw, hr⟩

end

section
variable [Gattlib] {w w' : World}

/-- A call that returned true has made its request. -/
theorem Op.Called.requested {op : Op} (h : op.Called w (.bool true) w')
    (hop : (op.run (w.note (.enter (.api op)))).Safe quiet
      (fun r w' => r = .bool true → (w.note (.enter (.api op))).Requested op w') fun _ => True) :
    ∃ w1, (w.note (.enter (.api op))).Requested op w1 ∧
      w' = w1.note (.exit (.api op) (.bool true)) := by
  obtain ⟨w1, hx, rfl⟩ := h
  exact ⟨w1, hx.post hop rfl, rfl⟩

theorem stopScan_requested {succ fail : Callback}
    (h : (Op.stopScan succ fail).Called w (.bool true) w') :
    ∃ w1, (w.note (.enter (.api (.stopScan succ fail)))).Requested (.stopScan succ fail) w1 ∧
      w' = w1.note (.exit (.api (.stopScan succ fail)) (.bool true)) := by
  refine h.requested ?_
  simp only [Op.run, Prog.bind_apply, safe_bind]
  refine (stopScan_granted (X := fun _ => True)).mono (fun b w1 hb hr => ?_) fun _ _ => trivial
  exact hb (Ret.bool.inj hr)

theorem connect_requested {dev : UUID} {p : Option ConnectionParams} {succ fail : Callback}
    (h : (Op.connect dev p succ fail).Called w (.bool true) w') :
    ∃ w1, (w.note (.enter (.api (.connect dev p succ fail)))).Requested
        (.connect dev p succ fail) w1 ∧
      w' = w1.note (.exit (.api (.connect dev p succ fail)) (.bool true)) := by
  refine h.requested ?_
  simp only [Op.run, Prog.bind_apply, safe_bind]
  refine (connect_granted (X := fun _ => True)).mono (fun b w1 hb hr => ?_) fun _ _ => trivial
  exact hb (Ret.bool.inj hr)

theorem scan_requested {runSeconds : UInt16} {succ disc fail : Callback}
    (hs : w.ble.isScanning = false)
    (h : (Op.scan runSeconds succ disc fail).Called w (.bool true) w') :
    ∃ w1, (w.note (.enter (.api (.scan runSeconds succ disc fail)))).Requested
        (.scan runSeconds succ disc fail) w1 ∧
      w' = w1.note (.exit (.api (.scan runSeconds succ disc fail)) (.bool true)) := by
  refine h.requested ?_
  simp only [Op.run, Prog.bind_apply, safe_bind]
  have hs1 : (w.note (.enter (.api (.scan runSeconds succ disc fail)))).ble.isScanning = false := hs
  refine (scan_granted (X := fun _ => True) hs1).mono (fun b w1 hb hr => ?_) fun _ _ => trivial
  exact hb (Ret.bool.inj hr)

end

end Gattlibpp
