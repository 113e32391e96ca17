import Gattlibpp.Act.Effects

/-!
# Requests are acts

The operations that queue an action do so by one `Request`, and all of them are
safe for every claim.
-/

namespace Gattlibpp

open Open

/-- A request makes a new record at most. -/
theorem Request.record {w w' : World} {op : Op} (h : Request w op w') (e : UUID) :
    w'.ble.devices[e]? = w.ble.devices[e]? ∨
      w.ble.devices[e]? = none ∧ w'.ble.devices[e]? = some (.new e) := by
  cases h with
  | connect dev p succ fail =>
    simp only [World.enqueue, World.updateBle_ble]
    split
    · rename_i hnone
      simp only [BLECentral.deviceDetails, normalizeDeviceUUID, Option.isNone_iff_eq_none] at hnone
      rw [Std.TreeMap.getElem?_insert]
      split
      · rename_i he
        obtain rfl : dev = e := Std.LawfulEqOrd.eq_of_compare he
        exact .inr ⟨hnone, rfl⟩
      · exact .inl rfl
    · exact .inl rfl
  | _ => exact .inl rfl

theorem Request.kept {w w' : World} {op : Op} (h : Request w op w') : Kept w w' := by
  have hrec (dev : UUID) (hd : (w.ble.devices[dev]?).isSome) : (w'.ble.devices[dev]?).isSome := by
    rcases h.record dev with he | ⟨hno, -⟩
    · rwa [he]
    · rw [hno] at hd
      cases hd
  cases h with
  | stopScanCancel =>
    rename_i a _ _ _ _ _
    have hk : Kept w ((w.complete a.id).note (.cancelled a.id)) :=
      (Kept.updateAction ..).trans (.note ..)
    exact ⟨rfl, rfl, rfl, (hk.trans (.enqueue ..)).log, hrec, (hk.trans (.enqueue ..)).callers⟩
  | _ => exact ⟨rfl, rfl, rfl, List.prefix_append .., hrec, callers_inner w.log rfl⟩

theorem BLECentral.record_of_connected (b : BLECentral) {dev : UUID} (h : b.isConnected dev = true) :
    (b.devices[dev]?).isSome := by
  obtain ⟨d, hd, -⟩ := (b.isConnected_iff dev).mp h
  rw [hd]
  rfl

section
variable [Gattlib]

namespace Claim

variable {P : Policy} {C : Claim P} {Q : Bool → World → Prop} {X : World → Prop}

theorem Calm.request {w w' : World} {op : Op} (h : C.inv w) (ho : Origin P C.inv op w)
    (hr : Request w op w') : C.Calm w w' :=
  ⟨⟨(C.request h ho hr).1, hr.kept, (C.request h ho hr).2⟩, C.calm_request hr⟩

/-- A request comes from a known origin wherever the head of the operation leaves it. -/
structure Comes (C : Claim P) (op : Op) (w : World) : Prop where
  origin : ∀ w', w.log <+: w'.log → (P.OpensQuietly → w.Readied w') → Origin P C.inv op w'
  fair : ∀ cb ∈ op.functionsFor .refused, C.Fair w cb

/-- A request is turned down. -/
theorem refuse_safe {fail : Callback} {w w1 : World} (hw : C.Calm w w1) (hf : C.Fair w fail)
    (hk : ∀ b w', C.Calm w w' → Q b w') :
    ((do triggerCbIfSet fail; return false : Ble Bool) w1).Safe C.rules Q X := by
  rw [Prog.bind_apply, safe_bind]
  exact triggerCbIfSet_safe hw.inv (hf.mono hw.rel.kept.log) fun w2 hw2 => hk _ _ (hw.trans hw2)

/-! ## Scanning -/

theorem scan_safe {runSeconds : UInt16} {succ disc fail : Callback} {w : World} (h : C.inv w)
    (ho : C.Comes (.scan runSeconds succ disc fail) w) (hk : ∀ b w', C.Calm w w' → Q b w') :
    (scan runSeconds succ disc fail w).Safe C.rules Q X := by
  have hf : C.Fair w fail := ho.fair fail (by simp [Op.functionsFor])
  refine ensureAdapterAvail_safe h hf (hk false) fun w1 hw hopen hq => ?_
  have ho1 := ho.origin w1 hw.rel.kept.log hq
  simp only [ble_apply, Prog.bind_apply, Out.bind_done, Prog.ite_apply, Prog.pure_apply]
  split
  · exact hk _ _ hw
  · rename_i hs
    have hr := hk true _ (hw.trans (.request hw.inv ho1
      (.scan runSeconds succ disc fail hopen (by simpa using hs))))
    -- the action the source builds for a connected device is dropped
    split
    · cases w1.ble.deviceDetails w1.ble.connectedTo with
      | none => exact hr
      | some dets =>
        simp only [Prog.ite_apply]
        split <;> exact hr
    · exact hr

theorem stopScan_safe {succ fail : Callback} {w : World} (h : C.inv w)
    (ho : C.Comes (.stopScan succ fail) w) (hk : ∀ b w', C.Calm w w' → Q b w') :
    (stopScan succ fail w).Safe C.rules Q X := by
  have hf : C.Fair w fail := ho.fair fail (by simp [Op.functionsFor])
  refine ensureAdapterAvail_safe h hf (hk false) fun w1 hw hopen hq => ?_
  have ho1 := ho.origin w1 hw.rel.kept.log hq
  have hr {w' : World} (hr : Request w1 (.stopScan succ fail) w') : Q true w' :=
    hk true _ (hw.trans (.request hw.inv ho1 hr))
  simp only [ble_apply, Prog.bind_apply, Out.bind_done, Prog.ite_apply]
  split
  · rename_i hs
    exact hr (.stopScanDone succ fail hopen (by simpa using hs))
  · rename_i hs
    have hs : w1.ble.isScanning = true := by simpa using hs
    cases hf : w1.ble.asyncActions with
    | nil => exact hr (.stopScan succ fail hopen hs fun a h => by simp [World.front, hf] at h)
    | cons front rest =>
      have hfront : w1.front = some front := by rw [World.front, hf]; rfl
      simp only [Prog.ite_apply]
      split
      · rename_i hc
        have hrun : front.state = .triggered := by simpa [AsyncAction.Details.isRunning] using hc.1
        have ha : w1.action front.id = some front := by simp [World.action, hf]
        simp only [AsyncAction.cancelWithoutCallback, AsyncAction.markCompleted,
          AsyncAction.deref, Prog.bind_apply, Prog.get_apply, Out.bind_done, ha, Prog.pure_apply]
        exact hr (.stopScanCancel succ fail front hopen hs hfront hrun hc.2)
      · rename_i hc
        exact hr (.stopScan succ fail hopen hs fun a h => by
          rw [hfront] at h
          cases h
          exact hc)

/-! ## Connections -/

theorem connect_safe {dev : UUID} {p : Option ConnectionParams} {succ fail : Callback}
    {w : World} (h : C.inv w) (ho : C.Comes (.connect dev p succ fail) w)
    (hk : ∀ b w', C.Calm w w' → Q b w') : (connect dev p succ fail w).Safe C.rules Q X := by
  have hf : C.Fair w fail := ho.fair fail (by simp [Op.functionsFor])
  refine ensureAdapterAvail_safe h hf (hk false) fun w1 hw hopen hq => ?_
  have ho1 := ho.origin w1 hw.rel.kept.log hq
  simp only [ble_apply, Prog.bind_apply, Out.bind_done]
  simp only [ble_apply, Prog.ite_apply, Prog.bind_apply, Out.bind_done]
  split
  · exact refuse_safe hw hf hk
  · rename_i hc
    have hc : w1.ble.isConnected dev = false := by simpa [normalizeDeviceUUID] using hc
    have hr := hk true _ (hw.trans (.request hw.inv ho1 (.connect dev p succ fail hopen hc)))
    simp only [World.updateBle] at hr
    split
    · rename_i hd
      rw [if_pos (show (w1.ble.deviceDetails dev).isNone = true from hd)] at hr
      exact hr
    · rename_i hd
      rw [if_neg (show ¬ (w1.ble.deviceDetails dev).isNone = true from hd)] at hr
      exact hr

theorem disconnect_safe {dev : UUID} {succ fail : Callback} {w : World} (h : C.inv w)
    (ho : C.Comes (.disconnect dev succ fail) w) (hk : ∀ b w', C.Calm w w' → Q b w') :
    (Gattlibpp.disconnect dev succ fail w).Safe C.rules Q X := by
  have hf : C.Fair w fail := ho.fair fail (by simp [Op.functionsFor])
  refine ensureAdapterAvail_safe h hf (hk false) fun w1 hw hopen hq => ?_
  have ho1 := ho.origin w1 hw.rel.kept.log hq
  simp only [ble_apply, Prog.bind_apply, Out.bind_done, Prog.ite_apply]
  split
  · exact refuse_safe hw hf hk
  · rename_i hc
    exact hk true _ (hw.trans (.request hw.inv ho1
      (.disconnect dev succ fail hopen (by simpa using hc))))

/-! ## Reading and writing -/

/-- The lookup of a characteristic: where it succeeds it changes nothing. -/
theorem getUUIDForCharOrFail_safe {dev u : UUID} {opSupp : Characteristic.Details → Bool}
    {fail : Callback} {w : World} {Q : Option GlUuid → World → Prop} (h : C.inv w)
    (he : C.Entered w) (hf : C.Fair w fail) (hrec : (w.ble.devices[dev]?).isSome)
    (hnone : ∀ w', C.Calm w w' → Q none w')
    (hdone : ∀ d c, w.ble.devices[dev]? = some d → d.discoveryDone = true →
      d.characteristic u = some c → opSupp c = true → Q (some c.glUuid) w)
    (hblind : ∀ d g, w.ble.devices[dev]? = some d → d.discoveryDone = false →
      Gattlib.stringToUuid u = some g → Q (some g) w) :
    (getUUIDForCharOrFail dev u opSupp fail w).Safe C.rules Q X := by
  have hfail {w : World} {Q : Option GlUuid → World → Prop} {X : World → Prop} (h : C.inv w)
      (hf : C.Fair w fail) (hnone : ∀ w', C.Calm w w' → Q none w') :
      ((do triggerCbIfSet fail; return none : Ble (Option GlUuid)) w).Safe C.rules Q X := by
    rw [Prog.bind_apply, safe_bind]
    exact triggerCbIfSet_safe h hf hnone
  simp only [getUUIDForCharOrFail, Prog.bind_apply, safe_bind]
  refine record_safe hrec fun d hd => ?_
  rw [Prog.ite_apply]
  split
  · rename_i hdd
    refine locked_safe h he fun wl hl hwl _ => ?_
    have hdl : wl.ble.devices[dev]? = some d := by rw [hwl]; exact hd
    have hfl : C.Fair wl fail := hf.mono (hwl ▸ List.prefix_rfl)
    have hsub {w' : World} (hw : C.Calm wl w') :
        C.Calm wl w' ∧ (C.Calm w { w' with held := w.held } → Q none { w' with held := w.held }) :=
      ⟨hw, fun hw' => hnone _ hw'⟩
    simp only [Prog.bind_apply, safe_bind]
    refine record_safe (hdl ▸ rfl) fun d' hd' => ?_
    rw [hdl] at hd'
    cases hd'
    cases hc : d.characteristic u with
    | none => exact hfail hl hfl fun w' hw => hsub hw
    | some c =>
      simp only [Prog.ite_apply]
      split
      · exact hfail hl hfl fun w' hw => hsub hw
      · rename_i hs
        refine ⟨.refl hl, fun _ => ?_⟩
        rw [hwl]
        exact hdone d c hd hdd hc (by simpa using hs)
  · rename_i hdd
    cases hg : Gattlib.stringToUuid u with
    | none => exact hfail h hf hnone
    | some g => exact hblind d g hd (by simpa using hdd) hg

/-- The lookup and the queueing of a read or a write. -/
theorem lookup_safe {op : Op} {dev u : UUID} {opSupp : Characteristic.Details → Bool}
    {fail : Callback} {w1 : World} {act : Device.CharRef → AsyncAction.Details} (h : C.inv w1)
    (he : C.Entered w1) (hf : C.Fair w1 fail) (ho : Origin P C.inv op w1)
    (hop : op.lookup = some (dev, u))
    (hconn : w1.ble.isConnected dev = true)
    (hreq : ∀ d, w1.ble.devices[dev]? = some d → d.hasCharacteristic u = true →
      Request w1 op (w1.enqueue (act (d.charRef u))))
    (hk : ∀ b w', C.Calm w1 w' → Q b w') :
    (((do
      match ← getUUIDForCharOrFail dev u opSupp fail with
      | none => return false
      | some _ =>
        let charDets ← characteristicRef dev u
        queueAsyncAction (act charDets)
        return true) : Ble Bool) w1).Safe C.rules Q X := by
  simp only [Prog.bind_apply, safe_bind]
  have hqueue (d : Device.Details) (hd : w1.ble.devices[dev]? = some d)
      (hm : d.hasCharacteristic u = false → C.crash w1 .endIterator) :
      (((do
        let charDets ← characteristicRef dev u
        queueAsyncAction (act charDets)
        return true) : Ble Bool) w1).Safe C.rules Q X := by
    simp only [characteristicRef, Prog.bind_apply, safe_bind]
    refine record_safe (hd ▸ rfl) fun d' hd' => ?_
    rw [hd] at hd'
    cases hd'
    simp only [Prog.ite_apply, Prog.pure_apply, Prog.halt_apply]
    split
    · rename_i hhas
      exact hk true _ (.request h ho (hreq d hd hhas))
    · rename_i hhas
      exact hm (by simpa using hhas)
  have hrec := w1.ble.record_of_connected hconn
  refine getUUIDForCharOrFail_safe h he hf hrec (hk false) (fun d c hd hdd hc _ => ?_)
    fun d g hd hdd hg => ?_
  · refine hqueue d hd fun hn => ?_
    simp [Device.Details.hasCharacteristic, Device.Details.characteristic] at hn hc
    rw [Std.TreeMap.contains_eq_isSome_getElem?, hc] at hn
    cases hn
  · exact hqueue d hd fun hn => C.missing h ho hop hd hconn hdd (by rw [hg]; rfl) hn

theorem read_safe {dev u : UUID} {inData fail : Callback} {w : World} (h : C.inv w)
    (he : C.Entered w) (ho : C.Comes (.read dev u inData fail) w) (hk : ∀ b w', C.Calm w w' → Q b w') :
    (read dev u inData fail w).Safe C.rules Q X := by
  have hf : C.Fair w fail := ho.fair fail (by simp [Op.functionsFor])
  refine ensureAdapterAvail_safe h hf (hk false) fun w1 hw hopen hq => ?_
  have ho1 := ho.origin w1 hw.rel.kept.log hq
  simp only [ble_apply, Prog.bind_apply, Out.bind_done, Prog.ite_apply]
  split
  · exact refuse_safe hw hf hk
  · rename_i hc
    have hc : w1.ble.isConnected dev = true := by simpa using hc
    exact lookup_safe hw.inv (he.mono hw.rel.kept) (hf.mono hw.rel.kept.log) ho1 rfl hc
      (fun d hd hhas => .read dev u d inData fail hopen hc hd hhas)
      fun b w' hw' => hk b w' (hw.trans hw')

theorem write_safe {dev u : UUID} {value : BinaryBuffer} {succ fail : Callback} {w : World}
    (h : C.inv w) (he : C.Entered w) (ho : C.Comes (.write dev u value succ fail) w)
    (hk : ∀ b w', C.Calm w w' → Q b w') : (write dev u value succ fail w).Safe C.rules Q X := by
  have hf : C.Fair w fail := ho.fair fail (by simp [Op.functionsFor])
  refine ensureAdapterAvail_safe h hf (hk false) fun w1 hw hopen hq => ?_
  have ho1 := ho.origin w1 hw.rel.kept.log hq
  simp only [ble_apply, Prog.bind_apply, Out.bind_done, Prog.ite_apply]
  split
  · exact refuse_safe hw hf hk
  · rename_i hc
    have hc : w1.ble.isConnected dev = true := by simpa using hc
    exact lookup_safe hw.inv (he.mono hw.rel.kept) (hf.mono hw.rel.kept.log) ho1 rfl hc
      (fun d hd hhas => .write dev u d value succ fail hopen hc hd hhas)
      fun b w' hw' => hk b w' (hw.trans hw')

/-! ## Reports -/

theorem report_safe {cb : Callback} {w w1 : World} (hP : P.Reports w1 cb) (hw : C.Calm w w1)
    (hk : ∀ b w', C.Calm w w' → Q b w') :
    ((do pushReport (.callback cb); return true : Ble Bool) w1).Safe C.rules Q X :=
  hk true _ (hw.trans (.act hw.inv (fun _ => .report cb hP) (.report ..)))

theorem reportIsConnected_safe {dev : UUID} {succ fail : Callback} {w w0 : World}
    (hm : P.enter w0 (.api (.isConnected dev succ fail)))
    (hl : w0.log ++ [.enter (.api (.isConnected dev succ fail))] <+: w.log)
    (hd : w.ble.devices = w0.ble.devices) (hf : C.Fair w fail) (h : C.inv w)
    (hk : ∀ b w', C.Calm w w' → Q b w') :
    (reportIsConnected dev succ fail w).Safe C.rules Q X := by
  refine ensureAdapterAvail_safe h hf (hk false) fun w1 hw _ ho => ?_
  have hP {cb : Callback} (hcb : cb = if w1.ble.isConnected dev then succ else fail) :
      P.Reports w1 cb :=
    ⟨w0, _, hm, hl.trans hw.rel.kept.log, hcb, fun _ _ _ _ hq => (ho hq).devices.trans hd, by simp⟩
  simp only [ble_apply, Prog.bind_apply, Out.bind_done, Prog.ite_apply]
  split
  · rename_i hc
    exact report_safe (hP (by rw [if_pos hc])) hw hk
  · rename_i hc
    exact report_safe (hP (by rw [if_neg hc])) hw hk

theorem isEnabled_safe {succ fail : Callback} {w w0 : World}
    (hm : P.enter w0 (.api (.isEnabled succ fail)))
    (hl : w0.log ++ [.enter (.api (.isEnabled succ fail))] <+: w.log) (hf : C.Fair w fail)
    (h : C.inv w) (hk : ∀ b w', C.Calm w w' → Q b w') : (isEnabled succ fail w).Safe C.rules Q X :=
  ensureAdapterAvail_safe h hf (hk false) fun _ hw _ _ =>
    report_safe ⟨w0, _, hm, hl.trans hw.rel.kept.log, rfl, by simp, by simp⟩ hw hk

theorem enable_safe {succ fail : Callback} {w w0 : World}
    (hm : P.enter w0 (.api (.enable succ fail)))
    (hl : w.log = w0.log ++ [.enter (.api (.enable succ fail))]) (hf : C.Fair w fail) (h : C.inv w)
    (hk : ∀ b w', C.Calm w w' → Q b w') : (enable succ fail w).Safe C.rules Q X := by
  refine ensureAdapterAvail_safe h hf (hk false) fun w1 hw _ ho => ?_
  simp only [ble_apply, Prog.bind_apply, Out.bind_done, safe_bind]
  refine asked_safe hw.inv rfl (by simp [Call.notifies]) rfl (fun _ => .inl rfl)
    fun r w2 hw2 hans hcallers _ => ?_
  have hcalm := hw.trans hw2
  have hreports {cb : Callback} (hcb : cb = succ ∨ cb = fail)
      (hr : cb = if r.rc ≠ 0 then succ else fail) :
      P.Reports (w2.back (.adapterPowered w1.ble.adapter) r) cb := by
    refine ⟨w0, _, hm, hl ▸ hcalm.rel.kept.log, hcb, by simp, ?_⟩
    rintro _ _ ⟨⟩ hq
    refine ⟨w2, _, r, hans, ?_, hr⟩
    rw [hcallers, (ho hq).inProgress, hl, inProgress_enter]
    rfl
  rw [Prog.ite_apply]
  split
  · rename_i hrc
    exact report_safe (hreports (.inl rfl) (if_pos hrc).symm) hcalm hk
  · rename_i hrc
    exact report_safe (hreports (.inr rfl) (if_neg hrc).symm) hcalm hk

end Claim

end

end Gattlibpp
