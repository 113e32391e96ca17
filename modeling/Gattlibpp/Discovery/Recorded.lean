import Gattlibpp.Act.Landing
import Gattlibpp.Report.Conservation

/-!
# Discovered devices have records

A discovery follows the pointer to the record of its device. Every step in the report queue
and every discovery call is for a device with a record, since no record is erased.
-/

namespace Gattlibpp

open Open

/-- The device a discovery call is for. -/
@[simp] def Call.onDevice : Call → Option UUID
  | .discoverPrimary dev _ | .discoverChar dev _ => some dev
  | _ => none

/-- The device that a discovery is asked or called for. -/
@[simp] def Obs.onDevice : Obs → Option UUID
  | .pushed op => op.onDevice
  | .call e => e.onDevice
  | _ => none

namespace World

/-- Every device that a discovery was asked or called for has a record. -/
def Recorded (w : World) : Prop := ∀ o ∈ w.log, ∀ dev ∈ o.onDevice, dev ∈ w.ble.devices

/-- No record is erased from `w` to `w'`, and what is asked or called for has one. -/
structure Registers (w w' : World) : Prop where
  keys : ∀ dev ∈ w.ble.devices, dev ∈ w'.ble.devices
  log : ∃ l, w'.log = w.log ++ l ∧ ∀ o ∈ l, ∀ dev ∈ o.onDevice, dev ∈ w'.ble.devices

variable {w w' w'' : World}

theorem Recorded.registers (h : w.Recorded) (hr : w.Registers w') : w'.Recorded := by
  obtain ⟨l, hl, hdev⟩ := hr.log
  intro o ho dev hd
  rw [hl] at ho
  rcases List.mem_append.mp ho with ho | ho
  · exact hr.keys dev (h o ho dev hd)
  · exact hdev o ho dev hd

namespace Registers

theorem trans (h : w.Registers w') (h' : w'.Registers w'') : w.Registers w'' := by
  obtain ⟨l, hl, hdev⟩ := h.log
  obtain ⟨l', hl', hdev'⟩ := h'.log
  refine ⟨fun dev hd => h'.keys dev (h.keys dev hd), l ++ l', ?_, fun o ho dev hd => ?_⟩
  · rw [hl', hl, List.append_assoc]
  · rcases List.mem_append.mp ho with ho | ho
    · exact h'.keys dev (hdev o ho dev hd)
    · exact hdev' o ho dev hd

/-- The records stay, and nothing is noted. -/
theorem of_eq (hd : w'.ble.devices = w.ble.devices) (hl : w'.log = w.log) : w.Registers w' :=
  ⟨fun dev h => by rwa [hd], [], by rw [hl, List.append_nil], by simp⟩

theorem noted (o : Obs) (hd : w'.ble.devices = w.ble.devices) (hl : w'.log = w.log ++ [o])
    (ho : ∀ dev ∈ o.onDevice, dev ∈ w.ble.devices) : w.Registers w' := by
  refine ⟨fun dev h => by rwa [hd], [o], hl, fun x hx dev h => ?_⟩
  rw [hd]
  exact ho dev (List.mem_singleton.mp hx ▸ h)

theorem updateDevice (dev : UUID) (f : Device.Details → Device.Details) :
    w.Registers (w.updateDevice dev f) :=
  ⟨fun _ h => Std.TreeMap.mem_modify.mpr h, [], (List.append_nil _).symm, by simp⟩

theorem report (op : QueuedOp) (h : ∀ dev ∈ op.onDevice, dev ∈ w.ble.devices) :
    w.Registers (w.report op) :=
  .noted (.pushed op) rfl rfl h

theorem invoke (cb : Callback) (arg : Arg) (role : Role) : w.Registers (w.invoke cb arg role) := by
  unfold World.invoke
  split
  · exact .noted _ rfl rfl (by simp)
  · exact .of_eq rfl rfl

theorem finish (how : Outcome) (t : ActionId) : w.Registers (w.finish how t) :=
  have hc : w.Registers (w.complete t) := .of_eq rfl rfl
  hc.trans (invoke ..)

theorem finishFront (how : Outcome) : w.Registers (w.finishFront how) := by
  unfold World.finishFront
  split
  · exact .of_eq rfl rfl
  · exact finish ..

theorem event (ev : Event) : w.Registers (ev.apply w) := by
  cases ev with
  | connected | disconnected => exact (updateDevice ..).trans (.of_eq rfl rfl)
  | _ => exact .of_eq rfl rfl

theorem trigger (t : ActionId) (tr : Trigger) : w.Registers (tr.apply w t) := by
  cases tr with
  | stopScanDone => exact finish ..
  | autodisconn => exact .of_eq rfl rfl
  | read | write =>
    simp only [Trigger.apply]
    split
    · exact .of_eq rfl rfl
    · exact .noted _ rfl rfl (by simp)
  | _ => exact .noted _ rfl rfl (by simp)

/-- A report that runs. -/
theorem ran {op : QueuedOp} (h : ∀ dev ∈ op.onDevice, dev ∈ w.ble.devices) :
    w.Registers (op.apply w) := by
  cases op with
  | callback | readData | notification => exact invoke ..
  | autoDiscoverServicesStep dev | autoDiscoverCharacteristicsStep dev =>
    exact .noted _ rfl rfl h
  | reportConnected => exact finishFront _

end Registers

end World

section
variable [Gattlib] {P : Policy} {w w' : World}

theorem World.Registers.services (dev : UUID) (r : Resp) : w.Registers (w.servicesStep dev r) := by
  unfold World.servicesStep
  split
  · exact .of_eq rfl rfl
  · exact .updateDevice ..

theorem World.Registers.chars (dev : UUID) (r : Resp) : w.Registers (w.charsStep dev r) := by
  unfold World.charsStep
  split
  · exact .updateDevice ..
  · exact (World.Registers.updateDevice ..).trans (.updateDevice ..)

/-- **Step lemma.** -/
theorem Act.registers (h : w.Recorded) (hlogged : w.Logged) (hc : w.Conserved) (ha : Act P w w') :
    w.Registers w' := by
  have hcall {e : Call} {cs : List Call} {dev : UUID} (hcs : w.calls = e :: cs)
      (he : dev ∈ e.onDevice) : dev ∈ w.ble.devices :=
    h (.call e) (hlogged e (by rw [hcs]; exact List.mem_cons_self)) dev he
  cases ha with
  | enter | raised | freed | eventReadNone => exact .noted _ rfl rfl (by simp)
  | event of ev how =>
    have hev : w.Registers (w.note (.enter (.event of ev))) := .noted _ rfl rfl (by simp)
    exact (hev.trans (.event ev)).trans (.finishFront how)
  | eventAuto of c _ _ hrec =>
    have hn : w.Registers (w.note (.enter (.event of (.connected (some c))))) :=
      .noted _ rfl rfl (by simp)
    have hev := hn.trans (.event (.connected (some c)))
    refine hev.trans (.report _ fun dev hd => ?_)
    cases hd
    exact hev.keys _ (Std.TreeMap.mem_iff_isSome_getElem?.mpr hrec)
  | eventRead of buf a =>
    have hn : w.Registers (w.note (.enter (.event of (.readChar (some buf))))) :=
      .noted _ rfl rfl (by simp)
    split
    · have hr := hn.trans (.report (.readData a.callbacks.datareceived buf a.id) (by simp))
      exact hr.trans (.of_eq rfl rfl)
    · exact hn.trans (.of_eq rfl rfl)
  | eventDiscovered of addr name =>
    have hn : w.Registers (w.note (.enter (.event of (.deviceDiscovered addr name)))) :=
      .noted _ rfl rfl (by simp)
    have hnamed : w.Registers ((w.note (.enter (.event of (.deviceDiscovered addr name)))).named
        (addr.getD "") (name.getD "")) := hn.trans (.of_eq rfl rfl)
    exact hnamed.trans (.invoke ..)
  | call e he =>
    refine .noted (.call e) rfl rfl ?_
    cases e <;> first | exact he.elim | simp
  | tick => exact .noted (.call .asyncProcessAll) rfl rfl (by simp)
  | back e r | takeReports r | adapterOpened name r | adapterClosed a r =>
    exact .noted (.ret _ r) rfl rfl (by simp)
  | refused e r cs t =>
    have hb : w.Registers (e.refusedApply (w.back e r)) := by
      refine .noted (.ret e r) ?_ ?_ (by simp) <;> cases e <;> rfl
    exact hb.trans (.finish ..)
  | ran op rest ts hts =>
    have hn : w.Registers ({ w with ticks := rest :: ts }.note (.ran op)) :=
      .noted (.ran op) rfl rfl (by simp)
    refine hn.trans (.ran fun dev hd => ?_)
    -- what runs was pushed
    obtain ⟨dropped, hperm, -⟩ := hc
    have hmem : op ∈ pushedOps w.log := hperm.mem_iff.mpr (by simp [World.reports, hts])
    obtain ⟨o, ho, hop⟩ := List.mem_filterMap.mp hmem
    cases o with
    | pushed op' =>
      cases hop
      exact h _ ho dev hd
    | _ => cases hop
  | trigger ts a =>
    have hn : w.Registers ({ w with ticks := ts }.start a.id) :=
      .noted (.triggered a.id) rfl rfl (by simp)
    exact hn.trans (.trigger ..)
  | pop => exact .noted (.popped _) rfl rfl (by simp)
  | services dev c r cs hcs =>
    have hr : w.Registers (w.back (.discoverPrimary dev c) r) := .noted (.ret _ r) rfl rfl (by simp)
    have hb := hr.trans (.services dev r)
    refine hb.trans (.report _ fun x hx => ?_)
    cases hx
    exact hb.keys _ (hcall hcs rfl)
  | chars dev c r =>
    have hr : w.Registers (w.back (.discoverChar dev c) r) := .noted (.ret _ r) rfl rfl (by simp)
    exact (hr.trans (.chars dev r)).trans (.report .reportConnected (by simp))
  | report cb => exact .report (.callback cb) (by simp)
  | notify dev u d buf => exact .report (.notification _ buf) (by simp)
  | endTick | wait | setAutoDiscover | setConnectionParameters | deviceName | lock | unlock =>
    exact .of_eq rfl rfl
  | inert _ hi => exact .of_eq hi.devices hi.log

omit [Gattlib] in
theorem Request.registers {op : Op} (hr : Request w op w') : w.Registers w' := by
  cases hr with
  | connect dev =>
    refine ⟨fun x hx => ?_, [_], rfl, by simp⟩
    change x ∈ (if (w.ble.deviceDetails dev).isNone then w.ble.devices.insert dev (.new dev)
      else w.ble.devices)
    split
    · exact Std.TreeMap.mem_insert.mpr (.inr hx)
    · exact hx
  | stopScanCancel succ fail a =>
    have hn : w.Registers ((w.complete a.id).note (.cancelled a.id)) :=
      .noted (.cancelled a.id) rfl rfl (by simp)
    exact hn.trans (.noted (.queued _) rfl rfl (by simp))
  | _ => exact .noted (.queued _) rfl rfl (by simp)

/-! ## Runs -/

structure Recorded (w : World) : Prop where
  recorded : w.Recorded
  logged : w.Logged
  conserved : w.Conserved

def recordedClaim (P : Policy) : Claim P where
  inv := Recorded
  crash _ _ := True
  act h ha := ⟨⟨h.recorded.registers (Act.registers h.recorded h.logged h.conserved ha),
    h.logged.act ha, h.conserved.step ha.reporting⟩, trivial⟩
  exit h _ := ⟨⟨h.recorded.registers (.noted _ rfl rfl (by simp)),
    fun e he => List.mem_append_left _ (h.logged e he),
    ((conservedClaim P).exit h.conserved fun _ _ _ _ _ _ => trivial).1⟩, trivial⟩
  drop hc h hts hl hop := ⟨⟨h.recorded, h.logged,
    ((conservedClaim P).drop hc h.conserved hts hl hop).1⟩, trivial⟩
  request {op w w'} h _ hr := by
    have hcalls : w'.calls = w.calls := by cases hr <;> rfl
    refine ⟨⟨h.recorded.registers hr.registers, fun e he => ?_,
      h.conserved.step (P := P) hr.reporting⟩, trivial⟩
    exact hr.kept.log.subset (h.logged e (hcalls ▸ he))
  freed _ _ _ _ _ _ := trivial
  missing _ _ _ _ _ _ _ _ := trivial
  other _ _ := trivial

namespace Recorded

variable {P : Policy} {w w' : World}

omit [Gattlib] in
theorem init : Recorded .init := ⟨by simp [World.Recorded, World.init],
  by simp [World.Logged, World.init], ⟨[], by simp [World.init, World.reports], fun _ => rfl⟩⟩

theorem subs (h : Recorded w) (hs : Subs P w w') : Recorded w' := by
  refine ⟨?_, ?_, h.conserved.step hs.reporting⟩
  · cases hs
    exact h.recorded.registers (.updateDevice ..)
  · cases hs
    exact h.logged

omit [Gattlib] in
/-- A report that waits was pushed, so its device has a record. -/
theorem report (h : Recorded w) {op : QueuedOp} (hop : op ∈ w.reports) {dev : UUID}
    (hdev : op.onDevice = some dev) : dev ∈ w.ble.devices := by
  obtain ⟨dropped, hperm, -⟩ := h.conserved
  have hmem : op ∈ pushedOps w.log := hperm.mem_iff.mpr (List.mem_append_right _ hop)
  obtain ⟨o, ho, hpush⟩ := List.mem_filterMap.mp hmem
  cases o with
  | pushed op' =>
    cases hpush
    exact h.recorded _ ho dev hdev
  | _ => cases hpush

end Recorded

theorem recordedClaim_notifies (P : Policy) : (recordedClaim P).Notifies := by
  refine .of_subs (fun {w w'} h hs => ⟨⟨?_, ?_, h.conserved.step hs.reporting⟩, trivial⟩)
    fun _ _ _ => trivial
  · cases hs
    exact h.recorded.registers (.updateDevice ..)
  · cases hs
    exact h.logged

/-- **A discovery finds its record.** -/
theorem recorded_reach {P : Policy} {c : Config World Call Resp Fault} (h : Reach P .init c)
    (hf : c.fault = none) : ∀ op ∈ c.s.ble.reportQueue, ∀ dev ∈ op.onDevice,
      dev ∈ c.s.ble.devices := by
  have h0 : Recorded .init := ⟨by simp [World.Recorded, World.init],
    by simp [World.Logged, World.init], ⟨[], by simp [World.init, World.reports], fun _ => rfl⟩⟩
  have hr := Claim.reach (recordedClaim_notifies P) trivial h0 h hf
  obtain ⟨dropped, hperm, -⟩ := hr.conserved
  intro op hop dev hd
  have hmem : op ∈ pushedOps c.s.log := hperm.mem_iff.mpr (by simp [World.reports, hop])
  obtain ⟨o, ho, hpush⟩ := List.mem_filterMap.mp hmem
  cases o with
  | pushed op' =>
    cases hpush
    exact hr.recorded _ ho dev hd
  | _ => cases hpush

end

end Gattlibpp
