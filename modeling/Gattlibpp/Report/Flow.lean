import Mathlib.Data.List.Perm.Basic
import Gattlibpp.Act.Wrote
import Gattlibpp.Queue.Life

/-!
# The reports

What is pushed on the report queue, what the ticks take of it and what they run. Each act
pushes at the end of the queue, takes the whole of it, or runs the first report of the tick
in progress.
-/

namespace Gattlibpp

open Open
open scoped List

/-! ## What the log says about reports -/

namespace Obs

@[simp] def pushedOp : Obs → Option QueuedOp
  | pushed op => some op
  | _ => none

@[simp] def ranOp : Obs → Option QueuedOp
  | ran op => some op
  | _ => none

/-- A tick takes the reports. -/
@[simp] def takes : Obs → Bool
  | ret .asyncProcessAll _ => true
  | _ => false

end Obs

/-- The reports pushed, in order. -/
def pushedOps (log : List Obs) : List QueuedOp := log.filterMap Obs.pushedOp

/-- The reports run, in order. -/
def ranOps (log : List Obs) : List QueuedOp := log.filterMap Obs.ranOp

/-- How often a tick has taken the reports. -/
def takes (log : List Obs) : Nat := log.countP Obs.takes

/-- An entry about anything but reports. -/
def Obs.Unreported (o : Obs) : Prop := o.pushedOp = none ∧ o.ranOp = none ∧ o.takes = false

section
variable {l l' : List Obs}

@[simp] theorem pushedOps_append : pushedOps (l ++ l') = pushedOps l ++ pushedOps l' :=
  List.filterMap_append

@[simp] theorem ranOps_append : ranOps (l ++ l') = ranOps l ++ ranOps l' := List.filterMap_append

@[simp] theorem takes_append : takes (l ++ l') = takes l + takes l' := List.countP_append

@[simp] theorem pushedOps_nil : pushedOps [] = [] := rfl

@[simp] theorem ranOps_nil : ranOps [] = [] := rfl

@[simp] theorem takes_nil : takes [] = 0 := rfl

@[simp] theorem pushedOps_cons (o : Obs) : pushedOps (o :: l) = o.pushedOp.toList ++ pushedOps l := by
  cases o <;> rfl

@[simp] theorem ranOps_cons (o : Obs) : ranOps (o :: l) = o.ranOp.toList ++ ranOps l := by
  cases o <;> rfl

@[simp] theorem takes_cons (o : Obs) : takes (o :: l) = takes l + if o.takes then 1 else 0 :=
  List.countP_cons

theorem takes_mono (h : l <+: l') : takes l ≤ takes l' := h.sublist.countP_le

theorem unreported (h : ∀ o ∈ l, o.Unreported) : pushedOps l = [] ∧ ranOps l = [] ∧ takes l = 0 :=
  ⟨List.filterMap_eq_nil_iff.mpr fun o ho => (h o ho).1,
    List.filterMap_eq_nil_iff.mpr fun o ho => (h o ho).2.1,
    List.countP_eq_zero.mpr fun o ho => Bool.eq_false_iff.mp (h o ho).2.2⟩

end

/-! ## Acts -/

/-- The reports an act may push at `w`, ending in `w'`. -/
def Policy.Pushes [Gattlib] (P : Policy) (w w' : World) : QueuedOp → Prop
  | .callback cb => P.Reports w cb
  | .readData cb buf t => cb.isSome = true ∧
      (∃ a ∈ w.ble.asyncActions, a.id = t ∧ a.callbacks.datareceived = cb) ∧
      ∃ of, .enter (.event of (.readChar (some buf))) ∈ w'.log
  | .notification cb buf => ∃ (dev u : UUID) (d : Device.Details), P.Notified w u buf ∧
      w.ble.devices[dev]? = some d ∧ d.hasNotificationHandlerFor u = true ∧
      cb = d.notificationHandler u
  | _ => True

/-- What a stretch of the library does to the reports. -/
inductive World.Reporting [Gattlib] (P : Policy) (w w' : World) : Prop where
  /-- Reports are pushed at the end of the queue. -/
  | pushed (ops : List QueuedOp) : (∀ op ∈ ops, P.Pushes w w' op) →
      pushedOps w'.log = pushedOps w.log ++ ops →
      ranOps w'.log = ranOps w.log → takes w'.log = takes w.log →
      w'.ble.reportQueue = w.ble.reportQueue ++ ops → w'.ticks.flatten = w.ticks.flatten →
      Reporting P w w'
  /-- The tick takes the queue. -/
  | took (cs : List Call) : P.Ticks cs w.ticks → pushedOps w'.log = pushedOps w.log →
      ranOps w'.log = ranOps w.log →
      takes w'.log = takes w.log + 1 → w'.ble.reportQueue = [] →
      w'.ticks = w.ble.reportQueue :: w.ticks → Reporting P w w'
  /-- The tick runs its next report. -/
  | ran (op : QueuedOp) : pushedOps w'.log = pushedOps w.log →
      ranOps w'.log = ranOps w.log ++ [op] → takes w'.log = takes w.log →
      w'.ble.reportQueue = w.ble.reportQueue → w.ticks.flatten = op :: w'.ticks.flatten →
      Reporting P w w'

namespace World.Reporting

variable [Gattlib] {P : Policy} {w w' : World}

/-- Nothing happens to the reports. -/
theorem same {l : List Obs} (hlog : w'.log = w.log ++ l) (hl : ∀ o ∈ l, o.Unreported)
    (hq : w'.ble.reportQueue = w.ble.reportQueue) (hts : w'.ticks.flatten = w.ticks.flatten) :
    w.Reporting P w' := by
  obtain ⟨hp, hr, ht⟩ := unreported hl
  exact .pushed [] (by simp) (by simp [hlog, hp]) (by simp [hlog, hr]) (by simp [hlog, ht])
    (by simp [hq]) hts

end World.Reporting

theorem unreported_calls {l : List Obs} (h : ∀ o ∈ l, ∃ e, o = .call e ∧ e.notifies = false) :
    ∀ o ∈ l, o.Unreported := by
  intro o ho
  obtain ⟨e, rfl, -⟩ := h o ho
  exact ⟨rfl, rfl, rfl⟩

/-- The report queue and the copies of the ticks are the same. -/
structure World.SameReports (w w' : World) : Prop where
  queue : w'.ble.reportQueue = w.ble.reportQueue
  ticks : w'.ticks = w.ticks

section
variable (w : World)

theorem World.invoke_reports (cb : Callback) (arg : Arg) (role : Role) :
    w.SameReports (w.invoke cb arg role) := by
  unfold invoke
  split <;> exact ⟨rfl, rfl⟩

theorem World.finish_reports (how : Outcome) (t : ActionId) : w.SameReports (w.finish how t) :=
  have h := (w.complete t).invoke_reports ((w.action t).bind fun a => how.callback a.callbacks)
    .nothing (how.role t)
  ⟨h.queue, h.ticks⟩

theorem World.finishFront_reports (how : Outcome) : w.SameReports (w.finishFront how) := by
  unfold finishFront
  split
  · exact ⟨rfl, rfl⟩
  · exact w.finish_reports how _

theorem QueuedOp.apply_reports (op : QueuedOp) : w.SameReports (op.apply w) := by
  cases op with
  | callback | readData | notification => exact w.invoke_reports ..
  | autoDiscoverServicesStep | autoDiscoverCharacteristicsStep => exact ⟨rfl, rfl⟩
  | reportConnected => exact w.finishFront_reports _

theorem Trigger.apply_reports (t : ActionId) (tr : Trigger) : w.SameReports (tr.apply w t) := by
  cases tr with
  | stopScanDone => exact w.finish_reports _ _
  | read | write =>
    simp only [Trigger.apply]
    split <;> exact ⟨rfl, rfl⟩
  | _ => exact ⟨rfl, rfl⟩

end

section
variable [Gattlib] {P : Policy} {w w' : World}

/-- **Step lemma.** -/
theorem Stretch.reporting {T : Terms} (ha : Stretch T P w w') : w.Reporting P w' := by
  have hsame {l : List Obs} {w1 : World} (hlog : w1.log = w.log ++ l)
      (hl : ∀ o ∈ l, o.Unreported) (hq : w1.ble.reportQueue = w.ble.reportQueue)
      (hts : w1.ticks = w.ticks) : w.Reporting P w1 := .same hlog hl hq (by rw [hts])
  have hpush {w1 : World} {l : List Obs} (op : QueuedOp) (hlog : w1.log = w.log ++ l)
      (hl : ∀ o ∈ l, o.Unreported) (hq : w1.ble.reportQueue = w.ble.reportQueue)
      (hts : w1.ticks = w.ticks) (hop : P.Pushes w (w1.report op) op) :
      w.Reporting P (w1.report op) := by
    obtain ⟨hp, hr, ht⟩ := unreported hl
    refine .pushed [op] (by simpa using hop) ?_ ?_ ?_ ?_ (by rw [World.report_ticks, hts])
    · simp [hlog, hp]
    · simp [hlog, hr]
    · simp [hlog, ht]
    · simp [World.report, hq]
  cases ha with
  | enter | raised | freed | eventReadNone =>
    exact hsame rfl (by simp [Obs.Unreported]) rfl rfl
  | event of ev how =>
    obtain ⟨l, hlog, hl⟩ := (ev.apply (w.note (.enter (.event of ev)))).finishFront_calls how
    obtain ⟨hq, hts⟩ := (ev.apply (w.note (.enter (.event of ev)))).finishFront_reports how
    refine hsame (l := .enter (.event of ev) :: l) ?_ ?_ ?_ ?_
    · rw [hlog]
      cases ev <;> simp [Event.apply]
    · exact List.forall_mem_cons.mpr ⟨by simp [Obs.Unreported], unreported_calls hl⟩
    · rw [hq]
      cases ev <;> rfl
    · rw [hts]
      cases ev <;> rfl
  | eventAuto of c => exact hpush (l := [_]) _ rfl (by simp [Obs.Unreported]) rfl rfl trivial
  | eventRead of buf a _ _ hf =>
    have hn : ∀ o ∈ [Obs.enter (.event of (.readChar (some buf)))], o.Unreported := by
      simp [Obs.Unreported]
    split
    · rename_i hdata
      change w.Reporting P
        (((w.note (.enter (.event of (.readChar (some buf))))).complete a.id).report _)
      refine hpush (l := [_]) _ rfl hn rfl rfl ⟨hdata, ⟨a, ?_, rfl, rfl⟩, of, by simp⟩
      exact List.mem_of_mem_head? hf
    · exact hsame (l := [_]) rfl hn rfl rfl
  | eventDiscovered of addr name =>
    obtain ⟨l, hlog, hl⟩ := ((w.note (.enter (.event of (.deviceDiscovered addr name)))).named
      (addr.getD "") (name.getD "")).invoke_calls w.ble.devDiscoveredCb
        (.device (addr.getD "") (name.getD "")) .discovered
    obtain ⟨hq, hts⟩ := ((w.note (.enter (.event of (.deviceDiscovered addr name)))).named
      (addr.getD "") (name.getD "")).invoke_reports w.ble.devDiscoveredCb
        (.device (addr.getD "") (name.getD "")) .discovered
    refine hsame (l := .enter (.event of (.deviceDiscovered addr name)) :: l) (hlog.trans ?_) ?_
      hq hts
    · simp [World.named]
    · exact List.forall_mem_cons.mpr ⟨by simp [Obs.Unreported], unreported_calls hl⟩
  | call e | tick => exact hsame rfl (by simp [Obs.Unreported]) rfl rfl
  | back e r cs hc _ hs =>
    refine hsame (l := [.ret e r]) rfl ?_ rfl rfl
    cases e <;> first | exact hs.elim | simp [Obs.Unreported]
  | refused e r cs t a hc _ he =>
    obtain ⟨l, hlog, hl⟩ := (e.refusedApply (w.back e r)).finish_calls .failure t
    obtain ⟨hq, hts⟩ := (e.refusedApply (w.back e r)).finish_reports .failure t
    obtain ⟨isScanning, heq⟩ := e.refusedApply_eq (w.back e r)
    refine hsame (l := .ret e r :: l) ?_ ?_ ?_ ?_
    · rw [hlog, heq]
      simp
    · refine List.forall_mem_cons.mpr ⟨?_, unreported_calls hl⟩
      cases e <;> first | (cases he; done) | simp [Obs.Unreported]
    · rw [hq, heq]
      rfl
    · rw [hts, heq]
      rfl
  | takeReports r cs hc _ hgo =>
    refine .took cs hgo ?_ ?_ ?_ rfl rfl <;> simp
  | ran op rest ts hts =>
    obtain ⟨l, hlog, hl⟩ := op.apply_calls ({ w with ticks := rest :: ts }.note (.ran op))
    obtain ⟨hq, hts'⟩ := op.apply_reports ({ w with ticks := rest :: ts }.note (.ran op))
    obtain ⟨hp, hr, ht⟩ := unreported (unreported_calls hl)
    refine .ran op ?_ ?_ ?_ hq ?_
    · simp [hlog, hp]
    · simp [hlog, hr]
    · simp [hlog, ht]
    · rw [hts', hts]
      rfl
  | endTick ts hts => exact .same (l := []) (by simp) (by simp) rfl (by rw [hts]; rfl)
  | trigger ts a hts =>
    obtain ⟨l, hlog, hl⟩ := a.trigger.apply_calls ({ w with ticks := ts }.start a.id) a.id
    obtain ⟨hq, hts'⟩ := a.trigger.apply_reports ({ w with ticks := ts }.start a.id) a.id
    refine .same (l := .triggered a.id :: l) ?_ ?_ hq ?_
    · rw [hlog]
      simp
    · exact List.forall_mem_cons.mpr ⟨by simp [Obs.Unreported], unreported_calls hl⟩
    · rw [hts', World.start_ticks, hts]
      rfl
  | pop ts a rest hts =>
    exact .same (l := [_]) rfl (by simp [Obs.Unreported]) rfl (by rw [hts]; rfl)
  | wait ts a hts => exact .same (l := []) (by simp) (by simp) rfl (by rw [hts]; rfl)
  | services dev c r =>
    obtain ⟨devices, heq⟩ := (w.back (.discoverPrimary dev c) r).servicesStep_eq dev r
    rw [heq]
    exact hpush (l := [_]) _ rfl (by simp [Obs.Unreported]) rfl rfl trivial
  | chars dev c r =>
    obtain ⟨devices, heq⟩ := (w.back (.discoverChar dev c) r).charsStep_eq dev r
    rw [heq]
    exact hpush (l := [_]) _ rfl (by simp [Obs.Unreported]) rfl rfl trivial
  | report cb hcb => exact hpush (l := []) _ (List.append_nil _).symm (by simp) rfl rfl hcb
  | notify dev u d buf hn hd hhas =>
    exact hpush (l := []) _ (List.append_nil _).symm (by simp) rfl rfl ⟨dev, u, d, hn, hd, hhas, rfl⟩
  | adapterOpened name r | adapterClosed a r =>
    exact hsame (l := [_]) rfl (by simp [Obs.Unreported]) rfl rfl
  | setAutoDiscover | setConnectionParameters | deviceName | lock | unlock =>
    exact hsame (l := []) (List.append_nil _).symm (by simp) rfl rfl
  | inert _ hi => exact hsame (l := []) (by simp [hi.log]) (by simp) hi.reportQueue hi.ticks

end

/-- A request does nothing to the reports. -/
theorem Request.reporting [Gattlib] {P : Policy} {w w' : World} {op : Op} (h : Request w op w') :
    w.Reporting P w' := by
  cases h with
  | stopScanCancel =>
    exact .same (l := [_, _]) (List.append_assoc ..) (by simp [Obs.Unreported]) rfl rfl
  | _ => exact .same (l := [_]) rfl (by simp [Obs.Unreported]) rfl rfl

end Gattlibpp
