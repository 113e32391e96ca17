import Gattlibpp.Ledger.Basic
import Gattlibpp.Notify.Keys
import Gattlibpp.Report.Conservation

/-!
# Every step keeps the books

What the library holds, in its queues, its records and its own members, rests on the log, and
so every call it makes does. A stretch adds to the log what it takes in before it makes a call
of it.
-/

namespace Gattlibpp

open Open
open Device (normalizeCharacteristicUUID)

/-! ## Calls -/

section
variable [Gattlib]

/-- A call is due when it is made. -/
def Obs.Due (before : List Obs) (o : Obs) : Prop := ∀ e, o = .call e → e.Due before

/-- From `w` to `w'` only calls that are due are made. -/
structure World.Pays (w w' : World) : Prop where
  log : w.log <+: w'.log
  due : Past Obs.Due w.log → Past Obs.Due w'.log

/-- The action is one that was asked for, at a later time. -/
def World.Holds (w : World) (a : AsyncAction.Details) : Prop := ∃ a0, a0.Later a ∧ Wanted w.log a0

omit [Gattlib] in
theorem World.Holds.mono {w w' : World} (h : w.log <+: w'.log) {a a' : AsyncAction.Details}
    (ha : w.Holds a) (hl : a.Later a') : w'.Holds a' := by
  obtain ⟨a0, hl0, hasked⟩ := ha
  exact ⟨a0, hl0.trans hl, hasked.mono h⟩

omit [Gattlib] in
theorem World.Holds.hasTrigger {w : World} {a : AsyncAction.Details} (ha : w.Holds a) :
    HasTrigger w.log a.id a.trigger := by
  obtain ⟨a0, hl, hasked⟩ := ha
  exact ⟨a0, hasked, hl.id.symm, hl.trigger.symm⟩

/-- Each action in the queue was asked for. -/
def World.HoldsAll (w : World) : Prop := ∀ a ∈ w.ble.asyncActions, w.Holds a

theorem World.Holds.told {w : World} {a : AsyncAction.Details} (ha : w.Holds a) (how : Outcome)
    {fn : Nat} (hfn : how.callback a.callbacks = some (.user fn)) :
    Told w.log fn .nothing (how.role a.id) := by
  obtain ⟨a0, hl, hasked⟩ := ha
  rw [hl.callbacks] at hfn
  have hb := hasked.belongs how hfn
  rw [← hl.id] at hb
  cases how <;> exact ⟨rfl, hb⟩

namespace World.Pays

variable {w w' w'' : World}

theorem of_log (h : w'.log = w.log) : w.Pays w' := ⟨h ▸ List.prefix_rfl, h ▸ id⟩

theorem trans (h : w.Pays w') (h' : w'.Pays w'') : w.Pays w'' :=
  ⟨h.log.trans h'.log, fun hw => h'.due (h.due hw)⟩

theorem noted (o : Obs) (h : w'.log = w.log ++ [o]) (ho : o.Due w.log) : w.Pays w' :=
  ⟨⟨[o], h.symm⟩, fun hw => h ▸ past_concat.mpr ⟨hw, ho⟩⟩

/-- Something else than a call is noted. -/
theorem note (o : Obs) (h : w'.log = w.log ++ [o] := by rfl) (ho : ∀ e, o ≠ .call e := by simp) :
    w.Pays w' := noted o h fun e he => absurd he (ho e)

theorem push {e : Call} (h : e.Due w.log) : w.Pays (w.push e) :=
  noted (.call e) rfl fun e' he => by cases he; exact h

theorem invoke {cb : Callback} {arg : Arg} {role : Role}
    (h : ∀ fn, cb = some (.user fn) → Told w.log fn arg role) : w.Pays (w.invoke cb arg role) := by
  unfold World.invoke
  split
  · exact push (h _ rfl)
  · exact of_log rfl

theorem finish (how : Outcome) {t : ActionId} (h : w.HoldsAll) : w.Pays (w.finish how t) := by
  have hc : w.Pays (w.complete t) := of_log rfl
  refine hc.trans (invoke fun fn hfn => ?_)
  obtain ⟨a, ha, hcb⟩ := Option.bind_eq_some_iff.mp hfn
  have hid : a.id = t := by simpa using List.find?_some ha
  have htold := (h a (List.mem_of_find?_eq_some ha)).told how hcb
  rwa [hid] at htold

theorem finishFront (how : Outcome) (h : w.HoldsAll) : w.Pays (w.finishFront how) := by
  unfold World.finishFront
  split
  · exact of_log rfl
  · exact finish how h

end World.Pays

/-! ## What is held -/

/-- What the library holds of the user's and of gattlib's. -/
structure Ledger (w : World) : Prop where
  fifo : Fifo w
  actions : w.HoldsAll
  records : w.Records (Device.Details.Sourced w.log)
  handlers : ∀ (dev k : UUID) (fn : Nat),
    ((w.handlers dev).bind fun m => m[k]?) = some (some (.user fn)) → Handed w.log dev k fn
  reports : ∀ op ∈ w.reports, op.Due w.log
  discovered : ∀ fn, w.ble.devDiscoveredCb = some (.user fn) → Given w.log .discovered fn
  adapter : Lent w.log w.ble.adapter
  connParams : Chosen w.log w.ble.connParams
  calls : Past Obs.Due w.log

namespace Ledger

variable {w w' : World}

theorem init : Ledger .init where
  fifo := .init
  actions := by simp [World.HoldsAll, World.init]
  records dev d h := by simp [World.init] at h
  handlers dev k fn h := by simp [World.init, World.handlers] at h
  reports := by simp [World.init, World.reports]
  discovered := by simp [World.init]
  adapter := by simp [World.init, Lent]
  connParams := .inl rfl
  calls := past_nil

theorem reported (h : Ledger w) (dev : UUID) : Connected w.log (w.connectionOf dev) := by
  intro c hc
  obtain ⟨d, hd, hdc⟩ := Option.bind_eq_some_iff.mp hc
  exact (h.records dev d hd).connection c hdc

/-- What a reference is to has been discovered. -/
theorem captured (h : Ledger w) {dev : UUID} {r : Device.CharRef} {c : Characteristic.Details}
    (hc : w.captured dev r = some c) : Found w.log dev r.key c.glUuid := by
  obtain ⟨d, hd, hr⟩ := Option.bind_eq_some_iff.mp hc
  unfold Device.Details.deref at hr
  split at hr
  · exact (h.records dev d hd).characteristics r.key c.glUuid (by rw [hr]; rfl)
  · cases hr

/-- A report of a tick is due. -/
theorem report (h : Ledger w) {op : QueuedOp} {rest : List QueuedOp} {ts : List (List QueuedOp)}
    (hts : w.ticks = (op :: rest) :: ts) : op.Due w.log :=
  h.reports op (by simp [World.reports, hts])

end Ledger

/-! ## A stretch makes calls that are due -/

section
variable {P : Policy} {w w' : World}

omit [Gattlib] in
theorem Policy.Gives.given {role : Role} {fn : Nat} (h : P.Gives w role (some (.user fn))) :
    Given w.log role fn := by
  obtain ⟨w0, op, -, hl, hfn⟩ := h
  exact ⟨op, hl.subset (by simp), hfn⟩

theorem Call.Handled.due {e : Call} (h : Ledger w) (he : e.Plain) (hh : e.Handled P w) :
    e.Due w.log := by
  cases e with
  | user fn arg role =>
    obtain rfl : role = .refused := he
    exact ⟨hh.1, hh.2.given⟩
  | adapterClose a =>
    obtain rfl := hh.2
    exact h.adapter
  | adapterPowered a =>
    obtain rfl : a = w.ble.adapter := hh
    exact h.adapter
  | registerNotification | registerIndication | notificationStart | notificationStop =>
    obtain ⟨dev, rfl⟩ := hh
    exact h.reported dev
  | asyncProcessAll | adapterOpen => trivial
  | discoverPrimary | discoverChar => exact he.elim
  | scanEnable | scanDisable | connect | disconnect | readChar | writeChar => cases he

/-- A report is run. -/
theorem QueuedOp.apply_pays {op : QueuedOp} (hq : w.HoldsAll)
    (hc : ∀ dev, Connected w.log (w.connectionOf dev)) (hop : op.Due w.log) :
    w.Pays (op.apply w) := by
  cases op with
  | callback cb => exact .invoke hop
  | readData cb buf t => exact .invoke hop
  | notification cb buf => exact .invoke hop
  | autoDiscoverServicesStep dev => exact .push (hc dev)
  | autoDiscoverCharacteristicsStep dev => exact .push (hc dev)
  | reportConnected => exact .finishFront _ hq

/-- A trigger is run. -/
theorem Trigger.apply_pays {t : ActionId} {tr : Trigger} (hq : w.HoldsAll)
    (hc : ∀ dev, Connected w.log (w.connectionOf dev))
    (hd : ∀ dev r c, w.captured dev r = some c → Found w.log dev r.key c.glUuid)
    (ht : HasTrigger w.log t tr) : w.Pays (tr.apply w t) := by
  cases tr with
  | autodisconn => exact .of_log rfl
  | scan | stopScan | connect => exact .push ht
  | stopScanDone => exact .finish _ hq
  | disconnect dev => exact .push ⟨hc dev, dev, ht⟩
  | read dev r =>
    simp only [Trigger.apply]
    cases hcap : w.captured dev r with
    | none => exact .of_log rfl
    | some c => exact .push ⟨hc dev, dev, r, ht, hd dev r c hcap⟩
  | write dev r =>
    simp only [Trigger.apply]
    cases hcap : w.captured dev r with
    | none => exact .of_log rfl
    | some c => exact .push ⟨hc dev, dev, r, ht, hd dev r c hcap⟩

omit [Gattlib] in
/-- The actions of `w` are those of `w'` at a later time. -/
theorem World.HoldsAll.later (h : w.HoldsAll) (hlog : w.log <+: w'.log) (hl : w.Later w') :
    w'.HoldsAll := fun a' ha' => by
  obtain ⟨a, ha, hlater⟩ := hl.mem ha'
  exact (h a ha).mono hlog hlater

theorem Stretch.pays {T : Terms} (h : Ledger w) (ha : Stretch T P w w') : w.Pays w' := by
  have hlater {w1 : World} (hlog : w.log <+: w1.log)
      (hq : w1.ble.asyncActions = w.ble.asyncActions) : w1.HoldsAll :=
    h.actions.later hlog (World.later_of_eq hq)
  have hconn {w1 : World} (hlog : w.log <+: w1.log) (hd : w1.ble.devices = w.ble.devices)
      (dev : UUID) : Connected w1.log (w1.connectionOf dev) := by
    rw [World.connectionOf, hd]
    exact (h.reported dev).mono hlog
  cases ha with
  | enter | raised | freed | eventReadNone => exact .note _
  | event of ev how =>
    have hev : w.Pays (ev.apply (w.note (.enter (.event of ev)))) := by
      cases ev <;> exact .note (.enter _)
    refine hev.trans (.finishFront how (hlater hev.log ?_))
    cases ev <;> rfl
  | eventAuto of c =>
    have hn : w.Pays ((Event.connected (some c)).apply
        (w.note (.enter (.event of (.connected (some c)))))) := .note (.enter _)
    exact hn.trans (.note (.pushed _))
  | eventRead of buf a =>
    have hn : w.Pays (w.note (.enter (.event of (.readChar (some buf))))) := .note _
    split
    · exact hn.trans (.note (.pushed (.readData a.callbacks.datareceived buf a.id)))
    · exact hn.trans (.of_log rfl)
  | eventDiscovered of addr name =>
    have hn : w.Pays ((w.note (.enter (.event of (.deviceDiscovered addr name)))).named
        (addr.getD "") (name.getD "")) := .note (.enter _)
    refine hn.trans (.invoke fun fn hfn =>
      ⟨(h.discovered fn hfn).mono hn.log, of, addr, name, rfl, ?_⟩)
    simp [World.named]
  | call e he _ hh => exact .push (hh.due h he)
  | tick => exact .push (e := .asyncProcessAll) trivial
  | back e r | takeReports r | adapterOpened name r | adapterClosed a r => exact .note (.ret _ r)
  | refused e r cs t =>
    have hb : w.Pays (e.refusedApply (w.back e r)) := by
      cases e <;> exact .note (.ret _ r)
    refine hb.trans (.finish .failure (hlater hb.log ?_))
    cases e <;> rfl
  | ran op rest ts hts =>
    have hn : w.Pays ({ w with ticks := rest :: ts }.note (.ran op)) := .note (.ran op)
    exact hn.trans (QueuedOp.apply_pays (hlater hn.log rfl) (hconn hn.log rfl)
      ((h.report hts).mono hn.log))
  | trigger ts a _ _ hf hp =>
    have hn : w.Pays ({ w with ticks := ts }.start a.id) := .note (.triggered a.id)
    have hl : w.Later ({ w with ticks := ts }.start a.id) :=
      World.start_later (h.fifo.setTicks ts) hf hp
    have ht : HasTrigger ({ w with ticks := ts }.start a.id).log a.id a.trigger :=
      ((h.actions a (List.mem_of_mem_head? hf)).mono hn.log (.refl a)).hasTrigger
    exact hn.trans (Trigger.apply_pays (h.actions.later hn.log hl) (hconn hn.log rfl)
      (fun dev r c hc => (h.captured hc).mono hn.log) ht)
  | pop ts a => exact .note (.popped a)
  | services dev c r =>
    obtain ⟨devices, heq⟩ := (w.back (.discoverPrimary dev c) r).servicesStep_eq dev r
    rw [heq]
    have hb : w.Pays ((w.back (.discoverPrimary dev c) r).updateBle fun b =>
        { b with devices := devices }) := .note (.ret _ r)
    exact hb.trans (.note (.pushed _))
  | chars dev c r =>
    obtain ⟨devices, heq⟩ := (w.back (.discoverChar dev c) r).charsStep_eq dev r
    rw [heq]
    have hb : w.Pays ((w.back (.discoverChar dev c) r).updateBle fun b =>
        { b with devices := devices }) := .note (.ret _ r)
    exact hb.trans (.note (.pushed _))
  | report cb => exact .note (.pushed (.callback cb))
  | notify dev u d buf => exact .note (.pushed (.notification _ buf))
  | endTick | wait | setAutoDiscover | setConnectionParameters | deviceName | lock | unlock =>
    exact .of_log rfl
  | inert _ hi => exact .of_log hi.log

end

end

end Gattlibpp
