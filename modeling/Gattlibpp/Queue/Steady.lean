import Gattlibpp.Queue.Fifo

/-!
# Invariants of the queued actions

An invariant that relates the actions in the queue to the device records, `connected_to`
and the adapter is kept by most acts for the same reasons: actions only move on, they
leave from the front, and the rest stays as it is. `Steady` says that, and `Steady.act`
leaves the acts that change the rest.
-/

namespace Gattlibpp

open Open

/-- From `s` an action may come to be in `s'`. -/
structure AsyncAction.State.Onward (s s' : AsyncAction.State) : Prop where
  pending : s' = .pending → s = .pending
  completed : s = .completed → s' = .completed

theorem AsyncAction.State.Onward.refl (s : AsyncAction.State) : s.Onward s := ⟨id, id⟩

structure Steady (I : World → Prop) : Prop where
  same : ∀ {w w' : World}, I w → w'.ble.asyncActions = w.ble.asyncActions →
    w'.ble.devices = w.ble.devices → w'.ble.connectedTo = w.ble.connectedTo →
    w'.ble.adapterIsOpen = w.ble.adapterIsOpen → w.log <+: w'.log → I w'
  update : ∀ {w : World} {t : ActionId} {f : AsyncAction.Details → AsyncAction.Details}, I w →
    (∀ a, (f a).id = a.id ∧ (f a).trigger = a.trigger) →
    (∀ a ∈ w.ble.asyncActions, a.id = t → a.state.Onward (f a).state) → I (w.updateAction t f)
  pop : ∀ {w : World} {a : AsyncAction.Details} {rest : List AsyncAction.Details}, I w →
    w.ble.asyncActions = a :: rest → I (w.updateBle fun b => { b with asyncActions := rest })

namespace Steady

variable {I : World → Prop} (hI : Steady I) {w w' : World}
include hI

theorem note (h : I w) (o : Obs) : I (w.note o) :=
  hI.same h rfl rfl rfl rfl (List.prefix_append ..)

theorem push (h : I w) (e : Call) : I (w.push e) :=
  hI.same h rfl rfl rfl rfl (List.prefix_append ..)

theorem back (h : I w) (e : Call) (r : Resp) : I (w.back e r) :=
  hI.same h rfl rfl rfl rfl (List.prefix_append ..)

theorem report (h : I w) (op : QueuedOp) : I (w.report op) :=
  hI.same h rfl rfl rfl rfl (List.prefix_append ..)

theorem setTicks (h : I w) (ts : List (List QueuedOp)) : I { w with ticks := ts } :=
  hI.same h rfl rfl rfl rfl List.prefix_rfl

theorem complete (h : I w) (t : ActionId) : I (w.complete t) :=
  hI.update h (fun _ => ⟨rfl, rfl⟩) fun _ _ _ => ⟨nofun, fun _ => rfl⟩

theorem invoke (h : I w) (cb : Callback) (arg : Arg) (role : Role) : I (w.invoke cb arg role) := by
  unfold World.invoke
  split
  · exact hI.push h _
  · exact h

theorem finish (h : I w) (how : Outcome) (t : ActionId) : I (w.finish how t) :=
  hI.invoke (hI.complete h t) ..

theorem finishFront (h : I w) (how : Outcome) : I (w.finishFront how) := by
  unfold World.finishFront
  split
  · exact h
  · exact hI.finish h ..

theorem start (h : I w) (hfifo : Fifo w) {a : AsyncAction.Details} (hf : w.front = some a)
    (hp : a.state = .pending) : I (w.start a.id) := by
  refine hI.note (hI.update h (f := fun a => { a with state := .triggered })
    (fun _ => ⟨rfl, rfl⟩) fun x hx hid => ?_) _
  obtain ⟨rest, hq⟩ : ∃ rest, w.ble.asyncActions = a :: rest := List.head?_eq_some_iff.mp hf
  rw [hq] at hx
  rcases List.mem_cons.mp hx with rfl | hx
  · exact ⟨nofun, fun hc => by rw [hp] at hc; cases hc⟩
  · exact absurd hid (hfifo.front_once hq x hx)

theorem trigger (h : I w) (hfifo : Fifo w) {a : AsyncAction.Details} (hf : w.front = some a)
    (hp : a.state = .pending) : I (a.trigger.apply (w.start a.id) a.id) := by
  have hs := hI.start h hfifo hf hp
  cases a.trigger with
  | autodisconn => exact hs
  | stopScanDone => exact hI.finish hs ..
  | read | write =>
    simp only [Trigger.apply]
    split
    · exact hs
    · exact hI.push hs _
  | _ => exact hI.push hs _

theorem ran (h : I w) (op : QueuedOp) : I (op.apply w) := by
  cases op with
  | callback | readData | notification => exact hI.invoke h ..
  | autoDiscoverServicesStep | autoDiscoverCharacteristicsStep => exact hI.push h _
  | reportConnected => exact hI.finishFront h _

/-- The acts that change device records, `connected_to` or the adapter are left to show. -/
theorem act [Gattlib] {T : Terms} {P : Policy} (h : I w) (hfifo : Fifo w) (ha : Stretch T P w w')
    (hevent : ∀ of ev, P.enter w (.event of ev) →
      I (ev.apply (w.note (.enter (.event of ev)))))
    (hservices : ∀ {w : World} (dev : UUID) (r : Resp), I w → I (w.servicesStep dev r))
    (hchars : ∀ {dev : UUID} {c : Option Conn} {r : Resp}, T.frees →
      P.ans w (.discoverChar dev c) r → (r.rc = 0 → dev ∉ w.held) →
      I ((w.back (.discoverChar dev c) r).charsStep dev r))
    (hopened : ∀ (e : Call) (r : Resp) (name : String),
      I ((w.back e r).updateBle fun b =>
        { b with adapter := r.adapter?, adapterName := name, adapterIsOpen := true }))
    (hclosed : ∀ {a : Option Adapter} {r : Resp}, P.ans w (.adapterClose a) r →
      I ((w.back (.adapterClose a) r).updateBle fun b => { b with adapterIsOpen := false })) :
    I w' := by
  cases ha with
  | enter | raised | freed | eventReadNone => exact hI.note h _
  | event of ev how hm => exact hI.finishFront (hevent of ev hm) how
  | eventAuto of c hm => exact hI.report (hevent of _ hm) _
  | eventRead of buf a =>
    split
    · exact hI.complete (hI.report (hI.note h _) _) _
    · exact hI.complete (hI.note h _) _
  | eventDiscovered of addr name =>
    have hnamed : I ((w.note (.enter (.event of (.deviceDiscovered addr name)))).named
        (addr.getD "") (name.getD "")) :=
      hI.same (hI.note h _) rfl rfl rfl rfl List.prefix_rfl
    exact hI.invoke hnamed ..
  | call e | tick => exact hI.push h _
  | back e r => exact hI.back h e r
  | refused e r cs t =>
    refine hI.finish ?_ ..
    cases e <;> exact hI.same (hI.back h _ r) rfl rfl rfl rfl List.prefix_rfl
  | takeReports r => exact hI.same (hI.back h _ r) rfl rfl rfl rfl List.prefix_rfl
  | ran op rest ts => exact hI.ran (hI.note (hI.setTicks h (rest :: ts)) (.ran op)) op
  | endTick ts => exact hI.setTicks h ts
  | trigger ts a _ _ hf hp => exact hI.trigger (hI.setTicks h ts) (hfifo.setTicks ts) hf hp
  | pop ts a rest _ _ hq => exact hI.note (hI.pop (hI.setTicks h ts) hq) _
  | wait ts a =>
    exact hI.update (hI.setTicks h ts) (fun _ => ⟨rfl, rfl⟩) fun _ _ _ => .refl _
  | services dev c r => exact hI.report (hservices dev r (hI.back h _ r)) _
  | chars dev c r _ _ hans hheld hfr => exact hI.report (hchars hfr hans hheld) _
  | report | notify => exact hI.report h _
  | adapterOpened name r => exact hopened _ r name
  | adapterClosed a r _ _ hans => exact hclosed hans
  | setAutoDiscover | setConnectionParameters | deviceName | lock | unlock =>
    exact hI.same h rfl rfl rfl rfl List.prefix_rfl
  | inert _ hi =>
    exact hI.same h hi.asyncActions hi.devices hi.connectedTo hi.adapterIsOpen
      (hi.log ▸ List.prefix_rfl)

end Steady

end Gattlibpp
