import Mathlib.Data.List.Forall2
import Gattlibpp.Queue.Steady

/-!
# How the queue moves on

An act leaves the queued actions in their places, as they were requested, and their states
only move on. The one exception is the tick that pops a Completed front. A request adds its
action at the end, and completes a running scan at most.
-/

namespace Gattlibpp

open Open

theorem AsyncAction.State.Onward.trans {s s' s'' : AsyncAction.State} (h : s.Onward s')
    (h' : s'.Onward s'') : s.Onward s'' :=
  ⟨fun hs => h.pending (h'.pending hs), fun hs => h'.completed (h.completed hs)⟩

/-- `a'` is the action `a` at a later time. -/
structure AsyncAction.Details.Later (a a' : AsyncAction.Details) : Prop where
  id : a'.id = a.id
  name : a'.name = a.name
  callbacks : a'.callbacks = a.callbacks
  trigger : a'.trigger = a.trigger
  state : a.state.Onward a'.state

theorem AsyncAction.Details.Later.refl (a : AsyncAction.Details) : a.Later a :=
  ⟨rfl, rfl, rfl, rfl, .refl _⟩

theorem AsyncAction.Details.Later.trans {a a' a'' : AsyncAction.Details} (h : a.Later a')
    (h' : a'.Later a'') : a.Later a'' :=
  ⟨h'.id.trans h.id, h'.name.trans h.name, h'.callbacks.trans h.callbacks,
    h'.trigger.trans h.trigger, h.state.trans h'.state⟩

/-- Queues of actions that have moved on. -/
theorem AsyncAction.Details.later_trans {q q' q'' : List AsyncAction.Details}
    (h : List.Forall₂ Later q q') (h' : List.Forall₂ Later q' q'') :
    List.Forall₂ Later q q'' := by
  induction h generalizing q'' with
  | nil =>
    cases h'
    exact .nil
  | cons ha _ ih =>
    cases h' with
    | cons hb hrest => exact .cons (ha.trans hb) (ih hrest)

namespace World

/-- The queue of `w'` is that of `w` at a later time. -/
def Later (w w' : World) : Prop :=
  List.Forall₂ AsyncAction.Details.Later w.ble.asyncActions w'.ble.asyncActions

variable {w w' w'' : World}

theorem later_of_eq (h : w'.ble.asyncActions = w.ble.asyncActions) : w.Later w' := by
  unfold Later
  rw [h]
  exact List.forall₂_same.mpr fun a _ => .refl a

theorem Later.trans (h : w.Later w') (h' : w'.Later w'') : w.Later w'' :=
  AsyncAction.Details.later_trans h h'

/-- An action in the queue was there before. -/
theorem Later.mem (h : w.Later w') {a' : AsyncAction.Details}
    (ha : a' ∈ w'.ble.asyncActions) : ∃ a ∈ w.ble.asyncActions, a.Later a' := by
  unfold Later at h
  generalize w.ble.asyncActions = q, w'.ble.asyncActions = q' at h ha
  induction h with
  | nil => cases ha
  | cons hab _ ih =>
    rcases List.mem_cons.mp ha with rfl | ha
    · exact ⟨_, List.mem_cons_self, hab⟩
    · obtain ⟨a, hm, hl⟩ := ih ha
      exact ⟨a, List.mem_cons_of_mem _ hm, hl⟩

/-- The same actions are in the queue. -/
theorem Later.ids (h : w.Later w') :
    w'.ble.asyncActions.map (·.id) = w.ble.asyncActions.map (·.id) := by
  unfold Later at h
  generalize w.ble.asyncActions = q, w'.ble.asyncActions = q' at h
  induction h with
  | nil => rfl
  | cons hab _ ih => rw [List.map_cons, List.map_cons, hab.id, ih]

theorem updateAction_later {t : ActionId} {f : AsyncAction.Details → AsyncAction.Details}
    (hf : ∀ a ∈ w.ble.asyncActions, a.id = t → a.Later (f a)) : w.Later (w.updateAction t f) := by
  refine List.forall₂_map_right_iff.mpr (List.forall₂_same.mpr fun a ha => ?_)
  split
  · rename_i hid
    exact hf a ha hid
  · exact .refl a

theorem complete_later (t : ActionId) : w.Later (w.complete t) :=
  updateAction_later fun _ _ _ => ⟨rfl, rfl, rfl, rfl, nofun, fun _ => rfl⟩

theorem invoke_later (cb : Callback) (arg : Arg) (role : Role) : w.Later (w.invoke cb arg role) := by
  unfold invoke
  split <;> exact later_of_eq rfl

theorem finish_later (how : Outcome) (t : ActionId) : w.Later (w.finish how t) :=
  (complete_later t).trans (invoke_later ..)

theorem finishFront_later (how : Outcome) : w.Later (w.finishFront how) := by
  unfold finishFront
  split
  · exact later_of_eq rfl
  · exact finish_later ..

theorem start_later (hfifo : Fifo w) {a : AsyncAction.Details} (hf : w.front = some a)
    (hp : a.state = .pending) : w.Later (w.start a.id) := by
  refine updateAction_later (f := fun a => { a with state := .triggered }) fun x hx hid => ?_
  obtain ⟨rest, hq⟩ : ∃ rest, w.ble.asyncActions = a :: rest := List.head?_eq_some_iff.mp hf
  rw [hq] at hx
  rcases List.mem_cons.mp hx with rfl | hx
  · exact ⟨rfl, rfl, rfl, rfl, nofun, fun hc => by rw [hp] at hc; cases hc⟩
  · exact absurd hid (hfifo.front_once hq x hx)

end World

theorem Trigger.apply_later {w : World} (t : ActionId) (tr : Trigger) : w.Later (tr.apply w t) := by
  cases tr with
  | stopScanDone => exact World.finish_later ..
  | read | write =>
    simp only [Trigger.apply]
    split <;> exact World.later_of_eq rfl
  | _ => exact World.later_of_eq rfl

theorem QueuedOp.apply_later {w : World} (op : QueuedOp) : w.Later (op.apply w) := by
  cases op with
  | callback | readData | notification => exact World.invoke_later ..
  | autoDiscoverServicesStep | autoDiscoverCharacteristicsStep => exact World.later_of_eq rfl
  | reportConnected => exact World.finishFront_later _

section
variable [Gattlib] {P : Policy} {w w' : World}

/-- A stretch moves the actions on, or it pops a Completed front. -/
theorem Stretch.later {T : Terms} (hfifo : Fifo w) (ha : Stretch T P w w') :
    w.Later w' ∨ T.frees ∧ ∃ a, w.ble.asyncActions = a :: w'.ble.asyncActions ∧
      a.state = .completed ∧ w'.log = w.log ++ [.popped a] := by
  cases ha with
  | pop ts a rest _ _ hq hc hfr => exact .inr ⟨hfr, a, hq, hc, rfl⟩
  | event of ev how =>
    have hev : w.Later (ev.apply (w.note (.enter (.event of ev)))) := by
      cases ev <;> exact World.later_of_eq rfl
    exact .inl (hev.trans (World.finishFront_later how))
  | eventDiscovered of addr name =>
    have hnamed : w.Later ((w.note (.enter (.event of (.deviceDiscovered addr name)))).named
        (addr.getD "") (name.getD "")) :=
      World.later_of_eq rfl
    exact .inl (hnamed.trans (World.invoke_later ..))
  | eventRead of buf a =>
    refine .inl (World.Later.trans (World.later_of_eq ?_) (World.complete_later _))
    split <;> rfl
  | refused e r cs t =>
    obtain ⟨b, heq⟩ := e.refusedApply_eq (w.back e r)
    rw [heq]
    have hb : w.Later ((w.back e r).updateBle fun ble => { ble with isScanning := b }) :=
      World.later_of_eq rfl
    exact .inl (hb.trans (World.finish_later ..))
  | ran op rest ts =>
    have hn : w.Later ({ w with ticks := rest :: ts }.note (.ran op)) := World.later_of_eq rfl
    exact .inl (hn.trans op.apply_later)
  | trigger ts a _ _ hf hp =>
    have hs := World.start_later (hfifo.setTicks ts) hf hp
    exact .inl (World.Later.trans hs (a.trigger.apply_later a.id))
  | wait ts a =>
    exact .inl (World.updateAction_later (w := { w with ticks := ts }) fun _ _ _ =>
      ⟨rfl, rfl, rfl, rfl, .refl _⟩)
  | services dev c r =>
    obtain ⟨devices, heq⟩ := (w.back (.discoverPrimary dev c) r).servicesStep_eq dev r
    rw [heq]
    exact .inl (World.later_of_eq rfl)
  | chars dev c r =>
    obtain ⟨devices, heq⟩ := (w.back (.discoverChar dev c) r).charsStep_eq dev r
    rw [heq]
    exact .inl (World.later_of_eq rfl)
  | inert _ hi => exact .inl (World.later_of_eq hi.asyncActions)
  | _ => exact .inl (World.later_of_eq rfl)

theorem Act.later (hfifo : Fifo w) (ha : Act P w w') :
    w.Later w' ∨ ∃ a, w.ble.asyncActions = a :: w'.ble.asyncActions ∧ a.state = .completed ∧
      w'.log = w.log ++ [.popped a] :=
  (Stretch.later hfifo ha).imp_right And.right

omit [Gattlib] in
/-- A request adds a Pending action behind the others, which move on. -/
theorem Request.later {op : Op} (h : Request w op w') : ∃ (w1 : World) (a : AsyncAction.Details),
    w.Later w1 ∧ a.state = .pending ∧ a.id = w.serial ∧
      w'.ble.asyncActions = w1.ble.asyncActions ++ [a] ∧ .queued a ∈ w'.log ∧
      queuedIds w'.log = queuedIds w.log ++ [a.id] := by
  have hsame {w1 : World} (hq : w1.ble.asyncActions = w.ble.asyncActions) : w.Later w1 :=
    World.later_of_eq hq
  cases h with
  | stopScanCancel succ fail a =>
    exact ⟨(w.complete a.id).note (.cancelled a.id), _, World.complete_later a.id, rfl, rfl, rfl,
      by simp [World.enqueue], by simp [World.enqueue]⟩
  | scan | connect =>
    exact ⟨w, _, hsame rfl, rfl, rfl, rfl, by simp [World.enqueue], by simp [World.enqueue]⟩
  | _ => exact ⟨w, _, hsame rfl, rfl, rfl, rfl, by simp, by simp⟩

end

/-! ## What a request queues -/

/-- The operation, accepted at `w`, queues the action `a`. -/
def Op.Queues (w : World) (op : Op) (a : AsyncAction.Details) : Prop :=
  match op with
  | .scan runSeconds succ _ fail =>
    a.callbacks = { success := succ, failure := fail } ∧ a.trigger = .scan runSeconds
  | .stopScan succ fail =>
    a.callbacks = { success := succ, failure := fail } ∧
      (a.trigger = .stopScan ∨ a.trigger = .stopScanDone)
  | .connect dev p succ fail =>
    a.callbacks = { success := succ, failure := fail } ∧
      a.trigger = .connect dev (p.getD w.ble.connParams)
  | .disconnect dev succ fail =>
    a.callbacks = { success := succ, failure := fail } ∧ a.trigger = .disconnect dev ∧
      dev ∈ w.ble.devices
  | .read dev u inData fail =>
    a.callbacks = { datareceived := inData, failure := fail } ∧
      ∃ d, w.ble.devices[dev]? = some d ∧ a.trigger = .read dev (d.charRef u)
  | .write dev u value succ fail =>
    a.callbacks = { success := succ, failure := fail } ∧
      ∃ d, w.ble.devices[dev]? = some d ∧ a.trigger = .write dev (d.charRef u) value
  | _ => False

theorem Request.queues {w w' : World} {op : Op} (h : Request w op w') :
    ∃ (w1 : World) (a : AsyncAction.Details), w.Later w1 ∧
      w'.ble.asyncActions = w1.ble.asyncActions ++ [a] ∧ .queued a ∈ w'.log ∧ op.Queues w a := by
  have hsame : w.Later w := World.later_of_eq rfl
  cases h with
  | stopScanCancel succ fail b =>
    exact ⟨(w.complete b.id).note (.cancelled b.id), _, World.complete_later b.id, rfl,
      by simp [World.enqueue], rfl, .inl rfl⟩
  | scan | connect => exact ⟨w, _, hsame, rfl, by simp [World.enqueue], rfl, rfl⟩
  | stopScanDone => exact ⟨w, _, hsame, rfl, by simp, rfl, .inr rfl⟩
  | stopScan => exact ⟨w, _, hsame, rfl, by simp, rfl, .inl rfl⟩
  | disconnect dev _ _ _ hc =>
    obtain ⟨d, hd, -⟩ := (w.ble.isConnected_iff dev).mp hc
    exact ⟨w, _, hsame, rfl, by simp, rfl, rfl, Std.TreeMap.mem_iff_isSome_getElem?.mpr (by simp [hd])⟩
  | read dev u d _ _ _ _ hd | write dev u d _ _ _ _ _ hd =>
    exact ⟨w, _, hsame, rfl, by simp, rfl, d, hd, rfl⟩

end Gattlibpp
