import Gattlibpp.Act.Fits

/-!
# The members that few steps change

The function for discovered devices, the adapter and the connection parameters are members of the
library that no action, report or record touches.
-/

namespace Gattlibpp

open Open

/-- The discovery callback, the adapter and the connection parameters. -/
def World.members (w : World) : Callback × Option Adapter × ConnectionParams :=
  (w.ble.devDiscoveredCb, w.ble.adapter, w.ble.connParams)

section
variable (w : World)

theorem World.finish_members (how : Outcome) (t : ActionId) :
    (w.finish how t).members = w.members := by
  unfold World.members
  rw [w.finish_ble]
  rfl

theorem World.finishFront_members (how : Outcome) : (w.finishFront how).members = w.members := by
  unfold World.finishFront
  split
  · rfl
  · exact w.finish_members ..

theorem QueuedOp.apply_members (op : QueuedOp) : (op.apply w).members = w.members := by
  cases op with
  | callback | readData | notification =>
    unfold World.members QueuedOp.apply
    rw [w.invoke_ble]
  | autoDiscoverServicesStep | autoDiscoverCharacteristicsStep => rfl
  | reportConnected => exact w.finishFront_members _

theorem Trigger.apply_members (t : ActionId) (tr : Trigger) :
    (tr.apply w t).members = w.members := by
  cases tr with
  | stopScanDone => exact w.finish_members ..
  | read | write =>
    simp only [Trigger.apply]
    split <;> rfl
  | _ => rfl

end

section
variable [Gattlib] {P : Policy} {w w' : World}

/-- The members stay, but for an adapter that gattlib opens and parameters that the user sets. -/
theorem Stretch.members {T : Terms} (ha : Stretch T P w w') :
    w'.members = w.members ∨
    (∃ name r, .ret (.adapterOpen name) r ∈ w'.log ∧
      w'.members = (w.members.1, r.adapter?, w.members.2.2)) ∨
    ∃ p, P.Sets w p ∧ w'.log = w.log ∧ w'.members = (w.members.1, w.members.2.1, p) := by
  cases ha with
  | adapterOpened name r =>
    exact .inr (.inl ⟨_, r, List.mem_append_right _ List.mem_cons_self, rfl⟩)
  | setConnectionParameters p hp => exact .inr (.inr ⟨p, hp, rfl, rfl⟩)
  | event of ev how =>
    refine .inl ((World.finishFront_members _ how).trans ?_)
    cases ev <;> rfl
  | eventRead => split <;> exact .inl rfl
  | eventDiscovered of addr name =>
    refine .inl ?_
    unfold World.members
    rw [World.discovered_ble]
    rfl
  | refused e r cs t =>
    refine .inl ((World.finish_members _ .failure t).trans ?_)
    cases e <;> rfl
  | ran op rest ts => exact .inl (op.apply_members _)
  | trigger ts a => exact .inl (a.trigger.apply_members _ a.id)
  | services dev c r =>
    obtain ⟨devices, heq⟩ := (w.back (.discoverPrimary dev c) r).servicesStep_eq dev r
    rw [heq]
    exact .inl rfl
  | chars dev c r =>
    obtain ⟨devices, heq⟩ := (w.back (.discoverChar dev c) r).charsStep_eq dev r
    rw [heq]
    exact .inl rfl
  | inert _ hi =>
    unfold World.members
    rw [hi.ble]
    exact .inl rfl
  | _ => exact .inl rfl

end

end Gattlibpp
