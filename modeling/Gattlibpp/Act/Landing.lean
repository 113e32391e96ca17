import Gattlibpp.Act.Tick

/-!
# Where a callback of gattlib lands

What the callbacks of gattlib do from the move to where control leaves the library: the
central is changed as the act says, and the only undefined behaviour is a `NULL` record, or
the `doneCb` of a `shutdown` that has returned.
-/

namespace Gattlibpp

open Open

/-- Control leaves with the central in `b`, and the program halts only for reasons in `R`. -/
abbrev Lands (R : Fault → Prop) (b : BLECentral) {α : Type} (o : Out World Call Resp Fault α) :
    Prop :=
  o.Leaves (fun w => w.ble = b) R

/-- Calling `cb` writes no local of a `shutdown` that has returned. -/
def World.outlives (w : World) : Callback → Bool
  | some (.doneCb frame) => w.shutdowns.any (·.1 = frame)
  | _ => true

/-- The front's callback for the outcome may be called. -/
def World.CanFinish (R : Fault → Prop) (w : World) (how : Outcome) : Prop :=
  ∀ a, w.front = some a → w.outlives (how.callback a.callbacks) = false → R .freedLocal

section
variable {R : Fault → Prop} {w : World} {b : BLECentral}

theorem World.canFinish_of (h : R .freedLocal) (how : Outcome) : w.CanFinish R how :=
  fun _ _ _ => h

theorem lands_done {α : Type} {a : α} (h : w.ble = b) : Lands R b (.done w a) := ⟨h, nofun⟩

theorem doneCb_lands {frame : Nat} (h : w.ble = b)
    (hR : w.shutdowns.any (·.1 = frame) = false → R .freedLocal) : Lands R b (doneCb frame w) := by
  simp only [doneCb, adapterClose, ble_apply, Prog.bind_apply, Out.bind_done, Prog.ite_apply,
    Prog.pure_apply]
  split
  · simp only [Prog.bind_apply, Prog.get_apply, Out.bind_done, Prog.ite_apply]
    split
    · exact lands_done h
    · rename_i hs
      exact ⟨h, by rintro _ ⟨⟩; exact hR (Bool.eq_false_iff.mpr hs)⟩
  · refine ⟨h, fun why hwhy => ?_⟩
    cases hwhy

theorem invokeIfSet_lands {cb : Callback} {arg : Arg} {role : Role} (h : w.ble = b)
    (hR : w.outlives cb = false → R .freedLocal) :
    Lands R b (Callback.invokeIfSet cb arg role w) := by
  cases cb with
  | none => exact lands_done h
  | some f =>
    cases f with
    | user id => exact ⟨h, nofun⟩
    | debugPrint => exact lands_done h
    | doneCb frame => exact doneCb_lands h hR

theorem World.finishFront_devices (w : World) (how : Outcome) :
    (w.finishFront how).ble.devices = w.ble.devices := by
  unfold World.finishFront
  split
  · rfl
  · rw [World.finish_ble]
    rfl

theorem Trigger.apply_devices (w : World) (t : ActionId) (tr : Trigger) :
    (tr.apply w t).ble.devices = w.ble.devices := by
  cases tr with
  | stopScanDone =>
    simp only [Trigger.apply, World.finish_ble]
    rfl
  | read | write =>
    simp only [Trigger.apply]
    split <;> rfl
  | _ => rfl

theorem runFront_lands (how : Outcome) (hR : w.CanFinish R how) :
    Lands R (w.finishFront how).ble (how.runFront w) := by
  rw [runFront_eq, World.finishFront]
  cases hf : w.front with
  | none => exact lands_done rfl
  | some a =>
    simp only [run_eq how (w.action_of_front hf), World.finish_ble]
    exact invokeIfSet_lands rfl (hR a hf)

/-- `deviceConnected` finds a record, stores the connection, and completes the front or starts
the chain of steps. -/
theorem deviceConnected_lands (c : Option Conn) (hd : (w.ble.devices[w.ble.connectedTo]?).isSome)
    (hR : ∀ how ∈ (Event.connected c).outcome w.ble, w.CanFinish R how) :
    Lands R (match (Event.connected c).outcome w.ble with
      | some how => (((Event.connected c).apply w).finishFront how).ble
      | none => (((Event.connected c).apply w).report
          (.autoDiscoverServicesStep w.ble.connectedTo)).ble) (deviceConnected c w) := by
  obtain ⟨d, hd⟩ := Option.isSome_iff_exists.mp hd
  have hrec : record w.ble.connectedTo w = .done w d := by rw [record_eq, hd]
  simp only [deviceConnected, normalizeDeviceUUID, ble_apply, Prog.bind_apply, Out.bind_done, hrec,
    updateRecord, Prog.modify_apply, Prog.ite_apply]
  cases c with
  | none => exact runFront_lands .failure (hR .failure rfl)
  | some c =>
    have hauto : (w.updateDevice w.ble.connectedTo fun d =>
        { d with connection := some c }).ble.autoDiscover = w.ble.autoDiscover := rfl
    simp only [Option.isSome_some, if_true, hauto, Event.outcome] at hR ⊢
    cases hb : w.ble.autoDiscover with
    | true => exact lands_done rfl
    | false =>
      rw [hb] at hR
      exact runFront_lands .success (hR .success rfl)

theorem deviceDisconnected_lands (hR : w.CanFinish R .success) :
    Lands R ((Event.disconnected.apply w).finishFront .success).ble (deviceDisconnected w) := by
  simp only [deviceDisconnected, normalizeDeviceUUID, ble_apply, Prog.bind_apply, Out.bind_done,
    updateRecord, Prog.modify_apply, update_apply]
  exact runFront_lands .success hR

/-- `readDataReceived` reports the data and completes the front. -/
theorem readDataReceived_lands {buf : BinaryBuffer} {a : AsyncAction.Details}
    (hf : w.front = some a) :
    Lands R ((if a.callbacks.datareceived.isSome then
      w.report (.readData a.callbacks.datareceived buf a.id) else w).complete a.id).ble
      (readDataReceived buf w) := by
  obtain ⟨rest, hq⟩ := List.head?_eq_some_iff.mp hf
  have hmark {w1 : World} (hw1 : w1.front = some a) :
      Lands R (w1.complete a.id).ble (AsyncAction.markCompleted a.id w1) := by
    simp only [AsyncAction.markCompleted, AsyncAction.deref, Prog.bind_apply, Prog.get_apply,
      Out.bind_done, w1.action_of_front hw1]
    exact lands_done rfl
  simp only [readDataReceived, ble_apply, Prog.bind_apply, Out.bind_done, hq, Prog.ite_apply]
  split
  · exact hmark hf
  · exact hmark hf

end

section
variable [Gattlib]

/-- A callback of gattlib that completes the front lands there. -/
theorem handle_lands {R : Fault → Prop} {w : World} {ev : Event} {how : Outcome}
    (ho : ev.outcome w.ble = some how)
    (hc : ∀ c, ev = .connected c → (w.ble.devices[w.ble.connectedTo]?).isSome)
    (hR : w.CanFinish R how) : Lands R ((ev.apply w).finishFront how).ble (ev.handle w) := by
  cases ev with
  | connected c =>
    have h := deviceConnected_lands (R := R) c (hc c rfl) fun how' ho' => by
      cases ho.symm.trans ho'
      exact hR
    rw [ho] at h
    exact h
  | disconnected => cases ho; exact deviceDisconnected_lands hR
  | scanComplete | scanDisableDone | opDone => cases ho; exact runFront_lands .success hR
  | opFailed => cases ho; exact runFront_lands .failure hR
  | deviceDiscovered | readChar | notification => cases ho

/-- A move lands where its handler does. -/
theorem prog_lands {R : Fault → Prop} {b : BLECentral} {w : World} (of : Option ActionId)
    (ev : Event) (h : Lands R b (ev.handle (w.note (.enter (.event of ev))))) :
    Lands R b ((Move.event of ev).prog w) := by
  simp only [Move.prog, Prog.trapped, Prog.bind_apply, note_apply, Out.bind_done]
  refine Out.Leaves.trap (Out.Leaves.bind h fun w1 _ hw1 => ?_) fun _ hs => hs
  have h1 := h.state
  rw [hw1] at h1
  exact lands_done h1

end

end Gattlibpp
