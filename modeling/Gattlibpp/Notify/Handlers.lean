import Gattlibpp.Connection.Records
import Gattlibpp.Queue.Steady

/-!
# The notification handlers in the device records

Which handlers each record holds. `startNotification` sets one, and nothing erases any:
not a stop, not a disconnect, not a discovery.
-/

namespace Gattlibpp

open Open
open Std (TreeMap)

namespace World

/-- The handlers in each record, `none` where there is no record. -/
def handlers (w : World) (dev : UUID) : Option (TreeMap UUID Callback) :=
  (w.ble.devices[dev]?).map (·.notifHandlers)

variable (w : World)

theorem handlers_updateDevice (dev : UUID) (f : Device.Details → Device.Details) (e : UUID) :
    (w.updateDevice dev f).handlers e =
      if dev = e then (w.ble.devices[e]?).map fun d => (f d).notifHandlers else w.handlers e := by
  simp only [handlers, updateDevice, updateBle_ble, Std.TreeMap.getElem?_modify,
    Std.LawfulEqCmp.compare_eq_iff_eq]
  split
  · rename_i h
    subst h
    rw [Option.map_map]
    rfl
  · rfl

/-- A change to something else in a record. -/
theorem handlers_updateDevice_same (dev : UUID) {f : Device.Details → Device.Details}
    (hf : ∀ d, (f d).notifHandlers = d.notifHandlers) :
    (w.updateDevice dev f).handlers = w.handlers := by
  funext e
  rw [handlers_updateDevice]
  split
  · simp only [hf]
    rfl
  · rfl

theorem handlers_of_eq {w' : World} (h : w'.ble.devices = w.ble.devices) :
    w'.handlers = w.handlers := by
  unfold handlers
  rw [h]

section
variable [Gattlib]

theorem servicesStep_handlers (dev : UUID) (r : Resp) :
    (w.servicesStep dev r).handlers = w.handlers := by
  unfold servicesStep
  split
  · rfl
  · refine w.handlers_updateDevice_same dev fun d => ?_
    exact Device.Details.addServices_same (fun _ _ _ => rfl) d.clearServices _

theorem charsStep_handlers (dev : UUID) (r : Resp) :
    (w.charsStep dev r).handlers = w.handlers := by
  unfold charsStep
  refine (handlers_updateDevice_same _ dev (f := fun d => { d with discoveryDone := true })
    fun _ => rfl).trans ?_
  split
  · rfl
  · refine w.handlers_updateDevice_same dev fun d => ?_
    exact Device.Details.addCharacteristics_same (fun _ _ _ => rfl) d.clearCharacteristics _

end

end World

theorem Event.apply_handlers (w : World) (ev : Event) : (ev.apply w).handlers = w.handlers := by
  cases ev with
  | connected c => exact w.handlers_updateDevice_same _ fun _ => rfl
  | disconnected => exact w.handlers_updateDevice_same _ fun _ => rfl
  | _ => rfl

/-- The handlers stay as they are while what else changes. -/
theorem steady_handlers (H : UUID → Option (TreeMap UUID Callback)) :
    Steady fun w => w.handlers = H where
  same h _ hd _ _ _ := (World.handlers_of_eq _ hd).trans h
  update h _ _ := h
  pop h _ := h

/-- A request makes a record without handlers at most. -/
theorem Request.handlers {w w' : World} {op : Op} (h : Request w op w') (e : UUID) :
    w'.handlers e = w.handlers e ∨ w.handlers e = none ∧ w'.handlers e = some ∅ := by
  unfold World.handlers
  rcases h.record e with he | ⟨hnone, hnew⟩
  · exact .inl (by rw [he])
  · exact .inr ⟨by rw [hnone]; rfl, by rw [hnew]; rfl⟩

/-- A handler is set by `startNotification`. -/
theorem Subs.handlers {P : Policy} {w w' : World} (h : Subs P w w') (e k : UUID) (cb : Callback)
    (hk : ((w'.handlers e).bind fun m => m[k]?) = some cb) :
    ((w.handlers e).bind fun m => m[k]?) = some cb ∨
      ∃ u, k = Device.normalizeCharacteristicUUID u ∧ P.Starts w e u cb := by
  obtain ⟨dev, f, -, hf⟩ := h
  rcases hf with hf | ⟨u, cb', hP, hf⟩
  · rw [w.handlers_updateDevice_same dev hf] at hk
    exact .inl hk
  · rw [World.handlers_updateDevice] at hk
    split at hk
    · rename_i hde
      subst hde
      simp only [hf, Device.Details.setNotificationHandler] at hk
      rw [World.handlers]
      cases hd : w.ble.devices[dev]? with
      | none =>
        rw [hd] at hk
        cases hk
      | some d =>
        simp only [hd, Option.map_some, Option.bind_some, Std.TreeMap.getElem?_insert] at hk ⊢
        split at hk
        · rename_i he
          cases hk
          exact .inr ⟨u, (Std.LawfulEqOrd.eq_of_compare he).symm, hP⟩
        · exact .inl hk
    · exact .inl hk

section
variable [Gattlib] {P : Policy} {w w' : World}

/-- No act changes a handler. -/
theorem Act.handlers (hfifo : Fifo w) (ha : Act P w w') : w'.handlers = w.handlers :=
  (steady_handlers w.handlers).act rfl hfifo ha (fun _ ev _ => ev.apply_handlers _)
    (fun {v} dev r hv => (v.servicesStep_handlers dev r).trans hv)
    (fun _ _ _ => World.charsStep_handlers ..) (fun _ _ _ => rfl) fun _ => rfl

end

end Gattlibpp
