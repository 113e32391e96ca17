import Gattlibpp.Act.Fits

/-!
# The connections in the device records

Which connection each record holds, and what changes it: the two connection events and
nothing else. Discovery and subscriptions leave the connections as they are.
-/

namespace Gattlibpp

open Open

namespace World

/-- The connection in each record, `none` where there is no record. -/
def connections (w : World) (dev : UUID) : Option (Option Conn) :=
  (w.ble.devices[dev]?).map (·.connection)

variable (w : World)

theorem connectionOf_eq (dev : UUID) : w.connectionOf dev = (w.connections dev).join := by
  unfold connectionOf connections
  cases w.ble.devices[dev]? <;> rfl

theorem connections_of_eq {w' : World} (h : w'.ble.devices = w.ble.devices) :
    w'.connections = w.connections := by
  unfold connections
  rw [h]

theorem connections_updateDevice (dev : UUID) (f : Device.Details → Device.Details)
    (g : Option Conn → Option Conn) (hf : ∀ d, (f d).connection = g d.connection) (e : UUID) :
    (w.updateDevice dev f).connections e =
      if e = dev then (w.connections e).map g else w.connections e := by
  simp only [connections, updateDevice, updateBle_ble, Std.TreeMap.getElem?_modify,
    Std.LawfulEqCmp.compare_eq_iff_eq]
  by_cases h : dev = e
  · subst h
    simp only [if_true, Option.map_map]
    cases w.ble.devices[dev]? with
    | none => rfl
    | some d => exact congrArg some (hf d)
  · rw [if_neg h, if_neg fun he => h he.symm]

/-- A change to something else in a record. -/
theorem connections_updateDevice_same (dev : UUID) {f : Device.Details → Device.Details}
    (hf : ∀ d, (f d).connection = d.connection) :
    (w.updateDevice dev f).connections = w.connections := by
  funext e
  rw [w.connections_updateDevice dev f id hf, Option.map_id, id, ite_self]

end World

/-! ## Discovery and subscriptions -/

section
variable [Gattlib]

theorem Device.Details.addServices_connection (d : Device.Details) (l : List GlPrimaryService) :
    (d.addServices l).connection = d.connection :=
  Device.Details.addServices_same (fun _ _ _ => rfl) d l

theorem Device.Details.addCharacteristics_connection (d : Device.Details)
    (l : List GlCharacteristic) : (d.addCharacteristics l).connection = d.connection :=
  Device.Details.addCharacteristics_same (fun _ _ _ => rfl) d l

namespace World

variable (w : World)

theorem servicesStep_connections (dev : UUID) (r : Resp) :
    (w.servicesStep dev r).connections = w.connections := by
  unfold servicesStep
  split
  · rfl
  · exact w.connections_updateDevice_same dev fun d => d.clearServices.addServices_connection _

theorem charsStep_connections (dev : UUID) (r : Resp) :
    (w.charsStep dev r).connections = w.connections := by
  unfold charsStep
  refine (connections_updateDevice_same _ dev (f := fun d => { d with discoveryDone := true })
    fun _ => rfl).trans ?_
  split
  · rfl
  · refine w.connections_updateDevice_same dev fun d => ?_
    exact d.clearCharacteristics.addCharacteristics_connection _

omit [Gattlib] in
theorem connections_subs {P : Policy} {w' : World} (h : Subs P w w') :
    w'.connections = w.connections := by
  obtain ⟨dev, f, hf⟩ := h
  exact w.connections_updateDevice_same dev fun d => (hf d).connection

end World

end

/-! ## The connection events -/

/-- `deviceConnected` stores the connection in the record `connected_to` names. -/
theorem connections_connected (w : World) (c : Option Conn) (dev : UUID) :
    ((Event.connected c).apply w).connections dev =
      if dev = w.ble.connectedTo then (w.connections dev).map fun _ => c else w.connections dev :=
  w.connections_updateDevice w.ble.connectedTo _ (fun _ => c) (fun _ => rfl) dev

theorem connections_disconnected (w : World) (dev : UUID) :
    (Event.disconnected.apply w).connections dev =
      if dev = w.ble.connectedTo then (w.connections dev).map fun _ => none
      else w.connections dev :=
  w.connections_updateDevice w.ble.connectedTo _ (fun _ => none) (fun _ => rfl) dev

end Gattlibpp
