import Gattlibpp.Queue.Later
import Gattlibpp.Connection.Target

/-!
# The discovery that completes a connect

With auto discovery on, a connect that gattlib has answered is completed by a chain of
reports: one discovers the services, one the characteristics, one calls back. Each step of
the chain may rely on what the steps before it have stored, as only one chain is under way
and only its own steps change what a record knows of its connection.
-/

namespace Gattlibpp

open Open

section
variable [Gattlib]

/-! ## What a discovery leaves in a record -/

namespace Device.Details

theorem addServices_congr (d d' : Device.Details) (hid : d.id = d'.id)
    (hs : d.services = d'.services) (l : List GlPrimaryService) :
    (d.addServices l).services = (d'.addServices l).services := by
  unfold addServices
  induction l generalizing d d' with
  | nil => exact hs
  | cons s l ih =>
    rw [List.foldl_cons, List.foldl_cons]
    cases Gattlib.uuidToString s.uuid with
    | none => exact ih d d' hid hs
    | some u =>
      refine ih _ _ hid ?_
      unfold addService
      rw [hid, hs]

theorem addCharacteristics_congr (d d' : Device.Details) (hid : d.id = d'.id)
    (hc : d.characteristics = d'.characteristics) (l : List GlCharacteristic) :
    (d.addCharacteristics l).characteristics = (d'.addCharacteristics l).characteristics := by
  unfold addCharacteristics
  induction l generalizing d d' with
  | nil => exact hc
  | cons c l ih =>
    rw [List.foldl_cons, List.foldl_cons]
    cases Gattlib.uuidToString c.uuid with
    | none => exact ih d d' hid hc
    | some u =>
      refine ih (d.addCharacteristic u c) (d'.addCharacteristic u c) hid ?_
      simp only [addCharacteristic, Characteristic.Details.ofGatt, if_true, hid, hc]

/-- The services are those that a discovery on the connection `c` has returned. -/
def HoldsServices (d : Device.Details) (dev : UUID) (c : Conn) (after : List Obs) : Prop :=
  ∃ r, .ret (.discoverPrimary dev (some c)) r ∈ after ∧ r.rc = 0 ∧
    d.services = ((Details.new d.id).addServices r.serviceList).services

/-- The characteristics are those that a discovery on the connection `c` has returned, but for
their marks. -/
def HoldsCharacteristics (d : Device.Details) (dev : UUID) (c : Conn) (after : List Obs) : Prop :=
  ∃ r, .ret (.discoverChar dev (some c)) r ∈ after ∧ r.rc = 0 ∧ ∀ k : UUID,
    (d.characteristics[k]?).map (·.unmarked) =
      (((Details.new d.id).addCharacteristics r.characteristicList).characteristics[k]?).map
        (·.unmarked)

/-- Both discoveries have succeeded on the connection `c`. -/
structure Discovered (d : Device.Details) (dev : UUID) (c : Conn) (after : List Obs) : Prop where
  done : d.discoveryDone = true
  services : d.HoldsServices dev c after
  characteristics : d.HoldsCharacteristics dev c after

variable {d d' : Device.Details} {dev : UUID} {c : Conn} {after l : List Obs}

theorem HoldsServices.keep (h : d.HoldsServices dev c after) (hs : d'.services = d.services)
    (hid : d'.id = d.id) (l : List Obs) : d'.HoldsServices dev c (after ++ l) := by
  obtain ⟨r, hr, hrc, heq⟩ := h
  exact ⟨r, List.mem_append_left _ hr, hrc, by rw [hs, hid, heq]⟩

theorem HoldsCharacteristics.keep (h : d.HoldsCharacteristics dev c after)
    (hc : d.SameCore d') (l : List Obs) : d'.HoldsCharacteristics dev c (after ++ l) := by
  obtain ⟨r, hr, hrc, heq⟩ := h
  refine ⟨r, List.mem_append_left _ hr, hrc, fun k => ?_⟩
  rw [hc.characteristics k, hc.id, heq k]

theorem Discovered.keep (h : d.Discovered dev c after) (hc : d.SameCore d') (l : List Obs) :
    d'.Discovered dev c (after ++ l) :=
  ⟨hc.discoveryDone.trans h.done, h.services.keep hc.services hc.id l, h.characteristics.keep hc l⟩

end Device.Details

/-! ## A connection and its record -/

/-- The connect `t` has got the connection `c`, which the record of `dev` holds. `after` is
what has happened since. -/
structure World.Joined (w : World) (t : ActionId) (dev : UUID) (c : Conn) (d : Device.Details)
    (after : List Obs) : Prop where
  connect : ∃ p, .call (.connect t dev p) ∈ w.log
  joined : ∃ before, w.log = before ++ .enter (.event (some t) (.connected (some c))) :: after
  record : w.ble.devices[dev]? = some d
  connection : d.connection = some c

/-- The connect `t` has got a connection to `dev` on which both discoveries have succeeded. -/
def World.Discovered (w : World) (t : ActionId) (dev : UUID) : Prop :=
  ∃ c d after, w.Joined t dev c d after ∧ d.Discovered dev c after

/-- The records that differ do so in their notification state. -/
def World.SameRecords (w w' : World) : Prop :=
  ∀ (dev : UUID) (d : Device.Details), w.ble.devices[dev]? = some d →
    ∃ d', w'.ble.devices[dev]? = some d' ∧ d.SameCore d'

/-- What a step of the chain finds. -/
abbrev Stage := UUID → Conn → Device.Details → List Obs → Prop

/-- Time and changes to the notification state do not matter. -/
def Stage.Lasts (R : Stage) : Prop :=
  ∀ {dev : UUID} {c : Conn} {d d' : Device.Details} {after : List Obs}, R dev c d after →
    d.SameCore d' → ∀ l, R dev c d' (after ++ l)

/-- The front has a connection, at stage `R`. -/
def World.Stands (w : World) (R : Stage) : Prop :=
  ∃ a dev c d after, w.front = some a ∧ w.Joined a.id dev c d after ∧ R dev c d after

/-- What has been done when the step is to run. -/
def QueuedOp.Ready : QueuedOp → Stage
  | .autoDiscoverServicesStep onDevice, dev, _, _, _ => onDevice = dev
  | .autoDiscoverCharacteristicsStep onDevice, dev, c, d, after =>
    onDevice = dev ∧ d.HoldsServices dev c after
  | .reportConnected, dev, c, d, after => d.Discovered dev c after
  | _, _, _, _, _ => True

/-- What has been done when the step has called out. -/
def Call.Ready : Call → Stage
  | .discoverPrimary onDevice connection, dev, c, _, _ => onDevice = dev ∧ connection = some c
  | .discoverChar onDevice connection, dev, c, d, after =>
    onDevice = dev ∧ connection = some c ∧ d.HoldsServices dev c after
  | _, _, _, _, _ => True

theorem QueuedOp.ready_lasts (op : QueuedOp) : op.Ready.Lasts := by
  intro dev c d d' after h hc l
  cases op with
  | autoDiscoverServicesStep => exact h
  | autoDiscoverCharacteristicsStep => exact ⟨h.1, h.2.keep hc.services hc.id l⟩
  | reportConnected => exact h.keep hc l
  | _ => trivial

theorem Call.ready_lasts (e : Call) : e.Ready.Lasts := by
  intro dev c d d' after h hc l
  cases e with
  | discoverPrimary => exact h
  | discoverChar => exact ⟨h.1, h.2.1, h.2.2.keep hc.services hc.id l⟩
  | _ => trivial

section
variable {w w' : World}

omit [Gattlib] in
theorem World.SameRecords.of_eq (h : w'.ble.devices = w.ble.devices) : w.SameRecords w' :=
  fun _ d hd => ⟨d, h ▸ hd, rfl, rfl, rfl, rfl, rfl, fun _ => rfl⟩

omit [Gattlib] in
theorem World.Joined.keep {t : ActionId} {dev : UUID} {c : Conn} {d : Device.Details}
    {after l : List Obs} (h : w.Joined t dev c d after) (hr : w.SameRecords w')
    (hl : w'.log = w.log ++ l) : ∃ d', w'.Joined t dev c d' (after ++ l) ∧ d.SameCore d' := by
  obtain ⟨d', hd', hc⟩ := hr dev d h.record
  obtain ⟨before, hlog⟩ := h.joined
  refine ⟨d', ⟨?_, ⟨before, ?_⟩, hd', hc.connection.trans h.connection⟩, hc⟩
  · exact h.connect.imp fun p hp => by
      rw [hl]
      exact List.mem_append_left _ hp
  · rw [hl, hlog, List.append_assoc, List.cons_append]

omit [Gattlib] in
theorem World.Stands.keep {R : Stage} (h : w.Stands R) (hR : R.Lasts) (hr : w.SameRecords w')
    (hl : w.log <+: w'.log) (hf : ∀ a, w.front = some a → ∃ a', w'.front = some a' ∧ a'.id = a.id) :
    w'.Stands R := by
  obtain ⟨a, dev, c, d, after, ha, hj, hs⟩ := h
  obtain ⟨l, hl⟩ := hl
  obtain ⟨a', ha', hid⟩ := hf a ha
  obtain ⟨d', hj', hc⟩ := hj.keep hr hl.symm
  exact ⟨a', dev, c, d', after ++ l, ha', hid ▸ hj', hR hs hc l⟩

theorem World.Discovered.keep {t : ActionId} {dev : UUID} (h : w.Discovered t dev)
    (hr : w.SameRecords w') (hl : w.log <+: w'.log) : w'.Discovered t dev := by
  obtain ⟨c, d, after, hj, hd⟩ := h
  obtain ⟨l, hl⟩ := hl
  obtain ⟨d', hj', hc⟩ := hj.keep hr hl.symm
  exact ⟨c, d', after ++ l, hj', hd.keep hc l⟩

end

end

end Gattlibpp
