import Gattlibpp.Act.Fits
import Gattlibpp.Central.Basic
import Gattlibpp.Discovery.Lookup

/-!
# How the library represents a central

The members of `BLECentral` hold the state of a `Central`: each map holds the first of the entries
that gattlib has returned under one name, the closed adapter is kept, and a name that was looked
up may stand empty in the cache.
-/

namespace Gattlibpp

open Open Maps
open Std (TreeMap)

section
variable [Gattlib]

/-- The record of the device `dev` represents `p`. -/
structure Peer.Repr (dev : UUID) (p : Peer) (d : Device.Details) : Prop where
  id : d.id = dev
  connection : d.connection = p.connection
  discovered : d.discoveryDone = p.discovered
  discoveries : d.epoch = p.discoveries
  services : ∀ k : UUID, d.services[k]? =
    (p.services.find? (·.key = some k)).map (.ofGatt dev k)
  characteristics : ∀ k : UUID, (d.characteristics[k]?).map (·.unmarked) =
    (p.characteristics.find? (·.key = some k)).map (.ofGatt dev k)

/-- The members of the library represent `s`. -/
structure Central.Repr (s : Central) (b : BLECentral) : Prop where
  adapterIsOpen : b.adapterIsOpen = s.adapter.isSome
  adapter : ∀ a, s.adapter = some a → b.adapter = a
  scanning : b.isScanning = s.scanning
  autoDiscover : b.autoDiscover = s.autoDiscover
  target : b.connectedTo = s.target
  peer : ∀ dev : UUID, Option.Rel (Peer.Repr dev) (s.peer dev) b.devices[dev]?
  name : ∀ u : UUID, (b.namesCache[u]?).getD "" = (s.name u).getD ""
  jobs : b.asyncActions.map (·.job) = s.jobs
  reports : b.reportQueue = s.reports

/-! ## Records -/

namespace Peer.Repr

variable {dev : UUID} {p : Peer} {d d' : Device.Details}

theorem new (dev : UUID) : Peer.Repr dev {} (.new dev) where
  id := rfl
  connection := rfl
  discovered := rfl
  discoveries := rfl
  services k := by simp [Device.Details.new]
  characteristics k := by simp [Device.Details.new]

/-- The notification state of a record does not matter. -/
theorem core (h : p.Repr dev d) (hc : d.SameCore d') : p.Repr dev d' where
  id := hc.id.trans h.id
  connection := hc.connection.trans h.connection
  discovered := hc.discoveryDone.trans h.discovered
  discoveries := hc.epoch.trans h.discoveries
  services k := hc.services ▸ h.services k
  characteristics k := (hc.characteristics k).trans (h.characteristics k)

theorem connect (h : p.Repr dev d) (c : Option Conn) :
    Peer.Repr dev { p with connection := c } { d with connection := c } :=
  ⟨h.id, rfl, h.discovered, h.discoveries, h.services, h.characteristics⟩

theorem done (h : p.Repr dev d) :
    Peer.Repr dev { p with discovered := true } { d with discoveryDone := true } :=
  ⟨h.id, h.connection, rfl, h.discoveries, h.services, h.characteristics⟩

theorem discoverServices (h : p.Repr dev d) (l : List GlPrimaryService) :
    Peer.Repr dev { p with services := l } (d.clearServices.addServices l) where
  id := (Device.Details.addServices_same (g := (·.id)) (fun _ _ _ => rfl) ..).trans h.id
  connection := (Device.Details.addServices_same (g := (·.connection)) (fun _ _ _ => rfl) ..).trans
    h.connection
  discovered := (Device.Details.addServices_same (g := (·.discoveryDone)) (fun _ _ _ => rfl)
    ..).trans h.discovered
  discoveries := (d.clearServices.addServices_keeps l).1.trans h.discoveries
  services k := by
    rw [Device.Details.services_addServices, getElem?_keepFirst, ← h.id]
    simp only [Device.Details.clearServices, TreeMap.getElem?_emptyc, Option.none_or]
  characteristics k := by
    rw [(d.clearServices.addServices_keeps l).2]
    exact h.characteristics k

theorem discoverCharacteristics (h : p.Repr dev d) (l : List GlCharacteristic) :
    Peer.Repr dev { p with characteristics := l, discoveries := p.discoveries + 1 }
      (d.clearCharacteristics.addCharacteristics l) where
  id := (Device.Details.addCharacteristics_same (g := (·.id)) (fun _ _ _ => rfl) ..).trans h.id
  connection := (Device.Details.addCharacteristics_same (g := (·.connection)) (fun _ _ _ => rfl)
    ..).trans h.connection
  discovered := (Device.Details.addCharacteristics_same (g := (·.discoveryDone)) (fun _ _ _ => rfl)
    ..).trans h.discovered
  discoveries := by
    rw [Device.Details.addCharacteristics_same (g := (·.epoch)) (fun _ _ _ => rfl), ← h.discoveries]
    rfl
  services k := by
    rw [Device.Details.addCharacteristics_same (g := (·.services)) (fun _ _ _ => rfl)]
    exact h.services k
  characteristics k := by
    rw [Device.Details.characteristics_addCharacteristics, getElem?_keepFirst, ← h.id,
      Option.map_or, Option.map_map]
    simp only [Device.Details.clearCharacteristics, TreeMap.getElem?_emptyc, Option.map_none,
      Option.none_or]
    rfl

end Peer.Repr

/-! ## Members -/

namespace Central.Repr

variable {s : Central} {b b' : BLECentral} {w w' : World} {a : AsyncAction.Details}
  {rest : List AsyncAction.Details}

theorem init : Central.Repr {} {} where
  adapterIsOpen := rfl
  adapter := by simp
  scanning := rfl
  autoDiscover := rfl
  target := rfl
  peer dev := by
    rw [show ({} : BLECentral).devices[dev]? = none from TreeMap.getElem?_emptyc]
    exact .none
  name u := by
    rw [show ({} : BLECentral).namesCache[u]? = none from TreeMap.getElem?_emptyc]
  jobs := rfl
  reports := rfl

theorem peer_cases (h : s.Repr b) (dev : UUID) : s.peer dev = none ∧ b.devices[dev]? = none ∨
    ∃ p d, s.peer dev = some p ∧ b.devices[dev]? = some d ∧ p.Repr dev d := by
  have hrel := h.peer dev
  generalize s.peer dev = p, b.devices[dev]? = d at hrel
  cases hrel with
  | none => exact .inl ⟨rfl, rfl⟩
  | some hr => exact .inr ⟨_, _, rfl, rfl, hr⟩

/-- A change to a record, and to what is known of the device. -/
theorem setPeer (h : s.Repr b) (dev : UUID) {f : Peer → Peer}
    {g : Device.Details → Device.Details} (hfg : ∀ p d, Peer.Repr dev p d → (f p).Repr dev (g d)) :
    (s.setPeer dev f).Repr { b with devices := b.devices.modify dev g } := by
  refine { h with peer := fun e => ?_ }
  rw [TreeMap.getElem?_modify]
  change Option.Rel _ (Function.update s.peer dev ((s.peer dev).map f) e) _
  by_cases he : dev = e
  · subst he
    rw [if_pos Std.ReflCmp.compare_self, Function.update_self]
    rcases h.peer_cases dev with ⟨hp, hd⟩ | ⟨p, d, hp, hd, hr⟩
    · rw [hp, hd]
      exact .none
    · rw [hp, hd]
      exact .some (hfg p d hr)
  · rw [if_neg (fun hc => he (Std.LawfulEqOrd.eq_of_compare hc)),
      Function.update_of_ne (Ne.symm he)]
    exact h.peer e

theorem setFront (h : s.Repr b) (hq : b.asyncActions = a :: rest) {f : Job → Job}
    {a' : AsyncAction.Details} (hf : a'.job = f a.job) :
    (s.setFront f).Repr { b with asyncActions := a' :: rest } := by
  refine { h with jobs := ?_ }
  unfold Central.setFront
  rw [← h.jobs, hq, List.map_cons, List.map_cons, hf]
  rfl

/-- There is a front where there is a first job. -/
theorem head (h : s.Repr w.ble) : s.jobs.head? = w.front.map (·.job) := by
  rw [← h.jobs, List.head?_map]
  rfl

/-- The front action changes. -/
theorem updateFront (h : s.Repr w.ble) (hfifo : Fifo w) (hf : w.front = some a) {f : Job → Job}
    {g : AsyncAction.Details → AsyncAction.Details} (hg : (g a).job = f a.job) :
    (s.setFront f).Repr (w.updateAction a.id g).ble := by
  obtain ⟨rest, hq⟩ : ∃ rest, w.ble.asyncActions = a :: rest := List.head?_eq_some_iff.mp hf
  have hq' := hfifo.updateAction_front hq g
  have hble : (w.updateAction a.id g).ble = { w.ble with asyncActions := g a :: rest } := by
    rw [← hq']
    rfl
  rw [hble]
  exact h.setFront hq hg

theorem complete (h : s.Repr w.ble) (hfifo : Fifo w) (hf : w.front = some a) :
    s.complete.Repr (w.complete a.id).ble := h.updateFront hfifo hf rfl

/-- Without an action there is nothing to complete. -/
theorem complete_none (h : s.Repr w.ble) (hf : w.front = none) : s.complete.Repr w.ble := by
  refine { h with jobs := ?_ }
  have hq : w.ble.asyncActions = [] := List.head?_eq_none_iff.mp hf
  have hj := h.jobs
  rw [hq, List.map_nil] at hj
  unfold Central.complete Central.setFront
  rw [hq, ← hj]
  rfl

/-- An action is queued, once its request is prepared. -/
theorem accept (a : AsyncAction.Details) (h : (s.prepare a.trigger).Repr w.ble) :
    (s.accept (AsyncAction.Details.job { a with id := w.serial })).Repr (w.enqueue a).ble := by
  have hjobs : (s.prepare a.trigger).jobs = s.jobs := by cases a.trigger <;> rfl
  refine { h with jobs := ?_ }
  rw [World.enqueue, List.map_append, h.jobs, hjobs]
  rfl

theorem connectionOf (h : s.Repr w.ble) (dev : UUID) : w.connectionOf dev = s.connectionOf dev := by
  unfold World.connectionOf Central.connectionOf
  rcases h.peer_cases dev with ⟨hp, hd⟩ | ⟨p, d, hp, hd, hr⟩
  · rw [hp, hd]
    rfl
  · rw [hp, hd]
    exact hr.connection

/-- A reference refers to what was made from the characteristic it refers to in the discovery. -/
theorem captured (h : s.Repr w.ble) (dev : UUID) (r : Device.CharRef) :
    (w.captured dev r).map (·.unmarked) = (s.refers dev r).map (.ofGatt dev r.key) := by
  unfold World.captured Central.refers
  rcases h.peer_cases dev with ⟨hp, hd⟩ | ⟨p, d, hp, hd, hr⟩
  · rw [hp, hd]
    rfl
  · rw [hp, hd, Option.bind_some, Option.bind_some, Device.Details.deref, hr.discoveries]
    split
    · exact hr.characteristics r.key
    · rfl

end Central.Repr

end

end Gattlibpp
