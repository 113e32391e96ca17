import Gattlibpp.Connection.Records
import Gattlibpp.Queue.Steady

/-!
# What every device record keeps

A record changes in few ways: it gets or loses a connection, a discovery fills its maps,
subscriptions change its notification state. What these keep holds of every record. So a
characteristic stands in the map of its device under the string of its UUID, and two entries
of one map never have the same UUID of gattlib: what gattlib is told for one of them says
nothing of another.
-/

namespace Gattlibpp

open Open

section
variable [Gattlib]

/-! ## Invariants of the records -/

/-- What holds of the record of `dev` whatever happens to it. -/
structure Device.Details.Lasting (R : UUID → Device.Details → Prop) : Prop where
  new : ∀ dev, R dev (.new dev)
  core : ∀ {dev : UUID} {d d' : Device.Details}, R dev d → d.SameCore d' → R dev d'
  connection : ∀ {dev : UUID} {d : Device.Details} (c : Option Conn), R dev d →
    R dev { d with connection := c }
  services : ∀ {dev : UUID} {d : Device.Details} (l : List GlPrimaryService), R dev d →
    R dev (d.clearServices.addServices l)
  done : ∀ {dev : UUID} {d : Device.Details}, R dev d → R dev { d with discoveryDone := true }
  characteristics : ∀ {dev : UUID} {d : Device.Details} (l : List GlCharacteristic), R dev d →
    R dev { d.clearCharacteristics.addCharacteristics l with discoveryDone := true }

theorem Device.Details.Lasting.and {R R' : UUID → Device.Details → Prop}
    (h : Device.Details.Lasting R) (h' : Device.Details.Lasting R') :
    Device.Details.Lasting fun dev d => R dev d ∧ R' dev d where
  new dev := ⟨h.new dev, h'.new dev⟩
  core hd hc := ⟨h.core hd.1 hc, h'.core hd.2 hc⟩
  connection c hd := ⟨h.connection c hd.1, h'.connection c hd.2⟩
  services l hd := ⟨h.services l hd.1, h'.services l hd.2⟩
  done hd := ⟨h.done hd.1, h'.done hd.2⟩
  characteristics l hd := ⟨h.characteristics l hd.1, h'.characteristics l hd.2⟩

/-- Every record satisfies `R`. -/
def World.Records (R : UUID → Device.Details → Prop) (w : World) : Prop :=
  ∀ (dev : UUID) (d : Device.Details), w.ble.devices[dev]? = some d → R dev d

namespace World.Records

variable {R : UUID → Device.Details → Prop} {w w' : World}

omit [Gattlib] in
theorem of_devices (h : w.Records R) (hd : w'.ble.devices = w.ble.devices) : w'.Records R := by
  unfold World.Records
  rwa [hd]

omit [Gattlib] in
theorem steady : Steady (World.Records R) where
  same h _ hd _ _ _ := h.of_devices hd
  update h _ _ := h
  pop h _ := h

omit [Gattlib] in
theorem updateDevice (h : w.Records R) (dev : UUID) {f : Device.Details → Device.Details}
    (hf : ∀ d, R dev d → R dev (f d)) : (w.updateDevice dev f).Records R := by
  intro e d hd
  simp only [World.updateDevice, World.updateBle_ble, Std.TreeMap.getElem?_modify] at hd
  split at hd
  · rename_i he
    obtain ⟨d', hd', rfl⟩ := Option.map_eq_some_iff.mp hd
    obtain rfl : dev = e := Std.LawfulEqOrd.eq_of_compare he
    exact hf d' (h dev d' hd')
  · exact h e d hd

section
variable (hR : Device.Details.Lasting R)
include hR

theorem event (h : w.Records R) (m : Move) (ev : Event) :
    (ev.apply (w.note (.enter m))).Records R := by
  have hn := steady.note h (.enter m)
  cases ev with
  | connected c => exact hn.updateDevice _ fun _ => hR.connection c
  | disconnected =>
    exact (hn.updateDevice w.ble.connectedTo (f := fun d => { d with connection := none })
      fun _ => hR.connection none).of_devices rfl
  | _ => exact hn

theorem servicesStep (h : w.Records R) (dev : UUID) (r : Resp) :
    (w.servicesStep dev r).Records R := by
  unfold World.servicesStep
  split
  · exact h
  · exact h.updateDevice dev fun _ => hR.services _

theorem charsStep (h : w.Records R) (dev : UUID) (r : Resp) : (w.charsStep dev r).Records R := by
  unfold World.charsStep
  split
  · exact h.updateDevice dev fun _ => hR.done
  · -- the two changes of the record are one
    intro e d hd
    simp only [World.updateDevice, World.updateBle_ble, Std.TreeMap.getElem?_modify] at hd
    split at hd
    · rename_i he
      rw [if_pos Std.ReflCmp.compare_self, Option.map_map] at hd
      obtain ⟨d', hd', rfl⟩ := Option.map_eq_some_iff.mp hd
      obtain rfl : dev = e := Std.LawfulEqOrd.eq_of_compare he
      exact hR.characteristics _ (h dev d' hd')
    · exact h e d hd

/-- **Step lemma.** -/
theorem act {T : Terms} {P : Policy} (h : w.Records R) (hfifo : Fifo w) (ha : Stretch T P w w') :
    w'.Records R :=
  steady.act h hfifo ha (fun _ ev _ => h.event hR _ ev) (fun dev r h => h.servicesStep hR dev r)
    (fun {dev c r} _ _ _ =>
      World.Records.charsStep hR (w := w.back (.discoverChar dev c) r) h dev r)
    (fun _ _ _ => h) fun _ => h

theorem request {op : Op} (h : w.Records R) (hr : Request w op w') : w'.Records R := by
  intro e d hd
  rcases hr.record e with he | ⟨-, hnew⟩
  · exact h e d (he ▸ hd)
  · cases hnew.symm.trans hd
    exact hR.new e

theorem updateCore (h : w.Records R) (dev : UUID) {f : Device.Details → Device.Details}
    (hf : ∀ d : Device.Details, d.SameCore (f d)) : (w.updateDevice dev f).Records R :=
  h.updateDevice dev fun d hd => hR.core hd (hf d)

theorem subs {P : Policy} (h : w.Records R) (hs : Subs P w w') : w'.Records R := by
  obtain ⟨dev, f, hf, -⟩ := hs
  exact h.updateCore hR dev hf

end

end World.Records

def recordClaim (P : Policy) {R : UUID → Device.Details → Prop} (hR : Device.Details.Lasting R) :
    Claim P where
  inv w := Fifo w ∧ w.Records R
  crash _ _ := True
  act h ha := ⟨⟨h.1.act ha, h.2.act hR h.1 ha⟩, trivial⟩
  exit h _ := ⟨⟨h.1.note ⟨rfl, rfl, rfl⟩, h.2⟩, trivial⟩
  drop _ h _ _ _ := ⟨⟨h.1.setTicks _, h.2⟩, trivial⟩
  request h _ hr := ⟨⟨h.1.request hr, h.2.request hR hr⟩, trivial⟩
  freed _ _ _ _ _ _ := trivial
  missing _ _ _ _ _ _ _ _ := trivial
  other _ _ := trivial

theorem recordClaim_notifies (P : Policy) {R : UUID → Device.Details → Prop}
    (hR : Device.Details.Lasting R) : (recordClaim P hR).Notifies :=
  .of_subs (fun h hs => ⟨⟨h.1.subs hs, h.2.subs hR hs⟩, trivial⟩) fun _ _ _ => trivial

/-- **Run lemma.** -/
theorem records_reach {R : UUID → Device.Details → Prop} (hR : Device.Details.Lasting R)
    {P : Policy} {c : Config World Call Resp Fault} (h : Reach P .init c) (hf : c.fault = none) :
    c.s.Records R := by
  have hinit : World.init.Records R := fun dev d hd => by simp [World.init] at hd
  exact (Claim.reach (recordClaim_notifies P hR) trivial ⟨.init, hinit⟩ h hf).2

/-! ## The keys of the characteristics -/

/-- Each characteristic stands under the string of its UUID. -/
def Device.Details.Keyed (d : Device.Details) : Prop :=
  ∀ (k : UUID) (g : GlUuid), (d.characteristics[k]?).map (·.glUuid) = some g →
    (Gattlib.uuidToString g).map Device.normalizeCharacteristicUUID = some k

namespace Device.Details.Keyed

variable {d d' : Device.Details}

theorem of_eq (h : d.Keyed) (hc : ∀ k : UUID, (d'.characteristics[k]?).map (·.glUuid) =
    (d.characteristics[k]?).map (·.glUuid)) : d'.Keyed :=
  fun k g hg => h k g (hc k ▸ hg)

theorem of_empty (h : d.characteristics = ∅) : d.Keyed := by
  intro k g hg
  rw [h] at hg
  simp at hg

/-- One entry more, under its string. -/
theorem addCharacteristic (h : d.Keyed) {uuid : UUID} {c : GlCharacteristic}
    (hc : Gattlib.uuidToString c.uuid = some uuid) : (d.addCharacteristic uuid c).Keyed := by
  intro k g hg
  simp only [Device.Details.addCharacteristic, Characteristic.Details.ofGatt, reduceIte,
    Std.TreeMap.getElem?_insertIfNew] at hg
  split at hg
  · rename_i hnew
    obtain rfl : Device.normalizeCharacteristicUUID uuid = k :=
      Std.LawfulEqOrd.eq_of_compare hnew.1
    obtain rfl : c.uuid = g := by simpa using hg
    rw [hc]
    rfl
  · exact h k g hg

theorem addCharacteristics (h : d.Keyed) (l : List GlCharacteristic) :
    (d.addCharacteristics l).Keyed :=
  addCharacteristics_keeps (R := Keyed) (fun _ _ _ hc h => h.addCharacteristic hc) h l

/-- No two entries have the same UUID. -/
theorem key_eq (h : d.Keyed) {k k' : UUID} {c c' : Characteristic.Details}
    (hk : d.characteristics[k]? = some c) (hk' : d.characteristics[k']? = some c')
    (hg : c.glUuid = c'.glUuid) : k = k' := by
  have h1 := h k c.glUuid (by rw [hk]; rfl)
  have h2 := h k' c.glUuid (by rw [hk', hg]; rfl)
  exact Option.some.inj (h1.symm.trans h2)

theorem lasting : Lasting fun _ d => d.Keyed where
  new _ := .of_empty rfl
  core h hc := h.of_eq hc.glUuid
  connection _ h := h
  services l h := h.of_eq fun k => by
    rw [addServices_same (g := fun d => d.characteristics) (fun _ _ _ => rfl)]
    rfl
  done h := h
  characteristics l _ := (of_empty (d := clearCharacteristics _) rfl).addCharacteristics l

end Device.Details.Keyed

theorem keyed_reach {P : Policy} {c : Config World Call Resp Fault} (h : Reach P .init c)
    (hf : c.fault = none) : c.s.Records fun _ d => d.Keyed :=
  records_reach Device.Details.Keyed.lasting h hf

/-! ## Names -/

/-- A record has the name it is looked up by, and so have its characteristics, in lower case. -/
structure Device.Details.Named (dev : UUID) (d : Device.Details) : Prop where
  id : d.id = dev
  characteristics : ∀ k i : UUID, (d.characteristics[k]?).map (·.id) = some i →
    i = k ∧ Device.normalizeCharacteristicUUID k = k

namespace Device.Details.Named

variable {d : Device.Details} {dev : UUID}

omit [Gattlib] in
theorem addCharacteristic (h : d.Named dev) (uuid : UUID) (c : GlCharacteristic) :
    (d.addCharacteristic uuid c).Named dev where
  id := h.id
  characteristics k i hi := by
    simp only [Device.Details.addCharacteristic, Characteristic.Details.ofGatt, reduceIte,
      Std.TreeMap.getElem?_insertIfNew] at hi
    split at hi
    · rename_i hnew
      obtain rfl : normalizeCharacteristicUUID uuid = k := Std.LawfulEqOrd.eq_of_compare hnew.1
      exact ⟨(Option.some.inj hi).symm, normalizeCharacteristicUUID_idem uuid⟩
    · exact h.characteristics k i hi

theorem addCharacteristics (h : d.Named dev) (l : List GlCharacteristic) :
    (d.addCharacteristics l).Named dev :=
  addCharacteristics_keeps (R := Named dev) (fun _ u c _ h => h.addCharacteristic u c) h l

theorem lasting : Lasting fun dev d => d.Named dev where
  new dev := ⟨rfl, fun k i hi => by simp [new] at hi⟩
  core h hc := by
    refine ⟨hc.id.trans h.id, fun k i hi => h.characteristics k i (hi ▸ ?_)⟩
    have hk := congrArg (Option.map Characteristic.Details.id) (hc.characteristics k)
    rw [Option.map_map, Option.map_map] at hk
    exact hk.symm
  connection _ h := ⟨h.id, h.characteristics⟩
  services l h := by
    refine ⟨?_, fun k i hi => h.characteristics k i (hi ▸ ?_)⟩
    · rw [addServices_same (g := fun d => d.id) (fun _ _ _ => rfl)]
      exact h.id
    · rw [addServices_same (g := fun d => d.characteristics) (fun _ _ _ => rfl)]
      rfl
  done h := ⟨h.id, h.characteristics⟩
  characteristics {_ d} l h := by
    have hclear : d.clearCharacteristics.Named _ := ⟨h.id, fun k i hi => by
      simp [clearCharacteristics] at hi⟩
    have hadd := hclear.addCharacteristics l
    exact ⟨hadd.id, hadd.characteristics⟩

end Device.Details.Named

theorem named_reach {P : Policy} {c : Config World Call Resp Fault} (h : Reach P .init c)
    (hf : c.fault = none) : c.s.Records fun dev d => d.Named dev :=
  records_reach Device.Details.Named.lasting h hf

/-- Before its discovery a device has no characteristics. -/
theorem Device.Details.undiscovered_lasting : Device.Details.Lasting fun _ d =>
    d.discoveryDone = false → ∀ k : UUID, d.characteristics[k]? = none where
  new _ _ k := by simp [Device.Details.new]
  core h hc hdone k := by
    have hk := hc.characteristics k
    rw [h (hc.discoveryDone ▸ hdone) k] at hk
    simpa using hk
  connection _ h := h
  services l h hdone k := by
    rw [Device.Details.addServices_same (g := fun d => d.characteristics) (fun _ _ _ => rfl)]
    rw [Device.Details.addServices_same (g := fun d => d.discoveryDone) (fun _ _ _ => rfl)] at hdone
    exact h hdone k
  done _ hdone := nomatch hdone
  characteristics _ _ hdone := nomatch hdone

end

end Gattlibpp
