import Gattlibpp.Act.Effects
import Gattlibpp.Maps.KeepFirst
import Mathlib.Data.String.Basic

/-!
# What discovery stores and what is listed

A discovery replaces a map of the record by what gattlib has returned: one entry for each
UUID, made from the first element of the array that has it. `characteristicsFor` and
`servicesFor` list the entries in the order of their UUIDs, and the lookups find them in any
letter case.
-/

namespace Gattlibpp

open Open Maps
open Std (TreeMap)
open Device (normalizeCharacteristicUUID normalizeServiceUUID normalizeCharacteristicUUID_idem
  normalizeServiceUUID_idem)

/-! ## A listing -/

/-- `l` lists what the `entries` of an array have given: by name, one of each name, made from
the first entry that has it. -/
structure Lists {α β : Type} (key : α → Option UUID) (name : β → UUID) (Made : α → β → Prop)
    (entries : List α) (l : List β) : Prop where
  ascending : l.Pairwise fun a b => name a < name b
  first : ∀ v ∈ l, ∃ x, IsFirst key entries (name v) x ∧ Made x v
  all : ∀ x ∈ entries, ∀ k, key x = some k → ∃ v ∈ l, name v = k

/-- A map that has kept the first of the entries shows them so. -/
theorem Lists.of_keepFirst {α β : Type} {key : α → Option UUID} {name : β → UUID}
    {Made : α → β → Prop} {val : UUID → α → β} (hname : ∀ k x, name (val k x) = k)
    (hmade : ∀ k x, Made x (val k x)) (entries : List α) :
    Lists key name Made entries (values (keepFirst key val ∅ entries : TreeMap UUID β)) where
  ascending := by
    refine (values_ordered name fun k v hv => ?_).imp compare_lt_iff_lt.mp
    obtain ⟨x, -, rfl⟩ := getElem?_keepFirst_empty.mp hv
    exact hname k x
  first v hv := by
    obtain ⟨k, hk⟩ := mem_values.mp hv
    obtain ⟨x, hx, rfl⟩ := getElem?_keepFirst_empty.mp hk
    exact ⟨x, (hname k x).symm ▸ hx, hmade k x⟩
  all x hx k hk := by
    obtain ⟨y, hy⟩ := exists_isFirst hx hk
    exact ⟨val k y, mem_values.mpr ⟨k, getElem?_keepFirst_empty.mpr ⟨y, hy, rfl⟩⟩, hname k y⟩

/-- A name is found if and only if it is listed, as `norm` spells it. -/
theorem contains_keepFirst {α β : Type} {key : α → Option UUID} {name : β → UUID}
    {val : UUID → α → β} {norm : UUID → UUID} (hname : ∀ k x, name (val k x) = k)
    (hkey : ∀ x k, key x = some k → norm k = k) {entries : List α} {u : UUID} :
    (keepFirst key val ∅ entries : TreeMap UUID β).contains (norm u) = true ↔
      ∃ v ∈ values (keepFirst key val ∅ entries : TreeMap UUID β), norm u = norm (name v) := by
  rw [TreeMap.contains_eq_isSome_getElem?, Option.isSome_iff_exists]
  constructor
  · rintro ⟨v, hv⟩
    obtain ⟨x, hx, rfl⟩ := getElem?_keepFirst_empty.mp hv
    exact ⟨_, mem_values.mpr ⟨norm u, hv⟩, by rw [hname, hkey x _ hx.1]⟩
  · rintro ⟨v, hv, hu⟩
    obtain ⟨k, hk⟩ := mem_values.mp hv
    obtain ⟨x, hx, rfl⟩ := getElem?_keepFirst_empty.mp hk
    rw [hname, hkey x k hx.1] at hu
    exact ⟨_, hu ▸ hk⟩

/-- A characteristic of the device `id` that is made from `x`. -/
structure Characteristic.Details.MadeFrom (c : Characteristic.Details) (id : UUID)
    (x : GlCharacteristic) : Prop where
  deviceId : c.deviceId = id
  glUuid : c.glUuid = x.uuid
  registeredForNotifs : c.registeredForNotifs = false
  properties : ∀ p, p ∈ c.properties ↔ p ≠ .undefined ∧ x.properties &&& p.bits ≠ 0

theorem Characteristic.mem_propertiesOf {p : Property} {bits : UInt8} :
    p ∈ propertiesOf bits ↔ p ≠ .undefined ∧ bits &&& p.bits ≠ 0 := by
  have hmem : p ∈ possVals.takeWhile (· ≠ .undefined) ↔ p ≠ .undefined := by
    cases p <;> decide
  rw [propertiesOf, List.mem_filter, hmem, decide_eq_true_eq]

theorem Characteristic.Details.ofGatt_madeFrom (id k : UUID) (x : GlCharacteristic) :
    (ofGatt id k x).MadeFrom id x :=
  ⟨rfl, rfl, rfl, fun _ => mem_propertiesOf⟩

section
variable [Gattlib]

/-! ## The maps after a discovery -/

/-- Where a characteristic goes, if its UUID can be converted. -/
def GlCharacteristic.key (c : GlCharacteristic) : Option UUID :=
  (Gattlib.uuidToString c.uuid).map normalizeCharacteristicUUID

def GlPrimaryService.key (s : GlPrimaryService) : Option UUID :=
  (Gattlib.uuidToString s.uuid).map normalizeServiceUUID

theorem Device.Details.characteristics_addCharacteristics (d : Device.Details)
    (l : List GlCharacteristic) : (d.addCharacteristics l).characteristics =
      keepFirst GlCharacteristic.key (.ofGatt d.id) d.characteristics l := by
  unfold addCharacteristics
  induction l generalizing d with
  | nil => rfl
  | cons c l ih =>
    rw [List.foldl_cons]
    cases hc : Gattlib.uuidToString c.uuid with
    | none => rw [keepFirst_cons_none (by simp [GlCharacteristic.key, hc]), ← ih d]
    | some u =>
      rw [keepFirst_cons_some (k := normalizeCharacteristicUUID u) (by simp [GlCharacteristic.key, hc])]
      exact ih (d.addCharacteristic u c)

theorem Device.Details.services_addServices (d : Device.Details) (l : List GlPrimaryService) :
    (d.addServices l).services = keepFirst GlPrimaryService.key (.ofGatt d.id) d.services l := by
  unfold addServices
  induction l generalizing d with
  | nil => rfl
  | cons s l ih =>
    rw [List.foldl_cons]
    cases hs : Gattlib.uuidToString s.uuid with
    | none => rw [keepFirst_cons_none (by simp [GlPrimaryService.key, hs]), ← ih d]
    | some u =>
      rw [keepFirst_cons_some (k := normalizeServiceUUID u) (by simp [GlPrimaryService.key, hs])]
      exact ih (d.addService u s)

/-! ## What the lists say -/

/-- What `characteristicsFor` shows of the `entries`, and what `hasCharacteristic` finds. -/
structure BLECentral.ShowsCharacteristics (b : BLECentral) (dev id : UUID)
    (entries : List GlCharacteristic) : Prop where
  lists : Lists GlCharacteristic.key (·.id) (fun x c => c.MadeFrom id x) entries
    (b.characteristicsFor dev)
  found : ∀ d, b.devices[dev]? = some d → ∀ u, d.hasCharacteristic u = true ↔
    ∃ c ∈ b.characteristicsFor dev, normalizeCharacteristicUUID u = normalizeCharacteristicUUID c.id

/-- What `servicesFor` shows of the `entries`, and what `hasService` finds. -/
structure BLECentral.ShowsServices (b : BLECentral) (dev id : UUID)
    (entries : List GlPrimaryService) : Prop where
  lists : Lists GlPrimaryService.key (·.id)
    (fun x s => s.deviceId = id ∧ s.glUuid = x.uuid ∧ s.glService = x) entries (b.servicesFor dev)
  found : ∀ d, b.devices[dev]? = some d → ∀ u, d.hasService u = true ↔
    ∃ s ∈ b.servicesFor dev, normalizeServiceUUID u = normalizeServiceUUID s.id

theorem GlCharacteristic.key_lower (x : GlCharacteristic) (k : UUID) (h : x.key = some k) :
    normalizeCharacteristicUUID k = k := by
  obtain ⟨v, -, rfl⟩ := Option.map_eq_some_iff.mp h
  exact normalizeCharacteristicUUID_idem v

theorem GlPrimaryService.key_lower (x : GlPrimaryService) (k : UUID) (h : x.key = some k) :
    normalizeServiceUUID k = k := by
  obtain ⟨v, -, rfl⟩ := Option.map_eq_some_iff.mp h
  exact normalizeServiceUUID_idem v

theorem BLECentral.showsCharacteristics {b : BLECentral} {dev : UUID} {d : Device.Details}
    (hd : b.devices[dev]? = some d) (hdone : d.discoveryDone = true) {id : UUID}
    {l : List GlCharacteristic}
    (h : d.characteristics = keepFirst GlCharacteristic.key (.ofGatt id) ∅ l) :
    b.ShowsCharacteristics dev id l := by
  have hlist : b.characteristicsFor dev =
      values (keepFirst GlCharacteristic.key (.ofGatt id) ∅ l : TreeMap UUID _) := by
    unfold characteristicsFor deviceDetails normalizeDeviceUUID
    rw [hd]
    simp [hdone, h, values]
  have hname (k : UUID) (x : GlCharacteristic) :
      (Characteristic.Details.ofGatt id k x).id = k := rfl
  refine ⟨?_, fun d' hd' u => ?_⟩
  · rw [hlist]
    exact .of_keepFirst hname (fun k x => Characteristic.Details.ofGatt_madeFrom id k x) l
  · obtain rfl : d = d' := Option.some.inj (hd.symm.trans hd')
    unfold Device.Details.hasCharacteristic
    rw [hlist, h]
    exact contains_keepFirst hname GlCharacteristic.key_lower

theorem BLECentral.showsServices {b : BLECentral} {dev : UUID} {d : Device.Details}
    (hd : b.devices[dev]? = some d) (hdone : d.discoveryDone = true) {id : UUID}
    {l : List GlPrimaryService}
    (h : d.services = keepFirst GlPrimaryService.key (.ofGatt id) ∅ l) :
    b.ShowsServices dev id l := by
  have hlist : b.servicesFor dev =
      values (keepFirst GlPrimaryService.key (.ofGatt id) ∅ l : TreeMap UUID _) := by
    unfold servicesFor deviceDetails normalizeDeviceUUID
    rw [hd]
    simp [hdone, h, values]
  have hname (k : UUID) (x : GlPrimaryService) : (Service.Details.ofGatt id k x).id = k := rfl
  refine ⟨?_, fun d' hd' u => ?_⟩
  · rw [hlist]
    exact .of_keepFirst hname (fun k x => ⟨rfl, rfl, rfl⟩) l
  · obtain rfl : d = d' := Option.some.inj (hd.symm.trans hd')
    unfold Device.Details.hasService
    rw [hlist, h]
    exact contains_keepFirst hname GlPrimaryService.key_lower

/-! ## A discovery, whatever has gone on while gattlib was at it -/

/-- `p` makes the call `e`. When it comes back, with whatever record of the device there is then, a
refusal leaves everything as it is. An answer is stored, and once `discovery_done` is set `Shows`
holds of the central; if the lock of the record is taken, the program stands still. -/
def World.Discovers (w : World) (dev : UUID) (p : Ble Bool) (e : Call)
    (Shows : BLECentral → Device.Details → Resp → Prop) : Prop :=
  ∃ k, p w = .call (w.push e) e k ∧
    ∀ (r : Resp) (w' : World) (d : Device.Details), w'.ble.devices[dev]? = some d →
      (r.rc ≠ 0 → ∃ w1, k r w' = .done w1 false ∧ w1.ble = w'.ble) ∧
      (r.rc = 0 → dev ∉ w'.held → ∃ w1 d1, k r w' = .done w1 true ∧
        w1.ble.devices[dev]? = some d1 ∧
        ∀ b : BLECentral, b.devices[dev]? = some { d1 with discoveryDone := true } → Shows b d r) ∧
      (r.rc = 0 → dev ∈ w'.held → ∃ w1, k r w' = .halt w1 .relock)

section
variable {w : World} {dev : UUID} {d : Device.Details}

omit [Gattlib] in
/-- A program that stores what comes back in the record. -/
theorem World.Discovers.of_stored {p : Ble Bool} {e : Call}
    {Shows : BLECentral → Device.Details → Resp → Prop} (f : Resp → Device.Details → Device.Details)
    (hp : p w = .call (w.push e) e fun r w' =>
      (if r.rc ≠ 0 then pure false else do
        locked dev (updateRecord dev (f r))
        return true : Ble Bool) (w'.back e r))
    (hs : ∀ d r (b : BLECentral), b.devices[dev]? = some { f r d with discoveryDone := true } →
      Shows b d r) : w.Discovers dev p e Shows := by
  refine ⟨_, hp, fun r w' d hd => ⟨fun hr => ?_, fun hr hh => ?_, fun hr hh => ?_⟩⟩
  · exact ⟨w'.back e r, by simp [hr], rfl⟩
  · rw [if_neg (not_not.mpr hr), Prog.bind_apply, locked_free _ (by exact hh)]
    exact ⟨_, f r d, rfl, by simp [World.updateDevice, hd], hs d r⟩
  · rw [if_neg (not_not.mpr hr), Prog.bind_apply, locked_held _ (by exact hh)]
    exact ⟨_, rfl⟩

theorem performCharacteristicsDiscovery_discovers (hd : w.ble.devices[dev]? = some d) :
    w.Discovers dev (performCharacteristicsDiscovery dev) (.discoverChar dev d.connection)
      fun b d r => b.ShowsCharacteristics dev d.id r.characteristicList := by
  refine .of_stored (fun r d => d.clearCharacteristics.addCharacteristics r.characteristicList) ?_
    fun d r b hb => ?_
  · simp only [performCharacteristicsDiscovery, record_eq, hd, callOut, Prog.bind_apply,
      Out.bind_done, Out.bind_call]
  · exact BLECentral.showsCharacteristics hb rfl
      (Device.Details.characteristics_addCharacteristics d.clearCharacteristics _)

theorem performServiceDiscovery_discovers (hd : w.ble.devices[dev]? = some d) :
    w.Discovers dev (performServiceDiscovery dev) (.discoverPrimary dev d.connection)
      fun b d r => b.ShowsServices dev d.id r.serviceList := by
  refine .of_stored (fun r d => d.clearServices.addServices r.serviceList) ?_ fun d r b hb => ?_
  · simp only [performServiceDiscovery, record_eq, hd, callOut, Prog.bind_apply, Out.bind_done,
      Out.bind_call]
  · exact BLECentral.showsServices hb rfl
      (Device.Details.services_addServices d.clearServices _)

/-- **What discovery stores is what is listed.** For whatever array gattlib returns, and whatever
the record held before, the lists have one entry for each UUID that can be converted, by its lower
case spelling and made from the first element that has it, and the lookups find these and no
others, in any letter case. Where gattlib refuses, nothing changes. -/
theorem discovery_listed (hd : w.ble.devices[dev]? = some d) :
    (w.Discovers dev (performCharacteristicsDiscovery dev) (.discoverChar dev d.connection)
      fun b d r => b.ShowsCharacteristics dev d.id r.characteristicList) ∧
    w.Discovers dev (performServiceDiscovery dev) (.discoverPrimary dev d.connection)
      fun b d r => b.ShowsServices dev d.id r.serviceList :=
  ⟨performCharacteristicsDiscovery_discovers hd, performServiceDiscovery_discovers hd⟩

end

end

/-- A second discovery: what was there is gone, and of an array with one UUID twice and another that
cannot be converted the first element is found, in any letter case. -/
theorem discovery_listed_new : ∃ (w w1 : World) (d d1 : Device.Details) (l : List GlCharacteristic)
    (k : Resp → World → Out World Call Resp Fault Bool),
    w.ble.devices["AA"]? = some d ∧ d.hasCharacteristic "2a19" = true ∧
    l = [⟨0x10, 2⟩, ⟨0x02, 2⟩, ⟨0x02, 9⟩] ∧
    @performCharacteristicsDiscovery .sample "AA" w =
      .call (w.push (.discoverChar "AA" none)) (.discoverChar "AA" none) k ∧
    k (.characteristics l) (w.push (.discoverChar "AA" none)) = .done w1 true ∧
    w1.ble.devices["AA"]? = some d1 ∧
    (∀ b : BLECentral, b.devices["AA"]? = some { d1 with discoveryDone := true } →
      @BLECentral.ShowsCharacteristics .sample b "AA" "AA" l) ∧
    d1.hasCharacteristic "2A6E" = true ∧ d1.hasCharacteristic "2a19" = false := by
  let _ := Gattlib.sample
  let d := (Device.Details.new "AA").addCharacteristics [⟨0x10, 1⟩]
  let w : World := { ble := { devices := (∅ : DeviceMap).insert "AA" d } }
  let l : List GlCharacteristic := [⟨0x10, 2⟩, ⟨0x02, 2⟩, ⟨0x02, 9⟩]
  have hd : w.ble.devices["AA"]? = some d := by simp [w]
  obtain ⟨k, hcall, hback⟩ := (discovery_listed hd).1
  obtain ⟨w1, d1, hk, hd1, hshows⟩ :=
    (hback (.characteristics l) (w.push (.discoverChar "AA" none)) d hd).2.1 rfl List.not_mem_nil
  let b : BLECentral :=
    { devices := (∅ : DeviceMap).insert "AA" { d1 with discoveryDone := true } }
  have hb : b.ShowsCharacteristics "AA" "AA" l := hshows b (by simp [b])
  have hfound := hb.found { d1 with discoveryDone := true } (by simp [b])
  have hkeys : ∀ x ∈ l, x.key = some "2a6e" ∨ x.key = none := by decide
  refine ⟨w, w1, d, d1, l, k, hd, by decide, rfl, hcall, hk, hd1, hshows, ?_, ?_⟩
  · obtain ⟨c, hc, hid⟩ := hb.lists.all ⟨0x10, 2⟩ List.mem_cons_self "2a6e" (by decide)
    exact (hfound "2A6E").mpr ⟨c, hc, by rw [hid]; decide⟩
  · rw [Bool.eq_false_iff]
    intro h
    obtain ⟨c, hc, hu⟩ := (hfound "2a19").mp h
    obtain ⟨x, ⟨hx, before, after, hl, -⟩, -⟩ := hb.lists.first c hc
    rcases hkeys x (by rw [hl]; simp) with hkey | hkey
    · rw [← Option.some.inj (hkey.symm.trans hx)] at hu
      revert hu
      decide
    · cases hkey.symm.trans hx

end Gattlibpp
