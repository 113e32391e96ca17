import Gattlibpp.Central.Reading
import Gattlibpp.Discovery.Lookup

/-!
# What the library knows is what gattlib said last

The library is a central that has followed its log, and the log decides what such a central knows.
So the lists, the names and the calls of the library follow from what gattlib has said last.
-/

namespace Gattlibpp

open Open Maps Replay
open Replay.Machine (last)
open Std (TreeMap)
open Device (normalizeCharacteristicUUID normalizeServiceUUID)

/-! ## The lists -/

/-- A map that holds the first of the entries, up to `strip`, shows them so. -/
theorem Lists.of_find {α β : Type} {key : α → Option UUID} {name : β → UUID} {Made : α → β → Prop}
    {val : UUID → α → β} {strip : β → β} {entries : List α} {m : TreeMap UUID β}
    (hm : ∀ k : UUID, (m[k]?).map strip = (entries.find? (key · = some k)).map (val k))
    (hname : ∀ k x, name (val k x) = k) (hstrip : ∀ v, name (strip v) = name v)
    (hmade : ∀ k x v, strip v = val k x → Made x v) : Lists key name Made entries (values m) := by
  have hfirst {k : UUID} {v : β} (hv : m[k]? = some v) :
      name v = k ∧ ∃ x, IsFirst key entries k x ∧ Made x v := by
    have hk := hm k
    rw [hv, Option.map_some] at hk
    obtain ⟨x, hx, hxv⟩ := Option.map_eq_some_iff.mp hk.symm
    exact ⟨by rw [← hstrip, ← hxv, hname], x, isFirst_iff.mpr hx, hmade k x v hxv.symm⟩
  refine ⟨(values_ordered name fun k v hv => (hfirst hv).1).imp compare_lt_iff_lt.mp,
    fun v hv => ?_, fun x hx k hk => ?_⟩
  · obtain ⟨k, hk⟩ := mem_values.mp hv
    obtain ⟨rfl, hx⟩ := hfirst hk
    exact hx
  · obtain ⟨y, hy⟩ := exists_isFirst hx hk
    have hv := hm k
    rw [isFirst_iff.mp hy, Option.map_some] at hv
    obtain ⟨v, hv, -⟩ := Option.map_eq_some_iff.mp hv
    exact ⟨v, mem_values.mpr ⟨k, hv⟩, (hfirst hv).1⟩

/-- Such a map has the names of the entries. -/
theorem contains_of_find {α β : Type} {key : α → Option UUID} {val : UUID → α → β} {strip : β → β}
    {entries : List α} {m : TreeMap UUID β} {k : UUID}
    (hm : (m[k]?).map strip = (entries.find? (key · = some k)).map (val k)) :
    m.contains k = true ↔ ∃ x ∈ entries, key x = some k := by
  have hsome := congrArg Option.isSome hm
  rw [Option.isSome_map, Option.isSome_map] at hsome
  rw [TreeMap.contains_eq_isSome_getElem?, hsome, List.find?_isSome]
  simp only [decide_eq_true_eq]

section
variable [Gattlib]

namespace Peer.Repr

variable {dev : UUID} {p : Peer} {d : Device.Details}

theorem services_find (h : p.Repr dev d) (k : UUID) : (d.services[k]?).map (fun v => v) =
    (p.services.find? (·.key = some k)).map (.ofGatt dev k) := by
  rw [Option.map_id']
  exact h.services k

theorem lists_services (h : p.Repr dev d) : Lists GlPrimaryService.key (·.id)
    (fun x s => s.deviceId = dev ∧ s.glUuid = x.uuid ∧ s.glService = x) p.services
    (values d.services) := by
  refine .of_find h.services_find (fun _ _ => rfl) (fun _ => rfl) fun k x v hv => ?_
  obtain rfl : v = .ofGatt dev k x := hv
  exact ⟨rfl, rfl, rfl⟩

theorem lists_characteristics (h : p.Repr dev d) : Lists GlCharacteristic.key (·.id)
    (fun x c => c.unmarked.MadeFrom dev x) p.characteristics (values d.characteristics) := by
  refine .of_find h.characteristics (fun _ _ => rfl) (fun _ => rfl) fun k x v hv => ?_
  rw [hv]
  exact Characteristic.Details.ofGatt_madeFrom dev k x

theorem hasService (h : p.Repr dev d) (u : UUID) : d.hasService u = true ↔
    ∃ x ∈ p.services, x.key = some (normalizeServiceUUID u) :=
  contains_of_find (h.services_find _)

theorem hasCharacteristic (h : p.Repr dev d) (u : UUID) : d.hasCharacteristic u = true ↔
    ∃ x ∈ p.characteristics, x.key = some (normalizeCharacteristicUUID u) :=
  contains_of_find (h.characteristics _)

end Peer.Repr

/-- `b` shows of the device `dev` what gattlib has returned for it last, by the log `l`. -/
structure BLECentral.ShowsLatest (b : BLECentral) (dev : UUID) (l : List Obs) : Prop where
  before : (∀ c r, .ret (.discoverChar dev c) r ∉ l) →
    b.servicesFor dev = [] ∧ b.characteristicsFor dev = []
  services {c : Option Conn} {r : Resp} : .ret (.discoverChar dev c) r ∈ l →
    Lists GlPrimaryService.key (·.id)
      (fun x s => s.deviceId = dev ∧ s.glUuid = x.uuid ∧ s.glService = x)
      ((last (Obs.servicesOf dev) l).getD []) (b.servicesFor dev)
  characteristics {c : Option Conn} {r : Resp} : .ret (.discoverChar dev c) r ∈ l →
    Lists GlCharacteristic.key (·.id) (fun x c => c.unmarked.MadeFrom dev x)
      ((last (Obs.characteristicsOf dev) l).getD []) (b.characteristicsFor dev)
  hasService : ∀ d, b.devices[dev]? = some d → ∀ u, d.hasService u = true ↔
    ∃ x ∈ (last (Obs.servicesOf dev) l).getD [], x.key = some (normalizeServiceUUID u)
  hasCharacteristic : ∀ d, b.devices[dev]? = some d → ∀ u, d.hasCharacteristic u = true ↔
    ∃ x ∈ (last (Obs.characteristicsOf dev) l).getD [], x.key = some (normalizeCharacteristicUUID u)

theorem Central.Repr.showsLatest {s : Central} {b : BLECentral} {l : List Obs} (h : s.Repr b)
    (hf : machine.Follows {} l s) (dev : UUID) : b.ShowsLatest dev l := by
  have hservices : (s.known dev).services = (last (Obs.servicesOf dev) l).getD [] :=
    (services_reading dev).eq_last hf
  have hchars : (s.known dev).characteristics = (last (Obs.characteristicsOf dev) l).getD [] :=
    (characteristics_reading dev).eq_last hf
  have hdone : (s.known dev).discovered = true ↔ ∃ c r, .ret (.discoverChar dev c) r ∈ l := by
    rw [← Obs.last_discoveryOf]
    exact iff_of_eq (congrArg (· = true) ((discovered_reading dev).eq_last hf))
  rcases h.peer_cases dev with ⟨hp, hd⟩ | ⟨p, d, hp, hd, hr⟩
  · have hk : s.known dev = {} := by rw [Central.known, hp]; rfl
    have hnone {c : Option Conn} {r : Resp} : .ret (.discoverChar dev c) r ∉ l := fun hin => by
      have hno := hdone.mpr ⟨c, r, hin⟩
      rw [hk] at hno
      cases hno
    refine ⟨fun _ => ?_, fun hin => (hnone hin).elim, fun hin => (hnone hin).elim, ?_, ?_⟩
    · simp [BLECentral.servicesFor, BLECentral.characteristicsFor, BLECentral.deviceDetails,
        normalizeDeviceUUID, hd]
    · simp [hd]
    · simp [hd]
  · have hk : s.known dev = { p with connection := none } := by rw [Central.known, hp]; rfl
    rw [hk] at hservices hchars hdone
    have hlist (hdd : d.discoveryDone = true) : b.servicesFor dev = values d.services ∧
        b.characteristicsFor dev = values d.characteristics := by
      simp [BLECentral.servicesFor, BLECentral.characteristicsFor, BLECentral.deviceDetails,
        normalizeDeviceUUID, hd, hdd, values]
    have hseen {c : Option Conn} {r : Resp} (hin : .ret (.discoverChar dev c) r ∈ l) :
        d.discoveryDone = true := hr.discovered.trans (hdone.mpr ⟨c, r, hin⟩)
    refine ⟨fun hno => ?_, fun hin => ?_, fun hin => ?_, fun d' hd' u => ?_, fun d' hd' u => ?_⟩
    · have hdd : ¬ d.discoveryDone = true := fun hdd => by
        obtain ⟨c, r, hin⟩ := hdone.mp (hr.discovered.symm.trans hdd)
        exact hno c r hin
      simp [BLECentral.servicesFor, BLECentral.characteristicsFor, BLECentral.deviceDetails,
        normalizeDeviceUUID, hd, hdd]
    · rw [(hlist (hseen hin)).1, ← hservices]
      exact hr.lists_services
    · rw [(hlist (hseen hin)).2, ← hchars]
      exact hr.lists_characteristics
    · obtain rfl : d = d' := Option.some.inj (hd.symm.trans hd')
      exact hservices ▸ hr.hasService u
    · obtain rfl : d = d' := Option.some.inj (hd.symm.trans hd')
      exact hchars ▸ hr.hasCharacteristic u

/-- **The lists show the latest discovery.** At each point of each run, in any environment, the
lists and the lookups of a device show the arrays that gattlib has returned for it last, one entry
for each UUID, made from the first element that has it; before a discovery of its characteristics
has come back the lists are empty. -/
theorem lists_latest {P : Policy} {c : Config World Call Resp Fault} (h : Reach P .init c)
    (hf : c.fault = none) (dev : UUID) : c.s.ble.ShowsLatest dev c.s.log := by
  obtain ⟨s, hs, hr⟩ := follows_reach h hf
  exact hr.showsLatest hs dev

end

/-- The connection comes up twice, and the second discovery returns other arrays, with one UUID
twice and another that cannot be converted. -/
theorem lists_latest_discovered : ∃ (c : Config World Call Resp Fault) (r : Resp),
    @Reach .sample .any .init c ∧ .ret (.discoverChar "A" (some 8)) r ∈ c.s.log ∧
    last (Obs.servicesOf "A") c.s.log = some [⟨2, 5⟩] ∧
    last (Obs.characteristicsOf "A") c.s.log = some [⟨0x10, 2⟩, ⟨0x02, 2⟩, ⟨0x02, 9⟩] ∧
    @BLECentral.ShowsLatest .sample c.s.ble "A" c.s.log := by
  let _ := Gattlib.sample
  obtain ⟨c, hc, hP⟩ := (system .any).reach_of_run_any
    (discoverA ++ [.enter (.api (.disconnect "A" none none)), .enter (.api .processAsync),
      .answer .void, .enter (.api .processAsync), .answer .void, .answer (.code 0),
      .enter (.api .processAsync), .enter (.event (some 1) .disconnected), .answer .void,
      .enter (.api (.connect "A" none none none)), .enter (.api .processAsync), .answer .void,
      .enter (.api .processAsync), .answer .void, .answer (.code 0), .enter (.api .processAsync),
      .enter (.event (some 2) (.connected (some 8))), .answer .void, .answer (.services [⟨2, 5⟩]),
      .enter (.api .processAsync), .answer .void,
      .answer (.characteristics [⟨0x10, 2⟩, ⟨0x02, 2⟩, ⟨0x02, 9⟩])])
    (c := ⟨.init, [], none⟩)
    (P := fun c => decide (c.fault = none ∧
      .ret (.discoverChar "A" (some 8)) (.characteristics [⟨0x10, 2⟩, ⟨0x02, 2⟩, ⟨0x02, 9⟩]) ∈
        c.s.log ∧
      last (Obs.servicesOf "A") c.s.log = some [⟨2, 5⟩] ∧
      last (Obs.characteristicsOf "A") c.s.log = some [⟨0x10, 2⟩, ⟨0x02, 2⟩, ⟨0x02, 9⟩]))
    (by decide +kernel)
  obtain ⟨hf, hret, hservices, hchars⟩ := of_decide_eq_true hP
  exact ⟨c, _, hc, hret, hservices, hchars, lists_latest hc hf "A"⟩

section
variable [Gattlib]

/-! ## Names -/

/-- **A device has the name it was last given.** At each point of each run `deviceName` returns what
the latest callback for a discovered device at this address has said, and an empty name if there was
none, also when names have been asked for before. -/
theorem names_latest {P : Policy} {c : Config World Call Resp Fault} (h : Reach P .init c)
    (hf : c.fault = none) (u : UUID) : ∃ w, deviceName u c.s = .done w
      ((last (Obs.nameOf u) c.s.log).getD "") := by
  obtain ⟨s, hs, hr⟩ := follows_reach h hf
  have hname : ((c.s.ble.namesCache.insertIfNew u "")[u]?).getD "" =
      (last (Obs.nameOf u) c.s.log).getD "" :=
    ((hr.looked u).name u).trans ((Central.name_reading u).eq_last hs)
  rw [← hname]
  exact ⟨c.s.updateBle fun b => { b with namesCache := b.namesCache.insertIfNew u "" }, rfl⟩

end

/-- A scan that finds a device. -/
theorem names_latest_found : ∃ c : Config World Call Resp Fault, @Reach .sample .any .init c ∧
    last (Obs.nameOf "B") c.s.log = some "lamp" ∧
    ∃ w, deviceName "B" c.s = .done w ((last (Obs.nameOf "B") c.s.log).getD "") := by
  let _ := Gattlib.sample
  obtain ⟨c, hc, hP⟩ := (system .any).reach_of_run_any
    [.enter (.api (.scan 0 none none none)), .answer (.adapter 3), .enter (.api .processAsync),
      .answer .void, .answer (.code 0),
      .enter (.event (some 0) (.deviceDiscovered (some "B") (some "lamp")))]
    (c := ⟨.init, [], none⟩)
    (P := fun c => decide (c.fault = none ∧ last (Obs.nameOf "B") c.s.log = some "lamp"))
    (by decide)
  obtain ⟨hf, hname⟩ := of_decide_eq_true hP
  exact ⟨c, hc, hname, names_latest hc hf "B"⟩

section
variable [Gattlib]

/-! ## The adapter -/

/-- The adapter that is open by the log `l`: the one opened last, unless a close has returned
since. -/
def openAdapter (l : List Obs) : Option (Option Adapter) := (last Obs.adapter l).getD none

/-- **The adapter is opened and closed in turn.** In each run, the adapter is opened only while none
is open, what is closed is the adapter that was opened last, and an action is only queued while an
adapter is open. -/
theorem adapter_in_turn {P : Policy} {c : Config World Call Resp Fault} (h : Reach P .init c)
    (hf : c.fault = none) {l l' : List Obs} {o : Obs} (hl : c.s.log = l ++ o :: l') :
    (∀ name, o = .call (.adapterOpen name) → openAdapter l = none) ∧
    (∀ a, o = .call (.adapterClose a) → openAdapter l = some a) ∧
    ∀ a, o = .queued a → (openAdapter l).isSome := by
  obtain ⟨s, hs, -⟩ := follows_reach h hf
  obtain ⟨s0, hs0, ha⟩ := (hl ▸ hs).allowed
  have hopen : s0.adapter = openAdapter l := Central.adapter_reading.eq_last hs0
  rw [← hopen]
  refine ⟨fun name ho => ?_, fun a ho => ?_, fun a ho => ?_⟩ <;> subst ho
  · exact ha
  · exact ha
  · exact ha.2.1

end

/-- A connect opens the adapter, and `adapterClose` closes it. -/
theorem adapter_in_turn_close : ∃ (c : Config World Call Resp Fault) (l l' : List Obs),
    @Reach .sample .any .init c ∧ c.s.log = l ++ .call (.adapterClose (some 3)) :: l' ∧
    openAdapter l = some (some 3) := by
  let _ := Gattlib.sample
  obtain ⟨c, hc, hP⟩ := (system .any).reach_of_run_any
    [.enter (.api (.connect "A" none none none)), .answer (.adapter 3),
      .enter (.api .adapterClose), .answer (.code 0)]
    (c := ⟨.init, [], none⟩)
    (P := fun c => decide (c.fault = none ∧ .call (.adapterClose (some 3)) ∈ c.s.log)) (by decide)
  obtain ⟨hf, hlog⟩ := of_decide_eq_true hP
  obtain ⟨l, l', hl⟩ := List.append_of_mem hlog
  exact ⟨c, l, l', hc, hl, (adapter_in_turn hc hf hl).2.1 _ rfl⟩

section
variable [Gattlib]

/-! ## Calls -/

namespace Central

/-- Each job of `s` was queued in `l`. -/
def JobsFrom (l : List Obs) (s : Central) : Prop :=
  ∀ j ∈ s.jobs, ∃ a, .queued a ∈ l ∧ a.id = j.id ∧ a.trigger = j.trigger

theorem jobsFrom {l : List Obs} {s : Central} (h : machine.Follows {} l s) : JobsFrom l s := by
  refine h.invariant (I := JobsFrom) (fun l s o hs _ j hj => ?_) (fun l s s' hs hsil => ?_) ?_
  · rcases jobs_next o j hj with ⟨i, hi, hid, htr⟩ | ⟨a, rfl, rfl⟩
    · obtain ⟨a, ha, haid, hatr⟩ := hs i hi
      exact ⟨a, List.mem_append_left _ ha, haid.trans hid, hatr.trans htr⟩
    · exact ⟨a, List.mem_append_right _ List.mem_cons_self, rfl, rfl⟩
  · obtain ⟨b, rfl⟩ := hsil
    exact hs
  · simp [JobsFrom]

theorem allows_call {s : Central} {e : Call} {t : ActionId} (he : e.action = some t)
    (h : s.allows (.call e)) : ∃ j ∈ s.jobs, j.id = t ∧ s.calls j = some e := by
  have hfront : ∀ t ∈ e.action,
      s.inFront t .triggered ∧ ∃ j ∈ s.jobs.head?, s.calls j = some e := by
    cases e with
    | scanEnable | scanDisable | connect | disconnect | readChar | writeChar => exact h
    | _ => cases he
  obtain ⟨⟨j, hj, hid, -⟩, j', hj', hcall⟩ := hfront t he
  obtain rfl : j = j' := Option.some.inj (hj.symm.trans hj')
  exact ⟨j, List.mem_of_mem_head? hj, hid, hcall⟩

/-- What a job calls depends on what it asks for. -/
theorem calls_congr (s : Central) {i j : Job} (hid : i.id = j.id) (htr : i.trigger = j.trigger) :
    s.calls i = s.calls j := by
  rw [calls, calls, hid, htr]

theorem facts_eq {l : List Obs} {s : Central} (h : machine.Follows {} l s) : s.facts = read l :=
  facts_reading.eq_foldl h

end Central

/-- **A call does what was asked.** Each call of gattlib for an action goes back to a request that
was admitted by what gattlib had said when it was made, and passes what was asked for, with the
characteristic that gattlib has given last when it is made, and the connection that it has reported
last while the device was the one to be connected to. -/
theorem calls_requested {P : Policy} {c : Config World Call Resp Fault} (h : Reach P .init c)
    (hf : c.fault = none) {l l' : List Obs} {e : Call} (hl : c.s.log = l ++ .call e :: l')
    {t : ActionId} (he : e.action = some t) : ∃ l0 a l1, l = l0 ++ .queued a :: l1 ∧ a.id = t ∧
      (Central.read l0).admits a.job ∧ (Central.read l).calls a.job = some e := by
  obtain ⟨s, hs, -⟩ := follows_reach h hf
  obtain ⟨s1, hs1, hcall⟩ := (hl ▸ hs).allowed
  obtain ⟨j, hj, hjt, hcalls⟩ := Central.allows_call he hcall
  obtain ⟨a, ha, hid, htr⟩ := Central.jobsFrom hs1 j hj
  obtain ⟨l0, l1, rfl⟩ := List.append_of_mem ha
  obtain ⟨s0, hs0, hadmit⟩ := hs1.allowed
  refine ⟨l0, a, l1, rfl, hid.trans hjt, ?_, ?_⟩
  · rw [← Central.facts_eq hs0]
    exact hadmit
  · rw [← Central.facts_eq hs1, ← hcalls]
    exact s1.calls_congr hid htr

end

/-- A read after a discovery. -/
theorem calls_requested_read : ∃ (c : Config World Call Resp Fault) (l l' l0 l1 : List Obs)
    (a : AsyncAction.Details), @Reach .sample .any .init c ∧
    c.s.log = l ++ .call (.readChar 1 (some 7) 1) :: l' ∧ l = l0 ++ .queued a :: l1 ∧ a.id = 1 ∧
    @Central.admits (Central.read l0) .sample a.job ∧
    @Central.calls (Central.read l) .sample a.job = some (.readChar 1 (some 7) 1) := by
  let _ := Gattlib.sample
  obtain ⟨c, hc, hP⟩ := (system .any).reach_of_run_any
    (discoverA ++ [.enter (.api (.read "A" "2A19" none none)), .enter (.api .processAsync),
      .answer .void])
    (c := ⟨.init, [], none⟩)
    (P := fun c => decide (c.fault = none ∧ .call (.readChar 1 (some 7) 1) ∈ c.s.log)) (by decide)
  obtain ⟨hf, hlog⟩ := of_decide_eq_true hP
  obtain ⟨l, l', hl⟩ := List.append_of_mem hlog
  obtain ⟨l0, a, l1, h0, hid, hadmit, hcall⟩ := calls_requested hc hf hl rfl
  exact ⟨c, l, l', l0, l1, a, hc, hl, h0, hid, hadmit, hcall⟩

end Gattlibpp
