import Gattlibpp.Notify.Turns
import Gattlibpp.Notify.Books

/-!
# Stopping all notifications

While no start has failed, the counter of a record is the number of its marks. So
`stopAllNotifications`, which stops the marked characteristics one after the other, takes the
counter to 0 with the last of them, and there the library's handlers are cancelled.
-/

namespace Gattlibpp

open Open Device

/-! ## Operations that come to an end -/

/-- Calls come back with any answer, an open call changes nothing, and there is no fault. -/
def calm : Rules World Call Resp Fault where
  inv _ := True
  rely w w' := w' = w
  ans _ _ _ := True
  crash _ _ := False

/-- Called at `w` and undisturbed, the operation returns whatever gattlib answers, and `Q` holds of
what it returns and leaves. -/
def Op.Ends [Gattlib] (op : Op) (w : World) (Q : Ret → World → Prop) : Prop :=
  (op.run (w.note (.enter (.api op)))).Safe calm (fun r w' => Q r (w'.note (.exit (.api op) r)))
    fun _ => False

section
variable {w : World} {dev u : UUID} {d : Device.Details}

@[simp] theorem callOut_calm {e : Call} {Q : Resp → World → Prop} {X : World → Prop} :
    (callOut e w).Safe calm Q X ↔ ∀ r, Q r (w.asked e r) := by
  constructor
  · exact fun h r => h.2 r _ rfl trivial trivial
  · intro h
    refine ⟨trivial, ?_⟩
    rintro r w' rfl - -
    exact h r

/-! ## One stop -/

/-- The record once a marked characteristic is stopped. -/
def Device.Details.stopped (d : Device.Details) (u : UUID) : Device.Details :=
  { d.setRegistered u false with numRegisteredForNotifs := d.numRegisteredForNotifs - 1 }

/-- Only the record of `dev` and the log have changed. -/
structure World.Within (w : World) (dev : UUID) (w' : World) : Prop where
  devices : ∀ e, e ≠ dev → w'.ble.devices[e]? = w.ble.devices[e]?
  rest : w' = { w with ble := { w.ble with devices := w'.ble.devices }, log := w'.log }

theorem World.Within.refl (w : World) (dev : UUID) : w.Within dev w := ⟨fun _ _ => rfl, rfl⟩

theorem World.Within.trans {w' w'' : World} (h : w.Within dev w') (h' : w'.Within dev w'') :
    w.Within dev w'' :=
  ⟨fun e he => (h'.devices e he).trans (h.devices e he), by rw [h'.rest, h.rest]⟩

theorem World.Within.note (w : World) (dev : UUID) (o : Obs) : w.Within dev (w.note o) :=
  ⟨fun _ _ => rfl, rfl⟩

theorem World.Within.asked (w : World) (dev : UUID) (e : Call) (r : Resp) :
    w.Within dev (w.asked e r) := ⟨fun _ _ => rfl, rfl⟩

theorem World.Within.updateDevice (w : World) (dev : UUID) (f : Device.Details → Device.Details) :
    w.Within dev (w.updateDevice dev f) := by
  refine ⟨fun e he => ?_, rfl⟩
  simp only [World.updateDevice, World.updateBle_ble, Std.TreeMap.getElem?_modify,
    Std.LawfulEqCmp.compare_eq_iff_eq, if_neg he.symm]

/-- The calls made. -/
def Obs.made : Obs → Option Call
  | .call e => some e
  | _ => none

/-- What a stop of the characteristic `g` tells gattlib when the counter is `n`: the last one
cancels the library's handlers. -/
def stopCalls (c : Option Conn) (n : UInt8) (g : GlUuid) : List Call :=
  (if n = 1 then [.registerNotification c none, .registerIndication c none] else []) ++
    [.notificationStop c g]

/-- From `w` to `w'` exactly the calls `es` have been made. -/
def World.Makes (w : World) (es : List Call) (w' : World) : Prop :=
  ∃ l, w'.log = w.log ++ l ∧ l.filterMap Obs.made = es

theorem World.Makes.refl (w : World) : w.Makes [] w := ⟨[], by simp, rfl⟩

theorem World.Makes.trans {w' w'' : World} {es es' : List Call} (h : w.Makes es w')
    (h' : w'.Makes es' w'') : w.Makes (es ++ es') w'' := by
  obtain ⟨l, hl, rfl⟩ := h
  obtain ⟨l', hl', rfl⟩ := h'
  exact ⟨l ++ l', by rw [hl', hl, List.append_assoc], List.filterMap_append⟩

theorem World.Makes.note (w : World) {o : Obs} (ho : o.made = none) : w.Makes [] (w.note o) :=
  ⟨[o], rfl, by simp [ho]⟩

theorem World.Makes.updateDevice (w : World) (dev : UUID) (f : Device.Details → Device.Details) :
    w.Makes [] (w.updateDevice dev f) := ⟨[], by simp, rfl⟩

theorem World.Makes.asked (w : World) (e : Call) (r : Resp) : w.Makes [e] (w.asked e r) :=
  ⟨[.call e, .ret e r], w.asked_log e r, rfl⟩

/-- The stop of a marked characteristic, with what it leaves. -/
structure World.Stops (w : World) (dev u : UUID) (d : Device.Details) (g : GlUuid)
    (w' : World) : Prop where
  record : w'.ble.devices[dev]? = some (d.stopped u)
  within : w.Within dev w'
  makes : w.Makes (stopCalls d.connection d.numRegisteredForNotifs g) w'

theorem countUnregistered_calm {Q : Unit → World → Prop} {X : World → Prop}
    (hd : w.ble.devices[dev]? = some d) (hz : d.numRegisteredForNotifs ≠ 0)
    (hk : ∀ w', w'.ble.devices[dev]? =
        some { d with numRegisteredForNotifs := d.numRegisteredForNotifs - 1 } →
      w.Within dev w' → w.Makes (if d.numRegisteredForNotifs = 1 then
        [.registerNotification d.connection none, .registerIndication d.connection none] else []) w' →
      Q () w') : (countUnregistered dev w).Safe calm Q X := by
  have hd' := World.record_updateDevice hd fun d =>
    { d with numRegisteredForNotifs := d.numRegisteredForNotifs - 1 }
  have hone : d.numRegisteredForNotifs - 1 = 0 ↔ d.numRegisteredForNotifs = 1 := by
    rw [UInt8.sub_eq_iff_eq_add, UInt8.zero_add]
  simp only [countUnregistered, Prog.bind_apply, record_eq, hd, Out.bind_done, Prog.ite_apply,
    if_pos hz, updateRecord, Prog.modify_apply, hd', hone]
  split
  · rename_i hlast
    rw [if_pos hlast] at hk
    simp only [Prog.bind_apply, record_eq, hd', safe_bind, callOut_calm, World.asked_ble,
      Prog.pure_apply, safe_done]
    intro rn ri
    refine hk _ hd' ?_ ?_
    · exact ((World.Within.updateDevice ..).trans (.asked ..)).trans (.asked ..)
    · exact ((World.Makes.updateDevice w dev _).trans (.asked _ _ rn)).trans (.asked _ _ ri)
  · rename_i hlast
    rw [if_neg hlast] at hk
    exact hk _ hd' (.updateDevice ..) (.updateDevice ..)

/-- The lookup of a characteristic that is there. -/
theorem getUUIDForCharOrFail_found [Gattlib] {c : Characteristic.Details}
    {supp : Characteristic.Details → Bool} {fail : Callback} (hd : w.ble.devices[dev]? = some d)
    (hdone : d.discoveryDone = true) (hheld : dev ∉ w.held) (hc : d.characteristic u = some c)
    (hsupp : supp c = true) :
    getUUIDForCharOrFail dev u supp fail w = .done w (some c.glUuid) := by
  simp only [getUUIDForCharOrFail, Prog.bind_apply, record_eq, hd, Out.bind_done, hdone, if_true,
    locked_free _ hheld, hc, hsupp, Bool.not_true, Bool.false_eq_true, if_false]
  rfl

/-- The stop of a marked characteristic that is counted, with the adapter open, no callbacks and
the lock free. -/
theorem stopNotification_calm [Gattlib] {c : Characteristic.Details} {Q : Bool → World → Prop}
    {X : World → Prop} (hopen : w.ble.adapterIsOpen = true) (hd : w.ble.devices[dev]? = some d)
    (hconn : d.connection.isSome = true) (hdone : d.discoveryDone = true) (hheld : dev ∉ w.held)
    (hc : d.characteristic u = some c) (hsupp : c.supportSubscriptions = true)
    (hr : c.registeredForNotifs = true) (hz : d.numRegisteredForNotifs ≠ 0)
    (hk : ∀ b w', w.Stops dev u d c.glUuid w' → Q b w') :
    (stopNotification dev u none none w).Safe calm Q X := by
  have hconnected : w.ble.isConnected dev = true :=
    (w.ble.isConnected_iff dev).mpr ⟨d, hd, hconn⟩
  have hd1 := World.record_updateDevice (w := { w with held := dev :: w.held }) hd
    (·.setRegistered u false)
  simp only [stopNotification, ensureAdapterAvail, openAdapterIfRequired, ble_apply,
    Prog.bind_apply, Out.bind_done, Prog.ite_apply, hopen, if_true, Prog.pure_apply, hconnected,
    Bool.not_true, Bool.false_eq_true, if_false, normalizeDeviceUUID,
    getUUIDForCharOrFail_found hd hdone hheld hc hsupp, locked_free _ hheld, safe_bind, safe_leave,
    stopNotificationBlock, record_eq, hd, hc, Option.all_some, hr, updateRecord, Prog.modify_apply]
  refine countUnregistered_calm hd1 hz fun w1 hd2 hw1 hm1 => ?_
  simp only [stopForChar, Prog.bind_apply, record_eq, hd2, Out.bind_done, safe_bind, callOut_calm,
    Prog.ite_apply]
  intro r
  have hstops : w.Stops dev u d c.glUuid
      { w1.asked (.notificationStop d.connection c.glUuid) r with held := w1.held.tail } := by
    have hin := (World.Within.updateDevice { w with held := dev :: w.held } dev
      (·.setRegistered u false)).trans hw1
    have hmakes : w.Makes _ w1 := (World.Makes.updateDevice w dev (·.setRegistered u false)).trans hm1
    refine ⟨hd2, ⟨hin.devices, ?_⟩, hmakes.trans (.asked ..)⟩
    rw [hin.rest]
    rfl
  by_cases hrc : r.rc ≠ 0
  · rw [if_pos hrc]
    exact hk false _ hstops
  · rw [if_neg hrc]
    exact hk true _ hstops

/-! ## All of them -/

namespace Device.Details

variable (d)

/-- gattlib's UUIDs of the marked characteristics under the keys. -/
def markedUuids (ks : List UUID) : List GlUuid :=
  ks.filterMap fun k =>
    ((d.characteristics[k]?).filter (·.registeredForNotifs)).map (·.glUuid)

variable {d} {k : UUID} {c : Characteristic.Details}

theorem markedUuids_cons_of_marked (ks : List UUID) (hc : d.characteristics[k]? = some c)
    (hr : c.registeredForNotifs = true) :
    d.markedUuids (k :: ks) = c.glUuid :: d.markedUuids ks :=
  List.filterMap_cons_some (by simp [hc, hr])

theorem markedUuids_cons_of_unmarked (ks : List UUID) (hc : d.characteristics[k]? = some c)
    (hr : c.registeredForNotifs = false) : d.markedUuids (k :: ks) = d.markedUuids ks :=
  List.filterMap_cons_none (by simp [hc, hr])

theorem length_markedUuids (ks : List UUID) :
    (d.markedUuids ks).length = ks.countP d.marked := by
  rw [markedUuids, List.length_filterMap_eq_countP]
  refine List.countP_congr fun k _ => ?_
  rw [marked]
  cases d.characteristics[k]? with
  | none => simp
  | some c => cases hr : c.registeredForNotifs <;> simp [hr]

end Device.Details

/-- The calls that stop the characteristics in turn, from the counter `n` on. -/
def stopAllCalls (c : Option Conn) : UInt8 → List GlUuid → List Call
  | _, [] => []
  | n, g :: gs => stopCalls c n g ++ stopAllCalls c (n - 1) gs

/-- Before the loop over the keys `ks`: the counter is the number of marks that it will find. -/
structure World.Stopping (w : World) (dev : UUID) (d : Device.Details) (ks : List UUID) : Prop where
  adapterIsOpen : w.ble.adapterIsOpen = true
  record : w.ble.devices[dev]? = some d
  live : d.connection.isSome = true
  done : d.discoveryDone = true
  named : d.Named dev
  nodup : ks.Nodup
  present : ∀ k ∈ ks, ∃ c, d.characteristics[k]? = some c ∧
    (c.registeredForNotifs = true → c.supportSubscriptions = true ∧ dev ∉ w.held)
  count : d.numRegisteredForNotifs.toNat = ks.countP d.marked

/-- After the loop over the keys `ks`. -/
structure World.Stopped (w : World) (dev : UUID) (d : Device.Details) (ks : List UUID)
    (w' : World) : Prop where
  record : ∃ d', w'.ble.devices[dev]? = some d' ∧ d.SameCore d' ∧
    d'.notifHandlers = d.notifHandlers ∧ d'.numRegisteredForNotifs = 0 ∧
    ∀ k, d'.marked k = if k ∈ ks then false else d.marked k
  within : w.Within dev w'
  makes : w.Makes (stopAllCalls d.connection d.numRegisteredForNotifs (d.markedUuids ks)) w'

namespace World.Stopping

variable {k : UUID} {ks : List UUID} {c : Characteristic.Details}

/-- Nothing is left to do. -/
theorem nil (h : w.Stopping dev d []) : w.Stopped dev d [] w where
  record := ⟨d, h.record, ⟨rfl, rfl, rfl, rfl, rfl, fun _ => rfl⟩, rfl,
    UInt8.toNat_inj.mp h.count, fun k => by simp⟩
  within := .refl w dev
  makes := .refl w

/-- An unmarked characteristic is passed over. -/
theorem skip (h : w.Stopping dev d (k :: ks)) (hc : d.characteristics[k]? = some c)
    (hr : c.registeredForNotifs = false) : w.Stopping dev d ks where
  __ := h
  nodup := (List.nodup_cons.mp h.nodup).2
  present k' hk' := h.present k' (List.mem_cons_of_mem _ hk')
  count := by
    rw [h.count, List.countP_cons_of_neg]
    simp [Details.marked, hc, hr]

theorem key (h : w.Stopping dev d (k :: ks)) (hc : d.characteristics[k]? = some c) :
    c.id = k ∧ d.characteristic k = some c := by
  obtain ⟨hid, hlow⟩ := h.named.characteristics k c.id (by rw [hc]; rfl)
  refine ⟨hid, ?_⟩
  rw [Details.characteristic, hlow, hc]

theorem counted (h : w.Stopping dev d (k :: ks)) (hc : d.characteristics[k]? = some c)
    (hr : c.registeredForNotifs = true) :
    d.numRegisteredForNotifs.toNat = ks.countP d.marked + 1 := by
  rw [h.count, List.countP_cons_of_pos]
  simp [Details.marked, hc, hr]

end World.Stopping

namespace Device.Details

theorem characteristics_stopped {k : UUID} (hk : normalizeCharacteristicUUID u ≠ k) :
    (d.stopped u).characteristics[k]? = d.characteristics[k]? := by
  rw [stopped, characteristics_setRegistered, if_neg hk]

theorem stopped_core (d : Details) (u : UUID) : d.SameCore (d.stopped u) :=
  have h := SameCore.setRegistered d u false
  ⟨h.id, h.connection, h.discoveryDone, h.services, h.epoch, h.characteristics⟩

theorem marked_stopped {c : Characteristic.Details} (hc : d.characteristic u = some c) (k : UUID) :
    (d.stopped u).marked k = if k = normalizeCharacteristicUUID u then false else d.marked k := by
  split
  · rename_i hk
    subst hk
    exact marked_setRegistered hc false
  · rename_i hk
    exact marked_setRegistered_ne false hk

end Device.Details

namespace World.Stopping

variable {w' : World} {k : UUID} {ks : List UUID} {c : Characteristic.Details}

/-- A marked characteristic has been stopped. -/
theorem stop [Gattlib] (h : w.Stopping dev d (k :: ks)) (hc : d.characteristics[k]? = some c)
    (hr : c.registeredForNotifs = true) (hs : w.Stops dev k d c.glUuid w') :
    w'.Stopping dev (d.stopped k) ks := by
  obtain ⟨hk, hnd⟩ := List.nodup_cons.mp h.nodup
  obtain ⟨-, hch⟩ := h.key hc
  have hlow : normalizeCharacteristicUUID k = k := (h.named.characteristics k c.id (by rw [hc]; rfl)).2
  have hother (k' : UUID) (hk' : k' ∈ ks) : normalizeCharacteristicUUID k ≠ k' := by
    rw [hlow]
    rintro rfl
    exact hk hk'
  have hheld : w'.held = w.held := by rw [hs.within.rest]
  exact {
    adapterIsOpen := by rw [hs.within.rest]; exact h.adapterIsOpen
    record := hs.record
    live := h.live
    done := h.done
    named := Details.Named.lasting.core h.named (d.stopped_core k)
    nodup := hnd
    present := fun k' hk' => by
      rw [Details.characteristics_stopped (hother k' hk'), hheld]
      exact h.present k' (List.mem_cons_of_mem _ hk')
    count := by
      have hcount := h.counted hc hr
      have hone : (1 : UInt8) ≤ d.numRegisteredForNotifs := by
        rw [UInt8.le_iff_toNat_le, UInt8.toNat_one]
        omega
      have hsame : ks.countP (d.stopped k).marked = ks.countP d.marked :=
        List.countP_congr fun k' hk' => by
          rw [Details.marked_stopped hch, if_neg fun he => hother k' hk' he.symm]
      rw [hsame, Details.stopped, UInt8.toNat_sub_of_le _ _ hone, UInt8.toNat_one]
      omega }

end World.Stopping

namespace World.Stopped

variable {w1 w' : World} {k : UUID} {ks : List UUID} {c : Characteristic.Details}

/-- The first key was of an unmarked characteristic. -/
theorem cons_of_unmarked (h : w.Stopped dev d ks w') (hc : d.characteristics[k]? = some c)
    (hr : c.registeredForNotifs = false) : w.Stopped dev d (k :: ks) w' where
  within := h.within
  makes := by
    rw [Details.markedUuids_cons_of_unmarked ks hc hr]
    exact h.makes
  record := by
    obtain ⟨d', hd', hcore, hhandlers, hzero, hmarks⟩ := h.record
    refine ⟨d', hd', hcore, hhandlers, hzero, fun k' => ?_⟩
    rw [hmarks k']
    by_cases hk : k' = k
    · subst hk
      have hm : d.marked k' = false := by simp [Details.marked, hc, hr]
      simp [hm]
    · simp [hk]

/-- The first key was of a marked characteristic. -/
theorem cons_of_marked (h : w1.Stopped dev (d.stopped k) ks w')
    (hs : w.Stops dev k d c.glUuid w1) (hk : k ∉ ks) (hc : d.characteristics[k]? = some c)
    (hch : d.characteristic k = some c) (hlow : normalizeCharacteristicUUID k = k)
    (hr : c.registeredForNotifs = true) : w.Stopped dev d (k :: ks) w' where
  within := hs.within.trans h.within
  makes := by
    have hsame : (d.stopped k).markedUuids ks = d.markedUuids ks :=
      List.filterMap_congr fun k' hk' => by
        rw [Details.characteristics_stopped]
        rw [hlow]
        rintro rfl
        exact hk hk'
    rw [Details.markedUuids_cons_of_marked ks hc hr]
    exact hsame ▸ hs.makes.trans h.makes
  record := by
    obtain ⟨d', hd', hcore, hhandlers, hzero, hmarks⟩ := h.record
    refine ⟨d', hd', (d.stopped_core k).trans hcore, hhandlers, hzero, fun k' => ?_⟩
    rw [hmarks k', Details.marked_stopped hch, hlow]
    by_cases hk' : k' = k
    · simp [hk']
    · simp [hk']

end World.Stopped

/-- **Loop lemma.** -/
theorem stopAllLoop_calm [Gattlib] {ks : List UUID} {Q : Unit → World → Prop} {X : World → Prop}
    (h : w.Stopping dev d ks) (hk : ∀ w', w.Stopped dev d ks w' → Q () w') :
    (stopAllLoop dev d.epoch ks w).Safe calm Q X := by
  induction ks generalizing w d with
  | nil => exact hk w h.nil
  | cons k ks ih =>
    obtain ⟨c, hc, hmark⟩ := h.present k List.mem_cons_self
    obtain ⟨hid, hch⟩ := h.key hc
    have hat {w1 : World} {d1 : Device.Details} {c1 : Characteristic.Details}
        (hd1 : w1.ble.devices[dev]? = some d1) (he : d1.epoch = d.epoch)
        (hc1 : d1.characteristics[k]? = some c1) : charAt dev k d.epoch w1 = .done w1 c1 := by
      simp only [charAt, Prog.bind_apply, record_eq, hd1, Out.bind_done, Details.deref, he, if_true,
        hc1]
      rfl
    simp only [stopAllLoop, Prog.bind_apply, hat h.record rfl hc, Out.bind_done, Prog.ite_apply]
    cases hr : c.registeredForNotifs with
    | false =>
      simp only [Bool.false_eq_true, if_false]
      exact ih (h.skip hc hr) fun w' hw' => hk w' (hw'.cons_of_unmarked hc hr)
    | true =>
      obtain ⟨hsupp, hheld⟩ := hmark hr
      have hz : d.numRegisteredForNotifs ≠ 0 := by
        intro hz
        have hcount := h.counted hc hr
        rw [hz] at hcount
        cases hcount
      simp only [if_true, Prog.bind_apply, record_eq, h.record, Out.bind_done, h.named.id, hid,
        safe_bind]
      refine stopNotification_calm h.adapterIsOpen h.record h.live h.done hheld hch hsupp hr hz
        fun b w1 hs => ?_
      obtain ⟨hnot, -⟩ := List.nodup_cons.mp h.nodup
      obtain ⟨-, hlow⟩ := h.named.characteristics k c.id (by rw [hc]; rfl)
      -- the node is still there for `iter++`
      have hstill : (d.stopped k).characteristics[k]? = some { c with registeredForNotifs := false } := by
        rw [Details.stopped, Details.characteristics_setRegistered, if_pos hlow, hc]
        rfl
      simp only [safe_done, hat hs.record rfl hstill]
      exact ih (d := d.stopped k) (h.stop hc hr hs) fun w' hw' =>
        hk w' (hw'.cons_of_marked hs hnot hc hch hlow hr)

end

/-! ## A history of starts and stops -/

namespace World

/-- No `gattlib_notification_start` of the call failed. -/
def StartsSucceed (w w' : World) : Prop :=
  ∃ l, w'.log = w.log ++ l ∧ ∀ c g r, .ret (.notificationStart c g) r ∈ l → r.rc = 0

end World

/-- The record of a live connection to `dev` whose discovery is done: the counter is the number of
marks. Marks are made by calls that have got hold of the lock, so it is free (`Free`) if there
is one. -/
structure Device.Details.Tallied [Gattlib] (d : Device.Details) (dev : UUID) (Free : Prop) :
    Prop where
  live : d.connection.isSome = true
  done : d.discoveryDone = true
  named : d.Named dev
  keyed : d.Keyed
  size : d.characteristics.size ≤ 255
  count : d.numRegisteredForNotifs.toNat = d.numMarked
  marks : ∀ (k : UUID) (c : Characteristic.Details), d.characteristics[k]? = some c →
    c.registeredForNotifs = true → c.supportSubscriptions = true ∧ Free

/-- The device has such a record. -/
def World.Tallied [Gattlib] (w : World) (dev : UUID) (d : Device.Details) : Prop :=
  w.ble.devices[dev]? = some d ∧ d.Tallied dev (dev ∉ w.held)

section
variable [Gattlib] {w w' : World} {dev u : UUID} {d d' : Device.Details}

omit [Gattlib] in
theorem Device.Details.SameBooks.core (h : d.SameBooks d') : d.SameCore d' :=
  ⟨h.id, h.connection, h.discoveryDone, h.services, h.epoch, fun k => by rw [h.characteristics]⟩

namespace Device.Details.Tallied

variable {Free : Prop}

/-- The books are as they were. -/
theorem of_same (h : d.Tallied dev Free) (hs : d.SameBooks d') : d'.Tallied dev Free where
  live := hs.connection ▸ h.live
  done := hs.discoveryDone ▸ h.done
  named := Named.lasting.core h.named hs.core
  keyed := h.keyed.of_eq fun k => by rw [hs.characteristics]
  size := hs.characteristics ▸ h.size
  count := by
    rw [hs.numRegisteredForNotifs, h.count]
    unfold numMarked marked
    rw [hs.characteristics]
  marks := hs.characteristics ▸ h.marks

/-- A characteristic is turned on or off, and counted. -/
theorem turned (h : d.Tallied dev Free) {on : Bool} {c : Characteristic.Details} {n : UInt8}
    (hc : d.characteristic u = some c) (hsupp : c.supportSubscriptions = true) (hfree : Free)
    (hn : n.toNat = (d.setRegistered u on).numMarked) :
    ({ d.setRegistered u on with numRegisteredForNotifs := n } : Details).Tallied dev Free where
  live := h.live
  done := h.done
  named :=
    have hcore := Named.lasting.core h.named (SameCore.setRegistered d u on)
    ⟨hcore.id, hcore.characteristics⟩
  keyed := h.keyed.of_eq (SameCore.setRegistered d u on).glUuid
  size := Nat.le_trans (Nat.le_of_eq (d.size_setRegistered u on)) h.size
  count := hn
  marks k c' hc' hr := by
    rw [characteristics_setRegistered] at hc'
    split at hc'
    · rename_i hk
      unfold characteristic at hc
      rw [← hk, hc] at hc'
      obtain rfl := Option.some.inj hc'
      exact ⟨hsupp, hfree⟩
    · exact h.marks k c' hc' hr

end Device.Details.Tallied

namespace World.Tallied

/-- **Step lemma.** -/
theorem step (h : w.Tallied dev d) (hcall : w.NotifyCall dev w') (hok : w.StartsSucceed w') :
    ∃ d', w'.Tallied dev d' := by
  obtain ⟨hd, h⟩ := h
  obtain ⟨op, r, hop, hcall⟩ := hcall
  obtain ⟨u, on, hturn⟩ := hop.turning
  obtain ⟨b, -, -, ⟨-, hw⟩ | ⟨hheld, g, hg, ht⟩⟩ := hturn.called hcall hd h.live
  · exact ⟨d, hw.record hd, hw.tells.held ▸ h⟩
  obtain ⟨c, hc, hsupp, rfl⟩ := d.subject_eq h.done hg
  cases ht with
  | idle d' hd' hs ht => exact ⟨d', hd', ht.held ▸ h.of_same hs⟩
  | told d' rn ri r hr hd' hs ht ht' =>
    have hlock : w'.held = w.held := ht'.held.trans ht.held
    refine ⟨d', hd', hlock ▸ (h.turned hc hsupp hheld ?_).of_same hs⟩
    cases on with
    | true =>
      have hrc : r.rc = 0 := by
        obtain ⟨l, hl, hall⟩ := hok
        obtain ⟨l1, hl1, -⟩ := ht.log
        obtain ⟨l2, hl2, -⟩ := ht'.log
        refine hall d.connection c.glUuid r ?_
        rw [hl2, World.asked_log, hl1, List.append_assoc, List.append_assoc] at hl
        rw [← List.append_cancel_left hl]
        simp [Call.turn]
      rw [countTurned, if_pos hrc]
      exact d.counted_mark h.size h.count hc (hr c hc)
    | false =>
      rw [countTurned, if_neg (d.counted_ne_zero h.count hc (hr c hc))]
      exact d.counted_unmark h.count hc (hr c hc)

/-- **Run lemma.** -/
theorem chain {ws : List World} (h : w.Tallied dev d) (hws : List.IsChain (fun w w' =>
      w.NotifyCall dev w' ∧ w.StartsSucceed w') (w :: ws)) (hlast : (w :: ws).getLast? = some w') :
    ∃ d', w'.Tallied dev d' := by
  induction ws generalizing w d with
  | nil =>
    obtain rfl : w = w' := Option.some.inj hlast
    exact ⟨d, h⟩
  | cons w1 ws ih =>
    obtain ⟨⟨hcall, hok⟩, hws⟩ := List.isChain_cons_cons.mp hws
    obtain ⟨d1, h1⟩ := h.step hcall hok
    exact ih h1 hws (by rwa [List.getLast?_cons_cons] at hlast)

end World.Tallied

/-! ## What is stopped -/

/-- The calls made from `w` to `w'`. -/
def World.callsSince (w w' : World) : List Call :=
  (w'.log.drop w.log.length).filterMap Obs.made

omit [Gattlib] in
theorem World.Makes.callsSince {es : List Call} (h : w.Makes es w') : w.callsSince w' = es := by
  obtain ⟨l, hl, rfl⟩ := h
  rw [World.callsSince, hl, List.drop_left]

section
variable {c : Option Conn} {gs : List GlUuid}

omit [Gattlib] in
theorem count_stop (n : UInt8) (g : GlUuid) :
    (stopAllCalls c n gs).count (.notificationStop c g) = gs.count g := by
  induction gs generalizing n with
  | nil => rfl
  | cons g' gs ih =>
    have hone : (stopCalls c n g').count (.notificationStop c g) = if g' = g then 1 else 0 := by
      unfold stopCalls
      split <;> simp [List.count_cons]
    rw [stopAllCalls, List.count_append, ih, hone, List.count_cons, Nat.add_comm]
    simp

omit [Gattlib] in
/-- The handlers are cancelled with the last stop. -/
theorem count_cancel {n : UInt8} (hn : n.toNat = gs.length) {e : Call}
    (he : e = .registerNotification c none ∨ e = .registerIndication c none) :
    (stopAllCalls c n gs).count e = if gs = [] then 0 else 1 := by
  induction gs generalizing n with
  | nil => rfl
  | cons g gs ih =>
    have hlen : n.toNat = gs.length + 1 := hn
    have hone : (1 : UInt8) ≤ n := by
      rw [UInt8.le_iff_toNat_le, UInt8.toNat_one]
      omega
    have hrest := ih (n := n - 1) (by rw [UInt8.toNat_sub_of_le _ _ hone, UInt8.toNat_one]; omega)
    have hlast : n = 1 ↔ gs = [] := by
      rw [← UInt8.toNat_inj, UInt8.toNat_one, hlen, ← List.length_eq_zero_iff]
      omega
    have hhere : (stopCalls c n g).count e = if gs = [] then 1 else 0 := by
      unfold stopCalls
      by_cases hg : gs = []
      · rw [if_pos (hlast.mpr hg), if_pos hg]
        rcases he with rfl | rfl <;> simp
      · rw [if_neg fun h => hg (hlast.mp h), if_neg hg]
        rcases he with rfl | rfl <;> simp
    rw [stopAllCalls, List.count_append, hrest, hhere]
    by_cases hg : gs = [] <;> simp [hg]

omit [Gattlib] in
/-- Nothing else is called. -/
theorem mem_stopAllCalls {n : UInt8} {e : Call} (he : e ∈ stopAllCalls c n gs) :
    (∃ g ∈ gs, e = .notificationStop c g) ∨ e = .registerNotification c none ∨
      e = .registerIndication c none := by
  induction gs generalizing n with
  | nil => cases he
  | cons g gs ih =>
    rcases List.mem_append.mp he with he | he
    · unfold stopCalls at he
      rcases List.mem_append.mp he with he | he
      · split at he
        · exact .inr (List.mem_pair.mp he)
        · cases he
      · exact .inl ⟨g, List.mem_cons_self, List.mem_singleton.mp he⟩
    · exact (ih he).imp_left fun ⟨g', hg', heq⟩ => ⟨g', List.mem_cons_of_mem _ hg', heq⟩

end

omit [Gattlib] in
theorem Device.Details.mem_markedUuids {g : GlUuid} {ks : List UUID} : g ∈ d.markedUuids ks ↔
    ∃ k ∈ ks, ∃ c, d.characteristics[k]? = some c ∧ c.registeredForNotifs = true ∧ c.glUuid = g := by
  simp [markedUuids, Option.filter_eq_some_iff, and_assoc]

/-- Two characteristics never have the same UUID of gattlib. -/
theorem Device.Details.Keyed.nodup_markedUuids (h : d.Keyed) {ks : List UUID} (hnd : ks.Nodup) :
    (d.markedUuids ks).Nodup := by
  refine hnd.filterMap fun k k' g hg hg' => ?_
  simp only [Option.mem_def, Option.map_eq_some_iff, Option.filter_eq_some_iff] at hg hg'
  obtain ⟨c, ⟨hc, -⟩, rfl⟩ := hg
  obtain ⟨c', ⟨hc', -⟩, heq⟩ := hg'
  exact h.key_eq hc hc' heq.symm

/-- What `stopAllNotifications` does to the device with the record `d`: -/
structure World.Unsubscribes (w : World) (dev : UUID) (d : Device.Details) (w' : World) : Prop where
  /-- every mark is taken off and the counter is 0, and nothing else of the record changes; -/
  record : ∃ d', w'.ble.devices[dev]? = some d' ∧
    (∀ (k : UUID) c, d'.characteristics[k]? = some c → c.registeredForNotifs = false) ∧
    d'.numRegisteredForNotifs = 0 ∧ d.SameCore d' ∧ d'.notifHandlers = d.notifHandlers
  /-- gattlib is told once to stop each characteristic that was marked, -/
  stops : ∀ (k : UUID) c, d.characteristics[k]? = some c → c.registeredForNotifs = true →
    (w.callsSince w').count (.notificationStop d.connection c.glUuid) = 1
  /-- and to cancel the library's handlers once if there was one, and otherwise not, -/
  cancels : ∀ e, e = .registerNotification d.connection none ∨
    e = .registerIndication d.connection none →
      (w.callsSince w').count e = if d.numMarked = 0 then 0 else 1
  /-- and nothing else; -/
  only : ∀ e ∈ w.callsSince w', (∃ (k : UUID) (c : Characteristic.Details),
      d.characteristics[k]? = some c ∧ c.registeredForNotifs = true ∧
        e = .notificationStop d.connection c.glUuid) ∨
    e = .registerNotification d.connection none ∨ e = .registerIndication d.connection none
  /-- the queues and the other devices are as they were. -/
  asyncActions : w'.ble.asyncActions = w.ble.asyncActions
  reportQueue : w'.ble.reportQueue = w.ble.reportQueue
  devices : ∀ e, e ≠ dev → w'.ble.devices[e]? = w.ble.devices[e]?

/-- What the loop leaves is what is wanted. -/
theorem World.Stopped.unsubscribes (h : w.Stopped dev d d.characteristics.keys w')
    (ht : d.Tallied dev (dev ∉ w.held)) : w.Unsubscribes dev d w' := by
  have hnd := ht.keyed.nodup_markedUuids d.nodup_keys
  have hlen : d.numRegisteredForNotifs.toNat = (d.markedUuids d.characteristics.keys).length := by
    rw [ht.count, Details.length_markedUuids]
    rfl
  have hkey {k : UUID} {c : Characteristic.Details} (hc : d.characteristics[k]? = some c) :
      k ∈ d.characteristics.keys :=
    Std.TreeMap.mem_keys.mpr (Std.TreeMap.mem_iff_isSome_getElem?.mpr (by simp [hc]))
  exact {
    record := by
      obtain ⟨d', hd', hcore, hhandlers, hzero, hmarks⟩ := h.record
      refine ⟨d', hd', fun k c hc => ?_, hzero, hcore, hhandlers⟩
      have hk := hmarks k
      by_cases hin : k ∈ d.characteristics.keys
      · rw [if_pos hin, Details.marked, hc] at hk
        exact hk
      · -- the map has no other keys
        have hnone := hcore.characteristics k
        rw [hc, Std.TreeMap.getElem?_eq_none fun hm => hin (Std.TreeMap.mem_keys.mpr hm)] at hnone
        cases hnone
    stops := fun k c hc hr => by
      rw [h.makes.callsSince, count_stop]
      exact List.count_eq_one_of_mem hnd (Details.mem_markedUuids.mpr ⟨k, hkey hc, c, hc, hr, rfl⟩)
    cancels := fun e he => by
      rw [h.makes.callsSince, count_cancel hlen he]
      congr 1
      rw [← List.length_eq_zero_iff, ← hlen, ht.count]
    only := fun e he => by
      rw [h.makes.callsSince] at he
      refine (mem_stopAllCalls he).imp_left ?_
      rintro ⟨g, hg, heq⟩
      obtain ⟨k, -, c, hc, hr, rfl⟩ := Details.mem_markedUuids.mp hg
      exact ⟨k, c, hc, hr, heq⟩
    asyncActions := by rw [h.within.rest]
    reportQueue := by rw [h.within.rest]
    devices := h.within.devices }

/-- What `stopAllNotifications` does where the books are kept. -/
theorem stopAll_ends (hd : w.ble.devices[dev]? = some d) (ht : d.Tallied dev (dev ∉ w.held))
    (hopen : w.ble.adapterIsOpen = true) :
    (Op.stopAllNotifications dev).Ends w fun r w' => r = .void ∧ w.Unsubscribes dev d w' := by
  have hstop : (w.note (.enter (.api (.stopAllNotifications dev)))).Stopping dev d
      d.characteristics.keys := {
    adapterIsOpen := hopen
    record := hd
    live := ht.live
    done := ht.done
    named := ht.named
    nodup := d.nodup_keys
    present := fun k hk => by
      obtain ⟨c, hc⟩ := Option.isSome_iff_exists.mp
        (Std.TreeMap.mem_iff_isSome_getElem?.mp (Std.TreeMap.mem_keys.mp hk))
      exact ⟨c, hc, ht.marks k c hc⟩
    count := ht.count }
  simp only [Op.Ends, Op.run, stopAllNotifications, ble_apply, Prog.bind_apply, Out.bind_done,
    BLECentral.deviceDetails, normalizeDeviceUUID, World.note_ble, hd, safe_bind]
  refine stopAllLoop_calm hstop fun w1 hw1 => ⟨rfl, World.Stopped.unsubscribes ?_ ht⟩
  have hmakes := ((World.Makes.note w (o := .enter (.api (.stopAllNotifications dev))) rfl).trans
    hw1.makes).trans (.note w1 (o := .exit (.api (.stopAllNotifications dev)) .void) rfl)
  rw [List.nil_append, List.append_nil] at hmakes
  exact ⟨hw1.record, ((World.Within.note w dev _).trans hw1.within).trans (.note w1 dev _), hmakes⟩

/-- **`stopAllNotifications` unsubscribes everything.** -/
theorem stopAll_unsubscribes {c : Config World Call Resp Fault} (h : Reach .any .init c)
    (hf : c.fault = none) (hd : c.s.ble.devices[dev]? = some d)
    (hlive : d.connection.isSome = true) (hdone : d.discoveryDone = true)
    (hcount : d.numRegisteredForNotifs = 0) (hmarks : ∀ k, d.marked k = false)
    (hsize : d.characteristics.size ≤ 255) {ws : List World}
    (hws : List.IsChain (fun w w' => w.NotifyCall dev w' ∧ w.StartsSucceed w') (c.s :: ws))
    (hlast : (c.s :: ws).getLast? = some w) (hopen : w.ble.adapterIsOpen = true) :
    ∃ d', w.ble.devices[dev]? = some d' ∧ (Op.stopAllNotifications dev).Ends w fun r w' =>
      r = .void ∧ w.Unsubscribes dev d' w' := by
  have htally : c.s.Tallied dev d := by
    refine ⟨hd, hlive, hdone, named_reach h hf dev d hd, keyed_reach h hf dev d hd, hsize, ?_, ?_⟩
    · have hzero : d.numMarked = 0 := List.countP_eq_zero.mpr fun k _ => by simp [hmarks k]
      rw [hcount, hzero]
      rfl
    · intro k c hc hr
      have hk := hmarks k
      rw [Details.marked, hc] at hk
      simp [hr] at hk
  obtain ⟨d', hd', ht⟩ := htally.chain hws hlast
  exact ⟨d', hd', stopAll_ends hd' ht hopen⟩

end

/-- A connect to `"A"` with the discovery of two characteristics that notify. -/
def discoverTwo : List (System.Choice Move Resp) :=
  [.enter (.api (.connect "A" none none none)), .answer (.adapter 3),
    .enter (.api .processAsync), .answer .void, .answer (.code 0),
    .enter (.event (some 0) (.connected (some 7))), .enter (.api .processAsync), .answer .void,
    .answer (.services []), .enter (.api .processAsync), .answer .void,
    .answer (.characteristics [⟨0x10, 1⟩, ⟨0x10, 2⟩])]

/-- One of two characteristics is started, and then all are stopped. -/
theorem stopAll_unsubscribes_one : ∃ (c : Config World Call Resp Fault) (w : World)
    (d : Device.Details), @Reach .sample .any .init c ∧
      @Op.Called .sample (.startNotification "A" "2A19" none none) c.s (.bool true) w ∧
      w.ble.devices["A"]? = some d ∧ d.marked "2a19" = true ∧
      (d.hasCharacteristic "2a6e" = true ∧ d.marked "2a6e" = false) ∧
      @Op.Ends .sample (.stopAllNotifications "A") w fun r w' =>
        r = .void ∧ w.Unsubscribes "A" d w' := by
  let _ := Gattlib.sample
  obtain ⟨c, hc, hP⟩ := (system .any).reach_of_run_any discoverTwo (c := ⟨.init, [], none⟩)
    (P := fun c => c.fault.isNone && ((c.s.ble.devices["A"]?.any fun d =>
      d.connection == some 7 && (d.discoveryDone && (d.numRegisteredForNotifs == 0 &&
        (d.characteristics.keys == ["2a19", "2a6e"] && (! d.marked "2a19" && ! d.marked "2a6e"))))) &&
      ((Op.startNotification "A" "2A19" none none).callWith c.s [.void, .void, .code 0]).any fun p =>
        p.1 = .bool true && (p.2.ble.adapterIsOpen &&
        (p.2.ble.devices["A"]?.any fun d => d.marked "2a19" && (d.hasCharacteristic "2a6e" &&
          ! d.marked "2a6e")) &&
        p.2.log == c.s.log ++ [.enter (.api (.startNotification "A" "2A19" none none)),
          .call (.registerNotification (some 7) (some "A")),
          .ret (.registerNotification (some 7) (some "A")) .void,
          .call (.registerIndication (some 7) (some "A")),
          .ret (.registerIndication (some 7) (some "A")) .void,
          .call (.notificationStart (some 7) 1), .ret (.notificationStart (some 7) 1) (.code 0),
          .exit (.api (.startNotification "A" "2A19" none none)) p.1]))) (by decide +kernel)
  simp only [Bool.and_eq_true, Option.isNone_iff_eq_none, Option.any_eq_true, beq_iff_eq,
    Prod.exists, decide_eq_true_eq, Bool.not_eq_true'] at hP
  obtain ⟨hf, ⟨d0, hd0, hconn, hdone, hcount, hkeys, hno1, hno2⟩, r, w, hw, rfl,
    ⟨hopen, d, hd, hmark, hother⟩, hlog⟩ := hP
  have hmarks : ∀ k, d0.marked k = false := d0.not_marked (by
    rw [hkeys]
    simpa using ⟨hno1, hno2⟩)
  have hsize : d0.characteristics.size ≤ 255 := by
    rw [← Std.TreeMap.length_keys, hkeys]
    decide
  have hcall := Op.called_of_with hw
  have hok : c.s.StartsSucceed w := by
    refine ⟨_, hlog, fun conn g r hr => ?_⟩
    simp only [List.mem_cons, List.not_mem_nil, reduceCtorEq, false_or, or_false, Obs.ret.injEq,
      false_and] at hr
    rw [hr.2]
    rfl
  obtain ⟨d', hd', hends⟩ := stopAll_unsubscribes hc hf hd0 (by rw [hconn]; rfl) hdone hcount hmarks
    hsize (.cons_cons ⟨⟨_, _, .start .., hcall⟩, hok⟩ (.singleton _)) rfl hopen
  cases hd.symm.trans hd'
  exact ⟨c, w, d, hc, hcall, hd, hmark, hother, hends⟩

end Gattlibpp
