import Gattlibpp.Act.Requests

/-!
# Notifications are acts

`startNotification` and `stopNotification` change device records by `Subs` only, so
they are safe for every claim that allows it, and so is `handleNotification` for
every claim.
-/

namespace Gattlibpp

open Open

/-! ## Changes to a record -/

namespace Device.Details.SameCore

variable (d : Device.Details)

theorem setRegistered (u : UUID) (b : Bool) : d.SameCore (d.setRegistered u b) where
  id := rfl
  connection := rfl
  discoveryDone := rfl
  services := rfl
  epoch := rfl
  characteristics k := by
    simp only [Device.Details.setRegistered, Std.TreeMap.getElem?_modify]
    split
    · rename_i hk
      have hk := Std.LawfulEqOrd.eq_of_compare hk
      cases hc : d.characteristics[normalizeCharacteristicUUID u]? <;> simp [← hk, hc, Characteristic.Details.unmarked]
    · rfl

theorem setNotificationHandler (u : UUID) (cb : Callback) :
    d.SameCore (d.setNotificationHandler u cb) := ⟨rfl, rfl, rfl, rfl, rfl, fun _ => rfl⟩

theorem setCounter (n : UInt8) : d.SameCore { d with numRegisteredForNotifs := n } :=
  ⟨rfl, rfl, rfl, rfl, rfl, fun _ => rfl⟩

end Device.Details.SameCore

section
variable [Gattlib]

namespace Claim

variable {P : Policy} {C : Claim P} {Q : Bool → World → Prop} {X : World → Prop}

/-- Changes of kind `A` keep the invariant. -/
def Allows (C : Claim P) (A : World → World → Prop) : Prop :=
  ∀ {w w' : World}, C.inv w → A w w' → C.inv w' ∧ C.extra w w'

/-- A guarded block that is safe with its lock taken. -/
theorem lockedBlock_safe {dev : UUID} {p : Ble Bool} {w0 w : World} (hw : C.Calm w0 w)
    (he : C.Entered w)
    (hp : ∀ {w' Q X}, C.inv w' → w'.ble = w.ble → w'.log = w.log →
      (∀ b w'', C.Calm w' w'' → Q b w'') → (p w').Safe C.rules Q X)
    (hk : ∀ b w', C.Calm w0 w' → Q b w') : (locked dev p w).Safe C.rules Q X :=
  locked_safe hw.inv he fun _ hl hwl _ =>
    hp hl (by rw [hwl]) (by rw [hwl]) fun b _ hw' => ⟨hw', fun hu => hk b _ (hw.trans hu)⟩

section
variable (hsubs : C.Allows (Subs P)) (hnotes : C.terms.notifies) {w0 w : World} {dev u : UUID}
  {g : GlUuid} {cb succ fail : Callback}
include hsubs hnotes

omit hnotes in
theorem Calm.subs (hw : C.Calm w0 w) {f : Device.Details → Device.Details}
    (hf : ∀ d : Device.Details, d.SameCore (f d))
    (hn : ∀ d : Device.Details, (f d).notifHandlers = d.notifHandlers) :
    C.Calm w0 (w.updateDevice dev f) := by
  have hs := Subs.mk (P := P) (w := w) dev f hf (.inl hn)
  have ha := hsubs hw.inv hs
  exact hw.trans ⟨⟨ha.1, .updateDevice .., ha.2⟩, C.calm_subs hs⟩

omit hsubs in
/-- A call about notifications, with the connection of a device. -/
theorem notifyCall_safe {e : Call} {d : Device.Details} {Q : Resp → World → Prop} (hw : C.Calm w0 w)
    (hd : w.ble.devices[dev]? = some d) (he : e.Plain ∧ ∀ r, e.Settled r)
    (hh : (∃ dev, d.connection = w.connectionOf dev) → e.Handled P w)
    (hk : ∀ r w', C.Calm w0 w' → Q r w') : (callOut e w).Safe C.rules Q X := by
  have hconn : d.connection = w.connectionOf dev := by rw [World.connectionOf, hd]; rfl
  exact plain_safe hw.inv he.1 (fun _ => hnotes) (hh ⟨dev, hconn⟩) he.2
    fun r w' hw' _ => hk r w' (hw.trans hw')

theorem countRegistered_safe {Q : Unit → World → Prop} (hw : C.Calm w0 w)
    (hrec : (w0.ble.devices[dev]?).isSome) (hk : ∀ w', C.Calm w0 w' → Q () w') :
    (countRegistered dev w).Safe C.rules Q X := by
  have hkeep {w' : World} (hw' : C.Calm w0 w') : (w'.ble.devices[dev]?).isSome :=
    hw'.rel.kept.records dev hrec
  simp only [countRegistered, Prog.bind_apply, safe_bind]
  refine record_safe (hkeep hw) fun d _ => ?_
  rw [Prog.ite_apply]
  split
  · exact hk _ (hw.subs hsubs (fun d => .setCounter d _) fun _ => rfl)
  · simp only [Prog.bind_apply, safe_bind]
    refine record_safe (hkeep hw) fun d1 _ => record_safe (hkeep hw) fun d2 hd2 => ?_
    refine notifyCall_safe hnotes hw hd2 ⟨rfl, fun _ => .inl rfl⟩ id fun r w1 hw1 => ?_
    refine record_safe (hkeep hw1) fun d3 hd3 => ?_
    refine notifyCall_safe hnotes hw1 hd3 ⟨rfl, fun _ => .inl rfl⟩ id fun r w2 hw2 => ?_
    exact hk _ (hw2.subs hsubs (fun d => .setCounter d _) fun _ => rfl)

theorem startForChar_safe (hw : C.Calm w0 w) (hrec : (w0.ble.devices[dev]?).isSome)
    (hf : C.Fair w0 fail) (hk : ∀ b w', C.Calm w0 w' → Q b w') :
    (startForChar dev g fail w).Safe C.rules Q X := by
  simp only [startForChar, Prog.bind_apply, safe_bind]
  refine record_safe (hw.rel.kept.records dev hrec) fun d hd => ?_
  refine notifyCall_safe hnotes hw hd ⟨rfl, fun _ => .inl rfl⟩ id fun r w1 hw1 => ?_
  rw [Prog.ite_apply]
  split
  · simp only [Prog.bind_apply, safe_bind]
    refine triggerCbIfSet_safe hw1.inv (hf.mono hw1.rel.kept.log) fun w2 hw2 => ?_
    exact hk false _ ((hw1.trans hw2).subs hsubs (fun d => .setCounter d _) fun _ => rfl)
  · exact hk true _ hw1

theorem startNotificationBlock_safe (hP : P.Starts w dev u cb) (h : C.inv w)
    (hrec : (w.ble.devices[dev]?).isSome) (hf : C.Fair w fail)
    (hk : ∀ b w', C.Calm w w' → Q b w') :
    (startNotificationBlock dev u g cb fail w).Safe C.rules Q X := by
  have hset {w' : World} (hw : C.Calm w w') :
      C.Calm w (w'.updateDevice dev (·.setNotificationHandler u cb)) := by
    have hs := Subs.mk (P := P) (w := w') dev _ (fun d => .setNotificationHandler d u cb)
      (.inr ⟨u, cb, hP.mono hw.rel.kept.log, fun _ => rfl⟩)
    have ha := hsubs hw.inv hs
    exact hw.trans ⟨⟨ha.1, .updateDevice .., ha.2⟩, C.calm_subs hs⟩
  simp only [startNotificationBlock, Prog.bind_apply, safe_bind]
  refine record_safe hrec fun d _ => ?_
  cases (d.characteristic u).all fun c => ! c.registeredForNotifs with
  | true =>
    have hreg : C.Calm w (w.updateDevice dev (·.setRegistered u true)) :=
      Calm.subs hsubs (.refl h) (fun d => .setRegistered d u true) fun _ => rfl
    simp only [reduceIte, Prog.bind_apply, safe_bind]
    exact countRegistered_safe hsubs hnotes (hset hreg) hrec
      fun w1 hw1 => startForChar_safe hsubs hnotes hw1 hrec hf hk
  | false => exact hk true _ (hset (.refl h))

theorem startNotification_safe (hP : P.Starts w dev u cb) (hf : C.Fair w fail) (he : C.Entered w)
    (h : C.inv w) (hk : ∀ b w', C.Calm w w' → Q b w') :
    (startNotification dev u cb fail w).Safe C.rules Q X := by
  refine ensureAdapterAvail_safe h hf (hk false) fun w1 hw _ _ => ?_
  simp only [ble_apply, Prog.bind_apply, Out.bind_done, Prog.ite_apply]
  split
  · exact refuse_safe hw hf hk
  · rename_i hc
    have hrec : (w1.ble.devices[dev]?).isSome := w1.ble.record_of_connected (by simpa using hc)
    have he1 := he.mono hw.rel.kept
    have hblock (g : GlUuid) : (locked dev (startNotificationBlock dev u g cb fail) w1).Safe
        C.rules Q X :=
      lockedBlock_safe hw he1 (fun hl hb hlog hk =>
        startNotificationBlock_safe hsubs hnotes (hP.mono (hlog ▸ hw.rel.kept.log)) hl
          (by rwa [hb]) (hf.mono (hlog ▸ hw.rel.kept.log)) hk) hk
    rw [safe_bind]
    refine getUUIDForCharOrFail_safe hw.inv he1 (hf.mono hw.rel.kept.log) hrec
      (fun w' hw' => hk false _ (hw.trans hw')) ?_ ?_
    · exact fun _ c _ _ _ _ => hblock c.glUuid
    · exact fun _ g _ _ _ => hblock g

theorem countUnregistered_safe {Q : Unit → World → Prop} (hw : C.Calm w0 w)
    (hrec : (w0.ble.devices[dev]?).isSome) (hk : ∀ w', C.Calm w0 w' → Q () w') :
    (countUnregistered dev w).Safe C.rules Q X := by
  have hkeep {w' : World} (hw' : C.Calm w0 w') : (w'.ble.devices[dev]?).isSome :=
    hw'.rel.kept.records dev hrec
  simp only [countUnregistered, Prog.bind_apply, safe_bind]
  refine record_safe (hkeep hw) fun d _ => ?_
  rw [Prog.ite_apply]
  split
  · have hw1 : C.Calm w0 (w.updateDevice dev fun d =>
        { d with numRegisteredForNotifs := d.numRegisteredForNotifs - 1 }) :=
      hw.subs hsubs (fun d => .setCounter d _) fun _ => rfl
    simp only [Prog.bind_apply, safe_bind]
    refine record_safe (hkeep hw1) fun d1 _ => ?_
    rw [Prog.ite_apply]
    split
    · simp only [Prog.bind_apply, safe_bind]
      refine record_safe (hkeep hw1) fun d2 hd2 => ?_
      refine notifyCall_safe hnotes hw1 hd2 ⟨rfl, fun _ => .inl rfl⟩ id fun r w2 hw2 => ?_
      refine record_safe (hkeep hw2) fun d3 hd3 => ?_
      exact notifyCall_safe hnotes hw2 hd3 ⟨rfl, fun _ => .inl rfl⟩ id fun r w3 hw3 => hk _ hw3
    · exact hk _ hw1
  · exact hk _ hw

omit hsubs in
theorem stopForChar_safe (hw : C.Calm w0 w) (hrec : (w0.ble.devices[dev]?).isSome)
    (hf : C.Fair w0 fail) (hk : ∀ b w', C.Calm w0 w' → Q b w') :
    (stopForChar dev g fail w).Safe C.rules Q X := by
  simp only [stopForChar, Prog.bind_apply, safe_bind]
  refine record_safe (hw.rel.kept.records dev hrec) fun d hd => ?_
  refine notifyCall_safe hnotes hw hd ⟨rfl, fun _ => .inl rfl⟩ id fun r w1 hw1 => ?_
  rw [Prog.ite_apply]
  split
  · exact refuse_safe hw1 hf hk
  · exact hk true _ hw1

theorem stopNotificationBlock_safe (h : C.inv w) (hrec : (w.ble.devices[dev]?).isSome)
    (hf : C.Fair w fail) (hk : ∀ b w', C.Calm w w' → Q b w') :
    (stopNotificationBlock dev u g fail w).Safe C.rules Q X := by
  simp only [stopNotificationBlock, Prog.bind_apply, safe_bind]
  refine record_safe hrec fun d _ => ?_
  cases (d.characteristic u).all fun c => c.registeredForNotifs with
  | true =>
    have hw1 : C.Calm w (w.updateDevice dev (·.setRegistered u false)) :=
      Calm.subs hsubs (.refl h) (fun d => .setRegistered d u false) fun _ => rfl
    simp only [reduceIte, Prog.bind_apply, safe_bind]
    exact countUnregistered_safe hsubs hnotes hw1 hrec
      fun w2 hw2 => stopForChar_safe hnotes hw2 hrec hf hk
  | false => exact hk true _ (.refl h)

theorem stopNotification_safe (hP : ∀ w', w.log <+: w'.log → succ.isSome → P.Reports w' succ)
    (hf : C.Fair w fail) (he : C.Entered w) (h : C.inv w) (hk : ∀ b w', C.Calm w w' → Q b w') :
    (stopNotification dev u succ fail w).Safe C.rules Q X := by
  refine ensureAdapterAvail_safe h hf (hk false) fun w1 hw _ _ => ?_
  simp only [ble_apply, Prog.bind_apply, Out.bind_done, Prog.ite_apply]
  split
  · exact refuse_safe hw hf hk
  · rename_i hc
    have hrec : (w1.ble.devices[dev]?).isSome := w1.ble.record_of_connected (by simpa using hc)
    have he1 := he.mono hw.rel.kept
    have hblock (g : GlUuid) {k : Bool → Ble Bool}
        (hrest : ∀ b w', C.Calm w w' → (k b w').Safe C.rules Q X) :
        ((locked dev (stopNotificationBlock dev u g fail) w1).bind k).Safe C.rules Q X := by
      rw [safe_bind]
      exact lockedBlock_safe hw he1 (fun hl hb hlog hk =>
        stopNotificationBlock_safe hsubs hnotes hl (by rwa [hb])
          (hf.mono (hlog ▸ hw.rel.kept.log)) hk) hrest
    rw [safe_bind]
    refine getUUIDForCharOrFail_safe hw.inv he1 (hf.mono hw.rel.kept.log) hrec
      (fun w' hw' => hk false _ (hw.trans hw')) (fun _ c _ _ _ _ => ?_) fun _ g _ _ _ => ?_
    all_goals
      refine hblock _ fun b w2 hw2 => ?_
      cases b with
      | false => exact hk false _ hw2
      | true =>
        cases succ with
        | none => exact hk true _ hw2
        | some f => exact report_safe (hP w2 hw2.rel.kept.log rfl) hw2 hk

end

/-- The operations on notifications are safe for the claim. -/
structure Notifies (C : Claim P) : Prop where
  start : ∀ {dev u : UUID} {cb fail : Callback} {w : World} {Q : Bool → World → Prop}
    {X : World → Prop}, P.Starts w dev u cb → C.Fair w fail → C.Entered w → C.inv w →
    (∀ b w', C.Calm w w' → (b = true → C.started w' dev u) → Q b w') →
    (startNotification dev u cb fail w).Safe C.rules Q X
  stop : ∀ {dev u : UUID} {succ fail : Callback} {w : World} {Q : Bool → World → Prop}
    {X : World → Prop}, (∀ w', w.log <+: w'.log → succ.isSome → P.Reports w' succ) →
    C.Fair w fail → C.Entered w → C.inv w → (∀ b w', C.Calm w w' → Q b w') →
    (stopNotification dev u succ fail w).Safe C.rules Q X

/-- A claim that allows every change of notification state, and promises nothing about it. -/
theorem Notifies.of_subs (hsubs : C.Allows (Subs P)) (hst : ∀ w dev u, C.started w dev u)
    (hnotes : C.terms.notifies := by trivial) : C.Notifies where
  start hP hf he h hk := startNotification_safe hsubs hnotes hP hf he h
    fun b w' hw => hk b w' hw fun _ => hst ..
  stop hP hf he h hk := stopNotification_safe hsubs hnotes hP hf he h hk

/-! ## All of a device -/

theorem stopAllLoop_safe (hn : C.Notifies) {dev : UUID} {epoch : Nat} {keys : List UUID}
    {w0 w : World} {Q : Unit → World → Prop} (he : C.Entered w0)
    (hrec : (w0.ble.devices[dev]?).isSome)
    (hkeys : ∀ key ∈ keys, (w0.captured dev ⟨key, epoch⟩).isSome) (hw : C.Calm w0 w)
    (hk : ∀ w', C.Calm w0 w' → Q () w') :
    (stopAllLoop dev epoch keys w).Safe C.rules Q X := by
  have hcharAt {key : UUID} {w1 : World} {Q : Characteristic.Details → World → Prop}
      (hkey : (w0.captured dev ⟨key, epoch⟩).isSome) (hw1 : C.Calm w0 w1) (h : ∀ c, Q c w1) :
      (charAt dev key epoch w1).Safe C.rules Q X := by
    simp only [charAt, Prog.bind_apply, safe_bind]
    refine record_safe (hw1.rel.kept.records dev hrec) fun d hd => ?_
    cases hc : d.deref ⟨key, epoch⟩ with
    | none =>
      have hgone : w1.captured dev ⟨key, epoch⟩ = none := by rw [World.captured, hd]; exact hc
      exact C.other (.cleared w0 w1 dev _ hw1.calm hkey hgone) _
    | some c => exact h c
  induction keys generalizing w with
  | nil => exact hk _ hw
  | cons key rest ih =>
    have hkey := hkeys key List.mem_cons_self
    have hnext {w1 : World} (hw1 : C.Calm w0 w1) : (charAt dev key epoch w1).Safe C.rules
        (fun _ w2 => (stopAllLoop dev epoch rest w2).Safe C.rules Q X) X :=
      hcharAt hkey hw1 fun _ => ih (fun k hk => hkeys k (List.mem_cons_of_mem _ hk)) hw1
    simp only [stopAllLoop, Prog.bind_apply, safe_bind]
    refine hcharAt hkey hw fun c => ?_
    rw [Prog.ite_apply]
    split
    · simp only [Prog.bind_apply, safe_bind]
      refine record_safe (hw.rel.kept.records dev hrec) fun d _ => ?_
      exact hn.stop (by simp) (fair_none w) (he.mono hw.rel.kept) hw.inv
        fun _ w1 hw1 => hnext (hw.trans hw1)
    · rw [Prog.bind_apply, safe_bind]
      exact hnext hw

theorem stopAllNotifications_safe (hn : C.Notifies) {dev : UUID} {w : World}
    {Q : Unit → World → Prop} (he : C.Entered w) (h : C.inv w) (hk : ∀ w', C.Calm w w' → Q () w') :
    (stopAllNotifications dev w).Safe C.rules Q X := by
  simp only [stopAllNotifications, ble_apply, Prog.bind_apply, Out.bind_done]
  cases hd : w.ble.deviceDetails dev with
  | none => exact hk _ (.refl h)
  | some d =>
    have hd : w.ble.devices[dev]? = some d := hd
    refine stopAllLoop_safe hn he (hd ▸ rfl) (fun key hkey => ?_) (.refl h) hk
    have hmem : (d.characteristics[key]?).isSome := by
      rwa [← Std.TreeMap.contains_eq_isSome_getElem?, Std.TreeMap.contains_iff_mem,
        ← Std.TreeMap.mem_keys]
    simpa [World.captured, normalizeDeviceUUID, hd, Device.Details.deref] using hmem

/-! ## Incoming -/

theorem handleNotificationLoop_safe {u : UUID} {data : BinaryBuffer} {keys : List UUID}
    {w0 w : World} {Q : Unit → World → Prop} (hP : P.Notified w0 u data) (he : C.Entered w0)
    (hrec : ∀ key ∈ keys, (w0.ble.devices[key]?).isSome) (hw : C.Calm w0 w)
    (hk : ∀ w', C.Calm w0 w' → Q () w') :
    (handleNotificationLoop u data keys w).Safe C.rules Q X := by
  induction keys generalizing w with
  | nil => exact hk _ hw
  | cons dev rest ih =>
    have hrest {w1 : World} (hw1 : C.Calm w0 w1) :=
      ih (fun k hk => hrec k (List.mem_cons_of_mem _ hk)) hw1
    have hdev := hw.rel.kept.records dev (hrec dev List.mem_cons_self)
    simp only [handleNotificationLoop, Prog.bind_apply, safe_bind]
    refine locked_safe hw.inv (he.mono hw.rel.kept) fun wl hl hwl _ => ?_
    simp only [Prog.bind_apply, safe_bind]
    refine record_safe (by rw [hwl]; exact hdev) fun d hd => ?_
    rw [Prog.ite_apply]
    split
    · rename_i hhas
      exact ⟨.act hl (fun _ => .notify dev u d data (hP.mono (hwl ▸ hw.rel.kept.log)) hd hhas) (.report ..),
        fun hu => hrest (hw.trans hu)⟩
    · exact ⟨.refl hl, fun hu => hrest (hw.trans hu)⟩

theorem handleNotification_safe {u : UUID} {data : BinaryBuffer} {w : World}
    {Q : Unit → World → Prop} (hP : P.Notified w u data) (he : C.Entered w) (h : C.inv w)
    (hk : ∀ w', C.Calm w w' → Q () w') : (handleNotification u data w).Safe C.rules Q X := by
  refine handleNotificationLoop_safe hP he (fun key hkey => ?_) (.refl h) hk
  rwa [← Std.TreeMap.contains_eq_isSome_getElem?, Std.TreeMap.contains_iff_mem,
    ← Std.TreeMap.mem_keys]

end Claim

end

end Gattlibpp
