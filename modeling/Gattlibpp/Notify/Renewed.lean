import Gattlibpp.Act.Runs
import Gattlibpp.Queue.Contract
import Gattlibpp.Notify.Subscribed

/-!
# What the records say across connections

A record keeps its counter and its marks when its connection goes down, so they are true of the
next connection only where nothing is left of the last one. As long as every connection comes up
for a record whose counter is 0, and none comes up or goes down inside a start or a stop, what
the records say of their subscriptions is true of the connection they hold, in every state
reached.
-/

namespace Gattlibpp

open Open Device

/-! ## The environment -/

/-- gattlib's calls for notifications succeed. -/
def notifySucceeds : Policy where
  enter _ _ := True
  ans _ e r := e.notifies = true → r.rc = 0

/-- The connection `k` comes up for a record whose counter is 0, and no other record has it. -/
def World.Renews (w : World) (k : Conn) : Prop :=
  (∀ d ∈ w.ble.devices[w.ble.connectedTo]?, d.numRegisteredForNotifs = 0) ∧
    ∀ dev ∈ w.ble.devices.keys, w.connectionOf dev = some k → dev = w.ble.connectedTo

/-- Connections come up renewed, none comes up or goes down while the lock of its device is held,
and no start takes the counter from 255 to 0. -/
def renewed : Policy where
  enter w m :=
    match m with
    | .event _ (.connected (some k)) => w.ble.connectedTo ∉ w.held ∧ w.Renews k
    | .event _ (.connected none) | .event _ .disconnected => w.ble.connectedTo ∉ w.held
    | _ => True
  ans w e _ :=
    match e with
    | .notificationStart c _ => ∀ dev ∈ w.held, ∀ d ∈ w.ble.devices[dev]?, d.connection = c →
        d.numRegisteredForNotifs ≠ 0
    | _ => True

instance (w : World) (m : Move) : Decidable (notifySucceeds.enter w m) := isTrue trivial

instance (w : World) (e : Call) (r : Resp) : Decidable (notifySucceeds.ans w e r) :=
  inferInstanceAs (Decidable (_ → _))

instance (w : World) (k : Conn) : Decidable (w.Renews k) := inferInstanceAs (Decidable (_ ∧ _))

instance (w : World) (m : Move) : Decidable (renewed.enter w m) :=
  match m with
  | .api _ => isTrue trivial
  | .event _ ev =>
    match ev with
    | .connected (some k) => inferInstanceAs (Decidable (w.ble.connectedTo ∉ w.held ∧ w.Renews k))
    | .connected none | .disconnected => inferInstanceAs (Decidable (w.ble.connectedTo ∉ w.held))
    | .deviceDiscovered .. | .scanComplete | .readChar _ | .opDone | .opFailed | .scanDisableDone
    | .notification .. => isTrue trivial

instance (w : World) (e : Call) (r : Resp) : Decidable (renewed.ans w e r) :=
  match e with
  | .notificationStart c _ => inferInstanceAs (Decidable (∀ dev ∈ w.held,
      ∀ d ∈ w.ble.devices[dev]?, d.connection = c → d.numRegisteredForNotifs ≠ 0))
  | .user .. | .asyncProcessAll | .adapterOpen _ | .adapterClose _ | .adapterPowered _
  | .scanEnable .. | .scanDisable .. | .connect .. | .disconnect .. | .readChar .. | .writeChar ..
  | .discoverPrimary .. | .discoverChar .. | .registerNotification .. | .registerIndication ..
  | .notificationStop .. => isTrue trivial

theorem World.connectionOf_eq_some {w : World} {dev : UUID} {k : Conn} :
    w.connectionOf dev = some k ↔ ∃ d, w.ble.devices[dev]? = some d ∧ d.connection = some k := by
  unfold connectionOf
  exact Option.bind_eq_some_iff

theorem World.Renews.only {w : World} {k : Conn} (h : w.Renews k) {dev : UUID}
    (hk : w.connectionOf dev = some k) : dev = w.ble.connectedTo := by
  obtain ⟨d, hd, -⟩ := connectionOf_eq_some.mp hk
  exact h.2 dev (Std.TreeMap.mem_keys.mpr (Std.TreeMap.mem_iff_isSome_getElem?.mpr (by simp [hd]))) hk

/-! ## What an act changes in a record -/

/-- From `d` the record of `dev` becomes `d'`: it says the same, its connection has come up or
gone down, or a discovery has taken its marks. -/
inductive World.Revises (P : Policy) (w : World) (dev : UUID) (d d' : Details) : Prop where
  | same : d.SameAccount d' → Revises P w dev d d'
  | linked (of : Option ActionId) (c : Option Conn) : P.enter w (.event of (.connected c)) →
      dev = w.ble.connectedTo → { d with connection := c }.SameAccount d' → Revises P w dev d d'
  | unlinked (of : Option ActionId) : P.enter w (.event of .disconnected) →
      dev = w.ble.connectedTo → { d with connection := none }.SameAccount d' →
      Revises P w dev d d'
  | discovered : dev ∉ w.held → d'.connection = d.connection →
      d'.numRegisteredForNotifs = d.numRegisteredForNotifs → d'.numMarked = 0 →
      Revises P w dev d d'

theorem World.Revises.trans {P : Policy} {w : World} {dev : UUID} {d d' d'' : Details}
    (h : w.Revises P dev d d') (h' : d'.SameAccount d'') : w.Revises P dev d d'' := by
  cases h with
  | same hs => exact .same (hs.trans h')
  | linked of c hm hdev hs => exact .linked of c hm hdev (hs.trans h')
  | unlinked of hm hdev hs => exact .unlinked of hm hdev (hs.trans h')
  | discovered hheld hconn hcount hmarks =>
    exact .discovered hheld (h'.connection.trans hconn)
      (h'.numRegisteredForNotifs.trans hcount) (h'.numMarked.trans hmarks)

/-- How the records of `v` come from those of `w`. -/
def World.Revised (P : Policy) (w v : World) : Prop :=
  ∀ dev : UUID, Option.Rel (w.Revises P dev) (w.ble.devices[dev]?) (v.ble.devices[dev]?)

namespace World.Revised

variable {P : Policy} {w v : World}

theorem refl (w : World) : Revised P w w := by
  intro dev
  cases w.ble.devices[dev]? with
  | none => exact .none
  | some d => exact .some (.same (.refl d))

theorem of_devices (h : Revised P w v) {v' : World} (hd : v'.ble.devices = v.ble.devices) :
    Revised P w v' := by
  intro dev
  rw [hd]
  exact h dev

theorem steady : Steady (Revised P w) where
  same h _ hd _ _ _ := h.of_devices hd
  update h _ _ := h
  pop h _ := h

/-- One record is changed. -/
theorem updateDevice (h : Revised P w v) (dev : UUID) {f : Details → Details}
    (hf : ∀ d d', w.ble.devices[dev]? = some d → w.Revises P dev d d' → w.Revises P dev d (f d')) :
    Revised P w (v.updateDevice dev f) := by
  intro e
  simp only [World.updateDevice, World.updateBle_ble, Std.TreeMap.getElem?_modify]
  split
  · rename_i he
    obtain rfl : dev = e := Std.LawfulEqOrd.eq_of_compare he
    have hr := h dev
    generalize w.ble.devices[dev]? = o at hf hr
    generalize v.ble.devices[dev]? = o' at hr
    cases hr with
    | none => exact .none
    | some hr => exact .some (hf _ _ rfl hr)
  · exact h e

theorem updateDevice_same (h : Revised P w v) (dev : UUID) {f : Details → Details}
    (hf : ∀ d : Details, d.SameAccount (f d)) : Revised P w (v.updateDevice dev f) :=
  h.updateDevice dev fun _ d' _ hr => hr.trans (hf d')

section
variable [Gattlib]

omit [Gattlib] in
theorem event {of : Option ActionId} {ev : Event} (hm : P.enter w (.event of ev)) (m : Move) :
    Revised P w (ev.apply (w.note (.enter m))) := by
  have hn : Revised P w (w.note (.enter m)) := refl w
  cases ev with
  | connected c =>
    intro e
    simp only [Event.apply, World.note_ble, World.updateDevice, World.updateBle_ble,
      Std.TreeMap.getElem?_modify]
    split
    · rename_i he
      obtain rfl := Std.LawfulEqOrd.eq_of_compare he
      cases w.ble.devices[w.ble.connectedTo]? with
      | none => exact .none
      | some d => exact .some (.linked of c hm rfl (.refl _))
    · exact refl w e
  | disconnected =>
    intro e
    simp only [Event.apply, World.note_ble, World.updateDevice, World.updateBle_ble,
      Std.TreeMap.getElem?_modify]
    split
    · rename_i he
      obtain rfl := Std.LawfulEqOrd.eq_of_compare he
      cases w.ble.devices[w.ble.connectedTo]? with
      | none => exact .none
      | some d => exact .some (.unlinked of hm rfl (.refl _))
    · exact refl w e
  | _ => exact hn

theorem servicesStep (h : Revised P w v) (dev : UUID) (r : Resp) :
    Revised P w (v.servicesStep dev r) := by
  unfold World.servicesStep
  split
  · exact h
  · refine h.updateDevice_same dev fun d => ⟨?_, ?_, ?_⟩
    · exact Details.addServices_same (fun _ _ _ => rfl) d.clearServices _
    · exact Details.addServices_same (fun _ _ _ => rfl) d.clearServices _
    · exact Details.addServices_same (fun _ _ _ => rfl) d.clearServices _

theorem charsStep {dev : UUID} {e : Call} {r : Resp} (hheld : r.rc = 0 → dev ∉ w.held) :
    Revised P w ((w.back e r).charsStep dev r) := by
  have hdone (d : Details) : d.SameAccount { d with discoveryDone := true } := ⟨rfl, rfl, rfl⟩
  have hw : Revised P w (w.back e r) := refl w
  unfold World.charsStep
  refine updateDevice_same ?_ dev hdone
  split
  · exact hw
  · rename_i hrc
    intro e
    simp only [World.updateDevice, World.updateBle_ble, Std.TreeMap.getElem?_modify, World.back_ble]
    split
    · rename_i he
      obtain rfl := Std.LawfulEqOrd.eq_of_compare he
      cases w.ble.devices[dev]? with
      | none => exact .none
      | some d =>
        refine .some (.discovered (hheld (not_not.mp hrc)) ?_ ?_ (d.numMarked_discovered _))
        · exact d.clearCharacteristics.addCharacteristics_connection _
        · exact Details.addCharacteristics_same (fun _ _ _ => rfl) d.clearCharacteristics _
    · exact refl w e

/-- **Step lemma.** -/
theorem act {T : Terms} {w' : World} (hfifo : Fifo w) (ha : Stretch T P w w') : Revised P w w' :=
  steady.act (refl w) hfifo ha (fun _ _ hm => event hm _) (fun dev r h => h.servicesStep dev r)
    (fun _ _ hheld => charsStep hheld) (fun _ _ _ => refl w) fun _ => refl w

end

end World.Revised

section
variable [Gattlib] {T : Terms} {P : Policy} {w w' : World}

/-- An act that tells gattlib nothing leaves what it has been told, unless the connection comes
up. -/
theorem Stretch.subscriptionsOn (hT : ¬ T.notifies) (ha : Stretch T P w w') (k : Conn) :
    subscriptionsOn w'.log k = subscriptionsOn w.log k ∨
      ∃ of, P.enter w (.event of (.connected (some k))) := by
  obtain ⟨l, hl⟩ := ha.wrote
  by_cases hup : ∃ of, P.enter w (.event of (.connected (some k)))
  · exact .inr hup
  · left
    rw [hl.log]
    refine subscriptionsOn_aloof (fun o ho => ?_) w.log
    cases o with
    | enter m =>
      refine Move.aloof fun of hm => hup ⟨of, hm ▸ ?_⟩
      obtain ⟨x, xs, rfl⟩ := List.exists_cons_of_ne_nil (List.ne_nil_of_mem ho)
      rcases List.mem_cons.mp ho with hx | hx
      · exact hl.first (.enter m) (by rw [hx]; rfl) rfl
      · exact absurd (hl.rest _ hx) (by simp)
    | call e =>
      refine Call.aloof ?_
      rw [Call.toldOn_eq_none (Bool.eq_false_iff.mpr fun hn => hT (hl.act _ ho hn))]
      simp
    | _ => exact fun _ => rfl

/-- The locks after an act. -/
theorem Stretch.locks (ha : Stretch T P w w') : w'.held = w.held ∨
    (∃ dev, dev ∉ w.held ∧ w' = { w with held := dev :: w.held }) ∨
    ∃ dev ds, w.held = dev :: ds ∧ T.unlocks w dev ∧ w' = { w with held := ds } := by
  cases ha with
  | lock dev h => exact .inr (.inl ⟨dev, h, rfl⟩)
  | unlock dev ds h hu => exact .inr (.inr ⟨dev, ds, h, hu, rfl⟩)
  | event of ev how => exact .inl (by rw [World.finishFront_held]; cases ev <;> rfl)
  | eventRead of buf a => exact .inl (by split <;> rfl)
  | eventDiscovered => exact .inl (World.discovered_held ..)
  | refused e r cs t => exact .inl (by rw [World.finish_held]; cases e <;> rfl)
  | ran op => exact .inl (op.apply_held _)
  | trigger ts a => exact .inl (a.trigger.apply_held ..)
  | services dev c r =>
    obtain ⟨devices, heq⟩ := (w.back (.discoverPrimary dev c) r).servicesStep_eq dev r
    exact .inl (by rw [heq]; rfl)
  | chars dev c r =>
    obtain ⟨devices, heq⟩ := (w.back (.discoverChar dev c) r).charsStep_eq dev r
    exact .inl (by rw [heq]; rfl)
  | inert _ h => exact .inl h.held
  | _ => exact .inl rfl

end

/-! ## The accounts -/

namespace World

/-- What the record of `dev` says of its subscriptions is so. -/
def SoundAt (w : World) (dev : UUID) : Prop :=
  ∀ d : Details, w.ble.devices[dev]? = some d → d.Sound w.log

/-- The record of `dev` says the same at `w'` as at `w`, and gattlib has been told nothing on its
connection. -/
structure HoldsStill (w : World) (dev : UUID) (w' : World) : Prop where
  record : ∀ d : Details, w.ble.devices[dev]? = some d → ∃ d', w'.ble.devices[dev]? = some d' ∧
    d.SameAccount d' ∧ ∀ k, d.connection = some k →
      subscriptionsOn w'.log k = subscriptionsOn w.log k
  sound : w.SoundAt dev → w'.SoundAt dev

/-- No two records have one connection, and what a record says is so, unless its lock is held. -/
structure Accounts [Gattlib] (w : World) : Prop where
  fifo : Fifo w
  records : w.Records fun _ d =>
    d.Keyed ∧ (d.discoveryDone = false → ∀ k : UUID, d.characteristics[k]? = none)
  apart : ∀ dev dev' k, w.connectionOf dev = some k → w.connectionOf dev' = some k → dev = dev'
  sound : ∀ dev, dev ∉ w.held → w.SoundAt dev

variable {w w' w'' : World} {dev : UUID}

theorem HoldsStill.refl (w : World) (dev : UUID) : w.HoldsStill dev w :=
  ⟨fun d hd => ⟨d, hd, .refl d, fun _ _ => rfl⟩, id⟩

theorem HoldsStill.trans (h : w.HoldsStill dev w') (h' : w'.HoldsStill dev w'') :
    w.HoldsStill dev w'' where
  record d hd := by
    obtain ⟨d', hd', hs, hk⟩ := h.record d hd
    obtain ⟨d'', hd'', hs', hk'⟩ := h'.record d' hd'
    refine ⟨d'', hd'', hs.trans hs', fun k hc => ?_⟩
    exact (hk' k (hs.connection.trans hc)).trans (hk k hc)
  sound hs := h'.sound (h.sound hs)

/-- The record is as it was, and the connection it holds has heard nothing. -/
theorem HoldsStill.of_aloof {l : List Obs} (hd : w'.ble.devices[dev]? = w.ble.devices[dev]?)
    (hl : w'.log = w.log ++ l)
    (ho : ∀ k, w.connectionOf dev = some k → ∀ o ∈ l, o.Aloof k) : w.HoldsStill dev w' := by
  have hsub (d : Details) (h : w.ble.devices[dev]? = some d) (k : Conn)
      (hk : d.connection = some k) : subscriptionsOn w'.log k = subscriptionsOn w.log k := by
    rw [hl]
    exact subscriptionsOn_aloof (ho k (connectionOf_eq_some.mpr ⟨d, h, hk⟩)) w.log
  refine ⟨fun d h => ⟨d, hd.trans h, .refl d, hsub d h⟩, fun hs d h => ?_⟩
  rw [hd] at h
  exact (Details.SameAccount.refl d).sound (hs d h) (hsub d h)

end World

theorem World.HoldsStill.updateDevice (w : World) (dev : UUID) {f : Details → Details}
    (hf : ∀ d : Details, d.SameAccount (f d)) (e : UUID) :
    w.HoldsStill e (w.updateDevice dev f) := by
  by_cases he : dev = e
  · subst he
    refine ⟨fun d hd => ⟨f d, by simp [World.updateDevice, hd], hf d, fun _ _ => rfl⟩, ?_⟩
    intro hs d' hd'
    simp only [World.updateDevice, World.updateBle_ble, Std.TreeMap.getElem?_modify_self,
      Option.map_eq_some_iff] at hd'
    obtain ⟨d, hd, rfl⟩ := hd'
    exact (hf d).sound (hs d hd) fun _ _ => rfl
  · refine .of_aloof (l := []) ?_ (List.append_nil _).symm (by simp)
    simp only [World.updateDevice, World.updateBle_ble, Std.TreeMap.getElem?_modify,
      Std.LawfulEqCmp.compare_eq_iff_eq, if_neg he]

/-- The locks are given back over sound records, and gattlib is told nothing. -/
def soundLocks : Terms where
  notifies := False
  unlocks := World.SoundAt

section
variable {P : Policy} {w : World} {dev : UUID} {d d' : Details} {log : List Obs}

theorem renewed_connected {of : Option ActionId} {c : Option Conn}
    (h : renewed.enter w (.event of (.connected c))) :
    w.ble.connectedTo ∉ w.held ∧ ∀ k, c = some k → w.Renews k := by
  cases c with
  | none => exact ⟨h, by simp⟩
  | some k => exact ⟨h.1, fun _ hk => Option.some.inj hk ▸ h.2⟩

namespace World.Revises

/-- The connection of a record is from before, or it has just come up. -/
theorem connection (h : w.Revises P dev d d') {k : Conn} (hk : d'.connection = some k) :
    d.connection = some k ∨
      dev = w.ble.connectedTo ∧ ∃ of, P.enter w (.event of (.connected (some k))) := by
  cases h with
  | same hs => exact .inl (hs.connection ▸ hk)
  | linked of c hm hdev hs => exact .inr ⟨hdev, of, by rwa [← hs.connection.symm.trans hk]⟩
  | unlinked of hm hdev hs => cases hs.connection.symm.trans hk
  | discovered hheld hconn => exact .inl (hconn ▸ hk)

variable (hP : P.WithinAt renewed w) (hd : w.ble.devices[dev]? = some d)
include hP hd

/-- Nothing happens to a record whose lock is held. -/
theorem still (h : w.Revises P dev d d') (hheld : dev ∈ w.held)
    (hlog : ∀ k, subscriptionsOn log k = subscriptionsOn w.log k ∨
      ∃ of, P.enter w (.event of (.connected (some k)))) :
    d.SameAccount d' ∧ ∀ k, d.connection = some k →
      subscriptionsOn log k = subscriptionsOn w.log k := by
  cases h with
  | same hs =>
    refine ⟨hs, fun k hk => (hlog k).resolve_right ?_⟩
    rintro ⟨of, hm⟩
    have hm := hP.enter _ hm
    exact hm.1 (hm.2.only (World.connectionOf_eq_some.mpr ⟨d, hd, hk⟩) ▸ hheld)
  | linked of c hm hdev => exact absurd (hdev ▸ hheld) (renewed_connected (hP.enter _ hm)).1
  | unlinked of hm hdev => exact absurd (hdev ▸ hheld) (hP.enter _ hm)
  | discovered hno => exact absurd hheld hno

/-- A sound record stays sound. -/
theorem sound (h : w.Revises P dev d d') (hs : d.Sound w.log)
    (hlog : ∀ k, subscriptionsOn log k = subscriptionsOn w.log k ∨
      ∃ of, P.enter w (.event of (.connected (some k)))) : d'.Sound log := by
  have hzero {of : Option ActionId} {k : Conn} (hm : P.enter w (.event of (.connected (some k))))
      (hdev : dev = w.ble.connectedTo) : d.numRegisteredForNotifs = 0 ∧ d.numMarked = 0 := by
    have hz : d.numRegisteredForNotifs = 0 := (hP.enter _ hm).2.1 d (hdev ▸ hd)
    exact ⟨hz, hs.zero hz⟩
  -- the connection the record holds comes up anew
  have hanew {of : Option ActionId} {k : Conn} (hm : P.enter w (.event of (.connected (some k))))
      (hk : d.connection = some k) : d.numRegisteredForNotifs = 0 ∧ d.numMarked = 0 :=
    hzero hm ((hP.enter _ hm).2.only (World.connectionOf_eq_some.mpr ⟨d, hd, hk⟩))
  cases h with
  | same ha =>
    by_cases hk : ∀ k, d.connection = some k → subscriptionsOn log k = subscriptionsOn w.log k
    · exact ha.sound hs hk
    · simp only [not_forall] at hk
      obtain ⟨k, hk, hne⟩ := hk
      obtain ⟨of, hm⟩ := (hlog k).resolve_left hne
      obtain ⟨hz, hmark⟩ := hanew hm hk
      exact .of_zero (ha.numRegisteredForNotifs.trans hz) (ha.numMarked.trans hmark) log
  | linked of c hm hdev ha =>
    cases c with
    | none =>
      refine .of_none ha.connection ?_ log
      rw [ha.numMarked, ha.numRegisteredForNotifs]
      exact hs.counted
    | some k =>
      obtain ⟨hz, hmark⟩ := hzero hm hdev
      exact .of_zero (ha.numRegisteredForNotifs.trans hz) (ha.numMarked.trans hmark) log
  | unlinked of hm hdev ha =>
    refine .of_none ha.connection ?_ log
    rw [ha.numMarked, ha.numRegisteredForNotifs]
    exact hs.counted
  | discovered hno hconn hcount hmarks =>
    refine ⟨by rw [hmarks]; exact Nat.zero_le _, fun k hk hz => ?_, fun k key c _ hc hr => ?_⟩
    · rw [hconn] at hk
      rw [hcount] at hz
      rcases hlog k with hsame | ⟨of, hm⟩
      · rw [hsame]
        exact hs.registered k hk hz
      · exact absurd (hanew hm hk).1 hz
    · rw [Details.not_marked_of_zero hmarks hc] at hr
      cases hr

end World.Revises

end

/-! ## Steps -/

section
variable [Gattlib] {P : Policy} {w w' : World}

theorem soundRecords_lasting : Details.Lasting fun _ d =>
    d.Keyed ∧ (d.discoveryDone = false → ∀ k : UUID, d.characteristics[k]? = none) :=
  Details.Keyed.lasting.and Details.undiscovered_lasting

namespace World.Accounts

/-- **Step lemma.** -/
theorem act (hP : P.WithinAt renewed w) (h : w.Accounts) (ha : Stretch soundLocks P w w') :
    w'.Accounts ∧ ∀ dev ∈ w.held, w.HoldsStill dev w' := by
  have hrev := Revised.act h.fifo ha
  have hlog := ha.subscriptionsOn id
  -- where each record of `w'` comes from
  have hback (dev : UUID) (d' : Details) (hd' : w'.ble.devices[dev]? = some d') :
      ∃ d, w.ble.devices[dev]? = some d ∧ w.Revises P dev d d' := by
    have hr := hrev dev
    rw [hd'] at hr
    generalize hd : w.ble.devices[dev]? = o at hr
    cases hr with
    | some hr => exact ⟨_, rfl, hr⟩
  have hsound (dev : UUID) (hs : w.SoundAt dev) : w'.SoundAt dev := by
    intro d' hd'
    obtain ⟨d, hd, hr⟩ := hback dev d' hd'
    exact hr.sound hP hd (hs d hd) hlog
  have hconn (dev : UUID) (k : Conn) (hk : w'.connectionOf dev = some k) :
      w.connectionOf dev = some k ∨
        dev = w.ble.connectedTo ∧ ∃ of, P.enter w (.event of (.connected (some k))) := by
    obtain ⟨d', hd', hk⟩ := connectionOf_eq_some.mp hk
    obtain ⟨d, hd, hr⟩ := hback dev d' hd'
    exact (hr.connection hk).imp_left fun hk => connectionOf_eq_some.mpr ⟨d, hd, hk⟩
  refine ⟨⟨h.fifo.act ha, h.records.act soundRecords_lasting h.fifo ha, ?_, ?_⟩, ?_⟩
  · intro dev dev' k hk hk'
    rcases hconn dev k hk with hold | ⟨hnew, of, hm⟩
    · rcases hconn dev' k hk' with hold' | ⟨hnew', of', hm'⟩
      · exact h.apart dev dev' k hold hold'
      · rw [hnew', (hP.enter _ hm').2.only hold]
    · rcases hconn dev' k hk' with hold' | ⟨hnew', -⟩
      · rw [hnew, (hP.enter _ hm).2.only hold']
      · rw [hnew, hnew']
  · intro dev hdev
    rcases ha.locks with heq | ⟨dev', -, heq⟩ | ⟨dev', ds, hheld, hu, rfl⟩
    · exact hsound dev (h.sound dev (heq ▸ hdev))
    · rw [heq] at hdev
      exact hsound dev (h.sound dev fun hm => hdev (List.mem_cons_of_mem _ hm))
    · by_cases hde : dev = dev'
      · rw [hde]
        exact hu
      · refine h.sound dev fun hm => hdev ?_
        rw [hheld] at hm
        exact (List.mem_cons.mp hm).resolve_left hde
  · intro dev hheld
    refine ⟨fun d hd => ?_, hsound dev⟩
    have hr := hrev dev
    rw [hd] at hr
    generalize hd' : w'.ble.devices[dev]? = o at hr
    cases hr with
    | some hr =>
      have hs := hr.still hP hd hheld hlog
      exact ⟨_, rfl, hs.1, hs.2⟩

/-- Only what no record depends on changes. -/
theorem keep (h : w.Accounts) (hfifo : Fifo w') (hd : w'.ble.devices = w.ble.devices)
    (hheld : w'.held = w.held) {l : List Obs} (hl : w'.log = w.log ++ l)
    (ho : ∀ o ∈ l, ∀ k, o.Aloof k) : w'.Accounts ∧ ∀ dev, w.HoldsStill dev w' := by
  have hstill (dev : UUID) : w.HoldsStill dev w' :=
    .of_aloof (by rw [hd]) hl fun k _ o hm => ho o hm k
  have hconn : w'.connectionOf = w.connectionOf := by
    unfold World.connectionOf
    rw [hd]
  refine ⟨⟨hfifo, h.records.of_devices hd, ?_, fun dev hdev => ?_⟩, hstill⟩
  · rw [hconn]
    exact h.apart
  · exact (hstill dev).sound (h.sound dev (hheld ▸ hdev))

theorem request {op : Op} (h : w.Accounts) (hr : Request w op w') :
    w'.Accounts ∧ ∀ dev, w.HoldsStill dev w' := by
  obtain ⟨l, hl, ho⟩ : ∃ l, w'.log = w.log ++ l ∧ ∀ o ∈ l, ∀ k, o.Aloof k := by
    cases hr with
    | stopScanCancel => exact ⟨_, List.append_assoc .., by simp [Obs.Aloof, Obs.subscribe]⟩
    | _ => exact ⟨_, rfl, by simp [Obs.Aloof, Obs.subscribe]⟩
  have hconn (e : UUID) : w'.connectionOf e = w.connectionOf e := by
    unfold World.connectionOf
    rcases hr.record e with hsame | ⟨hnone, hnew⟩
    · rw [hsame]
    · rw [hnone, hnew]
      rfl
  have hstill (e : UUID) : w.HoldsStill e w' := by
    rcases hr.record e with hsame | ⟨hnone, hnew⟩
    · exact .of_aloof hsame hl fun k _ o hm => ho o hm k
    · refine ⟨fun d hd => absurd (hnone.symm.trans hd) (by simp), fun _ d hd => ?_⟩
      cases hnew.symm.trans hd
      exact .of_zero rfl rfl _
  refine ⟨⟨h.fifo.request hr, h.records.request soundRecords_lasting hr, ?_, fun e he => ?_⟩,
    hstill⟩
  · intro e e' k hk hk'
    exact h.apart e e' k (hconn e ▸ hk) (hconn e' ▸ hk')
  · exact (hstill e).sound (h.sound e (hr.kept.held ▸ he))

end World.Accounts

end

end Gattlibpp
