import Gattlibpp.Act.Calls
import Gattlibpp.Act.Landing
import Gattlibpp.Notify.Books
import Gattlibpp.Notify.Renewed

/-!
# Subscriptions across reconnects

Where `startNotification` returns true, the library's handlers are registered on the device's
connection and gattlib has been told there to notify, as long as connections come up renewed. A
start and a stop own the record of their device: they hold its lock, and what they tell gattlib
concerns no other connection.
-/

namespace Gattlibpp

open Open Device

section
variable [Gattlib]

/-- gattlib's UUID that a start for `u` is about: that of the characteristic, or where there is none
`u` itself. -/
def Device.Details.glUuidOf (d : Details) (u : UUID) : Option GlUuid :=
  ((d.characteristic u).map (·.glUuid)).or (Gattlib.stringToUuid u)

namespace Device.Details

/-- A start or stop for `u` is about `g`: `u` has been found, or nothing has been discovered. -/
def Concerns (d : Details) (u : UUID) (g : GlUuid) : Prop :=
  (∃ c, d.characteristic u = some c ∧ c.glUuid = g) ∨
    (∀ key : UUID, d.characteristics[key]? = none) ∧ Gattlib.stringToUuid u = some g

variable {d d' : Details} {u : UUID} {g : GlUuid}

theorem Concerns.glUuid_eq (h : d.Concerns u g) {c : Characteristic.Details}
    (hc : d.characteristic u = some c) : c.glUuid = g := by
  rcases h with ⟨c', hc', rfl⟩ | ⟨hnone, -⟩
  · cases hc.symm.trans hc'
    rfl
  · cases (hnone _).symm.trans hc

theorem Concerns.glUuidOf (h : d.Concerns u g) (hc : ∀ k : UUID,
    (d'.characteristics[k]?).map (·.glUuid) = (d.characteristics[k]?).map (·.glUuid)) :
    d'.glUuidOf u = some g := by
  unfold Details.glUuidOf characteristic
  rw [hc]
  rcases h with ⟨c, hu, rfl⟩ | ⟨hnone, hg⟩
  · unfold characteristic at hu
    rw [hu]
    rfl
  · rw [hnone]
    exact hg

omit [Gattlib] in
theorem numMarked_congr (h : d'.characteristics = d.characteristics) : d'.numMarked = d.numMarked := by
  unfold numMarked marked
  rw [h]

omit [Gattlib] in
theorem numMarked_none (h : ∀ key : UUID, d.characteristics[key]? = none) : d.numMarked = 0 :=
  numMarked_eq_zero fun k => by rw [marked, h k]; rfl

omit [Gattlib] in
/-- Where there is nothing to mark, marking changes nothing. -/
theorem setRegistered_none (h : ∀ key : UUID, d.characteristics[key]? = none) (b : Bool)
    (key : UUID) : (d.setRegistered u b).characteristics[key]? = none := by
  rw [characteristics_setRegistered, h key]
  split <;> rfl

variable {k : Conn} {log log' : List Obs}

/-- A start of something unmarked leaves a sound record. -/
theorem Sound.start (h : d.Sound log) (hg : d.Concerns u g) (hconn : d.connection = some k)
    (hu : ∀ c, d.characteristic u = some c → c.registeredForNotifs = false)
    (hconn' : d'.connection = some k)
    (hchars : d'.characteristics = (d.setRegistered u true).characteristics)
    (hcount : d'.numRegisteredForNotifs = d.numRegisteredForNotifs + 1)
    (hne : d'.numRegisteredForNotifs ≠ 0)
    (hreg : (subscriptionsOn log' k).notification = true ∧ (subscriptionsOn log' k).indication = true)
    (hstarted : (subscriptionsOn log' k).started = g :: (subscriptionsOn log k).started) :
    d'.Sound log' where
  counted := by
    have hnowrap : d'.numRegisteredForNotifs.toNat = d.numRegisteredForNotifs.toNat + 1 := by
      rw [hcount] at hne ⊢
      have hlt := d.numRegisteredForNotifs.toNat_lt
      have hpos : (d.numRegisteredForNotifs + 1).toNat ≠ 0 := fun hz => hne (UInt8.toNat_inj.mp hz)
      rw [UInt8.toNat_add, UInt8.toNat_one] at hpos ⊢
      omega
    have hmarks : d'.numMarked ≤ d.numMarked + 1 := by
      rw [numMarked_congr hchars]
      rcases hg with ⟨c, hc, -⟩ | ⟨hnone, -⟩
      · exact Nat.le_of_eq (numMarked_mark hc (hu c hc))
      · rw [numMarked_none (setRegistered_none hnone true)]
        exact Nat.zero_le _
    have hcounted := h.counted
    omega
  registered k' hk' _ := by
    cases hconn'.symm.trans hk'
    exact hreg
  started k' key c hk' hc hr := by
    cases hconn'.symm.trans hk'
    rw [hstarted]
    rw [hchars] at hc
    rcases hg with ⟨cu, hcu, rfl⟩ | ⟨hnone, -⟩
    · rw [characteristics_setRegistered] at hc
      unfold characteristic at hcu
      split at hc
      · rename_i hkey
        rw [← hkey, hcu] at hc
        cases hc
        exact List.mem_cons_self
      · exact List.mem_cons_of_mem _ (h.started k key c hconn hc hr)
    · rw [setRegistered_none hnone] at hc
      cases hc

/-- A stop of something marked leaves a sound record. -/
theorem Sound.stop (h : d.Sound log) (hkeyed : d.Keyed) (hg : d.Concerns u g)
    (hconn : d.connection = some k)
    (hu : ∀ c, d.characteristic u = some c → c.registeredForNotifs = true)
    (hconn' : d'.connection = some k)
    (hchars : d'.characteristics = (d.setRegistered u false).characteristics)
    (hcount : d'.numRegisteredForNotifs =
      if d.numRegisteredForNotifs = 0 then 0 else d.numRegisteredForNotifs - 1)
    (hreg : d'.numRegisteredForNotifs ≠ 0 →
      (subscriptionsOn log' k).notification = (subscriptionsOn log k).notification ∧
        (subscriptionsOn log' k).indication = (subscriptionsOn log k).indication)
    (hstarted : (subscriptionsOn log' k).started = (subscriptionsOn log k).started.filter (· ≠ g)) :
    d'.Sound log' where
  counted := by
    have hcounted := h.counted
    rw [numMarked_congr hchars]
    rcases hg with ⟨c, hc, -⟩ | ⟨hnone, -⟩
    · have hmark := numMarked_unmark hc (hu c hc)
      have hz : d.numRegisteredForNotifs ≠ 0 := h.counter_ne_zero hc (hu c hc)
      have hone : (1 : UInt8) ≤ d.numRegisteredForNotifs := by
        rw [UInt8.le_iff_toNat_le, UInt8.toNat_one]
        omega
      rw [hcount, if_neg hz, UInt8.toNat_sub_of_le _ _ hone, UInt8.toNat_one]
      omega
    · rw [numMarked_none (setRegistered_none hnone false)]
      exact Nat.zero_le _
  registered k' hk' hz := by
    cases hconn'.symm.trans hk'
    obtain ⟨hn, hi⟩ := hreg hz
    rw [hn, hi]
    refine h.registered k hconn fun hzero => hz ?_
    rw [hcount, if_pos hzero]
  started k' key c hk' hc hr := by
    cases hconn'.symm.trans hk'
    rw [hstarted]
    rw [hchars] at hc
    rcases hg with ⟨cu, hcu, rfl⟩ | ⟨hnone, -⟩
    · rw [characteristics_setRegistered] at hc
      unfold characteristic at hcu
      split at hc
      · rename_i hkey
        rw [← hkey, hcu] at hc
        cases hc
        cases hr
      · rename_i hkey
        refine List.mem_filter.mpr ⟨h.started k key c hconn hc hr, ?_⟩
        exact decide_eq_true fun heq => hkey (hkeyed.key_eq hcu hc heq.symm)
    · rw [setRegistered_none hnone] at hc
      cases hc

end Device.Details

namespace World

/-- On the current connection of `dev` the library's handlers are registered, and gattlib notifies
of `u`. -/
def Subscribed (w : World) (dev u : UUID) : Prop :=
  ∃ d k g, w.ble.devices[dev]? = some d ∧ d.connection = some k ∧ d.glUuidOf u = some g ∧
    (subscriptionsOn w.log k).notification = true ∧ (subscriptionsOn w.log k).indication = true ∧
    g ∈ (subscriptionsOn w.log k).started

/-- If a `startNotification` has just returned true, its subscription is there. -/
def StartsSubscribed (w : World) : Prop :=
  ∀ dev u cb fail, w.log.getLast? = some (.exit (.api (.startNotification dev u cb fail)) (.bool true)) →
    w.Subscribed dev u

variable {w w' : World} {dev u : UUID}

theorem Subscribed.still (h : w.Subscribed dev u) (hw : w.HoldsStill dev w') :
    w'.Subscribed dev u := by
  obtain ⟨d, k, g, hd, hconn, hg, hn, hi, hmem⟩ := h
  obtain ⟨d', hd', hs, hsub⟩ := hw.record d hd
  rw [← hsub k hconn] at hn hi hmem
  refine ⟨d', k, g, hd', hs.connection.trans hconn, ?_, hn, hi, hmem⟩
  unfold Details.glUuidOf Details.characteristic
  rw [hs.characteristics]
  exact hg

/-- Something else has come since, or nothing has changed. -/
theorem StartsSubscribed.keep (h : w.StartsSubscribed) {l : List Obs} (hl : w'.log = w.log ++ l)
    (ho : ∀ o ∈ l, ∀ m r, o ≠ .exit m r)
    (hw : w'.log = w.log → ∀ dev, w.HoldsStill dev w') : w'.StartsSubscribed := by
  intro dev u cb fail hlast
  rcases List.eq_nil_or_concat l with rfl | ⟨l, o, rfl⟩
  · have hlog : w'.log = w.log := hl.trans (List.append_nil _)
    rw [hlog] at hlast
    exact (h dev u cb fail hlast).still (hw hlog dev)
  · rw [hl, List.concat_eq_append, ← List.append_assoc, List.getLast?_concat] at hlast
    exact absurd (Option.some.inj hlast) (ho o (by simp) _ _)

theorem StartsSubscribed.updateDevice (h : w.StartsSubscribed) (dev : UUID)
    {f : Details → Details} (hf : ∀ d : Details, d.SameAccount (f d)) :
    (w.updateDevice dev f).StartsSubscribed :=
  h.keep (List.append_nil _).symm (by simp) fun _ => HoldsStill.updateDevice w dev hf

theorem StartsSubscribed.of_last {o : Obs} (hl : w.log.getLast? = some o)
    (ho : ∀ m r, o ≠ .exit m r) : w.StartsSubscribed := by
  intro dev u cb fail hlast
  exact absurd (Option.some.inj (hl.symm.trans hlast)) (ho _ _)

theorem StartsSubscribed.act {T : Terms} {P : Policy} (h : w.StartsSubscribed)
    (ha : Stretch T P w w') : w'.StartsSubscribed := by
  obtain ⟨l, hl⟩ := ha.wrote
  refine h.keep hl.log (fun o ho m r heq => (heq ▸ hl.act o ho : (Obs.exit m r).ByAct T w).elim)
    fun hlog dev => ?_
  have hd : w'.ble.devices = w.ble.devices := by
    rcases ha.noCall with hn | ⟨ts, a, -, -, -, rfl⟩
    · exact (hn.same hlog).1
    · exact a.trigger.apply_devices ..
  exact .of_aloof (l := []) (by rw [hd]) (by rw [hlog, List.append_nil]) (by simp)

end World

/-! ## The claim -/

variable {P : Policy}

/-- What the records say of their subscriptions is so, and what a start has promised is there. -/
def accountClaim (hP : P.Within renewed) : Claim P where
  inv w := w.Accounts ∧ w.StartsSubscribed
  extra w w' := ∀ dev ∈ w.held, w.HoldsStill dev w'
  terms := soundLocks
  crash _ _ := True
  refl w dev _ := .refl w dev
  trans _ hh _ h h' dev hdev := (h dev hdev).trans (h' dev (hh ▸ hdev))
  unlocked h dev hdev :=
    have hs := h dev (List.mem_cons_of_mem _ hdev)
    ⟨hs.record, hs.sound⟩
  act h ha :=
    have hs := h.1.act (hP _) ha
    ⟨⟨hs.1, h.2.act ha⟩, hs.2⟩
  unlocks h hdev := h.1.sound _ hdev
  keeps hdev hs he := (he _ hdev).sound hs
  started := World.Subscribed
  exit {w m r} h hs := by
    have hk : (w.note (.exit m r)).Accounts ∧ ∀ dev, w.HoldsStill dev (w.note (.exit m r)) :=
      h.1.keep (h.1.fifo.note ⟨rfl, rfl, rfl⟩) rfl rfl rfl (by simp [Obs.Aloof, Obs.subscribe])
    refine ⟨⟨hk.1, fun dev u cb fail hlast => ?_⟩, fun dev _ => hk.2 dev⟩
    rw [World.note_log, List.getLast?_concat] at hlast
    obtain ⟨rfl, rfl⟩ := Obs.exit.inj (Option.some.inj hlast)
    exact (hs dev u cb fail rfl rfl).still (hk.2 dev)
  drop {w _ _ ts} _ h _ _ _ := by
    have hk : World.Accounts { w with ticks := ts } ∧
        ∀ dev, w.HoldsStill dev { w with ticks := ts } :=
      h.1.keep (h.1.fifo.setTicks _) rfl rfl (List.append_nil _).symm (by simp)
    exact ⟨⟨hk.1, h.2.keep (List.append_nil _).symm (by simp) fun _ => hk.2⟩, fun dev _ => hk.2 dev⟩
  request {_ _ w'} h _ hr := by
    have hs := h.1.request hr
    obtain ⟨a, ha⟩ : ∃ a, w'.log.getLast? = some (.queued a) := by
      cases hr <;> exact ⟨_, List.getLast?_concat⟩
    exact ⟨⟨hs.1, .of_last ha (by simp)⟩, fun dev _ => hs.2 dev⟩
  freed _ _ _ _ _ _ := trivial
  missing _ _ _ _ _ _ _ _ := trivial
  other _ _ := trivial

/-! ## Inside the lock -/

/-- A guarded block that was entered at `w0` has come to `w`: it alone has changed the record of its
device, which is `d`, and what gattlib has been told on the connection `k`, which is `s`. -/
structure World.Owned (w0 : World) (dev : UUID) (k : Conn) (d : Details) (s : Subscriptions)
    (w : World) : Prop where
  accounts : w.Accounts
  kept : Kept { w0 with held := dev :: w0.held } w
  free : dev ∉ w0.held
  others : ∀ e ∈ w0.held, w0.HoldsStill e w
  record : w.ble.devices[dev]? = some d
  connection : d.connection = some k
  told : subscriptionsOn w.log k = s

namespace World

variable {w0 w w' : World} {dev : UUID} {k : Conn} {d : Details} {s : Subscriptions}

/-- The owner of a record changes it, and tells gattlib on its connection. -/
theorem Accounts.own (h : w.Accounts) (hdev : dev ∈ w.held) (hfifo : Fifo w')
    (hrecords : w'.Records fun _ d =>
      d.Keyed ∧ (d.discoveryDone = false → ∀ k : UUID, d.characteristics[k]? = none))
    (hheld : w'.held = w.held) (hconn : w'.connectionOf = w.connectionOf)
    (hothers : ∀ e, e ≠ dev → w.HoldsStill e w') : w'.Accounts where
  fifo := hfifo
  records := hrecords
  apart := by rw [hconn]; exact h.apart
  sound e he := by
    rw [hheld] at he
    exact (hothers e fun heq => he (heq ▸ hdev)).sound (h.sound e he)

namespace Owned

theorem mem_held (h : w0.Owned dev k d s w) : dev ∈ w.held := by
  rw [h.kept.held]
  exact List.mem_cons_self

theorem linked (h : w0.Owned dev k d s w) : w.connectionOf dev = some k :=
  connectionOf_eq_some.mpr ⟨d, h.record, h.connection⟩

/-- The lock is taken. -/
theorem lock (h : w.Accounts) (hdev : dev ∉ w.held) (hd : w.ble.devices[dev]? = some d)
    (hk : d.connection = some k) :
    w.Owned dev k d (subscriptionsOn w.log k) { w with held := dev :: w.held } where
  accounts := {
    fifo := h.fifo.update rfl (Nat.le_refl _) rfl rfl
    records := h.records.of_devices rfl
    apart := h.apart
    sound := fun e he => h.sound e fun hm => he (List.mem_cons_of_mem _ hm) }
  kept := .refl _
  free := hdev
  others e _ := ⟨(HoldsStill.refl w e).record, (HoldsStill.refl w e).sound⟩
  record := hd
  connection := hk
  told := rfl

/-- The record is changed. -/
theorem update (h : w0.Owned dev k d s w) {f : Details → Details}
    (hf : ∀ d : Details, d.SameCore (f d)) :
    w0.Owned dev k (f d) s (w.updateDevice dev f) := by
  have hothers (e : UUID) (he : e ≠ dev) : w.HoldsStill e (w.updateDevice dev f) := by
    refine .of_aloof (l := []) ?_ (List.append_nil _).symm (by simp)
    simp only [World.updateDevice, World.updateBle_ble, Std.TreeMap.getElem?_modify,
      Std.LawfulEqCmp.compare_eq_iff_eq, if_neg he.symm]
  have hconn : (w.updateDevice dev f).connectionOf = w.connectionOf := by
    funext e
    rw [connectionOf_eq, connectionOf_eq,
      w.connections_updateDevice_same dev fun d => (hf d).connection]
  exact {
    accounts := h.accounts.own h.mem_held (h.accounts.fifo.update rfl (Nat.le_refl _) rfl rfl)
      (h.accounts.records.updateCore soundRecords_lasting dev hf)
      rfl hconn hothers
    kept := h.kept.trans (.updateDevice ..)
    free := h.free
    others := fun e he => (h.others e he).trans (hothers e fun heq => h.free (heq ▸ he))
    record := by simp [World.updateDevice, h.record]
    connection := (hf d).connection.trans h.connection
    told := h.told }

/-- Another connection hears nothing of what gattlib is told on `k`. -/
theorem push_others (h : w0.Owned dev k d s w) {e : Call} (he : e.toldOn = some k) {dev' : UUID}
    (hne : dev' ≠ dev) : w.HoldsStill dev' (w.push e) := by
  refine .of_aloof rfl rfl fun k' hk' o ho => ?_
  rw [List.mem_singleton.mp ho]
  refine Call.aloof fun hon => hne ?_
  rw [he] at hon
  cases hon
  exact h.accounts.apart dev' dev k hk' h.linked

theorem push (h : w0.Owned dev k d s w) {e : Call} (he : e.toldOn = some k) :
    (w.push e).Accounts := by
  have haction : e.action = none := by cases e <;> first | rfl | cases he
  exact h.accounts.own h.mem_held (h.accounts.fifo.push (by simp [haction]))
    (h.accounts.records.of_devices rfl) rfl rfl fun _ hne => h.push_others he hne

variable {hP : P.Within renewed} {X : World → Prop}

/-- A call on the connection: whatever comes in while it is open leaves the record alone. -/
theorem call_safe (h : w0.Owned dev k d s w) {e : Call} (he : e.toldOn = some k)
    {Q : Resp → World → Prop}
    (hk : ∀ r d' w', d.SameAccount d' →
      w0.Owned dev k d' (Obs.subscribe k s (.call e)) w' → w'.StartsSubscribed →
      (∃ w1, P.ans w1 e r ∧ dev ∈ w1.held ∧ w1.ble.devices[dev]? = some d') → Q r w') :
    (callOut e w).Safe (accountClaim hP).rules Q X := by
  have hplain : e.Plain ∧ ∀ r, e.Settled r := by
    cases e <;> first | exact ⟨rfl, fun _ => .inl rfl⟩ | cases he
  have hp : (accountClaim hP).inv (w.push e) :=
    ⟨h.push he, .of_last List.getLast?_concat (by simp)⟩
  refine Claim.callOut_safe hp fun r w' hw hc ha _ => ?_
  have hheld : w'.held = dev :: w0.held := hw.rel.kept.held.trans h.kept.held
  obtain ⟨d', hd', hs, hsub⟩ := (hw.rel.extra dev h.mem_held).record d h.record
  have hb := (accountClaim hP).act hw.inv (.back e r w.calls hc ha (hplain.2 r))
  refine hk r d' _ hs ?_ hb.1.2 ⟨w', ha, hheld ▸ List.mem_cons_self, hd'⟩
  exact {
    accounts := hb.1.1
    kept := h.kept.trans (hw.rel.kept.back r)
    free := h.free
    others := fun e' he' => by
      have hmem : e' ∈ dev :: w0.held := List.mem_cons_of_mem _ he'
      have hpush := h.push_others he fun heq => h.free (heq ▸ he')
      have hopen := hw.rel.extra e' (by rw [World.push_held, h.kept.held]; exact hmem)
      exact (((h.others e' he').trans hpush).trans hopen).trans (hb.2 e' (hheld ▸ hmem))
    record := hd'
    connection := hs.connection.trans h.connection
    told := by
      rw [World.back_log, subscriptionsOn_snoc]
      exact (hsub k h.connection).trans (by rw [World.push_log, subscriptionsOn_snoc, h.told]) }

/-- The lock is given back over a sound record. -/
theorem leave (h : w0.Owned dev k d s w) (hs : w.StartsSubscribed) (hsound : d.Sound w.log) :
    (accountClaim hP).Calm w0 { w with held := w.held.tail } := by
  have hheld : w.held = dev :: w0.held := h.kept.held
  have hu : w.SoundAt dev := fun d' hd' => by
    cases h.record.symm.trans hd'
    exact hsound
  have hinv := ((accountClaim hP).act ⟨h.accounts, hs⟩ (.unlock dev w0.held hheld hu)).1
  rw [hheld]
  have hkept : Kept w0 { w with held := w0.held } :=
    ⟨h.kept.calls, h.kept.ticks, rfl, h.kept.log, h.kept.records, h.kept.callers⟩
  exact ⟨⟨hinv, hkept, fun e he => ⟨(h.others e he).record, (h.others e he).sound⟩⟩, trivial⟩

end Owned

end World

/-! ## Starting -/

section
variable {hP : P.Within renewed} {w0 w : World} {dev u : UUID} {k : Conn} {d : Details}
  {s : Subscriptions} {g : GlUuid} {cb succ fail : Callback} {X : World → Prop}

/-- The counter goes up, and the library's handlers are registered then. -/
theorem countRegistered_owned {Q : Unit → World → Prop} (h : w0.Owned dev k d s w)
    (hreg : d.numRegisteredForNotifs ≠ 0 → s.notification = true ∧ s.indication = true)
    (hk : ∀ d' s' w', w0.Owned dev k d' s' w' → d'.characteristics = d.characteristics →
      d'.numRegisteredForNotifs = d.numRegisteredForNotifs + 1 →
      s' = { s with notification := true, indication := true } → Q () w') :
    (countRegistered dev w).Safe (accountClaim hP).rules Q X := by
  simp only [countRegistered, Prog.bind_apply, record_eq, h.record, Out.bind_done, Prog.ite_apply]
  split
  · rename_i hz
    obtain ⟨hn, hi⟩ := hreg hz
    exact hk _ s _ (h.update fun d => .setCounter d _) rfl rfl (Subscriptions.ext hn hi rfl)
  · rename_i hz
    simp only [Prog.bind_apply, safe_bind, record_eq]
    refine h.call_safe (by exact h.connection) fun rn d1 w1 hs1 h1 _ _ => ?_
    simp only [h1.record, safe_done]
    refine h1.call_safe (by exact h1.connection) fun ri d2 w2 hs2 h2 _ _ => ?_
    refine hk _ _ _ (h2.update fun d => .setCounter d _)
      (hs2.characteristics.trans hs1.characteristics) ?_ ?_
    · rw [not_not.mp hz]
      rfl
    · simp [Obs.subscribe, h.connection, h1.connection]

/-- gattlib starts to notify. -/
theorem startForChar_owned (hS : P.Within notifySucceeds) {Q : Bool → World → Prop}
    (h : w0.Owned dev k d s w)
    (hk : ∀ d' w', d.SameAccount d' → d'.numRegisteredForNotifs ≠ 0 →
      w0.Owned dev k d' { s with started := g :: s.started } w' → w'.StartsSubscribed → Q true w') :
    (startForChar dev g fail w).Safe (accountClaim hP).rules Q X := by
  simp only [startForChar, Prog.bind_apply, record_eq, h.record, Out.bind_done, safe_bind]
  refine h.call_safe (by exact h.connection) fun r d' w' hs h' hst hans => ?_
  obtain ⟨w1, hans, hheld, hd'⟩ := hans
  have hrc : r.rc = 0 := (hS w1).ans _ _ hans rfl
  have hne : d'.numRegisteredForNotifs ≠ 0 :=
    (hP w1).ans _ _ hans dev hheld d' hd' hs.connection
  rw [Prog.ite_apply, if_neg (not_not.mpr hrc)]
  refine hk d' w' hs hne ?_ hst
  rwa [h.connection, Obs.subscribe, if_pos rfl] at h'

theorem startNotificationBlock_owned (hS : P.Within notifySucceeds) {Q : Bool → World → Prop}
    (h : (accountClaim hP).inv w) (hdev : dev ∉ w.held) (hd : w.ble.devices[dev]? = some d)
    (hconn : d.connection = some k) (hg : d.Concerns u g)
    (hk : ∀ w', (accountClaim hP).Calm w { w' with held := w'.held.tail } → w'.Subscribed dev u →
      Q true w') :
    (startNotificationBlock dev u g cb fail { w with held := dev :: w.held }).Safe
      (accountClaim hP).rules Q X := by
  have h0 := World.Owned.lock h.1 hdev hd hconn
  have hsound : d.Sound w.log := h.1.sound dev hdev d hd
  simp only [startNotificationBlock, Prog.bind_apply, record_eq, h0.record, Out.bind_done]
  by_cases hall : ∀ c, d.characteristic u = some c → c.registeredForNotifs = false
  · have hreg : (d.characteristic u).all (! ·.registeredForNotifs) = true := by
      rw [Option.all_eq_true]
      exact fun c hc => by rw [hall c hc]; rfl
    have h1 := (h0.update fun d => .setRegistered d u true).update
      fun d => .setNotificationHandler d u cb
    simp only [hreg, reduceIte, Prog.bind_apply, safe_bind]
    refine countRegistered_owned h1 (hsound.registered k hconn) fun d2 s2 w2 h2 hchars hcount hs2 => ?_
    refine startForChar_owned hS h2 fun d3 w3 hs3 hne h3 hst => ?_
    have hchars3 : d3.characteristics = (d.setRegistered u true).characteristics :=
      hs3.characteristics.trans hchars
    have hreg3 : (subscriptionsOn w3.log k).notification = true ∧
        (subscriptionsOn w3.log k).indication = true := by
      rw [h3.told, hs2]
      exact ⟨rfl, rfl⟩
    have hstarted : (subscriptionsOn w3.log k).started = g :: (subscriptionsOn w.log k).started := by
      rw [h3.told, hs2]
    have hsound3 : d3.Sound w3.log := hsound.start hg hconn hall h3.connection hchars3
      (hs3.numRegisteredForNotifs.trans hcount) hne hreg3 hstarted
    refine hk _ (h3.leave hst hsound3) ⟨d3, k, g, h3.record, h3.connection, ?_, hreg3.1, hreg3.2, ?_⟩
    · refine hg.glUuidOf fun key => ?_
      rw [hchars3]
      exact (Details.SameCore.setRegistered d u true).glUuid key
    · rw [hstarted]
      exact List.mem_cons_self
  · obtain ⟨c, hc⟩ := not_forall.mp hall
    obtain ⟨hc, hr⟩ := Classical.not_imp.mp hc
    have hr : c.registeredForNotifs = true := by simpa using hr
    simp only [hc, Option.all_some, hr, Bool.not_true, Bool.false_eq_true, if_false]
    have hsame (d : Details) : d.SameAccount (d.setNotificationHandler u cb) := ⟨rfl, rfl, rfl⟩
    have h1 := h0.update fun d => .setNotificationHandler d u cb
    have hreg := hsound.registered k hconn (hsound.counter_ne_zero hc hr)
    have hst : ({ w with held := dev :: w.held } : World).StartsSubscribed := h.2
    refine hk _ (h1.leave (hst.updateDevice dev hsame) ((hsame d).sound hsound fun _ _ => rfl)) ?_
    refine ⟨_, k, g, h1.record, hconn, hg.glUuidOf fun _ => rfl, hreg.1, hreg.2, ?_⟩
    rw [← hg.glUuid_eq hc]
    exact hsound.started k _ c hconn hc hr

/-! ## Stopping -/

/-- The counter goes down, and the library's handlers stay registered unless it is 0 then. -/
theorem countUnregistered_owned {Q : Unit → World → Prop} (h : w0.Owned dev k d s w)
    (hk : ∀ d' s' w', w0.Owned dev k d' s' w' → d'.characteristics = d.characteristics →
      d'.numRegisteredForNotifs =
        (if d.numRegisteredForNotifs = 0 then 0 else d.numRegisteredForNotifs - 1) →
      (d'.numRegisteredForNotifs ≠ 0 →
        s'.notification = s.notification ∧ s'.indication = s.indication) →
      s'.started = s.started → Q () w') :
    (countUnregistered dev w).Safe (accountClaim hP).rules Q X := by
  simp only [countUnregistered, Prog.bind_apply, record_eq, h.record, Out.bind_done, Prog.ite_apply]
  split
  · rename_i hz
    have h1 := h.update fun d => .setCounter d (d.numRegisteredForNotifs - 1)
    simp only [Prog.bind_apply, updateRecord, Prog.modify_apply, Out.bind_done, record_eq,
      h1.record, Prog.ite_apply]
    split
    · rename_i hlast
      simp only [Prog.bind_apply, safe_bind, record_eq]
      refine h1.call_safe (by exact h.connection) fun rn d2 w2 hs2 h2 _ _ => ?_
      simp only [h2.record, safe_done]
      refine h2.call_safe (by exact h2.connection) fun ri d3 w3 hs3 h3 _ _ => ?_
      have hcount : d3.numRegisteredForNotifs = d.numRegisteredForNotifs - 1 :=
        hs3.numRegisteredForNotifs.trans hs2.numRegisteredForNotifs
      refine hk d3 _ w3 h3 (hs3.characteristics.trans hs2.characteristics) ?_ ?_ ?_
      · rw [if_neg hz, hcount]
      · exact fun hne => absurd (hcount.trans hlast) hne
      · simp [Obs.subscribe, h.connection, h2.connection]
    · exact hk _ s _ h1 rfl (by rw [if_neg hz]) (fun _ => ⟨rfl, rfl⟩) rfl
  · rename_i hz
    exact hk d s w h rfl (by rw [if_pos (not_not.mp hz), not_not.mp hz]) (fun _ => ⟨rfl, rfl⟩) rfl

/-- gattlib stops to notify. -/
theorem stopForChar_owned (hS : P.Within notifySucceeds) {Q : Bool → World → Prop}
    (h : w0.Owned dev k d s w)
    (hk : ∀ d' w', d.SameAccount d' →
      w0.Owned dev k d' { s with started := s.started.filter (· ≠ g) } w' → w'.StartsSubscribed →
      Q true w') :
    (stopForChar dev g fail w).Safe (accountClaim hP).rules Q X := by
  simp only [stopForChar, Prog.bind_apply, record_eq, h.record, Out.bind_done, safe_bind]
  refine h.call_safe (by exact h.connection) fun r d' w' hs h' hst hans => ?_
  obtain ⟨w1, hans, -⟩ := hans
  have hrc : r.rc = 0 := (hS w1).ans _ _ hans rfl
  rw [Prog.ite_apply, if_neg (not_not.mpr hrc)]
  refine hk d' w' hs ?_ hst
  rwa [h.connection, Obs.subscribe, if_pos rfl] at h'

theorem stopNotificationBlock_owned (hS : P.Within notifySucceeds) {Q : Bool → World → Prop}
    (h : (accountClaim hP).inv w) (hdev : dev ∉ w.held) (hd : w.ble.devices[dev]? = some d)
    (hconn : d.connection = some k) (hg : d.Concerns u g)
    (hk : ∀ w', (accountClaim hP).Calm w { w' with held := w'.held.tail } → Q true w') :
    (stopNotificationBlock dev u g fail { w with held := dev :: w.held }).Safe
      (accountClaim hP).rules Q X := by
  have h0 := World.Owned.lock h.1 hdev hd hconn
  have hsound : d.Sound w.log := h.1.sound dev hdev d hd
  simp only [stopNotificationBlock, Prog.bind_apply, record_eq, h0.record, Out.bind_done]
  by_cases hall : ∀ c, d.characteristic u = some c → c.registeredForNotifs = true
  · have hreg : (d.characteristic u).all (·.registeredForNotifs) = true := by
      rw [Option.all_eq_true]
      exact hall
    have h1 := h0.update fun d => .setRegistered d u false
    simp only [hreg, reduceIte, Prog.bind_apply, safe_bind]
    refine countUnregistered_owned h1 fun d2 s2 w2 h2 hchars hcount hreg2 hst2 => ?_
    refine stopForChar_owned hS h2 fun d3 w3 hs3 h3 hst => ?_
    refine hk _ (h3.leave hst ?_)
    refine hsound.stop (h.1.records dev d hd).1 hg hconn hall h3.connection
      (hs3.characteristics.trans hchars) (hs3.numRegisteredForNotifs.trans hcount) ?_ ?_
    · rw [h3.told, hs3.numRegisteredForNotifs]
      exact hreg2
    · rw [h3.told, hst2]
  · have hreg : (d.characteristic u).all (·.registeredForNotifs) = false := by
      rw [Bool.eq_false_iff]
      exact fun hyes => hall (by simpa [Option.all_eq_true] using hyes)
    have hst : ({ w with held := dev :: w.held } : World).StartsSubscribed := h.2
    simp only [hreg, Bool.false_eq_true, if_false]
    exact hk _ (h0.leave hst hsound)

/-! ## Runs -/

/-- What is looked up for a connected device is about its record. -/
theorem getUUIDForCharOrFail_concerns {opSupp : Characteristic.Details → Bool}
    {Q : Option GlUuid → World → Prop} (h : (accountClaim hP).inv w)
    (he : (accountClaim hP).Entered w) (hf : (accountClaim hP).Fair w fail)
    (hconn : w.ble.isConnected dev = true) (hnone : ∀ w', (accountClaim hP).Calm w w' → Q none w')
    (hk : ∀ d k g, w.ble.devices[dev]? = some d → d.connection = some k → d.Concerns u g →
      Q (some g) w) :
    (getUUIDForCharOrFail dev u opSupp fail w).Safe (accountClaim hP).rules Q X := by
  obtain ⟨d0, hd0, hsome⟩ := (w.ble.isConnected_iff dev).mp hconn
  obtain ⟨k, hk0⟩ := Option.isSome_iff_exists.mp hsome
  refine Claim.getUUIDForCharOrFail_safe h he hf (w.ble.record_of_connected hconn) hnone
    (fun d c hd _ hc _ => ?_) fun d g hd hdd hg => ?_
  · cases hd0.symm.trans hd
    exact hk d0 k c.glUuid hd hk0 (.inl ⟨c, hc, rfl⟩)
  · cases hd0.symm.trans hd
    exact hk d0 k g hd hk0 (.inr ⟨(h.1.records dev d0 hd).2 hdd, hg⟩)

theorem startNotification_subscribes (hS : P.Within notifySucceeds) {Q : Bool → World → Prop}
    (hf : (accountClaim hP).Fair w fail) (he : (accountClaim hP).Entered w)
    (h : (accountClaim hP).inv w)
    (hk : ∀ b w', (accountClaim hP).Calm w w' → (b = true → w'.Subscribed dev u) → Q b w') :
    (startNotification dev u cb fail w).Safe (accountClaim hP).rules Q X := by
  have hno (w' : World) (hw : (accountClaim hP).Calm w w') : Q false w' := hk false w' hw (by simp)
  refine Claim.ensureAdapterAvail_safe h hf hno fun w1 hw _ _ => ?_
  simp only [ble_apply, Prog.bind_apply, Out.bind_done, Prog.ite_apply]
  split
  · rw [safe_bind]
    exact Claim.triggerCbIfSet_safe hw.inv (hf.mono hw.rel.kept.log) fun w2 hw2 => hno _ (hw.trans hw2)
  · rename_i hconn
    have hconn : w1.ble.isConnected dev = true := by simpa using hconn
    rw [safe_bind]
    refine getUUIDForCharOrFail_concerns hw.inv (he.mono hw.rel.kept) (hf.mono hw.rel.kept.log) hconn
      (fun w' hw' => hno _ (hw.trans hw')) fun d k g hd hc hg => ?_
    refine locked_rule (fun _ => trivial) fun hdev => ?_
    refine startNotificationBlock_owned hS hw.inv hdev hd hc hg fun w2 hw2 hsub => ?_
    exact hk true _ (hw.trans hw2) fun _ => hsub

theorem stopNotification_accounts (hS : P.Within notifySucceeds) {Q : Bool → World → Prop}
    (hP' : ∀ w', w.log <+: w'.log → succ.isSome → P.Reports w' succ) (hf : (accountClaim hP).Fair w fail)
    (he : (accountClaim hP).Entered w) (h : (accountClaim hP).inv w)
    (hk : ∀ b w', (accountClaim hP).Calm w w' → Q b w') :
    (stopNotification dev u succ fail w).Safe (accountClaim hP).rules Q X := by
  refine Claim.ensureAdapterAvail_safe h hf (hk false) fun w1 hw _ _ => ?_
  simp only [ble_apply, Prog.bind_apply, Out.bind_done, Prog.ite_apply]
  split
  · exact Claim.refuse_safe hw hf hk
  · rename_i hconn
    have hconn : w1.ble.isConnected dev = true := by simpa using hconn
    rw [safe_bind]
    refine getUUIDForCharOrFail_concerns hw.inv (he.mono hw.rel.kept) (hf.mono hw.rel.kept.log) hconn
      (fun w' hw' => hk false _ (hw.trans hw')) fun d k g hd hc hg => ?_
    simp only [Prog.bind_apply, safe_bind]
    refine locked_rule (fun _ => trivial) fun hdev => ?_
    refine stopNotificationBlock_owned hS hw.inv hdev hd hc hg fun w2 hw2 => ?_
    cases succ with
    | none => exact hk true _ (hw.trans hw2)
    | some f =>
      have hw2' := hw.trans hw2
      exact Claim.report_safe (hP' _ hw2'.rel.kept.log rfl) hw2' hk

theorem accountClaim_notifies (hS : P.Within notifySucceeds) : (accountClaim hP).Notifies where
  start _ hf he h hk := startNotification_subscribes hS hf he h hk
  stop hP' hf he h hk := stopNotification_accounts hS hP' hf he h hk

end

/-- **Subscriptions survive reconnects** where they come up renewed: when `startNotification`
returns true, the library's handlers are registered on the current connection and gattlib notifies
there of the characteristic. -/
theorem start_subscribed {c : Config World Call Resp Fault}
    (h : Reach (notifySucceeds.and renewed) .init c) (hf : c.fault = none) {dev u : UUID}
    {cb fail : Callback}
    (hlast : c.s.log.getLast? =
      some (.exit (.api (.startNotification dev u cb fail)) (.bool true))) :
    c.s.Subscribed dev u := by
  have hP : (notifySucceeds.and renewed).Within renewed := fun _ =>
    ⟨fun _ h => h.2, fun _ _ h => h.2⟩
  have hinit : World.init.Accounts ∧ World.init.StartsSubscribed := by
    refine ⟨⟨.init, ?_, ?_, ?_⟩, ?_⟩
    · exact fun dev d hd => by simp [World.init] at hd
    · exact fun dev dev' k hk => by simp [World.init, World.connectionOf] at hk
    · exact fun dev _ d hd => by simp [World.init] at hd
    · exact fun dev u cb fail hm => by cases hm
  have hn : (accountClaim hP).Notifies := accountClaim_notifies (Policy.and_within _ _)
  exact (Claim.reach hn trivial hinit h hf).2 dev u cb fail hlast

end

/-- The connection of `"A"` goes down, and `c` comes up and is discovered. -/
def reconnect (c : Conn) : List (System.Choice Move Resp) :=
  [.enter (.api (.disconnect "A" none none)), .enter (.api .processAsync), .answer .void,
    .enter (.api .processAsync), .answer .void, .answer (.code 0), .enter (.api .processAsync),
    .enter (.event (some 1) .disconnected), .answer .void,
    .enter (.api (.connect "A" none none none)), .enter (.api .processAsync), .answer .void,
    .enter (.api .processAsync), .answer .void, .answer (.code 0), .enter (.api .processAsync),
    .enter (.event (some 2) (.connected (some c))), .answer .void, .answer (.services []),
    .enter (.api .processAsync), .answer .void, .answer (.characteristics [⟨0x10, 1⟩])]

/-- A start and a stop of the one characteristic of `"A"`. -/
def startA : List (System.Choice Move Resp) :=
  [.enter (.api (.startNotification "A" "2a19" none none)), .answer .void, .answer .void,
    .answer (.code 0)]

def stopA : List (System.Choice Move Resp) :=
  [.enter (.api (.stopNotification "A" "2a19" none none)), .answer .void, .answer .void,
    .answer (.code 0)]

/-- What was started is stopped before the connection goes down, and started again on the next. -/
theorem start_subscribed_again : ∃ c : Config World Call Resp Fault,
    @Reach .sample (notifySucceeds.and renewed) .init c ∧
      .call (.registerNotification (some 8) (some "A")) ∈ c.s.log ∧
      @World.Subscribed .sample c.s "A" "2a19" := by
  let _ := Gattlib.sample
  obtain ⟨c, hc, hP⟩ := (system (notifySucceeds.and renewed)).reach_of_run_any
    (discoverNotifying ++ startA ++ stopA ++ reconnect 8 ++ startA) (c := ⟨.init, [], none⟩)
    (P := fun c => c.fault.isNone &&
      (decide (.call (.registerNotification (some 8) (some "A")) ∈ c.s.log) && c.s.log.getLast? ==
        some (.exit (.api (.startNotification "A" "2a19" none none)) (.bool true)))) (by decide +kernel)
  simp only [Bool.and_eq_true, Option.isNone_iff_eq_none, beq_iff_eq, decide_eq_true_eq] at hP
  exact ⟨c, hc, hP.2.1, start_subscribed hc hP.1 hP.2.2⟩

/-- Nothing is stopped: on the next connection the counter is not 0, and the library's handlers are
not registered there. -/
theorem start_subscribed_stale : ∃ c : Config World Call Resp Fault,
    @Reach .sample (answering.and notifySucceeds) .init c ∧ c.fault = none ∧
      c.s.log.getLast? =
        some (.exit (.api (.startNotification "A" "2a19" none none)) (.bool true)) ∧
      ¬ @World.Subscribed .sample c.s "A" "2a19" := by
  let _ := Gattlib.sample
  obtain ⟨c, hc, hP⟩ := (system (answering.and notifySucceeds)).reach_of_run_any
    (discoverNotifying ++ startA ++ reconnect 8 ++
      [.enter (.api (.startNotification "A" "2a19" none none)), .answer (.code 0)])
    (c := ⟨.init, [], none⟩)
    (P := fun c => c.fault.isNone && (c.s.log.getLast? ==
        some (.exit (.api (.startNotification "A" "2a19" none none)) (.bool true)) &&
      (c.s.connectionOf "A" == some 8 && ! (subscriptionsOn c.s.log 8).notification)))
    (by decide +kernel)
  simp only [Bool.and_eq_true, Option.isNone_iff_eq_none, beq_iff_eq, Bool.not_eq_true'] at hP
  obtain ⟨hf, hlast, hconn, hno⟩ := hP
  refine ⟨c, hc, hf, hlast, ?_⟩
  rintro ⟨d, k, g, hd, hk, -, hn, -⟩
  rw [World.connectionOf_eq_some.mpr ⟨d, hd, hk⟩] at hconn
  rw [Option.some.inj hconn, hno] at hn
  cases hn

end Gattlibpp
