import Gattlibpp.Notify.Turns

/-!
# The books on subscriptions

A device record marks the characteristics it has started notifications for and counts them.
While gattlib's calls succeed, the marks and the count agree with what gattlib has been told.
A start that fails leaves its mark, and a stop that fails takes the mark off: from then on
they do not.
-/

namespace Gattlibpp

open Open

/-! ## One call -/

/-- Nothing has been said to gattlib about notifications from `w` to `w'`. -/
def World.SaysNothing (w w' : World) : Prop :=
  ∃ l, w'.log = w.log ++ l ∧ ∀ o ∈ l, o.notifyResp = none

/-- What is told of the handlers says nothing of a characteristic. -/
theorem World.Tells.saysNothing {w w' : World} {es : List Obs} (h : w.Tells es w')
    (hes : ∀ o ∈ es, o.notifyResp = none) : w.SaysNothing w' := by
  obtain ⟨l, hl, rfl⟩ := h.log
  refine ⟨l, hl, fun o ho => ?_⟩
  by_cases hn : o.notifies = true
  · exact hes o (List.mem_filter.mpr ⟨ho, hn⟩)
  · unfold Obs.notifyResp
    split
    · exact absurd rfl hn
    · exact absurd rfl hn
    · rfl

theorem Device.Details.handlerCalls_says (d : Device.Details) (on : Bool) (rn ri : Resp) :
    ∀ o ∈ d.handlerCalls on rn ri, o.notifyResp = none := by
  intro o ho
  by_cases hcount : d.numRegisteredForNotifs = (if on then 0 else 1)
  · rw [handlerCalls, if_pos hcount] at ho
    simp only [List.mem_cons, List.not_mem_nil, or_false] at ho
    rcases ho with rfl | rfl | rfl | rfl <;> rfl
  · rw [handlerCalls, if_neg hcount] at ho
    cases ho

/-- The counter after a start or stop that came back with `r`. -/
def countAfter (on : Bool) (r : Resp) (n : UInt8) : UInt8 :=
  match on with
  | true => if r.rc = 0 then n + 1 else n
  | false => n - 1

section
variable {w w' : World} {dev u : UUID} {d : Device.Details} {on b : Bool}

/-- What a start (`on`) or stop of `u` on a device with record `d` does: nothing to the books, or
gattlib is called for a characteristic that is not yet as asked. -/
inductive World.Turned (w : World) (dev u : UUID) (on : Bool) (d : Device.Details) :
    Bool → World → Prop where
  | idle {b : Bool} {w' : World} (d' : Device.Details) : w'.ble.devices[dev]? = some d' →
      d.SameBooks d' → w.SaysNothing w' → Turned w dev u on d b w'
  | told {w1 w' : World} (d' : Device.Details) (c : Characteristic.Details) (r : Resp) :
      d.characteristic u = some c → c.registeredForNotifs = (! on) →
      w'.ble.devices[dev]? = some d' →
      { d.setRegistered u on with
        numRegisteredForNotifs := countAfter on r d.numRegisteredForNotifs }.SameBooks d' →
      w.SaysNothing w1 → (w1.asked (.turn on d.connection c.glUuid) r).SaysNothing w' →
      Turned w dev u on d (decide (r.rc = 0)) w'

theorem Device.Details.subject_eq [Gattlib] (hdone : d.discoveryDone = true) {g : GlUuid}
    (hg : d.subject u = some g) :
    ∃ c, d.characteristic u = some c ∧ c.supportSubscriptions = true ∧ c.glUuid = g := by
  rw [subject, if_pos hdone, Option.map_eq_some_iff] at hg
  obtain ⟨c, hc, rfl⟩ := hg
  obtain ⟨hc, hsupp⟩ := Option.filter_eq_some_iff.mp hc
  exact ⟨c, hc, hsupp, rfl⟩

/-- Where a mark is counted, the counter goes down by one. -/
theorem World.Turns.turned {c : Characteristic.Details}
    (h : w.Turns dev u on d c.glUuid b w') (hc : d.characteristic u = some c)
    (hpos : c.registeredForNotifs = true → d.numRegisteredForNotifs ≠ 0) :
    w.Turned dev u on d b w' := by
  cases h with
  | idle d' hd' hs ht => exact .idle d' hd' hs (ht.saysNothing (by simp))
  | told d' rn ri r hr hd' hs ht ht' =>
    refine .told d' c r hc (hr c hc) hd' ?_ (ht.saysNothing (d.handlerCalls_says on rn ri))
      (ht'.saysNothing (by simp))
    cases on with
    | true => exact hs
    | false => rwa [countTurned, if_neg (hpos (hr c hc))] at hs

end

/-- A start or stop of notifications of `dev`. -/
inductive Op.Subscribes (dev : UUID) : Op → Prop where
  | start (u : UUID) (cb fail : Callback) : Subscribes dev (.startNotification dev u cb fail)
  | stop (u : UUID) (succ fail : Callback) : Subscribes dev (.stopNotification dev u succ fail)

theorem Op.Subscribes.turning {dev : UUID} {op : Op} (h : op.Subscribes dev) :
    ∃ u on, op.Turning dev u on := by
  cases h with
  | start u cb fail => exact ⟨u, true, .start cb fail⟩
  | stop u succ fail => exact ⟨u, false, .stop succ fail⟩

/-- What a call of the two does, with discovery done. -/
theorem Op.Subscribes.called [Gattlib] {w w' : World} {dev : UUID} {d : Device.Details} {op : Op}
    {r : Ret} (hop : op.Subscribes dev)
    (h : op.Called w r w') (hd : w.ble.devices[dev]? = some d)
    (hconn : d.connection.isSome = true) (hdone : d.discoveryDone = true)
    (hpos : ∀ u c, d.characteristic u = some c →
      c.registeredForNotifs = true → d.numRegisteredForNotifs ≠ 0) :
    ∃ u on b, w'.log.getLast? = some (.exit (.api op) (.bool b)) ∧ w.Turned dev u on d b w' := by
  obtain ⟨u, on, hturn⟩ := hop.turning
  obtain ⟨b, -, hlast, ht⟩ := hturn.called h hd hconn
  refine ⟨u, on, b, hlast, ?_⟩
  rcases ht with ⟨-, hw⟩ | ⟨-, g, hg, ht⟩
  · exact .idle d (hw.record hd) (.refl d) (hw.tells.saysNothing (by simp))
  · obtain ⟨c, hc, -, rfl⟩ := d.subject_eq hdone hg
    exact ht.turned hc (hpos u c hc)

/-! ## A sequence of calls -/

/-- Along a chain of calls two relations agree while the second one holds. -/
theorem isChain_iff {α : Type} {S K G : α → α → Prop} {I : α → Prop}
    (hstep : ∀ a b, I a → S a b → (K a b ↔ G a b) ∧ (G a b → I b)) {a : α} {l : List α} (ha : I a)
    (h : List.IsChain S (a :: l)) : List.IsChain K (a :: l) ↔ List.IsChain G (a :: l) := by
  induction l generalizing a with
  | nil => exact iff_of_true (.singleton a) (.singleton a)
  | cons b l ih =>
    rw [List.isChain_cons_cons] at h
    obtain ⟨hiff, hnext⟩ := hstep a b ha h.1
    rw [List.isChain_cons_cons, List.isChain_cons_cons, hiff]
    exact and_congr_right fun hg => ih (hnext hg) h.2

namespace World

/-- An undisturbed call that starts or stops notifications of `dev`. -/
def NotifyCall [Gattlib] (dev : UUID) (w w' : World) : Prop :=
  ∃ (op : Op) (r : Ret), op.Subscribes dev ∧ op.Called w r w'

/-- The books tell the truth on what gattlib has been told since `w0`: the counter is the number
of marks, and those characteristics are marked for which notifications are started. -/
def Truthful (w0 w : World) (dev : UUID) : Prop :=
  ∃ d l, w.ble.devices[dev]? = some d ∧ w.log = w0.log ++ l ∧
    d.numRegisteredForNotifs.toNat = d.numMarked ∧
    ∀ (k : UUID) (c : Characteristic.Details), d.characteristics[k]? = some c →
      c.registeredForNotifs = notifying l c.glUuid

/-- The counter and the marks are as they were. -/
def SameMarks (dev : UUID) (w w' : World) : Prop :=
  ∀ d d', w.ble.devices[dev]? = some d → w'.ble.devices[dev]? = some d' →
    d'.numRegisteredForNotifs = d.numRegisteredForNotifs ∧ d'.marked = d.marked

/-- The call from `w` to `w'` leaves truthful books, and where it returned false the same. -/
def KeepsBooks (w0 : World) (dev : UUID) (w w' : World) : Prop :=
  w0.Truthful w' dev ∧
    ∀ m, w'.log.getLast? = some (.exit m (.bool false)) → SameMarks dev w w'

/-- No `gattlib_notification_start` or `gattlib_notification_stop` of the call failed. -/
def NoneFailed (w w' : World) : Prop :=
  ∃ l, w'.log = w.log ++ l ∧ ∀ o ∈ l, ∀ r, o.notifyResp = some r → r.rc = 0

/-- A live connection to `dev` whose discovery is done, with truthful books since `w0`. -/
structure Booked [Gattlib] (w0 : World) (dev : UUID) (w : World) (d : Device.Details)
    (l : List Obs) : Prop where
  record : w.ble.devices[dev]? = some d
  live : d.connection.isSome = true
  done : d.discoveryDone = true
  keyed : d.Keyed
  size : d.characteristics.size ≤ 255
  log : w.log = w0.log ++ l
  count : d.numRegisteredForNotifs.toNat = d.numMarked
  marks : ∀ (k : UUID) (c : Characteristic.Details), d.characteristics[k]? = some c →
    c.registeredForNotifs = notifying l c.glUuid

end World

section
variable [Gattlib] {w0 w w' : World} {dev u : UUID} {d d' : Device.Details} {l : List Obs}

namespace World.Booked

theorem truthful (h : w0.Booked dev w d l) : w0.Truthful w dev :=
  ⟨d, l, h.record, h.log, h.count, h.marks⟩

theorem counted (h : w0.Booked dev w d l) {c : Characteristic.Details}
    (hc : d.characteristic u = some c) (hr : c.registeredForNotifs = true) :
    d.numRegisteredForNotifs ≠ 0 := d.counted_ne_zero h.count hc hr

/-- The counter after a call that succeeded. -/
theorem count_told (h : w0.Booked dev w d l) {on : Bool} {c : Characteristic.Details} {r : Resp}
    (hc : d.characteristic u = some c) (hr : c.registeredForNotifs = (! on)) (hrc : r.rc = 0) :
    (countAfter on r d.numRegisteredForNotifs).toNat = (d.setRegistered u on).numMarked := by
  cases on with
  | true =>
    rw [countAfter, if_pos hrc]
    exact d.counted_mark h.size h.count hc hr
  | false => exact d.counted_unmark h.count hc hr

/-- The marks after a call that succeeded. -/
theorem marks_told (h : w0.Booked dev w d l) {on : Bool} {c : Characteristic.Details} {r : Resp}
    {connection : Option Conn} (hc : d.characteristic u = some c)  (hrc : r.rc = 0) (l1 l2 : List Obs)
    (hl1 : ∀ o ∈ l1, o.notifyResp = none) (hl2 : ∀ o ∈ l2, o.notifyResp = none)
    {k : UUID} {c' : Characteristic.Details}
    (hc' : (d.setRegistered u on).characteristics[k]? = some c') :
    c'.registeredForNotifs = notifying (l ++ l1 ++ [.call (.turn on connection c.glUuid),
      .ret (.turn on connection c.glUuid) r] ++ l2) c'.glUuid := by
  rw [notifying_append_same hl2, notifying_turn, notifying_append_same hl1, notifying_append_same hl1]
  rw [Device.Details.characteristics_setRegistered] at hc'
  unfold Device.Details.characteristic at hc
  split at hc'
  · rename_i hk
    rw [← hk, hc] at hc'
    obtain rfl := Option.some.inj hc'
    cases on <;> simp [hrc]
  · rename_i hk
    rw [if_neg fun hg => hk (h.keyed.key_eq hc hc' hg)]
    exact h.marks k c' hc'

/-- A call that gattlib turned down leaves a mark that does not tell the truth. -/
theorem not_truthful_told (h : w0.Booked dev w d l) {on : Bool} {c : Characteristic.Details}
    {r : Resp} {connection : Option Conn} (hc : d.characteristic u = some c)
    (hr : c.registeredForNotifs = (! on)) (hrc : r.rc ≠ 0) (l1 l2 : List Obs)
    (hl1 : ∀ o ∈ l1, o.notifyResp = none) (hl2 : ∀ o ∈ l2, o.notifyResp = none)
    (hd' : w'.ble.devices[dev]? = some d')
    (hchars : d'.characteristics = (d.setRegistered u on).characteristics)
    (hlog : w'.log = w0.log ++ (l ++ l1 ++ [.call (.turn on connection c.glUuid),
      .ret (.turn on connection c.glUuid) r] ++ l2)) : ¬ w0.Truthful w' dev := by
  rintro ⟨d2, l', hd2, hl', -, hmarks⟩
  cases hd'.symm.trans hd2
  cases List.append_cancel_left (hlog.symm.trans hl')
  unfold Device.Details.characteristic at hc
  have hmark := hmarks (Device.normalizeCharacteristicUUID u) { c with registeredForNotifs := on }
    (by rw [hchars, Device.Details.characteristics_setRegistered, if_pos rfl, hc]; rfl)
  have hwas := h.marks _ c hc
  rw [notifying_append_same hl2, notifying_turn, notifying_append_same hl1, if_pos rfl, ← hwas, hr]
    at hmark
  cases on <;> simp [hrc] at hmark

end World.Booked

/-- **Step lemma.** A call keeps the books exactly where gattlib turned nothing down. -/
theorem World.Booked.step (h : w0.Booked dev w d l) (hcall : w.NotifyCall dev w') :
    (w0.KeepsBooks dev w w' ↔ w.NoneFailed w') ∧
      (w.NoneFailed w' → ∃ d' l', w0.Booked dev w' d' l') := by
  obtain ⟨op, r, hop, hcall⟩ := hcall
  obtain ⟨u, on, b, hlast, ht⟩ := hop.called hcall h.record h.live h.done fun u c => h.counted
  cases ht with
  | idle d' hd' hs hsay =>
    obtain ⟨l1, hl1, hno⟩ := hsay
    have hbook : w0.Booked dev w' d' (l ++ l1) := {
      record := hd'
      live := hs.connection ▸ h.live
      done := hs.discoveryDone ▸ h.done
      keyed := h.keyed.of_eq fun k => by rw [hs.characteristics]
      size := hs.characteristics ▸ h.size
      log := by rw [hl1, h.log, List.append_assoc]
      count := by
        rw [hs.numRegisteredForNotifs, h.count]
        unfold Device.Details.numMarked Device.Details.marked
        rw [hs.characteristics]
      marks := fun k c hc => by
        rw [notifying_append_same hno]
        exact h.marks k c (hs.characteristics ▸ hc) }
    have hnone : w.NoneFailed w' := ⟨l1, hl1, fun o ho r hr => by rw [hno o ho] at hr; cases hr⟩
    refine ⟨⟨fun _ => hnone, fun _ => ⟨hbook.truthful, fun _ _ => ?_⟩⟩, fun _ => ⟨d', _, hbook⟩⟩
    intro e e' he he'
    cases h.record.symm.trans he
    cases hd'.symm.trans he'
    refine ⟨hs.numRegisteredForNotifs, ?_⟩
    unfold Device.Details.marked
    rw [hs.characteristics]
  | told d' c r hc hr hd' hs hsay hsay' =>
    obtain ⟨l1, hl1, hno1⟩ := hsay
    obtain ⟨l2, hl2, hno2⟩ := hsay'
    have hsince : w'.log = w.log ++ (l1 ++ [.call (.turn on d.connection c.glUuid),
        .ret (.turn on d.connection c.glUuid) r] ++ l2) := by
      rw [hl2, World.asked_log, hl1]
      simp
    have hlog : w'.log = w0.log ++ (l ++ l1 ++ [.call (.turn on d.connection c.glUuid),
        .ret (.turn on d.connection c.glUuid) r] ++ l2) := by
      rw [hsince, h.log]
      simp
    have hanswer : (Obs.ret (.turn on d.connection c.glUuid) r).notifyResp = some r := by
      cases on <;> rfl
    by_cases hrc : r.rc = 0
    · have hbook : w0.Booked dev w' d' _ := {
        record := hd'
        live := hs.connection ▸ h.live
        done := hs.discoveryDone ▸ h.done
        keyed := h.keyed.of_eq fun k => by
          rw [hs.characteristics]
          exact (Device.Details.SameCore.setRegistered d u on).glUuid k
        size := by
          rw [hs.characteristics]
          exact Nat.le_trans (Nat.le_of_eq (d.size_setRegistered u on)) h.size
        log := hlog
        count := by
          rw [hs.numRegisteredForNotifs, h.count_told hc hr hrc]
          unfold Device.Details.numMarked Device.Details.marked
          rw [hs.characteristics]
        marks := fun k c' hc' =>
          h.marks_told hc hrc l1 l2 hno1 hno2 (hs.characteristics ▸ hc') }
      have hnone : w.NoneFailed w' := by
        refine ⟨_, hsince, fun o ho r' hr' => ?_⟩
        rcases List.mem_append.mp ho with ho | ho
        · rcases List.mem_append.mp ho with ho | ho
          · rw [hno1 o ho] at hr'
            cases hr'
          · rcases List.mem_pair.mp ho with rfl | rfl
            · cases hr'
            · rw [hanswer] at hr'
              cases hr'
              exact hrc
        · rw [hno2 o ho] at hr'
          cases hr'
      refine ⟨⟨fun _ => hnone, fun _ => ⟨hbook.truthful, fun m hm => ?_⟩⟩, fun _ => ⟨d', _, hbook⟩⟩
      -- the call has returned true
      rw [hlast] at hm
      simp [hrc] at hm
    · have hnot : ¬ w.NoneFailed w' := by
        rintro ⟨l', hl', hok⟩
        cases List.append_cancel_left (hsince.symm.trans hl')
        exact hrc (hok (.ret (.turn on d.connection c.glUuid) r) (by simp) r hanswer)
      refine ⟨⟨fun hk => ?_, fun hn => absurd hn hnot⟩, fun hn => absurd hn hnot⟩
      exact absurd hk.1 (h.not_truthful_told hc hr hrc l1 l2 hno1 hno2 hd' hs.characteristics hlog)

/-- Over a sequence of calls on a live connection whose books are empty, every call leaves
truthful books exactly if gattlib never turns a start or stop down. -/
theorem books_kept {c : Config World Call Resp Fault} (h : Reach .any .init c) (hf : c.fault = none)
    {dev : UUID} {d : Device.Details} (hd : c.s.ble.devices[dev]? = some d)
    (hlive : d.connection.isSome = true) (hdone : d.discoveryDone = true)
    (hcount : d.numRegisteredForNotifs = 0) (hmarks : ∀ k, d.marked k = false)
    (hsize : d.characteristics.size ≤ 255) {ws : List World}
    (hws : List.IsChain (World.NotifyCall dev) (c.s :: ws)) :
    List.IsChain (c.s.KeepsBooks dev) (c.s :: ws) ↔ List.IsChain World.NoneFailed (c.s :: ws) := by
  have hbook : c.s.Booked dev c.s d [] := {
    record := hd
    live := hlive
    done := hdone
    keyed := keyed_reach h hf dev d hd
    size := hsize
    log := (List.append_nil _).symm
    count := by
      have hzero : d.numMarked = 0 := List.countP_eq_zero.mpr fun k _ => by simp [hmarks k]
      rw [hcount, hzero]
      rfl
    marks := fun k c hc => by
      have hk := hmarks k
      rw [Device.Details.marked, hc] at hk
      exact hk }
  refine isChain_iff (I := fun w => ∃ d l, c.s.Booked dev w d l) ?_ ⟨d, [], hbook⟩ hws
  rintro w w' ⟨d, l, hw⟩ hcall
  exact hw.step hcall

end

/-- A connect to `"A"` with the discovery of one characteristic that notifies. -/
def discoverNotifying : List (System.Choice Move Resp) :=
  [.enter (.api (.connect "A" none none none)), .answer (.adapter 3),
    .enter (.api .processAsync), .answer .void, .answer (.code 0),
    .enter (.event (some 0) (.connected (some 7))), .enter (.api .processAsync), .answer .void,
    .answer (.services []), .enter (.api .processAsync), .answer .void,
    .answer (.characteristics [⟨0x10, 1⟩])]

/-- The record of `"A"` after that, with empty books. -/
def World.fresh (w : World) : Option Device.Details :=
  (w.ble.devices["A"]?).filter fun d => d.connection == some 7 && d.discoveryDone &&
    d.numRegisteredForNotifs == 0 && d.characteristics.keys == ["2a19"] && ! d.marked "2a19"

theorem World.fresh_record {w : World} (h : w.fresh.isSome) : ∃ d : Device.Details,
    w.ble.devices["A"]? = some d ∧ d.connection.isSome = true ∧ d.discoveryDone = true ∧
      d.numRegisteredForNotifs = 0 ∧ (∀ k, d.marked k = false) ∧ d.characteristics.size ≤ 255 := by
  obtain ⟨d, hd⟩ := Option.isSome_iff_exists.mp h
  simp only [World.fresh, Option.filter_eq_some_iff, Bool.and_eq_true, beq_iff_eq,
    Bool.not_eq_true'] at hd
  obtain ⟨hd, ⟨⟨⟨hconn, hdone⟩, hcount⟩, hkeys⟩, hmark⟩ := hd
  refine ⟨d, hd, by rw [hconn]; rfl, hdone, hcount, d.not_marked ?_, ?_⟩
  · rw [hkeys]
    simpa using hmark
  · rw [← Std.TreeMap.length_keys, hkeys]
    decide

/-- A start and a stop that gattlib lets through keep the books. -/
theorem books_kept_twice : ∃ (c : Config World Call Resp Fault) (w1 w2 : World),
    @Reach .sample .any .init c ∧ c.s.fresh.isSome ∧
      List.IsChain (@World.NotifyCall .sample "A") [c.s, w1, w2] ∧
      List.IsChain (c.s.KeepsBooks "A") [c.s, w1, w2] := by
  let _ := Gattlib.sample
  obtain ⟨c, hc, hP⟩ := (system .any).reach_of_run_any discoverNotifying (c := ⟨.init, [], none⟩)
    (P := fun c => c.fault.isNone && (c.s.fresh.isSome &&
      ((Op.startNotification "A" "2A19" none none).callWith c.s [.void, .void, .code 0]).any fun p =>
        p.2.log == c.s.log ++ [.enter (.api (.startNotification "A" "2A19" none none)),
          .call (.registerNotification (some 7) (some "A")),
          .ret (.registerNotification (some 7) (some "A")) .void,
          .call (.registerIndication (some 7) (some "A")),
          .ret (.registerIndication (some 7) (some "A")) .void,
          .call (.notificationStart (some 7) 1), .ret (.notificationStart (some 7) 1) (.code 0),
          .exit (.api (.startNotification "A" "2A19" none none)) p.1] &&
        ((Op.stopNotification "A" "2a19" none none).callWith p.2 [.void, .void, .code 0]).any fun q =>
          q.2.log == p.2.log ++ [.enter (.api (.stopNotification "A" "2a19" none none)),
            .call (.registerNotification (some 7) none),
            .ret (.registerNotification (some 7) none) .void,
            .call (.registerIndication (some 7) none),
            .ret (.registerIndication (some 7) none) .void,
            .call (.notificationStop (some 7) 1), .ret (.notificationStop (some 7) 1) (.code 0),
            .exit (.api (.stopNotification "A" "2a19" none none)) q.1])) (by decide)
  simp only [Bool.and_eq_true, Option.isNone_iff_eq_none, Option.any_eq_true, beq_iff_eq,
    Prod.exists] at hP
  obtain ⟨hf, hfresh, r1, w1, h1, hl1, r2, w2, h2, hl2⟩ := hP
  obtain ⟨d, hd, hlive, hdone, hcount, hmarks, hsize⟩ := World.fresh_record hfresh
  have hws : List.IsChain (World.NotifyCall "A") [c.s, w1, w2] :=
    .cons_cons ⟨_, r1, .start .., Op.called_of_with h1⟩
      (.cons_cons ⟨_, r2, .stop .., Op.called_of_with h2⟩ (.singleton _))
  refine ⟨c, w1, w2, hc, hfresh, hws, ?_⟩
  refine (books_kept hc hf hd hlive hdone hcount hmarks hsize hws).mpr
    (.cons_cons ⟨_, hl1, ?_⟩ (.cons_cons ⟨_, hl2, ?_⟩ (.singleton _)))
  all_goals
    simp [Obs.notifyResp, Resp.rc]

/-- gattlib turns a start down: it returns false and leaves its mark, and the next one returns
true without a call of gattlib. -/
theorem books_kept_refused : ∃ (c : Config World Call Resp Fault) (w1 w2 : World)
    (d d' : Device.Details), @Reach .sample .any .init c ∧ c.s.fresh.isSome ∧
      @Op.Called .sample (.startNotification "A" "2a19" none none) c.s (.bool false) w1 ∧
      @Op.Called .sample (.startNotification "A" "2a19" none none) w1 (.bool true) w2 ∧
      c.s.ble.devices["A"]? = some d ∧ d.marked "2a19" = false ∧
      w1.ble.devices["A"]? = some d' ∧ d'.marked "2a19" = true ∧ d'.numRegisteredForNotifs = 0 ∧
      w2.log = w1.log ++ [.enter (.api (.startNotification "A" "2a19" none none)),
        .exit (.api (.startNotification "A" "2a19" none none)) (.bool true)] ∧
      ¬ List.IsChain (c.s.KeepsBooks "A") [c.s, w1, w2] := by
  let _ := Gattlib.sample
  obtain ⟨c, hc, hP⟩ := (system .any).reach_of_run_any discoverNotifying (c := ⟨.init, [], none⟩)
    (P := fun c => c.s.fresh.isSome &&
      ((Op.startNotification "A" "2a19" none none).callWith c.s [.void, .void, .code 1]).any fun p =>
        p.1 = .bool false && (p.2.log.getLast? ==
          some (.exit (.api (.startNotification "A" "2a19" none none)) (.bool false)) &&
        (p.2.ble.devices["A"]?.any fun d =>
          d.marked "2a19" && d.numRegisteredForNotifs == 0)) &&
        ((Op.startNotification "A" "2a19" none none).callWith p.2 []).any fun q =>
          q.1 = .bool true && q.2.log == p.2.log ++
            [.enter (.api (.startNotification "A" "2a19" none none)),
              .exit (.api (.startNotification "A" "2a19" none none)) (.bool true)]) (by decide)
  simp only [Bool.and_eq_true, Option.any_eq_true, beq_iff_eq, Prod.exists, decide_eq_true_eq] at hP
  obtain ⟨hfresh, r1, w1, h1, ⟨rfl, hlast, d', hd', hmark, hzero⟩, r2, w2, h2, rfl, hl2⟩ := hP
  obtain ⟨d, hd, -, -, -, hmarks, -⟩ := World.fresh_record hfresh
  refine ⟨c, w1, w2, d, d', hc, hfresh, Op.called_of_with h1, Op.called_of_with h2, hd,
    hmarks _, hd', hmark, hzero, hl2, fun hk => ?_⟩
  -- the call that returned false has changed the mark
  obtain ⟨-, hsame⟩ := (List.isChain_cons_cons.mp hk).1
  have hmarked := congrFun (hsame _ hlast d d' hd hd').2 "2a19"
  rw [hmark, hmarks] at hmarked
  cases hmarked

end Gattlibpp
