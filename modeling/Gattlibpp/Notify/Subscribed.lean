import Gattlibpp.Act.Wrote
import Gattlibpp.Notify.Marks

/-!
# What a connection is subscribed to

The log says what gattlib has been told on each connection since it came up. The record of the
device, which outlives the connection, says something of the same: its counter, that the
library's handlers are registered, and its marks, for which characteristics notifications are
started. `Sound` says that it is so.
-/

namespace Gattlibpp

open Open Device

/-! ## What gattlib has been told -/

/-- What gattlib has been told on a connection: whether the library's handlers are registered, and
what it notifies of. -/
@[ext]
structure Subscriptions where
  notification : Bool := false
  indication : Bool := false
  started : List GlUuid := []
  deriving DecidableEq, Repr

/-- What an entry of the log changes on the connection `k`. A pointer that comes anew with
`deviceConnected` is a new connection. -/
def Obs.subscribe (k : Conn) (s : Subscriptions) : Obs → Subscriptions
  | .enter (.event _ (.connected (some c))) => if c = k then {} else s
  | .call (.registerNotification (some c) handler) =>
    if c = k then { s with notification := handler.isSome } else s
  | .call (.registerIndication (some c) handler) =>
    if c = k then { s with indication := handler.isSome } else s
  | .call (.notificationStart (some c) g) =>
    if c = k then { s with started := g :: s.started } else s
  | .call (.notificationStop (some c) g) =>
    if c = k then { s with started := s.started.filter (· ≠ g) } else s
  | _ => s

/-- What gattlib has been told on `k` since the connection came up. -/
def subscriptionsOn (log : List Obs) (k : Conn) : Subscriptions := log.foldl (Obs.subscribe k) {}

/-- The connection a call about notifications is for. -/
def Call.toldOn : Call → Option Conn
  | .registerNotification c _ | .registerIndication c _ | .notificationStart c _
  | .notificationStop c _ => c
  | _ => none

/-- The entry says nothing of the connection `k`. -/
def Obs.Aloof (k : Conn) (o : Obs) : Prop := ∀ s, o.subscribe k s = s

theorem Call.aloof {k : Conn} {e : Call} (h : e.toldOn ≠ some k) : (Obs.call e).Aloof k := by
  intro s
  cases e with
  | registerNotification c | registerIndication c | notificationStart c | notificationStop c =>
    cases c with
    | none => rfl
    | some c => exact if_neg fun hc => h (congrArg some hc)
  | _ => rfl

theorem Call.toldOn_eq_none {e : Call} (h : e.notifies = false) : e.toldOn = none := by
  cases e <;> first | rfl | cases h

theorem Move.aloof {k : Conn} {m : Move} (h : ∀ of, m ≠ .event of (.connected (some k))) :
    (Obs.enter m).Aloof k := by
  intro s
  cases m with
  | api op => rfl
  | event of ev =>
    cases ev with
    | connected c =>
      cases c with
      | none => rfl
      | some c => exact if_neg fun hc => h of (by rw [hc])
    | _ => rfl

theorem subscriptionsOn_append (l l' : List Obs) (k : Conn) :
    subscriptionsOn (l ++ l') k = l'.foldl (Obs.subscribe k) (subscriptionsOn l k) := List.foldl_append

theorem subscriptionsOn_aloof {k : Conn} {l : List Obs} (h : ∀ o ∈ l, o.Aloof k) (l0 : List Obs) :
    subscriptionsOn (l0 ++ l) k = subscriptionsOn l0 k := by
  rw [subscriptionsOn_append]
  induction l with
  | nil => rfl
  | cons o l ih =>
    rw [List.foldl_cons, h o List.mem_cons_self]
    exact ih fun o' ho' => h o' (List.mem_cons_of_mem _ ho')

theorem subscriptionsOn_snoc (l : List Obs) (o : Obs) (k : Conn) :
    subscriptionsOn (l ++ [o]) k = o.subscribe k (subscriptionsOn l k) := subscriptionsOn_append l [o] k

/-! ## What the record says of it -/

namespace Device.Details

/-- The two records say the same of their subscriptions. -/
structure SameAccount (d d' : Details) : Prop where
  connection : d'.connection = d.connection
  numRegisteredForNotifs : d'.numRegisteredForNotifs = d.numRegisteredForNotifs
  characteristics : d'.characteristics = d.characteristics

/-- What the record says of its subscriptions is so: marks are counted, the library's handlers are
registered where the counter is not 0, and what is marked is started. -/
structure Sound (d : Details) (log : List Obs) : Prop where
  counted : d.numMarked ≤ d.numRegisteredForNotifs.toNat
  registered : ∀ k, d.connection = some k → d.numRegisteredForNotifs ≠ 0 →
    (subscriptionsOn log k).notification = true ∧ (subscriptionsOn log k).indication = true
  started : ∀ k (key : UUID) (c : Characteristic.Details), d.connection = some k →
    d.characteristics[key]? = some c → c.registeredForNotifs = true →
    c.glUuid ∈ (subscriptionsOn log k).started

variable {d d' : Details} {log log' : List Obs}

theorem SameAccount.refl (d : Details) : d.SameAccount d := ⟨rfl, rfl, rfl⟩

theorem SameAccount.trans {d'' : Details} (h : d.SameAccount d') (h' : d'.SameAccount d'') :
    d.SameAccount d'' where
  connection := h'.connection.trans h.connection
  numRegisteredForNotifs := h'.numRegisteredForNotifs.trans h.numRegisteredForNotifs
  characteristics := h'.characteristics.trans h.characteristics

theorem SameAccount.numMarked (h : d.SameAccount d') : d'.numMarked = d.numMarked := by
  unfold Details.numMarked Details.marked
  rw [h.characteristics]

theorem SameAccount.sound (h : d.SameAccount d') (hs : d.Sound log)
    (hlog : ∀ k, d.connection = some k → subscriptionsOn log' k = subscriptionsOn log k) :
    d'.Sound log' where
  counted := by rw [h.numMarked, h.numRegisteredForNotifs]; exact hs.counted
  registered k hk hz := by
    rw [h.connection] at hk
    rw [hlog k hk]
    exact hs.registered k hk (h.numRegisteredForNotifs ▸ hz)
  started k key c hk hc hr := by
    rw [h.connection] at hk
    rw [hlog k hk]
    exact hs.started k key c hk (h.characteristics ▸ hc) hr

theorem numMarked_eq_zero (h : ∀ k, d.marked k = false) : d.numMarked = 0 :=
  List.countP_eq_zero.mpr fun k _ => by simp [h k]

/-- Where nothing is marked there is no mark. -/
theorem not_marked_of_zero (h : d.numMarked = 0) {key : UUID} {c : Characteristic.Details}
    (hc : d.characteristics[key]? = some c) : c.registeredForNotifs = false := by
  have hmem : key ∈ d.characteristics.keys :=
    Std.TreeMap.mem_keys.mpr (Std.TreeMap.mem_iff_isSome_getElem?.mpr (by simp [hc]))
  have hno := List.countP_eq_zero.mp h key hmem
  rw [marked, hc] at hno
  simpa using hno

/-- A record that says nothing is sound. -/
theorem Sound.of_zero (hz : d.numRegisteredForNotifs = 0) (hm : d.numMarked = 0)
    (log : List Obs) : d.Sound log where
  counted := by rw [hm]; exact Nat.zero_le _
  registered _ _ hne := absurd hz hne
  started _ _ _ _ hc hr := by
    rw [not_marked_of_zero hm hc] at hr
    cases hr

/-- A record without a connection needs its marks counted only. -/
theorem Sound.of_none (hconn : d.connection = none)
    (h : d.numMarked ≤ d.numRegisteredForNotifs.toNat) (log : List Obs) : d.Sound log where
  counted := h
  registered k hk := by rw [hconn] at hk; cases hk
  started k _ _ hk := by rw [hconn] at hk; cases hk

/-- No mark is on, and the counter is 0, where the counter is. -/
theorem Sound.zero (h : d.Sound log) (hz : d.numRegisteredForNotifs = 0) : d.numMarked = 0 := by
  have hc := h.counted
  rw [hz] at hc
  exact Nat.le_zero.mp hc

/-- What is marked is counted. -/
theorem Sound.counter_ne_zero (h : d.Sound log) {key : UUID} {c : Characteristic.Details}
    (hc : d.characteristics[key]? = some c) (hr : c.registeredForNotifs = true) :
    d.numRegisteredForNotifs ≠ 0 := by
  intro hz
  rw [not_marked_of_zero (h.zero hz) hc] at hr
  cases hr

/-- A discovery takes all marks off. -/
theorem numMarked_discovered [Gattlib] (d : Details) (l : List GlCharacteristic) :
    (d.clearCharacteristics.addCharacteristics l).numMarked = 0 := by
  refine numMarked_eq_zero ?_
  refine addCharacteristics_keeps (R := fun d : Details => ∀ k, d.marked k = false)
    (fun d u c _ h k => ?_) (fun k => ?_) l
  · simp only [marked, addCharacteristic, Characteristic.Details.ofGatt, reduceIte,
      Std.TreeMap.getElem?_insertIfNew]
    split
    · rfl
    · exact h k
  · simp [marked, clearCharacteristics]

end Device.Details

end Gattlibpp
