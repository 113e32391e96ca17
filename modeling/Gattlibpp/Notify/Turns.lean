import Gattlibpp.Notify.Marks
import Gattlibpp.Quiet.Basic

/-!
# One start or stop

What `startNotification` and `stopNotification` do on a live connection, with discovery done
or not, as long as nothing comes in between: they are refused, or they find the characteristic
as asked already, or gattlib is told and the counter and the mark follow. The library's handlers
are registered by the start that finds the counter at 0, and cancelled by the stop that takes
it there.
-/

namespace Gattlibpp

open Open

/-! ## What gattlib is told -/

/-- A call of one of them, or its return. -/
def Obs.notifies : Obs → Bool
  | .call e | .ret e _ => e.notifies
  | _ => false

namespace World

/-- From `w` to `w'` gattlib has been told `es` about notifications, and the locks are as they
were. -/
structure Tells (w : World) (es : List Obs) (w' : World) : Prop where
  held : w'.held = w.held
  log : ∃ l, w'.log = w.log ++ l ∧ l.filter (·.notifies) = es

/-- Nothing has been told, and the records are as they were. -/
structure Beside (w w' : World) : Prop where
  devices : w'.ble.devices = w.ble.devices
  tells : w.Tells [] w'

variable {w w' w'' : World} {es es' : List Obs}

theorem Tells.refl (w : World) : w.Tells [] w := ⟨rfl, [], by simp, rfl⟩

theorem Tells.trans (h : w.Tells es w') (h' : w'.Tells es' w'') : w.Tells (es ++ es') w'' := by
  obtain ⟨l, hl, rfl⟩ := h.log
  obtain ⟨l', hl', rfl⟩ := h'.log
  exact ⟨h'.held.trans h.held, l ++ l', by rw [hl', hl, List.append_assoc], List.filter_append ..⟩

theorem Tells.note (w : World) {o : Obs} (ho : o.notifies = false) : w.Tells [] (w.note o) :=
  ⟨rfl, [o], rfl, by simp [ho]⟩

theorem Tells.asked (w : World) (e : Call) (r : Resp) :
    w.Tells (if e.notifies then [.call e, .ret e r] else []) (w.asked e r) := by
  refine ⟨rfl, [.call e, .ret e r], w.asked_log e r, ?_⟩
  cases h : e.notifies <;> simp [Obs.notifies, h]

theorem Tells.updateDevice (w : World) (dev : UUID) (f : Device.Details → Device.Details) :
    w.Tells [] (w.updateDevice dev f) := ⟨rfl, [], by simp, rfl⟩

/-- The library's handlers are registered or cancelled. -/
theorem Tells.handlers (w : World) (c : Option Conn) (handler : Option UUID) (rn ri : Resp) :
    w.Tells [.call (.registerNotification c handler), .ret (.registerNotification c handler) rn,
        .call (.registerIndication c handler), .ret (.registerIndication c handler) ri]
      ((w.asked (.registerNotification c handler) rn).asked (.registerIndication c handler) ri) :=
  (Tells.asked w (.registerNotification c handler) rn).trans
    (.asked _ (.registerIndication c handler) ri)

/-- What is told in a guarded block. -/
theorem Tells.locked {dev : UUID} {w1 : World} (h : { w with held := dev :: w.held }.Tells es w1) :
    w.Tells es { w1 with held := w1.held.tail } := ⟨by simp [h.held], h.log⟩

theorem Beside.refl (w : World) : w.Beside w := ⟨rfl, .refl w⟩

theorem Beside.trans (h : w.Beside w') (h' : w'.Beside w'') : w.Beside w'' :=
  ⟨h'.devices.trans h.devices, h.tells.trans h'.tells⟩

theorem Beside.note (w : World) {o : Obs} (ho : o.notifies = false) : w.Beside (w.note o) :=
  ⟨rfl, .note w ho⟩

theorem Beside.report (w : World) (op : QueuedOp) : w.Beside (w.report op) :=
  ⟨rfl, rfl, [.pushed op], rfl, rfl⟩

theorem Beside.asked (w : World) {e : Call} (he : e.notifies = false) (r : Resp) :
    w.Beside (w.asked e r) := by
  have h := Tells.asked w e r
  rw [he] at h
  exact ⟨rfl, h⟩

theorem Beside.locked {dev : UUID} {w1 : World} (h : { w with held := dev :: w.held }.Beside w1) :
    w.Beside { w1 with held := w1.held.tail } := ⟨h.devices, h.tells.locked⟩

theorem Beside.record {dev : UUID} {d : Device.Details} (h : w.Beside w')
    (hd : w.ble.devices[dev]? = some d) : w'.ble.devices[dev]? = some d :=
  (congrArg (·[dev]?) h.devices).trans hd

/-- A change of the record that is there. -/
theorem record_updateDevice {dev : UUID} {d : Device.Details} (hd : w.ble.devices[dev]? = some d)
    (f : Device.Details → Device.Details) : (w.updateDevice dev f).ble.devices[dev]? = some (f d) := by
  simp [updateDevice, hd]

end World

/-! ## What is done beside -/

section
variable {w : World} {X : World → Prop}

theorem triggerCbIfSet_beside {cb : Callback} {Q : Unit → World → Prop}
    (hk : ∀ w', w.Beside w' → Q () w') : (triggerCbIfSet cb w).Safe quiet Q X := by
  cases cb with
  | none => exact hk w (.refl w)
  | some f =>
    cases f with
    | user id =>
      simp only [triggerCbIfSet, user_quiet]
      exact fun r => hk _ (.asked w rfl r)
    | debugPrint => exact hk w (.refl w)
    | doneCb frame =>
      simp only [triggerCbIfSet, Callback.invokeIfSet, Fn.invoke, doneCb, adapterClose, ble_apply,
        Prog.bind_apply, Out.bind_done, Prog.ite_apply, Prog.pure_apply]
      split
      · simp only [Prog.bind_apply, Prog.get_apply, Out.bind_done, Prog.ite_apply]
        split
        · exact hk _ ⟨rfl, rfl, [], by simp, rfl⟩
        · exact trivial
      · simp only [safe_bind, callOut_quiet, update_apply, Prog.bind_apply, Out.bind_done,
          Prog.pure_apply, Prog.get_apply, Prog.ite_apply, safe_done]
        intro r
        split
        · have hask := World.Beside.asked w (e := .adapterClose w.ble.adapter) rfl r
          exact hk _ ⟨hask.devices, hask.tells.held, hask.tells.log⟩
        · exact trivial

theorem refuse_beside {cb : Callback} {Q : Bool → World → Prop}
    (hk : ∀ w', w.Beside w' → Q false w') :
    ((do triggerCbIfSet cb; return false : Ble Bool) w).Safe quiet Q X := by
  rw [Prog.bind_apply, safe_bind]
  exact triggerCbIfSet_beside hk

theorem ensureAdapterAvail_beside {failcb : Callback} {rest : Ble Bool} {Q : Bool → World → Prop}
    (hfalse : ∀ w', w.Beside w' → Q false w')
    (hk : ∀ w', w.Beside w' → (rest w').Safe quiet Q X) :
    (ensureAdapterAvail failcb rest w).Safe quiet Q X := by
  simp only [ensureAdapterAvail, openAdapterIfRequired, adapterOpen, ble_apply, Prog.bind_apply,
    Out.bind_done, Prog.ite_apply, Prog.pure_apply]
  split
  · exact hk w (.refl w)
  · simp only [adapterOpenFresh, Prog.bind_apply, safe_bind, callOut_quiet, Prog.ite_apply]
    intro r
    have hask : w.Beside (w.asked (.adapterOpen none) r) := .asked w rfl r
    split
    · exact refuse_beside fun w' hw' => hfalse w' (hask.trans hw')
    · exact hk _ ⟨hask.devices, hask.tells.held, hask.tells.log⟩

end

/-! ## What one call does -/

/-- The two records have the same books: they differ in their handlers at most. -/
structure Device.Details.SameBooks (d d' : Device.Details) : Prop where
  id : d'.id = d.id
  connection : d'.connection = d.connection
  discoveryDone : d'.discoveryDone = d.discoveryDone
  services : d'.services = d.services
  epoch : d'.epoch = d.epoch
  characteristics : d'.characteristics = d.characteristics
  numRegisteredForNotifs : d'.numRegisteredForNotifs = d.numRegisteredForNotifs

theorem Device.Details.SameBooks.refl (d : Device.Details) : d.SameBooks d :=
  ⟨rfl, rfl, rfl, rfl, rfl, rfl, rfl⟩

/-- The counter after a start (`on`) or stop that gattlib has answered with `r`. -/
def countTurned (on : Bool) (r : Resp) (n : UInt8) : UInt8 :=
  match on with
  | true => if r.rc = 0 then n + 1 else n
  | false => if n = 0 then 0 else n - 1

/-- How the library's handlers are registered by a start that finds the counter at 0, and
cancelled by a stop that finds it at 1. -/
def Device.Details.handlerCalls (d : Device.Details) (on : Bool) (rn ri : Resp) : List Obs :=
  if d.numRegisteredForNotifs = (if on then 0 else 1) then
    let handler := if on then some d.id else none
    [.call (.registerNotification d.connection handler),
      .ret (.registerNotification d.connection handler) rn,
      .call (.registerIndication d.connection handler),
      .ret (.registerIndication d.connection handler) ri]
  else []

/-- gattlib's UUID that a start or stop for `u` is about, if there is one. -/
def Device.Details.subject [Gattlib] (d : Device.Details) (u : UUID) : Option GlUuid :=
  if d.discoveryDone then ((d.characteristic u).filter (·.supportSubscriptions)).map (·.glUuid)
  else Gattlib.stringToUuid u

/-- What a start (`on`) or stop of `u` on a device with record `d` does: nothing to the books, or
gattlib is told of `g`, whose characteristic is not yet as asked. -/
inductive World.Turns (w : World) (dev u : UUID) (on : Bool) (d : Device.Details) (g : GlUuid) :
    Bool → World → Prop where
  | idle {b : Bool} {w' : World} (d' : Device.Details) : w'.ble.devices[dev]? = some d' →
      d.SameBooks d' → w.Tells [] w' →
      (b = true → ∃ c, d.characteristic u = some c ∧ c.registeredForNotifs = on) →
      Turns w dev u on d g b w'
  | told {w1 w' : World} (d' : Device.Details) (rn ri r : Resp) :
      (∀ c, d.characteristic u = some c → c.registeredForNotifs = (! on)) →
      w'.ble.devices[dev]? = some d' →
      { d.setRegistered u on with
        numRegisteredForNotifs := countTurned on r d.numRegisteredForNotifs }.SameBooks d' →
      w.Tells (d.handlerCalls on rn ri) w1 →
      (w1.asked (.turn on d.connection g) r).Tells [] w' →
      Turns w dev u on d g (decide (r.rc = 0)) w'

namespace World.Turns

variable {w w' w'' : World} {dev u : UUID} {on b : Bool} {d : Device.Details} {g : GlUuid}

/-- Nothing was said before. -/
theorem before (h : w'.Turns dev u on d g b w'') (hw : w.Tells [] w') :
    w.Turns dev u on d g b w'' := by
  cases h with
  | idle d' hd' hs ht hb => exact .idle d' hd' hs (hw.trans ht) hb
  | told d' rn ri r hc hd' hs ht ht' => exact .told d' rn ri r hc hd' hs (hw.trans ht) ht'

/-- Nothing is said after. -/
theorem after (h : w.Turns dev u on d g b w') (hw : w'.Beside w'') :
    w.Turns dev u on d g b w'' := by
  cases h with
  | idle d' hd' hs ht hb => exact .idle d' (hw.record hd') hs (ht.trans hw.tells) hb
  | told d' rn ri r hc hd' hs ht ht' =>
    exact .told d' rn ri r hc (hw.record hd') hs ht (ht'.trans hw.tells)

theorem locked (h : { w with held := dev :: w.held }.Turns dev u on d g b w') :
    w.Turns dev u on d g b { w' with held := w'.held.tail } := by
  cases h with
  | idle d' hd' hs ht hb => exact .idle d' hd' hs ht.locked hb
  | @told w1 _ d' rn ri r hc hd' hs ht ht' =>
    have hheld : w'.held = dev :: w.held := ht'.held.trans ht.held
    have htold : w.Tells (d.handlerCalls on rn ri) { w1 with held := w.held } := ⟨rfl, ht.log⟩
    exact .told d' rn ri r hc hd' hs htold ⟨by rw [hheld]; rfl, ht'.log⟩

end World.Turns

section
variable {w : World} {dev u : UUID} {d : Device.Details} {g : GlUuid} {X : World → Prop}

/-- The counter goes up by one, from 0 as well. -/
theorem countRegistered_turns {Q : Unit → World → Prop} (hd : w.ble.devices[dev]? = some d)
    (hk : ∀ rn ri w', w.Tells (d.handlerCalls true rn ri) w' → w'.ble.devices[dev]? =
      some { d with numRegisteredForNotifs := d.numRegisteredForNotifs + 1 } → Q () w') :
    (countRegistered dev w).Safe quiet Q X := by
  simp only [countRegistered, Prog.bind_apply, record_eq, hd, Out.bind_done, Prog.ite_apply]
  split
  · rename_i hz
    refine hk .void .void _ ?_ (World.record_updateDevice hd _)
    simp only [Device.Details.handlerCalls, if_true, if_neg hz]
    exact .updateDevice ..
  · rename_i hz
    have hz : d.numRegisteredForNotifs = 0 := not_not.mp hz
    simp only [Prog.bind_apply, record_eq, hd, safe_bind, callOut_quiet, World.asked_ble,
      updateRecord, Prog.modify_apply, safe_done]
    intro rn ri
    refine hk rn ri _ ?_ ((World.record_updateDevice (d := d) hd _).trans ?_)
    · simp only [Device.Details.handlerCalls, if_true, if_pos hz]
      exact (World.Tells.handlers w d.connection (some d.id) rn ri).trans (.updateDevice ..)
    · rw [hz]
      rfl

/-- The counter goes down by one, where it can. -/
theorem countUnregistered_turns {Q : Unit → World → Prop} (hd : w.ble.devices[dev]? = some d)
    (hk : ∀ rn ri w', w.Tells (d.handlerCalls false rn ri) w' → w'.ble.devices[dev]? =
      some { d with numRegisteredForNotifs :=
        if d.numRegisteredForNotifs = 0 then 0 else d.numRegisteredForNotifs - 1 } → Q () w') :
    (countUnregistered dev w).Safe quiet Q X := by
  have hd' := World.record_updateDevice hd fun d =>
    { d with numRegisteredForNotifs := d.numRegisteredForNotifs - 1 }
  simp only [countUnregistered, Prog.bind_apply, record_eq, hd, Out.bind_done, Prog.ite_apply]
  split
  · rename_i hz
    rw [if_neg hz] at hk
    simp only [updateRecord, Prog.modify_apply, Out.bind_done, Prog.bind_apply, record_eq, hd',
      Prog.ite_apply]
    have hone : d.numRegisteredForNotifs - 1 = 0 ↔ d.numRegisteredForNotifs = 1 := by
      rw [UInt8.sub_eq_iff_eq_add, UInt8.zero_add]
    split
    · rename_i hlast
      simp only [Prog.bind_apply, record_eq, hd', safe_bind, callOut_quiet, World.asked_ble,
        Prog.pure_apply, safe_done]
      intro rn ri
      refine hk rn ri _ ?_ hd'
      simp only [Device.Details.handlerCalls, Bool.false_eq_true, if_false, if_pos (hone.mp hlast)]
      exact (World.Tells.updateDevice w dev _).trans (.handlers _ d.connection none rn ri)
    · rename_i hlast
      refine hk .void .void _ ?_ hd'
      simp only [Device.Details.handlerCalls, Bool.false_eq_true, if_false,
        if_neg fun h => hlast (hone.mpr h)]
      exact .updateDevice ..
  · rename_i hz
    have hz : d.numRegisteredForNotifs = 0 := not_not.mp hz
    refine hk .void .void w ?_ ?_
    · simp only [Device.Details.handlerCalls, Bool.false_eq_true, if_false, hz]
      exact .refl w
    · rw [if_pos hz, hd, ← hz]

theorem startNotificationBlock_turns {cb fail : Callback} {Q : Bool → World → Prop}
    (hd : w.ble.devices[dev]? = some d) (hk : ∀ b w', w.Turns dev u true d g b w' → Q b w') :
    (startNotificationBlock dev u g cb fail w).Safe quiet Q X := by
  have hbooks : d.SameBooks (d.setNotificationHandler u cb) := ⟨rfl, rfl, rfl, rfl, rfl, rfl, rfl⟩
  simp only [startNotificationBlock, Prog.bind_apply, record_eq, hd, Out.bind_done]
  by_cases hall : ∀ c, d.characteristic u = some c → c.registeredForNotifs = false
  · have hreg : (d.characteristic u).all (! ·.registeredForNotifs) = true := by
      rw [Option.all_eq_true]
      exact fun c hc => by rw [hall c hc]; rfl
    have hd1 := World.record_updateDevice (World.record_updateDevice hd (·.setRegistered u true))
      (·.setNotificationHandler u cb)
    simp only [hreg, reduceIte, Prog.bind_apply, safe_bind]
    refine countRegistered_turns hd1 fun rn ri w1 hw1 hd2 => ?_
    have htold : w.Tells (d.handlerCalls true rn ri) w1 :=
      ((World.Tells.updateDevice w dev (·.setRegistered u true)).trans (.updateDevice ..)).trans hw1
    simp only [startForChar, Prog.bind_apply, record_eq, hd2, Out.bind_done, safe_bind,
      callOut_quiet, Prog.ite_apply]
    intro r
    split
    · rename_i hrc
      simp only [Prog.bind_apply, safe_bind]
      refine triggerCbIfSet_beside fun w2 hw2 => ?_
      rw [show false = decide (r.rc = 0) by simp [hrc]]
      refine hk _ _ (.told _ rn ri r (fun c hc => hall c hc)
        (World.record_updateDevice (hw2.record hd2) _) ?_ htold (hw2.tells.trans (.updateDevice ..)))
      refine ⟨rfl, rfl, rfl, rfl, rfl, rfl, ?_⟩
      simp only [countTurned, if_neg hrc]
      exact UInt8.add_sub_cancel ..
    · rename_i hrc
      have hrc : r.rc = 0 := not_not.mp hrc
      rw [show true = decide (r.rc = 0) by simp [hrc]]
      refine hk _ _ (.told _ rn ri r (fun c hc => hall c hc) hd2 ?_ htold (.refl _))
      refine ⟨rfl, rfl, rfl, rfl, rfl, rfl, ?_⟩
      simp only [countTurned, if_pos hrc]
      rfl
  · obtain ⟨c, hc⟩ := not_forall.mp hall
    obtain ⟨hc, hr⟩ := Classical.not_imp.mp hc
    have hr : c.registeredForNotifs = true := by simpa using hr
    simp only [hc, Option.all_some, hr, Bool.not_true, Bool.false_eq_true, if_false]
    exact hk true _ (.idle _ (World.record_updateDevice hd _) hbooks (.updateDevice ..)
      fun _ => ⟨c, hc, hr⟩)

theorem stopNotificationBlock_turns {fail : Callback} {Q : Bool → World → Prop}
    (hd : w.ble.devices[dev]? = some d) (hk : ∀ b w', w.Turns dev u false d g b w' → Q b w') :
    (stopNotificationBlock dev u g fail w).Safe quiet Q X := by
  simp only [stopNotificationBlock, Prog.bind_apply, record_eq, hd, Out.bind_done]
  by_cases hall : ∀ c, d.characteristic u = some c → c.registeredForNotifs = true
  · have hreg : (d.characteristic u).all (·.registeredForNotifs) = true := by
      rw [Option.all_eq_true]
      exact fun c hc => hall c hc
    have hd1 := World.record_updateDevice hd (·.setRegistered u false)
    simp only [hreg, reduceIte, Prog.bind_apply, safe_bind]
    refine countUnregistered_turns hd1 fun rn ri w1 hw1 hd2 => ?_
    have htold : w.Tells (d.handlerCalls false rn ri) w1 :=
      (World.Tells.updateDevice w dev (·.setRegistered u false)).trans hw1
    simp only [stopForChar, Prog.bind_apply, record_eq, hd2, Out.bind_done, safe_bind,
      callOut_quiet, Prog.ite_apply]
    intro r
    have hsame (w2 : World) (hw2 : (w1.asked (.notificationStop d.connection g) r).Beside w2) :
        w.Turns dev u false d g (decide (r.rc = 0)) w2 :=
      .told _ rn ri r (fun c hc => hall c hc) (hw2.record hd2) ⟨rfl, rfl, rfl, rfl, rfl, rfl, rfl⟩
        htold hw2.tells
    split
    · rename_i hrc
      refine refuse_beside fun w2 hw2 => ?_
      rw [show false = decide (r.rc = 0) by simp [hrc]]
      exact hk _ _ (hsame w2 hw2)
    · rename_i hrc
      rw [show true = decide (r.rc = 0) by simpa using hrc]
      exact hk _ _ (hsame _ (.refl _))
  · obtain ⟨c, hc⟩ := not_forall.mp hall
    obtain ⟨hc, hr⟩ := Classical.not_imp.mp hc
    have hr : c.registeredForNotifs = false := by simpa using hr
    simp only [hc, Option.all_some, hr, Bool.false_eq_true, if_false]
    exact hk true _ (.idle d hd (.refl d) (.refl w) fun _ => ⟨c, hc, hr⟩)

/-- What `startNotification` and `stopNotification` do before their guarded block. -/
theorem forChar_beside [Gattlib] {fail : Callback} {k : GlUuid → Ble Bool} {Q : Bool → World → Prop}
    (hd : w.ble.devices[dev]? = some d) (hconn : d.connection.isSome = true)
    (hfalse : ∀ w', w.Beside w' → Q false w')
    (hk : ∀ w' g, w.Beside w' → d.subject u = some g → (k g w').Safe quiet Q X) :
    (ensureAdapterAvail fail (do
      if ! (← ble).isConnected dev then
        triggerCbIfSet fail
        return false
      else
        match ← getUUIDForCharOrFail dev u (·.supportSubscriptions) fail with
        | none => return false
        | some charUuid => k charUuid) w).Safe quiet Q X := by
  refine ensureAdapterAvail_beside hfalse fun w1 hw1 => ?_
  have hd1 := hw1.record hd
  have hc1 : w1.ble.isConnected dev = true :=
    (w1.ble.isConnected_iff dev).mpr ⟨_, hd1, hconn⟩
  simp only [ble_apply, Prog.bind_apply, Out.bind_done, Prog.ite_apply, hc1, Bool.not_true,
    Bool.false_eq_true, if_false, safe_bind, getUUIDForCharOrFail, record_eq, hd1]
  split
  · rename_i hdone
    refine locked_quiet fun _ => ?_
    simp only [Prog.bind_apply, record_eq, hd1, Out.bind_done]
    have hgone : ((do triggerCbIfSet fail; return none : Ble (Option GlUuid))
        { w1 with held := dev :: w1.held }).Safe quiet
        (fun g w' => (match g with
          | none => pure false
          | some charUuid => k charUuid) { w' with held := w'.held.tail } |>.Safe quiet Q X)
        (fun w' => X { w' with held := w'.held.tail }) := by
      rw [Prog.bind_apply, safe_bind]
      exact triggerCbIfSet_beside fun w2 hw2 => hfalse _ (hw1.trans hw2.locked)
    cases hc : d.characteristic u with
    | none => exact hgone
    | some c =>
      simp only [Prog.ite_apply]
      split
      · exact hgone
      · rename_i hsupp
        refine hk w1 c.glUuid hw1 ?_
        rw [Device.Details.subject, if_pos hdone, hc, Option.filter_some_pos (by simpa using hsupp)]
        rfl
  · rename_i hdone
    cases hs : Gattlib.stringToUuid u with
    | none =>
      simp only [Prog.bind_apply, safe_bind]
      exact triggerCbIfSet_beside fun w2 hw2 => hfalse _ (hw1.trans hw2)
    | some g => exact hk w1 g hw1 (by rw [Device.Details.subject, if_neg hdone, hs])

end

/-- A start (`on`) or stop of notifications of `dev` for `u`. -/
inductive Op.Turning (dev u : UUID) : Bool → Op → Prop where
  | start (cb fail : Callback) : Turning dev u true (.startNotification dev u cb fail)
  | stop (succ fail : Callback) : Turning dev u false (.stopNotification dev u succ fail)

section
variable [Gattlib] {w w' : World} {dev u : UUID} {d : Device.Details} {on : Bool} {op : Op}

/-- What an operation of the two does on a live connection. -/
theorem Op.Turning.turns {X : World → Prop} (hop : op.Turning dev u on)
    (hd : w.ble.devices[dev]? = some d) (hconn : d.connection.isSome = true) :
    (op.run w).Safe quiet (fun r w' => ∃ b, r = .bool b ∧ ((b = false ∧ w.Beside w') ∨
      (dev ∉ w.held ∧ ∃ g, d.subject u = some g ∧ w.Turns dev u on d g b w'))) X := by
  cases hop with
  | start cb fail =>
    simp only [Op.run, Prog.bind_apply, safe_bind]
    refine forChar_beside hd hconn (fun w1 hw1 => ⟨false, rfl, .inl ⟨rfl, hw1⟩⟩)
      fun w1 g hw1 hg => locked_quiet fun hheld => ?_
    refine startNotificationBlock_turns (hw1.record hd) fun b w2 hw2 => ⟨b, rfl, .inr ?_⟩
    exact ⟨hw1.tells.held ▸ hheld, g, hg, hw2.locked.before hw1.tells⟩
  | stop succ fail =>
    simp only [Op.run, Prog.bind_apply, safe_bind]
    refine forChar_beside hd hconn (fun w1 hw1 => ⟨false, rfl, .inl ⟨rfl, hw1⟩⟩)
      fun w1 g hw1 hg => ?_
    simp only [Prog.bind_apply, safe_bind]
    refine locked_quiet fun hheld => ?_
    refine stopNotificationBlock_turns (hw1.record hd) fun b w2 hw2 => ?_
    have hheld : dev ∉ w.held := hw1.tells.held ▸ hheld
    have hw2 := hw2.locked.before hw1.tells
    cases b with
    | false => exact ⟨false, rfl, .inr ⟨hheld, g, hg, hw2⟩⟩
    | true =>
      cases succ with
      | none => exact ⟨true, rfl, .inr ⟨hheld, g, hg, hw2⟩⟩
      | some f => exact ⟨true, rfl, .inr ⟨hheld, g, hg, hw2.after (.report _ _)⟩⟩

/-- What a call of the two does. -/
theorem Op.Turning.called {r : Ret} (hop : op.Turning dev u on) (h : op.Called w r w')
    (hd : w.ble.devices[dev]? = some d) (hconn : d.connection.isSome = true) :
    ∃ b, r = .bool b ∧ w'.log.getLast? = some (.exit (.api op) (.bool b)) ∧
      ((b = false ∧ w.Beside w') ∨
        (dev ∉ w.held ∧ ∃ g, d.subject u = some g ∧ w.Turns dev u on d g b w')) := by
  obtain ⟨w1, hx, rfl⟩ := h
  have hd0 : (w.note (.enter (.api op))).ble.devices[dev]? = some d := hd
  have hsafe := hop.turns (X := fun _ => True) hd0 hconn
  obtain ⟨b, rfl, ht⟩ : ∃ b, r = .bool b ∧ _ := hx.post hsafe
  have hin : w.Beside (w.note (.enter (.api op))) := .note w rfl
  refine ⟨b, rfl, by simp, ?_⟩
  rcases ht with ⟨rfl, hw⟩ | ⟨hheld, g, hg, ht⟩
  · exact .inl ⟨rfl, (hin.trans hw).trans (.note w1 rfl)⟩
  · exact .inr ⟨hheld, g, hg, (ht.before hin.tells).after (.note w1 rfl)⟩

end

end Gattlibpp
