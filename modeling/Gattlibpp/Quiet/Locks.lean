import Gattlibpp.Quiet.Basic
import Gattlibpp.Pipeline.Delivery

/-!
# User functions and device locks

Where a read, a write or an operation on notifications calls a function of the user while it
holds the lock of the device: its failure callback, when the characteristic is missing or does
not support the operation, and when gattlib refuses to start or stop the notifications.
-/

namespace Gattlibpp

open Open

/-- If a function of the user is being called, the lock of `dev` is not held. -/
def World.Unlocked (dev : UUID) (w : World) : Prop :=
  ∀ f arg role, w.calls.head? = some (.user f arg role) → dev ∉ w.held

/-- Every call is made with the lock of `dev` free, if it is a call of a user function. -/
abbrev SafeUnlocked (dev : UUID) {α : Type} (o : Out World Call Resp Fault α) : Prop :=
  o.Safe (quietly (World.Unlocked dev)) (fun _ _ => True) fun _ => True

/-- The failure callback may be called. -/
def World.MayFail (w : World) (dev : UUID) (fail : Callback) : Prop :=
  fail.isUser = true → dev ∉ w.held

section
variable {α : Type} {dev u : UUID} {fail : Callback} {w : World}

/-- A call that is not of a user function. -/
theorem gattlib_unlocked {e : Call} {Q : Resp → World → Prop} {X : World → Prop}
    (he : ∀ f arg role, e ≠ .user f arg role) :
    (callOut e w).Safe (quietly (World.Unlocked dev)) Q X ↔ ∀ r, Q r (w.asked e r) := by
  rw [callOut_quietly]
  refine and_iff_right fun f arg role hc => ?_
  cases hc
  exact absurd rfl (he f arg role)

theorem refuse_unlocked {Q : World → Prop} (hQ : ∀ w', Q w') :
    (triggerCbIfSet fail w).Safe (quietly (World.Unlocked dev)) (fun _ => Q) (fun _ => True) ↔
      w.MayFail dev fail := by
  obtain rfl : Q = fun _ => True := funext fun w' => eq_true (hQ w')
  rw [triggerCbIfSet]
  cases fail with
  | none => simp [World.MayFail, Callback.isUser, Callback.invokeIfSet]
  | some f =>
    cases f with
    | user n =>
      simp only [Callback.invokeIfSet, Fn.invoke, Prog.bind_apply, safe_bind, callOut_quietly,
        Prog.pure_apply, safe_done, implies_true, and_true, World.MayFail, Callback.isUser,
        forall_const]
      constructor
      · exact fun h => h n .nothing .refused rfl
      · exact fun h _ _ _ _ => h
    | debugPrint =>
      simp [World.MayFail, Callback.isUser, Callback.invokeIfSet, Fn.invoke]
    | doneCb frame =>
      simp only [World.MayFail, Callback.isUser, Bool.false_eq_true, false_implies, iff_true,
        Callback.invokeIfSet, Fn.invoke, doneCb, adapterClose, ble_apply, Prog.bind_apply,
        Out.bind_done, Prog.ite_apply, Prog.pure_apply]
      split
      · simp only [Prog.bind_apply, Out.bind_done, Prog.get_apply, Prog.ite_apply]
        split <;> trivial
      · rw [safe_bind, safe_bind, gattlib_unlocked (by rintro _ _ _ ⟨⟩)]
        intro r
        simp only [Prog.bind_apply, update_apply, Out.bind_done, Prog.pure_apply, safe_done,
          Prog.get_apply, Prog.ite_apply]
        split <;> trivial

theorem ensureAdapterAvail_unlocked {rest : Ble Bool} {R : Prop}
    (hrest : ∀ w', w'.ble.devices = w.ble.devices → w'.held = w.held →
      (SafeUnlocked dev (rest w') ↔ R)) :
    SafeUnlocked dev (ensureAdapterAvail fail rest w) ↔
      (w.ble.adapterIsOpen = false → w.MayFail dev fail) ∧ R := by
  cases ho : w.ble.adapterIsOpen with
  | true => simpa [ensureAdapterAvail, openAdapterIfRequired, ho] using hrest w rfl rfl
  | false =>
    simp only [ensureAdapterAvail, openAdapterIfRequired, adapterOpen, adapterOpenFresh, ble_apply,
      Prog.bind_apply, Out.bind_done, Prog.ite_apply, ho, Bool.false_eq_true, if_false, SafeUnlocked,
      safe_bind]
    rw [gattlib_unlocked (by rintro _ _ _ ⟨⟩)]
    have hrefuse (r : Resp) : SafeUnlocked dev ((do triggerCbIfSet fail; return false : Ble Bool)
        (w.asked (.adapterOpen none) r)) ↔ w.MayFail dev fail := by
      rw [SafeUnlocked, Prog.bind_apply, safe_bind]
      exact refuse_unlocked fun _ => trivial
    have hopen (r : Resp) := hrest ((w.asked (.adapterOpen none) r).updateBle fun b =>
      { b with adapter := r.adapter?, adapterName := "", adapterIsOpen := true }) rfl rfl
    constructor
    · intro h
      refine ⟨fun _ => ?_, ?_⟩
      · exact (hrefuse (.code 1)).mp (h (.code 1))
      · exact (hopen (.adapter 0)).mp (h (.adapter 0))
    · rintro ⟨hfail, hR⟩ r
      split
      · exact (hrefuse r).mpr (hfail trivial)
      · exact (hopen r).mpr hR

/-- The check for a connection at the head of an operation. -/
theorem connected_unlocked {p : Ble Bool} :
    SafeUnlocked dev ((do
      if ! (← ble).isConnected dev then
        triggerCbIfSet fail
        return false
      else p : Ble Bool) w) ↔
      (w.ble.isConnected dev = false → w.MayFail dev fail) ∧
        (w.ble.isConnected dev = true → SafeUnlocked dev (p w)) := by
  simp only [ble_apply, Prog.bind_apply, Out.bind_done, Prog.ite_apply]
  cases hc : w.ble.isConnected dev with
  | false => simpa using refuse_unlocked fun _ => trivial
  | true => simp

/-- A guarded block, and what follows it. -/
theorem locked_unlocked {p : Ble α} {Q : α → World → Prop} {X : World → Prop} :
    (locked dev p w).Safe (quietly (World.Unlocked dev)) Q X ↔ (dev ∉ w.held →
      (p { w with held := dev :: w.held }).Safe (quietly (World.Unlocked dev))
        (fun a w' => Q a { w' with held := w'.held.tail })
        fun w' => X { w' with held := w'.held.tail }) := by
  simp only [locked, Prog.bind_apply, Prog.get_apply, Out.bind_done, Prog.ite_apply,
    Prog.halt_apply]
  split
  · rename_i hd
    exact iff_of_true trivial fun hn => absurd hd hn
  · rename_i hd
    simp only [Prog.within, safe_leave, hd, not_false_eq_true, forall_const]

section
variable [Gattlib] {d : Device.Details} {supp : Characteristic.Details → Bool}

/-- The record has no such characteristic that supports the operation. -/
def Device.Details.lacks (d : Device.Details) (u : UUID)
    (supp : Characteristic.Details → Bool) : Bool :=
  (d.characteristic u).all (! supp ·)

theorem lookup_done {k : Option GlUuid → Ble Bool} {R : Prop} (hd : w.ble.devices[dev]? = some d)
    (hdd : d.discoveryDone = true) (hnone : ∀ w', SafeUnlocked dev (k none w'))
    (hsome : ∀ g, SafeUnlocked dev (k (some g) w) ↔ R) :
    SafeUnlocked dev ((getUUIDForCharOrFail dev u supp fail >>= k) w) ↔
      (dev ∉ w.held → if d.lacks u supp then fail.isUser = false else R) := by
  have hrec : record dev w = .done w d := by rw [record_eq, hd]
  have hrec' : record dev { w with held := dev :: w.held } =
      .done { w with held := dev :: w.held } d := by
    rw [record_eq]
    simp only [hd]
  simp only [SafeUnlocked, getUUIDForCharOrFail, Prog.bind_apply, hrec, Out.bind_done, hdd,
    Prog.ite_apply, if_true, safe_bind, locked_unlocked, hrec']
  refine forall_congr' fun _ => ?_
  have hrefuse : (triggerCbIfSet fail { w with held := dev :: w.held }).Safe
      (quietly (World.Unlocked dev))
      (fun _ w' => SafeUnlocked dev (k none { w' with held := w'.held.tail })) (fun _ => True) ↔
      fail.isUser = false := by
    rw [refuse_unlocked fun _ => hnone _]
    simp [World.MayFail]
  cases hc : d.characteristic u with
  | none =>
    simpa [Device.Details.lacks, hc] using hrefuse
  | some c =>
    cases hs : supp c with
    | false =>
      simpa [Device.Details.lacks, hc, hs] using hrefuse
    | true =>
      simpa [Device.Details.lacks, hc, hs] using hsome c.glUuid

theorem lookup_blind {k : Option GlUuid → Ble Bool} {R : Prop} (hd : w.ble.devices[dev]? = some d)
    (hdd : d.discoveryDone = false) (hnone : ∀ w', SafeUnlocked dev (k none w'))
    (hsome : ∀ g, SafeUnlocked dev (k (some g) w) ↔ R) :
    SafeUnlocked dev ((getUUIDForCharOrFail dev u supp fail >>= k) w) ↔
      if Gattlib.stringToUuid u = none then w.MayFail dev fail else R := by
  have hrec : record dev w = .done w d := by rw [record_eq, hd]
  simp only [SafeUnlocked, getUUIDForCharOrFail, Prog.bind_apply, hrec, Out.bind_done, hdd,
    Prog.ite_apply, Bool.false_eq_true, if_false, safe_bind]
  cases Gattlib.stringToUuid u with
  | none =>
    simpa using refuse_unlocked hnone
  | some g => simpa using hsome g

end

/-! ## Notifications -/

theorem World.updateDevice_isSome (w : World) (dev : UUID) (f : Device.Details → Device.Details)
    (h : (w.ble.devices[dev]?).isSome) : ((w.updateDevice dev f).ble.devices[dev]?).isSome := by
  simpa [World.updateDevice, Std.TreeMap.getElem?_modify] using h

/-- Follow a record pointer that is there. -/
theorem record_unlocked {Q : Device.Details → World → Prop} {X : World → Prop} {R : Prop}
    (h : (w.ble.devices[dev]?).isSome) (hQ : ∀ d, Q d w ↔ R) :
    (record dev w).Safe (quietly (World.Unlocked dev)) Q X ↔ R := by
  obtain ⟨d, hd⟩ := Option.isSome_iff_exists.mp h
  rw [record_eq, hd]
  exact hQ d

theorem asked_unlocked {e : Call} {Q : Resp → World → Prop} {X : World → Prop} {R : Prop}
    (he : ∀ f arg role, e ≠ .user f arg role) (hQ : ∀ r, Q r (w.asked e r) ↔ R) :
    (callOut e w).Safe (quietly (World.Unlocked dev)) Q X ↔ R := by
  rw [gattlib_unlocked he]
  exact ⟨fun h => (hQ .void).mp (h .void), fun h r => (hQ r).mpr h⟩

theorem countRegistered_unlocked {Q : World → Prop} {X : World → Prop} {R : Prop}
    (hd : (w.ble.devices[dev]?).isSome)
    (hQ : ∀ w', w'.held = w.held → (w'.ble.devices[dev]?).isSome → (Q w' ↔ R)) :
    (countRegistered dev w).Safe (quietly (World.Unlocked dev)) (fun _ => Q) X ↔ R := by
  simp only [countRegistered, Prog.bind_apply, safe_bind]
  refine record_unlocked hd fun d => ?_
  rw [Prog.ite_apply]
  split
  · exact hQ _ rfl (w.updateDevice_isSome dev _ hd)
  · simp only [Prog.bind_apply, safe_bind]
    refine record_unlocked hd fun d1 => record_unlocked hd fun d2 => ?_
    refine asked_unlocked (by rintro _ _ _ ⟨⟩) fun r => record_unlocked hd fun d3 => ?_
    refine asked_unlocked (by rintro _ _ _ ⟨⟩) fun r' => ?_
    exact hQ _ rfl (World.updateDevice_isSome _ dev _ hd)

theorem countUnregistered_unlocked {Q : World → Prop} {X : World → Prop} {R : Prop}
    (hd : (w.ble.devices[dev]?).isSome)
    (hQ : ∀ w', w'.held = w.held → (w'.ble.devices[dev]?).isSome → (Q w' ↔ R)) :
    (countUnregistered dev w).Safe (quietly (World.Unlocked dev)) (fun _ => Q) X ↔ R := by
  simp only [countUnregistered, Prog.bind_apply, safe_bind]
  refine record_unlocked hd fun d => ?_
  rw [Prog.ite_apply]
  split
  · have hd' := w.updateDevice_isSome dev (fun d =>
      { d with numRegisteredForNotifs := d.numRegisteredForNotifs - 1 }) hd
    simp only [Prog.bind_apply, safe_bind]
    refine record_unlocked hd' fun d1 => ?_
    rw [Prog.ite_apply]
    split
    · simp only [Prog.bind_apply, safe_bind]
      refine record_unlocked hd' fun d2 => asked_unlocked (by rintro _ _ _ ⟨⟩) fun r => ?_
      refine record_unlocked hd' fun d3 => asked_unlocked (by rintro _ _ _ ⟨⟩) fun r' => ?_
      exact hQ _ rfl hd'
    · exact hQ _ rfl hd'
  · exact hQ _ rfl hd

/-- gattlib may refuse the call, and then the callback is called. -/
theorem answer_unlocked {e : Call} {p : Ble Bool} {Q : Bool → World → Prop}
    (he : ∀ f arg role, e ≠ .user f arg role) (hQ : ∀ b w', Q b w')
    (hp : ∀ w', (p w').Safe (quietly (World.Unlocked dev)) Q fun _ => True) :
    ((do
      let r ← callOut e
      if r.rc ≠ 0 then
        triggerCbIfSet fail
        p
      else return true : Ble Bool) w).Safe (quietly (World.Unlocked dev)) Q (fun _ => True) ↔
      w.MayFail dev fail := by
  rw [Prog.bind_apply, safe_bind, gattlib_unlocked he]
  constructor
  · intro h
    have hr := h (.code 1)
    rw [if_pos (by decide), Prog.bind_apply, safe_bind] at hr
    exact (refuse_unlocked (w := w.asked e (.code 1)) hp).mp hr
  · intro h r
    split
    · rw [Prog.bind_apply, safe_bind]
      exact (refuse_unlocked (w := w.asked e r) hp).mpr h
    · exact hQ ..

theorem startForChar_unlocked {g : GlUuid} {Q : Bool → World → Prop}
    (hd : (w.ble.devices[dev]?).isSome) (hQ : ∀ b w', Q b w') :
    (startForChar dev g fail w).Safe (quietly (World.Unlocked dev)) Q (fun _ => True) ↔
      w.MayFail dev fail := by
  rw [startForChar, Prog.bind_apply, safe_bind]
  refine record_unlocked hd fun d => ?_
  exact answer_unlocked (by rintro _ _ _ ⟨⟩) hQ fun w' => hQ false _

theorem stopForChar_unlocked {g : GlUuid} {Q : Bool → World → Prop}
    (hd : (w.ble.devices[dev]?).isSome) (hQ : ∀ b w', Q b w') :
    (stopForChar dev g fail w).Safe (quietly (World.Unlocked dev)) Q (fun _ => True) ↔
      w.MayFail dev fail := by
  rw [stopForChar, Prog.bind_apply, safe_bind]
  refine record_unlocked hd fun d => ?_
  exact answer_unlocked (by rintro _ _ _ ⟨⟩) hQ fun w' => hQ false w'

theorem startNotificationBlock_unlocked {g : GlUuid} {cb : Callback} {d : Device.Details}
    {Q : Bool → World → Prop} (hd : w.ble.devices[dev]? = some d) (hQ : ∀ b w', Q b w') :
    (startNotificationBlock dev u g cb fail w).Safe (quietly (World.Unlocked dev)) Q
      (fun _ => True) ↔
      ((d.characteristic u).all (! ·.registeredForNotifs) = true → w.MayFail dev fail) := by
  have hrec : record dev w = .done w d := by rw [record_eq, hd]
  have hsome : (w.ble.devices[dev]?).isSome := by rw [hd]; rfl
  rw [startNotificationBlock, Prog.bind_apply, hrec, Out.bind_done]
  cases (d.characteristic u).all fun c => ! c.registeredForNotifs with
  | true =>
    simp only [if_true, forall_const, updateRecord, Prog.bind_apply, Prog.modify_apply,
      Out.bind_done, safe_bind]
    refine countRegistered_unlocked (World.updateDevice_isSome _ dev _
      (w.updateDevice_isSome dev _ hsome)) fun w' hheld hs => ?_
    rw [startForChar_unlocked hs hQ, World.MayFail, hheld]
    rfl
  | false => exact iff_of_true (hQ true _) (by simp)

theorem stopNotificationBlock_unlocked {g : GlUuid} {d : Device.Details} {Q : Bool → World → Prop}
    (hd : w.ble.devices[dev]? = some d) (hQ : ∀ b w', Q b w') :
    (stopNotificationBlock dev u g fail w).Safe (quietly (World.Unlocked dev)) Q
      (fun _ => True) ↔
      ((d.characteristic u).all (·.registeredForNotifs) = true → w.MayFail dev fail) := by
  have hrec : record dev w = .done w d := by rw [record_eq, hd]
  have hsome : (w.ble.devices[dev]?).isSome := by rw [hd]; rfl
  rw [stopNotificationBlock, Prog.bind_apply, hrec, Out.bind_done]
  cases (d.characteristic u).all fun c => c.registeredForNotifs with
  | true =>
    simp only [if_true, forall_const, updateRecord, Prog.bind_apply, Prog.modify_apply,
      Out.bind_done, safe_bind]
    refine countUnregistered_unlocked (w.updateDevice_isSome dev _ hsome) fun w' hheld hs => ?_
    rw [stopForChar_unlocked hs hQ, World.MayFail, hheld]
    rfl
  | false => exact iff_of_true (hQ true _) (by simp)

/-! ## The result -/

section
variable [Gattlib] {supp : Characteristic.Details → Bool} {asks : Device.Details → Bool}

/-- Where the failure callback of an operation on the characteristic `u` of `dev` may be called
under the lock. `asks` says whether gattlib is asked inside the lock. -/
inductive World.FailsLocked (w : World) (dev u : UUID) (supp : Characteristic.Details → Bool)
    (asks : Device.Details → Bool) : Prop where
  /-- The caller holds the lock already. -/
  | before : dev ∈ w.held → w.ble.adapterIsOpen = false ∨ w.ble.isConnected dev = false →
      World.FailsLocked w dev u supp asks
  | blind (d : Device.Details) : dev ∈ w.held → w.ble.isConnected dev = true →
      w.ble.devices[dev]? = some d → d.discoveryDone = false → Gattlib.stringToUuid u = none →
      World.FailsLocked w dev u supp asks
  /-- The lookup takes the lock and fails. -/
  | lookup (d : Device.Details) : dev ∉ w.held → w.ble.isConnected dev = true →
      w.ble.devices[dev]? = some d → d.discoveryDone = true → d.lacks u supp = true →
      World.FailsLocked w dev u supp asks
  /-- The operation takes the lock and gattlib refuses. -/
  | refused (d : Device.Details) : dev ∉ w.held → w.ble.isConnected dev = true →
      w.ble.devices[dev]? = some d → (d.discoveryDone = true → d.lacks u supp = false) →
      (d.discoveryDone = false → (Gattlib.stringToUuid u).isSome = true) → asks d = true →
      World.FailsLocked w dev u supp asks

/-- The failures of the operation outside the lock, of the lookup, and of gattlib. -/
def World.FailsFree (w : World) (dev u : UUID) (fail : Callback)
    (supp : Characteristic.Details → Bool) (asks : Device.Details → Bool) : Prop :=
  (w.ble.isConnected dev = false → w.MayFail dev fail) ∧
    (w.ble.isConnected dev = true → ∀ d, w.ble.devices[dev]? = some d →
      (d.discoveryDone = true → dev ∉ w.held →
        if d.lacks u supp then fail.isUser = false else asks d = true → fail.isUser = false) ∧
      (d.discoveryDone = false → if Gattlib.stringToUuid u = none then w.MayFail dev fail
        else dev ∉ w.held → asks d = true → fail.isUser = false))

theorem World.failsFree_iff : (w.ble.adapterIsOpen = false → w.MayFail dev fail) ∧
    w.FailsFree dev u fail supp asks ↔ ¬ (fail.isUser = true ∧ w.FailsLocked dev u supp asks) := by
  constructor
  · rintro ⟨hopen, hconn, hrec⟩ ⟨hu, hfails⟩
    cases hfails with
    | before hheld hb =>
      rcases hb with hb | hb
      · exact hopen hb hu hheld
      · exact hconn hb hu hheld
    | blind d hheld hc hd hdd hn =>
      have hcond := (hrec hc d hd).2 hdd
      rw [if_pos hn] at hcond
      exact hcond hu hheld
    | lookup d hheld hc hd hdd hl =>
      have hcond := (hrec hc d hd).1 hdd hheld
      rw [if_pos hl, hu] at hcond
      cases hcond
    | refused d hheld hc hd hl hn hasks =>
      have hnot : fail.isUser = false := by
        cases hdd : d.discoveryDone with
        | true =>
          have hcond := (hrec hc d hd).1 hdd hheld
          rw [if_neg (by simp [hl hdd])] at hcond
          exact hcond hasks
        | false =>
          have hcond := (hrec hc d hd).2 hdd
          rw [if_neg (Option.isSome_iff_ne_none.mp (hn hdd))] at hcond
          exact hcond hheld hasks
      rw [hu] at hnot
      cases hnot
  · intro h
    refine ⟨fun ho hu hheld => h ⟨hu, .before hheld (.inl ho)⟩,
      fun hc hu hheld => h ⟨hu, .before hheld (.inr hc)⟩, fun hc d hd => ⟨fun hdd hheld => ?_,
      fun hdd => ?_⟩⟩
    · split
      · rename_i hl
        exact Bool.eq_false_iff.mpr fun hu => h ⟨hu, .lookup d hheld hc hd hdd hl⟩
      · rename_i hl
        refine fun hasks => Bool.eq_false_iff.mpr fun hu => h ⟨hu, ?_⟩
        exact .refused d hheld hc hd (fun _ => by simpa using hl) (by simp [hdd]) hasks
    · split
      · rename_i hn
        exact fun hu hheld => h ⟨hu, .blind d hheld hc hd hdd hn⟩
      · rename_i hn
        refine fun hheld hasks => Bool.eq_false_iff.mpr fun hu => h ⟨hu, ?_⟩
        exact .refused d hheld hc hd (by simp [hdd]) (fun _ => Option.isSome_iff_ne_none.mpr hn) hasks

/-- An operation that looks up a characteristic and goes on with `k`. -/
theorem operation_unlocked {k : GlUuid → Ble Bool}
    (hk : ∀ w' d g, w'.ble.devices[dev]? = some d → (SafeUnlocked dev (k g w') ↔
      (dev ∉ w'.held → asks d = true → fail.isUser = false))) :
    SafeUnlocked dev (ensureAdapterAvail fail (do
      if ! (← ble).isConnected dev then
        triggerCbIfSet fail
        return false
      else
        match ← getUUIDForCharOrFail dev u supp fail with
        | none => return false
        | some g => k g) w) ↔ ¬ (fail.isUser = true ∧ w.FailsLocked dev u supp asks) := by
  rw [← World.failsFree_iff]
  refine ensureAdapterAvail_unlocked fun w' hdev hheld => ?_
  have hconn : w'.ble.isConnected dev = w.ble.isConnected dev := by
    simp only [BLECentral.isConnected, BLECentral.deviceDetails, hdev]
  have hmay : w'.MayFail dev fail ↔ w.MayFail dev fail := by rw [World.MayFail, hheld]; rfl
  rw [connected_unlocked, hconn, hmay]
  refine and_congr_right fun _ => imp_congr_right fun hc => ?_
  obtain ⟨d, hd, -⟩ := (w.ble.isConnected_iff dev).mp hc
  have hd' : w'.ble.devices[dev]? = some d := by rw [hdev, hd]
  simp only [hd, Option.some.injEq, forall_eq']
  cases hdd : d.discoveryDone with
  | true =>
    refine (lookup_done (k := fun
      | none => return false
      | some g => k g) hd' hdd (fun _ => trivial) fun g => hk w' d g hd').trans ?_
    rw [hheld]
    simp +contextual
  | false =>
    refine (lookup_blind (k := fun
      | none => return false
      | some g => k g) hd' hdd (fun _ => trivial) fun g => hk w' d g hd').trans ?_
    rw [hheld, hmay]
    simp

omit [Gattlib] in
/-- The queueing of a read or a write calls nothing. -/
theorem enqueue_unlocked {act : Device.CharRef → AsyncAction.Details} {w : World} :
    SafeUnlocked dev (((do
      let charDets ← characteristicRef dev u
      queueAsyncAction (act charDets)
      return true) : Ble Bool) w) := by
  simp only [characteristicRef, SafeUnlocked, Prog.bind_apply, safe_bind]
  refine record_quiet fun d _ => ?_
  simp only [Prog.ite_apply]
  split <;> trivial

omit [Gattlib] in
theorem run_unlocked {p : Ble Bool} :
    SafeUnlocked dev ((return .bool (← p) : Ble Ret) w) ↔ SafeUnlocked dev (p w) := by
  simp only [SafeUnlocked, Prog.bind_apply, safe_bind]
  rfl

theorem read_unlocked {inData : Callback} : SafeUnlocked dev ((read dev u inData fail) w) ↔
    ¬ (fail.isUser = true ∧ w.FailsLocked dev u (·.supportsReads) fun _ => false) := by
  refine operation_unlocked (k := fun _ => do
    let charDets ← characteristicRef dev u
    queueAsyncAction
      { name := "read"
        callbacks := { datareceived := inData, failure := fail }
        trigger := .read dev charDets }
    return true) fun w' d g hd => iff_of_true enqueue_unlocked (by simp)

theorem write_unlocked {value : BinaryBuffer} {succ : Callback} :
    SafeUnlocked dev ((write dev u value succ fail) w) ↔
      ¬ (fail.isUser = true ∧ w.FailsLocked dev u (·.supportsWrites) fun _ => false) := by
  refine operation_unlocked (k := fun _ => do
    let charDets ← characteristicRef dev u
    queueAsyncAction
      { name := "write"
        callbacks := { success := succ, failure := fail }
        trigger := .write dev charDets value }
    return true) fun w' d g hd => iff_of_true enqueue_unlocked (by simp)

theorem startNotification_unlocked {cb : Callback} :
    SafeUnlocked dev ((startNotification dev u cb fail) w) ↔
      ¬ (fail.isUser = true ∧ w.FailsLocked dev u (·.supportSubscriptions) fun d =>
        (d.characteristic u).all (! ·.registeredForNotifs)) := by
  refine operation_unlocked (k := fun g => locked dev (startNotificationBlock dev u g cb fail))
    fun w' d g hd => ?_
  rw [SafeUnlocked, locked_unlocked]
  refine forall_congr' fun _ => ?_
  refine (startNotificationBlock_unlocked (w := { w' with held := dev :: w'.held }) hd
    fun _ _ => trivial).trans ?_
  simp [World.MayFail]

theorem stopNotification_unlocked {succ : Callback} :
    SafeUnlocked dev ((stopNotification dev u succ fail) w) ↔
      ¬ (fail.isUser = true ∧ w.FailsLocked dev u (·.supportSubscriptions) fun d =>
        (d.characteristic u).all (·.registeredForNotifs)) := by
  refine operation_unlocked (k := fun g => do
    if ← locked dev (stopNotificationBlock dev u g fail) then
      if succ.isSome then pushReport (.callback succ)
      return true
    else return false) fun w' d g hd => ?_
  rw [SafeUnlocked, Prog.bind_apply, safe_bind, locked_unlocked]
  refine forall_congr' fun _ => ?_
  refine (stopNotificationBlock_unlocked (w := { w' with held := dev :: w'.held }) hd
    fun b _ => ?_).trans (by simp [World.MayFail])
  cases b with
  | false => trivial
  | true => cases succ <;> trivial

end

/-- `handleNotification` only queues. -/
theorem handleNotification_unlocked {data : BinaryBuffer} :
    SafeUnlocked dev (handleNotification u data w) := by
  simp only [handleNotification, ble_apply, Prog.bind_apply, Out.bind_done]
  induction w.ble.devices.keys generalizing w with
  | nil => trivial
  | cons e rest ih =>
    simp only [handleNotificationLoop, SafeUnlocked, Prog.bind_apply, safe_bind]
    refine locked_quiet fun _ => ?_
    simp only [Prog.bind_apply, safe_bind]
    refine record_quiet fun d _ => ?_
    rw [Prog.ite_apply]
    split
    · exact ih
    · exact ih

section
variable [Gattlib]

/-- **Where user functions run under the device lock.** A read, a write, the start or the stop of
notifications calls no function of the user while it holds the lock of the device, whatever
gattlib answers, unless its failure callback is set and may be called in the lock; and
`handleNotification` calls none. -/
theorem callbacks_unlocked (w : World) (dev u : UUID) (fail : Callback) :
    (∀ inData, SafeUnlocked dev ((Op.read dev u inData fail).run w) ↔
      ¬ (fail.isUser = true ∧ w.FailsLocked dev u (·.supportsReads) fun _ => false)) ∧
    (∀ value succ, SafeUnlocked dev ((Op.write dev u value succ fail).run w) ↔
      ¬ (fail.isUser = true ∧ w.FailsLocked dev u (·.supportsWrites) fun _ => false)) ∧
    (∀ cb, SafeUnlocked dev ((Op.startNotification dev u cb fail).run w) ↔
      ¬ (fail.isUser = true ∧ w.FailsLocked dev u (·.supportSubscriptions) fun d =>
        (d.characteristic u).all (! ·.registeredForNotifs))) ∧
    (∀ succ, SafeUnlocked dev ((Op.stopNotification dev u succ fail).run w) ↔
      ¬ (fail.isUser = true ∧ w.FailsLocked dev u (·.supportSubscriptions) fun d =>
        (d.characteristic u).all (·.registeredForNotifs))) ∧
    ∀ e data, SafeUnlocked e (handleNotification u data w) :=
  ⟨fun _ => run_unlocked.trans read_unlocked, fun _ _ => run_unlocked.trans write_unlocked,
    fun _ => run_unlocked.trans startNotification_unlocked,
    fun _ => run_unlocked.trans stopNotification_unlocked, fun _ _ => handleNotification_unlocked⟩

end

/-- A read of a characteristic that cannot be read: the failure callback runs under the lock,
and when it reads again its thread locks the mutex that it holds. -/
theorem callbacks_unlocked_read : ∃ c c' : Config World Call Resp Fault,
    @Reach .sample .any .init c ∧ c.fault = none ∧
      c.s.calls.head? = some (.user 2 .nothing .refused) ∧ "A" ∈ c.s.held ∧
      (@system .sample .any).Step c c' ∧ c'.fault = some .relock := by
  let _ := Gattlib.sample
  obtain ⟨c, hc, hP⟩ := (system .any).reach_of_run_any
    [.enter (.api (.connect "A" none none none)), .answer (.adapter 3),
      .enter (.api .processAsync), .answer .void, .answer (.code 0),
      .enter (.event (some 0) (.connected (some 7))),
      .enter (.api .processAsync), .answer .void, .answer (.services []),
      .enter (.api .processAsync), .answer .void, .answer (.characteristics [⟨0x08, 1⟩]),
      .enter (.api (.read "A" "2a19" none (some (.user 2))))]
    (c := ⟨.init, [], none⟩)
    (P := fun c => c.fault.isNone && (c.s.calls.head? == some (.user 2 .nothing .refused) &&
      (decide ("A" ∈ c.s.held) && ((system .any).next c
        (.enter (.api (.read "A" "2a19" none none)))).any (·.fault == some .relock))))
    (by decide)
  simp only [Bool.and_eq_true, Option.isNone_iff_eq_none, beq_iff_eq, decide_eq_true_eq,
    Option.any_eq_true] at hP
  obtain ⟨hf, hcall, hheld, c', hnext, hrelock⟩ := hP
  exact ⟨c, c', hc, hf, hcall, hheld, (system .any).step_of_next hnext, hrelock⟩

end

end Gattlibpp
