import Gattlibpp.Notify.Started

/-!
# Where notifications are delivered

A notification does not say which device it is from: `handleNotification` asks every record for
a handler, and no handler is ever erased. So it comes to the handler that the user has set for
the device, and to that alone, where no other record has a handler for the characteristic and
the subscription has not been stopped.
-/

namespace Gattlibpp

open Open

/-! ## Subscriptions in the log -/

/-- What a call that returned true says about a subscription. -/
inductive Subscription where
  | started (cb : Callback)
  | stopped
  deriving DecidableEq, Repr

/-- What an entry says about the subscription to `u` on `dev`. -/
def Obs.subscription (dev u : UUID) : Obs → Option Subscription
  | .exit (.api (.startNotification d v cb _)) (.bool true) =>
    if d = dev ∧ Device.normalizeCharacteristicUUID v = Device.normalizeCharacteristicUUID u then
      some (.started cb)
    else none
  | .exit (.api (.stopNotification d v _ _)) (.bool true) =>
    if d = dev ∧ Device.normalizeCharacteristicUUID v = Device.normalizeCharacteristicUUID u then
      some .stopped
    else none
  | _ => none

/-- The calls for all notifications of `dev` to stop. -/
def Obs.stopsAll (dev : UUID) : Obs → Bool
  | .enter (.api (.stopAllNotifications d)) => d = dev
  | .enter (.api .shutdown) => true
  | _ => false

def subscriptions (log : List Obs) (dev u : UUID) : List Subscription :=
  log.filterMap (Obs.subscription dev u)

/-- `u` is subscribed on `dev`: a start has returned true, and since then no stop has, and not
all notifications were to stop. -/
def Subscribed (log : List Obs) (dev u : UUID) : Prop :=
  ∃ before o after cb, log = before ++ o :: after ∧
    o.subscription dev u = some (.started cb) ∧
    ∀ x ∈ after, x.subscription dev u ≠ some .stopped ∧ x.stopsAll dev = false

/-- The subscription with the handler `cb` was ended: a start with it has returned true, then a
stop has, and no start since. -/
def Ended (log : List Obs) (dev u : UUID) (cb : Callback) : Prop :=
  ∃ before after, subscriptions log dev u = before ++ .stopped :: after ∧
    .started cb ∈ before ∧ ∀ cb', .started cb' ∉ after

theorem exit_of_started {log : List Obs} {dev u : UUID} {cb : Callback}
    (h : .started cb ∈ subscriptions log dev u) : ∃ v fail,
      Device.normalizeCharacteristicUUID v = Device.normalizeCharacteristicUUID u ∧
      .exit (.api (.startNotification dev v cb fail)) (.bool true) ∈ log := by
  obtain ⟨o, ho, hs⟩ := List.mem_filterMap.mp h
  unfold Obs.subscription at hs
  split at hs
  · rename_i d v cb' fail
    simp only [Option.ite_none_right_eq_some, Option.some.injEq, Subscription.started.injEq] at hs
    obtain ⟨⟨rfl, hv⟩, rfl⟩ := hs
    exact ⟨v, fail, hv, ho⟩
  · simp at hs
  · cases hs

theorem World.StartsHandled.handles {w : World} (h : w.StartsHandled) {dev u : UUID} {cb : Callback}
    (hs : .started cb ∈ subscriptions w.log dev u) : w.Handles dev u := by
  obtain ⟨v, fail, hv, hm⟩ := exit_of_started hs
  obtain ⟨d, hd, hhas⟩ := h dev v cb fail hm
  refine ⟨d, hd, ?_⟩
  unfold Device.Details.hasNotificationHandlerFor at hhas ⊢
  rwa [← hv]

theorem Subscribed.started {log : List Obs} {dev u : UUID} (h : Subscribed log dev u) :
    ∃ cb, .started cb ∈ subscriptions log dev u := by
  obtain ⟨before, o, after, cb, rfl, ho, -⟩ := h
  exact ⟨cb, List.mem_filterMap.mpr ⟨o, by simp, ho⟩⟩

theorem Ended.started {log : List Obs} {dev u : UUID} {cb : Callback} (h : Ended log dev u cb) :
    .started cb ∈ subscriptions log dev u := by
  obtain ⟨before, after, heq, hm, -⟩ := h
  rw [heq]
  exact List.mem_append_left _ hm

/-! ## What `handleNotification` queues -/

/-- What the record of a device makes of a notification. -/
def notificationFor (devices : DeviceMap) (u : UUID) (data : BinaryBuffer) (dev : UUID) :
    Option QueuedOp :=
  (devices[dev]?).bind fun d =>
    if d.hasNotificationHandlerFor u then some (.notification (d.notificationHandler u) data)
    else none

theorem notificationFor_some {devices : DeviceMap} {u dev : UUID} {data : BinaryBuffer}
    {d : Device.Details} (hd : devices[dev]? = some d) (hhas : d.hasNotificationHandlerFor u = true) :
    notificationFor devices u data dev = some (.notification (d.notificationHandler u) data) := by
  simp [notificationFor, hd, hhas]

/-- One round of the loop. -/
theorem deliver_eq (u : UUID) (data : BinaryBuffer) {k : UUID} {w : World} {d : Device.Details}
    (hd : w.ble.devices[k]? = some d) (hheld : k ∉ w.held) :
    (locked k do
      let d ← record k
      if d.hasNotificationHandlerFor u then
        pushReport (.notification (d.notificationHandler u) data)) w =
      .done (((notificationFor w.ble.devices u data k).map w.report).getD w) () := by
  simp only [locked, Prog.bind_apply, Prog.get_apply, Out.bind_done, Prog.ite_apply,
    if_neg hheld, Prog.within, record_eq, hd, notificationFor, Option.bind_some]
  cases d.hasNotificationHandlerFor u <;> rfl

/-- Where no record is locked, each record that has a handler queues one call of it. -/
theorem handleNotificationLoop_eq {u : UUID} {data : BinaryBuffer} (keys : List UUID) {w : World}
    (hrec : ∀ k ∈ keys, (w.ble.devices[k]?).isSome) (hheld : ∀ k ∈ keys, k ∉ w.held) :
    ∃ w', handleNotificationLoop u data keys w = .done w' () ∧
      w'.ble.reportQueue =
        w.ble.reportQueue ++ keys.filterMap (notificationFor w.ble.devices u data) := by
  induction keys generalizing w with
  | nil => exact ⟨w, rfl, by simp⟩
  | cons k keys ih =>
    obtain ⟨d, hd⟩ := Option.isSome_iff_exists.mp (hrec k List.mem_cons_self)
    have hrec' := fun j hj => hrec j (List.mem_cons_of_mem _ hj)
    have hheld' := fun j hj => hheld j (List.mem_cons_of_mem _ hj)
    have hround := deliver_eq u data hd (hheld k List.mem_cons_self)
    simp only [handleNotificationLoop, Prog.bind_apply, hround, Out.bind_done]
    cases hfor : notificationFor w.ble.devices u data k with
    | none =>
      rw [List.filterMap_cons_none hfor]
      exact ih hrec' hheld'
    | some op =>
      obtain ⟨w', hw', hq⟩ := ih (w := w.report op) hrec' hheld'
      rw [List.filterMap_cons_some hfor]
      exact ⟨w', hw', by simpa [World.report] using hq⟩

/-- A loop that comes to a locked record goes no further. -/
theorem handleNotificationLoop_relock {u : UUID} {data : BinaryBuffer} (keys : List UUID)
    {w w' : World} (hrec : ∀ k ∈ keys, (w.ble.devices[k]?).isSome)
    (h : handleNotificationLoop u data keys w = .done w' ()) : ∀ k ∈ keys, k ∉ w.held := by
  induction keys generalizing w with
  | nil => exact fun _ hk => nomatch hk
  | cons k keys ih =>
    by_cases hk : k ∈ w.held
    · simp [handleNotificationLoop, locked, hk] at h
    obtain ⟨d, hd⟩ := Option.isSome_iff_exists.mp (hrec k List.mem_cons_self)
    simp only [handleNotificationLoop, Prog.bind_apply, deliver_eq u data hd hk,
      Out.bind_done] at h
    refine List.forall_mem_cons.mpr ⟨hk, ?_⟩
    cases hfor : notificationFor w.ble.devices u data k with
    | none =>
      rw [hfor] at h
      exact ih (fun j hj => hrec j (List.mem_cons_of_mem _ hj)) h
    | some op =>
      rw [hfor] at h
      exact ih (w := w.report op) (fun j hj => hrec j (List.mem_cons_of_mem _ hj)) h

/-- Only `a` has something to show, where a list without repetitions shows just that. -/
theorem filterMap_eq_toList_iff {α β : Type} {f : α → Option β} {a : α} {l : List α}
    (hnd : l.Nodup) (ha : a ∈ l) :
    l.filterMap f = (f a).toList ↔ ∀ b ∈ l, b ≠ a → f b = none := by
  obtain ⟨xs, ys, rfl⟩ := List.append_of_mem ha
  have hne : ∀ b, b ∈ xs ∨ b ∈ ys → b ≠ a := by
    rintro b hb rfl
    have hmem := List.nodup_middle.mp hnd
    exact (List.nodup_cons.mp hmem).1 (List.mem_append.mpr hb)
  have hsplit : (xs ++ a :: ys).filterMap f =
      xs.filterMap f ++ ((f a).toList ++ ys.filterMap f) := by
    cases h : f a <;> simp [h]
  have hnil : (xs ++ a :: ys).filterMap f = (f a).toList ↔
      xs.filterMap f = [] ∧ ys.filterMap f = [] := by
    rw [hsplit]
    refine ⟨fun h => ?_, fun ⟨hx, hy⟩ => by simp [hx, hy]⟩
    have hlen := congrArg List.length h
    simp only [List.length_append] at hlen
    exact ⟨List.length_eq_zero_iff.mp (by omega), List.length_eq_zero_iff.mp (by omega)⟩
  rw [hnil, List.filterMap_eq_nil_iff, List.filterMap_eq_nil_iff]
  constructor
  · rintro ⟨hx, hy⟩ b hb hba
    rcases List.mem_append.mp hb with hb | hb
    · exact hx b hb
    · exact hy b ((List.mem_cons.mp hb).resolve_left hba)
  · exact fun h => ⟨fun b hb => h b (by simp [hb]) (hne b (.inl hb)),
      fun b hb => h b (by simp [hb]) (hne b (.inr hb))⟩

/-! ## Delivery -/

namespace World

variable (w : World) (dev u : UUID)

/-- No record is locked. -/
def NoneLocked : Prop := ∀ k ∈ w.held, k ∉ w.ble.devices

/-- No other device's record has a handler for `u`. -/
def HandlesAlone : Prop := ∀ k, k ≠ dev → ¬ w.Handles k u

/-- A notification for `u` from `dev`, whose record is `d`: it comes to the handler set last where
`u` is subscribed, to no other handler, and not to one whose subscription was ended. -/
def Delivers (d : Device.Details) (data : BinaryBuffer) : Prop :=
  ∃ w' l, handleNotification u data w = .done w' () ∧
    w'.ble.reportQueue = w.ble.reportQueue ++ l ∧
    (Subscribed w.log dev u → l = [.notification (d.notificationHandler u) data]) ∧
    (l = [] ∨ d.hasNotificationHandlerFor u = true ∧
      l = [.notification (d.notificationHandler u) data]) ∧
    ∀ cb, Ended w.log dev u cb → .notification cb data ∉ l

variable {w dev u}

theorem isSome_of_key {k : UUID} (h : k ∈ w.ble.devices.keys) : (w.ble.devices[k]?).isSome := by
  rw [Std.TreeMap.isSome_getElem?_eq_contains]
  exact Std.TreeMap.mem_iff_contains.mp (Std.TreeMap.mem_keys.mp h)

theorem nodup_keys : w.ble.devices.keys.Nodup :=
  Std.TreeMap.distinct_keys.imp fun h heq => h (Std.LawfulEqCmp.compare_eq_iff_eq.mpr heq)

/-- The handler's record answers for `dev`, the others for themselves. -/
theorem notificationFor_none_iff {data : BinaryBuffer} {k : UUID} :
    notificationFor w.ble.devices u data k = none ↔ ¬ w.Handles k u := by
  unfold notificationFor Handles
  cases w.ble.devices[k]? <;> simp

theorem handleNotification_eq (u : UUID) (data : BinaryBuffer) (h : w.NoneLocked) :
    ∃ w', handleNotification u data w = .done w' () ∧ w'.ble.reportQueue =
      w.ble.reportQueue ++ w.ble.devices.keys.filterMap (notificationFor w.ble.devices u data) :=
  handleNotificationLoop_eq _ (fun _ hk => isSome_of_key hk)
    fun k hk hheld => h k hheld (Std.TreeMap.mem_keys.mp hk)

theorem noneLocked_of_done {data : BinaryBuffer} {w' : World}
    (h : handleNotification u data w = .done w' ()) : w.NoneLocked :=
  fun k hheld hk => handleNotificationLoop_relock _ (fun _ hk => isSome_of_key hk) h k
    (Std.TreeMap.mem_keys.mpr hk) hheld

/-- What is queued is the call of the handler of `dev`, if any, where no other record has one. -/
theorem handlesAlone_iff (data : BinaryBuffer) {d : Device.Details}
    (hd : w.ble.devices[dev]? = some d) : w.HandlesAlone dev u ↔
      w.ble.devices.keys.filterMap (notificationFor w.ble.devices u data) =
        (notificationFor w.ble.devices u data dev).toList := by
  have hkey : dev ∈ w.ble.devices.keys :=
    Std.TreeMap.mem_keys.mpr (Std.TreeMap.mem_iff_isSome_getElem?.mpr (by simp [hd]))
  rw [filterMap_eq_toList_iff nodup_keys hkey]
  refine ⟨fun h k _ hne => notificationFor_none_iff.mpr (h k hne), fun h k hne hk => ?_⟩
  have hmem : k ∈ w.ble.devices.keys := by
    obtain ⟨e, he, -⟩ := hk
    exact Std.TreeMap.mem_keys.mpr (Std.TreeMap.mem_iff_isSome_getElem?.mpr (by simp [he]))
  exact notificationFor_none_iff.mp (h k hmem hne) hk

end World

section
variable [Gattlib]

/-- A notification is delivered as it should be where no record is locked, no other device's
record has a handler for the characteristic, and the subscription of the handler was not ended. -/
theorem notification_delivered {c : Config World Call Resp Fault} (h : Reach .any .init c)
    (hf : c.fault = none) {dev : UUID} {d : Device.Details} (hd : c.s.ble.devices[dev]? = some d)
    (u : UUID) (data : BinaryBuffer) :
    c.s.Delivers dev u d data ↔ c.s.NoneLocked ∧ c.s.HandlesAlone dev u ∧
      ¬ Ended c.s.log dev u (d.notificationHandler u) := by
  have hstart := startsHandled_reach h hf
  have hhas {cb : Callback} (hs : .started cb ∈ subscriptions c.s.log dev u) :
      d.hasNotificationHandlerFor u = true := by
    obtain ⟨d', hd', hu⟩ := hstart.handles hs
    rw [hd] at hd'
    cases hd'
    exact hu
  constructor
  · rintro ⟨w', l, hrun, hl, -, hown, hended⟩
    have hlock := World.noneLocked_of_done hrun
    obtain ⟨w2, hrun2, hq⟩ := World.handleNotification_eq u data hlock
    cases hrun.symm.trans hrun2
    have hkeys := List.append_cancel_left (hl.symm.trans hq)
    have halone : c.s.HandlesAlone dev u := by
      rw [World.handlesAlone_iff data hd, ← hkeys]
      rcases hown with rfl | ⟨hu, rfl⟩
      · -- nothing is queued: not even the record of the device has a handler
        refine (Option.toList_eq_nil_iff.mpr (World.notificationFor_none_iff.mpr ?_)).symm
        intro hk
        have hkey : dev ∈ c.s.ble.devices.keys :=
          Std.TreeMap.mem_keys.mpr (Std.TreeMap.mem_iff_isSome_getElem?.mpr (by simp [hd]))
        exact World.notificationFor_none_iff.mp
          (List.filterMap_eq_nil_iff.mp hkeys.symm dev hkey) hk
      · rw [notificationFor_some hd hu]
        rfl
    refine ⟨hlock, halone, fun hend => hended _ hend ?_⟩
    rw [hkeys, (World.handlesAlone_iff data hd).mp halone, notificationFor_some hd (hhas hend.started)]
    exact List.mem_singleton_self _
  · rintro ⟨hlock, halone, hend⟩
    obtain ⟨w', hrun, hq⟩ := World.handleNotification_eq u data hlock
    rw [(World.handlesAlone_iff data hd).mp halone] at hq
    refine ⟨w', _, hrun, hq, fun hsub => ?_, ?_, fun cb hcb hm => ?_⟩
    · obtain ⟨cb, hs⟩ := hsub.started
      rw [notificationFor_some hd (hhas hs)]
      rfl
    · cases hu : d.hasNotificationHandlerFor u with
      | true => exact .inr ⟨rfl, by rw [notificationFor_some hd hu]; rfl⟩
      | false => exact .inl (by simp [notificationFor, hd, hu])
    · -- the only call queued is of the handler set last
      rw [notificationFor_some hd (hhas hcb.started)] at hm
      cases List.mem_singleton.mp hm
      exact hend hcb

end

/-- Connect `dev`, as `conn`, and subscribe to `u`. -/
def subscribe (t : ActionId) (dev u : UUID) (conn : Conn) (cb : Callback) :
    List (System.Choice Move Resp) :=
  [.enter (.api (.connect dev none none none)), .enter (.api .processAsync), .answer .void,
    .answer (.code 0), .enter (.event (some t) (.connected (some conn))),
    .enter (.api .processAsync), .answer .void, .enter (.api (.startNotification dev u cb none)),
    .answer .void, .answer .void, .answer (.code 0)]

/-- No discovery on connect, and an open adapter. -/
def openBlind : List (System.Choice Move Resp) :=
  [.enter (.api (.setAutoDiscoverOnConnect false)), .enter (.api (.adapterOpen "")),
    .answer (.adapter 3)]

/-- The subscription that was started last, with nothing after it. -/
theorem Subscribed.of_last {log : List Obs} {dev u : UUID} {o : Obs} (cb : Callback)
    (hl : log.getLast? = some o) (ho : o.subscription dev u = some (.started cb)) :
    Subscribed log dev u := by
  obtain ⟨before, rfl⟩ := List.getLast?_eq_some_iff.mp hl
  exact ⟨before, o, [], cb, rfl, ho, fun _ h => nomatch h⟩

/-- One device is subscribed: its notification is delivered. -/
theorem notification_delivered_one : ∃ (c : Config World Call Resp Fault) (d : Device.Details),
    @Reach .sample .any .init c ∧ c.s.ble.devices["A"]? = some d ∧ d.connection = some 7 ∧
      Subscribed c.s.log "A" "2a19" ∧ c.s.Delivers "A" "2a19" d [1] := by
  let _ := Gattlib.sample
  obtain ⟨c, hc, hP⟩ := (system .any).reach_of_run_any
    (openBlind ++ subscribe 0 "A" "2a19" 7 (some (.user 1))) (c := ⟨.init, [], none⟩)
    (P := fun c => c.fault.isNone && (c.s.held.isEmpty && c.s.ble.devices.keys == ["A"] &&
      (c.s.ble.devices["A"]?.any fun d => d.connection == some 7) &&
      c.s.log.getLast? == some (.exit (.api (.startNotification "A" "2a19" (some (.user 1)) none))
        (.bool true)) && subscriptions c.s.log "A" "2a19" == [.started (some (.user 1))]))
    (by decide)
  simp only [Bool.and_eq_true, Option.isNone_iff_eq_none, List.isEmpty_iff, beq_iff_eq,
    Option.any_eq_true] at hP
  obtain ⟨hf, ⟨⟨⟨hheld, hkeys⟩, d, hd, hconn⟩, hlast⟩, hsubs⟩ := hP
  refine ⟨c, d, hc, hd, hconn, .of_last (some (.user 1)) hlast (by decide), ?_⟩
  refine (notification_delivered hc hf hd "2a19" [1]).mpr ⟨fun k hk => ?_, fun k hk hh => ?_, ?_⟩
  · rw [hheld] at hk
    cases hk
  · obtain ⟨e, he, -⟩ := hh
    have hmem : k ∈ c.s.ble.devices.keys :=
      Std.TreeMap.mem_keys.mpr (Std.TreeMap.mem_iff_isSome_getElem?.mpr (by simp [he]))
    rw [hkeys] at hmem
    exact hk (List.mem_singleton.mp hmem)
  · rintro ⟨before, after, heq, -⟩
    have hm : Subscription.stopped ∈ subscriptions c.s.log "A" "2a19" := by simp [heq]
    rw [hsubs] at hm
    exact absurd hm (by decide)

/-- `"A"` and `"B"` are both subscribed: a notification from `"B"` also calls the handler of
`"A"`. -/
theorem notification_delivered_other : ∃ (c : Config World Call Resp Fault) (d : Device.Details)
    (w' : World), @Reach .sample .any .init c ∧ c.fault = none ∧ c.s.ble.connectedTo = "B" ∧
      c.s.ble.devices["B"]? = some d ∧ d.connection = some 8 ∧ Subscribed c.s.log "B" "2a19" ∧
      handleNotification "2a19" [1] c.s = .done w' () ∧
      w'.ble.reportQueue = c.s.ble.reportQueue ++
        [.notification (some (.user 1)) [1], .notification (some (.user 2)) [1]] ∧
      ¬ c.s.Delivers "B" "2a19" d [1] := by
  let _ := Gattlib.sample
  obtain ⟨c, hc, hP⟩ := (system .any).reach_of_run_any
    (openBlind ++ subscribe 0 "A" "2a19" 7 (some (.user 1)) ++
      subscribe 1 "B" "2a19" 8 (some (.user 2))) (c := ⟨.init, [], none⟩)
    (P := fun c => c.fault.isNone && (c.s.held.isEmpty && c.s.ble.devices.keys == ["A", "B"] &&
      c.s.ble.connectedTo == "B" &&
      (c.s.ble.devices["A"]?.any fun d => d.hasNotificationHandlerFor "2a19" &&
        d.notificationHandler "2a19" == some (.user 1)) &&
      (c.s.ble.devices["B"]?.any fun d => d.connection == some 8 &&
        (d.hasNotificationHandlerFor "2a19" && d.notificationHandler "2a19" == some (.user 2))) &&
      c.s.log.getLast? == some (.exit (.api (.startNotification "B" "2a19" (some (.user 2)) none))
        (.bool true)))) (by decide)
  simp only [Bool.and_eq_true, Option.isNone_iff_eq_none, List.isEmpty_iff, beq_iff_eq,
    Option.any_eq_true] at hP
  obtain ⟨hf, ⟨⟨⟨⟨hheld, hkeys⟩, hto⟩, a, ha, hahas, hacb⟩, d, hd, hconn, hhas, hcb⟩, hlast⟩ := hP
  have hlock : c.s.NoneLocked := fun k hk => by
    rw [hheld] at hk
    cases hk
  obtain ⟨w', hrun, hq⟩ := World.handleNotification_eq "2a19" [1] hlock
  have hqueue : c.s.ble.devices.keys.filterMap (notificationFor c.s.ble.devices "2a19" [1]) =
      [.notification (some (.user 1)) [1], .notification (some (.user 2)) [1]] := by
    rw [hkeys, List.filterMap_cons_some (notificationFor_some ha hahas),
      List.filterMap_cons_some (notificationFor_some hd hhas), hacb, hcb]
    rfl
  rw [hqueue] at hq
  refine ⟨c, d, w', hc, hf, hto, hd, hconn,
    .of_last (some (.user 2)) hlast (by decide), hrun, hq, ?_⟩
  rintro ⟨w2, l, hrun2, hl, -, hown, -⟩
  cases hrun.symm.trans hrun2
  have hl2 := List.append_cancel_left (hl.symm.trans hq)
  have hlen := congrArg List.length hl2
  rcases hown with rfl | ⟨-, rfl⟩ <;> cases hlen

end Gattlibpp
