import Gattlibpp.Queue.Contract
import Gattlibpp.Queue.Steady

/-!
# Characteristic lookups

A read or write takes a reference into the characteristics map of its device, and its
trigger uses it later. The lookup finds an entry, and the reference is still good when it
is used, as long as requests name characteristics that the map has once they are let
through, and no discovery refills the map under a waiting request.
-/

namespace Gattlibpp

open Open

/-! ## References -/

namespace World

variable (w : World)

theorem captured_of_eq {w' : World} (h : w'.ble.devices = w.ble.devices) :
    w'.captured = w.captured := by
  funext dev r
  unfold captured
  rw [h]

/-- A change to a record that keeps its characteristics in the map. -/
theorem captured_updateDevice {dev dev' : UUID} {r : Device.CharRef}
    {f : Device.Details → Device.Details} (he : ∀ d, (f d).epoch = d.epoch)
    (hc : ∀ d, ∀ k : UUID, ((f d).characteristics[k]?).isSome = (d.characteristics[k]?).isSome) :
    ((w.updateDevice dev f).captured dev' r).isSome = (w.captured dev' r).isSome := by
  simp only [captured, updateDevice, updateBle_ble, Std.TreeMap.getElem?_modify,
    Std.LawfulEqCmp.compare_eq_iff_eq]
  by_cases h : dev = dev'
  · subst h
    rw [if_pos rfl]
    cases w.ble.devices[dev]? with
    | none => rfl
    | some d =>
      simp only [Option.map_some, Option.bind_some, Device.Details.deref, he]
      split
      · exact hc d r.key
      · rfl
  · rw [if_neg h]

theorem captured_updateDevice_ne {dev dev' : UUID} (r : Device.CharRef)
    (f : Device.Details → Device.Details) (h : dev ≠ dev') :
    (w.updateDevice dev f).captured dev' r = w.captured dev' r := by
  simp only [captured, updateDevice, updateBle_ble, Std.TreeMap.getElem?_modify,
    Std.LawfulEqCmp.compare_eq_iff_eq, if_neg h]

end World

section
variable [Gattlib]

theorem Device.Details.addServices_keeps (d : Device.Details) (l : List GlPrimaryService) :
    (d.addServices l).epoch = d.epoch ∧ (d.addServices l).characteristics = d.characteristics := by
  unfold addServices
  induction l generalizing d with
  | nil => exact ⟨rfl, rfl⟩
  | cons s l ih =>
    rw [List.foldl_cons]
    cases Gattlib.uuidToString s.uuid with
    | none => exact ih d
    | some u => exact ih (d.addService u s)

/-! ## The environment -/

/-- A read or write of a connected device whose discovery is not done names a characteristic
in the map, and no discovery succeeds while a read or write of its device is Pending. -/
def lookedUp : Policy where
  enter w m :=
    match m with
    | .api op => ∀ p ∈ op.lookup, ∀ d ∈ w.ble.devices[p.1]?, d.connection.isSome = true →
      d.discoveryDone = false → (Gattlib.stringToUuid p.2).isSome = true →
      d.hasCharacteristic p.2 = true
    | .event .. => True
  ans w e r :=
    match e with
    | .discoverChar dev _ => r.rc = 0 → ∀ a ∈ w.ble.asyncActions, a.isPending = true →
      ∀ p ∈ a.trigger.charRef, p.1 ≠ dev
    | _ => True

instance (w : World) (m : Move) : Decidable (lookedUp.enter w m) :=
  match m with
  | .api op => inferInstanceAs (Decidable (∀ p ∈ op.lookup, ∀ d ∈ w.ble.devices[p.1]?,
      d.connection.isSome = true → d.discoveryDone = false →
      (Gattlib.stringToUuid p.2).isSome = true → d.hasCharacteristic p.2 = true))
  | .event .. => isTrue trivial

instance (w : World) (e : Call) (r : Resp) : Decidable (lookedUp.ans w e r) :=
  match e with
  | .discoverChar dev _ => inferInstanceAs (Decidable (r.rc = 0 → ∀ a ∈ w.ble.asyncActions,
      a.isPending = true → ∀ p ∈ a.trigger.charRef, p.1 ≠ dev))
  | .user .. | .asyncProcessAll | .adapterOpen _ | .adapterClose _ | .adapterPowered _
  | .scanEnable .. | .scanDisable .. | .connect .. | .disconnect .. | .readChar .. | .writeChar ..
  | .discoverPrimary .. | .registerNotification .. | .registerIndication ..
  | .notificationStart .. | .notificationStop .. => isTrue trivial

/-! ## The invariant -/

/-- The references of Pending reads and writes are good. -/
def World.Referenced (w : World) : Prop :=
  ∀ a ∈ w.ble.asyncActions, a.state = .pending → ∀ p, a.trigger.charRef = some p →
    (w.captured p.1 p.2).isSome

namespace World.Referenced

variable {w w' : World}

omit [Gattlib] in
theorem of_captured (h : w.Referenced) (hq : w'.ble.asyncActions = w.ble.asyncActions)
    (hc : ∀ a ∈ w.ble.asyncActions, a.state = .pending → ∀ p, a.trigger.charRef = some p →
      (w.captured p.1 p.2).isSome → (w'.captured p.1 p.2).isSome) : w'.Referenced := by
  unfold World.Referenced
  rw [hq]
  exact fun a ha hp p hr => hc a ha hp p hr (h a ha hp p hr)

omit [Gattlib] in
theorem steady : Steady World.Referenced where
  same {w w'} h hq hd _ _ _ := h.of_captured hq fun _ _ _ _ _ hc => by
    rwa [w.captured_of_eq hd]
  update {w t f} h hf ho := by
    refine List.forall_mem_map.mpr fun a ha => ?_
    split
    · rename_i hid
      intro hp p hr
      rw [(hf a).2] at hr
      exact h a ha ((ho a ha hid).pending hp) p hr
    · exact h a ha
  pop {w a rest} h hq := fun x hx => h x (by rw [hq]; exact List.mem_cons_of_mem _ hx)

omit [Gattlib] in
/-- A change to a record that keeps its characteristics in the map. -/
theorem updateDevice (h : w.Referenced) {dev : UUID} {f : Device.Details → Device.Details}
    (he : ∀ d, (f d).epoch = d.epoch)
    (hc : ∀ d, ∀ k : UUID, ((f d).characteristics[k]?).isSome = (d.characteristics[k]?).isSome) :
    (w.updateDevice dev f).Referenced :=
  h.of_captured rfl fun _ _ _ _ _ hs => (w.captured_updateDevice he hc).trans hs

omit [Gattlib] in
theorem event (h : w.Referenced) (m : Move) (ev : Event) :
    (ev.apply (w.note (.enter m))).Referenced := by
  have hn := steady.note h (.enter m)
  cases ev with
  | connected c => exact hn.updateDevice (fun _ => rfl) fun _ _ => rfl
  | disconnected =>
    have hd : ((w.note (.enter m)).updateDevice w.ble.connectedTo fun d =>
        { d with connection := none }).Referenced := hn.updateDevice (fun _ => rfl) fun _ _ => rfl
    exact hd.of_captured rfl fun _ _ _ _ _ hs => hs
  | _ => exact steady.same hn rfl rfl rfl rfl List.prefix_rfl

theorem servicesStep (h : w.Referenced) (dev : UUID) (r : Resp) :
    (w.servicesStep dev r).Referenced := by
  unfold World.servicesStep
  split
  · exact h
  · refine h.updateDevice (fun d => (d.clearServices.addServices_keeps _).1) fun d k => ?_
    rw [(d.clearServices.addServices_keeps _).2]
    rfl

/-- A discovery that succeeds refills the map of a device that no Pending action refers to. -/
theorem charsStep (h : w.Referenced) {dev : UUID} {r : Resp}
    (hr : r.rc = 0 → ∀ a ∈ w.ble.asyncActions, a.isPending = true →
      ∀ p ∈ a.trigger.charRef, p.1 ≠ dev) : (w.charsStep dev r).Referenced := by
  unfold World.charsStep
  split
  · exact h.updateDevice (fun _ => rfl) fun _ _ => rfl
  · rename_i hrc
    refine World.Referenced.updateDevice ?_ (fun _ => rfl) fun _ _ => rfl
    refine h.of_captured rfl fun a ha hp p hp' hs => ?_
    have hne : dev ≠ p.1 := fun heq =>
      hr (not_not.mp hrc) a ha (decide_eq_true hp) p hp' heq.symm
    rwa [w.captured_updateDevice_ne p.2 _ hne]

/-- **Step lemma.** -/
theorem act {P : Policy} (hP : P.WithinAt lookedUp w) (h : w.Referenced) (hfifo : Fifo w)
    (ha : Act P w w') : w'.Referenced := by
  refine steady.act h hfifo ha (fun of ev _ => h.event _ ev) (fun dev r h => h.servicesStep dev r)
    ?_ ?_ ?_
  · intro dev c r _ hans _
    exact (steady.back h _ r).charsStep (hP.ans _ _ hans)
  · intro e r name
    exact (steady.back h e r).of_captured rfl fun _ _ _ _ _ hs => hs
  · intro a r _
    exact (steady.back h (.adapterClose a) r).of_captured rfl fun _ _ _ _ _ hs => hs

omit [Gattlib] in
theorem enqueue (h : w.Referenced) {a : AsyncAction.Details}
    (ha : ∀ p, a.trigger.charRef = some p → (w.captured p.1 p.2).isSome) :
    (w.enqueue a).Referenced := by
  intro x hx hp
  rcases List.mem_append.mp hx with hx | hx
  · exact h x hx hp
  · cases List.mem_singleton.mp hx
    exact ha

omit [Gattlib] in
/-- The reference that a request takes is good. -/
theorem captured_charRef {dev u : UUID} {d : Device.Details} (hd : w.ble.devices[dev]? = some d)
    (hu : d.hasCharacteristic u = true) : (w.captured dev (d.charRef u)).isSome := by
  rw [World.captured, hd, Option.bind_some, Device.Details.deref, Device.Details.charRef, if_pos rfl]
  simpa [Device.Details.hasCharacteristic] using hu

omit [Gattlib] in
theorem request {op : Op} (h : w.Referenced) (hr : Request w op w') : w'.Referenced := by
  have hrecord := hr.record
  cases hr with
  | scan _ _ disc =>
    have hd : (w.updateBle fun b => { b with devDiscoveredCb := disc }).Referenced :=
      steady.same h rfl rfl rfl rfl List.prefix_rfl
    exact steady.same (hd.enqueue (by rintro _ ⟨⟩)) rfl rfl rfl rfl List.prefix_rfl
  | stopScanCancel _ _ a =>
    exact World.Referenced.enqueue (steady.note (steady.complete h a.id) _) (by rintro _ ⟨⟩)
  | connect dev p =>
    refine World.Referenced.enqueue (w := w.updateBle _)
      (h.of_captured rfl fun a _ _ p _ hs => ?_) ?_
    · rcases hrecord p.1 with hsame | ⟨hnone, -⟩
      · exact (congrArg (fun d => (d.bind (·.deref p.2)).isSome) hsame).trans hs
      · rw [World.captured, hnone] at hs
        cases hs
    · rintro _ ⟨⟩
  | read dev u d _ _ _ _ hd hu | write dev u d _ _ _ _ _ hd hu =>
    refine h.enqueue fun p hp => ?_
    cases hp
    exact captured_charRef hd hu
  | _ => exact h.enqueue (by rintro _ ⟨⟩)

omit [Gattlib] in
theorem subs {P : Policy} (h : w.Referenced) (hs : Subs P w w') : w'.Referenced := by
  obtain ⟨dev, f, hf⟩ := hs
  refine h.updateDevice (fun d => (hf d).epoch) fun d k => ?_
  rw [← Option.isSome_map, (hf d).characteristics k, Option.isSome_map]

end World.Referenced

/-! ## The result -/

/-- Moves are made as `lookedUp` asks, and not while an adapter is opened. -/
abbrev lookups : Policy := lookedUp.and opensQuietly

theorem lookups_opensQuietly : lookups.OpensQuietly := fun w m name cs hc h =>
  opensQuietly_opensQuietly w m name cs hc h.2

def lookupClaim : Claim lookups where
  inv w := Fifo w ∧ w.Referenced
  crash _ why := why ≠ .endIterator ∧ why ≠ .freedCharacteristic
  act {w _} h ha :=
    ⟨⟨h.1.act ha, h.2.act (lookedUp.and_within opensQuietly w) h.1 ha⟩, trivial⟩
  exit h _ := ⟨⟨h.1.note ⟨rfl, rfl, rfl⟩, World.Referenced.steady.note h.2 _⟩, trivial⟩
  drop _ h _ _ _ := ⟨⟨h.1.setTicks _, World.Referenced.steady.setTicks h.2 _⟩, trivial⟩
  request h _ hr := ⟨⟨h.1.request hr, h.2.request hr⟩, trivial⟩
  freed {w a p} h hf hp hr hnone := by
    have hs := h.2 a (List.mem_of_mem_head? hf) hp p hr
    rw [hnone] at hs
    cases hs
  missing {op w dev u d} _ ho hl hd hc hdone hu hno := by
    cases ho with
    | entered w0 _ hm _ hopen =>
      have hdev := (hopen lookups_opensQuietly).devices
      have hconn : d.connection.isSome = true := by
        simpa [BLECentral.isConnected, BLECentral.deviceDetails, normalizeDeviceUUID, hd] using hc
      have hin := hm.1 (dev, u) hl d (by rw [← hdev]; exact hd) hconn hdone hu
      rw [hno] at hin
      cases hin
    | shutdown w0 e frame hop => rw [hop] at hl; cases hl
    | autodisconn w0 a e hop => rw [hop] at hl; cases hl
  other h _ := by cases h <;> simp

theorem lookupClaim_notifies : lookupClaim.Notifies :=
  .of_subs (fun h hs => ⟨⟨h.1.subs hs, h.2.subs hs⟩, trivial⟩) fun _ _ _ => trivial

/-- **Lookups never miss**: no run dereferences `end()`, or uses a reference into a map that
has been cleared since. -/
theorem lookups_found {c : Config World Call Resp Fault} (h : Reach lookups .init c) :
    c.fault ≠ some .endIterator ∧ c.fault ≠ some .freedCharacteristic := by
  have h0 : Fifo .init ∧ World.init.Referenced := ⟨.init, by simp [World.Referenced, World.init]⟩
  cases hf : c.fault with
  | none => exact ⟨by simp, by simp⟩
  | some why =>
    obtain ⟨h1, h2⟩ := Claim.crash_reach lookupClaim_notifies trivial h0 h hf
    exact ⟨fun he => h1 (Option.some.inj he), fun he => h2 (Option.some.inj he)⟩

end

/-- A connect to `"A"` with the discovery of one characteristic that can be read. -/
def discoverA : List (System.Choice Move Resp) :=
  [.enter (.api (.connect "A" none none none)), .answer (.adapter 3),
    .enter (.api .processAsync), .answer .void, .answer (.code 0),
    .enter (.api .processAsync), .enter (.event (some 0) (.connected (some 7))), .answer .void,
    .answer (.services []), .enter (.api .processAsync), .answer .void,
    .answer (.characteristics [⟨0x02, 1⟩]), .enter (.api .processAsync), .answer .void]

/-- A read of a characteristic that was discovered, up to its gattlib call. -/
theorem lookups_found_read :
    ∃ c : Config World Call Resp Fault, @Reach .sample (@lookups .sample) .init c ∧
      .call (.readChar 1 (some 7) 1) ∈ c.s.log ∧ c.fault ≠ some .endIterator ∧
      c.fault ≠ some .freedCharacteristic := by
  let _ := Gattlib.sample
  obtain ⟨c, hc, hP⟩ := (system lookups).reach_of_run_any
    (discoverA ++ [.enter (.api (.read "A" "2A19" none none)), .enter (.api .processAsync),
      .answer .void])
    (c := ⟨.init, [], none⟩) (P := fun c => decide (.call (.readChar 1 (some 7) 1) ∈ c.s.log))
    (by decide)
  exact ⟨c, hc, of_decide_eq_true hP, lookups_found hc⟩

/-- A read between the connection and its discovery dereferences `end()`. -/
theorem lookups_found_blind :
    ∃ c : Config World Call Resp Fault, @Reach .sample contract .init c ∧
      c.fault = some .endIterator := by
  let _ := Gattlib.sample
  obtain ⟨c, hc, hP⟩ := (system contract).reach_of_run_any
    [.enter (.api (.connect "A" none none none)), .answer (.adapter 3),
      .enter (.api .processAsync), .answer .void, .answer (.code 0),
      .enter (.api .processAsync), .enter (.event (some 0) (.connected (some 7))),
      .enter (.api (.read "A" "2a19" none none))]
    (c := ⟨.init, [], none⟩) (P := fun c => decide (c.fault = some .endIterator)) (by decide)
  exact ⟨c, hc, of_decide_eq_true hP⟩

end Gattlibpp
