import Gattlibpp.Act.Wrote
import Gattlibpp.Notify.Handlers

/-!
# Started notifications have a handler

Where `startNotification` has returned true, the record of the device holds a handler for the
characteristic from then on.
-/

namespace Gattlibpp

open Open

namespace World

/-- The record of `dev` holds a handler for `u`. -/
def Handles (w : World) (dev u : UUID) : Prop :=
  ∃ d, w.ble.devices[dev]? = some d ∧ d.hasNotificationHandlerFor u = true

/-- Every `startNotification` that returned true has left a handler. -/
def StartsHandled (w : World) : Prop :=
  ∀ dev u cb fail, .exit (.api (.startNotification dev u cb fail)) (.bool true) ∈ w.log →
    w.Handles dev u

/-- No handler is erased between `w` and `w'`. -/
def KeepsHandlers (w w' : World) : Prop := ∀ dev u, w.Handles dev u → w'.Handles dev u

variable {w w' : World}

theorem handles_iff {dev u : UUID} : w.Handles dev u ↔
    (w.handlers dev).any (·.contains (Device.normalizeCharacteristicUUID u)) = true := by
  unfold Handles handlers
  cases w.ble.devices[dev]? with
  | none => simp
  | some d => simp [Device.Details.hasNotificationHandlerFor]

theorem keepsHandlers_of_eq (h : w'.handlers = w.handlers) : w.KeepsHandlers w' := by
  intro dev u hd
  rw [handles_iff] at hd ⊢
  rwa [h]

theorem StartsHandled.keep (h : w.StartsHandled) (hk : w.KeepsHandlers w')
    (hl : ∀ dev u cb fail,
      .exit (.api (.startNotification dev u cb fail)) (.bool true) ∈ w'.log →
      .exit (.api (.startNotification dev u cb fail)) (.bool true) ∈ w.log) : w'.StartsHandled :=
  fun dev u cb fail hm => hk dev u (h dev u cb fail (hl dev u cb fail hm))

/-- `startNotification` sets the handler in a record that is there. -/
theorem handles_set {dev u : UUID} {cb : Callback} {d : Device.Details}
    (hd : w.ble.devices[dev]? = some d) :
    (w.updateDevice dev (·.setNotificationHandler u cb)).Handles dev u := by
  refine ⟨d.setNotificationHandler u cb, ?_, ?_⟩
  · simp [updateDevice, hd]
  · simp [Device.Details.hasNotificationHandlerFor, Device.Details.setNotificationHandler]

end World

theorem Request.keepsHandlers {w w' : World} {op : Op} (h : Request w op w') :
    w.KeepsHandlers w' := by
  intro dev u hd
  rw [World.handles_iff] at hd ⊢
  rcases h.handlers dev with he | ⟨hnone, -⟩
  · rwa [he]
  · rw [hnone] at hd
    cases hd

theorem Subs.keepsHandlers {P : Policy} {w w' : World} (h : Subs P w w') : w.KeepsHandlers w' := by
  obtain ⟨dev, f, -, hf⟩ := h
  rcases hf with hf | ⟨u, cb, -, hf⟩
  · exact World.keepsHandlers_of_eq (w.handlers_updateDevice_same dev hf)
  · intro e v hd
    rw [World.handles_iff, World.handlers_updateDevice]
    split
    · rename_i hde
      subst hde
      obtain ⟨d, hd, hv⟩ := hd
      simp only [hd, hf, Option.map_some, Option.any_some, Device.Details.setNotificationHandler,
        Std.TreeMap.contains_insert, Bool.or_eq_true]
      exact .inr hv
    · exact World.handles_iff.mp hd

section
variable [Gattlib] {P : Policy}

/-- An act logs no return. -/
theorem Act.no_exit {w w' : World} (ha : Act P w w') {m : Move} {r : Ret}
    (h : .exit m r ∈ w'.log) : .exit m r ∈ w.log := by
  obtain ⟨l, hl⟩ := ha.wrote
  rw [hl.log] at h
  exact (List.mem_append.mp h).resolve_right fun hm => (hl.act _ hm).elim

def handlerClaim (P : Policy) : Claim P where
  inv w := Fifo w ∧ w.StartsHandled
  extra := World.KeepsHandlers
  crash _ _ := True
  refl _ _ _ h := h
  trans _ _ _ h h' dev u hd := h' dev u (h dev u hd)
  unlocked h := h
  act h ha :=
    have hk := World.keepsHandlers_of_eq (Act.handlers h.1 ha)
    ⟨⟨h.1.act ha, h.2.keep hk fun _ _ _ _ => Act.no_exit ha⟩, hk⟩
  started := World.Handles
  exit {w m r} h hs := by
    refine ⟨⟨h.1.note ⟨rfl, rfl, rfl⟩, fun dev u cb fail hm => ?_⟩, fun _ _ hd => hd⟩
    rcases List.mem_append.mp hm with hm | hm
    · exact h.2 dev u cb fail hm
    · obtain ⟨rfl, rfl⟩ := Obs.exit.inj (List.mem_singleton.mp hm)
      exact hs dev u cb fail rfl rfl
  drop _ h _ _ _ := ⟨⟨h.1.setTicks _, h.2⟩, fun _ _ hd => hd⟩
  request {op w w'} h _ hr := by
    refine ⟨⟨h.1.request hr, h.2.keep hr.keepsHandlers fun dev u cb fail hm => ?_⟩,
      hr.keepsHandlers⟩
    cases hr <;> simpa [World.enqueue] using hm
  freed _ _ _ _ _ _ := trivial
  missing _ _ _ _ _ _ _ _ := trivial
  other _ _ := trivial

theorem handlerClaim_allows (P : Policy) : (handlerClaim P).Allows (Subs P) := by
  intro w w' h hs
  have hk := hs.keepsHandlers
  refine ⟨⟨h.1.subs hs, h.2.keep hk fun _ _ _ _ hm => ?_⟩, hk⟩
  cases hs
  exact hm

/-- The guarded block sets the handler, and nothing erases it until the block is left. -/
theorem startNotificationBlock_handles {dev u : UUID} {g : GlUuid} {cb fail : Callback} {w : World}
    {Q : Bool → World → Prop} {X : World → Prop} (hP : P.Starts w dev u cb)
    (h : (handlerClaim P).inv w) (hrec : (w.ble.devices[dev]?).isSome)
    (hf : (handlerClaim P).Fair w fail)
    (hk : ∀ b w', (handlerClaim P).Calm w w' → w'.Handles dev u → Q b w') :
    (startNotificationBlock dev u g cb fail w).Safe (handlerClaim P).rules Q X := by
  have hsubs : (handlerClaim P).Allows (Subs P) := handlerClaim_allows P
  have hset {w1 : World} {d : Device.Details} (hw : (handlerClaim P).Calm w w1)
      (hd : w1.ble.devices[dev]? = some d) :
      (handlerClaim P).Calm w (w1.updateDevice dev (·.setNotificationHandler u cb)) ∧
        (w1.updateDevice dev (·.setNotificationHandler u cb)).Handles dev u := by
    have hs := hsubs hw.inv (.mk dev _ (fun d => .setNotificationHandler d u cb)
      (.inr ⟨u, cb, hP.mono hw.rel.kept.log, fun _ => rfl⟩))
    exact ⟨hw.trans ⟨⟨hs.1, .updateDevice .., hs.2⟩, trivial⟩, World.handles_set hd⟩
  simp only [startNotificationBlock, Prog.bind_apply, safe_bind]
  refine Claim.record_safe hrec fun d hd => ?_
  cases (d.characteristic u).all fun c => ! c.registeredForNotifs with
  | true =>
    have hreg : (handlerClaim P).Calm w (w.updateDevice dev (·.setRegistered u true)) :=
      Claim.Calm.subs hsubs (.refl h) (fun d => .setRegistered d u true) fun _ => rfl
    have hd' : (w.updateDevice dev (·.setRegistered u true)).ble.devices[dev]? =
        some (d.setRegistered u true) := by simp [World.updateDevice, hd]
    obtain ⟨hw1, hh⟩ := hset hreg hd'
    have hrec1 := hw1.rel.kept.records dev hrec
    simp only [reduceIte, Prog.bind_apply, safe_bind]
    refine Claim.countRegistered_safe hsubs trivial (.refl hw1.inv) hrec1 fun w2 hw2 => ?_
    refine Claim.startForChar_safe hsubs trivial hw2 hrec1 (hf.mono hw1.rel.kept.log) fun b w3 hw3 => ?_
    exact hk b w3 (hw1.trans hw3) (hw3.rel.extra dev u hh)
  | false =>
    obtain ⟨hw1, hh⟩ := hset (.refl h) hd
    exact hk true _ hw1 hh

theorem startNotification_handles {dev u : UUID} {cb fail : Callback} {w : World}
    {Q : Bool → World → Prop} {X : World → Prop} (hP : P.Starts w dev u cb)
    (hf : (handlerClaim P).Fair w fail) (he : (handlerClaim P).Entered w)
    (h : (handlerClaim P).inv w)
    (hk : ∀ b w', (handlerClaim P).Calm w w' → (b = true → w'.Handles dev u) → Q b w') :
    (startNotification dev u cb fail w).Safe (handlerClaim P).rules Q X := by
  have hno (w' : World) (hw : (handlerClaim P).Calm w w') : Q false w' := hk false w' hw nofun
  refine Claim.ensureAdapterAvail_safe h hf hno fun w1 hw _ _ => ?_
  simp only [ble_apply, Prog.bind_apply, Out.bind_done, Prog.ite_apply]
  split
  · rw [safe_bind]
    exact Claim.triggerCbIfSet_safe hw.inv (hf.mono hw.rel.kept.log) fun w2 hw2 => hno _ (hw.trans hw2)
  · rename_i hc
    have hrec : (w1.ble.devices[dev]?).isSome := w1.ble.record_of_connected (by simpa using hc)
    have he1 := he.mono hw.rel.kept
    have hblock (g : GlUuid) : (locked dev (startNotificationBlock dev u g cb fail) w1).Safe
        (handlerClaim P).rules Q X := by
      refine Claim.locked_safe hw.inv he1 fun wl hl heq _ => ?_
      have hlog : w.log <+: wl.log := hw.rel.kept.log.trans (heq ▸ List.prefix_rfl)
      refine startNotificationBlock_handles (hP.mono hlog) hl (by rwa [heq]) (hf.mono hlog)
        fun b w2 hw2 hh => ?_
      exact ⟨hw2, fun hu => hk b _ (hw.trans hu) fun _ => hh⟩
    rw [safe_bind]
    refine Claim.getUUIDForCharOrFail_safe hw.inv he1 (hf.mono hw.rel.kept.log) hrec
      (fun w' hw' => hno _ (hw.trans hw')) ?_ ?_
    · exact fun _ c _ _ _ _ => hblock c.glUuid
    · exact fun _ g _ _ _ => hblock g

theorem handlerClaim_notifies (P : Policy) : (handlerClaim P).Notifies where
  start hP hf he h hk := startNotification_handles hP hf he h hk
  stop hP hf he h hk := Claim.stopNotification_safe (handlerClaim_allows P) trivial hP hf he h hk

/-- **Run lemma.** -/
theorem startsHandled_reach {c : Config World Call Resp Fault} (h : Reach P .init c)
    (hf : c.fault = none) : c.s.StartsHandled := by
  have hinit : World.init.StartsHandled := fun _ _ _ _ hm => by cases hm
  exact (Claim.reach (handlerClaim_notifies P) trivial ⟨.init, hinit⟩ h hf).2

end

end Gattlibpp
