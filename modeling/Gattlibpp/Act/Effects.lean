import Gattlibpp.Act.Basic

/-!
# Claims about every run

A `Claim` is an invariant that every act keeps, with a relation `extra` that every
act satisfies. This module gives the rules such a claim makes, and proves the
effects safe for them in continuation style: a program is safe with postcondition
`Q` if `Q` holds wherever it may end, and all it is known to do is related to its
start by `Rel`.
-/

namespace Gattlibpp

open Open

/-- What a completed program leaves as it was, and how it leaves the log and the records. -/
structure Kept (w w' : World) : Prop where
  calls : w'.calls = w.calls
  ticks : w'.ticks = w.ticks
  held : w'.held = w.held
  log : w.log <+: w'.log
  records : ∀ dev : UUID, (w.ble.devices[dev]?).isSome → (w'.ble.devices[dev]?).isSome
  callers : callers w'.log = callers w.log

theorem Kept.refl (w : World) : Kept w w := ⟨rfl, rfl, rfl, List.prefix_rfl, fun _ h => h, rfl⟩

theorem Kept.trans {w w' w'' : World} (h : Kept w w') (h' : Kept w' w'') : Kept w w'' :=
  ⟨h'.calls.trans h.calls, h'.ticks.trans h.ticks, h'.held.trans h.held, h.log.trans h'.log,
    fun dev hd => h'.records dev (h.records dev hd), h'.callers.trans h.callers⟩

/-- A change that leaves the log, and keeps the map of the devices. -/
theorem Kept.of_eq {w w' : World} (hcalls : w'.calls = w.calls) (hticks : w'.ticks = w.ticks)
    (hheld : w'.held = w.held) (hlog : w'.log = w.log) (hd : w'.ble.devices = w.ble.devices) :
    Kept w w' :=
  ⟨hcalls, hticks, hheld, hlog ▸ List.prefix_rfl, fun dev h => by rwa [hd], by rw [hlog]⟩

theorem Kept.note (w : World) (o : Obs) (ho : o.inner = true := by rfl) : Kept w (w.note o) :=
  ⟨rfl, rfl, rfl, List.prefix_append .., fun _ h => h, callers_inner w.log ho⟩

/-- A change that keeps the map of the devices. -/
theorem Kept.updateBle (w : World) {f : BLECentral → BLECentral}
    (hf : (f w.ble).devices = w.ble.devices) : Kept w (w.updateBle f) :=
  .of_eq rfl rfl rfl rfl hf

theorem Kept.updateDevice (w : World) (dev : UUID) (f : Device.Details → Device.Details) :
    Kept w (w.updateDevice dev f) := by
  refine ⟨rfl, rfl, rfl, List.prefix_rfl, fun e h => ?_, rfl⟩
  rw [World.updateDevice, World.updateBle_ble, Std.TreeMap.getElem?_modify]
  split
  · rename_i he
    rw [← Std.LawfulEqOrd.eq_of_compare he] at h
    rwa [Option.isSome_map]
  · exact h

theorem Kept.updateAction (w : World) (t : ActionId)
    (f : AsyncAction.Details → AsyncAction.Details) : Kept w (w.updateAction t f) :=
  .of_eq rfl rfl rfl rfl rfl

theorem Kept.report (w : World) (op : QueuedOp) : Kept w (w.report op) :=
  (Kept.updateBle w rfl).trans (Kept.note ..)

theorem Kept.enqueue (w : World) (a : AsyncAction.Details) : Kept w (w.enqueue a) :=
  ⟨rfl, rfl, rfl, List.prefix_append .., fun _ h => h, callers_inner w.log rfl⟩

/-- What holds between the start of a call and its return, the caller keeps. -/
theorem Kept.back {w w' : World} {e : Call} (h : Kept (w.push e) w') (r : Resp) :
    Kept w (w'.back e r) where
  calls := by simp [h.calls]
  ticks := by simp [h.ticks]
  held := by simp [h.held]
  log := (List.prefix_append ..).trans (h.log.trans (List.prefix_append ..))
  records := h.records
  callers := by simp [h.callers]

theorem record_eq (dets : UUID) (w : World) :
    record dets w = match w.ble.devices[dets]? with
      | some d => .done w d
      | none => .halt w .nullRecord := by
  simp only [record, ble_apply, Prog.bind_apply, Out.bind_done]
  cases w.ble.devices[dets]? <;> rfl

section
variable {α : Type} {dets : UUID} (p : Ble α) {w : World}

theorem locked_held (h : dets ∈ w.held) : locked dets p w = .halt w .relock := by
  simp [locked, h]

theorem locked_free (h : dets ∉ w.held) :
    locked dets p w = (p { w with held := dets :: w.held }).leave
      fun w => { w with held := w.held.tail } := by
  simp [locked, h, Prog.within]

/-- A guarded block is safe where a second lock is an allowed crash. -/
theorem locked_rule {p : Ble α} {T : Rules World Call Resp Fault}
    (hT : dets ∈ w.held → T.crash w .relock) {Q : α → World → Prop} {X : World → Prop}
    (hk : dets ∉ w.held → (p { w with held := dets :: w.held }).Safe T
      (fun a w' => Q a { w' with held := w'.held.tail })
      (fun w' => X { w' with held := w'.held.tail })) : (locked dets p w).Safe T Q X := by
  by_cases hd : dets ∈ w.held
  · rw [locked_held p hd]
    exact hT hd
  · rw [locked_free p hd, safe_leave]
    exact hk hd

end

section
variable [Gattlib]

/-- An invariant of every run in an environment that keeps to `P`. -/
structure Claim (P : Policy) where
  inv : World → Prop
  extra : World → World → Prop := fun _ _ => True
  terms : Terms := {}
  frees : terms.frees := by trivial
  /-- Whether the run goes on after an exception. -/
  catches : Prop := True
  crash : World → Fault → Prop
  refl : ∀ w, extra w w := by intros; trivial
  trans : ∀ {w w' w'' : World}, w.calls <:+ w'.calls → w'.held = w.held → w''.held = w.held →
    extra w w' → extra w' w'' → extra w w'' := by intros; trivial
  /-- What holds inside a guarded block holds around it. -/
  unlocked : ∀ {dev : UUID} {w w' : World}, extra { w with held := dev :: w.held } w' →
    extra w { w' with held := w.held } := by intros; trivial
  act : ∀ {w w' : World}, inv w → Stretch terms P w w' → inv w' ∧ extra w w'
  /-- A lock that is taken may be given back at once. -/
  unlocks : ∀ {dev : UUID} {w : World}, inv w → dev ∉ w.held →
    terms.unlocks { w with held := dev :: w.held } dev := by intros; trivial
  /-- A lock that is held may be given back as before. -/
  keeps : ∀ {dev : UUID} {w w' : World}, dev ∈ w.held → terms.unlocks w dev → extra w w' →
    terms.unlocks w' dev := by intros; trivial
  /-- What a `startNotification` that returned true has brought about. -/
  started : World → UUID → UUID → Prop := fun _ _ _ => True
  /-- A move returns. -/
  exit : ∀ {w : World} {m : Move} {r : Ret}, inv w →
    (∀ dev u cb fail, m = .api (.startNotification dev u cb fail) → r = .bool true →
      started w dev u) →
    inv (w.note (.exit m r)) ∧ extra w (w.note (.exit m r))
  /-- An exception leaves a tick. -/
  drop : ∀ {w : World} {op : QueuedOp} {q : List QueuedOp} {ts : List (List QueuedOp)}, catches →
    inv w → w.ticks = q :: ts → w.log.getLast? = some (.ran op) → op.Throws →
    inv { w with ticks := ts } ∧ extra w { w with ticks := ts }
  request : ∀ {op : Op} {w w' : World}, inv w → Origin P inv op w → Request w op w' →
    inv w' ∧ extra w w'
  /-- What the library keeps but for its ticks, also while a call is open. -/
  calm : World → World → Prop := fun _ _ => True
  calm_refl : ∀ w, calm w w := by intros; trivial
  calm_trans : ∀ {w w' w'' : World}, calm w w' → calm w' w'' → calm w w'' := by intros; trivial
  calm_act : ∀ {w w' : World}, inv w → Stretch { terms with frees := False } P w w' →
    calm w w' := by intros; trivial
  calm_request : ∀ {op : Op} {w w' : World}, Request w op w' → calm w w' := by intros; trivial
  calm_subs : ∀ {w w' : World}, Subs P w w' → calm w w' := by intros; trivial
  calm_call : ∀ {e : Call} {w w' : World}, w'.calls = e :: w.calls → extra (w.push e) w' →
    calm (w.push e) w' := by intros; trivial
  /-- A trigger may only use a freed reference where that is an allowed crash. -/
  freed : ∀ {w : World} {a : AsyncAction.Details} {p : UUID × Device.CharRef}, inv w →
    w.front = some a → a.state = .pending → a.trigger.charRef = some p →
    w.captured p.1 p.2 = none → ∀ ts, crash ({ w with ticks := ts }.start a.id) .freedCharacteristic
  /-- A request may only miss a characteristic where that is an allowed crash. -/
  missing : ∀ {op : Op} {w : World} {dev u : UUID} {d : Device.Details}, inv w →
    Origin P inv op w → op.lookup = some (dev, u) → w.ble.devices[dev]? = some d →
    w.ble.isConnected dev = true → d.discoveryDone = false → (Gattlib.stringToUuid u).isSome →
    d.hasCharacteristic u = false → crash w .endIterator
  other : ∀ {why : Fault}, Hazard P inv calm why → ∀ w, crash w why

namespace Claim

variable {P : Policy} (C : Claim P)

/-- How a completed stretch of the library relates to its start. -/
structure Rel (w w' : World) : Prop where
  kept : Kept w w'
  extra : C.extra w w'

/-- The rules of the claim. While no move may be entered, an open call changes nothing. -/
def rules : Rules World Call Resp Fault where
  inv := C.inv
  rely w w' := C.Rel w w' ∧ ((∀ m, ¬ P.enter w m) → w' = w)
  ans := P.ans
  crash := C.crash

variable {C}

theorem Rel.refl (w : World) : C.Rel w w := ⟨.refl w, C.refl w⟩

theorem Rel.trans {w w' w'' : World} (h : C.Rel w w') (h' : C.Rel w' w'') : C.Rel w w'' :=
  ⟨h.kept.trans h'.kept, C.trans (h.kept.calls ▸ List.suffix_rfl) h.kept.held
    (h'.kept.held.trans h.kept.held) h.extra h'.extra⟩

/-- Where a stretch from `w` may end. -/
structure At (C : Claim P) (w w' : World) : Prop where
  inv : C.inv w'
  rel : C.Rel w w'

theorem At.refl {w : World} (h : C.inv w) : C.At w w := ⟨h, .refl w⟩

theorem At.trans {w w' w'' : World} (h : C.At w w') (h' : C.At w' w'') : C.At w w'' :=
  ⟨h'.inv, h.rel.trans h'.rel⟩

/-- Where a stretch from `w` without ticks may end. -/
structure Calm (C : Claim P) (w w' : World) : Prop extends C.At w w' where
  calm : C.calm w w'

theorem Calm.refl {w : World} (h : C.inv w) : C.Calm w w := ⟨.refl h, C.calm_refl w⟩

theorem Calm.trans {w w' w'' : World} (h : C.Calm w w') (h' : C.Calm w' w'') : C.Calm w w'' :=
  ⟨h.toAt.trans h'.toAt, C.calm_trans h.calm h'.calm⟩

/-- An act that leaves calls, ticks and locks as they are. -/
theorem At.act {w w' : World} (h : C.inv w) (ha : Stretch C.terms P w w') (hk : Kept w w') :
    C.At w w' :=
  ⟨(C.act h ha).1, hk, (C.act h ha).2⟩

theorem Calm.act {w w' : World} (h : C.inv w)
    (ha : ∀ fr : Prop, Stretch { C.terms with frees := fr } P w w') (hk : Kept w w') : C.Calm w w' :=
  ⟨.act h (ha _) hk, C.calm_act h (ha False)⟩

/-- Where an exception may leave a stretch from `w`. -/
def Thrown (C : Claim P) (w w' : World) : Prop := C.catches → C.At w w' ∧ w'.Threw

theorem Thrown.from {w0 w w' : World} (hw : C.At w0 w) (h : C.Thrown w w') : C.Thrown w0 w' :=
  fun hc => ⟨hw.trans (h hc).1, (h hc).2⟩

/-- A move has entered with the locks of `w` held. -/
def Entered (C : Claim P) (w : World) : Prop :=
  ∃ w0 m, C.inv w0 ∧ P.enter w0 m ∧ w0.held = w.held

theorem entered_of_held {w w' : World} (h : C.Entered w) (hh : w'.held = w.held) : C.Entered w' := by
  obtain ⟨w0, m, h0, hm, hh0⟩ := h
  exact ⟨w0, m, h0, hm, hh0.trans hh.symm⟩

theorem Entered.mono {w w' : World} (h : C.Entered w) (hk : Kept w w') : C.Entered w' :=
  entered_of_held h hk.held

/-- A function that is no closure of a `shutdown`, unless its local may be used when it is gone. -/
def Lasting (C : Claim P) (cb : Callback) : Prop :=
  ∀ frame, cb = some (.doneCb frame) → ∀ w, C.crash w .freedLocal

/-- The function of an action that is in the queue. -/
theorem lasting_queued {w : World} {a : AsyncAction.Details} (how : Outcome) (h : C.inv w)
    (ha : a ∈ w.ble.asyncActions) : C.Lasting (how.callback a.callbacks) :=
  fun frame hcb => C.other (.finished w a how frame h ha hcb)

/-- A function that a request may be turned down with at `w`. -/
structure Fair (C : Claim P) (w : World) (cb : Callback) : Prop where
  lasting : C.Lasting cb
  given : ∀ id, cb = some (.user id) → P.Gives w .refused cb

theorem fair_none (w : World) : C.Fair w none := ⟨by simp [Lasting], by simp⟩

theorem Fair.mono {w w' : World} {cb : Callback} (h : C.Fair w cb) (hl : w.log <+: w'.log) :
    C.Fair w' cb :=
  ⟨h.lasting, fun id hid => (h.given id hid).mono hl⟩

variable {α : Type} {Q : α → World → Prop} {X : World → Prop}

/-! ## Calls -/

/-- A call out is safe if it may be made and its caller goes on safely. -/
theorem callOut_safe {w : World} {e : Call} {Q : Resp → World → Prop} (hp : C.inv (w.push e))
    (hk : ∀ r w', C.At (w.push e) w' → w'.calls = e :: w.calls → P.ans w' e r →
      ((∀ m, ¬ P.enter (w.push e) m) → w' = w.push e) → Q r (w'.back e r)) :
    (callOut e w).Safe C.rules Q X :=
  ⟨hp, fun r w' hr hi ha => hk r w' ⟨hi, hr.1⟩ hr.1.kept.calls ha hr.2⟩

/-- A call comes back, and its caller goes on to `w2`. -/
theorem At.back {w w' w2 : World} {e : Call} {r : Resp}
    (hp : C.inv (w.push e) ∧ C.extra w (w.push e)) (hw : C.At (w.push e) w')
    (hb : C.inv w2 ∧ C.extra w' w2) (hk : Kept (w'.back e r) w2) : C.At w w2 := by
  have hh : w'.held = w.held := hw.rel.kept.held
  have hk' : Kept w w2 := (hw.rel.kept.back r).trans hk
  have hc : w.calls <:+ w'.calls := hw.rel.kept.calls ▸ List.suffix_cons ..
  have hx : C.extra w w' := C.trans (List.suffix_cons ..) (w.push_held e) hh hp.2 hw.rel.extra
  exact ⟨hb.1, hk', C.trans hc hh hk'.held hx hb.2⟩

theorem Calm.back {w w' w2 : World} {e : Call} {r : Resp} (h : C.inv w)
    (hp : ∀ fr : Prop, Stretch { C.terms with frees := fr } P w (w.push e))
    (hw : C.At (w.push e) w') (hb : ∀ fr : Prop, Stretch { C.terms with frees := fr } P w' w2)
    (hk : Kept (w'.back e r) w2) : C.Calm w w2 where
  toAt := .back (C.act h (hp _)) hw (C.act hw.inv (hb _)) hk
  calm := C.calm_trans (C.calm_act h (hp False))
    (C.calm_trans (C.calm_call hw.rel.kept.calls hw.rel.extra) (C.calm_act hw.inv (hb False)))

/-- A call that belongs to no action, and what is known of its answer. -/
theorem asked_safe {w : World} {e : Call} {Q : Resp → World → Prop} (h : C.inv w)
    (he : e.Plain) (hn : e.notifies = true → C.terms.notifies) (hh : e.Handled P w)
    (hs : ∀ r, e.Settled r)
    (hk : ∀ r w', C.Calm w (w'.back e r) → P.ans w' e r →
      callers w'.log = (inProgress w.log).head? :: callers w.log →
      ((∀ m, ¬ P.enter (w.push e) m) → w' = w.push e) → Q r (w'.back e r)) :
    (callOut e w).Safe C.rules Q X := by
  refine callOut_safe (C.act h (.call e he hn hh)).1 fun r w' hw hc ha hq => ?_
  refine hk r w' ?_ ha (by simp [hw.rel.kept.callers]) hq
  exact .back h (fun _ => .call e he hn hh) hw (fun _ => .back e r w.calls hc ha (hs r)) (.refl _)

/-- A call that belongs to no action. -/
theorem plain_safe {w : World} {e : Call} {Q : Resp → World → Prop} (h : C.inv w)
    (he : e.Plain) (hn : e.notifies = true → C.terms.notifies) (hh : e.Handled P w)
    (hs : ∀ r, e.Settled r)
    (hk : ∀ r w', C.Calm w w' → ((∀ m, ¬ P.enter (w.push e) m) → w' = (w.push e).back e r) →
      Q r w') :
    (callOut e w).Safe C.rules Q X :=
  asked_safe h he hn hh hs fun r w' hw _ _ hq => hk r _ hw fun hn => by rw [hq hn]

/-! ## Adapter -/

theorem adapterClose_safe {w : World} {Q : Bool → World → Prop} (h : C.inv w)
    (hk : ∀ b w', C.Calm w w' → w'.ble.adapterIsOpen = false → Q b w') :
    (adapterClose w).Safe C.rules Q X := by
  simp only [adapterClose, ble_apply, Prog.bind_apply, Out.bind_done, Prog.ite_apply,
    Prog.pure_apply]
  split
  · rename_i hopen
    exact hk _ _ (.refl h) (by simpa using hopen)
  · rename_i hopen
    rw [safe_bind]
    have hp (fr : Prop) : Stretch { C.terms with frees := fr } P w
        (w.push (.adapterClose w.ble.adapter)) :=
      .call _ rfl (by simp [Call.notifies]) ⟨by simpa using hopen, rfl⟩
    refine callOut_safe (C.act h (hp _)).1 fun r w' hw hc ha _ => hk _ _ ?_ rfl
    exact .back h hp hw (fun _ => .adapterClosed _ r w.calls hc ha) (.updateBle _ rfl)

theorem adapterOpenFresh_safe {name : String} {w : World} {Q : Bool → World → Prop} (h : C.inv w)
    (hopen : w.ble.adapterIsOpen = false)
    (hk : ∀ b w', C.Calm w w' → (b = true → w'.ble.adapterIsOpen = true) →
      (P.OpensQuietly → w.Readied w') → Q b w') :
    (adapterOpenFresh name w).Safe C.rules Q X := by
  simp only [adapterOpenFresh, Prog.bind_apply, safe_bind]
  have hp (fr : Prop) : Stretch { C.terms with frees := fr } P w
      (w.push (.adapterOpen (if name = "" then none else some name))) :=
    .call _ rfl (by simp [Call.notifies]) hopen
  refine callOut_safe (C.act h (hp _)).1 fun r w' hw hc ha hq => ?_
  -- while the call is open nothing happens, where no move is made from inside it
  have ho (hP : P.OpensQuietly) : w' = w.push _ := hq fun m => hP _ m _ _ rfl
  have hlog : w.log <+: ((w.push (.adapterOpen (if name = "" then none else some name))).back
      (.adapterOpen (if name = "" then none else some name)) r).log :=
    (List.prefix_append ..).trans (List.prefix_append ..)
  have hin (e : Call) : inProgress ((w.push e).back e r).log = inProgress w.log :=
    (inProgress_ret ..).trans (inProgress_call ..)
  simp only [Prog.ite_apply, Prog.bind_apply, Prog.pure_apply]
  split
  · rename_i hr
    refine hk _ _ (.back h hp hw (fun _ => .back _ r w.calls hc ha hr) (.refl _)) (by simp)
      fun hP => ?_
    rw [ho hP]
    exact ⟨⟨rfl, rfl, rfl, rfl, rfl, rfl, rfl, rfl, rfl, hlog⟩, hin _⟩
  · rename_i hr
    refine hk _ _ (.back h hp hw (fun _ => .adapterOpened name r w.calls hc ha (not_not.mp hr))
      (.updateBle _ rfl)) (fun _ => rfl) fun hP => ?_
    rw [ho hP]
    exact ⟨⟨rfl, rfl, rfl, rfl, rfl, rfl, rfl, rfl, rfl, hlog⟩, hin _⟩

theorem adapterOpen_safe {name : String} {w : World} {Q : Bool → World → Prop} (h : C.inv w)
    (hk : ∀ b w', C.Calm w w' → Q b w') : (adapterOpen name w).Safe C.rules Q X := by
  simp only [adapterOpen, ble_apply, Prog.bind_apply, Out.bind_done, Prog.ite_apply, Prog.pure_apply]
  split
  · split
    · exact hk _ _ (.refl h)
    · rw [safe_bind]
      refine adapterClose_safe h fun b w' hw hopen => ?_
      exact adapterOpenFresh_safe hw.inv hopen fun b w'' hw' _ _ => hk _ _ (hw.trans hw')
  · rename_i hopen
    exact adapterOpenFresh_safe h (by simpa using hopen) fun b w' hw _ _ => hk _ _ hw

theorem openAdapterIfRequired_safe {w : World} {Q : Bool → World → Prop} (h : C.inv w)
    (hk : ∀ b w', C.Calm w w' → (b = true → w'.ble.adapterIsOpen = true) →
      (P.OpensQuietly → w.Readied w') → Q b w') :
    (openAdapterIfRequired w).Safe C.rules Q X := by
  simp only [openAdapterIfRequired, adapterOpen, ble_apply, Prog.bind_apply, Out.bind_done,
    Prog.ite_apply, Prog.pure_apply]
  split
  · exact hk _ _ (.refl h) (fun _ => by assumption) fun _ =>
      ⟨⟨rfl, rfl, rfl, rfl, rfl, rfl, rfl, rfl, rfl, List.prefix_rfl⟩, rfl⟩
  · rename_i hopen
    exact adapterOpenFresh_safe h (by simpa using hopen) hk

/-! ## User functions -/

theorem doneCb_safe {frame : Nat} {w : World} {Q : Unit → World → Prop} (h : C.inv w)
    (hf : C.Lasting (some (.doneCb frame))) (hk : ∀ w', C.Calm w w' → Q () w') :
    (doneCb frame w).Safe C.rules Q X := by
  simp only [doneCb, Prog.bind_apply, safe_bind]
  refine adapterClose_safe h fun b w' hw _ => ?_
  simp only [Prog.get_apply, safe_done, Prog.ite_apply]
  split
  · exact hk _ (hw.trans (.act hw.inv (fun _ => .inert _ ⟨rfl, Nat.le_refl _, rfl, rfl, rfl, rfl⟩)
      (.of_eq rfl rfl rfl rfl rfl)))
  · exact hf frame rfl _

/-- The function of a request that is turned down. -/
theorem invoke_safe {f : Fn} {w : World} {Q : Unit → World → Prop}
    (h : C.inv w) (hf : C.Fair w (some f)) (hk : ∀ w', C.Calm w w' → Q () w') :
    (f.invoke .nothing .refused w).Safe C.rules Q X := by
  cases f with
  | user id =>
    simp only [Fn.invoke, Prog.bind_apply, safe_bind]
    exact plain_safe h rfl (by simp [Call.notifies]) ⟨rfl, hf.given id rfl⟩ (fun _ => .inl rfl)
      fun r w' hw _ => hk _ hw
  | doneCb frame => exact doneCb_safe h hf.lasting hk
  | debugPrint => exact hk _ (.refl h)

theorem triggerCbIfSet_safe {cb : Callback} {w : World} {Q : Unit → World → Prop}
    (h : C.inv w) (hf : C.Fair w cb) (hk : ∀ w', C.Calm w w' → Q () w') :
    (triggerCbIfSet cb w).Safe C.rules Q X := by
  cases cb with
  | none => exact hk _ (.refl h)
  | some f => exact invoke_safe h hf hk

theorem ensureAdapterAvail_safe {failcb : Callback} {rest : Ble Bool} {w : World}
    {Q : Bool → World → Prop} (h : C.inv w) (hf : C.Fair w failcb)
    (hfail : ∀ w', C.Calm w w' → Q false w')
    (hk : ∀ w', C.Calm w w' → w'.ble.adapterIsOpen = true → (P.OpensQuietly → w.Readied w') →
      (rest w').Safe C.rules Q X) :
    (ensureAdapterAvail failcb rest w).Safe C.rules Q X := by
  simp only [ensureAdapterAvail, Prog.bind_apply, safe_bind]
  refine openAdapterIfRequired_safe h fun b w' hw hb ho => ?_
  cases b with
  | true => exact hk w' hw (hb rfl) ho
  | false =>
    simp only [Bool.false_eq_true, ↓reduceIte, Prog.bind_apply, safe_bind]
    exact triggerCbIfSet_safe hw.inv (hf.mono hw.rel.kept.log) fun w'' hw' => hfail _ (hw.trans hw')

/-! ## Reports and locks -/

theorem record_rule {dets : UUID} {w : World} {Q : Device.Details → World → Prop}
    (hn : w.ble.devices[dets]? = none → C.crash w .nullRecord)
    (hk : ∀ d, w.ble.devices[dets]? = some d → Q d w) : (record dets w).Safe C.rules Q X := by
  rw [record_eq]
  cases hd : w.ble.devices[dets]? with
  | none => exact hn hd
  | some d => exact hk d hd

theorem record_safe {dets : UUID} {w : World} {Q : Device.Details → World → Prop}
    (hd : (w.ble.devices[dets]?).isSome) (hk : ∀ d, w.ble.devices[dets]? = some d → Q d w) :
    (record dets w).Safe C.rules Q X :=
  record_rule (fun hn => by rw [hn] at hd; cases hd) hk

/-- A guarded block starts with the lock taken and leaves it as it found it. -/
theorem locked_safe {dets : UUID} {p : Ble α} {w : World} (h : C.inv w) (he : C.Entered w)
    (hk : ∀ wl, C.inv wl → wl = { w with held := dets :: w.held } → dets ∉ w.held →
      (p wl).Safe C.rules
        (fun a w' => C.Calm wl w' ∧
          (C.Calm w { w' with held := w.held } → Q a { w' with held := w.held }))
        (fun w' => C.Calm wl w' ∧
          (C.Calm w { w' with held := w.held } → X { w' with held := w.held }))) :
    (locked dets p w).Safe C.rules Q X := by
  refine locked_rule (fun hd => ?_) fun hd => ?_
  · obtain ⟨w0, m, h0, hm, hh⟩ := he
    exact C.other (.held w0 w m dets h0 hm hh h hd) w
  have hlock (fr : Prop) : Stretch { C.terms with frees := fr } P w
      { w with held := dets :: w.held } := .lock dets hd
  have hl := C.act h (hlock _)
  -- leaving the block gives back the locks it started with
  have key : ∀ w', C.Calm { w with held := dets :: w.held } w' →
      { w' with held := w'.held.tail } = { w' with held := w.held } ∧
      C.Calm w { w' with held := w.held } := fun w' hw => by
    have hheld : w'.held = dets :: w.held := hw.rel.kept.held
    have hgive := C.keeps List.mem_cons_self (C.unlocks h hd) hw.rel.extra
    have hunlock (fr : Prop) : Stretch { C.terms with frees := fr } P w' { w' with held := w.held } :=
      .unlock dets w.held hheld hgive
    refine ⟨by rw [hheld]; rfl, ⟨(C.act hw.inv (hunlock _)).1, ?_, ?_⟩, ?_⟩
    · exact ⟨hw.rel.kept.calls, hw.rel.kept.ticks, rfl, hw.rel.kept.log, hw.rel.kept.records,
        hw.rel.kept.callers⟩
    · exact C.unlocked hw.rel.extra
    · exact C.calm_trans (C.calm_act h (hlock False))
        (C.calm_trans hw.calm (C.calm_act hw.inv (hunlock False)))
  refine (hk _ hl.1 rfl hd).mono (fun a w' hw => ?_) fun w' hw => ?_
  · rw [(key w' hw.1).1]
    exact hw.2 (key w' hw.1).2
  · rw [(key w' hw.1).1]
    exact hw.2 (key w' hw.1).2

end Claim

end

end Gattlibpp
