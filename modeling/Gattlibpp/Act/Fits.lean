import Gattlibpp.Act.Tick

/-!
# Every move is acts

The rules of a claim fit the library: every move of the user and of gattlib does
nothing but acts and requests. This is where the programs of the model meet the
claims about their runs.
-/

namespace Gattlibpp

open Open

theorem Kept.event (w : World) (ev : Event) : Kept w (ev.apply w) := by
  cases ev with
  | connected => exact .updateDevice ..
  | disconnected =>
    exact (Kept.updateDevice w w.ble.connectedTo _).trans (.of_eq rfl rfl rfl rfl rfl)
  | scanComplete | scanDisableDone => exact .of_eq rfl rfl rfl rfl rfl
  | _ => exact .refl _

section
variable [Gattlib]

namespace Claim

variable {P : Policy} {C : Claim P} {X : World → Prop} {w0 w : World}

/-! ## Callbacks of gattlib -/

/-- A callback of gattlib that completes the front action. -/
theorem event_safe (how : Outcome) {of : Option ActionId} (ev : Event) {Q : Unit → World → Prop}
    (h : C.inv w) (hm : P.enter w (.event of ev)) (ho : ev.outcome w.ble = some how)
    (hc : ∀ c, ev = .connected c → (w.ble.devices[w.ble.connectedTo]?).isSome)
    (hk : ∀ w', C.At w w' → Q () w') :
    (how.runFront (ev.apply (w.note (.enter (.event of ev))))).Safe C.rules Q X := by
  have ha := C.act h (.event of ev how hm ho hc)
  exact currentOp_safe how ha.1 ha.2 ((Kept.note ..).trans (Kept.event ..)) fun w' hw' => hk _ hw'.at

theorem connected_safe {of : Option ActionId} {connection : Option Conn}
    {Q : Unit → World → Prop} (h : C.inv w) (hm : P.enter w (.event of (.connected connection)))
    (hk : ∀ w', C.At w w' → Q () w') :
    (deviceConnected connection (w.note (.enter (.event of (.connected connection))))).Safe
      C.rules Q X := by
  simp only [deviceConnected, normalizeDeviceUUID, ble_apply, Prog.bind_apply, Out.bind_done,
    World.note_ble, safe_bind]
  refine record_rule (fun hn => C.other (.connected w of connection h hm hn) _) fun d hd => ?_
  have hrec : (w.ble.devices[w.ble.connectedTo]?).isSome := by
    rw [show w.ble.devices[w.ble.connectedTo]? = some d from hd]; rfl
  simp only [updateRecord, Prog.modify_apply, safe_done]
  cases connection with
  | none => exact event_safe .failure (.connected none) h hm rfl (fun _ _ => hrec) hk
  | some c =>
    simp only [Option.isSome_some, reduceIte, ble_apply, Prog.bind_apply, Out.bind_done]
    rw [Prog.ite_apply]
    split
    · rename_i hauto
      have hk1 := (Kept.note w (.enter (.event of (.connected (some c))))).trans
        (.event _ (.connected (some c)))
      exact hk _ (.act h (.eventAuto of c hm hauto hrec) (hk1.trans (.report ..)))
    · rename_i hauto
      have hauto : w.ble.autoDiscover = false := Bool.eq_false_iff.mpr hauto
      exact event_safe .success (.connected (some c)) h hm (by simp [Event.outcome, hauto])
        (fun _ _ => hrec) hk

theorem deviceDiscovered_safe {of : Option ActionId} {addr name : Option String}
    {Q : Unit → World → Prop} (h : C.inv w)
    (hm : P.enter w (.event of (.deviceDiscovered addr name))) (hk : ∀ w', C.At w w' → Q () w') :
    (deviceDiscovered (addr.getD "") (name.getD "")
      (w.note (.enter (.event of (.deviceDiscovered addr name))))).Safe C.rules Q X := by
  have ha := C.act h (.eventDiscovered of addr name hm)
  have hk0 : Kept w ((w.note (.enter (.event of (.deviceDiscovered addr name)))).updateBle
      fun b => { b with namesCache := b.namesCache.insert (addr.getD "") (name.getD "") }) :=
    (Kept.note ..).trans (.updateBle _ rfl)
  simp only [deviceDiscovered, ble_apply, update_apply, Prog.bind_apply, Out.bind_done,
    World.updateBle_ble, World.note_ble]
  simp only [World.discovered, World.named, World.note_ble] at ha
  cases hcb : w.ble.devDiscoveredCb with
  | none =>
    rw [hcb] at ha
    exact hk _ ⟨ha.1, hk0, ha.2⟩
  | some f =>
    rw [hcb] at ha
    have hf : C.Lasting (some f) := fun frame hd => C.other (.discovered w frame h (hcb.trans hd))
    exact invoke_applied_safe hf ha.1 ha.2 hk0 fun w' hw' _ => hk w' hw'.at

theorem readDataReceived_safe {of : Option ActionId} {buf : BinaryBuffer} {Q : Unit → World → Prop}
    (h : C.inv w) (hm : P.enter w (.event of (.readChar (some buf)))) (hb : buf ≠ [])
    (hk : ∀ w', C.At w w' → Q () w') :
    (readDataReceived buf (w.note (.enter (.event of (.readChar (some buf)))))).Safe
      C.rules Q X := by
  simp only [readDataReceived, ble_apply, Prog.bind_apply, Out.bind_done, World.note_ble]
  cases hq : w.ble.asyncActions with
  | nil =>
    exact hk _ (.act h (.eventReadNone of buf hm (by rw [World.front, hq]; rfl)) (.note ..))
  | cons a rest =>
    have hf : w.front = some a := by rw [World.front, hq]; rfl
    have ha := Stretch.eventRead (T := C.terms) of buf a hm hb hf
    have hmark {w1 : World} (hw1 : w1.front = some a) (hq : Q () (w1.complete a.id)) :
        (AsyncAction.markCompleted a.id w1).Safe C.rules Q X := by
      simp only [AsyncAction.markCompleted, AsyncAction.deref, Prog.bind_apply, Prog.get_apply,
        Out.bind_done, w1.action_of_front hw1]
      exact hq
    simp only [Prog.ite_apply, Prog.bind_apply]
    split
    · rename_i hd
      rw [if_pos hd] at ha
      exact hmark hf (hk _ (.act h ha (((Kept.note ..).trans (.report ..)).trans
        (.updateAction ..))))
    · rename_i hd
      rw [if_neg hd] at ha
      exact hmark hf (hk _ (.act h ha ((Kept.note ..).trans (.updateAction ..))))

theorem handle_safe {of : Option ActionId} {ev : Event} {Q : Unit → World → Prop} (h : C.inv w)
    (hm : P.enter w (.event of ev)) (hk : ∀ w', C.At w w' → Q () w') :
    (ev.handle (w.note (.enter (.event of ev)))).Safe C.rules Q X := by
  have he : C.Entered w := ⟨w, _, h, hm, rfl⟩
  have hidle (hi : (Move.event of ev).Idle) : C.At w (w.note (.enter (.event of ev))) :=
    .act h (.enter _ hm hi) (.note ..)
  cases ev with
  | connected connection => exact connected_safe h hm hk
  | disconnected => exact event_safe .success .disconnected h hm rfl (by simp) hk
  | deviceDiscovered addr name => exact deviceDiscovered_safe h hm hk
  | scanComplete => exact event_safe .success .scanComplete h hm rfl (by simp) hk
  | readChar buffer =>
    cases buffer with
    | none => exact hk _ (hidle trivial)
    | some buf =>
      cases buf with
      | nil => exact hk _ (hidle trivial)
      | cons x xs => exact readDataReceived_safe h hm (by simp) hk
  | opDone => exact event_safe .success .opDone h hm rfl (by simp) hk
  | opFailed => exact event_safe .failure .opFailed h hm rfl (by simp) hk
  | scanDisableDone => exact event_safe .success .scanDisableDone h hm rfl (by simp) hk
  | notification uuid data =>
    have hw := hidle trivial
    simp only [Event.handle]
    split
    · exact hk _ hw
    · rw [Prog.ite_apply]
      split
      · cases hu : Gattlib.uuidToString uuid with
        | none => exact hk _ hw
        | some u =>
          exact handleNotification_safe ⟨_, _, _, hm, List.prefix_rfl, hu⟩ (he.mono hw.rel.kept) hw.inv
            fun w' hw' => hk _ (hw.trans hw'.toAt)
      · exact hk _ hw

/-! ## Shutdown -/

theorem shutdownLoop_safe {frame n : Nat} {Q : Unit → World → Prop} (hw : C.At w0 w)
    (he : C.Entered w0)
    (hm : ∃ ws, P.enter ws (.api .shutdown) ∧ ws.calls = w0.calls ∧ ws.ticks = w0.ticks)
    (hk : ∀ w', C.At w0 w' → Q () w') (hX : ∀ w', C.Thrown w0 w' → X w') :
    (shutdownLoop frame n w).Safe C.rules Q X := by
  obtain ⟨ws, hws, hcs, hts⟩ := hm
  induction n generalizing w with
  | zero => exact hk _ hw
  | succ n ih =>
    simp only [shutdownLoop, Prog.bind_apply, Prog.get_apply, Out.bind_done, Prog.ite_apply]
    split
    · exact hk _ hw
    · rw [safe_bind]
      have hgo : Ticks P w := .inr ⟨ws, hws, hcs.trans hw.rel.kept.calls.symm,
        hts.trans hw.rel.kept.ticks.symm⟩
      exact processAsync_safe hw.inv (he.mono hw.rel.kept) hgo
        (fun w1 hw1 _ => ih (hw.trans hw1)) fun w1 hw1 => hX _ (hw1.from hw)

theorem shutdown_safe (hn : C.Notifies) {Q : Unit → World → Prop} (h : C.inv w) (hi : C.inv w0)
    (hm : P.enter w0 (.api .shutdown)) (hw : w = w0.note (.enter (.api .shutdown)))
    (hk : ∀ w', C.At w w' → Q () w') (hX : ∀ w', C.Thrown w w' → X w') :
    (shutdown w).Safe C.rules Q X := by
  have hinert {w' : World} {n : Nat} {l : List (Nat × Bool)} (hw' : C.inv w') :
      C.At w' { w' with serial := w'.serial + n, shutdowns := l } :=
    .act hw' (.inert _ ⟨rfl, Nat.le_add_right .., rfl, rfl, rfl, rfl⟩)
      (.of_eq rfl rfl rfl rfl rfl)
  have hclose : ((do let _ ← adapterClose; return () : Ble Unit) w).Safe C.rules Q X := by
    rw [Prog.bind_apply, safe_bind]
    exact adapterClose_safe h fun _ w' hw' _ => hk _ hw'.toAt
  have he : C.Entered w := ⟨w0, _, hi, hm, by rw [hw]; rfl⟩
  simp only [shutdown, ble_apply, Prog.bind_apply, Out.bind_done]
  rw [Prog.ite_apply]
  split
  · rename_i hto
    cases hd : w.ble.deviceDetails w.ble.connectedTo with
    | none => exact hclose
    | some dev =>
      have hble : w0.ble = w.ble := by rw [hw]; rfl
      have hrec : (w0.ble.devices[w0.ble.connectedTo]?).isSome := by
        rw [hble, show w.ble.devices[w.ble.connectedTo]? = some dev from hd]
        rfl
      have hto0 : w0.ble.connectedTo ≠ "" := by rwa [hble]
      have hfair (frame : Nat) (w : World) : C.Fair w (some (.doneCb frame)) :=
        ⟨fun _ _ => C.other (.shutdown w0 hi hm hto0 hrec), by simp⟩
      simp only [Prog.bind_apply, Prog.get_apply, Out.bind_done, Prog.within, safe_leave, safe_bind]
      have hopen := hinert (n := 1) (l := (w.serial, false) :: w.shutdowns) h
      have hend (w' : World) (hw' : C.At w w') : C.At w { w' with shutdowns := w'.shutdowns.tail } :=
        hw'.trans (hinert (n := 0) hw'.inv)
      refine stopAllNotifications_safe hn (he.mono hopen.rel.kept) hopen.inv fun w1 hw1 => ?_
      have hw1 := hopen.trans hw1.toAt
      have hcomes : C.Comes (.disconnect dev.id (some (.doneCb w.serial)) (some (.doneCb w.serial)))
          w1 := by
        refine ⟨fun w' hl _ => .shutdown w0 dev.id w.serial rfl hi hm ?_ hto0 hrec,
          by simpa [Op.functionsFor] using hfair _ _⟩
        have hlog : w0.log ++ [.enter (.api .shutdown)] = w.log := by rw [hw]; rfl
        exact hlog ▸ hw1.rel.kept.log.trans hl
      refine disconnect_safe hw1.inv hcomes fun _ w2 hw2 => ?_
      have hw2 := hw1.trans hw2.toAt
      exact shutdownLoop_safe hw2 he ⟨w0, hm, by rw [hw]; rfl, by rw [hw]; rfl⟩
        (fun w3 hw3 => hk _ (hend _ hw3))
        fun w3 hw3 => hX _ fun hc => ⟨hend _ (hw3 hc).1, (hw3 hc).2⟩
  · exact hclose

/-! ## Operations -/

theorem opRun_safe (hn : C.Notifies) {op : Op} {Q : Ret → World → Prop} (h0 : C.inv w0)
    (hm : P.enter w0 (.api op)) (hw : w = w0.note (.enter (.api op))) (h : C.inv w)
    (hk : ∀ r w', C.At w w' → (∀ dev u cb fail, op = .startNotification dev u cb fail →
      r = .bool true → C.started w' dev u) → Q r w')
    (hX : ∀ w', C.Thrown w w' → X w') : (op.run w).Safe C.rules Q X := by
  have hlog : w0.log ++ [.enter (.api op)] = w.log := by rw [hw]; rfl
  have he : C.Entered w := ⟨w0, _, h0, hm, by rw [hw]; rfl⟩
  have hfair (cb : Callback) (hcb : cb ∈ op.functionsFor .refused) : C.Fair w cb :=
    ⟨fun frame hd => C.other (.passed w0 op frame h0 hm (hd ▸ op.functionsFor_subset _ hcb)),
      fun _ _ => ⟨w0, op, hm, hlog ▸ List.prefix_rfl, hcb⟩⟩
  have hcomes : C.Comes op w := by
    refine ⟨fun w' hl ho => .entered w0 h0 hm (hlog ▸ hl) fun hq => ?_, hfair⟩
    obtain ⟨⟨h1, h2, h3, h4, h5, h6, h7, h8, h9, h10⟩, -⟩ := ho hq
    subst hw
    exact ⟨h1, h2, h3, h4, h5, h6, h7, h8, h9, (List.prefix_append ..).trans h10⟩
  cases op with
  | startNotification dev u cb fail =>
    simp only [Op.run, Prog.bind_apply, safe_bind]
    have hf : C.Fair w fail := hfair fail (by simp [Op.functionsFor])
    refine hn.start ⟨w0, _, hm, hlog ▸ List.prefix_rfl⟩ hf he h
      fun b w' hw' hs => hk _ w' hw'.toAt ?_
    rintro _ _ _ _ ⟨⟩ ⟨⟩
    exact hs rfl
  | adapterOpen name =>
    simp only [Op.run, Prog.bind_apply, safe_bind]
    exact adapterOpen_safe h fun b w' hw' => hk _ w' hw'.toAt (by simp)
  | adapterClose =>
    simp only [Op.run, Prog.bind_apply, safe_bind]
    exact adapterClose_safe h fun b w' hw' _ => hk _ w' hw'.toAt (by simp)
  | shutdown =>
    simp only [Op.run, Prog.bind_apply, safe_bind]
    exact shutdown_safe hn h h0 hm hw (fun w' hw' => hk _ w' hw' (by simp)) hX
  | processAsync =>
    simp only [Op.run, Prog.bind_apply, safe_bind]
    exact processAsync_safe h he (.inl ⟨w0, hm, hw⟩) (fun w' hw' _ => hk _ w' hw' (by simp)) hX
  | setAutoDiscoverOnConnect setTo =>
    exact hk _ _ (.act h (.setAutoDiscover setTo) (.updateBle _ rfl)) (by simp)
  | setConnectionParameters p =>
    exact hk _ _ (.act h (.setConnectionParameters p ⟨w0, hm, hlog ▸ List.prefix_rfl⟩)
      (.updateBle _ rfl)) (by simp)
  | scan =>
    simp only [Op.run, Prog.bind_apply, safe_bind]
    exact scan_safe h hcomes fun b w' hw' => hk _ w' hw'.toAt (by simp)
  | stopScan =>
    simp only [Op.run, Prog.bind_apply, safe_bind]
    exact stopScan_safe h hcomes fun b w' hw' => hk _ w' hw'.toAt (by simp)
  | connect =>
    simp only [Op.run, Prog.bind_apply, safe_bind]
    exact connect_safe h hcomes fun b w' hw' => hk _ w' hw'.toAt (by simp)
  | disconnect =>
    simp only [Op.run, Prog.bind_apply, safe_bind]
    exact disconnect_safe h hcomes fun b w' hw' => hk _ w' hw'.toAt (by simp)
  | read =>
    simp only [Op.run, Prog.bind_apply, safe_bind]
    exact read_safe h he hcomes fun b w' hw' => hk _ w' hw'.toAt (by simp)
  | write =>
    simp only [Op.run, Prog.bind_apply, safe_bind]
    exact write_safe h he hcomes fun b w' hw' => hk _ w' hw'.toAt (by simp)
  | stopNotification dev u succ fail =>
    simp only [Op.run, Prog.bind_apply, safe_bind]
    have hf : C.Fair w fail := hfair fail (by simp [Op.functionsFor])
    exact hn.stop (fun _ hl hs => ⟨w0, _, hm, hlog ▸ hl, ⟨rfl, hs⟩, by simp, by simp⟩) hf he h
      fun b w' hw' => hk _ w' hw'.toAt (by simp)
  | stopAllNotifications =>
    simp only [Op.run, Prog.bind_apply, safe_bind]
    exact stopAllNotifications_safe hn he h fun w' hw' => hk _ w' hw'.toAt (by simp)
  | isConnected dev succ fail =>
    simp only [Op.run, Prog.bind_apply, safe_bind]
    have hf : C.Fair w fail := hfair fail (by simp [Op.functionsFor])
    exact reportIsConnected_safe hm (hlog ▸ List.prefix_rfl) (by rw [hw]; rfl) hf h
      fun b w' hw' => hk _ w' hw'.toAt (by simp)
  | isEnabled succ fail =>
    simp only [Op.run, Prog.bind_apply, safe_bind]
    have hf : C.Fair w fail := hfair fail (by simp [Op.functionsFor])
    exact isEnabled_safe hm (hlog ▸ List.prefix_rfl) hf h fun b w' hw' => hk _ w' hw'.toAt (by simp)
  | enable succ fail =>
    simp only [Op.run, Prog.bind_apply, safe_bind]
    have hf : C.Fair w fail := hfair fail (by simp [Op.functionsFor])
    exact enable_safe hm hlog.symm hf h fun b w' hw' => hk _ w' hw'.toAt (by simp)
  | deviceName device =>
    exact hk _ _ (.act h (.deviceName device) (.updateBle _ rfl)) (by simp)

/-- What a move does from where it enters. -/
theorem move_safe (hn : C.Notifies) {m : Move} {Q : Unit → World → Prop} (h : C.inv w)
    (hm : P.enter w m) (hk : ∀ w', C.At w w' → Q () w') (hX : ∀ w', C.Thrown w w' → X w') :
    (m.prog w).Safe C.rules Q X := by
  have hexit {r : Ret} {w' : World} (hw' : C.At w w') (hs : ∀ dev u cb fail,
      m = .api (.startNotification dev u cb fail) → r = .bool true → C.started w' dev u) :
      C.At w (w'.note (.exit m r)) := by
    have he := C.exit hw'.inv hs
    exact hw'.trans ⟨he.1, .note .., he.2⟩
  have hraised {w' : World} (hw' : C.Thrown w w') : X (w'.note (.raised m)) :=
    hX _ fun hc => by
      obtain ⟨hat, hthrew⟩ := hw' hc
      exact ⟨hat.trans (.act hat.inv (.raised m hthrew) (.note ..)),
        hthrew.mono (List.prefix_append ..)⟩
  simp only [Move.prog, Prog.trapped, Prog.bind_apply, note_apply, Out.bind_done, safe_trap]
  cases m with
  | api op =>
    have he : C.At w (w.note (.enter (.api op))) := .act h (.enter _ hm trivial) (.note ..)
    simp only [Prog.bind_apply, safe_bind]
    refine opRun_safe hn h hm rfl he.inv (fun r w' hw' hs => hk _ (hexit (he.trans hw') ?_))
      fun w' hw' => hraised (hw'.from he)
    rintro dev u cb fail ⟨⟩ hr
    exact hs dev u cb fail rfl hr
  | event of ev =>
    simp only [Prog.bind_apply, safe_bind]
    exact handle_safe h hm fun w' hw' => hk _ (hexit hw' (by simp))

/-- A tick that the user makes, up to its end. -/
theorem tick_safe {Q : Unit → World → Prop} (h : C.inv w) (hm : P.enter w (.api .processAsync))
    (hk : ∀ w1 r w2 w3, C.Turn (w.note (.enter (.api .processAsync))) w1 r w2 w3 →
      C.At w (w3.note (.exit (.api .processAsync) .void)) →
      Q () (w3.note (.exit (.api .processAsync) .void))) :
    ((Move.api .processAsync).prog w).Safe C.rules Q fun _ => True := by
  have he : C.At w (w.note (.enter (.api .processAsync))) := .act h (.enter _ hm trivial) (.note ..)
  simp only [Move.prog, Prog.trapped, Prog.bind_apply, note_apply, Out.bind_done, safe_trap, Op.run,
    safe_bind]
  have hent : C.Entered (w.note (.enter (.api .processAsync))) := ⟨w, _, h, hm, rfl⟩
  refine processAsync_safe he.inv hent (.inl ⟨w, hm, rfl⟩) (fun w3 hw3 hturn => ?_)
    fun _ _ => trivial
  obtain ⟨w1, r, w2, ht⟩ := hturn
  have hx := C.exit (m := .api .processAsync) (r := .void) hw3.inv (by simp)
  exact hk w1 r w2 w3 ht (he.trans (hw3.trans ⟨hx.1, .note .., hx.2⟩))

/-- **The rules of a claim fit the library.** -/
theorem fits (hn : C.Notifies) (hc : C.catches) : C.rules.Fits (system P) where
  ans _ _ _ h := h
  refl w := ⟨.refl w, fun _ => rfl⟩
  trans _ _ _ h h' := ⟨h.1.trans h'.1, fun hno => (h'.2 (h.2 hno ▸ hno)).trans (h.2 hno)⟩
  prog m _ h hm := move_safe hn h hm
    (fun _ hw' => ⟨hw'.inv, hw'.rel, fun hno => absurd hm (hno m)⟩)
    fun _ hw' => ⟨(hw' hc).1.inv, (hw' hc).1.rel, fun hno => absurd hm (hno m)⟩

/-- A run crashes only as the claim allows. -/
theorem crash_reach (hn : C.Notifies) (hc : C.catches) {c : Config World Call Resp Fault}
    {why : Fault} (h0 : C.inv w0) (h : Reach P w0 c) (hf : c.fault = some why) : C.crash c.s why :=
  (fits hn hc).crash h0 h hf

/-- Every running configuration of every run keeps the invariant. -/
theorem reach (hn : C.Notifies) (hc : C.catches) {c : Config World Call Resp Fault}
    (h0 : C.inv w0) (h : Reach P w0 c) (hf : c.fault = none) : C.inv c.s :=
  (fits hn hc).inv h0 h hf

end Claim

end

end Gattlibpp
