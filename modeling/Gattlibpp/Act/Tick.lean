import Gattlibpp.Act.Notifications

/-!
# The tick is acts

What completes an action, what a trigger does, what runs from the report queue, and
`processAsync` around them.
-/

namespace Gattlibpp

open Open

/-- The completion the outcome stands for. -/
def Outcome.run : Outcome → ActionId → Ble Unit
  | success, t => AsyncAction.completedWithSuccess t
  | failure, t => AsyncAction.completedWithFailure t

/-- `currentOpCompleted` and `currentOpFailed`. -/
def Outcome.runFront : Outcome → Ble Unit
  | success => currentOpCompleted
  | failure => currentOpFailed

theorem runFront_eq (how : Outcome) (w : World) : how.runFront w =
    match w.front with
    | none => .done w ()
    | some a => how.run a.id w := by
  cases how <;> simp only [Outcome.runFront, currentOpCompleted, currentOpFailed, ble_apply,
    Prog.bind_apply, Out.bind_done, World.front] <;> cases w.ble.asyncActions <;> rfl

/-- Completing an action calls its callback. -/
theorem run_eq (how : Outcome) {w : World} {t : ActionId} {a : AsyncAction.Details}
    (ha : w.action t = some a) : how.run t w =
      Callback.invokeIfSet (how.callback a.callbacks) .nothing (how.role t) (w.complete t) := by
  have hd : AsyncAction.deref t w = .done w a := by simp [AsyncAction.deref, ha]
  have hd' : AsyncAction.deref t (w.complete t) =
      .done (w.complete t) { a with state := .completed } := by
    simp [AsyncAction.deref, w.action_complete ha]
  cases how <;>
    simp only [Outcome.run, AsyncAction.completedWithSuccess, AsyncAction.completedWithFailure,
      AsyncAction.markCompleted, Prog.bind_apply, hd, Out.bind_done, Prog.modify_apply] <;>
    rw [show w.updateAction t (fun a => { a with state := .completed }) = w.complete t from rfl,
      hd'] <;> rfl

section
variable [Gattlib]

/-- The tick once gattlib has come back. -/
def tickRest : Ble Unit := do
  let q := (← ble).reportQueue
  Prog.within (fun w => { w with ticks := q :: w.ticks })
    (fun w => { w with ticks := w.ticks.tail }) do
      if q.length ≠ 0 then
        update fun b => { b with reportQueue := [] }
        runReports q
  tickAction

/-- Where there is nothing to report, taking the reports changes nothing. -/
theorem tickRest_eq (w : World) : tickRest w =
    ((runReports w.ble.reportQueue { w with
      ticks := w.ble.reportQueue :: w.ticks
      ble := { w.ble with reportQueue := [] } }).leave
        fun w => { w with ticks := w.ticks.tail }).bind fun _ => tickAction := by
  simp only [tickRest, ble_apply, Prog.bind_apply, Out.bind_done, Prog.within, Prog.ite_apply]
  split
  · rfl
  · rename_i hq
    have hq : w.ble.reportQueue = [] := by simpa using hq
    have hsame : { w.ble with reportQueue := [] } = w.ble := by rw [← hq]
    rw [hq, hsame]
    rfl

theorem processAsync_eq : processAsync = callOut .asyncProcessAll >>= fun _ => tickRest := rfl

theorem Kept.servicesStep (w : World) (dev : UUID) (r : Resp) : Kept w (w.servicesStep dev r) := by
  unfold World.servicesStep
  split
  · exact .refl _
  · exact .updateDevice ..

theorem Kept.charsStep (w : World) (dev : UUID) (r : Resp) : Kept w (w.charsStep dev r) := by
  unfold World.charsStep
  split
  · exact .updateDevice ..
  · exact Kept.trans (.updateDevice ..) (.updateDevice ..)

namespace Claim

variable {P : Policy} {C : Claim P} {X : World → Prop} {w0 w : World} {ts : List (List QueuedOp)}

/-- Where a stretch from `w0` may stand while the copies of the ticks in progress are `ts`. -/
structure Within (C : Claim P) (w0 : World) (ts : List (List QueuedOp)) (w : World) : Prop where
  inv : C.inv w
  kept : Kept { w0 with ticks := ts } w
  extra : C.extra w0 w

theorem At.within (h : C.At w0 w) : C.Within w0 w0.ticks w := ⟨h.inv, h.rel.kept, h.rel.extra⟩

theorem Within.at (h : C.Within w0 w0.ticks w) : C.At w0 w := ⟨h.inv, h.kept, h.extra⟩

/-- A stretch goes on to `w2`. -/
theorem Within.step {w2 : World} (h : C.Within w0 ts w) (hs : C.inv w2 ∧ C.extra w w2)
    (hk : Kept { w0 with ticks := ts } w2) : C.Within w0 ts w2 :=
  ⟨hs.1, hk, C.trans (h.kept.calls ▸ List.suffix_rfl) h.kept.held hk.held h.extra hs.2⟩

theorem Within.trans {w2 : World} (h : C.Within w0 ts w) (h2 : C.At w w2) : C.Within w0 ts w2 :=
  h.step ⟨h2.inv, h2.rel.extra⟩ (h.kept.trans h2.rel.kept)

theorem Within.act {w2 : World} (h : C.Within w0 ts w) (ha : Stretch C.terms P w w2) (hk : Kept w w2) :
    C.Within w0 ts w2 :=
  h.trans (.act h.inv ha hk)

/-- The move that a stretch belongs to. -/
theorem Within.entered (h : C.Within w0 ts w) (he : C.Entered w0) : C.Entered w :=
  Entered.mono (w := { w0 with ticks := ts }) he h.kept

/-! ## Calling and completing -/

/-- The action is in the queue, unless it may be used when it is gone. -/
def Live (C : Claim P) (t : ActionId) (w : World) : Prop :=
  w.action t = none → ∀ w', C.crash w' .freedAction

theorem live_of_calm {w2 : World} {t : ActionId} (h : C.calm w w2) (ht : (w.action t).isSome) :
    C.Live t w2 :=
  fun hn w' => C.other (.popped w w2 t h ht hn) w'

theorem live_of_call {e : Call} {r : Resp} {w2 : World} {t : ActionId} (h : C.At (w.push e) w2)
    (ht : (w.action t).isSome) : C.Live t (w2.back e r) :=
  fun hn w' => C.other (.popped (w.push e) w2 t (C.calm_call h.rel.kept.calls h.rel.extra) ht hn) w'

/-- A call that an act has started, up to its return. -/
theorem Within.call {ws w' w2 : World} {e : Call} {r : Resp}
    (hk0 : Kept { w0 with ticks := ts } ws) (hx : C.extra w0 (ws.push e))
    (hw : C.At (ws.push e) w') (hb : C.inv w2 ∧ C.extra w' w2) (hk : Kept (w'.back e r) w2) :
    C.Within w0 ts w2 := by
  have hh : w'.held = w0.held := hw.rel.kept.held.trans hk0.held
  have hk2 : Kept { w0 with ticks := ts } w2 := hk0.trans ((hw.rel.kept.back r).trans hk)
  have hcs : w0.calls <:+ (ws.push e).calls := hk0.calls ▸ List.suffix_cons ..
  have hc : w0.calls <:+ w'.calls := hw.rel.kept.calls ▸ hcs
  have hx' : C.extra w0 w' := C.trans hcs ((ws.push_held e).trans hk0.held) hh hx hw.rel.extra
  exact ⟨hb.1, hk2, C.trans hc hh hk2.held hx' hb.2⟩

/-- A function whose call an act has started. -/
theorem invoke_applied_safe {f : Fn} {arg : Arg} {role : Role} {Q : Unit → World → Prop}
    (hf : C.Lasting (some f)) (hi : C.inv (w.invoke (some f) arg role))
    (hx : C.extra w0 (w.invoke (some f) arg role)) (hk0 : Kept { w0 with ticks := ts } w)
    (hk : ∀ w', C.Within w0 ts w' → (∀ t, (w.action t).isSome → C.Live t w') → Q () w') :
    (f.invoke arg role w).Safe C.rules Q X := by
  cases f with
  | user id =>
    simp only [Fn.invoke, Prog.bind_apply, safe_bind]
    refine callOut_safe hi fun r w' hw hc ha _ => hk _ ?_ fun t ht => ?_
    · exact .call hk0 hx hw (C.act hw.inv (.back _ r w.calls hc ha (.inl rfl))) (.refl _)
    · exact live_of_call hw ht
  | doneCb frame =>
    exact doneCb_safe hi hf fun w' hw =>
      hk _ (Within.trans ⟨hi, hk0, hx⟩ hw.toAt) fun t ht => live_of_calm hw.calm ht
  | debugPrint =>
    refine hk _ ⟨hi, hk0, hx⟩ fun t ht hn => ?_
    rw [hn] at ht
    cases ht

/-- An action is completed, after an act that reaches as far as its callback. -/
theorem completed_safe (how : Outcome) {t : ActionId} {a : AsyncAction.Details}
    {Q : Unit → World → Prop} (ha : w.action t = some a) (hi : C.inv (w.finish how t))
    (hx : C.extra w0 (w.finish how t)) (hk0 : Kept { w0 with ticks := ts } w)
    (hk : ∀ w', C.Within w0 ts w' → C.Live t w' → Q () w') : (how.run t w).Safe C.rules Q X := by
  have hk1 : Kept { w0 with ticks := ts } (w.complete t) := hk0.trans (.updateAction ..)
  have hc := w.action_complete ha
  have hlast : C.Lasting (how.callback a.callbacks) := by
    refine lasting_queued (a := { a with state := .completed }) how hi ?_
    rw [w.finish_ble]
    exact List.mem_of_find?_eq_some hc
  rw [run_eq how ha]
  rw [World.finish, ha, Option.bind_some] at hi hx
  cases hcb : how.callback a.callbacks with
  | none =>
    rw [hcb] at hi hx
    refine hk _ ⟨hi, hk1, hx⟩ fun hn => ?_
    rw [hc] at hn
    cases hn
  | some f =>
    rw [hcb] at hi hx hlast
    exact invoke_applied_safe hlast hi hx hk1 fun w' hw' hl => hk w' hw' (hl t (by rw [hc]; rfl))

/-- An asynchronous call whose start an act has made. When gattlib refuses it, completing its
action is safe from there. -/
theorem asyncCall_safe {e : Call} {t : ActionId} {Q : Resp → World → Prop}
    (he : e.action = some t) (ht : (w.action t).isSome) (hi : C.inv (w.push e))
    (hx : C.extra w0 (w.push e)) (hk0 : Kept { w0 with ticks := ts } w)
    (hok : ∀ r w', r.rc = 0 → C.Within w0 ts w' → C.Live t w' → Q r w')
    (href : ∀ r w', r.rc ≠ 0 → C.Live t w' → (∀ {R : Unit → World → Prop} {X : World → Prop},
      (∀ w2, C.Within w0 ts w2 → C.Live t w2 → R () w2) →
        (AsyncAction.completedWithFailure t (e.refusedApply w')).Safe C.rules R X) → Q r w') :
    (callOut e w).Safe C.rules Q X := by
  refine callOut_safe hi fun r w' hw hc ha _ => ?_
  have hl : C.Live t (w'.back e r) := live_of_call hw ht
  by_cases hr : r.rc = 0
  · have hs : e.Settled r := by cases e <;> first | exact .inr hr | cases he
    exact hok r _ hr (.call hk0 hx hw (C.act hw.inv (.back e r w.calls hc ha hs)) (.refl _)) hl
  · refine href r _ hr hl fun {R X} hR => ?_
    have hact : (e.refusedApply (w'.back e r)).action t = w'.action t := by cases e <;> rfl
    have hkr : Kept (w'.back e r) (e.refusedApply (w'.back e r)) := by
      cases e <;> exact .of_eq rfl rfl rfl rfl rfl
    cases hat : w'.action t with
    | none =>
      simp only [AsyncAction.completedWithFailure, AsyncAction.markCompleted, AsyncAction.deref,
        Prog.bind_apply, Prog.get_apply, Out.bind_done, hact, hat, Prog.halt_apply, Out.bind_halt]
      exact hl hat _
    | some a =>
      have hb := C.act hw.inv (.refused e r w.calls t a hc ha he hr hat)
      have hh : w'.held = w0.held := hw.rel.kept.held.trans hk0.held
      have hcs : w0.calls <:+ (w.push e).calls := hk0.calls ▸ List.suffix_cons ..
      have hx' : C.extra w0 w' := C.trans hcs ((w.push_held e).trans hk0.held) hh hx hw.rel.extra
      have hk : Kept { w0 with ticks := ts } (e.refusedApply (w'.back e r)) :=
        hk0.trans ((hw.rel.kept.back r).trans hkr)
      have hx2 := C.trans (hw.rel.kept.calls ▸ hcs) hh
        ((World.finish_held _ _ _).trans hk.held) hx' hb.2
      exact completed_safe .failure (hact.trans hat) hb.1 hx2 hk hR

/-! ## Triggers -/

/-- What becomes of an action whose call gattlib refused, and the end of its trigger. -/
theorem asyncTrigger_safe {e : Call} {t : ActionId} {Q : Unit → World → Prop}
    (he : e.action = some t) (ht : (w.action t).isSome) (hi : C.inv (w.push e))
    (hx : C.extra w0 (w.push e)) (hk0 : Kept { w0 with ticks := ts } w)
    (hscan : ∀ w', e.refusedApply w' = w')
    (hk : ∀ w', C.Within w0 ts w' → Q () w') :
    (callOut e w).Safe C.rules (fun r w' => ((if r.rc ≠ 0 then AsyncAction.completedWithFailure t
      else pure () : Ble Unit) w').Safe C.rules Q X) X := by
  refine asyncCall_safe he ht hi hx hk0 (fun r w' hr hw _ => ?_) fun r w' hr _ hw => ?_
  · rw [if_neg (by simpa using hr)]
    exact hk _ hw
  · rw [if_pos hr]
    have hsafe := hw (R := Q) (X := X) fun w2 hw2 _ => hk w2 hw2
    rwa [hscan] at hsafe

theorem closureOf_safe {t : ActionId} {Q : Unit → World → Prop} (hl : C.Live t w) (h : Q () w) :
    (closureOf t w).Safe C.rules Q X := by
  simp only [closureOf, AsyncAction.deref, Prog.bind_apply, Prog.get_apply, Out.bind_done, safe_bind]
  cases ht : w.action t with
  | none => exact hl ht _
  | some a => exact h

theorem capturedUuid_safe {dev : UUID} {r : Device.CharRef} {Q : GlUuid → World → Prop}
    (hrec : w.ble.devices[dev]? = none → C.crash w .nullRecord)
    (hn : w.captured dev r = none → C.crash w .freedCharacteristic)
    (hk : ∀ d c, w.ble.devices[dev]? = some d → w.captured dev r = some c → Q c.glUuid w) :
    (capturedUuid dev r w).Safe C.rules Q X := by
  simp only [capturedUuid, Prog.bind_apply, safe_bind]
  refine record_rule hrec fun d hd => ?_
  have hcap : w.captured dev r = d.deref r := by rw [World.captured, hd]; rfl
  cases hc : d.deref r with
  | none => exact hn (hcap.trans hc)
  | some c => exact hk d c hd (hcap.trans hc)

theorem fire_safe {a : AsyncAction.Details} {ws : World} {Q : Unit → World → Prop}
    (hgo : P.Ticks w0.calls ts) (hw : C.Within w0 ([] :: ts) w) (hf : w.front = some a)
    (hp : a.state = .pending)
    (hws : ws = { w with ticks := ts }.start a.id) (hk : ∀ w', C.Within w0 ts w' → Q () w') :
    (a.trigger.fire a.id ws).Safe C.rules Q X := by
  have hks : Kept { w0 with ticks := ts } ws := by
    rw [hws]
    exact ⟨hw.kept.calls, rfl, hw.kept.held, hw.kept.log.trans (List.prefix_append ..),
      hw.kept.records, (callers_inner w.log rfl).trans hw.kept.callers⟩
  have hact (hc : ∀ p, a.trigger.charRef = some p → (w.captured p.1 p.2).isSome) :
      C.inv (a.trigger.apply ws a.id) ∧ C.extra w0 (a.trigger.apply ws a.id) := by
    have hcalls : w.calls = w0.calls := hw.kept.calls
    have h := C.act hw.inv (.trigger ts a hw.kept.ticks (by rwa [hcalls]) hf hp hc)
    have hh : w.held = w0.held := hw.kept.held
    rw [hws]
    refine ⟨h.1, C.trans (hcalls ▸ List.suffix_rfl) hh ?_ hw.extra h.2⟩
    rw [Trigger.apply_held]
    exact hh
  have ha : ws.action a.id = some { a with state := .triggered } := by
    rw [hws]
    exact World.action_start _ hf
  have hlive : (ws.action a.id).isSome := by rw [ha]; rfl
  have hrec {dev : UUID} (hdev : a.trigger.onDevice = some dev) (hn : ws.ble.devices[dev]? = none) :
      C.crash ws .nullRecord :=
    C.other (.trigger w a dev hw.inv hf hp hdev (by rw [hws] at hn; exact hn)) ws
  have hcap (p : UUID × Device.CharRef) : ws.captured p.1 p.2 = w.captured p.1 p.2 := by
    rw [hws]; rfl
  cases ht : a.trigger with
  | autodisconn dev =>
    rw [ht] at hact
    have h := hact (by simp [Trigger.charRef])
    simp only [Trigger.fire, Prog.bind_apply, safe_bind]
    refine disconnect_safe h.1 ⟨fun _ _ _ => .autodisconn w a dev rfl hw.inv hf ht, ?_⟩
      fun b w' hw' => hk _ (Within.trans ⟨h.1, hks, h.2⟩ hw'.toAt)
    · simpa [Op.functionsFor] using ⟨by simp [Lasting], by simp⟩
  | scan runSeconds =>
    rw [ht] at hact
    have h := hact (by simp [Trigger.charRef])
    simp only [Trigger.fire, ble_apply, Prog.bind_apply, Out.bind_done, safe_bind]
    refine asyncCall_safe rfl hlive h.1 h.2 hks (fun r w' hr hw _ => ?_) fun r w' hr hl hw => ?_
    · rw [if_neg (by simpa using hr)]
      exact hk _ hw
    · rw [if_pos hr]
      simp only [Prog.bind_apply, safe_bind]
      exact closureOf_safe hl (hw fun w2 hw2 _ => hk w2 hw2)
  | stopScanDone =>
    rw [ht] at hact
    have h := hact (by simp [Trigger.charRef])
    exact completed_safe .success ha h.1 h.2 hks fun w2 hw2 _ => hk w2 hw2
  | stopScan =>
    rw [ht] at hact
    have h := hact (by simp [Trigger.charRef])
    simp only [Trigger.fire, ble_apply, Prog.bind_apply, Out.bind_done, safe_bind]
    exact asyncTrigger_safe rfl hlive h.1 h.2 hks (fun _ => rfl) hk
  | connect dev parameters =>
    rw [ht] at hact
    have h := hact (by simp [Trigger.charRef])
    simp only [Trigger.fire, Prog.bind_apply, safe_bind]
    exact asyncTrigger_safe rfl hlive h.1 h.2 hks (fun _ => rfl) hk
  | disconnect dev =>
    rw [ht] at hact
    have h := hact (by simp [Trigger.charRef])
    simp only [Trigger.fire, Prog.bind_apply, safe_bind]
    refine record_rule (hrec (by rw [ht]; rfl)) fun d hd => ?_
    simp only [Trigger.apply, World.connectionOf, hd, Option.bind_some] at h
    exact asyncTrigger_safe rfl hlive h.1 h.2 hks (fun _ => rfl) hk
  | read dev r =>
    rw [ht] at hact
    simp only [Trigger.fire, Prog.bind_apply, safe_bind]
    refine capturedUuid_safe (hrec (by rw [ht]; rfl)) (fun hn => ?_)
      fun d c hd hc => record_safe (hd ▸ rfl) fun d' hd' => ?_
    · rw [hws]
      exact C.freed hw.inv hf hp (by rw [ht]; rfl) ((hcap (dev, r)).symm.trans hn) ts
    · rw [hd] at hd'
      cases hd'
      have h := hact fun p hpr => by cases hpr; rw [← hcap, hc]; rfl
      simp only [Trigger.apply, hc, World.connectionOf, hd, Option.bind_some] at h
      exact asyncTrigger_safe rfl hlive h.1 h.2 hks (fun _ => rfl) hk
  | write dev r buffer =>
    rw [ht] at hact
    simp only [Trigger.fire, Prog.bind_apply, safe_bind]
    refine capturedUuid_safe (hrec (by rw [ht]; rfl)) (fun hn => ?_)
      fun d c hd hc => record_safe (hd ▸ rfl) fun d' hd' => ?_
    · rw [hws]
      exact C.freed hw.inv hf hp (by rw [ht]; rfl) ((hcap (dev, r)).symm.trans hn) ts
    · rw [hd] at hd'
      cases hd'
      have h := hact fun p hpr => by cases hpr; rw [← hcap, hc]; rfl
      simp only [Trigger.apply, hc, World.connectionOf, hd, Option.bind_some] at h
      -- the buffer is freed on both paths
      have hfree (w2 : World) (hw2 : C.Within w0 ts w2) (hl : C.Live a.id w2) :
          (closureOf a.id w2).Safe C.rules
            (fun _ w3 => (note (.freed a.id) w3).Safe C.rules Q X) X :=
        closureOf_safe hl (hk _ (hw2.act (.freed a.id) (.note ..)))
      refine asyncCall_safe rfl hlive h.1 h.2 hks (fun r w' hr hw hl => ?_)
        fun r w' hr _ hw => ?_
      · rw [if_neg (by simpa using hr)]
        simp only [Prog.bind_apply, safe_bind]
        exact hfree w' hw hl
      · rw [if_pos hr]
        simp only [Prog.bind_apply, safe_bind]
        exact hw hfree

/-! ## Reports -/

theorem invoke_queued_safe {cb : Callback} {arg : Arg} {role : Role} {Q : Unit → World → Prop}
    (hi : C.inv (w.invoke cb arg role)) (hx : C.extra w0 (w.invoke cb arg role))
    (hk0 : Kept { w0 with ticks := ts } w) (hf : C.Lasting cb)
    (hk : ∀ w', C.Within w0 ts w' → Q () w') (hX : cb = none → C.Within w0 ts w → X w) :
    (Callback.invoke cb arg role w).Safe C.rules Q X := by
  cases cb with
  | none => exact hX rfl ⟨hi, hk0, hx⟩
  | some f => exact invoke_applied_safe hf hi hx hk0 fun w' hw' _ => hk w' hw'

/-- The front action is completed, after an act that reaches as far as its callback. -/
theorem currentOp_safe (how : Outcome) {Q : Unit → World → Prop} (hi : C.inv (w.finishFront how))
    (hx : C.extra w0 (w.finishFront how)) (hk0 : Kept { w0 with ticks := ts } w)
    (hk : ∀ w', C.Within w0 ts w' → Q () w') : (how.runFront w).Safe C.rules Q X := by
  rw [runFront_eq]
  unfold World.finishFront at hi hx
  cases hf : w.front with
  | none => rw [hf] at hi hx; exact hk _ ⟨hi, hk0, hx⟩
  | some a =>
    rw [hf] at hi hx
    exact completed_safe how (w.action_of_front hf) hi hx hk0 fun w' hw' _ => hk w' hw'

/-- A guarded block that only changes the record. -/
theorem locked_updateRecord_safe {w' : World} {dev : UUID} {f : Device.Details → Device.Details}
    {Q : Unit → World → Prop} (he : C.Entered w) (h : C.inv w) (hh : w'.held = w.held)
    (hk : dev ∉ w'.held → Q () (w'.updateDevice dev f)) :
    (locked dev (updateRecord dev f) w').Safe C.rules Q X := by
  simp only [locked, Prog.bind_apply, Prog.get_apply, Out.bind_done, Prog.ite_apply,
    Prog.halt_apply]
  split
  · rename_i hd
    obtain ⟨w1, m, h1, hm, hh1⟩ := he
    exact C.other (.held w1 w m dev h1 hm hh1 h (hh ▸ hd)) w'
  · rename_i hd
    exact hk hd

theorem servicesStep_safe {dev : UUID} {wr : World} {Q : Unit → World → Prop}
    (he : C.Entered w0) (hrec : wr.ble.devices[dev]? = none → C.crash wr .nullRecord)
    (hi : C.inv ((QueuedOp.autoDiscoverServicesStep dev).apply wr))
    (hx : C.extra w0 ((QueuedOp.autoDiscoverServicesStep dev).apply wr))
    (hk0 : Kept { w0 with ticks := ts } wr) (hk : ∀ w', C.Within w0 ts w' → Q () w') :
    (autoDiscoverServicesStep dev wr).Safe C.rules Q X := by
  simp only [autoDiscoverServicesStep, performServiceDiscovery, Prog.bind_apply, safe_bind]
  refine record_rule hrec fun d hd => ?_
  simp only [QueuedOp.apply, World.connectionOf, hd, Option.bind_some] at hi hx
  refine callOut_safe hi fun r w' hw hc ha _ => ?_
  have hent := entered_of_held he (hw.rel.kept.held.trans hk0.held)
  have hend := hk _ (.call hk0 hx hw (C.act hw.inv (.services dev _ r wr.calls hc ha))
    ((Kept.servicesStep ..).trans (.report ..)))
  rw [Prog.ite_apply]
  unfold World.servicesStep at hend
  split
  · rename_i hr
    rw [if_pos hr] at hend
    exact hend
  · rename_i hr
    rw [if_neg hr] at hend
    simp only [Prog.bind_apply, safe_bind]
    exact locked_updateRecord_safe hent hw.inv rfl fun _ => hend

theorem charsStep_safe {dev : UUID} {wr : World} {Q : Unit → World → Prop}
    (he : C.Entered w0) (hrec : wr.ble.devices[dev]? = none → C.crash wr .nullRecord)
    (hi : C.inv ((QueuedOp.autoDiscoverCharacteristicsStep dev).apply wr))
    (hx : C.extra w0 ((QueuedOp.autoDiscoverCharacteristicsStep dev).apply wr))
    (hk0 : Kept { w0 with ticks := ts } wr) (hk : ∀ w', C.Within w0 ts w' → Q () w') :
    (autoDiscoverCharacteristicsStep dev wr).Safe C.rules Q X := by
  simp only [autoDiscoverCharacteristicsStep, performCharacteristicsDiscovery, Prog.bind_apply,
    safe_bind]
  refine record_rule hrec fun d hd => ?_
  simp only [QueuedOp.apply, World.connectionOf, hd, Option.bind_some] at hi hx
  refine callOut_safe hi fun r w' hw hc ha _ => ?_
  have hent := entered_of_held he (hw.rel.kept.held.trans hk0.held)
  have hend (hl : r.rc = 0 → dev ∉ w'.held) :=
    hk _ (.call hk0 hx hw (C.act hw.inv (.chars dev _ r wr.calls hc ha hl C.frees))
      ((Kept.charsStep ..).trans (.report ..)))
  rw [Prog.ite_apply]
  unfold World.charsStep at hend
  split
  · rename_i hr
    rw [if_pos hr] at hend
    exact hend fun h => absurd h hr
  · rename_i hr
    rw [if_neg hr] at hend
    simp only [Prog.bind_apply, safe_bind]
    exact locked_updateRecord_safe hent hw.inv rfl fun hl => hend fun _ => hl

/-- One turn of the loop over the copied queue. -/
theorem runReport_safe {op : QueuedOp} {rest : List QueuedOp} {Q : Unit → World → Prop}
    (he : C.Entered w0) (hgo : P.Ticks w0.calls ts) (hw : C.Within w0 ((op :: rest) :: ts) w)
    (hk : ∀ w', C.Within w0 (rest :: ts) w' → Q () w')
    (hX : ∀ w', op.Throws → w'.log.getLast? = some (.ran op) → C.Within w0 (rest :: ts) w' → X w') :
    (op.run ({ w with ticks := rest :: ts }.note (.ran op))).Safe C.rules Q X := by
  have hcalls : w.calls = w0.calls := hw.kept.calls
  have ha := C.act hw.inv (.ran op rest ts hw.kept.ticks (by rwa [hcalls]))
  have hk0 : Kept { w0 with ticks := rest :: ts } ({ w with ticks := rest :: ts }.note (.ran op)) :=
    ⟨hw.kept.calls, rfl, hw.kept.held, hw.kept.log.trans (List.prefix_append ..), hw.kept.records,
      (callers_inner w.log rfl).trans hw.kept.callers⟩
  have hh : w.held = w0.held := hw.kept.held
  have hx : C.extra w0 (op.apply ({ w with ticks := rest :: ts }.note (.ran op))) := by
    refine C.trans (hcalls ▸ List.suffix_rfl) hh ?_ hw.extra ha.2
    rw [QueuedOp.apply_held]
    exact hh
  have hf : C.Lasting op.function := fun frame hcb =>
    C.other (.reported w op rest ts frame hw.inv hw.kept.ticks hcb)
  have hrec (dev : UUID) (hdev : op.onDevice = some dev) (hn : w.ble.devices[dev]? = none) :
      C.crash ({ w with ticks := rest :: ts }.note (.ran op)) .nullRecord :=
    C.other (.report w op rest ts dev hw.inv hw.kept.ticks hdev hn) _
  cases op with
  | callback | readData | notification =>
    exact invoke_queued_safe ha.1 hx hk0 hf hk fun hcb => hX _ hcb (by simp)
  | autoDiscoverServicesStep dev => exact servicesStep_safe he (hrec dev rfl) ha.1 hx hk0 hk
  | autoDiscoverCharacteristicsStep dev => exact charsStep_safe he (hrec dev rfl) ha.1 hx hk0 hk
  | reportConnected => exact currentOp_safe .success ha.1 hx hk0 hk

theorem runReports_safe {q : List QueuedOp} {Q : Unit → World → Prop} (he : C.Entered w0)
    (hgo : P.Ticks w0.calls ts) (hw : C.Within w0 (q :: ts) w)
    (hk : ∀ w', C.Within w0 ([] :: ts) w' → Q () w')
    (hX : ∀ op q w', op.Throws → w'.log.getLast? = some (.ran op) →
      C.Within w0 (q :: ts) w' → X w') :
    (runReports q w).Safe C.rules Q X := by
  induction q generalizing w with
  | nil => exact hk _ hw
  | cons op rest ih =>
    have ht : w.ticks.tail = ts := by rw [hw.kept.ticks]; rfl
    simp only [runReports, Prog.bind_apply, Prog.modify_apply, note_apply, Out.bind_done, ht,
      safe_bind]
    exact runReport_safe he hgo hw (fun w' hw' => ih hw') (hX op rest)

/-! ## The front action -/

theorem tickAction_safe {Q : Unit → World → Prop} (hgo : P.Ticks w0.calls ts)
    (hw : C.Within w0 ([] :: ts) w)
    (hk : ∀ w', C.Within w0 ts w' → w.Pops w' → Q () w') :
    (tickAction { w with ticks := ts }).Safe C.rules Q X := by
  have hcalls : w.calls = w0.calls := hw.kept.calls
  have hgo' : P.Ticks w.calls ts := by rwa [hcalls]
  have hend {w2 : World} (ha : Stretch C.terms P w w2) (hc : w2.calls = w.calls) (ht : w2.ticks = ts)
      (hl : w2.held = w.held) (hlog : w.log <+: w2.log) (hcl : callers w2.log = callers w.log)
      (hd : w2.ble.devices = w.ble.devices) (hp : w.Pops w2) : Q () w2 := by
    have hs := C.act hw.inv ha
    have hh : w.held = w0.held := hw.kept.held
    exact hk _ ⟨hs.1, ⟨hc.trans hw.kept.calls, ht, hl.trans hh, hw.kept.log.trans hlog,
      fun dev h => by rw [hd]; exact hw.kept.records dev h, hcl.trans hw.kept.callers⟩,
      C.trans (hcalls ▸ List.suffix_rfl) hh (hl.trans hh) hw.extra hs.2⟩ hp
  simp only [tickAction, ble_apply, Prog.bind_apply, Out.bind_done]
  cases hq : w.ble.asyncActions with
  | nil =>
    refine hend (.endTick ts hw.kept.ticks hgo' hq) rfl rfl rfl List.prefix_rfl rfl rfl
      fun a rest h => ?_
    rw [hq] at h
    cases h
  | cons a rest =>
    have hf : w.front = some a := by rw [World.front, hq]; rfl
    have hnone {w2 : World} (hs : a.state ≠ .completed) : w.Pops w2 := fun b _ h hb => by
      rw [hq] at h
      cases h
      exact absurd hb hs
    simp only [Prog.ite_apply]
    split
    · rename_i hp
      have hp : a.state = .pending := by simpa [AsyncAction.Details.isPending] using hp
      simp only [AsyncAction.Details.run, AsyncAction.Details.isPending, hp, decide_true,
        Bool.not_true, Bool.false_eq_true, ↓reduceIte, Prog.bind_apply, Prog.modify_apply,
        note_apply, Out.bind_done, safe_bind]
      exact fire_safe hgo hw hf hp rfl fun w' hw' => hk w' hw' (hnone (by simp [hp]))
    · split
      · rename_i hd
        have hd : a.state = .completed := by simpa [AsyncAction.Details.isDone] using hd
        refine hend (.pop ts a rest hw.kept.ticks hgo' hq hd C.frees) rfl rfl rfl
          (List.prefix_append ..) (callers_inner w.log rfl) rfl fun b _ h _ => ?_
        rw [hq] at h
        cases h
        simp
      · rename_i hp hd
        have ht : a.state = .triggered := by
          cases hs : a.state <;>
            simp_all [AsyncAction.Details.isPending, AsyncAction.Details.isDone]
        exact hend (.wait ts a hw.kept.ticks hgo' hf ht) rfl rfl rfl List.prefix_rfl rfl rfl
          (hnone (by simp [ht]))

/-! ## Ticks -/

/-- A tick starts at `w`. -/
def Ticks (P : Policy) (w : World) : Prop :=
  (∃ w0, P.enter w0 (.api .processAsync) ∧ w = w0.note (.enter (.api .processAsync))) ∨
    ∃ w0, P.enter w0 (.api .shutdown) ∧ w0.calls = w.calls ∧ w0.ticks = w.ticks

omit [Gattlib] in
theorem Ticks.asked (h : Ticks P w) : P.Ticks w.calls w.ticks := by
  rcases h with ⟨w0, hm, rfl⟩ | ⟨w0, hm, ht⟩
  · exact ⟨w0, .inl hm, rfl, rfl⟩
  · exact ⟨w0, .inr hm, ht⟩

/-- A tick from `w` to `w'`: at `w1` it takes the reports, at `w2` it has run them. -/
structure Turn (C : Claim P) (w w1 : World) (r : Resp) (w2 w' : World) : Prop where
  polled : C.At (w.push .asyncProcessAll) w1
  ran : C.extra (w1.takeReports r) w2
  calls : w2.calls = w.calls
  ticks : w2.ticks = [] :: w.ticks
  ended : C.extra w2 w'
  pops : w2.Pops w'

/-- The rest of a tick whose reports run from `ws`, in the block of the copy. -/
theorem block_safe {ws : World} {q : List QueuedOp} {Q : Unit → World → Prop}
    (he : C.Entered w) (hgo : P.Ticks w.calls w.ticks) (hws : C.Within w (q :: w.ticks) ws)
    (hk : ∀ w' w2, C.At w w' → C.extra ws w2 → w2.calls = w.calls → w2.ticks = [] :: w.ticks →
      C.extra w2 w' → w2.Pops w' → Q () w')
    (hX : ∀ w', C.Thrown w w' → X w') :
    (runReports q ws).Safe C.rules
      (fun _ w2 => (tickAction { w2 with ticks := w2.ticks.tail }).Safe C.rules Q X)
      (fun w2 => X { w2 with ticks := w2.ticks.tail }) := by
  have hstart : C.Within ws (q :: w.ticks) ws :=
    ⟨hws.inv, ⟨rfl, hws.kept.ticks, rfl, List.prefix_rfl, fun _ h => h, rfl⟩, C.refl _⟩
  have hh : ws.held = w.held := hws.kept.held
  have hcs : ws.calls = w.calls := hws.kept.calls
  have hfrom {q' : List QueuedOp} {w2 : World} (hw2 : C.Within ws (q' :: w.ticks) w2) :
      C.Within w (q' :: w.ticks) w2 :=
    ⟨hw2.inv, ⟨hw2.kept.calls.trans hcs, hw2.kept.ticks, hw2.kept.held.trans hh,
      hws.kept.log.trans hw2.kept.log, fun dev h => hw2.kept.records dev (hws.kept.records dev h),
      hw2.kept.callers.trans hws.kept.callers⟩,
      C.trans (hcs ▸ List.suffix_rfl) hh (hw2.kept.held.trans hh) hws.extra hw2.extra⟩
  refine runReports_safe (hws.entered he) (by rwa [hcs]) hstart (fun w2 hw2 => ?_)
    fun op q' w2 hop hran hw2 => ?_
  · -- the block is left normally, with its copy run
    have hran := hw2.extra
    have hw2' : C.Within w2 ([] :: w.ticks) w2 :=
      ⟨hw2.inv, ⟨rfl, hw2.kept.ticks, rfl, List.prefix_rfl, fun _ h => h, rfl⟩, C.refl _⟩
    have hw2 := hfrom hw2
    have hh2 : w2.held = w.held := hw2.kept.held
    have hcs2 : w2.calls = w.calls := hw2.kept.calls
    rw [hw2.kept.ticks]
    refine tickAction_safe (by rwa [hcs2]) hw2' fun w3 hw3 hpop => ?_
    have hkept3 : Kept w w3 := ⟨hw3.kept.calls.trans hcs2, hw3.kept.ticks,
      hw3.kept.held.trans hh2, hw2.kept.log.trans hw3.kept.log,
      fun dev h => hw3.kept.records dev (hw2.kept.records dev h),
      hw3.kept.callers.trans hw2.kept.callers⟩
    have hx3 := C.trans (hcs2 ▸ List.suffix_rfl) hh2 hkept3.held hw2.extra hw3.extra
    exact hk _ w2 ⟨hw3.inv, hkept3, hx3⟩ hran hcs2 hw2.kept.ticks hw3.extra hpop
  · refine hX _ fun hc => ?_
    have hs := C.drop hc hw2.inv hw2.kept.ticks hran hop
    have hw2 := hfrom hw2
    have hh : w2.held = w.held := hw2.kept.held
    rw [hw2.kept.ticks]
    have hcs2 : w2.calls = w.calls := hw2.kept.calls
    exact ⟨⟨hs.1, ⟨hcs2, rfl, hh, hw2.kept.log, hw2.kept.records, hw2.kept.callers⟩,
      C.trans (hcs2 ▸ List.suffix_rfl) hh hh hw2.extra hs.2⟩, op, List.mem_of_getLast? hran, hop⟩

/-- gattlib has come back to a tick that started at `w`. -/
theorem tickRest_safe {w1 : World} {r : Resp} {Q : Unit → World → Prop}
    (he : C.Entered w) (hp : C.extra w (w.push .asyncProcessAll)) (hgo : P.Ticks w.calls w.ticks)
    (hw1 : C.At (w.push .asyncProcessAll) w1)
    (hc : w1.calls = .asyncProcessAll :: w.calls) (ha : P.ans w1 .asyncProcessAll r)
    (hk : ∀ w', C.At w w' → (∃ w1 r w2, C.Turn w w1 r w2 w') → Q () w')
    (hX : ∀ w', C.Thrown w w' → X w') :
    (tickRest (w1.back .asyncProcessAll r)).Safe C.rules Q X := by
  have hts : w1.ticks = w.ticks := hw1.rel.kept.ticks
  have hb := C.act hw1.inv (.takeReports r w.calls hc ha (by rwa [hts]))
  have hh : (w1.takeReports r).held = w.held := hw1.rel.kept.held
  have hx : C.extra w (w1.takeReports r) :=
    C.trans (hc ▸ List.suffix_cons ..) hw1.rel.kept.held hh (C.trans (List.suffix_cons ..)
      (w.push_held .asyncProcessAll) hw1.rel.kept.held hp hw1.rel.extra) hb.2
  have hstart : C.Within w (w1.ble.reportQueue :: w.ticks) (w1.takeReports r) :=
    ⟨hb.1, ⟨(hw1.rel.kept.back r).calls, congrArg (_ :: ·) hw1.rel.kept.ticks, hh,
      (hw1.rel.kept.back r).log, (hw1.rel.kept.back r).records, (hw1.rel.kept.back r).callers⟩, hx⟩
  rw [tickRest_eq, safe_bind, safe_leave]
  exact block_safe he hgo hstart (fun w' w2 hw' hran hcalls hts hend hpop =>
    hk w' hw' ⟨w1, r, w2, hw1, hran, hcalls, hts, hend, hpop⟩) hX

theorem processAsync_safe {Q : Unit → World → Prop} (h : C.inv w) (he : C.Entered w)
    (hgo : Ticks P w)
    (hk : ∀ w', C.At w w' → (∃ w1 r w2, C.Turn w w1 r w2 w') → Q () w')
    (hX : ∀ w', C.Thrown w w' → X w') :
    (processAsync w).Safe C.rules Q X := by
  rw [processAsync_eq, Prog.bind_apply, safe_bind]
  have hp := C.act h (.tick hgo)
  exact callOut_safe hp.1 fun r w1 hw1 hc ha _ =>
    tickRest_safe he hp.2 hgo.asked hw1 hc ha hk hX

end Claim

end

end Gattlibpp
