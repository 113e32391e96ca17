import Gattlibpp.Act.Fits

/-!
# Where asynchronous calls are made

Only a trigger makes an asynchronous call of gattlib. Every other act adds entries to the
log that are none, or leaves the log, the device records and the queued triggers alone.
-/

namespace Gattlibpp

open Open

/-- No asynchronous call is made from `w` to `w'`. -/
structure World.NoCall (w w' : World) : Prop where
  log : ∃ l, w'.log = w.log ++ l ∧ ∀ e, .call e ∈ l → e.action = none
  same : w'.log = w.log → w'.ble.devices = w.ble.devices ∧
    ∀ a ∈ w'.ble.asyncActions, ∃ b ∈ w.ble.asyncActions, b.id = a.id ∧ b.trigger = a.trigger

namespace World.NoCall

variable {w w' w'' : World}

/-- An entry is added. -/
theorem noted {o : Obs} {l : List Obs} (hlog : w'.log = w.log ++ o :: l)
    (hl : ∀ e, .call e ∈ o :: l → e.action = none) : w.NoCall w' where
  log := ⟨o :: l, hlog, hl⟩
  same h := by
    rw [hlog] at h
    simp at h

/-- Nothing is noted, and the actions keep their triggers. -/
theorem kept (hlog : w'.log = w.log) (hd : w'.ble.devices = w.ble.devices)
    (hq : ∀ a ∈ w'.ble.asyncActions, ∃ b ∈ w.ble.asyncActions, b.id = a.id ∧ b.trigger = a.trigger) :
    w.NoCall w' where
  log := ⟨[], by rw [hlog, List.append_nil], by simp⟩
  same _ := ⟨hd, hq⟩

theorem of_eq (hlog : w'.log = w.log) (hd : w'.ble.devices = w.ble.devices)
    (hq : w'.ble.asyncActions = w.ble.asyncActions) : w.NoCall w' :=
  kept hlog hd fun a ha => ⟨a, hq ▸ ha, rfl, rfl⟩

/-- More of the same after an entry. -/
theorem then_log (h : w.NoCall w') (hne : w'.log ≠ w.log)
    (hl : ∃ l, w''.log = w'.log ++ l ∧ ∀ e, .call e ∈ l → e.action = none) : w.NoCall w'' := by
  obtain ⟨l, hlog, hcall⟩ := h.log
  obtain ⟨l', hlog', hcall'⟩ := hl
  refine ⟨⟨l ++ l', by rw [hlog', hlog, List.append_assoc], fun e he => ?_⟩, fun hsame => ?_⟩
  · exact (List.mem_append.mp he).elim (hcall e) (hcall' e)
  · rw [hlog', hlog, List.append_assoc] at hsame
    have hnil : l ++ l' = [] := List.append_cancel_left (hsame.trans (List.append_nil _).symm)
    rw [(List.append_eq_nil_iff.mp hnil).1, List.append_nil] at hlog
    exact absurd hlog hne

end World.NoCall

/-- Calling a function of the user is no asynchronous call. -/
theorem World.invoke_log (w : World) (cb : Callback) (arg : Arg) (role : Role) :
    ∃ l, (w.invoke cb arg role).log = w.log ++ l ∧ ∀ e, .call e ∈ l → e.action = none := by
  unfold invoke
  split
  · exact ⟨_, rfl, by simp [Call.action]⟩
  · exact ⟨[], (List.append_nil _).symm, by simp⟩

theorem World.finish_log (w : World) (how : Outcome) (t : ActionId) :
    ∃ l, (w.finish how t).log = w.log ++ l ∧ ∀ e, .call e ∈ l → e.action = none :=
  (w.complete t).invoke_log ..

theorem World.finish_noCall (w : World) (how : Outcome) (t : ActionId) :
    w.NoCall (w.finish how t) := by
  unfold finish invoke
  split
  · exact .noted rfl (by simp [Call.action])
  · refine .kept rfl rfl (List.forall_mem_map.mpr fun x hx => ⟨x, hx, ?_⟩)
    split <;> exact ⟨rfl, rfl⟩

theorem World.finishFront_log (w : World) (how : Outcome) :
    ∃ l, (w.finishFront how).log = w.log ++ l ∧ ∀ e, .call e ∈ l → e.action = none := by
  unfold finishFront
  split
  · exact ⟨[], (List.append_nil _).symm, by simp⟩
  · exact w.finish_log ..

theorem QueuedOp.apply_log (w : World) (op : QueuedOp) :
    ∃ l, (op.apply w).log = w.log ++ l ∧ ∀ e, .call e ∈ l → e.action = none := by
  cases op with
  | callback | readData | notification => exact w.invoke_log ..
  | autoDiscoverServicesStep | autoDiscoverCharacteristicsStep =>
    exact ⟨_, rfl, by simp [Call.action]⟩
  | reportConnected => exact w.finishFront_log _

/-- An act makes an asynchronous call only if it is a trigger. -/
theorem Stretch.noCall [Gattlib] {T : Terms} {P : Policy} {w w' : World} (h : Stretch T P w w') :
    w.NoCall w' ∨ ∃ ts a, w.ticks = [] :: ts ∧ w.front = some a ∧ a.state = .pending ∧
      w' = a.trigger.apply ({ w with ticks := ts }.start a.id) a.id := by
  have hnote {o : Obs} {w1 : World} (hlog : w1.log = w.log ++ [o]) (ho : ∀ e, o ≠ .call e) :
      w.NoCall w1 ∧ w1.log ≠ w.log := by
    refine ⟨.noted hlog fun e he => absurd (List.mem_singleton.mp he).symm (ho e), ?_⟩
    rw [hlog]
    simp
  cases h with
  | trigger ts a hts _ hf hp => exact .inr ⟨ts, a, hts, hf, hp, rfl⟩
  | enter | raised | freed | eventReadNone | report | notify =>
    exact .inl (hnote rfl (by simp)).1
  | event of ev how =>
    have hev : (ev.apply (w.note (.enter (.event of ev)))).log = w.log ++ [.enter (.event of ev)] := by
      cases ev <;> rfl
    have hn := hnote hev (by simp)
    exact .inl (hn.1.then_log hn.2 (World.finishFront_log ..))
  | eventDiscovered of addr name =>
    have hlog : ((w.note (.enter (.event of (.deviceDiscovered addr name)))).named (addr.getD "")
        (name.getD "")).log = w.log ++ [.enter (.event of (.deviceDiscovered addr name))] := rfl
    have hn := hnote hlog (by simp)
    exact .inl (hn.1.then_log hn.2 (World.invoke_log ..))
  | eventAuto of c =>
    exact .inl (.noted (List.append_assoc ..) (by simp))
  | eventRead of buf a =>
    split
    · exact .inl (.noted (List.append_assoc ..) (by simp))
    · exact .inl (hnote rfl (by simp)).1
  | call e he =>
    refine .inl (.noted (o := .call e) rfl fun e' he' => ?_)
    simp only [List.mem_singleton, Obs.call.injEq] at he'
    subst he'
    cases e' <;> first | rfl | exact he.elim | exact he
  | tick => exact .inl (.noted (o := .call .asyncProcessAll) rfl (by simp [Call.action]))
  | back | takeReports | adapterOpened | adapterClosed => exact .inl (hnote rfl (by simp)).1
  | refused e r cs t =>
    have hlog : (e.refusedApply (w.back e r)).log = w.log ++ [.ret e r] := by cases e <;> rfl
    have hn := hnote hlog (by simp)
    exact .inl (hn.1.then_log hn.2 (World.finish_log ..))
  | ran op rest ts =>
    have hlog : ({ w with ticks := rest :: ts }.note (.ran op)).log = w.log ++ [.ran op] := rfl
    have hn := hnote hlog (by simp)
    exact .inl (hn.1.then_log hn.2 (op.apply_log _))
  | pop => exact .inl (hnote rfl (by simp)).1
  | wait ts a =>
    refine .inl (.kept rfl rfl ?_)
    refine List.forall_mem_map.mpr fun x hx => ⟨x, hx, ?_⟩
    split <;> exact ⟨rfl, rfl⟩
  | services dev c r =>
    obtain ⟨devices, heq⟩ := (w.back (.discoverPrimary dev c) r).servicesStep_eq dev r
    rw [heq]
    exact .inl (.noted (List.append_assoc ..) (by simp))
  | chars dev c r =>
    obtain ⟨devices, heq⟩ := (w.back (.discoverChar dev c) r).charsStep_eq dev r
    rw [heq]
    exact .inl (.noted (List.append_assoc ..) (by simp))
  | endTick | setAutoDiscover | setConnectionParameters | deviceName | lock | unlock =>
    exact .inl (.of_eq rfl rfl rfl)
  | inert _ hi => exact .inl (.of_eq hi.log hi.devices hi.asyncActions)

/-- The log only grows. -/
theorem Stretch.log_grows [Gattlib] {T : Terms} {P : Policy} {w w' : World} (h : Stretch T P w w') :
    w.log <+: w'.log := by
  rcases h.noCall with hn | ⟨ts, a, -, -, -, rfl⟩
  · obtain ⟨l, hl, -⟩ := hn.log
    exact ⟨l, hl.symm⟩
  · refine (List.prefix_append w.log [.triggered a.id]).trans ?_
    cases a.trigger with
    | autodisconn => exact List.prefix_rfl
    | stopScanDone =>
      obtain ⟨l, hl, -⟩ := ({ w with ticks := ts }.start a.id).finish_log .success a.id
      exact ⟨l, hl.symm⟩
    | read | write =>
      simp only [Trigger.apply]
      split
      · exact List.prefix_rfl
      · exact List.prefix_append ..
    | _ => exact List.prefix_append ..

/-! ## Open calls -/

section
variable {w : World} {e : Call}

theorem World.push_logged {e' : Call} (h : e ∈ (w.push e').calls) :
    e ∈ w.calls ∨ .call e ∈ (w.push e').log := by
  rcases List.mem_cons.mp h with rfl | h
  · exact .inr (by simp)
  · exact .inl h

theorem World.invoke_logged {cb : Callback} {arg : Arg} {role : Role}
    (h : e ∈ (w.invoke cb arg role).calls) :
    e ∈ w.calls ∨ .call e ∈ (w.invoke cb arg role).log := by
  unfold invoke at h ⊢
  split at h
  · exact World.push_logged h
  · exact .inl h

theorem World.finishFront_logged {how : Outcome} (h : e ∈ (w.finishFront how).calls) :
    e ∈ w.calls ∨ .call e ∈ (w.finishFront how).log := by
  unfold finishFront at h ⊢
  split at h
  · exact .inl h
  · exact World.invoke_logged h

end

/-- A call that is open after an act was open before, or is in the log. -/
theorem Stretch.calls_logged [Gattlib] {T : Terms} {P : Policy} {w w' : World}
    (ha : Stretch T P w w') {e : Call}
    (h : e ∈ w'.calls) : e ∈ w.calls ∨ .call e ∈ w'.log := by
  cases ha with
  | event of ev =>
    have hc : (ev.apply (w.note (.enter (.event of ev)))).calls = w.calls := by cases ev <;> rfl
    exact hc ▸ World.finishFront_logged h
  | eventRead => split at h <;> exact .inl h
  | eventDiscovered of addr name =>
    exact World.invoke_logged (w := (w.note (.enter (.event of (.deviceDiscovered addr name)))).named
      (addr.getD "") (name.getD "")) h
  | call | tick => exact World.push_logged h
  | back | takeReports | adapterOpened | adapterClosed => exact .inl (List.mem_of_mem_tail h)
  | refused e' r cs t =>
    have hc : (e'.refusedApply (w.back e' r)).calls = w.calls.tail := by cases e' <;> rfl
    refine (World.invoke_logged (w := (e'.refusedApply (w.back e' r)).complete t) h).imp_left ?_
    exact fun hm => List.mem_of_mem_tail (hc ▸ hm)
  | ran op rest ts =>
    cases op with
    | callback | readData | notification =>
      exact World.invoke_logged (w := { w with ticks := rest :: ts }.note (.ran _)) h
    | autoDiscoverServicesStep | autoDiscoverCharacteristicsStep =>
      exact World.push_logged (w := { w with ticks := rest :: ts }.note (.ran _)) h
    | reportConnected =>
      exact World.finishFront_logged (w := { w with ticks := rest :: ts }.note (.ran _)) h
  | trigger ts a =>
    cases htr : a.trigger with
    | autodisconn =>
      rw [htr] at h
      exact .inl h
    | stopScanDone =>
      rw [htr] at h
      exact World.invoke_logged (w := ({ w with ticks := ts }.start a.id).complete a.id) h
    | read | write =>
      rw [htr] at h
      simp only [Trigger.apply] at h ⊢
      split at h
      · exact .inl h
      · exact World.push_logged (w := { w with ticks := ts }.start a.id) h
    | _ =>
      rw [htr] at h
      exact World.push_logged (w := { w with ticks := ts }.start a.id) h
  | services dev c r =>
    obtain ⟨devices, heq⟩ := (w.back (.discoverPrimary dev c) r).servicesStep_eq dev r
    rw [heq] at h
    exact .inl (List.mem_of_mem_tail h)
  | chars dev c r =>
    obtain ⟨devices, heq⟩ := (w.back (.discoverChar dev c) r).charsStep_eq dev r
    rw [heq] at h
    exact .inl (List.mem_of_mem_tail h)
  | inert _ hi => exact .inl (hi.calls ▸ h)
  | _ => exact .inl h

/-- From `w` to `w'` open calls come back, and a call is made at most. A discovery of characteristics
is one a tick makes. -/
def World.Opens (P : Policy) (w w' : World) : Prop :=
  w'.calls <:+ w.calls ∨ ∃ e cs, w'.calls = e :: cs ∧ cs <:+ w.calls ∧
    ∀ dev c, e = .discoverChar dev c → cs = w.calls ∧ ∃ ts, P.Ticks w.calls ts

namespace World.Opens

variable {P : Policy} {w w' : World}

theorem of_eq (h : w'.calls = w.calls) : w.Opens P w' := .inl (h ▸ List.suffix_rfl)

theorem of_tail (h : w'.calls = w.calls.tail) : w.Opens P w' := .inl (h ▸ List.tail_suffix _)

/-- A call is made, which is no discovery of characteristics. -/
theorem push {e : Call} {cs : List Call} (h : w'.calls = e :: cs) (hcs : cs <:+ w.calls)
    (he : ∀ dev c, e ≠ .discoverChar dev c) : w.Opens P w' :=
  .inr ⟨e, cs, h, hcs, fun dev c hd => absurd hd (he dev c)⟩

/-- A function is called once `w` has come to `w1`. -/
theorem invoke (w1 : World) (h : w1.calls <:+ w.calls) (cb : Callback) (arg : Arg) (role : Role) :
    w.Opens P (w1.invoke cb arg role) := by
  unfold World.invoke
  split
  · exact push rfl h (by simp)
  · exact .inl h

theorem finish (w1 : World) (h : w1.calls <:+ w.calls) (how : Outcome) (t : ActionId) :
    w.Opens P (w1.finish how t) := invoke (w1.complete t) h ..

theorem finishFront (w1 : World) (h : w1.calls <:+ w.calls) (how : Outcome) :
    w.Opens P (w1.finishFront how) := by
  unfold World.finishFront
  split
  · exact .inl h
  · exact finish w1 h ..

end World.Opens

theorem Stretch.opens [Gattlib] {T : Terms} {P : Policy} {w w' : World} (ha : Stretch T P w w') :
    w.Opens P w' := by
  have hsame : w.calls <:+ w.calls := List.suffix_rfl
  cases ha with
  | event of ev how =>
    have hc : (ev.apply (w.note (.enter (.event of ev)))).calls = w.calls := by cases ev <;> rfl
    exact .finishFront _ (hc ▸ hsame) how
  | eventRead => split <;> exact .of_eq rfl
  | eventDiscovered of addr name =>
    exact .invoke ((w.note (.enter (.event of (.deviceDiscovered addr name)))).named
      (addr.getD "") (name.getD "")) hsame ..
  | call e he =>
    refine .push rfl hsame fun dev c hd => ?_
    subst hd
    exact he
  | tick => exact .push rfl hsame (by simp)
  | back | takeReports | adapterOpened | adapterClosed => exact .of_tail rfl
  | refused e r cs t =>
    have hc : (e.refusedApply (w.back e r)).calls = w.calls.tail := by cases e <;> rfl
    exact .finish _ (hc ▸ List.tail_suffix _) ..
  | ran op rest ts _ ht =>
    cases op with
    | callback | readData | notification =>
      exact .invoke ({ w with ticks := rest :: ts }.note (.ran _)) hsame ..
    | autoDiscoverServicesStep => exact .push rfl hsame (by simp)
    | autoDiscoverCharacteristicsStep => exact .inr ⟨_, _, rfl, hsame, fun _ _ _ => ⟨rfl, ts, ht⟩⟩
    | reportConnected =>
      exact .finishFront ({ w with ticks := rest :: ts }.note (.ran _)) hsame _
  | trigger ts a =>
    cases a.trigger with
    | autodisconn => exact .of_eq rfl
    | stopScanDone => exact .finish ({ w with ticks := ts }.start a.id) hsame ..
    | read | write =>
      simp only [Trigger.apply]
      split
      · exact .of_eq rfl
      · exact .push rfl hsame (by simp)
    | _ => exact .push rfl hsame (by simp)
  | services dev c r =>
    obtain ⟨devices, heq⟩ := (w.back (.discoverPrimary dev c) r).servicesStep_eq dev r
    rw [heq]
    exact .of_tail rfl
  | chars dev c r =>
    obtain ⟨devices, heq⟩ := (w.back (.discoverChar dev c) r).charsStep_eq dev r
    rw [heq]
    exact .of_tail rfl
  | inert _ hi => exact .of_eq hi.calls
  | _ => exact .of_eq rfl

/-- Every open call is in the log. -/
def World.Logged (w : World) : Prop := ∀ e ∈ w.calls, .call e ∈ w.log

theorem World.Logged.act [Gattlib] {P : Policy} {w w' : World} (h : w.Logged) (ha : Act P w w') :
    w'.Logged := fun e he =>
  (ha.calls_logged he).elim (fun hm => ha.log_grows.subset (h e hm)) id

end Gattlibpp
