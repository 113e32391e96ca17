import Mathlib.Data.List.TakeWhile
import Gattlibpp.Act.Calls
import Gattlibpp.Queue.Contract

/-!
# Actions that are due

An answered action is at the front, and Completed, or a step that completes it waits in the
report queue. `Due t n` says that `n` more ticks bring `t` to Completed, or that it has been
popped. Every act keeps this, whatever else is in the queues, unless gattlib delivers
another completion; a tick that takes the reports brings it one step nearer.
-/

namespace Gattlibpp

open Open

/-! ## Steps of the chain -/

/-- How many more ticks a step needs to complete the front, once a tick has taken it. -/
def QueuedOp.stepsLeft : QueuedOp → Option Nat
  | .autoDiscoverServicesStep _ => some 2
  | .autoDiscoverCharacteristicsStep _ => some 1
  | .reportConnected => some 0
  | _ => none

/-- The same for a step whose call is open. -/
def Call.stepsLeft : Call → Option Nat
  | .discoverPrimary .. => some 2
  | .discoverChar .. => some 1
  | _ => none

namespace World

/-- A step that completes the front within `n` ticks waits or is under way. -/
def Chained (w : World) (n : Nat) : Prop :=
  (∃ op ∈ w.ble.reportQueue, ∃ k ∈ op.stepsLeft, k + 1 ≤ n) ∨
  (∃ op ∈ w.ticks.flatten, ∃ k ∈ op.stepsLeft, k ≤ n) ∨
  ∃ e ∈ w.calls, ∃ k ∈ e.stepsLeft, k ≤ n

/-- `t` has been popped, or is the front and within `n` ticks Completed. -/
def Due (w : World) (t : ActionId) (n : Nat) : Prop :=
  t ∈ poppedIds w.log ∨ ∃ a, w.front = some a ∧ a.id = t ∧
    (a.state = .completed ∨ a.state = .triggered ∧ w.Chained n)

end World

/-- The log from the answer to `t` on. -/
def since (t : ActionId) (log : List Obs) : List Obs := log.dropWhile (·.answeredId ≠ some t)

/-- Since the answer to `t` a function that was run from the report queue threw. -/
def ThrownSince (t : ActionId) (log : List Obs) : Prop := ∃ op, .ran op ∈ since t log ∧ op.Throws

theorem since_concat {t : ActionId} {log : List Obs} (h : t ∈ answeredIds log) (o : Obs) :
    since t (log ++ [o]) = since t log ++ [o] := by
  obtain ⟨x, hx, hxt⟩ := List.mem_filterMap.mp h
  rw [since, List.dropWhile_append]
  have hne : (log.dropWhile (·.answeredId ≠ some t)).isEmpty = false := by
    rw [Bool.eq_false_iff]
    intro hnil
    have hall := List.dropWhile_eq_nil_iff.mp (List.isEmpty_iff.mp hnil) x hx
    exact of_decide_eq_true hall hxt
  rw [hne]
  rfl

theorem since_grows {l l' : List Obs} (t : ActionId) (h : l <+: l') : since t l <+: since t l' := by
  obtain ⟨l2, rfl⟩ := h
  rw [since, since, List.dropWhile_append]
  split
  · rename_i hnil
    rw [List.isEmpty_iff.mp hnil]
    exact List.nil_prefix
  · exact List.prefix_append ..

theorem ThrownSince.mono {t : ActionId} {l l' : List Obs} (h : ThrownSince t l) (hl : l <+: l') :
    ThrownSince t l' := by
  obtain ⟨op, hop, ht⟩ := h
  exact ⟨op, (since_grows t hl).subset hop, ht⟩

/-- What is thrown last is thrown since the answer. -/
theorem thrownSince_of_last {t : ActionId} {log : List Obs} {op : QueuedOp}
    (h : t ∈ answeredIds log) (hl : log.getLast? = some (.ran op)) (ht : op.Throws) :
    ThrownSince t log := by
  obtain ⟨l, rfl⟩ := List.getLast?_eq_some_iff.mp hl
  have hm : t ∈ answeredIds l := by simpa using h
  rw [ThrownSince]
  exact ⟨op, by rw [since_concat hm]; simp, ht⟩

section
variable {w w' : World} {t : ActionId} {n : Nat}

theorem World.Chained.mono (h : w.Chained n)
    (hr : ∀ op ∈ w.ble.reportQueue, op ∈ w'.ble.reportQueue)
    (ht : ∀ op ∈ w.ticks.flatten, op ∈ w'.ticks.flatten)
    (hc : ∀ e ∈ w.calls, e.stepsLeft ≠ none → e ∈ w'.calls) : w'.Chained n := by
  rcases h with ⟨op, hop, k⟩ | ⟨op, hop, k⟩ | ⟨e, he, k, hk, hn⟩
  · exact .inl ⟨op, hr op hop, k⟩
  · exact .inr (.inl ⟨op, ht op hop, k⟩)
  · exact .inr (.inr ⟨e, hc e he (by rw [hk]; simp), k, hk, hn⟩)

/-! ## The front -/

theorem World.front_updateAction (f : AsyncAction.Details → AsyncAction.Details) (b : ActionId) :
    (w.updateAction b f).front = w.front.map fun x => if x.id = b then f x else x := by
  simp only [World.front, World.updateAction, World.updateBle_ble, List.head?_map]

theorem World.invoke_front (cb : Callback) (arg : Arg) (role : Role) :
    (w.invoke cb arg role).front = w.front := by
  unfold World.invoke
  split <;> rfl

theorem World.front_finish (w : World) {a : AsyncAction.Details} (hf : w.front = some a) (how : Outcome) :
    (w.finish how a.id).front = some { a with state := .completed } := by
  rw [World.finish, World.invoke_front, World.complete, World.front_updateAction, hf,
    Option.map_some, if_pos rfl]

theorem World.front_finishFront (w : World) {a : AsyncAction.Details} (hf : w.front = some a) (how : Outcome) :
    (w.finishFront how).front = some { a with state := .completed } := by
  rw [World.finishFront, hf]
  exact w.front_finish hf how

theorem World.invoke_mono (cb : Callback) (arg : Arg) (role : Role) (h : w.Chained n) :
    (w.invoke cb arg role).Chained n := by
  unfold World.invoke
  split
  · exact h.mono (fun _ h => h) (fun _ h => h) fun _ h _ => List.mem_cons_of_mem _ h
  · exact h

namespace World.Due

/-- The front stays, and the steps that wait. -/
theorem keep (h : w.Due t n) (hlog : w.log <+: w'.log)
    (hf : ∀ a, w.front = some a → a.id = t → (a.state = .completed ∨ a.state = .triggered) →
      ∃ b, w'.front = some b ∧ b.id = a.id ∧
        (b.state = .completed ∨ b.state = a.state ∧ (w.Chained n → w'.Chained n))) :
    w'.Due t n := by
  rcases h with hp | ⟨a, ha, hid, hs⟩
  · exact .inl (marks_mono hlog hp)
  · obtain ⟨b, hb, hbid, hbs⟩ := hf a ha hid (hs.imp_right And.left)
    refine .inr ⟨b, hb, hbid.trans hid, ?_⟩
    rcases hbs with hc | ⟨heq, hch⟩
    · exact .inl hc
    · rw [heq]
      exact hs.imp_right fun ⟨hr, h⟩ => ⟨hr, hch h⟩

/-- The queue stays, and the steps that wait. -/
theorem same (h : w.Due t n) (hlog : w.log <+: w'.log)
    (hq : w'.ble.asyncActions = w.ble.asyncActions) (hc : w.Chained n → w'.Chained n) :
    w'.Due t n :=
  h.keep hlog fun a ha _ _ => ⟨a, by rwa [World.front, hq], rfl, .inr ⟨rfl, hc⟩⟩

/-- Some action is completed. -/
theorem finish (h : w.Due t n) (how : Outcome) (b : ActionId) : (w.finish how b).Due t n := by
  have hlog : w.log <+: (w.finish how b).log := by
    obtain ⟨l, hl, -⟩ := w.finish_log how b
    exact ⟨l, hl.symm⟩
  refine h.keep hlog fun a ha _ hs => ?_
  rw [World.finish, World.invoke_front, World.complete, World.front_updateAction, ha]
  refine ⟨if a.id = b then { a with state := .completed } else a, rfl, ?_, ?_⟩
  · split <;> rfl
  · split
    · exact .inl rfl
    · exact .inr ⟨rfl, fun hch => World.invoke_mono _ _ _ hch⟩

theorem finishFront (h : w.Due t n) (how : Outcome) : (w.finishFront how).Due t n := by
  unfold World.finishFront
  split
  · exact h
  · exact h.finish ..

/-- Where the front is completed it is due at once. -/
theorem of_finish {a : AsyncAction.Details} (hf : w.front = some a) (how : Outcome) (n : Nat) :
    (w.finish how a.id).Due a.id n :=
  .inr ⟨{ a with state := .completed }, w.front_finish hf how, rfl, .inl rfl⟩

theorem note (h : w.Due t n) (o : Obs) : (w.note o).Due t n :=
  h.same (List.prefix_append ..) rfl id

theorem push (h : w.Due t n) (e : Call) : (w.push e).Due t n :=
  h.same (List.prefix_append ..) rfl fun hc =>
    hc.mono (fun _ h => h) (fun _ h => h) fun _ h _ => List.mem_cons_of_mem _ h

theorem invoke (h : w.Due t n) (cb : Callback) (arg : Arg) (role : Role) :
    (w.invoke cb arg role).Due t n := by
  unfold World.invoke
  split
  · exact h.push _
  · exact h

theorem report (h : w.Due t n) (op : QueuedOp) : (w.report op).Due t n :=
  h.same (List.prefix_append ..) rfl fun hc =>
    hc.mono (fun _ h => List.mem_append_left _ h) (fun _ h => h) fun _ h _ => h

/-- A call comes back that is no step. -/
theorem back (h : w.Due t n) {e : Call} {cs : List Call} (hc : w.calls = e :: cs)
    (he : e.stepsLeft = none) (r : Resp) : (w.back e r).Due t n := by
  refine h.same (List.prefix_append ..) rfl fun hch => ?_
  refine hch.mono (fun _ h => h) (fun _ h => h) fun e' he' hne => ?_
  rw [hc] at he'
  rw [World.back_calls, hc]
  rcases List.mem_cons.mp he' with rfl | he'
  · exact absurd he hne
  · exact he'

/-- A tick takes the reports, and is one step nearer to what waits there. -/
theorem takeReports (h : w.Due t (n + 1)) (hts : w.ticks = []) (hc : ∀ e ∈ w.calls, e.stepsLeft = none)
    (r : Resp) : (w.takeReports r).Due t n := by
  rcases h with hp | ⟨a, ha, hid, hs⟩
  · exact .inl (marks_mono (List.prefix_append ..) hp)
  · refine .inr ⟨a, ha, hid, hs.imp_right fun ⟨hr, hch⟩ => ⟨hr, ?_⟩⟩
    rcases hch with ⟨op, hop, k, hk, hn⟩ | ⟨op, hop, -⟩ | ⟨e, he, k, hk, -⟩
    · refine .inr (.inl ⟨op, ?_, k, hk, by omega⟩)
      rw [World.takeReports_ticks, List.flatten_cons]
      exact List.mem_append_left _ hop
    · rw [hts] at hop
      cases hop
    · rw [hc e he] at hk
      cases hk

/-- Taking the reports never puts off what is due. -/
theorem takeReports_le (h : w.Due t n) {cs : List Call} (hc : w.calls = .asyncProcessAll :: cs)
    (r : Resp) : (w.takeReports r).Due t n := by
  refine h.same (List.prefix_append ..) rfl ?_
  rintro (⟨op, hop, k, hk, hn⟩ | ⟨op, hop, k⟩ | ⟨e, he, k, hk, hn⟩)
  · refine .inr (.inl ⟨op, ?_, k, hk, by omega⟩)
    rw [World.takeReports_ticks, List.flatten_cons]
    exact List.mem_append_left _ hop
  · refine .inr (.inl ⟨op, ?_, k⟩)
    rw [World.takeReports_ticks, List.flatten_cons]
    exact List.mem_append_right _ hop
  · refine .inr (.inr ⟨e, ?_, k, hk, hn⟩)
    rw [hc] at he
    rw [World.takeReports_calls, hc]
    rcases List.mem_cons.mp he with rfl | he
    · cases hk
    · exact he

/-- The steps that wait, and perhaps the one that a tick now runs. -/
theorem next {op : QueuedOp} {ops : List QueuedOp} {ts : List (List QueuedOp)}
    (hts : w.ticks = (op :: ops) :: ts) (h : w.Chained n) :
    ({ w with ticks := ops :: ts }.note (.ran op)).Chained n ∨ ∃ k ∈ op.stepsLeft, k ≤ n := by
  rcases h with h | ⟨op', hop, hk⟩ | h
  · exact .inl (.inl h)
  · rw [hts, List.flatten_cons, List.cons_append] at hop
    rcases List.mem_cons.mp hop with rfl | hop
    · exact .inr hk
    · exact .inl (.inr (.inl ⟨op', hop, hk⟩))
  · exact .inl (.inr (.inr h))

/-- A step makes its call. -/
theorem step (h : w.Due t n) {op : QueuedOp} {ops : List QueuedOp} {ts : List (List QueuedOp)}
    (hts : w.ticks = (op :: ops) :: ts) {e : Call} (he : e.stepsLeft = op.stepsLeft) :
    (({ w with ticks := ops :: ts }.note (.ran op)).push e).Due t n := by
  refine h.same ((List.prefix_append ..).trans (List.prefix_append ..)) rfl fun hch => ?_
  rcases next hts hch with hch | ⟨k, hk, hn⟩
  · exact hch.mono (fun _ h => h) (fun _ h => h) fun _ h _ => List.mem_cons_of_mem _ h
  · exact .inr (.inr ⟨e, List.mem_cons_self, k, he ▸ hk, hn⟩)

/-- The tick runs its next report. -/
theorem ran (h : w.Due t n) {op : QueuedOp} {ops : List QueuedOp} {ts : List (List QueuedOp)}
    (hts : w.ticks = (op :: ops) :: ts) :
    (op.apply ({ w with ticks := ops :: ts }.note (.ran op))).Due t n := by
  have hlog : w.log <+: ({ w with ticks := ops :: ts }.note (.ran op)).log := List.prefix_append ..
  have hother (hop : op.stepsLeft = none) :
      ({ w with ticks := ops :: ts }.note (.ran op)).Due t n := by
    refine h.same hlog rfl fun hch => (next hts hch).resolve_right ?_
    rw [hop]
    simp
  have hinvoke (hop : op.stepsLeft = none) (cb : Callback) (arg : Arg) (role : Role) :
      (({ w with ticks := ops :: ts }.note (.ran op)).invoke cb arg role).Due t n := by
    unfold World.invoke
    split
    · exact (hother hop).push _
    · exact hother hop
  cases op with
  | callback | readData | notification => exact hinvoke rfl ..
  | autoDiscoverServicesStep | autoDiscoverCharacteristicsStep => exact h.step hts rfl
  | reportConnected =>
    rcases h with hp | ⟨a, ha, rfl, -⟩
    · exact finishFront (.inl (marks_mono hlog hp)) .success
    · have hf : ({ w with ticks := ops :: ts }.note (.ran .reportConnected)).front = some a := ha
      simp only [QueuedOp.apply, World.finishFront, hf]
      exact of_finish hf .success n

/-- A step ends with the next one. -/
theorem stepOn (h : w.Due t n) {e : Call} {cs : List Call} (hc : w.calls = e :: cs) (r : Resp)
    {op : QueuedOp} (hop : ∀ k ∈ e.stepsLeft, ∃ k' ∈ op.stepsLeft, k' + 1 ≤ k) {w1 : World}
    (hq : w1.ble.asyncActions = w.ble.asyncActions) (hr : w1.ble.reportQueue = w.ble.reportQueue)
    (hb : w1.calls = (w.back e r).calls) (ht : w1.ticks = w.ticks) (hl : w1.log = (w.back e r).log) :
    (w1.report op).Due t n := by
  have hlog : w.log <+: (w1.report op).log := by
    rw [World.report_log, hl]
    exact (List.prefix_append ..).trans (List.prefix_append ..)
  refine h.same hlog hq ?_
  have hqueue : (w1.report op).ble.reportQueue = w.ble.reportQueue ++ [op] := by rw [← hr]; rfl
  rintro (⟨op', hop', k⟩ | ⟨op', hop', k⟩ | ⟨e', he', k, hk, hn⟩)
  · refine .inl ⟨op', ?_, k⟩
    rw [hqueue]
    exact List.mem_append_left _ hop'
  · refine .inr (.inl ⟨op', ?_, k⟩)
    rw [World.report_ticks, ht]
    exact hop'
  · rw [hc] at he'
    rcases List.mem_cons.mp he' with rfl | he'
    · obtain ⟨k', hk', hle⟩ := hop k hk
      refine .inl ⟨op, ?_, k', hk', by omega⟩
      rw [hqueue]
      simp
    · refine .inr (.inr ⟨e', ?_, k, hk, hn⟩)
      rw [World.report_calls, hb, World.back_calls, hc]
      exact he'

/-- The last part of a tick leaves its empty copy. -/
theorem endReports (h : w.Due t n) {ts : List (List QueuedOp)} (hts : w.ticks = [] :: ts) :
    ({ w with ticks := ts } : World).Due t n :=
  h.same List.prefix_rfl rfl fun hch =>
    hch.mono (fun _ h => h) (fun op hop => by rwa [hts] at hop) fun _ h _ => h

/-- The front waits. -/
theorem wait (h : w.Due t n) (b : ActionId) :
    (w.updateAction b fun a => { a with waitCount := a.waitCount + 1 }).Due t n := by
  refine h.keep List.prefix_rfl fun a ha _ _ => ?_
  rw [World.front_updateAction, ha]
  refine ⟨if a.id = b then { a with waitCount := a.waitCount + 1 } else a, rfl, ?_, .inr ⟨?_, id⟩⟩
  · split <;> rfl
  · split <;> rfl

/-- The front is popped only when it is Completed. -/
theorem pop (h : w.Due t n) {a : AsyncAction.Details} {rest : List AsyncAction.Details}
    (hq : w.ble.asyncActions = a :: rest) :
    ((w.updateBle fun b => { b with asyncActions := rest }).note (.popped a)).Due t n := by
  rcases h with hp | ⟨b, hb, rfl, -⟩
  · exact .inl (marks_mono (List.prefix_append ..) hp)
  · rw [World.front, hq] at hb
    cases hb
    exact .inl (by simp)

/-- **Step lemma**: an act makes no action less due, unless it is a completion by gattlib. -/
theorem act [Gattlib] {P : Policy}
    (hP : ∀ of ev, P.enter w (.event of ev) → ev.unsolicited = true) (h : w.Due t n)
    (ha : Act P w w') : w'.Due t n := by
  cases ha with
  | enter | raised | freed | eventReadNone => exact h.note _
  | event of ev how hm ho =>
    have hu := hP of ev hm
    cases ev <;> first | (cases hu; done) | cases ho
  | eventDiscovered of addr name =>
    have hnamed : ((w.note (.enter (.event of (.deviceDiscovered addr name)))).named
        (addr.getD "") (name.getD "")).Due t n :=
      (h.note _).same List.prefix_rfl rfl id
    exact hnamed.invoke ..
  | eventAuto of c hm => cases hP of _ hm
  | eventRead of buf a hm => cases hP of _ hm
  | call e | tick => exact h.push _
  | back e r cs hc _ hs =>
    refine h.back hc ?_ r
    cases e <;> first | rfl | exact hs.elim
  | refused e r cs b a hc _ he =>
    have hb := h.back hc (by cases e <;> first | rfl | cases he) r
    have hr : (e.refusedApply (w.back e r)).Due t n := by
      obtain ⟨isScanning, heq⟩ := e.refusedApply_eq (w.back e r)
      rw [heq]
      exact hb.same List.prefix_rfl rfl id
    exact hr.finish .failure b
  | takeReports r cs hc => exact h.takeReports_le hc r
  | ran op rest ts hts => exact h.ran hts
  | endTick ts hts => exact h.endReports hts
  | trigger ts a hts hgo hf hp hcap =>
    rcases h with hpop | ⟨b, hb, -, hs⟩
    · have ht := Stretch.trigger (T := {}) (P := P) ts a hts hgo hf hp hcap
      exact .inl (marks_mono ht.log_grows hpop)
    · -- the front is not pending
      cases hf.symm.trans hb
      rw [hp] at hs
      simp at hs
  | pop ts a rest hts _ hq => exact (h.endReports hts).pop hq
  | wait ts a hts => exact (h.endReports hts).wait _
  | services dev c r cs hc =>
    obtain ⟨devices, heq⟩ := (w.back (.discoverPrimary dev c) r).servicesStep_eq dev r
    refine h.stepOn hc r ?_ ?_ ?_ ?_ ?_ ?_
    · simp [Call.stepsLeft, QueuedOp.stepsLeft]
    all_goals rw [heq]; rfl
  | chars dev c r cs hc =>
    obtain ⟨devices, heq⟩ := (w.back (.discoverChar dev c) r).charsStep_eq dev r
    refine h.stepOn hc r ?_ ?_ ?_ ?_ ?_ ?_
    · simp [Call.stepsLeft, QueuedOp.stepsLeft]
    all_goals rw [heq]; rfl
  | report | notify => exact h.report _
  | adapterOpened name r cs hc | adapterClosed a r cs hc =>
    exact (h.back hc rfl r).same List.prefix_rfl rfl id
  | setAutoDiscover | setConnectionParameters | deviceName | lock | unlock =>
    exact h.same List.prefix_rfl rfl id
  | inert _ hi =>
    refine h.same (hi.log ▸ List.prefix_rfl) hi.asyncActions fun hch => hch.mono ?_ ?_ ?_
    · rw [hi.reportQueue]
      exact fun _ h => h
    · rw [hi.ticks]
      exact fun _ h => h
    · rw [hi.calls]
      exact fun _ h _ => h

theorem enqueue (h : w.Due t n) (a : AsyncAction.Details) : (w.enqueue a).Due t n := by
  refine h.keep (List.prefix_append ..) fun b hb _ _ => ⟨b, ?_, rfl, .inr ⟨rfl, id⟩⟩
  rw [World.front, World.enqueue, List.head?_append, show w.ble.asyncActions.head? = some b from hb]
  rfl

theorem complete (h : w.Due t n) (b : ActionId) : (w.complete b).Due t n := by
  refine h.keep List.prefix_rfl fun a ha _ _ => ?_
  rw [World.complete, World.front_updateAction, ha]
  refine ⟨if a.id = b then { a with state := .completed } else a, rfl, ?_, ?_⟩
  · split <;> rfl
  · split
    · exact .inl rfl
    · exact .inr ⟨rfl, id⟩

theorem request {op : Op} (h : w.Due t n) (hr : Request w op w') : w'.Due t n := by
  cases hr with
  | scan => exact ((h.same List.prefix_rfl rfl id).enqueue _).same List.prefix_rfl rfl id
  | stopScanCancel _ _ a => exact ((h.complete a.id).note _).enqueue _
  | connect => exact (h.same List.prefix_rfl rfl id).enqueue _
  | _ => exact h.enqueue _

end World.Due

end

end Gattlibpp
