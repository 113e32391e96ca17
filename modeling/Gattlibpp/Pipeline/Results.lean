import Gattlibpp.Queue.Completion
import Gattlibpp.Pipeline.Delivery

/-!
# The read and write pipeline

Runs of read and write requests and ticks, with gattlib answering each call at most once,
inside the call or in a later tick. Every result reaches its own request's callback, in the
order of the requests, before the action is popped. At any time at most one tick, one
`gattlib_async_process_all` or one read or write call is under way (`World.stage`), so that no
data arrives between the reports of a tick and its last part.
-/

namespace Gattlibpp

open Open
open scoped List

/-- The answer to a read, with a value that is not empty, or to a write. -/
def Event.isResult : Event → Bool
  | .readChar (some buf) => ! buf.isEmpty
  | .opDone | .opFailed => true
  | _ => false

/-- When the call `e` made for `t` may be answered: inside it, or later in
`gattlib_async_process_all`. -/
def resultTime (w : World) (t : ActionId) (e : Call) : Bool :=
  w.calls.head? = some e || (t ∈ returnedIds w.log && w.calls.head? = some .asyncProcessAll)

/-- Reads and writes with the user's functions, at any time, and ticks that are not made from
inside another call. -/
def pipeline : Policy where
  enter w m :=
    match m with
    | .api (.read _ _ inData failure) => inData.isUser ∧ failure.isUser
    | .api (.write _ _ _ succ failure) => succ.isUser ∧ failure.isUser
    | .api .processAsync => w.calls = [] ∧ w.ticks = []
    | .event (some t) ev => ev.isResult ∧ unanswered w.log t ∧
        (callFor w.log t).any fun e => ev.answers e && resultTime w t e
    | _ => False
  ans w e r := ∀ t ∈ e.action, r.rc ≠ 0 → t ∉ answeredIds w.log

instance (w : World) (m : Move) : Decidable (pipeline.enter w m) :=
  match m with
  | .event (some t) ev => inferInstanceAs (Decidable (ev.isResult ∧ unanswered w.log t ∧
      ((callFor w.log t).any fun e => ev.answers e && resultTime w t e) = true))
  | .event none _ => isFalse id
  | .api op =>
    match op with
    | .read _ _ inData failure => inferInstanceAs (Decidable (inData.isUser ∧ failure.isUser))
    | .write _ _ _ succ failure => inferInstanceAs (Decidable (succ.isUser ∧ failure.isUser))
    | .processAsync => inferInstanceAs (Decidable (w.calls = [] ∧ w.ticks = []))
    | .adapterOpen .. | .adapterClose | .shutdown | .setAutoDiscoverOnConnect ..
    | .setConnectionParameters .. | .scan .. | .stopScan .. | .connect .. | .disconnect ..
    | .startNotification .. | .stopNotification .. | .stopAllNotifications .. | .isConnected ..
    | .isEnabled .. | .enable .. | .deviceName .. => isFalse id

instance (w : World) (e : Call) (r : Resp) : Decidable (pipeline.ans w e r) :=
  inferInstanceAs (Decidable (∀ t ∈ e.action, r.rc ≠ 0 → t ∉ answeredIds w.log))

theorem pipeline_not_reports {w : World} {cb : Callback} : ¬ pipeline.Reports w cb := by
  rintro ⟨w0, op, hm, -, hr, -⟩
  cases op <;> first | exact hm | exact hr

theorem pipeline_not_notified [Gattlib] {w : World} {u : UUID} {data : BinaryBuffer} :
    ¬ pipeline.Notified w u data := by
  rintro ⟨w0, of, uuid, hm, -, -⟩
  cases of with
  | none => exact hm
  | some t => cases hm.1

/-! ## The invariant -/

/-- Calls inside which gattlib may answer. -/
def Call.answersInside (e : Call) : Bool := e = .asyncProcessAll || e.action.isSome

/-- How many ticks that run reports, and calls inside which gattlib may answer, are under way. -/
def World.stage (w : World) : Nat := w.calls.countP Call.answersInside + w.ticks.length

structure Phase (w : World) : Prop where
  stage : w.stage ≤ 1
  quiet : w.ticks ≠ [] → w.ble.reportQueue = []
  discovers : ∀ e ∈ w.calls, e.discovers = false
  cancelled : cancelledIds w.log = []
  ran : ∀ op, .ran op ∈ w.log → ¬ op.Throws

structure Pipeline (w : World) : Prop where
  alive : Alive w
  delivery : Delivery w.ble.asyncActions w.reports w.log
  phase : Phase w

/-! ## Phases -/

namespace Phase

variable {w w' : World} {e : Call} {r : Resp} {cs : List Call}

/-- Entries that neither cancel nor run a report. -/
def Neutral (l : List Obs) : Prop := ∀ o ∈ l, o.cancelledId = none ∧ ∀ op, o ≠ .ran op

theorem of_log (h : Phase w) {l : List Obs} (hlog : w'.log = w.log ++ l) (hl : Neutral l)
    (hs : w'.stage ≤ 1) (hq : w'.ticks ≠ [] → w'.ble.reportQueue = [])
    (hc : ∀ e ∈ w'.calls, e.discovers = false) : Phase w' where
  stage := hs
  quiet := hq
  discovers := hc
  cancelled := by
    rw [hlog, ← h.cancelled]
    exact marks_append_of_none fun o ho => (hl o ho).1
  ran op hop := by
    rw [hlog] at hop
    rcases List.mem_append.mp hop with hop | hop
    · exact h.ran op hop
    · exact absurd rfl ((hl _ hop).2 op)

/-- Nothing is called, and no report is added. -/
theorem same (h : Phase w) {l : List Obs} (hlog : w'.log = w.log ++ l) (hl : Neutral l)
    (hc : w'.calls = w.calls) (ht : w'.ticks = w.ticks)
    (hr : w'.ble.reportQueue = w.ble.reportQueue) : Phase w' := by
  refine h.of_log hlog hl ?_ ?_ ?_
  · unfold World.stage
    rw [hc, ht]
    exact h.stage
  · rw [ht, hr]
    exact h.quiet
  · rw [hc]
    exact h.discovers

theorem note (h : Phase w) {o : Obs} (ho : Neutral [o]) : Phase (w.note o) :=
  h.same (l := [o]) rfl ho rfl rfl rfl

/-- A call inside which nothing is answered. -/
theorem push (h : Phase w) (ha : e.answersInside = false) (hd : e.discovers = false) :
    Phase (w.push e) := by
  refine h.of_log (l := [.call e]) rfl (by simp [Neutral]) ?_ h.quiet ?_
  · simpa [World.stage, ha] using h.stage
  · simpa [hd] using h.discovers

theorem back (h : Phase w) (e : Call) (r : Resp) : Phase (w.back e r) := by
  refine h.of_log (l := [.ret e r]) rfl (by simp [Neutral]) ?_ h.quiet
    fun e' he' => h.discovers e' (List.mem_of_mem_tail he')
  have hle := List.Sublist.countP_le (p := Call.answersInside) (List.tail_sublist w.calls)
  have hs := h.stage
  simp only [World.stage, World.back_calls, World.back_ticks] at hs ⊢
  omega

/-- A tick ends. -/
theorem drop (h : Phase w) {q : List QueuedOp} {ts : List (List QueuedOp)}
    (hts : w.ticks = q :: ts) : Phase { w with ticks := ts } := by
  have hs := h.stage
  rw [World.stage, hts, List.length_cons] at hs
  have hnil : ts = [] := List.eq_nil_of_length_eq_zero (by omega)
  refine h.of_log (l := []) (by simp) (by simp [Neutral]) ?_ (fun hne => absurd hnil hne)
    h.discovers
  simp only [World.stage]
  omega

/-- While a call is open inside which gattlib may answer, no tick runs reports. -/
theorem no_tick (h : Phase w) (hc : e ∈ w.calls) (he : e.answersInside = true) : w.ticks = [] := by
  have hpos : 0 < w.calls.countP Call.answersInside := List.countP_pos_iff.mpr ⟨e, hc, he⟩
  have hs := h.stage
  unfold World.stage at hs
  exact List.eq_nil_of_length_eq_zero (by omega)

/-- While a tick runs reports it is the only one, and no call is open inside which gattlib may
answer. -/
theorem in_tick (h : Phase w) {q : List QueuedOp} {ts : List (List QueuedOp)}
    (hts : w.ticks = q :: ts) :
    ts = [] ∧ w.calls.countP Call.answersInside = 0 ∧ w.ble.reportQueue = [] := by
  have hs := h.stage
  rw [World.stage, hts, List.length_cons] at hs
  refine ⟨List.eq_nil_of_length_eq_zero (by omega), by omega, h.quiet (by simp [hts])⟩

theorem invoke (h : Phase w) (cb : Callback) (arg : Arg) (role : Role) :
    Phase (w.invoke cb arg role) := by
  unfold World.invoke
  split
  · exact h.push rfl rfl
  · exact h

theorem finish (h : Phase w) (how : Outcome) (t : ActionId) : Phase (w.finish how t) := by
  have hc : Phase (w.complete t) := h.same (l := []) (by simp) (by simp [Neutral]) rfl rfl rfl
  exact hc.invoke ..

theorem finishFront (h : Phase w) (how : Outcome) : Phase (w.finishFront how) := by
  unfold World.finishFront
  split
  · exact h
  · exact h.finish ..

/-- The tick takes the next report. -/
theorem next (h : Phase w) {op : QueuedOp} {ops : List QueuedOp} {ts : List (List QueuedOp)}
    (hts : w.ticks = (op :: ops) :: ts) (hop : ¬ op.Throws) : Phase (w.next op ops ts) where
  stage := by
    have hs := h.stage
    simp only [World.stage, hts, List.length_cons] at hs
    simpa [World.stage, World.next] using hs
  quiet _ := (h.in_tick hts).2.2
  discovers := h.discovers
  cancelled := by simpa [World.next] using h.cancelled
  ran op' hop' := by
    rcases List.mem_append.mp hop' with hop' | hop'
    · exact h.ran op' hop'
    · cases List.mem_singleton.mp hop'
      exact hop

/-- A call inside which gattlib may answer, once nothing else is under way. -/
theorem pushInside (h : Phase w) (h0 : w.stage = 0) (hd : e.discovers = false) :
    Phase (w.push e) := by
  have ht : w.ticks = [] := List.eq_nil_of_length_eq_zero (by unfold World.stage at h0; omega)
  refine h.of_log (l := [.call e]) rfl (by simp [Neutral]) ?_ (fun hne => absurd ht hne) ?_
  · simp only [World.stage, World.push_calls, World.push_ticks, List.countP_cons] at h0 ⊢
    split <;> omega
  · simpa [hd] using h.discovers

end Phase

/-! ## Steps -/

/-- The callback that a result is for is the user's. -/
theorem AsyncAction.Details.Piped.result {a : AsyncAction.Details} (h : a.Piped) {e : Call}
    {ev : Event} (hm : e.MadeBy a.trigger) (ha : ev.answers e = true) :
    (ev = .opDone → a.callbacks.success.isUser = true) ∧
    ∀ buf, ev = .readChar buf → a.callbacks.datareceived.isUser = true := by
  obtain ⟨-, hok⟩ := h
  cases htr : a.trigger with
  | read =>
    rw [htr] at hm hok
    refine ⟨?_, fun _ _ => hok⟩
    rintro rfl
    cases e <;> first | exact False.elim hm | cases ha
  | write =>
    rw [htr] at hm hok
    refine ⟨fun _ => hok, ?_⟩
    rintro _ rfl
    cases e <;> first | exact False.elim hm | cases ha
  | _ =>
    rw [htr] at hok
    exact hok.elim

namespace Pipeline

variable {w w' : World} {a : AsyncAction.Details}

theorem not_cancelled (h : Pipeline w) (t : ActionId) : t ∉ cancelledIds w.log := by
  rw [h.phase.cancelled]
  exact List.not_mem_nil

theorem within (h : Pipeline w) : pipeline.WithinAt (answering.and timely) w where
  enter m hm := by
    match m with
    | .api op => exact ⟨trivial, trivial⟩
    | .event (some t) ev =>
      obtain ⟨-, hun, hcall⟩ := hm
      refine ⟨⟨hun, ?_⟩, fun hc => absurd hc (h.not_cancelled t)⟩
      obtain ⟨e, he, hans⟩ := (Option.any_eq_true ..).mp hcall
      rw [Bool.and_eq_true] at hans
      exact (Option.any_eq_true ..).mpr ⟨e, he, hans.1⟩
  ans e r hr := ⟨hr, fun t _ _ hc => absurd hc (h.not_cancelled t)⟩

/-- What a result answers: the running front, with the call that its trigger makes. -/
theorem answered (h : Pipeline w) {of : Option ActionId} {ev : Event}
    (hm : pipeline.enter w (.event of ev)) :
    ev.isResult = true ∧ w.ticks = [] ∧ ∃ a rest e, w.ble.asyncActions = a :: rest ∧
      of = some a.id ∧ a.state = .triggered ∧ ev.answers e = true ∧ e.MadeBy a.trigger := by
  cases of with
  | none => exact hm.elim
  | some t =>
    obtain ⟨hres, -, hcall⟩ := id hm
    obtain ⟨e, he, hans⟩ := (Option.any_eq_true ..).mp hcall
    rw [Bool.and_eq_true] at hans
    obtain ⟨hlog, hact⟩ := callFor_some he
    refine ⟨hres, ?_, ?_⟩
    · have htime := hans.2
      simp only [resultTime, Bool.or_eq_true, Bool.and_eq_true, decide_eq_true_eq] at htime
      rcases htime with hc | ⟨-, hc⟩
      · exact h.phase.no_tick (List.mem_of_mem_head? hc) (by simp [Call.answersInside, hact])
      · exact h.phase.no_tick (List.mem_of_mem_head? hc) rfl
    · rcases h.alive.answer (h.within.enter _ hm) with ⟨hc, -⟩ | ⟨a, rest, hq, rfl, hs, -⟩
      · exact absurd hc (h.not_cancelled t)
      · refine ⟨a, rest, e, hq, rfl, hs, hans.1, ?_⟩
        exact h.alive.made e a.id hlog hact a (by rw [hq]; simp) rfl

/-- A report that is run carries the data of the front, which has not been reported. -/
theorem report (h : Pipeline w) {op : QueuedOp} (hop : op ∈ w.reports) :
    ∃ a fn buf, w.front = some a ∧ op = .readData (some (.user fn)) buf a.id ∧
      a.id ∉ invokedIds w.log := by
  obtain ⟨a, ha, -, fn, buf, rfl, -⟩ := h.delivery.reports op hop
  refine ⟨a, fn, buf, ha, rfl, (h.alive.life.data a.id ?_).1⟩
  exact List.mem_filterMap.mpr ⟨_, hop, rfl⟩

/-- In the last part of a tick no report waits. -/
theorem reported (h : Pipeline w) {ts : List (List QueuedOp)} (hts : w.ticks = [] :: ts) :
    ts = [] ∧ w.reports = [] := by
  obtain ⟨rfl, -, hr⟩ := h.phase.in_tick hts
  exact ⟨rfl, by simp [World.reports, hr, hts]⟩

/-- A request makes an action whose callbacks report its outcome. -/
theorem request_piped {op : Op} (hr : Request w op w') (ho : Origin pipeline Pipeline op w) :
    ∃ a, a.Piped ∧ a.state = .pending ∧ w' = w.enqueue a := by
  cases ho with
  | entered w0 _ hm _ =>
    cases hr with
    | read dev u d inData fail => exact ⟨_, ⟨hm.2, hm.1⟩, rfl, rfl⟩
    | write dev u d value succ fail => exact ⟨_, ⟨hm.2, hm.1⟩, rfl, rfl⟩
    | _ => exact hm.elim
  | shutdown w0 _ _ _ _ hm => exact hm.elim
  | autodisconn w0 a dev _ hi hf htr =>
    exact absurd htr (hi.alive.fifo.autodisconn a (List.mem_of_mem_head? hf) dev)

theorem phase_act [Gattlib] (h : Pipeline w) (ha : Act pipeline w w') : Phase w' := by
  cases ha with
  | enter | raised | freed | eventReadNone => exact h.phase.note (by simp [Phase.Neutral])
  | event of ev how =>
    have hn : Phase (w.note (.enter (.event of ev))) := h.phase.note (by simp [Phase.Neutral])
    refine Phase.finishFront ?_ how
    cases ev <;> exact hn.same (l := []) (by simp [Event.apply]) (by simp [Phase.Neutral]) rfl rfl rfl
  | eventAuto of c hm | eventDiscovered of addr name hm => cases (h.answered hm).1
  | eventRead of buf a hm =>
    -- no tick runs reports, so the data waits for the next one
    have ht : w.ticks = [] := (h.answered hm).2.1
    split
    · exact h.phase.of_log (l := [_, _]) (List.append_assoc ..) (by simp [Phase.Neutral])
        h.phase.stage (fun hne => absurd ht hne) h.phase.discovers
    · exact h.phase.same (l := [_]) rfl (by simp [Phase.Neutral]) rfl rfl rfl
  | call e he =>
    refine h.phase.push ?_ he.silent.2
    cases e <;> first | rfl | exact he.elim | simp [Call.answersInside, show _ = none from he]
  | back e r => exact h.phase.back e r
  | refused e r cs t =>
    refine Phase.finish ?_ ..
    cases e <;> exact (h.phase.back _ r).same (l := []) (by simp [Call.refusedApply])
      (by simp [Phase.Neutral]) rfl rfl rfl
  | tick hgo =>
    rcases hgo with ⟨w0, ⟨hc, ht⟩, rfl⟩ | ⟨w0, hm, -⟩
    · refine h.phase.pushInside ?_ rfl
      simp [World.stage, hc, ht]
    · exact hm.elim
  | takeReports r cs hc =>
    have hs := h.phase.stage
    simp only [World.stage, hc, List.countP_cons] at hs
    refine (h.phase.back .asyncProcessAll r).of_log (l := []) (by simp) (by simp [Phase.Neutral]) ?_
      (fun _ => rfl) fun e he => h.phase.discovers e (List.mem_of_mem_tail he)
    simp only [World.stage, World.takeReports_calls, World.takeReports_ticks, hc, List.tail_cons,
      List.length_cons,
      show Call.asyncProcessAll.answersInside = true from rfl, reduceIte] at hs ⊢
    omega
  | ran op rest ts hts =>
    have hop : op ∈ w.reports := by simp [World.reports, hts]
    obtain ⟨a, fn, buf, -, rfl, -⟩ := h.report hop
    exact (h.phase.next hts (by simp [QueuedOp.Throws])).invoke (some (.user fn)) _ _
  | endTick ts hts => exact h.phase.drop hts
  | trigger ts a hts _ hf hp hcap =>
    have hd : Phase ({ w with ticks := ts }.start a.id) :=
      (h.phase.drop hts).same (l := [.triggered a.id]) rfl (by simp [Phase.Neutral]) rfl rfl rfl
    have h0 : ({ w with ticks := ts }.start a.id).stage = 0 := by
      obtain ⟨rfl, hcount, -⟩ := h.phase.in_tick hts
      exact hcount
    have hpiped := (h.delivery.requests a (List.mem_of_mem_head? hf)).1.2
    cases htr : a.trigger with
    | read | write =>
      simp only [Trigger.apply]
      split
      · exact hd
      · exact hd.pushInside h0 rfl
    | _ =>
      rw [htr] at hpiped
      exact hpiped.elim
  | pop ts a rest hts =>
    exact (h.phase.drop hts).same (l := [.popped a]) rfl (by simp [Phase.Neutral]) rfl rfl rfl
  | wait ts a hts =>
    exact (h.phase.drop hts).same (l := []) (by simp) (by simp [Phase.Neutral]) rfl rfl rfl
  | services dev c r cs hc => cases h.phase.discovers (.discoverPrimary dev c) (by simp [hc])
  | chars dev c r cs hc => cases h.phase.discovers (.discoverChar dev c) (by simp [hc])
  | report cb hP => exact absurd hP pipeline_not_reports
  | notify dev u d buf hP => exact absurd hP pipeline_not_notified
  | adapterOpened name r | adapterClosed a r =>
    exact (h.phase.back _ r).same (l := []) (by simp) (by simp [Phase.Neutral]) rfl rfl rfl
  | setAutoDiscover | setConnectionParameters | deviceName | lock | unlock =>
    exact h.phase.same (l := []) (by simp) (by simp [Phase.Neutral]) rfl rfl rfl
  | inert _ hi =>
    exact h.phase.same (l := []) (by simp [hi.log]) (by simp [Phase.Neutral]) hi.calls hi.ticks
      hi.reportQueue

/-- The running front is completed with the outcome of its own call. -/
theorem finish {rest : List AsyncAction.Details} (hfifo : Fifo w)
    (h : Delivery w.ble.asyncActions w.reports w.log) (hq : w.ble.asyncActions = a :: rest)
    (hs : a.state = .triggered) (how : Outcome) {fn : Nat}
    (hcb : how.callback a.callbacks = some (.user fn))
    (hr : Reported w.log a fn .nothing (how.role a.id)) :
    Delivery (w.finish how a.id).ble.asyncActions (w.finish how a.id).reports
      (w.finish how a.id).log := by
  have hq' := hfifo.updateAction_front hq fun x => { x with state := .completed }
  have hf : w.front = some a := by rw [World.front, hq]; rfl
  have heq : w.finish how a.id = (w.complete a.id).push (.user fn .nothing (how.role a.id)) := by
    rw [World.finish, w.action_of_front hf, Option.bind_some, hcb]
    rfl
  rw [heq, World.push_ble, show (w.complete a.id).ble.asyncActions = _ from hq']
  exact (hq ▸ h).finish hs (by cases how <;> rfl) hr

/-- A write was answered, or failed. -/
theorem delivery_event (h : Pipeline w) {of : Option ActionId} {ev : Event} {how : Outcome}
    (hm : pipeline.enter w (.event of ev)) (ho : ev.outcome w.ble = some how) {w1 : World}
    (hw1 : w1 = (ev.apply (w.note (.enter (.event of ev)))).finishFront how) :
    Delivery w1.ble.asyncActions w1.reports w1.log := by
  obtain ⟨hres, -, a, rest, e, hq, rfl, hs, hans, hmade⟩ := h.answered hm
  have hf : w.front = some a := by rw [World.front, hq]; rfl
  have hpiped : a.Piped := (h.delivery.requests a (by rw [hq]; simp)).1
  have hn : Fifo (w.note (.enter (.event (some a.id) ev))) := h.alive.fifo.note ⟨rfl, rfl, rfl⟩
  have hd := h.delivery.grow (l := [.enter (.event (some a.id) ev)]) (by simp)
  cases ev with
  | opDone =>
    cases ho
    obtain ⟨fn, hcb⟩ := Callback.exists_user ((hpiped.result hmade hans).1 rfl)
    have hfin : w1 = (w.note (.enter (.event (some a.id) .opDone))).finish .success a.id := by
      rw [hw1, World.finishFront]
      simp [Event.apply, show (w.note _).front = _ from hf]
    rw [hfin]
    exact finish hn hd hq hs .success hcb (.done hcb (by simp))
  | opFailed =>
    cases ho
    obtain ⟨fn, hcb⟩ := Callback.exists_user hpiped.1
    have hfin : w1 = (w.note (.enter (.event (some a.id) .opFailed))).finish .failure a.id := by
      rw [hw1, World.finishFront]
      simp [Event.apply, show (w.note _).front = _ from hf]
    rw [hfin]
    exact finish hn hd hq hs .failure hcb (.failed hcb (.inl (by simp)))
  | readChar buf => cases ho
  | _ => cases hres

/-- The data of a read is put in the report queue. -/
theorem delivery_read (h : Pipeline w) {of : Option ActionId} {buf : BinaryBuffer}
    (hm : pipeline.enter w (.event of (.readChar (some buf)))) (hf : w.front = some a) {w1 : World}
    (hw1 : w1 = (if a.callbacks.datareceived.isSome then
        (w.note (.enter (.event of (.readChar (some buf))))).report
          (.readData a.callbacks.datareceived buf a.id)
      else w.note (.enter (.event of (.readChar (some buf))))).complete a.id) :
    Delivery w1.ble.asyncActions w1.reports w1.log := by
  obtain ⟨-, ht, b, rest, e, hq, rfl, hs, hans, hmade⟩ := h.answered hm
  obtain rfl : b = a := by rw [World.front, hq] at hf; exact Option.some.inj hf
  have hpiped : b.Piped := (h.delivery.requests b (by rw [hq]; simp)).1
  obtain ⟨fn, hcb⟩ := Callback.exists_user ((hpiped.result hmade hans).2 _ rfl)
  simp only [hcb, Option.isSome_some, if_true] at hw1
  have hd := h.delivery.grow (l := [.enter (.event (some b.id) (.readChar (some buf)))]) (by simp)
  rw [hq] at hd
  have hrep : w.reports = [] := (hd.running (by simp [hs])).2
  have hq' : w1.ble.asyncActions = { b with state := .completed } :: rest := by
    rw [hw1]
    exact h.alive.fifo.updateAction_front hq _
  have hrep' : w1.reports = [.readData (some (.user fn)) buf b.id] := by
    rw [hw1]
    simp only [World.reports, ht, List.flatten_nil, List.append_nil] at hrep
    simp [World.reports, World.complete, World.updateAction, World.report, hrep, ht]
  rw [hq', hrep', hw1]
  exact (hd.deferred hs ⟨fn, buf, rfl, hcb, by simp⟩).grow (l := [.pushed _]) (by simp)

theorem delivery_act [Gattlib] (h : Pipeline w) (ha : Act pipeline w w') :
    Delivery w'.ble.asyncActions w'.reports w'.log := by
  have hd := h.delivery
  cases ha with
  | enter | raised | freed | eventReadNone => exact hd.grow (by simp)
  | event of ev how hm ho => exact h.delivery_event hm ho rfl
  | eventAuto of c hm | eventDiscovered of addr name hm => cases (h.answered hm).1
  | eventRead of buf a hm _ hf => exact h.delivery_read hm hf rfl
  | call e he =>
    obtain ⟨hs, -⟩ := he.silent
    refine hd.grow (l := [.call e]) fun o ho => ?_
    cases List.mem_singleton.mp ho
    exact ⟨hs.1.invoked, rfl⟩
  | back e r => exact hd.grow (l := [.ret e r]) (by simp)
  | refused e r cs t a hc hans he hr =>
    obtain ⟨b, rest, hq, rfl, hs⟩ := h.alive.refused_front hc (h.within.ans _ _ hans) he hr
    obtain ⟨fn, hcb⟩ := Callback.exists_user (h.delivery.requests b (by rw [hq]; simp)).1.1
    have hb : Fifo (w.back e r) := h.alive.fifo.back e r
    have hg := hd.grow (l := [.ret e r]) (by simp)
    have hrep : Reported (w.back e r).log b fn .nothing (.failure b.id) :=
      .failed hcb (.inr (by simp [he, hr]))
    obtain ⟨isScanning, heq⟩ := e.refusedApply_eq (w.back e r)
    rw [heq]
    exact finish (w := (w.back e r).updateBle fun b => { b with isScanning := isScanning })
      (hb.update rfl (Nat.le_refl _) rfl rfl) hg hq hs .failure hcb hrep
  | tick => exact hd.grow (l := [.call .asyncProcessAll]) (by simp)
  | takeReports r cs hc => exact hd.grow (l := [.ret .asyncProcessAll r]) (by simp)
  | ran op rest ts hts =>
    have hop : op ∈ w.reports := by simp [World.reports, hts]
    obtain ⟨a, fn, buf, ha, rfl, hi⟩ := h.report hop
    have hg := hd.grow (l := [.ran (.readData (some (.user fn)) buf a.id)]) (by simp)
    have hmem : .readData (some (.user fn)) buf a.id ∈ w.reports := by simp [World.reports, hts]
    refine hg.ran ha hmem (by simpa using hi) ?_
    intro op hop
    replace hop : op ∈ w.ble.reportQueue ++ (rest :: ts).flatten := hop
    simp only [World.reports, hts, List.flatten_cons, List.mem_append, List.mem_cons] at hop ⊢
    tauto
  | endTick ts hts =>
    rw [World.reports, hts] at hd
    exact hd
  | trigger ts a hts _ hf hp hcap =>
    obtain ⟨rest, hq⟩ := List.head?_eq_some_iff.mp hf
    rw [World.reports, hts, hq] at hd
    have hq' := h.alive.fifo.updateAction_front hq fun x => { x with state := .triggered }
    have hs : Delivery ({ a with state := .triggered } :: rest) (w.ble.reportQueue ++ ts.flatten)
        (w.log ++ [.triggered a.id]) :=
      (hd.change (b := { a with state := .triggered }) rfl rfl rfl (by simp [hp])).grow (by simp)
    rw [← hq'] at hs
    have hpiped := (h.delivery.requests a (List.mem_of_mem_head? hf)).1.2
    cases htr : a.trigger with
    | read | write =>
      simp only [Trigger.apply]
      split
      · exact hs
      · exact hs.grow (l := [.call _]) (by simp)
    | _ =>
      rw [htr] at hpiped
      exact hpiped.elim
  | pop ts a rest hts _ hq hs =>
    obtain ⟨rfl, hrep⟩ := h.reported hts
    rw [hrep, hq] at hd
    have hp : a.id ∉ poppedIds w.log := fun hm => by
      have hlt := (List.pairwise_append.mp h.alive.fifo.ids_ascending).2.2 a.id hm a.id (by simp [hq])
      exact Nat.lt_irrefl _ hlt
    have hrep' : w.ble.reportQueue = [] := (h.phase.in_tick hts).2.2
    have hrest : ∀ x ∈ rest, x.state = .pending := fun x hx =>
      h.alive.fifo.tail x (by rw [hq]; exact hx)
    simpa [World.reports, hrep'] using hd.pop hs hp hrest
  | wait ts a hts _ hf hs =>
    obtain ⟨rest, hq⟩ := List.head?_eq_some_iff.mp hf
    rw [World.reports, hts, hq] at hd
    have hq' := h.alive.fifo.updateAction_front hq fun x => { x with waitCount := x.waitCount + 1 }
    have hw : Delivery ({ a with waitCount := a.waitCount + 1 } :: rest)
        (w.ble.reportQueue ++ ts.flatten) w.log :=
      hd.change (b := { a with waitCount := a.waitCount + 1 }) rfl rfl rfl .rfl
    rw [← hq'] at hw
    exact hw
  | services dev c r cs hc => cases h.phase.discovers (.discoverPrimary dev c) (by simp [hc])
  | chars dev c r cs hc => cases h.phase.discovers (.discoverChar dev c) (by simp [hc])
  | report cb hP => exact absurd hP pipeline_not_reports
  | notify dev u d buf hP => exact absurd hP pipeline_not_notified
  | adapterOpened name r | adapterClosed a r => exact hd.grow (l := [.ret _ r]) (by simp)
  | setAutoDiscover | setConnectionParameters | deviceName | lock | unlock => exact hd
  | inert w' hi =>
    have hrep : w'.reports = w.reports := by unfold World.reports; rw [hi.reportQueue, hi.ticks]
    rw [hi.asyncActions, hrep, hi.log]
    exact hd

/-- **Step lemma.** -/
theorem act [Gattlib] (h : Pipeline w) (ha : Act pipeline w w') : Pipeline w' :=
  ⟨h.alive.act h.within ha, h.delivery_act ha, h.phase_act ha⟩

theorem request {op : Op} (h : Pipeline w) (ho : Origin pipeline Pipeline op w)
    (hr : Request w op w') : Pipeline w' := by
  obtain ⟨a, hp, hs, rfl⟩ := request_piped hr ho
  refine ⟨h.alive.request hr, ?_, ?_⟩
  · exact h.delivery.enqueue (a := { a with id := w.serial }) hp hs
  · exact h.phase.same (l := [_]) rfl (by simp [Phase.Neutral]) rfl rfl rfl

/-- The callbacks that have been invoked are those of a prefix of the requests. -/
theorem invoked_prefix (h : Pipeline w) : invokedIds w.log <+: queuedIds w.log := by
  rw [h.alive.fifo.order]
  rcases h.delivery.invoked with hi | ⟨a, ha, -, hi⟩
  · rw [hi]
    exact List.prefix_append ..
  · obtain ⟨rest, hq⟩ := List.head?_eq_some_iff.mp ha
    rw [hi, hq]
    exact List.prefix_append_right_inj _ |>.mpr ⟨_, rfl⟩

end Pipeline

/-! ## The result -/

/-- Both queues are empty, nothing is under way, and the log starts here. -/
structure World.Fresh (w : World) : Prop where
  asyncActions : w.ble.asyncActions = []
  reportQueue : w.ble.reportQueue = []
  calls : w.calls = []
  ticks : w.ticks = []
  log : w.log = []

theorem World.Fresh.alive {w : World} (h : w.Fresh) : Alive w := by
  have hrep : w.reports = [] := by simp [World.reports, h.reportQueue, h.ticks]
  refine ⟨⟨?_, ?_, ?_, ?_, ?_, ?_, ?_, ?_, ?_⟩, ?_, ?_, ?_, ?_⟩
  all_goals simp only [h.asyncActions, h.calls, h.log, World.openIds, World.dataIds,
    World.chainLength, hrep]
  · rfl
  · exact .nil
  · simp
  · simp
  · exact List.nil_sublist _
  · simp
  · exact past_nil
  · simp
  · simp
  · exact .init
  · exact .init
  · exact .init
  · exact .init

theorem World.Fresh.pipeline {w : World} (h : w.Fresh) : Pipeline w := by
  refine ⟨h.alive, ?_, ?_⟩
  · rw [World.reports, h.asyncActions, h.reportQueue, h.ticks, h.log]
    exact .init
  · exact ⟨by simp [World.stage, h.calls, h.ticks], fun _ => h.reportQueue, by simp [h.calls],
      by simp [h.log], by simp [h.log]⟩

section
variable [Gattlib]

def pipelineClaim : Claim Gattlibpp.pipeline where
  inv := Pipeline
  crash _ _ := True
  act h ha := ⟨h.act ha, trivial⟩
  exit h _ := ⟨⟨h.alive.note ⟨⟨⟨rfl, rfl, rfl⟩, rfl, rfl, rfl, rfl⟩, rfl⟩,
    h.delivery.grow (by simp), h.phase.note (by simp [Phase.Neutral])⟩, trivial⟩
  drop _ h _ hran hop := absurd hop (h.phase.ran _ (List.mem_of_getLast? hran))
  request h ho hr := ⟨h.request ho hr, trivial⟩
  freed _ _ _ _ _ _ := trivial
  missing _ _ _ _ _ _ _ _ := trivial
  other _ _ := trivial

theorem pipelineClaim_notifies : pipelineClaim.Notifies := by
  refine .of_subs (fun {w w'} h hs => ⟨⟨h.alive.subs hs, ?_, ?_⟩, trivial⟩) fun _ _ _ => trivial
  · cases hs
    exact h.delivery
  · cases hs
    exact h.phase.same (l := []) (by simp) (by simp [Phase.Neutral]) rfl rfl rfl

/-- **Run lemma.** -/
theorem pipeline_reach {w0 : World} (h0 : w0.Fresh) {c : Config World Call Resp Fault}
    (h : Reach pipeline w0 c) (hf : c.fault = none) : Pipeline c.s :=
  Claim.reach pipelineClaim_notifies trivial h0.pipeline h hf

/-- **Reads and writes are reported in the order of their requests**, once each, with the
outcomes of their own gattlib calls, and before their actions are popped. -/
theorem results_in_order {w0 : World} (h0 : w0.Fresh) {c : Config World Call Resp Fault}
    (h : Reach pipeline w0 c) (hf : c.fault = none) :
    invokedIds c.s.log <+: queuedIds c.s.log ∧ (queuedIds c.s.log).Nodup ∧
    Past OwnOutcome c.s.log ∧ Past InvokedFirst c.s.log := by
  have hw := pipeline_reach h0 h hf
  exact ⟨hw.invoked_prefix, hw.alive.fifo.ascending.imp fun h => Nat.ne_of_lt h,
    hw.delivery.own, hw.delivery.popped⟩

end

/-- A connected device `"A"` whose discovery has found one characteristic. -/
def connectedA : World where
  ble :=
    { adapter := some 3
      adapterIsOpen := true
      connectedTo := "A"
      devices := (∅ : DeviceMap).insert "A"
        { (Device.Details.new "A").addCharacteristic "2a19" ⟨0x0a, 1⟩ with
          connection := some 7
          discoveryDone := true } }

/-- A read that is answered inside its call, and a write that gattlib refuses. -/
theorem results_in_order_read_write :
    ∃ c : Config World Call Resp Fault, @Reach .sample pipeline connectedA c ∧
      invokedIds c.s.log = [0, 1] ∧ Past OwnOutcome c.s.log := by
  let _ := Gattlib.sample
  obtain ⟨c, hc, hP⟩ := (system pipeline).reach_of_run_any
    [.enter (.api (.read "A" "2a19" (some (.user 1)) (some (.user 2)))),
      .enter (.api (.write "A" "2A19" [5] (some (.user 3)) (some (.user 4)))),
      .enter (.api .processAsync), .answer .void,
      .enter (.event (some 0) (.readChar (some [42]))), .answer (.code 0),
      .enter (.api .processAsync), .answer .void, .answer .void,
      .enter (.api .processAsync), .answer .void, .answer (.code 1)]
    (c := ⟨connectedA, [], none⟩)
    (P := fun c => c.fault.isNone && invokedIds c.s.log == [0, 1]) (by decide)
  simp only [Bool.and_eq_true, Option.isNone_iff_eq_none, beq_iff_eq] at hP
  have h0 : connectedA.Fresh := ⟨rfl, rfl, rfl, rfl, rfl⟩
  exact ⟨c, hc, hP.2, (results_in_order h0 hc hP.1).2.2.1⟩

end Gattlibpp
