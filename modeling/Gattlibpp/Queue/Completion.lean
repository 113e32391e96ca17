import Gattlibpp.Queue.Life

/-!
# Completion

Answers go to the action they are for as long as gattlib has nothing to say about a
scan that `stopScan` has cancelled. A late `scanCompleted` completes whatever is at the
front, and a refused enable the cancelled action itself.
-/

namespace Gattlibpp

open Open
open scoped List

/-- A cancelled scan is answered only while no action is queued, and its call is not refused. -/
def timely : Policy where
  enter w m :=
    match m with
    | .event (some t) _ => t ∈ cancelledIds w.log → w.ble.asyncActions = []
    | _ => True
  ans w e r := ∀ t ∈ e.action, r.rc ≠ 0 → t ∉ cancelledIds w.log

instance (w : World) (m : Move) : Decidable (timely.enter w m) :=
  match m with
  | .event (some t) _ =>
    inferInstanceAs (Decidable (t ∈ cancelledIds w.log → w.ble.asyncActions = []))
  | .event none _ | .api _ => isTrue trivial

instance (w : World) (e : Call) (r : Resp) : Decidable (timely.ans w e r) :=
  inferInstanceAs (Decidable (∀ t ∈ e.action, r.rc ≠ 0 → t ∉ cancelledIds w.log))

/-! ## The invariant -/

structure Alive (w : World) : Prop where
  fifo : Fifo w
  calls : Calls w.openIds w.log
  made : Made w.ble.asyncActions w.log
  life : Life w.ble.asyncActions w.dataIds w.log
  chain : Chain w.ble.asyncActions w.chainLength w.log

/-- Entries that say nothing about callbacks, and do not refuse a call. -/
def Obs.Silent (o : Obs) : Prop := o.Quiet ∧ o.refusedId = none

theorem Call.Plain.silent {e : Call} (he : e.Plain) :
    (Obs.call e).Silent ∧ e.discovers = false := by
  cases e with
  | user fn arg role =>
    obtain rfl : role = .refused := he
    exact ⟨⟨⟨⟨rfl, rfl, rfl⟩, rfl, rfl, rfl, rfl⟩, rfl⟩, rfl⟩
  | _ =>
    first
      | (cases he; done)
      | exact ⟨⟨⟨⟨rfl, rfl, rfl⟩, rfl, rfl, rfl, rfl⟩, rfl⟩, rfl⟩

namespace Alive

variable {w w' : World} {a : AsyncAction.Details} {rest : List AsyncAction.Details}

theorem init : Alive .init := ⟨.init, .init, .init, .init, .init⟩

theorem open_triggered (h : Alive w) : ∀ t ∈ w.openIds, t ∈ triggeredIds w.log := fun t ht =>
  h.calls.called t (h.calls.opened t ht).1

/-- Nothing happens to the queue and to the actions. -/
theorem quiet (h : Alive w) {l : List Obs} (hq : w'.ble.asyncActions = w.ble.asyncActions)
    (hs : w.serial ≤ w'.serial) (hlog : w'.log = w.log ++ l) (hl : ∀ o ∈ l, o.Silent)
    (hc : w'.openIds <+ w.openIds) (hd : w'.dataIds <+ w.dataIds)
    (hn : w'.chainLength ≤ w.chainLength) : Alive w' where
  fifo := h.fifo.of_eq hq hs hlog (fun o ho => (hl o ho).1.aside) fun e he t ht =>
    h.open_triggered t (hc.subset (List.mem_filterMap.mpr ⟨e, he, ht⟩))
  calls := by
    rw [hlog]
    exact (h.calls.sub hc).grow fun o ho => ⟨(hl o ho).1.called, (hl o ho).2⟩
  made := by
    rw [hlog, hq]
    exact h.made.grow fun o ho => (hl o ho).1.called
  life := by
    rw [hlog, hq]
    exact (h.life.sub hd).quiet fun o ho => (hl o ho).1
  chain := by
    rw [hlog, hq]
    exact (h.chain.fewer hn).grow fun o ho => ⟨(hl o ho).1.connect, (hl o ho).1.cancelled⟩

theorem note (h : Alive w) {o : Obs} (ho : o.Silent) : Alive (w.note o) :=
  h.quiet (l := [o]) rfl (Nat.le_refl _) rfl (by simpa using ho) (.refl _) (.refl _)
    (Nat.le_refl _)

/-- What is neither the queue nor a report changes. -/
theorem update (h : Alive w) (hq : w'.ble.asyncActions = w.ble.asyncActions)
    (hr : w'.ble.reportQueue = w.ble.reportQueue) (hs : w.serial ≤ w'.serial)
    (hc : w'.calls = w.calls) (ht : w'.ticks = w.ticks) (hlog : w'.log = w.log) : Alive w' := by
  have hrep : w'.reports = w.reports := by unfold World.reports; rw [hr, ht]
  refine h.quiet (l := []) hq hs (by simp [hlog]) (by simp) ?_ ?_ ?_
  · unfold World.openIds
    rw [hc]
  · unfold World.dataIds
    rw [hrep]
  · have heq : w'.chainLength = w.chainLength := by
      unfold World.chainLength
      rw [hrep, hc]
    omega

/-- A call that no action makes. -/
theorem push (h : Alive w) {e : Call} (he : (Obs.call e).Silent) (hd : e.discovers = false) :
    Alive (w.push e) := by
  have ha : e.action = none := he.1.called
  refine h.quiet (l := [.call e]) rfl (Nat.le_refl _) rfl (by simpa using he) ?_ (.refl _) ?_
  · simp [World.openIds, ha]
  · simp [World.chainLength, World.reports, hd]

theorem connect_triggered (h : Alive w) : ∀ t ∈ connectIds w.log, t ∈ triggeredIds w.log :=
  fun t ht => h.calls.called t (connectIds_subset _ t ht)

theorem queue_of_front (h : w.front = some a) : ∃ rest, w.ble.asyncActions = a :: rest :=
  List.head?_eq_some_iff.mp h

/-- The running front becomes Completed once its answer is there. -/
theorem complete (h : Alive w) (hq : w.ble.asyncActions = a :: rest) (ha : a.state = .triggered)
    (hw : ¬ Awaiting w.log a.id) (h0 : w.chainLength = 0) : Alive (w.complete a.id) := by
  have hq' := h.fifo.updateAction_front hq fun x => { x with state := .completed }
  have hf : w.front = some a := by rw [World.front, hq]; rfl
  refine ⟨h.fifo.complete (h.fifo.front_tail hf), h.calls, ?_, ?_, ?_⟩
  · unfold World.complete
    rw [hq']
    exact (hq ▸ h.made).change rfl rfl
  · unfold World.complete
    rw [hq']
    exact (hq ▸ h.life).complete ha hw
  · unfold World.complete
    rw [hq']
    exact (hq ▸ h.chain).change rfl rfl rfl (.inl h0)

/-- A callback of a completed action is invoked. -/
theorem invoke (h : Alive w) {cb : Callback} {arg : Arg} {role : Role} {t : ActionId}
    (hr : role.action = some t) (ht : t ∈ triggeredIds w.log) (ho : ¬ Over w.dataIds w.log t)
    (hq : ∀ x ∈ w.ble.asyncActions, x.id = t → x.state = .completed) :
    Alive (w.invoke cb arg role) := by
  unfold World.invoke
  split
  · rename_i id
    refine ⟨h.fifo.push (by simp [Call.action]), ?_, ?_, ?_, ?_⟩
    · exact h.calls.grow (by simp [Call.action])
    · exact h.made.grow (by simp [Call.action])
    · exact h.life.invoke hr ht ho hq
    · have hn : (w.push (.user id arg role)).chainLength = w.chainLength := by
        simp [World.chainLength, World.reports, Call.discovers]
      rw [hn]
      exact h.chain.grow (by simp)
  · exact h

/-- A callback that belongs to no action is invoked. -/
theorem invoke_other (h : Alive w) {cb : Callback} {arg : Arg} {role : Role}
    (hr : role.action = none) : Alive (w.invoke cb arg role) := by
  unfold World.invoke
  split
  · exact h.push ⟨⟨⟨rfl, rfl, rfl⟩, rfl, rfl, hr, rfl⟩, rfl⟩ rfl
  · exact h

theorem finish (h : Alive w) (hq : w.ble.asyncActions = a :: rest) (ha : a.state = .triggered)
    (hw : ¬ Awaiting w.log a.id) (h0 : w.chainLength = 0) (how : Outcome) :
    Alive (w.finish how a.id) := by
  have hl : Life (a :: rest) w.dataIds w.log := hq ▸ h.life
  have ht : a.id ∈ triggeredIds w.log := hl.started a List.mem_cons_self (by simp [ha])
  have ho : ¬ Over w.dataIds w.log a.id := hl.not_over List.mem_cons_self (by simp [ha])
  have hq' := h.fifo.updateAction_front hq fun x => { x with state := .completed }
  refine (h.complete hq ha hw h0).invoke (by cases how <;> rfl) ht ho ?_
  unfold World.complete
  rw [hq']
  intro x hx hxt
  rcases List.mem_cons.mp hx with rfl | hx
  · rfl
  · exact absurd hxt (h.fifo.front_once hq x hx)

/-- The data of a completed read waits in the report queue. -/
theorem deferred (h : Alive w) {cb : Callback} {buf : BinaryBuffer} {t : ActionId}
    (ht : t ∈ triggeredIds w.log) (ho : ¬ Over w.dataIds w.log t)
    (hq : ∀ x ∈ w.ble.asyncActions, x.id = t → x.state = .completed) :
    Alive (w.report (.readData cb buf t)) := by
  have hsil : ∀ o ∈ [Obs.pushed (.readData cb buf t)], o.Silent := by
    simpa using ⟨⟨⟨rfl, rfl, rfl⟩, rfl, rfl, rfl, rfl⟩, rfl⟩
  refine ⟨h.fifo.report _, h.calls.grow (by simp), h.made.grow (by simp), ?_, ?_⟩
  · have hp : (w.report (.readData cb buf t)).dataIds ~ t :: w.dataIds := by
      simp only [World.dataIds, World.reports, World.report, World.note_ble, World.updateBle_ble,
        World.note_ticks, World.updateBle_ticks, List.append_assoc, List.filterMap_append]
      exact List.perm_middle
    exact ((h.life.deferred hp ht ho hq).quiet fun o ho => (hsil o ho).1)
  · have hn : (w.report (.readData cb buf t)).chainLength = w.chainLength := by
      simp [World.chainLength, World.reports, World.report, QueuedOp.chains]
    rw [hn]
    exact h.chain.grow (by simp)

/-- The answered front starts the chain that completes it. -/
theorem begin (h : Alive w) (hq : w.ble.asyncActions = a :: rest) (ha : a.state = .triggered)
    (hw : a.id ∈ answeredIds w.log) (hn : a.name ≠ "scan") (h0 : w.chainLength = 0) {op : QueuedOp}
    (hop : op.chains = true) : Alive (w.report op) := by
  have hd : op.dataId = none := by cases op <;> first | rfl | cases hop
  have hc : Chain (a :: rest) 1 w.log := (hq ▸ h.chain).begin ha hw hn
  refine ⟨h.fifo.report _, h.calls.grow (by simp), h.made.grow (by simp), ?_, ?_⟩
  · have hdat : (w.report op).dataIds = w.dataIds := by
      simp [World.dataIds, World.reports, World.report, hd]
    rw [hdat]
    exact h.life.quiet (l := [.pushed op]) (by simpa using ⟨⟨rfl, rfl, rfl⟩, rfl, rfl, rfl, rfl⟩)
  · have hlen : (w.report op).chainLength = 1 := by
      rw [← Nat.zero_add 1, ← h0]
      simp only [World.chainLength, World.reports, World.report, World.note_ble, World.note_calls,
        World.updateBle_ble, World.note_ticks, World.updateBle_ticks, World.updateBle_calls,
        List.append_assoc, List.countP_append, List.countP_singleton, hop]
      simp only [if_true]
      omega
    rw [hlen, show (w.report op).ble.asyncActions = a :: rest from hq]
    exact hc.grow (by simp)

/-- An open call comes back. -/
theorem back (h : Alive w) {e : Call} {cs : List Call} (hc : w.calls = e :: cs) (r : Resp) :
    Alive (w.back e r) := by
  have hq : ∀ o ∈ [Obs.ret e r], o.Quiet := by
    simpa using ⟨⟨rfl, rfl, rfl⟩, rfl, rfl, rfl, rfl⟩
  refine ⟨h.fifo.back e r, ?_, h.made.grow (by simp), h.life.quiet hq, ?_⟩
  · cases he : e.action with
    | none =>
      have hids : (w.back e r).openIds = w.openIds := by
        simp [World.openIds, hc, he]
      rw [hids]
      exact h.calls.grow (by simp [he])
    | some t =>
      have hids : w.openIds = t :: (w.back e r).openIds := by
        simp [World.openIds, hc, he]
      exact Calls.ret (hids ▸ h.calls) he r
  · refine (h.chain.fewer ?_).grow (by simp)
    simp only [World.chainLength, World.reports, World.back_ble, World.back_ticks,
      World.back_calls, hc, List.tail_cons, List.countP_cons]
    omega

/-- The front is triggered. -/
theorem start (h : Alive w) (hq : w.ble.asyncActions = a :: rest) (ha : a.state = .pending) :
    Alive (w.start a.id) := by
  have hf : w.front = some a := by rw [World.front, hq]; rfl
  have hq' : (w.start a.id).ble.asyncActions = { a with state := .triggered } :: rest :=
    h.fifo.updateAction_front hq _
  have ht : a.id ∉ triggeredIds w.log := h.fifo.not_triggered (by rw [hq]; simp) ha
  refine ⟨h.fifo.start hf ha, h.calls.grow (by simp), ?_, ?_, ?_⟩
  · rw [hq']
    exact ((hq ▸ h.made).change (b := { a with state := .triggered }) rfl rfl).grow
      (l := [.triggered a.id]) (by simp)
  · rw [hq']
    exact (hq ▸ h.life).start ha ht
  · rw [hq']
    have hc : Chain (a :: rest) w.chainLength w.log := hq ▸ h.chain
    have h0 : w.chainLength = 0 := hc.none_of (.inl (by simp [ha]))
    exact (hc.change (b := { a with state := .triggered }) rfl rfl rfl (.inl h0)).grow
      (l := [.triggered a.id]) (by simp)

/-- The front, just triggered, makes its call. -/
theorem call (h : Alive w) (hq : w.ble.asyncActions = a :: rest) (ha : a.state = .triggered)
    (hcall : a.id ∉ calledIds w.log) (href : a.id ∉ refusedIds w.log) {e : Call}
    (he : e.action = some a.id) (hm : e.MadeBy a.trigger) : Alive (w.push e) := by
  have hl : Life (a :: rest) w.dataIds w.log := hq ▸ h.life
  have ht : a.id ∈ triggeredIds w.log := hl.started a List.mem_cons_self (by simp [ha])
  have hx : a.id ∉ cancelledIds w.log := fun hm =>
    hl.not_over List.mem_cons_self (by simp [ha]) (.inr (.inl hm))
  refine ⟨h.fifo.push fun t hte => ?_, ?_, ?_, ?_, ?_⟩
  · rw [he] at hte
    cases hte
    exact ht
  · have hids : (w.push e).openIds = a.id :: w.openIds := by simp [World.openIds, he]
    rw [hids]
    exact h.calls.push he ht hcall href
  · rw [show (w.push e).ble.asyncActions = a :: rest from hq]
    exact (hq ▸ h.made).call he hm (h.fifo.front_once hq)
  · rw [show (w.push e).ble.asyncActions = a :: rest from hq]
    exact hl.call he ha
  · have hn : (w.push e).chainLength = w.chainLength := by
      have hd : e.discovers = false := by cases e <;> first | rfl | cases he
      simp [World.chainLength, World.reports, hd]
    rw [hn, show (w.push e).ble.asyncActions = a :: rest from hq]
    exact (hq ▸ h.chain).call he hm hx (h.fifo.front_once hq)

theorem pop (h : Alive w) (hq : w.ble.asyncActions = a :: rest) (ha : a.state = .completed) :
    Alive ((w.updateBle fun b => { b with asyncActions := rest }).note (.popped a)) :=
  ⟨h.fifo.pop hq ha, h.calls.grow (by simp),
    (h.made.sub fun x hx => by rw [hq]; exact List.mem_cons_of_mem _ hx).grow (by simp),
    (hq ▸ h.life).pop ha, ((hq ▸ h.chain).pop ha).grow (by simp)⟩

/-- The front waits. -/
theorem wait (h : Alive w) (hq : w.ble.asyncActions = a :: rest) :
    Alive (w.updateAction a.id fun a => { a with waitCount := a.waitCount + 1 }) := by
  have hf : w.front = some a := by rw [World.front, hq]; rfl
  have hq' := h.fifo.updateAction_front hq fun x => { x with waitCount := x.waitCount + 1 }
  refine ⟨h.fifo.updateAction (h.fifo.front_tail hf) (fun _ => rfl) (fun _ => rfl) fun _ hp => hp,
    h.calls, ?_,
    ?_, ?_⟩
  · rw [hq']
    exact (hq ▸ h.made).change rfl rfl
  · rw [hq']
    exact (hq ▸ h.life).wait rfl rfl
  · rw [hq']
    exact (hq ▸ h.chain).change rfl rfl rfl (.inr rfl)

/-- A new action is queued. -/
theorem enqueue (h : Alive w) (hp : a.state = .pending)
    (htr : ∀ dev, a.trigger ≠ .autodisconn dev)
    (hn : ∀ dev p, a.trigger = .connect dev p → a.name ≠ "scan") : Alive (w.enqueue a) := by
  have ht : w.serial ∉ triggeredIds w.log := fun hm =>
    Nat.lt_irrefl _ (h.fifo.fresh _ (h.fifo.triggered_sublist.subset hm))
  refine ⟨h.fifo.enqueue hp htr, h.calls.grow (by simp), ?_, ?_, ?_⟩
  · refine (h.made.enqueue (a := { a with id := w.serial }) fun hm => ?_).grow (by simp)
    exact ht (h.calls.called _ hm)
  · exact h.life.enqueue (a := { a with id := w.serial }) hp ht
  · refine (h.chain.enqueue (a := { a with id := w.serial }) (fun hm => ?_) hn).grow (by simp)
    exact ht (h.connect_triggered _ hm)

/-- The running scan at the front is cancelled. -/
theorem cancel (h : Alive w) (hq : w.ble.asyncActions = a :: rest) (ha : a.state = .triggered)
    (hs : a.name = "scan") : Alive ((w.complete a.id).note (.cancelled a.id)) := by
  have hq' := h.fifo.updateAction_front hq fun x => { x with state := .completed }
  have hf : w.front = some a := by rw [World.front, hq]; rfl
  have hc : Chain (a :: rest) w.chainLength w.log := hq ▸ h.chain
  refine ⟨(h.fifo.complete (h.fifo.front_tail hf)).note ⟨rfl, rfl, rfl⟩,
    h.calls.grow (by simp), ?_, ?_, ?_⟩
  · rw [show ((w.complete a.id).note (.cancelled a.id)).ble.asyncActions = _ from hq']
    have hm : Made (a :: rest) w.log := hq ▸ h.made
    exact (hm.grow (l := [.cancelled a.id]) (by simp)).change rfl rfl
  · rw [show ((w.complete a.id).note (.cancelled a.id)).ble.asyncActions = _ from hq']
    exact (hq ▸ h.life).cancel ha (h.fifo.front_once hq)
  · rw [show ((w.complete a.id).note (.cancelled a.id)).ble.asyncActions = _ from hq']
    exact (hc.cancel hs).change rfl rfl rfl (.inl (hc.none_of (.inr hs)))

/-! ## Steps -/

/-- The call that an answer is for. -/
theorem answers {t : ActionId} {ev : Event} (hm : answering.enter w (.event (some t) ev)) :
    ∃ e, .call e ∈ w.log ∧ e.action = some t ∧ ev.answers e = true := by
  obtain ⟨e, he, hans⟩ := (Option.any_eq_true ..).mp hm.2
  obtain ⟨hlog, hact⟩ := callFor_some he
  exact ⟨e, hlog, hact, hans⟩

theorem unanswered {t : ActionId} {ev : Event} (hm : answering.enter w (.event (some t) ev)) :
    t ∉ answeredIds w.log ∧ t ∉ refusedIds w.log := by
  have hun : Gattlibpp.unanswered w.log t = true := hm.1
  simpa only [Gattlibpp.unanswered, Bool.and_eq_true, decide_eq_true_eq] using hun

/-- An answer is for the front, unless its action was cancelled. -/
theorem answer (h : Alive w) {t : ActionId} {ev : Event}
    (hm : (answering.and timely).enter w (.event (some t) ev)) :
    (t ∈ cancelledIds w.log ∧ w.ble.asyncActions = []) ∨
    ∃ a rest, w.ble.asyncActions = a :: rest ∧ a.id = t ∧ a.state = .triggered ∧
      w.chainLength = 0 := by
  obtain ⟨hm, hlate⟩ := hm
  by_cases hc : t ∈ cancelledIds w.log
  · exact .inl ⟨hc, hlate hc⟩
  obtain ⟨hans, href⟩ := unanswered hm
  obtain ⟨e, hlog, hact, -⟩ := answers hm
  have hcall : t ∈ calledIds w.log := List.mem_filterMap.mpr ⟨.call e, hlog, hact⟩
  obtain ⟨a, ha, rfl, hs⟩ := h.life.awaiting t ⟨hcall, href, hans, hc⟩
  obtain ⟨rest, hq⟩ := queue_of_front ha
  exact .inr ⟨a, rest, hq, rfl, hs, (hq ▸ h.chain).none_before hans⟩

/-- An answered connect has not been cancelled. -/
theorem answer_connect (h : Alive w) {t : ActionId} {c : Option Conn}
    (hm : answering.enter w (.event (some t) (.connected c))) :
    t ∈ connectIds w.log ∧ t ∉ cancelledIds w.log := by
  obtain ⟨e, hlog, hact, hans⟩ := answers hm
  have hcon : t ∈ connectIds w.log := by
    cases e <;> cases hans
    exact List.mem_filterMap.mpr ⟨_, hlog, hact⟩
  exact ⟨hcon, (h.chain.connects t hcon).1⟩

theorem silent_enter (m : Move) : (Obs.enter m).Silent :=
  ⟨⟨⟨rfl, rfl, rfl⟩, rfl, rfl, rfl, rfl⟩, rfl⟩

theorem event (h : Alive w) (ev : Event) : Alive (ev.apply w) := by
  cases ev <;> exact h.update rfl rfl (Nat.le_refl _) rfl rfl rfl

/-- A callback of gattlib completes the action it answers. -/
theorem event_finish (h : Alive w) {of : Option ActionId} {ev : Event} {how : Outcome}
    (hm : (answering.and timely).enter w (.event of ev)) (ho : ev.outcome w.ble = some how) :
    Alive ((ev.apply (w.note (.enter (.event of ev)))).finishFront how) := by
  have hn : Alive (ev.apply (w.note (.enter (.event of ev)))) :=
    (h.note (silent_enter _)).event ev
  have hfront : (ev.apply (w.note (.enter (.event of ev)))).front = w.front := by
    cases ev <;> rfl
  have hlog : (ev.apply (w.note (.enter (.event of ev)))).log =
      w.log ++ [.enter (.event of ev)] := by
    cases ev <;> rfl
  have hlen : (ev.apply (w.note (.enter (.event of ev)))).chainLength = w.chainLength := by
    cases ev <;> rfl
  cases of with
  | none =>
    have hun : ev.unsolicited = true := hm.1
    cases ev <;> first | (cases hun; done) | cases ho
  | some t =>
    unfold World.finishFront
    rw [hfront]
    rcases h.answer hm with ⟨-, hnil⟩ | ⟨a, rest, hq, rfl, hs, h0⟩
    · rw [World.front, hnil]
      exact hn
    · rw [World.front, hq]
      have hq' : (ev.apply (w.note (.enter (.event (some a.id) ev)))).ble.asyncActions =
          a :: rest := by
        cases ev <;> exact hq
      refine hn.finish hq' hs (fun hw => hw.answered ?_) (hlen.trans h0) how
      rw [hlog]
      simp

/-- The chain of a connect starts with its answer. -/
theorem event_auto (h : Alive w) {of : Option ActionId} {c : Conn}
    (hm : (answering.and timely).enter w (.event of (.connected (some c)))) (dev : UUID) :
    Alive (((Event.connected (some c)).apply
      (w.note (.enter (.event of (.connected (some c)))))).report
        (.autoDiscoverServicesStep dev)) := by
  cases of with
  | none => cases (show Event.unsolicited (.connected (some c)) = true from hm.1)
  | some t =>
    obtain ⟨hcon, hx⟩ := h.answer_connect hm.1
    rcases h.answer hm with ⟨hc, -⟩ | ⟨a, rest, hq, rfl, hs, h0⟩
    · exact absurd hc hx
    · have hn := (h.note (silent_enter (.event (some a.id) (.connected (some c))))).event
        (.connected (some c))
      have hname : a.name ≠ "scan" := (h.chain.connects _ hcon).2 a (by rw [hq]; simp) rfl
      exact hn.begin hq hs (by simp [Event.apply]) hname h0 rfl

/-- The data of a read is put in the report queue, and the read is completed. -/
theorem event_read (h : Alive w) {of : Option ActionId} {buf : BinaryBuffer}
    (hm : (answering.and timely).enter w (.event of (.readChar (some buf))))
    (hf : w.front = some a) :
    Alive ((if a.callbacks.datareceived.isSome then
        (w.note (.enter (.event of (.readChar (some buf))))).report
          (.readData a.callbacks.datareceived buf a.id)
      else w.note (.enter (.event of (.readChar (some buf))))).complete a.id) := by
  cases of with
  | none => cases (show Event.unsolicited (.readChar (some buf)) = true from hm.1)
  | some t =>
    have hn := h.note (silent_enter (.event (some t) (.readChar (some buf))))
    rcases h.answer hm with ⟨-, hnil⟩ | ⟨b, rest, hq, rfl, hs, h0⟩
    · rw [World.front, hnil] at hf
      cases hf
    · obtain rfl : b = a := by rw [World.front, hq] at hf; exact Option.some.inj hf
      have hl : Life (b :: rest) w.dataIds w.log := hq ▸ h.life
      have hc := hn.complete hq hs (fun hw => hw.answered (by simp)) h0
      split
      · -- completing first makes no difference to the report
        change Alive (((w.note _).complete b.id).report _)
        refine hc.deferred ?_ ?_ ?_
        · simpa using hl.started b List.mem_cons_self (by simp [hs])
        · intro ho
          replace ho : Over w.dataIds (w.log ++ [_]) b.id := ho
          exact hl.not_over List.mem_cons_self (by simp [hs]) (by simpa [Over] using ho)
        · have hq' := hn.fifo.updateAction_front hq fun x => { x with state := .completed }
          rw [show ((w.note _).complete b.id).ble.asyncActions = _ from hq']
          intro x hx hxb
          rcases List.mem_cons.mp hx with rfl | hx
          · rfl
          · exact absurd hxb (h.fifo.front_once hq x hx)
      · exact hc

/-- A call that gattlib refuses is that of the running front. -/
theorem refused_front (h : Alive w) {e : Call} {r : Resp} {cs : List Call} {t : ActionId}
    (hc : w.calls = e :: cs) (hans : (answering.and timely).ans w e r) (he : e.action = some t)
    (hr : r.rc ≠ 0) :
    ∃ a rest, w.ble.asyncActions = a :: rest ∧ a.id = t ∧ a.state = .triggered := by
  have ho := h.calls.opened t (by simp [World.openIds, hc, he])
  obtain ⟨a, ha, rfl, hs⟩ := h.life.awaiting t
    ⟨ho.1, ho.2, hans.1 t he hr, hans.2 t he hr⟩
  obtain ⟨rest, hq⟩ := queue_of_front ha
  exact ⟨a, rest, hq, rfl, hs⟩

/-- gattlib refuses the call of the front. -/
theorem refuse (h : Alive w) {e : Call} {r : Resp} {cs : List Call} {t : ActionId}
    (hc : w.calls = e :: cs) (hans : (answering.and timely).ans w e r) (he : e.action = some t)
    (hr : r.rc ≠ 0) : Alive ((e.refusedApply (w.back e r)).finish .failure t) := by
  obtain ⟨a, rest, hq, rfl, hs⟩ := h.refused_front hc hans he hr
  have h0 : w.chainLength = 0 := (hq ▸ h.chain).none_before (hans.1 _ he hr)
  have hb := h.back hc r
  have hlen : (w.back e r).chainLength = 0 := by
    have hd : e.discovers = false := by cases e <;> first | rfl | cases he
    simpa [World.chainLength, World.reports, hc, hd] using h0
  have hb' : Alive (e.refusedApply (w.back e r)) := by
    cases e <;> first | exact hb | exact hb.update rfl rfl (Nat.le_refl _) rfl rfl rfl
  have hq' : (e.refusedApply (w.back e r)).ble.asyncActions = a :: rest := by
    cases e <;> exact hq
  refine hb'.finish hq' hs (fun hw => hw.refused ?_) ?_ .failure
  · have hlog : (e.refusedApply (w.back e r)).log = w.log ++ [.ret e r] := by cases e <;> rfl
    rw [hlog]
    simp [he, hr]
  · rw [← hlen]
    cases e <;> rfl

/-- The tick takes the next report. -/
theorem next (h : Alive w) {op : QueuedOp} {ops : List QueuedOp} {ts : List (List QueuedOp)}
    (hts : w.ticks = (op :: ops) :: ts) : Alive (w.next op ops ts) := by
  have hlen := World.chainLength_next hts
  refine h.quiet (l := [.ran op]) rfl (Nat.le_refl _) rfl ?_ (.refl _) ?_ (by omega)
  · simpa using ⟨⟨⟨rfl, rfl, rfl⟩, rfl, rfl, rfl, rfl⟩, rfl⟩
  · refine List.Sublist.filterMap _ ?_
    simp [World.next, World.reports, hts]

/-- A step of the chain calls a discovery function. -/
theorem discover (h : Alive w) {op : QueuedOp} {ops : List QueuedOp} {ts : List (List QueuedOp)}
    (hts : w.ticks = (op :: ops) :: ts) (hop : op.chains = true) {e : Call}
    (he : e.discovers = true) : Alive ((w.next op ops ts).push e) := by
  have hn := h.next hts
  have hs : (Obs.call e).Silent := by
    cases e <;> first | exact ⟨⟨⟨rfl, rfl, rfl⟩, rfl, rfl, rfl, rfl⟩, rfl⟩ | cases he
  have hlen : ((w.next op ops ts).push e).chainLength = w.chainLength := by
    rw [World.chainLength_push, World.chainLength_next hts, hop, he]
  refine h.quiet (l := [.ran op, .call e]) rfl (Nat.le_refl _) (List.append_assoc ..) ?_ ?_ ?_
    (Nat.le_of_eq hlen)
  · intro o ho
    rcases List.mem_cons.mp ho with rfl | ho
    · exact ⟨⟨⟨rfl, rfl, rfl⟩, rfl, rfl, rfl, rfl⟩, rfl⟩
    · exact List.mem_singleton.mp ho ▸ hs
  · simp [World.openIds, World.next, show e.action = none from hs.1.called]
  · refine List.Sublist.filterMap _ ?_
    simp [World.next, World.reports, hts]

theorem ran (h : Alive w) {op : QueuedOp} {ops : List QueuedOp} {ts : List (List QueuedOp)}
    (hts : w.ticks = (op :: ops) :: ts) : Alive (op.apply (w.next op ops ts)) := by
  have hn := h.next hts
  cases op with
  | callback cb => exact hn.invoke_other rfl
  | notification cb buf => exact hn.invoke_other rfl
  | readData cb buf t =>
    have hdat : w.dataIds ~ t :: (w.next (.readData cb buf t) ops ts).dataIds :=
      World.dataIds_next hts
    have hmem : t ∈ w.dataIds := hdat.mem_iff.mpr List.mem_cons_self
    obtain ⟨ht, hq⟩ := h.life.ended t (.inr (.inr hmem))
    obtain ⟨hi, hc⟩ := h.life.data t hmem
    have hd := (List.nodup_cons.mp (hdat.nodup_iff.mp h.life.dataOnce)).1
    refine hn.invoke rfl (by simpa [World.next] using ht) ?_ hq
    rintro (ho | ho | ho)
    · exact hi (by simpa [World.next] using ho)
    · exact hc (by simpa [World.next] using ho)
    · exact hd ho
  | autoDiscoverServicesStep dev | autoDiscoverCharacteristicsStep dev =>
    exact h.discover hts rfl rfl
  | reportConnected =>
    -- the one step that is under way is this one
    have hlen := World.chainLength_next hts
    have hshort := h.chain.short
    simp only [QueuedOp.chains, reduceIte] at hlen
    obtain ⟨a, ha, hs, hans, -⟩ := h.chain.front (by omega)
    obtain ⟨rest, hq⟩ := queue_of_front ha
    have hfront : (w.next .reportConnected ops ts).front = some a := ha
    simp only [QueuedOp.apply, World.finishFront, hfront]
    exact hn.finish hq hs (fun hw => hw.answered (by simp [World.next, hans])) (by omega) .success

/-- A tick leaves its reports behind. -/
theorem drop (h : Alive w) {q : List QueuedOp} {ts : List (List QueuedOp)}
    (hts : w.ticks = q :: ts) : Alive { w with ticks := ts } := by
  have hrep : ({ w with ticks := ts } : World).reports <+ w.reports := by
    simp only [World.reports, hts, List.flatten_cons]
    exact (List.sublist_append_right ..).append_left _
  refine h.quiet (l := []) rfl (Nat.le_refl _) (List.append_nil _).symm (by simp) (.refl _)
    (hrep.filterMap _) ?_
  exact Nat.add_le_add_right hrep.countP_le _

/-- A step of the chain ends with the next one. -/
theorem stepOn (h : Alive w) {e : Call} {cs : List Call} (hc : w.calls = e :: cs) (r : Resp)
    (he : e.discovers = true) (op : QueuedOp) (hop : op.chains = true) :
    Alive ((w.back e r).report op) := by
  have hlen : ((w.back e r).report op).chainLength = w.chainLength := by
    rw [World.chainLength_report, World.chainLength_back hc r, hop, he]
  have hact : e.action = none := by cases e <;> first | rfl | cases he
  have hd : op.dataId = none := by cases op <;> first | rfl | cases hop
  refine h.quiet (l := [.ret e r, .pushed op]) rfl (Nat.le_refl _) (List.append_assoc ..) ?_ ?_ ?_
    (Nat.le_of_eq hlen)
  · intro o ho
    rcases List.mem_cons.mp ho with rfl | ho
    · exact ⟨⟨⟨rfl, rfl, rfl⟩, rfl, rfl, rfl, rfl⟩, by simp [hact]⟩
    · rw [List.mem_singleton.mp ho]
      exact ⟨⟨⟨rfl, rfl, rfl⟩, rfl, rfl, rfl, rfl⟩, rfl⟩
  · simp [World.openIds, hc, hact]
  · simp [World.dataIds, World.reports, World.report, hd]

/-- A report that completes nothing is added. -/
theorem report (h : Alive w) {op : QueuedOp} (hd : op.dataId = none) (hop : op.chains = false) :
    Alive (w.report op) := by
  have hlen : (w.report op).chainLength = w.chainLength := by
    rw [World.chainLength_report, hop]
    rfl
  refine h.quiet (l := [.pushed op]) rfl (Nat.le_refl _) rfl ?_ (.refl _) ?_ (Nat.le_of_eq hlen)
  · simpa using ⟨⟨⟨rfl, rfl, rfl⟩, rfl, rfl, rfl, rfl⟩, rfl⟩
  · simp [World.dataIds, World.reports, World.report, hd]

/-- The tick takes the reports that wait. -/
theorem takeReports (h : Alive w) {cs : List Call} (hc : w.calls = .asyncProcessAll :: cs)
    (r : Resp) :
    Alive { w.back .asyncProcessAll r with
      ticks := w.ble.reportQueue :: w.ticks, ble := { w.ble with reportQueue := [] } } := by
  have hb := h.back hc r
  exact hb.quiet (l := []) rfl (Nat.le_refl _) (List.append_nil _).symm (by simp) (.refl _)
    (.refl _) (Nat.le_refl _)

theorem trigger (h : Alive w) (hf : w.front = some a) (hp : a.state = .pending) :
    Alive (a.trigger.apply (w.start a.id) a.id) := by
  obtain ⟨rest, hq⟩ := queue_of_front hf
  have hs := h.start hq hp
  have hq' : (w.start a.id).ble.asyncActions = { a with state := .triggered } :: rest :=
    h.fifo.updateAction_front hq _
  have ht : a.id ∉ triggeredIds w.log := h.fifo.not_triggered (by rw [hq]; simp) hp
  have hc : a.id ∉ calledIds (w.start a.id).log := fun hm => ht (h.calls.called _ (by simpa using hm))
  have hr : a.id ∉ refusedIds (w.start a.id).log := fun hm =>
    ht (h.calls.refused _ (by simpa using hm))
  have hpush {e : Call} (he : e.action = some a.id) (hm : e.MadeBy a.trigger) :
      Alive ((w.start a.id).push e) :=
    hs.call (a := { a with state := .triggered }) hq' rfl hc hr he hm
  have h0 : w.chainLength = 0 := (hq ▸ h.chain).none_of (.inl (by simp [hp]))
  cases htr : a.trigger with
  | autodisconn dev => exact hs
  | stopScanDone =>
    exact hs.finish (a := { a with state := .triggered }) hq' rfl (fun hw => hc hw.called) h0 _
  | scan seconds => exact hpush rfl (by rw [htr]; rfl)
  | connect dev p => exact hpush rfl (by rw [htr]; exact ⟨rfl, rfl⟩)
  | read | write =>
    simp only [Trigger.apply]
    split
    · exact hs
    · exact hpush rfl (by rw [htr]; simp [Call.MadeBy])
  | _ => exact hpush rfl (by rw [htr]; trivial)

/-- **Step lemma**: acts of runs whose answers are timely. -/
theorem act [Gattlib] {P : Policy} (hP : P.WithinAt (answering.and timely) w) (h : Alive w)
    (ha : Act P w w') : Alive w' := by
  cases ha with
  | enter m => exact h.note (silent_enter m)
  | event of ev how hm ho => exact h.event_finish (hP.enter _ hm) ho
  | eventAuto of c hm => exact h.event_auto (hP.enter _ hm) _
  | eventRead of buf a hm _ hf => exact h.event_read (hP.enter _ hm) hf
  | eventReadNone of buf => exact h.note (silent_enter _)
  | eventDiscovered of addr name =>
    have hn := h.note (silent_enter (.event of (.deviceDiscovered addr name)))
    have hnamed : Alive ((w.note (.enter (.event of (.deviceDiscovered addr name)))).named
        (addr.getD "") (name.getD "")) :=
      hn.update rfl rfl (Nat.le_refl _) rfl rfl rfl
    exact hnamed.invoke_other rfl
  | raised m => exact h.note ⟨⟨⟨rfl, rfl, rfl⟩, rfl, rfl, rfl, rfl⟩, rfl⟩
  | freed t => exact h.note ⟨⟨⟨rfl, rfl, rfl⟩, rfl, rfl, rfl, rfl⟩, rfl⟩
  | call e he =>
    obtain ⟨hs, hd⟩ := he.silent
    exact h.push hs hd
  | back e r cs hc => exact h.back hc r
  | refused e r cs t a hc hans he hr => exact h.refuse hc (hP.ans _ _ hans) he hr
  | tick => exact h.push ⟨⟨⟨rfl, rfl, rfl⟩, rfl, rfl, rfl, rfl⟩, rfl⟩ rfl
  | takeReports r cs hc => exact h.takeReports hc r
  | ran op rest ts hts => exact h.ran hts
  | endTick ts hts => exact h.drop hts
  | trigger ts a hts _ hf hp => exact (h.drop hts).trigger hf hp
  | pop ts a rest hts _ hq hd => exact (h.drop hts).pop hq hd
  | wait ts a hts _ hf =>
    obtain ⟨rest, hq⟩ := queue_of_front hf
    exact (h.drop hts).wait hq
  | services dev c r cs hc =>
    obtain ⟨devices, heq⟩ := (w.back (.discoverPrimary dev c) r).servicesStep_eq dev r
    rw [heq]
    exact (h.stepOn hc r rfl (.autoDiscoverCharacteristicsStep dev) rfl).update rfl rfl
      (Nat.le_refl _) rfl rfl rfl
  | chars dev c r cs hc =>
    obtain ⟨devices, heq⟩ := (w.back (.discoverChar dev c) r).charsStep_eq dev r
    rw [heq]
    exact (h.stepOn hc r rfl .reportConnected rfl).update rfl rfl (Nat.le_refl _) rfl rfl rfl
  | report cb => exact h.report rfl rfl
  | notify cb buf => exact h.report rfl rfl
  | setAutoDiscover | setConnectionParameters | deviceName =>
    exact h.update rfl rfl (Nat.le_refl _) rfl rfl rfl
  | adapterOpened name r cs hc | adapterClosed a r cs hc =>
    exact (h.back hc r).update rfl rfl (Nat.le_refl _) rfl rfl rfl
  | lock | unlock => exact h.update rfl rfl (Nat.le_refl _) rfl rfl rfl
  | inert _ hi => exact h.update hi.asyncActions hi.reportQueue hi.serial hi.calls hi.ticks hi.log

theorem request {op : Op} (h : Alive w) (hr : Request w op w') : Alive w' := by
  cases hr with
  | scan _ _ disc =>
    have hd : Alive (w.updateBle fun b => { b with devDiscoveredCb := disc }) :=
      h.update rfl rfl (Nat.le_refl _) rfl rfl rfl
    exact (hd.enqueue rfl (by rintro _ ⟨⟩) (by rintro _ _ ⟨⟩)).update rfl rfl (Nat.le_refl _) rfl rfl rfl
  | stopScanCancel _ _ a _ _ hf hs hn =>
    obtain ⟨rest, hq⟩ := queue_of_front hf
    exact (h.cancel hq hs hn).enqueue rfl (by rintro _ ⟨⟩) (by rintro _ _ ⟨⟩)
  | connect dev p =>
    refine Alive.enqueue (w := w.updateBle _) (h.update rfl rfl ?_ rfl rfl rfl) rfl
      (by rintro _ ⟨⟩) fun _ _ _ => show "connect" ≠ "scan" by decide
    exact Nat.le_refl _
  | _ => exact h.enqueue rfl (by rintro _ ⟨⟩) (by rintro _ _ ⟨⟩)

theorem subs [Gattlib] {P : Policy} (h : Alive w) (hs : Subs P w w') : Alive w' := by
  cases hs
  exact h.update rfl rfl (Nat.le_refl _) rfl rfl rfl

end Alive

/-! ## The result -/

theorem timely_within : (contract.and timely).Within (answering.and timely) := fun w =>
  ⟨fun m h => ⟨(contract_answering w).enter m h.1, h.2⟩, fun _ _ h => h⟩

section
variable [Gattlib]

def aliveClaim {P : Policy} (hP : P.Within (answering.and timely)) : Claim P where
  inv := Alive
  crash _ _ := True
  act {w _} h ha := ⟨h.act (hP w) ha, trivial⟩
  exit h _ := ⟨h.note ⟨⟨⟨rfl, rfl, rfl⟩, rfl, rfl, rfl, rfl⟩, rfl⟩, trivial⟩
  drop _ h hts _ _ := ⟨h.drop hts, trivial⟩
  request h _ hr := ⟨h.request hr, trivial⟩
  freed _ _ _ _ _ _ := trivial
  missing _ _ _ _ _ _ _ _ := trivial
  other _ _ := trivial

theorem aliveClaim_notifies {P : Policy} (hP : P.Within (answering.and timely)) :
    (aliveClaim hP).Notifies :=
  .of_subs (fun h hs => ⟨h.subs hs, trivial⟩) fun _ _ _ => trivial

/-- **Run lemma.** -/
theorem alive_reach {P : Policy} (hP : P.Within (answering.and timely))
    {c : Config World Call Resp Fault} (h : Reach P .init c) (hf : c.fault = none) : Alive c.s :=
  Claim.reach (aliveClaim_notifies hP) trivial .init h hf

/-- **The callbacks of an action are invoked at most once**, after its trigger has started and
not after it was cancelled, in runs that have no late answer to a cancelled scan. -/
theorem callbacks_once {c : Config World Call Resp Fault}
    (h : Reach (contract.and timely) .init c) (hf : c.fault = none) :
    Past CompletedOnce c.s.log :=
  (alive_reach timely_within h hf).life.once

end

/-- A scan that completes: its success callback is invoked, once. -/
theorem callbacks_once_scan :
    ∃ c : Config World Call Resp Fault, @Reach .sample (contract.and timely) .init c ∧
      invokedIds c.s.log = [0] ∧ Past CompletedOnce c.s.log := by
  let _ := Gattlib.sample
  obtain ⟨c, hc, hP⟩ := (system (contract.and timely)).reach_of_run_any
    [.enter (.api (.scan 0 (some (.user 1)) none none)), .answer (.adapter 3),
      .enter (.api .processAsync), .answer .void, .answer (.code 0),
      .enter (.event (some 0) .scanComplete)]
    (c := ⟨.init, [], none⟩) (P := fun c => c.fault.isNone && invokedIds c.s.log == [0])
    (by decide)
  simp only [Bool.and_eq_true, Option.isNone_iff_eq_none, beq_iff_eq] at hP
  exact ⟨c, hc, hP.2, callbacks_once hc hP.1⟩

/-- The scan that `stopScan` has cancelled completes late, and invokes the callback of the
`stopScan` that waits for its trigger. -/
theorem callbacks_once_late_scan :
    ∃ c : Config World Call Resp Fault, @Reach .sample contract .init c ∧ c.fault = none ∧
      ¬ Past CompletedOnce c.s.log := by
  let _ := Gattlib.sample
  obtain ⟨c, hc, hP⟩ := (system contract).reach_of_run_any
    [.enter (.api (.scan 0 (some (.user 1)) none none)), .answer (.adapter 3),
      .enter (.api .processAsync), .answer .void, .answer (.code 0),
      .enter (.api (.stopScan (some (.user 2)) none)), .enter (.api .processAsync), .answer .void,
      .enter (.event (some 0) .scanComplete)]
    (c := ⟨.init, [], none⟩)
    (P := fun c => c.fault.isNone && (decide (1 ∈ invokedIds c.s.log) &&
      decide (1 ∉ triggeredIds c.s.log)))
    (by decide)
  simp only [Bool.and_eq_true, Option.isNone_iff_eq_none, decide_eq_true_eq] at hP
  exact ⟨c, hc, hP.1, fun h => hP.2.2 (invoked_triggered h _ hP.2.1)⟩

end Gattlibpp
