import Mathlib.Data.List.Perm.Basic
import Gattlibpp.Queue.Contract
import Gattlibpp.Queue.Fifo

/-!
# The life of an action

What the queue, the calls that are open and the reports that wait know about an action,
against what the log says has happened to it. There are four parts: `Calls` for the
gattlib calls, `Made` for what they are, `Life` for the answers and the callbacks, and
`Chain` for the steps that complete a connect after its answer. Each has a lemma for every
effect it depends on.
-/

namespace Gattlibpp

open Open
open scoped List

/-! ## Reports that concern an action -/

def QueuedOp.dataId : QueuedOp → Option ActionId
  | .readData _ _ of => some of
  | _ => none

/-- The steps that complete a connect. -/
def QueuedOp.chains : QueuedOp → Bool
  | .autoDiscoverServicesStep _ | .autoDiscoverCharacteristicsStep _ | .reportConnected => true
  | _ => false

def Call.discovers : Call → Bool
  | .discoverPrimary .. | .discoverChar .. => true
  | _ => false

namespace World

/-- The reports that are still to be run. -/
def reports (w : World) : List QueuedOp := w.ble.reportQueue ++ w.ticks.flatten

/-- The reads whose data is still to be reported. -/
def dataIds (w : World) : List ActionId := w.reports.filterMap QueuedOp.dataId

/-- How many steps that complete a connect are waiting or running. -/
def chainLength (w : World) : Nat :=
  w.reports.countP QueuedOp.chains + w.calls.countP Call.discovers

/-- The actions whose gattlib call is open. -/
def openIds (w : World) : List ActionId := w.calls.filterMap Call.action

/-- The tick that runs reports goes on to its next one. -/
def next (w : World) (op : QueuedOp) (ops : List QueuedOp) (ts : List (List QueuedOp)) : World :=
  { w with ticks := ops :: ts }.note (.ran op)

variable {w : World}

theorem chainLength_push (e : Call) :
    (w.push e).chainLength = w.chainLength + (if e.discovers then 1 else 0) := by
  simp only [chainLength, reports, push_ble, push_ticks, push_calls, List.countP_cons]
  omega

theorem chainLength_back {e : Call} {cs : List Call} (hc : w.calls = e :: cs) (r : Resp) :
    w.chainLength = (w.back e r).chainLength + (if e.discovers then 1 else 0) := by
  simp only [chainLength, reports, back_ble, back_ticks, back_calls, hc, List.tail_cons,
    List.countP_cons]
  omega

theorem chainLength_report (op : QueuedOp) :
    (w.report op).chainLength = w.chainLength + (if op.chains then 1 else 0) := by
  simp only [chainLength, reports, report, note_ble, note_calls, note_ticks, updateBle_ble,
    updateBle_calls, updateBle_ticks, List.countP_append, List.countP_singleton]
  omega

theorem chainLength_next {op : QueuedOp} {ops : List QueuedOp} {ts : List (List QueuedOp)}
    (hts : w.ticks = (op :: ops) :: ts) :
    w.chainLength = (w.next op ops ts).chainLength + (if op.chains then 1 else 0) := by
  simp only [chainLength, reports, next, hts, note_ble, note_ticks, note_calls, List.flatten_cons,
    List.cons_append, List.countP_append, List.countP_cons]
  omega

theorem dataIds_next {op : QueuedOp} {ops : List QueuedOp} {ts : List (List QueuedOp)}
    (hts : w.ticks = (op :: ops) :: ts) :
    w.dataIds ~ op.dataId.toList ++ (w.next op ops ts).dataIds := by
  have hrep : w.reports ~ op :: (w.next op ops ts).reports := by
    simp only [reports, next, hts, note_ble, note_ticks, List.flatten_cons, List.cons_append]
    exact List.perm_middle
  refine (hrep.filterMap _).trans ?_
  cases h : op.dataId <;> simp [h, dataIds]

end World

/-! ## Calls -/

/-- An action makes its call after its trigger has started, and once. -/
structure Calls (ids : List ActionId) (log : List Obs) : Prop where
  called : ∀ t ∈ calledIds log, t ∈ triggeredIds log
  refused : ∀ t ∈ refusedIds log, t ∈ triggeredIds log
  opened : ∀ t ∈ ids, t ∈ calledIds log ∧ t ∉ refusedIds log
  once : ids.Nodup

namespace Calls

variable {ids ids' : List ActionId} {log : List Obs}

theorem init : Calls [] [] := ⟨by simp, by simp, by simp, .nil⟩

theorem sub (h : Calls ids log) (hs : ids' <+ ids) : Calls ids' log :=
  ⟨h.called, h.refused, fun t ht => h.opened t (hs.subset ht), h.once.sublist hs⟩

/-- Entries about other things than gattlib calls. -/
theorem grow (h : Calls ids log) {l : List Obs}
    (hl : ∀ o ∈ l, o.calledId = none ∧ o.refusedId = none) : Calls ids (log ++ l) := by
  have hc : calledIds (log ++ l) = calledIds log := marks_append_of_none fun o ho => (hl o ho).1
  have hr : refusedIds (log ++ l) = refusedIds log := marks_append_of_none fun o ho => (hl o ho).2
  refine ⟨fun t ht => ?_, fun t ht => ?_, ?_, h.once⟩
  · rw [hc] at ht
    simp [h.called t ht]
  · rw [hr] at ht
    simp [h.refused t ht]
  · rw [hc, hr]
    exact h.opened

/-- A triggered action makes its call. -/
theorem push (h : Calls ids log) {e : Call} {t : ActionId} (he : e.action = some t)
    (ht : t ∈ triggeredIds log) (hc : t ∉ calledIds log) (hr : t ∉ refusedIds log) :
    Calls (t :: ids) (log ++ [.call e]) := by
  refine ⟨?_, ?_, ?_, ?_⟩
  · intro x hx
    simp only [marks_append, marks_singleton, Obs.calledId, he, Option.toList_some, List.mem_append,
      List.mem_singleton] at hx
    rcases hx with hx | rfl
    · simp [h.called x hx]
    · simp [ht]
  · intro x hx
    simp only [marks_append, marks_singleton, Obs.refusedId, Option.toList_none,
      List.append_nil] at hx
    simp [h.refused x hx]
  · intro x hx
    rcases List.mem_cons.mp hx with rfl | hx
    · simpa [he] using hr
    · have ho := h.opened x hx
      simp [ho.1, ho.2]
  · refine List.nodup_cons.mpr ⟨fun hm => ?_, h.once⟩
    exact hc (h.opened t hm).1

/-- A gattlib call returns. -/
theorem ret {e : Call} {t : ActionId} (h : Calls (t :: ids) log) (he : e.action = some t)
    (r : Resp) : Calls ids (log ++ [.ret e r]) := by
  obtain ⟨hn, hd⟩ := List.nodup_cons.mp h.once
  have ht := h.opened t List.mem_cons_self
  refine ⟨?_, ?_, ?_, hd⟩
  · intro x hx
    simp only [marks_append, marks_singleton, Obs.calledId, Option.toList_none,
      List.append_nil] at hx
    simp [h.called x hx]
  · intro x hx
    simp only [marks_append, marks_singleton, Obs.refusedId, List.mem_append] at hx
    rcases hx with hx | hx
    · simp [h.refused x hx]
    · split at hx
      · simp at hx
      · simp only [he, Option.toList_some, List.mem_singleton] at hx
        simp [hx, h.called t ht.1]
  · intro x hx
    have ho := h.opened x (List.mem_cons_of_mem _ hx)
    have hxt : x ≠ t := fun heq => hn (heq ▸ hx)
    refine ⟨by simp [ho.1], ?_⟩
    simp only [marks_append, marks_singleton, Obs.refusedId, List.mem_append, not_or]
    refine ⟨ho.2, ?_⟩
    split <;> simp [he, hxt]

end Calls

/-- The trigger that makes a call. -/
def Call.MadeBy : Call → Trigger → Prop
  | .scanEnable _ _ seconds, .scan runSeconds => seconds = runSeconds
  | .scanDisable .., .stopScan => True
  | .connect _ dev p, .connect devId parameters => dev = devId ∧ p = parameters
  | .disconnect .., .disconnect _ => True
  | .readChar .., .read .. => True
  | .writeChar _ _ _ buf, .write _ _ buffer => buf = buffer
  | _, _ => False

/-- The calls in the log are those of the triggers of their actions. -/
def Made (queue : List AsyncAction.Details) (log : List Obs) : Prop :=
  ∀ e t, .call e ∈ log → e.action = some t → ∀ a ∈ queue, a.id = t → e.MadeBy a.trigger

namespace Made

variable {queue queue' rest : List AsyncAction.Details} {a b : AsyncAction.Details} {log : List Obs}

theorem init : Made [] [] := by
  intro e t he
  cases he

theorem grow (h : Made queue log) {l : List Obs} (hl : ∀ o ∈ l, o.calledId = none) :
    Made queue (log ++ l) := by
  intro e t he het
  rcases List.mem_append.mp he with he | he
  · exact h e t he het
  · have hc : e.action = none := hl _ he
    rw [hc] at het
    cases het

theorem sub (h : Made queue log) (hq : ∀ a ∈ queue', a ∈ queue) : Made queue' log :=
  fun e t he het a ha => h e t he het a (hq a ha)

theorem change (h : Made (a :: rest) log) (hid : b.id = a.id) (htr : b.trigger = a.trigger) :
    Made (b :: rest) log := by
  intro e t he het x hx hxt
  rcases List.mem_cons.mp hx with rfl | hx
  · rw [htr]
    exact h e t he het a List.mem_cons_self (hid.symm.trans hxt)
  · exact h e t he het x (List.mem_cons_of_mem _ hx) hxt

theorem call (h : Made (a :: rest) log) {e : Call} (he : e.action = some a.id)
    (hm : e.MadeBy a.trigger) (hr : ∀ x ∈ rest, x.id ≠ a.id) :
    Made (a :: rest) (log ++ [.call e]) := by
  intro e' t he' het x hx hxt
  rcases List.mem_append.mp he' with he' | he'
  · exact h e' t he' het x hx hxt
  · cases List.mem_singleton.mp he'
    obtain rfl : a.id = t := Option.some.inj (he.symm.trans het)
    rcases List.mem_cons.mp hx with rfl | hx
    · exact hm
    · exact absurd hxt (hr x hx)

theorem enqueue (h : Made queue log) (ha : a.id ∉ calledIds log) : Made (queue ++ [a]) log := by
  intro e t he het x hx hxt
  rcases List.mem_append.mp hx with hx | hx
  · exact h e t he het x hx hxt
  · cases List.mem_singleton.mp hx
    exact absurd (List.mem_filterMap.mpr ⟨.call e, he, het.trans (congrArg some hxt.symm)⟩) ha

end Made

/-! ## Answers and callbacks -/

/-- An action's callbacks are invoked after its trigger has started, not after it was
cancelled, and once. -/
def CompletedOnce (before : List Obs) (o : Obs) : Prop :=
  ∀ t, o.invokedId = some t →
    t ∈ triggeredIds before ∧ t ∉ cancelledIds before ∧ t ∉ invokedIds before

theorem invoked_triggered {log : List Obs} (h : Past CompletedOnce log) :
    ∀ t ∈ invokedIds log, t ∈ triggeredIds log := by
  intro t ht
  obtain ⟨o, ho, hot⟩ := List.mem_filterMap.mp ht
  obtain ⟨before, after, rfl⟩ := List.append_of_mem ho
  have hb := (h before o after rfl t hot).1
  simp [hb]

/-- The call made for `t` is going to be answered, and the answer is for `t`. -/
structure Awaiting (log : List Obs) (t : ActionId) : Prop where
  called : t ∈ calledIds log
  refused : t ∉ refusedIds log
  answered : t ∉ answeredIds log
  cancelled : t ∉ cancelledIds log

/-- The callbacks of `t` have been invoked, are about to be, or never will. -/
def Over (data : List ActionId) (log : List Obs) (t : ActionId) : Prop :=
  t ∈ invokedIds log ∨ t ∈ cancelledIds log ∨ t ∈ data

/-- Entries that say nothing about the callbacks of an action. -/
structure Obs.Quiet (o : Obs) : Prop where
  aside : o.Aside
  called : o.calledId = none
  connect : o.connectId = none
  invoked : o.invokedId = none
  cancelled : o.cancelledId = none

structure Life (queue : List AsyncAction.Details) (data : List ActionId) (log : List Obs) :
    Prop where
  started : ∀ a ∈ queue, a.state ≠ .pending → a.id ∈ triggeredIds log
  awaiting : ∀ t, Awaiting log t → ∃ a ∈ queue.head?, a.id = t ∧ a.state = .triggered
  ended : ∀ t, Over data log t → t ∈ triggeredIds log ∧ ∀ a ∈ queue, a.id = t → a.state = .completed
  dataOnce : data.Nodup
  data : ∀ t ∈ data, t ∉ invokedIds log ∧ t ∉ cancelledIds log
  once : Past CompletedOnce log

namespace Life

variable {queue rest : List AsyncAction.Details} {a : AsyncAction.Details}
  {data data' : List ActionId} {log : List Obs} {t : ActionId}

theorem init : Life [] [] [] where
  started := by simp
  awaiting t h := absurd h.called (by simp)
  ended t h := by simp [Over] at h
  dataOnce := .nil
  data := by simp
  once := past_nil

theorem not_over (h : Life queue data log) (ha : a ∈ queue) (hr : a.state ≠ .completed) :
    ¬ Over data log a.id := fun ho => hr ((h.ended _ ho).2 a ha rfl)

/-- A completed or waiting front leaves no call to be answered. -/
theorem not_awaiting (h : Life (a :: rest) data log) (ha : a.state ≠ .triggered) :
    ¬ Awaiting log t := by
  intro hw
  obtain ⟨b, hb, -, hr⟩ := h.awaiting t hw
  cases hb
  exact ha hr

theorem quiet (h : Life queue data log) {l : List Obs} (hl : ∀ o ∈ l, o.Quiet) :
    Life queue data (log ++ l) := by
  have ht : triggeredIds (log ++ l) = triggeredIds log :=
    marks_append_of_none fun o ho => (hl o ho).aside.2.1
  have hi : invokedIds (log ++ l) = invokedIds log :=
    marks_append_of_none fun o ho => (hl o ho).invoked
  have hc : cancelledIds (log ++ l) = cancelledIds log :=
    marks_append_of_none fun o ho => (hl o ho).cancelled
  have hcl : calledIds (log ++ l) = calledIds log :=
    marks_append_of_none fun o ho => (hl o ho).called
  refine ⟨?_, ?_, ?_, h.dataOnce, ?_, ?_⟩
  · rw [ht]
    exact h.started
  · intro t hw
    refine h.awaiting t ⟨hcl ▸ hw.called, fun hm => hw.refused ?_, fun hm => hw.answered ?_,
      hc ▸ hw.cancelled⟩
    · simp [hm]
    · simp [hm]
  · intro t ho
    unfold Over at ho
    rw [hi, hc] at ho
    rw [ht]
    exact h.ended t ho
  · rw [hi, hc]
    exact h.data
  · refine h.once.append fun o ho before t hm => ?_
    rw [(hl o ho).invoked] at hm
    cases hm

theorem sub (h : Life queue data log) (hs : data' <+ data) : Life queue data' log where
  started := h.started
  awaiting := h.awaiting
  ended t ho := h.ended t (ho.imp_right (Or.imp_right (hs.subset ·)))
  dataOnce := h.dataOnce.sublist hs
  data t ht := h.data t (hs.subset ht)
  once := h.once

/-- The front becomes Triggered. -/
theorem start (h : Life (a :: rest) data log) (hp : a.state = .pending)
    (ht : a.id ∉ triggeredIds log) :
    Life ({ a with state := .triggered } :: rest) data (log ++ [.triggered a.id]) := by
  have hover : ¬ Over data log a.id := fun ho => ht (h.ended _ ho).1
  refine ⟨?_, ?_, ?_, h.dataOnce, ?_, ?_⟩
  · intro x hx hs
    rcases List.mem_cons.mp hx with rfl | hx
    · simp
    · simp [h.started x (List.mem_cons_of_mem _ hx) hs]
  · intro t hw
    refine absurd (Awaiting.mk ?_ ?_ ?_ ?_) (h.not_awaiting (t := t) (by simp [hp]))
    · simpa using hw.called
    · simpa using hw.refused
    · simpa using hw.answered
    · simpa using hw.cancelled
  · intro t ho
    replace ho : Over data log t := by simpa [Over] using ho
    refine ⟨by simp [(h.ended t ho).1], fun x hx hxt => ?_⟩
    rcases List.mem_cons.mp hx with rfl | hx
    · exact absurd (hxt ▸ ho) hover
    · exact (h.ended t ho).2 x (List.mem_cons_of_mem _ hx) hxt
  · simpa using h.data
  · exact past_concat.mpr ⟨h.once, by rintro t ⟨⟩⟩

/-- The front makes its call. -/
theorem call (h : Life (a :: rest) data log) {e : Call} (he : e.action = some a.id)
    (ha : a.state = .triggered) : Life (a :: rest) data (log ++ [.call e]) := by
  have he' : (Obs.call e).invokedId = none := by cases e <;> first | rfl | cases he
  have hi : invokedIds (log ++ [.call e]) = invokedIds log :=
    marks_append_of_none (by simpa only [List.mem_singleton, forall_eq] using he')
  refine ⟨by simpa using h.started, ?_, ?_, h.dataOnce, ?_, ?_⟩
  · intro t hw
    have hc := hw.called
    simp only [marks_append, marks_singleton, Obs.calledId, he, Option.toList_some,
      List.mem_append, List.mem_singleton] at hc
    rcases hc with hc | rfl
    · exact h.awaiting t ⟨hc, by simpa using hw.refused, by simpa using hw.answered,
        by simpa using hw.cancelled⟩
    · exact ⟨a, rfl, rfl, ha⟩
  · intro t ho
    unfold Over at ho
    rw [hi] at ho
    simpa using h.ended t (by simpa [Over] using ho)
  · rw [hi]
    simpa using h.data
  · refine past_concat.mpr ⟨h.once, fun t ht => ?_⟩
    rw [he'] at ht
    cases ht

/-- The front becomes Completed when nothing more is to be answered. -/
theorem complete (h : Life (a :: rest) data log) (ha : a.state = .triggered)
    (hw : ¬ Awaiting log a.id) : Life ({ a with state := .completed } :: rest) data log := by
  refine ⟨?_, ?_, ?_, h.dataOnce, h.data, h.once⟩
  · intro x hx hs
    rcases List.mem_cons.mp hx with rfl | hx
    · exact h.started a List.mem_cons_self (by simp [ha])
    · exact h.started x (List.mem_cons_of_mem _ hx) hs
  · intro t ht
    obtain ⟨b, hb, rfl, -⟩ := h.awaiting t ht
    cases hb
    exact absurd ht hw
  · intro t ho
    refine ⟨(h.ended t ho).1, fun x hx hxt => ?_⟩
    rcases List.mem_cons.mp hx with rfl | hx
    · rfl
    · exact (h.ended t ho).2 x (List.mem_cons_of_mem _ hx) hxt

/-- The running front is cancelled. -/
theorem cancel (h : Life (a :: rest) data log) (ha : a.state = .triggered)
    (hr : ∀ x ∈ rest, x.id ≠ a.id) :
    Life ({ a with state := .completed } :: rest) data (log ++ [.cancelled a.id]) := by
  have hover := h.not_over List.mem_cons_self (by simp [ha])
  refine ⟨?_, ?_, ?_, h.dataOnce, ?_, ?_⟩
  · intro x hx hs
    rcases List.mem_cons.mp hx with rfl | hx
    · simp [h.started a List.mem_cons_self (by simp [ha])]
    · simp [h.started x (List.mem_cons_of_mem _ hx) hs]
  · intro t hw
    have hc := hw.cancelled
    simp only [marks_append, marks_singleton, Obs.cancelledId, Option.toList_some,
      List.mem_append, List.mem_singleton, not_or] at hc
    have hw' : Awaiting log t := ⟨by simpa using hw.called, by simpa using hw.refused,
      by simpa using hw.answered, hc.1⟩
    obtain ⟨b, hb, rfl, -⟩ := h.awaiting t hw'
    cases hb
    exact absurd rfl hc.2
  · intro t ho
    replace ho : Over data log t ∨ t = a.id := by
      simp only [Over, marks_append, marks_singleton, Obs.invokedId, Obs.cancelledId,
        Option.toList_none, Option.toList_some, List.append_nil, List.mem_append,
        List.mem_singleton] at ho
      unfold Over
      tauto
    rcases ho with ho | rfl
    · refine ⟨by simp [(h.ended t ho).1], fun x hx hxt => ?_⟩
      rcases List.mem_cons.mp hx with rfl | hx
      · rfl
      · exact (h.ended t ho).2 x (List.mem_cons_of_mem _ hx) hxt
    · refine ⟨by simp [h.started a List.mem_cons_self (by simp [ha])], fun x hx hxt => ?_⟩
      rcases List.mem_cons.mp hx with rfl | hx
      · rfl
      · exact absurd hxt (hr x hx)
  · intro t ht
    have hd := h.data t ht
    refine ⟨by simpa using hd.1, ?_⟩
    have hta : t ≠ a.id := fun heq => hover (.inr (.inr (heq ▸ ht)))
    simpa [hta] using hd.2
  · exact past_concat.mpr ⟨h.once, by rintro t ⟨⟩⟩

/-- The callbacks of a completed action are invoked. -/
theorem invoke (h : Life queue data log) {e : Call} (he : (Obs.call e).invokedId = some t)
    (ht : t ∈ triggeredIds log) (ho : ¬ Over data log t)
    (hq : ∀ x ∈ queue, x.id = t → x.state = .completed) :
    Life queue data (log ++ [.call e]) := by
  have hc : calledIds (log ++ [.call e]) = calledIds log := by
    cases e <;> first | cases he | simp [Call.action]
  have hi : invokedIds (log ++ [.call e]) = invokedIds log ++ [t] := marks_concat he _
  refine ⟨by simpa using h.started, ?_, ?_, h.dataOnce, ?_, ?_⟩
  · intro x hw
    exact h.awaiting x ⟨hc ▸ hw.called, by simpa using hw.refused, by simpa using hw.answered,
      by simpa using hw.cancelled⟩
  · intro x hx
    replace hx : Over data log x ∨ x = t := by
      unfold Over at hx ⊢
      rw [hi, List.mem_append, List.mem_singleton] at hx
      simp only [marks_append, marks_singleton, Obs.cancelledId, Option.toList_none,
        List.append_nil] at hx
      tauto
    rcases hx with hx | rfl
    · simpa using h.ended x hx
    · exact ⟨by simpa using ht, hq⟩
  · intro x hx
    have hd := h.data x hx
    have hxt : x ≠ t := fun heq => ho (.inr (.inr (heq ▸ hx)))
    rw [hi]
    exact ⟨by simpa [hxt] using hd.1, by simpa using hd.2⟩
  · refine past_concat.mpr ⟨h.once, fun x hx => ?_⟩
    rw [he] at hx
    cases hx
    exact ⟨ht, fun hm => ho (.inr (.inl hm)), fun hm => ho (.inl hm)⟩

/-- The data of a completed read is put in the report queue. -/
theorem deferred (h : Life queue data log) (hp : data' ~ t :: data) (ht : t ∈ triggeredIds log)
    (ho : ¬ Over data log t) (hq : ∀ x ∈ queue, x.id = t → x.state = .completed) :
    Life queue data' log := by
  refine ⟨h.started, h.awaiting, ?_, ?_, ?_, h.once⟩
  · intro x hx
    replace hx : Over data log x ∨ x = t := by
      unfold Over at hx ⊢
      rw [hp.mem_iff, List.mem_cons] at hx
      tauto
    rcases hx with hx | rfl
    · exact h.ended x hx
    · exact ⟨ht, hq⟩
  · exact hp.nodup_iff.mpr (List.nodup_cons.mpr ⟨fun hm => ho (.inr (.inr hm)), h.dataOnce⟩)
  · intro x hx
    rcases List.mem_cons.mp (hp.mem_iff.mp hx) with rfl | hx
    · exact ⟨fun hm => ho (.inl hm), fun hm => ho (.inr (.inl hm))⟩
    · exact h.data x hx

theorem pop (h : Life (a :: rest) data log) (ha : a.state = .completed) :
    Life rest data (log ++ [.popped a]) := by
  refine ⟨?_, ?_, ?_, h.dataOnce, by simpa using h.data, ?_⟩
  · intro x hx hs
    simpa using h.started x (List.mem_cons_of_mem _ hx) hs
  · intro t hw
    refine absurd (Awaiting.mk ?_ ?_ ?_ ?_) (h.not_awaiting (t := t) (by simp [ha]))
    · simpa using hw.called
    · simpa using hw.refused
    · simpa using hw.answered
    · simpa using hw.cancelled
  · intro t ho
    have ho := h.ended t (by simpa [Over] using ho)
    exact ⟨by simpa using ho.1, fun x hx => ho.2 x (List.mem_cons_of_mem _ hx)⟩
  · exact past_concat.mpr ⟨h.once, by rintro t ⟨⟩⟩

/-- Only the wait count of the front changes. -/
theorem wait (h : Life (a :: rest) data log) {b : AsyncAction.Details} (hid : b.id = a.id)
    (hs : b.state = a.state) : Life (b :: rest) data log := by
  refine ⟨?_, ?_, ?_, h.dataOnce, h.data, h.once⟩
  · intro x hx hp
    rcases List.mem_cons.mp hx with rfl | hx
    · rw [hid]
      exact h.started a List.mem_cons_self (hs ▸ hp)
    · exact h.started x (List.mem_cons_of_mem _ hx) hp
  · intro t hw
    obtain ⟨x, hx, rfl, hr⟩ := h.awaiting t hw
    cases hx
    exact ⟨b, rfl, hid, hs.trans hr⟩
  · intro t ho
    refine ⟨(h.ended t ho).1, fun x hx hxt => ?_⟩
    rcases List.mem_cons.mp hx with rfl | hx
    · rw [hs]
      exact (h.ended t ho).2 a List.mem_cons_self (hid.symm.trans hxt)
    · exact (h.ended t ho).2 x (List.mem_cons_of_mem _ hx) hxt

/-- A new action is queued. -/
theorem enqueue (h : Life queue data log) (ha : a.state = .pending)
    (ht : a.id ∉ triggeredIds log) : Life (queue ++ [a]) data (log ++ [.queued a]) := by
  refine ⟨?_, ?_, ?_, h.dataOnce, by simpa using h.data, ?_⟩
  · intro x hx hs
    rcases List.mem_append.mp hx with hx | hx
    · simpa using h.started x hx hs
    · cases List.mem_singleton.mp hx
      exact absurd ha hs
  · intro t hw
    obtain ⟨x, hx, hxt⟩ := h.awaiting t ⟨by simpa using hw.called, by simpa using hw.refused,
      by simpa using hw.answered, by simpa using hw.cancelled⟩
    exact ⟨x, by rw [List.head?_append, hx]; rfl, hxt⟩
  · intro t ho
    have ho := h.ended t (by simpa [Over] using ho)
    refine ⟨by simpa using ho.1, fun x hx hxt => ?_⟩
    rcases List.mem_append.mp hx with hx | hx
    · exact ho.2 x hx hxt
    · cases List.mem_singleton.mp hx
      exact absurd (hxt ▸ ho.1) ht
  · exact past_concat.mpr ⟨h.once, by rintro t ⟨⟩⟩

end Life

/-! ## The chain of a connect -/

/-- At most one step that completes a connect is under way, and it is the front's. -/
structure Chain (queue : List AsyncAction.Details) (length : Nat) (log : List Obs) : Prop where
  short : length ≤ 1
  front : length ≠ 0 → ∃ a ∈ queue.head?, a.state = .triggered ∧ a.id ∈ answeredIds log ∧
    a.name ≠ "scan"
  connects : ∀ t ∈ connectIds log, t ∉ cancelledIds log ∧ ∀ a ∈ queue, a.id = t → a.name ≠ "scan"
  named : ∀ a ∈ queue, ∀ dev p, a.trigger = .connect dev p → a.name ≠ "scan"

namespace Chain

variable {queue rest : List AsyncAction.Details} {a b : AsyncAction.Details} {n m : Nat}
  {log : List Obs} {t : ActionId}

theorem init : Chain [] 0 [] := ⟨by simp, by simp, by simp, by simp⟩

theorem fewer (h : Chain queue n log) (hm : m ≤ n) : Chain queue m log :=
  ⟨Nat.le_trans hm h.short, fun h0 => h.front (by omega), h.connects, h.named⟩

/-- No step is under way while the front is not running, or a scan is. -/
theorem none_of (h : Chain (a :: rest) n log) (ha : a.state ≠ .triggered ∨ a.name = "scan") :
    n = 0 := by
  by_contra h0
  obtain ⟨x, hx, hr, -, hs⟩ := h.front h0
  cases hx
  exact ha.elim (fun h => h hr) hs

/-- No step is under way before the front is answered. -/
theorem none_before (h : Chain (a :: rest) n log) (ha : a.id ∉ answeredIds log) : n = 0 := by
  by_contra h0
  obtain ⟨x, hx, -, hr, -⟩ := h.front h0
  cases hx
  exact ha hr

/-- Entries about other things than connects and cancels. -/
theorem grow (h : Chain queue n log) {l : List Obs}
    (hl : ∀ o ∈ l, o.connectId = none ∧ o.cancelledId = none) : Chain queue n (log ++ l) := by
  have hc : connectIds (log ++ l) = connectIds log := marks_append_of_none fun o ho => (hl o ho).1
  have hd : cancelledIds (log ++ l) = cancelledIds log :=
    marks_append_of_none fun o ho => (hl o ho).2
  refine ⟨h.short, fun h0 => ?_, ?_, h.named⟩
  · obtain ⟨x, hx, hr, ha, hs⟩ := h.front h0
    exact ⟨x, hx, hr, by simp [ha], hs⟩
  · rw [hc, hd]
    exact h.connects

/-- The front changes its state, or its wait count. -/
theorem change (h : Chain (a :: rest) n log) (hid : b.id = a.id) (hname : b.name = a.name)
    (htr : b.trigger = a.trigger) (hs : n = 0 ∨ b.state = a.state) : Chain (b :: rest) n log := by
  refine ⟨h.short, fun h0 => ?_, fun t ht => ⟨(h.connects t ht).1, fun x hx hxt => ?_⟩, ?_⟩
  · obtain ⟨x, hx, hr, ha, hn⟩ := h.front h0
    cases hx
    exact ⟨b, rfl, (hs.resolve_left h0).trans hr, hid ▸ ha, hname ▸ hn⟩
  · rcases List.mem_cons.mp hx with rfl | hx
    · rw [hname]
      exact (h.connects t ht).2 a List.mem_cons_self (hid.symm.trans hxt)
    · exact (h.connects t ht).2 x (List.mem_cons_of_mem _ hx) hxt
  · intro x hx dev p hp
    rcases List.mem_cons.mp hx with rfl | hx
    · rw [hname]
      exact h.named a List.mem_cons_self dev p (htr ▸ hp)
    · exact h.named x (List.mem_cons_of_mem _ hx) dev p hp

/-- The front makes its call. -/
theorem call (h : Chain (a :: rest) n log) {e : Call} (he : e.action = some a.id)
    (hm : e.MadeBy a.trigger)
    (hx : a.id ∉ cancelledIds log) (hr : ∀ x ∈ rest, x.id ≠ a.id) :
    Chain (a :: rest) n (log ++ [.call e]) := by
  by_cases hcon : (Obs.call e).connectId = none
  · exact h.grow (by simpa using hcon)
  obtain ⟨t, dev, p, rfl⟩ : ∃ t dev p, e = .connect t dev p := by
    cases e <;> first | exact ⟨_, _, _, rfl⟩ | exact absurd rfl hcon
  obtain rfl : t = a.id := Option.some.inj he
  refine ⟨h.short, fun h0 => ?_, fun x hc => ?_, h.named⟩
  · obtain ⟨x, hx, hs, ha, hn⟩ := h.front h0
    exact ⟨x, hx, hs, by simpa using ha, hn⟩
  · simp only [marks_append, marks_singleton, Obs.connectId, Option.toList_some, List.mem_append,
      List.mem_singleton] at hc
    rcases hc with hc | rfl
    · simpa using h.connects x hc
    · refine ⟨by simpa using hx, fun y hy hyx => ?_⟩
      rcases List.mem_cons.mp hy with rfl | hy
      · obtain ⟨dev', p', htr⟩ : ∃ dev' p', y.trigger = .connect dev' p' := by
          cases htr : y.trigger <;> rw [htr] at hm <;> first | exact ⟨_, _, rfl⟩ | cases hm
        exact h.named y List.mem_cons_self dev' p' htr
      · exact absurd hyx (hr y hy)

/-- A running scan at the front is cancelled. -/
theorem cancel (h : Chain (a :: rest) n log) (ha : a.name = "scan") :
    Chain (a :: rest) n (log ++ [.cancelled a.id]) := by
  refine ⟨h.short, fun h0 => absurd (h.none_of (.inr ha)) h0, fun t ht => ?_, h.named⟩
  have hc := h.connects t (by simpa using ht)
  have hta : t ≠ a.id := fun heq => hc.2 a List.mem_cons_self heq.symm ha
  exact ⟨by simpa [hta] using hc.1, hc.2⟩

theorem pop (h : Chain (a :: rest) n log) (ha : a.state = .completed) : Chain rest n log := by
  have h0 : n = 0 := h.none_of (.inl (by simp [ha]))
  exact ⟨h.short, fun hn => absurd h0 hn, fun t ht => ⟨(h.connects t ht).1, fun x hx =>
    (h.connects t ht).2 x (List.mem_cons_of_mem _ hx)⟩, fun x hx =>
    h.named x (List.mem_cons_of_mem _ hx)⟩

theorem enqueue (h : Chain queue n log) (ht : a.id ∉ connectIds log)
    (hn : ∀ dev p, a.trigger = .connect dev p → a.name ≠ "scan") : Chain (queue ++ [a]) n log := by
  refine ⟨h.short, fun h0 => ?_, fun t hm => ⟨(h.connects t hm).1, fun x hx hxt => ?_⟩, ?_⟩
  · obtain ⟨x, hx, hs⟩ := h.front h0
    exact ⟨x, by rw [List.head?_append, hx]; rfl, hs⟩
  · rcases List.mem_append.mp hx with hx | hx
    · exact (h.connects t hm).2 x hx hxt
    · cases List.mem_singleton.mp hx
      exact absurd (hxt ▸ hm) ht
  · intro x hx
    rcases List.mem_append.mp hx with hx | hx
    · exact h.named x hx
    · cases List.mem_singleton.mp hx
      exact hn

/-- The answered front starts the chain. -/
theorem begin (h : Chain (a :: rest) n log) (ha : a.state = .triggered)
    (hw : a.id ∈ answeredIds log) (hn : a.name ≠ "scan") : Chain (a :: rest) 1 log :=
  ⟨Nat.le_refl 1, fun _ => ⟨a, rfl, ha, hw, hn⟩, h.connects, h.named⟩

end Chain

end Gattlibpp
