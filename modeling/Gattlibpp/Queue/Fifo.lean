import Mathlib.Data.List.Nodup
import Gattlibpp.Queue.Log

/-!
# The action queue

`asyncActions` is a FIFO with one action in progress: whatever the user and gattlib
do, only its front is ever triggered, every trigger runs once and in the order of the
requests, and only completed actions are popped.
-/

namespace Gattlibpp

open Open
open scoped List

/-- Entries that say nothing about the queue. -/
def Obs.Aside (o : Obs) : Prop := o.queuedId = none ∧ o.triggeredId = none ∧ o.poppedId = none

/-- When an action is triggered, all that were queued before it have been popped. -/
def TriggeredInOrder (before : List Obs) (o : Obs) : Prop :=
  ∀ t, o = .triggered t → ∀ b, [b, t] <+ queuedIds before → b ∈ poppedIds before

theorem past_aside {log l : List Obs} (h : Past TriggeredInOrder log) (hl : ∀ o ∈ l, o.Aside) :
    Past TriggeredInOrder (log ++ l) := by
  refine h.append fun o ho before t ht => ?_
  subst ht
  cases (hl _ ho).2.1

/-! ## The invariant -/

structure Fifo (w : World) : Prop where
  order : queuedIds w.log = poppedIds w.log ++ w.ble.asyncActions.map (·.id)
  ascending : (queuedIds w.log).Pairwise (· < ·)
  fresh : ∀ t ∈ queuedIds w.log, t < w.serial
  tail : ∀ a ∈ w.ble.asyncActions.tail, a.state = .pending
  started : triggeredIds w.log <+ poppedIds w.log ++
    (w.ble.asyncActions.filter (·.state ≠ .pending)).map (·.id)
  calls : ∀ e ∈ w.calls, ∀ t, e.action = some t → t ∈ triggeredIds w.log
  inOrder : Past TriggeredInOrder w.log
  popped : ∀ a, .popped a ∈ w.log → a.state = .completed
  /-- `scan` builds an action with this trigger, and does not queue it. -/
  autodisconn : ∀ a ∈ w.ble.asyncActions, ∀ dev, a.trigger ≠ .autodisconn dev

namespace Fifo

variable {w w' : World}

theorem init : Fifo World.init where
  order := rfl
  ascending := .nil
  fresh := by simp [World.init, queuedIds]
  tail := by simp [World.init]
  started := List.nil_sublist _
  calls := by simp [World.init]
  inOrder := past_nil
  popped := by simp [World.init]
  autodisconn := by simp [World.init]

theorem ids_ascending (h : Fifo w) :
    (poppedIds w.log ++ w.ble.asyncActions.map (·.id)).Pairwise (· < ·) := h.order ▸ h.ascending

/-- The front is in no other place of the queue. -/
theorem front_once (h : Fifo w) {a : AsyncAction.Details} {rest : List AsyncAction.Details}
    (hq : w.ble.asyncActions = a :: rest) : ∀ x ∈ rest, x.id ≠ a.id := by
  have hp := (List.pairwise_append.mp h.ids_ascending).2.1
  rw [hq, List.map_cons, List.pairwise_cons] at hp
  intro x hx he
  have hlt := hp.1 x.id (List.mem_map_of_mem hx)
  rw [he] at hlt
  exact Nat.lt_irrefl _ hlt

/-- A pending action has not been triggered. -/
theorem not_triggered (h : Fifo w) {a : AsyncAction.Details} (ha : a ∈ w.ble.asyncActions)
    (hp : a.state = .pending) : a.id ∉ triggeredIds w.log := by
  intro ht
  obtain ⟨-, hnodup, hlt⟩ := List.pairwise_append.mp h.ids_ascending
  have hid : a.id ∈ w.ble.asyncActions.map (·.id) := List.mem_map_of_mem ha
  rcases List.mem_append.mp (h.started.subset ht) with hpop | hrun
  · exact Nat.lt_irrefl _ (hlt _ hpop _ hid)
  · obtain ⟨x, hx, hxid⟩ := List.mem_map.mp hrun
    obtain ⟨hx, hxp⟩ := List.mem_filter.mp hx
    have hinj := List.inj_on_of_nodup_map (hnodup.imp fun h => Nat.ne_of_lt h)
    rw [hinj hx ha hxid, hp] at hxp
    simp at hxp

theorem triggered_sublist (h : Fifo w) : triggeredIds w.log <+ queuedIds w.log := by
  rw [h.order]
  exact h.started.trans (List.Sublist.append_left (List.Sublist.map _ List.filter_sublist) _)

theorem triggered_nodup (h : Fifo w) : (triggeredIds w.log).Nodup :=
  (h.ascending.imp (fun h => Nat.ne_of_lt h)).sublist h.triggered_sublist

/-- A triggered action that is in the queue is not behind the front. -/
theorem triggered_front (h : Fifo w) {t : ActionId} (ht : t ∈ triggeredIds w.log) :
    ∀ x ∈ w.ble.asyncActions.tail, x.id ≠ t := fun x hx he =>
  h.not_triggered (List.mem_of_mem_tail hx) (h.tail x hx) (he ▸ ht)

theorem front_tail (h : Fifo w) {a : AsyncAction.Details} (hf : w.front = some a) :
    ∀ x ∈ w.ble.asyncActions.tail, x.id ≠ a.id := by
  unfold World.front at hf
  cases hq : w.ble.asyncActions with
  | nil => simp
  | cons b rest =>
    rw [hq] at hf
    cases hf
    exact h.front_once hq

/-! ## Effects that keep it -/

/-- Nothing happens to the queue. -/
theorem of_eq (h : Fifo w) {l : List Obs} (hq : w'.ble.asyncActions = w.ble.asyncActions)
    (hs : w.serial ≤ w'.serial) (hlog : w'.log = w.log ++ l) (hl : ∀ o ∈ l, o.Aside)
    (hc : ∀ e ∈ w'.calls, ∀ t, e.action = some t → t ∈ triggeredIds w.log) : Fifo w' := by
  have hqi : queuedIds w'.log = queuedIds w.log := by
    rw [hlog]
    exact marks_append_of_none fun o ho => (hl o ho).1
  have hti : triggeredIds w'.log = triggeredIds w.log := by
    rw [hlog]
    exact marks_append_of_none fun o ho => (hl o ho).2.1
  have hpi : poppedIds w'.log = poppedIds w.log := by
    rw [hlog]
    exact marks_append_of_none fun o ho => (hl o ho).2.2
  exact {
    order := by rw [hqi, hpi, hq]; exact h.order
    ascending := by rw [hqi]; exact h.ascending
    fresh := fun t ht => Nat.lt_of_lt_of_le (h.fresh t (hqi ▸ ht)) hs
    tail := by rw [hq]; exact h.tail
    started := by rw [hti, hpi, hq]; exact h.started
    calls := by rw [hti]; exact hc
    inOrder := by rw [hlog]; exact past_aside h.inOrder hl
    popped := fun a ha => by
      rw [hlog] at ha
      rcases List.mem_append.mp ha with ha | ha
      · exact h.popped a ha
      · cases (hl _ ha).2.2
    autodisconn := by rw [hq]; exact h.autodisconn }

theorem note (h : Fifo w) {o : Obs} (ho : o.Aside) : Fifo (w.note o) :=
  h.of_eq (l := [o]) rfl (Nat.le_refl _) rfl (by simpa using ho) h.calls

theorem back (h : Fifo w) (e : Call) (r : Resp) : Fifo (w.back e r) :=
  h.of_eq (l := [.ret e r]) rfl (Nat.le_refl _) rfl (by simp [Obs.Aside])
    fun e' he' => h.calls e' (List.mem_of_mem_tail he')

/-- A call out. An action that makes one has been triggered. -/
theorem push (h : Fifo w) {e : Call} (he : ∀ t, e.action = some t → t ∈ triggeredIds w.log) :
    Fifo (w.push e) := by
  refine h.of_eq (l := [.call e]) rfl (Nat.le_refl _) rfl (by simp [Obs.Aside]) ?_
  intro e' he'
  rcases List.mem_cons.mp he' with rfl | he'
  · exact he
  · exact h.calls e' he'

/-- What is not the queue changes. -/
theorem update (h : Fifo w) {w' : World} (hq : w'.ble.asyncActions = w.ble.asyncActions)
    (hs : w.serial ≤ w'.serial) (hlog : w'.log = w.log) (hc : w'.calls = w.calls) : Fifo w' :=
  h.of_eq (l := []) hq hs (by simp [hlog]) (by simp) (hc ▸ h.calls)

theorem setTicks (h : Fifo w) (ts : List (List QueuedOp)) : Fifo { w with ticks := ts } :=
  h.update rfl (Nat.le_refl _) rfl rfl

/-- A change to the front action changes no other. -/
theorem updateAction_front (h : Fifo w) {a : AsyncAction.Details} {rest : List AsyncAction.Details}
    (hq : w.ble.asyncActions = a :: rest) (f : AsyncAction.Details → AsyncAction.Details) :
    (w.updateAction a.id f).ble.asyncActions = f a :: rest := by
  have hrest : rest.map (fun x => if x.id = a.id then f x else x) = rest :=
    (List.map_congr_left fun x hx => if_neg (h.front_once hq x hx)).trans (List.map_id _)
  simp [World.updateAction, hq, hrest]

/-- The action at the front changes, but not back to Pending. -/
theorem updateAction (h : Fifo w) {t : ActionId} {f : AsyncAction.Details → AsyncAction.Details}
    (ht : ∀ x ∈ w.ble.asyncActions.tail, x.id ≠ t) (hid : ∀ x, (f x).id = x.id)
    (htr : ∀ x, (f x).trigger = x.trigger)
    (hp : ∀ x, x.state ≠ .pending → (f x).state ≠ .pending) : Fifo (w.updateAction t f) := by
  by_cases hnil : w.ble.asyncActions = []
  · exact h.update (by simp [World.updateAction, hnil]) (Nat.le_refl _) rfl rfl
  obtain ⟨a, rest, hq⟩ := List.exists_cons_of_ne_nil hnil
  rw [hq, List.tail_cons] at ht
  obtain ⟨a', hq', hida, htra, hpa⟩ : ∃ a', (w.updateAction t f).ble.asyncActions = a' :: rest ∧
      a'.id = a.id ∧ a'.trigger = a.trigger ∧ (a.state ≠ .pending → a'.state ≠ .pending) := by
    by_cases ha : a.id = t
    · subst ha
      exact ⟨f a, h.updateAction_front hq f, hid a, htr a, hp a⟩
    · have hrest : rest.map (fun x => if x.id = t then f x else x) = rest :=
        (List.map_congr_left fun x hx => if_neg (ht x hx)).trans (List.map_id _)
      exact ⟨a, by simp [World.updateAction, hq, hrest, ha], rfl, rfl, id⟩
  have hsub : ((a :: rest).filter (·.state ≠ .pending)).map (·.id) <+
      ((a' :: rest).filter (·.state ≠ .pending)).map (·.id) := by
    simp only [List.filter_cons, decide_eq_true_eq]
    by_cases ha : a.state = .pending
    · rw [if_neg (not_not.mpr ha)]
      split
      · exact List.sublist_cons_self _ _
      · exact .refl _
    · rw [if_pos ha, if_pos (hpa ha)]
      simp [hida]
  refine ⟨?_, h.ascending, h.fresh, ?_, ?_, h.calls, h.inOrder, h.popped, ?_⟩
  · rw [hq', List.map_cons, hida, ← List.map_cons, ← hq]
    exact h.order
  · rw [hq']
    exact fun x hx => h.tail x (by rwa [hq])
  · rw [hq']
    exact h.started.trans (List.Sublist.append_left (by rw [hq]; exact hsub) _)
  · rw [hq']
    have hauto := h.autodisconn
    rw [hq] at hauto
    intro x hx
    rcases List.mem_cons.mp hx with rfl | hx
    · rw [htra]
      exact hauto a List.mem_cons_self
    · exact hauto x (List.mem_cons_of_mem _ hx)

/-- Behind a pending front nothing is running. -/
theorem idle (h : Fifo w) {a : AsyncAction.Details} {rest : List AsyncAction.Details}
    (hq : w.ble.asyncActions = a :: rest) : rest.filter (·.state ≠ .pending) = [] := by
  refine List.filter_eq_nil_iff.mpr fun x hx => ?_
  simp [h.tail x (by rwa [hq])]

/-- The front is triggered. -/
theorem start (h : Fifo w) {a : AsyncAction.Details} (hf : w.front = some a)
    (hp : a.state = .pending) : Fifo (w.start a.id) := by
  obtain ⟨rest, hq⟩ : ∃ rest, w.ble.asyncActions = a :: rest := by
    unfold World.front at hf
    exact List.head?_eq_some_iff.mp hf
  have hu := h.updateAction (f := fun x => { x with state := .triggered }) (h.front_tail hf)
    (fun _ => rfl) (fun _ => rfl) (fun _ _ => by simp)
  have hq' : (w.start a.id).ble.asyncActions = { a with state := .triggered } :: rest :=
    h.updateAction_front hq _
  have hstarted : triggeredIds w.log <+ poppedIds w.log := by
    have hs := h.started
    rw [hq, List.filter_cons, if_neg (by simp [hp]), h.idle hq, List.map_nil,
      List.append_nil] at hs
    exact hs
  have hlog := w.start_log a.id
  refine ⟨?_, ?_, ?_, hu.tail, ?_, ?_, ?_, ?_, hu.autodisconn⟩
  · rw [hq']
    simpa [hq] using h.order
  · simpa using h.ascending
  · simpa using h.fresh
  · rw [hlog, hq', List.filter_cons, if_pos (by simp), h.idle hq]
    have hsub := hstarted.append (List.Sublist.refl [a.id])
    simpa using hsub
  · intro e he t ht
    simpa using .inl (h.calls e he t ht)
  · rw [hlog]
    refine past_concat.mpr ⟨h.inOrder, ?_⟩
    rintro _ ⟨⟩ b hb
    -- everything from the front on has an id at least the front's
    have hlt : b < a.id := by
      have hpw := h.ascending.sublist hb
      simpa using hpw
    have hmem : b ∈ queuedIds w.log := hb.subset (by simp)
    rw [h.order, hq] at hmem
    rcases List.mem_append.mp hmem with hmem | hmem
    · exact hmem
    · have hge := (List.pairwise_append.mp h.ids_ascending).2.1
      rw [hq, List.map_cons, List.pairwise_cons] at hge
      rcases List.mem_cons.mp hmem with rfl | hmem
      · exact absurd hlt (Nat.lt_irrefl _)
      · exact absurd (hge.1 b hmem) (Nat.lt_asymm hlt)
  · intro x hx
    rw [hlog] at hx
    exact h.popped x (by simpa using hx)

theorem enqueue (h : Fifo w) {a : AsyncAction.Details} (hp : a.state = .pending)
    (htr : ∀ dev, a.trigger ≠ .autodisconn dev) : Fifo (w.enqueue a) := by
  have hq' : (w.enqueue a).ble.asyncActions = w.ble.asyncActions ++ [{ a with id := w.serial }] :=
    rfl
  refine ⟨?_, ?_, ?_, ?_, ?_, ?_, ?_, ?_, ?_⟩
  · simp [hq', h.order]
  · simp only [World.enqueue_log, marks_append, marks_singleton]
    refine List.pairwise_append.mpr ⟨h.ascending, List.pairwise_singleton .., ?_⟩
    simpa using h.fresh
  · intro t ht
    rw [World.enqueue_serial]
    simp only [World.enqueue_log, marks_append, marks_singleton, Obs.queuedId, Option.toList_some,
      List.mem_append, List.mem_singleton] at ht
    rcases ht with ht | rfl
    · exact Nat.lt_succ_of_lt (h.fresh t ht)
    · exact Nat.lt_succ_self _
  · rw [hq']
    intro x hx
    cases hq : w.ble.asyncActions with
    | nil => simp [hq] at hx
    | cons b rest =>
      rw [hq, List.cons_append, List.tail_cons] at hx
      rcases List.mem_append.mp hx with hx | hx
      · exact h.tail x (by rwa [hq])
      · rw [List.mem_singleton.mp hx]
        exact hp
  · rw [hq', List.filter_append, List.filter_cons, if_neg (by simp [hp])]
    simpa using h.started
  · simpa using h.calls
  · rw [World.enqueue_log]
    exact past_concat.mpr ⟨h.inOrder, by rintro _ ⟨⟩⟩
  · intro x hx
    exact h.popped x (by simpa using hx)
  · rw [hq']
    intro x hx
    rcases List.mem_append.mp hx with hx | hx
    · exact h.autodisconn x hx
    · rw [List.mem_singleton.mp hx]
      exact htr

theorem pop (h : Fifo w) {a : AsyncAction.Details} {rest : List AsyncAction.Details}
    (hq : w.ble.asyncActions = a :: rest) (hd : a.state = .completed) :
    Fifo ((w.updateBle fun b => { b with asyncActions := rest }).note (.popped a)) := by
  refine ⟨?_, ?_, ?_, ?_, ?_, ?_, ?_, ?_, ?_⟩
  · simpa [hq] using h.order
  · simpa using h.ascending
  · simpa using h.fresh
  · exact fun x hx => h.tail x (by rw [hq]; exact List.mem_of_mem_tail hx)
  · have hs := h.started
    rw [hq, List.filter_cons, if_pos (by simp [hd])] at hs
    simpa using hs
  · simpa using h.calls
  · rw [World.note_log]
    exact past_concat.mpr ⟨h.inOrder, by rintro _ ⟨⟩⟩
  · intro x hx
    rcases List.mem_append.mp hx with hx | hx
    · exact h.popped x hx
    · cases List.mem_singleton.mp hx
      exact hd
  · exact fun x hx => h.autodisconn x (by rw [hq]; exact List.mem_cons_of_mem _ hx)

theorem complete (h : Fifo w) {t : ActionId} (ht : ∀ x ∈ w.ble.asyncActions.tail, x.id ≠ t) :
    Fifo (w.complete t) :=
  h.updateAction ht (fun _ => rfl) (fun _ => rfl) (fun _ _ => by simp)

theorem invoke (h : Fifo w) (cb : Callback) (arg : Arg) (role : Role) :
    Fifo (w.invoke cb arg role) := by
  unfold World.invoke
  split
  · exact h.push (by simp [Call.action])
  · exact h

theorem finish (h : Fifo w) {t : ActionId} (ht : ∀ x ∈ w.ble.asyncActions.tail, x.id ≠ t)
    (how : Outcome) : Fifo (w.finish how t) :=
  (h.complete ht).invoke ..

theorem finishFront (h : Fifo w) (how : Outcome) : Fifo (w.finishFront how) := by
  unfold World.finishFront
  split
  · exact h
  · rename_i a hf
    exact h.finish (h.front_tail hf) how

theorem report (h : Fifo w) (op : QueuedOp) : Fifo (w.report op) :=
  h.of_eq (l := [.pushed op]) rfl (Nat.le_refl _) rfl (by simp [Obs.Aside]) h.calls

theorem event (h : Fifo w) (ev : Event) : Fifo (ev.apply w) := by
  cases ev <;> exact h.update rfl (Nat.le_refl _) rfl rfl

theorem ran (h : Fifo w) (op : QueuedOp) : Fifo (op.apply w) := by
  cases op with
  | callback | readData | notification => exact h.invoke ..
  | autoDiscoverServicesStep | autoDiscoverCharacteristicsStep =>
    exact h.push (by simp [Call.action])
  | reportConnected => exact h.finishFront _

theorem trigger (h : Fifo w) {a : AsyncAction.Details} (hf : w.front = some a)
    (hp : a.state = .pending) : Fifo (a.trigger.apply (w.start a.id) a.id) := by
  have hs := h.start hf hp
  have ht : a.id ∈ triggeredIds (w.start a.id).log := by simp
  have hpush {e : Call} (he : e.action = some a.id) : Fifo ((w.start a.id).push e) :=
    hs.push fun t hte => by rw [he] at hte; cases hte; exact ht
  cases a.trigger with
  | autodisconn => exact hs
  | stopScanDone => exact hs.finish (hs.triggered_front ht) _
  | read | write =>
    simp only [Trigger.apply]
    split
    · exact hs
    · exact hpush rfl
  | _ => exact hpush rfl

section
variable [Gattlib]

theorem servicesStep (h : Fifo w) (dev : UUID) (r : Resp) : Fifo (w.servicesStep dev r) := by
  obtain ⟨devices, heq⟩ := w.servicesStep_eq dev r
  rw [heq]
  exact h.update rfl (Nat.le_refl _) rfl rfl

theorem charsStep (h : Fifo w) (dev : UUID) (r : Resp) : Fifo (w.charsStep dev r) := by
  obtain ⟨devices, heq⟩ := w.charsStep_eq dev r
  rw [heq]
  exact h.update rfl (Nat.le_refl _) rfl rfl

/-- **Step lemma**: every act keeps the queue a FIFO. -/
theorem act {T : Terms} {P : Policy} (h : Fifo w) (ha : Stretch T P w w') : Fifo w' := by
  cases ha with
  | enter m | raised m | freed t => exact h.note ⟨rfl, rfl, rfl⟩
  | event of ev how => exact ((h.note ⟨rfl, rfl, rfl⟩).event ev).finishFront how
  | eventAuto of c => exact ((h.note ⟨rfl, rfl, rfl⟩).event _).report _
  | eventRead of buf a hm hb hf =>
    split
    · exact ((h.note ⟨rfl, rfl, rfl⟩).report _).complete (h.front_tail hf)
    · exact (h.note ⟨rfl, rfl, rfl⟩).complete (h.front_tail hf)
  | eventReadNone of buf => exact h.note ⟨rfl, rfl, rfl⟩
  | eventDiscovered of addr name =>
    have hn : Fifo (w.note (.enter (.event of (.deviceDiscovered addr name)))) :=
      h.note ⟨rfl, rfl, rfl⟩
    have hnamed : Fifo ((w.note (.enter (.event of (.deviceDiscovered addr name)))).named
        (addr.getD "") (name.getD "")) :=
      hn.update rfl (Nat.le_refl _) rfl rfl
    exact hnamed.invoke ..
  | call e he =>
    refine h.push fun t ht => ?_
    cases e <;> simp_all [Call.Plain, Call.action]
  | back e r => exact h.back e r
  | refused e r cs t a hc hans he =>
    have ht : t ∈ triggeredIds w.log := h.calls e (by simp [hc]) t he
    have hb : Fifo (e.refusedApply (w.back e r)) := by
      cases e <;> exact (h.back _ r).update rfl (Nat.le_refl _) rfl rfl
    refine hb.finish ?_ _
    cases e <;> exact h.triggered_front ht
  | tick => exact h.push (by simp [Call.action])
  | takeReports r => exact (h.back _ r).update rfl (Nat.le_refl _) rfl rfl
  | ran op rest ts => exact ((h.setTicks (rest :: ts)).note ⟨rfl, rfl, rfl⟩).ran op
  | endTick ts => exact h.setTicks ts
  | trigger ts a _ _ hf hp => exact (h.setTicks ts).trigger hf hp
  | pop ts a rest _ _ hq hd => exact (h.setTicks ts).pop hq hd
  | wait ts a _ _ hf =>
    exact (h.setTicks ts).updateAction (h.front_tail hf) (fun _ => rfl) (fun _ => rfl) fun _ hp => hp
  | services dev c r => exact ((h.back _ r).servicesStep dev r).report _
  | chars dev c r => exact ((h.back _ r).charsStep dev r).report _
  | report cb | notify cb buf => exact h.report _
  | setAutoDiscover | setConnectionParameters | deviceName =>
    exact h.update rfl (Nat.le_refl _) rfl rfl
  | adapterOpened name r | adapterClosed a r => exact (h.back _ r).update rfl (Nat.le_refl _) rfl rfl
  | lock | unlock => exact h.update rfl (Nat.le_refl _) rfl rfl
  | inert _ hi => exact h.update hi.asyncActions hi.serial hi.log hi.calls

end

/-- Every accepted request keeps the queue a FIFO. -/
theorem request {op : Op} (h : Fifo w) (hr : Request w op w') : Fifo w' := by
  cases hr with
  | scan _ _ disc =>
    have hd : Fifo (w.updateBle fun b => { b with devDiscoveredCb := disc }) :=
      h.update rfl (Nat.le_refl _) rfl rfl
    exact (hd.enqueue rfl (by rintro _ ⟨⟩)).update rfl (Nat.le_refl _) rfl rfl
  | stopScanCancel _ _ a _ _ hf =>
    exact ((h.complete (h.front_tail hf)).note ⟨rfl, rfl, rfl⟩).enqueue rfl (by rintro _ ⟨⟩)
  | connect =>
    exact Fifo.enqueue (w := w.updateBle _) (h.update rfl (Nat.le_refl _) rfl rfl) rfl
      (by rintro _ ⟨⟩)
  | _ => exact h.enqueue rfl (by rintro _ ⟨⟩)

theorem subs {P : Policy} (h : Fifo w) (hs : Subs P w w') : Fifo w' := by
  cases hs
  exact h.update rfl (Nat.le_refl _) rfl rfl

end Fifo

/-! ## The result -/

section
variable [Gattlib]

/-- The queue is a FIFO in every environment. -/
def fifoClaim (P : Policy) : Claim P where
  inv := Fifo
  crash _ _ := True
  act h ha := ⟨h.act ha, trivial⟩
  exit h _ := ⟨h.note ⟨rfl, rfl, rfl⟩, trivial⟩
  drop _ h _ _ _ := ⟨h.setTicks _, trivial⟩
  request h _ hr := ⟨h.request hr, trivial⟩
  freed _ _ _ _ _ _ := trivial
  missing _ _ _ _ _ _ _ _ := trivial
  other _ _ := trivial

theorem fifoClaim_notifies (P : Policy) : (fifoClaim P).Notifies :=
  .of_subs (fun h hs => ⟨h.subs hs, trivial⟩) fun _ _ _ => trivial

/-- **Run lemma**: the queue is a FIFO in every state of every run. -/
theorem fifo_reach {P : Policy} {c : Config World Call Resp Fault} (h : Reach P .init c)
    (hf : c.fault = none) : Fifo c.s :=
  Claim.reach (fifoClaim_notifies P) trivial .init h hf

/-- **`asyncActions` is a FIFO with one action in progress**, whatever the user, gattlib and
the callbacks do. -/
theorem asyncActions_fifo {c : Config World Call Resp Fault} (h : Reach .any .init c)
    (hf : c.fault = none) :
    (∀ a ∈ c.s.ble.asyncActions.tail, a.state = .pending) ∧
    (triggeredIds c.s.log).Nodup ∧
    triggeredIds c.s.log <+ queuedIds c.s.log ∧
    Past TriggeredInOrder c.s.log ∧
    ∀ a, .popped a ∈ c.s.log → a.state = .completed :=
  have hw := fifo_reach h hf
  ⟨hw.tail, hw.triggered_nodup, hw.triggered_sublist, hw.inOrder, hw.popped⟩

end

/-- A run that ends with a completed scan at the front and another request behind it. -/
theorem asyncActions_fifo_scan :
    ∃ c : Config World Call Resp Fault, @Reach .sample .any .init c ∧
      c.s.ble.asyncActions.map (·.state) = [.completed, .pending] ∧
      triggeredIds c.s.log <+ queuedIds c.s.log := by
  let _ := Gattlib.sample
  obtain ⟨c, hc, hP⟩ := (system .any).reach_of_run_any
    [.enter (.api (.scan 0 none none none)), .answer (.adapter 3),
      .enter (.api (.stopScan none none)), .enter (.api .processAsync), .answer .void,
      .answer (.code 0), .enter (.event none .scanComplete)]
    (c := ⟨.init, [], none⟩)
    (P := fun c => c.fault.isNone && c.s.ble.asyncActions.map (·.state) == [.completed, .pending])
    (by decide)
  simp only [Bool.and_eq_true, Option.isNone_iff_eq_none, beq_iff_eq] at hP
  exact ⟨c, hc, hP.2, (asyncActions_fifo hc hP.1).2.2.1⟩

end Gattlibpp
