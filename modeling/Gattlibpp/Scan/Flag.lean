import Gattlibpp.Act.Landing
import Gattlibpp.Queue.Answers
import Gattlibpp.Queue.Completion

/-!
# The scanning flag

`is_scanning` is set when a scan is queued, and reset where its call is refused and by two
callbacks of gattlib. It agrees with the queue as long as answers go to their own actions, no
scan waits when a disable is reported complete, and a disable that is turned down is not the
last action that would reset the flag.
-/

namespace Gattlibpp

open Open

namespace AsyncAction.Details

/-- A scan that is not Completed. -/
def Scans (a : Details) : Prop := a.name = "scan" ∧ a.state ≠ .completed

/-- A scan or stopScan that is not Completed. -/
def Resets (a : Details) : Prop := (a.name = "scan" ∨ a.name = "stopScan") ∧ a.state ≠ .completed

instance (a : Details) : Decidable a.Scans := inferInstanceAs (Decidable (_ ∧ _))

instance (a : Details) : Decidable a.Resets := inferInstanceAs (Decidable (_ ∧ _))

/-- The names of the actions that reset the flag are those of their triggers. -/
structure Named (a : Details) : Prop where
  scan : a.name = "scan" ↔ ∃ s, a.trigger = .scan s
  stopScan : a.name = "stopScan" ↔ a.trigger = .stopScan

theorem Scans.resets {a : Details} (h : a.Scans) : a.Resets := ⟨.inl h.1, h.2⟩

end AsyncAction.Details

/-- No scan waits when a disable is complete, and a disable is turned down only while another
scan or stopScan is queued, or the flag is not set. -/
def resetting : Policy where
  enter w m :=
    match m with
    | .event _ .scanDisableDone => ∀ a ∈ w.ble.asyncActions, ¬ a.Scans
    | _ => True
  ans w e r :=
    match e with
    | .scanDisable t _ => r.rc ≠ 0 → w.ble.isScanning = true →
      ∃ a ∈ w.ble.asyncActions, a.id ≠ t ∧ a.Resets
    | _ => True

instance (w : World) (m : Move) : Decidable (resetting.enter w m) := by
  unfold resetting
  cases m with
  | api => exact isTrue trivial
  | event of ev => cases ev <;> infer_instance

instance (w : World) (e : Call) (r : Resp) : Decidable (resetting.ans w e r) :=
  match e with
  | .scanDisable t _ => inferInstanceAs (Decidable (r.rc ≠ 0 → w.ble.isScanning = true →
      ∃ a ∈ w.ble.asyncActions, a.id ≠ t ∧ a.Resets))
  | .user .. | .asyncProcessAll | .adapterOpen _ | .adapterClose _ | .adapterPowered _
  | .scanEnable .. | .connect .. | .disconnect .. | .readChar .. | .writeChar ..
  | .discoverPrimary .. | .discoverChar .. | .registerNotification .. | .registerIndication ..
  | .notificationStart .. | .notificationStop .. => isTrue trivial

/-! ## The invariant -/

/-- The flag is set while a scan is queued, and while it is set an action that resets it is. -/
structure FlagAgrees (queue : List AsyncAction.Details) (isScanning : Bool) : Prop where
  set : (∃ a ∈ queue, a.Scans) → isScanning = true
  reset : isScanning = true → ∃ a ∈ queue, a.Resets

structure Scanning (queue : List AsyncAction.Details) (isScanning : Bool)
    (answered : List ActionId) : Prop extends FlagAgrees queue isScanning where
  named : ∀ a ∈ queue, a.Named
  once : queue.Pairwise fun a b => a.Scans → ¬ b.Scans
  answered : ∀ a ∈ queue.head?, a.id ∈ answered → ¬ a.Resets

namespace Scanning

variable {queue rest : List AsyncAction.Details} {a b : AsyncAction.Details} {flag flag' : Bool}
  {ids : List ActionId}

/-- The world has this queue, flag and answers. -/
theorem holds {w : World} (h : Scanning queue flag ids) (hq : w.ble.asyncActions = queue)
    (hf : w.ble.isScanning = flag) (hids : answeredIds w.log = ids) :
    Scanning w.ble.asyncActions w.ble.isScanning (answeredIds w.log) := by
  rw [hq, hf, hids]
  exact h

theorem init : Scanning [] false [] := ⟨⟨by simp, by simp⟩, by simp, .nil, by simp⟩

/-- A callback that answers the front, if any action, resets no flag. -/
theorem answer (h : Scanning queue flag ids) {of : Option ActionId}
    (hof : ∀ a ∈ queue.head?, of = some a.id → ¬ a.Resets) :
    Scanning queue flag (ids ++ of.toList) where
  set := h.set
  reset := h.reset
  named := h.named
  once := h.once
  answered a ha hm := (List.mem_append.mp hm).elim (h.answered a ha) fun hm =>
    hof a ha (Option.mem_toList.mp hm)

/-- The front changes, but neither its trigger nor whether it is Completed. -/
theorem change (h : Scanning (a :: rest) flag ids) (hid : b.id = a.id) (hn : b.name = a.name)
    (htr : b.trigger = a.trigger) (hs : b.state = .completed ↔ a.state = .completed) :
    Scanning (b :: rest) flag ids := by
  have hscans : b.Scans ↔ a.Scans := by
    simp only [AsyncAction.Details.Scans, hn, ne_eq, hs]
  have hresets : b.Resets ↔ a.Resets := by
    simp only [AsyncAction.Details.Resets, hn, ne_eq, hs]
  have hm (p : AsyncAction.Details → Prop) (hp : p b ↔ p a) :
      (∃ x ∈ b :: rest, p x) ↔ ∃ x ∈ a :: rest, p x := by
    simp [hp]
  refine ⟨⟨fun hx => h.set ((hm _ hscans).mp hx), fun hx => (hm _ hresets).mpr (h.reset hx)⟩,
    ?_, ?_, ?_⟩
  · intro x hx
    rcases List.mem_cons.mp hx with rfl | hx
    · have ha := h.named a List.mem_cons_self
      exact ⟨by rw [hn, htr]; exact ha.scan, by rw [hn, htr]; exact ha.stopScan⟩
    · exact h.named x (List.mem_cons_of_mem _ hx)
  · obtain ⟨ha, hrest⟩ := List.pairwise_cons.mp h.once
    exact List.pairwise_cons.mpr ⟨fun x hx hb => ha x hx (hscans.mp hb), hrest⟩
  · intro x hx hm
    cases hx
    rw [hresets]
    exact h.answered a rfl (hid ▸ hm)

/-- The front is completed, and the flag may be reset. -/
theorem complete (h : Scanning (a :: rest) flag ids) (hset : flag' = false → ∀ b ∈ rest, ¬ b.Scans)
    (hreset : flag' = true → flag = true ∧ (¬ a.Resets ∨ ∃ b ∈ rest, b.Resets)) :
    Scanning ({ a with state := .completed } :: rest) flag' ids where
  set := by
    rintro ⟨x, hx, hs⟩
    rcases List.mem_cons.mp hx with rfl | hx
    · exact absurd rfl hs.2
    · by_contra hf
      exact hset (Bool.eq_false_iff.mpr hf) x hx hs
  reset hf := by
    obtain ⟨hflag, hr⟩ := hreset hf
    obtain ⟨x, hx, hxr⟩ := h.reset hflag
    have hrest : ∃ b ∈ rest, b.Resets := hr.elim (fun hna => by
      rcases List.mem_cons.mp hx with rfl | hx
      · exact absurd hxr hna
      · exact ⟨x, hx, hxr⟩) id
    obtain ⟨b, hb, hbr⟩ := hrest
    exact ⟨b, List.mem_cons_of_mem _ hb, hbr⟩
  named x hx := by
    rcases List.mem_cons.mp hx with rfl | hx
    · have ha := h.named a List.mem_cons_self
      exact ⟨ha.scan, ha.stopScan⟩
    · exact h.named x (List.mem_cons_of_mem _ hx)
  once := List.pairwise_cons.mpr
    ⟨fun _ _ hs => absurd rfl hs.2, (List.pairwise_cons.mp h.once).2⟩
  answered x hx _ hr := by
    cases hx
    exact hr.2 rfl

/-- An action that does not reset the flag is completed. -/
theorem complete_other (h : Scanning (a :: rest) flag ids) (ha : ¬ a.Resets) :
    Scanning ({ a with state := .completed } :: rest) flag ids :=
  h.complete (fun hf b hb hs => by
    have hset := h.set ⟨b, List.mem_cons_of_mem _ hb, hs⟩
    rw [hf] at hset
    cases hset) fun hf => ⟨hf, .inl ha⟩

theorem pop (h : Scanning (a :: rest) flag ids) (ha : a.state = .completed)
    (hrest : ∀ x ∈ rest, x.id ∉ ids) : Scanning rest flag ids where
  set hx := by
    obtain ⟨x, hx, hs⟩ := hx
    exact h.set ⟨x, List.mem_cons_of_mem _ hx, hs⟩
  reset hf := by
    obtain ⟨x, hx, hr⟩ := h.reset hf
    rcases List.mem_cons.mp hx with rfl | hx
    · exact absurd ha hr.2
    · exact ⟨x, hx, hr⟩
  named x hx := h.named x (List.mem_cons_of_mem _ hx)
  once := (List.pairwise_cons.mp h.once).2
  answered x hx hm := absurd hm (hrest x (List.mem_of_mem_head? hx))

/-- An action is queued that is no scan. -/
theorem enqueue (h : Scanning queue flag ids) (hn : b.Named) (hb : b.name ≠ "scan")
    (hid : b.id ∉ ids) : Scanning (queue ++ [b]) flag ids where
  set hx := by
    obtain ⟨x, hx, hs⟩ := hx
    rcases List.mem_append.mp hx with hx | hx
    · exact h.set ⟨x, hx, hs⟩
    · exact absurd (List.mem_singleton.mp hx ▸ hs.1) hb
  reset hf := by
    obtain ⟨x, hx, hr⟩ := h.reset hf
    exact ⟨x, List.mem_append_left _ hx, hr⟩
  named x hx := by
    rcases List.mem_append.mp hx with hx | hx
    · exact h.named x hx
    · exact List.mem_singleton.mp hx ▸ hn
  once := by
    refine List.pairwise_append.mpr ⟨h.once, by simp, fun x _ y hy _ hs => ?_⟩
    exact hb (List.mem_singleton.mp hy ▸ hs.1)
  answered x hx hm := by
    cases queue with
    | nil =>
      cases hx
      exact absurd hm hid
    | cons a queue => exact h.answered x hx hm

/-- A scan is queued while the flag is not set. -/
theorem enqueue_scan (h : Scanning queue false ids) (hn : b.Named) (hb : b.Scans)
    (hid : b.id ∉ ids) : Scanning (queue ++ [b]) true ids where
  set _ := rfl
  reset _ := ⟨b, by simp, hb.resets⟩
  named x hx := by
    rcases List.mem_append.mp hx with hx | hx
    · exact h.named x hx
    · exact List.mem_singleton.mp hx ▸ hn
  once := by
    refine List.pairwise_append.mpr ⟨h.once, by simp, fun x hx y _ hs => ?_⟩
    cases h.set ⟨x, hx, hs⟩
  answered x hx hm := by
    cases queue with
    | nil =>
      cases hx
      exact absurd hm hid
    | cons a queue => exact h.answered x hx hm

end Scanning

/-! ## Steps -/

/-- What the callback answers, and the action that called. -/
theorem AsyncAction.Details.Named.not_resets {a : AsyncAction.Details} (h : a.Named) {ev : Event}
    {e : Call} (hev : ev.answers e = true) (hm : e.MadeBy a.trigger)
    (hs : ev ≠ .scanComplete ∧ ev ≠ .scanDisableDone) : ¬ a.Resets := by
  rintro ⟨hn | hn, -⟩
  · obtain ⟨s, htr⟩ := h.scan.mp hn
    rw [htr] at hm
    cases e with
    | scanEnable => cases ev <;> first | (cases hev; done) | exact hs.1 rfl
    | _ => exact hm.elim
  · rw [h.stopScan.mp hn] at hm
    cases e with
    | scanDisable => cases ev <;> first | (cases hev; done) | exact hs.2 rfl
    | _ => exact hm.elim

/-- The call made for an action in the queue. -/
theorem Alive.answers_madeBy {w : World} (h : Alive w) {a : AsyncAction.Details} {ev : Event}
    (ha : a ∈ w.ble.asyncActions) (hm : answering.enter w (.event (some a.id) ev)) :
    ∃ e, ev.answers e = true ∧ e.MadeBy a.trigger := by
  obtain ⟨e, hlog, hact, hev⟩ := Alive.answers hm
  exact ⟨e, hev, h.made e _ hlog hact a ha rfl⟩

/-- Answers go to their actions, and the flag can be reset. -/
abbrev scanFlagged : Policy := (contract.and timely).and resetting

theorem scanFlagged_within : scanFlagged.Within (answering.and timely) := fun w =>
  { enter := fun m h => (timely_within w).enter m h.1
    ans := fun e r h => (timely_within w).ans e r h.1 }

structure Flagged (w : World) : Prop where
  alive : Alive w
  logged : w.Logged
  answers : w.AnswersCalls
  flag : Scanning w.ble.asyncActions w.ble.isScanning (answeredIds w.log)

namespace Flagged

variable {w w' : World} {a : AsyncAction.Details} {rest : List AsyncAction.Details}

theorem init : Flagged .init := ⟨.init, by simp [World.Logged, World.init],
  by simp [World.AnswersCalls, World.init], .init⟩

/-- A Pending action has not been answered. -/
theorem pending_unanswered (h : Flagged w) (ha : a ∈ w.ble.asyncActions) (hp : a.state = .pending) :
    a.id ∉ answeredIds w.log := fun hm =>
  h.alive.fifo.not_triggered ha hp (h.alive.calls.called _ (h.answers _ hm))

/-- A callback that answers the front, if any action, and no call of a scan. -/
theorem not_resets (h : Flagged w) {of : Option ActionId} {ev : Event}
    (hm : scanFlagged.enter w (.event of ev)) (hs : ev ≠ .scanComplete ∧ ev ≠ .scanDisableDone) :
    ∀ a ∈ w.ble.asyncActions.head?, of = some a.id → ¬ a.Resets := by
  rintro a ha rfl
  have hmem : a ∈ w.ble.asyncActions := List.mem_of_mem_head? ha
  obtain ⟨e, hev, hmade⟩ := h.alive.answers_madeBy hmem ((scanFlagged_within w).enter _ hm).1
  exact (h.flag.named a hmem).not_resets hev hmade hs

/-- Completing the front leaves the rest of the queue, and marks no answer. -/
theorem finish_eq (hfifo : Fifo w) (hq : w.ble.asyncActions = a :: rest) (how : Outcome) :
    (w.finish how a.id).ble.asyncActions = { a with state := .completed } :: rest ∧
    (w.finish how a.id).ble.isScanning = w.ble.isScanning := by
  rw [World.finish_ble]
  exact ⟨hfifo.updateAction_front hq _, rfl⟩

/-- A callback of gattlib completes the front. -/
theorem event (h : Flagged w) {of : Option ActionId} {ev : Event} {how : Outcome}
    (hm : scanFlagged.enter w (.event of ev)) (ho : ev.outcome w.ble = some how) :
    let w' := (ev.apply (w.note (.enter (.event of ev)))).finishFront how
    Scanning w'.ble.asyncActions w'.ble.isScanning (answeredIds w'.log) := by
  intro w'
  have hids : answeredIds w'.log = answeredIds w.log ++ of.toList := by
    cases ev <;> simp [w', Event.apply]
  have hq' : (ev.apply (w.note (.enter (.event of ev)))).ble.asyncActions = w.ble.asyncActions := by
    cases ev <;> rfl
  have hfifo : Fifo (ev.apply (w.note (.enter (.event of ev)))) :=
    (h.alive.fifo.note ⟨rfl, rfl, rfl⟩).event ev
  rw [hids]
  cases of with
  | none =>
    have hun : ev.unsolicited = true := hm.1.1
    cases ev <;> first | (cases hun; done) | cases ho
  | some t =>
    rcases h.alive.answer ((scanFlagged_within w).enter _ hm) with
      ⟨-, hnil⟩ | ⟨a, rest, hq, rfl, hs, -⟩
    · -- a cancelled scan is answered, and the queue is empty
      have hf : w' = ev.apply (w.note (.enter (.event (some t) ev))) := by
        simp only [w', World.finishFront, World.front, hq', hnil, List.head?_nil]
      have hflag : w.ble.isScanning = false := by
        cases hb : w.ble.isScanning with
        | false => rfl
        | true =>
          obtain ⟨x, hx, -⟩ := h.flag.reset hb
          rw [hnil] at hx
          cases hx
      have hflag' : w'.ble.isScanning = false := by
        rw [hf]
        cases ev <;> first | exact hflag | rfl
      rw [hflag', hf, hq', hnil]
      exact ⟨⟨by simp, by simp⟩, by simp, .nil, by simp⟩
    · have hf : w' = (ev.apply (w.note (.enter (.event (some a.id) ev)))).finish how a.id := by
        simp only [w', World.finishFront, World.front, hq', hq, List.head?_cons]
      obtain ⟨hqueue, hflag⟩ := finish_eq hfifo (hq'.trans hq) how
      have hscan : Scanning (a :: rest) w.ble.isScanning (answeredIds w.log) := hq ▸ h.flag
      have hdone : ∀ b ∈ ({ a with state := .completed } :: rest).head?,
          some a.id = some b.id → ¬ b.Resets := by
        rintro b hb -
        cases hb
        exact fun hr => hr.2 rfl
      rw [hf, hqueue, hflag]
      by_cases hsc : ev = .scanComplete
      · -- the scan itself
        subst hsc
        obtain ⟨e, hev, hmade⟩ := h.alive.answers_madeBy (a := a) (by rw [hq]; simp)
          ((scanFlagged_within w).enter _ hm).1
        have hname : a.name = "scan" := by
          refine (hscan.named a List.mem_cons_self).scan.mpr ?_
          cases e <;> first | (cases hev; done) | skip
          cases htr : a.trigger with
          | scan s => exact ⟨s, rfl⟩
          | _ =>
            rw [htr] at hmade
            exact hmade.elim
        have honce := (List.pairwise_cons.mp hscan.once).1
        exact (hscan.complete (fun _ b hb => honce b hb ⟨hname, by simp [hs]⟩) (by rintro ⟨⟩)).answer
          hdone
      by_cases hsd : ev = .scanDisableDone
      · subst hsd
        have hno : ∀ b ∈ w.ble.asyncActions, ¬ b.Scans := hm.2
        refine (hscan.complete (fun _ b hb => hno b ?_) (by rintro ⟨⟩)).answer hdone
        rw [hq]
        exact List.mem_cons_of_mem _ hb
      · have hkeep : (ev.apply (w.note (.enter (.event (some a.id) ev)))).ble.isScanning =
            w.ble.isScanning := by
          cases ev <;> first | rfl | exact absurd rfl hsc | exact absurd rfl hsd
        rw [hkeep]
        refine (hscan.complete_other ?_).answer hdone
        exact h.not_resets hm ⟨hsc, hsd⟩ a (by rw [hq]; rfl) rfl

/-- The queue and the flag stay, and no action is answered. -/
theorem same (h : Flagged w) (hq : w'.ble.asyncActions = w.ble.asyncActions)
    (hf : w'.ble.isScanning = w.ble.isScanning) (hids : answeredIds w'.log = answeredIds w.log) :
    Scanning w'.ble.asyncActions w'.ble.isScanning (answeredIds w'.log) :=
  h.flag.holds hq hf hids

/-- An action that does not reset the flag is completed at the front. -/
theorem finish (h : Flagged w) (hq : w.ble.asyncActions = a :: rest) (ha : ¬ a.Resets) {w1 : World}
    (hfifo : Fifo w1) (hq1 : w1.ble.asyncActions = w.ble.asyncActions)
    (hf : w1.ble.isScanning = w.ble.isScanning) (hids : answeredIds w1.log = answeredIds w.log)
    (how : Outcome) :
    Scanning (w1.finish how a.id).ble.asyncActions (w1.finish how a.id).ble.isScanning
      (answeredIds (w1.finish how a.id).log) := by
  obtain ⟨hqueue, hflag⟩ := finish_eq hfifo (hq1.trans hq) how
  rw [hqueue, hflag, hf, World.finish_answeredIds, hids]
  have hscan : Scanning (a :: rest) w.ble.isScanning (answeredIds w.log) := hq ▸ h.flag
  exact hscan.complete_other ha

/-- The data of a read that the front waits for. -/
theorem eventRead (h : Flagged w) {of : Option ActionId} {buf : BinaryBuffer}
    (hm : scanFlagged.enter w (.event of (.readChar (some buf)))) (hf : w.front = some a)
    {w1 : World} (hfifo : Fifo w1) (hq1 : w1.ble.asyncActions = w.ble.asyncActions)
    (hflag : w1.ble.isScanning = w.ble.isScanning)
    (hids : answeredIds w1.log = answeredIds w.log ++ of.toList) :
    Scanning (w1.complete a.id).ble.asyncActions (w1.complete a.id).ble.isScanning
      (answeredIds (w1.complete a.id).log) := by
  obtain ⟨rest, hq⟩ := Alive.queue_of_front hf
  have hqueue : (w1.complete a.id).ble.asyncActions = { a with state := .completed } :: rest :=
    hfifo.updateAction_front (hq1.trans hq) _
  have hscan : Scanning (a :: rest) w.ble.isScanning (answeredIds w.log) := hq ▸ h.flag
  have hof : of = some a.id := by
    cases of with
    | none => cases (show Event.unsolicited (.readChar (some buf)) = true from hm.1.1)
    | some t =>
      rcases h.alive.answer ((scanFlagged_within w).enter _ hm) with
        ⟨-, hnil⟩ | ⟨b, rest', hq', rfl, -⟩
      · rw [hq] at hnil
        cases hnil
      · rw [hq] at hq'
        cases hq'
        rfl
  have hno := h.not_resets hm (by simp) a (by rw [hq]; rfl) hof
  rw [hqueue, show (w1.complete a.id).ble.isScanning = w.ble.isScanning from hflag,
    World.complete_log, hids]
  refine (hscan.complete_other hno).answer ?_
  rintro b hb -
  cases hb
  exact fun hr => hr.2 rfl

/-- gattlib refuses the call of the front. -/
theorem refused (h : Flagged w) {e : Call} {r : Resp} {cs : List Call} {t : ActionId}
    (hc : w.calls = e :: cs) (hans : scanFlagged.ans w e r) (he : e.action = some t)
    (hr : r.rc ≠ 0) :
    let w' := (e.refusedApply (w.back e r)).finish .failure t
    Scanning w'.ble.asyncActions w'.ble.isScanning (answeredIds w'.log) := by
  intro w'
  have hans' := (scanFlagged_within w).ans _ _ hans
  obtain ⟨a, rest, hq, rfl, hs⟩ := h.alive.refused_front hc hans' he hr
  have hmade : e.MadeBy a.trigger :=
    h.alive.made e _ (h.logged e (by rw [hc]; simp)) he a (by rw [hq]; simp) rfl
  have hscan : Scanning (a :: rest) w.ble.isScanning (answeredIds w.log) := hq ▸ h.flag
  have hnamed := hscan.named a List.mem_cons_self
  have hb : Fifo (w.back e r) := h.alive.fifo.back e r
  obtain ⟨isScanning, heq⟩ := e.refusedApply_eq (w.back e r)
  have hfifo : Fifo (e.refusedApply (w.back e r)) := by
    rw [heq]
    exact hb.update rfl (Nat.le_refl _) rfl rfl
  have hq1 : (e.refusedApply (w.back e r)).ble.asyncActions = a :: rest := by rw [heq]; exact hq
  have hids : answeredIds (e.refusedApply (w.back e r)).log = answeredIds w.log := by
    rw [heq]
    simp
  obtain ⟨hqueue, hflag⟩ := finish_eq hfifo hq1 .failure
  simp only [w']
  rw [hqueue, hflag, World.finish_answeredIds, hids]
  have hother (htr : (∀ s, a.trigger ≠ .scan s) ∧ a.trigger ≠ .stopScan)
      (hkeep : (e.refusedApply (w.back e r)).ble.isScanning = w.ble.isScanning) :
      Scanning ({ a with state := .completed } :: rest)
        (e.refusedApply (w.back e r)).ble.isScanning (answeredIds w.log) := by
    rw [hkeep]
    refine hscan.complete_other ?_
    rintro ⟨hn | hn, -⟩
    · obtain ⟨s, hsc⟩ := hnamed.scan.mp hn
      exact htr.1 s hsc
    · exact htr.2 (hnamed.stopScan.mp hn)
  obtain ⟨tr, htr⟩ : ∃ tr, a.trigger = tr := ⟨_, rfl⟩
  rw [htr] at hmade
  cases tr with
  | scan s =>
    cases e with
    | scanEnable =>
      have honce := (List.pairwise_cons.mp hscan.once).1
      have hname := hnamed.scan.mpr ⟨s, htr⟩
      change Scanning _ false _
      exact hscan.complete (fun _ b hb => honce b hb ⟨hname, by simp [hs]⟩) (by rintro ⟨⟩)
    | _ => exact hmade.elim
  | stopScan =>
    cases e with
    | scanDisable of isOpen =>
      cases he
      -- the disable is turned down: another action is left to reset the flag
      refine hscan.complete (fun hf b hb hsb => ?_) fun hf => ⟨hf, .inr ?_⟩
      · have hset := hscan.set ⟨b, List.mem_cons_of_mem _ hb, hsb⟩
        rw [show w.ble.isScanning = false from hf] at hset
        cases hset
      · obtain ⟨x, hx, hne, hxr⟩ := hans.2 hr hf
        rw [hq] at hx
        rcases List.mem_cons.mp hx with rfl | hx
        · exact absurd rfl hne
        · exact ⟨x, hx, hxr⟩
    | _ => exact hmade.elim
  | _ =>
    refine hother ⟨by simp [htr], by simp [htr]⟩ ?_
    cases e <;> first | exact hmade.elim | rfl

/-- A report runs. -/
theorem ran (h : Flagged w) {op : QueuedOp} {ops : List QueuedOp} {ts : List (List QueuedOp)}
    (hts : w.ticks = (op :: ops) :: ts) :
    let w' := op.apply ({ w with ticks := ops :: ts }.note (.ran op))
    Scanning w'.ble.asyncActions w'.ble.isScanning (answeredIds w'.log) := by
  intro w'
  have hids : answeredIds w'.log = answeredIds w.log := by simp [w']
  have hinvoke (cb : Callback) (arg : Arg) (role : Role) :
      (({ w with ticks := ops :: ts }.note (.ran op)).invoke cb arg role).ble = w.ble :=
    World.invoke_ble ..
  cases op with
  | callback | readData | notification =>
    have hble : w'.ble = w.ble := hinvoke ..
    exact h.same (by rw [hble]) (by rw [hble]) hids
  | autoDiscoverServicesStep | autoDiscoverCharacteristicsStep => exact h.same rfl rfl hids
  | reportConnected =>
    have hlen := World.chainLength_next hts
    simp only [QueuedOp.chains, reduceIte] at hlen
    obtain ⟨a, ha, -, hans, -⟩ := h.alive.chain.front (by omega)
    obtain ⟨rest, hq⟩ := Alive.queue_of_front ha
    have hfront : ({ w with ticks := ops :: ts }.note (.ran .reportConnected)).front = some a := ha
    simp only [w', QueuedOp.apply, World.finishFront, hfront]
    have hids : answeredIds ({ w with ticks := ops :: ts }.note (.ran .reportConnected)).log =
        answeredIds w.log := by simp
    exact h.finish hq (h.flag.answered a ha hans) (h.alive.next hts).fifo rfl rfl hids .success

/-- **Step lemma.** -/
theorem act [Gattlib] (h : Flagged w) (ha : Act scanFlagged w w') : Flagged w' := by
  have halive : Alive w' := h.alive.act (scanFlagged_within w) ha
  refine ⟨halive, h.logged.act ha, h.answers.act ⟨fun m hm => ((scanFlagged_within w).enter m hm).1,
    fun e r hr => ((scanFlagged_within w).ans e r hr).1⟩ ha, ?_⟩
  cases ha with
  | enter m hm hi =>
    cases m with
    | api => exact h.same rfl rfl (by simp)
    | event of ev =>
      have hs : ev ≠ .scanComplete ∧ ev ≠ .scanDisableDone := by
        constructor <;> rintro rfl <;> exact hi
      exact (h.flag.answer (h.not_resets hm hs)).holds rfl rfl (by simp)
  | event of ev how hm ho => exact h.event hm ho
  | eventAuto of c hm =>
    exact (h.flag.answer (h.not_resets hm (by simp))).holds rfl rfl (by simp [Event.apply])
  | eventRead of buf a hm _ hf =>
    have hn : Fifo (w.note (.enter (.event of (.readChar (some buf))))) :=
      h.alive.fifo.note ⟨rfl, rfl, rfl⟩
    split
    · exact h.eventRead hm hf (hn.report _) rfl rfl (by simp)
    · exact h.eventRead hm hf hn rfl rfl (by simp)
  | eventReadNone of buf hm hf =>
    have hg : Scanning w.ble.asyncActions w.ble.isScanning (answeredIds w.log ++ of.toList) :=
        h.flag.answer fun a ha _ => by
      rw [show w.ble.asyncActions.head? = none from hf] at ha
      cases ha
    exact hg.holds rfl rfl (by simp)
  | eventDiscovered of addr name hm =>
    refine (h.flag.answer (h.not_resets hm (by simp))).holds ?_ ?_ ?_
    · rw [World.discovered_ble]
      rfl
    · rw [World.discovered_ble]
      rfl
    · simp [World.discovered, World.named]
  | refused e r cs t a hc hans he hr => exact h.refused hc hans he hr
  | ran op rest ts hts => exact h.ran hts
  | trigger ts a hts _ hf hp =>
    obtain ⟨rest, hq⟩ := Alive.queue_of_front hf
    have hd : Flagged ({ w with ticks := ts } : World) := ⟨h.alive.drop hts, h.logged, h.answers, h.flag⟩
    have hscan : Scanning (a :: rest) w.ble.isScanning (answeredIds w.log) := hq ▸ h.flag
    have hq' : ({ w with ticks := ts }.start a.id).ble.asyncActions =
        { a with state := .triggered } :: rest := hd.alive.fifo.updateAction_front hq _
    have hstart : Scanning ({ a with state := .triggered } :: rest) w.ble.isScanning
        (answeredIds w.log) := hscan.change rfl rfl rfl (by simp [hp])
    have hpush (e : Call) : Scanning (({ w with ticks := ts }.start a.id).push e).ble.asyncActions
        (({ w with ticks := ts }.start a.id).push e).ble.isScanning
        (answeredIds (({ w with ticks := ts }.start a.id).push e).log) :=
      hstart.holds hq' rfl (by simp)
    have hno : Scanning ({ w with ticks := ts }.start a.id).ble.asyncActions
        ({ w with ticks := ts }.start a.id).ble.isScanning
        (answeredIds ({ w with ticks := ts }.start a.id).log) :=
      hstart.holds hq' rfl (by simp)
    cases htr : a.trigger with
    | autodisconn => exact hno
    | stopScanDone =>
      have hfifo : Fifo ({ w with ticks := ts }.start a.id) := hd.alive.fifo.start hf hp
      obtain ⟨hqueue, hflag⟩ := finish_eq hfifo hq' .success
      have hnamed := hscan.named a List.mem_cons_self
      have hnr : ¬ a.Resets := by
        rintro ⟨hn | hn, -⟩
        · obtain ⟨s, hsc⟩ := hnamed.scan.mp hn
          rw [htr] at hsc
          cases hsc
        · rw [hnamed.stopScan.mp hn] at htr
          cases htr
      exact (hscan.complete_other hnr).holds hqueue hflag (by simp [Trigger.apply])
    | read | write =>
      simp only [Trigger.apply]
      split
      · exact hno
      · exact hpush _
    | _ => exact hpush _
  | pop ts a rest hts _ hq hd =>
    have hscan : Scanning (a :: rest) w.ble.isScanning (answeredIds w.log) := hq ▸ h.flag
    have hrest : ∀ x ∈ rest, x.id ∉ answeredIds w.log := fun x hx =>
      h.pending_unanswered (by rw [hq]; exact List.mem_cons_of_mem _ hx)
        (h.alive.fifo.tail x (by rw [hq]; exact hx))
    exact (hscan.pop hd hrest).holds rfl rfl (by simp)
  | wait ts a hts _ hf =>
    obtain ⟨rest, hq⟩ := Alive.queue_of_front hf
    have hscan : Scanning (a :: rest) w.ble.isScanning (answeredIds w.log) := hq ▸ h.flag
    have hq' : ({ w with ticks := ts }.updateAction a.id fun a =>
        { a with waitCount := a.waitCount + 1 }).ble.asyncActions =
        { a with waitCount := a.waitCount + 1 } :: rest :=
      (h.alive.drop hts).fifo.updateAction_front hq _
    have hwait : Scanning ({ a with waitCount := a.waitCount + 1 } :: rest) w.ble.isScanning
        (answeredIds w.log) := hscan.change rfl rfl rfl .rfl
    exact hwait.holds hq' rfl (by simp)
  | services dev c r =>
    obtain ⟨devices, heq⟩ := (w.back (.discoverPrimary dev c) r).servicesStep_eq dev r
    rw [heq]
    exact h.same rfl rfl (by simp)
  | chars dev c r =>
    obtain ⟨devices, heq⟩ := (w.back (.discoverChar dev c) r).charsStep_eq dev r
    rw [heq]
    exact h.same rfl rfl (by simp)
  | inert _ hi => exact h.same hi.asyncActions hi.isScanning (by rw [hi.log])
  | _ => exact h.same rfl rfl (by simp)

/-- The next action has not been answered. -/
theorem fresh (h : Flagged w) : w.serial ∉ answeredIds w.log := fun hm => by
  have ht := h.alive.calls.called _ (h.answers _ hm)
  exact Nat.lt_irrefl _ (h.alive.fifo.fresh _ (h.alive.fifo.triggered_sublist.subset ht))

/-- An accepted request. -/
theorem request {op : Op} (h : Flagged w) (hr : Request w op w') : Flagged w' := by
  have hk := hr.kept
  have hids : answeredIds w'.log = answeredIds w.log := by cases hr <;> simp
  have hlog : w'.Logged := fun e he => hk.log.subset (h.logged e (hk.calls ▸ he))
  have hans : w'.AnswersCalls := fun t ht => marks_mono hk.log (h.answers t (hids ▸ ht))
  refine ⟨h.alive.request hr, hlog, hans, ?_⟩
  have hqueue (a : AsyncAction.Details) (hn : a.Named) (hne : a.name ≠ "scan") :
      Scanning (w.ble.asyncActions ++ [{ a with id := w.serial }]) w.ble.isScanning
        (answeredIds w.log) :=
    h.flag.enqueue ⟨hn.scan, hn.stopScan⟩ hne h.fresh
  cases hr with
  | scan runSeconds succ disc fail _ hflag =>
    have hscan : Scanning w.ble.asyncActions false (answeredIds w.log) := hflag ▸ h.flag
    exact (hscan.enqueue_scan ⟨by simp, by simp⟩ ⟨rfl, by simp⟩ h.fresh).holds rfl rfl hids
  | stopScanDone | disconnect | read | write =>
    exact (hqueue _ ⟨by simp, by simp⟩ (by simp)).holds rfl rfl hids
  | stopScan => exact (hqueue _ ⟨by simp, by simp⟩ (by simp)).holds rfl rfl hids
  | stopScanCancel succ fail a _ hflag hf hs hname =>
    obtain ⟨rest, hq⟩ := Alive.queue_of_front hf
    have hq' : (w.complete a.id).ble.asyncActions = { a with state := .completed } :: rest :=
      h.alive.fifo.updateAction_front hq _
    have hadd := hqueue
      { name := "stopScan", callbacks := { success := succ, failure := fail },
        trigger := .stopScan }
      ⟨by simp, by simp⟩ (by simp)
    rw [hq, hflag, List.cons_append] at hadd
    -- the scan is completed, and the flag waits for the stopScan
    have hdone : Scanning _ true _ := hadd.complete (by rintro ⟨⟩) fun _ =>
      ⟨rfl, .inr ⟨_, List.mem_append_right _ (List.mem_singleton_self _), .inr rfl, by simp⟩⟩
    refine hdone.holds ?_ hflag hids
    simp [World.enqueue, hq', World.note]
  | connect => exact (hqueue _ ⟨by simp, by simp⟩ (by simp)).holds rfl rfl hids

theorem subs [Gattlib] {P : Policy} (h : Flagged w) (hs : Subs P w w') : Flagged w' := by
  have halive := h.alive.subs hs
  cases hs
  exact ⟨halive, h.logged, h.answers, h.flag⟩

theorem exit (h : Flagged w) (m : Move) (r : Ret) : Flagged (w.note (.exit m r)) where
  alive := h.alive.note ⟨⟨⟨rfl, rfl, rfl⟩, rfl, rfl, rfl, rfl⟩, rfl⟩
  logged e he := List.mem_append_left _ (h.logged e he)
  answers t ht := marks_mono (List.prefix_append ..) (h.answers t (by simpa using ht))
  flag := h.same rfl rfl (by simp)

end Flagged

/-! ## The result -/

section
variable [Gattlib]

def flagClaim : Claim scanFlagged where
  inv := Flagged
  crash _ _ := True
  act h ha := ⟨h.act ha, trivial⟩
  exit h _ := ⟨h.exit _ _, trivial⟩
  drop _ h hts _ _ := ⟨⟨h.alive.drop hts, h.logged, h.answers, h.flag⟩, trivial⟩
  request h _ hr := ⟨h.request hr, trivial⟩
  freed _ _ _ _ _ _ := trivial
  missing _ _ _ _ _ _ _ _ := trivial
  other _ _ := trivial

theorem flagClaim_notifies : flagClaim.Notifies :=
  .of_subs (fun h hs => ⟨h.subs hs, trivial⟩) fun _ _ _ => trivial

/-- **`is_scanning` agrees with the queue** in runs whose answers go to their actions, where no
scan waits when a disable is complete, and no disable that is turned down was the last action
to reset the flag. -/
theorem scanning_agrees {c : Config World Call Resp Fault} (h : Reach scanFlagged .init c)
    (hf : c.fault = none) : FlagAgrees c.s.ble.asyncActions c.s.ble.isScanning :=
  (Claim.reach flagClaim_notifies trivial .init h hf).flag.toFlagAgrees

end

/-- A scan is stopped while it runs: the flag is set until the disable is complete. -/
theorem scanning_agrees_stop :
    ∃ c : Config World Call Resp Fault, @Reach .sample scanFlagged .init c ∧
      c.s.ble.isScanning = true ∧ c.s.ble.asyncActions.map (·.name) = ["stopScan"] ∧
      FlagAgrees c.s.ble.asyncActions c.s.ble.isScanning := by
  let _ := Gattlib.sample
  obtain ⟨c, hc, hP⟩ := (system scanFlagged).reach_of_run_any
    [.enter (.api (.scan 0 none none none)), .answer (.adapter 3), .enter (.api .processAsync),
      .answer .void, .answer (.code 0), .enter (.api (.stopScan none none)),
      .enter (.api .processAsync), .answer .void, .enter (.api .processAsync), .answer .void,
      .answer (.code 0)]
    (c := ⟨.init, [], none⟩) (P := fun c => c.fault.isNone && (c.s.ble.isScanning &&
      c.s.ble.asyncActions.map (·.name) == ["stopScan"]))
    (by decide)
  simp only [Bool.and_eq_true, Option.isNone_iff_eq_none, beq_iff_eq] at hP
  exact ⟨c, hc, hP.2.1, hP.2.2, scanning_agrees hc hP.1⟩

/-- gattlib turns the disable down: the flag stays set, and nothing is left to reset it. -/
theorem scanning_agrees_refused :
    ∃ c : Config World Call Resp Fault, @Reach .sample contract .init c ∧ c.fault = none ∧
      ¬ FlagAgrees c.s.ble.asyncActions c.s.ble.isScanning := by
  let _ := Gattlib.sample
  obtain ⟨c, hc, hP⟩ := (system contract).reach_of_run_any
    [.enter (.api (.scan 0 none none none)), .answer (.adapter 3), .enter (.api .processAsync),
      .answer .void, .answer (.code 0), .enter (.api (.stopScan none none)),
      .enter (.api .processAsync), .answer .void, .enter (.api .processAsync), .answer .void,
      .answer (.code 1), .enter (.api .processAsync), .answer .void]
    (c := ⟨.init, [], none⟩) (P := fun c => c.fault.isNone && (c.s.ble.isScanning &&
      c.s.ble.asyncActions.isEmpty))
    (by decide)
  simp only [Bool.and_eq_true, Option.isNone_iff_eq_none, List.isEmpty_iff] at hP
  refine ⟨c, hc, hP.1, fun hagrees => ?_⟩
  obtain ⟨a, ha, -⟩ := hagrees.reset hP.2.1
  rw [hP.2.2] at ha
  cases ha

end Gattlibpp
