import Gattlibpp.Act.Runs
import Gattlibpp.Queue.Later
import Gattlibpp.Quiet.Requests
import Gattlibpp.Scan.Flag

/-!
# How stopScan gets through

A `stopScan` cancels the scan that runs at the front, and no other. So no scan is enabled
before it as long as none waits in the queue when it is called: then every scan ahead of it is
Completed, and one requested later is triggered after the stopScan has left the queue.
-/

namespace Gattlibpp

open Open

/-! ## Names -/

/-- The names of the queued actions are those of their triggers. -/
def World.Named (w : World) : Prop := ∀ a ∈ w.ble.asyncActions, a.Named

theorem AsyncAction.Details.Later.scans {a a' : AsyncAction.Details} (h : a.Later a')
    (hs : a'.Scans) : a.Scans :=
  ⟨h.name ▸ hs.1, fun hc => hs.2 (h.state.completed hc)⟩

theorem World.Named.later {w w' : World} (h : w.Named) (hl : w.Later w') : w'.Named := by
  intro a' ha'
  obtain ⟨a, ha, hlater⟩ := hl.mem ha'
  exact ⟨by rw [hlater.name, hlater.trigger]; exact (h a ha).scan,
    by rw [hlater.name, hlater.trigger]; exact (h a ha).stopScan⟩

theorem World.Named.act [Gattlib] {P : Policy} {w w' : World} (h : w.Named) (hfifo : Fifo w)
    (ha : Act P w w') : w'.Named := by
  rcases ha.later hfifo with hl | ⟨a, hq, -, -⟩
  · exact h.later hl
  · exact fun x hx => h x (by rw [hq]; exact List.mem_cons_of_mem _ hx)

theorem World.Named.enqueue {w : World} {a : AsyncAction.Details} (h : w.Named) (ha : a.Named) :
    (w.enqueue a).Named := by
  intro x hx
  rcases List.mem_append.mp hx with hx | hx
  · exact h x hx
  · rw [List.mem_singleton.mp hx]
    exact ⟨ha.scan, ha.stopScan⟩

theorem Request.named {w w' : World} {op : Op} (h : w.Named) (hr : Request w op w') : w'.Named := by
  have hq {w1 : World} {a : AsyncAction.Details} (hw : w.Later w1) (ha : a.Named) :
      (w1.enqueue a).Named := (h.later hw).enqueue ha
  cases hr with
  | stopScanCancel succ fail a =>
    have hl : w.Later ((w.complete a.id).note (.cancelled a.id)) := World.complete_later a.id
    exact hq hl ⟨by simp, by simp⟩
  | scan | connect => exact hq (World.later_of_eq rfl) ⟨by simp, by simp⟩
  | _ => exact hq (World.later_of_eq rfl) ⟨by simp, by simp⟩

/-! ## Nothing scans ahead -/

/-- Of the actions up to `t` none is a scan still to run. -/
def World.Clear (t : ActionId) (w : World) : Prop :=
  ∀ a ∈ w.ble.asyncActions, a.id ≤ t → ¬ a.Scans

theorem World.Clear.later {w w' : World} {t : ActionId} (h : w.Clear t) (hl : w.Later w') :
    w'.Clear t := by
  intro a' ha' hid hs
  obtain ⟨a, ha, hlater⟩ := hl.mem ha'
  exact h a ha (hlater.id ▸ hid) (hlater.scans hs)

/-- A scan is enabled in `l`, after `before`, only where `t` has been popped. -/
def EnabledAfter (t : ActionId) (before l : List Obs) : Prop :=
  ∀ l1 s o secs l2, l = l1 ++ .call (.scanEnable s o secs) :: l2 → t ∈ poppedIds (before ++ l1)

theorem EnabledAfter.of_none {t : ActionId} {before l : List Obs}
    (h : ∀ e, .call e ∈ l → e.action = none) : EnabledAfter t before l := by
  rintro l1 s o secs l2 rfl
  cases h (.scanEnable s o secs) (by simp)

theorem EnabledAfter.append {t : ActionId} {before l l' : List Obs} (h : EnabledAfter t before l)
    (h' : EnabledAfter t (before ++ l) l') : EnabledAfter t before (l ++ l') := by
  intro l1 s o secs l2 heq
  rcases List.append_eq_append_iff.mp heq with ⟨m, rfl, hm⟩ | ⟨m, rfl, hm⟩
  · rw [← List.append_assoc]
    exact h' m s o secs l2 hm
  · cases m with
    | nil =>
      have hm' : l' = [] ++ .call (.scanEnable s o secs) :: l2 := hm.symm
      have hp := h' [] s o secs l2 hm'
      simpa using hp
    | cons x m =>
      obtain ⟨rfl, rfl⟩ := List.cons.inj hm
      exact h l1 s o secs m rfl

/-- From `w` to `w'` no scan comes to stand ahead of `t`, and none is enabled before `t` has left
the queue. -/
def World.Overtakes (t : ActionId) (w w' : World) : Prop :=
  ∃ l, w'.log = w.log ++ l ∧
    (w.Clear t → t ∈ queuedIds w.log → w'.Clear t ∧ EnabledAfter t w.log l)

theorem World.Overtakes.refl (t : ActionId) (w : World) : World.Overtakes t w w :=
  ⟨[], (List.append_nil _).symm, fun hc _ => ⟨hc, .of_none (by simp)⟩⟩

theorem World.Overtakes.trans {t : ActionId} {w w' w'' : World} (h : World.Overtakes t w w')
    (h' : World.Overtakes t w' w'') : World.Overtakes t w w'' := by
  obtain ⟨l, hl, hw⟩ := h
  obtain ⟨l', hl', hw'⟩ := h'
  refine ⟨l ++ l', by rw [hl', hl, List.append_assoc], fun hc ht => ?_⟩
  obtain ⟨hc1, he⟩ := hw hc ht
  obtain ⟨hc2, he'⟩ := hw' hc1 (marks_mono ⟨l, hl.symm⟩ ht)
  exact ⟨hc2, he.append (hl ▸ he')⟩

/-- Where nothing is called and no action comes or leaves. -/
theorem World.Overtakes.later {t : ActionId} {w w' : World} {l : List Obs} (hq : w.Later w')
    (hl : w'.log = w.log ++ l) (hcall : ∀ e, .call e ∈ l → e.action = none) :
    World.Overtakes t w w' :=
  ⟨l, hl, fun hc _ => ⟨hc.later hq, .of_none hcall⟩⟩

theorem Trigger.apply_scanEnable {w w' : World} {t : ActionId} {tr : Trigger} {l : List Obs}
    (hw : w' = tr.apply w t) (hl : w'.log = w.log ++ l) {s : ActionId} {o : Bool} {secs : UInt16}
    (hm : .call (.scanEnable s o secs) ∈ l) : ∃ runSeconds, tr = .scan runSeconds := by
  subst hw
  have hone {e : Call} (he : (w.push e).log = w.log ++ l) : e = .scanEnable s o secs := by
    have hle : l = [.call e] := (List.append_cancel_left he).symm
    rw [hle] at hm
    simpa using (List.mem_singleton.mp hm).symm
  have hnone (hw : w.log = w.log ++ l) : False := by
    have hnil : l = [] := by simpa using hw
    rw [hnil] at hm
    cases hm
  cases tr with
  | scan runSeconds => exact ⟨runSeconds, rfl⟩
  | autodisconn => exact (hnone hl).elim
  | stopScanDone =>
    obtain ⟨l', hl', hc⟩ := w.finish_log .success t
    have hle : l = l' := List.append_cancel_left (hl.symm.trans hl')
    cases hc (.scanEnable s o secs) (hle ▸ hm)
  | read | write =>
    simp only [Trigger.apply] at hl
    split at hl
    · exact (hnone hl).elim
    · cases hone hl
  | _ => cases hone hl

theorem Request.writes_none {w w' : World} {op : Op} (h : Request w op w') :
    ∃ l, w'.log = w.log ++ l ∧ ∀ e, .call e ∈ l → e.action = none := by
  cases h with
  | stopScanCancel => exact ⟨_, List.append_assoc .., by simp⟩
  | _ => exact ⟨_, rfl, by simp⟩

section
variable [Gattlib] {P : Policy} {w w' : World} {t : ActionId}

/-- **Step lemma.** -/
theorem Act.overtakes (hfifo : Fifo w) (hn : w.Named) (ha : Act P w w') :
    World.Overtakes t w w' := by
  obtain ⟨l, hl⟩ := ha.log_grows
  refine ⟨l, hl.symm, fun hc ht => ⟨?_, ?_⟩⟩
  · rcases ha.later hfifo with hlater | ⟨a, hq, -, -⟩
    · exact hc.later hlater
    · exact fun x hx => hc x (by rw [hq]; exact List.mem_cons_of_mem _ hx)
  rcases ha.noCall with hno | ⟨ts, a, -, hf, hp, hw⟩
  · obtain ⟨l', hl', hcall⟩ := hno.log
    rw [show l = l' from List.append_cancel_left (hl.trans hl')]
    exact .of_none hcall
  · rintro l1 s o secs l2 rfl
    obtain ⟨lt, hlt, -⟩ := a.trigger.apply_calls ({ w with ticks := ts }.start a.id) a.id
    have hw' : w'.log = w.log ++ .triggered a.id :: lt := by
      rw [hw, hlt]
      exact List.append_assoc ..
    have hmem : .call (.scanEnable s o secs) ∈ lt := by
      have heq := List.append_cancel_left (hl.trans hw')
      have hm : Obs.call (.scanEnable s o secs) ∈ Obs.triggered a.id :: lt := by
        rw [← heq]
        simp
      simpa using hm
    -- the front is a scan still to run, so `t` is no longer in the queue
    obtain ⟨runSeconds, htr⟩ := Trigger.apply_scanEnable rfl hlt hmem
    obtain ⟨rest, hq⟩ : ∃ rest, w.ble.asyncActions = a :: rest := List.head?_eq_some_iff.mp hf
    have ha : a ∈ w.ble.asyncActions := by simp [hq]
    have hname : a.name = "scan" := (hn a ha).scan.mpr ⟨runSeconds, htr⟩
    have hlater : t < a.id := by
      by_contra hle
      exact hc a ha (Nat.le_of_not_lt hle) ⟨hname, by simp [hp]⟩
    have hpop : t ∈ poppedIds w.log := by
      rw [hfifo.order] at ht
      refine (List.mem_append.mp ht).resolve_right fun hm => ?_
      have hasc := (List.pairwise_append.mp hfifo.ids_ascending).2.1
      rw [hq, List.map_cons] at hasc hm
      rcases List.mem_cons.mp hm with rfl | hm
      · exact Nat.lt_irrefl _ hlater
      · exact Nat.lt_asymm hlater ((List.pairwise_cons.mp hasc).1 t hm)
    exact marks_mono (List.prefix_append ..) hpop

omit [Gattlib] in
theorem Request.overtakes {op : Op} (hfifo : Fifo w) (hr : Request w op w') :
    World.Overtakes t w w' := by
  obtain ⟨w1, a, hlater, -, hid, hq, -, -⟩ := hr.later
  obtain ⟨l, hl, hcall⟩ := hr.writes_none
  refine ⟨l, hl, fun hc ht => ⟨fun x hx hle => ?_, .of_none hcall⟩⟩
  rw [hq] at hx
  rcases List.mem_append.mp hx with hx | hx
  · exact hc.later hlater x hx hle
  · -- the new action is behind `t`
    rw [List.mem_singleton.mp hx, hid] at hle
    exact absurd (hfifo.fresh t ht) (Nat.not_lt.mpr hle)

omit [Gattlib] in
theorem Subs.overtakes (hs : Subs P w w') : World.Overtakes t w w' := by
  cases hs
  exact .later (World.later_of_eq rfl) (l := []) (List.append_nil _).symm (by simp)

end

/-! ## Runs -/

section
variable [Gattlib]

/-- The queue is a FIFO whose actions are named as they are triggered. -/
structure Queued (w : World) : Prop where
  fifo : Fifo w
  named : w.Named

def overtakeClaim (P : Policy) (t : ActionId) : Claim P where
  inv := Queued
  extra := World.Overtakes t
  crash _ _ := True
  refl := World.Overtakes.refl t
  trans _ _ _ := World.Overtakes.trans
  unlocked h := h
  act h ha := ⟨⟨h.fifo.act ha, h.named.act h.fifo ha⟩, Act.overtakes h.fifo h.named ha⟩
  exit h _ := ⟨⟨h.fifo.note ⟨rfl, rfl, rfl⟩, h.named⟩, .later (World.later_of_eq rfl) rfl (by simp)⟩
  drop _ h _ _ _ := ⟨⟨h.fifo.setTicks _, h.named⟩,
    .later (World.later_of_eq rfl) (List.append_nil _).symm (by simp)⟩
  request h _ hr := ⟨⟨h.fifo.request hr, hr.named h.named⟩, hr.overtakes h.fifo⟩
  freed _ _ _ _ _ _ := trivial
  missing _ _ _ _ _ _ _ _ := trivial
  other _ _ := trivial

theorem overtakeClaim_allows (P : Policy) (t : ActionId) :
    (overtakeClaim P t).Allows (Subs P) := fun h hs =>
  ⟨⟨h.fifo.subs hs, by cases hs; exact h.named⟩, hs.overtakes⟩

omit [Gattlib] in
theorem queued_init : Queued .init := ⟨.init, by simp [World.Named, World.init]⟩

theorem queued_reach {P : Policy} {c : Config World Call Resp Fault} (h : Reach P .init c)
    (hf : c.fault = none) : Queued c.s :=
  Claim.reach (.of_subs (overtakeClaim_allows P 0) fun _ _ _ => trivial) trivial queued_init h hf

/-- **Run lemma.** -/
theorem overtakes_reach {P : Policy} (t : ActionId) {c c' : Config World Call Resp Fault}
    (h : Reach P .init c) (h' : (system P).Reach c c') (hf : c'.fault = none) :
    World.Overtakes t c.s c'.s :=
  Claim.runs (C := overtakeClaim P t) World.Overtakes.trans (overtakeClaim_allows P t)
    (fun _ _ _ => trivial) trivial (Terms.within_any _) queued_init h h' hf

/-! ## The result -/

omit [Gattlib] in
/-- Only the front is not Pending. -/
theorem Fifo.running_front {w : World} (h : Fifo w) {a : AsyncAction.Details}
    (ha : a ∈ w.ble.asyncActions) (hs : a.state ≠ .pending) : w.front = some a := by
  have htail := h.tail
  unfold World.front
  cases hq : w.ble.asyncActions with
  | nil =>
    rw [hq] at ha
    cases ha
  | cons b rest =>
    rw [hq] at ha htail
    rcases List.mem_cons.mp ha with rfl | ha
    · rfl
    · exact absurd (htail a ha) hs

omit [Gattlib] in
theorem Fifo.eq_of_id {w : World} (h : Fifo w) {a b : AsyncAction.Details}
    (ha : a ∈ w.ble.asyncActions) (hb : b ∈ w.ble.asyncActions) (hid : a.id = b.id) : a = b := by
  have hnodup := ((List.pairwise_append.mp h.ids_ascending).2.1).imp fun h => Nat.ne_of_lt h
  exact List.inj_on_of_nodup_map hnodup ha hb hid

/-- Nothing but its own trigger completes `t`: it is popped after it has been triggered. -/
def Spared (t : ActionId) (log : List Obs) : Prop :=
  Past (fun before o => o.poppedId = some t → t ∈ triggeredIds before) log

omit [Gattlib] in
theorem Spared.triggered {t : ActionId} {log l : List Obs} (h : Spared t log) (hl : l <+: log)
    (ht : t ∈ poppedIds l) : t ∈ triggeredIds l := by
  obtain ⟨o, ho, hot⟩ := List.mem_filterMap.mp ht
  obtain ⟨before, after, rfl⟩ := List.append_of_mem ho
  obtain ⟨rest, rfl⟩ := hl
  have hb := h before o (after ++ rest) (by simp) hot
  exact marks_mono (List.prefix_append ..) hb

/-- No scan holds up the action `t`, which is queued behind `q` at `c`: the scans ahead of it are
Completed, and as long as nothing but its own trigger completes it, no scan is enabled before it
has been triggered and it never waits behind a Triggered scan. -/
def Unhindered (q : List AsyncAction.Details) (t : ActionId) (c : Config World Call Resp Fault) :
    Prop :=
  (∀ a ∈ q, a.name = "scan" → a.state = .completed) ∧
  ∀ c', (system .any).Reach c c' → c'.fault = none → Spared t c'.s.log →
    (∀ l1 s o secs l2, c'.s.log = c.s.log ++ l1 ++ .call (.scanEnable s o secs) :: l2 →
      t ∈ triggeredIds (c.s.log ++ l1)) ∧
    ∀ q' b rest, c'.s.ble.asyncActions = q' ++ b :: rest → b.id = t →
      ∀ a ∈ q', a.name = "scan" → a.state ≠ .triggered

theorem unhindered_of_clear {c : Config World Call Resp Fault} {q : List AsyncAction.Details}
    {b : AsyncAction.Details} (h : Reach .any .init c) (hf : c.fault = none)
    (hq : c.s.ble.asyncActions = q ++ [b]) (hb : b.name ≠ "scan")
    (hscan : ∀ a ∈ q, a.name = "scan" → a.state = .completed) : Unhindered q b.id c := by
  have hclear : c.s.Clear b.id := by
    intro a ha _ hs
    rw [hq] at ha
    rcases List.mem_append.mp ha with ha | ha
    · exact hs.2 (hscan a ha hs.1)
    · exact hb (List.mem_singleton.mp ha ▸ hs.1)
  have hqueued : b.id ∈ queuedIds c.s.log := by
    rw [(queued_reach h hf).fifo.order, hq]
    simp
  refine ⟨hscan, fun c' hc' hf' hspared => ?_⟩
  obtain ⟨l, hl, hover⟩ := overtakes_reach b.id h hc' hf'
  obtain ⟨hclear', henabled⟩ := hover hclear hqueued
  constructor
  · intro l1 s o secs l2 hlog
    have hsplit : l = l1 ++ .call (.scanEnable s o secs) :: l2 := by
      rw [hl, List.append_assoc] at hlog
      exact List.append_cancel_left hlog
    refine hspared.triggered ?_ (henabled l1 s o secs l2 hsplit)
    rw [hlog]
    exact List.prefix_append ..
  · intro q' b' rest hq' hid a ha hname hs
    have hasc := (List.pairwise_append.mp (queued_reach (h.trans hc') hf').fifo.ids_ascending).2.1
    rw [hq', List.map_append] at hasc
    have hlt : a.id < b'.id := (List.pairwise_append.mp hasc).2.2 _ (List.mem_map_of_mem ha) _
      (by simp)
    refine hclear' a ?_ ?_ ⟨hname, by simp [hs]⟩
    · rw [hq']
      exact List.mem_append_left _ ha
    · exact hid ▸ Nat.le_of_lt hlt

/-- **`stopScan` gets through** exactly where no scan waits in the queue when it is called. -/
theorem stopScan_unhindered {c : Config World Call Resp Fault} {w' : World} {succ fail : Callback}
    (h : Reach .any .init c) (hf : c.fault = none) (hs : c.s.ble.isScanning = true)
    (hcall : (Op.stopScan succ fail).Called c.s (.bool true) w') :
    ∃ q b, w'.ble.asyncActions = q ++ [b] ∧ b.name = "stopScan" ∧ b.trigger = .stopScan ∧
      b.state = .pending ∧ (Unhindered q b.id ⟨w', c.stack, none⟩ ↔
        ∀ a ∈ c.s.ble.asyncActions, a.name = "scan" → a.state ≠ .pending) := by
  have hfifo := (queued_reach h hf).fifo
  have hreach : Reach .any .init ⟨w', c.stack, none⟩ := by
    obtain ⟨s, st, fault⟩ := c
    cases hf
    exact h.trans (hcall.reach st)
  obtain ⟨w2, ⟨w1, hw1, hr⟩, rfl⟩ := stopScan_requested hcall
  have hqueue : w1.ble.asyncActions = c.s.ble.asyncActions := hw1.asyncActions
  cases hr with
  | stopScanDone _ _ _ hno =>
    rw [hw1.isScanning] at hno
    exact absurd (hno.symm.trans hs) (by simp)
  | stopScan _ _ _ _ hfront =>
    refine ⟨_, _, rfl, rfl, rfl, rfl, ⟨fun hun a ha hname hp => ?_, fun hno => ?_⟩⟩
    · have hc := hun.1 a (hqueue ▸ ha) hname
      rw [hp] at hc
      cases hc
    · refine unhindered_of_clear hreach rfl rfl (by simp) fun a ha hname => ?_
      have ha' : a ∈ c.s.ble.asyncActions := hqueue ▸ ha
      by_contra hnc
      have hfr : c.s.front = some a := hfifo.running_front ha' (hno a ha' hname)
      have hrun : a.state = .triggered := by
        cases hst : a.state with
        | pending => exact absurd hst (hno a ha' hname)
        | triggered => rfl
        | completed => exact absurd hst hnc
      refine hfront a ?_ ⟨by simp [AsyncAction.Details.isRunning, hrun], hname⟩
      rw [World.front, hqueue]
      exact hfr
  | stopScanCancel _ _ a _ _ hfr hst hname =>
    have hfr : c.s.front = some a := by
      rw [World.front, hqueue] at hfr
      exact hfr
    refine ⟨_, _, rfl, rfl, rfl, rfl, ⟨fun hun x hx hname hp => ?_, fun hno => ?_⟩⟩
    · -- a scan that waits is not the one cancelled
      have hne : x.id ≠ a.id := fun hid => by
        have hxa := hfifo.eq_of_id hx (List.mem_of_mem_head? hfr) hid
        rw [hxa, hst] at hp
        cases hp
      have hmem : x ∈ (w1.complete a.id).ble.asyncActions :=
        List.mem_map.mpr ⟨x, hqueue ▸ hx, if_neg hne⟩
      have hc := hun.1 x hmem hname
      rw [hp] at hc
      cases hc
    · refine unhindered_of_clear hreach rfl rfl (by simp) fun x hx hxname => ?_
      obtain ⟨y, hy, rfl⟩ := List.mem_map.mp hx
      split
      · rfl
      · rename_i hne
        rw [if_neg hne] at hxname
        have hy' : y ∈ c.s.ble.asyncActions := hqueue ▸ hy
        have hfy := hfifo.running_front hy' (hno y hy' hxname)
        rw [hfr] at hfy
        cases hfy
        exact absurd rfl hne

end

/-- The scan runs when it is stopped: it is cancelled, and the stopScan gets through. -/
theorem stopScan_unhindered_running : ∃ (c : Config World Call Resp Fault) (w' : World)
    (q : List AsyncAction.Details) (b : AsyncAction.Details), @Reach .sample .any .init c ∧
      c.s.ble.isScanning = true ∧ w'.ble.asyncActions = q ++ [b] ∧ q ≠ [] ∧
      @Unhindered .sample q b.id ⟨w', c.stack, none⟩ := by
  let _ := Gattlib.sample
  obtain ⟨c, hc, hP⟩ := (system .any).reach_of_run_any
    [.enter (.api (.scan 0 none none none)), .answer (.adapter 3), .enter (.api .processAsync),
      .answer .void, .answer (.code 0)]
    (c := ⟨.init, [], none⟩)
    (P := fun c => c.fault.isNone && (c.s.ble.isScanning &&
      (c.s.ble.asyncActions.all fun a => a.state ≠ .pending) &&
      ((Op.stopScan none none).callNow c.s).any fun p => p.1 = .bool true &&
        p.2.ble.asyncActions.length == 2)) (by decide)
  simp only [Bool.and_eq_true, Option.isNone_iff_eq_none, List.all_eq_true, decide_eq_true_eq,
    Option.any_eq_true, beq_iff_eq, Prod.exists] at hP
  obtain ⟨hf, ⟨hs, hp⟩, r, w', hnow, rfl, hlen⟩ := hP
  obtain ⟨q, b, hq, -, -, -, hiff⟩ := stopScan_unhindered hc hf hs (Op.called_of_now hnow)
  refine ⟨c, w', q, b, hc, hs, hq, ?_, hiff.mpr fun a ha _ => hp a ha⟩
  rintro rfl
  rw [hq] at hlen
  cases hlen

/-- `startScan` and `stopScan` before the same tick: the next tick enables the scan, which
gattlib completes only once it is disabled, and the stopScan waits behind it. -/
theorem stopScan_unhindered_waiting : ∃ (c c' : Config World Call Resp Fault) (w' : World)
    (q : List AsyncAction.Details) (b : AsyncAction.Details), @Reach .sample .any .init c ∧
      c.fault = none ∧ c.s.ble.isScanning = true ∧
      @Op.Called .sample (.stopScan none none) c.s (.bool true) w' ∧
      w'.ble.asyncActions = q ++ [b] ∧
      (@system .sample .any).Reach ⟨w', c.stack, none⟩ c' ∧
      (∃ s o secs, c'.s.log.getLast? = some (.call (.scanEnable s o secs))) ∧
      b.id ∉ triggeredIds c'.s.log ∧ ¬ @Unhindered .sample q b.id ⟨w', c.stack, none⟩ := by
  let _ := Gattlib.sample
  obtain ⟨c, hc, hP⟩ := (system .any).reach_of_run_any
    [.enter (.api (.scan 0 none none none)), .answer (.adapter 3)] (c := ⟨.init, [], none⟩)
    (P := fun c => c.fault.isNone && (c.s.ble.isScanning &&
      ((Op.stopScan none none).callNow c.s).any fun p => p.1 = .bool true &&
        (p.2.ble.asyncActions.map fun a => (a.name, a.state, a.id)) ==
          [("scan", .pending, 0), ("stopScan", .pending, 1)] &&
        ((system .any).run ⟨p.2, c.stack, none⟩ [.enter (.api .processAsync), .answer .void]).any
          fun c' => c'.s.log.getLast? == some (.call (.scanEnable 0 true 0)) &&
            ! (triggeredIds c'.s.log).contains 1)) (by decide)
  simp only [Bool.and_eq_true, Option.isNone_iff_eq_none, decide_eq_true_eq, Option.any_eq_true,
    beq_iff_eq, Prod.exists, Bool.not_eq_true', List.contains_eq_mem, decide_eq_false_iff_not] at hP
  obtain ⟨hf, hs, r, w', hnow, ⟨rfl, hq⟩, c', hrun, hlast, ht⟩ := hP
  obtain ⟨a, b, hqueue⟩ : ∃ a b, w'.ble.asyncActions = [a, b] :=
    List.length_eq_two.mp (by simpa using congrArg List.length hq)
  rw [hqueue] at hq
  simp only [List.map_cons, List.map_nil, List.cons.injEq, Prod.mk.injEq, and_true] at hq
  obtain ⟨⟨hname, hstate, -⟩, -, -, hid⟩ := hq
  refine ⟨c, c', w', [a], b, hc, hf, hs, Op.called_of_now hnow, hqueue, (system .any).reach_of_run hrun,
    ⟨0, true, 0, hlast⟩, by rw [hid]; exact ht, fun hun => ?_⟩
  have hdone := hun.1 a (by simp) hname
  rw [hstate] at hdone
  cases hdone

end Gattlibpp
