import Gattlibpp.Act.Fits

/-!
# What acts write

Control comes back to the library with a move or with the answer to a call, which is the
first thing the library notes. So an act writes such an entry as its first one or not at
all, and where it does the environment has chosen to come back.
-/

namespace Gattlibpp

open Open

/-- Control comes back to the library. -/
@[simp] def Obs.starts : Obs → Bool
  | enter _ | ret .. => true
  | _ => false

/-- Entries that acts write on the terms `T`: none about requests and returns, and about an
exception only where a report has thrown. -/
def Obs.ByAct (T : Terms) (w : World) : Obs → Prop
  | raised _ => w.Threw
  | call e => e.notifies = true → T.notifies
  | exit .. | queued _ | cancelled _ => False
  | _ => True

/-- The environment has come back at `w` with the entry. -/
def Policy.Comes (P : Policy) (w : World) : Obs → Prop
  | .enter m => P.enter w m
  | .ret e r => P.ans w e r
  | _ => False

/-- What is written from `w` to `w'`. -/
structure World.Wrote (T : Terms) (P : Policy) (w w' : World) (l : List Obs) : Prop where
  log : w'.log = w.log ++ l
  act : ∀ o ∈ l, o.ByAct T w
  first : ∀ o ∈ l.head?, o.starts = true → P.Comes w o
  rest : ∀ o ∈ l.tail, o.starts = false

namespace World.Wrote

variable {T : Terms} {P : Policy} {w w' w'' : World} {l l' : List Obs} {o : Obs}

theorem nothing (h : w'.log = w.log) : World.Wrote T P w w' [] :=
  ⟨by rw [h, List.append_nil], by simp, by simp, by simp⟩

theorem one (h : w'.log = w.log ++ [o]) (ho : o.ByAct T w) (hs : o.starts = true → P.Comes w o) :
    World.Wrote T P w w' [o] :=
  ⟨h, by simpa using ho, by simpa using hs, by simp⟩

/-- More is written, but control does not come back. -/
theorem more (h : World.Wrote T P w w' l) (hl : w''.log = w'.log ++ l')
    (ho : ∀ o ∈ l', o.ByAct T w ∧ o.starts = false) : World.Wrote T P w w'' (l ++ l') where
  log := by rw [hl, h.log, List.append_assoc]
  act o hm := (List.mem_append.mp hm).elim (h.act o) fun hm => (ho o hm).1
  first o hm hs := by
    cases l with
    | nil =>
      have hf := (ho o (List.mem_of_mem_head? hm)).2
      rw [hs] at hf
      cases hf
    | cons x l => exact h.first o hm hs
  rest o hm := by
    cases l with
    | nil => exact (ho o (List.mem_of_mem_tail hm)).2
    | cons x l =>
      rcases List.mem_append.mp (show o ∈ l ++ l' from hm) with hm | hm
      · exact h.rest o hm
      · exact (ho o hm).2

/-- Calls are made. -/
theorem calls (h : World.Wrote T P w w' l) (hl : w''.log = w'.log ++ l')
    (hc : ∀ o ∈ l', ∃ e, o = .call e ∧ e.notifies = false) : World.Wrote T P w w'' (l ++ l') :=
  h.more hl fun o ho => by
    obtain ⟨e, rfl, he⟩ := hc o ho
    exact ⟨fun hn => absurd (he.symm.trans hn) Bool.false_ne_true, rfl⟩

end World.Wrote

/-! ## Calls out -/

section
variable (w : World)

theorem World.invoke_calls (cb : Callback) (arg : Arg) (role : Role) :
    ∃ l, (w.invoke cb arg role).log = w.log ++ l ∧ ∀ o ∈ l, ∃ e, o = .call e ∧ e.notifies = false := by
  unfold invoke
  split
  · exact ⟨_, rfl, by simp [Call.notifies]⟩
  · exact ⟨[], (List.append_nil _).symm, by simp⟩

theorem World.finish_calls (how : Outcome) (t : ActionId) :
    ∃ l, (w.finish how t).log = w.log ++ l ∧ ∀ o ∈ l, ∃ e, o = .call e ∧ e.notifies = false :=
  (w.complete t).invoke_calls ..

theorem World.finishFront_calls (how : Outcome) :
    ∃ l, (w.finishFront how).log = w.log ++ l ∧ ∀ o ∈ l, ∃ e, o = .call e ∧ e.notifies = false := by
  unfold finishFront
  split
  · exact ⟨[], (List.append_nil _).symm, by simp⟩
  · exact w.finish_calls ..

theorem QueuedOp.apply_calls (op : QueuedOp) :
    ∃ l, (op.apply w).log = w.log ++ l ∧ ∀ o ∈ l, ∃ e, o = .call e ∧ e.notifies = false := by
  cases op with
  | callback | readData | notification => exact w.invoke_calls ..
  | autoDiscoverServicesStep | autoDiscoverCharacteristicsStep => exact ⟨_, rfl, by simp [Call.notifies]⟩
  | reportConnected => exact w.finishFront_calls _

theorem Trigger.apply_calls (t : ActionId) (tr : Trigger) :
    ∃ l, (tr.apply w t).log = w.log ++ l ∧ ∀ o ∈ l, ∃ e, o = .call e ∧ e.notifies = false := by
  cases tr with
  | autodisconn => exact ⟨[], (List.append_nil _).symm, by simp⟩
  | stopScanDone => exact w.finish_calls _ _
  | read | write =>
    simp only [Trigger.apply]
    split
    · exact ⟨[], (List.append_nil _).symm, by simp⟩
    · exact ⟨_, rfl, by simp [Call.notifies]⟩
  | _ => exact ⟨_, rfl, by simp [Call.notifies]⟩

end

/-! ## Acts -/

section
variable [Gattlib] {T : Terms} {P : Policy} {w w' : World}

theorem Stretch.wrote (ha : Stretch T P w w') : ∃ l, World.Wrote T P w w' l := by
  have hnote {o : Obs} {w1 : World} (hlog : w1.log = w.log ++ [o]) (ho : o.ByAct T w)
      (hs : o.starts = true → P.Comes w o) : World.Wrote T P w w1 [o] := .one hlog ho hs
  have hpush {w1 : World} {l : List Obs} (h : World.Wrote T P w w1 l) (op : QueuedOp) :
      ∃ l, World.Wrote T P w (w1.report op) l :=
    ⟨l ++ [.pushed op], h.more rfl (by simp [Obs.ByAct])⟩
  cases ha with
  | enter m hm => exact ⟨_, hnote rfl trivial fun _ => hm⟩
  | event of ev how hm =>
    obtain ⟨l, hlog, hl⟩ := (ev.apply (w.note (.enter (.event of ev)))).finishFront_calls how
    have hev : World.Wrote T P w (ev.apply (w.note (.enter (.event of ev)))) [.enter (.event of ev)] :=
      hnote (by cases ev <;> rfl) trivial fun _ => hm
    exact ⟨_, hev.calls hlog hl⟩
  | eventDiscovered of addr name hm =>
    obtain ⟨l, hlog, hl⟩ := ((w.note (.enter (.event of (.deviceDiscovered addr name)))).named
      (addr.getD "") (name.getD "")).invoke_calls w.ble.devDiscoveredCb
        (.device (addr.getD "") (name.getD "")) .discovered
    have hev : World.Wrote T P w ((w.note (.enter (.event of (.deviceDiscovered addr name)))).named
        (addr.getD "") (name.getD "")) [_] := hnote rfl trivial fun _ => hm
    exact ⟨_, hev.calls hlog hl⟩
  | eventAuto of c hm =>
    exact hpush (l := [.enter (.event of (.connected (some c)))]) (hnote rfl trivial fun _ => hm) _
  | eventRead of buf a hm =>
    have hn : World.Wrote T P w (w.note (.enter (.event of (.readChar (some buf))))) [_] :=
      hnote rfl trivial fun _ => hm
    split
    · obtain ⟨l, hl⟩ := hpush hn (.readData a.callbacks.datareceived buf a.id)
      exact ⟨l, hl.log, hl.act, hl.first, hl.rest⟩
    · exact ⟨_, hn.log, hn.act, hn.first, hn.rest⟩
  | eventReadNone of buf hm => exact ⟨_, hnote rfl trivial fun _ => hm⟩
  | raised m hthrew => exact ⟨_, hnote rfl hthrew (by simp)⟩
  | freed t => exact ⟨_, hnote rfl trivial (by simp)⟩
  | call e he hn => exact ⟨_, hnote rfl hn (by simp)⟩
  | tick => exact ⟨_, hnote rfl (by simp [Obs.ByAct, Call.notifies]) (by simp)⟩
  | back e r cs _ hans => exact ⟨_, hnote rfl trivial fun _ => hans⟩
  | refused e r cs t a _ hans =>
    obtain ⟨l, hlog, hl⟩ := (e.refusedApply (w.back e r)).finish_calls .failure t
    have hb : World.Wrote T P w (e.refusedApply (w.back e r)) [.ret e r] :=
      hnote (by cases e <;> rfl) trivial fun _ => hans
    exact ⟨_, hb.calls hlog hl⟩
  | takeReports r cs _ hans => exact ⟨_, hnote rfl trivial fun _ => hans⟩
  | ran op rest ts =>
    obtain ⟨l, hlog, hl⟩ := op.apply_calls ({ w with ticks := rest :: ts }.note (.ran op))
    have hn : World.Wrote T P w ({ w with ticks := rest :: ts }.note (.ran op)) [.ran op] :=
      hnote rfl trivial (by simp)
    exact ⟨_, hn.calls hlog hl⟩
  | trigger ts a =>
    obtain ⟨l, hlog, hl⟩ := a.trigger.apply_calls ({ w with ticks := ts }.start a.id) a.id
    have hn : World.Wrote T P w ({ w with ticks := ts }.start a.id) [.triggered a.id] :=
      hnote rfl trivial (by simp)
    exact ⟨_, hn.calls hlog hl⟩
  | pop ts a => exact ⟨_, hnote rfl trivial (by simp)⟩
  | services dev c r cs _ hans =>
    have hb : World.Wrote T P w ((w.back (.discoverPrimary dev c) r).servicesStep dev r)
        [.ret (.discoverPrimary dev c) r] := by
      obtain ⟨devices, heq⟩ := (w.back (.discoverPrimary dev c) r).servicesStep_eq dev r
      rw [heq]
      exact hnote rfl trivial fun _ => hans
    exact hpush hb _
  | chars dev c r cs _ hans =>
    have hb : World.Wrote T P w ((w.back (.discoverChar dev c) r).charsStep dev r)
        [.ret (.discoverChar dev c) r] := by
      obtain ⟨devices, heq⟩ := (w.back (.discoverChar dev c) r).charsStep_eq dev r
      rw [heq]
      exact hnote rfl trivial fun _ => hans
    exact hpush hb _
  | report | notify => exact hpush (.nothing rfl) _
  | adapterOpened name r cs _ hans | adapterClosed a r cs _ hans =>
    exact ⟨_, hnote rfl trivial fun _ => hans⟩
  | endTick | wait | setAutoDiscover | setConnectionParameters | deviceName | lock | unlock =>
    exact ⟨_, .nothing rfl⟩
  | inert _ hi => exact ⟨_, .nothing hi.log⟩

end

end Gattlibpp
