import Gattlibpp.Act.Landing
import Gattlibpp.Discovery.Lookup
import Gattlibpp.Leave.Due
import Gattlibpp.Queue.Answers

/-!
# Answered actions leave the queue

The callback that answers the front action completes it, or starts the chain of steps that
does, and three ticks later the action has been popped: if the callback is not one that the
library drops (a read without data), finds the record of its connection, and may call what
the action gave it to call.
-/

namespace Gattlibpp

open Open

/-! ## The environment -/

/-- `t` is answered by a callback of its own gattlib call, which was not turned down, while
it is the front and Triggered. After that gattlib delivers no other completion. -/
def answeredFront (t : ActionId) : Policy where
  enter w m :=
    match m with
    | .api _ => True
    | .event of ev =>
      if t ∈ answeredIds w.log then ev.unsolicited = true
      else of = some t → unanswered w.log t = true ∧ (callFor w.log t).any ev.answers = true ∧
        (w.front.any fun a => a.id = t ∧ a.state = .triggered) = true
  ans _ _ _ := True

/-- The callback completes the front: a read comes with data, a connection finds a record, and
the callback of the action may be called. -/
def Event.heard (w : World) (ev : Event) : Bool :=
  (match ev with
    | .readChar buf => buf.any (· ≠ [])
    | .connected _ => (w.ble.devices[w.ble.connectedTo]?).isSome
    | _ => true) &&
  (ev.outcome w.ble).all fun how => w.front.all fun a => w.outlives (how.callback a.callbacks)

/-- The answer to `t` is heard. -/
def heard (t : ActionId) : Policy where
  enter w m :=
    match m with
    | .event (some s) ev => s = t → t ∉ answeredIds w.log → ev.heard w = true
    | _ => True
  ans _ _ _ := True

instance (t : ActionId) (w : World) (m : Move) : Decidable ((answeredFront t).enter w m) :=
  match m with
  | .api _ => isTrue trivial
  | .event of ev => inferInstanceAs (Decidable (if t ∈ answeredIds w.log then ev.unsolicited = true
      else of = some t → unanswered w.log t = true ∧ (callFor w.log t).any ev.answers = true ∧
        (w.front.any fun a => a.id = t ∧ a.state = .triggered) = true))

instance (t : ActionId) (w : World) (e : Call) (r : Resp) : Decidable ((answeredFront t).ans w e r) :=
  isTrue trivial

abbrev answeredHeard (t : ActionId) : Policy := (answeredFront t).and (heard t)

/-- What `answeredFront` says of the answer to `t`. -/
structure Answers (t : ActionId) (w : World) (ev : Event) : Prop where
  unanswered : unanswered w.log t = true
  call : (callFor w.log t).any ev.answers = true
  front : ∃ a, w.front = some a ∧ a.id = t ∧ a.state = .triggered

theorem answers_of_enter {t : ActionId} {w : World} {ev : Event}
    (h : (answeredFront t).enter w (.event (some t) ev)) (ht : t ∉ answeredIds w.log) :
    Answers t w ev := by
  simp only [answeredFront, if_neg ht, true_implies, Option.any_eq_true, decide_eq_true_eq] at h
  obtain ⟨hu, ⟨e, he, hev⟩, a, ha, hid, hs⟩ := h
  exact ⟨hu, by rw [he]; exact hev, a, ha, hid, hs⟩

theorem Answers.not_unsolicited {t : ActionId} {w : World} {ev : Event} (h : Answers t w ev) :
    ev.unsolicited = false := by
  obtain ⟨e, -, he⟩ := Option.any_eq_true _ _ |>.mp h.call
  cases ev <;> first | rfl | cases he

/-! ## The invariant -/

/-- Where `t` has been answered it is due. -/
def World.Answered (t : ActionId) (w : World) : Prop :=
  t ∈ answeredIds w.log → ThrownSince t w.log ∨ w.Due t 3

/-- What an act leaves of it. -/
structure DueKept (t : ActionId) (w w' : World) : Prop where
  log : w.log <+: w'.log
  due : t ∈ answeredIds w.log → ThrownSince t w'.log ∨ ∀ n, w.Due t n → w'.Due t n

namespace DueKept

variable {t : ActionId} {w w' w'' : World}

theorem refl (w : World) : DueKept t w w := ⟨List.prefix_rfl, fun _ => .inr fun _ => id⟩

theorem trans (h : DueKept t w w') (h' : DueKept t w' w'') : DueKept t w w'' where
  log := h.log.trans h'.log
  due ht := by
    rcases h.due ht, h'.due (marks_mono h.log ht) with ⟨hx | hd, hx' | hd'⟩
    · exact .inl hx'
    · exact .inl (hx.mono h'.log)
    · exact .inl hx'
    · exact .inr fun n hn => hd' n (hd n hn)

/-- An action that was answered before stays due. -/
theorem answered (h : DueKept t w w') (hw : w.Answered t) (ht : t ∈ answeredIds w.log) :
    w'.Answered t := fun _ => by
  rcases hw ht, h.due ht with ⟨hx | hd, hx' | hd'⟩
  · exact .inl hx'
  · exact .inl (hx.mono h.log)
  · exact .inl hx'
  · exact .inr (hd' 3 hd)

end DueKept

/-! ## The answer -/

section
variable {t : ActionId} {w w' : World}

/-- A front that is Triggered when its answer completes it is due at once. -/
theorem due_of_finishFront {ev : Event} {w1 : World} (h : Answers t w ev)
    (hq : w1.ble.asyncActions = w.ble.asyncActions) (how : Outcome) (n : Nat) :
    (w1.finishFront how).Due t n := by
  obtain ⟨a, ha, rfl, -⟩ := h.front
  have hf : w1.front = some a := by rw [World.front, hq]; exact ha
  rw [World.finishFront, hf]
  exact .of_finish hf how n

/-- The act that answers `t` makes it due. -/
theorem due_of_answer [Gattlib] (ha : Act (answeredHeard t) w w') (hno : t ∉ answeredIds w.log)
    (hyes : t ∈ answeredIds w'.log) : w'.Due t 3 := by
  have hanswers {of : Option ActionId} {ev : Event} (hm : (answeredHeard t).enter w (.event of ev))
      (hof : of = some t) : Answers t w ev := by
    subst hof
    exact answers_of_enter hm.1 hno
  cases ha with
  | event of ev how hm =>
    have hof : of = some t := by cases ev <;> simpa [Event.apply, hno] using hyes
    exact due_of_finishFront (hanswers hm hof) (by cases ev <;> rfl) how 3
  | eventAuto of c hm =>
    have hof : of = some t := by simpa [Event.apply, hno] using hyes
    obtain ⟨a, ha, rfl, hs⟩ := (hanswers hm hof).front
    refine .inr ⟨a, ha, rfl, .inr ⟨hs, .inl ⟨_, List.mem_append_right _ List.mem_cons_self, 2, rfl,
      by omega⟩⟩⟩
  | eventRead of buf a hm hb hf =>
    have hof : of = some t := by
      split at hyes <;> simpa [hno] using hyes
    obtain ⟨b, hb, rfl, hs⟩ := (hanswers hm hof).front
    cases hf.symm.trans hb
    refine .inr ⟨{ a with state := .completed }, ?_, rfl, .inl rfl⟩
    rw [World.complete, World.front_updateAction]
    split
    all_goals
      simp only [World.front, World.report, World.note_ble, World.updateBle_ble] at hf ⊢
      rw [hf, Option.map_some, if_pos rfl]
  | eventReadNone of buf hm hf =>
    have hof : of = some t := by simpa [hno] using hyes
    obtain ⟨a, ha, -⟩ := (hanswers hm hof).front
    rw [hf] at ha
    cases ha
  | enter m hm hi =>
    cases m with
    | api => simp [hno] at hyes
    | event of ev =>
      have hof : of = some t := by simpa [hno] using hyes
      have hans := hanswers hm hof
      have hheard : ev.heard w = true := by
        subst hof
        exact hm.2 rfl hno
      -- what only enters is unsolicited, or a read without data
      cases ev with
      | notification => exact absurd hans.not_unsolicited (by simp [Event.unsolicited])
      | readChar buf =>
        cases buf with
        | none => simp [Event.heard] at hheard
        | some bs =>
          cases bs with
          | nil => simp [Event.heard] at hheard
          | cons => exact hi.elim
      | _ => exact hi.elim
  | eventDiscovered of addr name hm =>
    have hof : of = some t := by simpa [World.discovered, World.named, hno] using hyes
    exact absurd (hanswers hm hof).not_unsolicited (by simp [Event.unsolicited])
  | refused e => cases e <;> simp [Call.refusedApply, hno] at hyes
  | services dev c r =>
    obtain ⟨devices, heq⟩ := (w.back (.discoverPrimary dev c) r).servicesStep_eq dev r
    rw [heq] at hyes
    simp [hno] at hyes
  | chars dev c r =>
    obtain ⟨devices, heq⟩ := (w.back (.discoverChar dev c) r).charsStep_eq dev r
    rw [heq] at hyes
    simp [hno] at hyes
  | inert _ hi => exact absurd (hi.log ▸ hyes) hno
  | _ => simp [hno] at hyes

end

section
variable [Gattlib] (t : ActionId)

def answeredClaim : Claim (answeredHeard t) where
  inv w := w.Answered t
  extra := DueKept t
  crash _ _ := True
  refl := .refl
  trans _ _ _ h h' := h.trans h'
  unlocked h := ⟨h.log, h.due⟩
  act {w w'} h ha := by
    have hk : DueKept t w w' := ⟨ha.log_grows, fun ht => .inr fun n hd => hd.act (fun of ev hm => by
      simpa only [answeredFront, if_pos ht] using hm.1) ha⟩
    refine ⟨?_, hk⟩
    by_cases ht : t ∈ answeredIds w.log
    · exact hk.answered h ht
    · exact fun ht' => .inr (due_of_answer ha ht ht')
  exit {w m r} h _ := by
    have hk : DueKept t w (w.note (.exit m r)) :=
      ⟨List.prefix_append .., fun _ => .inr fun n hd => hd.note _⟩
    exact ⟨fun ht => hk.answered h (by simpa using ht) ht, hk⟩
  drop {w op q ts} _ h hts hl hop := by
    have hk : DueKept t w { w with ticks := ts } :=
      ⟨List.prefix_rfl, fun ht => .inl (thrownSince_of_last ht hl hop)⟩
    exact ⟨fun ht => hk.answered h ht ht, hk⟩
  request {op w w'} h _ hr := by
    have hlog : w.log <+: w'.log ∧ answeredIds w'.log = answeredIds w.log := by
      cases hr <;> simp
    have hk : DueKept t w w' := ⟨hlog.1, fun _ => .inr fun n hd => hd.request hr⟩
    exact ⟨fun ht => hk.answered h (hlog.2 ▸ ht) ht, hk⟩
  freed _ _ _ _ _ _ := trivial
  missing _ _ _ _ _ _ _ _ := trivial
  other _ _ := trivial

theorem answeredClaim_notifies : (answeredClaim t).Notifies :=
  .of_subs (fun {w w'} h hs => by
    obtain ⟨dev, f, -⟩ := hs
    have hk : DueKept t w (w.updateDevice dev f) :=
      ⟨List.prefix_rfl, fun _ => .inr fun _ hd => hd.same List.prefix_rfl rfl id⟩
    exact ⟨fun ht => hk.answered h ht ht, hk⟩) fun _ _ _ => trivial

theorem answeredClaim_fits : (answeredClaim t).rules.Fits (system (answeredHeard t)) :=
  Claim.fits (answeredClaim_notifies t) trivial

end

/-! ## Ticks -/

section
variable [Gattlib] {t : ActionId} {n : Nat} {w w' : World}

/-- The user ticks `n` times from `w` to `w'`, and every tick returns. In between the run goes
on in any way. -/
inductive Ticked (P : Policy) : Nat → World → World → Prop where
  | zero (w : World) : Ticked P 0 w w
  | succ {n : Nat} {w w1 w2 w' : World} : Reach P w ⟨w1, [], none⟩ →
      P.enter w1 (.api .processAsync) →
      (system P).Exec ((Move.api .processAsync).prog w1) (some ()) w2 → Ticked P n w2 w' →
      Ticked P (n + 1) w w'

/-- Ticks in which the calls are answered in turn, and nothing is entered. -/
def playTicks (P : Policy) [∀ w m, Decidable (P.enter w m)] [∀ w e r, Decidable (P.ans w e r)] :
    List (List Resp) → World → Option World
  | [], w => some w
  | rs :: rest, w =>
    if P.enter w (.api .processAsync) then
      ((system P).play ((Move.api .processAsync).prog w) rs).bind (playTicks P rest)
    else none

theorem ticked_of_playTicks {P : Policy} [∀ w m, Decidable (P.enter w m)]
    [∀ w e r, Decidable (P.ans w e r)] {rss : List (List Resp)}
    (h : playTicks P rss w = some w') : Ticked P rss.length w w' := by
  induction rss generalizing w with
  | nil => cases h; exact .zero _
  | cons rs rest ih =>
    simp only [playTicks, Option.ite_none_right_eq_some] at h
    obtain ⟨hm, h⟩ := h
    obtain ⟨w2, hw2, h2⟩ := Option.bind_eq_some_iff.mp h
    obtain ⟨_, he⟩ := System.exec_of_play hw2
    exact .succ .refl hm he (ih h2)

/-- **Step lemma**: a tick brings what is due one tick nearer, or pops it. -/
theorem due_turn {w1 w2 : World} {r : Resp} (hT : (answeredClaim t).Turn w w1 r w2 w')
    (hc : w.calls = []) (hts : w.ticks = []) (ht : t ∈ answeredIds w.log) (hd : w.Due t (n + 1)) :
    ThrownSince t w'.log ∨ t ∈ poppedIds w'.log ∨ 0 < n ∧ w'.Due t n := by
  have h1 : DueKept t (w.push .asyncProcessAll) w1 := hT.polled.rel.extra
  have h2 : DueKept t (w1.takeReports r) w2 := hT.ran
  have h3 : DueKept t w2 w' := hT.ended
  have ht0 : t ∈ answeredIds (w.push .asyncProcessAll).log := marks_mono (List.prefix_append ..) ht
  have ht1 : t ∈ answeredIds w1.log := marks_mono h1.log ht0
  have ht2 : t ∈ answeredIds w2.log := marks_mono h2.log (marks_mono (List.prefix_append ..) ht1)
  have hlog : w1.log <+: w'.log := ((List.prefix_append ..).trans h2.log).trans h3.log
  rcases h1.due ht0 with hx | hdue1
  · exact .inl (hx.mono hlog)
  rcases h2.due (marks_mono (List.prefix_append ..) ht1) with hx | hdue2
  · exact .inl (hx.mono h3.log)
  rcases h3.due ht2 with hx | hdue3
  · exact .inl hx
  have hcalls : w1.calls = [.asyncProcessAll] := by
    rw [hT.polled.rel.kept.calls, World.push_calls, hc]
  have hticks : w1.ticks = [] := by rw [hT.polled.rel.kept.ticks, World.push_ticks, hts]
  have hd1 : w1.Due t (n + 1) := hdue1 _ (hd.push _)
  have hd2 : w2.Due t n := by
    refine hdue2 _ (hd1.takeReports hticks (fun e he => ?_) r)
    rw [hcalls] at he
    cases List.mem_singleton.mp he
    rfl
  refine .inr ?_
  rcases hd2 with hpop | ⟨a, ha, hid, hs⟩
  · exact .inl (marks_mono h3.log hpop)
  rcases hs with hdone | ⟨hrun, hch⟩
  · -- the tick pops it
    obtain ⟨rest, hq⟩ := List.head?_eq_some_iff.mp ha
    exact .inl (List.mem_filterMap.mpr ⟨.popped a, hT.pops a rest hq hdone, by rw [← hid]; rfl⟩)
  · refine .inr ⟨?_, hdue3 n (.inr ⟨a, ha, hid, .inr ⟨hrun, hch⟩⟩)⟩
    rcases hch with ⟨op, -, k, -, hle⟩ | ⟨op, hop, -⟩ | ⟨e, he, -⟩
    · omega
    · rw [hT.ticks, hts] at hop
      simp at hop
    · rw [hT.calls, hc] at he
      cases he

/-- **Run lemma**: what is due within `n` ticks is popped by them. -/
theorem due_ticked (h : Ticked (answeredHeard t) n w w') (hw : w.Answered t)
    (hc : w.calls = []) (hts : w.ticks = []) (ht : t ∈ answeredIds w.log)
    (hd : ThrownSince t w.log ∨ t ∈ poppedIds w.log ∨ 0 < n ∧ w.Due t n) :
    ThrownSince t w'.log ∨ t ∈ poppedIds w'.log := by
  induction h with
  | zero =>
    rcases hd with hx | hp | ⟨hn, -⟩
    · exact .inl hx
    · exact .inr hp
    · omega
  | @succ n w w1 w2 w' hr hm he hrest ih =>
    have hfits := answeredClaim_fits t
    have hbase := (hfits.base hw hr rfl rfl).1
    have h1 : w1.Answered t := hfits.inv hw hr rfl
    have hlog : w.log <+: w1.log := hbase.kept.log
    have ht1 : t ∈ answeredIds w1.log := marks_mono hlog ht
    have hd1 : ThrownSince t w1.log ∨ t ∈ poppedIds w1.log ∨ w1.Due t (n + 1) := by
      rcases hd with hx | hp | ⟨-, hd⟩
      · exact .inl (hx.mono hlog)
      · exact .inr (.inl (marks_mono hlog hp))
      · rcases hbase.extra.due ht with hx | hdue
        · exact .inl hx
        · exact .inr (.inr (hdue _ hd))
    let Q (_ : Unit) (w2 : World) : Prop := (answeredClaim t).At w1 w2 ∧
      (ThrownSince t w2.log ∨ t ∈ poppedIds w2.log ∨ 0 < n ∧ w2.Due t n)
    have hpost : Ends Q (fun _ => True) (some ()) w2 := he.post hfits (Claim.tick_safe h1 hm fun v1 r v2 v3 hT hat => by
      refine ⟨hat, ?_⟩
      have hnote : v3.log <+: (v3.note (.exit (.api .processAsync) .void)).log :=
        List.prefix_append ..
      rcases hd1 with hx | hp | hd1
      · exact .inl (hx.mono hat.rel.kept.log)
      · exact .inr (.inl (marks_mono hat.rel.kept.log hp))
      · have hturn := due_turn hT (hbase.kept.calls.trans hc) (hbase.kept.ticks.trans hts)
          (marks_mono (List.prefix_append ..) ht1) (hd1.note _)
        exact hturn.imp (·.mono hnote) (Or.imp (marks_mono hnote) (And.imp_right (·.note _))))
    replace hpost : Q () w2 := hpost
    have hkept := hpost.1.rel.kept
    exact ih hpost.1.inv (hkept.calls.trans (hbase.kept.calls.trans hc))
      (hkept.ticks.trans (hbase.kept.ticks.trans hts)) (marks_mono hkept.log ht1) hpost.2

/-! ## The result -/

/-- Where the callback `ev` for `t` leaves the library `t` is Completed, or is a connect whose
chain of steps has been put in the report queue. -/
structure Completes (t : ActionId) (w : World) (ev : Event) (o : Out World Call Resp Fault Unit) :
    Prop where
  fault : o.fault = none
  front : ∃ a, o.state.front = some a ∧ a.id = t ∧
    (a.state = .completed ∨ a.state = .triggered ∧ (∃ c, ev = .connected (some c)) ∧
      w.ble.autoDiscover = true ∧
      .autoDiscoverServicesStep w.ble.connectedTo ∈ o.state.ble.reportQueue)

theorem completes_of_answer {ev : Event}
    (hm : (answeredHeard t).enter w (.event (some t) ev)) (ht : t ∉ answeredIds w.log) :
    Completes t w ev ((Move.event (some t) ev).prog w) := by
  have hans := answers_of_enter hm.1 ht
  have hheard : ev.heard w = true := hm.2 rfl ht
  simp only [Event.heard, Bool.and_eq_true] at hheard
  obtain ⟨hdata, hcb⟩ := hheard
  obtain ⟨a, hf, hid, hs⟩ := hans.front
  have hcan {how : Outcome} (ho : ev.outcome w.ble = some how) :
      (w.note (.enter (.event (some t) ev))).CanFinish (fun _ => False) how := by
    intro b hb hout
    simp only [ho, Option.all_some, show w.front = some b from hb] at hcb
    rw [show w.outlives _ = false from hout] at hcb
    cases hcb
  have hland {b : BLECentral} {x : AsyncAction.Details} (hx : b.asyncActions.head? = some x)
      (hxid : x.id = t) (hxs : x.state = .completed ∨ x.state = .triggered ∧
        (∃ c, ev = .connected (some c)) ∧ w.ble.autoDiscover = true ∧
        .autoDiscoverServicesStep w.ble.connectedTo ∈ b.reportQueue)
      (h : Lands (fun _ => False) b (ev.handle (w.note (.enter (.event (some t) ev))))) :
      Completes t w ev ((Move.event (some t) ev).prog w) := by
    have hp := prog_lands (some t) ev h
    refine ⟨?_, x, ?_, hxid, ?_⟩
    · cases hfault : ((Move.event (some t) ev).prog w).fault with
      | none => rfl
      | some why => exact (hp.fault why hfault).elim
    · rw [World.front, hp.state]
      exact hx
    · rw [hp.state]
      exact hxs
  have hfront {w1 : World} (how : Outcome) (hq : w1.ble.asyncActions = w.ble.asyncActions) :
      (w1.finishFront how).front = some { a with state := .completed } := by
    have hf1 : w1.front = some a := by rw [World.front, hq]; exact hf
    exact w1.front_finishFront hf1 how
  cases ho : ev.outcome w.ble with
  | some how =>
    refine hland (hfront how ?_) hid (.inl rfl) (handle_lands ho ?_ (hcan ho))
    · cases ev <;> rfl
    · rintro c rfl
      exact hdata
  | none =>
    cases ev with
    | connected c =>
      cases c with
      | none => cases ho
      | some c =>
        have hauto : w.ble.autoDiscover = true := by
          simpa [Event.outcome] using ho
        have hnone (how : Outcome) : how ∉ (Event.connected (some c)).outcome w.ble := by
          rw [ho]
          simp
        have h := deviceConnected_lands (R := fun _ => False)
          (w := w.note (.enter (.event (some t) (.connected (some c))))) (some c) hdata
          fun how hh => absurd hh (hnone how)
        rw [World.note_ble, ho] at h
        refine hland ?_ hid ?_ h
        · exact hf
        · exact .inr ⟨hs, ⟨c, rfl⟩, hauto, List.mem_append_right _ List.mem_cons_self⟩
    | readChar buf =>
      obtain ⟨buf, rfl, hne⟩ := Option.any_eq_true _ _ |>.mp hdata
      cases buf with
      | nil => simp at hne
      | cons x xs =>
        refine hland (x := { a with state := .completed }) ?_ hid (.inl rfl)
          (readDataReceived_lands hf)
        have hq : ∀ w1 : World, w1.ble.asyncActions = w.ble.asyncActions →
            (w1.complete a.id).ble.asyncActions.head? = some { a with state := .completed } := by
          intro w1 hq
          have hf1 : w1.front = some a := by rw [World.front, hq]; exact hf
          rw [← World.front, World.complete, World.front_updateAction, hf1, Option.map_some,
            if_pos rfl]
        split
        · exact hq _ rfl
        · exact hq _ rfl
    | deviceDiscovered | notification =>
      exact absurd hans.not_unsolicited (by simp [Event.unsolicited])
    | _ => cases ho

/-- **An answered action leaves the queue.** The answer completes `t`, at once or with the
steps that it starts, and after three ticks that return `t` has been popped. -/
theorem answered_leaves {c : Config World Call Resp Fault}
    (h : Reach (answeredHeard t) .init c) (hf : c.fault = none) :
    (∀ ev, t ∉ answeredIds c.s.log → (answeredHeard t).enter c.s (.event (some t) ev) →
      Completes t c.s ev ((Move.event (some t) ev).prog c.s)) ∧
    (t ∈ answeredIds c.s.log → ThrownSince t c.s.log ∨ c.s.Due t 3) ∧
    (t ∈ answeredIds c.s.log → c.stack = [] → ∀ w', Ticked (answeredHeard t) 3 c.s w' →
      ¬ ThrownSince t w'.log → t ∈ poppedIds w'.log) := by
  have h0 : World.init.Answered t := fun ht => by cases ht
  have hinv : c.s.Answered t := (answeredClaim_fits t).inv h0 h hf
  refine ⟨fun ev ht hm => completes_of_answer hm ht, hinv, fun ht hst w' hticks hno => ?_⟩
  have hbase := ((answeredClaim_fits t).base h0 h hf hst).1.kept
  have hd : ThrownSince t c.s.log ∨ t ∈ poppedIds c.s.log ∨ 0 < 3 ∧ c.s.Due t 3 :=
    (hinv ht).imp_right fun hd => .inr ⟨by omega, hd⟩
  exact (due_ticked hticks hinv hbase.calls hbase.ticks ht hd).resolve_left hno

end

instance (t : ActionId) (w : World) (m : Move) : Decidable ((heard t).enter w m) :=
  match m with
  | .event (some s) ev =>
    inferInstanceAs (Decidable (s = t → t ∉ answeredIds w.log → ev.heard w = true))
  | .api _ => isTrue trivial
  | .event none _ => isTrue trivial

instance (t : ActionId) (w : World) (e : Call) (r : Resp) : Decidable ((heard t).ans w e r) :=
  isTrue trivial

/-- A read on `"A"` up to its answer, which carries `buf`. -/
def readAnswered (buf : BinaryBuffer) : List (System.Choice Move Resp) :=
  discoverA ++ [.enter (.api (.read "A" "2a19" none none)), .enter (.api .processAsync),
    .answer .void, .answer (.code 0), .enter (.api .processAsync),
    .enter (.event (some 1) (.readChar (some buf))), .answer .void]

/-- A read answered with one byte leaves the queue. -/
theorem answered_leaves_read :
    ∃ c : Config World Call Resp Fault, @Reach .sample (answeredHeard 1) .init c ∧ c.stack = [] ∧
      1 ∈ answeredIds c.s.log ∧ ∃ w', @Ticked .sample (answeredHeard 1) 3 c.s w' ∧
        1 ∈ poppedIds w'.log := by
  let _ := Gattlib.sample
  obtain ⟨c, hc, hP⟩ := (system (answeredHeard 1)).reach_of_run_any (readAnswered [7])
    (c := ⟨.init, [], none⟩)
    (P := fun c => c.fault.isNone && (c.stack.isEmpty && (decide (1 ∈ answeredIds c.s.log) &&
      (playTicks (answeredHeard 1) [[.void], [.void], [.void]] c.s).any fun w' =>
        (since 1 w'.log).all fun | .ran _ => false | _ => true)))
    (by decide)
  simp only [Bool.and_eq_true, Option.isNone_iff_eq_none, List.isEmpty_iff, decide_eq_true_eq,
    Option.any_eq_true] at hP
  obtain ⟨hf, hst, ht, w', hw', hno⟩ := hP
  have hticks : Ticked (answeredHeard 1) 3 c.s w' := ticked_of_playTicks hw'
  refine ⟨c, hc, hst, ht, w', hticks, (answered_leaves hc hf).2.2 ht hst w' hticks ?_⟩
  rintro ⟨op, hop, -⟩
  have hran := List.all_eq_true.mp hno _ hop
  cases hran

/-- A read answered with an empty value stays at the front. -/
theorem answered_leaves_empty :
    ∃ c : Config World Call Resp Fault, @Reach .sample ((answeredFront 1).and contract) .init c ∧
      c.fault = none ∧ c.stack = [] ∧ 1 ∈ answeredIds c.s.log ∧
      ∃ w', @Ticked .sample ((answeredFront 1).and contract) 3 c.s w' ∧ ¬ ThrownSince 1 w'.log ∧
        1 ∉ poppedIds w'.log := by
  let _ := Gattlib.sample
  obtain ⟨c, hc, hP⟩ := (system ((answeredFront 1).and contract)).reach_of_run_any
    (readAnswered []) (c := ⟨.init, [], none⟩)
    (P := fun c => c.fault.isNone && (c.stack.isEmpty && (decide (1 ∈ answeredIds c.s.log) &&
      (playTicks ((answeredFront 1).and contract) [[.void], [.void], [.void]] c.s).any fun w' =>
        ((since 1 w'.log).all fun | .ran _ => false | _ => true) &&
          decide (1 ∉ poppedIds w'.log))))
    (by decide)
  simp only [Bool.and_eq_true, Option.isNone_iff_eq_none, List.isEmpty_iff, decide_eq_true_eq,
    Option.any_eq_true] at hP
  obtain ⟨hf, hst, ht, w', hw', hno, hpop⟩ := hP
  refine ⟨c, hc, hf, hst, ht, w', ticked_of_playTicks hw', ?_, hpop⟩
  rintro ⟨op, hop, -⟩
  have hran := List.all_eq_true.mp hno _ hop
  cases hran

end Gattlibpp
