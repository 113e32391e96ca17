import Gattlibpp.Act.Landing
import Gattlibpp.Act.Calls
import Gattlibpp.Queue.Later
import Gattlibpp.Report.Flow

/-!
# A scan that is completed before it runs

A tick runs its reports before it looks at the queue. Where the first report that does more
than print is the last step of a discovery, it completes the scan that waits at the front, and
gattlib is never called for it.
-/

namespace Gattlibpp

open Open

/-- A report that only prints. -/
def QueuedOp.prints : QueuedOp → Bool
  | .callback cb | .readData cb _ _ | .notification cb _ => cb = some .debugPrint
  | _ => false

/-- The first report of the queue that does more than print reports a connect. -/
def HearsConnect (q : List QueuedOp) : Prop := q.find? (! ·.prints) = some .reportConnected

instance (q : List QueuedOp) : Decidable (HearsConnect q) := inferInstanceAs (Decidable (_ = _))

theorem HearsConnect.append {q : List QueuedOp} (h : HearsConnect q) (ops : List QueuedOp) :
    HearsConnect (q ++ ops) := by
  unfold HearsConnect at *
  rw [List.find?_append, h]
  rfl

/-- The user only ticks. -/
def ticksOnly : Policy where
  enter _ m :=
    match m with
    | .api op => op = .processAsync
    | .event .. => True
  ans _ _ _ := True

/-- The user asks for nothing. -/
def unasked : Policy where
  enter _ m :=
    match m with
    | .api _ => False
    | .event .. => True
  ans _ _ _ := True

/-- Ticks, and gattlib keeping to its contract. -/
def ticking : Policy := contract.and ticksOnly

/-- gattlib keeping to its contract, and nothing asked for. -/
def listening : Policy := contract.and unasked

instance (w : World) (m : Move) : Decidable (ticksOnly.enter w m) :=
  match m with
  | .api op => inferInstanceAs (Decidable (op = .processAsync))
  | .event _ _ => isTrue trivial

instance (w : World) (m : Move) : Decidable (ticking.enter w m) :=
  inferInstanceAs (Decidable (contract.enter w m ∧ ticksOnly.enter w m))

instance (w : World) (e : Call) (r : Resp) : Decidable (ticking.ans w e r) :=
  inferInstanceAs (Decidable (contract.ans w e r ∧ True))

/-! ## The invariant -/

namespace World

/-- Only scans are queued, and none waits to run. -/
def Settled (w : World) : Prop :=
  ∀ a ∈ w.ble.asyncActions, (∃ s, a.trigger = .scan s) ∧ a.state ≠ .pending

/-- A scan is queued, and the next tick completes it. -/
structure Waits (w : World) : Prop where
  ticks : w.ticks = []
  hears : HearsConnect w.ble.reportQueue
  alone : ∃ a s, w.ble.asyncActions = [a] ∧ a.trigger = .scan s

/-- No asynchronous call is made from `w` to `w'`. -/
def CallsNothing (w w' : World) : Prop :=
  ∃ l, w'.log = w.log ++ l ∧ ∀ e, .call e ∈ l → e.action = none

variable {w w' w'' : World}

theorem CallsNothing.trans (h : w.CallsNothing w') (h' : w'.CallsNothing w'') :
    w.CallsNothing w'' := by
  obtain ⟨l, hl, hc⟩ := h
  obtain ⟨l', hl', hc'⟩ := h'
  refine ⟨l ++ l', by rw [hl', hl, List.append_assoc], fun e he => ?_⟩
  exact (List.mem_append.mp he).elim (hc e) (hc' e)

theorem CallsNothing.note (o : Obs) (ho : ∀ e, o = .call e → e.action = none) :
    w.CallsNothing (w.note o) :=
  ⟨[o], rfl, fun e he => ho e (List.mem_singleton.mp he).symm⟩

theorem Settled.later (h : w.Settled) (hl : w.Later w') : w'.Settled := by
  intro b hb
  obtain ⟨a, ha, hab⟩ := hl.mem hb
  exact ⟨hab.trigger ▸ (h a ha).1, fun hp => (h a ha).2 (hab.state.pending hp)⟩

end World

section
variable [Gattlib] {P : Policy} {w w' : World}

/-- Ticks are in progress after an act only if they were before, or one is asked for. -/
theorem Act.no_ticks (ha : Act P w w') (h : w.ticks = []) (hP : ∀ cs, ¬ P.Ticks cs w.ticks) :
    w'.ticks = [] := by
  have hfinish (w1 : World) (how : Outcome) (t : ActionId) (h1 : w1.ticks = []) :
      (w1.finish how t).ticks = [] := (World.finish_reports w1 how t).ticks.trans h1
  cases ha with
  | event of ev how =>
    have hev : (ev.apply (w.note (.enter (.event of ev)))).ticks = [] := by cases ev <;> exact h
    exact (World.finishFront_reports _ how).ticks.trans hev
  | eventRead => split <;> exact h
  | eventDiscovered => exact (World.invoke_reports ..).ticks.trans h
  | refused e r cs t =>
    refine hfinish _ _ _ ?_
    cases e <;> exact h
  | takeReports r cs hc hr hts => exact absurd hts (hP cs)
  | ran op rest ts hts | endTick ts hts | trigger ts a hts | pop ts a rest hts | wait ts a hts =>
    rw [h] at hts
    cases hts
  | services dev c r =>
    obtain ⟨devices, heq⟩ := (w.back (.discoverPrimary dev c) r).servicesStep_eq dev r
    rw [heq]
    exact h
  | chars dev c r =>
    obtain ⟨devices, heq⟩ := (w.back (.discoverChar dev c) r).charsStep_eq dev r
    rw [heq]
    exact h
  | inert _ hi => exact hi.ticks.trans h
  | _ => exact h

namespace World

theorem Settled.act (h : w.Settled) (hfifo : Fifo w) (ha : Act P w w') : w'.Settled := by
  rcases ha.later hfifo with hl | ⟨a, hq, -, -⟩
  · exact h.later hl
  · exact fun x hx => h x (by rw [hq]; exact List.mem_cons_of_mem _ hx)

/-- While no tick is asked for, the scan waits on, or it has been popped. -/
theorem Waits.act (h : w.Waits) (hfifo : Fifo w) (hP : ∀ cs, ¬ P.Ticks cs w.ticks)
    (ha : Act P w w') : w'.Settled ∨ w'.Waits := by
  obtain ⟨a, s, hq, htr⟩ := h.alone
  rcases ha.later hfifo with hl | ⟨b, hpop, -, -⟩
  · have hears : HearsConnect w'.ble.reportQueue := by
      cases ha.reporting with
      | pushed ops _ _ _ _ hr => exact hr ▸ h.hears.append ops
      | took cs hts => exact absurd hts (hP cs)
      | ran op _ _ _ _ hts =>
        rw [h.ticks] at hts
        cases hts
    refine .inr ⟨ha.no_ticks h.ticks hP, hears, ?_⟩
    unfold Later at hl
    rw [hq] at hl
    generalize w'.ble.asyncActions = q' at hl ⊢
    cases hl with
    | cons hab hnil =>
      cases hnil
      exact ⟨_, s, rfl, hab.trigger.trans htr⟩
  · rw [hq] at hpop
    have hnil : w'.ble.asyncActions = [] := (List.cons.inj hpop).2.symm
    exact .inl (by simp [Settled, hnil])

end World

/-! ## While the scan waits -/

/-- A scan will not run: since `x` no asynchronous call has been made, and none will be. -/
structure Rests (P : Policy) (x w : World) : Prop where
  fifo : Fifo w
  calls : x.CallsNothing w
  rests : w.Settled ∨ ((∀ w0, ¬ P.enter w0 (.api .processAsync)) ∧ w.Waits)

namespace Rests

variable {x : World}

omit [Gattlib] in
theorem scans (h : Rests P x w) : ∀ a ∈ w.ble.asyncActions, ∃ s, a.trigger = .scan s := by
  intro a ha
  rcases h.rests with hs | ⟨-, hw⟩
  · exact (hs a ha).1
  · obtain ⟨b, s, hq, htr⟩ := hw.alone
    rw [hq] at ha
    exact ⟨s, List.mem_singleton.mp ha ▸ htr⟩

omit [Gattlib] in
/-- Nothing happens to the queue and the reports. -/
theorem same (h : Rests P x w) (hfifo : Fifo w') (hc : w.CallsNothing w')
    (hq : w'.ble.asyncActions = w.ble.asyncActions) (hr : w'.ble.reportQueue = w.ble.reportQueue)
    (hts : w'.ticks = [] ∨ w'.ticks = w.ticks) : Rests P x w' where
  fifo := hfifo
  calls := h.calls.trans hc
  rests := by
    refine h.rests.imp (fun hs => ?_) (And.imp_right fun hw => ?_)
    · rw [World.Settled, hq]
      exact hs
    · exact ⟨hts.elim id (·.trans hw.ticks), hr ▸ hw.hears, hq ▸ hw.alone⟩

theorem act (hP : P.Within ticksOnly) (h : Rests P x w) (ha : Act P w w') : Rests P x w' := by
  have hno (hn : ∀ w0, ¬ P.enter w0 (.api .processAsync)) (cs : List Call) :
      ¬ P.Ticks cs w.ticks := by
    rintro ⟨w0, hm | hm, -⟩
    · exact hn w0 hm
    · cases (hP w0).enter _ hm
  refine ⟨h.fifo.act ha, h.calls.trans ?_, ?_⟩
  · rcases ha.noCall with hc | ⟨ts, a, hts, hf, hp, -⟩
    · exact hc.log
    · rcases h.rests with hs | ⟨-, hw⟩
      · exact absurd hp (hs a (List.mem_of_mem_head? hf)).2
      · rw [hw.ticks] at hts
        cases hts
  · rcases h.rests with hs | ⟨hn, hw⟩
    · exact .inl (hs.act h.fifo ha)
    · exact (hw.act h.fifo (hno hn) ha).imp_right fun hw' => ⟨hn, hw'⟩

end Rests

/-- Where the user at most ticks, the scan rests. -/
def restsClaim {P : Policy} (hP : P.Within ticksOnly) (x : World) : Claim P where
  inv := Rests P x
  extra w w' := w.Settled → w'.Settled
  crash _ _ := True
  refl _ h := h
  trans _ _ _ h h' := h' ∘ h
  unlocked h := h
  act h ha := ⟨h.act hP ha, fun hs => hs.act h.fifo ha⟩
  exit h _ := ⟨h.same (h.fifo.note ⟨rfl, rfl, rfl⟩) (.note _ (by simp)) rfl rfl (.inr rfl), id⟩
  drop _ h hts _ _ := by
    refine ⟨⟨h.fifo.setTicks _, h.calls, h.rests.imp id (And.imp_right fun hw => ?_)⟩, id⟩
    rw [hw.ticks] at hts
    cases hts
  request {op w w'} h ho hr := by
    cases ho with
    | entered w0 _ hm _ =>
      cases (hP w0).enter _ hm
      cases hr
    | shutdown w0 _ _ _ _ hm => cases (hP w0).enter _ hm
    | autodisconn w0 a dev _ h0 hf htr =>
      obtain ⟨s, hs⟩ := h0.scans a (List.mem_of_mem_head? hf)
      rw [htr] at hs
      cases hs
  freed _ _ _ _ _ _ := trivial
  missing _ _ _ _ _ _ _ _ := trivial
  other _ _ := trivial

theorem restsClaim_notifies {P : Policy} (hP : P.Within ticksOnly) (x : World) :
    (restsClaim hP x).Notifies := by
  refine .of_subs (fun {w w'} h hs => ?_) fun _ _ _ => trivial
  have hfifo := h.fifo.subs hs
  cases hs
  exact ⟨h.same hfifo ⟨[], (List.append_nil _).symm, by simp⟩ rfl rfl (.inr rfl), id⟩

/-! ## The tick that completes it -/

/-- The reports that only print change nothing. -/
theorem runReports_prints (pre rest : List QueuedOp) {ts : List (List QueuedOp)}
    (hpre : ∀ op ∈ pre, op.prints = true) (hts : w.ticks = (pre ++ rest) :: ts) :
    runReports (pre ++ rest) w =
      runReports rest { w with ticks := rest :: ts, log := w.log ++ pre.map .ran } := by
  induction pre generalizing w with
  | nil =>
    rw [List.nil_append] at hts
    rw [List.nil_append, List.map_nil, List.append_nil, ← hts]
  | cons op pre ih =>
    have hrun (w1 : World) : op.run w1 = .done w1 () := by
      have hop := hpre op List.mem_cons_self
      cases op with
      | callback | readData | notification =>
        simp only [QueuedOp.prints, decide_eq_true_eq] at hop
        subst hop
        rfl
      | _ => cases hop
    have ih := ih (w := { w with ticks := (pre ++ rest) :: ts, log := w.log ++ [.ran op] })
      (fun x hx => hpre x (List.mem_cons_of_mem _ hx)) rfl
    simp only [List.cons_append, runReports, Prog.bind_apply, Prog.modify_apply, note_apply,
      Out.bind_done, hts, List.tail_cons, World.note, hrun, ih, List.map_cons, List.append_assoc,
      List.nil_append]

omit [Gattlib] in
theorem ticking_within : ticking.Within ticksOnly := fun _ =>
  ⟨fun _ h => h.2, fun _ _ _ => trivial⟩

omit [Gattlib] in
theorem listening_within : listening.Within ticksOnly := fun _ =>
  ⟨fun m h => by
    cases m with
    | api => exact h.2.elim
    | event => trivial, fun _ _ _ => trivial⟩

abbrev tickingClaim (x : World) : Claim ticking := restsClaim ticking_within x

abbrev listeningClaim (x : World) : Claim listening := restsClaim listening_within x

omit [Gattlib] in
theorem ticking_processAsync (w : World) : ticking.enter w (.api .processAsync) := ⟨.inr rfl, rfl⟩

omit [Gattlib] in
/-- Where the user may tick, a scan that rests has been completed. -/
theorem Rests.settled {x : World} (h : Rests ticking x w) : w.Settled :=
  h.rests.resolve_right fun hw => hw.1 w (ticking_processAsync w)

omit [Gattlib] in
theorem Rests.listening {x : World} (h : Rests ticking x w) : Rests listening x w :=
  ⟨h.fifo, h.calls, .inl h.settled⟩

section
variable {x w0 w1 : World} {r : Resp} {Q : Unit → World → Prop} {X : World → Prop}

/-- The report of a connect completes the scan, and the rest of the tick finds it settled. -/
theorem tickRest_waits (hi : Rests listening x w1) (hw : w1.Waits)
    (hkept : Kept (w0.push .asyncProcessAll) w1)
    (hk : ∀ w', Rests ticking x w' → Kept w0 w' → Q () w')
    (hX : ∀ w', Rests ticking x w' → Kept w0 w' → X w') :
    (tickRest (w1.back .asyncProcessAll r)).Safe (tickingClaim x).rules Q X := by
  obtain ⟨-, pre, rest, hq, hpre⟩ := List.find?_eq_some_iff_append.mp hw.hears
  have hpre (op : QueuedOp) (hop : op ∈ pre) : op.prints = true := by simpa using hpre op hop
  obtain ⟨a, s, hact, htr⟩ := hw.alone
  have hts : w1.ticks = w0.ticks := hkept.ticks
  have hcalls : w1.calls.tail = w0.calls := congrArg List.tail hkept.calls
  -- where the report of the connect runs
  let l : List Obs := .ret .asyncProcessAll r :: (pre.map .ran ++ [.ran .reportConnected])
  have hl : ∀ o ∈ l, o.Aside ∧ ∀ e, o ≠ .call e := by
    simp only [l, List.forall_mem_cons, List.forall_mem_append, List.forall_mem_map]
    exact ⟨⟨⟨rfl, rfl, rfl⟩, nofun⟩, fun _ _ => ⟨⟨rfl, rfl, rfl⟩, nofun⟩,
      ⟨⟨rfl, rfl, rfl⟩, nofun⟩, by simp⟩
  let w3 : World := { w1 with
    calls := w1.calls.tail
    ticks := rest :: w1.ticks
    ble := { w1.ble with reportQueue := [] }
    log := w1.log ++ l }
  have hfifo : Fifo w3 :=
    hi.fifo.of_eq rfl (Nat.le_refl _) rfl (fun o ho => (hl o ho).1) fun e he =>
      hi.fifo.calls e (List.mem_of_mem_tail he)
  have hcallers : callers w3.log = callers w0.log := by
    have hrun : ∀ o ∈ pre.map Obs.ran ++ [.ran .reportConnected], o.inner = true := by
      simp only [List.forall_mem_append, List.forall_mem_map, List.forall_mem_singleton]
      exact ⟨fun _ _ => rfl, rfl⟩
    simp only [w3, l]
    rw [List.append_cons, callers_inners hrun]
    exact (hkept.back r).callers
  have hk3 : Kept { w0 with ticks := rest :: w0.ticks } w3 :=
    ⟨hcalls, congrArg (rest :: ·) hts, hkept.held,
      ((List.prefix_append ..).trans hkept.log).trans (List.prefix_append ..), hkept.records,
      hcallers⟩
  have hfront : w3.front = some a := by simp [World.front, w3, hact]
  have hsettled : (w3.finishFront .success).Settled := by
    have hqueue : (w3.finishFront .success).ble.asyncActions =
        [{ a with state := .completed }] := by
      simp only [World.finishFront, hfront, World.finish_ble]
      have hone : w3.ble.asyncActions = a :: [] := hact
      exact hfifo.updateAction_front hone fun a => { a with state := .completed }
    intro b hb
    rw [hqueue] at hb
    cases List.mem_singleton.mp hb
    exact ⟨⟨s, htr⟩, by simp⟩
  have hcall : x.CallsNothing (w3.finishFront .success) := by
    have hlog : w1.CallsNothing w3 := ⟨l, rfl, fun e he => absurd rfl ((hl _ he).2 e)⟩
    exact (hi.calls.trans hlog).trans (w3.finishFront_log .success)
  have hafter : Rests ticking x (w3.finishFront .success) :=
    ⟨hfifo.finishFront _, hcall, .inl hsettled⟩
  have hrun : (currentOpCompleted w3).Safe (tickingClaim x).rules
      (fun _ w4 => (runReports rest w4).Safe (tickingClaim x).rules
        (fun _ w5 =>
          (tickAction { w5 with ticks := w5.ticks.tail }).Safe (tickingClaim x).rules Q X)
        fun w5 => X { w5 with ticks := w5.ticks.tail })
      fun w5 => X { w5 with ticks := w5.ticks.tail } := by
    have hextra : (tickingClaim x).extra w0 (w3.finishFront .success) := fun _ => hsettled
    refine Claim.currentOp_safe (C := tickingClaim x) .success hafter hextra hk3 fun w4 hw4 => ?_
    have he : (tickingClaim x).Entered w0 :=
      ⟨_, _, hafter, ticking_processAsync _, (w3.finishFront_held _).trans hkept.held⟩
    have hgo : ticking.Ticks w0.calls w0.ticks := ⟨w0, .inl (ticking_processAsync w0), rfl, rfl⟩
    exact Claim.block_safe he hgo hw4 (fun w' _ hw' _ _ _ _ _ => hk w' hw'.inv hw'.rel.kept)
      fun w' hw' => hX w' (hw' trivial).1.inv (hw' trivial).1.rel.kept
  rw [tickRest_eq, safe_bind, safe_leave, World.back_ble, hq, runReports_prints pre _ hpre rfl]
  simp only [runReports, Prog.bind_apply, Prog.modify_apply, note_apply, Out.bind_done, safe_bind,
    List.tail_cons, World.note, World.back_log, List.append_assoc, List.cons_append,
    List.nil_append]
  exact hrun

/-- The tick goes on as a tick that finds the scan settled, or completes it. -/
theorem tickRest_rests (hi : Rests listening x w1) (hkept : Kept (w0.push .asyncProcessAll) w1)
    (ha : ticking.ans w1 .asyncProcessAll r)
    (hk : ∀ w', Rests ticking x w' → Kept w0 w' → Q () w')
    (hX : ∀ w', Rests ticking x w' → Kept w0 w' → X w') :
    (tickRest (w1.back .asyncProcessAll r)).Safe (tickingClaim x).rules Q X := by
  rcases hi.rests with hs | ⟨-, hw⟩
  · have hw1 : (tickingClaim x).At (w0.push .asyncProcessAll) w1 :=
      ⟨⟨hi.fifo, hi.calls, .inl hs⟩, hkept, fun _ => hs⟩
    have he : (tickingClaim x).Entered w0 := ⟨w1, _, hw1.inv, ticking_processAsync w1, hkept.held⟩
    have hgo : ticking.Ticks w0.calls w0.ticks := ⟨w0, .inl (ticking_processAsync w0), rfl, rfl⟩
    exact Claim.tickRest_safe (C := tickingClaim x) he id hgo hw1 hkept.calls ha
      (fun w' hw' _ => hk w' hw'.inv hw'.rel.kept)
      fun w' hw' => hX w' (hw' trivial).1.inv (hw' trivial).1.rel.kept
  · exact tickRest_waits hi hw hkept hk hX

end

/-! ## Runs -/

/-- While the user only ticks the scan rests, and once it has been completed it stays so. -/
def resting (x : World) : Rules World Call Resp Fault where
  inv := Rests listening x
  rely w w' := Kept w w' ∧ (w.Settled → w'.Settled)
  ans := ticking.ans
  crash _ _ := True

/-- What is safe while the user may tick is safe for these rules. -/
theorem resting_of_ticking {α : Type} {o : Out World Call Resp Fault α} {Q : α → World → Prop}
    {X : World → Prop} {x : World} (h : o.Safe (tickingClaim x).rules Q X) :
    o.Safe (resting x) Q X := by
  refine h.relax (fun _ hi => hi.listening) (fun w w' e r hi hr hi' ha => ?_) fun _ _ _ => trivial
  exact ⟨⟨⟨hr.1, hr.2⟩, fun hn => absurd (ticking_processAsync w) (hn _)⟩,
    ⟨hi'.fifo, hi'.calls, .inl (hr.2 hi.settled)⟩, ha⟩

/-- What is safe while the user asks for nothing is safe for these rules. -/
theorem resting_of_listening {α : Type} {o : Out World Call Resp Fault α} {Q : α → World → Prop}
    {X : World → Prop} {x : World} (h : o.Safe (listeningClaim x).rules Q X) :
    o.Safe (resting x) Q X := by
  refine h.relax (fun _ hi => hi) (fun w w' e r _ hr hi' ha => ?_) fun _ _ _ => trivial
  have hev : listening.enter w (.event none (.deviceDiscovered none none)) := ⟨rfl, trivial⟩
  exact ⟨⟨⟨hr.1, hr.2⟩, fun hn => absurd hev (hn _)⟩, hi', ha⟩

/-- A tick is safe for these rules: gattlib comes back to a scan that is settled, or waits. -/
theorem processAsync_rests {x : World} (hi : Rests listening x w) :
    ((Move.api .processAsync).prog w).Safe (resting x)
      (fun _ w' => (resting x).inv w' ∧ (resting x).rely w w')
      (fun w' => (resting x).inv w' ∧ (resting x).rely w w') := by
  have hin : Kept w (w.note (.enter (.api .processAsync))) := .note ..
  have hstart : Rests listening x (w.note (.enter (.api .processAsync))) :=
    hi.same (hi.fifo.note ⟨rfl, rfl, rfl⟩) (.note _ (by simp)) rfl rfl (.inr rfl)
  have hend {w' : World} (o : Obs) (ho : o.Aside) (hoc : o.inner = true)
      (h : Rests ticking x w') (hk : Kept (w.note (.enter (.api .processAsync))) w') :
      (resting x).inv (w'.note o) ∧ (resting x).rely w (w'.note o) :=
    ⟨h.listening.same (h.fifo.note ho) (.note _ (by rintro e rfl; cases hoc)) rfl rfl (.inr rfl),
      (hin.trans hk).trans (.note _ _ hoc), fun _ => h.settled⟩
  simp only [Move.prog, Prog.trapped, safe_trap, Prog.bind_apply, note_apply, Out.bind_done,
    Op.run, processAsync_eq, Prog.pure_apply, safe_bind, safe_done]
  refine ⟨hstart.same (hstart.fifo.push fun t ht => by cases ht)
    ⟨[.call .asyncProcessAll], rfl, ?_⟩ rfl rfl (.inr rfl), fun r w1 hr h1 ha => ?_⟩
  · simp [Call.action]
  · change (tickRest (w1.back .asyncProcessAll r)).Safe (resting x) _ _
    exact resting_of_ticking (tickRest_rests h1 hr.1 ha
      (fun _ => hend (.exit (.api .processAsync) .void) ⟨rfl, rfl, rfl⟩ rfl)
      fun _ => hend (.raised (.api .processAsync)) ⟨rfl, rfl, rfl⟩ rfl)

/-- **The scan rests.** -/
theorem resting_fits (x : World) : (resting x).Fits (system ticking) where
  ans _ _ _ h := h
  refl w := ⟨.refl w, id⟩
  trans _ _ _ h h' := ⟨h.1.trans h'.1, h'.2 ∘ h.2⟩
  prog m w hi hm := by
    cases m with
    | event of ev =>
      have hfits := Claim.fits (restsClaim_notifies listening_within x) trivial
      refine (resting_of_listening (hfits.prog (.event of ev) w hi ⟨hm.1, trivial⟩)).mono ?_ ?_
      · exact fun _ w' hw' => ⟨hw'.1, hw'.2.1.kept, hw'.2.1.extra⟩
      · exact fun w' hw' => ⟨hw'.1, hw'.2.1.kept, hw'.2.1.extra⟩
    | api op =>
      cases hm.2
      exact processAsync_rests hi

/-- **Run lemma**: a scan that waits for the report of a connect is never enabled. -/
theorem not_enabled {x : World} {c : Config World Call Resp Fault} (hfifo : Fifo x) (hw : x.Waits)
    (h : Reach ticking x c) (hf : c.fault = none) : x.CallsNothing c.s := by
  have hno (w0 : World) : ¬ listening.enter w0 (.api .processAsync) := fun h => h.2
  have hx : Rests listening x x :=
    ⟨hfifo, ⟨[], (List.append_nil _).symm, by simp⟩, .inr ⟨hno, hw⟩⟩
  exact ((resting_fits x).inv hx h hf).calls

end

end Gattlibpp
