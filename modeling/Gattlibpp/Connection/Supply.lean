import Gattlibpp.Act.Calls
import Gattlibpp.Queue.Contract
import Gattlibpp.Queue.Steady
import Gattlibpp.Connection.Records

/-!
# What a trigger uses

A request checks that its device is connected, or that the adapter is open, and its trigger
runs later. What was checked still holds then, as long as no connection and no adapter is
lost while an action that needs it waits for its trigger.
-/

namespace Gattlibpp

open Open

/-- The device whose connection the trigger passes. -/
def Trigger.device : Trigger → Option UUID
  | .disconnect dev | .read dev _ | .write dev _ _ => some dev
  | _ => none

/-- Whether the trigger needs the adapter. -/
def Trigger.scans : Trigger → Bool
  | .scan _ | .stopScan => true
  | _ => false

/-- The connection that an asynchronous call passes. -/
def Call.connection : Call → Option (Option Conn)
  | .disconnect _ c | .readChar _ c _ | .writeChar _ c _ _ => some c
  | _ => none

/-- The call is made with a connection, or while `adapter_is_open`. -/
def Call.Live : Call → Prop
  | .disconnect _ c | .readChar _ c _ | .writeChar _ c _ _ => c.isSome
  | .scanEnable _ isOpen _ | .scanDisable _ isOpen => isOpen = true
  | _ => True

/-- No connection and no adapter is lost while an action that needs it is Pending. -/
def supplied : Policy where
  enter w m :=
    match m with
    | .event _ (.connected none) | .event _ .disconnected =>
      ∀ a ∈ w.ble.asyncActions, a.isPending = true → a.trigger.device ≠ some w.ble.connectedTo
    | _ => True
  ans w e _ :=
    match e with
    | .adapterClose _ => ∀ a ∈ w.ble.asyncActions, a.isPending = true → a.trigger.scans = false
    | _ => True

instance (w : World) (m : Move) : Decidable (supplied.enter w m) :=
  match m with
  | .api _ => isTrue trivial
  | .event _ ev =>
    match ev with
    | .connected none | .disconnected => inferInstanceAs (Decidable (∀ a ∈ w.ble.asyncActions,
        a.isPending = true → a.trigger.device ≠ some w.ble.connectedTo))
    | .connected (some _) | .deviceDiscovered .. | .scanComplete | .readChar _ | .opDone
    | .opFailed | .scanDisableDone | .notification .. => isTrue trivial

instance (w : World) (e : Call) (r : Resp) : Decidable (supplied.ans w e r) := by
  unfold supplied
  cases e <;> infer_instance

/-! ## The invariant -/

/-- What the Pending actions need is there. -/
structure World.Supplied (w : World) : Prop where
  connection : ∀ a ∈ w.ble.asyncActions, a.state = .pending → ∀ dev, a.trigger.device = some dev →
    (w.connections dev).join.isSome
  adapter : ∀ a ∈ w.ble.asyncActions, a.state = .pending → a.trigger.scans = true →
    w.ble.adapterIsOpen = true

namespace World.Supplied

variable {w w' : World}

theorem init : World.init.Supplied := ⟨by simp [World.init], by simp [World.init]⟩

theorem steady : Steady World.Supplied where
  same {w w'} h hq hd _ ho _ := by
    refine ⟨?_, ?_⟩
    · rw [hq, w.connections_of_eq hd]
      exact h.connection
    · rw [hq, ho]
      exact h.adapter
  update {w t f} h hf ho := by
    have hback : ∀ a ∈ w.ble.asyncActions, (if a.id = t then f a else a).state = .pending →
        a.state = .pending := by
      intro a ha hp
      split at hp
      · rename_i hid
        exact (ho a ha hid).pending hp
      · exact hp
    have htr : ∀ a, (if a.id = t then f a else a).trigger = a.trigger := by
      intro a
      split
      · exact (hf a).2
      · rfl
    refine ⟨List.forall_mem_map.mpr fun a ha hp => ?_, List.forall_mem_map.mpr fun a ha hp => ?_⟩
    · rw [htr]
      exact h.connection a ha (hback a ha hp)
    · rw [htr]
      exact h.adapter a ha (hback a ha hp)
  pop {w a rest} h hq :=
    ⟨fun x hx => h.connection x (by rw [hq]; exact List.mem_cons_of_mem _ hx),
      fun x hx => h.adapter x (by rw [hq]; exact List.mem_cons_of_mem _ hx)⟩

/-- The connections change, but none that a Pending action needs. -/
theorem of_connections (h : w.Supplied) (hq : w'.ble.asyncActions = w.ble.asyncActions)
    (ho : w'.ble.adapterIsOpen = w.ble.adapterIsOpen)
    (hc : ∀ a ∈ w.ble.asyncActions, a.state = .pending → ∀ dev, a.trigger.device = some dev →
      (w.connections dev).join.isSome → (w'.connections dev).join.isSome) : w'.Supplied := by
  refine ⟨?_, ?_⟩
  · rw [hq]
    exact fun a ha hp dev hdev => hc a ha hp dev hdev (h.connection a ha hp dev hdev)
  · rw [hq, ho]
    exact h.adapter

theorem isPending_eq {a : AsyncAction.Details} (h : a.state = .pending) : a.isPending = true :=
  decide_eq_true h

theorem event (h : w.Supplied) {of : Option ActionId} {ev : Event}
    (hm : supplied.enter w (.event of ev)) :
    (ev.apply (w.note (.enter (.event of ev)))).Supplied := by
  have hn := steady.note h (.enter (.event of ev))
  cases ev with
  | connected c =>
    refine hn.of_connections rfl rfl fun a ha hp dev hdev hs => ?_
    rw [connections_connected]
    split
    · rename_i heq
      cases c with
      | none => exact absurd (heq ▸ hdev) (hm a ha (isPending_eq hp))
      | some c => exact match hc : (w.note _).connections dev, hs with | some x, _ => rfl
    · exact hs
  | disconnected =>
    refine hn.of_connections rfl rfl fun a ha hp dev hdev hs => ?_
    rw [connections_disconnected]
    split
    · rename_i heq
      exact absurd (heq ▸ hdev) (hm a ha (isPending_eq hp))
    · exact hs
  | _ => exact steady.same hn rfl rfl rfl rfl List.prefix_rfl

/-- **Step lemma.** -/
theorem act [Gattlib] {P : Policy} (hP : P.WithinAt supplied w) (h : w.Supplied) (hfifo : Fifo w)
    (ha : Act P w w') : w'.Supplied := by
  refine steady.act h hfifo ha (fun of ev hm => h.event (hP.enter _ hm)) ?_ ?_ ?_ ?_
  · intro w dev r h
    have hs := w.servicesStep_connections dev r
    obtain ⟨devices, heq⟩ := w.servicesStep_eq dev r
    rw [heq] at hs ⊢
    exact h.of_connections rfl rfl fun _ _ _ e _ he => hs ▸ he
  · intro dev c r _ _ _
    have hs := (w.back (.discoverChar dev c) r).charsStep_connections dev r
    obtain ⟨devices, heq⟩ := (w.back (.discoverChar dev c) r).charsStep_eq dev r
    rw [heq] at hs ⊢
    exact (steady.back h _ r).of_connections rfl rfl fun _ _ _ e _ he => hs ▸ he
  · exact fun e r name => ⟨h.connection, fun _ _ _ _ => rfl⟩
  · intro a r hans
    refine ⟨h.connection, fun x hx hp hs => ?_⟩
    rw [hP.ans _ _ hans x hx (isPending_eq hp)] at hs
    cases hs

theorem enqueue (h : w.Supplied) {a : AsyncAction.Details}
    (hc : ∀ dev, a.trigger.device = some dev → (w.connections dev).join.isSome)
    (ho : a.trigger.scans = true → w.ble.adapterIsOpen = true) : (w.enqueue a).Supplied := by
  refine ⟨fun x hx hp => ?_, fun x hx hp => ?_⟩ <;> rcases List.mem_append.mp hx with hx | hx
  · exact h.connection x hx hp
  · cases List.mem_singleton.mp hx
    exact hc
  · exact h.adapter x hx hp
  · cases List.mem_singleton.mp hx
    exact ho

theorem isConnected_iff (w : World) (dev : UUID) :
    w.ble.isConnected dev = true ↔ (w.connections dev).join.isSome := by
  rw [w.ble.isConnected_iff, World.connections]
  cases w.ble.devices[dev]? <;> simp

/-- A request has checked what its trigger needs. -/
theorem request {op : Op} (h : w.Supplied) (hr : Request w op w') : w'.Supplied := by
  have hrecord := hr.record
  cases hr with
  | scan _ _ disc _ ho =>
    have hd : (w.updateBle fun b => { b with devDiscoveredCb := disc }).Supplied :=
      steady.same h rfl rfl rfl rfl List.prefix_rfl
    exact steady.same (hd.enqueue (by rintro _ ⟨⟩) fun _ => ho) rfl rfl rfl rfl List.prefix_rfl
  | stopScanDone => exact h.enqueue (by rintro _ ⟨⟩) (by rintro ⟨⟩)
  | stopScan _ _ ho => exact h.enqueue (by rintro _ ⟨⟩) fun _ => ho
  | stopScanCancel _ _ a ho =>
    exact World.Supplied.enqueue (steady.note (steady.complete h a.id) _) (by rintro _ ⟨⟩) fun _ => ho
  | connect dev p =>
    refine World.Supplied.enqueue (w := w.updateBle _)
      (h.of_connections rfl rfl fun a _ _ e _ he => ?_) ?_ ?_
    · rcases hrecord e with hsame | ⟨hnone, -⟩
      · exact (congrArg (fun d => (d.map (·.connection)).join.isSome) hsame).trans he
      · rw [World.connections, hnone] at he
        cases he
    · rintro _ ⟨⟩
    · rintro ⟨⟩
  | disconnect dev _ _ _ hc | read dev _ _ _ _ _ hc | write dev _ _ _ _ _ _ hc =>
    refine h.enqueue (fun e he => ?_) (by rintro ⟨⟩)
    cases he
    exact (isConnected_iff w dev).mp hc

theorem subs {P : Policy} (h : w.Supplied) (hs : Subs P w w') : w'.Supplied := by
  have hc := w.connections_subs hs
  cases hs
  exact h.of_connections rfl rfl fun _ _ _ e _ he => hc ▸ he

end World.Supplied

/-! ## The calls -/

/-- Every call so far was live. -/
def AllLive (log : List Obs) : Prop := ∀ e, .call e ∈ log → e.Live

/-- A call that has just been made passes the connection of its device. -/
def World.Passes (w : World) : Prop :=
  ∀ e, w.log.getLast? = some (.call e) → ∀ a ∈ w.ble.asyncActions, e.action = some a.id →
    ∀ dev, a.trigger.device = some dev → e.connection = some (w.connectionOf dev)

theorem Call.live_of_none {e : Call} (h : e.action = none) : e.Live := by
  cases e <;> first | (cases h; done) | trivial

section
variable {w w' : World}

theorem passes_of_last {o : Obs} {l : List Obs} (hlog : w.log = l ++ [o])
    (ho : ∀ e, o = .call e → e.action = none) : w.Passes := by
  intro e he a _ hact
  rw [hlog, List.getLast?_append, List.getLast?_singleton, Option.some_or] at he
  rw [ho e (Option.some.inj he)] at hact
  cases hact

/-- No asynchronous call is made. -/
theorem live_noCall (h : AllLive w.log ∧ w.Passes) (hn : w.NoCall w') :
    AllLive w'.log ∧ w'.Passes := by
  obtain ⟨l, hlog, hl⟩ := hn.log
  refine ⟨fun e he => ?_, ?_⟩
  · rw [hlog] at he
    exact (List.mem_append.mp he).elim (h.1 e) fun he => Call.live_of_none (hl e he)
  · rcases List.eq_nil_or_concat l with rfl | ⟨l', o, rfl⟩
    · have hsame : w'.log = w.log := hlog.trans (List.append_nil _)
      obtain ⟨hd, hq⟩ := hn.same hsame
      intro e he a ha hact dev hdev
      obtain ⟨b, hb, hid, htr⟩ := hq a ha
      rw [World.connectionOf_eq, w.connections_of_eq hd, ← World.connectionOf_eq]
      exact h.2 e (hsame ▸ he) b hb (hid ▸ hact) dev (htr ▸ hdev)
    · refine passes_of_last (o := o) (l := w.log ++ l') (by rw [hlog]; simp) fun e he => ?_
      exact hl e (by simp [he])

/-- The trigger makes its call with what its request has checked. -/
theorem live_trigger (h : AllLive w.log) (hs : w.Supplied) (hfifo : Fifo w)
    {a : AsyncAction.Details} (hf : w.front = some a) (hp : a.state = .pending) :
    AllLive (a.trigger.apply (w.start a.id) a.id).log ∧
      (a.trigger.apply (w.start a.id) a.id).Passes := by
  obtain ⟨rest, hq⟩ : ∃ rest, w.ble.asyncActions = a :: rest := List.head?_eq_some_iff.mp hf
  have hmem : a ∈ w.ble.asyncActions := by rw [hq]; exact List.mem_cons_self
  have hstart : AllLive (w.start a.id).log := fun e he => h e (by simpa using he)
  have hquiet : (w.start a.id).Passes := passes_of_last (w.start_log a.id) (by simp)
  have hq' : (w.start a.id).ble.asyncActions = { a with state := .triggered } :: rest :=
    hfifo.updateAction_front hq _
  have hpush {e : Call} (hact : e.action = some a.id) (hl : e.Live) (hc : ∀ dev, a.trigger.device = some dev →
      e.connection = some (w.connectionOf dev)) :
      AllLive ((w.start a.id).push e).log ∧ ((w.start a.id).push e).Passes := by
    refine ⟨fun x hx => ?_, fun x hx b hb hxb dev hdev => ?_⟩
    · rcases List.mem_append.mp hx with hx | hx
      · exact hstart x hx
      · cases List.mem_singleton.mp hx
        exact hl
    · rw [World.push_log, List.getLast?_append, List.getLast?_singleton, Option.some_or] at hx
      cases hx
      rw [World.push_ble, hq'] at hb
      rcases List.mem_cons.mp hb with rfl | hb
      · exact hc dev hdev
      · rw [hact] at hxb
        exact absurd (Option.some.inj hxb).symm (hfifo.front_once hq b hb)
  have hconn {dev : UUID} (hdev : a.trigger.device = some dev) : (w.connectionOf dev).isSome := by
    rw [World.connectionOf_eq]
    exact hs.connection a hmem hp dev hdev
  cases htr : a.trigger with
  | autodisconn => exact ⟨hstart, hquiet⟩
  | scan => exact hpush rfl (hs.adapter a hmem hp (by rw [htr]; rfl)) (by rw [htr]; rintro _ ⟨⟩)
  | stopScan => exact hpush rfl (hs.adapter a hmem hp (by rw [htr]; rfl)) (by rw [htr]; rintro _ ⟨⟩)
  | connect => exact hpush rfl trivial (by rw [htr]; rintro _ ⟨⟩)
  | disconnect dev =>
    exact hpush rfl (hconn (by rw [htr]; rfl)) (by rw [htr]; rintro _ ⟨⟩; rfl)
  | stopScanDone => exact live_noCall ⟨hstart, hquiet⟩ (World.finish_noCall ..)
  | read dev r | write dev r =>
    simp only [Trigger.apply]
    split
    · exact ⟨hstart, hquiet⟩
    · exact hpush rfl (hconn (by rw [htr]; rfl)) (by rw [htr]; rintro _ ⟨⟩; rfl)

/-- A request makes no call. -/
theorem live_request {op : Op} (h : AllLive w.log) (hr : Request w op w') :
    AllLive w'.log ∧ w'.Passes := by
  obtain ⟨l, a, hlog, hl⟩ : ∃ l a, w'.log = w.log ++ l ++ [.queued a] ∧ ∀ e, .call e ∉ l := by
    cases hr with
    | stopScanCancel => exact ⟨[.cancelled _], _, rfl, by simp⟩
    | _ => exact ⟨[], _, by rw [List.append_nil]; rfl, by simp⟩
  refine ⟨fun e he => h e ?_, passes_of_last hlog (by simp)⟩
  rw [hlog] at he
  simpa [hl e] using he

end

/-! ## The result -/

section
variable [Gattlib]

/-- What the claim keeps. -/
structure World.Live (w : World) : Prop where
  fifo : Fifo w
  supplied : w.Supplied
  calls : AllLive w.log ∧ w.Passes

def liveClaim {P : Policy} (hP : P.Within supplied) : Claim P where
  inv := World.Live
  crash _ _ := True
  act {w w'} h ha := by
    refine ⟨⟨h.fifo.act ha, h.supplied.act (hP w) h.fifo ha, ?_⟩, trivial⟩
    rcases ha.noCall with hn | ⟨ts, a, -, hf, hp, rfl⟩
    · exact live_noCall h.calls hn
    · exact live_trigger (w := { w with ticks := ts }) h.calls.1
        (World.Supplied.steady.setTicks h.supplied ts) (h.fifo.setTicks ts) hf hp
  exit {w m r} h _ := by
    refine ⟨⟨h.fifo.note ⟨rfl, rfl, rfl⟩, World.Supplied.steady.note h.supplied _, ?_⟩, trivial⟩
    exact live_noCall h.calls (.noted rfl (by simp))
  drop _ h _ _ _ := ⟨⟨h.fifo.setTicks _, World.Supplied.steady.setTicks h.supplied _,
    live_noCall h.calls (.of_eq rfl rfl rfl)⟩, trivial⟩
  request h _ hr :=
    ⟨⟨h.fifo.request hr, h.supplied.request hr, live_request h.calls.1 hr⟩, trivial⟩
  freed _ _ _ _ _ _ := trivial
  missing _ _ _ _ _ _ _ _ := trivial
  other _ _ := trivial

theorem liveClaim_notifies {P : Policy} (hP : P.Within supplied) : (liveClaim hP).Notifies := by
  refine .of_subs (fun {w w'} h hs => ⟨⟨h.fifo.subs hs, h.supplied.subs hs, ?_⟩, trivial⟩)
    fun _ _ _ => trivial
  have hc := w.connections_subs hs
  cases hs
  refine ⟨h.calls.1, fun e he a ha hact dev hdev => ?_⟩
  rw [World.connectionOf_eq, hc, ← World.connectionOf_eq]
  exact h.calls.2 e he a ha hact dev hdev

/-- **What a request checked still holds when its trigger runs**: every call was made with a
connection, or with the adapter open, and passes the connection of its device. -/
theorem triggers_live {c : Config World Call Resp Fault} (h : Reach supplied .init c)
    (hf : c.fault = none) : AllLive c.s.log ∧ c.s.Passes := by
  have h0 : World.init.Live := 
    ⟨.init, .init, by simp [AllLive, World.init], by simp [World.Passes, World.init]⟩
  exact (Claim.reach (liveClaim_notifies (.refl supplied)) trivial h0 h hf).calls

end

/-- A connect to `"A"` up to the point where its action has left the queue. -/
def connectA : List (System.Choice Move Resp) :=
  [.enter (.api (.connect "A" none none none)), .answer (.adapter 3),
    .enter (.api .processAsync), .answer .void, .answer (.code 0),
    .enter (.api .processAsync), .enter (.event (some 0) (.connected (some 7))), .answer .void,
    .answer (.code 1), .enter (.api .processAsync), .answer .void, .answer (.code 1),
    .enter (.api .processAsync), .answer .void]

/-- A disconnect passes the connection. -/
theorem triggers_live_disconnect :
    ∃ c : Config World Call Resp Fault, @Reach .sample supplied .init c ∧
      .call (.disconnect 1 (some 7)) ∈ c.s.log ∧ AllLive c.s.log ∧ c.s.Passes := by
  let _ := Gattlib.sample
  obtain ⟨c, hc, hP⟩ := (system supplied).reach_of_run_any
    (connectA ++ [.enter (.api (.disconnect "A" none none)), .enter (.api .processAsync),
      .answer .void])
    (c := ⟨.init, [], none⟩)
    (P := fun c => c.fault.isNone && decide (.call (.disconnect 1 (some 7)) ∈ c.s.log))
    (by decide)
  simp only [Bool.and_eq_true, Option.isNone_iff_eq_none, decide_eq_true_eq] at hP
  exact ⟨c, hc, hP.2, triggers_live hc hP.1⟩

/-- Two disconnects are accepted, and the second passes `NULL`. -/
theorem triggers_live_twice :
    ∃ c : Config World Call Resp Fault, @Reach .sample contract .init c ∧ c.fault = none ∧
      ¬ AllLive c.s.log := by
  let _ := Gattlib.sample
  obtain ⟨c, hc, hP⟩ := (system contract).reach_of_run_any
    (connectA ++ [.enter (.api (.disconnect "A" none none)),
      .enter (.api (.disconnect "A" none none)), .enter (.api .processAsync), .answer .void,
      .answer (.code 0), .enter (.api .processAsync), .enter (.event (some 1) .disconnected),
      .answer .void, .enter (.api .processAsync), .answer .void])
    (c := ⟨.init, [], none⟩)
    (P := fun c => c.fault.isNone && decide (.call (.disconnect 2 none) ∈ c.s.log))
    (by decide)
  simp only [Bool.and_eq_true, Option.isNone_iff_eq_none, decide_eq_true_eq] at hP
  exact ⟨c, hc, hP.1, fun h => by cases h _ hP.2⟩

end Gattlibpp
