import Gattlibpp.Discovery.Recorded
import Gattlibpp.Quiet.Requests
import Gattlibpp.Scan.Heard

/-!
# A scan asked for while connected

`scan` builds an action that would disconnect first, and does not queue it. The scan runs in the
next tick that reaches the queue, with the device still connected.
-/

namespace Gattlibpp

open Open

/-- From `w` to `w'` a scan is enabled only after the connection has been disconnected: gattlib
was called for it, and has answered. -/
def World.DisconnectsFirst (connection : Option Conn) (w w' : World) : Prop :=
  ∀ before t isOpen seconds after,
    w'.log = w.log ++ before ++ .call (.scanEnable t isOpen seconds) :: after →
    ∃ t', .call (.disconnect t' connection) ∈ before ∧ t' ∈ answeredIds before

section
variable [Gattlib] {w v : World} {a : AsyncAction.Details} {seconds : UInt16}

/-! ## The tick that runs the scan -/

omit [Gattlib] in
/-- A scan that waits at the front is enabled. -/
theorem tickAction_enables (hf : w.front = some a) (hp : a.state = .pending)
    (htr : a.trigger = .scan seconds) : ∃ k, tickAction w =
      .call ((w.start a.id).push (.scanEnable a.id w.ble.adapterIsOpen seconds))
        (.scanEnable a.id w.ble.adapterIsOpen seconds) k := by
  obtain ⟨rest, hq⟩ := List.head?_eq_some_iff.mp hf
  simp only [tickAction, ble_apply, Prog.bind_apply, Out.bind_done, hq, Prog.ite_apply,
    AsyncAction.Details.isPending, hp, decide_true, if_true, AsyncAction.Details.run, Bool.not_true,
    Bool.false_eq_true, if_false, Prog.modify_apply, note_apply, htr, Trigger.fire]
  exact ⟨_, rfl⟩

/-- The world once gattlib has come back to a tick from `v`. -/
def World.polled (v : World) : World :=
  ((v.note (.enter (.api .processAsync))).push .asyncProcessAll).back .asyncProcessAll .void

omit [Gattlib] in
theorem World.polled_log (v : World) : v.polled.log = v.log ++
    [.enter (.api .processAsync), .call .asyncProcessAll, .ret .asyncProcessAll .void] := by
  simp [polled]

/-- A tick is entered, and gattlib comes back to it. -/
theorem tick_reach (v : World) (st : List (Frame World Call Resp Fault)) :
    (system ticking).Reach ⟨v, st, none⟩
      (land (((tickRest v.polled).bind fun _ => note (.exit (.api .processAsync) .void)).trap
        (·.note (.raised (.api .processAsync)))) st) := by
  have hcall : (Move.api .processAsync).prog v = .call
      ((v.note (.enter (.api .processAsync))).push .asyncProcessAll) .asyncProcessAll fun r w =>
        ((tickRest (w.back .asyncProcessAll r)).bind fun _ =>
          note (.exit (.api .processAsync) .void)).trap
            (·.note (.raised (.api .processAsync))) := by
    simp only [Move.prog, Prog.trapped, Prog.bind_apply, note_apply, Out.bind_done, Op.run,
      processAsync_eq, callOut, Out.bind_call, Out.trap, Out.bind_assoc]
    rfl
  have henter : (system ticking).Step ⟨v, st, none⟩ (land ((Move.api .processAsync).prog v) st) :=
    System.Step.enter (S := system ticking) (.api .processAsync) (ticking_processAsync v)
  rw [hcall] at henter
  exact (Relation.ReflTransGen.single henter).tail
    (System.Step.answer (S := system ticking) .void ⟨fun t ht => (by cases ht), trivial⟩)

/-- With only prints to report, a tick enables the scan at the front. -/
theorem enabled_of_prints (st : List (Frame World Call Resp Fault)) (hf : v.front = some a)
    (hp : a.state = .pending) (htr : a.trigger = .scan seconds)
    (hprints : ∀ op ∈ v.ble.reportQueue, op.prints = true) :
    ∃ c l, (system ticking).Reach ⟨v, st, none⟩ c ∧ c.fault = none ∧
      c.s.log = v.log ++ l ++ [.call (.scanEnable a.id v.ble.adapterIsOpen seconds)] ∧
      ∀ e, .call e ∈ l → e.action = none := by
  have hreach := tick_reach v st
  -- the reports have been run
  let v2 : World := { v.polled with
    ble := { v.ble with reportQueue := [] }
    log := v.polled.log ++ v.ble.reportQueue.map .ran }
  obtain ⟨k, hk⟩ := tickAction_enables (w := v2) hf hp htr
  have hrest : tickRest v.polled =
      .call ((v2.start a.id).push (.scanEnable a.id v.ble.adapterIsOpen seconds))
        (.scanEnable a.id v.ble.adapterIsOpen seconds) k := by
    have hrun := runReports_prints v.ble.reportQueue []
      (w := { v.polled with
        ticks := v.ble.reportQueue :: v.polled.ticks
        ble := { v.ble with reportQueue := [] } }) hprints (by rw [List.append_nil])
    rw [List.append_nil] at hrun
    rw [tickRest_eq]
    change ((runReports v.ble.reportQueue _).leave _).bind _ = _
    rw [show v.polled.ble = v.ble from rfl, hrun]
    exact hk
  rw [hrest] at hreach
  refine ⟨_, .enter (.api .processAsync) :: .call .asyncProcessAll ::
    .ret .asyncProcessAll .void :: (v.ble.reportQueue.map .ran ++ [.triggered a.id]), hreach, rfl,
    ?_, by simp [Call.action]⟩
  simp [land, Out.trap, v2, World.polled_log]

/-! ## A report that does more -/

/-- Control leaves at a report that does more than print and reports no connect. -/
theorem QueuedOp.run_stops {op : QueuedOp} (hop : op.prints = false) (hne : op ≠ .reportConnected)
    (hopen : w.ble.adapterIsOpen = true) (hrec : ∀ dev ∈ op.onDevice, dev ∈ w.ble.devices) :
    (op.run w).Stops fun w' => w'.ble = w.ble ∧ w.CallsNothing w' := by
  have hpush {e : Call} (he : e.action = none) :
      (w.push e).ble = w.ble ∧ w.CallsNothing (w.push e) :=
    ⟨rfl, [.call e], rfl, fun e' he' => by cases List.mem_singleton.mp he'; exact he⟩
  have hinvoke (cb : Callback) (arg : Arg) (role : Role) (hcb : cb ≠ some .debugPrint) :
      (Callback.invoke cb arg role w).Stops fun w' => w'.ble = w.ble ∧ w.CallsNothing w' := by
    cases cb with
    | none => exact ⟨rfl, [], (List.append_nil _).symm, by simp⟩
    | some f =>
      cases f with
      | user id => exact hpush (e := .user id arg role) rfl
      | doneCb frame =>
        simp only [Callback.invoke, Fn.invoke, doneCb, adapterClose, ble_apply, Prog.bind_apply,
          Out.bind_done, hopen, Bool.not_true, Bool.false_eq_true, Prog.ite_apply, if_false]
        exact hpush (e := .adapterClose w.ble.adapter) rfl
      | debugPrint => exact absurd rfl hcb
  have hdiscover {dev : UUID} (hdev : dev ∈ w.ble.devices) : ∃ d, record dev w = .done w d := by
    obtain ⟨d, hd⟩ := Option.isSome_iff_exists.mp (Std.TreeMap.mem_iff_isSome_getElem?.mp hdev)
    exact ⟨d, by rw [record_eq, hd]⟩
  cases op with
  | callback cb | readData cb | notification cb =>
    exact hinvoke cb _ _ (by simpa [QueuedOp.prints] using hop)
  | autoDiscoverServicesStep dev =>
    obtain ⟨d, hd⟩ := hdiscover (hrec dev rfl)
    simp only [QueuedOp.run, Gattlibpp.autoDiscoverServicesStep, performServiceDiscovery,
      Prog.bind_apply, hd, Out.bind_done]
    exact hpush (e := .discoverPrimary dev d.connection) rfl
  | autoDiscoverCharacteristicsStep dev =>
    obtain ⟨d, hd⟩ := hdiscover (hrec dev rfl)
    simp only [QueuedOp.run, Gattlibpp.autoDiscoverCharacteristicsStep,
      performCharacteristicsDiscovery, Prog.bind_apply, hd, Out.bind_done]
    exact hpush (e := .discoverChar dev d.connection) rfl
  | reportConnected => exact absurd rfl hne

/-- A tick that comes to such a report stops there, with the queue as it was and no reports left. -/
theorem stopped_of_report (st : List (Frame World Call Resp Fault)) {pre rest : List QueuedOp}
    {op : QueuedOp} (hq : v.ble.reportQueue = pre ++ op :: rest)
    (hpre : ∀ x ∈ pre, x.prints = true) (hop : op.prints = false) (hne : op ≠ .reportConnected)
    (hopen : v.ble.adapterIsOpen = true) (hrec : ∀ dev ∈ op.onDevice, dev ∈ v.ble.devices) :
    ∃ c, (system ticking).Reach ⟨v, st, none⟩ c ∧ c.fault = none ∧
      c.s.ble = { v.ble with reportQueue := [] } ∧ v.CallsNothing c.s := by
  have hreach := tick_reach v st
  -- where the report runs
  let v2 : World := { v.polled with
    ticks := rest :: v.polled.ticks
    ble := { v.ble with reportQueue := [] }
    log := v.polled.log ++ pre.map .ran ++ [.ran op] }
  have hcalls : v.CallsNothing v2 := by
    refine ⟨.enter (.api .processAsync) :: .call .asyncProcessAll ::
      .ret .asyncProcessAll .void :: (pre.map .ran ++ [.ran op]), ?_, by simp [Call.action]⟩
    simp [v2, World.polled_log]
  have hstop := (QueuedOp.run_stops (w := v2) hop hne hopen hrec).mono fun w' hw' =>
    (⟨hw'.1, hcalls.trans hw'.2⟩ : w'.ble = v2.ble ∧ v.CallsNothing w')
  have hrest : (tickRest v.polled).Stops fun w' => w'.ble = v2.ble ∧ v.CallsNothing w' := by
    have hrun := runReports_prints pre (op :: rest)
      (w := { v.polled with
        ticks := (pre ++ op :: rest) :: v.polled.ticks
        ble := { v.ble with reportQueue := [] } }) hpre rfl
    rw [tickRest_eq, show v.polled.ble = v.ble from rfl, hq, hrun]
    simp only [runReports, Prog.bind_apply, Prog.modify_apply, note_apply, Out.bind_done,
      List.tail_cons]
    exact (Out.Stops.leave (f := fun w => { w with ticks := w.ticks.tail }) (hstop.bind _)
      fun _ h => h).bind _
  have hland := ((hrest.bind fun _ => note (.exit (.api .processAsync) .void)).trap
    (f := (·.note (.raised (.api .processAsync)))) fun w' hw' =>
      ⟨hw'.1, hw'.2.trans (.note _ (by simp))⟩).land st
  exact ⟨_, hreach, hland.2, hland.1.1, hland.1.2⟩

/-- A scan that waits at the front is enabled sooner or later, with no other action called for,
unless a connect is reported first. -/
theorem enabled_of_not_hears (st : List (Frame World Call Resp Fault)) (hf : v.front = some a)
    (hp : a.state = .pending) (htr : a.trigger = .scan seconds) (hopen : v.ble.adapterIsOpen = true)
    (hrec : ∀ op ∈ v.ble.reportQueue, ∀ dev ∈ op.onDevice, dev ∈ v.ble.devices)
    (hno : ¬ HearsConnect v.ble.reportQueue) :
    ∃ c l, (system ticking).Reach ⟨v, st, none⟩ c ∧ c.fault = none ∧
      c.s.log = v.log ++ l ++ [.call (.scanEnable a.id true seconds)] ∧
      ∀ e, .call e ∈ l → e.action = none := by
  cases hfind : v.ble.reportQueue.find? (! ·.prints) with
  | none =>
    have hprints (op : QueuedOp) (hop : op ∈ v.ble.reportQueue) : op.prints = true := by
      simpa using List.find?_eq_none.mp hfind op hop
    rw [← hopen]
    exact enabled_of_prints st hf hp htr hprints
  | some op =>
    obtain ⟨hop, pre, rest, hq, hpre⟩ := List.find?_eq_some_iff_append.mp hfind
    have hne : op ≠ .reportConnected := by
      rintro rfl
      exact hno hfind
    obtain ⟨c1, h1, hf1, hble, l1, hl1, hc1⟩ := stopped_of_report st hq
      (fun x hx => by simpa using hpre x hx) (by simpa using hop) hne hopen
      (hrec op (by rw [hq]; simp))
    obtain ⟨s1, st1, fault1⟩ := c1
    cases hf1
    have hfront : s1.front = some a := by
      rw [World.front, hble]
      exact hf
    have hopen1 : s1.ble.adapterIsOpen = true := by rw [hble]; exact hopen
    -- the reports are gone, so the next tick, inside the call or after the exception, enables it
    obtain ⟨c2, l2, h2, hf2, hlog2, hc2⟩ := enabled_of_prints st1 hfront hp htr
      (by rw [hble]; simp)
    rw [hopen1] at hlog2
    refine ⟨c2, l1 ++ l2, h1.trans h2, hf2, ?_, fun e he => ?_⟩
    · rw [hlog2, hl1]
      simp only [List.append_assoc]
    · exact (List.mem_append.mp he).elim (hc1 e) (hc2 e)

/-! ## The result -/

omit [Gattlib] in
/-- Where no scan is enabled, none is enabled too early. -/
theorem World.CallsNothing.disconnectsFirst {w w' : World} (h : w.CallsNothing w')
    (connection : Option Conn) : w.DisconnectsFirst connection w' := by
  obtain ⟨l, hl, hcall⟩ := h
  intro before t isOpen secs after hlog
  rw [hl, List.append_assoc] at hlog
  have hsplit := List.append_cancel_left hlog
  cases hcall (.scanEnable t isOpen secs) (by rw [hsplit]; simp)

/-- A scan accepted with nothing queued is alone in the queue; the reports stay as they were. -/
theorem scan_alone {w' : World} {succ disc fail : Callback} (hs : w.ble.isScanning = false)
    (hq : w.ble.asyncActions = [])
    (hcall : (Op.scan seconds succ disc fail).Called w (.bool true) w') :
    ∃ a : AsyncAction.Details, w'.ble.asyncActions = [a] ∧ a.state = .pending ∧
      a.trigger = .scan seconds ∧ w'.ble.adapterIsOpen = true ∧
      w'.ble.reportQueue = w.ble.reportQueue ∧ w'.ticks = w.ticks := by
  obtain ⟨w1, ⟨w2, ho, hr⟩, rfl⟩ := scan_requested hs hcall
  cases hr with
  | scan _ _ _ _ hopen _ =>
    have hnil : w2.ble.asyncActions = [] := ho.asyncActions.trans hq
    refine ⟨⟨w2.serial, "scan", .pending, { success := succ, failure := fail }, .scan seconds, 0⟩,
      ?_, rfl, rfl, hopen, ho.reportQueue, ho.ticks⟩
    change w2.ble.asyncActions ++ [_] = _
    rw [hnil, List.nil_append]
    rfl

/-- **A scan asked for while connected** disconnects first exactly where it is never enabled:
where the next tick reports a connect, and so completes it. -/
theorem scan_disconnects_first {c : Config World Call Resp Fault} {w' : World} {k : Conn}
    {succ disc fail : Callback} (h : Reach .any .init c) (hf : c.fault = none)
    (_hopen : c.s.ble.adapterIsOpen = true) (hs : c.s.ble.isScanning = false)
    (_hk : c.s.connectionOf c.s.ble.connectedTo = some k) (hq : c.s.ble.asyncActions = [])
    (hcall : (Op.scan seconds succ disc fail).Called c.s (.bool true) w') :
    ((∀ c', (system ticking).Reach ⟨w', c.stack, none⟩ c' → c'.fault = none →
        w'.DisconnectsFirst (some k) c'.s) → HearsConnect c.s.ble.reportQueue) ∧
    (c.stack = [] → HearsConnect c.s.ble.reportQueue →
      ∀ c', (system ticking).Reach ⟨w', c.stack, none⟩ c' → c'.fault = none →
        w'.DisconnectsFirst (some k) c'.s) := by
  have hreach : Reach .any .init ⟨w', c.stack, none⟩ := by
    obtain ⟨s, st, fault⟩ := c
    cases hf
    exact h.trans (hcall.reach st)
  have hfifo : Fifo w' := fifo_reach hreach rfl
  have hrec := recorded_reach hreach rfl
  have hticks : c.stack = [] → c.s.ticks = [] := fun hst =>
    ((Claim.fits (fifoClaim_notifies .any) trivial).base Fifo.init h hf hst).1.kept.ticks
  obtain ⟨a, hqueue, hp, htr, hopen, hreports, hts⟩ := scan_alone hs hq hcall
  constructor
  · intro hall
    by_contra hno
    rw [← hreports] at hno
    obtain ⟨c', l, hc', hf', hlog, hl⟩ := enabled_of_not_hears c.stack
      (by rw [World.front, hqueue]; rfl) hp htr hopen hrec hno
    obtain ⟨t, ht, -⟩ := hall c' hc' hf' l a.id true seconds [] hlog
    cases hl _ ht
  · intro hst hears c' hc' hf'
    rw [hst] at hc'
    rw [← hreports] at hears
    have hw : w'.Waits := ⟨hts.trans (hticks hst), hears, a, seconds, hqueue, htr⟩
    exact (not_enabled hfifo hw hc' hf').disconnectsFirst _

end

/-- A discovery outlives its connect, so its last report meets a scan in an empty queue: the
scan is completed before it runs. -/
theorem scan_disconnects_first_heard : ∃ (c : Config World Call Resp Fault) (w' : World) (k : Conn),
    @Reach .sample .any .init c ∧ c.s.connectionOf c.s.ble.connectedTo = some k ∧
      c.s.ble.asyncActions = [] ∧ @Op.Called .sample (.scan 5 none none none) c.s (.bool true) w' ∧
      ∀ c', (@system .sample ticking).Reach ⟨w', c.stack, none⟩ c' → c'.fault = none →
        w'.DisconnectsFirst (some k) c'.s := by
  let _ := Gattlib.sample
  obtain ⟨c, hc, hP⟩ := (system .any).reach_of_run_any
    [.enter (.api (.connect "A" none none none)), .answer (.adapter 3), .enter (.api .processAsync),
      .answer .void, .answer (.code 0), .enter (.event (some 0) (.connected (some 7))),
      .enter (.event none .opDone), .enter (.api .processAsync), .answer .void,
      .answer (.services []), .enter (.api .processAsync), .answer .void,
      .answer (.characteristics [])]
    (c := ⟨.init, [], none⟩)
    (P := fun c => c.fault.isNone && c.s.ble.adapterIsOpen && ! c.s.ble.isScanning &&
      (c.s.connectionOf c.s.ble.connectedTo == some 7) && c.s.ble.asyncActions.isEmpty &&
      c.stack.isEmpty && decide (HearsConnect c.s.ble.reportQueue) &&
      ((Op.scan 5 none none none).callNow c.s).any fun p => p.1 = .bool true) (by decide +kernel)
  simp only [Bool.and_eq_true, Option.isNone_iff_eq_none, Bool.not_eq_true', beq_iff_eq,
    List.isEmpty_iff, decide_eq_true_eq, Option.any_eq_true, Prod.exists] at hP
  obtain ⟨⟨⟨⟨⟨⟨⟨hf, hopen⟩, hs⟩, hk⟩, hq⟩, hst⟩, hears⟩, r, w', hnow, rfl⟩ := hP
  have hcall := Op.called_of_now hnow
  exact ⟨c, w', 7, hc, hk, hq, hcall,
    (scan_disconnects_first hc hf hopen hs hk hq hcall).2 hst hears⟩

/-- Connect, then scan: the next tick enables the scan with the device still connected. -/
theorem scan_disconnects_first_violated : ∃ (c c' : Config World Call Resp Fault) (w' : World)
    (k : Conn), @Reach .sample contract .init c ∧ c.fault = none ∧ c.stack = [] ∧
      c.s.ble.adapterIsOpen = true ∧ c.s.ble.isScanning = false ∧
      c.s.connectionOf c.s.ble.connectedTo = some k ∧ c.s.ble.asyncActions = [] ∧
      @Op.Called .sample (.scan 5 none none none) c.s (.bool true) w' ∧
      (@system .sample ticking).Reach ⟨w', c.stack, none⟩ c' ∧ c'.fault = none ∧
      ¬ w'.DisconnectsFirst (some k) c'.s := by
  let _ := Gattlib.sample
  obtain ⟨c, hc, hP⟩ := (system contract).reach_of_run_any
    [.enter (.api (.connect "A" none none none)), .answer (.adapter 3), .enter (.api .processAsync),
      .answer .void, .answer (.code 0), .enter (.api .processAsync),
      .enter (.event (some 0) (.connected (some 7))), .answer .void, .answer (.services []),
      .enter (.api .processAsync), .answer .void, .answer (.characteristics []),
      .enter (.api .processAsync), .answer .void]
    (c := ⟨.init, [], none⟩)
    (P := fun c => c.fault.isNone && c.stack.isEmpty && c.s.ble.adapterIsOpen &&
      ! c.s.ble.isScanning && (c.s.connectionOf c.s.ble.connectedTo == some 7) &&
      c.s.ble.asyncActions.isEmpty && ((Op.scan 5 none none none).callNow c.s).any fun p =>
        p.1 = .bool true && ((system ticking).run ⟨p.2, c.stack, none⟩
          [.enter (.api .processAsync), .answer .void]).any fun c' => c'.fault.isNone &&
            c'.s.log == p.2.log ++ [.enter (.api .processAsync), .call .asyncProcessAll,
              .ret .asyncProcessAll .void, .triggered 1] ++ [.call (.scanEnable 1 true 5)])
    (by decide +kernel)
  simp only [Bool.and_eq_true, Option.isNone_iff_eq_none, Bool.not_eq_true', beq_iff_eq,
    List.isEmpty_iff, decide_eq_true_eq, Option.any_eq_true, Prod.exists] at hP
  obtain ⟨⟨⟨⟨⟨⟨hf, hst⟩, hopen⟩, hs⟩, hk⟩, hq⟩, r, w', hnow, rfl, c', hrun, hf', hlog⟩ := hP
  refine ⟨c, c', w', 7, hc, hf, hst, hopen, hs, hk, hq, Op.called_of_now hnow,
    (system ticking).reach_of_run hrun, hf', fun hfirst => ?_⟩
  obtain ⟨t, ht, -⟩ := hfirst _ _ _ _ [] hlog
  simp at ht

end Gattlibpp
