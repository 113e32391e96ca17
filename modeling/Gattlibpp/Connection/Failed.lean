import Gattlibpp.Act.Runs
import Gattlibpp.Connection.Records
import Gattlibpp.Queue.Steady
import Gattlibpp.Quiet.Requests

/-!
# Failed connects

A connect names its device in `connected_to` when it is requested, and a connect that fails
leaves it so: the connections are what they were, but the device connected earlier is no longer
the one that `shutdown` and `deviceDisconnected` act on.
-/

namespace Gattlibpp

open Open

/-- The entries that say that the connections change: a connect is requested, a device has
connected or has disconnected. -/
@[simp] def Obs.Connects : Obs → Prop
  | queued a => ∃ dev p, a.trigger = .connect dev p
  | enter (.event _ (.connected (some _))) | enter (.event _ .disconnected) => True
  | _ => False

namespace World

/-- `w'` names the device and has the connections that `w` does. -/
structure SameConnections (w w' : World) : Prop where
  connectedTo : w'.ble.connectedTo = w.ble.connectedTo
  connectionOf : ∀ dev, w'.connectionOf dev = w.connectionOf dev

/-- Where `connected_to` names no connected device, the connections stay as they are between `w`
and `w'`, unless the log says that they change. -/
def Reconnects (w w' : World) : Prop :=
  ∃ l, w'.log = w.log ++ l ∧ (w.connectionOf w.ble.connectedTo = none →
    (∀ o ∈ l, ¬ o.Connects) → w.SameConnections w')

variable {w w' w'' : World}

theorem SameConnections.refl (w : World) : w.SameConnections w := ⟨rfl, fun _ => rfl⟩

theorem SameConnections.trans (h : w.SameConnections w') (h' : w'.SameConnections w'') :
    w.SameConnections w'' :=
  ⟨h'.connectedTo.trans h.connectedTo, fun dev => (h'.connectionOf dev).trans (h.connectionOf dev)⟩

theorem sameConnections_of_eq (ht : w'.ble.connectedTo = w.ble.connectedTo)
    (hc : w'.connections = w.connections) : w.SameConnections w' :=
  ⟨ht, fun dev => by rw [connectionOf_eq, connectionOf_eq, hc]⟩

theorem Reconnects.refl (w : World) : w.Reconnects w :=
  ⟨[], (List.append_nil _).symm, fun _ _ => .refl w⟩

theorem Reconnects.trans (h : w.Reconnects w') (h' : w'.Reconnects w'') : w.Reconnects w'' := by
  obtain ⟨l, hl, hw⟩ := h
  obtain ⟨l', hl', hw'⟩ := h'
  refine ⟨l ++ l', by rw [hl', hl, List.append_assoc], fun hno hnone => ?_⟩
  have hs := hw hno fun o ho => hnone o (List.mem_append_left _ ho)
  refine hs.trans (hw' ?_ fun o ho => hnone o (List.mem_append_right _ ho))
  rw [hs.connectedTo, hs.connectionOf]
  exact hno

theorem reconnects_of_same (hs : w.SameConnections w') (hl : w.log <+: w'.log) :
    w.Reconnects w' := by
  obtain ⟨l, hl⟩ := hl
  exact ⟨l, hl.symm, fun _ _ => hs⟩

/-- Nothing happens to the connections after `w'`. -/
theorem Reconnects.keep (h : w.Reconnects w') (hs : w'.SameConnections w'')
    (hl : w'.log <+: w''.log) : w.Reconnects w'' :=
  h.trans (reconnects_of_same hs hl)

theorem reconnects_of_mem {o : Obs} (hl : w'.log = w.log ++ [o]) (ho : o.Connects) :
    w.Reconnects w' :=
  ⟨[o], hl, fun _ hnone => absurd ho (hnone o (List.mem_singleton_self o))⟩

/-- Locks do not matter. -/
theorem Reconnects.setHeld {ds ds' : List UUID}
    (h : Reconnects { w with held := ds } w') : w.Reconnects { w' with held := ds' } := by
  obtain ⟨l, hl, hw⟩ := h
  refine ⟨l, hl, fun hno hnone => ?_⟩
  have hs := hw hno hnone
  exact ⟨hs.connectedTo, hs.connectionOf⟩

theorem steady_reconnects (w : World) : Steady w.Reconnects where
  same h _ hd ht _ hl := h.keep (sameConnections_of_eq ht (connections_of_eq _ hd)) hl
  update h _ _ := h.keep ⟨rfl, fun _ => rfl⟩ List.prefix_rfl
  pop h _ := h.keep ⟨rfl, fun _ => rfl⟩ List.prefix_rfl

/-- A callback of gattlib arrives. -/
theorem reconnects_event (w : World) (of : Option ActionId) (ev : Event) :
    w.Reconnects (ev.apply (w.note (.enter (.event of ev)))) := by
  have hlog : w.log <+: (w.note (.enter (.event of ev))).log := List.prefix_append ..
  cases ev with
  | connected c =>
    cases c with
    | some c => exact reconnects_of_mem (o := .enter (.event of (.connected (some c)))) rfl trivial
    | none =>
      -- the record that gets no connection has none
      refine ⟨[_], rfl, fun hno _ => ⟨rfl, fun dev => ?_⟩⟩
      rw [connectionOf_eq, connections_connected]
      split
      · rename_i hdev
        rw [hdev]
        refine Eq.trans ?_ hno.symm
        cases (w.note _).connections _ <;> rfl
      · exact (connectionOf_eq _ dev).symm
  | disconnected => exact reconnects_of_mem (o := .enter (.event of .disconnected)) rfl trivial
  | _ => exact reconnects_of_same ⟨rfl, fun _ => rfl⟩ hlog

end World

section
variable [Gattlib] {P : Policy} {w w' : World}

/-- **Step lemma.** -/
theorem Act.reconnects (hfifo : Fifo w) (ha : Act P w w') : w.Reconnects w' := by
  have hsteady := World.steady_reconnects w
  refine hsteady.act (.refl w) hfifo ha (fun of ev _ => w.reconnects_event of ev) ?_ ?_ ?_ ?_
  · intro v dev r hv
    have hs := v.servicesStep_connections dev r
    obtain ⟨devices, heq⟩ := v.servicesStep_eq dev r
    rw [heq] at hs ⊢
    exact hv.keep (World.sameConnections_of_eq rfl hs) List.prefix_rfl
  · intro dev c r _ _ _
    have hs := (w.back (.discoverChar dev c) r).charsStep_connections dev r
    obtain ⟨devices, heq⟩ := (w.back (.discoverChar dev c) r).charsStep_eq dev r
    rw [heq] at hs ⊢
    exact (hsteady.back (.refl w) _ r).keep (World.sameConnections_of_eq rfl hs) List.prefix_rfl
  · exact fun e r _ => (hsteady.back (.refl w) e r).keep ⟨rfl, fun _ => rfl⟩ List.prefix_rfl
  · exact fun _ => (hsteady.back (.refl w) _ _).keep ⟨rfl, fun _ => rfl⟩ List.prefix_rfl

omit [Gattlib] in
theorem Request.reconnects {op : Op} (hr : Request w op w') : w.Reconnects w' := by
  have hw := World.Reconnects.refl w
  cases hr with
  | connect dev p succ fail =>
    exact World.reconnects_of_mem (o := .queued _) rfl ⟨dev, _, rfl⟩
  | stopScanCancel _ _ a =>
    have hc : w.Reconnects ((w.complete a.id).note (.cancelled a.id)) :=
      (World.steady_reconnects w).note ((World.steady_reconnects w).complete hw a.id) _
    exact hc.keep ⟨rfl, fun _ => rfl⟩ (List.prefix_append ..)
  | _ => exact hw.keep ⟨rfl, fun _ => rfl⟩ (List.prefix_append ..)

omit [Gattlib] in
theorem Subs.reconnects (hs : Subs P w w') : w.Reconnects w' := by
  have hc := w.connections_subs hs
  cases hs
  exact (World.Reconnects.refl w).keep (World.sameConnections_of_eq rfl hc) List.prefix_rfl

def reconnectClaim (P : Policy) : Claim P where
  inv := Fifo
  extra := World.Reconnects
  crash _ _ := True
  refl := .refl
  trans _ _ _ := World.Reconnects.trans
  unlocked := World.Reconnects.setHeld
  act h ha := ⟨h.act ha, Act.reconnects h ha⟩
  exit h _ := ⟨h.note ⟨rfl, rfl, rfl⟩, (World.steady_reconnects _).note (.refl _) _⟩
  drop _ h _ _ _ := ⟨h.setTicks _, (World.steady_reconnects _).setTicks (.refl _) _⟩
  request h _ hr := ⟨h.request hr, hr.reconnects⟩
  freed _ _ _ _ _ _ := trivial
  missing _ _ _ _ _ _ _ _ := trivial
  other _ _ := trivial

/-- **Run lemma.** -/
theorem reconnects_reach {c c' : Config World Call Resp Fault} (h : Reach P .init c)
    (h' : (system P).Reach c c') (hf : c'.fault = none) : c.s.Reconnects c'.s :=
  Claim.runs (C := reconnectClaim P) World.Reconnects.trans
    (fun h hs => ⟨h.subs hs, hs.reconnects⟩) (fun _ _ _ => trivial) trivial (Terms.within_any _) .init h h' hf

/-! ## The result -/

omit [Gattlib] in
theorem World.Opened.sameConnections (h : w.Opened w') : w.SameConnections w' :=
  World.sameConnections_of_eq h.connectedTo (w.connections_of_eq h.devices)

omit [Gattlib] in
/-- A connect names its device, which has no connection. -/
theorem Request.connects {dev : UUID} {p : Option ConnectionParams} {succ fail : Callback}
    (h : Request w (.connect dev p succ fail) w') : w'.ble.connectedTo = dev ∧
      w.connectionOf dev = none ∧ ∀ e, w'.connectionOf e = w.connectionOf e := by
  have hrecord := h.record
  cases h with
  | connect _ _ _ _ _ hno =>
    have hdev : w.connectionOf dev = none := by
      unfold World.connectionOf
      cases hd : w.ble.devices[dev]? with
      | none => rfl
      | some d =>
        have hnone : ¬ d.connection.isSome = true := fun hc =>
          absurd ((w.ble.isConnected_iff dev).mpr ⟨d, hd, hc⟩) (by rw [hno]; simp)
        simpa using hnone
    refine ⟨rfl, hdev, fun e => ?_⟩
    unfold World.connectionOf
    rcases hrecord e with hsame | ⟨hnone, hnew⟩
    · rw [hsame]
    · rw [hnone, hnew]
      rfl

/-- In `l` the connect `t` fails, by its return code or by a callback without a connection, and
nothing else happens to the connections. -/
structure FailsAlone (t : ActionId) (l : List Obs) : Prop where
  failed : (∃ dev p r, .ret (.connect t dev p) r ∈ l ∧ r.rc ≠ 0) ∨
    .enter (.event (some t) (.connected none)) ∈ l
  alone : ∀ o ∈ l, ¬ o.Connects

/-- **A connect that fails leaves the connection state as it was** exactly where `connected_to`
has named the device before. The connections themselves it always leaves. -/
theorem connect_fails {c : Config World Call Resp Fault} {w' : World} {dev : UUID}
    {p : Option ConnectionParams} {succ fail : Callback} (h : Reach .any .init c)
    (hf : c.fault = none) (hcall : (Op.connect dev p succ fail).Called c.s (.bool true) w') :
    ∃ q a, w'.ble.asyncActions = q ++ [a] ∧ (∃ p', a.trigger = .connect dev p') ∧
      a.callbacks.failure = fail ∧ ∀ c' l, (system .any).Reach ⟨w', c.stack, none⟩ c' →
        c'.fault = none → c'.s.log = w'.log ++ l → FailsAlone a.id l →
        (∀ e, c'.s.connectionOf e = c.s.connectionOf e) ∧
          (c.s.SameConnections c'.s ↔ c.s.ble.connectedTo = dev) := by
  have hreach : Reach .any .init ⟨w', c.stack, none⟩ := by
    obtain ⟨s, st, fault⟩ := c
    cases hf
    exact h.trans (hcall.reach st)
  obtain ⟨w2, ⟨w1, hw1, hr⟩, rfl⟩ := connect_requested hcall
  have hn : c.s.SameConnections (c.s.note (.enter (.api (.connect dev p succ fail)))) :=
    ⟨rfl, fun _ => rfl⟩
  have hsame : c.s.SameConnections w1 := hn.trans hw1.sameConnections
  obtain ⟨hto, hno, hconn⟩ := hr.connects
  have hq : ∃ q a, w2.ble.asyncActions = q ++ [a] ∧ (∃ p', a.trigger = .connect dev p') ∧
      a.callbacks.failure = fail := by
    cases hr
    exact ⟨_, _, rfl, ⟨_, rfl⟩, rfl⟩
  obtain ⟨q, a, hq, htr, hcb⟩ := hq
  refine ⟨q, a, hq, htr, hcb, fun c' l hc' hf' hl hfail => ?_⟩
  obtain ⟨l', hl', hkeep⟩ := reconnects_reach hreach hc' hf'
  have hll : l = l' := List.append_cancel_left (hl.symm.trans hl')
  have hno2 : w2.connectionOf w2.ble.connectedTo = none := by rw [hto, hconn, hno]
  have hend := hkeep hno2 (hll ▸ hfail.alone)
  have hall (e : UUID) : c'.s.connectionOf e = c.s.connectionOf e :=
    (hend.connectionOf e).trans ((hconn e).trans (hsame.connectionOf e))
  have htarget : c'.s.ble.connectedTo = dev := hend.connectedTo.trans hto
  refine ⟨hall, fun hs => ?_, fun hdev => ⟨htarget.trans hdev.symm, hall⟩⟩
  rw [← hs.connectedTo, htarget]

end

/-- The first connect has failed, and so does the second one to the same device. -/
theorem connect_fails_again : ∃ (c c' : Config World Call Resp Fault) (w' : World),
    @Reach .sample .any .init c ∧
      @Op.Called .sample (.connect "A" none none none) c.s (.bool true) w' ∧
      (@system .sample .any).Reach ⟨w', c.stack, none⟩ c' ∧
      (∃ t p r, .ret (.connect t "A" p) r ∈ c'.s.log ∧ r.rc = 2) ∧ c.s.SameConnections c'.s := by
  let _ := Gattlib.sample
  obtain ⟨c, hc, hP⟩ := (system .any).reach_of_run_any
    [.enter (.api (.connect "A" none none none)), .answer (.adapter 3),
      .enter (.api .processAsync), .answer .void, .answer (.code 1), .enter (.api .processAsync),
      .answer .void]
    (c := ⟨.init, [], none⟩)
    (P := fun c => c.fault.isNone && (c.s.ble.connectedTo == "A" &&
      ((Op.connect "A" none none none).callNow c.s).any fun p => p.1 = .bool true &&
        (p.2.ble.asyncActions.map (·.id)) == [1] &&
        ((system .any).run ⟨p.2, c.stack, none⟩ [.enter (.api .processAsync), .answer .void,
          .answer (.code 2)]).any fun c' => c'.fault.isNone &&
            c'.s.log == p.2.log ++ [.enter (.api .processAsync), .call .asyncProcessAll,
              .ret .asyncProcessAll .void, .triggered 1, .call (.connect 1 "A" {}),
              .ret (.connect 1 "A" {}) (.code 2), .exit (.api .processAsync) .void])) (by decide)
  simp only [Bool.and_eq_true, Option.isNone_iff_eq_none, decide_eq_true_eq, Option.any_eq_true,
    beq_iff_eq, Prod.exists] at hP
  obtain ⟨hf, hto, r, w', hnow, ⟨rfl, hids⟩, c', hrun, hf', hlog⟩ := hP
  obtain ⟨q, a, hq, -, -, hall⟩ := connect_fails hc hf (Op.called_of_now hnow)
  have hid : a.id = 1 := by
    rw [hq, List.map_append] at hids
    simpa using congrArg List.getLast? hids
  have hrun' := (system .any).reach_of_run hrun
  refine ⟨c, c', w', hc, Op.called_of_now hnow, hrun', ⟨1, {}, .code 2, by rw [hlog]; simp, rfl⟩, ?_⟩
  refine (hall c' _ hrun' hf' hlog ⟨.inl ⟨"A", {}, .code 2, ?_, by decide⟩, ?_⟩).2.mpr hto
  · rw [hid]
    simp
  · simp

/-- `"A"` is connected, and gattlib turns a connect to `"B"` down: `connected_to` names `"B"`. -/
theorem connect_fails_other : ∃ (c c' : Config World Call Resp Fault) (w' : World) (l : List Obs)
    (t : ActionId), @Reach .sample .any .init c ∧ c.s.ble.asyncActions = [] ∧
      c.s.ble.connectedTo = "A" ∧ c.s.connectionOf "A" = some 7 ∧
      @Op.Called .sample (.connect "B" none none none) c.s (.bool true) w' ∧
      (@system .sample .any).Reach ⟨w', c.stack, none⟩ c' ∧ c'.s.log = w'.log ++ l ∧
      FailsAlone t l ∧ c'.s.ble.connectedTo = "B" ∧ ¬ c.s.SameConnections c'.s := by
  let _ := Gattlib.sample
  obtain ⟨c, hc, hP⟩ := (system .any).reach_of_run_any
    [.enter (.api (.setAutoDiscoverOnConnect false)), .enter (.api (.connect "A" none none none)),
      .answer (.adapter 3), .enter (.api .processAsync), .answer .void, .answer (.code 0),
      .enter (.event (some 0) (.connected (some 7))), .enter (.api .processAsync), .answer .void]
    (c := ⟨.init, [], none⟩)
    (P := fun c => c.fault.isNone && (c.s.ble.connectedTo == "A" && c.s.ble.asyncActions.isEmpty &&
      c.s.connectionOf "A" == some 7 &&
      ((Op.connect "B" none none none).callNow c.s).any fun p => p.1 = .bool true &&
        ((system .any).run ⟨p.2, c.stack, none⟩ [.enter (.api .processAsync), .answer .void,
          .answer (.code 2)]).any fun c' => c'.fault.isNone && c'.s.ble.connectedTo == "B" &&
            c'.s.log == p.2.log ++ [.enter (.api .processAsync), .call .asyncProcessAll,
              .ret .asyncProcessAll .void, .triggered 1, .call (.connect 1 "B" {}),
              .ret (.connect 1 "B" {}) (.code 2), .exit (.api .processAsync) .void])) (by decide)
  simp only [Bool.and_eq_true, Option.isNone_iff_eq_none, decide_eq_true_eq, Option.any_eq_true,
    beq_iff_eq, Prod.exists, List.isEmpty_iff] at hP
  obtain ⟨-, ⟨⟨hto, hq⟩, hconn⟩, r, w', hnow, rfl, c', hrun, ⟨-, hto'⟩, hlog⟩ := hP
  refine ⟨c, c', w', _, 1, hc, hq, hto, hconn, Op.called_of_now hnow,
    (system .any).reach_of_run hrun, hlog, ⟨.inl ⟨"B", {}, .code 2, by simp, by decide⟩, by simp⟩,
    hto', fun hs => ?_⟩
  have hb := hs.connectedTo
  rw [hto, hto'] at hb
  exact absurd hb (by decide)

end Gattlibpp
