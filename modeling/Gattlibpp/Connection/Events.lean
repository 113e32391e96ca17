import Gattlibpp.Act.Landing
import Gattlibpp.Connection.Target

/-!
# Connection events

The callbacks for a connect and a disconnect change the record of the device the action is
for, and no other, in every run where connects and disconnects do not overlap.
-/

namespace Gattlibpp

open Open

section
variable [Gattlib]

/-! ## The right device -/

/-- Where the callback `ev` for the action `t` leaves the library. -/
abbrev Event.landing (ev : Event) (t : ActionId) (w : World) : Out World Call Resp Fault Unit :=
  (Move.event (some t) ev).prog w

/-- The callback `ev` for the action `a` finds a record, and changes the connection of the
device that `a` is for and of no other. -/
def RightDevice (w : World) (a : AsyncAction.Details) (ev : Event) : Prop :=
  match ev, a.trigger with
  | .connected c, .connect dev _ =>
    (ev.landing a.id w).fault ≠ some .nullRecord ∧
    ∀ e, (ev.landing a.id w).state.connectionOf e = if e = dev then c else w.connectionOf e
  | .disconnected, .disconnect dev =>
    ∀ e, (ev.landing a.id w).state.connectionOf e = if e = dev then none else w.connectionOf e
  | _, _ => True

/-- **Connection events go to the right device** in every run in which connects and
disconnects do not overlap. -/
theorem connection_events {c : Config World Call Resp Fault} (h : Reach oneTarget .init c)
    (hf : c.fault = none) {a : AsyncAction.Details} (ha : a ∈ c.s.ble.asyncActions) {ev : Event}
    (hm : oneTarget.enter c.s (.event (some a.id) ev)) : RightDevice c.s a ev := by
  obtain ⟨hw, ht⟩ := targets_reach h hf
  generalize c.s = w at *
  replace hm := (oneTarget_within w).enter _ hm
  -- the action that is answered is the front, and open
  have hopen : a.Open w.log := by
    refine ⟨fun hs => ?_, (Alive.unanswered hm.1).1⟩
    rcases hw.answer hm with ⟨-, hnil⟩ | ⟨b, rest, hq, hid, hs', -⟩
    · rw [hnil] at ha
      cases ha
    · rw [hq] at ha
      rcases List.mem_cons.mp ha with rfl | ha
      · rw [hs] at hs'
        cases hs'
      · exact hw.fifo.front_once hq a ha hid.symm
  unfold RightDevice
  cases ev with
  | connected conn =>
    cases htr : a.trigger with
    | connect dev p =>
      obtain ⟨hto, -, hrec⟩ := ht.connect a ha hopen dev p htr
      have hd : (w.ble.devices[w.ble.connectedTo]?).isSome := by
        rw [hto]
        simpa [World.connections] using hrec
      have hk := prog_lands (R := (· ≠ .nullRecord)) (some a.id) (.connected conn)
        (deviceConnected_lands (w := w.note _) conn hd fun how _ =>
          World.canFinish_of (by simp) how)
      have hstate : ((Event.connected conn).landing a.id w).state.ble.devices =
          ((Event.connected conn).apply w).ble.devices := by
        rw [hk.state]
        split
        · exact World.finishFront_devices ..
        · rfl
      refine ⟨fun hnull => hk.fault _ hnull rfl, fun e => ?_⟩
      rw [World.connectionOf_eq, World.connections_of_eq _ hstate, connections_connected, hto,
        World.connectionOf_eq]
      split
      · rename_i heq
        obtain ⟨x, hx⟩ := Option.isSome_iff_exists.mp hrec
        rw [heq, hx]
        rfl
      · rfl
    | _ => trivial
  | disconnected =>
    cases htr : a.trigger with
    | disconnect dev =>
      have hk := prog_lands (R := (· ≠ .nullRecord)) (some a.id) .disconnected
        (deviceDisconnected_lands (w := w.note _) (World.canFinish_of (by simp) _))
      have hstate : (Event.disconnected.landing a.id w).state.ble.devices =
          (Event.disconnected.apply w).ble.devices := by
        rw [hk.state]
        exact World.finishFront_devices ..
      refine fun e => ?_
      rw [World.connectionOf_eq, World.connections_of_eq _ hstate, connections_disconnected,
        World.connectionOf_eq]
      rcases ht.disconnect a ha hopen dev htr with hto | ⟨hto, hnone⟩
      · rw [hto]
        split
        · cases w.connections e <;> rfl
        · rfl
      · -- nothing is connected any more: the record that is cleared does not exist
        rw [hto]
        by_cases he : e = ""
        · rw [if_pos he, he, ht.unnamed]
          split <;> rfl
        · rw [if_neg he]
          split
          · rename_i heq
            rw [heq]
            exact hnone
          · rfl
    | _ => trivial
  | _ => trivial

end

/-- A connect, and the connection it is answered with. -/
theorem connection_events_connect :
    ∃ c : Config World Call Resp Fault, @Reach .sample oneTarget .init c ∧
      ∃ a ∈ c.s.ble.asyncActions, a.trigger = .connect "A" {} ∧
        @RightDevice .sample c.s a (.connected (some 7)) := by
  let _ := Gattlib.sample
  obtain ⟨c, hc, hP⟩ := (system oneTarget).reach_of_run_any
    [.enter (.api (.connect "A" none none none)), .answer (.adapter 3),
      .enter (.api .processAsync), .answer .void, .answer (.code 0),
      .enter (.api .processAsync)]
    (c := ⟨.init, [], none⟩)
    (P := fun c => c.fault.isNone && c.s.ble.asyncActions.any fun a =>
      decide (a.trigger = .connect "A" {}) &&
        decide (oneTarget.enter c.s (.event (some a.id) (.connected (some 7)))))
    (by decide)
  simp only [Bool.and_eq_true, Option.isNone_iff_eq_none, List.any_eq_true, decide_eq_true_eq] at hP
  obtain ⟨hf, a, ha, htr, hm⟩ := hP
  exact ⟨c, hc, a, ha, htr, connection_events hc hf ha hm⟩

/-- Two connects are queued, and the first is answered: the connection is stored in the
record of the second. -/
theorem connection_events_overlap :
    ∃ c : Config World Call Resp Fault, @Reach .sample contract .init c ∧ c.fault = none ∧
      ∃ a ∈ c.s.ble.asyncActions, contract.enter c.s (.event (some a.id) (.connected (some 7))) ∧
        ¬ @RightDevice .sample c.s a (.connected (some 7)) := by
  let _ := Gattlib.sample
  obtain ⟨c, hc, hP⟩ := (system contract).reach_of_run_any
    [.enter (.api (.connect "A" none none none)), .answer (.adapter 3),
      .enter (.api (.connect "B" none none none)), .enter (.api .processAsync), .answer .void,
      .answer (.code 0), .enter (.api .processAsync)]
    (c := ⟨.init, [], none⟩)
    (P := fun c => c.fault.isNone && c.s.ble.asyncActions.any fun a =>
      decide (a.trigger = .connect "A" {}) &&
        (decide (contract.enter c.s (.event (some a.id) (.connected (some 7)))) &&
        decide (((Event.connected (some 7)).landing a.id c.s).state.connectionOf "A" = none)))
    (by decide)
  simp only [Bool.and_eq_true, Option.isNone_iff_eq_none, List.any_eq_true, decide_eq_true_eq] at hP
  obtain ⟨hf, a, ha, htr, hm, hnone⟩ := hP
  refine ⟨c, hc, hf, a, ha, hm, fun hright => ?_⟩
  simp only [RightDevice, htr] at hright
  have hA := hright.2 "A"
  rw [hnone, if_pos rfl] at hA
  cases hA

end Gattlibpp
