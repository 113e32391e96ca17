import Gattlibpp.Case.Programs
import Gattlibpp.Notify.Books

/-!
# Runs and letter case

Characteristic UUIDs are case-insensitive: two runs whose steps differ at most in the letter case
of the characteristic UUIDs passed in, for devices that are discovered by then, do the same.
-/

namespace Gattlibpp

open Open Device

/-! ## What is called from outside -/

/-- A call into the library: a move, or `handleNotification`, which is public too. -/
inductive Entry where
  | move (m : Move)
  | handleNotification (charUUID : UUID) (data : BinaryBuffer)

/-- The same call, up to the letter case of a characteristic UUID. -/
inductive Op.Respelled (i : Set UUID) : Op → Op → Prop where
  | same (op : Op) : Respelled i op op
  | read {device u u' : UUID} (inData failure : Callback) : Spelled i device u u' →
      Respelled i (.read device u inData failure) (.read device u' inData failure)
  | write {device u u' : UUID} (value : BinaryBuffer) (succ failure : Callback) :
      Spelled i device u u' →
      Respelled i (.write device u value succ failure) (.write device u' value succ failure)
  | startNotification {device u u' : UUID} (cb failure : Callback) : Spelled i device u u' →
      Respelled i (.startNotification device u cb failure) (.startNotification device u' cb failure)
  | stopNotification {device u u' : UUID} (succ failure : Callback) : Spelled i device u u' →
      Respelled i (.stopNotification device u succ failure)
        (.stopNotification device u' succ failure)

inductive Entry.Respelled (i : Set UUID) : Entry → Entry → Prop where
  | event (of : Option ActionId) (ev : Event) :
      Respelled i (.move (.event of ev)) (.move (.event of ev))
  | api {op op' : Op} : op.Respelled i op' → Respelled i (.move (.api op)) (.move (.api op'))
  | handleNotification {u u' : UUID} (data : BinaryBuffer) : u'.toLower = u.toLower →
      Respelled i (.handleNotification u data) (.handleNotification u' data)

theorem Entry.Respelled.refl {i : Set UUID} (x : Entry) : x.Respelled i x := by
  cases x with
  | move m =>
    cases m with
    | api op => exact .api (.same op)
    | event of ev => exact .event of ev
  | handleNotification u data => exact .handleNotification data rfl

section
variable [Gattlib] {i : Set UUID}

def Entry.prog : Entry → Ble Unit
  | .move m => m.prog
  | .handleNotification charUUID data => Gattlibpp.handleNotification charUUID data

/-- The library and whatever is called, by whomever. -/
def entrySystem : System World Call Resp Fault Entry where
  prog := Entry.prog
  enter _ _ := True
  ans _ _ _ := True

instance (w : World) (x : Entry) : Decidable (entrySystem.enter w x) := isTrue trivial

instance (w : World) (e : Call) (r : Resp) : Decidable (entrySystem.ans w e r) := isTrue trivial

/-! ## One step -/

omit [Gattlib] in
theorem Op.Respelled.lower {op op' : Op} (h : op.Respelled i op') : op'.lower = op.lower := by
  cases h with
  | same => rfl
  | read _ _ hu | write _ _ _ hu | startNotification _ _ hu | stopNotification _ _ hu =>
    simp only [Op.lower, hu.toLower]

theorem Op.run_blind (op : Op) : Blind i op.run := by
  cases op with
  | adapterOpen name => exact .bind (adapterOpen_blind name) fun _ => .pure _
  | adapterClose => exact .bind adapterClose_blind fun _ => .pure _
  | shutdown => exact .bind shutdown_blind fun _ => .pure _
  | processAsync => exact .bind processAsync_blind fun _ => .pure _
  | setAutoDiscoverOnConnect | setConnectionParameters =>
    exact .bind (update_blind fun _ => rfl) fun _ => .pure _
  | scan => exact .bind (scan_blind _ _ _ _) fun _ => .pure _
  | stopScan => exact .bind (stopScan_blind _ _) fun _ => .pure _
  | connect => exact .bind (connect_blind _ _ _ _) fun _ => .pure _
  | disconnect => exact .bind (disconnect_blind _ _ _) fun _ => .pure _
  | read => exact .bind (read_same (.inl rfl) _ _) fun _ => .pure _
  | write => exact .bind (write_same (.inl rfl) _ _ _) fun _ => .pure _
  | startNotification => exact .bind (startNotification_same (.inl rfl) _ _) fun _ => .pure _
  | stopNotification => exact .bind (stopNotification_same (.inl rfl) _ _) fun _ => .pure _
  | stopAllNotifications => exact .bind (stopAllNotifications_blind _) fun _ => .pure _
  | isConnected => exact .bind (reportIsConnected_blind _ _ _) fun _ => .pure _
  | isEnabled => exact .bind (isEnabled_blind _ _) fun _ => .pure _
  | enable => exact .bind (enable_blind _ _) fun _ => .pure _
  | deviceName => exact .bind (deviceName_blind _) fun _ => .pure _

/-- Operations that differ in the letter case of a characteristic UUID do the same. -/
theorem Op.Respelled.run_same {op op' : Op} (h : op.Respelled i op') :
    op.run.Same World.Alike i op'.run := by
  cases h with
  | same => exact op.run_blind
  | read inData failure hu => exact .bind (read_same hu inData failure) fun _ => .pure _
  | write value succ failure hu => exact .bind (write_same hu value succ failure) fun _ => .pure _
  | startNotification cb failure hu =>
    exact .bind (startNotification_same hu cb failure) fun _ => .pure _
  | stopNotification succ failure hu =>
    exact .bind (stopNotification_same hu succ failure) fun _ => .pure _

theorem Entry.Respelled.prog_same {x x' : Entry} (h : x.Respelled i x') :
    x.prog.Same World.Alike i x'.prog := by
  cases h with
  | event of ev =>
    refine .trapped (.bind (note_blind _) fun _ => ?_) fun _ _ _ hw => hw.note rfl
    exact .bind ev.handle_blind fun _ => note_blind _
  | api hop =>
    have hm : (Move.api _).lower = (Move.api _).lower := congrArg Move.api hop.lower
    refine .trapped (.bind (note_same (congrArg Obs.enter hm)) fun _ => ?_) fun _ _ _ hw =>
      hw.note (congrArg Obs.raised hm)
    exact .bind hop.run_same fun r => note_same (congrArg (Obs.exit · r) hm)
  | handleNotification data hu =>
    refine handleNotification_same ?_ data
    rw [normalizeCharacteristicUUID_eq, normalizeCharacteristicUUID_eq, hu]

theorem entrySystem_respects : entrySystem.Respects World.Alike Entry.Respelled where
  prog _ _ _ h := h.prog_same
  enter _ _ _ _ _ _ _ := .rfl
  ans _ _ _ _ _ _ := .rfl

/-! ## Whole runs -/

/-- The same records and queues, the same log but for the letter case of the characteristic UUIDs
passed in, and the same calls still open. -/
structure SameBut (c c' : Config World Call Resp Fault) : Prop where
  ble : c'.s.ble = c.s.ble
  log : c'.s.log.map Obs.lower = c.s.log.map Obs.lower
  calls : c'.stack.map (·.e) = c.stack.map (·.e)
  fault : c'.fault = c.fault

omit [Gattlib] in
theorem Open.Config.Sim.sameBut {c c' : Config World Call Resp Fault}
    (h : c.Sim World.Alike i c') : SameBut c c' where
  ble := h.s.ble
  log := by
    obtain ⟨l, hl, hlog, -⟩ := h.s
    rw [hl, hlog]
  calls := by
    rw [← List.forall₂_eq_eq_eq, List.forall₂_map_left_iff, List.forall₂_map_right_iff]
    exact h.stack.flip.imp fun _ _ hf => hf.e.symm
  fault := h.fault.symm

/-- Runs from a common point whose steps differ at most in the letter case of characteristic UUIDs,
of devices with discovery done, do the same to the end. -/
theorem case_insensitive {c : Config World Call Resp Fault}
    (h : entrySystem.Reach ⟨.init, [], none⟩ c) {xs xs' : List (System.Choice Entry Resp)}
    (hx : entrySystem.Aligned
      (fun w => System.Choice.Sim Entry.Respelled w.doneDevices) c xs xs') :
    Option.Rel SameBut (entrySystem.run c xs) (entrySystem.run c xs') := by
  have hinit : World.init.Alike ∅ .init := ⟨[], rfl, rfl, Set.empty_subset _⟩
  have hc := entrySystem_respects.reach Entry.Respelled.refl h ⟨hinit, .nil, rfl⟩
  have hrun := entrySystem_respects.run (fun _ _ _ hw => hw.know) hc hx
  revert hrun
  generalize entrySystem.run c xs = o
  generalize entrySystem.run c xs' = o'
  rintro (⟨j, hj⟩ | _)
  · exact .some hj.sameBut
  · exact .none

end

/-- Subscribe, take a notification in, and run a tick that calls the handler. -/
def notifyOnce (started incoming : UUID) : List (System.Choice Entry Resp) :=
  [.enter (.move (.api (.startNotification "A" started (some (.user 1)) none))), .answer .void,
    .answer .void, .answer (.code 0), .enter (.handleNotification incoming [5]),
    .enter (.move (.api .processAsync)), .answer .void, .answer .void]

/-- The two runs of a subscription that spell its UUID in upper and in lower case. -/
theorem case_insensitive_notifyOnce : ∃ (c d : Config World Call Resp Fault),
    (@entrySystem .sample).Reach ⟨.init, [], none⟩ c ∧ "A" ∈ c.s.doneDevices ∧
      (@entrySystem .sample).run c (notifyOnce "2A19" "2A19") = some d ∧ d.fault = none ∧
      .call (.user 1 (.data [5]) .notified) ∈ d.s.log ∧
      Option.Rel SameBut ((@entrySystem .sample).run c (notifyOnce "2A19" "2A19"))
        ((@entrySystem .sample).run c (notifyOnce "2a19" "2a19")) := by
  let _ := Gattlib.sample
  obtain ⟨c, hc, hP⟩ := entrySystem.reach_of_run_any
    (discoverNotifying.map fun
      | .enter m => .enter (.move m)
      | .answer r => .answer r) (c := ⟨.init, [], none⟩)
    (P := fun c => (c.s.ble.devices["A"]?.any fun (d : Device.Details) => d.discoveryDone) &&
      (entrySystem.run c (notifyOnce "2A19" "2A19")).any
        fun (d : Config World Call Resp Fault) => d.fault.isNone &&
          decide (Obs.call (.user 1 (.data [5]) .notified) ∈ d.s.log)) (by decide +kernel)
  simp only [Bool.and_eq_true, Option.any_eq_true, Option.isNone_iff_eq_none,
    decide_eq_true_eq] at hP
  obtain ⟨⟨d, hd, hdone⟩, c', hrun, hf, hcall⟩ := hP
  have hlower : ("2a19" : UUID).toLower = ("2A19" : UUID).toLower := by
    rw [← normalizeCharacteristicUUID_eq, ← normalizeCharacteristicUUID_eq]
    decide
  have hmem : "A" ∈ c.s.doneDevices := ⟨d, hd, hdone⟩
  refine ⟨c, c', hc, hmem, hrun, hf, hcall, case_insensitive hc ?_⟩
  refine .cons (.enter (.api (.startNotification _ _ (.inr ⟨hmem, hlower⟩)))) fun _ _ => ?_
  refine .cons (.answer _) fun _ _ => .cons (.answer _) fun _ _ => .cons (.answer _) fun _ _ => ?_
  refine .cons (.enter (.handleNotification _ hlower)) fun _ _ => ?_
  refine .cons (.enter (.refl _)) fun _ _ => .cons (.answer _) fun _ _ => ?_
  exact .cons (.answer _) fun _ _ => .nil _

end Gattlibpp
