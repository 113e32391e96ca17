import Gattlibpp.Open.Relate
import Gattlibpp.Model.Effects
import Mathlib.Data.Set.Lattice
import Mathlib.Order.CompletePartialOrder

/-!
# Letter case

Two worlds are alike if they differ at most in how the characteristic UUIDs that were passed in
are spelled: these strings stand in the log and nowhere else. What a program does in one world it
does in any world like it.
-/

namespace Gattlibpp

open Open Device

/-! ## Spellings -/

/-- The spelling of the library: all in lower case. -/
theorem normalizeCharacteristicUUID_eq (u : UUID) : normalizeCharacteristicUUID u = u.toLower := by
  apply String.toList_injective
  rw [normalizeCharacteristicUUID, String.toList_ofList]
  exact String.toList_map.symm

/-- The operation with its characteristic UUID in lower case. -/
def Op.lower : Op → Op
  | .read device charUuid inData failure => .read device charUuid.toLower inData failure
  | .write device charUuid value succ failure => .write device charUuid.toLower value succ failure
  | .startNotification device charUuid inDataCallback failure =>
    .startNotification device charUuid.toLower inDataCallback failure
  | .stopNotification device charUuid succ failure =>
    .stopNotification device charUuid.toLower succ failure
  | op => op

def Move.lower : Move → Move
  | .api op => .api op.lower
  | .event of ev => .event of ev

/-- What is observed, with the characteristic UUID of a move in lower case. -/
def Obs.lower : Obs → Obs
  | .enter m => .enter m.lower
  | .exit m r => .exit m.lower r
  | .raised m => .raised m.lower
  | o => o

/-! ## Worlds that are alike -/

/-- The devices with discovery done. -/
def World.doneDevices (w : World) : Set UUID :=
  {dev | ∃ d, w.ble.devices[dev]? = some d ∧ d.discoveryDone = true}

/-- The devices of `i` are discovered, and the worlds differ at most in the spellings in the log. -/
def World.Alike (i : Set UUID) (w w' : World) : Prop :=
  ∃ l, w' = { w with log := l } ∧ l.map Obs.lower = w.log.map Obs.lower ∧ i ⊆ w.doneDevices

/-- The program does the same in worlds that are alike. -/
abbrev Blind {α : Type} (i : Set UUID) (p : Ble α) : Prop := p.Same World.Alike i p

section
variable {α β : Type} {i : Set UUID} {p q : Ble α}

theorem World.Alike.ble {w w' : World} (h : w.Alike i w') : w'.ble = w.ble := by
  obtain ⟨l, rfl, -, -⟩ := h
  rfl

/-- All discoveries are known. -/
theorem World.Alike.know {w w' : World} (h : w.Alike i w') :
    i ⊆ w.doneDevices ∧ w.Alike w.doneDevices w' := by
  obtain ⟨l, rfl, hl, hi⟩ := h
  exact ⟨hi, l, rfl, hl, subset_rfl⟩

theorem World.Alike.note {w w' : World} (h : w.Alike i w') {o o' : Obs} (ho : o'.lower = o.lower) :
    (w.note o).Alike i (w'.note o') := by
  obtain ⟨l, rfl, hl, hi⟩ := h
  refine ⟨l ++ [o'], rfl, ?_, hi⟩
  rw [List.map_append, hl, World.note_log, List.map_append, List.map_singleton, List.map_singleton,
    ho]

/-- A change that neither reads nor writes the log, and undoes no discovery. -/
theorem World.Alike.change {w w' : World} (h : w.Alike i w') {f : World → World}
    (hf : ∀ w l, f { w with log := l } = { f w with log := l })
    (hd : ∀ w, w.doneDevices ⊆ (f w).doneDevices) : (f w).Alike i (f w') := by
  obtain ⟨l, rfl, hl, hi⟩ := h
  have hlog : (f w).log = w.log := (congrArg World.log (hf w w.log) :)
  exact ⟨l, hf w l, by rw [hl, hlog], hi.trans (hd w)⟩

theorem World.doneDevices_updateDevice (w : World) (dev : UUID)
    {f : Device.Details → Device.Details}
    (hf : ∀ d, d.discoveryDone = true → (f d).discoveryDone = true) :
    w.doneDevices ⊆ (w.updateDevice dev f).doneDevices := by
  rintro k ⟨d, hd, hdone⟩
  simp only [World.doneDevices, World.updateDevice, World.updateBle_ble,
    Std.TreeMap.getElem?_modify, Std.LawfulEqCmp.compare_eq_iff_eq, Set.mem_ofPred_eq]
  split
  · rename_i heq
    subst heq
    exact ⟨f d, by rw [hd, Option.map_some], hf d hdone⟩
  · exact ⟨d, hd, hdone⟩

/-! ## Effects -/

theorem modify_blind {f : World → World}
    (hf : ∀ w l, f { w with log := l } = { f w with log := l })
    (hd : ∀ w, w.doneDevices ⊆ (f w).doneDevices) : Blind i (Prog.modify f) :=
  .modify fun _ _ _ hw => hw.change hf hd

/-- A change that leaves the records as they are. -/
theorem update_blind {f : BLECentral → BLECentral} (hf : ∀ b, (f b).devices = b.devices) :
    Blind i (update f) := by
  refine modify_blind (fun _ _ => rfl) fun w k hk => ?_
  obtain ⟨d, hd, hdone⟩ := hk
  exact ⟨d, by rw [World.updateBle_ble, hf, hd], hdone⟩

theorem updateRecord_blind {dets : UUID} {f : Device.Details → Device.Details}
    (hf : ∀ d, d.discoveryDone = true → (f d).discoveryDone = true) :
    Blind i (updateRecord dets f) :=
  modify_blind (fun _ _ => rfl) fun w => w.doneDevices_updateDevice dets hf

theorem updateAction_blind {a : ActionId} {f : AsyncAction.Details → AsyncAction.Details} :
    Blind i (Prog.modify (·.updateAction a f)) :=
  modify_blind (fun _ _ => rfl) fun _ => subset_rfl

theorem note_same {o o' : Obs} (ho : o'.lower = o.lower) :
    (note o).Same World.Alike i (note o') :=
  .modify fun _ _ _ hw => hw.note ho

theorem note_blind (o : Obs) : Blind i (note o) := note_same rfl

/-- A program that looks at the central first. -/
theorem ble_bind {f : BLECentral → Ble α}
    (hf : ∀ j w w', i ⊆ j → w.Alike j w' → (f w.ble w).Sim World.Alike j (f w.ble w')) :
    Blind i (ble >>= f) := by
  intro j hj w w' hw
  simp only [Prog.bind_apply, ble_apply, Out.bind_done, hw.ble]
  exact hf j w w' hj hw

theorem ble_blind : Blind i ble := fun _ _ w w' hw => by
  rw [ble_apply, ble_apply, hw.ble]
  exact .done _ hw

theorem callOut_blind (e : Call) : Blind i (callOut e) := by
  intro j hj w w' hw
  refine .call e ?_ fun k hk r v v' hv => .done r ?_
  · exact (hw.note rfl).change (f := fun w => { w with calls := e :: w.calls }) (fun _ _ => rfl)
      fun _ => subset_rfl
  · exact (hv.note rfl).change (f := fun w => { w with calls := w.calls.tail }) (fun _ _ => rfl)
      fun _ => subset_rfl

theorem pushReport_blind (op : QueuedOp) : Blind i (pushReport op) :=
  .bind (update_blind fun _ => rfl) fun _ => note_blind _

theorem record_blind (dets : UUID) : Blind i (record dets) := by
  refine .bind ble_blind fun b => ?_
  split
  · exact .pure _
  · exact .halt _

/-- A program that looks at the world first, but not at its log. -/
theorem get_same {f f' : World → Ble α} (hlog : ∀ w l, f' { w with log := l } = f' w)
    (hf : ∀ w, (f w).Same World.Alike i (f' w)) :
    (Prog.get >>= f).Same World.Alike i (Prog.get >>= f') := by
  refine .get_bind fun j hj w w' hw => ?_
  have hlook : f' w' = f' w := by
    obtain ⟨l, rfl, -, -⟩ := hw
    exact hlog w l
  rw [hlook]
  exact hf w j hj w w' hw

theorem locked_same {dets : UUID} (h : p.Same World.Alike i q) :
    (locked dets p).Same World.Alike i (locked dets q) := by
  refine get_same (fun _ _ => rfl) fun w => .ite (.halt _) (.within h ?_ ?_)
  · exact fun _ _ _ hw => hw.change (f := fun w => { w with held := dets :: w.held })
      (fun _ _ => rfl) fun _ => subset_rfl
  · exact fun _ _ _ hw => hw.change (f := fun w => { w with held := w.held.tail })
      (fun _ _ => rfl) fun _ => subset_rfl

end

end Gattlibpp
