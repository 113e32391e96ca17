import Gattlibpp.Notify.Keys

/-!
# Marks and what gattlib has been told

The characteristics of a record that are marked, and how many. The log says for which of them
gattlib has been told to notify.
-/

namespace Gattlibpp

open Open

/-! ## Lists -/

/-- One more counts. -/
theorem countP_flip {α : Type} {p p' : α → Bool} {a : α} {l : List α} (hnd : l.Nodup) (ha : a ∈ l)
    (hp : p a = false) (hp' : p' a = true) (hne : ∀ b, b ≠ a → p' b = p b) :
    l.countP p' = l.countP p + 1 := by
  obtain ⟨xs, ys, rfl⟩ := List.append_of_mem ha
  have hnot : a ∉ xs ++ ys := (List.nodup_cons.mp (List.nodup_middle.mp hnd)).1
  have hcongr (zs : List α) (hz : ∀ b ∈ zs, b ∈ xs ++ ys) : zs.countP p' = zs.countP p := by
    refine List.countP_congr fun b hb => ?_
    rw [hne b fun he => hnot (he ▸ hz b hb)]
  rw [List.countP_append, List.countP_append, List.countP_cons_of_pos hp',
    List.countP_cons_of_neg (by simp [hp]), hcongr xs fun b hb => List.mem_append_left _ hb,
    hcongr ys fun b hb => List.mem_append_right _ hb]
  rfl

/-! ## Counting marks -/

namespace Device.Details

/-- The characteristic under `k` is marked. -/
def marked (d : Details) (k : UUID) : Bool := (d.characteristics[k]?).any (·.registeredForNotifs)

/-- How many characteristics are marked. -/
def numMarked (d : Details) : Nat := d.characteristics.keys.countP d.marked

variable (d : Details)

theorem nodup_keys : d.characteristics.keys.Nodup :=
  Std.TreeMap.distinct_keys.imp fun h heq => h (Std.LawfulEqCmp.compare_eq_iff_eq.mpr heq)

theorem mem_keys_setRegistered (u : UUID) (b : Bool) (k : UUID) :
    k ∈ (d.setRegistered u b).characteristics.keys ↔ k ∈ d.characteristics.keys := by
  simp only [setRegistered, Std.TreeMap.mem_keys, Std.TreeMap.mem_modify]

/-- Only what has been found is marked. -/
theorem not_marked (h : ∀ k ∈ d.characteristics.keys, d.marked k = false) (k : UUID) :
    d.marked k = false := by
  by_cases hk : k ∈ d.characteristics
  · exact h k (Std.TreeMap.mem_keys.mpr hk)
  · rw [marked, Std.TreeMap.getElem?_eq_none hk]
    rfl

theorem numMarked_setRegistered (u : UUID) (b : Bool) : (d.setRegistered u b).numMarked =
    d.characteristics.keys.countP (d.setRegistered u b).marked :=
  ((List.perm_ext_iff_of_nodup (nodup_keys _) d.nodup_keys).mpr
    (d.mem_keys_setRegistered u b)).countP_eq _

theorem characteristics_setRegistered (u : UUID) (b : Bool) (k : UUID) :
    (d.setRegistered u b).characteristics[k]? =
      if normalizeCharacteristicUUID u = k then
        (d.characteristics[k]?).map fun c => { c with registeredForNotifs := b }
      else d.characteristics[k]? := by
  simp only [setRegistered, Std.TreeMap.getElem?_modify, Std.LawfulEqCmp.compare_eq_iff_eq]
  split
  · rename_i h
    rw [h]
  · rfl

variable {d} {u : UUID} {c : Characteristic.Details}

theorem marked_setRegistered (hc : d.characteristic u = some c) (b : Bool) :
    (d.setRegistered u b).marked (normalizeCharacteristicUUID u) = b := by
  unfold characteristic at hc
  simp [marked, characteristics_setRegistered, hc]

theorem marked_setRegistered_ne (b : Bool) {k : UUID} (hk : k ≠ normalizeCharacteristicUUID u) :
    (d.setRegistered u b).marked k = d.marked k := by
  rw [marked, characteristics_setRegistered, if_neg fun h => hk h.symm]
  rfl

theorem marked_of_characteristic (hc : d.characteristic u = some c) :
    d.marked (normalizeCharacteristicUUID u) = c.registeredForNotifs := by
  unfold characteristic at hc
  rw [marked, hc]
  rfl

theorem mem_keys_of_characteristic (hc : d.characteristic u = some c) :
    normalizeCharacteristicUUID u ∈ d.characteristics.keys := by
  unfold characteristic at hc
  exact Std.TreeMap.mem_keys.mpr (Std.TreeMap.mem_iff_isSome_getElem?.mpr (by simp [hc]))

/-- A mark more. -/
theorem numMarked_mark (hc : d.characteristic u = some c) (hr : c.registeredForNotifs = false) :
    (d.setRegistered u true).numMarked = d.numMarked + 1 := by
  rw [numMarked_setRegistered]
  exact countP_flip d.nodup_keys (mem_keys_of_characteristic hc)
    ((marked_of_characteristic hc).trans hr) (marked_setRegistered hc true)
    fun k hk => marked_setRegistered_ne true hk

/-- A mark less. -/
theorem numMarked_unmark (hc : d.characteristic u = some c) (hr : c.registeredForNotifs = true) :
    (d.setRegistered u false).numMarked + 1 = d.numMarked := by
  rw [numMarked_setRegistered]
  exact (countP_flip d.nodup_keys (mem_keys_of_characteristic hc) (marked_setRegistered hc false)
    ((marked_of_characteristic hc).trans hr) fun k hk => (marked_setRegistered_ne false hk).symm).symm

theorem numMarked_le_size (d : Details) : d.numMarked ≤ d.characteristics.size :=
  Nat.le_trans List.countP_le_length (Nat.le_of_eq Std.TreeMap.length_keys)

theorem size_setRegistered (d : Details) (u : UUID) (b : Bool) :
    (d.setRegistered u b).characteristics.size = d.characteristics.size := by
  simp only [setRegistered, Std.TreeMap.size_modify]

/-- The counter follows a mark more. -/
theorem counted_mark (hsize : d.characteristics.size ≤ 255)
    (hcount : d.numRegisteredForNotifs.toNat = d.numMarked) (hc : d.characteristic u = some c)
    (hr : c.registeredForNotifs = false) :
    (d.numRegisteredForNotifs + 1).toNat = (d.setRegistered u true).numMarked := by
  have hmark := numMarked_mark hc hr
  have hle := numMarked_le_size (d.setRegistered u true)
  rw [size_setRegistered] at hle
  rw [UInt8.toNat_add, UInt8.toNat_one]
  omega

/-- A mark is counted. -/
theorem counted_ne_zero (hcount : d.numRegisteredForNotifs.toNat = d.numMarked)
    (hc : d.characteristic u = some c) (hr : c.registeredForNotifs = true) :
    d.numRegisteredForNotifs ≠ 0 := by
  intro hz
  rw [← numMarked_unmark hc hr, hz] at hcount
  cases hcount

/-- The counter follows a mark less. -/
theorem counted_unmark (hcount : d.numRegisteredForNotifs.toNat = d.numMarked)
    (hc : d.characteristic u = some c) (hr : c.registeredForNotifs = true) :
    (d.numRegisteredForNotifs - 1).toNat = (d.setRegistered u false).numMarked := by
  have hmark := numMarked_unmark hc hr
  have hone : (1 : UInt8) ≤ d.numRegisteredForNotifs := by
    rw [UInt8.le_iff_toNat_le, UInt8.toNat_one]
    omega
  rw [UInt8.toNat_sub_of_le _ _ hone, UInt8.toNat_one]
  omega

end Device.Details

/-! ## What gattlib has been told -/

/-- gattlib's function that turns the notifications on or off. -/
def Call.turn (on : Bool) (connection : Option Conn) (g : GlUuid) : Call :=
  if on then .notificationStart connection g else .notificationStop connection g

/-- The answer to `gattlib_notification_start` or `gattlib_notification_stop`. -/
def Obs.notifyResp : Obs → Option Resp
  | .ret (.notificationStart _ _) r => some r
  | .ret (.notificationStop _ _) r => some r
  | _ => none

/-- Whether gattlib notifies of `g` after this, if it does (`b`) or does not before. -/
def Obs.notifying (g : GlUuid) (b : Bool) : Obs → Bool
  | .ret (.notificationStart _ g') r => if g' = g then r.rc = 0 else b
  | .ret (.notificationStop _ g') r => if g' = g ∧ r.rc = 0 then false else b
  | _ => b

/-- The last `gattlib_notification_start` for `g` succeeded, and no stop has since. -/
def notifying (log : List Obs) (g : GlUuid) : Bool := log.foldl (Obs.notifying g) false

theorem notifying_append (l l' : List Obs) (g : GlUuid) :
    notifying (l ++ l') g = l'.foldl (Obs.notifying g) (notifying l g) := List.foldl_append

theorem notifying_append_same {l : List Obs} (h : ∀ o ∈ l, o.notifyResp = none) (l0 : List Obs)
    (g : GlUuid) : notifying (l0 ++ l) g = notifying l0 g := by
  rw [notifying_append]
  induction l with
  | nil => rfl
  | cons o l ih =>
    have ho : o.notifying g (notifying l0 g) = notifying l0 g := by
      have hn := h o List.mem_cons_self
      unfold Obs.notifying
      split
      · cases hn
      · cases hn
      · rfl
    rw [List.foldl_cons, ho]
    exact ih fun o' ho' => h o' (List.mem_cons_of_mem _ ho')

/-- What the answer to a start or stop changes. -/
theorem notifying_turn (l : List Obs) (on : Bool) (connection : Option Conn) (g g' : GlUuid)
    (r : Resp) : notifying (l ++ [.call (.turn on connection g), .ret (.turn on connection g) r]) g' =
      if g = g' then (if on then decide (r.rc = 0) else notifying l g && decide (r.rc ≠ 0))
      else notifying l g' := by
  rw [notifying_append]
  cases on with
  | true => rfl
  | false =>
    simp only [Call.turn, Bool.false_eq_true, if_false, List.foldl_cons, List.foldl_nil, Obs.notifying]
    by_cases hg : g = g'
    · subst hg
      by_cases hrc : r.rc = 0 <;> simp [hrc]
    · simp [hg]

end Gattlibpp
