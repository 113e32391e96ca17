import Std.Data.TreeMap.Lemmas
import Mathlib.Tactic.Common

/-!
# Maps that keep the first entry

A map filled from a list, where an element has a key or not and an entry that is there
stays. What it holds under a key is made from the first element of the list with that key.
-/

namespace Gattlibpp.Maps

open Std (TreeMap TransCmp LawfulEqCmp)

variable {α κ β : Type} {cmp : κ → κ → Ordering}

/-- Add the elements in turn. -/
def keepFirst (key : α → Option κ) (val : κ → α → β) (m : TreeMap κ β cmp) (l : List α) :
    TreeMap κ β cmp :=
  l.foldl (fun m x =>
    match key x with
    | some k => m.insertIfNew k (val k x)
    | none => m) m

variable {key : α → Option κ} {val : κ → α → β} {m : TreeMap κ β cmp} {l : List α}

theorem keepFirst_cons_none {x : α} (h : key x = none) :
    keepFirst key val m (x :: l) = keepFirst key val m l := by
  simp [keepFirst, h]

theorem keepFirst_cons_some {x : α} {k : κ} (h : key x = some k) :
    keepFirst key val m (x :: l) = keepFirst key val (m.insertIfNew k (val k x)) l := by
  simp [keepFirst, h]

section
variable [TransCmp cmp] [LawfulEqCmp cmp] [DecidableEq κ]

/-- What stands under `k`: what was there, or else the first element with this key. -/
theorem getElem?_keepFirst (k : κ) :
    (keepFirst key val m l)[k]? = (m[k]?).or ((l.find? (key · = some k)).map (val k)) := by
  induction l generalizing m with
  | nil => simp [keepFirst]
  | cons x l ih =>
    cases hx : key x with
    | none =>
      rw [keepFirst_cons_none hx, ih, List.find?_cons_of_neg (by simp [hx])]
    | some k' =>
      rw [keepFirst_cons_some hx, ih]
      by_cases hk : k' = k
      · subst hk
        rw [List.find?_cons_of_pos (by simp [hx]), TreeMap.getElem?_insertIfNew]
        by_cases hm : k' ∈ m
        · simp [hm]
        · simp [hm]
      · rw [List.find?_cons_of_neg (by simp [hx, hk]), TreeMap.getElem?_insertIfNew, if_neg]
        exact fun h => hk (LawfulEqCmp.eq_of_compare h.1)

/-- Where `x` is the first element of `l` with the key `k`. -/
def IsFirst (key : α → Option κ) (l : List α) (k : κ) (x : α) : Prop :=
  key x = some k ∧ ∃ before after, l = before ++ x :: after ∧ ∀ y ∈ before, key y ≠ some k

omit [TransCmp cmp] [LawfulEqCmp cmp] in
theorem isFirst_iff {k : κ} {x : α} :
    IsFirst key l k x ↔ l.find? (key · = some k) = some x := by
  simp [IsFirst, List.find?_eq_some_iff_append]

omit [TransCmp cmp] [LawfulEqCmp cmp] in
/-- A key that some element has is that of a first one. -/
theorem exists_isFirst {k : κ} {x : α} (hx : x ∈ l) (hk : key x = some k) :
    ∃ y, IsFirst key l k y := by
  have hfound : (l.find? (key · = some k)).isSome := by
    rw [List.find?_isSome]
    exact ⟨x, hx, by simp [hk]⟩
  obtain ⟨y, hy⟩ := Option.isSome_iff_exists.mp hfound
  exact ⟨y, isFirst_iff.mpr hy⟩

/-- What a map that was empty holds. -/
theorem getElem?_keepFirst_empty {k : κ} {v : β} :
    (keepFirst key val (∅ : TreeMap κ β cmp) l)[k]? = some v ↔
      ∃ x, IsFirst key l k x ∧ v = val k x := by
  rw [getElem?_keepFirst, TreeMap.getElem?_emptyc, Option.none_or, Option.map_eq_some_iff]
  exact exists_congr fun x => and_congr isFirst_iff.symm eq_comm

end

/-! ## The entries in order -/

/-- The values in the order of their keys. -/
def values (m : TreeMap κ β cmp) : List β := m.toList.map (·.2)

section
variable [TransCmp cmp] [LawfulEqCmp cmp]

theorem mem_values {v : β} : v ∈ values m ↔ ∃ k : κ, m[k]? = some v := by
  simp [values, TreeMap.mem_toList_iff_getElem?_eq_some]

/-- Values that carry their keys stand in the order of their keys. -/
theorem values_ordered (name : β → κ) (h : ∀ k v, m[k]? = some v → name v = k) :
    (values m).Pairwise fun a b => cmp (name a) (name b) = .lt := by
  refine List.pairwise_map.mpr (TreeMap.ordered_keys_toList.imp_of_mem fun {a b} ha hb hab => ?_)
  rw [h a.1 a.2 (TreeMap.mem_toList_iff_getElem?_eq_some.mp ha),
    h b.1 b.2 (TreeMap.mem_toList_iff_getElem?_eq_some.mp hb)]
  exact hab

end

end Gattlibpp.Maps
