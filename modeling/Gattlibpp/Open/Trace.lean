import Mathlib.Data.List.Basic
import Mathlib.Tactic.Common

/-!
# Traces

A trace grows at its end. `Past R l` says that every entry of `l` is in relation `R`
to the entries before it, which is kept by adding an entry that is.
-/

namespace Gattlibpp.Open

variable {α : Type} {R R' : List α → α → Prop} {l l' : List α} {x : α}

def Past (R : List α → α → Prop) (l : List α) : Prop :=
  ∀ before x after, l = before ++ x :: after → R before x

@[simp] theorem past_nil : Past R [] := by
  intro before x after h
  simp at h

@[simp] theorem past_concat : Past R (l ++ [x]) ↔ Past R l ∧ R l x := by
  constructor
  · intro h
    refine ⟨fun before y after hl => h before y (after ++ [x]) ?_, h l x [] rfl⟩
    rw [hl, List.append_assoc, List.cons_append]
  · rintro ⟨h, hx⟩ before y after hl
    rcases List.eq_nil_or_concat after with rfl | ⟨after, z, rfl⟩
    · obtain ⟨rfl, hy⟩ := List.append_inj' hl rfl
      cases hy
      exact hx
    · rw [List.concat_eq_append, ← List.cons_append, ← List.append_assoc] at hl
      obtain ⟨hl, -⟩ := List.append_inj' hl rfl
      exact h before y after hl

/-- Entries that are in the relation to any past may be added. -/
theorem Past.append (h : Past R l) (hl : ∀ x ∈ l', ∀ before, R before x) : Past R (l ++ l') := by
  induction l' generalizing l with
  | nil => rwa [List.append_nil]
  | cons x l' ih =>
    rw [List.append_cons]
    have hx : Past R (l ++ [x]) := past_concat.mpr ⟨h, hl x List.mem_cons_self l⟩
    exact ih hx fun y hy => hl y (List.mem_cons_of_mem _ hy)

theorem Past.mono (h : Past R l) (hR : ∀ l x, R l x → R' l x) : Past R' l :=
  fun before x after hl => hR before x (h before x after hl)

end Gattlibpp.Open
