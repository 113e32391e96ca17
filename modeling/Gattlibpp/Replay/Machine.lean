import Mathlib.Data.List.Basic
import Mathlib.Tactic.Common

/-!
# Machines that follow a log

A machine allows some observations in each of its states, and moves on with them; between
observations it may move silently. `Follows s l s'` says that it can read the log `l` from `s` on
and be in `s'` then. What it has read last decides the registers of its state.
-/

namespace Gattlibpp.Replay

structure Machine (σ ο : Type) where
  init : σ
  allows : σ → ο → Prop
  next : σ → ο → σ
  silent : σ → σ → Prop

namespace Machine

variable {σ ο : Type} {M : Machine σ ο} {s s' s'' : σ} {l l' : List ο} {o : ο}

variable (M) in
inductive Follows (s : σ) : List ο → σ → Prop where
  | refl : Follows s [] s
  | silent {l : List ο} {s' s'' : σ} : Follows s l s' → M.silent s' s'' → Follows s l s''
  | observe {l : List ο} {s' : σ} {o : ο} : Follows s l s' → M.allows s' o →
      Follows s (l ++ [o]) (M.next s' o)

namespace Follows

theorem once (h : M.allows s o) : M.Follows s [o] (M.next s o) := .observe (l := []) .refl h

theorem trans (h : M.Follows s l s') (h' : M.Follows s' l' s'') : M.Follows s (l ++ l') s'' := by
  induction h' with
  | refl => rwa [List.append_nil]
  | silent _ hs ih => exact .silent ih hs
  | observe _ ha ih =>
    rw [← List.append_assoc]
    exact .observe ih ha

/-- Where the log is cut, the machine was in some state. -/
theorem split (h : M.Follows s (l ++ l') s'') : ∃ s', M.Follows s l s' ∧ M.Follows s' l' s'' := by
  generalize hw : l ++ l' = whole at h
  induction h generalizing l' with
  | refl =>
    obtain ⟨rfl, rfl⟩ := List.append_eq_nil_iff.mp hw
    exact ⟨s, .refl, .refl⟩
  | silent _ hs ih =>
    obtain ⟨s', h1, h2⟩ := ih hw
    exact ⟨s', h1, .silent h2 hs⟩
  | @observe l1 s1 o1 h1 ha ih =>
    rcases List.eq_nil_or_concat l' with rfl | ⟨before, o, rfl⟩
    · rw [List.append_nil] at hw
      exact ⟨_, hw ▸ .observe h1 ha, .refl⟩
    · rw [List.concat_eq_append, ← List.append_assoc] at hw
      obtain ⟨hl, ho⟩ := List.append_inj' hw rfl
      cases ho
      obtain ⟨s', h2, h3⟩ := ih hl
      rw [List.concat_eq_append]
      exact ⟨s', h2, .observe h3 ha⟩

/-- Whatever is in the log was allowed when it was observed. -/
theorem allowed (h : M.Follows s (l ++ o :: l') s'') : ∃ s', M.Follows s l s' ∧ M.allows s' o := by
  obtain ⟨s1, h1, h⟩ := h.split
  obtain ⟨s2, h2, -⟩ := split (l := [o]) h
  generalize hone : [o] = one at h2
  induction h2 with
  | refl => cases hone
  | silent _ _ ih => exact ih hone
  | @observe l0 s0 o0 h0 ha =>
    obtain ⟨rfl, ho⟩ := List.append_inj' (show [] ++ [o] = _ from hone) rfl
    cases ho
    rw [← List.append_nil l]
    exact ⟨s0, h1.trans h0, ha⟩

/-- The invariant rule, for what holds of the state and the log before it. -/
theorem invariant {I : List ο → σ → Prop}
    (hobs : ∀ l s o, I l s → M.allows s o → I (l ++ [o]) (M.next s o))
    (hsil : ∀ l s s', I l s → M.silent s s' → I l s') (hs : I [] s) (h : M.Follows s l s') :
    I l s' := by
  induction h with
  | refl => exact hs
  | silent _ hsi ih => exact hsil _ _ _ ih hsi
  | observe _ ha ih => exact hobs _ _ _ ih ha

end Follows

/-! ## Readings -/

/-- A part `q` of the state that can be read off the log, entry by entry. -/
structure Reading (M : Machine σ ο) {β : Type} (q : σ → β) (step : β → ο → β) : Prop where
  observe : ∀ s o, M.allows s o → q (M.next s o) = step (q s) o
  silent : ∀ s s', M.silent s s' → q s' = q s

theorem Reading.eq_foldl {β : Type} {q : σ → β} {step : β → ο → β} (hq : Reading M q step)
    (h : M.Follows s l s') : q s' = l.foldl step (q s) := by
  induction h with
  | refl => rfl
  | silent _ hs ih => rw [hq.silent _ _ hs, ih]
  | observe _ ha ih => rw [hq.observe _ _ ha, ih, List.foldl_concat]

/-- What the log says last of what `f` reads. -/
def last {β : Type} (f : ο → Option β) (l : List ο) : Option β := (l.filterMap f).getLast?

theorem last_concat {β : Type} (f : ο → Option β) (l : List ο) (o : ο) :
    last f (l ++ [o]) = (f o).or (last f l) := by
  unfold last
  rw [List.filterMap_append]
  cases ho : f o <;> simp [ho]

theorem mem_of_last {β : Type} {f : ο → Option β} {v : β} (h : last f l = some v) :
    ∃ o ∈ l, f o = some v :=
  List.mem_filterMap.mp (List.mem_of_getLast? h)

theorem last_eq_none {β : Type} {f : ο → Option β} : last f l = none ↔ ∀ o ∈ l, f o = none := by
  rw [last, List.getLast?_eq_none_iff, List.filterMap_eq_nil_iff]

/-- **The last write counts**, where entries overwrite a part of the state or leave it. -/
theorem Reading.eq_last {β : Type} {q : σ → β} {f : ο → Option β}
    (hq : Reading M q fun v o => (f o).getD v) (h : M.Follows s l s') :
    q s' = (last f l).getD (q s) := by
  induction h with
  | refl => rfl
  | silent _ hs ih => rw [hq.silent _ _ hs, ih]
  | @observe l s' o _ ha ih =>
    rw [hq.observe s' o ha, ih, last_concat]
    cases f o <;> rfl

end Machine

end Gattlibpp.Replay
