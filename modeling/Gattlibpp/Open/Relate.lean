import Gattlibpp.Open.Machine
import Mathlib.Order.Basic
import Mathlib.Data.List.Forall2
import Mathlib.Data.Option.Basic

/-!
# Two runs side by side

Two open programs that do the same, in states that are related: they leave control in the
same way, make the same calls, and go on doing the same when a call comes back with the same
answer in related states. The relation is indexed by what is known of the states, and more may
be known when a call comes back.

Programs that agree in this sense are built from parts that agree, and a system whose moves
agree keeps two of its runs together.
-/

namespace Gattlibpp.Open

variable {σ ε ρ φ μ ι α β : Type} [Preorder ι]

/-- Both outcomes are the same, in related states. -/
inductive Out.Sim (R : ι → σ → σ → Prop) :
    ι → Out σ ε ρ φ α → Out σ ε ρ φ α → Prop where
  | done {i : ι} {s s' : σ} (a : α) : R i s s' → Sim R i (.done s a) (.done s' a)
  | call {i : ι} {s s' : σ} {k k' : ρ → σ → Out σ ε ρ φ α} (e : ε) : R i s s' →
      (∀ j, i ≤ j → ∀ r t t', R j t t' → Sim R j (k r t) (k' r t')) →
      Sim R i (.call s e k) (.call s' e k')
  | raise {i : ι} {s s' : σ} : R i s s' → Sim R i (.raise s) (.raise s')
  | halt {i : ι} {s s' : σ} (why : φ) : R i s s' → Sim R i (.halt s why) (.halt s' why)

/-- The programs do the same wherever at least `i` is known. -/
def Prog.Same (R : ι → σ → σ → Prop) (i : ι) (p p' : Prog σ ε ρ φ α) : Prop :=
  ∀ j, i ≤ j → ∀ s s', R j s s' → (p s).Sim R j (p' s')

section
variable {R : ι → σ → σ → Prop} {i j : ι}

/-! ## Outcomes -/

namespace Out.Sim

variable {o o' : Out σ ε ρ φ α}

theorem bind {f f' : α → Prog σ ε ρ φ β} (h : o.Sim R i o')
    (hf : ∀ a, (f a).Same R i (f' a)) : (o.bind f).Sim R i (o'.bind f') := by
  induction h with
  | done a hs => exact hf a _ (le_refl _) _ _ hs
  | call e hs _ ih =>
    exact .call e hs fun j hj r t t' ht => ih j hj r t t' ht fun a k hk => hf a k (hj.trans hk)
  | raise hs => exact .raise hs
  | halt why hs => exact .halt why hs

theorem leave {f f' : σ → σ} (h : o.Sim R i o') (hf : ∀ j s s', R j s s' → R j (f s) (f' s')) :
    (o.leave f).Sim R i (o'.leave f') := by
  induction h with
  | done a hs => exact .done a (hf _ _ _ hs)
  | call e hs _ ih => exact .call e hs ih
  | raise hs => exact .raise (hf _ _ _ hs)
  | halt why hs => exact .halt why hs

theorem trap {f f' : σ → σ} (h : o.Sim R i o') (hf : ∀ j s s', R j s s' → R j (f s) (f' s')) :
    (o.trap f).Sim R i (o'.trap f') := by
  induction h with
  | done a hs => exact .done a hs
  | call e hs _ ih => exact .call e hs ih
  | raise hs => exact .raise (hf _ _ _ hs)
  | halt why hs => exact .halt why hs

end Out.Sim

/-! ## Programs -/

namespace Prog.Same

variable {p p' : Prog σ ε ρ φ α}

theorem mono (h : p.Same R i p') (hij : i ≤ j) : p.Same R j p' :=
  fun k hk => h k (hij.trans hk)

theorem pure (a : α) : (Pure.pure a : Prog σ ε ρ φ α).Same R i (Pure.pure a) :=
  fun _ _ _ _ hs => .done a hs

theorem bind {f f' : α → Prog σ ε ρ φ β} (h : p.Same R i p') (hf : ∀ a, (f a).Same R i (f' a)) :
    (p >>= f).Same R i (p' >>= f') :=
  fun j hj s s' hs => (h j hj s s' hs).bind fun a => (hf a).mono hj

theorem ite {c : Prop} [Decidable c] {q q' : Prog σ ε ρ φ α} (h : p.Same R i p')
    (h' : q.Same R i q') : (if c then p else q).Same R i (if c then p' else q') := by
  split
  · exact h
  · exact h'

theorem modify {f f' : σ → σ} (hf : ∀ j s s', R j s s' → R j (f s) (f' s')) :
    (Prog.modify f : Prog σ ε ρ φ Unit).Same R i (Prog.modify f') :=
  fun j _ s s' hs => .done () (hf j s s' hs)

theorem raise : (Prog.raise : Prog σ ε ρ φ α).Same R i Prog.raise :=
  fun _ _ _ _ hs => .raise hs

theorem halt (why : φ) : (Prog.halt why : Prog σ ε ρ φ α).Same R i (Prog.halt why) :=
  fun _ _ _ _ hs => .halt why hs

theorem within {f f' g g' : σ → σ} (h : p.Same R i p')
    (hf : ∀ j s s', R j s s' → R j (f s) (f' s')) (hg : ∀ j s s', R j s s' → R j (g s) (g' s')) :
    (Prog.within f g p).Same R i (Prog.within f' g' p') :=
  fun j hj s s' hs => (h j hj _ _ (hf j s s' hs)).leave hg

theorem trapped {f f' : σ → σ} (h : p.Same R i p')
    (hf : ∀ j s s', R j s s' → R j (f s) (f' s')) :
    (Prog.trapped f p).Same R i (Prog.trapped f' p') :=
  fun j hj s s' hs => (h j hj s s' hs).trap hf

/-- A program that looks at the state first. -/
theorem get_bind {f f' : σ → Prog σ ε ρ φ α}
    (hf : ∀ j, i ≤ j → ∀ s s', R j s s' → (f s s).Sim R j (f' s' s')) :
    (Prog.get >>= f).Same R i (Prog.get >>= f') :=
  hf

end Prog.Same

/-! ## Runs -/

/-- The same call is open, and goes on in the same way. -/
structure Frame.Sim (R : ι → σ → σ → Prop) (i : ι) (f f' : Frame σ ε ρ φ) : Prop where
  e : f.e = f'.e
  k : ∀ j, i ≤ j → ∀ r t t', R j t t' → (f.k r t).Sim R j (f'.k r t')

/-- The machine stands at the same point, in related states. -/
structure Config.Sim (R : ι → σ → σ → Prop) (i : ι) (c c' : Config σ ε ρ φ) : Prop where
  s : R i c.s c'.s
  stack : List.Forall₂ (Frame.Sim R i) c.stack c'.stack
  fault : c.fault = c'.fault

theorem Frame.Sim.mono {f f' : Frame σ ε ρ φ} (h : f.Sim R i f') (hij : i ≤ j) : f.Sim R j f' :=
  ⟨h.e, fun k hk => h.k k (hij.trans hk)⟩

/-- What is known of the states is known of the open calls. -/
theorem Config.Sim.learn {c c' : Config σ ε ρ φ} (h : c.Sim R i c') (hij : i ≤ j)
    (hs : R j c.s c'.s) : c.Sim R j c' :=
  ⟨hs, h.stack.imp fun _ _ hf => hf.mono hij, h.fault⟩

theorem Out.Sim.land {o o' : Out σ ε ρ φ Unit} {st st' : List (Frame σ ε ρ φ)}
    (h : o.Sim R i o') (hst : List.Forall₂ (Frame.Sim R i) st st') :
    (land o st).Sim R i (land o' st') := by
  cases h with
  | done a hs => exact ⟨hs, hst, rfl⟩
  | call e hs hk => exact ⟨hs, .cons ⟨rfl, hk⟩ hst, rfl⟩
  | raise hs => exact ⟨hs, hst, rfl⟩
  | halt why hs => exact ⟨hs, hst, rfl⟩

/-- Moves that are related are allowed together and do the same. -/
structure System.Respects (S : System σ ε ρ φ μ) (R : ι → σ → σ → Prop)
    (M : ι → μ → μ → Prop) : Prop where
  prog : ∀ i m m', M i m m' → (S.prog m).Same R i (S.prog m')
  enter : ∀ i m m' s s', M i m m' → R i s s' → (S.enter s m ↔ S.enter s' m')
  ans : ∀ i s s' e r, R i s s' → (S.ans s e r ↔ S.ans s' e r)

/-- The same choice, up to related moves. -/
inductive System.Choice.Sim (M : ι → μ → μ → Prop) (i : ι) :
    System.Choice μ ρ → System.Choice μ ρ → Prop where
  | enter {m m' : μ} : M i m m' → Sim M i (.enter m) (.enter m')
  | answer (r : ρ) : Sim M i (.answer r) (.answer r)

section
variable {S : System σ ε ρ φ μ} {M : ι → μ → μ → Prop} (hS : S.Respects R M)
  [∀ s m, Decidable (S.enter s m)] [∀ s e r, Decidable (S.ans s e r)]
  {c c' : Config σ ε ρ φ}
include hS

/-- **Step lemma.** -/
theorem System.Respects.next (hc : c.Sim R i c') {x x' : Choice μ ρ} (hx : x.Sim M i x') :
    Option.Rel (Config.Sim R i) (S.next c x) (S.next c' x') := by
  cases hx with
  | enter hm =>
    simp only [System.next, hc.fault, hS.enter i _ _ _ _ hm hc.s]
    split
    · exact .some ((hS.prog i _ _ hm i (le_refl i) _ _ hc.s).land hc.stack)
    · exact .none
  | answer r =>
    obtain ⟨s, st, fault⟩ := c
    obtain ⟨s', st', fault'⟩ := c'
    obtain ⟨hs, hst, rfl⟩ := hc
    cases hst with
    | nil => exact .none
    | cons hf hst =>
      simp only [System.next, hf.e, hS.ans i _ _ _ r hs]
      split
      · exact .some ((hf.k i (le_refl i) r _ _ hs).land hst)
      · exact .none

end

/-- A run is like itself. -/
theorem System.Respects.reach {S : System σ ε ρ φ μ} {M : ι → μ → μ → Prop} (hS : S.Respects R M)
    (hM : ∀ m, M i m m) {c c' : Config σ ε ρ φ} (h : S.Reach c c') (hc : c.Sim R i c) :
    c'.Sim R i c' := by
  induction h with
  | refl => exact hc
  | tail _ hstep ih =>
    cases hstep with
    | enter m _ => exact (hS.prog i m m (hM m) i (le_refl i) _ _ ih.s).land ih.stack
    | answer r _ =>
      obtain ⟨hs, hst, -⟩ := ih
      cases hst with
      | cons hf hst => exact (hf.k i (le_refl i) r _ _ hs).land hst

/-- The choices of two runs that make their steps together, each pair related by what holds at that
point of the first. -/
inductive System.Aligned (S : System σ ε ρ φ μ) [∀ s m, Decidable (S.enter s m)]
    [∀ s e r, Decidable (S.ans s e r)] (N : σ → System.Choice μ ρ → System.Choice μ ρ → Prop) :
    Config σ ε ρ φ → List (System.Choice μ ρ) → List (System.Choice μ ρ) → Prop where
  | nil (c : Config σ ε ρ φ) : Aligned S N c [] []
  | cons {c : Config σ ε ρ φ} {x x' : System.Choice μ ρ} {xs xs' : List (System.Choice μ ρ)} :
      N c.s x x' → (∀ d, S.next c x = some d → Aligned S N d xs xs') →
      Aligned S N c (x :: xs) (x' :: xs')

/-- **Run lemma.** The choices are related by all that is known of the state they are made in. -/
theorem System.Respects.run {S : System σ ε ρ φ μ} {M : ι → μ → μ → Prop} (hS : S.Respects R M)
    [∀ s m, Decidable (S.enter s m)] [∀ s e r, Decidable (S.ans s e r)] {know : σ → ι}
    (hknow : ∀ i s s', R i s s' → i ≤ know s ∧ R (know s) s s') {c c' : Config σ ε ρ φ}
    (hc : c.Sim R i c') {xs xs' : List (Choice μ ρ)}
    (hx : S.Aligned (fun s => Choice.Sim M (know s)) c xs xs') :
    Option.Rel (fun d d' => ∃ j, d.Sim R j d') (S.run c xs) (S.run c' xs') := by
  induction hx generalizing c' i with
  | nil => exact .some ⟨i, hc⟩
  | cons hx _ ih =>
    obtain ⟨hi, hs⟩ := hknow _ _ _ hc.s
    have hnext := hS.next (hc.learn hi hs) hx
    simp only [System.run]
    revert hnext ih
    generalize S.next _ _ = o
    generalize S.next c' _ = o'
    intro ih hnext
    cases hnext with
    | some h => exact ih _ rfl h
    | none => exact .none

end

end Gattlibpp.Open
