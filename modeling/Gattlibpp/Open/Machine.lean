import Gattlibpp.Open.Prog

/-!
# Runs of a system of open programs

A system answers the moves of its environment: each move `m` starts the program
`prog m`, also while calls of earlier programs are open. A configuration is the
state together with the stack of open calls; a step starts a move or answers
the innermost open call. `enter` and `ans` say which moves and answers the
environment may make.

`Reach.inv` is the invariant rule: it asks for `Safe` of each program and gives
the invariant in every configuration of every run. `Exec` is the big-step
reading of the same runs, for statements about completed programs.
-/

namespace Gattlibpp.Open

open Relation

variable {σ ε ρ φ μ α : Type}

structure System (σ ε ρ φ μ : Type) where
  prog : μ → Prog σ ε ρ φ Unit
  enter : σ → μ → Prop
  ans : σ → ε → ρ → Prop

/-- An open call: what was called, and how the caller goes on. -/
structure Frame (σ ε ρ φ : Type) where
  e : ε
  k : ρ → σ → Out σ ε ρ φ Unit

structure Config (σ ε ρ φ : Type) where
  s : σ
  stack : List (Frame σ ε ρ φ)
  fault : Option φ

/-- Where the machine stands once a program above the calls `st` hands over control. -/
def land : Out σ ε ρ φ Unit → List (Frame σ ε ρ φ) → Config σ ε ρ φ
  | .done s _, st => ⟨s, st, none⟩
  | .call s e k, st => ⟨s, ⟨e, k⟩ :: st, none⟩
  | .raise s, st => ⟨s, st, none⟩
  | .halt s why, st => ⟨s, st, some why⟩

theorem land_s (o : Out σ ε ρ φ Unit) (st : List (Frame σ ε ρ φ)) :
    (land o st).s = o.state := by
  cases o <;> rfl

/-- A program that stops leaves the machine running. -/
theorem Out.Stops.land {Q : σ → Prop} {o : Out σ ε ρ φ Unit} (h : o.Stops Q)
    (st : List (Frame σ ε ρ φ)) : Q (land o st).s ∧ (land o st).fault = none := by
  cases o with
  | call | raise => exact ⟨h, rfl⟩
  | done | halt => exact h.elim

namespace System

variable (S : System σ ε ρ φ μ)

inductive Step : Config σ ε ρ φ → Config σ ε ρ φ → Prop where
  | enter {s : σ} {st : List (Frame σ ε ρ φ)} (m : μ) : S.enter s m →
      Step ⟨s, st, none⟩ (land (S.prog m s) st)
  | answer {s : σ} {f : Frame σ ε ρ φ} {st : List (Frame σ ε ρ φ)} (r : ρ) : S.ans s f.e r →
      Step ⟨s, f :: st, none⟩ (land (f.k r s) st)

/-- `c'` is reached from `c`. -/
def Reach : Config σ ε ρ φ → Config σ ε ρ φ → Prop := ReflTransGen S.Step

/-! ## Computing runs -/

/-- One choice of the environment. -/
inductive Choice (μ ρ : Type) where
  | enter (m : μ)
  | answer (r : ρ)

variable [∀ s m, Decidable (S.enter s m)] [∀ s e r, Decidable (S.ans s e r)]

def next (c : Config σ ε ρ φ) : Choice μ ρ → Option (Config σ ε ρ φ)
  | .enter m =>
    if c.fault.isNone ∧ S.enter c.s m then some (land (S.prog m c.s) c.stack) else none
  | .answer r =>
    match c.stack with
    | [] => none
    | f :: st =>
      if c.fault.isNone ∧ S.ans c.s f.e r then some (land (f.k r c.s) st) else none

def run (c : Config σ ε ρ φ) : List (Choice μ ρ) → Option (Config σ ε ρ φ)
  | [] => some c
  | x :: xs => (S.next c x).bind fun c' => run c' xs

theorem step_of_next {c c' : Config σ ε ρ φ} {x : Choice μ ρ} (h : S.next c x = some c') :
    S.Step c c' := by
  obtain ⟨s, st, fault⟩ := c
  cases x with
  | enter m =>
    simp only [next, Option.ite_none_right_eq_some, Option.some.injEq, Option.isNone_iff_eq_none] at h
    obtain ⟨⟨rfl, hm⟩, rfl⟩ := h
    exact .enter m hm
  | answer r =>
    cases st with
    | nil => cases h
    | cons f st =>
      simp only [next, Option.ite_none_right_eq_some, Option.some.injEq,
        Option.isNone_iff_eq_none] at h
      obtain ⟨⟨rfl, hr⟩, rfl⟩ := h
      exact .answer r hr

theorem reach_of_run {xs : List (Choice μ ρ)} {c c' : Config σ ε ρ φ}
    (h : S.run c xs = some c') : S.Reach c c' := by
  induction xs generalizing c with
  | nil => cases h; exact .refl
  | cons x xs ih =>
    obtain ⟨d, hd, hx⟩ := Option.bind_eq_some_iff.mp h
    exact .head (S.step_of_next hd) (ih hx)

/-- A computed run that ends in a state with property `P`. -/
theorem reach_of_run_any (xs : List (Choice μ ρ)) {c : Config σ ε ρ φ}
    {P : Config σ ε ρ φ → Bool} (h : (S.run c xs).any P = true) :
    ∃ c', S.Reach c c' ∧ P c' = true := by
  cases hc : S.run c xs with
  | none => rw [hc] at h; cases h
  | some c' => rw [hc] at h; exact ⟨c', S.reach_of_run hc, h⟩

end System

/-! ## The invariant rule -/

/-- The rules fit the system: its answers are the system's, the rely relation is a
preorder, and every program it starts is safe, keeps the invariant and
guarantees to earlier calls what they rely on. -/
structure Rules.Fits (T : Rules σ ε ρ φ) (S : System σ ε ρ φ μ) : Prop where
  ans : ∀ s e r, S.ans s e r → T.ans s e r
  refl : ∀ s, T.rely s s
  trans : ∀ s s' s'', T.rely s s' → T.rely s' s'' → T.rely s s''
  prog : ∀ m s, T.inv s → S.enter s m →
    (S.prog m s).Safe T (fun _ s' => T.inv s' ∧ T.rely s s') (fun s' => T.inv s' ∧ T.rely s s')

/-- The open calls at state `s` of a run from `b`: each goes on safely from every state it
may come back to, and guarantees to the calls below it what they rely on. -/
inductive Rules.Linked (T : Rules σ ε ρ φ) (b : σ) : σ → List (Frame σ ε ρ φ) → Prop where
  | nil {s : σ} : T.rely b s → T.Linked b s []
  | cons {s s0 sc : σ} {f : Frame σ ε ρ φ} {st : List (Frame σ ε ρ φ)} :
      (∀ r s', T.rely sc s' → T.inv s' → T.ans s' f.e r →
        (f.k r s').Safe T (fun _ s'' => T.inv s'' ∧ T.rely s0 s'')
          (fun s'' => T.inv s'' ∧ T.rely s0 s'')) →
      T.rely sc s → T.Linked b s0 st → T.Linked b s (f :: st)

section
variable {T : Rules σ ε ρ φ} {S : System σ ε ρ φ μ} {b : σ}

theorem Rules.Linked.mono (hT : T.Fits S) {s s' : σ} {st : List (Frame σ ε ρ φ)}
    (h : T.Linked b s st) (hr : T.rely s s') : T.Linked b s' st := by
  cases h with
  | nil hb => exact .nil (hT.trans _ _ _ hb hr)
  | cons hk hs hst => exact .cons hk (hT.trans _ _ _ hs hr) hst

/-- What the invariant rule keeps along a run from `b`. -/
def Rules.Good (T : Rules σ ε ρ φ) (b : σ) (c : Config σ ε ρ φ) : Prop :=
  match c.fault with
  | none => T.inv c.s ∧ T.Linked b c.s c.stack
  | some why => T.crash c.s why

theorem Rules.Linked.land (hT : T.Fits S) {s0 : σ} {o : Out σ ε ρ φ Unit}
    {st : List (Frame σ ε ρ φ)} (hst : T.Linked b s0 st)
    (ho : o.Safe T (fun _ s' => T.inv s' ∧ T.rely s0 s') (fun s' => T.inv s' ∧ T.rely s0 s')) :
    T.Good b (land o st) := by
  cases o with
  | done s a => exact ⟨ho.1, hst.mono hT ho.2⟩
  | raise s => exact ⟨ho.1, hst.mono hT ho.2⟩
  | halt s why => exact ho
  | call s e k => exact ⟨ho.1, .cons ho.2 (hT.refl s) hst⟩

theorem Rules.Fits.step (hT : T.Fits S) {c c' : Config σ ε ρ φ} (h : S.Step c c')
    (hc : T.Good b c) : T.Good b c' := by
  cases h with
  | enter m hm => exact hc.2.land hT (hT.prog m _ hc.1 hm)
  | answer r hr =>
    obtain ⟨hi, hl⟩ := hc
    cases hl with
    | cons hk hs hst => exact hst.land hT (hk r _ hs hi (hT.ans _ _ _ hr))

theorem Rules.Fits.reach (hT : T.Fits S) {c c' : Config σ ε ρ φ} (h : S.Reach c c')
    (hc : T.Good b c) : T.Good b c' := by
  induction h with
  | refl => exact hc
  | tail _ hs ih => exact hT.step hs ih

/-- **Invariant rule.** From a state that keeps the invariant, with no call open,
every running configuration of every run keeps it. -/
theorem Rules.Fits.inv (hT : T.Fits S) {s : σ} {c : Config σ ε ρ φ} (hs : T.inv s)
    (h : S.Reach ⟨s, [], none⟩ c) (hc : c.fault = none) : T.inv c.s := by
  have hg : T.Good s c := hT.reach h ⟨hs, .nil (hT.refl s)⟩
  unfold Rules.Good at hg
  rw [hc] at hg
  exact hg.1

/-- Where no call is open, the run is related to its start. -/
theorem Rules.Fits.base (hT : T.Fits S) {s : σ} {c : Config σ ε ρ φ} (hs : T.inv s)
    (h : S.Reach ⟨s, [], none⟩ c) (hc : c.fault = none) (hst : c.stack = []) : T.rely s c.s := by
  have hg : T.Good s c := hT.reach h ⟨hs, .nil (hT.refl s)⟩
  unfold Rules.Good at hg
  rw [hc] at hg
  have hl := hg.2
  rw [hst] at hl
  cases hl with
  | nil hb => exact hb

/-- A run that crashes does so in an allowed way. -/
theorem Rules.Fits.crash (hT : T.Fits S) {s : σ} {c : Config σ ε ρ φ} {why : φ} (hs : T.inv s)
    (h : S.Reach ⟨s, [], none⟩ c) (hc : c.fault = some why) : T.crash c.s why := by
  have hg : T.Good s c := hT.reach h ⟨hs, .nil (hT.refl s)⟩
  unfold Rules.Good at hg
  rw [hc] at hg
  exact hg

end

/-! ## Completed programs -/

/-- The program runs to its end, with `none` for an exception. While a call is open
the environment may enter further programs, each of which runs to its end. -/
inductive System.Exec (S : System σ ε ρ φ μ) : {α : Type} → Out σ ε ρ φ α → Option α → σ → Prop
    where
  | done {α : Type} (s : σ) (a : α) : S.Exec (.done s a) (some a) s
  | raise {α : Type} (s : σ) : S.Exec (.raise s : Out σ ε ρ φ α) none s
  | enter {α : Type} {s s1 s' : σ} {e : ε} {k : ρ → σ → Out σ ε ρ φ α} {b : Option Unit}
      {a : Option α} (m : μ) : S.enter s m → S.Exec (S.prog m s) b s1 →
      S.Exec (.call s1 e k) a s' → S.Exec (.call s e k) a s'
  | answer {α : Type} {s s' : σ} {e : ε} {k : ρ → σ → Out σ ε ρ φ α} {a : Option α} (r : ρ) :
      S.ans s e r → S.Exec (k r s) a s' → S.Exec (.call s e k) a s'

section
variable {T : Rules σ ε ρ φ} {S : System σ ε ρ φ μ}

theorem Out.Safe.of_rely (hT : T.Fits S) {s s' : σ} {e : ε} {k : ρ → σ → Out σ ε ρ φ α}
    {Q : α → σ → Prop} {X : σ → Prop} (h : (Out.call s e k).Safe T Q X) (hr : T.rely s s')
    (hi : T.inv s') : (Out.call s' e k).Safe T Q X :=
  ⟨hi, fun r s'' h1 => h.2 r s'' (hT.trans _ _ _ hr h1)⟩

/-- The postcondition of a program that ended with `a`, with `none` for an exception. -/
def Ends (Q : α → σ → Prop) (X : σ → Prop) : Option α → σ → Prop
  | some a, s => Q a s
  | none, s => X s

/-- A safe program that runs to its end meets its postcondition. -/
theorem System.Exec.post (hT : T.Fits S) {o : Out σ ε ρ φ α} {a : Option α} {s' : σ}
    (h : S.Exec o a s') : ∀ {Q : α → σ → Prop} {X : σ → Prop}, o.Safe T Q X → Ends Q X a s' := by
  induction h with
  | done s a => exact fun ho => ho
  | raise s => exact fun ho => ho
  | @enter α s s1 s' e k b a m hm hp _ ihp ihk =>
    intro Q X ho
    have h1 := ihp (hT.prog m s ho.1 hm)
    have h2 : T.inv s1 ∧ T.rely s s1 := by cases b <;> exact h1
    exact ihk (ho.of_rely hT h2.2 h2.1)
  | @answer α s s' e k a r hr _ ih =>
    intro Q X ho
    exact ih (ho.2 r s (hT.refl s) ho.1 (hT.ans _ _ _ hr))

/-- Answer the calls of a program in turn, with no moves entered. -/
def System.play (S : System σ ε ρ φ μ) [∀ s e r, Decidable (S.ans s e r)] :
    Out σ ε ρ φ α → List ρ → Option σ
  | .done s _, [] => some s
  | .call s e k, r :: rs => if S.ans s e r then S.play (k r s) rs else none
  | _, _ => none

theorem System.exec_of_play [∀ s e r, Decidable (S.ans s e r)] {o : Out σ ε ρ φ α} {rs : List ρ}
    {s' : σ} (h : S.play o rs = some s') : ∃ a, S.Exec o (some a) s' := by
  induction o generalizing rs with
  | done s a =>
    cases rs with
    | nil =>
      cases h
      exact ⟨a, .done _ a⟩
    | cons => cases h
  | call s e k ih =>
    cases rs with
    | nil => cases h
    | cons r rs =>
      simp only [System.play, Option.ite_none_right_eq_some] at h
      obtain ⟨a, ha⟩ := ih r s h.2
      exact ⟨a, .answer r h.1 ha⟩
  | raise | halt => cases rs <;> cases h

/-- What a program ends with, and where, when its calls are answered in turn. -/
def Out.answered : Out σ ε ρ φ α → List ρ → Option (α × σ)
  | .done s a, [] => some (a, s)
  | .call s _ k, r :: rs => (k r s).answered rs
  | _, _ => none

theorem System.exec_of_answered (hS : ∀ s e r, S.ans s e r) {o : Out σ ε ρ φ α} {rs : List ρ} {a : α}
    {s' : σ} (h : o.answered rs = some (a, s')) : S.Exec o (some a) s' := by
  induction o generalizing rs with
  | done s a =>
    cases rs with
    | nil =>
      cases h
      exact .done _ a
    | cons => cases h
  | call s e k ih =>
    cases rs with
    | nil => cases h
    | cons r rs => exact .answer r (hS _ _ _) (ih r s h)
  | raise | halt => cases rs <;> cases h

/-- A program that runs to its end goes on with what follows it. -/
theorem System.Exec.bind {β : Type} {o : Out σ ε ρ φ α} {x : α} {s' s'' : σ}
    {f : α → Prog σ ε ρ φ β} {b : Option β} (h : S.Exec o (some x) s')
    (hf : S.Exec (f x s') b s'') : S.Exec (o.bind f) b s'' := by
  generalize ha : some x = a at h
  induction h with
  | done s y =>
    cases ha
    exact hf
  | raise s => cases ha
  | enter m hm hp _ _ ih => exact .enter m hm hp (ih hf ha)
  | answer r hr _ ih => exact .answer r hr (ih hf ha)

theorem System.Exec.trap {o : Out σ ε ρ φ α} {x : α} {s' : σ} {g : σ → σ}
    (h : S.Exec o (some x) s') : S.Exec (o.trap g) (some x) s' := by
  generalize ha : some x = a at h
  induction h with
  | done s y =>
    cases ha
    exact .done ..
  | raise s => cases ha
  | enter m hm hp _ _ ih => exact .enter m hm hp (ih ha)
  | answer r hr _ ih => exact .answer r hr (ih ha)

/-- What runs to its end in an environment does so in a larger one. -/
theorem System.Exec.mono {S' : System σ ε ρ φ μ} {o : Out σ ε ρ φ α} {a : Option α} {s' : σ}
    (h : S.Exec o a s') (hp : S'.prog = S.prog) (he : ∀ s m, S.enter s m → S'.enter s m)
    (hr : ∀ s e r, S.ans s e r → S'.ans s e r) : S'.Exec o a s' := by
  induction h with
  | done s a => exact .done s a
  | raise s => exact .raise s
  | enter m hm _ _ ihp ihk => exact .enter m (he _ m hm) (hp ▸ ihp) ihk
  | answer r ha _ ih => exact .answer r (hr _ _ r ha) ih

/-- A completed program is a run of the machine that comes back to the same calls. -/
theorem System.Exec.reach {o : Out σ ε ρ φ Unit} {a : Option Unit} {s' : σ}
    (h : S.Exec o a s') (st : List (Frame σ ε ρ φ)) : S.Reach (land o st) ⟨s', st, none⟩ := by
  suffices ∀ {α : Type} {o : Out σ ε ρ φ α} {a : Option α} {s' : σ}, S.Exec o a s' →
      ∀ (hα : α = Unit) (st : List (Frame σ ε ρ φ)),
      S.Reach (land (hα ▸ o) st) ⟨s', st, none⟩ from this h rfl st
  clear h
  intro α o a s' h
  induction h with
  | done s a => rintro rfl st; exact .refl
  | raise s => rintro rfl st; exact .refl
  | @enter α s s1 s' e k b a m hm _ _ ihp ihk =>
    rintro rfl st
    exact .head (.enter m hm) ((ihp rfl _).trans (ihk rfl st))
  | @answer α s s' e k a r hr _ ih =>
    rintro rfl st
    exact .head (.answer r hr) (ih rfl st)

end

end Gattlibpp.Open
