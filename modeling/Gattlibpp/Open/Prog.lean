import Mathlib.Logic.Relation
import Mathlib.Tactic.Common

/-!
# Open programs

A program over a state `σ` that runs until control leaves it. It may finish
(`done`), hand control to its environment and wait for an answer (`call`),
throw (`raise`), or reach undefined behaviour (`halt`). While a call is open
the environment may run other programs on the same state, so the continuation
gets the answer together with the state it comes back to.

`Out.Safe` is the rely/guarantee rule for such programs: the invariant is given
up at every call and may be assumed again, with the rely relation from the
state of the call, when the answer comes.
-/

namespace Gattlibpp.Open

variable {σ ε ρ φ α β γ : Type}

/-- Where a program stands when control leaves it. -/
inductive Out (σ ε ρ φ α : Type) where
  | done (s : σ) (a : α)
  | call (s : σ) (e : ε) (k : ρ → σ → Out σ ε ρ φ α)
  | raise (s : σ)
  | halt (s : σ) (why : φ)

/-- A program: from a state, where it stands when control leaves it. -/
def Prog (σ ε ρ φ α : Type) : Type := σ → Out σ ε ρ φ α

namespace Out

/-- The state control leaves the program in. -/
def state : Out σ ε ρ φ α → σ
  | done s _ => s
  | call s _ _ => s
  | raise s => s
  | halt s _ => s

/-- Why the program cannot go on, if it cannot. -/
def fault : Out σ ε ρ φ α → Option φ
  | halt _ why => some why
  | _ => none

def bind : Out σ ε ρ φ α → (α → Prog σ ε ρ φ β) → Out σ ε ρ φ β
  | done s a, f => f a s
  | call s e k, f => call s e fun r s' => (k r s').bind f
  | raise s, _ => raise s
  | halt s why, _ => halt s why

/-- Leave a scope: `f` runs on the way out, also when an exception unwinds. -/
def leave (f : σ → σ) : Out σ ε ρ φ α → Out σ ε ρ φ α
  | done s a => done (f s) a
  | call s e k => call s e fun r s' => (k r s').leave f
  | raise s => raise (f s)
  | halt s why => halt s why

/-- Note an exception that passes by. -/
def trap (f : σ → σ) : Out σ ε ρ φ α → Out σ ε ρ φ α
  | done s a => done s a
  | call s e k => call s e fun r s' => (k r s').trap f
  | raise s => raise (f s)
  | halt s why => halt s why

@[simp] theorem bind_done (s : σ) (a : α) (f : α → Prog σ ε ρ φ β) :
    (done s a : Out σ ε ρ φ α).bind f = f a s := rfl

@[simp] theorem bind_call (s : σ) (e : ε) (k : ρ → σ → Out σ ε ρ φ α)
    (f : α → Prog σ ε ρ φ β) :
    (call s e k).bind f = call s e fun r s' => (k r s').bind f := rfl

@[simp] theorem bind_raise (s : σ) (f : α → Prog σ ε ρ φ β) :
    (raise s : Out σ ε ρ φ α).bind f = raise s := rfl

@[simp] theorem bind_halt (s : σ) (why : φ) (f : α → Prog σ ε ρ φ β) :
    (halt s why : Out σ ε ρ φ α).bind f = halt s why := rfl

theorem bind_assoc (o : Out σ ε ρ φ α) (f : α → Prog σ ε ρ φ β) (g : β → Prog σ ε ρ φ γ) :
    (o.bind f).bind g = o.bind fun a s => (f a s).bind g := by
  induction o with
  | done | raise | halt => rfl
  | call s e k ih => exact congrArg (call s e) (funext fun r => funext fun s' => ih r s')

end Out

namespace Prog

instance : Monad (Prog σ ε ρ φ) where
  pure a := fun s => .done s a
  bind p f := fun s => (p s).bind f

/-- Read the state. -/
def get : Prog σ ε ρ φ σ := fun s => .done s s

/-- Change the state. -/
def modify (f : σ → σ) : Prog σ ε ρ φ Unit := fun s => .done (f s) ()

/-- Throw an exception. -/
def raise : Prog σ ε ρ φ α := fun s => .raise s

/-- Undefined behaviour. -/
def halt (why : φ) : Prog σ ε ρ φ α := fun s => .halt s why

/-- Run `p` in a scope entered by `f` and left by `g`. -/
def within (f g : σ → σ) (p : Prog σ ε ρ φ α) : Prog σ ε ρ φ α := fun s => (p (f s)).leave g

def trapped (f : σ → σ) (p : Prog σ ε ρ φ α) : Prog σ ε ρ φ α := fun s => (p s).trap f

@[simp] theorem pure_apply (a : α) (s : σ) : (pure a : Prog σ ε ρ φ α) s = .done s a := rfl

@[simp] theorem bind_apply (p : Prog σ ε ρ φ α) (f : α → Prog σ ε ρ φ β) (s : σ) :
    (p >>= f) s = (p s).bind f := rfl

@[simp] theorem get_apply (s : σ) : (get : Prog σ ε ρ φ σ) s = .done s s := rfl

@[simp] theorem modify_apply (f : σ → σ) (s : σ) :
    (modify f : Prog σ ε ρ φ Unit) s = .done (f s) () := rfl

@[simp] theorem raise_apply (s : σ) : (raise : Prog σ ε ρ φ α) s = .raise s := rfl

@[simp] theorem halt_apply (why : φ) (s : σ) : (halt why : Prog σ ε ρ φ α) s = .halt s why := rfl

@[simp] theorem ite_apply (c : Prop) [Decidable c] (p q : Prog σ ε ρ φ α) (s : σ) :
    (if c then p else q) s = if c then p s else q s := by split <;> rfl

end Prog

/-! ## Where control leaves -/

/-- Control leaves in a state with `Q`, and the program halts only for reasons in `R`. -/
structure Out.Leaves (Q : σ → Prop) (R : φ → Prop) (o : Out σ ε ρ φ α) : Prop where
  state : Q o.state
  fault : ∀ why, o.fault = some why → R why

theorem Out.Leaves.bind {Q : σ → Prop} {R : φ → Prop} {o : Out σ ε ρ φ α}
    {f : α → Prog σ ε ρ φ β} (h : o.Leaves Q R)
    (hf : ∀ s a, o = .done s a → (f a s).Leaves Q R) : (o.bind f).Leaves Q R := by
  cases o with
  | done s a => exact hf s a rfl
  | call | raise | halt => exact ⟨h.state, h.fault⟩

theorem Out.Leaves.trap {Q : σ → Prop} {R : φ → Prop} {o : Out σ ε ρ φ α} {f : σ → σ}
    (h : o.Leaves Q R) (hf : ∀ s, Q s → Q (f s)) : (o.trap f).Leaves Q R := by
  cases o with
  | raise s => exact ⟨hf s h.state, h.fault⟩
  | done | call | halt => exact ⟨h.state, h.fault⟩

/-- The program does not get to its end at once: it calls out or throws, where `Q` holds. -/
def Out.Stops (Q : σ → Prop) : Out σ ε ρ φ α → Prop
  | .call s _ _ => Q s
  | .raise s => Q s
  | _ => False

namespace Out.Stops

variable {Q Q' : σ → Prop} {o : Out σ ε ρ φ α} {f : σ → σ}

theorem mono (h : o.Stops Q) (hQ : ∀ s, Q s → Q' s) : o.Stops Q' := by
  cases o with
  | call s | raise s => exact hQ s h
  | done | halt => exact h.elim

theorem bind (h : o.Stops Q) (p : α → Prog σ ε ρ φ β) : (o.bind p).Stops Q := by
  cases o with
  | call | raise => exact h
  | done | halt => exact h.elim

theorem leave (h : o.Stops Q) (hf : ∀ s, Q s → Q (f s)) : (o.leave f).Stops Q := by
  cases o with
  | call => exact h
  | raise s => exact hf s h
  | done | halt => exact h.elim

theorem trap (h : o.Stops Q) (hf : ∀ s, Q s → Q (f s)) : (o.trap f).Stops Q := by
  cases o with
  | call => exact h
  | raise s => exact hf s h
  | done | halt => exact h.elim

end Out.Stops

/-! ## Rely/guarantee -/

/-- What a proof about open programs fixes: the invariant given up at every call,
what the environment keeps while a call is open, the answers it may give, and
which faults are allowed for. -/
structure Rules (σ ε ρ φ : Type) where
  inv : σ → Prop
  rely : σ → σ → Prop
  ans : σ → ε → ρ → Prop
  crash : σ → φ → Prop

/-- Every way on from here keeps to the rules and ends in `Q`, or in `X` when it throws. -/
def Out.Safe (T : Rules σ ε ρ φ) (Q : α → σ → Prop) (X : σ → Prop) : Out σ ε ρ φ α → Prop
  | .done s a => Q a s
  | .call s e k => T.inv s ∧
      ∀ r s', T.rely s s' → T.inv s' → T.ans s' e r → (k r s').Safe T Q X
  | .raise s => X s
  | .halt s why => T.crash s why

section
variable {T : Rules σ ε ρ φ} {Q : α → σ → Prop} {X : σ → Prop}

@[simp] theorem safe_done {s : σ} {a : α} : (Out.done s a).Safe T Q X ↔ Q a s := .rfl

@[simp] theorem safe_raise {s : σ} : (Out.raise s : Out σ ε ρ φ α).Safe T Q X ↔ X s := .rfl

@[simp] theorem safe_halt {s : σ} {why : φ} :
    (Out.halt s why : Out σ ε ρ φ α).Safe T Q X ↔ T.crash s why := .rfl

theorem safe_call {s : σ} {e : ε} {k : ρ → σ → Out σ ε ρ φ α} :
    (Out.call s e k).Safe T Q X ↔ T.inv s ∧
      ∀ r s', T.rely s s' → T.inv s' → T.ans s' e r → (k r s').Safe T Q X := .rfl

@[simp] theorem safe_bind {o : Out σ ε ρ φ α} {f : α → Prog σ ε ρ φ β} {Q : β → σ → Prop} :
    (o.bind f).Safe T Q X ↔ o.Safe T (fun a s => (f a s).Safe T Q X) X := by
  induction o with
  | done | raise | halt => exact .rfl
  | call s e k ih =>
    simp only [Out.bind_call, safe_call]
    exact and_congr_right fun _ => forall₂_congr fun r s' => by rw [ih]

@[simp] theorem safe_leave {o : Out σ ε ρ φ α} {f : σ → σ} :
    (o.leave f).Safe T Q X ↔ o.Safe T (fun a s => Q a (f s)) (fun s => X (f s)) := by
  induction o with
  | done | raise | halt => exact .rfl
  | call s e k ih =>
    simp only [Out.leave, safe_call]
    exact and_congr_right fun _ => forall₂_congr fun r s' => by rw [ih]

@[simp] theorem safe_trap {o : Out σ ε ρ φ α} {f : σ → σ} :
    (o.trap f).Safe T Q X ↔ o.Safe T Q (fun s => X (f s)) := by
  induction o with
  | done | raise | halt => exact .rfl
  | call s e k ih =>
    simp only [Out.trap, safe_call]
    exact and_congr_right fun _ => forall₂_congr fun r s' => by rw [ih]

theorem Out.Safe.mono {o : Out σ ε ρ φ α} {Q' : α → σ → Prop} {X' : σ → Prop}
    (h : o.Safe T Q X) (hQ : ∀ a s, Q a s → Q' a s) (hX : ∀ s, X s → X' s) :
    o.Safe T Q' X' := by
  induction o with
  | done s a => exact hQ a s h
  | raise s => exact hX s h
  | halt s why => exact h
  | call s e k ih => exact ⟨h.1, fun r s' h1 h2 h3 => ih r s' (h.2 r s' h1 h2 h3)⟩

/-- What is safe is so under rules that give up less at a call and assume no more after it. -/
theorem Out.Safe.relax {T' : Rules σ ε ρ φ} {o : Out σ ε ρ φ α} (h : o.Safe T Q X)
    (hinv : ∀ s, T.inv s → T'.inv s)
    (hback : ∀ s s' e r, T.inv s → T'.rely s s' → T'.inv s' → T'.ans s' e r →
      T.rely s s' ∧ T.inv s' ∧ T.ans s' e r)
    (hcrash : ∀ s why, T.crash s why → T'.crash s why) : o.Safe T' Q X := by
  induction o with
  | done s a => exact h
  | raise s => exact h
  | halt s why => exact hcrash s why h
  | call s e k ih =>
    refine ⟨hinv s h.1, fun r s' hr hi ha => ?_⟩
    obtain ⟨hr, hi, ha⟩ := hback s s' e r h.1 hr hi ha
    exact ih r s' (h.2 r s' hr hi ha)

end

end Gattlibpp.Open
