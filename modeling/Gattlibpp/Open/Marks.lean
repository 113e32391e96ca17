import Gattlibpp.Open.Machine

/-!
# Where control comes back

A program grows its state along a preorder, and marks it wherever a call comes back:
`Marked M p` says so for every place where control may leave `p`. It is closed under what
programs are built from, and a run of marked programs has only marked calls open.
-/

namespace Gattlibpp.Open

variable {σ ε ρ φ α β : Type}

/-- How a state grows, and what has been marked in it since a call came back. -/
structure Marking (σ ε ρ : Type) where
  grows : σ → σ → Prop
  marked : ε → ρ → σ → σ → Prop
  refl : ∀ s, grows s s
  trans : ∀ {s s' s''}, grows s s' → grows s' s'' → grows s s''
  keep : ∀ {e r s s' s''}, marked e r s s' → grows s' s'' → marked e r s s''

/-- After every call that comes back control leaves in a marked state. -/
def Out.Marked (M : Marking σ ε ρ) : Out σ ε ρ φ α → Prop
  | .call _ e k => ∀ r s, M.marked e r s (k r s).state ∧ (k r s).Marked M
  | _ => True

structure Prog.Marked (M : Marking σ ε ρ) (p : Prog σ ε ρ φ α) : Prop where
  grows : ∀ s, M.grows s (p s).state
  marked : ∀ s, (p s).Marked M

section
variable {M : Marking σ ε ρ} {o : Out σ ε ρ φ α} {p : Prog σ ε ρ φ α} {f : α → Prog σ ε ρ φ β}
  {g h : σ → σ}

theorem Out.bind_grows (hf : ∀ a, (f a).Marked M) : M.grows o.state (o.bind f).state := by
  cases o with
  | done s a => exact (hf a).grows s
  | call | raise | halt => exact M.refl _

theorem Out.Marked.bind (ho : o.Marked M) (hf : ∀ a, (f a).Marked M) : (o.bind f).Marked M := by
  induction o with
  | done s a => exact (hf a).marked s
  | raise | halt => trivial
  | call s e k ih =>
    intro r s'
    obtain ⟨hm, hk⟩ := ho r s'
    exact ⟨M.keep hm (Out.bind_grows hf), ih r s' hk⟩

theorem Out.leave_grows (hg : ∀ s, M.grows s (g s)) : M.grows o.state (o.leave g).state := by
  cases o with
  | done s a | raise s => exact hg s
  | call | halt => exact M.refl _

theorem Out.Marked.leave (ho : o.Marked M) (hg : ∀ s, M.grows s (g s)) :
    (o.leave g).Marked M := by
  induction o with
  | done | raise | halt => trivial
  | call s e k ih =>
    intro r s'
    obtain ⟨hm, hk⟩ := ho r s'
    exact ⟨M.keep hm (Out.leave_grows hg), ih r s' hk⟩

theorem Out.trap_grows (hg : ∀ s, M.grows s (g s)) : M.grows o.state (o.trap g).state := by
  cases o with
  | raise s => exact hg s
  | done | call | halt => exact M.refl _

theorem Out.Marked.trap (ho : o.Marked M) (hg : ∀ s, M.grows s (g s)) : (o.trap g).Marked M := by
  induction o with
  | done | raise | halt => trivial
  | call s e k ih =>
    intro r s'
    obtain ⟨hm, hk⟩ := ho r s'
    exact ⟨M.keep hm (Out.trap_grows hg), ih r s' hk⟩

namespace Prog.Marked

@[grind ←] theorem pure (a : α) : Prog.Marked M (Pure.pure a : Prog σ ε ρ φ α) :=
  ⟨fun s => M.refl s, fun _ => trivial⟩

@[grind ←] theorem get : Prog.Marked M (Prog.get : Prog σ ε ρ φ σ) :=
  ⟨fun s => M.refl s, fun _ => trivial⟩

@[grind ←] theorem raise : Prog.Marked M (Prog.raise : Prog σ ε ρ φ α) :=
  ⟨fun s => M.refl s, fun _ => trivial⟩

@[grind ←] theorem halt (why : φ) : Prog.Marked M (Prog.halt why : Prog σ ε ρ φ α) :=
  ⟨fun s => M.refl s, fun _ => trivial⟩

theorem modify (hg : ∀ s, M.grows s (g s)) :
    Prog.Marked M (Prog.modify g : Prog σ ε ρ φ Unit) :=
  ⟨hg, fun _ => trivial⟩

@[grind ←] theorem bind (hp : p.Marked M) (hf : ∀ a, (f a).Marked M) : (p >>= f).Marked M :=
  ⟨fun s => M.trans (hp.grows s) (Out.bind_grows hf), fun s => (hp.marked s).bind hf⟩

theorem ite {c : Prop} [Decidable c] {q : Prog σ ε ρ φ α} (hp : p.Marked M)
    (hq : q.Marked M) : Prog.Marked M (if c then p else q) := by
  split
  · exact hp
  · exact hq

theorem within (hg : ∀ s, M.grows s (g s)) (hh : ∀ s, M.grows s (h s)) (hp : p.Marked M) :
    (Prog.within g h p).Marked M :=
  ⟨fun s => M.trans (hg s) (M.trans (hp.grows (g s)) (Out.leave_grows hh)),
    fun s => (hp.marked (g s)).leave hh⟩

theorem trapped (hg : ∀ s, M.grows s (g s)) (hp : p.Marked M) : (Prog.trapped g p).Marked M :=
  ⟨fun s => M.trans (hp.grows s) (Out.trap_grows hg), fun s => (hp.marked s).trap hg⟩

end Prog.Marked

theorem land_stack (o : Out σ ε ρ φ Unit) (st : List (Frame σ ε ρ φ)) (ho : o.Marked M) :
    ∀ f ∈ (land o st).stack, f ∈ st ∨ (∀ r s, M.marked f.e r s (f.k r s).state ∧
      (f.k r s).Marked M) := by
  cases o with
  | call s e k =>
    intro f hf
    rcases List.mem_cons.mp hf with rfl | hf
    · exact .inr ho
    · exact .inl hf
  | done | raise | halt => exact fun f hf => .inl hf

/-- Every open call goes on marked. -/
def Config.Marked (M : Marking σ ε ρ) (c : Config σ ε ρ φ) : Prop :=
  ∀ f ∈ c.stack, ∀ r s, M.marked f.e r s (f.k r s).state ∧ (f.k r s).Marked M

variable {μ : Type} {S : System σ ε ρ φ μ} {c c' : Config σ ε ρ φ}

theorem System.Step.marked (hS : ∀ m, (S.prog m).Marked M) (h : S.Step c c') (hc : c.Marked M) :
    c'.Marked M := by
  cases h with
  | @enter s st m hm =>
    intro f hf
    exact (land_stack _ st ((hS m).marked s) f hf).elim (hc f) id
  | @answer s f st r hr =>
    intro g hg
    refine (land_stack _ st (hc f List.mem_cons_self r s).2 g hg).elim (fun hm => ?_) id
    exact hc g (List.mem_cons_of_mem _ hm)

theorem System.Reach.marked (hS : ∀ m, (S.prog m).Marked M) (h : S.Reach c c') (hc : c.Marked M) :
    c'.Marked M := by
  induction h with
  | refl => exact hc
  | tail _ hs ih => exact hs.marked hS ih

end

end Gattlibpp.Open
