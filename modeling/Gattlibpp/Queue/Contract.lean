import Gattlibpp.Queue.Log

/-!
# gattlib's contract

What may be assumed of gattlib's asynchronous functions: a call that returned 0 is
answered at most once, by the callbacks registered with it, and a call that returned
non-zero never.
-/

namespace Gattlibpp

/-- The callbacks that answer a call. -/
def Event.answers : Event → Call → Bool
  | .scanComplete, .scanEnable .. => true
  | .scanDisableDone, .scanDisable .. => true
  | .connected _, .connect .. => true
  | .disconnected, .disconnect .. => true
  | .readChar _, .readChar .. => true
  | .opDone, .writeChar .. => true
  | .opFailed, .writeChar .. => true
  | _, _ => false

/-- Callbacks that answer no call. -/
def Event.unsolicited : Event → Bool
  | .deviceDiscovered .. | .notification .. => true
  | _ => false

/-- The gattlib call made for `t`. -/
def callFor (log : List Obs) (t : ActionId) : Option Call :=
  log.findSome? fun
    | .call e => if e.action = some t then some e else none
    | _ => none

theorem callFor_some {log : List Obs} {t : ActionId} {e : Call} (h : callFor log t = some e) :
    .call e ∈ log ∧ e.action = some t := by
  obtain ⟨o, ho, he⟩ := List.exists_of_findSome?_eq_some h
  cases o with
  | call e' =>
    simp only [Option.ite_none_right_eq_some, Option.some.injEq] at he
    exact he.2 ▸ ⟨ho, he.1⟩
  | _ => cases he

/-- The call made for `t` has no answer yet, and gattlib did not turn it down. -/
def unanswered (log : List Obs) (t : ActionId) : Bool :=
  t ∉ answeredIds log && t ∉ refusedIds log

/-- A disable has completed since the call made for `t`. -/
def disabledSince (log : List Obs) (t : ActionId) : Bool :=
  (log.dropWhile fun o => o.calledId ≠ some t).any fun
    | .enter (.event _ .scanDisableDone) => true
    | _ => false

/-- When the call `e` made for `t` may be answered: a scan at any time until a disable has
completed, any other call once it has returned, by `gattlib_async_process_all`. -/
def answerTime (w : World) (t : ActionId) : Call → Bool
  | .scanEnable .. => ! disabledSince w.log t
  | _ => t ∈ returnedIds w.log && w.calls.head? = some .asyncProcessAll

/-- gattlib may call back with `ev` for the call made for `t`. -/
def mayAnswer (w : World) (t : ActionId) (ev : Event) : Bool :=
  unanswered w.log t &&
    (callFor w.log t).any fun e => ev.answers e && answerTime w t e

/-- The requests that queue an action. -/
def Op.isRequest : Op → Bool
  | .scan .. | .stopScan .. | .connect .. | .disconnect .. | .read .. | .write .. => true
  | _ => false

/-- Requests, ticks, and gattlib keeping to its contract. -/
def contract : Policy where
  enter w m :=
    match m with
    | .api op => op.isRequest ∨ op = .processAsync
    | .event none ev => ev.unsolicited
    | .event (some t) ev => mayAnswer w t ev
  ans w e r := ∀ t ∈ e.action, r.rc ≠ 0 → t ∉ answeredIds w.log

/-- The part of the contract that says which call an answer is for: each call is answered at
most once, by its own callbacks, and no refused call is answered. -/
def answering : Policy where
  enter w m :=
    match m with
    | .api _ => True
    | .event none ev => ev.unsolicited
    | .event (some t) ev => unanswered w.log t ∧ (callFor w.log t).any ev.answers
  ans w e r := ∀ t ∈ e.action, r.rc ≠ 0 → t ∉ answeredIds w.log

def Call.opensAdapter : Call → Bool
  | .adapterOpen _ => true
  | _ => false

/-- Opening an adapter calls nothing back. -/
def opensQuietly : Policy where
  enter w _ := w.calls.head?.all (! ·.opensAdapter)
  ans _ _ _ := True

theorem opensQuietly_opensQuietly : opensQuietly.OpensQuietly := by
  intro w m name cs hc h
  simp [opensQuietly, hc, Call.opensAdapter] at h

/-- Both environments' restrictions hold. -/
def Policy.and (P P' : Policy) : Policy where
  enter w m := P.enter w m ∧ P'.enter w m
  ans w e r := P.ans w e r ∧ P'.ans w e r

/-- At `w`, `P` restricts the environment at least as much as `P'`. -/
structure Policy.WithinAt (P P' : Policy) (w : World) : Prop where
  enter : ∀ m, P.enter w m → P'.enter w m
  ans : ∀ e r, P.ans w e r → P'.ans w e r

def Policy.Within (P P' : Policy) : Prop := ∀ w, P.WithinAt P' w

theorem Policy.Within.refl (P : Policy) : P.Within P := fun _ => ⟨fun _ h => h, fun _ _ h => h⟩

theorem Reach.mono [Gattlib] {P P' : Policy} (hP : P.Within P') {w : World}
    {c : Open.Config World Call Resp Fault} (h : Reach P w c) : Reach P' w c := by
  induction h with
  | refl => exact .refl
  | tail _ hs ih =>
    refine ih.tail ?_
    cases hs with
    | enter m hm => exact .enter m ((hP _).enter _ hm)
    | answer r hr => exact .answer r ((hP _).ans _ _ hr)

theorem Policy.and_within (P P' : Policy) : (P.and P').Within P := fun _ =>
  ⟨fun _ h => h.1, fun _ _ h => h.1⟩

theorem contract_answering : contract.Within answering := fun w =>
  { enter := fun m hm => by
      match m with
      | .api _ => trivial
      | .event none _ => exact hm
      | .event (some t) ev =>
        simp only [contract, mayAnswer, Bool.and_eq_true, Option.any_eq_true] at hm
        obtain ⟨hun, e, he, hans, -⟩ := hm
        exact ⟨hun, by simp [he, hans]⟩
    ans := fun _ _ h => h }

instance (w : World) (m : Move) : Decidable (contract.enter w m) :=
  match m with
  | .api op => inferInstanceAs (Decidable (op.isRequest ∨ op = .processAsync))
  | .event none ev => inferInstanceAs (Decidable (ev.unsolicited = true))
  | .event (some t) ev => inferInstanceAs (Decidable (mayAnswer w t ev = true))

instance (w : World) (e : Call) (r : Resp) : Decidable (contract.ans w e r) :=
  inferInstanceAs (Decidable (∀ t ∈ e.action, r.rc ≠ 0 → t ∉ answeredIds w.log))

instance (w : World) (m : Move) : Decidable (answering.enter w m) :=
  match m with
  | .api _ => isTrue trivial
  | .event none ev => inferInstanceAs (Decidable (ev.unsolicited = true))
  | .event (some t) ev =>
    inferInstanceAs (Decidable (unanswered w.log t = true ∧ (callFor w.log t).any ev.answers = true))

instance (w : World) (e : Call) (r : Resp) : Decidable (answering.ans w e r) :=
  inferInstanceAs (Decidable (∀ t ∈ e.action, r.rc ≠ 0 → t ∉ answeredIds w.log))

instance (w : World) (m : Move) : Decidable (opensQuietly.enter w m) :=
  inferInstanceAs (Decidable (w.calls.head?.all (! ·.opensAdapter) = true))

instance (w : World) (e : Call) (r : Resp) : Decidable (opensQuietly.ans w e r) := isTrue trivial

instance {P P' : Policy} [∀ w m, Decidable (P.enter w m)] [∀ w m, Decidable (P'.enter w m)]
    (w : World) (m : Move) : Decidable ((P.and P').enter w m) :=
  inferInstanceAs (Decidable (_ ∧ _))

instance {P P' : Policy} [∀ w e r, Decidable (P.ans w e r)] [∀ w e r, Decidable (P'.ans w e r)]
    (w : World) (e : Call) (r : Resp) : Decidable ((P.and P').ans w e r) :=
  inferInstanceAs (Decidable (_ ∧ _))

end Gattlibpp
