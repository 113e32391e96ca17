import Gattlibpp.Queue.Life

/-!
# Deliveries

Reads and writes are reported in the order of their requests, each with the outcome of its
own gattlib call: a write and a failed read at once, the data of a read through the report
queue. `Delivery` ties the two queues to the log: the callbacks that have been invoked are
those of the popped actions, and perhaps that of the completed front.
-/

namespace Gattlibpp

open Open
open scoped List

/-- A function of the user. -/
def Callback.isUser : Callback → Bool
  | some (.user _) => true
  | _ => false

theorem Callback.exists_user {cb : Callback} (h : cb.isUser = true) : ∃ fn, cb = some (.user fn) := by
  match cb with
  | some (.user fn) => exact ⟨fn, rfl⟩

/-- The call of the user's function `fn` that reports the outcome of the gattlib call of `a`. -/
inductive Reported (log : List Obs) (a : AsyncAction.Details) (fn : Nat) : Arg → Role → Prop where
  | data (buf : BinaryBuffer) : a.callbacks.datareceived = some (.user fn) →
      .enter (.event (some a.id) (.readChar (some buf))) ∈ log →
      Reported log a fn (.data buf) (.data a.id)
  | done : a.callbacks.success = some (.user fn) → .enter (.event (some a.id) .opDone) ∈ log →
      Reported log a fn .nothing (.success a.id)
  | failed : a.callbacks.failure = some (.user fn) →
      .enter (.event (some a.id) .opFailed) ∈ log ∨ a.id ∈ refusedIds log →
      Reported log a fn .nothing (.failure a.id)

/-- A callback of an action reports the outcome of the action's own gattlib call, and is the
one that was given with the request. -/
def OwnOutcome (before : List Obs) (o : Obs) : Prop :=
  ∀ fn arg role, o = .call (.user fn arg role) → role.action ≠ none →
    ∃ a, .queued a ∈ before ∧ Reported before a fn arg role

/-- An action is popped after its callback has been invoked. -/
def InvokedFirst (before : List Obs) (o : Obs) : Prop :=
  ∀ a, o = .popped a → a.id ∈ invokedIds before

/-- A read or a write with the callbacks that report its outcome. -/
def AsyncAction.Details.Piped (a : AsyncAction.Details) : Prop :=
  a.callbacks.failure.isUser = true ∧
    match a.trigger with
    | .read .. => a.callbacks.datareceived.isUser = true
    | .write .. => a.callbacks.success.isUser = true
    | _ => False

/-- The log has the request that queued `a`. -/
def Asked (log : List Obs) (a : AsyncAction.Details) : Prop :=
  ∃ b, .queued b ∈ log ∧ b.id = a.id ∧ b.callbacks = a.callbacks

theorem Asked.grow {log : List Obs} {a : AsyncAction.Details} (h : Asked log a) (l : List Obs) :
    Asked (log ++ l) a := by
  obtain ⟨b, hb, hid, hcb⟩ := h
  exact ⟨b, List.mem_append_left _ hb, hid, hcb⟩

/-- What is reported of `a` is reported of the request that queued it. -/
theorem Asked.reported {log : List Obs} {a : AsyncAction.Details} (h : Asked log a) {fn : Nat}
    {arg : Arg} {role : Role} (hr : Reported log a fn arg role) :
    ∃ b, .queued b ∈ log ∧ Reported log b fn arg role := by
  obtain ⟨b, hb, hid, hcb⟩ := h
  refine ⟨b, hb, ?_⟩
  cases hr with
  | data buf hf hl => rw [← hid] at hl ⊢; exact .data buf (hcb ▸ hf) hl
  | done hf hl => rw [← hid] at hl ⊢; exact .done (hcb ▸ hf) hl
  | failed hf hl => rw [← hid] at hl ⊢; exact .failed (hcb ▸ hf) hl

/-- A report that carries the data that answered `a`. -/
def QueuedOp.Carries (log : List Obs) (a : AsyncAction.Details) (op : QueuedOp) : Prop :=
  ∃ fn buf, op = .readData (some (.user fn)) buf a.id ∧
    a.callbacks.datareceived = some (.user fn) ∧
    .enter (.event (some a.id) (.readChar (some buf))) ∈ log

/-! ## The invariant -/

structure Delivery (queue : List AsyncAction.Details) (reports : List QueuedOp)
    (log : List Obs) : Prop where
  invoked : invokedIds log = poppedIds log ∨ ∃ a ∈ queue.head?, a.state = .completed ∧
    invokedIds log = poppedIds log ++ [a.id]
  done : ∀ a ∈ queue.head?, a.state = .completed →
    a.id ∈ invokedIds log ∨ ∃ op ∈ reports, op.dataId = some a.id
  reports : ∀ op ∈ reports, ∃ a ∈ queue.head?, a.state = .completed ∧ op.Carries log a
  requests : ∀ a ∈ queue, a.Piped ∧ Asked log a
  own : Past OwnOutcome log
  popped : Past InvokedFirst log

namespace Delivery

variable {queue rest : List AsyncAction.Details} {a b : AsyncAction.Details}
  {reports reports' : List QueuedOp} {log : List Obs}

theorem init : Delivery [] [] [] where
  invoked := .inl rfl
  done := by simp
  reports := by simp
  requests := by simp
  own := past_nil
  popped := past_nil

/-- While the front is not Completed, the callbacks of the popped actions have been invoked
and no report waits. -/
theorem running (h : Delivery queue reports log) (hs : ∀ a ∈ queue.head?, a.state ≠ .completed) :
    invokedIds log = poppedIds log ∧ reports = [] := by
  constructor
  · rcases h.invoked with hi | ⟨a, ha, hc, -⟩
    · exact hi
    · exact absurd hc (hs a ha)
  · refine List.eq_nil_iff_forall_not_mem.mpr fun op hop => ?_
    obtain ⟨a, ha, hc, -⟩ := h.reports op hop
    exact hs a ha hc

/-- Entries that neither invoke a callback of an action nor pop one. -/
theorem grow (h : Delivery queue reports log) {l : List Obs}
    (hl : ∀ o ∈ l, o.invokedId = none ∧ o.poppedId = none) :
    Delivery queue reports (log ++ l) := by
  have hi : invokedIds (log ++ l) = invokedIds log := marks_append_of_none fun o ho => (hl o ho).1
  have hp : poppedIds (log ++ l) = poppedIds log := marks_append_of_none fun o ho => (hl o ho).2
  refine ⟨?_, ?_, ?_, ?_, ?_, ?_⟩
  · rw [hi, hp]
    exact h.invoked
  · rw [hi]
    exact h.done
  · intro op hop
    obtain ⟨x, hx, hc, fn, buf, heq, hf, hlog⟩ := h.reports op hop
    exact ⟨x, hx, hc, fn, buf, heq, hf, List.mem_append_left _ hlog⟩
  · exact fun x hx => ⟨(h.requests x hx).1, (h.requests x hx).2.grow l⟩
  · refine h.own.append fun o ho before fn arg role hcall hrole => ?_
    subst hcall
    exact absurd (hl _ ho).1 hrole
  · refine h.popped.append fun o ho before x hx => ?_
    subst hx
    cases (hl _ ho).2

/-- The front changes its state, but is not completed, or its wait count. -/
theorem change (h : Delivery (a :: rest) reports log) (hid : b.id = a.id)
    (hcb : b.callbacks = a.callbacks) (htr : b.trigger = a.trigger)
    (hs : b.state = .completed ↔ a.state = .completed) : Delivery (b :: rest) reports log := by
  refine ⟨?_, ?_, ?_, ?_, h.own, h.popped⟩
  · refine h.invoked.imp_right ?_
    rintro ⟨x, hx, hc, hi⟩
    cases hx
    exact ⟨b, rfl, hs.mpr hc, hid ▸ hi⟩
  · intro x hx hc
    cases hx
    rw [hid]
    exact h.done a rfl (hs.mp hc)
  · intro op hop
    obtain ⟨x, hx, hc, hop⟩ := h.reports op hop
    cases hx
    refine ⟨b, rfl, hs.mpr hc, ?_⟩
    unfold QueuedOp.Carries
    rw [hid, hcb]
    exact hop
  · intro x hx
    rcases List.mem_cons.mp hx with rfl | hx
    · unfold AsyncAction.Details.Piped Asked
      rw [hid, hcb, htr]
      exact h.requests a List.mem_cons_self
    · exact h.requests x (List.mem_cons_of_mem _ hx)

/-- The front is completed and its callback is invoked. -/
theorem finish (h : Delivery (a :: rest) reports log) (ha : a.state = .triggered) {fn : Nat}
    {arg : Arg} {role : Role} (hrole : role.action = some a.id)
    (hr : Reported log a fn arg role) :
    Delivery ({ a with state := .completed } :: rest) reports
      (log ++ [.call (.user fn arg role)]) := by
  obtain ⟨hi, rfl⟩ := h.running (by simp [ha])
  have hi' : invokedIds (log ++ [.call (.user fn arg role)]) = poppedIds log ++ [a.id] :=
    (marks_concat (f := Obs.invokedId) (o := .call (.user fn arg role)) hrole log).trans
      (congrArg (· ++ [a.id]) hi)
  refine ⟨.inr ⟨_, rfl, rfl, ?_⟩, ?_, by simp, ?_, ?_, ?_⟩
  · rw [hi']
    simp
  · intro x hx _
    cases hx
    rw [hi']
    exact .inl (by simp)
  · intro x hx
    rcases List.mem_cons.mp hx with rfl | hx
    · exact ⟨(h.requests a List.mem_cons_self).1, (h.requests a List.mem_cons_self).2.grow _⟩
    · have hx := h.requests x (List.mem_cons_of_mem _ hx)
      exact ⟨hx.1, hx.2.grow _⟩
  · refine past_concat.mpr ⟨h.own, ?_⟩
    rintro _ _ _ ⟨⟩ -
    exact (h.requests a List.mem_cons_self).2.reported hr
  · exact past_concat.mpr ⟨h.popped, by rintro _ ⟨⟩⟩

/-- The front is completed and its data waits to be reported. -/
theorem deferred (h : Delivery (a :: rest) reports log) (ha : a.state = .triggered)
    {op : QueuedOp} (hop : op.Carries log a) :
    Delivery ({ a with state := .completed } :: rest) [op] log := by
  have hi := (h.running (by simp [ha])).1
  refine ⟨.inl hi, ?_, ?_, ?_, h.own, h.popped⟩
  · intro x hx _
    cases hx
    obtain ⟨fn, buf, rfl, -⟩ := hop
    exact .inr ⟨_, List.mem_singleton_self _, rfl⟩
  · intro op' hop'
    rw [List.mem_singleton.mp hop']
    exact ⟨_, rfl, rfl, hop⟩
  · intro x hx
    rcases List.mem_cons.mp hx with rfl | hx
    · exact h.requests a List.mem_cons_self
    · exact h.requests x (List.mem_cons_of_mem _ hx)

/-- The data that waits is reported. -/
theorem ran (h : Delivery queue reports log) (ha : a ∈ queue.head?) {fn : Nat}
    {buf : BinaryBuffer} (hop : .readData (some (.user fn)) buf a.id ∈ reports)
    (hi : a.id ∉ invokedIds log) (hr : ∀ op ∈ reports', op ∈ reports) :
    Delivery queue reports' (log ++ [.call (.user fn (.data buf) (.data a.id))]) := by
  have hfront {x : AsyncAction.Details} (hx : x ∈ queue.head?) : x = a :=
    Option.some.inj (hx.symm.trans ha)
  obtain ⟨x, hx, hc, fn', buf', heq, hf, hlog⟩ := h.reports _ hop
  cases hfront hx
  cases heq
  have hi' : invokedIds (log ++ [.call (.user fn (.data buf) (.data a.id))]) =
      poppedIds log ++ [a.id] := by
    refine (marks_concat (f := Obs.invokedId) rfl log).trans (congrArg (· ++ [a.id]) ?_)
    rcases h.invoked with hinv | ⟨x, hx, -, hinv⟩
    · exact hinv
    · cases hfront hx
      exact absurd (by rw [hinv]; simp) hi
  refine ⟨.inr ⟨a, ha, hc, ?_⟩, ?_, ?_, ?_, ?_, ?_⟩
  · rw [hi']
    simp
  · intro x hx _
    cases hfront hx
    rw [hi']
    exact .inl (by simp)
  · intro op hop
    obtain ⟨x, hx, hc, fn, buf, heq, hf, hlog⟩ := h.reports op (hr op hop)
    exact ⟨x, hx, hc, fn, buf, heq, hf, List.mem_append_left _ hlog⟩
  · intro x hx
    exact ⟨(h.requests x hx).1, (h.requests x hx).2.grow _⟩
  · refine past_concat.mpr ⟨h.own, ?_⟩
    rintro _ _ _ ⟨⟩ -
    exact (h.requests a (List.mem_of_mem_head? ha)).2.reported (.data buf hf hlog)
  · exact past_concat.mpr ⟨h.popped, by rintro _ ⟨⟩⟩

/-- The completed front is popped once no data waits. -/
theorem pop (h : Delivery (a :: rest) [] log) (ha : a.state = .completed)
    (hp : a.id ∉ poppedIds log) (hrest : ∀ x ∈ rest, x.state = .pending) :
    Delivery rest [] (log ++ [.popped a]) := by
  have hinv : a.id ∈ invokedIds log := (h.done a rfl ha).resolve_right (by simp)
  have hi : invokedIds log = poppedIds log ++ [a.id] := by
    rcases h.invoked with hi | ⟨x, hx, -, hi⟩
    · exact absurd (hi ▸ hinv) hp
    · cases hx
      exact hi
  refine ⟨.inl ?_, ?_, by simp, ?_, ?_, ?_⟩
  · simpa using hi
  · intro x hx hc
    rw [hrest x (List.mem_of_mem_head? hx)] at hc
    cases hc
  · intro x hx
    have hx := h.requests x (List.mem_cons_of_mem _ hx)
    exact ⟨hx.1, hx.2.grow _⟩
  · exact past_concat.mpr ⟨h.own, by rintro _ _ _ ⟨⟩⟩
  · refine past_concat.mpr ⟨h.popped, ?_⟩
    rintro _ ⟨⟩
    exact hinv

/-- A request is queued. -/
theorem enqueue (h : Delivery queue reports log) (ha : a.Piped) (hs : a.state = .pending) :
    Delivery (queue ++ [a]) reports (log ++ [.queued a]) := by
  have hg := h.grow (l := [.queued a]) (by simp)
  have hhead {x : AsyncAction.Details} (hx : x ∈ queue.head?) : x ∈ (queue ++ [a]).head? := by
    rw [List.head?_append, hx]
    rfl
  refine ⟨?_, ?_, ?_, ?_, hg.own, hg.popped⟩
  · refine hg.invoked.imp_right ?_
    rintro ⟨x, hx, hc, hi⟩
    exact ⟨x, hhead hx, hc, hi⟩
  · intro x hx hc
    cases queue with
    | nil =>
      cases hx
      rw [hs] at hc
      cases hc
    | cons y queue => exact hg.done x hx hc
  · intro op hop
    obtain ⟨x, hx, hc, hop⟩ := hg.reports op hop
    exact ⟨x, hhead hx, hc, hop⟩
  · intro x hx
    rcases List.mem_append.mp hx with hx | hx
    · exact hg.requests x hx
    · cases List.mem_singleton.mp hx
      exact ⟨ha, a, by simp, rfl, rfl⟩

end Delivery

end Gattlibpp
