import Gattlibpp.Act.Calls
import Gattlibpp.Queue.Contract

/-!
# Answers in the log

An action is marked as answered by the move that answers it, and by no other act. Where
gattlib answers only calls that were made, every answered action has made one.
-/

namespace Gattlibpp

open Open

section
variable {w : World}

@[simp] theorem World.invoke_answeredIds (cb : Callback) (arg : Arg) (role : Role) :
    answeredIds (w.invoke cb arg role).log = answeredIds w.log := by
  unfold World.invoke
  split
  · simp
  · rfl

@[simp] theorem World.finish_answeredIds (how : Outcome) (t : ActionId) :
    answeredIds (w.finish how t).log = answeredIds w.log := (w.complete t).invoke_answeredIds ..

@[simp] theorem World.finishFront_answeredIds (how : Outcome) :
    answeredIds (w.finishFront how).log = answeredIds w.log := by
  unfold World.finishFront
  split
  · rfl
  · exact w.finish_answeredIds ..

@[simp] theorem QueuedOp.apply_answeredIds (op : QueuedOp) :
    answeredIds (op.apply w).log = answeredIds w.log := by
  cases op with
  | callback | readData | notification => exact w.invoke_answeredIds ..
  | autoDiscoverServicesStep | autoDiscoverCharacteristicsStep => simp [QueuedOp.apply]
  | reportConnected => exact w.finishFront_answeredIds ..

@[simp] theorem Trigger.apply_answeredIds (tr : Trigger) (t : ActionId) :
    answeredIds (tr.apply w t).log = answeredIds w.log := by
  cases tr with
  | stopScanDone => exact w.finish_answeredIds ..
  | read | write =>
    simp only [Trigger.apply]
    split
    · rfl
    · simp
  | _ => simp [Trigger.apply]

end

section
variable [Gattlib] {P : Policy} {w w' : World} {t : ActionId}

/-- What an act marks as answered was answered by its move. -/
theorem Act.answered (ha : Act P w w') (h : t ∈ answeredIds w'.log) :
    t ∈ answeredIds w.log ∨ ∃ ev, P.enter w (.event (some t) ev) := by
  have hev {of : Option ActionId} {ev : Event} (hm : P.enter w (.event of ev))
      (ho : t ∈ answeredIds w.log ∨ of = some t) :
      t ∈ answeredIds w.log ∨ ∃ ev, P.enter w (.event (some t) ev) := by
    rcases ho with ho | rfl
    · exact .inl ho
    · exact .inr ⟨ev, hm⟩
  cases ha with
  | enter m hm =>
    cases m with
    | api => exact .inl (by simpa using h)
    | event of ev => exact hev hm (by simpa using h)
  | event of ev how hm => exact hev hm (by cases ev <;> simpa [Event.apply] using h)
  | eventAuto of c hm => exact hev hm (by simpa [Event.apply] using h)
  | eventRead of buf a hm => exact hev hm (by split at h <;> simpa using h)
  | eventReadNone of buf hm => exact hev hm (by simpa using h)
  | eventDiscovered of addr name hm =>
    exact hev hm (by simpa [World.discovered, World.named] using h)
  | refused e => exact .inl (by cases e <;> simpa [Call.refusedApply] using h)
  | services dev c r =>
    obtain ⟨devices, heq⟩ := (w.back (.discoverPrimary dev c) r).servicesStep_eq dev r
    rw [heq] at h
    exact .inl (by simpa using h)
  | chars dev c r =>
    obtain ⟨devices, heq⟩ := (w.back (.discoverChar dev c) r).charsStep_eq dev r
    rw [heq] at h
    exact .inl (by simpa using h)
  | inert _ hi => exact .inl (hi.log ▸ h)
  | _ => exact .inl (by simpa using h)

/-- Only actions that made a call are answered. -/
def World.AnswersCalls (w : World) : Prop := ∀ t ∈ answeredIds w.log, t ∈ calledIds w.log

theorem World.AnswersCalls.act (hP : P.WithinAt answering w) (h : w.AnswersCalls)
    (ha : Act P w w') : w'.AnswersCalls := by
  intro t ht
  refine marks_mono ha.log_grows ?_
  rcases ha.answered ht with hold | ⟨ev, hm⟩
  · exact h t hold
  · obtain ⟨e, he, -⟩ := (Option.any_eq_true ..).mp (hP.enter _ hm).2
    obtain ⟨hlog, hact⟩ := callFor_some he
    exact List.mem_filterMap.mpr ⟨.call e, hlog, hact⟩

end

end Gattlibpp
