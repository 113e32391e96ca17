import Gattlibpp.Open.Trace
import Gattlibpp.Act.Fits

/-!
# What the log says about actions

Each kind of entry marks one action. The lists of marks grow with the log, and the
invariants about the life of an action are stated in them.
-/

namespace Gattlibpp

open Open

/-! ## Marks -/

/-- The action whose outcome a user function is called for. -/
@[simp] def Role.action : Role → Option ActionId
  | .success t | .failure t | .data t => some t
  | _ => none

namespace Obs

@[simp] def queuedId : Obs → Option ActionId
  | queued a => some a.id
  | _ => none

@[simp] def triggeredId : Obs → Option ActionId
  | triggered t => some t
  | _ => none

@[simp] def poppedId : Obs → Option ActionId
  | popped a => some a.id
  | _ => none

@[simp] def cancelledId : Obs → Option ActionId
  | cancelled t => some t
  | _ => none

/-- The action whose gattlib call is made. -/
@[simp] def calledId : Obs → Option ActionId
  | call e => e.action
  | _ => none

/-- The action that calls `gattlib_connect`. -/
@[simp] def connectId : Obs → Option ActionId
  | call (.connect t _ _) => some t
  | _ => none

/-- The action whose gattlib call returns. -/
@[simp] def returnedId : Obs → Option ActionId
  | ret e _ => e.action
  | _ => none

/-- The action whose gattlib call returns non-zero. -/
@[simp] def refusedId : Obs → Option ActionId
  | ret e r => if r.rc = 0 then none else e.action
  | _ => none

/-- The action whose gattlib call is answered by a callback. -/
@[simp] def answeredId : Obs → Option ActionId
  | enter (.event of _) => of
  | _ => none

/-- The action whose success, failure or data callback is invoked. -/
@[simp] def invokedId : Obs → Option ActionId
  | call (.user _ _ role) => role.action
  | _ => none

end Obs

/-- The actions that the entries of `log` mark, in order. -/
def marks (f : Obs → Option ActionId) (log : List Obs) : List ActionId := log.filterMap f

@[simp] theorem marks_nil (f : Obs → Option ActionId) : marks f [] = [] := rfl

@[simp] theorem marks_append (f : Obs → Option ActionId) (l l' : List Obs) :
    marks f (l ++ l') = marks f l ++ marks f l' := List.filterMap_append

@[simp] theorem marks_singleton (f : Obs → Option ActionId) (o : Obs) :
    marks f [o] = (f o).toList := by
  cases h : f o <;> simp [marks, h]

@[simp] theorem marks_cons (f : Obs → Option ActionId) (o : Obs) (l : List Obs) :
    marks f (o :: l) = (f o).toList ++ marks f l := by
  cases h : f o <;> simp [marks, h]

theorem marks_concat {f : Obs → Option ActionId} {o : Obs} {t : ActionId} (h : f o = some t)
    (l : List Obs) : marks f (l ++ [o]) = marks f l ++ [t] := by
  rw [marks_append, marks_singleton, h]
  rfl

theorem marks_append_of_none {f : Obs → Option ActionId} {l l' : List Obs}
    (h : ∀ o ∈ l', f o = none) : marks f (l ++ l') = marks f l := by
  rw [marks_append, show marks f l' = [] from List.filterMap_eq_nil_iff.mpr h, List.append_nil]

theorem marks_mono {f : Obs → Option ActionId} {l l' : List Obs} (h : l <+: l') {t : ActionId}
    (ht : t ∈ marks f l) : t ∈ marks f l' := by
  obtain ⟨l'', rfl⟩ := h
  rw [marks_append]
  exact List.mem_append_left _ ht

abbrev queuedIds (log : List Obs) : List ActionId := marks Obs.queuedId log
abbrev triggeredIds (log : List Obs) : List ActionId := marks Obs.triggeredId log
abbrev poppedIds (log : List Obs) : List ActionId := marks Obs.poppedId log
abbrev cancelledIds (log : List Obs) : List ActionId := marks Obs.cancelledId log
abbrev calledIds (log : List Obs) : List ActionId := marks Obs.calledId log
abbrev connectIds (log : List Obs) : List ActionId := marks Obs.connectId log
abbrev returnedIds (log : List Obs) : List ActionId := marks Obs.returnedId log
abbrev refusedIds (log : List Obs) : List ActionId := marks Obs.refusedId log
abbrev answeredIds (log : List Obs) : List ActionId := marks Obs.answeredId log
abbrev invokedIds (log : List Obs) : List ActionId := marks Obs.invokedId log

theorem connectIds_subset (log : List Obs) : ∀ t ∈ connectIds log, t ∈ calledIds log := by
  intro t ht
  obtain ⟨o, ho, hot⟩ := List.mem_filterMap.mp ht
  refine List.mem_filterMap.mpr ⟨o, ho, ?_⟩
  unfold Obs.connectId at hot
  split at hot
  · exact hot
  · cases hot

end Gattlibpp
