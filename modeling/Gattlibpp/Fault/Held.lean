import Gattlibpp.Act.Members
import Gattlibpp.Notify.Handlers
import Gattlibpp.Queue.Later
import Gattlibpp.Report.Conservation

/-!
# The functions the library holds

The library keeps the functions it is given in its actions, its reports, its device records and
for discovered devices. What holds of every function given to it holds of every function it keeps.
-/

namespace Gattlibpp

open Open

/-- Each of the functions of an action satisfies `F`. -/
structure CallbacksContainer.All (F : Callback → Prop) (c : CallbacksContainer) : Prop where
  success : F c.success
  failure : F c.failure
  datareceived : F c.datareceived

/-- Each function that is kept satisfies `F`. -/
structure World.Keeps (F : Callback → Prop) (w : World) : Prop where
  empty : F none
  actions : ∀ a ∈ w.ble.asyncActions, a.callbacks.All F
  reports : ∀ op ∈ w.reports, F op.function
  discovered : F w.ble.devDiscoveredCb
  handlers : ∀ (dev k : UUID) (cb : Callback),
    ((w.handlers dev).bind fun m => m[k]?) = some cb → F cb

/-- Each function that comes from outside satisfies `F`. -/
structure Policy.Offers (P : Policy) (F : Callback → Prop) : Prop where
  reports : ∀ w cb, P.Reports w cb → F cb
  starts : ∀ w dev u cb, P.Starts w dev u cb → F cb

namespace World.Keeps

variable {F : Callback → Prop} {P : Policy} {w w' : World}

theorem init (hF : F none) : World.init.Keeps F where
  empty := hF
  actions := by simp [World.init]
  reports := by simp [World.init, World.reports]
  discovered := hF
  handlers dev k cb h := by simp [World.init, World.handlers] at h

/-- The functions of the actions stay with them. -/
theorem later (h : w.Keeps F) (hl : w.Later w') : ∀ a ∈ w'.ble.asyncActions, a.callbacks.All F :=
  fun _ ha' => by
    obtain ⟨a, ha, hlater⟩ := hl.mem ha'
    exact hlater.callbacks ▸ h.actions a ha

theorem outcome (h : w.Keeps F) {a : AsyncAction.Details} (ha : a ∈ w.ble.asyncActions)
    (how : Outcome) : F (how.callback a.callbacks) := by
  cases how with
  | success => exact (h.actions a ha).success
  | failure => exact (h.actions a ha).failure

section
variable [Gattlib]

theorem pushes (h : w.Keeps F) (hP : P.Offers F) {op : QueuedOp} (hop : P.Pushes w w' op) :
    F op.function := by
  cases op with
  | callback cb => exact hP.reports w cb hop
  | readData cb buf t =>
    obtain ⟨-, ⟨a, ha, -, rfl⟩, -⟩ := hop
    exact (h.actions a ha).datareceived
  | notification cb buf =>
    obtain ⟨dev, u, d, -, hd, -, rfl⟩ := hop
    unfold QueuedOp.function Device.Details.notificationHandler
    cases hk : d.notifHandlers[Device.normalizeCharacteristicUUID u]? with
    | none => exact h.empty
    | some cb =>
      refine h.handlers dev (Device.normalizeCharacteristicUUID u) cb ?_
      rw [World.handlers, hd]
      exact hk
  | _ => exact h.empty

theorem reporting (h : w.Keeps F) (hP : P.Offers F) (hr : w.Reporting P w') :
    ∀ op ∈ w'.reports, F op.function := by
  intro op hop
  have hold := h.reports op
  unfold World.reports at hop hold
  cases hr with
  | pushed ops hops _ _ _ hq hts =>
    rw [hq, hts] at hop
    simp only [List.mem_append] at hop hold
    rcases hop with (hop | hop) | hop
    · exact hold (.inl hop)
    · exact h.pushes hP (hops op hop)
    · exact hold (.inr hop)
  | took _ _ _ _ _ hq hts =>
    rw [hq, hts] at hop
    exact hold (by simpa using hop)
  | ran op' _ _ _ hq hts =>
    rw [hq] at hop
    rw [hts] at hold
    simp only [List.mem_append, List.mem_cons] at hop hold
    exact hold (hop.imp_right .inr)

/-- **Step lemma.** -/
theorem act (h : w.Keeps F) (hP : P.Offers F) (hfifo : Fifo w) (ha : Act P w w') : w'.Keeps F := by
  refine ⟨h.empty, ?_, h.reporting hP ha.reporting, ?_, ?_⟩
  · rcases ha.later hfifo with hl | ⟨a, hq, -, -⟩
    · exact h.later hl
    · exact fun x hx => h.actions x (hq ▸ List.mem_cons_of_mem _ hx)
  · have hm := ha.members
    simp only [World.members, Prod.mk.injEq] at hm
    rcases hm with ⟨hd, -⟩ | ⟨name, r, -, hd, -⟩ | ⟨p, -, -, hd, -⟩ <;> exact hd ▸ h.discovered
  · exact ha.handlers hfifo ▸ h.handlers

/-- A request puts functions it was given in its action. -/
theorem request {op : Op} (h : w.Keeps F) (hP : P.Offers F) (hop : ∀ cb ∈ op.functions, F cb)
    (hr : Request w op w') : w'.Keeps F := by
  obtain ⟨w1, a, hl, hq, -, hqueues⟩ := hr.queues
  have ha : a.callbacks.All F := by
    have hgive (cb : Callback) (hcb : cb ∈ op.functions := by simp [Op.functions]) : F cb :=
      hop cb hcb
    cases op with
    | scan _ succ disc fail => exact hqueues.1 ▸ ⟨hgive succ, hgive fail, h.empty⟩
    | stopScan succ fail | connect _ _ succ fail | disconnect _ succ fail
    | write _ _ _ succ fail => exact hqueues.1 ▸ ⟨hgive succ, hgive fail, h.empty⟩
    | read _ _ inData fail => exact hqueues.1 ▸ ⟨h.empty, hgive fail, hgive inData⟩
    | _ => exact hqueues.elim
  refine ⟨h.empty, fun x hx => ?_, h.reporting hP hr.reporting, ?_, fun dev k cb hk => ?_⟩
  · rw [hq] at hx
    rcases List.mem_append.mp hx with hx | hx
    · exact h.later hl x hx
    · cases List.mem_singleton.mp hx
      exact ha
  · cases hr with
    | scan runSeconds succ disc fail => exact hop disc (by simp [Op.functions])
    | _ => exact h.discovered
  · rcases hr.handlers dev with he | ⟨-, he⟩
    · exact h.handlers dev k cb (he ▸ hk)
    · rw [he] at hk
      simp at hk

theorem subs (h : w.Keeps F) (hP : P.Offers F) (hs : Subs P w w') : w'.Keeps F := by
  have hreports := h.reporting hP hs.reporting
  have hhandlers := hs.handlers
  obtain ⟨dev, f, -, -⟩ := hs
  refine ⟨h.empty, h.actions, hreports, h.discovered, fun e k cb hk => ?_⟩
  rcases hhandlers e k cb hk with hold | ⟨u, -, hst⟩
  · exact h.handlers e k cb hold
  · exact hP.starts w e u cb hst

end

end World.Keeps

end Gattlibpp
