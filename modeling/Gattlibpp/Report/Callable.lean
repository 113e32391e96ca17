import Gattlibpp.Notify.Handlers
import Gattlibpp.Report.Conservation

/-!
# Empty callbacks in the report queue

The requests that only report put their callback in the queue without asking whether it is
empty, and so does a notification with its handler. Where none of these is empty, every report
can be called, and no exception leaves a tick. Which of its callbacks `enable` puts there is
decided by what gattlib answers to it.
-/

namespace Gattlibpp

open Open
open scoped List

/-- The callback that the operation puts in the report queue, and the handler it sets, are not
empty. -/
def Op.givesCallable (b : BLECentral) : Op → Bool
  | .isConnected dev succ fail => (if b.isConnected dev then succ else fail).isSome
  | .isEnabled succ _ => succ.isSome
  | .startNotification _ _ cb _ => cb.isSome
  | _ => true

/-- The callback that `enable` puts in the report queue when gattlib answers `r` is not empty. -/
def Move.enablesCallable (r : Resp) : Move → Bool
  | .api (.enable succ fail) => (if r.rc ≠ 0 then succ else fail).isSome
  | _ => true

def givesCallable : Policy where
  enter w m :=
    match m with
    | .api op => op.givesCallable w.ble = true
    | .event .. => True
  ans w e r :=
    match e with
    | .adapterPowered _ => ∀ m ∈ (callers w.log).head?.join, m.enablesCallable r = true
    | _ => True

instance (w : World) (m : Move) : Decidable (givesCallable.enter w m) :=
  match m with
  | .api op => inferInstanceAs (Decidable (op.givesCallable w.ble = true))
  | .event .. => isTrue trivial

instance (w : World) (e : Call) (r : Resp) : Decidable (givesCallable.ans w e r) :=
  match e with
  | .adapterPowered _ => inferInstanceAs
      (Decidable (∀ m ∈ (callers w.log).head?.join, m.enablesCallable r = true))
  | .user .. | .asyncProcessAll | .adapterOpen _ | .adapterClose _ | .scanEnable ..
  | .scanDisable .. | .connect .. | .disconnect .. | .readChar .. | .writeChar ..
  | .discoverPrimary .. | .discoverChar .. | .registerNotification .. | .registerIndication ..
  | .notificationStart .. | .notificationStop .. => isTrue trivial

abbrev callable : Policy := givesCallable.and opensQuietly

theorem callable_opensQuietly : callable.OpensQuietly := fun w m name cs hc hm =>
  opensQuietly_opensQuietly w m name cs hc hm.2

/-- What an `enable` reports can be called. -/
theorem callable_powers {succ fail cb : Callback} (h : callable.Powers succ fail cb) :
    cb.isSome = true := by
  obtain ⟨w, a, r, ⟨hans, -⟩, hcaller, rfl⟩ := h
  have hm : ∀ m ∈ (callers w.log).head?.join, m.enablesCallable r = true := hans
  rw [hcaller] at hm
  exact hm (.api (.enable succ fail)) rfl

/-- A report the user asks for can be called. -/
theorem callable_reports {w : World} {cb : Callback} (h : callable.Reports w cb) :
    cb.isSome = true := by
  obtain ⟨w0, op, ⟨hm, -⟩, -, hr, hdev, hpow⟩ := h
  have hm : op.givesCallable w0.ble = true := hm
  cases op with
  | isConnected dev succ fail =>
    have hd := hdev dev succ fail rfl callable_opensQuietly
    have hc : w.ble.isConnected dev = w0.ble.isConnected dev := by
      simp only [BLECentral.isConnected, BLECentral.deviceDetails, hd]
    simp only [Op.Reports, hc] at hr
    rw [hr]
    exact hm
  | isEnabled succ fail =>
    cases hr
    exact hm
  | enable succ fail => exact callable_powers (hpow succ fail rfl callable_opensQuietly)
  | stopNotification dev u succ fail =>
    obtain ⟨rfl, hs⟩ := hr
    exact hs
  | _ => exact hr.elim

/-! ## The invariant -/

structure World.Callable (w : World) : Prop where
  fifo : Fifo w
  conserved : w.Conserved
  pushed : ∀ op ∈ pushedOps w.log, ¬ op.Throws
  handlers : ∀ (dev k : UUID) (cb : Callback), ((w.handlers dev).bind fun m => m[k]?) = some cb →
    cb.isSome = true
  returned : ∀ m, .raised m ∉ w.log

namespace World.Callable

variable {w w' : World}

theorem init : World.init.Callable where
  fifo := .init
  conserved := ⟨[], by simp [World.init, World.reports], fun _ => rfl⟩
  pushed := by simp [World.init]
  handlers dev k cb h := by simp [World.init, World.handlers] at h
  returned := by simp [World.init]

theorem not_threw (h : w.Callable) : ¬ w.Threw := by
  rintro ⟨op, hop, hthrows⟩
  exact h.conserved.returned h.pushed op (List.mem_filterMap.mpr ⟨_, hop, rfl⟩) hthrows

/-- What an act pushes can be called. -/
theorem pushes [Gattlib] (h : w.Callable) {op : QueuedOp} (hop : callable.Pushes w w' op) :
    ¬ op.Throws := by
  cases op with
  | callback cb =>
    intro hthrows
    have hcb : cb.isSome = true := callable_reports hop
    rw [show cb = none from hthrows] at hcb
    cases hcb
  | readData cb buf of =>
    intro hthrows
    have hcb : cb.isSome = true := hop.1
    rw [show cb = none from hthrows] at hcb
    cases hcb
  | notification cb buf =>
    intro hthrows
    obtain ⟨dev, u, d, -, hd, hhas, rfl⟩ := hop
    obtain ⟨cb, hcb⟩ := Option.isSome_iff_exists.mp ((Std.TreeMap.isSome_getElem?_eq_contains
      (a := Device.normalizeCharacteristicUUID u)).trans hhas)
    have hsome := h.handlers dev _ cb (by
      rw [World.handlers, hd]
      exact hcb)
    have hnone : (some cb).join = none := hcb ▸ hthrows
    rw [show cb = none from hnone] at hsome
    cases hsome
  | _ => exact id

theorem reporting [Gattlib] (h : w.Callable) (hr : w.Reporting callable w') :
    w'.Conserved ∧ ∀ op ∈ pushedOps w'.log, ¬ op.Throws := by
  refine ⟨h.conserved.step hr, ?_⟩
  cases hr with
  | pushed ops hops hp =>
    intro op hop
    rw [hp] at hop
    exact (List.mem_append.mp hop).elim (h.pushed op) fun hop => h.pushes (hops op hop)
  | took _ _ hp => exact hp ▸ h.pushed
  | ran op hp => exact hp ▸ h.pushed

/-- **Step lemma.** -/
theorem act [Gattlib] (h : w.Callable) (ha : Act callable w w') : w'.Callable := by
  obtain ⟨hcons, hpushed⟩ := h.reporting ha.reporting
  refine ⟨h.fifo.act ha, hcons, hpushed, ha.handlers h.fifo ▸ h.handlers, fun m hm => ?_⟩
  obtain ⟨l, hl⟩ := ha.wrote
  rw [hl.log] at hm
  rcases List.mem_append.mp hm with hm | hm
  · exact h.returned m hm
  · exact h.not_threw (hl.act _ hm)

theorem request [Gattlib] {op : Op} (h : w.Callable) (hr : Request w op w') : w'.Callable := by
  obtain ⟨hcons, hpushed⟩ := h.reporting hr.reporting
  refine ⟨h.fifo.request hr, hcons, hpushed, fun dev k cb hcb => ?_, ?_⟩
  · rcases hr.handlers dev with he | ⟨-, he⟩
    · exact h.handlers dev k cb (he ▸ hcb)
    · rw [he] at hcb
      simp at hcb
  · intro m
    cases hr <;> simpa using h.returned m

theorem subs [Gattlib] (h : w.Callable) (hs : Subs callable w w') : w'.Callable := by
  obtain ⟨hcons, hpushed⟩ := h.reporting hs.reporting
  refine ⟨h.fifo.subs hs, hcons, hpushed, fun dev k cb hcb => ?_, ?_⟩
  · rcases hs.handlers dev k cb hcb with hcb | ⟨u, -, w0, fail, ⟨hm, -⟩, -⟩
    · exact h.handlers dev k cb hcb
    · exact hm
  · cases hs
    exact h.returned

end World.Callable

/-! ## The result -/

section
variable [Gattlib]

def callableClaim : Claim callable where
  inv := World.Callable
  crash _ _ := True
  act h ha := ⟨h.act ha, trivial⟩
  exit {w m r} h _ := by
    have hr : w.Reporting callable (w.note (.exit m r)) :=
      .same (l := [_]) rfl (by simp [Obs.Unreported]) rfl rfl
    obtain ⟨hcons, hpushed⟩ := h.reporting hr
    exact ⟨⟨h.fifo.note ⟨rfl, rfl, rfl⟩, hcons, hpushed, h.handlers, by simpa using h.returned⟩,
      trivial⟩
  drop _ h _ hl hop := absurd ⟨_, List.mem_of_getLast? hl, hop⟩ h.not_threw
  request h _ hr := ⟨h.request hr, trivial⟩
  freed _ _ _ _ _ _ := trivial
  missing _ _ _ _ _ _ _ _ := trivial
  other _ _ := trivial

theorem callableClaim_notifies : callableClaim.Notifies :=
  .of_subs (fun h hs => ⟨h.subs hs, trivial⟩) fun _ _ _ => trivial

/-- **No tick calls an empty function**, in runs whose user gives none to the operations that
report, nor as a notification handler: every report ever pushed can be called, and no move is
left by an exception. -/
theorem reports_callable {c : Config World Call Resp Fault} (h : Reach callable .init c)
    (hf : c.fault = none) :
    (∀ op ∈ pushedOps c.s.log, ¬ op.Throws) ∧ ∀ m, .raised m ∉ c.s.log :=
  have hw := Claim.reach callableClaim_notifies trivial .init h hf
  ⟨hw.pushed, hw.returned⟩

end

/-- `isEnabled` with a success callback only, and `enable` with a failure callback only for an
adapter without power: their reports are pushed and run. -/
theorem reports_callable_enabled :
    ∃ c : Config World Call Resp Fault, @Reach .sample callable .init c ∧
      ranOps c.s.log = [.callback (some (.user 1)), .callback (some (.user 2))] ∧
      (∀ op ∈ pushedOps c.s.log, ¬ op.Throws) ∧ ∀ m, .raised m ∉ c.s.log := by
  let _ := Gattlib.sample
  obtain ⟨c, hc, hP⟩ := (system callable).reach_of_run_any
    [.enter (.api (.isEnabled (some (.user 1)) none)), .answer (.adapter 3),
      .enter (.api (.enable none (some (.user 2)))), .answer (.code 0),
      .enter (.api .processAsync), .answer .void, .answer .void, .answer .void]
    (c := ⟨.init, [], none⟩) (P := fun c => c.fault.isNone &&
      ranOps c.s.log == [.callback (some (.user 1)), .callback (some (.user 2))])
    (by decide)
  simp only [Bool.and_eq_true, Option.isNone_iff_eq_none, beq_iff_eq] at hP
  exact ⟨c, hc, hP.2, reports_callable hc hP.1⟩

/-- `isConnected` without its failure callback, before any connect: the tick throws, and the
report behind it is lost. -/
theorem reports_callable_default :
    ∃ c : Config World Call Resp Fault, @Reach .sample .any .init c ∧ c.fault = none ∧
      .raised (.api .processAsync) ∈ c.s.log ∧ c.s.reports = [] ∧
      .callback (some (.user 2)) ∈ pushedOps c.s.log ∧
      .callback (some (.user 2)) ∉ ranOps c.s.log := by
  let _ := Gattlib.sample
  obtain ⟨c, hc, hP⟩ := (system .any).reach_of_run_any
    [.enter (.api (.isConnected "A" (some (.user 1)) none)), .answer (.adapter 3),
      .enter (.api (.isEnabled (some (.user 2)) none)), .enter (.api .processAsync), .answer .void]
    (c := ⟨.init, [], none⟩) (P := fun c => c.fault.isNone &&
      (decide (.raised (.api .processAsync) ∈ c.s.log) && (c.s.reports == [] &&
      (decide (.callback (some (.user 2)) ∈ pushedOps c.s.log) &&
        decide (.callback (some (.user 2)) ∉ ranOps c.s.log)))))
    (by decide)
  simp only [Bool.and_eq_true, Option.isNone_iff_eq_none, beq_iff_eq, decide_eq_true_eq] at hP
  exact ⟨c, hc, hP⟩

end Gattlibpp
