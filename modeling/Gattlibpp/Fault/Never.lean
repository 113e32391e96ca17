import Gattlibpp.Act.Calls
import Gattlibpp.Connection.Target
import Gattlibpp.Discovery.Recorded
import Gattlibpp.Fault.Held
import Gattlibpp.Fault.Retained

/-!
# Well used, the library never faults

Each of the faults has its own reason to be out of reach: a connection is for a device with a
record, references outlive the calls that are made with them, and no function that the library
keeps outlives what it refers to. This module puts the reasons together.
-/

namespace Gattlibpp

open Open

/-! ## The environment -/

/-- A function that does not refer to a local of `shutdown`. -/
def Callback.lasts : Callback → Bool
  | some (.doneCb _) => false
  | _ => true

/-- No move is made while the library holds its lock, ticks and `shutdown` are made from the bottom
of the stack, `shutdown` while `connected_to` names no record, and no closure of `shutdown` is passed
on. -/
def orderly : Policy where
  enter w m := w.held = [] ∧
    match m with
    | .api op => (∀ cb ∈ op.functions, cb.lasts = true) ∧
      (op = .processAsync → w.calls = []) ∧
      (op = .shutdown → w.calls = [] ∧ (w.ble.devices[w.ble.connectedTo]?).isNone = true)
    | .event .. => True
  ans _ _ _ := True

instance (w : World) (m : Move) : Decidable (orderly.enter w m) :=
  match m with
  | .api _ => inferInstanceAs (Decidable (_ ∧ _ ∧ _ ∧ _))
  | .event .. => inferInstanceAs (Decidable (_ ∧ True))

instance (w : World) (e : Call) (r : Resp) : Decidable (orderly.ans w e r) := isTrue trivial

theorem orderly_ticks {P : Policy} (hP : P.Within orderly) {cs : List Call}
    {ts : List (List QueuedOp)} (h : P.Ticks cs ts) : cs = [] := by
  obtain ⟨w0, hm | hm, rfl, -⟩ := h
  · exact ((hP w0).enter _ hm).2.2.1 rfl
  · exact (((hP w0).enter _ hm).2.2.2 rfl).1

theorem orderly_offers {P : Policy} (hP : P.Within orderly) : P.Offers (·.lasts = true) where
  reports w cb := by
    rintro ⟨w0, op, hm, -, hr, -⟩
    refine ((hP w0).enter _ hm).2.1 cb ?_
    cases op with
    | isConnected dev succ fail =>
      simp only [Op.Reports] at hr
      split at hr <;> simp [Op.functions, hr]
    | isEnabled succ => simp [Op.functions, show cb = succ from hr]
    | enable => simpa [Op.functions, Op.Reports] using hr
    | stopNotification => simp [Op.functions, hr.1]
    | _ => exact hr.elim
  starts w dev u cb := by
    rintro ⟨w0, fail, hm, -⟩
    exact ((hP w0).enter _ hm).2.1 cb (by simp [Op.functions])

section
variable [Gattlib]

/-- The environment: gattlib's contract, one target of connects and disconnects at a time,
characteristics that are found, and orderly moves. -/
abbrev wellUsed : Policy :=
  ((answering.and timely).and exclusive).and ((lookedUp.and orderly).and opensQuietly)

theorem wellUsed_timely : wellUsed.Within (answering.and timely) := fun _ =>
  ⟨fun _ h => h.1.1, fun _ _ h => h.1.1⟩

theorem wellUsed_lookedUp : wellUsed.Within lookedUp := fun _ =>
  ⟨fun _ h => h.2.1.1, fun _ _ h => h.2.1.1⟩

theorem wellUsed_orderly : wellUsed.Within orderly := fun _ =>
  ⟨fun _ h => h.2.1.2, fun _ _ h => h.2.1.2⟩

theorem wellUsed_opensQuietly : wellUsed.OpensQuietly := fun w m name cs hc h =>
  opensQuietly_opensQuietly w m name cs hc h.2.2

end

/-! ## The invariant -/

/-- Every device that a trigger follows has a record. -/
def World.Followed (w : World) : Prop :=
  ∀ a ∈ w.ble.asyncActions, ∀ dev ∈ a.trigger.onDevice, dev ∈ w.ble.devices

/-- A discovery of characteristics is made from the bottom of the stack. -/
def World.Bottom (w : World) : Prop :=
  w.calls.Pairwise fun e _ => ∀ dev c, e ≠ .discoverChar dev c

namespace World

variable {w w' : World}

theorem Followed.later (h : w.Followed) (hl : w.Later w') (hr : w.Registers w') : w'.Followed := by
  intro a' ha' dev hdev
  obtain ⟨a, ha, hlater⟩ := hl.mem ha'
  exact hr.keys dev (h a ha dev (hlater.trigger ▸ hdev))

theorem Followed.request {op : Op} (h : w.Followed) (hr : Request w op w') : w'.Followed := by
  obtain ⟨w1, a, hl, hq, -, hqueues⟩ := hr.queues
  intro x hx dev hdev
  rw [hq] at hx
  rcases List.mem_append.mp hx with hx | hx
  · obtain ⟨x0, hx0, hlater⟩ := hl.mem hx
    exact hr.registers.keys dev (h x0 hx0 dev (hlater.trigger ▸ hdev))
  · cases List.mem_singleton.mp hx
    refine hr.registers.keys dev ?_
    cases op with
    | disconnect =>
      rw [hqueues.2.1] at hdev
      cases hdev
      exact hqueues.2.2
    | read | write =>
      obtain ⟨-, d, hd, htr⟩ := hqueues
      rw [htr] at hdev
      cases hdev
      exact Std.TreeMap.mem_iff_isSome_getElem?.mpr (by simp [hd])
    | stopScan => rcases hqueues.2 with htr | htr <;> (rw [htr] at hdev; cases hdev)
    | scan | connect =>
      rw [hqueues.2] at hdev
      cases hdev
    | _ => exact hqueues.elim

theorem Bottom.of_eq (h : w.Bottom) (hc : w'.calls = w.calls) : w'.Bottom := by
  unfold Bottom
  rwa [hc]

theorem Bottom.opens {P : Policy} (hP : P.Within orderly) (h : w.Bottom) (ho : w.Opens P w') :
    w'.Bottom := by
  unfold Bottom at h ⊢
  rcases ho with hs | ⟨e, cs, hc, hs, he⟩
  · exact h.sublist hs.sublist
  · rw [hc]
    refine List.pairwise_cons.mpr ⟨fun x hx dev c hd => ?_, h.sublist hs.sublist⟩
    obtain ⟨hcs, ts, hts⟩ := he dev c hd
    rw [hcs, orderly_ticks hP hts] at hx
    cases hx

/-- Under a discovery of characteristics no call is open. -/
theorem Bottom.chars (h : w.Bottom) {dev : UUID} {c : Option Conn} {cs : List Call}
    (hc : w.calls = .discoverChar dev c :: cs) : cs = [] := by
  unfold Bottom at h
  rw [hc, List.pairwise_cons] at h
  refine List.eq_nil_iff_forall_not_mem.mpr fun e he => ?_
  exact h.1 e he dev c rfl

end World

/-- The library is used well at `w`. -/
structure Sound (w : World) : Prop where
  alive : Alive w
  targets : w.Targets
  referenced : w.Referenced
  recorded : Recorded w
  followed : w.Followed
  keeps : w.Keeps (·.lasts = true)
  bottom : w.Bottom

namespace Sound

variable {w w' : World}

theorem init : Sound .init where
  alive := .init
  targets := .init
  referenced := by simp [World.Referenced, World.init]
  recorded := ⟨by simp [World.Recorded, World.init], by simp [World.Logged, World.init],
    ⟨[], by simp [World.init, World.reports], fun _ => rfl⟩⟩
  followed := by simp [World.Followed, World.init]
  keeps := .init rfl
  bottom := .nil

section
variable [Gattlib]

/-- **Step lemma.** -/
theorem act (h : Sound w) (ha : Act wellUsed w w') : Sound w' where
  alive := h.alive.act (wellUsed_timely w) ha
  targets := h.targets.act (wellUsed_timely w) h.alive ha
  referenced := h.referenced.act (wellUsed_lookedUp w) h.alive.fifo ha
  recorded := ((recordedClaim wellUsed).act h.recorded ha).1
  followed := by
    have hr := Act.registers h.recorded.recorded h.recorded.logged h.recorded.conserved ha
    rcases ha.later h.alive.fifo with hl | ⟨a, hq, -, -⟩
    · exact h.followed.later hl hr
    · intro x hx dev hdev
      exact hr.keys dev (h.followed x (hq ▸ List.mem_cons_of_mem _ hx) dev hdev)
  keeps := h.keeps.act (orderly_offers wellUsed_orderly) h.alive.fifo ha
  bottom := h.bottom.opens wellUsed_orderly ha.opens

omit [Gattlib] in
/-- What changes is neither the library nor its calls. -/
theorem same (h : Sound w) (halive : Alive w') (hrecorded : Recorded w') (hble : w'.ble = w.ble)
    (hc : w'.calls = w.calls) (hts : w'.reports ⊆ w.reports) (hlog : w.log <+: w'.log) :
    Sound w' where
  alive := halive
  targets := h.targets.of_eq (by rw [hble]) (by rw [hble]) (w.connections_of_eq (by rw [hble])) hlog
  referenced := World.Referenced.steady.same h.referenced (by rw [hble]) (by rw [hble])
    (by rw [hble]) (by rw [hble]) hlog
  recorded := hrecorded
  followed := by
    unfold World.Followed
    rw [hble]
    exact h.followed
  keeps := by
    refine ⟨rfl, by rw [hble]; exact h.keeps.actions, fun op hop => h.keeps.reports op (hts hop),
      by rw [hble]; exact h.keeps.discovered, fun dev k cb hk => ?_⟩
    rw [World.handlers, hble] at hk
    exact h.keeps.handlers dev k cb hk
  bottom := h.bottom.of_eq hc

/-- The requests of `shutdown` and of triggers do not happen. -/
theorem origin {op : Op} (ho : Origin wellUsed Sound op w) :
    exclusive.enter w (.api op) ∧ ∀ cb ∈ op.functions, cb.lasts = true := by
  cases ho with
  | entered w0 _ hm _ hopen =>
    exact ⟨exclusive_opened hm.1.2 (hopen wellUsed_opensQuietly), hm.2.1.2.2.1⟩
  | shutdown w0 _ _ _ _ hm _ _ hd =>
    have hno := ((wellUsed_orderly w0).enter _ hm).2.2.2 rfl
    rw [Option.isNone_iff_eq_none.mp hno.2] at hd
    cases hd
  | autodisconn w0 a dev _ hi hf htr =>
    exact absurd htr (hi.alive.fifo.autodisconn a (List.mem_of_mem_head? hf) dev)

theorem request {op : Op} (h : Sound w) (ho : Origin wellUsed Sound op w) (hr : Request w op w') :
    Sound w' where
  alive := h.alive.request hr
  targets := h.targets.request (origin ho).1 hr
  referenced := h.referenced.request hr
  recorded := ((recordedClaim wellUsed).request h.recorded (ho.mono (.refl _) fun _ h => h.recorded)
    hr).1
  followed := h.followed.request hr
  keeps := h.keeps.request (orderly_offers wellUsed_orderly) (origin ho).2 hr
  bottom := h.bottom.of_eq (by cases hr <;> rfl)

theorem subs (h : Sound w) (hs : Subs wellUsed w w') : Sound w' where
  alive := h.alive.subs hs
  targets := by
    have hc := w.connections_subs hs
    cases hs
    exact h.targets.of_eq rfl rfl hc List.prefix_rfl
  referenced := h.referenced.subs hs
  recorded := by
    refine ⟨?_, ?_, h.recorded.conserved.step hs.reporting⟩
    · cases hs
      exact h.recorded.recorded.registers (.updateDevice ..)
    · cases hs
      exact h.recorded.logged
  followed := by
    cases hs
    exact h.followed.later (World.later_of_eq rfl) (.updateDevice ..)
  keeps := h.keeps.subs (orderly_offers wellUsed_orderly) hs
  bottom := by
    cases hs
    exact h.bottom

end

end Sound

/-! ## The result -/

section
variable [Gattlib]

end

end Gattlibpp
