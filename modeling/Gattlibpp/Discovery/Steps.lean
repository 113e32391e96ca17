import Gattlibpp.Act.Calls
import Gattlibpp.Act.Landing
import Gattlibpp.Discovery.Chain

/-!
# Success after discovery

The success callback of a connect is called at the end of its chain and nowhere else, as
long as gattlib refuses no discovery, `connected_to` names the device that the answered
connect is for, and auto discovery is on.
-/

namespace Gattlibpp

open Open

/-- Auto discovery is on when a connection is there, and `connected_to` names its device. -/
def autoDiscovering : Policy where
  enter w m :=
    match m with
    | .event _ (.connected _) => w.ble.autoDiscover = true ∧
      ∀ a ∈ w.front, a.trigger.agrees w.ble.connectedTo = true
    | _ => True
  ans _ _ _ := True

/-- No discovery is refused. -/
def discovering : Policy where
  enter _ _ := True
  ans _ e r := e.discovers = true → r.rc = 0

/-- What success after discovery depends on. -/
def connecting : Policy := (answering.and timely).and (autoDiscovering.and discovering)

instance (w : World) (m : Move) : Decidable (autoDiscovering.enter w m) :=
  match m with
  | .event _ (.connected _) => inferInstanceAs (Decidable (_ ∧ _))
  | .event _ .disconnected | .event _ (.deviceDiscovered ..) | .event _ .scanComplete
  | .event _ (.readChar _) | .event _ .opDone | .event _ .opFailed | .event _ .scanDisableDone
  | .event _ (.notification ..) | .api _ => isTrue trivial

instance (w : World) (e : Call) (r : Resp) : Decidable (autoDiscovering.ans w e r) := isTrue trivial

instance (w : World) (m : Move) : Decidable (discovering.enter w m) := isTrue trivial

instance (w : World) (e : Call) (r : Resp) : Decidable (discovering.ans w e r) :=
  inferInstanceAs (Decidable (e.discovers = true → r.rc = 0))

instance (w : World) (m : Move) : Decidable (connecting.enter w m) :=
  inferInstanceAs (Decidable (((answering.and timely).and (autoDiscovering.and discovering)).enter w m))

instance (w : World) (e : Call) (r : Resp) : Decidable (connecting.ans w e r) :=
  inferInstanceAs (Decidable (((answering.and timely).and (autoDiscovering.and discovering)).ans w e r))

/-- The action whose success callback is called. -/
def Obs.succeededId : Obs → Option ActionId
  | call (.user _ _ (.success t)) => some t
  | _ => none

section
variable [Gattlib]

/-! ## The invariant -/

/-- The steps that are under way find what the steps before them have stored, and so does
the success callback of a connect. -/
structure World.Staged (w : World) : Prop where
  ops : ∀ op ∈ w.reports, op.chains = true → w.Stands op.Ready
  calls : ∀ e ∈ w.calls, e.discovers = true → w.Stands e.Ready
  told : ∀ t, w.log.getLast?.bind Obs.succeededId = some t → ∀ dev p,
    .call (.connect t dev p) ∈ w.log → w.Discovered t dev

/-- Nothing is added to the chain, and no success is reported. -/
structure World.LeavesChain (w w' : World) : Prop where
  log : ∃ l, w'.log = w.log ++ l ∧ ∀ o ∈ l.getLast?, o.succeededId = none
  ops : ∀ op ∈ w'.reports, op.chains = true → op ∈ w.reports
  calls : ∀ e ∈ w'.calls, e.discovers = true → e ∈ w.calls
  records : w.SameRecords w'

/-- The step at the front is still that of the same action. -/
def World.SameFront (w w' : World) : Prop :=
  ∀ a, w.front = some a → ∃ a', w'.front = some a' ∧ a'.id = a.id

variable {w w' w'' : World}

namespace World.LeavesChain

omit [Gattlib] in
theorem trans (h : w.LeavesChain w') (h' : w'.LeavesChain w'') : w.LeavesChain w'' where
  log := by
    obtain ⟨l, hl, hlast⟩ := h.log
    obtain ⟨l', hl', hlast'⟩ := h'.log
    refine ⟨l ++ l', by rw [hl', hl, List.append_assoc], fun o ho => ?_⟩
    rw [List.getLast?_append] at ho
    cases hx : l'.getLast? with
    | none => exact hlast o (by simpa [hx] using ho)
    | some x => exact hlast' o (by simpa [hx] using ho)
  ops op hop hc := h.ops op (h'.ops op hop hc) hc
  calls e he hd := h.calls e (h'.calls e he hd) hd
  records dev d hd := by
    obtain ⟨d1, hd1, hc1⟩ := h.records dev d hd
    obtain ⟨d2, hd2, hc2⟩ := h'.records dev d1 hd1
    exact ⟨d2, hd2, hc1.trans hc2⟩

omit [Gattlib] in
/-- What is no report, call or device record changes, and entries are added. -/
theorem of_eq {l : List Obs} (hlog : w'.log = w.log ++ l)
    (hl : ∀ o ∈ l.getLast?, o.succeededId = none) (hd : w'.ble.devices = w.ble.devices)
    (hr : w'.ble.reportQueue = w.ble.reportQueue) (ht : w'.ticks = w.ticks)
    (hc : ∀ e ∈ w'.calls, e.discovers = true → e ∈ w.calls) : w.LeavesChain w' where
  log := ⟨l, hlog, hl⟩
  ops op hop _ := by
    unfold World.reports at hop ⊢
    rwa [← hr, ← ht]
  calls := hc
  records := .of_eq hd

omit [Gattlib] in
theorem note {o : Obs} (ho : o.succeededId = none) : w.LeavesChain (w.note o) :=
  of_eq (l := [o]) rfl (by simpa using ho) rfl rfl rfl fun _ he _ => he

omit [Gattlib] in
theorem push {e : Call} (he : (Obs.call e).succeededId = none) (hd : e.discovers = false) :
    w.LeavesChain (w.push e) := by
  refine of_eq (l := [.call e]) rfl (by simpa using he) rfl rfl rfl fun e' he' hd' => ?_
  rcases List.mem_cons.mp he' with rfl | he'
  · rw [hd] at hd'
    cases hd'
  · exact he'

omit [Gattlib] in
theorem back (e : Call) (r : Resp) : w.LeavesChain (w.back e r) :=
  of_eq (l := [.ret e r]) rfl (by simp [Obs.succeededId]) rfl rfl rfl
    fun _ he _ => List.mem_of_mem_tail he

omit [Gattlib] in
theorem report {op : QueuedOp} (hop : op.chains = false) : w.LeavesChain (w.report op) where
  log := ⟨[.pushed op], rfl, by simp [Obs.succeededId]⟩
  ops op' hop' hc := by
    simp only [World.reports, World.report, World.note_ble, World.updateBle_ble, World.note_ticks,
      World.updateBle_ticks, List.mem_append, List.mem_singleton] at hop' ⊢
    rcases hop' with (hop' | rfl) | hop'
    · exact .inl hop'
    · rw [hop] at hc
      cases hc
    · exact .inr hop'
  calls _ he _ := he
  records := .of_eq rfl

omit [Gattlib] in
theorem invoke {cb : Callback} {arg : Arg} {role : Role} (hr : ∀ t, role ≠ .success t) :
    w.LeavesChain (w.invoke cb arg role) := by
  unfold World.invoke
  split
  · refine push ?_ rfl
    cases role <;> first | rfl | exact absurd rfl (hr _)
  · exact of_eq (l := []) (List.append_nil _).symm (by simp) rfl rfl rfl fun _ he _ => he

omit [Gattlib] in
theorem update (hlog : w'.log = w.log) (hd : w'.ble.devices = w.ble.devices)
    (hr : w'.ble.reportQueue = w.ble.reportQueue) (ht : w'.ticks = w.ticks)
    (hc : w'.calls = w.calls) : w.LeavesChain w' :=
  of_eq (l := []) (by rw [hlog, List.append_nil]) (by simp) hd hr ht fun _ he _ => hc ▸ he

omit [Gattlib] in
/-- Reports are taken, or left behind. -/
theorem setTicks {ts : List (List QueuedOp)} (h : ∀ op ∈ ts.flatten, op ∈ w.ticks.flatten) :
    w.LeavesChain { w with ticks := ts } where
  log := ⟨[], (List.append_nil _).symm, by simp⟩
  ops op hop _ := by
    simp only [World.reports, List.mem_append] at hop ⊢
    exact hop.imp_right (h op)
  calls _ he _ := he
  records := .of_eq rfl

end World.LeavesChain

namespace World.Staged

/-- A stretch that adds nothing to the chain keeps what its steps find. -/
theorem pass (h : w.Staged) (hp : w.LeavesChain w') (hf : w.chainLength ≠ 0 → w.SameFront w') :
    w'.Staged := by
  obtain ⟨l, hl, hlast⟩ := hp.log
  have hpre : w.log <+: w'.log := ⟨l, hl.symm⟩
  refine ⟨fun op hop hc => ?_, fun e he hd => ?_, fun t ht dev p hcon => ?_⟩
  · have hmem := hp.ops op hop hc
    have h0 : w.chainLength ≠ 0 := by
      have := List.countP_pos_iff.mpr ⟨op, hmem, hc⟩
      unfold World.chainLength
      omega
    exact (h.ops op hmem hc).keep op.ready_lasts hp.records hpre (hf h0)
  · have hmem := hp.calls e he hd
    have h0 : w.chainLength ≠ 0 := by
      have := List.countP_pos_iff.mpr ⟨e, hmem, hd⟩
      unfold World.chainLength
      omega
    exact (h.calls e hmem hd).keep e.ready_lasts hp.records hpre (hf h0)
  · cases l with
    | nil =>
      rw [List.append_nil] at hl
      exact (h.told t (hl ▸ ht) dev p (hl ▸ hcon)).keep hp.records hpre
    | cons o l =>
      rw [hl, List.getLast?_append] at ht
      obtain ⟨x, hx⟩ : ∃ x, (o :: l).getLast? = some x := ⟨_, List.getLast?_cons ..⟩
      rw [hx] at ht
      have hn := hlast x hx
      rw [Option.some_or, Option.bind_some, hn] at ht
      cases ht

omit [Gattlib] in
theorem none_under_way (h : w.chainLength = 0) :
    (∀ op ∈ w.reports, op.chains = false) ∧ ∀ e ∈ w.calls, e.discovers = false := by
  unfold World.chainLength at h
  have hr := List.countP_eq_zero.mp (show w.reports.countP QueuedOp.chains = 0 by omega)
  have hc := List.countP_eq_zero.mp (show w.calls.countP Call.discovers = 0 by omega)
  exact ⟨fun op hop => Bool.eq_false_iff.mpr (hr op hop),
    fun e he => Bool.eq_false_iff.mpr (hc e he)⟩

/-- Only one step is under way. -/
theorem single_op (op : QueuedOp) (h0 : w.chainLength = 0) (hs : (w.report op).Stands op.Ready) :
    (w.report op).Staged := by
  obtain ⟨hops, hcalls⟩ := none_under_way h0
  refine ⟨fun op' hop' hc => ?_, fun e he hd => ?_, fun t ht => ?_⟩
  · simp only [World.reports, World.report, World.note_ble, World.updateBle_ble, World.note_ticks,
      World.updateBle_ticks, List.mem_append, List.mem_singleton] at hop'
    have hold (hm : op' ∈ w.reports) : (w.report op).Stands op'.Ready := by
      rw [hops op' hm] at hc
      cases hc
    rcases hop' with (hop' | rfl) | hop'
    · exact hold (List.mem_append_left _ hop')
    · exact hs
    · exact hold (List.mem_append_right _ hop')
  · rw [hcalls e he] at hd
    cases hd
  · simp [World.report, Obs.succeededId] at ht

theorem single_call {e : Call} (h0 : w.chainLength = 0) (hs : (w.push e).Stands e.Ready)
    (hd : e.discovers = true) : (w.push e).Staged := by
  obtain ⟨hops, hcalls⟩ := none_under_way h0
  refine ⟨fun op hop hc => ?_, fun e' he hd' => ?_, fun t ht => ?_⟩
  · rw [hops op hop] at hc
    cases hc
  · rcases List.mem_cons.mp he with rfl | he
    · exact hs
    · rw [hcalls e' he] at hd'
      cases hd'
  · have hn : (Obs.call e).succeededId = none := by cases e <;> first | rfl | cases hd
    simp [hn] at ht

/-- No step is under way once the front is called back. -/
theorem finished {how : Outcome} (h0 : w.chainLength = 0)
    (htold : ∀ a, w.front = some a → how = .success → ∀ dev p,
      .call (.connect a.id dev p) ∈ w.log → (w.finishFront how).Discovered a.id dev)
    (hlast : ∀ o ∈ w.log.getLast?, o.succeededId = none) :
    (w.finishFront how).Staged := by
  obtain ⟨hops, hcalls⟩ := none_under_way h0
  unfold World.finishFront at htold ⊢
  cases hf : w.front with
  | none =>
    refine ⟨fun op hop hc => ?_, fun e he hd => ?_, fun t ht => ?_⟩
    · rw [hops op hop] at hc
      cases hc
    · rw [hcalls e he] at hd
      cases hd
    · obtain ⟨o, ho, hot⟩ := Option.bind_eq_some_iff.mp ht
      rw [hlast o ho] at hot
      cases hot
  | some a =>
    rw [hf] at htold
    simp only at htold ⊢
    unfold World.finish World.invoke at htold ⊢
    split
    · rename_i id hcb
      rw [hcb] at htold
      refine ⟨fun op hop hc => ?_, fun e he hd => ?_, fun t ht dev p hcon => ?_⟩
      · rw [hops op hop] at hc
        cases hc
      · rcases List.mem_cons.mp he with rfl | he
        · cases hd
        · rw [hcalls e he] at hd
          cases hd
      · have hlog : Obs.call (.connect t dev p) ∈ w.log := by simpa using hcon
        have hrole : how = .success ∧ t = a.id := by
          cases how <;> simp [Obs.succeededId, Outcome.role] at ht
          exact ⟨rfl, ht.symm⟩
        obtain ⟨rfl, rfl⟩ := hrole
        exact htold a rfl rfl dev p hlog
    · refine ⟨fun op hop hc => ?_, fun e he hd => ?_, fun t ht => ?_⟩
      · rw [hops op hop] at hc
        cases hc
      · rw [hcalls e he] at hd
        cases hd
      · obtain ⟨o, ho, hot⟩ := Option.bind_eq_some_iff.mp ht
        rw [hlast o ho] at hot
        cases hot

end World.Staged

/-- The state of a run in which every connect that succeeds is discovered. -/
structure Discovering (w : World) : Prop where
  alive : Alive w
  staged : w.Staged

namespace Discovering

variable {a : AsyncAction.Details} {e : Call} {r : Resp} {cs : List Call}

omit [Gattlib] in
theorem sameFront_of_later (h : w.Later w') : w.SameFront w' := by
  intro a ha
  unfold World.Later at h
  unfold World.front at ha ⊢
  generalize w.ble.asyncActions = q at h ha
  generalize w'.ble.asyncActions = q' at h
  cases h with
  | nil => cases ha
  | cons hab _ =>
    cases ha
    exact ⟨_, rfl, hab.id⟩

/-- A front that waits for the chain to end is not popped. -/
theorem sameFront {P : Policy} (h : Discovering w) (ha : Act P w w') (h0 : w.chainLength ≠ 0) :
    w.SameFront w' := by
  rcases ha.later h.alive.fifo with hl | ⟨a, hq, hc, -⟩
  · exact sameFront_of_later hl
  · obtain ⟨x, hx, hs, -⟩ := h.alive.chain.front h0
    rw [hq] at hx
    cases hx
    rw [hc] at hs
    cases hs

/-- A connect in the queue is for the device its call was made for. -/
theorem trigger_of_connect (h : Discovering w) {dev : UUID} {p : ConnectionParams}
    (ha : a ∈ w.ble.asyncActions) (hcon : .call (.connect a.id dev p) ∈ w.log) :
    a.trigger = .connect dev p := by
  have hmade := h.alive.made _ _ hcon rfl a ha rfl
  cases htr : a.trigger <;> rw [htr] at hmade <;> first | (cases hmade; done) | skip
  rw [hmade.1, hmade.2]

/-- The answer to a connect is a connection. -/
theorem answers_connect (h : Discovering w) {ev : Event} {dev : UUID} {p : ConnectionParams}
    (hm : answering.enter w (.event (some a.id) ev)) (ha : a ∈ w.ble.asyncActions)
    (hcon : .call (.connect a.id dev p) ∈ w.log) : ∃ c, ev = .connected c := by
  obtain ⟨e, hlog, hact, hans⟩ := Alive.answers hm
  have hmade := h.alive.made _ _ hlog hact a ha rfl
  rw [h.trigger_of_connect ha hcon] at hmade
  cases e <;> try cases hmade
  cases ev <;> first | exact ⟨_, rfl⟩ | cases hans

/-- Before its answer a connect has no step under way. -/
theorem none_answered (h : Discovering w) {t : ActionId} {ev : Event}
    (hm : (answering.and timely).enter w (.event (some t) ev)) : w.chainLength = 0 := by
  rcases h.alive.answer hm with ⟨-, hnil⟩ | ⟨a, rest, -, -, -, h0⟩
  · by_contra h0
    obtain ⟨x, hx, -⟩ := h.alive.chain.front h0
    rw [hnil] at hx
    cases hx
  · exact h0

theorem event (h : Discovering w) {of : Option ActionId} {ev : Event} {how : Outcome}
    (hm : connecting.enter w (.event of ev))
    (ho : ev.outcome w.ble = some how) :
    ((ev.apply (w.note (.enter (.event of ev)))).finishFront how).Staged := by
  have hfront : (ev.apply (w.note (.enter (.event of ev)))).front = w.front := by
    cases ev <;> rfl
  have hlog : (ev.apply (w.note (.enter (.event of ev)))).log =
      w.log ++ [.enter (.event of ev)] := by
    cases ev <;> rfl
  have hlen : (ev.apply (w.note (.enter (.event of ev)))).chainLength = w.chainLength := by
    cases ev <;> rfl
  cases of with
  | none =>
    have hun : ev.unsolicited = true := hm.1.1
    cases ev <;> first | (cases hun; done) | cases ho
  | some t =>
    refine World.Staged.finished (hlen.trans (h.none_answered hm.1)) ?_ ?_
    · rw [hfront, hlog]
      intro a ha hhow dev p hcon
      -- a connect is answered by its connection, and auto discovery is on
      exfalso
      obtain rfl : a.id = t := by
        rcases h.alive.answer hm.1 with ⟨-, hnil⟩ | ⟨b, rest, hq, hid, -⟩
        · rw [World.front, hnil] at ha
          cases ha
        · rw [World.front, hq] at ha
          cases ha
          exact hid
      obtain ⟨c, rfl⟩ := h.answers_connect hm.1.1 (List.mem_of_mem_head? ha) (by simpa using hcon)
      have hauto : w.ble.autoDiscover = true := hm.2.1.1
      cases c <;> simp [Event.outcome, hauto] at ho
      rw [hhow] at ho
      cases ho
    · rw [hlog]
      simp [Obs.succeededId]

/-- The chain starts with the connection of the front. -/
theorem eventAuto (h : Discovering w) {of : Option ActionId} {c : Conn}
    (hm : connecting.enter w (.event of (.connected (some c))))
    (hd : (w.ble.devices[w.ble.connectedTo]?).isSome) :
    (((Event.connected (some c)).apply (w.note (.enter (.event of (.connected (some c)))))).report
      (.autoDiscoverServicesStep w.ble.connectedTo)).Staged := by
  cases of with
  | none => cases (show Event.unsolicited (.connected (some c)) = true from hm.1.1)
  | some t =>
    refine World.Staged.single_op _ (h.none_answered hm.1) ?_
    obtain ⟨d, hd⟩ := Option.isSome_iff_exists.mp hd
    obtain ⟨-, hx⟩ := h.alive.answer_connect hm.1.1
    rcases h.alive.answer hm.1 with ⟨hc, -⟩ | ⟨a, rest, hq, rfl, -⟩
    · exact absurd hc hx
    have ha : a ∈ w.front := by rw [World.front, hq]; rfl
    obtain ⟨e, hlog, hact, hans⟩ := Alive.answers hm.1.1
    obtain ⟨t, dev, p, rfl⟩ : ∃ t dev p, e = .connect t dev p := by
      cases e <;> first | exact ⟨_, _, _, rfl⟩ | cases hans
    obtain rfl : t = a.id := Option.some.inj hact
    have hdev := hm.2.1.2 a ha
    rw [h.trigger_of_connect (List.mem_of_mem_head? ha) hlog] at hdev
    obtain rfl : dev = w.ble.connectedTo := by simpa [Trigger.agrees] using hdev
    refine ⟨a, w.ble.connectedTo, c, { d with connection := some c }, [.pushed _], ha,
      ⟨⟨p, ?_⟩, ⟨w.log, List.append_assoc ..⟩, ?_, rfl⟩, rfl⟩
    · simp [World.report, Event.apply, hlog]
    · simp [World.report, Event.apply, World.updateDevice, hd]

/-- A step of the chain calls out. -/
theorem discovers (h : Discovering w) {op : QueuedOp} {ops : List QueuedOp}
    {ts : List (List QueuedOp)} (hts : w.ticks = (op :: ops) :: ts) (hop : op.chains = true)
    (he : e.discovers = true)
    (hready : ∀ t dev c d after, w.Joined t dev c d after → op.Ready dev c d after →
      e.Ready dev c d after) : ((w.next op ops ts).push e).Staged := by
  have hlen := World.chainLength_next hts
  have hshort := h.alive.chain.short
  rw [hop, if_pos rfl] at hlen
  have hmem : op ∈ w.reports := List.mem_append_right _ (by simp [hts])
  refine World.Staged.single_call (by omega) ?_ he
  obtain ⟨a, dev, c, d, after, ha, hj, hr⟩ := h.staged.ops op hmem hop
  have hs : w.Stands e.Ready := ⟨a, dev, c, d, after, ha, hj, hready _ _ _ _ _ hj hr⟩
  exact hs.keep e.ready_lasts (.of_eq rfl) ⟨[.ran op, .call e], List.append_cons ..⟩
    fun a ha => ⟨a, ha, rfl⟩

theorem ran (h : Discovering w) {op : QueuedOp} {ops : List QueuedOp} {ts : List (List QueuedOp)}
    (hts : w.ticks = (op :: ops) :: ts) : (op.apply (w.next op ops ts)).Staged := by
  have hmem : op ∈ w.reports := List.mem_append_right _ (by simp [hts])
  have hpass : w.LeavesChain (w.next op ops ts) :=
    (World.LeavesChain.setTicks (by rw [hts]; simp +contextual)).trans (.note rfl)
  have hkept {w1 : World} (hp : (w.next op ops ts).LeavesChain w1) (hf : w1.front = w.front) :
      w1.Staged := h.staged.pass (hpass.trans hp) fun _ a ha => ⟨a, hf ▸ ha, rfl⟩
  have hconn {t : ActionId} {dev : UUID} {c : Conn} {d : Device.Details} {after : List Obs}
      (hj : w.Joined t dev c d after) : (w.next op ops ts).connectionOf dev = some c := by
    simp only [World.connectionOf, World.next, World.note_ble, hj.record, Option.bind_some]
    exact hj.connection
  have hinvoke (cb : Callback) (arg : Arg) (role : Role) :
      ((w.next op ops ts).invoke cb arg role).front = w.front :=
    congrArg (fun b : BLECentral => b.asyncActions.head?) (World.invoke_ble ..)
  cases op with
  | callback cb => exact hkept (.invoke (by simp)) (hinvoke ..)
  | readData cb buf t => exact hkept (.invoke (by simp)) (hinvoke ..)
  | notification cb buf => exact hkept (.invoke (by simp)) (hinvoke ..)
  | autoDiscoverServicesStep dev =>
    refine h.discovers hts rfl rfl ?_
    rintro t dev' c d after hj rfl
    exact ⟨rfl, hconn hj⟩
  | autoDiscoverCharacteristicsStep dev =>
    refine h.discovers hts rfl rfl ?_
    rintro t dev' c d after hj ⟨rfl, hserv⟩
    exact ⟨rfl, hconn hj, hserv⟩
  | reportConnected =>
    have hlen := World.chainLength_next hts
    have hshort := h.alive.chain.short
    simp only [QueuedOp.chains, if_true] at hlen
    refine World.Staged.finished (by omega) ?_ (by simp [World.next, Obs.succeededId])
    intro a ha _ dev p hcon
    obtain ⟨b, dev', c, d, after, hb, hj, hr⟩ := h.staged.ops _ hmem rfl
    obtain rfl : b = a := Option.some.inj (hb.symm.trans ha)
    have hq : b ∈ w.ble.asyncActions := List.mem_of_mem_head? hb
    obtain ⟨p', hcon'⟩ := hj.connect
    have htr := h.trigger_of_connect hq (by simpa [World.next] using hcon)
    rw [h.trigger_of_connect hq hcon'] at htr
    cases htr
    have hdisc : w.Discovered b.id dev := ⟨c, d, after, hj, hr⟩
    refine hdisc.keep (.of_eq (World.finishFront_devices ..)) ?_
    obtain ⟨l, hl, -⟩ := World.finishFront_log (w.next .reportConnected ops ts) .success
    exact ⟨.ran .reportConnected :: l, by rw [hl]; exact List.append_cons ..⟩

/-- The services are stored, and the next step is queued. -/
theorem services (h : Discovering w) {dev : UUID} {conn : Option Conn}
    (hc : w.calls = .discoverPrimary dev conn :: cs) (hr : r.rc = 0) :
    (((w.back (.discoverPrimary dev conn) r).servicesStep dev r).report
      (.autoDiscoverCharacteristicsStep dev)).Staged := by
  obtain ⟨a, dev', c, d, after, ha, hj, rfl, rfl⟩ :=
    h.staged.calls (.discoverPrimary dev conn) (by rw [hc]; exact List.mem_cons_self) rfl
  have hlen := World.chainLength_back hc r
  have hshort := h.alive.chain.short
  rw [show Call.discovers (.discoverPrimary dev (some c)) = true from rfl, if_pos rfl] at hlen
  unfold World.servicesStep
  rw [if_neg (by simpa using hr)]
  refine World.Staged.single_op (.autoDiscoverCharacteristicsStep dev)
    (w := (w.back (.discoverPrimary dev (some c)) r).updateDevice dev _)
    (show (w.back (.discoverPrimary dev (some c)) r).chainLength = 0 by omega) ?_
  obtain ⟨before, hlog⟩ := hj.joined
  have hid : (d.clearServices.addServices r.serviceList).id = d.id :=
    Device.Details.addServices_same (g := fun d => d.id) (fun _ _ _ => rfl) _ _
  refine ⟨a, dev, c, d.clearServices.addServices r.serviceList,
    after ++ [.ret (.discoverPrimary dev (some c)) r, .pushed (.autoDiscoverCharacteristicsStep dev)],
    ha, ⟨?_, ⟨before, ?_⟩, ?_, ?_⟩, rfl, r, by simp, hr, ?_⟩
  · exact hj.connect.imp fun p hp => by simp [World.report, hp]
  · simp [World.report, hlog]
  · simp [World.report, World.updateDevice, hj.record]
  · exact (Device.Details.addServices_connection ..).trans hj.connection
  · rw [hid]
    exact Device.Details.addServices_congr d.clearServices (.new d.id) rfl rfl _

/-- The characteristics are stored, discovery is done, and the report of success is queued. -/
theorem chars (h : Discovering w) {dev : UUID} {conn : Option Conn}
    (hc : w.calls = .discoverChar dev conn :: cs) (hr : r.rc = 0) :
    (((w.back (.discoverChar dev conn) r).charsStep dev r).report .reportConnected).Staged := by
  obtain ⟨a, dev', c, d, after, ha, hj, rfl, rfl, hserv⟩ :=
    h.staged.calls (.discoverChar dev conn) (by rw [hc]; exact List.mem_cons_self) rfl
  have hlen := World.chainLength_back hc r
  have hshort := h.alive.chain.short
  rw [show Call.discovers (.discoverChar dev (some c)) = true from rfl, if_pos rfl] at hlen
  unfold World.charsStep
  rw [if_neg (by simpa using hr)]
  refine World.Staged.single_op .reportConnected
    (w := ((w.back (.discoverChar dev (some c)) r).updateDevice dev _).updateDevice dev _)
    (show (w.back (.discoverChar dev (some c)) r).chainLength = 0 by omega) ?_
  obtain ⟨before, hlog⟩ := hj.joined
  have hid : (d.clearCharacteristics.addCharacteristics r.characteristicList).id = d.id :=
    Device.Details.addCharacteristics_same (g := fun d => d.id) (fun _ _ _ => rfl) _ _
  have hs : (d.clearCharacteristics.addCharacteristics r.characteristicList).services =
      d.services :=
    Device.Details.addCharacteristics_same (g := fun d => d.services) (fun _ _ _ => rfl) _ _
  refine ⟨a, dev, c,
    { d.clearCharacteristics.addCharacteristics r.characteristicList with discoveryDone := true },
    after ++ [.ret (.discoverChar dev (some c)) r, .pushed .reportConnected],
    ha, ⟨?_, ⟨before, ?_⟩, ?_, ?_⟩, rfl, hserv.keep hs hid _, r, by simp, hr, fun k => ?_⟩
  · exact hj.connect.imp fun p hp => by simp [World.report, hp]
  · simp [World.report, hlog]
  · simp [World.report, World.updateDevice, hj.record]
  · exact (Device.Details.addCharacteristics_connection ..).trans hj.connection
  · change ((d.clearCharacteristics.addCharacteristics _).characteristics[k]?).map _ =
      (((Device.Details.new (d.clearCharacteristics.addCharacteristics _).id).addCharacteristics
        _).characteristics[k]?).map _
    rw [hid, Device.Details.addCharacteristics_congr d.clearCharacteristics (.new d.id) rfl rfl]

/-! ## Steps -/

omit [Gattlib] in
theorem call_leavesChain (he : e.Plain) : w.LeavesChain (w.push e) := by
  refine .push ?_ he.silent.2
  cases e <;> try rfl
  obtain rfl := he
  rfl

omit [Gattlib] in
theorem takeReports_leavesChain : w.LeavesChain (w.takeReports r) where
  log := ⟨[.ret .asyncProcessAll r], rfl, by simp [Obs.succeededId]⟩
  ops op hop _ := by
    have hop : op ∈ [] ++ (w.ble.reportQueue :: w.ticks).flatten := hop
    rwa [List.nil_append, List.flatten_cons] at hop
  calls _ he _ := List.mem_of_mem_tail he
  records := .of_eq rfl

omit [Gattlib] in
theorem read_leavesChain {m : Move} {buf : BinaryBuffer} {cb : Callback} :
    w.LeavesChain ((if cb.isSome then (w.note (.enter m)).report (.readData cb buf a.id)
      else w.note (.enter m)).complete a.id) := by
  have hn : w.LeavesChain (w.note (.enter m)) := .note rfl
  split
  · exact (hn.trans (.report rfl)).trans (.update rfl rfl rfl rfl rfl)
  · exact hn.trans (.update rfl rfl rfl rfl rfl)

omit [Gattlib] in
theorem refused_leavesChain {t : ActionId} :
    w.LeavesChain ((e.refusedApply (w.back e r)).finish .failure t) := by
  obtain ⟨b, heq⟩ := e.refusedApply_eq (w.back e r)
  rw [heq]
  have hb : w.LeavesChain (((w.back e r).updateBle fun ble => { ble with isScanning := b }).complete t) :=
    (World.LeavesChain.back e r).trans (.update rfl rfl rfl rfl rfl)
  exact hb.trans (.invoke nofun)

/-- The front that is triggered is no connect that succeeds. -/
theorem triggered (h : Discovering w) (hf : w.front = some a) (hp : a.state = .pending)
    (hfront : w.chainLength ≠ 0 → w.SameFront (a.trigger.apply (w.start a.id) a.id)) :
    (a.trigger.apply (w.start a.id) a.id).Staged := by
  have hu : w.LeavesChain (w.updateAction a.id fun a => { a with state := .triggered }) :=
    .update rfl rfl rfl rfl rfl
  have hs : w.LeavesChain (w.start a.id) := hu.trans (World.LeavesChain.note (o := .triggered a.id) rfl)
  have hpush {e : Call} (he : (Obs.call e).succeededId = none) (hd : e.discovers = false) :
      w.LeavesChain ((w.start a.id).push e) := hs.trans (.push he hd)
  cases htr : a.trigger with
  | stopScanDone =>
    -- its success callback is called, but it has made no call
    obtain ⟨rest, hq⟩ := Alive.queue_of_front hf
    have h0 : w.chainLength = 0 := (hq ▸ h.alive.chain).none_of (.inl (by simp [hp]))
    have hfin : (w.start a.id).finish .success a.id = (w.start a.id).finishFront .success := by
      have hq' : (w.start a.id).ble.asyncActions = { a with state := .triggered } :: rest :=
        h.alive.fifo.updateAction_front hq _
      rw [World.finishFront, World.front, hq']
      rfl
    rw [Trigger.apply, hfin]
    refine World.Staged.finished h0 (fun b hb _ dev p hcon => ?_) (by simp [Obs.succeededId])
    have hb : b.id = a.id := by
      have hq' : (w.start a.id).ble.asyncActions = { a with state := .triggered } :: rest :=
        h.alive.fifo.updateAction_front hq _
      rw [World.front, hq'] at hb
      cases hb
      rfl
    have ht := h.alive.connect_triggered a.id
      (List.mem_filterMap.mpr ⟨.call (.connect a.id dev p), by simpa [hb] using hcon, rfl⟩)
    exact absurd ht (h.alive.fifo.not_triggered (List.mem_of_mem_head? hf) hp)
  | autodisconn dev => exact h.staged.pass hs (htr ▸ hfront)
  | read | write =>
    rw [htr] at hfront
    simp only [Trigger.apply] at hfront ⊢
    split at hfront
    · exact h.staged.pass hs hfront
    · exact h.staged.pass (hpush rfl rfl) hfront
  | _ => exact h.staged.pass (hpush rfl rfl) (htr ▸ hfront)

/-- **Step lemma.** -/
theorem act {P : Policy} (hP : P.WithinAt connecting w)
    (h : Discovering w) (ha : Act P w w') : Discovering w' := by
  have halive := h.alive.act ⟨fun m hm => (hP.enter m hm).1, fun e r hr => (hP.ans e r hr).1⟩ ha
  have hfront := h.sameFront ha
  have hpass (hp : w.LeavesChain w') : Discovering w' := ⟨halive, h.staged.pass hp hfront⟩
  have hdrop {ts : List (List QueuedOp)} (hts : w.ticks = [] :: ts) :
      w.LeavesChain { w with ticks := ts } := .setTicks (by rw [hts]; simp)
  cases ha with
  | enter | raised | freed | eventReadNone => exact hpass (.note rfl)
  | event of ev how hm ho => exact ⟨halive, h.event (hP.enter _ hm) ho⟩
  | eventAuto of c hm _ hd => exact ⟨halive, h.eventAuto (hP.enter _ hm) hd⟩
  | eventRead of buf a => exact hpass read_leavesChain
  | eventDiscovered of addr name =>
    have hnamed : w.LeavesChain ((w.note (.enter (.event of (.deviceDiscovered addr name)))).named
        (addr.getD "") (name.getD "")) :=
      (World.LeavesChain.note rfl).trans (.update rfl rfl rfl rfl rfl)
    exact hpass (hnamed.trans (.invoke (by simp)))
  | call e he => exact hpass (call_leavesChain he)
  | back e r => exact hpass (.back e r)
  | refused e r cs t => exact hpass refused_leavesChain
  | tick => exact hpass (.push rfl rfl)
  | takeReports r => exact hpass takeReports_leavesChain
  | ran op rest ts hts => exact ⟨halive, h.ran hts⟩
  | endTick ts hts => exact hpass (hdrop hts)
  | trigger ts a hts _ hf hp =>
    have hd : Discovering { w with ticks := ts } :=
      ⟨h.alive.drop hts, h.staged.pass (hdrop hts) fun _ a ha => ⟨a, ha, rfl⟩⟩
    exact ⟨halive, hd.triggered hf hp fun h0 => hfront fun h1 => h0 (by
      have hlen : ({ w with ticks := ts } : World).chainLength = w.chainLength := by
        simp [World.chainLength, World.reports, hts]
      rw [hlen, h1])⟩
  | pop ts a rest hts =>
    refine hpass ((hdrop hts).trans (World.LeavesChain.trans ?_ (World.LeavesChain.note rfl)))
    exact .update rfl rfl rfl rfl rfl
  | wait ts a hts => exact hpass ((hdrop hts).trans (.update rfl rfl rfl rfl rfl))
  | services dev c r cs hc hans => exact ⟨halive, h.services hc ((hP.ans _ _ hans).2.2 rfl)⟩
  | chars dev c r cs hc hans => exact ⟨halive, h.chars hc ((hP.ans _ _ hans).2.2 rfl)⟩
  | report | notify => exact hpass (.report rfl)
  | setAutoDiscover | setConnectionParameters | deviceName | lock | unlock =>
    exact hpass (.update rfl rfl rfl rfl rfl)
  | adapterOpened name r | adapterClosed a r =>
    exact hpass ((World.LeavesChain.back _ r).trans (.update rfl rfl rfl rfl rfl))
  | inert _ hi => exact hpass (.update hi.log hi.devices hi.reportQueue hi.ticks hi.calls)

theorem request {op : Op} (h : Discovering w) (hr : Request w op w') : Discovering w' := by
  obtain ⟨w1, a, hlater, -, -, hq, -⟩ := hr.later
  have hfront : w.SameFront w' := fun x hx => by
    obtain ⟨y, hy, hid⟩ := sameFront_of_later hlater x hx
    refine ⟨y, ?_, hid⟩
    unfold World.front at hy ⊢
    rw [hq, List.head?_append, hy]
    rfl
  refine ⟨h.alive.request hr, h.staged.pass ?_ fun _ => hfront⟩
  have hlog {l : List Obs} (hl : ∀ o ∈ l.getLast?, o.succeededId = none)
      (hw : w'.log = w.log ++ l) (hd : w'.ble.devices = w.ble.devices)
      (hrq : w'.ble.reportQueue = w.ble.reportQueue) (hts : w'.ticks = w.ticks)
      (hc : w'.calls = w.calls) : w.LeavesChain w' := .of_eq hw hl hd hrq hts fun _ he _ => hc ▸ he
  cases hr with
  | connect dev p =>
    refine ⟨⟨[_], rfl, by simp [Obs.succeededId]⟩, fun _ hop _ => hop, fun _ he _ => he, ?_⟩
    intro e d hd
    refine ⟨d, ?_, rfl, rfl, rfl, rfl, rfl, fun _ => rfl⟩
    simp only [World.enqueue, World.updateBle_ble]
    split
    · rename_i hnone
      rw [Std.TreeMap.getElem?_insert, if_neg, hd]
      rintro he
      obtain rfl : dev = e := Std.LawfulEqOrd.eq_of_compare he
      rw [show w.ble.deviceDetails dev = some d from hd] at hnone
      cases hnone
    · exact hd
  | stopScanCancel => exact hlog (l := [_, _]) (by simp [Obs.succeededId]) (List.append_assoc ..) rfl rfl rfl rfl
  | _ => exact hlog (l := [_]) (by simp [Obs.succeededId]) rfl rfl rfl rfl rfl

theorem subs {P : Policy} (h : Discovering w) (hs : Subs P w w') : Discovering w' := by
  refine ⟨h.alive.subs hs, ?_⟩
  obtain ⟨dev, f, hf, -⟩ := hs
  refine h.staged.pass ⟨⟨[], (List.append_nil _).symm, by simp⟩, fun _ hop _ => hop,
    fun _ he _ => he, fun e d hd => ?_⟩ fun _ a ha => ⟨a, ha, rfl⟩
  simp only [World.updateDevice, World.updateBle_ble, Std.TreeMap.getElem?_modify]
  split
  · rename_i he
    obtain rfl : dev = e := Std.LawfulEqOrd.eq_of_compare he
    exact ⟨f d, by rw [hd]; rfl, hf d⟩
  · exact ⟨d, hd, rfl, rfl, rfl, rfl, rfl, fun _ => rfl⟩

theorem init : Discovering .init :=
  ⟨.init, ⟨by simp [World.init, World.reports], by simp [World.init], by simp [World.init]⟩⟩

end Discovering

/-! ## Runs -/

def discoveringClaim {P : Policy} (hP : P.Within connecting) :
    Claim P where
  inv := Discovering
  crash _ _ := True
  act {w _} h ha := ⟨h.act (hP w) ha, trivial⟩
  exit h _ := ⟨⟨h.alive.note ⟨⟨⟨rfl, rfl, rfl⟩, rfl, rfl, rfl, rfl⟩, rfl⟩,
    h.staged.pass (.note rfl) fun _ a ha => ⟨a, ha, rfl⟩⟩, trivial⟩
  drop _ h hts _ _ := ⟨⟨h.alive.drop hts, h.staged.pass (.setTicks (by rw [hts]; simp +contextual))
    fun _ a ha => ⟨a, ha, rfl⟩⟩, trivial⟩
  request h _ hr := ⟨h.request hr, trivial⟩
  freed _ _ _ _ _ _ := trivial
  missing _ _ _ _ _ _ _ _ := trivial
  other _ _ := trivial

/-- **Run lemma.** -/
theorem discovering_reach {P : Policy} (hP : P.Within connecting)
    {c : Config World Call Resp Fault} (h : Reach P .init c) (hf : c.fault = none) :
    Discovering c.s :=
  Claim.reach (C := discoveringClaim hP)
    (.of_subs (fun h hs => ⟨h.subs hs, trivial⟩) fun _ _ _ => trivial) trivial .init h hf

end

end Gattlibpp
