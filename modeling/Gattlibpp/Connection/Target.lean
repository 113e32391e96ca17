import Gattlibpp.Queue.Completion
import Gattlibpp.Queue.Steady
import Gattlibpp.Connection.Records

/-!
# The target of a connection event

`deviceConnected` and `deviceDisconnected` act on the device that `connected_to` names,
which a connect sets when it is queued and a disconnect resets when it is answered. The
events are for the right device as long as the connects and disconnects that wait for
their answer agree with it.
-/

namespace Gattlibpp

open Open

/-- The answer to the action is still to come. -/
def AsyncAction.Details.Open (log : List Obs) (a : AsyncAction.Details) : Prop :=
  a.state ≠ .completed ∧ a.id ∉ answeredIds log

instance (log : List Obs) (a : AsyncAction.Details) : Decidable (a.Open log) :=
  inferInstanceAs (Decidable (_ ∧ _))

theorem AsyncAction.Details.Open.of_prefix {log log' : List Obs} {a : AsyncAction.Details}
    (h : a.Open log') (hl : log <+: log') : a.Open log := by
  obtain ⟨l, rfl⟩ := hl
  exact ⟨h.1, fun hm => h.2 (by simp [hm])⟩

/-- Whether `tr` is a connect for `dev`, or neither connect nor disconnect. -/
def Trigger.agrees (dev : UUID) : Trigger → Bool
  | .connect devId _ => devId = dev
  | .disconnect _ => false
  | _ => true

/-- The device that a request connects to. -/
def Op.connects : Op → Option UUID
  | .connect dev _ _ _ => some dev
  | _ => none

/-- The device that a request disconnects. -/
def Op.disconnects : Op → Option UUID
  | .disconnect dev _ _ => some dev
  | _ => none

/-- A connect is requested while the only connects and disconnects to be answered are
connects for the same device, and a disconnect for the device that `connected_to` names. -/
def exclusive : Policy where
  enter w m :=
    match m with
    | .api op =>
      (∀ dev ∈ op.connects, dev ≠ "" ∧
        ∀ a ∈ w.ble.asyncActions, a.Open w.log → a.trigger.agrees dev = true) ∧
      ∀ dev ∈ op.disconnects, w.ble.connectedTo = dev
    | .event .. => True
  ans _ _ _ := True

instance (w : World) (m : Move) : Decidable (exclusive.enter w m) :=
  match m with
  | .api _ => inferInstanceAs (Decidable (_ ∧ _))
  | .event .. => isTrue trivial

instance (w : World) (e : Call) (r : Resp) : Decidable (exclusive.ans w e r) := isTrue trivial

/-! ## The invariant -/

/-- The connects and disconnects to be answered agree with `connected_to`. -/
structure Targets (queue : List AsyncAction.Details) (log : List Obs) (connectedTo : UUID)
    (connections : UUID → Option (Option Conn)) : Prop where
  connect : ∀ a ∈ queue, a.Open log → ∀ dev p, a.trigger = .connect dev p →
    connectedTo = dev ∧ dev ≠ "" ∧ (connections dev).isSome
  disconnect : ∀ a ∈ queue, a.Open log → ∀ dev, a.trigger = .disconnect dev →
    connectedTo = dev ∨ connectedTo = "" ∧ (connections dev).join = none
  order : queue.Pairwise fun a b => a.Open log → b.Open log → ∀ dev dev' p,
    a.trigger = .disconnect dev → b.trigger ≠ .connect dev' p
  unnamed : connections "" = none

namespace Targets

variable {queue queue' : List AsyncAction.Details} {a : AsyncAction.Details} {log log' : List Obs}
  {target : UUID} {conns conns' : UUID → Option (Option Conn)}

theorem grow (h : Targets queue log target conns) (hl : log <+: log') : Targets queue log' target conns where
  connect a ha ho := h.connect a ha (ho.of_prefix hl)
  disconnect a ha ho := h.disconnect a ha (ho.of_prefix hl)
  order := h.order.imp fun hab ha hb => hab (ha.of_prefix hl) (hb.of_prefix hl)
  unnamed := h.unnamed

/-- Actions change, but keep their triggers and do not become open. -/
theorem map (h : Targets queue log target conns) {g : AsyncAction.Details → AsyncAction.Details}
    (htr : ∀ a, (g a).trigger = a.trigger) (ho : ∀ a ∈ queue, (g a).Open log → a.Open log) :
    Targets (queue.map g) log target conns where
  connect := List.forall_mem_map.mpr fun a ha hg => htr a ▸ h.connect a ha (ho a ha hg)
  disconnect := List.forall_mem_map.mpr fun a ha hg => htr a ▸ h.disconnect a ha (ho a ha hg)
  order := by
    refine List.pairwise_map.mpr (h.order.imp_of_mem fun {a b} ha hb hab hga hgb => ?_)
    rw [htr a, htr b]
    exact hab (ho a ha hga) (ho b hb hgb)
  unnamed := h.unnamed

theorem pop (h : Targets (a :: queue) log target conns) : Targets queue log target conns where
  connect b hb := h.connect b (List.mem_cons_of_mem _ hb)
  disconnect b hb := h.disconnect b (List.mem_cons_of_mem _ hb)
  order := h.order.tail
  unnamed := h.unnamed

/-- A request that is not a connect. -/
theorem enqueue (h : Targets queue log target conns) (hc : ∀ dev p, a.trigger ≠ .connect dev p)
    (hd : ∀ dev, a.trigger = .disconnect dev → target = dev) : Targets (queue ++ [a]) log target conns := by
  refine ⟨?_, ?_, ?_, h.unnamed⟩
  · intro b hb ho dev p hp
    rcases List.mem_append.mp hb with hb | hb
    · exact h.connect b hb ho dev p hp
    · cases List.mem_singleton.mp hb
      exact absurd hp (hc dev p)
  · intro b hb ho dev hp
    rcases List.mem_append.mp hb with hb | hb
    · exact h.disconnect b hb ho dev hp
    · cases List.mem_singleton.mp hb
      exact .inl (hd dev hp)
  · refine List.pairwise_append.mpr ⟨h.order, List.pairwise_singleton .., fun x _ b hb => ?_⟩
    cases List.mem_singleton.mp hb
    exact fun _ _ _ dev' p _ => hc dev' p

/-- A connect that no open action disagrees with. -/
theorem enqueue_connect (h : Targets queue log target conns) {dev : UUID} {p : ConnectionParams}
    (ha : a.trigger = .connect dev p) (hdev : dev ≠ "")
    (hq : ∀ b ∈ queue, b.Open log → b.trigger.agrees dev = true)
    (hdom : (conns' dev).isSome) (hun : conns' "" = none) :
    Targets (queue ++ [a]) log dev conns' := by
  have hdis : ∀ b ∈ queue, b.Open log → ∀ dev', b.trigger ≠ .disconnect dev' := by
    intro b hb ho dev' hp
    have hag := hq b hb ho
    rw [hp] at hag
    cases hag
  refine ⟨?_, ?_, ?_, hun⟩
  · intro b hb ho dev' p' hp
    rcases List.mem_append.mp hb with hb | hb
    · have hag := hq b hb ho
      rw [hp] at hag
      obtain rfl : dev' = dev := by simpa [Trigger.agrees] using hag
      exact ⟨rfl, hdev, hdom⟩
    · cases List.mem_singleton.mp hb
      rw [ha] at hp
      cases hp
      exact ⟨rfl, hdev, hdom⟩
  · intro b hb ho dev' hp
    rcases List.mem_append.mp hb with hb | hb
    · exact absurd hp (hdis b hb ho dev')
    · cases List.mem_singleton.mp hb
      rw [ha] at hp
      cases hp
  · refine List.pairwise_append.mpr ⟨h.order, List.pairwise_singleton .., fun x hx b _ => ?_⟩
    exact fun ho _ dev' _ _ hp => absurd hp (hdis x hx ho dev')

/-- A connection is stored in the record that `connected_to` names. -/
theorem connected (h : Targets queue log target conns) {c : Option Conn}
    (hc : ∀ dev, conns' dev = if dev = target then (conns dev).map fun _ => c else conns dev) :
    Targets queue log target conns' := by
  have hsome : ∀ dev, (conns' dev).isSome = (conns dev).isSome := fun dev => by
    rw [hc dev]
    split <;> simp
  refine ⟨?_, ?_, h.order, ?_⟩
  · intro a ha ho dev p hp
    rw [hsome]
    exact h.connect a ha ho dev p hp
  · intro a ha ho dev hp
    refine (h.disconnect a ha ho dev hp).imp_right fun ⟨hto, hj⟩ => ⟨hto, ?_⟩
    rw [hc dev]
    split
    · rename_i heq
      rw [heq, hto, h.unnamed]
      rfl
    · exact hj
  · have hs := hsome ""
    rw [h.unnamed] at hs
    exact Option.isNone_iff_eq_none.mp (by simpa using hs)

/-- A disconnect is answered, and no connect is left that is to be answered. -/
theorem disconnected (h : Targets queue log target conns)
    (hno : ∀ a ∈ queue, a.Open log → ∀ dev p, a.trigger ≠ .connect dev p)
    (hc : ∀ dev, conns' dev = if dev = target then (conns dev).map fun _ => none else conns dev) :
    Targets queue log "" conns' := by
  refine ⟨?_, ?_, h.order, ?_⟩
  · intro a ha ho dev p hp
    exact absurd hp (hno a ha ho dev p)
  · intro a ha ho dev hp
    refine .inr ⟨rfl, ?_⟩
    rw [hc dev]
    split
    · cases conns dev <;> rfl
    · rename_i hne
      rcases h.disconnect a ha ho dev hp with heq | ⟨-, hj⟩
      · exact absurd heq.symm hne
      · exact hj
  · rw [hc "", h.unnamed]
    split <;> rfl

end Targets

/-! ## Effects -/

/-- The targets at `w`. -/
def World.Targets (w : World) : Prop :=
  Gattlibpp.Targets w.ble.asyncActions w.log w.ble.connectedTo w.connections

namespace World.Targets

variable {w w' : World}

/-- Nothing happens to the actions and to the connections. -/
theorem of_eq (h : w.Targets) (hq : w'.ble.asyncActions = w.ble.asyncActions)
    (ht : w'.ble.connectedTo = w.ble.connectedTo) (hc : w'.connections = w.connections)
    (hlog : w.log <+: w'.log) : w'.Targets := by
  unfold World.Targets
  rw [hq, ht, hc]
  exact Gattlibpp.Targets.grow h hlog

theorem steady : Steady World.Targets where
  same {w w'} h hq hd ht _ hlog := h.of_eq hq ht (w.connections_of_eq hd) hlog
  update {w t f} h hf ho := by
    refine Gattlibpp.Targets.map h (fun a => ?_) fun a ha hopen => ?_
    · split
      · exact (hf a).2
      · rfl
    · split at hopen
      · rename_i hid
        exact ⟨fun hc => hopen.1 ((ho a ha hid).completed hc), (hf a).1 ▸ hopen.2⟩
      · exact hopen
  pop {w a rest} h hq := Gattlibpp.Targets.pop (a := a) (hq ▸ h)

/-- A callback of gattlib arrives. -/
theorem event (h : w.Targets) (ha : Alive w) {of : Option ActionId} {ev : Event}
    (hm : (answering.and timely).enter w (.event of ev)) :
    (ev.apply (w.note (.enter (.event of ev)))).Targets := by
  have hn := steady.note h (.enter (.event of ev))
  cases ev with
  | connected c => exact Gattlibpp.Targets.connected hn fun dev => connections_connected _ c dev
  | disconnected =>
    refine Gattlibpp.Targets.disconnected hn (fun b hb ho dev p => ?_) fun dev =>
      connections_disconnected _ dev
    replace hb : b ∈ w.ble.asyncActions := hb
    cases of with
    | none => cases (show Event.unsolicited .disconnected = true from hm.1)
    | some t =>
      obtain ⟨e, hlog, hact, hans⟩ := Alive.answers hm.1
      rcases ha.answer hm with ⟨-, hnil⟩ | ⟨a, rest, hq, rfl, hs, -⟩
      · rw [hnil] at hb
        cases hb
      · -- the front is the disconnect that is answered, and no connect was behind it
        have hopen : a.Open w.log := ⟨by simp [hs], (Alive.unanswered hm.1).1⟩
        obtain ⟨dev', htr⟩ : ∃ dev', a.trigger = .disconnect dev' := by
          have hmade := ha.made e a.id hlog hact a (by rw [hq]; simp) rfl
          cases e <;> cases hans
          cases htr : a.trigger <;> rw [htr] at hmade <;> first | exact ⟨_, rfl⟩ | cases hmade
        have hb' : b.Open w.log := ho.of_prefix (List.prefix_append ..)
        have horder := h.order
        rw [hq, List.pairwise_cons] at horder
        rw [hq] at hb
        rcases List.mem_cons.mp hb with rfl | hb
        · rw [htr]
          nofun
        · exact horder.1 b hb hopen hb' dev' dev p htr
  | _ => exact hn.of_eq rfl rfl rfl List.prefix_rfl

/-- **Step lemma.** -/
theorem act [Gattlib] {P : Policy} (hP : P.WithinAt (answering.and timely) w) (h : w.Targets)
    (ha : Alive w) (hact : Act P w w') : w'.Targets := by
  refine steady.act h ha.fifo hact (fun of ev hm => h.event ha (hP.enter _ hm)) ?_ ?_ ?_ ?_
  · intro w dev r h
    have hs := w.servicesStep_connections dev r
    obtain ⟨devices, heq⟩ := w.servicesStep_eq dev r
    rw [heq] at hs ⊢
    exact h.of_eq rfl rfl hs List.prefix_rfl
  · intro dev c r _ _ _
    have hs := (w.back (.discoverChar dev c) r).charsStep_connections dev r
    obtain ⟨devices, heq⟩ := (w.back (.discoverChar dev c) r).charsStep_eq dev r
    rw [heq] at hs ⊢
    exact (steady.back h _ r).of_eq rfl rfl hs List.prefix_rfl
  · intro e r name
    exact (steady.back h e r).of_eq rfl rfl rfl List.prefix_rfl
  · intro a r _
    exact (steady.back h _ r).of_eq rfl rfl rfl List.prefix_rfl

theorem enqueue (h : w.Targets) {a : AsyncAction.Details}
    (hc : ∀ dev p, a.trigger ≠ .connect dev p)
    (hd : ∀ dev, a.trigger = .disconnect dev → w.ble.connectedTo = dev) :
    (w.enqueue a).Targets := by
  refine Gattlibpp.Targets.grow ?_ (List.prefix_append ..)
  exact Gattlibpp.Targets.enqueue (a := { a with id := w.serial }) h hc hd

/-- A connect makes a record for a device that has none. -/
theorem request_connect (h : w.Targets) {dev : UUID} {a : AsyncAction.Details}
    {p : ConnectionParams} (ha : a.trigger = .connect dev p) (hdev : dev ≠ "")
    (hq : ∀ b ∈ w.ble.asyncActions, b.Open w.log → b.trigger.agrees dev = true) :
    ((w.updateBle fun b =>
      { b with
        devices := if (b.deviceDetails dev).isNone then b.devices.insert dev (.new dev)
          else b.devices
        connectedTo := dev }).enqueue a).Targets := by
  refine Gattlibpp.Targets.grow ?_ (List.prefix_append ..)
  refine Gattlibpp.Targets.enqueue_connect (a := { a with id := w.serial }) h ha hdev hq ?_ ?_
  · simp only [World.connections, World.enqueue, World.updateBle_ble, Option.isSome_map]
    split
    · simp
    · rename_i hsome
      simpa [BLECentral.deviceDetails, normalizeDeviceUUID] using hsome
  · have hun := h.unnamed
    simp only [World.connections, World.enqueue, World.updateBle_ble, Option.map_eq_none_iff]
      at hun ⊢
    split
    · rw [Std.TreeMap.getElem?_insert, if_neg (by simpa using hdev)]
      exact hun
    · exact hun

/-- A request that was made where `exclusive` allows it. -/
theorem request {op : Op} (h : w.Targets) (hm : exclusive.enter w (.api op))
    (hr : Request w op w') : w'.Targets := by
  have hsame {w' : World} (hw : w'.ble.asyncActions = w.ble.asyncActions)
      (ht : w'.ble.connectedTo = w.ble.connectedTo) (hc : w'.ble.devices = w.ble.devices)
      (hlog : w'.log = w.log) : w'.Targets :=
    h.of_eq hw ht (w.connections_of_eq hc) (hlog ▸ List.prefix_rfl)
  cases hr with
  | scan _ _ disc =>
    have hd : (w.updateBle fun b => { b with devDiscoveredCb := disc }).Targets :=
      hsame rfl rfl rfl rfl
    refine World.Targets.of_eq (hd.enqueue (a := _) ?_ ?_) rfl rfl rfl List.prefix_rfl
    · rintro _ _ ⟨⟩
    · rintro _ ⟨⟩
  | stopScanCancel _ _ a =>
    exact World.Targets.enqueue (steady.note (steady.complete h a.id) _) (by rintro _ _ ⟨⟩) (by rintro _ ⟨⟩)
  | connect dev p =>
    obtain ⟨hdev, hq⟩ := hm.1 dev rfl
    exact h.request_connect rfl hdev hq
  | disconnect dev =>
    refine h.enqueue (by rintro _ _ ⟨⟩) fun dev' htr => ?_
    cases htr
    exact hm.2 dev rfl
  | _ => exact h.enqueue (by rintro _ _ ⟨⟩) (by rintro _ ⟨⟩)

end World.Targets

/-- `exclusive` allows a request also once the adapter is open. -/
theorem exclusive_opened {w0 w : World} {op : Op} (h : exclusive.enter w0 (.api op))
    (ho : w0.Opened w) : exclusive.enter w (.api op) := by
  refine ⟨fun dev hdev => ⟨(h.1 dev hdev).1, fun a ha hop => ?_⟩, fun dev hdev => ?_⟩
  · exact (h.1 dev hdev).2 a (by rwa [← ho.asyncActions]) (hop.of_prefix ho.log)
  · exact ho.connectedTo.trans (h.2 dev hdev)

/-! ## The claim -/

/-- The environment: gattlib's contract, and connects and disconnects that do not overlap. -/
abbrev oneTarget : Policy := ((contract.and timely).and exclusive).and opensQuietly

theorem oneTarget_within : oneTarget.Within (answering.and timely) := fun w =>
  ⟨fun m h => (timely_within w).enter m h.1.1, fun e r h => (timely_within w).ans e r h.1.1⟩

theorem oneTarget_opensQuietly : oneTarget.OpensQuietly := fun w m name cs hc h =>
  opensQuietly_opensQuietly w m name cs hc h.2

theorem World.Targets.init : World.init.Targets where
  connect := by simp [World.init]
  disconnect := by simp [World.init]
  order := .nil
  unnamed := rfl

section
variable [Gattlib]

def targetsClaim : Claim oneTarget where
  inv w := Alive w ∧ w.Targets
  crash _ _ := True
  act {w _} h ha :=
    ⟨⟨h.1.act (oneTarget_within w) ha, h.2.act (oneTarget_within w) h.1 ha⟩, trivial⟩
  exit h _ := ⟨⟨h.1.note ⟨⟨⟨rfl, rfl, rfl⟩, rfl, rfl, rfl, rfl⟩, rfl⟩, World.Targets.steady.note h.2 _⟩, trivial⟩
  drop _ h hts _ _ := ⟨⟨h.1.drop hts, h.2.of_eq rfl rfl rfl List.prefix_rfl⟩, trivial⟩
  request {op w w'} h ho hr := by
    refine ⟨⟨h.1.request hr, ?_⟩, trivial⟩
    cases ho with
    | entered w0 _ hm _ hopen =>
      exact h.2.request (exclusive_opened hm.1.2 (hopen oneTarget_opensQuietly)) hr
    | shutdown w0 _ _ _ _ hm => exact absurd hm.1.1.1 (by simp [contract, Op.isRequest])
    | autodisconn w0 a dev _ hi hf htr =>
      exact absurd htr (hi.1.fifo.autodisconn a (List.mem_of_mem_head? hf) dev)
  freed _ _ _ _ _ _ := trivial
  missing _ _ _ _ _ _ _ _ := trivial
  other _ _ := trivial

theorem targetsClaim_notifies : targetsClaim.Notifies := by
  refine .of_subs (fun {w w'} h hs => ⟨⟨h.1.subs hs, ?_⟩, trivial⟩) fun _ _ _ => trivial
  have hc := w.connections_subs hs
  cases hs
  exact h.2.of_eq rfl rfl hc List.prefix_rfl

/-- **Run lemma.** -/
theorem targets_reach {c : Config World Call Resp Fault} (h : Reach oneTarget .init c)
    (hf : c.fault = none) : Alive c.s ∧ c.s.Targets :=
  Claim.reach targetsClaim_notifies trivial ⟨.init, .init⟩ h hf

end

end Gattlibpp
