import Gattlibpp.Act.Runs
import Gattlibpp.Central.Repr
import Gattlibpp.Discovery.Recorded

/-!
# The library follows its log as a central does

Whatever the environment does, and however its moves and the calls of the library are nested, the
members of the library are at each point what a `Central` is in that has followed the log, and each
entry of the log is one that this central allows.
-/

namespace Gattlibpp

open Open Replay

section
variable [Gattlib]

/-- From `w` to `w'` the library does what the central `s` does with the log in between. -/
def Central.Simulates (s : Central) (w w' : World) : Prop :=
  ∃ l s', w'.log = w.log ++ l ∧ Central.machine.Follows s l s' ∧ s'.Repr w'.ble

namespace Central.Simulates

variable {P : Policy} {s s1 : Central} {w w1 w' : World} {o : Obs}

theorem quiet (h : s.Repr w'.ble) (hl : w'.log = w.log) : s.Simulates w w' :=
  ⟨[], s, by rw [hl, List.append_nil], .refl, h⟩

theorem silent (hs : s.Sets s1) (h : s1.Repr w'.ble) (hl : w'.log = w.log) : s.Simulates w w' :=
  ⟨[], s1, by rw [hl, List.append_nil], .silent .refl hs, h⟩

theorem observe (o : Obs) (ha : s.allows o) (h : (s.next o).Repr w'.ble)
    (hl : w'.log = w.log ++ [o]) : s.Simulates w w' :=
  ⟨[o], s.next o, hl, .once ha, h⟩

theorem trans (h : s.Simulates w w1) (h' : ∀ s1 : Central, s1.Repr w1.ble → s1.Simulates w1 w') :
    s.Simulates w w' := by
  obtain ⟨l, s1, hl, hf, hr⟩ := h
  obtain ⟨l', s', hl', hf', hr'⟩ := h' s1 hr
  exact ⟨l ++ l', s', by rw [hl', hl, List.append_assoc], hf.trans hf', hr'⟩

/-- An entry that the central lets pass. -/
theorem pass (o : Obs) (h : s.Repr w'.ble) (hl : w'.log = w.log ++ [o])
    (ha : s.allows o := by trivial) (hn : s.next o = s := by rfl) : s.Simulates w w' :=
  observe o ha (hn.symm ▸ h) hl

theorem invoke (h : s.Repr w.ble) (cb : Callback) (arg : Arg) (role : Role) :
    s.Simulates w (w.invoke cb arg role) := by
  unfold World.invoke
  split
  · exact pass (.call _) h rfl (by simp [Central.allows, Call.action])
  · exact quiet h rfl

/-- What completes the front job, and calls its function. -/
theorem finishFront (o : Obs) (ha : s.allows o) (h : s1.Repr w1.ble) (hfifo : Fifo w1)
    (hl : w1.log = w.log ++ [o]) (hn : s.next o = s1.complete) (how : Outcome) :
    s.Simulates w (w1.finishFront how) := by
  unfold World.finishFront
  cases hf : w1.front with
  | none => exact observe o ha (hn ▸ h.complete_none hf) hl
  | some a =>
    have hc : s.Simulates w (w1.complete a.id) := observe o ha (hn ▸ h.complete hfifo hf) hl
    exact hc.trans fun s2 h2 => invoke h2 ..

/-- A report is pushed. -/
theorem report (h : s.Repr w.ble) (op : QueuedOp) : s.Simulates w (w.report op) :=
  observe (.pushed op) trivial
    { h with reports := congrArg (· ++ [op]) h.reports } rfl

end Central.Simulates

omit [Gattlib] in
/-- A triggered action that is in the queue is its front. -/
theorem Fifo.front_of_action {w : World} (h : Fifo w) {t : ActionId} {a : AsyncAction.Details}
    (ht : t ∈ triggeredIds w.log) (ha : w.action t = some a) : w.front = some a ∧ a.id = t := by
  have hid : a.id = t := by simpa using List.find?_some ha
  refine ⟨?_, hid⟩
  have hmem := List.mem_of_find?_eq_some ha
  have htail := h.triggered_front ht a
  unfold World.front
  cases hq : w.ble.asyncActions with
  | nil =>
    rw [hq] at hmem
    cases hmem
  | cons b rest =>
    rw [hq] at hmem htail
    rcases List.mem_cons.mp hmem with rfl | hmem
    · rfl
    · exact absurd hid (htail hmem)

/-! ## Callbacks and answers -/

/-- An answer needs the device of a discovery, or the job whose call is refused in front. -/
theorem Central.answers {s : Central} {e : Call} {r : Resp}
    (hdev : ∀ dev, e.onDevice = some dev → (s.peer dev).isSome)
    (hfront : ∀ t ∈ e.action, r.rc ≠ 0 → ∃ j ∈ s.jobs.head?, j.id = t) : s.allows (.ret e r) := by
  cases e with
  | discoverPrimary dev | discoverChar dev => exact hdev dev rfl
  | _ => exact hfront

namespace Central.Repr

variable {s : Central} {w : World}

/-- What a callback of gattlib that completes the front action does besides. -/
theorem event (h : s.Repr w.ble) (of : Option ActionId) {ev : Event} {how : Outcome}
    (ho : ev.outcome w.ble = some how) : ∃ s1 : Central,
      s1.Repr (ev.apply (w.note (.enter (.event of ev)))).ble ∧
      s.next (.enter (.event of ev)) = s1.complete := by
  have hconnect (c : Option Conn) : (s.setPeer s.target fun p => { p with connection := c }).Repr
      ((w.note (.enter (.event of ev))).updateDevice w.ble.connectedTo
        fun d => { d with connection := c }).ble :=
    h.target ▸ h.setPeer _ fun _ _ hr => hr.connect c
  cases ev with
  | connected c =>
    refine ⟨_, hconnect c, if_neg ?_⟩
    rintro ⟨hc, hauto⟩
    rw [Event.outcome, if_pos hc, if_pos (h.autoDiscover.trans hauto)] at ho
    cases ho
  | disconnected =>
    exact ⟨{ s.setPeer s.target fun p => { p with connection := none } with target := "" },
      { hconnect none with target := rfl }, rfl⟩
  | scanComplete | scanDisableDone =>
    exact ⟨{ s with scanning := false }, { h with scanning := rfl }, rfl⟩
  | opDone | opFailed => exact ⟨s, h, rfl⟩
  | _ => cases ho

/-- What the refusal of a call does besides the front action. -/
theorem refused (h : s.Repr w.ble) {e : Call} {r : Resp} {t : ActionId} (he : e.action = some t)
    (hr : r.rc ≠ 0) : ∃ s1 : Central, s1.Repr (e.refusedApply (w.back e r)).ble ∧
      s.next (.ret e r) = s1.complete := by
  cases e with
  | scanEnable => exact ⟨{ s with scanning := false }, { h with scanning := rfl }, if_neg hr⟩
  | scanDisable | connect | disconnect | readChar | writeChar => exact ⟨s, h, if_neg hr⟩
  | _ => cases he

omit [Gattlib] in
/-- An answer after which there is nothing to do. -/
theorem settled {e : Call} {r : Resp} (he : e.Settled r) : s.next (.ret e r) = s := by
  cases e with
  | asyncProcessAll | discoverPrimary | discoverChar | adapterClose => exact he.elim
  | adapterOpen => exact if_neg he
  | scanEnable | scanDisable | connect | disconnect | readChar | writeChar =>
    exact if_pos (he.resolve_left (by simp [Call.action]))
  | _ => rfl

theorem services (h : s.Repr w.ble) (dev : UUID) (c : Option Conn) (r : Resp) :
    (s.next (.ret (.discoverPrimary dev c) r)).Repr
      ((w.back (.discoverPrimary dev c) r).servicesStep dev r).ble := by
  unfold World.servicesStep
  by_cases hr : r.rc = 0
  · rw [if_neg (not_not.mpr hr)]
    change (if r.rc = 0 then _ else s : Central).Repr _
    rw [if_pos hr]
    exact h.setPeer dev fun _ _ hp => hp.discoverServices _
  · rw [if_pos hr]
    change (if r.rc = 0 then _ else s : Central).Repr _
    rw [if_neg hr]
    exact h

theorem chars (h : s.Repr w.ble) (dev : UUID) (c : Option Conn) (r : Resp) :
    (s.next (.ret (.discoverChar dev c) r)).Repr
      ((w.back (.discoverChar dev c) r).charsStep dev r).ble := by
  unfold World.charsStep
  change (if r.rc = 0 then _ else _ : Central).Repr _
  by_cases hr : r.rc = 0
  · rw [if_neg (not_not.mpr hr), if_pos hr]
    have hset := (h.setPeer dev (f := fun p => { p with
        characteristics := r.characteristicList, discoveries := p.discoveries + 1 })
      fun _ _ hp => hp.discoverCharacteristics _).setPeer dev fun _ _ hp => hp.done
    have hone : (s.setPeer dev fun p => { p with
          characteristics := r.characteristicList, discoveries := p.discoveries + 1 }).setPeer dev
          (fun p => { p with discovered := true }) =
        s.setPeer dev fun p => { p with
          characteristics := r.characteristicList
          discovered := true
          discoveries := p.discoveries + 1 } := by
      simp [Central.setPeer, Function.comp_def]
    exact hone ▸ hset
  · rw [if_pos hr, if_neg hr]
    exact h.setPeer dev fun _ _ hp => hp.done

theorem named (h : s.Repr w.ble) (u : UUID) (n : String) :
    Central.Repr { s with name := Function.update s.name u (some n) }
      { w.ble with namesCache := w.ble.namesCache.insert u n } := by
  refine { h with name := fun v => ?_ }
  change _ = (Function.update s.name u (some n) v).getD ""
  rw [Std.TreeMap.getElem?_insert]
  by_cases hv : u = v
  · subst hv
    rw [if_pos Std.ReflCmp.compare_self, Function.update_self]
  · rw [if_neg (fun hc => hv (Std.LawfulEqOrd.eq_of_compare hc)),
      Function.update_of_ne (Ne.symm hv)]
    exact h.name v

/-- A name that is looked up reads the same. -/
theorem looked (h : s.Repr w.ble) (u : UUID) :
    s.Repr { w.ble with namesCache := w.ble.namesCache.insertIfNew u "" } := by
  refine { h with name := fun v => ?_ }
  rw [← h.name v, Std.TreeMap.getElem?_insertIfNew]
  split
  · rename_i hv
    obtain rfl := Std.LawfulEqOrd.eq_of_compare hv.1
    rw [Std.TreeMap.getElem?_eq_none hv.2]
    rfl
  · rfl

/-- A connect is prepared. -/
theorem connecting (h : s.Repr w.ble) (dev : UUID) {p : ConnectionParams} :
    (s.prepare (.connect dev p)).Repr
      { w.ble with
        devices := if (w.ble.deviceDetails dev).isNone then w.ble.devices.insert dev (.new dev)
          else w.ble.devices
        connectedTo := dev } := by
  refine { h with target := rfl, peer := fun e => ?_ }
  change Option.Rel _ (Function.update s.peer dev (some ((s.peer dev).getD {})) e)
    (if (w.ble.devices[dev]?).isNone then w.ble.devices.insert dev (.new dev)
      else w.ble.devices)[e]?
  by_cases he : dev = e
  · subst he
    rw [Function.update_self]
    rcases h.peer_cases dev with ⟨hp, hd⟩ | ⟨p, d, hp, hd, hr⟩
    · rw [hp, hd, if_pos Option.isNone_none, Std.TreeMap.getElem?_insert_self]
      exact .some (.new dev)
    · rw [hp, hd, if_neg (by simp), hd]
      exact .some hr
  · rw [Function.update_of_ne (Ne.symm he)]
    have hsame : (if (w.ble.devices[dev]?).isNone then w.ble.devices.insert dev (.new dev)
        else w.ble.devices)[e]? = w.ble.devices[e]? := by
      split
      · rw [Std.TreeMap.getElem?_insert, if_neg (fun hc => he (Std.LawfulEqOrd.eq_of_compare hc))]
      · rfl
    rw [hsame]
    exact h.peer e

/-- A connection is heard of a known device. -/
theorem heard (h : s.Repr w.ble) (of : Option ActionId) (ev : Event)
    (hc : ∀ c, ev = .connected c → (w.ble.devices[w.ble.connectedTo]?).isSome) :
    s.allows (.enter (.event of ev)) := by
  cases ev with
  | connected c =>
    have hrec := hc c rfl
    rcases h.peer_cases w.ble.connectedTo with ⟨-, hno⟩ | ⟨p, d, hp, -⟩
    · rw [hno] at hrec
      cases hrec
    · rw [h.target] at hp
      exact Option.isSome_of_eq_some hp
  | _ => trivial

/-- What has a record is known. -/
theorem known (h : s.Repr w.ble) {dev : UUID} (hdev : dev ∈ w.ble.devices) :
    (s.peer dev).isSome := by
  rcases h.peer_cases dev with ⟨-, hno⟩ | ⟨p, d, hp, -⟩
  · rw [Std.TreeMap.mem_iff_isSome_getElem?, hno] at hdev
    cases hdev
  · exact Option.isSome_of_eq_some hp

/-- A discovery passes the connection of its device. -/
theorem discovers (h : s.Repr w.ble) {dev : UUID} (hdev : dev ∈ w.ble.devices) :
    ∃ p ∈ s.peer dev, w.connectionOf dev = p.connection := by
  obtain ⟨p, hp⟩ := Option.isSome_iff_exists.mp (h.known hdev)
  refine ⟨p, hp, ?_⟩
  rw [h.connectionOf, Central.connectionOf, hp]
  rfl

/-- A plain call is allowed. -/
theorem plain {P : Policy} (h : s.Repr w.ble) {e : Call} (he : e.Plain) (hh : e.Handled P w) :
    s.allows (.call e) := by
  cases e with
  | adapterOpen name =>
    have hopen := h.adapterIsOpen.symm.trans hh
    exact Option.not_isSome_iff_eq_none.mp (Bool.eq_false_iff.mp hopen)
  | adapterClose a =>
    obtain ⟨hopen, rfl⟩ := hh
    obtain ⟨a, ha⟩ := Option.isSome_iff_exists.mp (h.adapterIsOpen.symm.trans hopen)
    exact ha.trans (congrArg some (h.adapter a ha).symm)
  | asyncProcessAll | discoverPrimary | discoverChar => exact he.elim
  | scanEnable | scanDisable | connect | disconnect | readChar | writeChar => cases he
  | _ => simp [Central.allows, Call.action]

/-- The front is in the state of its action. -/
theorem inFront (h : s.Repr w.ble) {a : AsyncAction.Details} (hf : w.front = some a)
    {state : AsyncAction.State} (ha : a.state = state) : s.inFront a.id state :=
  ⟨a.job, by rw [h.head, hf]; rfl, rfl, ha⟩

/-- The call of the front job is allowed once it runs. -/
theorem calling (h : s.Repr w.ble) {a : AsyncAction.Details} (hf : w.front = some a)
    (ha : a.state = .triggered) {e : Call} (he : e.action = some a.id)
    (hc : s.calls a.job = some e) : s.allows (.call e) := by
  have hfront : ∀ t ∈ e.action,
      s.inFront t .triggered ∧ ∃ j ∈ s.jobs.head?, s.calls j = some e := by
    rintro t ht
    cases he.symm.trans ht
    exact ⟨h.inFront hf ha, a.job, by rw [h.head, hf]; rfl, hc⟩
  cases e with
  | adapterOpen | adapterClose | discoverPrimary | discoverChar => cases he
  | _ => exact hfront

end Central.Repr

/-! ## Acts -/

namespace Central.Simulates

variable {P : Policy} {s : Central} {w w' : World}

/-- The front is triggered. -/
theorem trigger (h : s.Repr w.ble) (hfifo : Fifo w) {a : AsyncAction.Details}
    (hf : w.front = some a) (hp : a.state = .pending) :
    s.Simulates w (a.trigger.apply (w.start a.id) a.id) := by
  have hbegin (hne : a.trigger ≠ .stopScanDone) : s.Simulates w (w.start a.id) := by
    refine observe (.triggered a.id) (h.inFront hf hp) (h.updateFront hfifo hf ?_) rfl
    simp [AsyncAction.Details.job, hne]
  have hstart : (w.start a.id).front = some { a with state := .triggered } := by
    obtain ⟨rest, hq⟩ : ∃ rest, w.ble.asyncActions = a :: rest := List.head?_eq_some_iff.mp hf
    exact congrArg List.head? (hfifo.updateAction_front hq _)
  have hpush {e : Call} (hne : a.trigger ≠ .stopScanDone) (he : e.action = some a.id)
      (hc : ∀ s1 : Central, s1.Repr (w.start a.id).ble → s1.calls a.job = some e) :
      s.Simulates w ((w.start a.id).push e) :=
    (hbegin hne).trans fun s1 h1 =>
      pass (.call e) h1 rfl (h1.calling hstart rfl he (hc s1 h1))
  cases htr : a.trigger with
  | stopScanDone =>
    -- the job starts and is done at once
    have hrun : (s.setFront fun j => { j with state := .triggered }).Repr (w.start a.id).ble :=
      h.updateFront hfifo hf rfl
    have hr := hrun.complete (hfifo.start hf hp) hstart
    have hone : (s.setFront fun j => { j with state := .triggered }).complete = s.begin := by
      obtain ⟨rest, hq⟩ : ∃ rest, s.jobs = a.job :: rest :=
        List.head?_eq_some_iff.mp (by rw [h.head, hf]; rfl)
      simp [Central.complete, Central.begin, Central.setFront, hq, AsyncAction.Details.job, htr]
    rw [hone] at hr
    have hdone : s.Simulates w ((w.start a.id).complete a.id) :=
      observe (.triggered a.id) (h.inFront hf hp) hr rfl
    exact hdone.trans fun s1 h1 => invoke h1 ..
  | autodisconn dev => exact hbegin (by simp [htr])
  | scan runSeconds =>
    refine hpush (by simp [htr]) rfl fun s1 h1 => ?_
    simp [Central.calls, AsyncAction.Details.job, htr, h1.adapterIsOpen]
  | stopScan =>
    refine hpush (by simp [htr]) rfl fun s1 h1 => ?_
    simp [Central.calls, AsyncAction.Details.job, htr, h1.adapterIsOpen]
  | connect dev p =>
    exact hpush (by simp [htr]) rfl fun s1 h1 => by
      simp [Central.calls, AsyncAction.Details.job, htr]
  | disconnect dev =>
    refine hpush (by simp [htr]) rfl fun s1 h1 => ?_
    simp [Central.calls, AsyncAction.Details.job, htr, h1.connectionOf]
  | read dev r | write dev r buf =>
    simp only [Trigger.apply]
    split
    · exact hbegin (by simp [htr])
    · rename_i c hc
      refine hpush (by simp [htr]) rfl fun s1 h1 => ?_
      have hcap := h1.captured dev r
      rw [hc, Option.map_some] at hcap
      obtain ⟨x, hx, hxc⟩ := Option.map_eq_some_iff.mp hcap.symm
      have hu : x.uuid = c.glUuid := congrArg (·.glUuid) hxc
      simp [Central.calls, AsyncAction.Details.job, htr, hx, hu, h1.connectionOf]

/-- A report runs. -/
theorem ran (h : s.Repr w.ble) (hfifo : Fifo w) (op : QueuedOp)
    (hdev : ∀ dev, op.onDevice = some dev → dev ∈ w.ble.devices) :
    s.Simulates w (op.apply (w.note (.ran op))) := by
  have hn : s.Simulates w (w.note (.ran op)) ∨ op = .reportConnected := by
    cases op <;> first | exact .inr rfl | exact .inl (pass _ h rfl)
  cases op with
  | callback | readData | notification =>
    exact (hn.resolve_right (by simp)).trans fun s1 h1 => invoke h1 ..
  | autoDiscoverServicesStep dev | autoDiscoverCharacteristicsStep dev =>
    exact (hn.resolve_right (by simp)).trans fun s1 h1 =>
      pass (.call _) h1 rfl (h1.discovers (hdev dev rfl))
  | reportConnected =>
    have hran : s.Repr (w.note (.ran .reportConnected)).ble := h
    exact finishFront (.ran .reportConnected) trivial hran (hfifo.note ⟨rfl, rfl, rfl⟩) rfl rfl
      .success

/-! ### Callbacks of gattlib -/

/-- A move that changes nothing at once. -/
theorem entered (h : s.Repr w.ble) {m : Move} (hi : m.Idle) :
    s.Simulates w (w.note (.enter m)) := by
  cases m with
  | api op => exact pass _ h rfl
  | event of ev =>
    cases ev with
    | readChar buf =>
      match buf, hi with
      | none, _ => exact pass _ h rfl
      | some [], _ => exact pass _ h rfl
    | notification => exact pass _ h rfl
    | _ => exact hi.elim

/-- A callback completes the front action. -/
theorem event (h : s.Repr w.ble) (hfifo : Fifo w) (of : Option ActionId) {ev : Event}
    {how : Outcome} (ho : ev.outcome w.ble = some how)
    (hc : ∀ c, ev = .connected c → (w.ble.devices[w.ble.connectedTo]?).isSome) :
    s.Simulates w ((ev.apply (w.note (.enter (.event of ev)))).finishFront how) := by
  obtain ⟨s1, hs1, hn⟩ := h.event of ho
  have hfifo1 : Fifo (w.note (.enter (.event of ev))) := hfifo.note ⟨rfl, rfl, rfl⟩
  refine finishFront (.enter (.event of ev)) (h.heard of ev hc) hs1 (hfifo1.event ev) ?_ hn how
  cases ev <;> rfl

/-- A connection comes up that is to be discovered. -/
theorem linked (h : s.Repr w.ble) (of : Option ActionId) (c : Conn)
    (hauto : w.ble.autoDiscover = true) (hrec : (w.ble.devices[w.ble.connectedTo]?).isSome) :
    s.Simulates w
      ((Event.connected (some c)).apply (w.note (.enter (.event of (.connected (some c)))))) := by
  have hn : s.next (.enter (.event of (.connected (some c)))) =
      s.setPeer s.target fun p => { p with connection := some c } :=
    if_pos ⟨rfl, h.autoDiscover.symm.trans hauto⟩
  have hset := h.setPeer s.target fun _ _ hr => hr.connect (some c)
  rw [← hn, ← h.target] at hset
  exact observe _ (h.heard of _ fun _ _ => hrec) hset rfl

/-- The data of a read comes for the front action. -/
theorem readOut (h : s.Repr w.ble) (hfifo : Fifo w) (of : Option ActionId) {buf : BinaryBuffer}
    (hbuf : buf ≠ []) {a : AsyncAction.Details} (hf : w.front = some a) :
    s.Simulates w ((w.note (.enter (.event of (.readChar (some buf))))).complete a.id) := by
  obtain ⟨x, xs, rfl⟩ := List.exists_cons_of_ne_nil hbuf
  have hfifo1 : Fifo (w.note (.enter (.event of (.readChar (some (x :: xs)))))) :=
    hfifo.note ⟨rfl, rfl, rfl⟩
  exact observe (.enter (.event of (.readChar (some (x :: xs))))) trivial
    (Central.Repr.complete (w := w.note _) h hfifo1 hf) rfl

/-- The data of a read comes for no action. -/
theorem readNone (h : s.Repr w.ble) (of : Option ActionId) {buf : BinaryBuffer}
    (hf : w.front = none) :
    s.Simulates w (w.note (.enter (.event of (.readChar (some buf))))) := by
  cases buf with
  | nil => exact pass _ h rfl
  | cons x xs =>
    exact observe (.enter (.event of (.readChar (some (x :: xs))))) trivial (h.complete_none hf) rfl

/-- A device is named. -/
theorem discovered (h : s.Repr w.ble) (of : Option ActionId) (addr name : Option String) :
    s.Simulates w ((w.note (.enter (.event of (.deviceDiscovered addr name)))).discovered
      (addr.getD "") (name.getD "")) := by
  have hnamed : s.Simulates w ((w.note (.enter (.event of (.deviceDiscovered addr name)))).named
      (addr.getD "") (name.getD "")) :=
    observe (.enter (.event of (.deviceDiscovered addr name))) trivial (h.named _ _) rfl
  exact hnamed.trans fun s1 h1 => invoke h1 ..

/-! ### Answers -/

/-- An answer after which there is nothing to do. -/
theorem back (h : s.Repr w.ble) {e : Call} {r : Resp} (hs : e.Settled r) :
    s.Simulates w (w.back e r) := by
  refine pass (.ret e r) h rfl (Central.answers (fun dev hdev => ?_) fun t ht hr => ?_)
    (Central.Repr.settled hs)
  · cases e with
    | discoverPrimary | discoverChar => exact hs.elim
    | _ => cases hdev
  · cases e with
    | scanEnable | scanDisable | connect | disconnect | readChar | writeChar =>
      exact absurd hr (not_not.mpr (hs.resolve_left (by simp [Call.action])))
    | _ => cases ht

/-- The call of an action is refused, which is in front. -/
theorem refused (h : s.Repr w.ble) (hfifo : Fifo w) {e : Call} {r : Resp} {cs : List Call}
    {t : ActionId} {a : AsyncAction.Details} (hc : w.calls = e :: cs) (he : e.action = some t)
    (hr : r.rc ≠ 0) (ha : w.action t = some a) :
    s.Simulates w ((e.refusedApply (w.back e r)).finish .failure t) := by
  have ht : t ∈ triggeredIds w.log := hfifo.calls e (by simp [hc]) t he
  obtain ⟨hf, rfl⟩ := hfifo.front_of_action ht ha
  obtain ⟨s1, hs1, hn⟩ := h.refused he hr
  obtain ⟨b, heq⟩ := e.refusedApply_eq (w.back e r)
  have hfront : (e.refusedApply (w.back e r)).front = some a := by
    rw [heq]
    exact hf
  have hfin : (e.refusedApply (w.back e r)).finish .failure a.id =
      (e.refusedApply (w.back e r)).finishFront .failure := by
    rw [World.finishFront, hfront]
  rw [hfin]
  have hallows : s.allows (.ret e r) := by
    refine Central.answers (fun dev hdev => ?_) fun t ht _ => ?_
    · cases e with
      | discoverPrimary | discoverChar => cases he
      | _ => cases hdev
    · cases he.symm.trans ht
      exact ⟨a.job, by rw [h.head, hf]; rfl, rfl⟩
  refine finishFront (.ret e r) hallows hs1 ?_ (by rw [heq]; rfl) hn .failure
  rw [heq]
  exact (hfifo.back e r).update rfl (Nat.le_refl _) rfl rfl

/-- A discovery of a known device is answered. -/
theorem services (h : s.Repr w.ble) {dev : UUID} (hdev : (s.peer dev).isSome) (c : Option Conn)
    (r : Resp) : s.Simulates w ((w.back (.discoverPrimary dev c) r).servicesStep dev r) := by
  refine observe (.ret (.discoverPrimary dev c) r) hdev (h.services dev c r) ?_
  obtain ⟨devices, heq⟩ := (w.back (.discoverPrimary dev c) r).servicesStep_eq dev r
  rw [heq]
  rfl

theorem chars (h : s.Repr w.ble) {dev : UUID} (hdev : (s.peer dev).isSome) (c : Option Conn)
    (r : Resp) : s.Simulates w ((w.back (.discoverChar dev c) r).charsStep dev r) := by
  refine observe (.ret (.discoverChar dev c) r) hdev (h.chars dev c r) ?_
  obtain ⟨devices, heq⟩ := (w.back (.discoverChar dev c) r).charsStep_eq dev r
  rw [heq]
  rfl

theorem opened (h : s.Repr w.ble) (name : String) {r : Resp} (hr : r.rc = 0) :
    s.Simulates w ((w.back (.adapterOpen (if name = "" then none else some name)) r).updateBle
      fun b => { b with adapter := r.adapter?, adapterName := name, adapterIsOpen := true }) := by
  have hn : s.next (.ret (.adapterOpen (if name = "" then none else some name)) r) =
      { s with adapter := some r.adapter? } := if_pos hr
  refine observe (.ret _ r) (by simp [Central.allows, Call.action]) (hn ▸ ?_) rfl
  exact { h with adapterIsOpen := rfl, adapter := fun a ha => Option.some.inj ha }

/-! ### Ticks -/

/-- The front action has completed and leaves the queue. -/
theorem pop (h : s.Repr w.ble) {a : AsyncAction.Details} {rest : List AsyncAction.Details}
    (hq : w.ble.asyncActions = a :: rest) (hd : a.state = .completed) :
    s.Simulates w ((w.updateBle fun b => { b with asyncActions := rest }).note (.popped a)) := by
  have hf : w.front = some a := congrArg List.head? hq
  refine observe (.popped a) (h.inFront hf hd) { h with jobs := ?_ } rfl
  change rest.map (·.job) = s.jobs.tail
  rw [← h.jobs, hq]
  rfl

/-- The front action waits for one more tick. -/
theorem wait (h : s.Repr w.ble) (a : AsyncAction.Details) :
    s.Simulates w (w.updateAction a.id fun a => { a with waitCount := a.waitCount + 1 }) := by
  refine quiet { h with jobs := Eq.trans ?_ h.jobs } rfl
  simp only [World.updateAction, World.updateBle_ble, List.map_map]
  refine List.map_congr_left fun x _ => ?_
  simp only [Function.comp_apply]
  split <;> rfl

/-- **Step lemma.** -/
theorem act (h : s.Repr w.ble) (hfifo : Fifo w) (hrec : Recorded w) (ha : Act P w w') :
    s.Simulates w w' := by
  have hcall {e : Call} {cs : List Call} {dev : UUID} (hc : w.calls = e :: cs)
      (he : e.onDevice = some dev) : (s.peer dev).isSome :=
    h.known (hrec.recorded (.call e) (hrec.logged e (by rw [hc]; exact List.mem_cons_self)) dev he)
  cases ha with
  | enter m hm hi => exact entered h hi
  | event of ev how hm ho hc => exact event h hfifo of ho hc
  | eventAuto of c hm hauto hdev => exact (linked h of c hauto hdev).trans fun s1 h1 => report h1 _
  | eventRead of buf a hm hbuf hf =>
    split
    · -- completing first makes no difference to the report
      exact (readOut h hfifo of hbuf hf).trans fun s1 h1 =>
        report h1 (.readData a.callbacks.datareceived buf a.id)
    · exact readOut h hfifo of hbuf hf
  | eventReadNone of buf hm hf => exact readNone h of hf
  | raised m => exact pass _ h rfl
  | freed t => exact pass _ h rfl
  | eventDiscovered of addr name hm => exact discovered h of addr name
  | call e he hn hh => exact pass _ h rfl (h.plain he hh)
  | back e r cs hc hans hs => exact back h hs
  | refused e r cs t a hc hans he hr ha => exact refused h hfifo hc he hr ha
  | tick => exact pass (.call .asyncProcessAll) h rfl (by simp [Central.allows, Call.action])
  | takeReports r =>
    exact observe (.ret .asyncProcessAll r) (by simp [Central.allows, Call.action])
      { h with reports := rfl } rfl
  | ran op rest ts hts =>
    exact ran (w := { w with ticks := rest :: ts }) h (hfifo.setTicks _) op fun dev hdev =>
      hrec.report (by simp [World.reports, hts]) hdev
  | endTick ts => exact quiet h rfl
  | trigger ts a hts ht hf hp =>
    exact trigger (w := { w with ticks := ts }) h (hfifo.setTicks ts) hf hp
  | pop ts a rest hts ht hq hd => exact pop (w := { w with ticks := ts }) h hq hd
  | wait ts a hts ht hf => exact wait (w := { w with ticks := ts }) h a
  | services dev c r cs hc =>
    exact (services h (hcall hc rfl) c r).trans fun s1 h1 => report h1 _
  | chars dev c r cs hc => exact (chars h (hcall hc rfl) c r).trans fun s1 h1 => report h1 _
  | report cb => exact report h _
  | notify dev u d buf => exact report h _
  | adapterOpened name r cs hc hans hr => exact opened h name hr
  | adapterClosed a r =>
    exact observe (.ret (.adapterClose a) r) (by simp [Central.allows, Call.action])
      { h with adapterIsOpen := rfl, adapter := fun a ha => by cases ha } rfl
  | setAutoDiscover b =>
    exact silent ⟨b, rfl⟩ { h with autoDiscover := rfl } rfl
  | setConnectionParameters p => exact quiet { h with } rfl
  | deviceName dev => exact quiet (h.looked dev) rfl
  | lock | unlock => exact quiet h rfl
  | inert _ hi => exact quiet (hi.ble ▸ h) hi.log

/-! ## Requests -/

theorem isConnected (h : s.Repr w.ble) (dev : UUID) :
    w.ble.isConnected dev = (s.connectionOf dev).isSome := by
  rw [← h.connectionOf dev]
  unfold BLECentral.isConnected BLECentral.deviceDetails World.connectionOf normalizeDeviceUUID
  cases w.ble.devices[dev]? <;> rfl

/-- A request is queued, once it is prepared at `w1`. -/
theorem queue {w1 : World} (a : AsyncAction.Details) (ha : s.admits a.job)
    (h : (s.prepare a.trigger).Repr w1.ble) (hl : w1.log = w.log) :
    s.Simulates w (w1.enqueue a) :=
  observe (.queued { a with id := w1.serial }) ha (h.accept a) (by rw [World.enqueue_log, hl])

/-- An accepted request is one that the central admits. -/
theorem request {op : Op} (h : s.Repr w.ble) (hfifo : Fifo w) (hr : Request w op w') :
    s.Simulates w w' := by
  have hadapter {b : Bool} (hb : w.ble.adapterIsOpen = b) : s.adapter.isSome = b :=
    h.adapterIsOpen.symm.trans hb
  have hscan {b : Bool} (hb : w.ble.isScanning = b) : s.scanning = b := h.scanning.symm.trans hb
  have hconn {dev : UUID} {b : Bool} (hb : w.ble.isConnected dev = b) :
      (s.connectionOf dev).isSome = b := (isConnected h dev).symm.trans hb
  cases hr with
  | scan runSeconds succ disc fail hopen hidle =>
    have hprep : (s.prepare (.scan runSeconds)).Repr
        (w.updateBle fun b => { b with devDiscoveredCb := disc, isScanning := true }).ble :=
      { h with scanning := rfl }
    exact queue
      { name := "scan"
        callbacks := { success := succ, failure := fail }
        trigger := .scan runSeconds }
      ⟨rfl, hadapter hopen, hscan hidle⟩ hprep rfl
  | stopScanDone succ fail hopen hidle => exact queue _ ⟨rfl, hadapter hopen, hscan hidle⟩ h rfl
  | stopScan succ fail hopen hon => exact queue _ ⟨rfl, hadapter hopen, hscan hon⟩ h rfl
  | stopScanCancel succ fail a hopen hon hf ha hname =>
    have hcancel : s.Simulates w ((w.complete a.id).note (.cancelled a.id)) := by
      refine observe (.cancelled a.id) ⟨h.inFront hf ha, a.job, ?_, hname⟩ (h.complete hfifo hf) rfl
      rw [h.head, hf]
      rfl
    refine hcancel.trans fun s1 h1 => queue _ ⟨rfl, ?_, ?_⟩ h1 rfl
    · exact h1.adapterIsOpen.symm.trans hopen
    · exact h1.scanning.symm.trans hon
  | connect dev p succ fail hopen hno =>
    refine queue _ ⟨rfl, hadapter hopen, ?_⟩ (h.connecting dev) rfl
    exact Option.not_isSome_iff_eq_none.mp (Bool.eq_false_iff.mp (hconn hno))
  | disconnect dev succ fail hopen hc => exact queue _ ⟨rfl, hadapter hopen, hconn hc⟩ h rfl
  | read dev u d _ _ hopen hc hd hu | write dev u d _ _ _ hopen hc hd hu =>
    refine queue _ ⟨rfl, hadapter hopen, hconn hc, ?_⟩ h rfl
    have hcap := congrArg Option.isSome (h.captured dev (d.charRef u))
    rw [Option.isSome_map, Option.isSome_map, World.Referenced.captured_charRef hd hu] at hcap
    exact hcap.symm

theorem subs (h : s.Repr w.ble) (hs : Subs P w w') : s.Simulates w w' := by
  obtain ⟨dev, f, hf, -⟩ := hs
  have hset := h.setPeer dev (f := id) fun _ _ hr => hr.core (hf _)
  have hsame : s.setPeer dev id = s := by
    simp [Central.setPeer]
  rw [hsame] at hset
  exact quiet hset rfl

end Central.Simulates

/-! ## Runs -/

/-- The library is in the state of a central that has followed its log. -/
def World.Follows (w : World) : Prop :=
  ∃ s, Central.machine.Follows Central.machine.init w.log s ∧ s.Repr w.ble

theorem World.Follows.simulates {w w' : World} (h : w.Follows)
    (hs : ∀ s : Central, s.Repr w.ble → s.Simulates w w') : w'.Follows := by
  obtain ⟨s, hf, hr⟩ := h
  obtain ⟨l, s', hl, hf', hr'⟩ := hs s hr
  exact ⟨s', hl ▸ hf.trans hf', hr'⟩

def centralClaim (P : Policy) : Claim P where
  inv w := Fifo w ∧ Recorded w ∧ w.Follows
  crash _ _ := True
  act h ha := ⟨⟨h.1.act ha, ((recordedClaim P).act h.2.1 ha).1,
    h.2.2.simulates fun _ hr => .act hr h.1 h.2.1 ha⟩, trivial⟩
  exit {_ m r} h _ := ⟨⟨h.1.note ⟨rfl, rfl, rfl⟩,
    ((recordedClaim P).exit (m := m) (r := r) h.2.1 fun _ _ _ _ _ _ => trivial).1,
    h.2.2.simulates fun _ hr => .pass _ hr rfl⟩, trivial⟩
  drop hc h hts hl hop := ⟨⟨h.1.setTicks _, ((recordedClaim P).drop hc h.2.1 hts hl hop).1,
    h.2.2.simulates fun _ hr => .quiet hr rfl⟩, trivial⟩
  request h ho hr := ⟨⟨h.1.request hr,
    ((recordedClaim P).request h.2.1 (ho.mono (.refl P) fun _ hw => hw.2.1) hr).1,
    h.2.2.simulates fun _ hs => .request hs h.1 hr⟩, trivial⟩
  freed _ _ _ _ _ _ := trivial
  missing _ _ _ _ _ _ _ _ := trivial
  other _ _ := trivial

theorem centralClaim_notifies (P : Policy) : (centralClaim P).Notifies :=
  .of_subs (fun h hs => ⟨⟨h.1.subs hs, h.2.1.subs hs, h.2.2.simulates fun _ hr => .subs hr hs⟩,
    trivial⟩) fun _ _ _ => trivial

/-- **Run lemma.** -/
theorem follows_reach {P : Policy} {c : Config World Call Resp Fault} (h : Reach P .init c)
    (hf : c.fault = none) : c.s.Follows :=
  (Claim.reach (centralClaim_notifies P) trivial ⟨.init, .init, {}, .refl, .init⟩ h hf).2.2

/-- **The library is a central.** At each point of each run, in any environment and however calls
are nested, there is a state of the central that the members of the library represent and that it
comes to by following the log, each entry of which it allows. -/
theorem central_followed {P : Policy} {c : Config World Call Resp Fault} (h : Reach P .init c)
    (hf : c.fault = none) :
    ∃ s : Central, Central.machine.Follows {} c.s.log s ∧ s.Repr c.s.ble :=
  follows_reach h hf

end

/-- A read after a discovery. -/
theorem central_followed_read : ∃ c : Config World Call Resp Fault, @Reach .sample .any .init c ∧
    .call (.readChar 1 (some 7) 1) ∈ c.s.log ∧
    ∃ s : Central, (@Central.machine .sample).Follows {} c.s.log s ∧
      @Central.Repr .sample s c.s.ble := by
  let _ := Gattlib.sample
  obtain ⟨c, hc, hP⟩ := (system .any).reach_of_run_any
    (discoverA ++ [.enter (.api (.read "A" "2A19" none none)), .enter (.api .processAsync),
      .answer .void])
    (c := ⟨.init, [], none⟩)
    (P := fun c => decide (c.fault = none ∧ .call (.readChar 1 (some 7) 1) ∈ c.s.log)) (by decide)
  obtain ⟨hf, hlog⟩ := of_decide_eq_true hP
  exact ⟨c, hc, hlog, central_followed hc hf⟩

end Gattlibpp
