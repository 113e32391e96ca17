import Gattlibpp.Act.Members
import Gattlibpp.Discovery.Lookup
import Gattlibpp.Ledger.Steps

/-!
# Every call out rests on the log

The books are kept by every step, so in every run the functions of the user are called as they
were given, and gattlib is called with what was asked for and with handles of its own.
-/

namespace Gattlibpp

open Open
open Device (normalizeCharacteristicUUID)

section
variable [Gattlib] {P : Policy} {w w' : World}

/-! ## The device records -/

theorem Device.Details.Sourced.new (log : List Obs) (dev : UUID) :
    (Device.Details.new dev).Sourced log dev :=
  ⟨by simp [Device.Details.new, Connected], by simp [Device.Details.new]⟩

/-- A change that keeps the connection and the UUIDs of the characteristics. -/
theorem Device.Details.Sourced.change {log : List Obs} {dev : UUID} {d d' : Device.Details}
    (h : d.Sourced log dev) (hc : d'.connection = d.connection)
    (hk : ∀ k : UUID, (d'.characteristics[k]?).map (·.glUuid) =
      (d.characteristics[k]?).map (·.glUuid)) : d'.Sourced log dev :=
  ⟨hc ▸ h.connection, fun k g hg => h.characteristics k g (hk k ▸ hg)⟩

/-- A discovery fills the map with what it has returned. -/
theorem Device.Details.Sourced.discover {log : List Obs} {dev : UUID} {d : Device.Details}
    (h : d.Sourced log dev) {c : Option Conn} {r : Resp} (hr : .ret (.discoverChar dev c) r ∈ log) :
    (d.clearCharacteristics.addCharacteristics r.characteristicList).Sourced log dev where
  connection := by
    rw [Device.Details.addCharacteristics_connection]
    exact h.connection
  characteristics k g hg := by
    obtain ⟨x, hx, rfl⟩ := Option.map_eq_some_iff.mp hg
    rw [Device.Details.characteristics_addCharacteristics] at hx
    obtain ⟨y, hy, rfl⟩ := Maps.getElem?_keepFirst_empty.mp hx
    obtain ⟨hkey, before, after, hl, -⟩ := hy
    exact ⟨c, r, y, hr, by simp [hl], rfl, hkey⟩

theorem steady_sourced : Steady fun w => w.Records (Device.Details.Sourced w.log) where
  same h _ hd _ _ hlog dev d hdev := (h dev d (hd ▸ hdev)).mono hlog
  update h _ _ := h
  pop h _ := h

namespace Ledger

theorem event_records (h : Ledger w) (of : Option ActionId) (ev : Event) :
    (ev.apply (w.note (.enter (.event of ev)))).Records
      (Device.Details.Sourced (ev.apply (w.note (.enter (.event of ev)))).log) := by
  have hn := steady_sourced.note h.records (.enter (.event of ev))
  cases ev with
  | connected c =>
    refine hn.updateDevice _ fun d hd => ⟨?_, hd.characteristics⟩
    rintro x rfl
    exact ⟨of, List.mem_append_right _ List.mem_cons_self⟩
  | disconnected =>
    have hd := hn.updateDevice w.ble.connectedTo (f := fun d => { d with connection := none })
      fun d hd => ⟨by simp [Connected], hd.characteristics⟩
    exact hd.of_devices rfl
  | _ => exact hn

theorem records_act {T : Terms} (h : Ledger w) (ha : Stretch T P w w') :
    w'.Records (Device.Details.Sourced w'.log) := by
  refine steady_sourced.act h.records h.fifo ha (fun of ev _ => h.event_records of ev) ?_ ?_ ?_ ?_
  · intro v dev r hv
    obtain ⟨devices, heq⟩ := v.servicesStep_eq dev r
    have hlog : (v.servicesStep dev r).log = v.log := by rw [heq]; rfl
    rw [hlog]
    unfold World.servicesStep
    split
    · exact hv
    · refine hv.updateDevice dev fun d hd => hd.change (d.clearServices.addServices_connection _) ?_
      intro k
      rw [Device.Details.addServices_same (g := fun d => d.characteristics) (fun _ _ _ => rfl)]
      rfl
  · intro dev c r _ _ _
    have hb := steady_sourced.back h.records (.discoverChar dev c) r
    obtain ⟨devices, heq⟩ := (w.back (.discoverChar dev c) r).charsStep_eq dev r
    have hlog : ((w.back (.discoverChar dev c) r).charsStep dev r).log =
        (w.back (.discoverChar dev c) r).log := by rw [heq]; rfl
    rw [hlog]
    unfold World.charsStep
    refine World.Records.updateDevice ?_ dev fun d hd => hd.change rfl fun _ => rfl
    split
    · exact hb
    · refine hb.updateDevice dev fun d hd => hd.discover (c := c) ?_
      exact List.mem_append_right _ List.mem_cons_self
  · intro e r name
    exact (steady_sourced.back h.records e r).of_devices rfl
  · intro a r _
    exact (steady_sourced.back h.records (.adapterClose a) r).of_devices rfl

/-! ## Every step -/

/-- A report that is pushed is due. -/
theorem pushes (h : Ledger w) (hlog : w.log <+: w'.log) {op : QueuedOp} (hop : P.Pushes w w' op) :
    op.Due w'.log := by
  cases op with
  | callback cb =>
    intro fn hfn
    obtain ⟨w0, op, -, hl, hr, -⟩ := hop
    subst hfn
    refine ⟨rfl, op, (hl.trans hlog).subset (by simp), ?_⟩
    cases op with
    | isConnected dev succ fail =>
      simp only [Op.Reports] at hr
      simp only [Op.functionsFor, List.mem_cons, List.not_mem_nil, or_false]
      split at hr <;> simp [hr]
    | isEnabled | enable => simpa [Op.functionsFor, Op.Reports] using hr
    | stopNotification => simpa [Op.functionsFor] using hr.1
    | _ => exact hr.elim
  | readData cb buf t =>
    obtain ⟨-, ⟨a, ha, rfl, rfl⟩, of, hof⟩ := hop
    intro fn hfn
    obtain ⟨a0, hl, hasked⟩ := h.actions a ha
    refine ⟨⟨a0, hlog.subset hasked.1, ?_, hl.id.symm, hl.callbacks ▸ hfn⟩, of, buf, rfl, hof⟩
    refine (hasked.2.resolve_right fun ho => ?_).mono hlog
    obtain ⟨-, dev, frame, -, hcb⟩ := ho
    rw [hl.callbacks, hcb] at hfn
    cases hfn
  | notification cb buf =>
    obtain ⟨dev, u, d, ⟨w0, of, uuid, -, hl, hu⟩, hd, hhas, rfl⟩ := hop
    intro fn hfn
    have hk := Option.join_eq_some_iff.mp hfn
    have hh := h.handlers dev (normalizeCharacteristicUUID u) fn (by
      rw [World.handlers, hd]
      exact hk)
    exact ⟨of, uuid, buf, u, dev, rfl, (hl.trans hlog).subset (by simp), hu, hh.mono hlog⟩
  | _ => trivial

theorem reporting (h : Ledger w) (hlog : w.log <+: w'.log) (hr : w.Reporting P w') :
    ∀ op ∈ w'.reports, op.Due w'.log := by
  intro op hop
  have hold {op : QueuedOp} (hop : op ∈ w.reports) : op.Due w'.log := (h.reports op hop).mono hlog
  unfold World.reports at hop hold
  cases hr with
  | pushed ops hops _ _ _ hq hts =>
    rw [hq, hts] at hop
    simp only [List.mem_append] at hop hold
    rcases hop with (hop | hop) | hop
    · exact hold (.inl hop)
    · exact h.pushes hlog (hops op hop)
    · exact hold (.inr hop)
  | took _ _ _ _ _ hq hts =>
    rw [hq, hts] at hop
    simp only [List.flatten_cons, List.nil_append] at hop
    exact hold hop
  | ran op' _ _ _ hq hts =>
    rw [hq] at hop
    rw [hts] at hold
    simp only [List.mem_append, List.mem_cons] at hop hold
    exact hold (hop.imp_right .inr)

/-- **Step lemma.** -/
theorem act (h : Ledger w) (ha : Act P w w') : Ledger w' := by
  have hp := ha.pays h
  refine ⟨h.fifo.act ha, ?_, h.records_act ha, ?_, h.reporting hp.log ha.reporting, ?_, ?_, ?_,
    hp.due h.calls⟩
  · rcases Act.later h.fifo ha with hl | ⟨a, hq, -, -⟩
    · exact h.actions.later hp.log hl
    · intro x hx
      exact (h.actions x (hq ▸ List.mem_cons_of_mem _ hx)).mono hp.log (.refl x)
  · intro dev k fn hk
    rw [Act.handlers h.fifo ha] at hk
    exact (h.handlers dev k fn hk).mono hp.log
  -- the members of the library
  all_goals
    have hm := ha.members
    simp only [World.members, Prod.mk.injEq] at hm
  · intro fn hfn
    rcases hm with ⟨hd, -⟩ | ⟨name, r, -, hd, -⟩ | ⟨p, -, -, hd, -⟩ <;>
      exact (h.discovered fn (hd ▸ hfn)).mono hp.log
  · rcases hm with ⟨-, ha', -⟩ | ⟨name, r, hr, -, ha', -⟩ | ⟨p, -, -, -, ha', -⟩
    · exact ha' ▸ h.adapter.mono hp.log
    · exact fun x hx => ⟨name, r, hr, ha' ▸ hx⟩
    · exact ha' ▸ h.adapter.mono hp.log
  · rcases hm with ⟨-, -, hc⟩ | ⟨name, r, -, -, -, hc⟩ | ⟨p, ⟨w0, -, hl⟩, -, -, -, hc⟩
    · exact hc ▸ h.connParams.mono hp.log
    · exact hc ▸ h.connParams.mono hp.log
    · exact .inr (hc ▸ (hl.trans hp.log).subset (by simp))

/-- The origin of a request has noted what it asks for. -/
theorem requested {inv : World → Prop} (hinv : ∀ w, inv w → Ledger w) {op : Op}
    {a : AsyncAction.Details} (ho : Origin P inv op w) (ha : op.Asks w.log a) :
    Requested w.log a ∨ Own w.log a := by
  cases ho with
  | entered w0 _ _ hl => exact .inl ⟨op, hl.subset (by simp), ha⟩
  | shutdown w0 dev frame hop _ _ hl =>
    subst hop
    exact .inr ⟨hl.subset (by simp), dev, frame, ha.2, ha.1⟩
  | autodisconn w0 b dev _ h0 hf hb =>
    -- no request asks for such an action
    obtain ⟨b0, hlater, -, hasked⟩ := (hinv w0 h0).actions b (List.mem_of_mem_head? hf)
    rw [hlater.trigger] at hb
    rcases hasked with ⟨op', -, hop'⟩ | ⟨-, e, frame, htr, -⟩
    · cases op' <;> simp [Op.Asks, hb] at hop'
    · rw [htr] at hb
      cases hb

/-- An accepted request queues what the operation asks for. -/
theorem asks (h : Ledger w) {op : Op} {a : AsyncAction.Details} (hq : op.Queues w a) :
    op.Asks w.log a := by
  cases op with
  | connect dev p =>
    obtain ⟨hcb, htr⟩ := hq
    refine ⟨hcb, p.getD w.ble.connParams, htr, ?_⟩
    cases p with
    | none => exact .inr ⟨rfl, h.connParams⟩
    | some q => exact .inl rfl
  | disconnect => exact ⟨hq.1, hq.2.1⟩
  | read | write =>
    obtain ⟨hcb, d, -, htr⟩ := hq
    exact ⟨hcb, d.epoch, htr⟩
  | _ => exact hq

theorem request {op : Op} {inv : World → Prop} (hinv : ∀ w, inv w → Ledger w) (h : Ledger w)
    (ho : Origin P inv op w) (hr : Request w op w') : Ledger w' := by
  have hpays : w.Pays w' := by
    cases hr with
    | stopScanCancel succ fail b =>
      have hc : w.Pays ((w.complete b.id).note (.cancelled b.id)) := .note (.cancelled b.id)
      exact hc.trans (.note (.queued _))
    | _ => exact .note (.queued _)
  have hlog := hpays.log
  obtain ⟨w1, a, hl, hq, hqueued, hqueues⟩ := hr.queues
  have hnew : w'.Holds a :=
    ⟨a, .refl a, hqueued, (requested hinv ho (h.asks hqueues)).imp (Requested.mono hlog)
      fun hown => ⟨hlog.subset hown.1, hown.2⟩⟩
  refine ⟨h.fifo.request hr, fun x hx => ?_, fun e d hd => ?_, fun dev k fn hk => ?_,
    h.reporting (P := P) hlog hr.reporting, fun fn hfn => ?_, ?_, ?_, hpays.due h.calls⟩
  · rw [hq] at hx
    rcases List.mem_append.mp hx with hx | hx
    · obtain ⟨x0, hx0, hlater⟩ := hl.mem hx
      exact (h.actions x0 hx0).mono hlog hlater
    · cases List.mem_singleton.mp hx
      exact hnew
  · rcases hr.record e with he | ⟨-, hrec⟩
    · exact (h.records e d (he ▸ hd)).mono hlog
    · cases hrec.symm.trans hd
      exact .new _ e
  · rcases hr.handlers dev with he | ⟨-, he⟩
    · exact (h.handlers dev k fn (he ▸ hk)).mono hlog
    · rw [he] at hk
      simp at hk
  · cases hr with
    | scan runSeconds succ disc fail =>
      obtain rfl : disc = some (.user fn) := hfn
      cases ho with
      | entered w0 _ _ hl0 =>
        exact ⟨.scan runSeconds succ (some (.user fn)) fail, (hl0.trans hlog).subset (by simp),
          by simp [Op.functionsFor]⟩
      | shutdown w0 dev frame hop => cases hop
      | autodisconn w0 b dev hop => cases hop
    | _ => exact (h.discovered fn hfn).mono hlog
  · have hsame : w'.ble.adapter = w.ble.adapter := by cases hr <;> rfl
    exact hsame ▸ h.adapter.mono hlog
  · have hsame : w'.ble.connParams = w.ble.connParams := by cases hr <;> rfl
    exact hsame ▸ h.connParams.mono hlog

theorem subs (h : Ledger w) (hs : Subs P w w') : Ledger w' := by
  have hhandlers := hs.handlers
  have hreports (hlog : w.log <+: w'.log) (hr : w.Reporting P w') := h.reporting hlog hr
  obtain ⟨dev, f, hf, hsub⟩ := hs
  have hrecords : (w.updateDevice dev f).Records (Device.Details.Sourced w.log) :=
    h.records.updateDevice dev fun d hd =>
      hd.change (hf d).connection fun k => (hf d).glUuid k
  refine ⟨h.fifo.subs ⟨dev, f, hf, hsub⟩, h.actions, hrecords, fun e k fn hfn => ?_,
    hreports List.prefix_rfl (Subs.reporting ⟨dev, f, hf, hsub⟩), h.discovered, h.adapter,
    h.connParams, h.calls⟩
  rcases hhandlers e k _ hfn with hold | ⟨u, rfl, w0, fail, -, hl⟩
  · exact h.handlers e k fn hold
  · exact ⟨u, fail, hl.subset (by simp), rfl⟩

/-- Something else than a call is noted. -/
theorem note (h : Ledger w) (o : Obs) (ho : ∀ e, o ≠ .call e) (haside : o.Aside) :
    Ledger (w.note o) := by
  have hp : w.Pays (w.note o) := .note o rfl ho
  exact ⟨h.fifo.note haside, fun a ha => (h.actions a ha).mono hp.log (.refl a),
    steady_sourced.note h.records o, fun dev k fn hk => (h.handlers dev k fn hk).mono hp.log,
    fun op hop => (h.reports op hop).mono hp.log, fun fn hfn => (h.discovered fn hfn).mono hp.log,
    h.adapter.mono hp.log, h.connParams.mono hp.log, hp.due h.calls⟩

/-- A tick is left. -/
theorem drop (h : Ledger w) {q : List QueuedOp} {ts : List (List QueuedOp)}
    (hts : w.ticks = q :: ts) : Ledger { w with ticks := ts } where
  fifo := h.fifo.setTicks ts
  actions := h.actions
  records := h.records
  handlers := h.handlers
  reports op hop := by
    refine h.reports op ?_
    simp only [World.reports, List.mem_append] at hop ⊢
    rw [hts]
    exact hop.imp_right fun hop => List.mem_append_right _ hop
  discovered := h.discovered
  adapter := h.adapter
  connParams := h.connParams
  calls := h.calls

end Ledger

/-! ## Runs -/

def ledgerClaim (P : Policy) : Claim P where
  inv := Ledger
  crash _ _ := True
  act h ha := ⟨h.act ha, trivial⟩
  exit h _ := ⟨h.note _ (by simp) ⟨rfl, rfl, rfl⟩, trivial⟩
  drop _ h hts _ _ := ⟨h.drop hts, trivial⟩
  request h ho hr := ⟨h.request (fun _ => id) ho hr, trivial⟩
  freed _ _ _ _ _ _ := trivial
  missing _ _ _ _ _ _ _ _ := trivial
  other _ _ := trivial

theorem ledgerClaim_notifies (P : Policy) : (ledgerClaim P).Notifies :=
  .of_subs (fun h hs => ⟨h.subs hs, trivial⟩) fun _ _ _ => trivial

/-- **Run lemma.** -/
theorem due_reach {c : Config World Call Resp Fault} (h : Reach P .init c) (hf : c.fault = none) :
    Past Obs.Due c.s.log :=
  (Claim.reach (ledgerClaim_notifies P) trivial .init h hf).calls

/-- **User functions are called as they were given.** Whenever the library calls a function of
the user, the user has passed that function to an operation to be called so; for the outcome or
the data of an action it is the function that the request of this very action was given; and what
it is told comes from gattlib. -/
theorem functions_given {P : Policy} {c : Config World Call Resp Fault} (h : Reach P .init c)
    (hf : c.fault = none) {before after : List Obs} {fn : Nat} {arg : Arg} {role : Role}
    (hl : c.s.log = before ++ .call (.user fn arg role) :: after) : Told before fn arg role :=
  due_reach h hf before _ after hl _ rfl

omit [Gattlib] in
/-- The data of a read comes back to the function that the read was given. -/
theorem functions_given_read :
    ∃ (c : Config World Call Resp Fault) (before : List Obs), @Reach .sample .any .init c ∧
      c.s.log = before ++ [.call (.user 5 (.data [42]) (.data 1))] ∧
      @Told before .sample 5 (.data [42]) (.data 1) := by
  let _ := Gattlib.sample
  obtain ⟨c, hc, hP⟩ := (system .any).reach_of_run_any
    (discoverA ++ [.enter (.api (.read "A" "2A19" (some (.user 5)) none)),
      .enter (.api .processAsync), .answer .void, .answer (.code 0),
      .enter (.event (some 1) (.readChar (some [42]))), .enter (.api .processAsync), .answer .void])
    (c := ⟨.init, [], none⟩) (P := fun c => c.fault.isNone &&
      c.s.log.getLast? == some (.call (.user 5 (.data [42]) (.data 1)))) (by decide +kernel)
  simp only [Bool.and_eq_true, Option.isNone_iff_eq_none, beq_iff_eq] at hP
  obtain ⟨before, hl⟩ := List.getLast?_eq_some_iff.mp hP.2
  exact ⟨c, before, hc, hl, functions_given hc hP.1 hl⟩

/-- **gattlib is called as it was asked.** Whenever the library calls gattlib for an action, the
action was asked for by a request of the user, or is the disconnect of a `shutdown`, and the call
passes what the request said; a UUID it passes was discovered on the device of the request for the
characteristic it names; and a connection or adapter it passes is one that gattlib has given. -/
theorem gattlib_supplied {P : Policy} {c : Config World Call Resp Fault} (h : Reach P .init c)
    (hf : c.fault = none) {before after : List Obs} {e : Call}
    (hl : c.s.log = before ++ .call e :: after) : e.Supplied before := by
  have hdue := due_reach h hf before _ after hl _ rfl
  cases e with
  | user => trivial
  | _ => exact hdue

omit [Gattlib] in
/-- The read passes the UUID that the discovery has returned for the characteristic. -/
theorem gattlib_supplied_read :
    ∃ (c : Config World Call Resp Fault) (before : List Obs), @Reach .sample .any .init c ∧
      c.s.log = before ++ [.call (.readChar 1 (some 7) 1)] ∧
      @Call.Supplied before .sample (.readChar 1 (some 7) 1) := by
  let _ := Gattlib.sample
  obtain ⟨c, hc, hP⟩ := (system .any).reach_of_run_any
    (discoverA ++ [.enter (.api (.read "A" "2A19" none none)), .enter (.api .processAsync),
      .answer .void])
    (c := ⟨.init, [], none⟩) (P := fun c => c.fault.isNone &&
      c.s.log.getLast? == some (.call (.readChar 1 (some 7) 1))) (by decide +kernel)
  simp only [Bool.and_eq_true, Option.isNone_iff_eq_none, beq_iff_eq] at hP
  obtain ⟨before, hl⟩ := List.getLast?_eq_some_iff.mp hP.2
  exact ⟨c, before, hc, hl, gattlib_supplied hc hP.1 hl⟩

end

end Gattlibpp
