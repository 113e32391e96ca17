import Gattlibpp.Discovery.Steps

/-!
# The chain against the one-shot discovery

`performDiscovery` gives up where a discovery is refused, the chain goes on and reports
success. So the two agree, on the outcome and on the record, if no discovery is refused.
-/

namespace Gattlibpp

open Open

section
variable [Gattlib]

/-! ## Both paths, answered -/

section
variable {α : Type} {w : World} {dev : UUID} {d : Device.Details}

/-- A discovery that is answered: it is refused, or it finds the lock of the record taken, or
the record is changed. -/
def World.discoverAs (w : World) (dev : UUID) (e : Call) (r : Resp)
    (f : Device.Details → Device.Details) (k : Bool → World → Option α) : Option α :=
  if r.rc ≠ 0 then k false ((w.push e).back e r)
  else if dev ∈ w.held then none
  else k true (((w.push e).back e r).updateDevice dev f)

theorem services_answered (hd : w.ble.devices[dev]? = some d) {k : Bool → Ble α} (r : Resp)
    (rs : List Resp) : ((performServiceDiscovery dev w).bind k).answered (r :: rs) =
      w.discoverAs dev (.discoverPrimary dev d.connection) r
        (fun d => d.clearServices.addServices r.serviceList) fun b w' => (k b w').answered rs := by
  simp only [performServiceDiscovery, World.discoverAs, record_eq, hd, callOut, Prog.bind_apply,
    Out.bind_done, Out.bind_call, Out.answered, Prog.ite_apply, Prog.pure_apply]
  split
  · rfl
  · by_cases hheld : dev ∈ w.held
    · rw [if_pos hheld, locked_held _ (show dev ∈ ((w.push _).back _ r).held from hheld)]
      rfl
    · rw [if_neg hheld, locked_free _ (show dev ∉ ((w.push _).back _ r).held from hheld)]
      rfl

theorem characteristics_answered (hd : w.ble.devices[dev]? = some d) {k : Bool → Ble α} (r : Resp)
    (rs : List Resp) : ((performCharacteristicsDiscovery dev w).bind k).answered (r :: rs) =
      w.discoverAs dev (.discoverChar dev d.connection) r
        (fun d => d.clearCharacteristics.addCharacteristics r.characteristicList)
        fun b w' => (k b w').answered rs := by
  simp only [performCharacteristicsDiscovery, World.discoverAs, record_eq, hd, callOut,
    Prog.bind_apply, Out.bind_done, Out.bind_call, Out.answered, Prog.ite_apply, Prog.pure_apply]
  split
  · rfl
  · by_cases hheld : dev ∈ w.held
    · rw [if_pos hheld, locked_held _ (show dev ∈ ((w.push _).back _ r).held from hheld)]
      rfl
    · rw [if_neg hheld, locked_free _ (show dev ∉ ((w.push _).back _ r).held from hheld)]
      rfl

end

/-- The two steps of the chain that discover, one after the other. -/
def discoveryChain (onDevice : UUID) : Ble Unit := do
  autoDiscoverServicesStep onDevice
  autoDiscoverCharacteristicsStep onDevice

/-- The chain, answered by `r1` and `r2`, reports success and leaves the record `d`. -/
def World.ChainReports (w : World) (dev : UUID) (r1 r2 : Resp) (d : Device.Details) : Prop :=
  ∃ w', (discoveryChain dev w).answered [r1, r2] = some ((), w') ∧
    w'.ble.reportQueue.getLast? = some .reportConnected ∧ w'.ble.devices[dev]? = some d ∧
    d.discoveryDone = true

/-- `performDiscovery`, started with `discovery_done` false and answered by `r1` and `r2`,
returns true and leaves the record `d`. -/
def World.DiscoveryReturns (w : World) (dev : UUID) (r1 r2 : Resp) (d : Device.Details) : Prop :=
  ∃ w', (performDiscovery dev (w.updateDevice dev fun d => { d with discoveryDone := false })).answered
      [r1, r2] = some (true, w') ∧ w'.ble.devices[dev]? = some d

/-! ## What each leaves -/

/-- The record once the services are discovered, if they are. -/
def Device.Details.afterServices (d : Device.Details) (r : Resp) : Device.Details :=
  if r.rc ≠ 0 then d else d.clearServices.addServices r.serviceList

/-- The record once the characteristics are discovered, if they are. -/
def Device.Details.afterCharacteristics (d : Device.Details) (r : Resp) : Device.Details :=
  if r.rc ≠ 0 then d else d.clearCharacteristics.addCharacteristics r.characteristicList

/-- The record once the chain is through. -/
def Device.Details.afterChain (d : Device.Details) (r1 r2 : Resp) : Device.Details :=
  { (d.afterServices r1).afterCharacteristics r2 with discoveryDone := true }

theorem Device.Details.addServices_undone (d : Device.Details) (b : Bool)
    (l : List GlPrimaryService) : ({ d with discoveryDone := b } : Device.Details).addServices l =
      { d.addServices l with discoveryDone := b } := by
  unfold Device.Details.addServices
  induction l generalizing d with
  | nil => rfl
  | cons s l ih =>
    rw [List.foldl_cons, List.foldl_cons]
    cases Gattlib.uuidToString s.uuid with
    | none => exact ih d
    | some u => exact ih (d.addService u s)

theorem Device.Details.addCharacteristics_undone (d : Device.Details) (b : Bool)
    (l : List GlCharacteristic) :
    ({ d with discoveryDone := b } : Device.Details).addCharacteristics l =
      { d.addCharacteristics l with discoveryDone := b } := by
  unfold Device.Details.addCharacteristics
  induction l generalizing d with
  | nil => rfl
  | cons c l ih =>
    rw [List.foldl_cons, List.foldl_cons]
    cases Gattlib.uuidToString c.uuid with
    | none => exact ih d
    | some u => exact ih (d.addCharacteristic u c)

/-- What the chain leaves does not depend on whether discovery was done before. -/
theorem Device.Details.afterChain_undone (d : Device.Details) (b : Bool) (r1 r2 : Resp) :
    ({ d with discoveryDone := b } : Device.Details).afterChain r1 r2 = d.afterChain r1 r2 := by
  have hserv : ({ d with discoveryDone := b } : Device.Details).afterServices r1 =
      { d.afterServices r1 with discoveryDone := b } := by
    unfold Device.Details.afterServices
    split
    · rfl
    · exact d.clearServices.addServices_undone b _
  have hchars (d : Device.Details) :
      ({ d with discoveryDone := b } : Device.Details).afterCharacteristics r2 =
        { d.afterCharacteristics r2 with discoveryDone := b } := by
    unfold Device.Details.afterCharacteristics
    split
    · rfl
    · exact d.clearCharacteristics.addCharacteristics_undone b _
  unfold Device.Details.afterChain
  rw [hserv, hchars]

section
variable {α : Type} {w : World} {dev : UUID} {d : Device.Details} {r1 r2 : Resp}

omit [Gattlib] in
theorem World.discoverAs_free (e : Call) (r : Resp) (f : Device.Details → Device.Details)
    (k : Bool → World → Option α) (hf : dev ∈ w.held → r.rc ≠ 0) :
    w.discoverAs dev e r f k = k (r.rc = 0) (if r.rc ≠ 0 then (w.push e).back e r
      else ((w.push e).back e r).updateDevice dev f) := by
  unfold discoverAs
  by_cases hr : r.rc = 0
  · simp [hr, show dev ∉ w.held from fun hh => hf hh hr]
  · simp [hr]

omit [Gattlib] in
theorem World.discoverAs_held (e : Call) (r : Resp) (f : Device.Details → Device.Details)
    (k : Bool → World → Option α) (hh : dev ∈ w.held) (hr : r.rc = 0) :
    w.discoverAs dev e r f k = none := by
  simp [discoverAs, hh, hr]

theorem chain_answered (hd : w.ble.devices[dev]? = some d) :
    (discoveryChain dev w).answered [r1, r2] =
      w.discoverAs dev (.discoverPrimary dev d.connection) r1
        (fun d => d.clearServices.addServices r1.serviceList) fun _ w1 =>
          (w1.report (.autoDiscoverCharacteristicsStep dev)).discoverAs dev
            (.discoverChar dev d.connection) r2
            (fun d => d.clearCharacteristics.addCharacteristics r2.characteristicList) fun _ w2 =>
              some ((), (w2.updateDevice dev fun d => { d with discoveryDone := true }).report
                .reportConnected) := by
  have hnext {w1 : World} (d1 : Device.Details) (hd1 : w1.ble.devices[dev]? = some d1) :
      (autoDiscoverCharacteristicsStep dev (w1.report (.autoDiscoverCharacteristicsStep dev))).answered
        [r2] = _ := characteristics_answered (w := w1.report _) hd1 r2 []
  simp only [discoveryChain, autoDiscoverServicesStep, Prog.bind_apply, Out.bind_assoc]
  refine (services_answered hd r1 [r2]).trans ?_
  unfold World.discoverAs
  split
  · exact hnext d hd
  · split
    · rfl
    · refine (hnext (d.clearServices.addServices r1.serviceList) ?_).trans ?_
      · simp [World.updateDevice, hd]
      · rw [Device.Details.addServices_connection]
        rfl

theorem performDiscovery_answered (hd : w.ble.devices[dev]? = some d)
    (hdone : d.discoveryDone = false) :
    (performDiscovery dev w).answered [r1, r2] =
      w.discoverAs dev (.discoverPrimary dev d.connection) r1
        (fun d => d.clearServices.addServices r1.serviceList) fun b1 w1 =>
          if b1 = false then none else w1.discoverAs dev (.discoverChar dev d.connection) r2
            (fun d => d.clearCharacteristics.addCharacteristics r2.characteristicList) fun b2 w2 =>
              if b2 = false then some (false, w2)
              else some (true, w2.updateDevice dev fun d => { d with discoveryDone := true }) := by
  have hnext {w1 : World} (d1 : Device.Details) (hd1 : w1.ble.devices[dev]? = some d1) :
      _ = w1.discoverAs dev (.discoverChar dev d1.connection) r2 _ _ :=
    characteristics_answered (k := fun b => if ! b then pure false else do
      updateRecord dev fun d => { d with discoveryDone := true }
      return true) hd1 r2 []
  simp only [performDiscovery, record_eq, hd, Prog.bind_apply, Out.bind_done, hdone,
    Bool.false_eq_true, if_false]
  refine (services_answered hd r1 [r2]).trans ?_
  unfold World.discoverAs
  split
  · rfl
  · split
    · rfl
    · refine (hnext (d.clearServices.addServices r1.serviceList) ?_).trans ?_
      · simp [World.updateDevice, hd]
      · rw [Device.Details.addServices_connection]
        unfold World.discoverAs
        rfl

omit [Gattlib] in
/-- The record after a discovery that is answered, and does not find its lock taken. -/
theorem World.discovered_record (hd : w.ble.devices[dev]? = some d) (e : Call) (r : Resp)
    (f : Device.Details → Device.Details) :
    (if r.rc ≠ 0 then (w.push e).back e r
      else ((w.push e).back e r).updateDevice dev f).ble.devices[dev]? =
        some (if r.rc ≠ 0 then d else f d) := by
  split
  · exact hd
  · simp [World.updateDevice, hd]

theorem chainReports_iff (hd : w.ble.devices[dev]? = some d) {d' : Device.Details} :
    w.ChainReports dev r1 r2 d' ↔
      (dev ∈ w.held → r1.rc ≠ 0 ∧ r2.rc ≠ 0) ∧ d' = d.afterChain r1 r2 := by
  unfold World.ChainReports
  rw [chain_answered hd]
  by_cases h1 : dev ∈ w.held ∧ r1.rc = 0
  · rw [World.discoverAs_held _ _ _ _ h1.1 h1.2]
    simp [h1.1, h1.2]
  rw [World.discoverAs_free _ _ _ _ fun hh hr => h1 ⟨hh, hr⟩]
  have hrec := World.discovered_record hd (.discoverPrimary dev d.connection) r1
    fun d => d.clearServices.addServices r1.serviceList
  generalize hw1 : (if r1.rc ≠ 0 then _ else _ : World) = w1 at hrec ⊢
  have hheld : (w1.report (.autoDiscoverCharacteristicsStep dev)).held = w.held := by
    rw [← hw1]
    split <;> rfl
  by_cases h2 : dev ∈ w.held ∧ r2.rc = 0
  · rw [World.discoverAs_held _ _ _ _ (hheld ▸ h2.1) h2.2]
    simp [h2.1, h2.2]
  rw [World.discoverAs_free _ _ _ _ fun hh hr => h2 ⟨hheld ▸ hh, hr⟩]
  have hrec2 := World.discovered_record (w := w1.report (.autoDiscoverCharacteristicsStep dev)) hrec
    (.discoverChar dev d.connection) r2
    fun d => d.clearCharacteristics.addCharacteristics r2.characteristicList
  generalize (if r2.rc ≠ 0 then _ else _ : World) = w2 at hrec2 ⊢
  have hfree : dev ∈ w.held → r1.rc ≠ 0 ∧ r2.rc ≠ 0 := fun hh =>
    ⟨fun hr => h1 ⟨hh, hr⟩, fun hr => h2 ⟨hh, hr⟩⟩
  have hlast : ((w2.updateDevice dev fun d => { d with discoveryDone := true }).report
      .reportConnected).ble.devices[dev]? = some (d.afterChain r1 r2) := by
    simp [World.report, World.updateDevice, hrec2, Device.Details.afterChain,
      Device.Details.afterServices, Device.Details.afterCharacteristics]
  constructor
  · rintro ⟨w', hw', -, hdev, -⟩
    cases hw'
    rw [hlast] at hdev
    exact ⟨hfree, (Option.some.inj hdev).symm⟩
  · rintro ⟨-, rfl⟩
    exact ⟨_, rfl, by simp [World.report], hlast, rfl⟩

theorem discoveryReturns_iff (hd : w.ble.devices[dev]? = some d) {d' : Device.Details} :
    w.DiscoveryReturns dev r1 r2 d' ↔
      (dev ∉ w.held ∧ r1.rc = 0 ∧ r2.rc = 0) ∧ d' = d.afterChain r1 r2 := by
  have hd0 : (w.updateDevice dev fun d => { d with discoveryDone := false }).ble.devices[dev]? =
      some { d with discoveryDone := false } := by simp [World.updateDevice, hd]
  unfold World.DiscoveryReturns
  rw [performDiscovery_answered hd0 rfl, ← d.afterChain_undone false]
  by_cases h1 : r1.rc = 0
  swap
  · simp [World.discoverAs, h1]
  by_cases h2 : r2.rc = 0
  swap
  · by_cases hh : dev ∈ w.held <;> simp [World.discoverAs, h1, h2, hh]
  by_cases hh : dev ∈ w.held
  · simp [World.discoverAs, h1, h2, hh]
  · simp [World.discoverAs, h1, h2, hh, World.updateDevice, hd, Device.Details.afterChain,
      Device.Details.afterServices, Device.Details.afterCharacteristics, eq_comm]

end

/-! ## The results -/

/-- Where the success callback of a connect is called, discovery has succeeded. -/
def World.SuccessDiscovered (w : World) : Prop :=
  ∀ fn arg t dev p, w.log.getLast? = some (.call (.user fn arg (.success t))) →
    .call (.connect t dev p) ∈ w.log → w.Discovered t dev

/-- The chain reports success where `performDiscovery` returns true, with the same record. -/
def World.PathsAgree (w : World) (dev : UUID) (r1 r2 : Resp) : Prop :=
  ∀ d, w.ChainReports dev r1 r2 d ↔ w.DiscoveryReturns dev r1 r2 d

/-- The two paths agree if no discovery is refused. Where the lock of the record is taken, both
come to a halt as soon as one succeeds. -/
theorem pathsAgree_iff {w : World} {dev : UUID} (hd : (w.ble.devices[dev]?).isSome) (r1 r2 : Resp) :
    w.PathsAgree dev r1 r2 ↔
      (r1.rc = 0 ∧ r2.rc = 0) ∨ (dev ∈ w.held ∧ (r1.rc = 0 ∨ r2.rc = 0)) := by
  obtain ⟨d, hd⟩ := Option.isSome_iff_exists.mp hd
  unfold World.PathsAgree
  simp only [chainReports_iff hd, discoveryReturns_iff hd]
  constructor
  · intro h
    by_contra hn
    have hfree : dev ∈ w.held → r1.rc ≠ 0 ∧ r2.rc ≠ 0 := fun hh =>
      ⟨fun hr => hn (.inr ⟨hh, .inl hr⟩), fun hr => hn (.inr ⟨hh, .inr hr⟩)⟩
    exact hn (.inl ((h _).mp ⟨hfree, rfl⟩).1.2)
  · rintro (⟨h1, h2⟩ | ⟨hh, hr⟩) d'
    · exact and_congr_left' ⟨fun h => ⟨fun hh => (h hh).1 h1, h1, h2⟩, fun h hh => absurd hh h.1⟩
    · have hno : ¬ (dev ∈ w.held → r1.rc ≠ 0 ∧ r2.rc ≠ 0) := fun h =>
        hr.elim (h hh).1 (h hh).2
      exact and_congr_left' ⟨fun h => absurd h hno, fun h => absurd hh h.1⟩

/-- **A connect succeeds after its discovery.** Where no discovery is refused, the record holds
what was discovered on the connection when the success callback of a connect is called. The chain
does what `performDiscovery` does exactly there. -/
theorem success_discovered {c : Config World Call Resp Fault} (h : Reach connecting .init c)
    (hf : c.fault = none) : c.s.SuccessDiscovered ∧
      ∀ (w : World) (dev : UUID) (r1 r2 : Resp), (w.ble.devices[dev]?).isSome →
        (w.PathsAgree dev r1 r2 ↔
          (r1.rc = 0 ∧ r2.rc = 0) ∨ (dev ∈ w.held ∧ (r1.rc = 0 ∨ r2.rc = 0))) := by
  refine ⟨fun fn arg t dev p hlast hcon => ?_, fun w dev r1 r2 hd => pathsAgree_iff hd r1 r2⟩
  refine (discovering_reach (fun _ => ⟨fun _ h => h, fun _ _ h => h⟩) h hf).staged.told t ?_ dev p hcon
  rw [hlast]
  rfl

end

/-- A run to the success callback of a connect, with the answers of the two discoveries. -/
def connectRun (r1 r2 : Resp) : List (System.Choice Move Resp) :=
  [.enter (.api (.connect "AA" none (some (.user 1)) none)), .answer (.adapter 3),
    .enter (.api .processAsync), .answer .void, .answer (.code 0),
    .enter (.api .processAsync), .enter (.event (some 0) (.connected (some 7))), .answer .void,
    .answer r1, .enter (.api .processAsync), .answer .void, .answer r2,
    .enter (.api .processAsync), .answer .void]

/-- Where no discovery is refused, the run ends with a record that is discovered. -/
theorem success_discovered_one :
    ∃ c : Config World Call Resp Fault, @Reach .sample connecting .init c ∧
      c.s.log.getLast? = some (.call (.user 1 .nothing (.success 0))) ∧
      @World.Discovered .sample c.s 0 "AA" := by
  let _ := Gattlib.sample
  obtain ⟨c, hc, hP⟩ := (system connecting).reach_of_run_any
    (connectRun (.services [⟨1, 0⟩]) (.characteristics [⟨2, 1⟩]))
    (c := ⟨.init, [], none⟩)
    (P := fun c => c.fault.isNone &&
      (c.s.log.getLast? == some (.call (.user 1 .nothing (.success 0))) &&
        decide (.call (.connect 0 "AA" {}) ∈ c.s.log)))
    (by decide)
  simp only [Bool.and_eq_true, Option.isNone_iff_eq_none, beq_iff_eq, decide_eq_true_eq] at hP
  exact ⟨c, hc, hP.2.1, (success_discovered hc hP.1).1 1 .nothing 0 "AA" {} hP.2.1 hP.2.2⟩

/-- No answer with services. -/
def Obs.refusesServices : Obs → Bool
  | .ret (.discoverPrimary ..) r => r.rc ≠ 0
  | _ => true

/-- gattlib refuses both discoveries, and the success callback is called all the same. -/
theorem success_discovered_refused :
    ∃ c : Config World Call Resp Fault,
      @Reach .sample ((contract.and timely).and autoDiscovering) .init c ∧ c.fault = none ∧
      ¬ @World.SuccessDiscovered .sample c.s := by
  let _ := Gattlib.sample
  obtain ⟨c, hc, hP⟩ := (system ((contract.and timely).and autoDiscovering)).reach_of_run_any
    (connectRun (.code 1) (.code 1))
    (c := ⟨.init, [], none⟩)
    (P := fun c => c.fault.isNone &&
      (c.s.log.getLast? == some (.call (.user 1 .nothing (.success 0))) &&
        (decide (.call (.connect 0 "AA" {}) ∈ c.s.log) && c.s.log.all Obs.refusesServices)))
    (by decide)
  simp only [Bool.and_eq_true, Option.isNone_iff_eq_none, beq_iff_eq, decide_eq_true_eq,
    List.all_eq_true] at hP
  obtain ⟨hf, hlast, hcon, hall⟩ := hP
  refine ⟨c, hc, hf, fun h => ?_⟩
  obtain ⟨conn, d, after, hj, hd⟩ := h 1 .nothing 0 "AA" {} hlast hcon
  obtain ⟨r, hr, hrc, -⟩ := hd.services
  obtain ⟨before, hlog⟩ := hj.joined
  have hret := hall (.ret (.discoverPrimary "AA" (some conn)) r) (by rw [hlog]; simp [hr])
  simp [Obs.refusesServices, hrc] at hret

end Gattlibpp
