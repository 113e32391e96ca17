import Gattlibpp.Act.Calls
import Gattlibpp.Report.Flow

/-!
# The report queue conserves callbacks

What was pushed has run, or waits in the queue or in the copy of a tick, as long as every
report that runs returns. Where the callbacks do not tick again, reports run in the order in
which they were pushed, and a tick runs what is there when its report phase begins and leaves
what is pushed meanwhile.
-/

namespace Gattlibpp

open Open
open scoped List

/-- No report that was run has thrown. -/
def Returned (log : List Obs) : Prop := ∀ op ∈ ranOps log, ¬ op.Throws

theorem Returned.of_grow {log log' : List Obs} (h : Returned log')
    (hl : ranOps log <+: ranOps log') : Returned log := fun op hop => h op (hl.subset hop)

theorem not_returned {log : List Obs} {op : QueuedOp} (hl : log.getLast? = some (.ran op))
    (hop : op.Throws) : ¬ Returned log := by
  intro h
  obtain ⟨before, rfl⟩ := List.getLast?_eq_some_iff.mp hl
  exact h op (by simp) hop

/-! ## Conservation -/

namespace World

/-- What was pushed has run, was dropped behind a report that threw, or waits. -/
def Conserved (w : World) : Prop :=
  ∃ dropped, pushedOps w.log ~ ranOps w.log ++ dropped ++ w.reports ∧
    (Returned w.log → dropped = [])

/-- What was pushed has run or waits, in order. -/
def InOrder (w : World) : Prop :=
  Returned w.log → pushedOps w.log = ranOps w.log ++ (w.ticks.flatten ++ w.ble.reportQueue)

variable {P : Policy} {w w' : World}

theorem Reporting.grows [Gattlib] (h : w.Reporting P w') :
    ranOps w.log <+: ranOps w'.log ∧ takes w.log ≤ takes w'.log := by
  cases h with
  | pushed ops _ _ hr ht => exact ⟨hr ▸ List.prefix_rfl, by omega⟩
  | took _ _ _ hr ht => exact ⟨hr ▸ List.prefix_rfl, by omega⟩
  | ran op _ hr ht => exact ⟨by rw [hr]; exact List.prefix_append .., by omega⟩

theorem Conserved.step [Gattlib] (h : w.Conserved) (hr : w.Reporting P w') : w'.Conserved := by
  obtain ⟨dropped, hperm, hdrop⟩ := h
  refine ⟨dropped, ?_, fun hret => hdrop (hret.of_grow hr.grows.1)⟩
  cases hr with
  | pushed ops _ hp hran _ hq hts =>
    rw [hp, hran, reports, hq, hts]
    refine (hperm.append_right ops).trans ?_
    rw [reports]
    simp only [List.append_assoc]
    exact ((List.perm_append_comm.append_left _).append_left _).append_left _
  | took _ _ hp hran _ hq hts =>
    rw [hp, hran, reports, hq, hts]
    exact hperm
  | ran op hp hran _ hq hts =>
    rw [hp, hran, reports, hq]
    refine hperm.trans ?_
    rw [reports, hts]
    simp only [List.append_assoc, List.singleton_append]
    refine List.Perm.append_left _ ?_
    rw [← List.append_assoc, ← List.append_assoc]
    exact List.perm_middle

theorem InOrder.step [Gattlib] (h : w.InOrder) (hr : w.Reporting P w')
    (hP : ∀ cs, P.Ticks cs w.ticks → w.ticks = []) : w'.InOrder := by
  intro hret
  have hw := h (hret.of_grow hr.grows.1)
  cases hr with
  | pushed ops _ hp hran _ hq hts =>
    rw [hp, hran, hq, hts, hw, List.append_assoc, List.append_assoc]
  | took cs hgo hp hran _ hq hts =>
    rw [hp, hran, hq, hts, hw, hP cs hgo]
    simp
  | ran op hp hran _ hq hts =>
    rw [hp, hran, hq, hw, hts]
    simp

end World

/-! ## Report phases -/

/-- The report phase that began last began after `before`. -/
def LastPhase (log before : List Obs) : Prop :=
  ∃ r after, log = before ++ .ret .asyncProcessAll r :: after ∧ takes after = 0

namespace LastPhase

variable {log log' before : List Obs}

/-- Where a tick has taken the reports, a phase began last. -/
theorem exists_of_takes {l : List Obs} (h : takes l ≠ 0) : ∃ before, LastPhase l before := by
  induction l with
  | nil => exact absurd rfl h
  | cons o l ih =>
    by_cases hl : takes l = 0
    · obtain ⟨r, rfl⟩ : ∃ r, o = .ret .asyncProcessAll r := by
        rw [takes_cons, hl] at h
        unfold Obs.takes at h
        split at h
        · exact ⟨_, rfl⟩
        · exact absurd rfl h
      exact ⟨[], r, l, rfl, hl⟩
    · obtain ⟨before, r, after, rfl, hafter⟩ := ih hl
      exact ⟨o :: before, r, after, rfl, hafter⟩

theorem exists_of_grows (hl : log <+: log') (ht : takes log < takes log') :
    ∃ before, LastPhase log' before ∧ log <+: before := by
  obtain ⟨l, rfl⟩ := hl
  rw [takes_append] at ht
  obtain ⟨before, r, after, rfl, hafter⟩ := exists_of_takes (l := l) (by omega)
  exact ⟨log ++ before, ⟨r, after, by simp, hafter⟩, List.prefix_append ..⟩

/-- A phase that began last did so before what takes no reports. -/
theorem of_grows (h : LastPhase log' before) (hl : log <+: log') (ht : takes log' = takes log) :
    LastPhase log before := by
  obtain ⟨r, after, heq, hafter⟩ := h
  obtain ⟨l, rfl⟩ := hl
  have hl : takes l = 0 := by rw [takes_append] at ht; omega
  rcases List.append_eq_append_iff.mp heq with ⟨c, -, rfl⟩ | ⟨c, rfl, hc⟩
  · simp at hl
  · cases c with
    | nil =>
      rw [List.nil_append] at hc
      rw [← hc] at hl
      simp at hl
    | cons o c =>
      rw [List.cons_append, List.cons.injEq] at hc
      obtain ⟨rfl, rfl⟩ := hc
      rw [takes_append] at hafter
      exact ⟨r, c, rfl, by omega⟩

/-- The phase that begins with the one take there is. -/
theorem of_took (h : LastPhase log' before) (hl : log <+: log') (ht : takes log' = takes log + 1) :
    log <+: before ∧ before <+: log' := by
  obtain ⟨r, after, heq, hafter⟩ := h
  refine ⟨?_, heq ▸ List.prefix_append ..⟩
  obtain ⟨l, rfl⟩ := hl
  have hl : takes l = 1 := by rw [takes_append] at ht; omega
  rcases List.append_eq_append_iff.mp heq with ⟨c, rfl, -⟩ | ⟨c, rfl, hc⟩
  · exact List.prefix_append ..
  · cases c with
    | nil => simp
    | cons o c =>
      rw [List.cons_append, List.cons.injEq] at hc
      obtain ⟨rfl, rfl⟩ := hc
      rw [takes_append] at hafter
      omega

end LastPhase

theorem pushedOps_grows {l l' : List Obs} (h : l <+: l') : pushedOps l <+: pushedOps l' := by
  obtain ⟨s, rfl⟩ := h
  rw [pushedOps_append]
  exact List.prefix_append ..

/-- Of the reports that were there when the last report phase began, all have run but those that
a tick still holds, and none that was pushed since has. -/
def World.RunsPresent (w : World) : Prop :=
  Returned w.log → ∀ before, LastPhase w.log before →
    pushedOps before = ranOps w.log ++ w.ticks.flatten

theorem World.RunsPresent.step [Gattlib] {P : Policy} {w w' : World} (h : w.RunsPresent)
    (hord : w.InOrder) (hlog : w.log <+: w'.log) (hr : w.Reporting P w')
    (hP : ∀ cs, P.Ticks cs w.ticks → w.ticks = []) : w'.RunsPresent := by
  intro hret before hb
  have hret0 : Returned w.log := hret.of_grow hr.grows.1
  cases hr with
  | pushed ops _ _ hran ht _ hts => rw [h hret0 before (hb.of_grows hlog ht), hran, hts]
  | took cs hgo hp hran ht _ hts =>
    obtain ⟨h1, h2⟩ := hb.of_took hlog ht
    -- nothing is pushed while the queue is taken
    have hbefore : pushedOps before = pushedOps w.log := by
      refine ((pushedOps_grows h1).eq_of_length_le ?_).symm
      rw [← hp]
      exact (pushedOps_grows h2).length_le
    rw [hbefore, hord hret0, hran, hts, hP cs hgo]
    simp
  | ran op _ hran ht _ hts =>
    rw [h hret0 before (hb.of_grows hlog ht), hran, hts, List.append_assoc]
    rfl

/-! ## The claims -/

theorem Subs.reporting [Gattlib] {P : Policy} {w w' : World} (h : Subs P w w') :
    w.Reporting P w' := by
  cases h
  exact .same (l := []) (by simp [World.updateDevice]) (by simp) rfl rfl

theorem World.Conserved.returned {w : World} (h : w.Conserved)
    (hcall : ∀ op ∈ pushedOps w.log, ¬ op.Throws) : Returned w.log := by
  obtain ⟨dropped, hperm, -⟩ := h
  refine fun op hop => hcall op (hperm.mem_iff.mpr ?_)
  exact List.mem_append_left _ (List.mem_append_left _ hop)

/-- No callback ticks while a tick runs reports. -/
def unnested : Policy where
  enter w m :=
    match m with
    | .api .processAsync | .api .shutdown => w.ticks = []
    | _ => True
  ans _ _ _ := True

theorem unnested_ticks {ts : List (List QueuedOp)} (cs : List Call) (h : unnested.Ticks cs ts) :
    ts = [] := by
  obtain ⟨w0, hm | hm, -, hts⟩ := h <;> exact hts ▸ hm

section
variable [Gattlib]

def conservedClaim (P : Policy) : Claim P where
  inv := World.Conserved
  crash _ _ := True
  act h ha := ⟨h.step ha.reporting, trivial⟩
  exit {w m r} h _ := by
    have hr : w.Reporting P (w.note (.exit m r)) :=
      .same (l := [_]) rfl (by simp [Obs.Unreported]) rfl rfl
    exact ⟨h.step hr, trivial⟩
  drop {w op q ts} _ h hts hl hop := by
    have hno := not_returned hl hop
    refine ⟨?_, trivial⟩
    obtain ⟨dropped, hperm, -⟩ := h
    refine ⟨dropped ++ q, hperm.trans ?_, fun hret => absurd hret hno⟩
    simp only [World.reports, hts, List.flatten_cons, List.append_assoc]
    refine (List.Perm.append_left _ ?_).append_left _
    rw [← List.append_assoc, ← List.append_assoc]
    exact List.perm_append_comm.append_right _
  request h _ hr := ⟨h.step (P := P) hr.reporting, trivial⟩
  freed _ _ _ _ _ _ := trivial
  missing _ _ _ _ _ _ _ _ := trivial
  other _ _ := trivial

theorem conservedClaim_notifies (P : Policy) : (conservedClaim P).Notifies :=
  .of_subs (fun h hs => ⟨h.step hs.reporting, trivial⟩) fun _ _ _ => trivial

/-- The reports where no callback ticks while others run. -/
structure Ordered (w : World) : Prop where
  conserved : w.Conserved
  inOrder : w.InOrder
  present : w.RunsPresent

omit [Gattlib] in
theorem Ordered.init : Ordered .init where
  conserved := ⟨[], by simp [World.init, World.reports], fun _ => rfl⟩
  inOrder _ := by simp [World.init]
  present _ before := by
    rintro ⟨r, after, hl, -⟩
    simp [World.init] at hl

theorem Ordered.step {w w' : World} (h : Ordered w) (hlog : w.log <+: w'.log)
    (hr : w.Reporting unnested w') : Ordered w' :=
  ⟨h.conserved.step hr, h.inOrder.step hr unnested_ticks,
    h.present.step h.inOrder hlog hr unnested_ticks⟩

/-- The log of `w'` goes on from that of `w`. -/
def World.Before (w w' : World) : Prop := w.log <+: w'.log

omit [Gattlib] in
theorem World.Before.refl (w : World) : w.Before w := List.prefix_rfl

def orderedClaim : Claim unnested where
  inv := Ordered
  extra := World.Before
  crash _ _ := True
  refl := World.Before.refl
  trans _ _ _ h h' := List.IsPrefix.trans h h'
  unlocked h := h
  act h ha := ⟨h.step ha.log_grows ha.reporting, ha.log_grows⟩
  exit h _ := ⟨h.step (List.prefix_append ..)
    (.same (l := [_]) rfl (by simp [Obs.Unreported]) rfl rfl), List.prefix_append ..⟩
  drop hc h hts hl hop := by
    have hno := not_returned hl hop
    refine ⟨⟨((conservedClaim unnested).drop hc h.conserved hts hl hop).1, ?_, ?_⟩, List.prefix_rfl⟩
    · exact fun hret => absurd hret hno
    · exact fun hret => absurd hret hno
  request h _ hr := ⟨h.step hr.kept.log hr.reporting, hr.kept.log⟩
  freed _ _ _ _ _ _ := trivial
  missing _ _ _ _ _ _ _ _ := trivial
  other _ _ := trivial

theorem orderedClaim_notifies : orderedClaim.Notifies := by
  refine .of_subs (fun {w w'} h hs => ?_) fun _ _ _ => trivial
  have hlog : w.log <+: w'.log := by cases hs; exact List.prefix_rfl
  exact ⟨h.step hlog hs.reporting, hlog⟩

/-! ## The result -/

/-- A tick that returns has run exactly the reports that were there when its report phase began,
and has left in the queue those that were pushed meanwhile. -/
def RanPresent (w w' : World) : Prop :=
  ∃ before, LastPhase w'.log before ∧ w.log <+: before ∧ ranOps w'.log = pushedOps before ∧
    pushedOps w'.log = pushedOps before ++ w'.ble.reportQueue

theorem ranPresent {w w' : World} (h : Ordered w) (hts : w.ticks = [])
    (he : (system unnested).Exec ((Move.api .processAsync).prog w) (some ()) w')
    (hcall : ∀ op ∈ pushedOps w'.log, ¬ op.Throws) : RanPresent w w' := by
  let Q (_ : Unit) (w' : World) : Prop :=
    Ordered w' ∧ w'.ticks = [] ∧ ∃ before, LastPhase w'.log before ∧ w.log <+: before
  have hfits := Claim.fits orderedClaim_notifies trivial
  have hpost : Ends Q (fun _ => True) (some ()) w' := he.post hfits (Claim.tick_safe h hts
    fun w1 r w2 w3 hT hat => by
      refine ⟨hat.inv, hat.rel.kept.ticks.trans hts, ?_⟩
      have hpolled : w.log <+: w1.log :=
        ((List.prefix_append ..).trans (List.prefix_append ..)).trans hT.polled.rel.kept.log
      have hran : (w1.takeReports r).log <+: w2.log := hT.ran
      have hended : w2.log <+: w3.log := hT.ended
      have hrest : (w1.takeReports r).log <+: (w3.note (.exit (.api .processAsync) .void)).log :=
        (hran.trans hended).trans (List.prefix_append ..)
      -- the tick itself takes the reports after `w1`
      have htaken : takes w1.log < takes (w3.note (.exit (.api .processAsync) .void)).log := by
        have hle := takes_mono hrest
        rw [World.takeReports_log, takes_append] at hle
        exact Nat.lt_of_succ_le hle
      obtain ⟨before, hb, hfrom⟩ :=
        LastPhase.exists_of_grows ((List.prefix_append ..).trans hrest) htaken
      exact ⟨before, hb, hpolled.trans hfrom⟩)
  obtain ⟨hord, hticks, before, hb, hfrom⟩ : Q () w' := hpost
  have hret := hord.conserved.returned hcall
  have hpresent := hord.present hret before hb
  have horder := hord.inOrder hret
  rw [hticks, List.flatten_nil, List.append_nil] at hpresent
  rw [hticks, List.flatten_nil, List.nil_append, ← hpresent] at horder
  exact ⟨before, hb, hfrom, hpresent.symm, horder⟩

/-- **The report queue conserves callbacks.** What was pushed has run once or waits. Where no
callback ticks, reports run in the order in which they were pushed, and what has run, with what the
tick still holds, is what was there when its report phase began: the phase ends with that many
reports, and what was pushed since is in the queue. -/
theorem reports_conserved {c : Config World Call Resp Fault} (h : Reach .any .init c)
    (hf : c.fault = none) (hcall : ∀ op ∈ pushedOps c.s.log, ¬ op.Throws) :
    pushedOps c.s.log ~ ranOps c.s.log ++ c.s.reports ∧
    (Reach unnested .init c →
      pushedOps c.s.log = ranOps c.s.log ++ (c.s.ticks.flatten ++ c.s.ble.reportQueue) ∧
      (∀ before, LastPhase c.s.log before →
        pushedOps before = ranOps c.s.log ++ c.s.ticks.flatten ∧
        pushedOps c.s.log = pushedOps before ++ c.s.ble.reportQueue) ∧
      ∀ w', c.s.ticks = [] →
        (system unnested).Exec ((Move.api .processAsync).prog c.s) (some ()) w' →
        (∀ op ∈ pushedOps w'.log, ¬ op.Throws) → RanPresent c.s w') := by
  have h0 : World.init.Conserved := ⟨[], by simp [World.init, World.reports], fun _ => rfl⟩
  have hinv : c.s.Conserved := Claim.reach (conservedClaim_notifies .any) trivial h0 h hf
  have hret := hinv.returned hcall
  refine ⟨?_, fun hun => ?_⟩
  · obtain ⟨dropped, hperm, hdrop⟩ := hinv
    rwa [hdrop hret, List.append_nil] at hperm
  · have hord : Ordered c.s := Claim.reach orderedClaim_notifies trivial .init hun hf
    have horder := hord.inOrder hret
    refine ⟨horder, fun before hb => ?_, fun w' hts he hcall' => ranPresent hord hts he hcall'⟩
    have hpresent := hord.present hret before hb
    exact ⟨hpresent, by rw [horder, hpresent, List.append_assoc]⟩

end

instance (w : World) (m : Move) : Decidable (unnested.enter w m) :=
  match m with
  | .api op =>
    match op with
    | .processAsync | .shutdown => inferInstanceAs (Decidable (w.ticks = []))
    | .adapterOpen .. | .adapterClose | .setAutoDiscoverOnConnect .. | .setConnectionParameters ..
    | .scan .. | .stopScan .. | .connect .. | .disconnect .. | .read .. | .write ..
    | .startNotification .. | .stopNotification .. | .stopAllNotifications .. | .isConnected ..
    | .isEnabled .. | .enable .. | .deviceName .. => isTrue trivial
  | .event .. => isTrue trivial

instance (w : World) (e : Call) (r : Resp) : Decidable (unnested.ans w e r) := isTrue trivial

/-- A callback that asks for another report: the tick runs the first and leaves the second. -/
theorem reports_conserved_again :
    ∃ (c : Config World Call Resp Fault) (before : List Obs), @Reach .sample unnested .init c ∧
      LastPhase c.s.log before ∧ ranOps c.s.log = [.callback (some (.user 1))] ∧
      c.s.reports = [.callback (some (.user 2))] ∧
      pushedOps c.s.log ~ ranOps c.s.log ++ c.s.reports ∧
      pushedOps before = ranOps c.s.log ++ c.s.ticks.flatten ∧
      pushedOps c.s.log = pushedOps before ++ c.s.ble.reportQueue := by
  let _ := Gattlib.sample
  obtain ⟨c, hc, hP⟩ := (system unnested).reach_of_run_any
    [.enter (.api (.isEnabled (some (.user 1)) none)), .answer (.adapter 3),
      .enter (.api .processAsync), .answer .void,
      .enter (.api (.isEnabled (some (.user 2)) none)), .answer .void]
    (c := ⟨.init, [], none⟩) (P := fun c => c.fault.isNone &&
      (pushedOps c.s.log == [.callback (some (.user 1)), .callback (some (.user 2))] &&
      (ranOps c.s.log == [.callback (some (.user 1))] && (takes c.s.log != 0 &&
      c.s.reports == [.callback (some (.user 2))]))))
    (by decide)
  simp only [Bool.and_eq_true, Option.isNone_iff_eq_none, beq_iff_eq, bne_iff_ne] at hP
  obtain ⟨hf, hpushed, hran, htakes, hrep⟩ := hP
  have hany : Reach .any .init c :=
    .mono (fun _ => ⟨fun _ _ => trivial, fun _ _ _ => trivial⟩) hc
  have hcall : ∀ op ∈ pushedOps c.s.log, ¬ op.Throws := by
    rw [hpushed]
    simp [QueuedOp.Throws]
  obtain ⟨before, hb⟩ := LastPhase.exists_of_takes htakes
  obtain ⟨hconserved, hordered⟩ := reports_conserved hany hf hcall
  exact ⟨c, before, hc, hb, hran, hrep, hconserved, (hordered hc).2.1 before hb⟩

end Gattlibpp
