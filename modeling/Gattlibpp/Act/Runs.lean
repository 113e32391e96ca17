import Gattlibpp.Act.Traced
import Gattlibpp.Act.Wrote
import Gattlibpp.Queue.Contract

/-!
# Between two states of a run

What every act keeps holds between any two states of a run, also with calls open. A state
of a run is known by its log, so the run from it on is the run of an environment that comes
back at this log only in this state.
-/

namespace Gattlibpp

open Open

section
variable [Gattlib] {P P' : Policy} {w w' : World}

/-! ## A larger environment -/

omit [Gattlib] in
theorem Policy.OpensQuietly.mono (h : P'.OpensQuietly) (hP : P.Within P') : P.OpensQuietly :=
  fun w m name cs hc hm => h w m name cs hc ((hP w).enter m hm)

omit [Gattlib] in
theorem Policy.Reports.mono {cb : Callback} (hP : P.Within P') (h : P.Reports w cb) :
    P'.Reports w cb := by
  obtain ⟨w0, op, hm, hl, hop, hq, hpow⟩ := h
  refine ⟨w0, op, (hP w0).enter _ hm, hl, hop,
    fun dev succ fail he ho => hq dev succ fail he (ho.mono hP), fun succ fail he ho => ?_⟩
  obtain ⟨w1, a, r, hans, hw1, hr⟩ := hpow succ fail he (ho.mono hP)
  exact ⟨w1, a, r, (hP w1).ans _ _ hans, hw1, hr⟩

omit [Gattlib] in
theorem Policy.Ticks.mono {cs : List Call} {ts : List (List QueuedOp)} (hP : P.Within P')
    (h : P.Ticks cs ts) : P'.Ticks cs ts := by
  obtain ⟨w0, hm, hts⟩ := h
  exact ⟨w0, hm.imp ((hP w0).enter _) ((hP w0).enter _), hts⟩

omit [Gattlib] in
theorem Policy.Gives.within {role : Role} {cb : Callback} (hP : P.Within P')
    (h : P.Gives w role cb) : P'.Gives w role cb := by
  obtain ⟨w0, op, hm, hl, hcb⟩ := h
  exact ⟨w0, op, (hP w0).enter _ hm, hl, hcb⟩

theorem Policy.Notified.within {u : UUID} {data : BinaryBuffer} (hP : P.Within P')
    (h : P.Notified w u data) : P'.Notified w u data := by
  obtain ⟨w0, of, uuid, hm, hl, hu⟩ := h
  exact ⟨w0, of, uuid, (hP w0).enter _ hm, hl, hu⟩

omit [Gattlib] in
theorem Call.Handled.mono {e : Call} (hP : P.Within P') (h : e.Handled P w) : e.Handled P' w := by
  cases e with
  | user fn arg role => exact ⟨h.1, h.2.within hP⟩
  | _ => exact h

/-- A stretch is one on other terms too. What frees a node belongs to a tick, or it ends a discovery
of characteristics. -/
theorem Stretch.recast {T T' : Terms} (hn : T.notifies → T'.notifies)
    (hu : ∀ w dev, T.unlocks w dev → T'.unlocks w dev) (hP : P.Within P')
    (hpop : T.frees → ∀ ts, P.Ticks w.calls ts → T'.frees)
    (hchars : T.frees → ∀ dev c cs, w.calls = .discoverChar dev c :: cs → w'.calls = cs → T'.frees)
    (ha : Stretch T P w w') : Stretch T' P' w w' := by
  have hm := (hP w).enter
  have hr := (hP w).ans
  cases ha with
  | enter m h hi => exact .enter m (hm _ h) hi
  | event of ev how h ho hc => exact .event of ev how (hm _ h) ho hc
  | eventAuto of c h ha hd => exact .eventAuto of c (hm _ h) ha hd
  | eventRead of buf a h hb hf => exact .eventRead of buf a (hm _ h) hb hf
  | eventReadNone of buf h hf => exact .eventReadNone of buf (hm _ h) hf
  | raised m h => exact .raised m h
  | freed t => exact .freed t
  | eventDiscovered of addr name h => exact .eventDiscovered of addr name (hm _ h)
  | call e he hnotes hh => exact .call e he (fun h => hn (hnotes h)) (hh.mono hP)
  | back e r cs hc h hs => exact .back e r cs hc (hr _ _ h) hs
  | refused e r cs t a hc h he hrc hw => exact .refused e r cs t a hc (hr _ _ h) he hrc hw
  | tick h =>
    refine .tick ?_
    rcases h with ⟨w0, h, rfl⟩ | ⟨w0, h, hts⟩
    · exact .inl ⟨w0, (hP w0).enter _ h, rfl⟩
    · exact .inr ⟨w0, (hP w0).enter _ h, hts⟩
  | takeReports r cs hc h ht => exact .takeReports r cs hc (hr _ _ h) (ht.mono hP)
  | ran op rest ts h ht => exact .ran op rest ts h (ht.mono hP)
  | endTick ts h ht hq => exact .endTick ts h (ht.mono hP) hq
  | trigger ts a h ht hf hp hc => exact .trigger ts a h (ht.mono hP) hf hp hc
  | pop ts a rest h ht hq hs hfr => exact .pop ts a rest h (ht.mono hP) hq hs (hpop hfr ts ht)
  | wait ts a h ht hf hs => exact .wait ts a h (ht.mono hP) hf hs
  | services dev c r cs hc h => exact .services dev c r cs hc (hr _ _ h)
  | chars dev c r cs hc h hl hfr =>
    refine .chars dev c r cs hc (hr _ _ h) hl (hchars hfr dev c cs hc ?_)
    obtain ⟨devices, heq⟩ := (w.back (.discoverChar dev c) r).charsStep_eq dev r
    rw [heq, World.report_calls]
    exact congrArg List.tail hc
  | report cb h => exact .report cb (h.mono hP)
  | notify dev u d buf h hd hhas => exact .notify dev u d buf (h.within hP) hd hhas
  | adapterOpened name r cs hc h hrc => exact .adapterOpened name r cs hc (hr _ _ h) hrc
  | adapterClosed a r cs hc h => exact .adapterClosed a r cs hc (hr _ _ h)
  | setAutoDiscover b => exact .setAutoDiscover b
  | setConnectionParameters p h =>
    obtain ⟨w0, hset, hl⟩ := h
    exact .setConnectionParameters p ⟨w0, (hP w0).enter _ hset, hl⟩
  | deviceName dev => exact .deviceName dev
  | lock dev h => exact .lock dev h
  | unlock dev ds h hul => exact .unlock dev ds h (hu w dev hul)
  | inert _ h => exact .inert _ h

theorem Stretch.mono {T T' : Terms} (hT : T.Within T') (hP : P.Within P') (ha : Stretch T P w w') :
    Stretch T' P' w w' :=
  ha.recast hT.notifies hT.unlocks hP (fun hfr _ _ => hT.frees hfr) fun hfr _ _ _ _ _ => hT.frees hfr

theorem Stretch.act {T : Terms} (ha : Stretch T P w w') : Act P w w' :=
  ha.mono T.within_any fun _ => ⟨fun _ h => h, fun _ _ h => h⟩

theorem Act.mono (hP : P.Within P') (ha : Act P w w') : Act P' w w' :=
  Stretch.mono (Terms.within_any _) hP ha

omit [Gattlib] in
theorem Subs.mono (hP : P.Within P') (h : Subs P w w') : Subs P' w w' := by
  obtain ⟨dev, f, hf, hn⟩ := h
  refine .mk dev f hf (hn.imp_right ?_)
  rintro ⟨u, cb, ⟨w0, fail, hm, hl⟩, hs⟩
  exact ⟨u, cb, ⟨w0, fail, (hP w0).enter _ hm, hl⟩, hs⟩

omit [Gattlib] in
theorem Origin.mono {inv inv' : World → Prop} {op : Op} (hP : P.Within P')
    (hi : ∀ w, inv w → inv' w) (h : Origin P inv op w) : Origin P' inv' op w := by
  cases h with
  | entered w0 h0 hm hlog ho =>
    exact .entered w0 (hi _ h0) ((hP w0).enter _ hm) hlog fun hq => ho (hq.mono hP)
  | shutdown w0 dev frame hop h0 hm hlog hto hd =>
    exact .shutdown w0 dev frame hop (hi _ h0) ((hP w0).enter _ hm) hlog hto hd
  | autodisconn w0 a dev hop h0 hf ha => exact .autodisconn w0 a dev hop (hi _ h0) hf ha

end

/-! ## From a state on -/

/-- The environment comes back at the log of `x` only in `x`. -/
def Policy.through (P : Policy) (x : World) : Policy where
  enter w m := P.enter w m ∧ (w.log = x.log → w = x)
  ans w e r := P.ans w e r ∧ (w.log = x.log → w = x)

theorem Policy.through_within (P : Policy) (x : World) : (P.through x).Within P := fun _ =>
  ⟨fun _ h => h.1, fun _ _ h => h.1⟩

/-- The world comes after `x`: control has come back since. -/
def World.After (x w : World) : Prop := ∃ o l, w.log = x.log ++ o :: l ∧ o.starts = true

theorem World.After.mono {x w w' : World} (h : x.After w) (hl : w.log <+: w'.log) : x.After w' := by
  obtain ⟨o, l, hw, ho⟩ := h
  obtain ⟨l', hl⟩ := hl
  exact ⟨o, l ++ l', by rw [← hl, hw, List.append_assoc, List.cons_append], ho⟩

/-- Where control does not come back, what comes after `x` did so before. -/
theorem World.After.of_quiet {x w w' : World} {l : List Obs} (h : x.After w')
    (hl : w'.log = w.log ++ l) (hq : ∀ o ∈ l, o.starts = false) : x.After w := by
  obtain ⟨o, l', hw', ho⟩ := h
  rw [hl] at hw'
  rcases List.append_eq_append_iff.mp hw' with ⟨t, hx, hl⟩ | ⟨t, hw, ht⟩
  · have hmem : o ∈ l := by rw [hl]; simp
    rw [hq o hmem] at ho
    cases ho
  · cases t with
    | nil =>
      have hmem : o ∈ l := by rw [show l = o :: l' from ht.symm]; simp
      rw [hq o hmem] at ho
      cases ho
    | cons y t =>
      rw [show o = y from (List.cons.inj ht).1] at ho
      exact ⟨y, t, hw, ho⟩

/-- An act comes from after `x`, or from `x` itself. -/
theorem Act.after [Gattlib] {P : Policy} {x w w' : World} (ha : Act (P.through x) w w')
    (h : x.After w') : x.After w ∨ w = x := by
  obtain ⟨l, hl⟩ := ha.wrote
  obtain ⟨o, l', hw', ho⟩ := h
  rw [hl.log] at hw'
  rcases List.append_eq_append_iff.mp hw' with ⟨t, hx, hlt⟩ | ⟨t, hw, ht⟩
  · cases t with
    | nil =>
      have hhead : o ∈ l.head? := by rw [hlt]; rfl
      have hlog : w.log = x.log := by simpa using hx.symm
      cases o with
      | enter m => exact .inr ((hl.first _ hhead ho).2 hlog)
      | ret e r => exact .inr ((hl.first _ hhead ho).2 hlog)
      | _ => cases ho
    | cons y t =>
      have hmem : o ∈ l.tail := by rw [hlt]; simp
      rw [hl.rest o hmem] at ho
      cases ho
  · cases t with
    | nil =>
      have hhead : o ∈ l.head? := by rw [show l = o :: l' from ht.symm]; rfl
      have hlog : w.log = x.log := by simpa using hw
      cases o with
      | enter m => exact .inr ((hl.first _ hhead ho).2 hlog)
      | ret e r => exact .inr ((hl.first _ hhead ho).2 hlog)
      | _ => cases ho
    | cons y t =>
      rw [show o = y from (List.cons.inj ht).1] at ho
      exact .inl ⟨y, t, hw, ho⟩

theorem Request.writes {op : Op} {w w' : World} (h : Request w op w') :
    ∃ l, w'.log = w.log ++ l ∧ ∀ o ∈ l, o.starts = false := by
  cases h with
  | stopScanCancel => exact ⟨_, List.append_assoc .., by simp⟩
  | _ => exact ⟨_, rfl, by simp⟩

section
variable [Gattlib] {P : Policy}

namespace Claim

variable (C : Claim P)

/-- The claim with what holds since `x`. -/
def since (htrans : ∀ {w w' w'' : World}, C.extra w w' → C.extra w' w'' → C.extra w w'')
    (hst : ∀ w dev u, C.started w dev u) (hc : C.catches) (hT : Terms.Within {} C.terms) (x : World) :
    Claim (P.through x) where
  inv w := C.inv w ∧ (x.After w → C.extra x w)
  crash _ _ := True
  act h ha := by
    have hs := C.act h.1 (Stretch.mono hT (P.through_within x) ha)
    refine ⟨⟨hs.1, fun hx => ?_⟩, trivial⟩
    rcases Act.after ha hx with hw | rfl
    · exact htrans (h.2 hw) hs.2
    · exact hs.2
  exit {_ m r} h _ := by
    have hs := C.exit (m := m) (r := r) h.1 fun dev u _ _ _ _ => hst _ dev u
    exact ⟨⟨hs.1, fun hx => htrans (h.2 (hx.of_quiet rfl (by simp))) hs.2⟩, trivial⟩
  drop _ h hts hran hop := by
    have hs := C.drop hc h.1 hts hran hop
    exact ⟨⟨hs.1, fun hx => htrans (h.2 (hx.of_quiet (List.append_nil _).symm (by simp))) hs.2⟩,
      trivial⟩
  request h ho hr := by
    have hs := C.request h.1 (ho.mono (P.through_within x) fun _ hw => hw.1) hr
    obtain ⟨l, hl, hq⟩ := hr.writes
    exact ⟨⟨hs.1, fun hx => htrans (h.2 (hx.of_quiet hl hq)) hs.2⟩, trivial⟩
  freed _ _ _ _ _ _ := trivial
  missing _ _ _ _ _ _ _ _ := trivial
  other _ _ := trivial

variable {C}

theorem since_notifies (htrans : ∀ {w w' w'' : World}, C.extra w w' → C.extra w' w'' → C.extra w w'')
    (hst : ∀ w dev u, C.started w dev u) (hc : C.catches) (hT : Terms.Within {} C.terms)
    (hsubs : C.Allows (Subs P)) (x : World) : (C.since htrans hst hc hT x).Notifies := by
  refine .of_subs (fun h hs => ?_) fun _ _ _ => trivial
  have hk := hsubs h.1 (hs.mono (P.through_within x))
  refine ⟨⟨hk.1, fun hx => htrans (h.2 (hx.of_quiet (l := []) ?_ (by simp))) hk.2⟩, trivial⟩
  obtain ⟨dev, f, -, -⟩ := hs
  exact (List.append_nil _).symm

end Claim

/-- A step adds to the log, first that control comes back. -/
theorem step_after {c c' : Config World Call Resp Fault} (h : (system P).Step c c')
    (hc : c.Marked logged) : c.s.After c'.s := by
  cases h with
  | @enter s _ m hm =>
    obtain ⟨l, hl⟩ := m.prog_enters s
    rw [land_s]
    exact ⟨_, l, hl.symm.trans (List.append_assoc ..), rfl⟩
  | answer r hr =>
    obtain ⟨l, hl⟩ := (hc _ List.mem_cons_self r _).1
    rw [land_s]
    exact ⟨_, l, hl.symm.trans (List.append_assoc ..), rfl⟩

omit [Gattlib] in
theorem World.After.ne {x w : World} (h : x.After w) : w.log ≠ x.log := by
  obtain ⟨o, l, hl, -⟩ := h
  rw [hl]
  simp

theorem reach_after {c c' : Config World Call Resp Fault} (h : (system P).Reach c c')
    (hc : c.Marked logged) : c' = c ∨ c.s.After c'.s := by
  induction h with
  | refl => exact .inl rfl
  | @tail d e hd hs ih =>
    have hstep := step_after hs (System.Reach.marked Move.prog_traced hd hc)
    rcases ih with rfl | hafter
    · exact .inr hstep
    · obtain ⟨o, l, hl, -⟩ := hstep
      exact .inr (hafter.mono ⟨_, hl.symm⟩)

/-- A step that does not start at the log of `x`, or starts in `x`, passes through it. -/
theorem step_through {x : World} {c c' : Config World Call Resp Fault} (h : (system P).Step c c')
    (hx : c.s.log = x.log → c.s = x) : (system (P.through x)).Step c c' := by
  cases h with
  | enter m hm => exact .enter m ⟨hm, hx⟩
  | answer r hr => exact .answer r ⟨hr, hx⟩

/-- A run through `c` is a run that comes back at its log only there. -/
theorem reach_through {c0 c c' : Config World Call Resp Fault} (h0 : c0.Marked logged)
    (h : (system P).Reach c0 c) (h' : (system P).Reach c c') :
    (system (P.through c.s)).Reach c0 c' := by
  have hc := System.Reach.marked Move.prog_traced h h0
  have hto : (system (P.through c.s)).Reach c0 c := by
    clear h'
    induction h using Relation.ReflTransGen.head_induction_on with
    | refl => exact .refl
    | @head d e hs he ih =>
      have hm := System.Step.marked Move.prog_traced hs h0
      refine .head (step_through hs fun hlog => ?_) (ih hm)
      have hd := step_after hs h0
      rcases reach_after he hm with rfl | hafter
      · exact absurd hlog.symm hd.ne
      · obtain ⟨o, l, hl, -⟩ := hafter
        exact absurd hlog.symm (hd.mono ⟨_, hl.symm⟩).ne
  have hfrom : (system (P.through c.s)).Reach c c' := by
    induction h' with
    | refl => exact .refl
    | @tail d e hd hs ih =>
      refine .tail ih (step_through hs fun hlog => ?_)
      rcases reach_after hd hc with rfl | hafter
      · rfl
      · exact absurd hlog hafter.ne
  exact hto.trans hfrom

namespace Claim

variable {C : Claim P}

/-- **Run relation.** A relation that every act keeps holds between any two states of a run. -/
theorem runs (htrans : ∀ {w w' w'' : World}, C.extra w w' → C.extra w' w'' → C.extra w w'')
    (hsubs : C.Allows (Subs P)) (hst : ∀ w dev u, C.started w dev u) (hcatch : C.catches)
    (hT : Terms.Within {} C.terms) {w0 : World} {c c' : Config World Call Resp Fault} (h0 : C.inv w0)
    (h : Reach P w0 c)
    (h' : (system P).Reach c c') (hf : c'.fault = none) : C.extra c.s c'.s := by
  have h0' : Config.Marked logged (⟨w0, [], none⟩ : Config World Call Resp Fault) := nofun
  have hthrough := reach_through h0' h h'
  have hinv : (C.since htrans hst hcatch hT c.s).inv w0 := by
    refine ⟨h0, fun hx => ?_⟩
    rcases reach_after h h0' with rfl | hafter
    · exact C.refl _
    · obtain ⟨o, l, hl, -⟩ := hafter
      exact absurd rfl (hx.mono ⟨_, hl.symm⟩).ne
  have hend := reach (since_notifies htrans hst hcatch hT hsubs c.s) trivial hinv hthrough hf
  rcases reach_after h' (System.Reach.marked Move.prog_traced h h0') with rfl | hafter
  · exact C.refl _
  · exact hend.2 hafter

end Claim

end

end Gattlibpp
