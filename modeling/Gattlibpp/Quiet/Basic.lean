import Gattlibpp.Act.Requests

/-!
# Undisturbed operations

An operation whose calls come back, with any answers, and into which no move enters. What it
does to the central is then a function of the answers, and is computed with `quiet`, or with
`quietly I` where every call is to be made in a state with `I`.
-/

namespace Gattlibpp

open Open

/-- Calls come back with any answer, and no move is made. -/
def Policy.quiet : Policy where
  enter _ _ := False
  ans _ _ _ := True

/-- Calls are made in a state with `I`, and an open call changes nothing. -/
def quietly (I : World → Prop) : Rules World Call Resp Fault where
  inv := I
  rely w w' := w' = w
  ans _ _ _ := True
  crash _ _ := True

abbrev quiet : Rules World Call Resp Fault := quietly fun _ => True

/-- The call `e` has been made and has come back with `r`. -/
def World.asked (w : World) (e : Call) (r : Resp) : World := (w.push e).back e r

namespace World

variable (w : World) (e : Call) (r : Resp)

@[simp] theorem asked_ble : (w.asked e r).ble = w.ble := rfl
@[simp] theorem asked_held : (w.asked e r).held = w.held := rfl
@[simp] theorem asked_calls : (w.asked e r).calls = w.calls := rfl
@[simp] theorem asked_ticks : (w.asked e r).ticks = w.ticks := rfl
@[simp] theorem asked_serial : (w.asked e r).serial = w.serial := rfl
@[simp] theorem asked_log : (w.asked e r).log = w.log ++ [.call e, .ret e r] :=
  List.append_assoc ..

end World

section
variable {α : Type} {Q : α → World → Prop} {X : World → Prop} {w : World}

theorem callOut_quietly {I : World → Prop} {e : Call} {Q : Resp → World → Prop} :
    (callOut e w).Safe (quietly I) Q X ↔ I (w.push e) ∧ ∀ r, Q r (w.asked e r) := by
  constructor
  · exact fun h => ⟨h.1, fun r => h.2 r _ rfl h.1 trivial⟩
  · rintro ⟨hi, hk⟩
    refine ⟨hi, ?_⟩
    rintro r w' rfl - -
    exact hk r

@[simp] theorem callOut_quiet {e : Call} {Q : Resp → World → Prop} :
    (callOut e w).Safe quiet Q X ↔ ∀ r, Q r (w.asked e r) := by
  simp [callOut_quietly]

@[simp] theorem user_quiet {f : Nat} {arg : Arg} {role : Role} {Q : Unit → World → Prop} :
    (Callback.invokeIfSet (some (.user f)) arg role w).Safe quiet Q X ↔
      ∀ r, Q () (w.asked (.user f arg role) r) := by
  simp only [Callback.invokeIfSet, Fn.invoke, Prog.bind_apply, safe_bind, callOut_quiet]
  rfl

theorem record_quiet {I : World → Prop} {dets : UUID} {Q : Device.Details → World → Prop}
    (h : ∀ d, w.ble.devices[dets]? = some d → Q d w) :
    (record dets w).Safe (quietly I) Q X := by
  simp only [record, ble_apply, Prog.bind_apply, Out.bind_done]
  cases hd : w.ble.devices[dets]? with
  | none => exact trivial
  | some d => exact h d hd

/-- A guarded block, wherever it can be entered. -/
theorem locked_quiet {I : World → Prop} {dets : UUID} {p : Ble α}
    (h : dets ∉ w.held → (p { w with held := dets :: w.held }).Safe (quietly I)
      (fun a w' => Q a { w' with held := w'.held.tail })
      (fun w' => X { w' with held := w'.held.tail })) :
    (locked dets p w).Safe (quietly I) Q X :=
  locked_rule (fun _ => trivial) h

end

section
variable [Gattlib]

/-- The operation runs undisturbed from `w` to `w'` and returns `a`, `none` for an exception. -/
def Op.Returns (op : Op) (w : World) (a : Option Ret) (w' : World) : Prop :=
  (system .quiet).Exec (op.run w) a w'

theorem quiet_fits : quiet.Fits (system .quiet) where
  ans _ _ _ _ := trivial
  refl _ := rfl
  trans _ _ _ h h' := h'.trans h
  prog _ _ _ h := h.elim

/-- What holds of every undisturbed execution. -/
theorem safe_of_exec {α : Type} {o : Out World Call Resp Fault α} {Q : α → World → Prop}
    {X : World → Prop} (h : ∀ a w', (system .quiet).Exec o a w' → Ends Q X a w') :
    o.Safe quiet Q X := by
  induction o with
  | done w a => exact h _ _ (.done w a)
  | raise w => exact h _ _ (.raise w)
  | halt => exact trivial
  | call w e k ih =>
    refine ⟨trivial, ?_⟩
    rintro r w' rfl - -
    exact ih r w' fun a w'' hx => h a w'' (.answer r trivial hx)

theorem Op.Returns.post {op : Op} {w w' : World} {a : Option Ret} {Q : Ret → World → Prop}
    {X : World → Prop} (h : op.Returns w a w') (hs : (op.run w).Safe quiet Q X) : Ends Q X a w' :=
  System.Exec.post quiet_fits h hs

/-- The user calls the operation at `w`, undisturbed: it returns `r` and leaves `w'`. -/
def Op.Called (op : Op) (w : World) (r : Ret) (w' : World) : Prop :=
  ∃ w1, op.Returns (w.note (.enter (.api op))) (some r) w1 ∧ w' = w1.note (.exit (.api op) r)

/-- A call can be read off what it leaves. -/
theorem Op.Called.same {op op' : Op} {w0 w w' : World} {r r' : Ret} (h : op.Called w r w')
    (h' : op'.Called w0 r' w') : op = op' := by
  obtain ⟨w1, -, rfl⟩ := h
  obtain ⟨w2, -, heq⟩ := h'
  have hlast := congrArg (fun v : World => v.log.getLast?) heq
  simp only [World.note_log, List.getLast?_concat, Option.some.injEq, Obs.exit.injEq,
    Move.api.injEq] at hlast
  exact hlast.1

/-- An undisturbed call is a run that comes back to the same open calls. -/
theorem Op.Called.reach {op : Op} {w w' : World} {r : Ret} (h : op.Called w r w')
    (st : List (Frame World Call Resp Fault)) : (system .any).Reach ⟨w, st, none⟩ ⟨w', st, none⟩ := by
  obtain ⟨w1, hx, rfl⟩ := h
  have hany : (system .any).Exec (op.run (w.note (.enter (.api op)))) (some r) w1 :=
    System.Exec.mono hx rfl (fun _ _ _ => trivial) fun _ _ _ _ => trivial
  have hmove : (system .any).Exec ((Move.api op).prog w) (some ()) (w1.note (.exit (.api op) r)) :=
    (System.Exec.bind hany (.done _ ())).trap
  have henter : (system .any).Step ⟨w, st, none⟩ (land ((Move.api op).prog w) st) :=
    System.Step.enter (S := system .any) (Move.api op) trivial
  exact .head henter (hmove.reach st)

/-- The call, where the operation makes no call out: what it returns and leaves. -/
def Op.callNow (op : Op) (w : World) : Option (Ret × World) :=
  match op.run (w.note (.enter (.api op))) with
  | .done w1 r => some (r, w1.note (.exit (.api op) r))
  | _ => none

theorem Op.called_of_now {op : Op} {w w' : World} {r : Ret} (h : op.callNow w = some (r, w')) :
    op.Called w r w' := by
  unfold callNow at h
  cases ho : op.run (w.note (.enter (.api op))) with
  | done w1 r1 =>
    rw [ho] at h
    cases h
    exact ⟨w1, by rw [Op.Returns, ho]; exact .done w1 r, rfl⟩
  | call | raise | halt =>
    rw [ho] at h
    cases h

/-- The call, where gattlib and the user answer in turn. -/
def Op.callWith (op : Op) (w : World) (rs : List Resp) : Option (Ret × World) :=
  ((op.run (w.note (.enter (.api op)))).answered rs).map fun p =>
    (p.1, p.2.note (.exit (.api op) p.1))

theorem Op.called_of_with {op : Op} {w w' : World} {r : Ret} {rs : List Resp}
    (h : op.callWith w rs = some (r, w')) : op.Called w r w' := by
  obtain ⟨⟨r1, w1⟩, ha, heq⟩ := Option.map_eq_some_iff.mp h
  cases heq
  exact ⟨w1, System.exec_of_answered (fun _ _ _ => trivial) ha, rfl⟩

end

end Gattlibpp
