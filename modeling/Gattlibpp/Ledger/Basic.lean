import Gattlibpp.Discovery.Listed
import Gattlibpp.Notify.Handlers
import Gattlibpp.Queue.Later
import Gattlibpp.Report.Flow

/-!
# What calls out rest on

The library makes nothing up: a function it calls was passed to it to be called so, and what
it passes on was asked for by the user or comes from gattlib. `Call.Due` says so of a call
and the log before it. Each predicate here only asks for entries of the log, so it stays true
as the log grows.
-/

namespace Gattlibpp

open Open
open Device (normalizeCharacteristicUUID)

/-! ## Where things come from -/

section
variable (log : List Obs)

/-- The user has passed the function `fn` to be called as `role`. -/
def Given (role : Role) (fn : Nat) : Prop :=
  ∃ op, .enter (.api op) ∈ log ∧ some (.user fn) ∈ op.functionsFor role

/-- gattlib has reported the connection. -/
def Connected (c : Option Conn) : Prop :=
  ∀ x, c = some x → ∃ of, .enter (.event of (.connected (some x))) ∈ log

/-- gattlib has opened the adapter. -/
def Lent (a : Option Adapter) : Prop :=
  ∀ x, a = some x → ∃ name r, .ret (.adapterOpen name) r ∈ log ∧ r.adapter? = some x

/-- The parameters of a connection are the user's, or as constructed. -/
def Chosen (p : ConnectionParams) : Prop :=
  p = {} ∨ .enter (.api (.setConnectionParameters p)) ∈ log

/-- A discovery has returned the characteristic that stands under `k` in the record of `dev`. -/
def Found [Gattlib] (dev k : UUID) (g : GlUuid) : Prop :=
  ∃ c r x, .ret (.discoverChar dev c) r ∈ log ∧ x ∈ r.characteristicList ∧ x.uuid = g ∧
    x.key = some k

/-- The user has asked for the notifications of the characteristic `k` of `dev` with `fn`. -/
def Handed (dev k : UUID) (fn : Nat) : Prop :=
  ∃ u fail, .enter (.api (.startNotification dev u (some (.user fn)) fail)) ∈ log ∧
    normalizeCharacteristicUUID u = k

/-- The operation asks for the action. -/
def Op.Asks (op : Op) (a : AsyncAction.Details) : Prop :=
  match op with
  | .scan runSeconds succ _ fail =>
    a.callbacks = { success := succ, failure := fail } ∧ a.trigger = .scan runSeconds
  | .stopScan succ fail =>
    a.callbacks = { success := succ, failure := fail } ∧
      (a.trigger = .stopScan ∨ a.trigger = .stopScanDone)
  | .connect dev p succ fail =>
    a.callbacks = { success := succ, failure := fail } ∧
      ∃ q, a.trigger = .connect dev q ∧ (p = some q ∨ p = none ∧ Chosen log q)
  | .disconnect dev succ fail =>
    a.callbacks = { success := succ, failure := fail } ∧ a.trigger = .disconnect dev
  | .read dev u inData fail =>
    a.callbacks = { datareceived := inData, failure := fail } ∧
      ∃ epoch, a.trigger = .read dev ⟨normalizeCharacteristicUUID u, epoch⟩
  | .write dev u value succ fail =>
    a.callbacks = { success := succ, failure := fail } ∧
      ∃ epoch, a.trigger = .write dev ⟨normalizeCharacteristicUUID u, epoch⟩ value
  | _ => False

/-- A request of the user asks for the action. -/
def Requested (a : AsyncAction.Details) : Prop := ∃ op, .enter (.api op) ∈ log ∧ op.Asks log a

/-- The disconnect that `shutdown` asks for itself. -/
def Own (a : AsyncAction.Details) : Prop :=
  .enter (.api .shutdown) ∈ log ∧ ∃ dev frame, a.trigger = .disconnect dev ∧
    a.callbacks = { success := some (.doneCb frame), failure := some (.doneCb frame) }

/-- The action was queued as it was asked for. -/
def Wanted (a : AsyncAction.Details) : Prop := .queued a ∈ log ∧ (Requested log a ∨ Own log a)

/-- The action `t` has the trigger `tr`. -/
def HasTrigger (t : ActionId) (tr : Trigger) : Prop :=
  ∃ a, Wanted log a ∧ a.id = t ∧ a.trigger = tr

/-- The function is that of the action `t` which a request was given. -/
def Belongs (t : ActionId) (fn : Nat) (cb : CallbacksContainer → Callback) : Prop :=
  ∃ a, .queued a ∈ log ∧ Requested log a ∧ a.id = t ∧ cb a.callbacks = some (.user fn)

/-- The user's function `fn` is called with `arg` as `role` for good reason. -/
def Told [Gattlib] (fn : Nat) (arg : Arg) : Role → Prop
  | .success t => arg = .nothing ∧ Belongs log t fn (·.success)
  | .failure t => arg = .nothing ∧ Belongs log t fn (·.failure)
  | .data t => Belongs log t fn (·.datareceived) ∧
      ∃ of buf, arg = .data buf ∧ .enter (.event of (.readChar (some buf))) ∈ log
  | .refused => arg = .nothing ∧ Given log .refused fn
  | .queued => arg = .nothing ∧ Given log .queued fn
  | .discovered => Given log .discovered fn ∧
      ∃ of addr name, arg = .device (addr.getD "") (name.getD "") ∧
        .enter (.event of (.deviceDiscovered addr name)) ∈ log
  | .notified => ∃ of uuid buf u dev, arg = .data buf ∧
      .enter (.event of (.notification uuid (some buf))) ∈ log ∧
      Gattlib.uuidToString uuid = some u ∧ Handed log dev (normalizeCharacteristicUUID u) fn

/-- A call of gattlib passes what it was asked to pass, and handles gattlib has given. -/
def Call.Supplied [Gattlib] : Call → Prop
  | .adapterClose a | .adapterPowered a => Lent log a
  | .scanEnable t _ seconds => HasTrigger log t (.scan seconds)
  | .scanDisable t _ => HasTrigger log t .stopScan
  | .connect t dev p => HasTrigger log t (.connect dev p)
  | .disconnect t c => Connected log c ∧ ∃ dev, HasTrigger log t (.disconnect dev)
  | .readChar t c g => Connected log c ∧
      ∃ dev r, HasTrigger log t (.read dev r) ∧ Found log dev r.key g
  | .writeChar t c g buf => Connected log c ∧
      ∃ dev r, HasTrigger log t (.write dev r buf) ∧ Found log dev r.key g
  | .discoverPrimary _ c | .discoverChar _ c | .registerNotification c _
  | .registerIndication c _ | .notificationStart c _ | .notificationStop c _ => Connected log c
  | .user .. | .asyncProcessAll | .adapterOpen _ => True

/-- The call rests on what the log says. -/
def Call.Due [Gattlib] (e : Call) : Prop :=
  match e with
  | .user fn arg role => Told log fn arg role
  | e => e.Supplied log

/-- The report, when it is run, calls for good reason. -/
def QueuedOp.Due [Gattlib] : QueuedOp → Prop
  | .callback cb => ∀ fn, cb = some (.user fn) → Told log fn .nothing .queued
  | .readData cb buf t => ∀ fn, cb = some (.user fn) → Told log fn (.data buf) (.data t)
  | .notification cb buf => ∀ fn, cb = some (.user fn) → Told log fn (.data buf) .notified
  | _ => True

/-- What a device record holds of the user's and of gattlib's. -/
structure Device.Details.Sourced [Gattlib] (dev : UUID) (d : Device.Details) : Prop where
  connection : Connected log d.connection
  characteristics : ∀ (k : UUID) (g : GlUuid),
    (d.characteristics[k]?).map (·.glUuid) = some g → Found log dev k g

end

/-! ## A longer log -/

section
variable {log log' : List Obs} (h : log <+: log')
include h

theorem Given.mono {role : Role} {fn : Nat} (hg : Given log role fn) : Given log' role fn := by
  obtain ⟨op, hop, hfn⟩ := hg
  exact ⟨op, h.subset hop, hfn⟩

theorem Connected.mono {c : Option Conn} (hc : Connected log c) : Connected log' c := fun x hx => by
  obtain ⟨of, hof⟩ := hc x hx
  exact ⟨of, h.subset hof⟩

theorem Lent.mono {a : Option Adapter} (ha : Lent log a) : Lent log' a := fun x hx => by
  obtain ⟨name, r, hr, hx⟩ := ha x hx
  exact ⟨name, r, h.subset hr, hx⟩

theorem Chosen.mono {p : ConnectionParams} (hp : Chosen log p) : Chosen log' p :=
  hp.imp_right fun hp => h.subset hp

theorem Found.mono [Gattlib] {dev k : UUID} {g : GlUuid} (hd : Found log dev k g) :
    Found log' dev k g := by
  obtain ⟨c, r, x, hr, hx⟩ := hd
  exact ⟨c, r, x, h.subset hr, hx⟩

theorem Handed.mono {dev k : UUID} {fn : Nat} (hh : Handed log dev k fn) :
    Handed log' dev k fn := by
  obtain ⟨u, fail, hst, hu⟩ := hh
  exact ⟨u, fail, h.subset hst, hu⟩

theorem Op.Asks.mono {op : Op} {a : AsyncAction.Details} (ha : op.Asks log a) : op.Asks log' a := by
  cases op with
  | connect dev p =>
    obtain ⟨hcb, q, hq, hp⟩ := ha
    exact ⟨hcb, q, hq, hp.imp_right fun hp => ⟨hp.1, hp.2.mono h⟩⟩
  | _ => exact ha

theorem Requested.mono {a : AsyncAction.Details} (ha : Requested log a) : Requested log' a := by
  obtain ⟨op, hop, hasks⟩ := ha
  exact ⟨op, h.subset hop, hasks.mono h⟩

theorem Wanted.mono {a : AsyncAction.Details} (ha : Wanted log a) : Wanted log' a :=
  ⟨h.subset ha.1, ha.2.imp (Requested.mono h) fun ho => ⟨h.subset ho.1, ho.2⟩⟩

theorem Belongs.mono {t : ActionId} {fn : Nat} {cb : CallbacksContainer → Callback}
    (hb : Belongs log t fn cb) : Belongs log' t fn cb := by
  obtain ⟨a, hq, hr, ha⟩ := hb
  exact ⟨a, h.subset hq, hr.mono h, ha⟩

theorem Told.mono [Gattlib] {fn : Nat} {arg : Arg} {role : Role} (ht : Told log fn arg role) :
    Told log' fn arg role := by
  cases role with
  | success | failure => exact ⟨ht.1, ht.2.mono h⟩
  | data =>
    obtain ⟨hb, of, buf, harg, hof⟩ := ht
    exact ⟨hb.mono h, of, buf, harg, h.subset hof⟩
  | refused | queued => exact ⟨ht.1, ht.2.mono h⟩
  | discovered =>
    obtain ⟨hg, of, addr, name, harg, hof⟩ := ht
    exact ⟨hg.mono h, of, addr, name, harg, h.subset hof⟩
  | notified =>
    obtain ⟨of, uuid, buf, u, dev, harg, hof, hu, hh⟩ := ht
    exact ⟨of, uuid, buf, u, dev, harg, h.subset hof, hu, hh.mono h⟩

theorem QueuedOp.Due.mono [Gattlib] {op : QueuedOp} (hop : op.Due log) : op.Due log' := by
  cases op with
  | callback | readData | notification => exact fun fn hfn => (hop fn hfn).mono h
  | _ => trivial

theorem Device.Details.Sourced.mono [Gattlib] {dev : UUID} {d : Device.Details}
    (hd : d.Sourced log dev) : d.Sourced log' dev :=
  ⟨hd.connection.mono h, fun k g hk => (hd.characteristics k g hk).mono h⟩

end

/-- The function of an action that was asked for is the user's only if a request has given it. -/
theorem Wanted.belongs {log : List Obs} {a : AsyncAction.Details} (h : Wanted log a) (how : Outcome)
    {fn : Nat} (hfn : how.callback a.callbacks = some (.user fn)) :
    Belongs log a.id fn how.callback := by
  refine ⟨a, h.1, h.2.resolve_right fun ho => ?_, rfl, hfn⟩
  obtain ⟨-, dev, frame, -, hcb⟩ := ho
  rw [hcb] at hfn
  cases how <;> cases hfn

end Gattlibpp
