import Mathlib.Logic.Function.Basic
import Gattlibpp.Discovery.Listed
import Gattlibpp.Replay.Machine

/-!
# A central that only follows its log

What the library is for, without the way it works: jobs that are done one at a time and in order,
one device that it is connected to, and for each device what gattlib has said of it last. `Central`
knows no callbacks, references, locks or open calls. Its moves are the entries of the log, each
made at once.
-/

namespace Gattlibpp

open Replay

/-- An action, as far as it concerns the others. -/
structure Job where
  id : ActionId
  name : String
  callbacks : CallbacksContainer
  trigger : Trigger
  state : AsyncAction.State

def AsyncAction.Details.job (a : AsyncAction.Details) : Job :=
  ⟨a.id, a.name, a.callbacks, a.trigger, a.state⟩

/-- A device, as gattlib has described it. -/
structure Peer where
  connection : Option Conn := none
  services : List GlPrimaryService := []
  characteristics : List GlCharacteristic := []
  discovered : Bool := false
  /-- How often its characteristics were discovered. -/
  discoveries : Nat := 0

structure Central where
  /-- The adapter, while it is open. -/
  adapter : Option (Option Adapter) := none
  scanning : Bool := false
  autoDiscover : Bool := true
  /-- The device that connections are made to. -/
  target : UUID := ""
  peer : UUID → Option Peer := fun _ => none
  name : UUID → Option String := fun _ => none
  jobs : List Job := []
  reports : List QueuedOp := []

namespace Central

variable (s : Central)

/-! ## What it does -/

def setPeer (dev : UUID) (f : Peer → Peer) : Central :=
  { s with peer := Function.update s.peer dev ((s.peer dev).map f) }

def setFront (f : Job → Job) : Central := { s with jobs := s.jobs.modifyHead f }

def complete : Central := s.setFront fun j => { j with state := .completed }

/-- What is done at once for a job that is accepted. -/
def prepare : Trigger → Central
  | .scan _ => { s with scanning := true }
  | .connect dev _ =>
    { s with target := dev, peer := Function.update s.peer dev (some ((s.peer dev).getD {})) }
  | _ => s

def accept (j : Job) : Central := { s.prepare j.trigger with jobs := s.jobs ++ [j] }

/-- The front job starts. That of a scan that does not have to be stopped is done with it. -/
def begin : Central :=
  s.setFront fun j =>
    { j with state := if j.trigger = .stopScanDone then .completed else .triggered }

/-- gattlib calls back. A connection is that of the target, whatever it was asked for. -/
def hear : Event → Central
  | .connected c =>
    let s' := s.setPeer s.target fun p => { p with connection := c }
    if c.isSome ∧ s.autoDiscover = true then s' else s'.complete
  | .disconnected =>
    { s.setPeer s.target fun p => { p with connection := none } with target := "" }.complete
  | .deviceDiscovered addr name =>
    { s with name := Function.update s.name (addr.getD "") (some (name.getD "")) }
  | .scanComplete | .scanDisableDone => { s with scanning := false }.complete
  | .readChar (some (_ :: _)) | .opDone | .opFailed => s.complete
  | .readChar none | .readChar (some []) | .notification .. => s

/-- A call comes back. -/
def returns (r : Resp) : Call → Central
  | .asyncProcessAll => { s with reports := [] }
  | .adapterOpen _ => if r.rc = 0 then { s with adapter := some r.adapter? } else s
  | .adapterClose _ => { s with adapter := none }
  | .discoverPrimary dev _ =>
    if r.rc = 0 then s.setPeer dev fun p => { p with services := r.serviceList } else s
  | .discoverChar dev _ =>
    if r.rc = 0 then
      s.setPeer dev fun p =>
        { p with
          characteristics := r.characteristicList
          discovered := true
          discoveries := p.discoveries + 1 }
    else s.setPeer dev fun p => { p with discovered := true }
  | .scanEnable .. => if r.rc = 0 then s else { s with scanning := false }.complete
  | .scanDisable .. | .connect .. | .disconnect .. | .readChar .. | .writeChar .. =>
    if r.rc = 0 then s else s.complete
  | _ => s

def next : Obs → Central
  | .queued a => s.accept a.job
  | .triggered _ => s.begin
  | .cancelled _ => s.complete
  | .popped _ => { s with jobs := s.jobs.tail }
  | .enter (.event _ ev) => s.hear ev
  | .ret e r => s.returns r e
  | .pushed op => { s with reports := s.reports ++ [op] }
  | .ran .reportConnected => s.complete
  | _ => s

/-! ## What it allows -/

def connectionOf (dev : UUID) : Option Conn := (s.peer dev).bind (·.connection)

section
variable [Gattlib]

/-- What a reference refers to: the first characteristic with its name in the latest discovery. -/
def refers (dev : UUID) (r : Device.CharRef) : Option GlCharacteristic :=
  (s.peer dev).bind fun p =>
    if r.epoch = p.discoveries then p.characteristics.find? (·.key = some r.key) else none

/-- When a job is accepted. -/
def admits (j : Job) : Prop :=
  j.state = .pending ∧ s.adapter.isSome ∧
  match j.trigger with
  | .autodisconn _ => False
  | .scan _ | .stopScanDone => s.scanning = false
  | .stopScan => s.scanning = true
  | .connect dev _ => s.connectionOf dev = none
  | .disconnect dev => (s.connectionOf dev).isSome
  | .read dev r | .write dev r _ => (s.connectionOf dev).isSome ∧ (s.refers dev r).isSome

/-- The call that a job makes. -/
def calls (j : Job) : Option Call :=
  match j.trigger with
  | .autodisconn _ | .stopScanDone => none
  | .scan runSeconds => some (.scanEnable j.id s.adapter.isSome runSeconds)
  | .stopScan => some (.scanDisable j.id s.adapter.isSome)
  | .connect dev p => some (.connect j.id dev p)
  | .disconnect dev => some (.disconnect j.id (s.connectionOf dev))
  | .read dev r => (s.refers dev r).map fun c => .readChar j.id (s.connectionOf dev) c.uuid
  | .write dev r buf =>
    (s.refers dev r).map fun c => .writeChar j.id (s.connectionOf dev) c.uuid buf

/-- The job in front is `t` and is in the given state. -/
def inFront (t : ActionId) (state : AsyncAction.State) : Prop :=
  ∃ j, s.jobs.head? = some j ∧ j.id = t ∧ j.state = state

def allows : Obs → Prop
  | .queued a => s.admits a.job
  | .triggered t => s.inFront t .pending
  | .cancelled t => s.inFront t .triggered ∧ ∃ j ∈ s.jobs.head?, j.name = "scan"
  | .popped a => s.inFront a.id .completed
  | .enter (.event _ (.connected _)) => (s.peer s.target).isSome
  | .call (.adapterOpen _) => s.adapter = none
  | .call (.adapterClose a) => s.adapter = some a
  | .call (.discoverPrimary dev c) | .call (.discoverChar dev c) =>
    ∃ p ∈ s.peer dev, c = p.connection
  | .ret (.discoverPrimary dev _) _ | .ret (.discoverChar dev _) _ => (s.peer dev).isSome
  | .ret e r => ∀ t ∈ e.action, r.rc ≠ 0 → ∃ j ∈ s.jobs.head?, j.id = t
  | .call e => ∀ t ∈ e.action, s.inFront t .triggered ∧ ∃ j ∈ s.jobs.head?, s.calls j = some e
  | _ => True

end

/-- Whether characteristics are discovered on connect is set from outside. -/
def Sets (s' : Central) : Prop := ∃ b, s' = { s with autoDiscover := b }

/-- The central as a machine that follows the log. -/
def machine [Gattlib] : Machine Central Obs where
  init := {}
  allows s := s.allows
  next := next
  silent := Sets

end Central

end Gattlibpp
