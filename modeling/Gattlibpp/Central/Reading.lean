import Gattlibpp.Central.Refines

/-!
# Reading a central off the log

The log of a run, read entry by entry, decides all that a central knows besides its jobs: which
adapter is open, what was discovered of each device, and how a device is called.
-/

namespace Gattlibpp

open Replay
open Replay.Machine (Reading last mem_of_last last_eq_none)

/-! ## What an entry says -/

namespace Obs

/-- The services of `dev` that gattlib returns. -/
def servicesOf (dev : UUID) : Obs → Option (List GlPrimaryService)
  | .ret (.discoverPrimary d _) r => if d = dev ∧ r.rc = 0 then some r.serviceList else none
  | _ => none

/-- The characteristics of `dev` that gattlib returns. -/
def characteristicsOf (dev : UUID) : Obs → Option (List GlCharacteristic)
  | .ret (.discoverChar d _) r => if d = dev ∧ r.rc = 0 then some r.characteristicList else none
  | _ => none

/-- Whether the discovery of the characteristics of `dev` comes back. -/
def discoveryOf (dev : UUID) : Obs → Option Bool
  | .ret (.discoverChar d _) _ => if d = dev then some true else none
  | _ => none

theorem discoveryOf_eq_some {dev : UUID} {o : Obs} {b : Bool} (h : o.discoveryOf dev = some b) :
    b = true ∧ ∃ c r, o = .ret (.discoverChar dev c) r := by
  unfold discoveryOf at h
  split at h
  · split at h
    · rename_i hd
      subst hd
      exact ⟨(Option.some.inj h).symm, _, _, rfl⟩
    · cases h
  · cases h

theorem last_discoveryOf {dev : UUID} {l : List Obs} :
    (last (discoveryOf dev) l).getD false = true ↔ ∃ c r, .ret (.discoverChar dev c) r ∈ l := by
  constructor
  · intro h
    cases hl : last (discoveryOf dev) l with
    | none =>
      rw [hl] at h
      cases h
    | some b =>
      obtain ⟨o, ho, hb⟩ := mem_of_last hl
      obtain ⟨-, c, r, rfl⟩ := discoveryOf_eq_some hb
      exact ⟨c, r, ho⟩
  · rintro ⟨c, r, ho⟩
    cases hl : last (discoveryOf dev) l with
    | none =>
      have hnone := last_eq_none.mp hl _ ho
      simp [discoveryOf] at hnone
    | some b =>
      obtain ⟨o, -, hb⟩ := mem_of_last hl
      exact (discoveryOf_eq_some hb).1

/-- The name of the device at the address `u`. -/
def nameOf (u : UUID) : Obs → Option String
  | .enter (.event _ (.deviceDiscovered addr name)) =>
    if addr.getD "" = u then some (name.getD "") else none
  | _ => none

/-- The adapter that is open from then on, if any. The return of a `gattlib_adapter_close` closes
whatever is open: it is for another adapter where one was opened inside the call. -/
def adapter : Obs → Option (Option (Option Adapter))
  | .ret (.adapterOpen _) r => if r.rc = 0 then some (some r.adapter?) else none
  | .ret (.adapterClose _) _ => some none
  | _ => none

end Obs

/-! ## Reading the central -/

namespace Central

variable (s : Central)

/-- What is known of `dev` besides its connection. -/
def known (dev : UUID) : Peer := { (s.peer dev).getD {} with connection := none }

/-- All but the jobs. -/
def facts : Central := { s with jobs := [], reports := [], autoDiscover := true }

/-- What the log says, the jobs apart. -/
def read (l : List Obs) : Central := l.foldl (fun s o => (s.next o).facts) {}

variable {s}

@[simp] theorem facts_setFront (f : Job → Job) : (s.setFront f).facts = s.facts := rfl

@[simp] theorem facts_complete : s.complete.facts = s.facts := rfl

theorem facts_prepare (t : Trigger) : (s.prepare t).facts = (s.facts.prepare t).facts := by
  cases t <;> rfl

theorem facts_hear (ev : Event) : (s.hear ev).facts = (s.facts.hear ev).facts := by
  cases ev with
  | connected c =>
    simp only [hear]
    split <;> split <;> rfl
  | readChar buf =>
    match buf with
    | none | some [] | some (_ :: _) => rfl
  | _ => rfl

theorem facts_returns (r : Resp) (e : Call) :
    (s.returns r e).facts = (s.facts.returns r e).facts := by
  by_cases hr : r.rc = 0
  · cases e <;> simp only [returns, if_pos hr] <;> rfl
  · cases e <;> simp only [returns, if_neg hr] <;> rfl

theorem facts_next (o : Obs) : (s.next o).facts = (s.facts.next o).facts := by
  cases o with
  | enter m =>
    cases m with
    | api => rfl
    | event of ev => exact facts_hear ev
  | ret e r => exact facts_returns r e
  | queued a => exact facts_prepare a.job.trigger
  | ran op => cases op <;> rfl
  | _ => rfl

section
variable [Gattlib]

theorem facts_reading : Reading machine facts fun s o => (s.next o).facts where
  observe s o _ := facts_next o
  silent s s' h := by
    obtain ⟨b, rfl⟩ := h
    rfl

end

/-! ## What was discovered of a device -/

/-- `k` is `p` after the entry `o`, as far as it was discovered of `dev`. -/
structure Updated (dev : UUID) (o : Obs) (p k : Peer) : Prop where
  services : k.services = (o.servicesOf dev).getD p.services
  characteristics : k.characteristics = (o.characteristicsOf dev).getD p.characteristics
  discovered : k.discovered = (o.discoveryOf dev).getD p.discovered

theorem known_setPeer {d dev : UUID} (f : Peer → Peer) (hd : (s.peer d).isSome) :
    (s.setPeer d f).known dev =
      if d = dev then { f ((s.peer dev).getD {}) with connection := none } else s.known dev := by
  unfold known setPeer
  by_cases he : d = dev
  · subst he
    obtain ⟨p, hp⟩ := Option.isSome_iff_exists.mp hd
    simp [hp]
  · simp [he, Function.update_of_ne (Ne.symm he)]

theorem known_connect (d dev : UUID) (c : Option Conn) :
    (s.setPeer d fun p => { p with connection := c }).known dev = s.known dev := by
  unfold known setPeer
  by_cases he : dev = d
  · subst he
    cases s.peer dev <;> simp
  · simp [Function.update_of_ne he]

theorem known_prepare (t : Trigger) (dev : UUID) : (s.prepare t).known dev = s.known dev := by
  cases t with
  | connect d =>
    unfold known prepare
    by_cases he : dev = d
    · subst he
      simp
    · simp [Function.update_of_ne he]
  | _ => rfl

theorem known_hear (ev : Event) (dev : UUID) : (s.hear ev).known dev = s.known dev := by
  cases ev with
  | connected c =>
    simp only [hear]
    split <;> exact known_connect ..
  | disconnected => exact known_connect ..
  | readChar buf =>
    match buf with
    | none | some [] | some (_ :: _) => rfl
  | _ => rfl

section
variable [Gattlib]

theorem known_next {o : Obs} (ha : s.allows o) (dev : UUID) :
    Updated dev o (s.known dev) ((s.next o).known dev) := by
  have hkeep (hk : (s.next o).known dev = s.known dev) (h1 : o.servicesOf dev = none := by rfl)
      (h2 : o.characteristicsOf dev = none := by rfl) (h3 : o.discoveryOf dev = none := by rfl) :
      Updated dev o (s.known dev) ((s.next o).known dev) := by
    rw [hk]
    exact ⟨by rw [h1]; rfl, by rw [h2]; rfl, by rw [h3]; rfl⟩
  cases o with
  | enter m =>
    cases m with
    | api => exact hkeep rfl
    | event of ev => exact hkeep (known_hear ev dev)
  | queued a => exact hkeep (known_prepare a.job.trigger dev)
  | ran op => cases op <;> exact hkeep rfl
  | ret e r =>
    cases e with
    | discoverPrimary d c =>
      simp only [next, returns]
      split
      · rw [known_setPeer _ ha]
        constructor <;> by_cases he : d = dev <;>
          simp [Obs.servicesOf, Obs.characteristicsOf, Obs.discoveryOf, known, *]
      · constructor <;> simp [Obs.servicesOf, Obs.characteristicsOf, Obs.discoveryOf, *]
    | discoverChar d c =>
      simp only [next, returns]
      split <;> rw [known_setPeer _ ha] <;> constructor <;> by_cases he : d = dev <;>
        simp [Obs.servicesOf, Obs.characteristicsOf, Obs.discoveryOf, known, *]
    | adapterOpen | scanEnable | scanDisable | connect | disconnect | readChar | writeChar =>
      refine hkeep ?_
      simp only [next, returns]
      split <;> rfl
    | _ => exact hkeep rfl
  | _ => exact hkeep rfl

end

/-! ## Names and the adapter -/

theorem name_prepare (t : Trigger) : (s.prepare t).name = s.name := by
  cases t <;> rfl

theorem name_returns (r : Resp) (e : Call) : (s.returns r e).name = s.name := by
  by_cases hr : r.rc = 0
  · cases e <;> simp only [returns, if_pos hr] <;> rfl
  · cases e <;> simp only [returns, if_neg hr] <;> rfl

theorem name_hear (of : Option ActionId) (ev : Event) (u : UUID) :
    (s.hear ev).name u = (Obs.nameOf u (.enter (.event of ev))).or (s.name u) := by
  cases ev with
  | deviceDiscovered addr name =>
    by_cases hu : addr.getD "" = u
    · subst hu
      simp [hear, Obs.nameOf]
    · simp [hear, Obs.nameOf, hu, Function.update_of_ne (Ne.symm hu)]
  | connected c =>
    simp only [hear]
    split <;> rfl
  | readChar buf =>
    match buf with
    | none | some [] | some (_ :: _) => rfl
  | _ => rfl

theorem name_next (o : Obs) (u : UUID) : (s.next o).name u = (o.nameOf u).or (s.name u) := by
  cases o with
  | enter m =>
    cases m with
    | api => rfl
    | event of ev => exact name_hear of ev u
  | queued a => exact congrFun (name_prepare a.job.trigger) u
  | ret e r => exact congrFun (name_returns r e) u
  | ran op => cases op <;> rfl
  | _ => rfl

theorem adapter_prepare (t : Trigger) : (s.prepare t).adapter = s.adapter := by
  cases t <;> rfl

theorem adapter_returns (r : Resp) (e : Call) :
    (s.returns r e).adapter = (Obs.adapter (.ret e r)).getD s.adapter := by
  by_cases hr : r.rc = 0
  · cases e <;> simp only [returns, Obs.adapter, if_pos hr] <;> rfl
  · cases e <;> simp only [returns, Obs.adapter, if_neg hr] <;> rfl

theorem adapter_hear (ev : Event) : (s.hear ev).adapter = s.adapter := by
  cases ev with
  | connected c =>
    simp only [hear]
    split <;> rfl
  | readChar buf =>
    match buf with
    | none | some [] | some (_ :: _) => rfl
  | _ => rfl

theorem adapter_next (o : Obs) : (s.next o).adapter = o.adapter.getD s.adapter := by
  cases o with
  | enter m =>
    cases m with
    | api => rfl
    | event of ev => exact adapter_hear ev
  | queued a => exact adapter_prepare a.job.trigger
  | ret e r => exact adapter_returns r e
  | ran op => cases op <;> rfl
  | _ => rfl

/-! ## Jobs go back to requests -/

/-- The jobs of `s'` are jobs of `s`, in what they ask for. -/
def SameJobs (s s' : Central) : Prop :=
  ∀ j ∈ s'.jobs, ∃ i ∈ s.jobs, i.id = j.id ∧ i.trigger = j.trigger

theorem SameJobs.of_eq {s' : Central} (h : s'.jobs = s.jobs) : s.SameJobs s' :=
  fun j hj => ⟨j, h ▸ hj, rfl, rfl⟩

theorem SameJobs.setFront {s' : Central} (h : s'.jobs = s.jobs) {f : Job → Job}
    (hf : ∀ j, (f j).id = j.id ∧ (f j).trigger = j.trigger) : s.SameJobs (s'.setFront f) := by
  intro j hj
  simp only [Central.setFront, h] at hj
  cases hq : s.jobs with
  | nil =>
    rw [hq] at hj
    cases hj
  | cons a rest =>
    rw [hq, List.modifyHead_cons] at hj
    rcases List.mem_cons.mp hj with rfl | hj
    · exact ⟨a, List.mem_cons_self, (hf a).1.symm, (hf a).2.symm⟩
    · exact ⟨j, List.mem_cons_of_mem _ hj, rfl, rfl⟩

theorem SameJobs.complete {s' : Central} (h : s'.jobs = s.jobs) : s.SameJobs s'.complete :=
  .setFront h fun _ => ⟨rfl, rfl⟩

theorem sameJobs_hear (ev : Event) : s.SameJobs (s.hear ev) := by
  cases ev with
  | connected c =>
    simp only [hear]
    split
    · exact .of_eq rfl
    · exact .complete rfl
  | disconnected | scanComplete | scanDisableDone | opDone | opFailed => exact .complete rfl
  | readChar buf =>
    match buf with
    | none | some [] => exact .of_eq rfl
    | some (_ :: _) => exact .complete rfl
  | _ => exact .of_eq rfl

theorem sameJobs_returns (r : Resp) (e : Call) : s.SameJobs (s.returns r e) := by
  cases e with
  | scanEnable | scanDisable | connect | disconnect | readChar | writeChar =>
    simp only [returns]
    split
    · exact .of_eq rfl
    · exact .complete rfl
  | adapterOpen | discoverPrimary | discoverChar =>
    simp only [returns]
    split <;> exact .of_eq rfl
  | _ => exact .of_eq rfl

/-- A job was there, or is queued. -/
theorem jobs_next (o : Obs) : ∀ j ∈ (s.next o).jobs,
    (∃ i ∈ s.jobs, i.id = j.id ∧ i.trigger = j.trigger) ∨ ∃ a, o = .queued a ∧ j = a.job := by
  have hsame (h : s.SameJobs (s.next o)) := fun j hj =>
    Or.inl (b := ∃ a, o = .queued a ∧ j = a.job) (h j hj)
  cases o with
  | enter m =>
    cases m with
    | api => exact hsame (.of_eq rfl)
    | event of ev => exact hsame (sameJobs_hear ev)
  | queued a =>
    intro j hj
    rcases List.mem_append.mp hj with hj | hj
    · exact .inl ⟨j, hj, rfl, rfl⟩
    · exact .inr ⟨a, rfl, List.mem_singleton.mp hj⟩
  | triggered => exact hsame (.setFront rfl fun _ => ⟨rfl, rfl⟩)
  | cancelled => exact hsame (.complete rfl)
  | popped => exact fun j hj => .inl ⟨j, List.mem_of_mem_tail hj, rfl, rfl⟩
  | ret e r => exact hsame (sameJobs_returns r e)
  | ran op =>
    cases op with
    | reportConnected => exact hsame (.complete rfl)
    | _ => exact hsame (.of_eq rfl)
  | _ => exact hsame (.of_eq rfl)

/-! ## Parts that the log decides -/

section
variable [Gattlib]

theorem services_reading (dev : UUID) :
    Reading machine (fun s => (s.known dev).services) fun v o => (o.servicesOf dev).getD v where
  observe _ _ ha := (known_next ha dev).services
  silent _ _ h := by
    obtain ⟨b, rfl⟩ := h
    rfl

theorem characteristics_reading (dev : UUID) :
    Reading machine (fun s => (s.known dev).characteristics)
      fun v o => (o.characteristicsOf dev).getD v where
  observe _ _ ha := (known_next ha dev).characteristics
  silent _ _ h := by
    obtain ⟨b, rfl⟩ := h
    rfl

theorem discovered_reading (dev : UUID) :
    Reading machine (fun s => (s.known dev).discovered) fun v o => (o.discoveryOf dev).getD v where
  observe _ _ ha := (known_next ha dev).discovered
  silent _ _ h := by
    obtain ⟨b, rfl⟩ := h
    rfl

theorem name_reading (u : UUID) :
    Reading machine (fun s => (s.name u).getD "") fun v o => (o.nameOf u).getD v where
  observe s o _ := by
    change ((s.next o).name u).getD "" = _
    rw [name_next]
    cases o.nameOf u <;> rfl
  silent _ _ h := by
    obtain ⟨b, rfl⟩ := h
    rfl

theorem adapter_reading : Reading machine adapter fun v o => o.adapter.getD v where
  observe s o _ := adapter_next o
  silent _ _ h := by
    obtain ⟨b, rfl⟩ := h
    rfl

end

end Central

end Gattlibpp
