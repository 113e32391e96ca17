import Gattlibpp.Notify.Books

/-!
# The counter and the subscribers

`num_registered_for_notifs` counts starts and stops, and decides when the library's handlers
are registered and cancelled. It counts no more than 255 subscribers, and before discovery it
does not know whose stop it counts: a stop of something that was never started takes the count
of another.
-/

namespace Gattlibpp

open Open Device

/-! ## What is subscribed -/

/-- What has been logged from `w` to `w'`. -/
def World.since (w w' : World) : List Obs := w'.log.drop w.log.length

/-- What is subscribed at `w`, if at `w0` it was `gs`. -/
def World.subscribed (w0 : World) (gs : List GlUuid) (w : World) (g : GlUuid) : Bool :=
  (w0.since w).foldl (Obs.notifying g) (decide (g ∈ gs))

/-- Only what concerns notifications matters. -/
theorem foldl_notifying (l : List Obs) (g : GlUuid) (b : Bool) :
    l.foldl (Obs.notifying g) b = (l.filter (·.notifies)).foldl (Obs.notifying g) b := by
  induction l generalizing b with
  | nil => rfl
  | cons o l ih =>
    by_cases ho : o.notifies = true
    · rw [List.filter_cons_of_pos ho]
      exact ih _
    · have hsame : o.notifying g b = b := by
        unfold Obs.notifying
        split
        · exact absurd rfl ho
        · exact absurd rfl ho
        · rfl
      rw [List.filter_cons_of_neg ho, List.foldl_cons, hsame]
      exact ih b

section
variable {w0 w w' : World} {gs : List GlUuid} {es l0 : List Obs}

theorem World.Tells.since (h : w.Tells es w') : (w.since w').filter (·.notifies) = es := by
  obtain ⟨l, hl, rfl⟩ := h.log
  rw [World.since, hl, List.drop_left]

/-- A call of gattlib about notifications has been made if it has been told. -/
theorem World.Tells.mem_since (h : w.Tells es w') {e : Call} (he : e.notifies = true) :
    .call e ∈ w.since w' ↔ .call e ∈ es := by
  rw [← h.since, List.mem_filter]
  exact (and_iff_left he).symm

theorem World.Tells.subscribed (h : w.Tells es w') (hw : w.log = w0.log ++ l0) (g : GlUuid) :
    w0.subscribed gs w' g = es.foldl (Obs.notifying g) (w0.subscribed gs w g) := by
  obtain ⟨l, hl, rfl⟩ := h.log
  rw [World.subscribed, World.subscribed, World.since, World.since, hl, hw, List.drop_left,
    List.append_assoc, List.drop_left, List.foldl_append, foldl_notifying l]

theorem Device.Details.foldl_handlerCalls (d : Details) (on : Bool) (rn ri : Resp) (g : GlUuid)
    (b : Bool) : (d.handlerCalls on rn ri).foldl (Obs.notifying g) b = b := by
  by_cases hcount : d.numRegisteredForNotifs = (if on then 0 else 1)
  · rw [handlerCalls, if_pos hcount]
    rfl
  · rw [handlerCalls, if_neg hcount]
    rfl

end

/-! ## One call -/

namespace World

/-- An undisturbed call that starts (`on`) or stops notifications of `dev` for `u`, and returns
true. -/
def TurnCall [Gattlib] (dev u : UUID) (on : Bool) (w w' : World) : Prop :=
  ∃ op : Op, op.Turning dev u on ∧ op.Called w (.bool true) w'

/-- A start or stop of notifications of `dev` that returns true. -/
def GoodCall [Gattlib] (dev : UUID) (w w' : World) : Prop := ∃ u on, TurnCall dev u on w w'

/-- The counter of `dev` tells the truth about the call from `w` to `w'`, where `sub` says what is
subscribed: it goes up by one for a start, it goes down only for a stop of what is subscribed, and
the handlers are cancelled only where then nothing is. -/
structure Counts (dev : UUID) (sub : World → GlUuid → Bool) (w w' : World) : Prop where
  rises : ∀ c g, .call (.notificationStart c g) ∈ w.since w' → ∀ d d',
    w.ble.devices[dev]? = some d → w'.ble.devices[dev]? = some d' →
      d'.numRegisteredForNotifs.toNat = d.numRegisteredForNotifs.toNat + 1
  stays : (∀ c g, .call (.notificationStart c g) ∉ w.since w') → ∀ d d',
    w.ble.devices[dev]? = some d → w'.ble.devices[dev]? = some d' →
      d'.numRegisteredForNotifs ≤ d.numRegisteredForNotifs
  falls : ∀ d d', w.ble.devices[dev]? = some d → w'.ble.devices[dev]? = some d' →
    d'.numRegisteredForNotifs < d.numRegisteredForNotifs →
      ∃ c g, .call (.notificationStop c g) ∈ w.since w' ∧ sub w g = true
  cancels : ∀ c, .call (.registerNotification c none) ∈ w.since w' ∨
    .call (.registerIndication c none) ∈ w.since w' → ∀ g, sub w' g = false

/-- A start that is counted finds the counter below 255. Before discovery, a stop is for what is
subscribed, unless the counter is 0. -/
def CountableFor [Gattlib] (dev u : UUID) (on : Bool) (sub : World → GlUuid → Bool)
    (w : World) : Prop :=
  ∀ d g, w.ble.devices[dev]? = some d → d.subject u = some g →
    (∀ c, d.characteristic u = some c → c.registeredForNotifs = (! on)) →
      if on then d.numRegisteredForNotifs ≠ 255
      else d.discoveryDone = true ∨ d.numRegisteredForNotifs = 0 ∨ sub w g = true

/-- That holds of the call from `w` to `w'`. -/
def Countable [Gattlib] (dev : UUID) (sub : World → GlUuid → Bool) (w w' : World) : Prop :=
  ∀ u on, TurnCall dev u on w w' → CountableFor dev u on sub w

/-- A live connection to `dev`, whose counter covers what is subscribed since `w0`, and the marks
are among these. -/
structure Covered [Gattlib] (w0 : World) (gs0 : List GlUuid) (dev : UUID) (w : World)
    (d : Device.Details) (gs : List GlUuid) : Prop where
  record : w.ble.devices[dev]? = some d
  live : d.connection.isSome = true
  keyed : d.Keyed
  undiscovered : d.discoveryDone = false → ∀ k : UUID, d.characteristics[k]? = none
  log : ∃ l, w.log = w0.log ++ l
  nodup : gs.Nodup
  subscribed : ∀ g, w0.subscribed gs0 w g = true ↔ g ∈ gs
  count : gs.length ≤ d.numRegisteredForNotifs.toNat
  marks : ∀ (k : UUID) (c : Characteristic.Details), d.characteristics[k]? = some c →
    c.registeredForNotifs = true → c.glUuid ∈ gs

end World

/-! ## What is told in one call -/

theorem counter_succ {n : UInt8} (h : n ≠ 255) : (n + 1).toNat = n.toNat + 1 := by
  have hne : n.toNat ≠ 255 := fun heq => h (UInt8.toNat_inj.mp heq)
  have hlt := n.toNat_lt
  rw [UInt8.toNat_add, UInt8.toNat_one]
  omega

theorem counter_pred (n : UInt8) : (if n = 0 then 0 else n - 1).toNat = n.toNat - 1 := by
  split
  · rename_i hz
    rw [hz]
    rfl
  · rename_i hz
    have hne : n.toNat ≠ 0 := fun heq => hz (UInt8.toNat_inj.mp heq)
    have hone : (1 : UInt8) ≤ n := by
      rw [UInt8.le_iff_toNat_le, UInt8.toNat_one]
      omega
    rw [UInt8.toNat_sub_of_le _ _ hone, UInt8.toNat_one]

section
variable {w0 w w' : World} {gs0 gs : List GlUuid} {dev u : UUID} {d d' : Device.Details}
  {g : GlUuid} {on : Bool} {sub : World → GlUuid → Bool}

theorem Device.Details.mem_handlerCalls {rn ri : Resp} {e : Call} :
    .call e ∈ d.handlerCalls on rn ri ↔ d.numRegisteredForNotifs = (if on then 0 else 1) ∧
      (e = .registerNotification d.connection (if on then some d.id else none) ∨
        e = .registerIndication d.connection (if on then some d.id else none)) := by
  unfold handlerCalls
  by_cases hcount : d.numRegisteredForNotifs = (if on then 0 else 1)
  · rw [if_pos hcount, and_iff_right hcount]
    simp
  · rw [if_neg hcount]
    exact iff_of_false (List.not_mem_nil) fun h => hcount h.1

/-- The calls that are told by a start or stop. -/
theorem mem_told {rn ri r : Resp} {e : Call} (he : e.notifies = true)
    (ht : w.Tells (d.handlerCalls on rn ri ++ [.call (.turn on d.connection g),
      .ret (.turn on d.connection g) r]) w') : .call e ∈ w.since w' ↔
        (d.numRegisteredForNotifs = (if on then 0 else 1) ∧
          (e = .registerNotification d.connection (if on then some d.id else none) ∨
            e = .registerIndication d.connection (if on then some d.id else none))) ∨
        e = .turn on d.connection g := by
  rw [ht.mem_since he, List.mem_append, Device.Details.mem_handlerCalls]
  simp

/-- The counter tells the truth where nothing is told. -/
theorem counts_of_beside (ht : w.Tells [] w') (hd : w.ble.devices[dev]? = some d)
    (hd' : w'.ble.devices[dev]? = some d')
    (hn : d'.numRegisteredForNotifs = d.numRegisteredForNotifs) : w.Counts dev sub w' where
  rises c g hc := by
    rw [ht.mem_since rfl] at hc
    cases hc
  stays _ e e' he he' := by
    cases hd.symm.trans he
    cases hd'.symm.trans he'
    exact UInt8.le_of_eq hn
  falls e e' he he' hlt := by
    cases hd.symm.trans he
    cases hd'.symm.trans he'
    rw [hn] at hlt
    exact absurd hlt (UInt8.lt_irrefl _)
  cancels c hc := by
    rw [ht.mem_since rfl, ht.mem_since rfl] at hc
    rcases hc with hc | hc <;> cases hc

/-- A start is counted right unless the counter is at its end. -/
theorem counts_start {rn ri r : Resp} (hd : w.ble.devices[dev]? = some d)
    (hd' : w'.ble.devices[dev]? = some d')
    (hn : d'.numRegisteredForNotifs = d.numRegisteredForNotifs + 1)
    (ht : w.Tells (d.handlerCalls true rn ri ++ [.call (.turn true d.connection g),
      .ret (.turn true d.connection g) r]) w') :
    w.Counts dev sub w' ↔ d.numRegisteredForNotifs ≠ 255 := by
  have hstart : .call (.notificationStart d.connection g) ∈ w.since w' :=
    (mem_told rfl ht).mpr (.inr rfl)
  constructor
  · intro h hz
    have hrise := h.rises d.connection g hstart d d' hd hd'
    rw [hn, hz] at hrise
    cases hrise
  · intro hz
    have hrise : d'.numRegisteredForNotifs.toNat = d.numRegisteredForNotifs.toNat + 1 := by
      rw [hn, counter_succ hz]
    exact {
      rises := fun _ _ _ e e' he he' => by
        cases hd.symm.trans he
        cases hd'.symm.trans he'
        exact hrise
      stays := fun hno => absurd hstart (hno _ _)
      falls := fun e e' he he' hfall => by
        cases hd.symm.trans he
        cases hd'.symm.trans he'
        rw [UInt8.lt_iff_toNat_lt] at hfall
        omega
      cancels := fun c hc => by
        rw [mem_told rfl ht, mem_told rfl ht] at hc
        simp [Call.turn] at hc }

/-- A stop is counted right if the counter is 0 already, or it is for what is subscribed, as long as
the counter covers what is. -/
theorem counts_stop {rn ri r : Resp} (hd : w.ble.devices[dev]? = some d)
    (hd' : w'.ble.devices[dev]? = some d')
    (hn : d'.numRegisteredForNotifs =
      if d.numRegisteredForNotifs = 0 then 0 else d.numRegisteredForNotifs - 1)
    (ht : w.Tells (d.handlerCalls false rn ri ++ [.call (.turn false d.connection g),
      .ret (.turn false d.connection g) r]) w')
    (hlast : d.numRegisteredForNotifs = 1 → sub w g = true → ∀ g', sub w' g' = false) :
    w.Counts dev sub w' ↔ d.numRegisteredForNotifs = 0 ∨ sub w g = true := by
  have hfalls : d'.numRegisteredForNotifs.toNat = d.numRegisteredForNotifs.toNat - 1 := by
    rw [hn, counter_pred]
  constructor
  · intro h
    by_cases hz : d.numRegisteredForNotifs = 0
    · exact .inl hz
    · have hpos : d.numRegisteredForNotifs.toNat ≠ 0 := fun h => hz (UInt8.toNat_inj.mp h)
      have hfall : d'.numRegisteredForNotifs < d.numRegisteredForNotifs := by
        rw [UInt8.lt_iff_toNat_lt]
        omega
      obtain ⟨c, g', hg', hsub⟩ := h.falls d d' hd hd' hfall
      rw [mem_told rfl ht] at hg'
      simp [Call.turn] at hg'
      exact .inr (hg'.2 ▸ hsub)
  · intro hor
    exact {
      rises := fun c g' hc => by
        rw [mem_told rfl ht] at hc
        simp [Call.turn] at hc
      stays := fun _ e e' he he' => by
        cases hd.symm.trans he
        cases hd'.symm.trans he'
        rw [UInt8.le_iff_toNat_le]
        omega
      falls := fun e e' he he' hfall => by
        cases hd.symm.trans he
        cases hd'.symm.trans he'
        refine ⟨d.connection, g, (mem_told rfl ht).mpr (.inr rfl), hor.resolve_left fun hz => ?_⟩
        rw [hn, if_pos hz, hz] at hfall
        exact absurd hfall (UInt8.lt_irrefl _)
      cancels := fun c hc => by
        rw [mem_told rfl ht, mem_told rfl ht] at hc
        have hone : d.numRegisteredForNotifs = 1 := by
          rcases hc with (⟨hone, -⟩ | hc) | ⟨hone, -⟩ | hc
          · exact hone
          · cases hc
          · exact hone
          · cases hc
        refine hlast hone (hor.resolve_left fun hz => ?_)
        rw [hone] at hz
        cases hz }

end

/-! ## A sequence of calls -/

section
variable [Gattlib] {w0 w w' : World} {gs0 gs : List GlUuid} {dev u : UUID} {d d' : Device.Details}
  {g : GlUuid} {on : Bool}

omit [Gattlib] in
theorem World.Tells.turn (w : World) (on : Bool) (c : Option Conn) (g : GlUuid) (r : Resp) :
    w.Tells [.call (.turn on c g), .ret (.turn on c g) r] (w.asked (.turn on c g) r) := by
  cases on with
  | true => exact .asked w (.notificationStart c g) r
  | false => exact .asked w (.notificationStop c g) r

omit [Gattlib] in
/-- What is subscribed after a call that has succeeded. -/
theorem World.Tells.subscribed_turn {rn ri r : Resp} (hrc : r.rc = 0) {l0 : List Obs}
    (ht : w.Tells (d.handlerCalls on rn ri ++ [.call (.turn on d.connection g),
      .ret (.turn on d.connection g) r]) w') (hw : w.log = w0.log ++ l0) (g' : GlUuid) :
    w0.subscribed gs0 w' g' = if g = g' then on else w0.subscribed gs0 w g' := by
  rw [ht.subscribed hw, List.foldl_append, Details.foldl_handlerCalls]
  cases on with
  | true => by_cases hg : g = g' <;> simp [Call.turn, Obs.notifying, hrc, hg]
  | false => by_cases hg : g = g' <;> simp [Call.turn, Obs.notifying, hrc, hg]

namespace World.Covered

/-- The books are as they were. -/
theorem of_same (h : w0.Covered gs0 dev w d gs) (hd' : w'.ble.devices[dev]? = some d')
    (hs : d.SameBooks d') (ht : w.Tells [] w') : w0.Covered gs0 dev w' d' gs where
  record := hd'
  live := hs.connection ▸ h.live
  keyed := h.keyed.of_eq fun k => by rw [hs.characteristics]
  undiscovered := by
    rw [hs.discoveryDone, hs.characteristics]
    exact h.undiscovered
  log := by
    obtain ⟨l0, hl0⟩ := h.log
    obtain ⟨l, hl, -⟩ := ht.log
    exact ⟨l0 ++ l, by rw [hl, hl0, List.append_assoc]⟩
  nodup := h.nodup
  subscribed g := by
    obtain ⟨l0, hl0⟩ := h.log
    rw [ht.subscribed hl0]
    exact h.subscribed g
  count := hs.numRegisteredForNotifs ▸ h.count
  marks := hs.characteristics ▸ h.marks

/-- The marks after a call for `g`, where a mark is put to `on`. -/
theorem marks_turned (h : w0.Covered gs0 dev w d gs) (hg : d.subject u = some g)
    {gs' : List GlUuid} (hgs : ∀ g', g' ∈ gs' ↔ if g = g' then on = true else g' ∈ gs)
    {k : UUID} {c : Characteristic.Details} (hc : (d.setRegistered u on).characteristics[k]? = some c)
    (hr : c.registeredForNotifs = true) : c.glUuid ∈ gs' := by
  rw [Details.characteristics_setRegistered] at hc
  cases hdone : d.discoveryDone with
  | false =>
    rw [h.undiscovered hdone k] at hc
    simp at hc
  | true =>
    obtain ⟨c0, hc0, -, rfl⟩ := d.subject_eq hdone hg
    unfold Details.characteristic at hc0
    rw [hgs]
    split at hc
    · rename_i hk
      rw [← hk, hc0] at hc
      obtain rfl := Option.some.inj hc
      rw [if_pos rfl]
      exact hr
    · rename_i hk
      rw [if_neg fun heq => hk (h.keyed.key_eq hc0 hc heq)]
      exact h.marks k c hc hr

/-- After a call for `g` that gattlib has let through, if the counter follows. -/
theorem of_told (h : w0.Covered gs0 dev w d gs) (hg : d.subject u = some g) {n : UInt8}
    {rn ri r : Resp} (hrc : r.rc = 0) (hd' : w'.ble.devices[dev]? = some d')
    (hs : { d.setRegistered u on with numRegisteredForNotifs := n }.SameBooks d')
    (ht : w.Tells (d.handlerCalls on rn ri ++ [.call (.turn on d.connection g),
      .ret (.turn on d.connection g) r]) w') {gs' : List GlUuid} (hnd : gs'.Nodup)
    (hgs : ∀ g', g' ∈ gs' ↔ if g = g' then on = true else g' ∈ gs) (hn : gs'.length ≤ n.toNat) :
    w0.Covered gs0 dev w' d' gs' := by
  obtain ⟨l0, hl0⟩ := h.log
  exact {
    record := hd'
    live := hs.connection ▸ h.live
    keyed := h.keyed.of_eq fun k => by
      rw [hs.characteristics]
      exact (Details.SameCore.setRegistered d u on).glUuid k
    undiscovered := fun hdone k => by
      rw [hs.characteristics, Details.characteristics_setRegistered]
      rw [hs.discoveryDone] at hdone
      have hnone := h.undiscovered hdone k
      simp [hnone]
    log := by
      obtain ⟨l, hl, -⟩ := ht.log
      exact ⟨l0 ++ l, by rw [hl, hl0, List.append_assoc]⟩
    nodup := hnd
    subscribed := fun g' => by
      rw [ht.subscribed_turn hrc hl0, hgs]
      split
      · rfl
      · exact h.subscribed g'
    count := hs.numRegisteredForNotifs ▸ hn
    marks := by
      rw [hs.characteristics]
      exact fun k c => h.marks_turned hg hgs }

/-- A start that is counted. -/
theorem started (h : w0.Covered gs0 dev w d gs) (hg : d.subject u = some g) {rn ri r : Resp}
    (hrc : r.rc = 0) (hd' : w'.ble.devices[dev]? = some d')
    (hs : { d.setRegistered u true with
      numRegisteredForNotifs := d.numRegisteredForNotifs + 1 }.SameBooks d')
    (ht : w.Tells (d.handlerCalls true rn ri ++ [.call (.turn true d.connection g),
      .ret (.turn true d.connection g) r]) w') (hz : d.numRegisteredForNotifs ≠ 255) :
    ∃ gs', w0.Covered gs0 dev w' d' gs' := by
  have hcount := h.count
  have hrise := counter_succ hz
  by_cases hin : g ∈ gs
  · refine ⟨gs, h.of_told hg hrc hd' hs ht h.nodup (fun g' => ?_) (by omega)⟩
    by_cases heq : g = g'
    · simpa [heq] using heq ▸ hin
    · simp [heq]
  · refine ⟨g :: gs, h.of_told hg hrc hd' hs ht (List.nodup_cons.mpr ⟨hin, h.nodup⟩)
      (fun g' => ?_) (by rw [List.length_cons]; omega)⟩
    by_cases heq : g = g'
    · simp [heq]
    · have hne : g' ≠ g := fun h => heq h.symm
      simp [heq, hne]

theorem mem_erase (h : w0.Covered gs0 dev w d gs) (g' : GlUuid) :
    g' ∈ gs.erase g ↔ if g = g' then false = true else g' ∈ gs := by
  rw [h.nodup.mem_erase_iff]
  by_cases heq : g = g'
  · simp [heq]
  · have hne : g' ≠ g := fun h => heq h.symm
    simp [heq, hne]

/-- A stop of what is subscribed, or one that finds the counter at 0. -/
theorem stopped (h : w0.Covered gs0 dev w d gs) (hg : d.subject u = some g) {rn ri r : Resp}
    (hrc : r.rc = 0) (hd' : w'.ble.devices[dev]? = some d')
    (hs : { d.setRegistered u false with numRegisteredForNotifs :=
      if d.numRegisteredForNotifs = 0 then 0 else d.numRegisteredForNotifs - 1 }.SameBooks d')
    (ht : w.Tells (d.handlerCalls false rn ri ++ [.call (.turn false d.connection g),
      .ret (.turn false d.connection g) r]) w')
    (hor : d.numRegisteredForNotifs = 0 ∨ w0.subscribed gs0 w g = true) :
    ∃ gs', w0.Covered gs0 dev w' d' gs' := by
  refine ⟨gs.erase g, h.of_told hg hrc hd' hs ht (h.nodup.erase g) h.mem_erase ?_⟩
  have hcount := h.count
  rw [counter_pred]
  rcases hor with hz | hsub
  · rw [hz] at hcount ⊢
    exact Nat.le_trans List.length_erase_le hcount
  · rw [List.length_erase_of_mem ((h.subscribed g).mp hsub)]
    omega

/-- The last stop leaves nothing subscribed. -/
theorem last (h : w0.Covered gs0 dev w d gs) {rn ri r : Resp} (hrc : r.rc = 0)
    (ht : w.Tells (d.handlerCalls false rn ri ++ [.call (.turn false d.connection g),
      .ret (.turn false d.connection g) r]) w') (hone : d.numRegisteredForNotifs = 1)
    (hsub : w0.subscribed gs0 w g = true) (g' : GlUuid) : w0.subscribed gs0 w' g' = false := by
  obtain ⟨l0, hl0⟩ := h.log
  have hcount := h.count
  rw [hone, UInt8.toNat_one] at hcount
  have hempty : gs.erase g = [] := by
    rw [← List.length_eq_zero_iff, List.length_erase_of_mem ((h.subscribed g).mp hsub)]
    omega
  have hnone := h.mem_erase (g := g) g'
  rw [hempty] at hnone
  rw [ht.subscribed_turn hrc hl0]
  by_cases heq : g = g'
  · rw [if_pos heq]
  · rw [if_neg heq] at hnone ⊢
    rw [← Bool.not_eq_true, h.subscribed]
    exact fun hg' => List.not_mem_nil (hnone.mpr hg')

/-- **Step lemma.** The counter tells the truth of a call exactly where the call can be counted, and
then it goes on covering what is subscribed. -/
theorem step (h : w0.Covered gs0 dev w d gs) (hcall : w.TurnCall dev u on w') :
    (w.Counts dev (w0.subscribed gs0) w' ↔ w.CountableFor dev u on (w0.subscribed gs0)) ∧
      (w.CountableFor dev u on (w0.subscribed gs0) → ∃ d' gs', w0.Covered gs0 dev w' d' gs') := by
  obtain ⟨op, hop, hcall⟩ := hcall
  obtain ⟨b, hb, -, ht⟩ := hop.called hcall h.record h.live
  obtain rfl : true = b := by simpa using hb
  obtain ⟨hno, -⟩ | ⟨-, g, hg, ht⟩ := ht
  · cases hno
  generalize hbool : true = b at ht
  cases ht with
  | idle d' hd' hs ht hasked =>
    have hvacuous : w.CountableFor dev u on (w0.subscribed gs0) := by
      intro e g' he _ hnot
      cases h.record.symm.trans he
      obtain ⟨c, hc, hr⟩ := hasked hbool.symm
      rw [hnot c hc] at hr
      cases on <;> cases hr
    refine ⟨iff_of_true ?_ hvacuous, fun _ => ⟨d', gs, h.of_same hd' hs ht⟩⟩
    exact counts_of_beside ht h.record hd' hs.numRegisteredForNotifs
  | told d' rn ri r hnot hd' hs ht ht' =>
    have hrc : r.rc = 0 := of_decide_eq_true hbool.symm
    have htold := (ht.trans (.turn _ on d.connection g r)).trans ht'
    rw [List.append_nil] at htold
    have hfor : w.CountableFor dev u on (w0.subscribed gs0) ↔
        if on then d.numRegisteredForNotifs ≠ 255
        else d.discoveryDone = true ∨ d.numRegisteredForNotifs = 0 ∨
          w0.subscribed gs0 w g = true := by
      constructor
      · exact fun hc => hc d g h.record hg hnot
      · intro hc e g' he hg' _
        cases h.record.symm.trans he
        cases hg.symm.trans hg'
        exact hc
    rw [hfor]
    cases on with
    | true =>
      rw [countTurned, if_pos hrc] at hs
      rw [if_pos rfl, counts_start h.record hd' hs.numRegisteredForNotifs htold]
      exact ⟨.rfl, fun hz => ⟨d', h.started hg hrc hd' hs htold hz⟩⟩
    | false =>
      -- with discovery done, what has a mark is subscribed
      have hdone : d.discoveryDone = true → w0.subscribed gs0 w g = true := by
        intro hdone
        obtain ⟨c, hc, -, rfl⟩ := d.subject_eq hdone hg
        exact (h.subscribed _).mpr (h.marks _ c hc (hnot c hc))
      have hcond : (d.discoveryDone = true ∨ d.numRegisteredForNotifs = 0 ∨
          w0.subscribed gs0 w g = true) ↔
            (d.numRegisteredForNotifs = 0 ∨ w0.subscribed gs0 w g = true) :=
        ⟨fun hor => hor.elim (fun hd => .inr (hdone hd)) id, .inr⟩
      rw [if_neg Bool.false_ne_true, hcond]
      exact ⟨counts_stop h.record hd' hs.numRegisteredForNotifs htold (h.last hrc htold),
        fun hor => ⟨d', h.stopped hg hrc hd' hs htold hor⟩⟩

end World.Covered

/-- **The subscription counter.** Over a sequence of starts and stops that return true, on a
connection whose counter covers what is subscribed (`gs`), the counter tells the truth of every
call exactly if every start that is counted finds it below 255, and every stop before discovery is
for what is subscribed or finds it at 0. -/
theorem counter_honest {c : Config World Call Resp Fault} (h : Reach .any .init c)
    (hf : c.fault = none) (hd : c.s.ble.devices[dev]? = some d)
    (hlive : d.connection.isSome = true) (hnd : gs.Nodup)
    (hcount : gs.length ≤ d.numRegisteredForNotifs.toNat)
    (hmarks : ∀ (k : UUID) (ch : Characteristic.Details), d.characteristics[k]? = some ch →
      ch.registeredForNotifs = true → ch.glUuid ∈ gs)
    {ws : List World} (hws : List.IsChain (World.GoodCall dev) (c.s :: ws)) :
    List.IsChain (World.Counts dev (c.s.subscribed gs)) (c.s :: ws) ↔
      List.IsChain (World.Countable dev (c.s.subscribed gs)) (c.s :: ws) := by
  have hcover : c.s.Covered gs dev c.s d gs := {
    record := hd
    live := hlive
    keyed := keyed_reach h hf dev d hd
    undiscovered := records_reach Details.undiscovered_lasting h hf dev d hd
    log := ⟨[], (List.append_nil _).symm⟩
    nodup := hnd
    subscribed := fun g => by
      rw [World.subscribed, World.since, List.drop_length]
      exact decide_eq_true_iff
    count := hcount
    marks := hmarks }
  refine isChain_iff (I := fun w => ∃ d gs', c.s.Covered gs dev w d gs') ?_ ⟨d, gs, hcover⟩ hws
  rintro w w' ⟨d, gs', hw⟩ ⟨u, on, hcall⟩
  refine ⟨⟨fun hk u on hcall => (hw.step hcall).1.mp hk, fun hg => ?_⟩, fun hg => ?_⟩
  · exact (hw.step hcall).1.mpr (hg u on hcall)
  · exact (hw.step hcall).2 (hg u on hcall)

end

/-- A connect to `"A"` without discovery. -/
def connectPlain : List (System.Choice Move Resp) :=
  [.enter (.api (.setAutoDiscoverOnConnect false)),
    .enter (.api (.connect "A" none none none)), .answer (.adapter 3),
    .enter (.api .processAsync), .answer .void, .answer (.code 0),
    .enter (.event (some 0) (.connected (some 7)))]

/-- The record of `"A"` after that. -/
def World.plain (w : World) : Option Device.Details :=
  (w.ble.devices["A"]?).filter fun d => d.connection == some 7 && ! d.discoveryDone &&
    d.numRegisteredForNotifs == 0 && d.characteristics.isEmpty

theorem World.plain_record {w : World} (h : w.plain.isSome) : ∃ d : Device.Details,
    w.ble.devices["A"]? = some d ∧ d.connection.isSome = true ∧ d.numRegisteredForNotifs = 0 ∧
      ∀ k : UUID, d.characteristics[k]? = none := by
  obtain ⟨d, hd⟩ := Option.isSome_iff_exists.mp h
  simp only [World.plain, Option.filter_eq_some_iff, Bool.and_eq_true, beq_iff_eq] at hd
  obtain ⟨hd, ⟨⟨hconn, -⟩, hcount⟩, hempty⟩ := hd
  exact ⟨d, hd, by rw [hconn]; rfl, hcount, fun k => Std.TreeMap.getElem?_of_isEmpty hempty⟩

/-- A call is countable if it is so for what it is about. -/
theorem World.countable_of_called [Gattlib] {w w' : World} {dev u : UUID} {on : Bool} {op : Op}
    {sub : World → GlUuid → Bool} (hop : op.Turning dev u on) (hcall : op.Called w (.bool true) w')
    (h : w.CountableFor dev u on sub) : w.Countable dev sub w' := by
  rintro u' on' ⟨op', hop', hcall'⟩
  obtain rfl := hcall.same hcall'
  cases hop <;> cases hop' <;> exact h

/-- A start and its stop on a connection are counted, and the stop cancels the handlers. -/
theorem counter_honest_start : ∃ (c : Config World Call Resp Fault) (w1 w2 : World),
    @Reach .sample .any .init c ∧ c.s.plain.isSome ∧
      @Op.Called .sample (.startNotification "A" "2a19" none none) c.s (.bool true) w1 ∧
      @Op.Called .sample (.stopNotification "A" "2a19" none none) w1 (.bool true) w2 ∧
      .call (.registerNotification (some 7) none) ∈ w1.since w2 ∧
      List.IsChain (World.Counts "A" (c.s.subscribed [])) [c.s, w1, w2] := by
  let _ := Gattlib.sample
  obtain ⟨c, hc, hP⟩ := (system .any).reach_of_run_any connectPlain (c := ⟨.init, [], none⟩)
    (P := fun c => c.fault.isNone && (c.s.plain.isSome &&
      ((Op.startNotification "A" "2a19" none none).callWith c.s [.void, .void, .code 0]).any
        fun (p : Ret × World) => p.1 == .bool true &&
          ((p.2.ble.devices["A"]?.all fun d => d.subject "2a19" == some 1) &&
            (c.s.subscribed [] p.2 1 &&
            ((Op.stopNotification "A" "2a19" none none).callWith p.2 [.void, .void, .code 0]).any
              fun (q : Ret × World) => q.1 == .bool true &&
                decide (Obs.call (.registerNotification (some 7) none) ∈ p.2.since q.2)))))
    (by decide)
  simp only [Bool.and_eq_true, Option.isNone_iff_eq_none, Option.any_eq_true, Option.all_eq_true,
    Prod.exists, decide_eq_true_eq, beq_iff_eq] at hP
  obtain ⟨hf, hplain, r1, w1, h1, rfl, hsubject, hsub, r2, w2, h2, rfl, hcancel⟩ := hP
  obtain ⟨d, hd, hlive, hcount, hnone⟩ := World.plain_record hplain
  have hstart := Op.called_of_with h1
  have hstop := Op.called_of_with h2
  have hws : List.IsChain (World.GoodCall "A") [c.s, w1, w2] :=
    .cons_cons ⟨_, _, _, .start .., hstart⟩ (.cons_cons ⟨_, _, _, .stop .., hstop⟩ (.singleton _))
  refine ⟨c, w1, w2, hc, hplain, hstart, hstop, hcancel, ?_⟩
  refine (counter_honest hc hf hd hlive List.nodup_nil (Nat.zero_le _)
    (fun k ch hch => by rw [hnone k] at hch; cases hch) hws).mpr ?_
  refine .cons_cons (World.countable_of_called (.start ..) hstart ?_)
    (.cons_cons (World.countable_of_called (.stop ..) hstop ?_) (.singleton _))
  · intro d' g hd' _ _
    cases hd.symm.trans hd'
    rw [if_pos rfl, hcount]
    decide
  · intro d' g hd' hg _
    rw [hsubject d' hd'] at hg
    cases hg
    exact .inr (.inr hsub)

/-- Without discovery, a stop of what was never started takes the count of what was: the handlers
are cancelled while that is still subscribed. -/
theorem counter_honest_stranger : ∃ (c : Config World Call Resp Fault) (w1 w2 : World),
    @Reach .sample .any .init c ∧ c.s.plain.isSome ∧
      @Op.Called .sample (.startNotification "A" "2a19" none none) c.s (.bool true) w1 ∧
      @Op.Called .sample (.stopNotification "A" "2a6e" none none) w1 (.bool true) w2 ∧
      c.s.subscribed [] w2 1 = true ∧ .call (.registerNotification (some 7) none) ∈ w1.since w2 ∧
      ¬ List.IsChain (World.Counts "A" (c.s.subscribed [])) [c.s, w1, w2] := by
  let _ := Gattlib.sample
  obtain ⟨c, hc, hP⟩ := (system .any).reach_of_run_any connectPlain (c := ⟨.init, [], none⟩)
    (P := fun c => c.s.plain.isSome &&
      ((Op.startNotification "A" "2a19" none none).callWith c.s [.void, .void, .code 0]).any
        fun (p : Ret × World) => p.1 == .bool true &&
          ((Op.stopNotification "A" "2a6e" none none).callWith p.2 [.void, .void, .code 0]).any
            fun (q : Ret × World) => q.1 == .bool true && (c.s.subscribed [] q.2 1 &&
              decide (Obs.call (.registerNotification (some 7) none) ∈ p.2.since q.2))) (by decide)
  simp only [Bool.and_eq_true, Option.any_eq_true, Prod.exists, decide_eq_true_eq, beq_iff_eq] at hP
  obtain ⟨hplain, r1, w1, h1, rfl, r2, w2, h2, rfl, hsub, hcancel⟩ := hP
  refine ⟨c, w1, w2, hc, hplain, Op.called_of_with h1, Op.called_of_with h2, hsub, hcancel,
    fun h => ?_⟩
  obtain ⟨-, h⟩ := List.isChain_cons_cons.mp h
  have hnone := (List.isChain_cons_cons.mp h).1.cancels (some 7) (.inl hcancel) 1
  rw [hsub] at hnone
  cases hnone

end Gattlibpp
