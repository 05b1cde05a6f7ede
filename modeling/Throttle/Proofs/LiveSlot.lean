import Throttle.Store.Memory

/-!
# What a store in memory holds

An expired slot stays in its table until something drops it: a read of its key, a purge, or a sweep
that an access to any other key sets off.  `Memory.liveSlot` is what a key holds at an instant,
whether or not anything has been dropped, and `Memory.Keeps` says that a step left a key alone or
dropped a slot that was over.

Main statements:

* `liveSlot_access`, `readScalar_fst` and `liveSlot_writeScalar` say what an operation does to its
  own key,
* `keeps_access`, `keeps_readScalar` and `keeps_purge` say that it does nothing to any other,
* `Keeps.liveSlot` says that what is kept looks the same from then on,
* `InPlace.of_keeps` and `InPlace.access` say how a property of all slots in place is kept.
-/

namespace Throttle

namespace Slot

/-- What is left of a slot at an instant: nothing, unless it is live. -/
def aged (now : Int) (s : Slot) : Slot := if s.live now then s else .vacant

theorem aged_of_live {now : Int} {s : Slot} (alive : s.live now = true) : s.aged now = s :=
  if_pos alive

theorem aged_of_not_live {now : Int} {s : Slot} (dead : s.live now = false) :
    s.aged now = .vacant := by
  simp [aged, dead]

theorem aged_of_expired {now : Int} {s : Slot} (dead : s.expired now = true) :
    s.aged now = .vacant :=
  aged_of_not_live (by simp [live, dead])

theorem aged_of_none {now : Int} {s : Slot} (empty : s.value = none) : s.aged now = .vacant :=
  aged_of_not_live (by simp [live, empty])

@[simp] theorem aged_vacant (now : Int) : vacant.aged now = vacant := by
  unfold aged
  split <;> rfl

theorem live_of_live_later {now later : Int} {s : Slot} (order : now ≤ later)
    (alive : s.live later = true) : s.live now = true := by
  unfold live expired at *
  cases deadline : s.deadline with
  | none => simpa [deadline] using alive
  | some d =>
    simp only [deadline, Bool.and_eq_true, Bool.not_eq_true', decide_eq_false_iff_not] at alive ⊢
    exact ⟨alive.1, by omega⟩

theorem aged_aged {now later : Int} (order : now ≤ later) (s : Slot) :
    (s.aged now).aged later = s.aged later := by
  cases alive : s.live now with
  | true => rw [aged_of_live alive]
  | false =>
    -- Time only moves forward here, so what is over stays over.
    have dead : s.live later = false := by
      cases later_alive : s.live later with
      | false => rfl
      | true => rw [live_of_live_later order later_alive] at alive; exact absurd alive (by decide)
    rw [aged_of_not_live alive, aged_of_not_live dead, aged_vacant]

theorem live_aged {now : Int} {s : Slot} (held : (s.aged now).value.isSome) :
    s.live now = true := by
  cases alive : s.live now with
  | true => rfl
  | false => rw [aged_of_not_live alive] at held; exact absurd held (by decide)

theorem eq_of_aged_eq {now : Int} {s t : Slot} (same : s.aged now = t) (held : t.value.isSome) :
    s = t := by
  rw [← same] at held ⊢
  exact (aged_of_live (live_aged held)).symm

/-- The scalar of a slot, as a read of its key answers. -/
def readText (key : String) (s : Slot) : Except LimiterError (Option String) :=
  match s.value with
  | none => .ok none
  | some (.scalar text) => .ok (some text)
  | some (.sorted _) => .error (.wrongKind key)

end Slot

namespace Memory

variable {now later : Int} {key other : String} {m after last : Memory}

def rawSlot (m : Memory) (key : String) : Slot := (m.slots.get? key).getD .vacant

/-- What a key holds at an instant. -/
def liveSlot (now : Int) (m : Memory) (key : String) : Slot := (m.rawSlot key).aged now

theorem slotAt_eq (now : Int) (m : Memory) (key : String) :
    m.slotAt now key = if (m.rawSlot key).expired now then .vacant else m.rawSlot key := by
  unfold slotAt rawSlot
  cases m.slots.get? key <;> rfl

theorem liveSlot_eq_aged_slotAt (now : Int) (m : Memory) (key : String) :
    m.liveSlot now key = (m.slotAt now key).aged now := by
  rw [slotAt_eq, liveSlot]
  split
  · rename_i dead
    rw [Slot.aged_vacant, Slot.aged_of_expired dead]
  · rfl

theorem expired_slotAt (now : Int) (m : Memory) (key : String) :
    (m.slotAt now key).expired now = false := by
  rw [slotAt_eq]
  split
  · rfl
  · rename_i fresh
    simpa using fresh

theorem live_liveSlot (held : (m.liveSlot now key).value.isSome) :
    (m.liveSlot now key).live now = true := by
  have alive : (m.rawSlot key).live now = true := Slot.live_aged held
  rw [liveSlot, Slot.aged_of_live alive, alive]

/-- An access finds what the key holds; only a slot without a value may look different. -/
theorem slotAt_eq_liveSlot (held : (m.slotAt now key).value.isSome) :
    m.slotAt now key = m.liveSlot now key := by
  rw [liveSlot_eq_aged_slotAt, Slot.aged_of_live]
  simp [Slot.live, held, expired_slotAt]

theorem value_slotAt (now : Int) (m : Memory) (key : String) :
    (m.slotAt now key).value = (m.liveSlot now key).value := by
  cases held : (m.slotAt now key).value with
  | some value => rw [← slotAt_eq_liveSlot (by rw [held]; rfl), held]
  | none =>
    rw [liveSlot_eq_aged_slotAt, Slot.aged_of_none held]
    rfl

/-- What looks at the value of a slot first sees no difference at all. -/
theorem apply_slotAt {α : Type} (f : Slot → α) (vacant : ∀ s : Slot, s.value = none → f s = f .vacant) :
    f (m.slotAt now key) = f (m.liveSlot now key) := by
  -- Without a value the two slots may still differ in their deadlines, which `f` does not see.
  cases held : (m.slotAt now key).value with
  | some value => rw [slotAt_eq_liveSlot (by rw [held]; rfl)]
  | none =>
    have empty : (m.liveSlot now key).value = none := by rw [← value_slotAt, held]
    rw [vacant _ held, vacant _ empty]

/-! ## Being left alone -/

/-- Between two states of the store a key was left alone, or its slot was over and was dropped. -/
def Keeps (now : Int) (key : String) (m after : Memory) : Prop :=
  after.slots.get? key = m.slots.get? key ∨
    after.slots.get? key = none ∧ m.liveSlot now key = .vacant

theorem Keeps.refl (now : Int) (key : String) (m : Memory) : Keeps now key m m := .inl rfl

theorem Keeps.liveSlot (kept : Keeps now key m after) (order : now ≤ later) :
    after.liveSlot later key = m.liveSlot later key := by
  cases kept with
  | inl same => simp only [Memory.liveSlot, rawSlot, same]
  | inr dropped =>
    obtain ⟨gone, dead⟩ := dropped
    -- What was dropped was over at `now`, and so it is at `later`.
    have before : m.liveSlot later key = .vacant := by
      rw [Memory.liveSlot, ← Slot.aged_aged order]
      exact (congrArg (Slot.aged later) dead).trans (Slot.aged_vacant later)
    rw [before, Memory.liveSlot, rawSlot, gone]
    exact Slot.aged_vacant later

theorem Keeps.rawSlot_eq (kept : Keeps now key m after) (alive : (m.rawSlot key).live now = true) :
    after.rawSlot key = m.rawSlot key := by
  cases kept with
  | inl same => rw [rawSlot, rawSlot, same]
  | inr dropped =>
    have dead := dropped.2
    rw [Memory.liveSlot, Slot.aged_of_live alive] at dead
    rw [dead] at alive
    exact absurd alive (by simp [Slot.live, Slot.vacant])

theorem Keeps.trans (first : Keeps now key m after) (second : Keeps now key after last) :
    Keeps now key m last := by
  have same := first.liveSlot (Int.le_refl now)
  cases second with
  | inl unchanged =>
    cases first with
    | inl equal => exact .inl (unchanged.trans equal)
    | inr dropped => exact .inr ⟨unchanged.trans dropped.1, dropped.2⟩
  | inr dropped => exact .inr ⟨dropped.1, same ▸ dropped.2⟩

/-! ## Purging and sweeping -/

theorem get?_purge (now : Int) (m : Memory) (key : String) :
    (m.purge now).2.slots.get? key = (m.slots.get? key).filter (·.live now) :=
  Table.get?_filter _ _ _

/-- A purge makes the lapse of time visible: it leaves of every slot what is live. -/
theorem rawSlot_purge (now : Int) (m : Memory) (key : String) :
    (m.purge now).2.rawSlot key = m.liveSlot now key := by
  rw [liveSlot, rawSlot, rawSlot, get?_purge]
  cases m.slots.get? key with
  | none => exact (Slot.aged_vacant now).symm
  | some s =>
    rw [Option.getD_some]
    cases alive : s.live now with
    | true => simp [Option.filter, alive, Slot.aged_of_live]
    | false => simp [Option.filter, alive, Slot.aged_of_not_live]

theorem keeps_purge (now : Int) (key : String) (m : Memory) : Keeps now key m (m.purge now).2 := by
  rw [Keeps, get?_purge, Memory.liveSlot, rawSlot]
  cases m.slots.get? key with
  | none => exact .inl rfl
  | some s =>
    cases alive : s.live now with
    | true => exact .inl (by simp [Option.filter, alive])
    | false =>
      refine .inr ⟨by simp [Option.filter, alive], ?_⟩
      exact Slot.aged_of_not_live alive

theorem keeps_tick (now : Int) (key : String) (m : Memory) : Keeps now key m (m.tick now) := by
  unfold tick
  split
  · exact keeps_purge now key { m with accesses := m.accesses + 1 }
  · exact .inl rfl

/-! ## Accesses -/

theorem get?_putSlot (m : Memory) (key other : String) (s : Slot) :
    (m.putSlot key s).slots.get? other =
      if other = key then (if s.value.isNone then none else some s) else m.slots.get? other := by
  unfold putSlot
  cases s.value with
  | none => simp [Table.get?_erase]
  | some value => simp [Table.get?_insert]

theorem keeps_putSlot (differ : other ≠ key) (s : Slot) :
    Keeps now other m (m.putSlot key s) :=
  .inl (by rw [get?_putSlot, if_neg differ])

theorem keeps_access {α : Type} (f : Slot → α × Slot) (differ : other ≠ key) :
    Keeps now other m (m.access now key f).2 :=
  (keeps_putSlot differ _).trans (keeps_tick now other _)

theorem liveSlot_putSlot (now : Int) (m : Memory) (key : String) (s : Slot) :
    (m.putSlot key s).liveSlot now key = s.aged now := by
  rw [liveSlot, rawSlot, get?_putSlot, if_pos rfl]
  cases held : s.value with
  | none => exact (Slot.aged_of_none held).symm
  | some value => rfl

theorem liveSlot_access {α : Type} (now : Int) (m : Memory) (key : String) (f : Slot → α × Slot) :
    (m.access now key f).2.liveSlot now key = (f (m.slotAt now key)).2.aged now := by
  -- The sweep comes after the slot is put back, and keeps it if it is live.
  rw [← liveSlot_putSlot now m key]
  exact (keeps_tick now key _).liveSlot (Int.le_refl now)

/-! ## Properties of what is in place -/

/-- Every slot that is in place has a property, even if it is over. -/
def InPlace (P : Slot → Prop) (m : Memory) : Prop := ∀ key s, m.slots.get? key = some s → P s

namespace InPlace

variable {P : Slot → Prop}

theorem of_keeps (inPlace : m.InPlace P) (kept : ∀ key, Keeps now key m after) :
    after.InPlace P := by
  intro key s found
  rcases kept key with same | dropped
  · exact inPlace key s (same ▸ found)
  · rw [dropped.1] at found
    cases found

theorem slotAt (inPlace : m.InPlace P) (vacant : P .vacant) (now : Int) (key : String) :
    P (m.slotAt now key) := by
  unfold Memory.slotAt
  split
  · rename_i s found
    split
    · exact vacant
    · exact inPlace key s found
  · exact vacant

/-- An access has to give the property to what it puts in place; a vacant slot it does not. -/
theorem access {α : Type} {f : Slot → α × Slot} (inPlace : m.InPlace P)
    (put : (f (m.slotAt now key)).2.value.isSome → P (f (m.slotAt now key)).2) :
    (m.access now key f).2.InPlace P := by
  refine of_keeps (m := m.putSlot key (f (m.slotAt now key)).2) ?_ fun other =>
    keeps_tick now other _
  intro other s found
  rw [get?_putSlot] at found
  split at found
  · split at found
    · cases found
    · rename_i occupied
      cases found
      exact put (by simpa [Option.isSome_iff_ne_none] using occupied)
  · exact inPlace other s found

end InPlace

/-! ## Scalars -/

theorem readScalar_fst (now : Int) (m : Memory) (key : String) :
    (m.readScalar now key).1 = (m.liveSlot now key).readText key := by
  unfold readScalar liveSlot rawSlot
  split
  · rename_i missing
    rw [missing, Option.getD_none, Slot.aged_vacant]
    rfl
  · rename_i s found
    rw [found, Option.getD_some]
    split
    · rename_i dead
      rw [Slot.aged_of_expired dead]
      rfl
    · rename_i fresh
      cases held : s.value with
      | none =>
        rw [Slot.aged_of_none held]
        rfl
      | some value =>
        rw [Slot.aged_of_live (by simp [Slot.live, held, fresh])]
        cases value <;> simp [Slot.readText, held]

/-- A read leaves every key alone, its own included. -/
theorem keeps_readScalar (now : Int) (m : Memory) (key other : String) :
    Keeps now other m (m.readScalar now key).2 := by
  unfold readScalar
  split
  · exact .refl now other m
  · rename_i s found
    split
    · rename_i dead
      rw [Keeps, Table.get?_erase]
      -- The slot that is read may be dropped, but only where it is over.
      split
      · rename_i same
        refine .inr ⟨rfl, ?_⟩
        rw [same, liveSlot, rawSlot, found]
        exact Slot.aged_of_expired dead
      · exact .inl rfl
    · split <;> exact .refl now other m

theorem keeps_writeScalar (text : String) (lifetime : Option Duration) (differ : other ≠ key) :
    Keeps now other m (m.writeScalar now key text lifetime) :=
  keeps_access _ differ

theorem liveSlot_writeScalar (now : Int) (m : Memory) (key text : String)
    (lifetime : Option Duration) :
    (m.writeScalar now key text lifetime).liveSlot now key =
      Slot.aged now ⟨some (.scalar text), lifetime.map (deadlineAfter now)⟩ :=
  liveSlot_access now m key _

end Memory

end Throttle
