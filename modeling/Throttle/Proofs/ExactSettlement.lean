import Throttle.Proofs.Settlement

/-!
# Settling is exact

A bucket is settled in words: what accrues is cut to the largest word, a content stops at the ends of
the range when something is added or taken away, and times, products and counts must not leave the
range at all.  From what stores and limiters settle, none of this shows.

* `Bucket.settleExactly` is settling in plain integers, where nothing is cut,
* `Bucket.settleChecked` is settling in words, with no outcome where a plain operation overflows.

Main statement: `Bucket.settles_exactly`, the three agree, and what is left in a bucket stays between
nothing and its capacity.
-/

namespace Throttle

/-! ## Numbers that may leave their range -/

namespace Word

/-- `n` fits two words. -/
def InDoubleRange (n : Int) : Prop := -2 ^ 127 ≤ n ∧ n < 2 ^ 127

instance (n : Int) : Decidable (InDoubleRange n) := inferInstanceAs (Decidable (_ ∧ _))

def checked (n : Int) : Option Int := if InRange n then some n else none

def checkedDouble (n : Int) : Option Int := if InDoubleRange n then some n else none

end Word

/-- `accrued` with its product and its quotient in two words and its result in one. -/
def accruedChecked (elapsed perWindow window : Int) : Option Int :=
  if elapsed ≤ 0 ∨ window ≤ 0 ∨ perWindow ≤ 0 then some 0
  else do
    let product ← Word.checkedDouble (elapsed * perWindow)
    let units ← Word.checkedDouble (product / window)
    Word.checked (min units Word.maxValue)

theorem accruedChecked_eq {elapsed perWindow : Int} (elapsed_le : elapsed ≤ Word.maxValue)
    (perWindow_le : perWindow ≤ Word.maxValue) (window : Int) :
    accruedChecked elapsed perWindow window = some (accrued elapsed perWindow window) := by
  unfold accruedChecked accrued
  split
  · rfl
  · rename_i positive
    have product_nonneg : 0 ≤ elapsed * perWindow := Int.mul_nonneg (by omega) (by omega)
    have product_le : elapsed * perWindow ≤ Word.maxValue * Word.maxValue :=
      Int.mul_le_mul elapsed_le perWindow_le (by omega) (by decide)
    have units_nonneg : 0 ≤ elapsed * perWindow / window :=
      Int.ediv_nonneg product_nonneg (by omega)
    have units_le : elapsed * perWindow / window ≤ elapsed * perWindow :=
      Int.ediv_le_self window product_nonneg
    have square : Word.maxValue * Word.maxValue < 2 ^ 127 := by decide
    have product_fits : Word.InDoubleRange (elapsed * perWindow) := ⟨by omega, by omega⟩
    have units_fit : Word.InDoubleRange (elapsed * perWindow / window) := ⟨by omega, by omega⟩
    have cut_fits : Word.InRange (min (elapsed * perWindow / window) Word.maxValue) :=
      Word.inRange_of_nonneg (le_min units_nonneg (by decide)) (min_le_right _ _)
    rw [Word.checkedDouble, if_pos product_fits, Option.bind_eq_bind, Option.bind_some,
      Word.checkedDouble, if_pos units_fit, Option.bind_some, Word.checked, if_pos cut_fits]

namespace Bucket

def takeTokenChecked (tokens : Int) : Option BucketOutcome :=
  if tokens ≤ 0 then some ⟨false, tokens⟩ else (Word.checked (tokens - 1)).map (⟨true, ·⟩)

def addUnitChecked (capacity level : Int) : Option BucketOutcome :=
  if capacity ≤ level then some ⟨false, level⟩ else (Word.checked (level + 1)).map (⟨true, ·⟩)

/-- `settle` with the subtraction of times and the count of the request checked.  The content may be
    cut on the way, as in `settle`. -/
def settleChecked (b : Bucket) (content stamp : Option Int) (now : Int) : Option BucketOutcome := do
  let elapsed ← Word.checked (now - stamp.getD now)
  let gained ← accruedChecked elapsed b.capacity b.windowMillis
  match b.kind with
  | .tokens => takeTokenChecked (min (Word.add (content.getD b.capacity) gained) b.capacity)
  | .level => addUnitChecked b.capacity (max (Word.sub (content.getD 0) gained) 0)

theorem takeTokenChecked_eq {tokens : Int} (word : Word.InRange tokens) :
    takeTokenChecked tokens = some (takeToken tokens) := by
  unfold takeTokenChecked takeToken
  split
  · rfl
  · have fits : Word.InRange (tokens - 1) := by
      unfold Word.InRange Word.minValue Word.maxValue at *
      omega
    rw [Word.checked, if_pos fits, Option.map_some]

theorem addUnitChecked_eq {capacity level : Int} (bounded : Word.InRange capacity)
    (word : Word.InRange level) : addUnitChecked capacity level = some (addUnit capacity level) := by
  unfold addUnitChecked addUnit
  split
  · rfl
  · have fits : Word.InRange (level + 1) := by
      unfold Word.InRange Word.minValue Word.maxValue at *
      omega
    rw [Word.checked, if_pos fits, Option.map_some]

variable {b : Bucket} {content stamp : Option Int} {now : Int}

/-- Only the distance of the two times has to be a word: the contents are cut to the range. -/
theorem settleChecked_eq (elapsed : Word.InRange (now - stamp.getD now))
    (bounded : Word.InRange b.capacity) :
    b.settleChecked content stamp now = some (b.settle content stamp now) := by
  have gained : accruedChecked (now - stamp.getD now) b.capacity b.windowMillis = _ :=
    accruedChecked_eq elapsed.2 bounded.2 b.windowMillis
  rw [settleChecked, Word.checked, if_pos elapsed, Option.bind_eq_bind, Option.bind_some, gained,
    Option.bind_some, settle]
  cases b.kind with
  | tokens =>
    apply takeTokenChecked_eq
    have sum := Word.inRange_saturate
      (content.getD b.capacity + accrued (now - stamp.getD now) b.capacity b.windowMillis)
    exact ⟨le_min sum.1 bounded.1, (min_le_left _ _).trans sum.2⟩
  | level =>
    apply addUnitChecked_eq bounded
    have difference := Word.inRange_saturate
      (content.getD 0 - accrued (now - stamp.getD now) b.capacity b.windowMillis)
    exact ⟨difference.1.trans (le_max_left _ _), max_le difference.2 (by decide)⟩

/-! ## Plain integers -/

/-- The whole units that accrue from the stamp on, however many they are. -/
def gainedExactly (b : Bucket) (stamp : Option Int) (now : Int) : Int :=
  match stamp with
  | none => 0
  | some stamp => max 0 (now - stamp) * b.capacity / b.window.millis

def settleExactly (b : Bucket) (content stamp : Option Int) (now : Int) : BucketOutcome :=
  match b.kind with
  | .tokens =>
    let tokens := min b.capacity (content.getD b.capacity + b.gainedExactly stamp now)
    if 0 < tokens then ⟨true, tokens - 1⟩ else ⟨false, tokens⟩
  | .level =>
    let level := max 0 (content.getD 0 - b.gainedExactly stamp now)
    if level < b.capacity then ⟨true, level + 1⟩ else ⟨false, level⟩

/-- What a bucket is settled from: a capacity and a window as publishing accepts them, and no
    negative content, stamp or clock reading. -/
structure InBounds (b : Bucket) (content stamp : Option Int) (now : Int) : Prop where
  capacity : 1 ≤ b.capacity ∧ b.capacity ≤ Word.maxValue
  window : 1 ≤ b.window.millis ∧ (b.window.millis : Int) ≤ Word.maxValue
  content : ∀ n ∈ content, 0 ≤ n ∧ n ≤ Word.maxValue
  stamp : ∀ n ∈ stamp, 0 ≤ n ∧ n ≤ Word.maxValue
  now : 0 ≤ now ∧ now ≤ Word.maxValue

namespace InBounds

theorem windowMillis_eq (bounds : b.InBounds content stamp now) :
    b.windowMillis = b.window.millis :=
  Word.saturate_of_inRange (Word.inRange_of_nonneg (Int.natCast_nonneg _) bounds.window.2)

theorem inRange_capacity (bounds : b.InBounds content stamp now) : Word.InRange b.capacity := by
  obtain ⟨one_le, le⟩ := bounds.capacity
  exact Word.inRange_of_nonneg (by omega) le

theorem inRange_content (bounds : b.InBounds content stamp now) :
    ∀ n ∈ content, Word.InRange n := by
  intro n member
  obtain ⟨nonneg, le⟩ := bounds.content n member
  exact Word.inRange_of_nonneg nonneg le

theorem inRange_elapsed (bounds : b.InBounds content stamp now) :
    Word.InRange (now - stamp.getD now) := by
  have reading := bounds.now
  cases stamp with
  | none =>
    rw [Option.getD_none, Int.sub_self]
    decide
  | some stamp =>
    have stamped := bounds.stamp stamp rfl
    rw [Option.getD_some]
    unfold Word.InRange Word.minValue
    unfold Word.maxValue at *
    omega

theorem accrued_eq_min (bounds : b.InBounds content stamp now) :
    accrued (now - stamp.getD now) b.capacity b.windowMillis =
      min (b.gainedExactly stamp now) Word.maxValue := by
  have rate : 0 < b.capacity := by
    have := bounds.capacity
    omega
  have length : (0 : Int) < b.window.millis := by
    have := bounds.window
    omega
  rw [bounds.windowMillis_eq]
  cases stamp with
  | none =>
    rw [Option.getD_none, Int.sub_self]
    exact if_pos (.inl le_rfl)
  | some stamp =>
    rw [Option.getD_some, gainedExactly]
    rcases le_total 0 (now - stamp) with forward | back
    · rw [max_eq_right forward]
      exact accrued_eq forward rate length
    · rw [max_eq_left back, Int.zero_mul, Int.zero_ediv]
      exact if_pos (.inl back)

/-- Neither cut shows: the largest word covers the capacity from any content on. -/
theorem ready_eq (bounds : b.InBounds content stamp now) :
    b.ready content stamp now = min (b.spare content + b.gainedExactly stamp now) b.capacity := by
  have covered : b.capacity ≤ b.spare content + Word.maxValue := by
    obtain ⟨one_le, capacity_le⟩ := bounds.capacity
    unfold spare
    cases content with
    | none => cases b.kind <;> dsimp only [Option.getD_none] <;> omega
    | some n =>
      have held := bounds.content n rfl
      cases b.kind <;> dsimp only [Option.getD_some] <;> omega
  rw [ready, bounds.accrued_eq_min]
  omega

theorem settle_eq (bounds : b.InBounds content stamp now) :
    b.settle content stamp now = b.settleExactly content stamp now := by
  cases kind : b.kind with
  | tokens =>
    have tokens : b.ready content stamp now =
        min b.capacity (content.getD b.capacity + b.gainedExactly stamp now) := by
      simp only [bounds.ready_eq, spare, kind, min_comm]
    rw [settle_tokens kind bounds.inRange_content bounds.inRange_capacity, tokens]
    simp only [settleExactly, kind, takeToken, ← not_lt, ite_not]
  | level =>
    have level : b.capacity - b.ready content stamp now =
        max 0 (content.getD 0 - b.gainedExactly stamp now) := by
      simp only [bounds.ready_eq, spare, kind]
      omega
    rw [settle_level kind bounds.inRange_content, level]
    simp only [settleExactly, kind, addUnit, ← not_lt, ite_not]

end InBounds

/-- The most that a bucket may hold after it is settled.  A level above the capacity only drains. -/
def bound (b : Bucket) (content : Option Int) : Int :=
  match b.kind with
  | .tokens => b.capacity
  | .level => max (content.getD 0) b.capacity

theorem InBounds.content_settle (bounds : b.InBounds content stamp now) :
    0 ≤ (b.settle content stamp now).content ∧
      (b.settle content stamp now).content ≤ b.bound content := by
  have gained_nonneg : 0 ≤ b.gainedExactly stamp now := by
    have gained := accrued_nonneg (now - stamp.getD now) b.capacity b.windowMillis
    rw [bounds.accrued_eq_min] at gained
    exact gained.trans (min_le_left _ _)
  have capacity := bounds.capacity
  have held_nonneg : 0 ≤ content.getD b.capacity ∧ 0 ≤ content.getD 0 := by
    cases content with
    | none => exact ⟨by dsimp only [Option.getD_none]; omega, le_rfl⟩
    | some n => exact ⟨(bounds.content n rfl).1, (bounds.content n rfl).1⟩
  rw [bounds.settle_eq]
  cases kind : b.kind with
  | tokens =>
    simp only [settleExactly, bound, kind]
    split <;> dsimp only <;> omega
  | level =>
    simp only [settleExactly, bound, kind]
    split <;> dsimp only <;> omega

/-- **Settling is exact.**  A bucket with a capacity and a window that can be published is settled, at any
    clock reading and from any content and stamp that are not negative, as by plain integers: that sums
    stop at the ends of the range and that what accrues is cut to a word does not show.  No product of
    times and capacities leaves two words, no distance of times and no count of a request leaves one,
    and what is left is no less than nothing and no more than the bucket may hold. -/
theorem settles_exactly (bounds : b.InBounds content stamp now) :
    b.settle content stamp now = b.settleExactly content stamp now ∧
      b.settleChecked content stamp now = some (b.settle content stamp now) ∧
      0 ≤ (b.settle content stamp now).content ∧
      (b.settle content stamp now).content ≤ b.bound content :=
  ⟨bounds.settle_eq, settleChecked_eq bounds.inRange_elapsed bounds.inRange_capacity,
    bounds.content_settle⟩

/-- The largest bucket with the shortest window, after the longest time: nearly `2 ^ 126` tokens accrue
    on top of a full bucket. -/
theorem settles_exactly_at_ends :
    let b : Bucket := ⟨.tokens, "tokens", "refilled", 9223372036854775807, .ofMillis 1⟩
    let full : Option Int := some 9223372036854775807
    b.InBounds full (some 0) 9223372036854775807 ∧
      b.settle full (some 0) 9223372036854775807 = ⟨true, 9223372036854775806⟩ ∧
      b.settleChecked full (some 0) 9223372036854775807 = some ⟨true, 9223372036854775806⟩ := by
  intro b full
  have bounds : b.InBounds full (some 0) 9223372036854775807 :=
    ⟨by decide, by decide, by decide, by decide, by decide⟩
  obtain ⟨exact_outcome, checked, -⟩ := settles_exactly bounds
  have outcome : b.settle full (some 0) 9223372036854775807 = ⟨true, 9223372036854775806⟩ := by
    rw [exact_outcome]
    decide
  rw [outcome] at checked
  exact ⟨bounds, outcome, checked⟩

end Bucket

end Throttle
