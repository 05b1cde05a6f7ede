import Mathlib.Algebra.Order.Ring.Int
import Throttle.Bucket

/-!
# Settling a bucket

Tokens and level are two readings of one number, the requests that a bucket could admit on the spot:
the tokens it holds, or the room above its level.  Settled, either kind has as many to spare as it
had before plus what accrued, but no more than its capacity; it admits when that is positive, and an
admission takes one.

Main statements: `admitted_settle` and `spare_settle`, `accrued_le` for what accrues while a clock
moves forward, and `ready_of_idle`: after an idle window a bucket is as good as fresh.
-/

namespace Throttle

/-! ## What accrues -/

theorem accrued_nonneg (elapsed perWindow window : Int) : 0 ≤ accrued elapsed perWindow window := by
  unfold accrued
  split
  · exact Int.le_refl 0
  · rename_i positive
    rw [not_or, not_or, not_le, not_le, not_le] at positive
    have units : 0 ≤ elapsed * perWindow / window :=
      Int.ediv_nonneg (Int.mul_nonneg (by omega) (by omega)) (by omega)
    exact le_min units (by decide)

theorem accrued_eq {elapsed perWindow window : Int} (forward : 0 ≤ elapsed) (rate : 0 < perWindow)
    (length : 0 < window) :
    accrued elapsed perWindow window = min (elapsed * perWindow / window) Word.maxValue := by
  rcases Int.lt_or_eq_of_le forward with later | still
  · exact if_neg (by omega)
  · subst still
    rw [Int.zero_mul, Int.zero_ediv]
    exact if_pos (.inl le_rfl)

theorem accrued_le {elapsed moved perWindow window : Int} (within : elapsed ≤ moved)
    (forward : 0 ≤ moved) (rate : 0 ≤ perWindow) (length : 0 < window) :
    accrued elapsed perWindow window ≤ moved * perWindow / window := by
  unfold accrued
  split
  · exact Int.ediv_nonneg (Int.mul_nonneg forward rate) (by omega)
  · have units : elapsed * perWindow ≤ moved * perWindow := Int.mul_le_mul_of_nonneg_right within rate
    exact le_trans (min_le_left _ _) (Int.ediv_le_ediv length units)

/-- In a whole window the whole capacity accrues. -/
theorem le_accrued {elapsed perWindow window : Int} (idle : window ≤ elapsed) (rate : 0 < perWindow)
    (word : perWindow ≤ Word.maxValue) (length : 0 < window) :
    perWindow ≤ accrued elapsed perWindow window := by
  have units : perWindow ≤ elapsed * perWindow / window := by
    apply Int.le_ediv_of_mul_le length
    rw [Int.mul_comm]
    exact Int.mul_le_mul_of_nonneg_right idle (by omega)
  unfold accrued
  rw [if_neg (by omega)]
  exact le_min units word

/-- Time that is split accrues no more than time in one piece. -/
theorem sum_accrual_le {perWindow window : Int} (length : 0 < window) (gaps : List Int) :
    (gaps.map fun gap => gap * perWindow / window).sum ≤ gaps.sum * perWindow / window := by
  induction gaps with
  | nil => simp
  | cons gap gaps ih =>
    rw [List.map_cons, List.sum_cons, List.sum_cons, Int.add_mul]
    -- Two floors that are multiplied back stay below the product under the one floor.
    have first := Int.ediv_mul_le (gap * perWindow) (by omega : window ≠ 0)
    have rest := Int.ediv_mul_le (gaps.sum * perWindow) (by omega : window ≠ 0)
    have both : gap * perWindow / window + gaps.sum * perWindow / window ≤
        (gap * perWindow + gaps.sum * perWindow) / window := by
      apply Int.le_ediv_of_mul_le length
      rw [Int.add_mul]
      omega
    omega

/-! ## What is to spare -/

namespace Bucket

/-- The requests a bucket could admit at once, if no more accrued.  Without a content it is fresh. -/
def spare (b : Bucket) (content : Option Int) : Int :=
  match b.kind with
  | .tokens => content.getD b.capacity
  | .level => b.capacity - content.getD 0

/-- The requests a bucket could admit at once after it is brought forward to `now`. -/
def ready (b : Bucket) (content stamp : Option Int) (now : Int) : Int :=
  min (b.spare content + accrued (now - stamp.getD now) b.capacity b.windowMillis) b.capacity

variable {b : Bucket} {content stamp : Option Int} {now : Int}

theorem inRange_getD {start : Int} (word : ∀ n ∈ content, Word.InRange n)
    (bounded : Word.InRange start) : Word.InRange (content.getD start) := by
  cases content with
  | none => exact bounded
  | some n => exact word n rfl

theorem ready_le_capacity (b : Bucket) (content stamp : Option Int) (now : Int) :
    b.ready content stamp now ≤ b.capacity :=
  min_le_right _ _

theorem ready_nonneg (spare : 0 ≤ b.spare content) (capacity : 0 ≤ b.capacity) :
    0 ≤ b.ready content stamp now := by
  have gained := accrued_nonneg (now - stamp.getD now) b.capacity b.windowMillis
  unfold ready
  omega

theorem ready_fresh (b : Bucket) (stamp : Option Int) (now : Int) :
    b.ready none stamp now = b.capacity := by
  have gained := accrued_nonneg (now - stamp.getD now) b.capacity b.windowMillis
  have full : b.spare none = b.capacity := by
    unfold spare
    cases b.kind with
    | tokens => rfl
    | level => exact Int.sub_zero _
  unfold ready
  omega

/-- After an idle window a bucket is as good as fresh. -/
theorem ready_of_idle {last : Int} (spare : 0 ≤ b.spare content) (capacity : 0 < b.capacity)
    (word : b.capacity ≤ Word.maxValue) (length : 0 < b.windowMillis)
    (idle : b.windowMillis ≤ now - last) : b.ready content (some last) now = b.capacity := by
  have gained : b.capacity ≤ accrued (now - last) b.capacity b.windowMillis :=
    le_accrued idle capacity word length
  rw [ready, Option.getD_some]
  omega

/-- The outcome of settling tokens in terms of what is ready.  The sums never leave the range of
    words in a way that shows: what overflows upwards is cut to the capacity anyway. -/
theorem settle_tokens (tokens : b.kind = .tokens) (word : ∀ n ∈ content, Word.InRange n)
    (bounded : Word.InRange b.capacity) :
    b.settle content stamp now = takeToken (b.ready content stamp now) := by
  have gained := accrued_nonneg (now - stamp.getD now) b.capacity b.windowMillis
  have before := inRange_getD word bounded
  -- Word arithmetic unfolds to minima and maxima, which `omega` splits.
  simp only [settle, ready, spare, tokens]
  congr 1
  unfold Word.InRange Word.minValue Word.maxValue at *
  unfold Word.add Word.saturate Word.minValue Word.maxValue
  omega

/-- The outcome of settling a level: its room is what is ready. -/
theorem settle_level (level : b.kind = .level) (word : ∀ n ∈ content, Word.InRange n) :
    b.settle content stamp now =
      addUnit b.capacity (b.capacity - b.ready content stamp now) := by
  have gained := accrued_nonneg (now - stamp.getD now) b.capacity b.windowMillis
  have before : Word.InRange (content.getD 0) := inRange_getD word (by decide)
  simp only [settle, ready, spare, level]
  congr 1
  unfold Word.InRange Word.minValue Word.maxValue at *
  unfold Word.sub Word.saturate Word.minValue Word.maxValue
  omega

/-- A bucket admits exactly when it has something ready. -/
theorem admitted_settle (word : ∀ n ∈ content, Word.InRange n) (bounded : Word.InRange b.capacity) :
    (b.settle content stamp now).admitted = decide (0 < b.ready content stamp now) := by
  cases kind : b.kind with
  | tokens =>
    rw [settle_tokens kind word bounded]
    unfold takeToken
    split <;> simp <;> omega
  | level =>
    rw [settle_level kind word]
    unfold addUnit
    split <;> simp <;> omega

theorem spare_settle (word : ∀ n ∈ content, Word.InRange n) (bounded : Word.InRange b.capacity) :
    b.spare (some (b.settle content stamp now).content) =
      b.ready content stamp now - (b.settle content stamp now).admitted.toInt := by
  cases kind : b.kind with
  | tokens =>
    rw [settle_tokens kind word bounded]
    simp only [spare, kind, takeToken, Option.getD_some]
    split <;> simp
  | level =>
    rw [settle_level kind word]
    simp only [spare, kind, addUnit, Option.getD_some]
    split <;> simp
    omega

/-- What is ready decides the whole outcome. -/
theorem settle_eq_of_ready_eq {content' stamp' : Option Int} (word : ∀ n ∈ content, Word.InRange n)
    (word' : ∀ n ∈ content', Word.InRange n) (bounded : Word.InRange b.capacity)
    (same : b.ready content stamp now = b.ready content' stamp' now) :
    b.settle content stamp now = b.settle content' stamp' now := by
  cases kind : b.kind with
  | tokens => rw [settle_tokens kind word bounded, settle_tokens kind word' bounded, same]
  | level => rw [settle_level kind word, settle_level kind word', same]

/-- Tokens and the level that complements them to the capacity are settled alike. -/
theorem settle_complement {b' : Bucket} (tokens : b.kind = .tokens) (level : b'.kind = .level)
    (capacity : b'.capacity = b.capacity) (window : b'.window = b.window)
    (bounded : Word.InRange b.capacity) (word : ∀ n ∈ content, Word.InRange n)
    (word' : ∀ n ∈ content.map (b.capacity - ·), Word.InRange n) :
    b'.settle (content.map (b.capacity - ·)) stamp now =
      ⟨(b.settle content stamp now).admitted, b.capacity - (b.settle content stamp now).content⟩ := by
  have bounded' : Word.InRange b'.capacity := by
    rw [capacity]
    exact bounded
  have spare : b'.spare (content.map (b.capacity - ·)) = b.spare content := by
    simp only [Bucket.spare, tokens, level, capacity]
    cases content with
    | none => exact Int.sub_zero _
    | some n => exact Int.sub_sub_self _ _
  have ready : b'.ready (content.map (b.capacity - ·)) stamp now = b.ready content stamp now := by
    rw [Bucket.ready, Bucket.ready, spare, capacity, windowMillis, windowMillis, window]
  have admitted : (b'.settle (content.map (b.capacity - ·)) stamp now).admitted =
      (b.settle content stamp now).admitted := by
    rw [admitted_settle word bounded, admitted_settle word' bounded', ready]
  -- Both have the same to spare afterwards, which one holds as content and the other as room.
  have left : b.spare (some (b.settle content stamp now).content) = _ := spare_settle word bounded
  have left' : b'.spare (some (b'.settle (content.map (b.capacity - ·)) stamp now).content) = _ :=
    spare_settle word' bounded'
  rw [ready, admitted, ← left] at left'
  simp only [Bucket.spare, tokens, level, capacity, Option.getD_some] at left'
  have content_eq : (b'.settle (content.map (b.capacity - ·)) stamp now).content =
      b.capacity - (b.settle content stamp now).content := by
    omega
  rw [← admitted, ← content_eq]

theorem spare_settle_nonneg (word : ∀ n ∈ content, Word.InRange n)
    (bounded : Word.InRange b.capacity) (ready : 0 ≤ b.ready content stamp now) :
    0 ≤ b.spare (some (b.settle content stamp now).content) := by
  rw [spare_settle word bounded, admitted_settle word bounded]
  -- An admission takes one only where one is ready.
  by_cases some_ready : 0 < b.ready content stamp now
  · rw [decide_eq_true some_ready, Bool.toInt_true]
    omega
  · rw [decide_eq_false some_ready, Bool.toInt_false]
    omega

theorem inRange_settle (word : ∀ n ∈ content, Word.InRange n) (bounded : Word.InRange b.capacity) :
    Word.InRange (b.settle content stamp now).content := by
  have gained := accrued_nonneg (now - stamp.getD now) b.capacity b.windowMillis
  cases kind : b.kind with
  | tokens =>
    have before := inRange_getD word bounded
    rw [settle_tokens kind word bounded]
    simp only [ready, spare, kind, takeToken]
    unfold Word.InRange Word.minValue Word.maxValue at *
    split <;> dsimp only <;> omega
  | level =>
    have before : Word.InRange (content.getD 0) := inRange_getD word (by decide)
    rw [settle_level kind word]
    simp only [ready, spare, kind, addUnit]
    unfold Word.InRange Word.minValue Word.maxValue at *
    split <;> dsimp only <;> omega

end Bucket

end Throttle
