/-!
# Signed 64-bit words

Counters, scores, capacities and instants are integers that a store keeps in signed 64-bit words.
They are computed as plain integers here; this module states the range of a word and the two ways
in which a number outside that range becomes a word again:

* `saturate` goes to the nearer end of the range,
* `wrap` keeps the number modulo `2 ^ 64`.

Main statements: both always land in the range (`inRange_saturate`, `inRange_wrap`) and both leave
a word alone (`saturate_of_inRange`, `wrap_of_inRange`).
-/

namespace Throttle.Word

/-- The largest word, `2 ^ 63 - 1`. -/
def maxValue : Int := 9223372036854775807

/-- The smallest word, `-2 ^ 63`. -/
def minValue : Int := -9223372036854775808

def modulus : Nat := 18446744073709551616

/-- `n` fits a word. -/
def InRange (n : Int) : Prop := minValue ≤ n ∧ n ≤ maxValue

instance (n : Int) : Decidable (InRange n) := inferInstanceAs (Decidable (_ ∧ _))

/-- The word nearest to `n`. -/
def saturate (n : Int) : Int := max minValue (min n maxValue)

/-- The word that agrees with `n` modulo `2 ^ 64`. -/
def wrap (n : Int) : Int := n.bmod modulus

/-- Addition that stops at the ends of the range. -/
def add (a b : Int) : Int := saturate (a + b)

/-- Subtraction that stops at the ends of the range. -/
def sub (a b : Int) : Int := saturate (a - b)

/-- A number that is not negative has only one end of the range to fear. -/
theorem inRange_of_nonneg {n : Int} (nonneg : 0 ≤ n) (bounded : n ≤ maxValue) : InRange n :=
  ⟨Int.le_trans (by decide) nonneg, bounded⟩

theorem inRange_saturate (n : Int) : InRange (saturate n) := by
  unfold InRange saturate minValue maxValue
  omega

theorem saturate_of_inRange {n : Int} (h : InRange n) : saturate n = n := by
  unfold InRange at h
  unfold saturate
  omega

theorem inRange_wrap (n : Int) : InRange (wrap n) := by
  have lower := Int.le_bmod (x := n) (m := modulus) (by decide)
  have upper := Int.bmod_lt (x := n) (m := modulus) (by decide)
  unfold InRange wrap minValue maxValue
  unfold modulus at *
  omega

theorem wrap_of_inRange {n : Int} (h : InRange n) : wrap n = n := by
  unfold InRange minValue maxValue at h
  unfold wrap
  apply Int.bmod_eq_of_le <;> unfold modulus <;> omega

end Throttle.Word
