import Throttle.Word

/-!
# Decimal words

How a word is written in a store and read back.  `write` gives the digits without leading zeros,
after a minus sign for a negative number.  `read?` takes an optional sign and at least one ASCII
digit, nothing else, and refuses a number that is no word.

Main statement: a word reads back as itself (`read?_write`).
-/

namespace Throttle.Decimal

/-- Decimal digits of a natural number, most significant first. -/
def digits (n : Nat) : List Char := Nat.toDigits 10 n

/-- The value of a nonempty run of ASCII digits. -/
def natOfDigits? (cs : List Char) : Option Nat :=
  if cs ≠ [] ∧ cs.all Char.isDigit then some (Nat.ofDigitChars 10 cs 0) else none

/-- The characters of an integer: digits, after a minus sign where it is negative. -/
def chars : Int → List Char
  | .ofNat n => digits n
  | .negSucc n => '-' :: digits (n + 1)

/-- An integer with an optional sign, of any size. -/
def intOfChars? : List Char → Option Int
  | '-' :: cs => (natOfDigits? cs).map fun n => -(n : Int)
  | '+' :: cs => (natOfDigits? cs).map fun n => (n : Int)
  | cs => (natOfDigits? cs).map fun n => (n : Int)

def write (n : Int) : String := String.ofList (chars n)

def read? (text : String) : Option Int :=
  (intOfChars? text.toList).filter fun n => decide (Word.InRange n)

theorem natOfDigits?_digits (n : Nat) : natOfDigits? (digits n) = some n := by
  have isDigit : (digits n).all Char.isDigit = true :=
    List.all_eq_true.2 fun c h => Nat.isDigit_of_mem_toDigits (by decide) (by decide) h
  rw [natOfDigits?, if_pos ⟨Nat.toDigits_ne_nil, isDigit⟩, digits, Nat.ofDigitChars_ten_toDigits]

/-- A written number starts with a digit unless it starts with a minus sign. -/
theorem digits_eq_cons (n : Nat) : ∃ c cs, digits n = c :: cs ∧ c.isDigit = true := by
  cases h : digits n with
  | nil => exact absurd h Nat.toDigits_ne_nil
  | cons c cs =>
    exact ⟨c, cs, rfl, Nat.isDigit_of_mem_toDigits (b := 10) (n := n) (by decide) (by decide)
      (by unfold digits at h; simp [h])⟩

theorem intOfChars?_digits (n : Nat) : intOfChars? (digits n) = some (n : Int) := by
  obtain ⟨c, cs, eq, isDigit⟩ := digits_eq_cons n
  have minus : c ≠ '-' := by rintro rfl; simp at isDigit
  have plus : c ≠ '+' := by rintro rfl; simp at isDigit
  have value := natOfDigits?_digits n
  rw [eq] at value ⊢
  unfold intOfChars?
  split
  · rename_i h; exact absurd (List.cons.inj h).1 minus
  · rename_i h; exact absurd (List.cons.inj h).1 plus
  · simp [value]

theorem intOfChars?_chars (n : Int) : intOfChars? (chars n) = some n := by
  cases n with
  | ofNat n => exact intOfChars?_digits n
  | negSucc n =>
    simp [chars, intOfChars?, natOfDigits?_digits, Int.negSucc_eq]

theorem read?_write {n : Int} (h : Word.InRange n) : read? (write n) = some n := by
  simp [read?, write, intOfChars?_chars, h]

end Throttle.Decimal
