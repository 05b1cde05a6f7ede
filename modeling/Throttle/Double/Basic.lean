/-!
# Floating-point numbers

Binary floating-point numbers with 53 significant bits, as settings and documents may hold them.
They are read, written, compared and rounded to integers, but never computed with, so a number is
kept as its sign, its significand and its exponent.

`Double.nearest` gives the number nearest to a ratio; of two that are equally near it takes the one
with an even significand.
-/

namespace Throttle

/-- A floating-point number.  A finite one stands for `significand * 2 ^ exponent`, and its
    significand has 53 bits unless its exponent is the least one. -/
inductive Double
  | finite (negative : Bool) (significand : Nat) (exponent : Int)
  | infinite (negative : Bool)
  | notANumber
  deriving DecidableEq, Repr

namespace Double

def minExponent : Int := -1074

def maxExponent : Int := 971

def significandBound : Nat := Nat.pow 2 53

def zero (negative : Bool) : Double := .finite negative 0 minExponent

/-- The quotient rounded to the nearest integer, a half to the even one. -/
def roundedQuotient (numerator denominator : Nat) : Nat :=
  let quotient := numerator / denominator
  let remainder := numerator % denominator
  if 2 * remainder < denominator ∨ (2 * remainder = denominator ∧ quotient % 2 = 0) then quotient
  else quotient + 1

/-- `numerator / denominator / 2 ^ exponent` as a ratio. -/
def scaledRatio (numerator denominator : Nat) (exponent : Int) : Nat × Nat :=
  if 0 ≤ exponent then (numerator, denominator * Nat.pow 2 exponent.toNat)
  else (numerator * Nat.pow 2 (-exponent).toNat, denominator)

/-- The exponent with which the significand of a positive ratio has 53 bits, or the least one. -/
def exponentOf (numerator denominator : Nat) : Int :=
  let guess : Int := (numerator.log2 : Int) - denominator.log2 - 52
  let (n, d) := scaledRatio numerator denominator guess
  max minExponent (if n / d < significandBound / 2 then guess - 1 else guess)

def nearest (negative : Bool) (numerator denominator : Nat) : Double :=
  if numerator = 0 then zero negative
  else
    let exponent := exponentOf numerator denominator
    let (n, d) := scaledRatio numerator denominator exponent
    let significand := roundedQuotient n d
    let (significand, exponent) :=
      if significand = significandBound then (significandBound / 2, exponent + 1)
      else (significand, exponent)
    if maxExponent < exponent then .infinite negative else .finite negative significand exponent

def ofInt (n : Int) : Double := nearest (decide (n < 0)) n.natAbs 1

def ofBits (bits : UInt64) : Double :=
  let n : Nat := bits.toNat
  let negative := decide (n / Nat.pow 2 63 = 1)
  let biased : Nat := n / Nat.pow 2 52 % 2048
  let fraction : Nat := n % Nat.pow 2 52
  if biased = 2047 then (if fraction = 0 then .infinite negative else .notANumber)
  else if biased = 0 then .finite negative fraction minExponent
  else .finite negative (Nat.pow 2 52 + fraction) ((biased : Int) - 1075)

/-- The number is zero, of either sign. -/
def isZero : Double → Bool
  | finite _ significand _ => significand == 0
  | _ => false

/-- The number is neither infinite nor undefined. -/
def isFinite : Double → Bool
  | finite _ _ _ => true
  | _ => false

/-- Two numbers stand for the same: zero has one value, and undefined is the same as itself. -/
def same (x y : Double) : Bool := (x.isZero && y.isZero) || x == y

/-- The absolute value of a finite number as a ratio. -/
def magnitude (significand : Nat) (exponent : Int) : Nat × Nat :=
  if 0 ≤ exponent then (significand * Nat.pow 2 exponent.toNat, 1)
  else (significand, Nat.pow 2 (-exponent).toNat)

/-- The natural number up to a bound that is nearest, a half away from zero.  What is negative or
    undefined counts as zero. -/
def roundTo (bound : Nat) : Double → Nat
  | finite true _ _ | infinite true | notANumber => 0
  | infinite false => bound
  | finite false significand exponent =>
    let (n, d) := magnitude significand exponent
    min bound ((2 * n + d) / (2 * d))

end Double

end Throttle
