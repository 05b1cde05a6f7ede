import Throttle.Decimal
import Throttle.Double.Basic

/-!
# Writing floating-point numbers

A finite number is written with the fewest digits that read back as itself, and of those with the
nearest.  All its digits are written out, without an exponent, and a whole number has no point.
-/

namespace Throttle.Double

/-- The ends of the interval of ratios that a positive number is nearest to, over a common
    denominator with the number itself: lower end, number, upper end, denominator. -/
structure Interval where
  lower : Nat
  value : Nat
  upper : Nat
  denominator : Nat
  /-- The ends belong to the interval. -/
  closed : Bool

/-- The interval around a positive number.  Below a power of two the neighbours are half as far
    away. -/
def interval (significand : Nat) (exponent : Int) : Interval :=
  let (n, d) := magnitude 1 exponent
  let below := if significand = significandBound / 2 ∧ minExponent < exponent then 1 else 2
  { lower := (4 * significand - below) * n
    value := 4 * significand * n
    upper := (4 * significand + 2) * n
    denominator := 4 * d
    closed := significand % 2 = 0 }

namespace Interval

/-- `10 ^ power` times the number that the numerator `n` stands for, as a ratio. -/
def shifted (i : Interval) (n : Nat) (power : Int) : Nat × Nat :=
  if 0 ≤ power then (n * Nat.pow 10 power.toNat, i.denominator)
  else (n, i.denominator * Nat.pow 10 (-power).toNat)

/-- An integer lies in the interval times `10 ^ power`. -/
def holds (i : Interval) (candidate : Nat) (power : Int) : Bool :=
  let (lower, d) := i.shifted i.lower power
  let (upper, _) := i.shifted i.upper power
  if i.closed then decide (lower ≤ candidate * d) && decide (candidate * d ≤ upper)
  else decide (lower < candidate * d) && decide (candidate * d < upper)

/-- The integer nearest to the number times `10 ^ power` that lies in the interval, if one does. -/
def candidate? (i : Interval) (power : Int) : Option Nat :=
  let (n, d) := i.shifted i.value power
  let below := n / d
  let above := below + 1
  match i.holds below power, i.holds above power with
  | true, false => some below
  | false, true => some above
  | true, true =>
    let remainder := n % d
    if 2 * remainder < d ∨ (2 * remainder = d ∧ below % 2 = 0) then some below else some above
  | false, false => none

/-- The power of ten above the number, so that `10 ^ (top - 1) ≤ value < 10 ^ top`; found from a
    guess by counting down. -/
def top (i : Interval) : Int :=
  let whole := i.value / i.denominator
  if 0 < whole then (Decimal.digits whole).length
  else
    let inverse := (i.denominator + i.value - 1) / i.value
    1 - ((Decimal.digits (inverse - 1)).length : Int)

/-- The shortest digits in the interval, trying `tries` lengths from `count` on, with the power of
    ten that they are to be divided by. -/
def shortest (i : Interval) (top : Int) : Nat → Nat → Nat × Int
  | 0, count => (((i.shifted i.value (count - top)).1 / (i.shifted i.value (count - top)).2), count - top)
  | tries + 1, count =>
    match i.candidate? (count - top) with
    | some digits => (digits, count - top)
    | none => i.shortest top tries (count + 1)

end Interval

/-- The digits of `n / 10 ^ places`, with a point where it is not whole. -/
def positional (n : Nat) (places : Int) : List Char :=
  if places ≤ 0 then Decimal.digits (n * Nat.pow 10 (-places).toNat)
  else
    let places := places.toNat
    let whole := Decimal.digits (n / Nat.pow 10 places)
    let fraction := Decimal.digits (n % Nat.pow 10 places)
    let padded := List.replicate (places - fraction.length) '0' ++ fraction
    let trimmed := (padded.reverse.dropWhile (· == '0')).reverse
    if trimmed.isEmpty then whole else whole ++ '.' :: trimmed

def chars : Double → List Char
  | notANumber => "NaN".toList
  | infinite negative => (if negative then ['-'] else []) ++ "inf".toList
  | finite negative significand exponent =>
    (if negative then ['-'] else []) ++
      (if significand = 0 then ['0']
      else
        let i := interval significand exponent
        let (digits, places) := i.shortest i.top 17 1
        positional digits places)

def write (x : Double) : String := String.ofList x.chars

end Throttle.Double
