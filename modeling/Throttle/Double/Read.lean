import Throttle.Decimal
import Throttle.Double.Basic

/-!
# Reading floating-point numbers

A number is written with an optional sign, digits with perhaps a point among them, and perhaps an
exponent; or it is one of the words for infinity and for the undefined number, in any mixture of
cases.
-/

namespace Throttle.Double

/-- The number of digits of an integer without leading zeros; none for zero. -/
def digitCount (n : Nat) : Nat := if n = 0 then 0 else (Decimal.digits n).length

/-- The number nearest to `significand * 10 ^ exponent`. -/
def ofDecimal (negative : Bool) (significand : Nat) (exponent : Int) : Double :=
  let size := exponent + digitCount significand
  if significand = 0 ∨ size < -330 then zero negative
  else if 330 < size then .infinite negative
  else if 0 ≤ exponent then nearest negative (significand * Nat.pow 10 exponent.toNat) 1
  else nearest negative significand (Nat.pow 10 (-exponent).toNat)

/-- An exponent, behind the `e`: an optional sign and digits to the end. -/
def exponent? : List Char → Option Int
  | '-' :: cs => (Decimal.natOfDigits? cs).map fun n => -(n : Int)
  | '+' :: cs => (Decimal.natOfDigits? cs).map fun n => (n : Int)
  | cs => (Decimal.natOfDigits? cs).map fun n => (n : Int)

def unsigned? (negative : Bool) (cs : List Char) : Option Double :=
  let lower := String.ofList (cs.map Char.toLower)
  if lower == "inf" || lower == "infinity" then some (.infinite negative)
  else if lower == "nan" then some .notANumber
  else
    let whole := cs.takeWhile Char.isDigit
    let behindWhole := cs.dropWhile Char.isDigit
    let (fraction, behind) := match behindWhole with
      | '.' :: rest => (rest.takeWhile Char.isDigit, rest.dropWhile Char.isDigit)
      | rest => ([], rest)
    if whole.isEmpty && fraction.isEmpty then none
    else
      let exponent := match behind with
        | [] => some 0
        | c :: rest => if c == 'e' || c == 'E' then exponent? rest else none
      exponent.map fun exponent =>
        ofDecimal negative (Nat.ofDigitChars 10 (whole ++ fraction) 0) (exponent - fraction.length)

def read? (cs : List Char) : Option Double :=
  match cs with
  | '-' :: rest => unsigned? true rest
  | '+' :: rest => unsigned? false rest
  | _ => unsigned? false cs

end Throttle.Double
