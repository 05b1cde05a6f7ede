/-!
# JSON numbers

A number keeps the digits it is written with; what it stands for is decided by `Numeral.value?`.
Without a fraction or an exponent it is an integer where 64 bits are enough.  Everything else is a
floating-point number, got from the first digits that fit 64 bits and a power of ten; one that is
too large to be finite stands for nothing.
-/

namespace Throttle.Json

/-- A number as it is written. -/
structure Numeral where
  negative : Bool
  /-- The digits before the point. -/
  whole : List Char
  /-- The digits behind the point; empty where there is none. -/
  fraction : List Char
  /-- The sign and the digits of the exponent, if there is one. -/
  exponent : Option (Bool × List Char)
  deriving DecidableEq, Repr

inductive Number
  | natural (n : Nat)
  | negative (n : Int)
  | float (x : Float)

namespace Numeral

/-- The largest significand that is kept exactly. -/
def significandBound : Nat := 18446744073709551615

def digitValue (c : Char) : Nat := c.toNat - '0'.toNat

/-- The leading digits that fit the bound, continuing from `significand`, and how many were left
    over. -/
def significand : Nat → List Char → Nat × Nat
  | n, [] => (n, 0)
  | n, c :: cs =>
    if significandBound < n * 10 + digitValue c then (n, cs.length + 1)
    else significand (n * 10 + digitValue c) cs

def powerOfTen (n : Nat) : Float := Float.ofScientific 1 false n

/-- `significand * 10 ^ exponent`, in at most `steps` divisions by the largest power of ten, or
    none where the result is not finite. -/
def scaled (x : Float) : Nat → Int → Option Float
  | 0, _ => some 0
  | steps + 1, exponent =>
    if exponent.natAbs ≤ 308 then
      if 0 ≤ exponent then
        let y := x * powerOfTen exponent.natAbs
        if y.isInf then none else some y
      else some (x / powerOfTen exponent.natAbs)
    else if x == 0 then some x
    else if 0 ≤ exponent then none
    else scaled (x / powerOfTen 308) steps (exponent + 308)

/-- The exponent a numeral is written with, kept within bounds beyond which the result does not
    change. -/
def exponentValue : Option (Bool × List Char) → Int
  | none => 0
  | some (negative, digits) =>
    let value := min (Nat.ofDigitChars 10 digits 0) 2147483647
    if negative then -(value : Int) else value

/-- The floating-point number a numeral stands for, or none where it is not finite. -/
def float? (n : Numeral) : Option Float :=
  let (whole, skipped) := significand 0 n.whole
  let (all, dropped) := significand whole n.fraction
  let scale : Int := (skipped : Int) - ((n.fraction.length - dropped : Nat) : Int)
  let exponent := scale + exponentValue n.exponent
  (scaled (Float.ofNat all) 8 exponent).map fun x => if n.negative then -x else x

/-- What a numeral stands for, or none where it is too large to be finite. -/
def value? (n : Numeral) : Option Number :=
  if n.fraction = [] ∧ n.exponent = none then
    let (whole, skipped) := significand 0 n.whole
    if skipped = 0 then
      if !n.negative then some (.natural whole)
      else if 0 < whole ∧ whole ≤ 9223372036854775808 then some (.negative (-(whole : Int)))
      else some (.float (-Float.ofNat whole))
    else n.float?.map .float
  else n.float?.map .float

end Numeral

end Throttle.Json
