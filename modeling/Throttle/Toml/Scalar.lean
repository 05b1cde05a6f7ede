import Throttle.Double.Read
import Throttle.Text.Hex
import Throttle.Toml.Moment

/-!
# TOML scalars

The values that are written without quotation marks: truth values, integers in four bases, floats,
dates and times.  Digits may be grouped by single underscores.
-/

namespace Throttle.Toml

/-- A value of a TOML document. -/
inductive Value
  | bool (value : Bool)
  | integer (n : Int)
  | float (x : Double)
  | moment (moment : Moment)
  | text (value : String)
  | array (items : List Value)
  | table (entries : List (String × Value))
  deriving Repr

namespace Scalar

/-- Digits without the underscores among them, each of which stands between two digits. -/
def grouped? (isDigit : Char → Bool) : List Char → Option (List Char)
  | [] => none
  | [c] => if isDigit c then some [c] else none
  | c :: '_' :: rest => if isDigit c then (grouped? isDigit rest).map (c :: ·) else none
  | c :: rest => if isDigit c then (grouped? isDigit rest).map (c :: ·) else none

def based? (base : Nat) (cs : List Char) : Option Value := do
  let isDigit (c : Char) : Bool := ((Text.hexValue? c).map fun d => decide (d < base)).getD false
  let digits ← grouped? isDigit cs
  let n : Int := (digits.foldl (fun n c => n * base + (Text.hexValue? c).getD 0) 0 : Nat)
  if Word.InRange n then return .integer n else failure

def splitSign : List Char → Bool × List Char
  | '-' :: cs => (true, cs)
  | '+' :: cs => (false, cs)
  | cs => (false, cs)

/-- The digits of a decimal number before its point: only zero starts with a zero. -/
def whole? (cs : List Char) : Option (List Char) :=
  match grouped? Char.isDigit cs with
  | some ('0' :: _ :: _) => none
  | digits => digits

def integer? : List Char → Option Value
  | '0' :: 'x' :: cs => based? 16 cs
  | '0' :: 'o' :: cs => based? 8 cs
  | '0' :: 'b' :: cs => based? 2 cs
  | cs => do
    let (negative, cs) := splitSign cs
    let magnitude ← Decimal.natOfDigits? (← whole? cs)
    let n : Int := if negative then -(magnitude : Int) else magnitude
    if Word.InRange n then return .integer n else failure

/-- The exponent of a float, with its mark, without underscores. -/
def exponent? : List Char → Option (List Char)
  | [] => some []
  | c :: cs =>
    if c ≠ 'e' ∧ c ≠ 'E' then none
    else match cs with
      | '-' :: ds => (grouped? Char.isDigit ds).map ('e' :: '-' :: ·)
      | '+' :: ds => (grouped? Char.isDigit ds).map ('e' :: ·)
      | ds => (grouped? Char.isDigit ds).map ('e' :: ·)

/-- A float without its sign: a whole part, and a fraction, an exponent or both. -/
def unsignedFloat? (cs : List Char) : Option (List Char) := do
  let isMark (c : Char) : Bool := c == '.' || c == 'e' || c == 'E'
  let whole ← whole? (cs.takeWhile (!isMark ·))
  match cs.dropWhile (!isMark ·) with
  | [] => failure
  | '.' :: rest =>
    let fraction ← grouped? Char.isDigit (rest.takeWhile (!isMark ·))
    return whole ++ '.' :: fraction ++ (← exponent? (rest.dropWhile (!isMark ·)))
  | rest => return whole ++ (← exponent? rest)

/-- A float.  Digits that come out infinite without a minus sign are none. -/
def float? (cs : List Char) : Option Value :=
  let (negative, cs) := splitSign cs
  if cs == ['i', 'n', 'f'] then some (.float (.infinite negative))
  else if cs == ['n', 'a', 'n'] then some (.float .notANumber)
  else do
    let x ← Double.unsigned? negative (← unsignedFloat? cs)
    if x = .infinite false then failure else return .float x

/-- The value that characters without quotation marks give. -/
def ofChars? (cs : List Char) : Option Value :=
  if cs == "true".toList then some (.bool true)
  else if cs == "false".toList then some (.bool false)
  else match Moment.ofChars? cs with
    | some m => some (.moment m)
    | none => (float? cs).orElse fun _ => integer? cs

end Scalar

end Throttle.Toml
