import Throttle.Defect
import Throttle.Double.Write
import Throttle.Double.Read

/-!
# Raw settings

A setting as a file or the environment gives it, before anybody asks for a particular type, and the
coercions that such questions come down to.  Texts are read as numbers and truth values where one
is asked for, and numbers and truth values are written as texts.
-/

namespace Throttle

/-- A setting without a type. -/
inductive Setting
  | nil
  | bool (value : Bool)
  | integer (n : Int)
  | float (x : Double)
  | text (value : String)
  | list (items : List Setting)
  | table (entries : List (String × Setting))
  deriving Repr

/-- The small letter of a capital; the others stay.  The Kelvin sign is the one capital outside of
    ASCII whose small letter is inside. -/
def smallLetter (c : Char) : Char := if c = '\u212a' then 'k' else c.toLower

def smallLetters (name : String) : String := String.ofList (name.toList.map smallLetter)

namespace Setting

/-- A text that says yes or no, in any mixture of cases. -/
def yesOrNo? (text : String) : Option Bool :=
  let word := smallLetters text
  if ["true", "on", "yes"].contains word then some true
  else if ["false", "off", "no"].contains word then some false
  else none

/-- A natural number with an optional plus sign that fits 64 bits. -/
def natural? (text : String) : Option Nat :=
  let digits := match text.toList with
    | '+' :: rest => rest
    | cs => cs
  (Decimal.natOfDigits? digits).filter fun n => decide (n < Nat.pow 2 64)

def toNatural : Setting → Except Defect Nat
  | integer n => if 0 ≤ n then .ok n.toNat else .error .wrongType
  | bool value => .ok value.toNat
  | float x => .ok (x.roundTo (Nat.pow 2 64 - 1))
  | text value =>
    match yesOrNo? value with
    | some answer => .ok answer.toNat
    | none => match natural? value with
      | some n => .ok n
      | none => .error .wrongType
  | nil | list _ | table _ => .error .wrongType

/-- The truth value that a setting is taken for. -/
def toBool : Setting → Except Defect Bool
  | bool value => .ok value
  | integer n => .ok (n != 0)
  | float x => .ok (!x.isZero)
  | text value =>
    match yesOrNo? value with
    | some answer => .ok answer
    | none =>
      if value == "1" then .ok true
      else if value == "0" then .ok false
      else .error .wrongType
  | nil | list _ | table _ => .error .wrongType

def toText : Setting → Except Defect String
  | text value => .ok value
  | bool value => .ok (if value then "true" else "false")
  | integer n => .ok (Decimal.write n)
  | float x => .ok x.write
  | nil | list _ | table _ => .error .wrongType

/-- A setting that may be left out: nil stands for none. -/
def toOptional {α : Type} (read : Setting → Except Defect α) : Setting → Except Defect (Option α)
  | nil => .ok none
  | setting => (read setting).map some

/-- The choice that a setting names: its name as a text in any mixture of cases, or as the only key
    of a table. -/
def toChoice {α : Type} (choices : List α) (name : α → String) : Setting → Except Defect α
  | text value | table [(value, _)] =>
    match choices.find? fun choice => smallLetters (name choice) == smallLetters value with
    | some choice => .ok choice
    | none => .error .malformed
  | _ => .error .malformed

/-- The setting of an environment variable's text: a truth value, a number, or the text itself. -/
def ofVariable (value : String) : Setting :=
  if smallLetters value == "true" then bool true
  else if smallLetters value == "false" then bool false
  else match Decimal.read? value with
    | some n => integer n
    | none => match Double.read? value.toList with
      | some x => float x
      | none => text value

end Setting

end Throttle
