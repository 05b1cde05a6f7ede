import Throttle.Defect
import Throttle.Double.Read
import Throttle.Text.Hex
import Throttle.Yaml.Node

/-!
# What plain scalars stand for

A plain scalar may be a null, a truth value or a number; if it is none of these it is a string.
Integers may be written in decimal, or with `0x`, `0o` or `0b` in front.  Digits that start with a
superfluous zero are no number.
-/

namespace Throttle.Yaml.Plain

/-- The signs that a digit of some base may be; none where the character is no such digit. -/
def digit? (base : Nat) (c : Char) : Option Nat :=
  (Text.hexValue? c).filter fun n => decide (n < base)

def digits? (base : Nat) (cs : List Char) : Option Nat :=
  if cs.isEmpty then none
  else cs.foldlM (fun n c => (digit? base c).map fun d => n * base + d) 0

/-- The base that a leader announces, and what follows it. -/
def based? : List Char → Option (Nat × List Char)
  | '0' :: 'x' :: cs => some (16, cs)
  | '0' :: 'o' :: cs => some (8, cs)
  | '0' :: 'b' :: cs => some (2, cs)
  | _ => none

/-- Digits that start with a zero that they do not need, with or without a sign. -/
def superfluousZero (cs : List Char) : Bool :=
  let unsigned := match cs with
    | '-' :: rest | '+' :: rest => rest
    | _ => cs
  match unsigned with
  | '0' :: c :: rest => (c :: rest).all Char.isDigit
  | _ => false

def integer? (cs : List Char) : Option Int :=
  let magnitude? (rest : List Char) : Option Nat :=
    match (based? rest).bind fun (base, digits) => digits? base digits with
    | some n => some n
    | none => if superfluousZero rest then none else digits? 10 rest
  match cs with
  | '-' :: rest => (magnitude? rest).map fun n => -(n : Int)
  | '+' :: rest => (magnitude? rest).map fun n => (n : Int)
  | _ => (magnitude? cs).map fun n => (n : Int)

/-- The largest natural number that is kept as an integer. -/
def maxNatural : Int := 18446744073709551615

/-- Integers up to here are noticed, but have no node. -/
def noticed (n : Int) : Bool := decide (-(Nat.pow 2 127) ≤ n) && decide (n < Nat.pow 2 128)

/-- The node of an integer.  One that does not fit 64 bits has the wrong type, and one that would
    not fit 128 bits either is no integer at all. -/
def integerNode? (cs : List Char) : Option (Except Defect Node) :=
  match integer? cs with
  | none => none
  | some n =>
    if 0 ≤ n ∧ n ≤ maxNatural then some (.ok (.natural n.toNat))
    else if -(Nat.pow 2 63) ≤ n ∧ n < 0 then some (.ok (.negative n))
    else if noticed n then some (.error .wrongType)
    else none

def bool? (text : String) : Option Bool :=
  if ["true", "True", "TRUE"].contains text then some true
  else if ["false", "False", "FALSE"].contains text then some false
  else none

def isNull (text : String) : Bool := ["null", "Null", "NULL", "~"].contains text

/-- A number with a point, an exponent or neither, or one of the words for infinity and the
    undefined number. -/
def float? (text : String) : Option Double :=
  if [".nan", ".NaN", ".NAN"].contains text then some .notANumber
  else if ["-.inf", "-.Inf", "-.INF"].contains text then some (.infinite true)
  else
    let cs := text.toList
    let (unsigned, signed) := match cs with
      | '+' :: rest => (rest, rest.head? == some '+' || rest.head? == some '-')
      | _ => (cs, false)
    if signed then none
    else if [".inf", ".Inf", ".INF"].contains (String.ofList unsigned) then some (.infinite false)
    else (Double.read? unsigned).filter Double.isFinite

def node (text : String) : Except Defect Node :=
  if text == "" || isNull text then .ok .null
  else match bool? text with
    | some b => .ok (.bool b)
    | none =>
      match integerNode? text.toList with
      | some result => result
      | none =>
        match if superfluousZero text.toList then none else float? text with
        | some x => .ok (.float x)
        | none => .ok (.string text)

/-- A result, or else the defect of a value that its tag does not allow. -/
def orWrongValue {α : Type} : Option α → Except Defect α
  | some value => .ok value
  | none => .error .wrongValue

/-- The node of a scalar behind a tag of the standard, however the scalar is written. -/
def taggedNode (tag text : String) : Except Defect Node :=
  if tag == "tag:yaml.org,2002:bool" then (orWrongValue (bool? text)).map .bool
  else if tag == "tag:yaml.org,2002:int" then
    match integerNode? text.toList with
    | some result => result
    | none => .error .wrongValue
  else if tag == "tag:yaml.org,2002:float" then (orWrongValue (float? text)).map .float
  else if tag == "tag:yaml.org,2002:null" then
    if isNull text then .ok .null else .error .wrongValue
  else .ok (.string text)

end Throttle.Yaml.Plain
