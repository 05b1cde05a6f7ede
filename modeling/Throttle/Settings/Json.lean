import Throttle.Json.Tree
import Throttle.Settings.Setting

/-!
# Settings from JSON

A JSON file of settings holds one object.  Of two members with the same name the last one counts,
and arrays and objects may be nested only so deep.
-/

namespace Throttle.Settings.FromJson

/-- How deep arrays and objects may be nested. -/
def maxDepth : Nat := 127

/-- The setting of a number: an integer where a word is enough. -/
def number (n : Json.Numeral) : Except Defect Setting :=
  match n.value? with
  | some (.natural value) =>
    .ok (if Word.InRange value then .integer value else .float (.ofInt value))
  | some (.negative value) => .ok (.integer value)
  | some (.float x) => .ok (.float (.ofBits x.toBits))
  | none => .error .malformed

mutual

/-- The setting of a JSON value, in which arrays and objects may be nested `depth` times more. -/
def value (depth : Nat) : Json → Except Defect Setting
  | .null => .ok .nil
  | .bool b => .ok (.bool b)
  | .number n => number n
  | .string (some text) => .ok (.text text)
  | .array items true => do
    if depth = 0 then throw .malformed
    return .list (← values (depth - 1) items)
  | .object fields true => do
    if depth = 0 then throw .malformed
    return .table (← members (depth - 1) fields)
  | .string none | .array _ false | .object _ false | .cut => .error .malformed

def values (depth : Nat) : List Json → Except Defect (List Setting)
  | [] => .ok []
  | item :: items => do return (← value depth item) :: (← values depth items)

/-- The entries of an object; those that a later one of the same name replaces are left out. -/
def members (depth : Nat) : List (Option String × Json) → Except Defect (List (String × Setting))
  | [] => .ok []
  | (none, _) :: _ => .error .malformed
  | (some name, item) :: rest => do
    let setting ← value depth item
    let others ← members depth rest
    return if others.any fun e => e.1 == name then others else (name, setting) :: others

end

def entries (text : String) : Except Defect (List (String × Setting)) := do
  let (root, clean) := Json.ofText text
  let setting ← value maxDepth root
  if !clean then throw .malformed
  match setting with
  | .table entries => return entries
  | _ => throw .wrongType

end Throttle.Settings.FromJson
