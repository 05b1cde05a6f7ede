import Throttle.Settings.Setting
import Throttle.Text.Hex
import Throttle.Yaml.Event

/-!
# Settings from YAML

A YAML file of settings holds one mapping, or nothing.  The keys of a mapping are strings or
integers and must differ.  An alias stands for a copy of the node it names, and for nil inside that
node itself.
-/

namespace Throttle.Settings.FromYaml

open Yaml (Event Properties ScalarStyle)

def digits? (base : Nat) (cs : List Char) : Option Int :=
  if cs.isEmpty then none
  else (cs.foldlM (fun n c =>
    ((Text.hexValue? c).filter fun d => decide (d < base)).map fun d => n * base + d) 0).map
      fun n : Nat => (n : Int)

def signed? (base : Nat) : List Char → Option Int
  | '-' :: cs => (digits? base cs).map (-·)
  | '+' :: cs => digits? base cs
  | cs => digits? base cs

/-- An integer with something in front that says what it is: a leader of its base, or a plus sign. -/
def markedInteger? : List Char → Option Int
  | '0' :: 'x' :: cs => (signed? 16 cs).filter fun n => decide (Word.InRange n)
  | '0' :: 'o' :: cs => (signed? 8 cs).filter fun n => decide (Word.InRange n)
  | '+' :: cs => (signed? 10 cs).filter fun n => decide (Word.InRange n)
  | _ => none

/-- The words for infinity and for the undefined number. -/
def floatWords : List String :=
  [".inf", ".Inf", ".INF", "+.inf", "+.Inf", "+.INF", "-.inf", "-.Inf", "-.INF", ".nan", ".NaN",
    ".NAN"]

/-- A text that looks like a number.  The words do, but have no value here. -/
def float? (text : String) : Option (Except Defect Setting) :=
  if floatWords.contains text then some (.error .malformed)
  else if text.toList.any Char.isDigit then
    (Double.read? text.toList).map fun x => .ok (.float x)
  else none

def plain (text : String) : Except Defect Setting :=
  match markedInteger? text.toList with
  | some n => .ok (.integer n)
  | none =>
    if ["", "~", "null"].contains text then .ok .nil
    else if ["true", "True", "TRUE"].contains text then .ok (.bool true)
    else if ["false", "False", "FALSE"].contains text then .ok (.bool false)
    else match Decimal.read? text with
      | some n => .ok (.integer n)
      | none => (float? text).getD (.ok (.text text))

/-- The setting of a scalar behind a tag.  A text that its tag does not allow is nil. -/
def tagged (tag text : String) : Except Defect Setting :=
  if tag == "tag:yaml.org,2002:bool" then
    .ok (if text == "true" then .bool true else if text == "false" then .bool false else .nil)
  else if tag == "tag:yaml.org,2002:int" then
    .ok (((Decimal.read? text).map Setting.integer).getD .nil)
  else if tag == "tag:yaml.org,2002:float" then (float? text).getD (.ok .nil)
  else if tag == "tag:yaml.org,2002:null" then .ok .nil
  else .ok (.text text)

def scalar (p : Properties) (text : String) : ScalarStyle → Except Defect Setting
  | .marked => .ok (.text text)
  | .plain => match p.tag with
    | some tag => tagged tag text
    | none => plain text

/-- A key: a string, or an integer, which is another key than the string of its digits. -/
structure Key where
  text : String
  ofInteger : Bool
  deriving DecidableEq, Repr

def key? : Setting → Option Key
  | .text value => some ⟨value, false⟩
  | .integer n => some ⟨Decimal.write n, true⟩
  | _ => none

/-- A collection that has been opened, with the number of its anchor and what it holds so far, last
    first. -/
inductive Frame
  | list (anchor : Option Nat) (items : List Setting)
  | table (anchor : Option Nat) (entries : List (Key × Setting))
  /-- A table behind a key that still lacks its value. -/
  | entry (anchor : Option Nat) (entries : List (Key × Setting)) (key : Key)

/-- A reader of one document. -/
structure Reading where
  frames : List Frame
  /-- The number that each name stands for, latest first. -/
  names : List (String × Nat)
  /-- The nodes of the numbers, where they are complete. -/
  values : List (Nat × Setting)
  /-- The document's node, once it is complete. -/
  root : Option Setting

namespace Reading

def start : Reading := ⟨[], [], [], none⟩

def name (r : Reading) : Option String → Option Nat × Reading
  | none => (none, r)
  | some anchor => (some r.names.length, { r with names := (anchor, r.names.length) :: r.names })

/-- Remembers a complete node under its number. -/
def remember (r : Reading) (anchor : Option Nat) (value : Setting) : Reading :=
  match anchor with
  | some number => { r with values := (number, value) :: r.values }
  | none => r

/-- Puts a complete node into the collection around it. -/
def place (r : Reading) (value : Setting) : Except Defect Reading :=
  match r.frames with
  | [] => .ok { r with root := some value }
  | .list anchor items :: frames => .ok { r with frames := .list anchor (value :: items) :: frames }
  | .table anchor entries :: frames =>
    match key? value with
    | some key => .ok { r with frames := .entry anchor entries key :: frames }
    | none => .error .malformed
  | .entry anchor entries key :: frames =>
    if entries.any fun e => e.1 == key then .error .malformed
    else .ok { r with frames := .table anchor ((key, value) :: entries) :: frames }

def step (r : Reading) : Event → Except Defect Reading
  | .scalar p text style => do
    let value ← scalar p text style
    let (anchor, r) := r.name p.anchor
    (r.remember anchor value).place value
  | .alias name =>
    match r.names.lookup name with
    | some number => r.place ((r.values.lookup number).getD .nil)
    | none => .error .malformed
  | .sequenceStart p =>
    let (anchor, r) := r.name p.anchor
    .ok { r with frames := .list anchor [] :: r.frames }
  | .mappingStart p =>
    let (anchor, r) := r.name p.anchor
    .ok { r with frames := .table anchor [] :: r.frames }
  | .sequenceEnd =>
    match r.frames with
    | .list anchor items :: frames =>
      let value := Setting.list items.reverse
      (({ r with frames := frames }).remember anchor value).place value
    | _ => .error .malformed
  | .mappingEnd =>
    match r.frames with
    | .table anchor entries :: frames =>
      let value := Setting.table (entries.reverse.map fun (key, value) => (key.text, value))
      (({ r with frames := frames }).remember anchor value).place value
    | _ => .error .malformed
  | .documentStart | .documentEnd => .ok r
  | .streamEnd | .bad => .error .malformed

end Reading

/-- The setting of the events of at most one document; none at all is an empty table. -/
def ofEvents (events : List Event) : Except Defect Setting :=
  let document := events.takeWhile (· != .documentEnd)
  match document with
  | [.streamEnd] => .ok (.table [])
  | _ => do
    let r ← document.foldlM Reading.step .start
    match events.drop document.length, r.root with
    | [.documentEnd, .streamEnd], some root => return root
    | _, _ => throw .malformed

def entries (text : String) : Except Defect (List (String × Setting)) := do
  match ← ofEvents (Event.ofText .lenient text) with
  | .table entries => return entries
  | _ => throw .wrongType

end Throttle.Settings.FromYaml
