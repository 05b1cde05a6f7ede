import Throttle.Settings.Setting

/-!
# Layers of settings

Settings come from several sources, and later sources override earlier ones.  A setting's name is a
path: names of tables with points between them, and places of lists in brackets.  A name that is no
path is taken as it stands.

Tables are merged deeply; everything else takes the place of what was there, and a table that is
needed on the way takes the place of what is none.
-/

namespace Throttle

namespace Setting

def entry (name : String) (entries : List (String × Setting)) : Setting :=
  (entries.lookup name).getD nil

/-- Entries with one put in, at its place or else at the end. -/
def putEntry (name : String) (value : Setting) : List (String × Setting) → List (String × Setting)
  | [] => [(name, value)]
  | (k, v) :: rest => if k == name then (name, value) :: rest else (k, v) :: putEntry name value rest

/-- The entries of a table; anything else has none. -/
def entries : Setting → List (String × Setting)
  | table entries => entries
  | _ => []

/-- The items of a list; anything else has none. -/
def items : Setting → List Setting
  | list items => items
  | _ => []

mutual

/-- Puts a value under a name, in small letters, into a table. -/
def put (target : Setting) (name : String) (value : Setting) : Setting :=
  let there := target.entries
  let name := smallLetters name
  match value with
  | table incoming =>
    let inner := (there.lookup name).getD (table [])
    table (putEntry name (putAll inner incoming) there)
  | other => table (putEntry name other there)

def putAll (target : Setting) : List (String × Setting) → Setting
  | [] => target
  | (name, value) :: rest => putAll (put target name value) rest

end

end Setting

inductive SettingPath
  | top (name : String)
  | child (path : SettingPath) (name : String)
  /-- A place in a list; a negative one counts from its end. -/
  | item (path : SettingPath) (index : Int)
  deriving Repr

namespace SettingPath

/-- A character that a name in a path may hold. -/
def isNameChar (c : Char) : Bool := c.isAlphanum || c == ' ' || c == '_' || c == '-'

/-- A place in brackets, behind the opening one. -/
def index? (cs : List Char) : Option (Int × List Char) :=
  let (negative, cs) := match cs with
    | '-' :: rest => (true, rest)
    | _ => (false, cs)
  match Decimal.natOfDigits? (cs.takeWhile Char.isDigit), cs.dropWhile Char.isDigit with
  | some n, ']' :: rest =>
    let value : Int := if negative then -(n : Int) else n
    if Word.InRange value then some (value, rest) else none
  | _, _ => none

/-- Reads on in a path; every step passes over a character. -/
def extend : Nat → SettingPath → List Char → Option SettingPath
  | _, path, [] => some path
  | 0, _, _ => none
  | steps + 1, path, '.' :: cs =>
    let name := cs.takeWhile isNameChar
    if name.isEmpty then none
    else extend steps (.child path (String.ofList name)) (cs.dropWhile isNameChar)
  | steps + 1, path, '[' :: cs =>
    match index? cs with
    | some (index, rest) => extend steps (.item path index) rest
    | none => none
  | _, _, _ => none

def ofName? (name : String) : Option SettingPath :=
  let cs := name.toList
  let first := cs.takeWhile isNameChar
  if first.isEmpty then none
  else extend cs.length (.top (String.ofList first)) (cs.dropWhile isNameChar)

/-- The place in a list of the given size. -/
def position (index : Int) (size : Nat) : Nat :=
  if 0 ≤ index then index.toNat else (size + index).toNat

/-- Items with one changed, after as many nils as it takes to have it. -/
def changeItem (index : Int) (f : Setting → Setting) (items : List Setting) : List Setting :=
  let place := position index items.length
  let filled := items ++ List.replicate (place + 1 - items.length) .nil
  filled.modify place f

/-- Changes the setting at a path, and makes the tables and lists on the way. -/
def change (f : Setting → Setting) : SettingPath → Setting → Setting
  | .top name, root =>
    match root with
    | .table entries => .table (Setting.putEntry name (f (Setting.entry name entries)) entries)
    | other => other
  | .child path name, root =>
    path.change (fun parent =>
      let entries := parent.entries
      .table (Setting.putEntry name (f (Setting.entry name entries)) entries)) root
  | .item path index, root =>
    path.change (fun parent => .list (changeItem index f parent.items)) root

def put (value : Setting) : SettingPath → Setting → Setting
  | .top name, root => root.put name value
  | .child path name, root => path.change (fun parent => parent.put name value) root
  | .item path index, root =>
    path.change (fun parent => .list (changeItem index (fun _ => value) parent.items)) root

end SettingPath

namespace Setting

/-- Puts a source's entry into the settings: its name, in small letters, is a path if it can be. -/
def overlay (root : Setting) (name : String) (value : Setting) : Setting :=
  let name := smallLetters name
  match SettingPath.ofName? name with
  | some path => path.put value root
  | none => root.put name value

/-- The settings of several sources, later ones over earlier ones. -/
def ofSources (sources : List (List (String × Setting))) : Setting :=
  sources.flatten.foldl (fun root entry => root.overlay entry.1 entry.2) (table [])

/-- What the names of environment variables start with, in small letters. -/
def variableStart : String := "sentinel__"

/-- The source that the environment is: variables of the right names, with a point in place of
    every two underscores. -/
def ofEnvironment (environment : List (String × String)) : List (String × Setting) :=
  environment.filterMap fun (name, value) =>
    let name := smallLetters name
    if name.startsWith variableStart then
      some (((name.drop variableStart.length).toString.replace "__" "."), ofVariable value)
    else none

end Setting

end Throttle
