import Throttle.Toml.Scalar

/-!
# TOML tables under construction

The lines of a TOML document build up its tables.  Once a table has a header, no other header may
name it and no dotted key may add to it; what is written as a value cannot be added to at all.
`Item.table` therefore remembers how a table came about, and `Item.change` walks to the table that
a line adds to and makes those that are missing on the way.
-/

namespace Throttle.Toml

/-- How a table came about. -/
inductive Origin
  /-- By its own header. -/
  | header
  /-- As a table above one that has a header. -/
  | implied
  /-- By a dotted key. -/
  | dotted
  deriving DecidableEq, Repr

/-- What a key stands for while the document is being read. -/
inductive Item
  | value (value : Value)
  | table (origin : Origin) (entries : List (String × Item))
  /-- A list of tables with headers of their own.  Lines add to the last one. -/
  | tables (earlier : List (List (String × Item))) (last : List (String × Item))
  deriving Repr

/-- A step down: the key of a table, and whether a dotted key takes it. -/
structure Step where
  key : String
  dotted : Bool
  deriving DecidableEq, Repr

/-- A table that lines can add to: how it came about, and its entries. -/
abbrev Place : Type := Origin × List (String × Item)

namespace Item

/-- Entries with one put in the place of its key, or else at the end. -/
def put (key : String) (item : Item) : List (String × Item) → List (String × Item)
  | [] => [(key, item)]
  | (k, i) :: rest => if k == key then (key, item) :: rest else (k, i) :: put key item rest

/-- Changes the entries of the table at the end of a path. -/
def change (f : Place → Option (List (String × Item))) :
    List Step → Place → Option (List (String × Item))
  | [], place => f place
  | step :: path, (_, entries) => do
    let changed ← match entries.lookup step.key with
      | none =>
        let origin := if step.dotted then Origin.dotted else .implied
        pure (table origin (← change f path (origin, [])))
      | some (table origin inner) =>
        -- A table with a header is complete, and only its own lines add to it.
        if step.dotted ∧ origin = .header then failure
        pure (table origin (← change f path (origin, inner)))
      | some (tables earlier last) =>
        pure (tables earlier (← change f path (.header, last)))
      | some (value _) => failure
    return put step.key changed entries

/-- Adds an entry whose key is new.  With a dotted key it has to go into a table that dotted keys
    made. -/
def add (byDottedKey : Bool) (key : String) (v : Value) : Place → Option (List (String × Item))
  | (origin, entries) =>
    if byDottedKey ∧ origin ≠ .dotted then none
    else if (entries.lookup key).isSome then none
    else some (entries ++ [(key, value v)])

/-- Adds a table with a header.  There may be a table that is only implied. -/
def addTable (key : String) : Place → Option (List (String × Item))
  | (_, entries) =>
    match entries.lookup key with
    | none => some (entries ++ [(key, table .header [])])
    | some (table .implied inner) => some (put key (table .header inner) entries)
    | some _ => none

def appendTable (key : String) : Place → Option (List (String × Item))
  | (_, entries) =>
    match entries.lookup key with
    | none => some (entries ++ [(key, tables [] [])])
    | some (tables earlier last) => some (put key (tables (earlier ++ [last]) []) entries)
    | some _ => none

mutual

def finished : Item → Value
  | value v => v
  | table _ entries => .table (finishedEntries entries)
  | tables earlier last => .array (finishedTables earlier ++ [.table (finishedEntries last)])

def finishedEntries : List (String × Item) → List (String × Value)
  | [] => []
  | (key, item) :: rest => (key, item.finished) :: finishedEntries rest

def finishedTables : List (List (String × Item)) → List Value
  | [] => []
  | entries :: rest => .table (finishedEntries entries) :: finishedTables rest

end

end Item

end Throttle.Toml
