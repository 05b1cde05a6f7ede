import Throttle.Toml.Table
import Throttle.Toml.Token

/-!
# TOML documents

A document is a sequence of lines: headers of tables, and keys with values.  Values may hold other
values in brackets and braces, up to a depth; between brackets they may go over several lines.

The readers of values take fuel.  Every value has at least one token, so that as much fuel as there
are tokens is always enough, and `Document.ofTokens?` starts with that.
-/

namespace Throttle.Toml

namespace Document

/-- How deep arrays and tables may be nested in values, and how many parts a key may have. -/
def maxDepth : Nat := 79

def isBlank (t : Token) : Bool := t == .space || t == .tab

def skipBlanks (ts : List Token) : List Token := ts.dropWhile isBlank

def skipLines (ts : List Token) : List Token := ts.dropWhile fun t => isBlank t || t == .newline

/-! ## Keys -/

def name? : Token → Option String
  | .word text =>
    if text.toList.all fun c => c.isAlphanum || c == '_' || c == '-' then some text else none
  | .string text true => some text
  | _ => none

/-- What one more token does to a key, of which the names so far come last one first.  `wants` tells
    whether a name has to follow. -/
def nameStep (names : List String) (wants : Bool) (t : Token) : Option (List String × Bool) :=
  if isBlank t then some (names, wants)
  else if wants then (name? t).map fun name => (name :: names, false)
  else if t = .point then some (names, true)
  else none

def keyFrom (names : List String) (wants : Bool) : List Token → Option (List String × List Token)
  | [] => if wants then none else some (names.reverse, [])
  | t :: ts =>
    match nameStep names wants t with
    | some (names, wants) => keyFrom names wants ts
    | none => if wants then none else some (names.reverse, t :: ts)

/-- The path above a key's last name, that name, and what follows. -/
def key? (ts : List Token) : Option (List String × String × List Token) := do
  let (names, rest) ← keyFrom [] true ts
  if maxDepth < names.length then failure
  return (names.dropLast, ← names.getLast?, rest)

/-- The steps of a path that a dotted key, or else a header, takes. -/
def steps (dotted : Bool) (path : List String) : List Step := path.map fun name => ⟨name, dotted⟩

/-- Adds the value of a key to a table at the end of a path of headers. -/
def assign (header path : List String) (name : String) (v : Value) (entries : List (String × Item)) :
    Option (List (String × Item)) :=
  Item.change (Item.add (!path.isEmpty) name v) (steps false header ++ steps true path)
    (.header, entries)

/-! ## Values -/

/-- The characters of words and points at the start of tokens. -/
def wordChars (ts : List Token) : List Char :=
  ts.flatMap fun t => match t with
    | .word text => text.toList
    | .point => ['.']
    | _ => []

/-- A value of words and points.  A date may have its time behind one blank. -/
def scalar? (ts : List Token) : Option (Value × List Token) := do
  let isWord (t : Token) : Bool := match t with
    | .word _ | .point => true
    | _ => false
  let cs := wordChars (ts.takeWhile isWord)
  let rest := ts.dropWhile isWord
  match Moment.ofChars? cs, rest with
  | some (.date _), .space :: .word text :: more =>
    let time := wordChars (.word text :: more.takeWhile isWord)
    return (← Scalar.ofChars? (cs ++ ' ' :: time), more.dropWhile isWord)
  | _, _ => return (← Scalar.ofChars? cs, rest)

mutual

/-- A value, in which arrays and tables may be nested `depth` times more, and what follows it. -/
def value? : (fuel depth : Nat) → List Token → Option (Value × List Token)
  | 0, _, _ => none
  | _ + 1, _, .string text _ :: rest => some (.text text, rest)
  | fuel + 1, depth, .openBracket :: rest =>
    if depth = 0 then none else items? fuel (depth - 1) [] (skipLines rest)
  | fuel + 1, depth, .openBrace :: rest =>
    if depth = 0 then none
    else match skipBlanks rest with
      | .closeBrace :: rest => some (.table [], rest)
      | rest => entries? fuel (depth - 1) [] rest
  | _ + 1, _, ts => scalar? ts

/-- The items of an array behind those before, which come last one first. -/
def items? : (fuel depth : Nat) → List Value → List Token → Option (Value × List Token)
  | _, _, before, .closeBracket :: rest => some (.array before.reverse, rest)
  | 0, _, _, _ => none
  | fuel + 1, depth, before, ts => do
    let (item, rest) ← value? fuel depth ts
    match skipLines rest with
    | .comma :: rest => items? fuel depth (item :: before) (skipLines rest)
    | .closeBracket :: rest => return (.array (item :: before).reverse, rest)
    | _ => failure

/-- The entries of a table in braces behind those before. -/
def entries? : (fuel depth : Nat) → List (String × Item) → List Token →
    Option (Value × List Token)
  | 0, _, _, _ => none
  | fuel + 1, depth, before, ts => do
    let (path, name, rest) ← key? ts
    match rest with
    | .equals :: rest =>
      let (v, rest) ← value? fuel depth (skipBlanks rest)
      let entries ← assign [] path name v before
      match skipBlanks rest with
      | .comma :: rest => entries? fuel depth entries rest
      | .closeBrace :: rest => return (.table (Item.finishedEntries entries), rest)
      | _ => failure
    | _ => failure

end

/-! ## Lines -/

/-- A document of which some lines have been read. -/
structure Reading where
  /-- The path of the last header. -/
  header : List String
  entries : List (String × Item)
  deriving Repr

/-- Reads the header of a table, or of one more table of a list, behind its brackets. -/
def header? (several : Bool) (r : Reading) (ts : List Token) : Option (Reading × List Token) := do
  let (path, name, rest) ← key? ts
  let add := if several then Item.appendTable name else Item.addTable name
  let entries ← Item.change add (steps false path) (.header, r.entries)
  match several, rest with
  | true, .closeBracket :: .closeBracket :: rest => return (⟨path ++ [name], entries⟩, rest)
  | false, .closeBracket :: rest => return (⟨path ++ [name], entries⟩, rest)
  | _, _ => failure

def entry? (r : Reading) (ts : List Token) : Option (Reading × List Token) := do
  let (path, name, rest) ← key? ts
  match rest with
  | .equals :: rest =>
    let (v, rest) ← value? ts.length maxDepth (skipBlanks rest)
    return ({ r with entries := ← assign r.header path name v r.entries }, rest)
  | _ => failure

def line? (r : Reading) : List Token → Option (Reading × List Token)
  | .openBracket :: .openBracket :: rest => header? true r rest
  | .openBracket :: rest => header? false r rest
  | ts => entry? r ts

def lines? : (fuel : Nat) → Reading → List Token → Option Reading
  | 0, _, _ => none
  | fuel + 1, r, ts =>
    match skipLines ts with
    | [] => some r
    | ts => do
      let (r, rest) ← line? r ts
      match skipBlanks rest with
      | [] => return r
      | .newline :: rest => lines? fuel r rest
      | _ => failure

def ofTokens? (ts : List Token) : Option (List (String × Value)) :=
  (lines? (ts.length + 1) ⟨[], []⟩ ts).map fun r => Item.finishedEntries r.entries

def ofText? (text : String) : Option (List (String × Value)) := ofTokens? (Token.ofText text)

end Document

end Throttle.Toml
