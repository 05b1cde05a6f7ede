import Throttle.Settings.Setting
import Throttle.Text.Blank
import Throttle.Text.Hex

/-!
# Settings from INI

An INI file of settings has lines with keys and values, and headers of sections.  A section is a
table of texts; what stands before the first header is at the top.  Of two sections, or two values,
with one name the last one counts.

Keys and sections may go over several lines; a value goes to the end of its line, and parts of it
may stand in quotation marks.  A backslash escapes the character behind it.
-/

namespace Throttle.Settings.FromIni

/-- The character that an escaped character stands for. -/
def escaped (c : Char) : Char :=
  if c = '0' then '\x00'
  else if c = 'a' then '\x07'
  else if c = 'b' then '\x08'
  else if c = 't' then '\t'
  else if c = 'r' then '\r'
  else if c = 'n' then '\n'
  else c

/-- The character of four hexadecimal digits. -/
def unit? (a b c d : Char) : Option Char := do
  let n := (((← Text.hexValue? a) * 16 + (← Text.hexValue? b)) * 16 + (← Text.hexValue? c)) * 16 +
    (← Text.hexValue? d)
  if n.isValidChar then return Char.ofNat n else failure

/-- The characters before one that ends them, without their escapes, and what follows from that one
    on.  They may also end with the text where `atEnd` says so. -/
def readUpTo? (stops : Char → Bool) (atEnd : Bool) : List Char → Option (List Char × List Char)
  | [] => if atEnd then some ([], []) else none
  | '\\' :: 'x' :: a :: b :: c :: d :: rest => do
    let meant ← unit? a b c d
    let (read, rest) ← readUpTo? stops atEnd rest
    return (meant :: read, rest)
  | '\\' :: '\n' :: rest => readUpTo? stops atEnd rest
  | '\\' :: c :: rest =>
    if c = 'x' then none
    else (readUpTo? stops atEnd rest).map fun (read, rest) => (escaped c :: read, rest)
  | c :: rest =>
    if c = '\\' then none
    else if stops c then some ([], c :: rest)
    else (readUpTo? stops atEnd rest).map fun (read, rest) => (c :: read, rest)

def isLineEnd (c : Char) : Bool := c == '\n' || c == '\r'

/-- The characters behind blanks on the same line. -/
def skipSpaces (cs : List Char) : List Char := cs.dropWhile fun c => Text.isBlank c && !isLineEnd c

/-- A value behind its sign, up to the end of the line, and what follows.  `quoted` holds the parts
    before that stand in quotation marks, if there are any. -/
def value? : (fuel : Nat) → (quoted : Option (List Char)) → List Char →
    Option (List Char × List Char)
  | 0, _, _ => none
  | fuel + 1, quoted, cs =>
    match cs with
    | [] => some (quoted.getD [], [])
    | c :: rest =>
      if c = '\x22' ∨ c = '\x27' then do
        let (part, rest) ← readUpTo? (· == c) false rest
        value? fuel (some (quoted.getD [] ++ part)) (rest.drop 1)
      else do
        let (part, rest) ← readUpTo? isLineEnd true cs
        match quoted with
        | none => return (Text.trim part, rest)
        | some before => return (before ++ Text.trimEnd part, rest)

/-- A section, or the top of the file, with its keys and values. -/
structure Part where
  name : Option String
  entries : List (String × String)
  deriving Repr

def addEntry (key value : String) : List Part → List Part
  | [] => []
  | [part] => [{ part with entries := part.entries ++ [(key, value)] }]
  | part :: rest => part :: addEntry key value rest

/-- Reads on in a file behind the parts before.  A comment takes a whole line, so that `atStart` has
    to tell whether a line starts here. -/
def parts? : (fuel : Nat) → (atStart : Bool) → List Part → List Char → Option (List Part)
  | 0, _, _, _ => none
  | fuel + 1, atStart, before, cs =>
    let skipped := cs.takeWhile Text.isBlank
    let atStart := if skipped.isEmpty then atStart else skipped.getLast? == some '\n'
    match cs.dropWhile Text.isBlank with
    | [] => some before
    | c :: rest =>
      if c = ';' ∨ c = '#' then
        if atStart then parts? fuel true before ((rest.dropWhile (· != '\n')).drop 1) else none
      else if c = '[' then do
        let (name, rest) ← readUpTo? (· == ']') false rest
        let part : Part := ⟨some (String.ofList (Text.trim name)), []⟩
        parts? fuel false (before ++ [part]) (rest.drop 1)
      else do
        let (key, rest) ← readUpTo? (fun c => c == '=' || c == ':') false (c :: rest)
        let key := Text.trim key
        if key.isEmpty then failure
        let rest := skipSpaces (rest.drop 1)
        let (value, rest) ← value? (rest.length + 1) none rest
        parts? fuel false (addEntry (String.ofList key) (String.ofList value) before) rest

/-- Entries without those that a later one of the same name replaces. -/
def lastOnes : List (String × Setting) → List (String × Setting)
  | [] => []
  | entry :: rest =>
    let others := lastOnes rest
    if others.any fun e => e.1 == entry.1 then others else entry :: others

/-- The settings of a part: at the top its entries themselves, else one table. -/
def Part.settings (part : Part) : List (String × Setting) :=
  let entries := part.entries.map fun (key, value) => (key, Setting.text value)
  match part.name with
  | none => entries
  | some name => [(name, .table (lastOnes entries))]

def entries (text : String) : Except Defect (List (String × Setting)) :=
  let cs := text.toList
  match parts? (cs.length + 1) true [⟨none, []⟩] cs with
  | some parts => .ok (lastOnes (parts.flatMap Part.settings))
  | none => .error .malformed

end Throttle.Settings.FromIni
