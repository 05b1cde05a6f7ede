import Throttle.Text.Hex
import Throttle.Yaml.Folding

/-!
# Scalars

The three notations of a scalar: plain, between quotes, and as a block.  Each reader takes the
characters from the scalar's beginning and answers with its text, the place behind it and the
characters that follow.
-/

namespace Throttle.Yaml

/-- A scalar that has been read. -/
structure ScalarText where
  text : String
  /-- The scalar ends behind a line break. -/
  endsLine : Bool
  mark : Mark
  rest : List Char

/-! ## Plain scalars -/

/-- Where a plain scalar stands. -/
structure PlainContext where
  dialect : Dialect
  /-- Inside a flow collection. -/
  flow : Bool
  /-- The least column of its later lines. -/
  indent : Int

namespace PlainContext

/-- A colon in flow context that may be neither text nor a separator. -/
def strayColon (k : PlainContext) : List Char → Bool
  | ':' :: c :: _ => k.flow && !k.dialect.tightColon && (isFlowSign c || c == '?')
  | _ => false

/-- The plain scalar ends before these characters. -/
def stops (k : PlainContext) : List Char → Bool
  | ':' :: rest =>
    k.dialect.blankOrEnd rest ||
      (k.flow && k.dialect.tightColon && (rest.head?.map isFlowSign).getD false)
  | c :: _ => k.flow && isFlowSign c
  | [] => true

end PlainContext

def plainFrom (k : PlainContext) (f : Folded) (m : Mark) : List Char → Option ScalarText
  | [] => some ⟨String.ofList f.reversed.reverse, f.firstBreak.isSome, m, []⟩
  | c :: cs =>
    let done : Option ScalarText :=
      some ⟨String.ofList f.reversed.reverse, f.firstBreak.isSome, m, c :: cs⟩
    if isBlank c then
      if f.firstBreak.isSome && decide ((m.column : Int) < k.indent) && k.dialect.badTab (c :: cs)
      then none
      else plainFrom k (f.blank c) m.step cs
    else if k.dialect.isBreak c then plainFrom k (f.lineBreak c) m.newLine cs
    else if f.pending && !k.flow && decide ((m.column : Int) < k.indent) then done
    else if m.column == 0 && k.dialect.atDocumentMarker (c :: cs) then done
    else if f.pending && c == '#' then done
    else if k.strayColon (c :: cs) then none
    else if k.stops (c :: cs) then done
    else plainFrom k (f.push c) m.step cs

/-! ## Quoted scalars -/

/-- What a reader of a quoted scalar is in the middle of. -/
inductive QuotedPart
  | text
  /-- Behind a single quote that ends the scalar unless another one follows. -/
  | quote
  /-- Behind a backslash. -/
  | escape
  /-- In a numeric escape that lacks `missing` digits. -/
  | code (missing value : Nat)
  deriving DecidableEq, Repr

/-- The character that a one-letter escape stands for. -/
def escaped? : Char → Option Char
  | '0' => some '\x00'
  | 'a' => some '\x07'
  | 'b' => some '\x08'
  | 't' | '\t' => some '\t'
  | 'n' => some '\n'
  | 'v' => some '\x0b'
  | 'f' => some '\x0c'
  | 'r' => some '\r'
  | 'e' => some '\x1b'
  | ' ' => some ' '
  | '\x22' => some '\x22'
  | '/' => some '/'
  | '\\' => some '\\'
  | 'N' => some '\u0085'
  | '_' => some '\u00a0'
  | 'L' => some '\u2028'
  | 'P' => some '\u2029'
  | _ => none

def escapeDigits? : Char → Option Nat
  | 'x' => some 2
  | 'u' => some 4
  | 'U' => some 8
  | _ => none

/-- The character of a code point, unless it is none. -/
def charOfCode? (n : Nat) : Option Char := if n.isValidChar then some (Char.ofNat n) else none

def quotedFrom (d : Dialect) (single : Bool) :
    Folded → QuotedPart → Mark → List Char → Option ScalarText
  | f, .quote, m, [] => some ⟨String.ofList f.joined.reverse, false, m, []⟩
  | _, _, _, [] => none
  | f, .text, m, c :: cs =>
    if m.column == 0 && d.atDocumentMarker (c :: cs) then none
    else if isBlank c then quotedFrom d single (f.blank c) .text m.step cs
    else if d.isBreak c then quotedFrom d single (f.lineBreak c) .text m.newLine cs
    else if single then
      if c == '\x27' then quotedFrom d single f .quote m.step cs
      else quotedFrom d single (f.push c) .text m.step cs
    else if c == '\x22' then some ⟨String.ofList f.joined.reverse, false, m.step, cs⟩
    else if c == '\\' then quotedFrom d single f .escape m.step cs
    else quotedFrom d single (f.push c) .text m.step cs
  | f, .quote, m, c :: cs =>
    if c == '\x27' then quotedFrom d single (f.push c) .text m.step cs
    else some ⟨String.ofList f.joined.reverse, false, m, c :: cs⟩
  | f, .escape, m, c :: cs =>
    if d.isBreak c then quotedFrom d single f.escapedBreak .text m.newLine cs
    else match escapeDigits? c with
      | some digits => quotedFrom d single f (.code digits 0) m.step cs
      | none => match escaped? c with
        | some meant => quotedFrom d single (f.push meant) .text m.step cs
        | none => none
  | f, .code missing value, m, c :: cs =>
    match Text.hexValue? c with
    | none => none
    | some digit =>
      let value := value * 16 + digit
      if missing ≤ 1 then
        match charOfCode? value with
        | some meant => quotedFrom d single (f.push meant) .text m.step cs
        | none => none
      else quotedFrom d single f (.code (missing - 1) value) m.step cs

/-! ## Block scalars -/

/-- What becomes of the line breaks at the end of a block scalar. -/
inductive Chomping
  /-- All are dropped. -/
  | strip
  /-- One is kept. -/
  | clip
  /-- All are kept. -/
  | keep
  deriving DecidableEq, Repr

/-- The first line of a block scalar. -/
structure BlockHeader where
  /-- Line breaks stand for themselves. -/
  literal : Bool
  chomping : Chomping
  /-- The columns of its content beyond those of the block around it, where they are given. -/
  increment : Option Nat

def chompingSign? : Char → Option Chomping
  | '+' => some .keep
  | '-' => some .strip
  | _ => none

def incrementDigit? (c : Char) : Option Nat :=
  if c.isDigit && c != '0' then some (c.toNat - '0'.toNat) else none

/-- The indicators behind the sign of a block scalar, in either order, and how many they are. -/
def blockHeader (literal : Bool) : List Char → BlockHeader × Nat
  | a :: b :: _ =>
    match chompingSign? a, incrementDigit? a, chompingSign? b, incrementDigit? b with
    | some chomping, _, _, some n => (⟨literal, chomping, some n⟩, 2)
    | some chomping, _, _, none => (⟨literal, chomping, none⟩, 1)
    | none, some n, some chomping, _ => (⟨literal, chomping, some n⟩, 2)
    | none, some n, none, _ => (⟨literal, .clip, some n⟩, 1)
    | none, none, _, _ => (⟨literal, .clip, none⟩, 0)
  | [a] =>
    match chompingSign? a, incrementDigit? a with
    | some chomping, _ => (⟨literal, chomping, none⟩, 1)
    | none, some n => (⟨literal, .clip, some n⟩, 1)
    | none, none => (⟨literal, .clip, none⟩, 0)
  | [] => (⟨literal, .clip, none⟩, 0)

/-- A block scalar that is being read. -/
structure BlockText where
  /-- The text so far, last character first. -/
  reversed : List Char
  /-- The break behind the last line, whose meaning depends on the next line. -/
  lastBreak : List Char
  /-- The breaks of empty lines after that one, last one first. -/
  emptyLines : List Char
  /-- The last line started with a blank. -/
  blankStart : Bool

namespace BlockText

def empty : BlockText := ⟨[], [], [], false⟩

/-- The text before a new line, which starts with a blank or not. -/
def joined (b : BlockText) (literal blankStart : Bool) : List Char :=
  if !literal && b.lastBreak == ['\n'] && !b.blankStart && !blankStart then
    (if b.emptyLines.isEmpty then [' '] else b.emptyLines) ++ b.reversed
  else b.emptyLines ++ b.lastBreak ++ b.reversed

def chomped (b : BlockText) : Chomping → List Char
  | .strip => b.reversed
  | .clip => b.lastBreak ++ b.reversed
  | .keep => b.emptyLines ++ b.lastBreak ++ b.reversed

end BlockText

/-- What a reader of a block scalar is in the middle of. -/
inductive BlockPart
  /-- In the indentation of a line; `widest` is the widest so far while the column of the content
      is not known. -/
  | indentation (column? : Option Nat) (widest : Nat)
  /-- In a line of content, which starts in this column. -/
  | content (column : Nat)

/-- Reads on in a block scalar.  `least` is the least column of its content. -/
def blockFrom (d : Dialect) (header : BlockHeader) (least : Nat) :
    BlockText → BlockPart → Mark → List Char → Option ScalarText
  | b, _, m, [] => some ⟨String.ofList (b.chomped header.chomping).reverse, true, m, []⟩
  | b, .indentation column? widest, m, c :: cs =>
    let within := column?.all fun column => decide (m.column < column)
    let widest := max widest m.column
    if within && c == ' ' then blockFrom d header least b (.indentation column? widest) m.step cs
    else if within && c == '\t' then none
    else if d.isBreak c then
      blockFrom d header least { b with emptyLines := c :: b.emptyLines }
        (.indentation column? widest) m.newLine cs
    else
      -- The first line that is not empty fixes the column, unless the header did.
      let column := column?.getD (max widest least)
      if m.column == column then
        let blankStart := isBlank c
        blockFrom d header least
          ⟨c :: b.joined header.literal blankStart, [], [], blankStart⟩ (.content column) m.step cs
      else some ⟨String.ofList (b.chomped header.chomping).reverse, true, m, c :: cs⟩
  | b, .content column, m, c :: cs =>
    if d.isBreak c then
      blockFrom d header least { b with lastBreak := [c] } (.indentation (some column) 0) m.newLine
        cs
    else
      blockFrom d header least { b with reversed := c :: b.reversed } (.content column) m.step cs

/-- Reads the rest of a header line, and answers with what follows it. -/
def blockHeaderEnd (d : Dialect) : Bool → Mark → List Char → Option (Mark × List Char)
  | _, m, [] => some (m, [])
  | comment, m, c :: cs =>
    if d.isBreak c then some (m.newLine, cs)
    else if comment || isBlank c then blockHeaderEnd d comment m.step cs
    else if c == '#' then blockHeaderEnd d true m.step cs
    else none

/-- Reads a block scalar from behind its sign.  `indent` is the column of the block around it. -/
def blockScalar (d : Dialect) (literal : Bool) (indent : Int) (m : Mark) (cs : List Char) :
    Option ScalarText :=
  let (header, used) := blockHeader literal cs
  match blockHeaderEnd d false (m.forward used) (cs.drop used) with
  | none => none
  | some (m, rest) =>
    let column? := header.increment.map fun n => indent.toNat + n
    blockFrom d header (max (indent + 1).toNat 1) .empty (.indentation column? 0) m rest

end Throttle.Yaml
