/-!
# YAML dialects

Two readings of YAML are in use.  The strict one is for rules documents, the lenient one for
settings.  `Dialect` says in which points they differ; everything else is shared.

The module also holds the character classes, and `Dialect.chars?`, which prepares a text: line
breaks are unified, so that later stages see one character per break.
-/

namespace Throttle.Yaml

/-- The points in which readings of YAML differ. -/
structure Dialect where
  /-- Only printable characters may occur in a text. -/
  printableOnly : Bool
  /-- A byte order mark at the start of a line is passed over. -/
  skipsOrderMark : Bool
  /-- The next-line sign breaks lines, and so do the line and paragraph separators. -/
  wideBreaks : Bool
  /-- A tab may stand where a key could start, unless it indents the content of a block. -/
  tabsBeforeKeys : Bool
  /-- In flow context a colon may stand directly before `[`, `]`, `{`, `}` or `,`. -/
  tightColon : Bool
  /-- Directives of other names are passed over. -/
  anyDirective : Bool
  /-- Names of anchors may hold every character that is no blank and no flow sign. -/
  wideNames : Bool
  /-- The content of a flow collection must not stand to the left of the block around it. -/
  flowWithinBlock : Bool
  deriving DecidableEq, Repr

namespace Dialect

/-- How rules documents are read. -/
def strict : Dialect where
  printableOnly := true
  skipsOrderMark := true
  wideBreaks := true
  tabsBeforeKeys := false
  tightColon := false
  anyDirective := false
  wideNames := false
  flowWithinBlock := false

/-- How settings are read. -/
def lenient : Dialect where
  printableOnly := false
  skipsOrderMark := false
  wideBreaks := false
  tabsBeforeKeys := true
  tightColon := true
  anyDirective := true
  wideNames := true
  flowWithinBlock := true

end Dialect

/-! ## Characters -/

/-- A character that may occur in a strict text. -/
def isPrintable (c : Char) : Bool :=
  let n := c.toNat
  n == 0x09 || n == 0x0a || n == 0x0d || n == 0x85 || (0x20 ≤ n && n ≤ 0x7e) ||
    (0xa0 ≤ n && n ≤ 0xd7ff) || (0xe000 ≤ n && n ≤ 0xfffd) ||
    0x10000 ≤ n

def isBlank (c : Char) : Bool := c == ' ' || c == '\t'

def isSeparator (c : Char) : Bool := c == '\u2028' || c == '\u2029'

/-- A letter, a digit, an underscore or a hyphen of ASCII, as names of anchors and handles are made
    of. -/
def isNameChar (c : Char) : Bool := c.isAlphanum || c == '_' || c == '-'

/-- A sign that opens, closes or divides a flow collection. -/
def isFlowSign (c : Char) : Bool :=
  c == ',' || c == '[' || c == ']' || c == '\x7b' || c == '\x7d'

def byteOrderMark : Char := '\ufeff'

namespace Dialect

/-- A character that ends a line, once line breaks are unified. -/
def isBreak (d : Dialect) (c : Char) : Bool := c == '\n' || (d.wideBreaks && isSeparator c)

/-- A blank, the end of a line, or the end of the text. -/
def blankOrEnd (d : Dialect) : List Char → Bool
  | [] => true
  | c :: _ => isBlank c || d.isBreak c

def lineEnd (d : Dialect) : List Char → Bool
  | [] => true
  | c :: _ => d.isBreak c

/-- Nothing but blanks stands before the end of the line. -/
def blankLine (d : Dialect) (cs : List Char) : Bool := d.lineEnd (cs.dropWhile isBlank)

/-- A tab may not stand here, in a column to the left of the content. -/
def badTab (d : Dialect) : List Char → Bool
  | '\t' :: cs => !d.tabsBeforeKeys || !d.blankLine cs
  | _ => false

/-- A document marker starts here, made of three times the sign. -/
def atMarker (d : Dialect) (sign : Char) : List Char → Bool
  | a :: b :: c :: rest => a == sign && b == sign && c == sign && d.blankOrEnd rest
  | _ => false

/-- A document starts or ends here, where the column is the first. -/
def atDocumentMarker (d : Dialect) (cs : List Char) : Bool := d.atMarker '-' cs || d.atMarker '.' cs

/-- A text in which every line break is one character: a carriage return, alone or before a line
    feed, becomes a line feed, and so does the next-line sign where it is a break. -/
def unifyBreaks (d : Dialect) : List Char → List Char
  | [] => []
  | '\r' :: '\n' :: cs => '\n' :: d.unifyBreaks cs
  | c :: cs =>
    (if c == '\r' || (d.wideBreaks && c == '\u0085') then '\n' else c) :: d.unifyBreaks cs

/-- The characters to be read, or none where one of them may not occur.  Where any character may
    occur, the text ends before the first NUL. -/
def chars? (d : Dialect) (text : String) : Option (List Char) :=
  let cs := text.toList
  if d.printableOnly then
    if cs.all isPrintable then some (d.unifyBreaks cs) else none
  else some (d.unifyBreaks (cs.takeWhile (· != '\x00')))

end Dialect

/-! ## Positions -/

/-- A place in a text. -/
structure Mark where
  /-- The number of characters before it. -/
  index : Nat
  line : Nat
  /-- The number of characters before it on its line. -/
  column : Nat
  deriving DecidableEq, Repr

namespace Mark

def start : Mark := ⟨0, 0, 0⟩

/-- The place behind one character that breaks no line. -/
def step (m : Mark) : Mark := ⟨m.index + 1, m.line, m.column + 1⟩

/-- The place behind a number of characters that break no line. -/
def forward (m : Mark) (count : Nat) : Mark := ⟨m.index + count, m.line, m.column + count⟩

def newLine (m : Mark) : Mark := ⟨m.index + 1, m.line + 1, 0⟩

end Mark

end Throttle.Yaml
