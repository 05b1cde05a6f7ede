import Throttle.Text.Hex

/-!
# TOML tokens

A TOML text is cut into tokens one character at a time.  `Scan` is what the scanner is in the
middle of and `Scan.next` what one more character does to it.  Where the text stops being TOML the
tokens end with `Token.bad`.

Bare keys, numbers and dates are cut at points and put together again where they are read, since
only the place of a word tells what it is.
-/

namespace Throttle.Toml

/-- The smallest pieces of a TOML text. -/
inductive Token
  /-- Characters of bare keys, numbers and dates. -/
  | word (text : String)
  | point
  | equals
  | comma
  | openBracket
  | closeBracket
  | openBrace
  | closeBrace
  | space
  | tab
  | newline
  /-- A string; only one with single quotation marks at its ends can be a key. -/
  | string (text : String) (single : Bool)
  /-- From here on the text is not TOML. -/
  | bad
  deriving DecidableEq, Repr

/-- The two kinds of strings. -/
inductive Quote
  /-- With escapes. -/
  | basic
  | literal
  deriving DecidableEq, Repr

/-- The quotation mark of a kind of strings. -/
def Quote.mark : Quote → Char
  | basic => '\x22'
  | literal => '\x27'

/-- What the scanner is in the middle of.  The characters of a string so far come last one first. -/
inductive Scan
  | between
  | word (reversed : List Char)
  | comment
  /-- Behind a carriage return, which only belongs before a line feed. -/
  | carriageReturn
  /-- Behind one or two quotation marks that start a string. -/
  | opening (quote : Quote) (marks : Nat)
  /-- In a string on one line. -/
  | short (quote : Quote) (reversed : List Char)
  /-- Behind the three marks that start a string on several lines. -/
  | opened (quote : Quote)
  | openedReturn (quote : Quote)
  /-- In a string on several lines, behind a number of marks that may be its end. -/
  | long (quote : Quote) (reversed : List Char) (marks : Nat)
  | longReturn (quote : Quote) (reversed : List Char)
  /-- Behind a backslash. -/
  | escape (several : Bool) (reversed : List Char)
  /-- In a hexadecimal escape that lacks `missing` digits. -/
  | unit (several : Bool) (reversed : List Char) (missing value : Nat)
  /-- In the blanks behind a backslash at the end of a line. -/
  | gap (reversed : List Char) (newLine : Bool)
  | gapReturn (reversed : List Char)
  deriving DecidableEq, Repr

namespace Scan

def isWordChar (c : Char) : Bool := c.isAlphanum || c == '_' || c == '-' || c == '+' || c == ':'

/-- A character that strings and comments may hold as it is. -/
def isPrintable (c : Char) : Bool := c == '\t' || (decide (' ' ≤ c) && c != '\x7f')

def start (c : Char) : Option (List Token × Scan) :=
  if isWordChar c then some ([], word [c])
  else if c = ' ' then some ([.space], between)
  else if c = '\t' then some ([.tab], between)
  else if c = '\n' then some ([.newline], between)
  else if c = '\r' then some ([], carriageReturn)
  else if c = '#' then some ([], comment)
  else if c = '.' then some ([.point], between)
  else if c = '=' then some ([.equals], between)
  else if c = ',' then some ([.comma], between)
  else if c = '[' then some ([.openBracket], between)
  else if c = ']' then some ([.closeBracket], between)
  else if c = '\x7b' then some ([.openBrace], between)
  else if c = '\x7d' then some ([.closeBrace], between)
  else if c = '\x22' then some ([], opening .basic 1)
  else if c = '\x27' then some ([], opening .literal 1)
  else none

/-- The token, and what a character starts behind it. -/
def after (token : Token) (c : Char) : Option (List Token × Scan) :=
  (start c).map fun (tokens, s) => (token :: tokens, s)

/-- The string on several lines whose end lies behind a number of marks: all but three of them
    belong to it. -/
def longString (quote : Quote) (reversed : List Char) (marks : Nat) : Token :=
  .string (String.ofList (List.replicate (marks - 3) quote.mark ++ reversed).reverse) false

/-- What a character does in a string on one line. -/
def nextShort (quote : Quote) (reversed : List Char) (c : Char) : Option (List Token × Scan) :=
  if c = quote.mark then some ([.string (String.ofList reversed.reverse) true], between)
  else if c = '\\' ∧ quote = .basic then some ([], escape false reversed)
  else if isPrintable c then some ([], short quote (c :: reversed))
  else none

/-- What a character does in a string on several lines, where no mark stands before it. -/
def nextLong (quote : Quote) (reversed : List Char) (c : Char) : Option (List Token × Scan) :=
  if c = quote.mark then some ([], long quote reversed 1)
  else if c = '\\' ∧ quote = .basic then some ([], escape true reversed)
  else if c = '\n' then some ([], long quote ('\n' :: reversed) 0)
  else if c = '\r' then some ([], longReturn quote reversed)
  else if isPrintable c then some ([], long quote (c :: reversed) 0)
  else none

/-- What a character does behind marks in a string on several lines. -/
def nextMarks (quote : Quote) (reversed : List Char) (marks : Nat) (c : Char) :
    Option (List Token × Scan) :=
  if c = quote.mark then
    -- Of five marks in a row two are text and three end the string.
    if marks = 4 then some ([longString quote reversed 5], between)
    else some ([], long quote reversed (marks + 1))
  -- Three marks or more have ended the string before this character.
  else if 3 ≤ marks then after (longString quote reversed marks) c
  else nextLong quote (List.replicate marks quote.mark ++ reversed) c

/-- The string with one more character. -/
def push (several : Bool) (reversed : List Char) (c : Char) : Scan :=
  if several then long .basic (c :: reversed) 0 else short .basic (c :: reversed)

/-- The character that a one-letter escape stands for. -/
def shortEscape? (c : Char) : Option Char :=
  if c = '\x22' ∨ c = '\\' then some c
  else if c = 'b' then some '\x08'
  else if c = 'f' then some '\x0c'
  else if c = 'n' then some '\n'
  else if c = 'r' then some '\r'
  else if c = 't' then some '\t'
  else none

def nextEscape (several : Bool) (reversed : List Char) (c : Char) : Option (List Token × Scan) :=
  if c = 'u' then some ([], unit several reversed 4 0)
  else if c = 'U' then some ([], unit several reversed 8 0)
  else match shortEscape? c with
    | some meant => some ([], push several reversed meant)
    | none =>
      if several && (c == ' ' || c == '\t') then some ([], gap reversed false)
      else if several && c == '\n' then some ([], gap reversed true)
      else if several && c == '\r' then some ([], gapReturn reversed)
      else none

/-- What a digit does in a hexadecimal escape, which must stand for a character. -/
def nextUnit (several : Bool) (reversed : List Char) (missing value : Nat) (c : Char) :
    Option (List Token × Scan) :=
  match Text.hexValue? c with
  | none => none
  | some digit =>
    let value := value * 16 + digit
    if 1 < missing then some ([], unit several reversed (missing - 1) value)
    else if value.isValidChar then some ([], push several reversed (Char.ofNat value))
    else none

/-- What a character does in the blanks behind a backslash: they end with the first character that
    is none, and hold at least one line break. -/
def nextGap (reversed : List Char) (newLine : Bool) (c : Char) : Option (List Token × Scan) :=
  if c = ' ' ∨ c = '\t' then some ([], gap reversed newLine)
  else if c = '\n' then some ([], gap reversed true)
  else if c = '\r' then some ([], gapReturn reversed)
  else if newLine then nextLong .basic reversed c
  else none

/-- What one more character does: the tokens it completes and where the scanner is then, or none
    where the text stops being TOML. -/
def next (s : Scan) (c : Char) : Option (List Token × Scan) :=
  match s with
  | between => start c
  | word reversed =>
    if isWordChar c then some ([], word (c :: reversed))
    else after (.word (String.ofList reversed.reverse)) c
  | comment =>
    if c = '\n' ∨ c = '\r' then start c
    else if isPrintable c then some ([], comment)
    else none
  | carriageReturn => if c = '\n' then some ([.newline], between) else none
  | opening quote 1 =>
    if c = quote.mark then some ([], opening quote 2) else nextShort quote [] c
  | opening quote _ =>
    if c = quote.mark then some ([], opened quote) else after (.string "" true) c
  | short quote reversed => nextShort quote reversed c
  | opened quote =>
    if c = '\n' then some ([], long quote [] 0)
    else if c = '\r' then some ([], openedReturn quote)
    else nextLong quote [] c
  | openedReturn quote => if c = '\n' then some ([], long quote [] 0) else none
  | long quote reversed 0 => nextLong quote reversed c
  | long quote reversed marks => nextMarks quote reversed marks c
  | longReturn quote reversed =>
    if c = '\n' then some ([], long quote ('\n' :: reversed) 0) else none
  | escape several reversed => nextEscape several reversed c
  | unit several reversed missing value => nextUnit several reversed missing value c
  | gap reversed newLine => nextGap reversed newLine c
  | gapReturn reversed => if c = '\n' then some ([], gap reversed true) else none

/-- The tokens that the end of the text completes. -/
def finish : Scan → List Token
  | between | comment => []
  | word reversed => [.word (String.ofList reversed.reverse)]
  | opening _ 2 => [.string "" true]
  | long quote reversed marks => if 3 ≤ marks then [longString quote reversed marks] else [.bad]
  | _ => [.bad]

/-- The tokens of a text, from the middle of something on. -/
def run : Scan → List Char → List Token
  | s, [] => s.finish
  | s, c :: cs =>
    match s.next c with
    | none => [.bad]
    | some (tokens, s) => tokens ++ s.run cs

end Scan

/-- The tokens of a text.  A byte order mark at its start does not count. -/
def Token.ofText (text : String) : List Token :=
  match text.toList with
  | '\ufeff' :: cs => Scan.between.run cs
  | cs => Scan.between.run cs

end Throttle.Toml
