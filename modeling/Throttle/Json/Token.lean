import Throttle.Json.Number
import Throttle.Text.Hex

/-!
# JSON tokens

A JSON text is cut into tokens one character at a time.  `Scan` is what the scanner is in the
middle of, `Scan.next` what one more character does to it, and `Token.scan` runs it over a text.
Where the text stops being JSON the tokens end with `Token.bad`.

A string may hold escapes that are half of a surrogate pair.  Such a string is still a token, since
a reader may not care for it, but it has no text.
-/

namespace Throttle.Json

/-- The smallest pieces of a JSON text. -/
inductive Token
  | beginArray
  | endArray
  | beginObject
  | endObject
  | comma
  | colon
  | null
  | bool (value : Bool)
  | number (numeral : Numeral)
  /-- A string, with its text unless half of a surrogate pair stands alone in it. -/
  | string (text : Option String)
  /-- From here on the text is not JSON. -/
  | bad
  deriving DecidableEq, Repr

/-- The part of a string that has been read. -/
structure Unescaped where
  /-- The characters so far, last one first. -/
  reversed : List Char
  /-- The first half of a surrogate pair that still lacks the second. -/
  high : Option Nat
  /-- Half of a pair stands alone. -/
  lone : Bool
  deriving DecidableEq, Repr

namespace Unescaped

def empty : Unescaped := ⟨[], none, false⟩

def push (s : Unescaped) (c : Char) : Unescaped := ⟨c :: s.reversed, none, s.lone || s.high.isSome⟩

/-- Adds a 16-bit unit, joining it to the half of a pair before it. -/
def pushUnit (s : Unescaped) (unit : Nat) : Unescaped :=
  if 0xdc00 ≤ unit ∧ unit ≤ 0xdfff then
    match s.high with
    | some high =>
      ⟨Char.ofNat (0x10000 + (high - 0xd800) * 0x400 + (unit - 0xdc00)) :: s.reversed, none, s.lone⟩
    | none => { s with lone := true }
  else if 0xd800 ≤ unit ∧ unit ≤ 0xdbff then ⟨s.reversed, some unit, s.lone || s.high.isSome⟩
  else s.push (Char.ofNat unit)

/-- The text of the string, if no half of a pair stands alone. -/
def text (s : Unescaped) : Option String :=
  if s.lone || s.high.isSome then none else some (String.ofList s.reversed.reverse)

end Unescaped

/-- How far a number has been read. -/
inductive NumberPart
  /-- Behind the minus sign. -/
  | sign
  /-- Behind a zero that starts the number. -/
  | zero
  | whole
  /-- Behind the point. -/
  | point
  | fraction
  /-- Behind the `e`. -/
  | exponentMark
  /-- Behind the sign of the exponent. -/
  | exponentSign
  | exponent
  deriving DecidableEq, Repr

def NumberPart.complete : NumberPart → Bool
  | zero | whole | fraction | exponent => true
  | sign | point | exponentMark | exponentSign => false

/-- What the scanner is in the middle of. -/
inductive Scan
  | between
  /-- In a word, of which `missing` is still to come. -/
  | word (missing : List Char) (token : Token)
  | number (numeral : Numeral) (part : NumberPart)
  | text (s : Unescaped)
  /-- Behind a backslash. -/
  | escape (s : Unescaped)
  /-- In a hexadecimal escape that lacks `missing` digits. -/
  | unit (s : Unescaped) (missing value : Nat)
  deriving DecidableEq, Repr

def Numeral.pushExponent (n : Numeral) (c : Char) : Numeral :=
  match n.exponent with
  | some (negative, digits) => { n with exponent := some (negative, digits ++ [c]) }
  | none => { n with exponent := some (false, [c]) }

namespace Scan

def start (c : Char) : Option (List Token × Scan) :=
  if c = ' ' ∨ c = '\n' ∨ c = '\t' ∨ c = '\r' then some ([], between)
  else if c = '[' then some ([.beginArray], between)
  else if c = ']' then some ([.endArray], between)
  else if c = '\x7b' then some ([.beginObject], between)
  else if c = '\x7d' then some ([.endObject], between)
  else if c = ',' then some ([.comma], between)
  else if c = ':' then some ([.colon], between)
  else if c = 'n' then some ([], word ['u', 'l', 'l'] .null)
  else if c = 't' then some ([], word ['r', 'u', 'e'] (.bool true))
  else if c = 'f' then some ([], word ['a', 'l', 's', 'e'] (.bool false))
  else if c = '\x22' then some ([], text .empty)
  else if c = '-' then some ([], number ⟨true, [], [], none⟩ .sign)
  else if c = '0' then some ([], number ⟨false, [c], [], none⟩ .zero)
  else if c.isDigit then some ([], number ⟨false, [c], [], none⟩ .whole)
  else none

/-- What a character does in a number: the longer number, or none where it does not belong to the
    number. -/
def extend (n : Numeral) (c : Char) : NumberPart → Option (Numeral × NumberPart)
  | .sign =>
    if c = '0' then some (⟨n.negative, [c], [], none⟩, .zero)
    else if c.isDigit then some (⟨n.negative, [c], [], none⟩, .whole)
    else none
  | .zero =>
    if c = '.' then some (n, .point)
    else if c = 'e' ∨ c = 'E' then some (n, .exponentMark)
    else none
  | .whole =>
    if c.isDigit then some (⟨n.negative, n.whole ++ [c], [], none⟩, .whole)
    else if c = '.' then some (n, .point)
    else if c = 'e' ∨ c = 'E' then some (n, .exponentMark)
    else none
  | .point | .fraction =>
    if c.isDigit then some (⟨n.negative, n.whole, n.fraction ++ [c], none⟩, .fraction)
    else if n.fraction ≠ [] ∧ (c = 'e' ∨ c = 'E') then some (n, .exponentMark)
    else none
  | .exponentMark =>
    if c = '+' then some (⟨n.negative, n.whole, n.fraction, some (false, [])⟩, .exponentSign)
    else if c = '-' then some (⟨n.negative, n.whole, n.fraction, some (true, [])⟩, .exponentSign)
    else if c.isDigit then some (n.pushExponent c, .exponent)
    else none
  | .exponentSign | .exponent =>
    if c.isDigit then some (n.pushExponent c, .exponent) else none

/-- The character that a one-letter escape stands for. -/
def shortEscape? (c : Char) : Option Char :=
  if c = '\x22' ∨ c = '\\' ∨ c = '/' then some c
  else if c = 'b' then some '\x08'
  else if c = 'f' then some '\x0c'
  else if c = 'n' then some '\n'
  else if c = 'r' then some '\r'
  else if c = 't' then some '\t'
  else none

/-- What one more character does: the tokens it completes and where the scanner is then, or none
    where the text stops being JSON. -/
def next (s : Scan) (c : Char) : Option (List Token × Scan) :=
  match s with
  | between => start c
  | word [] _ => none
  | word [expected] token => if c = expected then some ([token], between) else none
  | word (expected :: rest) token => if c = expected then some ([], word rest token) else none
  | number n part =>
    match extend n c part with
    | some (longer, reached) => some ([], number longer reached)
    | none =>
      if part.complete && !(part == .zero && c.isDigit) then
        (start c).map fun (tokens, after) => (.number n :: tokens, after)
      else none
  | text u =>
    if c = '\x22' then some ([.string u.text], between)
    else if c = '\\' then some ([], escape u)
    else if c.toNat < 0x20 then none
    else some ([], text (u.push c))
  | escape u =>
    if c = 'u' then some ([], unit u 4 0)
    else (shortEscape? c).map fun meant => ([], text (u.push meant))
  | unit u missing value =>
    (Text.hexValue? c).map fun digit =>
      let value := value * 16 + digit
      if missing ≤ 1 then ([], text (u.pushUnit value)) else ([], unit u (missing - 1) value)

/-- The tokens that the end of the text completes. -/
def finish : Scan → List Token
  | between => []
  | number n part => if part.complete then [.number n] else [.bad]
  | word _ _ | text _ | escape _ | unit _ _ _ => [.bad]

/-- The tokens of a text, from the middle of something on. -/
def run : Scan → List Char → List Token
  | s, [] => s.finish
  | s, c :: cs =>
    match s.next c with
    | some (tokens, after) => tokens ++ run after cs
    | none => [.bad]

end Scan

def Token.scan (cs : List Char) : List Token := Scan.between.run cs

end Throttle.Json
