import Throttle.Decimal
import Throttle.Text.Percent

/-!
# Addresses of resources

An address has a scheme, and behind it a host with a port and a user, a path and a query, all of
which may be missing.  `Uri.ofText?` takes it apart.  Its parts stay percent-encoded, except that
the dots in a path are resolved.
-/

namespace Throttle

/-- Who asks, and which host is asked at which port. -/
structure Uri.Authority where
  user : List Char
  password : Option (List Char)
  /-- May be empty only where neither a user nor a port is given. -/
  host : List Char
  port : Option Nat
  deriving DecidableEq, Repr

structure Uri where
  /-- In lower case. -/
  scheme : String
  authority : Option Uri.Authority
  /-- Starts with a slash where the address is hierarchical. -/
  path : List Char
  query : List Char
  deriving DecidableEq, Repr

namespace Uri

/-- The characters before the first one of a class, and those from it on. -/
def upTo (stop : Char → Bool) (cs : List Char) : List Char × List Char :=
  cs.span fun c => !stop c

/-- The characters before the last one that equals `mark`, and those behind it. -/
def splitLast? (mark : Char) (cs : List Char) : Option (List Char × List Char) :=
  match upTo (· == mark) cs.reverse with
  | (after, _ :: before) => some (before.reverse, after.reverse)
  | (_, []) => none

def pieces (mark : Char) : List Char → List (List Char)
  | [] => [[]]
  | c :: cs =>
    if c == mark then [] :: pieces mark cs
    else match pieces mark cs with
      | first :: rest => (c :: first) :: rest
      | [] => [[c]]

/-- A text without the control characters and blanks around it, and without line breaks and tabs
    inside it. -/
def tidy (text : String) : List Char :=
  let blank (c : Char) : Bool := decide (c ≤ ' ')
  let trimmed := ((text.toList.dropWhile blank).reverse.dropWhile blank).reverse
  trimmed.filter fun c => c != '\t' && c != '\n' && c != '\r'

/-- The scheme, in lower case, and what follows its colon. -/
def scheme? (cs : List Char) : Option (String × List Char) :=
  match upTo (· == ':') cs with
  | (first :: more, _ :: rest) =>
    if first.isAlpha && more.all fun c => c.isAlphanum || c == '+' || c == '-' || c == '.' then
      some (String.ofList ((first :: more).map Char.toLower), rest)
    else none
  | _ => none

/-! ## Hosts -/

/-- Characters that no name of a host contains. -/
def isForbidden (c : Char) : Bool := "\x00\t\n\r #/:<>?@[\\]^|".toList.contains c

/-- A number of a dotted address: up to 255, without leading zeros. -/
def isOctet (cs : List Char) : Bool :=
  match Decimal.natOfDigits? cs with
  | some n => decide (n ≤ 255) && Decimal.digits n == cs
  | none => false

/-- How many of the eight parts of a numeric address some pieces are: up to four hexadecimal digits
    are one part, and a dotted address at the end is two. -/
def partCount? : List (List Char) → Option Nat
  | [] => some 0
  | piece :: rest =>
    if !piece.isEmpty && decide (piece.length ≤ 4) &&
        piece.all fun c => (Text.hexValue? c).isSome then
      (partCount? rest).map (· + 1)
    else if rest.isEmpty && (pieces '.' piece).length == 4 && (pieces '.' piece).all isOctet then
      some 2
    else none

/-- The characters before the first two colons in a row, and those behind them. -/
def gap? : List Char → Option (List Char × List Char)
  | ':' :: ':' :: rest => some ([], rest)
  | c :: rest => (gap? rest).map fun (before, after) => (c :: before, after)
  | [] => none

/-- The pieces between colons; an empty text has none. -/
def colonPieces (cs : List Char) : List (List Char) := if cs.isEmpty then [] else pieces ':' cs

/-- A numeric address has eight parts, or two colons in a row in place of at least one. -/
def isNumericAddress (cs : List Char) : Bool :=
  match gap? cs with
  | none => partCount? (colonPieces cs) == some 8
  | some (before, after) =>
    match partCount? (colonPieces before), partCount? (colonPieces after) with
    | some n, some m => decide (n + m ≤ 7) && before.all (· != '.')
    | _, _ => false

/-- A name, or a numeric address in brackets. -/
def isHost (cs : List Char) : Bool :=
  match cs with
  | '[' :: rest => rest.getLast? == some ']' && isNumericAddress rest.dropLast
  | _ => !cs.any isForbidden

/-- The host, and what follows it: a colon inside brackets belongs to the host. -/
def splitHost (cs : List Char) : List Char × List Char :=
  match cs with
  | '[' :: _ =>
    let (inside, rest) := upTo (· == ']') cs
    let (more, rest) := upTo (· == ':') rest
    (inside ++ more, rest)
  | _ => upTo (· == ':') cs

/-- The port behind a host; a colon may stand without one. -/
def port? : List Char → Option (Option Nat)
  | [] => some none
  | [':'] => some none
  | ':' :: ds => ((Decimal.natOfDigits? ds).filter (· ≤ 65535)).map some
  | _ => none

def authority? (cs : List Char) : Option Authority := do
  let (userInfo, place) := match splitLast? '@' cs with
    | some (userInfo, place) => (some userInfo, place)
    | none => (none, cs)
  let (host, behind) := splitHost place
  let port ← port? behind
  if !isHost host then failure
  -- A user or a port makes no sense without a host.
  if host.isEmpty && (userInfo.isSome || !behind.isEmpty) then failure
  let (user, password) := upTo (· == ':') (userInfo.getD [])
  return ⟨user, password.tail?, host, port⟩

/-! ## Paths -/

/-- A part of a path with its encoded points written out. -/
def withPoints : List Char → List Char
  | '%' :: '2' :: 'e' :: rest | '%' :: '2' :: 'E' :: rest => '.' :: withPoints rest
  | c :: rest => c :: withPoints rest
  | [] => []

/-- Resolves the parts of a path that only name the place they stand in, or the one above it.
    `above` holds the parts before, last one first. -/
def resolveDots : List (List Char) → List (List Char) → List (List Char)
  | above, [] => above.reverse
  | above, part :: rest =>
    let last := if rest.isEmpty then [[]] else []
    match withPoints part with
    | ['.'] => resolveDots (last ++ above) rest
    | ['.', '.'] => resolveDots (last ++ above.tail) rest
    | _ => resolveDots (part :: above) rest

def resolvePath : List Char → List Char
  | '/' :: rest => (resolveDots [] (pieces '/' rest)).flatMap ('/' :: ·)
  | path => path

/-! ## Addresses -/

def ofText? (text : String) : Option Uri := do
  let (scheme, rest) ← scheme? (tidy text)
  let (beforeFragment, _) := upTo (· == '#') rest
  let (hierarchy, query) := upTo (· == '?') beforeFragment
  match hierarchy with
  | '/' :: '/' :: place =>
    let (authority, path) := upTo (· == '/') place
    return ⟨scheme, some (← authority? authority), resolvePath path, query.tail⟩
  | path => return ⟨scheme, none, resolvePath path, query.tail⟩

/-- What the query gives under a name: the value that is last. -/
def parameter? (uri : Uri) (name : String) : Option (List UInt8) :=
  let decode (cs : List Char) : List UInt8 :=
    Text.percentBytes (cs.map fun c => if c == '+' then ' ' else c)
  let pairs := (pieces '&' uri.query).map fun piece =>
    let (key, value) := upTo (· == '=') piece
    (decode key, decode value.tail)
  pairs.reverse.lookup name.toUTF8.toList

end Uri

end Throttle
