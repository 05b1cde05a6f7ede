import Throttle.Yaml.Scalar

/-!
# YAML tokens

A YAML text is cut into tokens.  Indentation becomes tokens of its own: a block collection is
opened where the column grows and closed where it shrinks again.  That a scalar is the key of a
mapping shows only at the colon behind it, so the scanner remembers which token might be a key and
marks it when the colon comes.

`Token.scan` gives all tokens.  Where the text stops being YAML the tokens end with `Token.bad`,
and those in front of it are the ones that nothing behind them could have changed.
-/

namespace Throttle.Yaml

inductive ScalarStyle
  | plain
  /-- Between quotes, or as a block. -/
  | marked
  deriving DecidableEq, Repr

/-- The pieces of a YAML text. -/
inductive Token
  | version (supported : Bool)
  | tagDirective (handle leader : String)
  | documentStart
  | documentEnd
  | blockSequenceStart
  | blockMappingStart
  | blockEnd
  | flowSequenceStart
  | flowSequenceEnd
  | flowMappingStart
  | flowMappingEnd
  | blockEntry
  | flowEntry
  | key
  | value
  | alias (name : String)
  | anchor (name : String)
  | tag (handle suffix : String)
  | scalar (text : String) (style : ScalarStyle)
  | streamEnd
  /-- From here on the text is not YAML. -/
  | bad
  deriving DecidableEq, Repr

/-! ## Directives, anchors and tags -/

/-- The digits of a version number, at most nine, and what follows. -/
def versionNumber? (cs : List Char) : Option (Nat × List Char) :=
  let digits := cs.takeWhile Char.isDigit
  if digits.isEmpty || 9 < digits.length then none
  else some (Nat.ofDigitChars 10 digits 0, cs.dropWhile Char.isDigit)

/-- A version directive's value.  A strict reading supports the versions 1.1 and 1.2. -/
def versionValue? (d : Dialect) (cs : List Char) : Option (Token × List Char) := do
  let (major, rest) ← versionNumber? (cs.dropWhile isBlank)
  match rest with
  | '.' :: rest => do
    let (minor, rest) ← versionNumber? rest
    return (.version (d.anyDirective || (major == 1 && (minor == 1 || minor == 2))), rest)
  | _ => none

def isTagSign (c : Char) : Bool := ";/?:@&=+$.!~*'()".toList.contains c

/-- The bytes of percent escapes, as far as they go, and what follows them. -/
def percentBytes : List Char → Option (List UInt8 × List Char)
  | '%' :: a :: b :: cs =>
    match Text.hexValue? a, Text.hexValue? b, percentBytes cs with
    | some a, some b, some (bytes, rest) => some (UInt8.ofNat (a * 16 + b) :: bytes, rest)
    | _, _, _ => none
  | '%' :: _ => none
  | cs => some ([], cs)

/-- The characters of a tag, with percent escapes decoded, and what follows.  Commas and brackets
    belong to it only where it is written out in full. -/
def tagText (full : Bool) : Nat → List Char → Option (List Char × List Char)
  | 0, _ => none
  | _ + 1, [] => some ([], [])
  | fuel + 1, c :: cs =>
    if c == '%' then
      match percentBytes (c :: cs) with
      | none => none
      | some (bytes, rest) =>
        match String.fromUTF8? ⟨bytes.toArray⟩, tagText full fuel rest with
        | some text, some (more, rest) => some (text.toList ++ more, rest)
        | _, _ => none
    else if isNameChar c || isTagSign c || (full && (c == ',' || c == '[' || c == ']')) then
      (tagText full fuel cs).map fun (more, rest) => (c :: more, rest)
    else some ([], c :: cs)

/-- The characters of a tag, which must not be missing. -/
def tagText? (full optional : Bool) (cs : List Char) : Option (String × List Char) :=
  match tagText full (cs.length + 1) cs with
  | some ([], rest) => if optional then some ("", rest) else none
  | some (text, rest) => some (String.ofList text, rest)
  | none => none

/-- The handle a tag starts with: an exclamation mark, or a name between two of them. -/
def tagHandle? : List Char → Option (String × List Char)
  | '!' :: cs =>
    let name := cs.takeWhile isNameChar
    match cs.dropWhile isNameChar with
    | '!' :: rest => some (String.ofList ('!' :: name ++ ['!']), rest)
    | rest => some (String.ofList ('!' :: name), rest)
  | _ => none

/-- A handle that needs no closing mark, or has one. -/
def closedHandle (handle : String) : Bool :=
  handle == "!" || (2 ≤ handle.length && handle.endsWith "!")

def tagDirective? (d : Dialect) (cs : List Char) : Option (Token × List Char) := do
  let (handle, rest) ← tagHandle? (cs.dropWhile isBlank)
  if !closedHandle handle then none
  else if !(rest.head?.map isBlank).getD false then none
  else do
    let (leader, rest) ← tagText? true false (rest.dropWhile isBlank)
    if d.blankOrEnd rest then some (.tagDirective handle leader, rest) else none

/-- A tag: a handle and what stands behind it. -/
def tag? (cs : List Char) : Option (Token × List Char) :=
  match cs with
  | '!' :: '<' :: rest =>
    match tagText? true false rest with
    | some (text, '>' :: rest) => some (.tag "" text, rest)
    | _ => none
  | _ => do
    let (handle, rest) ← tagHandle? cs
    if handle.length ≠ 1 && closedHandle handle then
      let (suffix, rest) ← tagText? false false rest
      return (.tag handle suffix, rest)
    else
      let (more, rest) ← tagText? false true rest
      let suffix := String.ofList (handle.toList.drop 1) ++ more
      return (if suffix == "" then .tag "" "!" else .tag "!" suffix, rest)

/-- What may stand behind an anchor or an alias. -/
def endsName (d : Dialect) : List Char → Bool
  | [] => true
  | c :: cs => d.blankOrEnd (c :: cs) || "?:,]\x7d%@\x60".toList.contains c

def Dialect.isAnchorChar (d : Dialect) (c : Char) : Bool :=
  if d.wideNames then !(isBlank c || d.isBreak c || isFlowSign c) else isNameChar c

def anchorName? (d : Dialect) (cs : List Char) : Option (String × List Char) :=
  let name := cs.takeWhile d.isAnchorChar
  let rest := cs.dropWhile d.isAnchorChar
  if name.isEmpty || !(d.wideNames || endsName d rest) then none
  else some (String.ofList name, rest)

/-- A directive, from behind its percent sign.  None within is a directive that is passed over. -/
def directive? (d : Dialect) (cs : List Char) : Option (Option Token × List Char) :=
  let name := String.ofList (cs.takeWhile isNameChar)
  let rest := cs.dropWhile isNameChar
  let known : Option (Option Token × List Char) :=
    if name == "" || !d.blankOrEnd rest then none
    else if name == "YAML" then (versionValue? d rest).map fun (t, rest) => (some t, rest)
    else if name == "TAG" then (tagDirective? d rest).map fun (t, rest) => (some t, rest)
    else if d.anyDirective then some (none, rest.dropWhile fun c => !d.isBreak c)
    else none
  match known with
  | none => none
  | some (token, rest) =>
    match rest.dropWhile isBlank with
    | '#' :: rest => some (token, rest.dropWhile fun c => !d.isBreak c)
    | rest => if d.lineEnd rest then some (token, rest) else none

/-! ## The scanner -/

/-- A token that may turn out to start a key. -/
structure KeyStart where
  /-- The number of tokens before it. -/
  position : Nat
  /-- Only a key can stand there. -/
  required : Bool
  mark : Mark

/-- A key must end on its line and within this many characters. -/
def KeyStart.reach : Nat := 1024

/-- It is too late for a colon. -/
def KeyStart.stale (k : KeyStart) (now : Mark) : Bool :=
  decide (k.mark.line < now.line) || decide (k.mark.index + KeyStart.reach < now.index)

/-- A token, with what stands before it once it has turned out to start a key. -/
structure TokenSlot where
  token : Token
  isKey : Bool
  startsMapping : Bool

/-- A scanner on its way through a text. -/
structure Scanner where
  mark : Mark
  rest : List Char
  /-- The tokens so far, last one first. -/
  slots : List TokenSlot
  count : Nat
  /-- The column of the innermost block, or -1 outside of any. -/
  indent : Int
  /-- The columns of the blocks around it. -/
  indents : List Int
  /-- The possible key of every flow collection around here, and of the block around those;
      innermost first. -/
  keys : List (Option KeyStart)
  /-- A key may start here. -/
  keyAllowed : Bool
  /-- Only indentation stands between the start of the line and here. -/
  lineStart : Bool
  /-- The index behind the last quoted scalar or flow collection. -/
  closedAt : Nat

namespace Scanner

def start (cs : List Char) : Scanner where
  mark := .start
  rest := cs
  slots := []
  count := 0
  indent := -1
  indents := []
  keys := [none]
  keyAllowed := true
  lineStart := true
  closedAt := 0

def flow (s : Scanner) : Bool := decide (1 < s.keys.length)

def push (t : Token) (s : Scanner) : Scanner :=
  { s with slots := ⟨t, false, false⟩ :: s.slots, count := s.count + 1 }

def skip (count : Nat) (s : Scanner) : Scanner :=
  { s with mark := s.mark.forward count, rest := s.rest.drop count, lineStart := false }

/-- Goes on at a later place of the line. -/
def goTo (rest : List Char) (s : Scanner) : Scanner := s.skip (s.rest.length - rest.length)

def allowKey (allowed : Bool) (s : Scanner) : Scanner := { s with keyAllowed := allowed }

/-! ### Keys -/

/-- Gives up possible keys whose colon would come too late; none where a key was required. -/
def dropStale (s : Scanner) : Option Scanner :=
  let keep (key : Option KeyStart) : Option (Option KeyStart) :=
    match key with
    | some k => if k.stale s.mark then (if k.required then none else some none) else some (some k)
    | none => some none
  (s.keys.mapM keep).map fun keys => { s with keys := keys }

/-- Gives up the innermost possible key; none where a key was required. -/
def forgetKey (s : Scanner) : Option Scanner :=
  match s.keys with
  | some k :: outer => if k.required then none else some { s with keys := none :: outer }
  | _ => some s

/-- Notes that the next token may start a key. -/
def noteKey (s : Scanner) : Option Scanner :=
  if s.keyAllowed then
    let required := !s.flow && s.indent == s.mark.column
    let key : KeyStart := ⟨s.count, required, s.mark⟩
    s.forgetKey.map fun s => { s with keys := some key :: s.keys.drop 1 }
  else some s

/-- The number of tokens in front of those that a colon could still change. -/
def settled (s : Scanner) : Nat :=
  s.keys.foldl (fun least key => match key with
    | some k => min least k.position
    | none => least) s.count

/-! ### Indentation -/

/-- Opens a block in this column, unless it is open already. -/
def openBlock (t : Token) (s : Scanner) : Scanner :=
  if !s.flow && decide (s.indent < s.mark.column) then
    { s with indent := s.mark.column, indents := s.indent :: s.indents }.push t
  else s

/-- Makes a token the start of a key, and opens a mapping there where it needs one. -/
def markKey (k : KeyStart) (s : Scanner) : Scanner :=
  let opens := !s.flow && decide (s.indent < k.mark.column)
  let slots := s.slots.modify (s.count - 1 - k.position) fun slot =>
    { slot with isKey := true, startsMapping := opens }
  if opens then
    { s with slots := slots, indent := k.mark.column, indents := s.indent :: s.indents }
  else { s with slots := slots }

/-- Closes the blocks that start right of a column; `indents` are those around the innermost. -/
def closeBlocksFrom (column : Int) : List Int → Scanner → Scanner
  | [], s => s
  | outer :: indents, s =>
    if column < s.indent then
      closeBlocksFrom column indents ({ s with indent := outer, indents := indents }.push .blockEnd)
    else s

def closeBlocks (column : Int) (s : Scanner) : Scanner :=
  if s.flow then s else closeBlocksFrom column s.indents s

/-! ### Blanks -/

/-- Where a scanner is after blanks, comments and line breaks. -/
structure AfterGap where
  mark : Mark
  rest : List Char
  keyAllowed : Bool
  lineStart : Bool

/-- Passes over blanks, comments and line breaks; none where a tab must not stand. -/
def gap (d : Dialect) (flow : Bool) (indent : Int) :
    Bool → Bool → Bool → Mark → List Char → Option AfterGap
  | _, allowed, lineStart, m, [] => some ⟨m, [], allowed, lineStart⟩
  | comment, allowed, lineStart, m, c :: cs =>
    if d.isBreak c then gap d flow indent false (allowed || !flow) true m.newLine cs
    else if comment then gap d flow indent true allowed lineStart m.step cs
    else if c == ' ' then gap d flow indent false allowed lineStart m.step cs
    else if c == '\t' && (flow || !allowed || d.tabsBeforeKeys) then
      if d.tabsBeforeKeys && lineStart && decide ((m.column : Int) < indent)
          && d.badTab (c :: cs) then none
      else gap d flow indent false allowed lineStart m.step cs
    else if c == '#' then gap d flow indent true allowed lineStart m.step cs
    else if d.skipsOrderMark && m.column == 0 && c == byteOrderMark then
      gap d flow indent false allowed lineStart m.step cs
    else some ⟨m, c :: cs, allowed, lineStart⟩

def skipGap (d : Dialect) (s : Scanner) : Option Scanner :=
  (gap d s.flow s.indent false s.keyAllowed s.lineStart s.mark s.rest).map fun g =>
    { s with
      mark := g.mark
      rest := g.rest
      keyAllowed := g.keyAllowed
      lineStart := g.lineStart }

/-! ### Single tokens -/

def fetchStreamEnd (s : Scanner) : Option Scanner :=
  let s := if s.mark.column == 0 then s else { s with mark := s.mark.newLine }
  (s.closeBlocks (-1)).forgetKey.map fun s => (s.allowKey false).push .streamEnd

/-- The end of the text has been reached. -/
def finished (s : Scanner) : Bool := (s.slots.head?.map fun slot => slot.token) == some .streamEnd

def fetchDirective (d : Dialect) (s : Scanner) : Option Scanner := do
  let s ← (s.closeBlocks (-1)).forgetKey
  let (token, rest) ← directive? d (s.rest.drop 1)
  let s := (s.allowKey false).goTo rest
  return match token with
    | some t => s.push t
    | none => s

/-- A line that starts or ends a document. -/
def fetchMarker (t : Token) (s : Scanner) : Option Scanner :=
  (s.closeBlocks (-1)).forgetKey.map fun s => ((s.allowKey false).skip 3).push t

def fetchFlowStart (t : Token) (s : Scanner) : Option Scanner :=
  s.noteKey.map fun s => (({ s with keys := none :: s.keys }.allowKey true).skip 1).push t

def fetchFlowEnd (t : Token) (s : Scanner) : Option Scanner :=
  s.forgetKey.map fun s =>
    let s := if s.flow then { s with keys := s.keys.drop 1 } else s
    let s := ((s.allowKey false).skip 1).push t
    { s with closedAt := s.mark.index }

def fetchFlowEntry (s : Scanner) : Option Scanner :=
  s.forgetKey.map fun s => ((s.allowKey true).skip 1).push .flowEntry

def fetchBlockEntry (s : Scanner) : Option Scanner :=
  if !s.flow && !s.keyAllowed then none
  else (s.openBlock .blockSequenceStart).forgetKey.map fun s =>
    ((s.allowKey true).skip 1).push .blockEntry

def fetchKey (s : Scanner) : Option Scanner :=
  if !s.flow && !s.keyAllowed then none
  else (s.openBlock .blockMappingStart).forgetKey.map fun s =>
    ((s.allowKey (!s.flow)).skip 1).push .key

def fetchValue (s : Scanner) : Option Scanner :=
  match s.keys with
  | some k :: outer =>
    let s := ({ s with keys := none :: outer }.markKey k).allowKey false
    some ((s.skip 1).push .value)
  | _ =>
    if !s.flow && !s.keyAllowed then none
    else
      let s := s.openBlock .blockMappingStart
      some (((s.allowKey (!s.flow)).skip 1).push .value)

def fetchAnchor (d : Dialect) (token : String → Token) (s : Scanner) : Option Scanner := do
  let s ← s.noteKey
  let (name, rest) ← anchorName? d (s.rest.drop 1)
  return ((s.allowKey false).goTo rest).push (token name)

def fetchTag (d : Dialect) (s : Scanner) : Option Scanner := do
  let s ← s.noteKey
  let (token, rest) ← tag? s.rest
  if d.blankOrEnd rest || (s.flow && (rest.head? == some ',' || d.tightColon)) then
    return ((s.allowKey false).goTo rest).push token
  else none

def behind (scalar : ScalarText) (style : ScalarStyle) (s : Scanner) : Scanner :=
  { s with
    mark := scalar.mark
    rest := scalar.rest
    keyAllowed := scalar.endsLine
    lineStart := scalar.endsLine
    }.push (.scalar scalar.text style)

def fetchBlockScalar (d : Dialect) (literal : Bool) (s : Scanner) : Option Scanner := do
  let s ← s.forgetKey
  let scalar ← blockScalar d literal s.indent s.mark.step (s.rest.drop 1)
  return s.behind scalar .marked

def fetchQuoted (d : Dialect) (single : Bool) (s : Scanner) : Option Scanner := do
  let s ← s.noteKey
  let scalar ← quotedFrom d single .empty .text s.mark.step (s.rest.drop 1)
  let s := s.behind scalar .marked
  return { s with closedAt := s.mark.index }

def fetchPlain (d : Dialect) (s : Scanner) : Option Scanner := do
  let s ← s.noteKey
  let scalar ← plainFrom ⟨d, s.flow, s.indent + 1⟩ .empty s.mark s.rest
  return s.behind scalar .plain

/-- The colon is a sign, and not the beginning of a plain scalar. -/
def colonIsSign (d : Dialect) (s : Scanner) (behind : List Char) : Bool :=
  d.blankOrEnd behind ||
    (s.flow && (!d.tightColon || (behind.head?.map isFlowSign).getD false
      || s.closedAt == s.mark.index))

/-- The question mark is a sign, and not the beginning of a plain scalar. -/
def questionIsSign (d : Dialect) (s : Scanner) (behind : List Char) : Bool :=
  d.blankOrEnd behind || (s.flow && !d.tightColon)

/-- Adds the token that starts here, with the ends of the blocks that it closes. -/
def fetchHere (d : Dialect) (s : Scanner) : Option Scanner :=
  match s.rest with
  | [] => s.fetchStreamEnd
  | c :: cs =>
    if s.mark.column == 0 && c == '%' then s.fetchDirective d
    else if s.mark.column == 0 && d.atMarker '-' s.rest then s.fetchMarker .documentStart
    else if s.mark.column == 0 && d.atMarker '.' s.rest then s.fetchMarker .documentEnd
    -- From here on the character belongs to content, which has to stand within its block.
    else if d.flowWithinBlock && decide ((s.mark.column : Int) < s.indent) then none
    else if c == '[' then s.fetchFlowStart .flowSequenceStart
    else if c == '\x7b' then s.fetchFlowStart .flowMappingStart
    else if c == ']' then s.fetchFlowEnd .flowSequenceEnd
    else if c == '\x7d' then s.fetchFlowEnd .flowMappingEnd
    else if c == ',' then s.fetchFlowEntry
    else if c == '-' && d.blankOrEnd cs then s.fetchBlockEntry
    else if c == '?' && s.questionIsSign d cs then s.fetchKey
    else if c == ':' && s.colonIsSign d cs then s.fetchValue
    else if c == '*' then s.fetchAnchor d .alias
    else if c == '&' then s.fetchAnchor d .anchor
    else if c == '!' then s.fetchTag d
    else if c == '|' && !s.flow then s.fetchBlockScalar d true
    else if c == '>' && !s.flow then s.fetchBlockScalar d false
    else if c == '\x27' then s.fetchQuoted d true
    else if c == '\x22' then s.fetchQuoted d false
    else if isBlank c || "#%@\x60|>".toList.contains c then none
    else s.fetchPlain d

def fetch (d : Dialect) (s : Scanner) : Option Scanner := do
  let s ← s.skipGap d
  let s ← s.dropStale
  -- The column of the next token decides which blocks have ended before it.
  let s := s.closeBlocks s.mark.column
  let s ← s.fetchHere d
  s.dropStale

/-- The first tokens, each behind what it has turned out to start. -/
def tokens (s : Scanner) (count : Nat) : List Token :=
  (s.slots.reverse.take count).flatMap fun slot =>
    (if slot.startsMapping then [.blockMappingStart] else []) ++
      (if slot.isKey then [.key] else []) ++ [slot.token]

/-- Goes on to the end of the text, in at most as many steps as are given.  Every step but the last
    passes over a character. -/
def run (d : Dialect) : Nat → Scanner → List Token
  | 0, s => s.tokens s.settled ++ [.bad]
  | steps + 1, s =>
    match s.fetch d with
    | none => s.tokens s.settled ++ [.bad]
    | some after => if after.finished then after.tokens after.count else run d steps after

end Scanner

def Token.scan (d : Dialect) (text : String) : List Token :=
  match d.chars? text with
  | none => [.bad]
  | some cs => (Scanner.start cs).run d (cs.length + 2)

end Throttle.Yaml
