import Throttle.Yaml.Token

/-!
# YAML events

The structure of a YAML text as a flat list: documents and collections begin and end, and scalars
and aliases stand between.  `Event.ofTokens` derives it from the tokens.  It says what is missing,
too: a key without a value is followed by an empty scalar.

Where the text breaks the grammar the events end with `Event.bad`.
-/

namespace Throttle.Yaml

/-- What stands before a node: a name to refer to it by, and the kind of the node. -/
structure Properties where
  anchor : Option String
  tag : Option String
  deriving DecidableEq, Repr

/-- The pieces of the structure of a YAML text. -/
inductive Event
  | documentStart
  | documentEnd
  | alias (name : String)
  | scalar (properties : Properties) (text : String) (style : ScalarStyle)
  | sequenceStart (properties : Properties)
  | sequenceEnd
  | mappingStart (properties : Properties)
  | mappingEnd
  | streamEnd
  /-- From here on the text is not YAML. -/
  | bad
  deriving DecidableEq, Repr

/-- What a reader of tokens is in the middle of. -/
inductive Production
  /-- Before a document, which is the first and may start without a marker, or is a later one. -/
  | document (first : Bool)
  /-- Behind the marker that starts a document. -/
  | content
  | documentEnd
  /-- A node in block context. -/
  | blockNode
  | blockSequenceFirst
  | blockSequence
  /-- A block sequence in the column of the mapping around it. -/
  | flatSequence
  | blockMappingFirst
  | blockKey
  | blockValue
  | flowSequenceFirst
  | flowSequence
  /-- The key of a mapping with one entry that is written inside a flow sequence. -/
  | pairKey
  | pairValue
  | pairEnd
  | flowMappingFirst
  | flowKey
  | flowValue
  /-- Behind a key that no value can follow. -/
  | flowNoValue
  | finished
  deriving DecidableEq, Repr

/-- A reader of tokens on its way. -/
structure Grammar where
  now : Production
  /-- What it is in the middle of around that, innermost first. -/
  outer : List Production
  /-- What the handles of tags stand for. -/
  handles : List (String × String)
  tokens : List Token

namespace Grammar

/-- Everything the reader does in one step: an event, and where it is then. -/
abbrev Step : Type := Option (Event × Grammar)

def bare : Properties := ⟨none, none⟩

def peek (g : Grammar) : Token := g.tokens.headD .bad

def drop (g : Grammar) : Grammar := { g with tokens := g.tokens.drop 1 }

def goOn (now : Production) (g : Grammar) : Grammar := { g with now := now }

/-- Remembers what comes after the node that is read next. -/
def after (later : Production) (g : Grammar) : Grammar := { g with outer := later :: g.outer }

def leave (g : Grammar) : Grammar :=
  match g.outer with
  | later :: outer => { g with now := later, outer := outer }
  | [] => { g with now := .finished }

def emptyScalar (now : Production) (g : Grammar) : Step :=
  if g.peek = .bad then none else some (.scalar bare "" .plain, g.goOn now)

/-! ## Nodes -/

/-- The tag that a handle and a suffix stand for; none where the handle is not known. -/
def resolveTag (g : Grammar) (handle suffix : String) : Option String :=
  if handle == "" then some suffix else (g.handles.lookup handle).map fun leader => leader ++ suffix

/-- The properties of a node: an anchor and a tag, in either order. -/
def properties (g : Grammar) : Option (Properties × Grammar) :=
  match g.peek with
  | .anchor name =>
    let g := g.drop
    match g.peek with
    | .tag handle suffix => (g.resolveTag handle suffix).map fun tag => (⟨some name, some tag⟩, g.drop)
    | _ => some (⟨some name, none⟩, g)
  | .tag handle suffix =>
    match g.resolveTag handle suffix with
    | none => none
    | some tag =>
      let g := g.drop
      match g.peek with
      | .anchor name => some (⟨some name, some tag⟩, g.drop)
      | _ => some (⟨none, some tag⟩, g)
  | _ => some (bare, g)

/-- The tag of a scalar; a lone exclamation mark is none. -/
def scalarTag (p : Properties) : Properties := if p.tag == some "!" then { p with tag := none } else p

/-- Reads the beginning of a node, or all of a scalar.  A block collection may start only in block
    context, and a flat sequence only where a mapping is around. -/
def node (block flat : Bool) (g : Grammar) : Step :=
  match g.peek with
  | .alias name => some (.alias name, g.drop.leave)
  | _ =>
    match g.properties with
    | none => none
    | some (p, g) =>
      match g.peek with
      | .scalar text style => some (.scalar (scalarTag p) text style, g.drop.leave)
      | .flowSequenceStart => some (.sequenceStart p, g.goOn .flowSequenceFirst)
      | .flowMappingStart => some (.mappingStart p, g.goOn .flowMappingFirst)
      | .bad => none
      | token =>
        if flat && token == .blockEntry then some (.sequenceStart p, g.goOn .flatSequence)
        else if block && token == .blockSequenceStart then
          some (.sequenceStart p, g.goOn .blockSequenceFirst)
        else if block && token == .blockMappingStart then
          some (.mappingStart p, g.goOn .blockMappingFirst)
        else if p != bare then some (.scalar p "" .plain, g.leave)
        else none

/-- Reads a node unless one of the tokens stands there, which leaves an empty scalar; later on goes
    with the production given. -/
def nodeUnless (stops : List Token) (block flat : Bool) (later : Production) (g : Grammar) : Step :=
  if stops.contains g.peek then g.emptyScalar later else (g.after later).node block flat

/-! ## Documents -/

def standardHandles : List (String × String) := [("!", "!"), ("!!", "tag:yaml.org,2002:")]

def directives : Bool → List (String × String) → List Token →
    Option (List (String × String) × List Token)
  | seen, handles, .version supported :: tokens =>
    if seen || !supported then none else directives true handles tokens
  | seen, handles, .tagDirective handle leader :: tokens =>
    if (handles.lookup handle).isSome then none
    else directives seen ((handle, leader) :: handles) tokens
  | _, handles, tokens => some (handles ++ standardHandles, tokens)

/-- Reads the beginning of a document, or the end of the stream. -/
def document (first : Bool) (g : Grammar) : Step :=
  let g := if first then g else { g with tokens := g.tokens.dropWhile (· == .documentEnd) }
  match g.peek with
  | .bad => none
  | .streamEnd => some (.streamEnd, g.drop.goOn .finished)
  | token =>
    match directives false [] g.tokens with
    | none => none
    | some (handles, tokens) =>
      let g := { g with handles := handles, tokens := tokens }
      if g.peek = .documentStart then
        some (.documentStart, (g.drop.after .documentEnd).goOn .content)
      else
        match first, token with
        | false, _ | _, .version _ | _, .tagDirective _ _ => none
        | true, _ => some (.documentStart, (g.after .documentEnd).goOn .blockNode)

/-- Reads what stands behind the marker of a document. -/
def content (g : Grammar) : Step :=
  match g.peek with
  | .version _ | .tagDirective _ _ | .documentStart | .documentEnd | .streamEnd =>
    some (.scalar bare "" .plain, g.leave)
  | _ => g.node true false

/-! ## Collections -/

/-- Reads on behind the entries of a block sequence. -/
def blockSequence (g : Grammar) : Step :=
  match g.peek with
  | .blockEntry => g.drop.nodeUnless [.blockEntry, .blockEnd] true false .blockSequence
  | .blockEnd => some (.sequenceEnd, g.drop.leave)
  | _ => none

/-- Reads on in a block sequence that stands in the column of the mapping around it. -/
def flatSequence (g : Grammar) : Step :=
  match g.peek with
  | .blockEntry => g.drop.nodeUnless [.blockEntry, .key, .value, .blockEnd] true false .flatSequence
  | .bad => none
  | _ => some (.sequenceEnd, g.leave)

/-- Reads the next key of a block mapping. -/
def blockKey (g : Grammar) : Step :=
  match g.peek with
  | .key => g.drop.nodeUnless [.key, .value, .blockEnd] true true .blockValue
  | .blockEnd => some (.mappingEnd, g.drop.leave)
  | _ => none

/-- Reads the value behind a key of a block mapping. -/
def blockValue (g : Grammar) : Step :=
  match g.peek with
  | .value => g.drop.nodeUnless [.key, .value, .blockEnd] true true .blockKey
  | _ => g.emptyScalar .blockKey

/-- Reads an entry of a flow sequence, from where it starts. -/
def flowEntry (g : Grammar) : Step :=
  match g.peek with
  | .key => some (.mappingStart bare, g.drop.goOn .pairKey)
  | .flowSequenceEnd => some (.sequenceEnd, g.drop.leave)
  | _ => (g.after .flowSequence).node false false

/-- Reads on behind an entry of a flow sequence. -/
def flowSequence (g : Grammar) : Step :=
  match g.peek with
  | .flowSequenceEnd => some (.sequenceEnd, g.drop.leave)
  | .flowEntry => g.drop.flowEntry
  | _ => none

/-- Reads the key of a pair in a flow sequence.  A sign in place of the key is passed over. -/
def pairKey (g : Grammar) : Step :=
  if [Token.value, .flowEntry, .flowSequenceEnd].contains g.peek then
    some (.scalar bare "" .plain, g.drop.goOn .pairValue)
  else (g.after .pairValue).node false false

/-- Reads the value of a pair in a flow sequence. -/
def pairValue (g : Grammar) : Step :=
  match g.peek with
  | .value => g.drop.nodeUnless [.flowEntry, .flowSequenceEnd] false false .pairEnd
  | _ => g.emptyScalar .pairEnd

/-- Reads a key of a flow mapping, from where it starts. -/
def flowKeyHere (g : Grammar) : Step :=
  match g.peek with
  | .key => g.drop.nodeUnless [.value, .flowEntry, .flowMappingEnd] false false .flowValue
  | .flowMappingEnd => some (.mappingEnd, g.drop.leave)
  | _ => (g.after .flowNoValue).node false false

/-- Reads on behind an entry of a flow mapping. -/
def flowKey (g : Grammar) : Step :=
  match g.peek with
  | .flowMappingEnd => some (.mappingEnd, g.drop.leave)
  | .flowEntry => g.drop.flowKeyHere
  | _ => none

/-- Reads the value behind a key of a flow mapping. -/
def flowValue (g : Grammar) : Step :=
  match g.peek with
  | .value => g.drop.nodeUnless [.flowEntry, .flowMappingEnd] false false .flowKey
  | _ => g.emptyScalar .flowKey

def documentEnd (g : Grammar) : Step :=
  match g.peek with
  | .bad => none
  | .documentEnd => some (.documentEnd, g.drop.goOn (.document false))
  | _ => some (.documentEnd, g.goOn (.document false))

/-- One step of the reader; none where the tokens break the grammar. -/
def step (g : Grammar) : Step :=
  match g.now with
  | .document first => g.document first
  | .content => g.content
  | .documentEnd => g.documentEnd
  | .blockNode => g.node true false
  | .blockSequenceFirst => g.drop.blockSequence
  | .blockSequence => g.blockSequence
  | .flatSequence => g.flatSequence
  | .blockMappingFirst => g.drop.blockKey
  | .blockKey => g.blockKey
  | .blockValue => g.blockValue
  | .flowSequenceFirst => g.drop.flowEntry
  | .flowSequence => g.flowSequence
  | .pairKey => g.pairKey
  | .pairValue => g.pairValue
  | .pairEnd => some (.mappingEnd, g.goOn .flowSequence)
  | .flowMappingFirst => g.drop.flowKeyHere
  | .flowKey => g.flowKey
  | .flowValue => g.flowValue
  | .flowNoValue => g.emptyScalar .flowKey
  | .finished => none

/-- Reads on to the end, in at most as many steps as are given. -/
def run : Nat → Grammar → List Event
  | 0, _ => [.bad]
  | steps + 1, g =>
    match g.step with
    | none => [.bad]
    | some (.streamEnd, _) => [.streamEnd]
    | some (event, g) => event :: run steps g

end Grammar

/-- The events of a list of tokens.  A token gives rise to at most four events. -/
def Event.ofTokens (tokens : List Token) : List Event :=
  Grammar.run (4 * tokens.length + 8) ⟨.document true, [], [], tokens⟩

def Event.ofText (d : Dialect) (text : String) : List Event := Event.ofTokens (Token.scan d text)

end Throttle.Yaml
