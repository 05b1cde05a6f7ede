import Throttle.Yaml.Event
import Throttle.Yaml.Plain

/-!
# YAML documents

The node of a text that holds one document.  The document is read from its beginning, and the first
thing that is wrong with it is reported, so that an unsuitable value in front of a syntax error
wins.

An alias stands for the node that its anchor named, which is read again.  Two bounds keep that
finite: collections may be nested only so deep, and aliases may be followed only so often.
-/

namespace Throttle.Yaml

/-- A piece of one document, with aliases resolved to the numbers of their anchors. -/
inductive Piece
  | alias (number : Nat)
  | scalar (tag : Option String) (text : String) (style : ScalarStyle)
  | sequenceStart (tag : Option String)
  | sequenceEnd
  | mappingStart (tag : Option String)
  | mappingEnd
  /-- From here on the text is not YAML. -/
  | bad
  deriving DecidableEq, Repr

/-- The pieces of one document, and where its anchors are. -/
structure Outline where
  pieces : Array Piece
  /-- The number that each name stands for now. -/
  names : List (String × Nat)
  /-- Where the node of each number starts, latest first. -/
  targets : List (Nat × Nat)

namespace Outline

def empty : Outline := ⟨#[], [], []⟩

def push (o : Outline) (p : Piece) : Outline := { o with pieces := o.pieces.push p }

/-- Gives the next piece a name.  Names are numbered by how many names there are before. -/
def name (o : Outline) : Option String → Outline
  | none => o
  | some anchor =>
    let number := o.names.length
    { o with
      names := (anchor, number) :: o.names.filter fun e => e.1 != anchor
      targets := (number, o.pieces.size) :: o.targets }

/-- The outline of the first document of a text, and the events behind it. -/
def ofEvents : Outline → List Event → Outline × List Event
  | o, [] => (o.push .bad, [])
  | o, event :: events =>
    match event with
    | .documentStart => ofEvents o events
    | .documentEnd => (o, events)
    | .streamEnd => (o, [.streamEnd])
    | .bad => (o.push .bad, [.bad])
    | .alias name =>
      match o.names.lookup name with
      | some number => ofEvents (o.push (.alias number)) events
      | none => (o.push .bad, [.bad])
    | .scalar p text style => ofEvents ((o.name p.anchor).push (.scalar p.tag text style)) events
    | .sequenceStart p => ofEvents ((o.name p.anchor).push (.sequenceStart p.tag)) events
    | .sequenceEnd => ofEvents (o.push .sequenceEnd) events
    | .mappingStart p => ofEvents ((o.name p.anchor).push (.mappingStart p.tag)) events
    | .mappingEnd => ofEvents (o.push .mappingEnd) events

def maxDepth : Nat := 128

def maxJumps (o : Outline) : Nat := o.pieces.size * 100

/-- Where a reader of an outline is. -/
structure Place where
  index : Nat
  /-- How many aliases have been followed. -/
  jumps : Nat

/-- Reads from a place on: a result and the place behind it. -/
abbrev Reader (α : Type) : Type := Place → Except Defect (α × Place)

/-- A tag of the document's own: what stands behind the exclamation mark. -/
def ownTag? : Option String → Option String
  | some tag => match tag.toList with
    | '!' :: rest => some (String.ofList rest)
    | _ => none
  | none => none

/-- Puts an own tag around a node; a tag without a name must not stand there. -/
def wrap (tag : Option String) (node : Except Defect (Node × Place)) :
    Except Defect (Node × Place) :=
  match ownTag? tag with
  | none => node
  | some "" => .error .malformed
  | some name => node.map fun (node, place) => (.tagged name node, place)

def scalarNode (tag : Option String) (text : String) (style : ScalarStyle) : Except Defect Node :=
  match tag, ownTag? tag with
  | some tag, none => Plain.taggedNode tag text
  | _, _ => match style with
    | .plain => Plain.node text
    | .marked => .ok (.string text)

mutual

/-- Reads a node; `depth` more collections may be nested.  Every call goes one step nearer to the
    bound on the nesting of calls. -/
def readNode (o : Outline) : Nat → Nat → Reader Node
  | 0, _, _ => .error .malformed
  | steps + 1, depth, place =>
    let next : Place := { place with index := place.index + 1 }
    match o.pieces[place.index]? with
    | some (.scalar tag text style) =>
      wrap tag ((scalarNode tag text style).map fun node => (node, next))
    | some (.alias number) =>
      if o.maxJumps ≤ place.jumps then .error .malformed
      else match o.targets.lookup number with
        | none => .error .malformed
        | some target =>
          (readNode o steps depth ⟨target, place.jumps + 1⟩).map fun (node, behind) =>
            (node, ⟨place.index + 1, behind.jumps⟩)
    | some (.sequenceStart tag) =>
      if (ownTag? tag) = some "" ∨ depth = 0 then .error .malformed
      else wrap tag ((readItems o steps (depth - 1) next).map fun (items, place) =>
        (.sequence items, place))
    | some (.mappingStart tag) =>
      if (ownTag? tag) = some "" ∨ depth = 0 then .error .malformed
      else wrap tag ((readEntries o steps (depth - 1) [] next).map fun (entries, place) =>
        (.mapping entries, place))
    | _ => .error .malformed

def readItems (o : Outline) : Nat → Nat → Reader (List Node)
  | 0, _, _ => .error .malformed
  | steps + 1, depth, place =>
    match o.pieces[place.index]? with
    | some .sequenceEnd => .ok ([], { place with index := place.index + 1 })
    | _ => do
      let (item, place) ← readNode o steps depth place
      let (items, place) ← readItems o steps depth place
      return (item :: items, place)

/-- Reads entries to the end of a mapping, whose keys must differ from those that are there. -/
def readEntries (o : Outline) : Nat → Nat → List Node → Reader (List (Node × Node))
  | 0, _, _, _ => .error .malformed
  | steps + 1, depth, keys, place =>
    match o.pieces[place.index]? with
    | some .mappingEnd => .ok ([], { place with index := place.index + 1 })
    | _ => do
      let (key, place) ← readNode o steps depth place
      if keys.any fun other => other.same key then throw .malformed
      let (value, place) ← readNode o steps depth place
      let (entries, place) ← readEntries o steps depth (key :: keys) place
      return ((key, value) :: entries, place)

end

/-- The node of an outline; none at all stands for null. -/
def node (o : Outline) : Except Defect Node :=
  if o.pieces.isEmpty then .ok .null
  else do
    let (node, place) ← readNode o ((maxDepth + 2) * (o.pieces.size + 2)) maxDepth ⟨0, 0⟩
    if place.index < o.pieces.size then throw .malformed else return node

end Outline

/-- The node of a text that holds at most one document. -/
def Node.ofText (text : String) : Except Defect Node := do
  let (outline, behind) := Outline.ofEvents .empty (Event.ofText .strict text)
  let node ← outline.node
  if behind = [.streamEnd] then return node else throw .malformed

end Throttle.Yaml
