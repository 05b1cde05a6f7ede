import Throttle.Json.Token

/-!
# JSON trees

The tree of a JSON text, read as far as the text is JSON.  Readers of records look for the first
thing that is wrong in a text, and that may be a value of the wrong type that stands before the
place where the text breaks off.  So a broken text has a tree as well: it ends in `Json.cut`, and
the arrays and objects around that place are not closed.
-/

namespace Throttle

/-- A JSON value, as far as it could be read. -/
inductive Json
  | null
  | bool (value : Bool)
  | number (numeral : Json.Numeral)
  | string (text : Option String)
  | array (items : List Json) (closed : Bool)
  | object (members : List (Option String × Json)) (closed : Bool)
  /-- Here the text stops being JSON. -/
  | cut

namespace Json

/-- An array or object that has been opened, with what it holds so far, last first. -/
inductive Frame
  | array (items : List Json)
  | object (members : List (Option String × Json))
  /-- An object behind a key that still lacks its value. -/
  | member (members : List (Option String × Json)) (key : Option String)

/-- What may come next. -/
inductive Expected
  | value
  /-- A value, or the end of an array. -/
  | firstItem
  /-- A comma, or the end of an array. -/
  | itemEnd
  | key
  /-- A key, or the end of an object. -/
  | firstKey
  | colon
  /-- A comma, or the end of an object. -/
  | memberEnd
  deriving DecidableEq, Repr

/-- The tree of a text that breaks off inside `frames`, at the value `inner`. -/
def broken : Json → List Frame → Json
  | inner, [] => inner
  | inner, .array items :: frames => broken (.array (inner :: items).reverse false) frames
  | _, .object members :: frames => broken (.object members.reverse false) frames
  | inner, .member members key :: frames =>
    broken (.object ((key, inner) :: members).reverse false) frames

/-- A value that is complete goes into the innermost frame; what may come next is known then.  The
    outermost value is the result. -/
def place (value : Json) : List Frame → Sum Json (Expected × List Frame)
  | [] => .inl value
  | .array items :: frames => .inr (.itemEnd, .array (value :: items) :: frames)
  | .member members key :: frames => .inr (.memberEnd, .object ((key, value) :: members) :: frames)
  | .object members :: frames => .inr (.memberEnd, .object members :: frames)

/-- Reads one value, and answers with the tokens behind it. -/
def build : Expected → List Frame → List Token → Json × List Token
  | _, frames, [] => (broken .cut frames, [])
  | expected, frames, token :: rest =>
    let completed (value : Json) (frames : List Frame) : Json × List Token :=
      match place value frames with
      | .inl root => (root, rest)
      | .inr (next, frames) => build next frames rest
    match expected, token, frames with
    | .value, .null, _ | .firstItem, .null, _ => completed .null frames
    | .value, .bool b, _ | .firstItem, .bool b, _ => completed (.bool b) frames
    | .value, .number n, _ | .firstItem, .number n, _ => completed (.number n) frames
    | .value, .string s, _ | .firstItem, .string s, _ => completed (.string s) frames
    | .value, .beginArray, _ | .firstItem, .beginArray, _ =>
      build .firstItem (.array [] :: frames) rest
    | .value, .beginObject, _ | .firstItem, .beginObject, _ =>
      build .firstKey (.object [] :: frames) rest
    | .firstItem, .endArray, .array items :: outer | .itemEnd, .endArray, .array items :: outer =>
      completed (.array items.reverse true) outer
    | .itemEnd, .comma, _ => build .value frames rest
    | .key, .string key, .object members :: outer
    | .firstKey, .string key, .object members :: outer =>
      build .colon (.member members key :: outer) rest
    | .colon, .colon, _ => build .value frames rest
    | .memberEnd, .comma, _ => build .key frames rest
    | .firstKey, .endObject, .object members :: outer
    | .memberEnd, .endObject, .object members :: outer =>
      completed (.object members.reverse true) outer
    | _, _, _ => (broken .cut frames, [.bad])

/-- The tree of a text, and whether nothing but blanks follows it. -/
def ofText (text : String) : Json × Bool :=
  let (root, rest) := build .value [] (Token.scan text.toList)
  (root, rest.isEmpty)

end Json

end Throttle
