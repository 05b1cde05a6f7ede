import Throttle.Decimal
import Throttle.Json.Quoted
import Throttle.Json.Tree
import Throttle.Limit

/-!
# Records

A published limit is stored as a JSON record.  Its numbers are signed and its algorithm is free
text, so that a record that nobody should have written still decodes far enough to be reported
precisely.

* `Record.write` gives the compact text, fields in a fixed order, without the endpoint where there
  is none.
* `Record.read` takes an object with these fields in any order, or an array of the five values in
  order, and names the first defect.
* `Record.ofLimit` and `Record.toLimit` go between limits and records.
-/

namespace Throttle

/-- A limit as it is stored. -/
structure Record where
  service : String
  endpoint : Option String
  algorithm : String
  maxRequests : Int
  windowMillis : Int
  deriving DecidableEq, Repr

namespace Record

/-- The record of a limit; numbers beyond the range of a word become the largest word. -/
def ofLimit (l : Limit) : Record where
  service := l.service
  endpoint := l.endpoint
  algorithm := l.algorithm.name
  maxRequests := l.capacity
  windowMillis := l.windowMillis

def toLimit (r : Record) : Except LimiterError Limit :=
  match Algorithm.ofName? r.algorithm with
  | none => .error (.unsupportedAlgorithm r.algorithm)
  | some algorithm =>
    if r.maxRequests ≤ 0 ∨ r.windowMillis ≤ 0 then .error (.nonPositiveLimits r.service)
    else .ok ⟨r.service, r.endpoint, algorithm, r.maxRequests.toNat,
      .ofMillis r.windowMillis.toNat⟩

/-! ## Writing -/

/-- A field name, between quotes and followed by a colon. -/
def fieldName (name : String) : List Char := Json.quoted name.toList ++ [':']

/-- The endpoint's field with the comma behind it, or nothing. -/
def endpointField : Option String → List Char
  | some endpoint => fieldName "endpoint" ++ Json.quoted endpoint.toList ++ [',']
  | none => []

def chars (r : Record) : List Char :=
  ['\x7b'] ++ fieldName "service_name" ++ Json.quoted r.service.toList ++ [','] ++
    endpointField r.endpoint ++
    fieldName "algorithm" ++ Json.quoted r.algorithm.toList ++ [','] ++
    fieldName "max_requests" ++ Decimal.chars r.maxRequests ++ [','] ++
    fieldName "time_window_ms" ++ Decimal.chars r.windowMillis ++ ['\x7d']

def write (r : Record) : String := String.ofList r.chars

/-! ## Reading -/

def readText : Json → Except Defect String
  | .string (some text) => .ok text
  | .string none | .cut => .error .malformed
  | .number n => .error (if n.value?.isSome then .wrongType else .malformed)
  | _ => .error .wrongType

/-- The text of a string value, or none for null. -/
def readOptionalText : Json → Except Defect (Option String)
  | .null => .ok none
  | value => (readText value).map some

def readWord : Json → Except Defect Int
  | .number n =>
    match n.value? with
    | some (.natural n) => if Word.maxValue < n then .error .wrongValue else .ok n
    | some (.negative n) => .ok n
    | some (.float _) => .error .wrongType
    | none => .error .malformed
  | .string none | .cut => .error .malformed
  | _ => .error .wrongType

/-- The fields of a record that have been read. -/
structure Fields where
  service : Option String := none
  endpoint : Option (Option String) := none
  algorithm : Option String := none
  maxRequests : Option Int := none
  windowMillis : Option Int := none

/-- A field that may occur once: refuses it when it is there already. -/
def once {α : Type} (name : String) (present : Option α) (value : Except Defect α) :
    Except Defect (Option α) :=
  if present.isSome then .error (.duplicateField name) else value.map some

/-- Reads one member of an object.  Members of other names are skipped. -/
def Fields.read (f : Fields) : Option String × Json → Except Defect Fields
  | (none, _) => .error .malformed
  | (some key, value) =>
    if key = "service_name" then do
      return { f with service := ← once key f.service (readText value) }
    else if key = "endpoint" then do
      return { f with endpoint := ← once key f.endpoint (readOptionalText value) }
    else if key = "algorithm" then do
      return { f with algorithm := ← once key f.algorithm (readText value) }
    else if key = "max_requests" then do
      return { f with maxRequests := ← once key f.maxRequests (readWord value) }
    else if key = "time_window_ms" then do
      return { f with windowMillis := ← once key f.windowMillis (readWord value) }
    else .ok f

def required {α : Type} (name : String) : Option α → Except Defect α
  | some value => .ok value
  | none => .error (.missingField name)

def Fields.finish (f : Fields) : Except Defect Record := do
  let service ← required "service_name" f.service
  let algorithm ← required "algorithm" f.algorithm
  let maxRequests ← required "max_requests" f.maxRequests
  let windowMillis ← required "time_window_ms" f.windowMillis
  return ⟨service, f.endpoint.getD none, algorithm, maxRequests, windowMillis⟩

/-- The next value of an array that stands for a record. -/
def nextItem {α : Type} (closed : Bool) (read : Json → Except Defect α) :
    List Json → Except Defect (α × List Json)
  | [] => .error (if closed then .wrongLength else .malformed)
  | item :: rest => do return (← read item, rest)

def ofItems (items : List Json) (closed : Bool) : Except Defect Record := do
  let (service, items) ← nextItem closed readText items
  let (endpoint, items) ←
    if items.isEmpty && closed then pure (none, items)
    else nextItem closed readOptionalText items
  let (algorithm, items) ← nextItem closed readText items
  let (maxRequests, items) ← nextItem closed readWord items
  let (windowMillis, items) ← nextItem closed readWord items
  if items.isEmpty && closed then return ⟨service, endpoint, algorithm, maxRequests, windowMillis⟩
  else throw .malformed

def ofJson : Json → Except Defect Record
  | .object members closed => do
    let fields ← members.foldlM Fields.read {}
    if closed then fields.finish else throw .malformed
  | .array items closed => ofItems items closed
  | .string none | .cut => .error .malformed
  | .number n => .error (if n.value?.isSome then .wrongType else .malformed)
  | _ => .error .wrongType

def read (text : String) : Except Defect Record := do
  let (root, clean) := Json.ofText text
  let record ← ofJson root
  if clean then return record else throw .malformed

def decodeLimit (text : String) : Except LimiterError Limit :=
  match read text with
  | .error defect => .error (.undecodableRecord defect)
  | .ok record => record.toLimit

end Record

end Throttle
