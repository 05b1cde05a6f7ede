import Throttle.FileText
import Throttle.Rules.Basic
import Throttle.Yaml.Document

/-!
# Reading rules documents

A rules document is a YAML mapping.  With the key `services` it holds a list of services; without
it, it is the one service itself.  Fields may come in any order, and fields of other names are
passed over.  What is wrong is reported as it is met, in the order of the document, and fields that
are missing at the end.

The limit of an endpoint stands in the same mapping as the endpoint's name, and is read once that
mapping has been gone through.  Up to then its fields are only collected, which is why an own tag
in them is refused, and why a mapping with one entry may name its algorithm.
-/

namespace Throttle

namespace Rules

open Yaml (Node)

def readText (node : Node) : Except Defect String :=
  match node.text? with
  | some text => .ok text
  | none => .error .wrongType

/-- A natural number that fits 64 bits. -/
def readNatural (node : Node) : Except Defect Nat :=
  match node.untagged with
  | .natural n => .ok n
  | .negative _ => .error .wrongValue
  | _ => .error .wrongType

/-- The entries of a mapping; null has none. -/
def readEntries (node : Node) : Except Defect (List (Node × Node)) :=
  match node.untagged with
  | .mapping entries => .ok entries
  | .null => .ok []
  | _ => .error .wrongType

/-- The items of a list, each read in its order; null has none. -/
def readList {α : Type} (read : Node → Except Defect α) (node : Node) : Except Defect (List α) :=
  match node.untagged with
  | .sequence items => items.mapM read
  | .null => .ok []
  | _ => .error .wrongType

/-- A field that has not been read yet. -/
def readOnce {α : Type} (name : String) (present : Option α) (value : Except Defect α) :
    Except Defect (Option α) :=
  if present.isSome then .error (.duplicateField name) else value.map some

/-- A field that must have been read. -/
def demand {α : Type} (name : String) : Option α → Except Defect α
  | some value => .ok value
  | none => .error (.missingField name)

def namedAlgorithm (name : String) : Except Defect Algorithm :=
  match Algorithm.ofName? name with
  | some algorithm => .ok algorithm
  | none => .error (.unknownVariant name)

/-! ## Limits -/

/-- An algorithm: its name, or its name as an own tag of null. -/
def readAlgorithm : Node → Except Defect Algorithm
  | .string name => namedAlgorithm name
  | .tagged name value => do
    let algorithm ← namedAlgorithm name
    match value with
    | .null => return algorithm
    | _ => throw .wrongType
  | _ => .error .wrongType

def collectedName : Node → Except Defect Algorithm
  | .string name => namedAlgorithm name
  | .natural n =>
    match Algorithm.all[n]? with
    | some algorithm => .ok algorithm
    | none => .error .wrongValue
  | _ => .error .wrongType

/-- An algorithm in a field that has been collected: its name, or a mapping from its name or number
    to nothing. -/
def collectedAlgorithm : Node → Except Defect Algorithm
  | .string name => namedAlgorithm name
  | .mapping [(key, value)] => do
    let algorithm ← collectedName key
    match value with
    | .null | .mapping [] => return algorithm
    | _ => throw .wrongType
  | .mapping _ => .error .wrongValue
  | _ => .error .wrongType

/-- The fields of a limit that have been read. -/
structure LimitFields where
  algorithm : Option Algorithm := none
  maxRequests : Option Nat := none
  windowMillis : Option Nat := none

def LimitFields.read (algorithm : Node → Except Defect Algorithm) (f : LimitFields) (name : String)
    (value : Node) : Except Defect LimitFields :=
  if name = "algorithm" then do
    return { f with algorithm := ← readOnce name f.algorithm (algorithm value) }
  else if name = "max_requests" then do
    return { f with maxRequests := ← readOnce name f.maxRequests (readNatural value) }
  else if name = "time_window_ms" then do
    return { f with windowMillis := ← readOnce name f.windowMillis (readNatural value) }
  else .ok f

def LimitFields.finish (f : LimitFields) : Except Defect LimitRule := do
  return {
    algorithm := ← demand "algorithm" f.algorithm
    maxRequests := ← demand "max_requests" f.maxRequests
    windowMillis := ← demand "time_window_ms" f.windowMillis }

def readLimit (node : Node) : Except Defect LimitRule := do
  let fields ← (← readEntries node).foldlM (fun fields (key, value) => do
    fields.read readAlgorithm (← readText key) value) ({} : LimitFields)
  fields.finish

/-- A default: null stands for none. -/
def readDefault : Node → Except Defect (Option LimitRule)
  | .null => .ok none
  | node => (readLimit node).map some

/-! ## Endpoints -/

mutual

/-- Nowhere in the node is an own tag. -/
def isTagless : Node → Bool
  | .tagged _ _ => false
  | .sequence items => isTaglessList items
  | .mapping entries => isTaglessMapping entries
  | _ => true

def isTaglessList : List Node → Bool
  | [] => true
  | item :: items => isTagless item && isTaglessList items

def isTaglessMapping : List (Node × Node) → Bool
  | [] => true
  | (key, value) :: entries => isTagless key && isTagless value && isTaglessMapping entries

end

/-- The fields of an endpoint's rule that have been read. -/
structure EndpointFields where
  endpoint : Option String := none
  /-- The other fields, last one first. -/
  others : List (String × Node) := []

def EndpointFields.read (f : EndpointFields) (name : String) (value : Node) :
    Except Defect EndpointFields :=
  if name = "endpoint" then do
    return { f with endpoint := ← readOnce name f.endpoint (readText value) }
  else if isTagless value then .ok { f with others := (name, value) :: f.others }
  else .error .malformed

def readEndpoint (node : Node) : Except Defect EndpointRule := do
  let fields ← (← readEntries node).foldlM (fun fields (key, value) => do
    fields.read (← readText key) value) ({} : EndpointFields)
  let endpoint ← demand "endpoint" fields.endpoint
  let limit ← fields.others.reverse.foldlM (fun limit (name, value) =>
    limit.read collectedAlgorithm name value) ({} : LimitFields)
  return ⟨endpoint, ← limit.finish⟩

/-! ## Services -/

/-- The fields of a service that have been read. -/
structure ServiceFields where
  service : Option String := none
  default : Option (Option LimitRule) := none
  endpoints : Option (List EndpointRule) := none

def ServiceFields.read (f : ServiceFields) (name : String) (value : Node) :
    Except Defect ServiceFields :=
  if name = "service_name" then do
    return { f with service := ← readOnce name f.service (readText value) }
  else if name = "default" then do
    return { f with default := ← readOnce name f.default (readDefault value) }
  else if name = "endpoints" then do
    return { f with endpoints := ← readOnce name f.endpoints (readList readEndpoint value) }
  else .ok f

def readService (node : Node) : Except Defect ServiceRules := do
  let fields ← (← readEntries node).foldlM (fun fields (key, value) => do
    fields.read (← readText key) value) ({} : ServiceFields)
  return {
    service := ← demand "service_name" fields.service
    default := fields.default.getD none
    endpoints := fields.endpoints.getD [] }

/-- A list of services, under the key `services` of a mapping. -/
def readServices (node : Node) : Except Defect (List ServiceRules) := do
  let services ← (← readEntries node).foldlM (fun present (key, value) => do
    let name ← readText key
    if name = "services" then readOnce name present (readList readService value) else return present)
    (none : Option (List ServiceRules))
  return services.getD []

def readDocument (node : Node) : Except Defect RulesDocument :=
  if (node.get? "services").isSome then (readServices node).map RulesDocument.mk
  else (readService node).map fun service => ⟨[service]⟩

end Rules

def RulesDocument.ofText (text : String) : Except LimiterError RulesDocument :=
  match Yaml.Node.ofText text >>= Rules.readDocument with
  | .ok document => .ok document
  | .error defect => .error (.badRules defect)

def RulesDocument.ofFile : FileText → Except LimiterError RulesDocument
  | .text text => ofText text
  | .absent | .notText => .error .unreadableFile

end Throttle
