import Throttle.Double.Basic

/-!
# YAML nodes

The value of a YAML text.  Integers that fit 64 bits are kept apart from other numbers, and a tag
of the document's own is kept together with the node it stands before.
-/

namespace Throttle.Yaml

/-- A YAML value. -/
inductive Node
  | null
  | bool (value : Bool)
  | natural (n : Nat)
  /-- An integer below zero. -/
  | negative (n : Int)
  | float (x : Double)
  | string (text : String)
  | sequence (items : List Node)
  | mapping (entries : List (Node × Node))
  | tagged (tag : String) (node : Node)
  deriving Repr

namespace Node

mutual

/-- Two nodes are the same key.  The order of the entries of a mapping does not matter. -/
def same : Node → Node → Bool
  | null, null => true
  | bool a, bool b => a == b
  | natural a, natural b => a == b
  | negative a, negative b => a == b
  | float a, float b => a.same b
  | string a, string b => a == b
  | sequence as, sequence bs => sameItems as bs
  | mapping as, mapping bs => as.length == bs.length && sameEntries as bs
  | tagged s a, tagged t b => s == t && same a b
  | _, _ => false

def sameItems : List Node → List Node → Bool
  | [], [] => true
  | a :: as, b :: bs => same a b && sameItems as bs
  | _, _ => false

/-- Every entry of the first list is in the second. -/
def sameEntries : List (Node × Node) → List (Node × Node) → Bool
  | [], _ => true
  | (k, v) :: entries, others =>
    others.any (fun other => same k other.1 && same v other.2) && sameEntries entries others

end

def untagged : Node → Node
  | tagged _ node => node.untagged
  | node => node

def text? (node : Node) : Option String :=
  match node.untagged with
  | string text => some text
  | _ => none

/-- The value behind a key of a mapping, whatever the tags of the mapping. -/
def get? (key : String) (node : Node) : Option Node :=
  match node.untagged with
  | mapping entries => (entries.find? fun e => e.1.same (.string key)).map Prod.snd
  | _ => none

end Node

end Throttle.Yaml
