import Throttle.Settings.Setting
import Throttle.Toml.Document

/-!
# Settings from TOML

A TOML file of settings is one document.  Dates and times in it are texts.
-/

namespace Throttle.Settings.FromToml

mutual

def value : Toml.Value → Setting
  | .bool b => .bool b
  | .integer n => .integer n
  | .float x => .float x
  | .moment m => .text m.text
  | .text s => .text s
  | .array items => .list (values items)
  | .table entries => .table (members entries)

def values : List Toml.Value → List Setting
  | [] => []
  | item :: items => value item :: values items

def members : List (String × Toml.Value) → List (String × Setting)
  | [] => []
  | (name, item) :: rest => (name, value item) :: members rest

end

def entries (text : String) : Except Defect (List (String × Setting)) :=
  match Toml.Document.ofText? text with
  | some found => .ok (members found)
  | none => .error .malformed

end Throttle.Settings.FromToml
