import Throttle.Error
import Throttle.FileText
import Throttle.Settings.Basic
import Throttle.Settings.Ini
import Throttle.Settings.Json
import Throttle.Settings.Layers
import Throttle.Settings.Toml
import Throttle.Settings.Yaml

/-!
# Loading settings

Settings come from a file, if one is named, and over it from the environment.  The extension of the
file's name tells its format.  A name that leads to no file is tried again with every known
extension behind it.
-/

namespace Throttle

inductive SettingsFormat
  | ini
  | json
  | toml
  | yaml
  deriving DecidableEq, Repr

namespace SettingsFormat

def extensions : List (String × SettingsFormat) :=
  [("ini", ini), ("json", json), ("toml", toml), ("yaml", yaml), ("yml", yaml)]

/-- The extension of a file's name: what stands behind its last point, unless that point is its
    first character. -/
def extensionOf (path : String) : String :=
  let name := (path.toList.reverse.takeWhile (· != '/')).reverse
  let behind := name.reverse.takeWhile (· != '.')
  if behind.length + 1 < name.length then String.ofList behind.reverse else ""

/-- The format that a file's name tells. -/
def ofPath? (path : String) : Option SettingsFormat := extensions.lookup (extensionOf path)

def entries : SettingsFormat → String → Except Defect (List (String × Setting))
  | ini, text => Settings.FromIni.entries text
  | json, text => Settings.FromJson.entries text
  | toml, text => Settings.FromToml.entries text
  | yaml, text => Settings.FromYaml.entries text

end SettingsFormat

namespace Settings

/-- The settings of a text in YAML, without an environment. -/
def ofYaml (text : String) : Except LimiterError Settings :=
  match (FromYaml.entries text) >>= fun entries => read (Setting.ofSources [entries]) with
  | .ok settings => .ok settings
  | .error defect => .error (.badSettings defect)

/-- The first of several paths that leads to a file, with what it holds. -/
def firstFile {m : Type → Type} [Monad m] (fileAt : String → m FileText) :
    List (String × SettingsFormat) → m (Option (FileText × SettingsFormat))
  | [] => pure none
  | (path, format) :: rest => do
    match ← fileAt path with
    | .absent => firstFile fileAt rest
    | file => return some (file, format)

def fileEntries {m : Type → Type} [Monad m] (fileAt : String → m FileText) (path : String) :
    m (Except Defect (List (String × Setting))) := do
  let extended :=
    SettingsFormat.extensions.map fun (extension, format) => (path ++ "." ++ extension, format)
  -- A name that leads to a file is not tried with another extension, even if its own is unknown.
  let found ← match ← fileAt path with
    | .absent => firstFile fileAt extended
    | file => pure ((SettingsFormat.ofPath? path).map fun format => (file, format))
  match found with
  | some (.text text, format) => return format.entries text
  | _ => return .error .malformed

/-- The settings of a file, if one is named, and of the environment. -/
def load {m : Type → Type} [Monad m] (fileAt : String → m FileText)
    (environment : List (String × String)) (path : Option String) :
    m (Except LimiterError Settings) := do
  let file ← match path with
    | some path => fileEntries fileAt path
    | none => pure (.ok [])
  let settings := file >>= fun entries =>
    read (Setting.ofSources [entries, Setting.ofEnvironment environment])
  return match settings with
    | .ok settings => .ok settings
    | .error defect => .error (.badSettings defect)

end Settings

end Throttle
