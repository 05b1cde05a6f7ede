import Throttle.Limiter
import Throttle.Settings.Setting

/-!
# Settings

What a process can be told: where its store is, how it names keys, where its rules are and how
often they are published again, and how it logs.  `Settings.read` takes them out of a table, where
everything that is left out has a default.  A section may also be a list of its settings in order.
-/

namespace Throttle

/-- Where counting state is kept. -/
inductive Backend
  /-- In the process itself. -/
  | memory
  /-- On a server that processes share. -/
  | redis
  deriving DecidableEq, Repr

namespace Backend

def all : List Backend := [memory, redis]

def name : Backend → String
  | memory => "memory"
  | redis => "redis"

end Backend

/-- The store and how long to wait for it. -/
structure StoreSettings where
  backend : Backend := .redis
  url : String := "redis://127.0.0.1:6379"
  connectTimeoutMillis : Nat := 5000
  operationTimeoutMillis : Nat := 250
  deriving DecidableEq, Repr

/-- How limiters name their keys, and what they do when they fail. -/
structure LimiterSettings where
  base : String := "rate_limit"
  /-- None leaves a failure to be reported. -/
  failurePolicy : Option FailurePolicy := none
  deriving DecidableEq, Repr

/-- Where the rules are, and how often they are published. -/
structure SyncSettings where
  rulesPath : Option String := none
  intervalSecs : Nat := 300
  deriving DecidableEq, Repr

structure LoggingSettings where
  level : String := "info"
  json : Bool := false
  deriving DecidableEq, Repr

/-- Everything a process can be told. -/
structure Settings where
  store : StoreSettings := {}
  limiter : LimiterSettings := {}
  sync : SyncSettings := {}
  logging : LoggingSettings := {}
  deriving DecidableEq, Repr

namespace SyncSettings

/-- The seconds between two publications, at least one. -/
def effectiveIntervalSecs (s : SyncSettings) : Nat := max s.intervalSecs 1

/-- How long a published record lives: two intervals, so that one publication may fail.  None where
    so many seconds cannot be counted in 64 bits. -/
def recordLifetime? (s : SyncSettings) : Option Duration :=
  if s.effectiveIntervalSecs * 2 < Nat.pow 2 64 then some (.ofSecs (s.effectiveIntervalSecs * 2))
  else none

end SyncSettings

namespace Settings

/-- The settings of a section: by name from a table, or by position from a list.  What is left out
    is none. -/
def fieldsOf (names : List String) : Setting → Except Defect (List (Option Setting))
  | .table entries => .ok (names.map fun name => entries.lookup name)
  | .list items => .ok ((List.range names.length).map fun i => items[i]?)
  | _ => .error .wrongType

def fieldOr {α : Type} (default : α) (read : Setting → Except Defect α) :
    Option (Option Setting) → Except Defect α
  | some (some setting) => read setting
  | _ => .ok default

def readStore (setting : Setting) : Except Defect StoreSettings := do
  let fields ← fieldsOf ["backend", "url", "connect_timeout_ms", "operation_timeout_ms"] setting
  let default : StoreSettings := {}
  return {
    backend := ← fieldOr default.backend (Setting.toChoice Backend.all Backend.name) fields[0]?
    url := ← fieldOr default.url Setting.toText fields[1]?
    connectTimeoutMillis := ← fieldOr default.connectTimeoutMillis Setting.toNatural fields[2]?
    operationTimeoutMillis :=
      ← fieldOr default.operationTimeoutMillis Setting.toNatural fields[3]? }

def readLimiter (setting : Setting) : Except Defect LimiterSettings := do
  let fields ← fieldsOf ["key_prefix", "failure_policy"] setting
  let default : LimiterSettings := {}
  return {
    base := ← fieldOr default.base Setting.toText fields[0]?
    failurePolicy := ← fieldOr default.failurePolicy
      (Setting.toOptional (Setting.toChoice FailurePolicy.all FailurePolicy.name)) fields[1]? }

/-- The section on publishing.  Only by name can the path of the rules be left out. -/
def readSync (setting : Setting) : Except Defect SyncSettings := do
  let fields ← fieldsOf ["rules_path", "interval_secs"] setting
  let default : SyncSettings := {}
  match setting with
  | .list [] => throw .wrongLength
  | _ => return {
      rulesPath := ← fieldOr default.rulesPath (Setting.toOptional Setting.toText) fields[0]?
      intervalSecs := ← fieldOr default.intervalSecs Setting.toNatural fields[1]? }

def readLogging (setting : Setting) : Except Defect LoggingSettings := do
  let fields ← fieldsOf ["level", "json"] setting
  let default : LoggingSettings := {}
  return {
    level := ← fieldOr default.level Setting.toText fields[0]?
    json := ← fieldOr default.json Setting.toBool fields[1]? }

def read (setting : Setting) : Except Defect Settings := do
  let fields ← fieldsOf ["store", "limiter", "sync", "logging"] setting
  return {
    store := ← fieldOr {} readStore fields[0]?
    limiter := ← fieldOr {} readLimiter fields[1]?
    sync := ← fieldOr {} readSync fields[2]?
    logging := ← fieldOr {} readLogging fields[3]? }

end Settings

end Throttle
