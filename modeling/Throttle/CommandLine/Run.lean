import Throttle.CommandLine.Command
import Throttle.Rules.Read
import Throttle.Settings.Load
import Throttle.Store.Connect
import Throttle.Ticket

/-!
# Running commands

`run` carries out a command line in a monad that can do what a `Host` can: read files, print, tell
the time, make tickets and reach stores.  It reads the settings first, connects to the store next,
and then does what the command says.  Its `Outcome` tells what is left to say when it ends.
-/

namespace Throttle.CommandLine

/-- What the program can use. -/
structure Host (m : Type → Type) where
  fileAt : String → m FileText
  /-- The variables of the environment. -/
  environment : List (String × String)
  print : String → m Unit
  /-- The time, in milliseconds. -/
  now : m Int
  /-- A text that no other call gives. -/
  ticket : m String
  stores : Stores m
  /-- Does something again and again, with so many seconds from one time to the next, until the
      program is interrupted. -/
  repeatEvery : Nat → m Unit → m Unit

/-- Why a command was not carried out to its end. -/
inductive Failure
  | settings (error : LimiterError)
  | connection (error : LimiterError)
  /-- Neither the command line nor the settings name a file of rules. -/
  | noRules
  | limiter (error : LimiterError)
  /-- The lifetime of records cannot be counted in 64 bits. -/
  | lifetimeTooLong
  deriving DecidableEq, Repr

def Failure.message : Failure → String
  | settings _ => "Failed to load configuration"
  | connection _ => "Failed to connect to the shared state store"
  | noRules => "No rules file given; pass --rules or set sync.rules_path"
  | limiter error => error.message
  | lifetimeTooLong => "the interval is too long"

/-- The error behind a failure, where the message does not tell it. -/
def Failure.cause? : Failure → Option LimiterError
  | settings error | connection error => some error
  | noRules | limiter _ | lifetimeTooLong => none

/-- How a command line ends. -/
inductive Outcome
  | finished
  | misused (misuse : Misuse)
  | failed (failure : Failure)
  deriving DecidableEq, Repr

def Outcome.exitCode : Outcome → Nat
  | finished => 0
  | misused _ => 2
  | failed .lifetimeTooLong => 101
  | failed _ => 1

variable {m : Type → Type} [Monad m]

abbrev Task (m : Type → Type) : Type → Type := ExceptT Failure m

/-- The file of rules: what the command line names, or else the settings. -/
def rulesPath (named : Option String) (settings : Settings) : Except Failure String :=
  match named.orElse fun _ => settings.sync.rulesPath with
  | some path => .ok path
  | none => .error .noRules

def publishOnce (host : Host m) (store : Service m) (settings : Settings)
    (lifetime : Option Duration) (path : String) : m (Except LimiterError Unit) := do
  match RulesDocument.ofFile (← host.fileAt path) with
  | .error error => return .error error
  | .ok document =>
    let publisher : Publisher := ⟨settings.limiter.base, lifetime⟩
    return (← (publisher.publish document).serve store).map fun _ => ()

/-- Whether the outcome of a request lets it pass.  Where no policy is set a failure stays one. -/
def decide (settings : Settings) (outcome : Except LimiterError Bool) : Except LimiterError Bool :=
  match settings.limiter.failurePolicy with
  | some policy => .ok (policy.decide outcome)
  | none => outcome

def verdictLine (service endpoint : String) (number : Nat) (admitted : Bool) : String :=
  (if admitted then "ALLOW" else "DENY ") ++ " " ++ service ++ endpoint ++ " #" ++
    Decimal.write number ++ ": " ++ (if admitted then "admitted" else "rate limited") ++ "\n"

/-- Asks for one request and prints whether it passes. -/
def checkOnce (host : Host m) (store : Service m) (settings : Settings)
    (service endpoint : String) (number : Nat) : Task m Unit := do
  let now ← host.now
  let ticket ← host.ticket
  let request := Limiter.allow settings.limiter.base now ticket service endpoint
  let outcome ← (request.serve store : m _)
  match decide settings outcome with
  | .error error => throw (.limiter error)
  | .ok admitted => host.print (verdictLine service endpoint number admitted)

/-- Asks for requests, numbered from `number`. -/
def checkFrom (host : Host m) (store : Service m) (settings : Settings)
    (service endpoint : String) : (number count : Nat) → Task m Unit
  | _, 0 => return
  | number, count + 1 => do
    checkOnce host store settings service endpoint number
    checkFrom host store settings service endpoint (number + 1) count

def Task.ofLimiter {α : Type} (work : m (Except LimiterError α)) : Task m α :=
  ExceptT.mk do
    return match ← work with
      | .ok value => .ok value
      | .error error => .error (.limiter error)

def perform (host : Host m) (store : Service m) (settings : Settings) : Command → Task m Unit
  | .check service endpoint count rules => do
    -- Only rules that the command line names are published here, not those of the settings.
    if let some path := rules then
      Task.ofLimiter (publishOnce host store settings none path)
    checkFrom host store settings service endpoint 1 count
  | .publish rules => do
    let path ← MonadExcept.ofExcept (rulesPath rules settings)
    Task.ofLimiter (publishOnce host store settings none path)
  | .sync rules => do
    let path ← MonadExcept.ofExcept (rulesPath rules settings)
    match settings.sync.recordLifetime? with
    | none => throw .lifetimeTooLong
    | some lifetime =>
      host.repeatEvery settings.sync.effectiveIntervalSecs do
        -- A round that fails is followed by the next one.
        let _ ← publishOnce host store settings (some lifetime) path

/-- Reads the settings, connects to the store and carries out the command. -/
def execute (host : Host m) (invocation : Invocation) : Task m Unit := do
  let settings ←
    (Settings.load host.fileAt host.environment invocation.settingsPath : m _)
  match settings with
  | .error error => throw (.settings error)
  | .ok settings =>
    match ← host.stores.connect settings.store with
    | .error error => throw (.connection error)
    | .ok store => perform host store settings invocation.command

/-- Carries out a command line. -/
def run (host : Host m) (words : List String) : m Outcome := do
  match Invocation.ofWords words with
  | .error (.misused misuse) => return .misused misuse
  | .error (.shown text) =>
    host.print text
    return .finished
  | .ok invocation =>
    match ← (execute host invocation).run with
    | .ok () => return .finished
    | .error failure => return .failed failure

end Throttle.CommandLine
