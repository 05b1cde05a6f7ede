import Throttle.CommandLine.Form

/-!
# Commands

What the program can be told to do: to check an endpoint, to publish rules once, or to publish them
again and again.  `Invocation.ofWords` reads a command line.
-/

namespace Throttle.CommandLine

inductive Command
  /-- Asks for a number of requests to an endpoint, after publishing rules if a file is named. -/
  | check (service endpoint : String) (count : Nat) (rules : Option String)
  | publish (rules : Option String)
  /-- Publishes rules in intervals. -/
  | sync (rules : Option String)
  deriving DecidableEq, Repr

/-- A command with the file that settings are read from. -/
structure Invocation where
  settingsPath : Option String
  command : Command
  deriving DecidableEq, Repr

def programName : String := "sentinel-limiter"

def programVersion : String := "0.1.0"

namespace Command

def count? (text : String) : Option Nat :=
  match Decimal.read? text with
  | some n => if 0 ≤ n ∧ n < Nat.pow 2 32 then some n.toNat else none
  | none => none

def abouts : List (String × String) :=
  [("check", "Run admission checks for a service endpoint"),
   ("publish", "Publish rate limit rules once"),
   ("sync", "Republish rate limit rules periodically until interrupted"),
   ("help", "Print this message or the help of the given subcommand(s)")]

def form (name : String) (parameters : List Parameter) : Form where
  name := programName ++ " " ++ name
  about := (abouts.lookup name).getD ""
  parameters := parameters

def checkForm : Form := form "check" [
  { short := some 's', long := "service", required := true },
  { short := some 'e', long := "endpoint", required := true },
  { short := some 'n', long := "count", about := "Number of consecutive checks",
    default := some "1", accepts := fun text => (count? text).isSome },
  { long := "rules", about := "Publish these rules first (useful with the memory backend)" }]

def rulesParameters : List Parameter :=
  [{ long := "rules", about := "Rules file, overriding \x60sync.rules_path\x60" }]

def publishForm : Form := form "publish" rulesParameters

def syncForm : Form := form "sync" rulesParameters

def mainForm : Form where
  name := programName
  about := "Distributed rate limiting engine"
  parameters := [
    { short := some 'c', long := "config", about := "Path to the configuration file" }]
  version := some (programName ++ " " ++ programVersion ++ "\n")
  commands := abouts

/-- The text that explains the command that explains commands. -/
def helpOnHelp : String :=
  "Print this message or the help of the given subcommand(s)\n\n" ++
  "Usage: " ++ programName ++ " help [COMMAND]...\n\n" ++
  "Arguments:\n  [COMMAND]...  Print help for the subcommand(s)\n"

/-- What the names of commands behind a call for help ask for. -/
def helpOn : List String → Stop
  | [] => .shown mainForm.help
  | ["check"] => .shown checkForm.help
  | ["publish"] => .shown publishForm.help
  | ["sync"] => .shown syncForm.help
  | ["help"] => .shown helpOnHelp
  | name :: rest =>
    .misused (.unknownCommand (if (abouts.lookup name).isSome then rest.headD name else name))

def ofWords (name : String) (words : List String) : Except Stop Command := do
  match name with
  | "check" =>
    let given ← checkForm.readAll words
    let text (option : String) : String := (given.lookup option).getD ""
    return check (text "service") (text "endpoint")
      (((given.lookup "count").bind count?).getD 1) (given.lookup "rules")
  | "publish" => return publish ((← publishForm.readAll words).lookup "rules")
  | "sync" => return sync ((← syncForm.readAll words).lookup "rules")
  | "help" => throw (helpOn words)
  | _ => throw (.misused (.unknownCommand name))

end Command

def Invocation.ofWords (words : List String) : Except Stop Invocation := do
  match ← Command.mainForm.read words [] with
  | (_, []) => throw (.misused .noCommand)
  | (given, name :: rest) => return ⟨given.lookup "config", ← Command.ofWords name rest⟩

end Throttle.CommandLine
