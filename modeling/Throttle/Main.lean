import Throttle.CommandLine.Run
import Throttle.Store.Memory

/-!
# The program

Runs the command line on the machine.  The store in memory lasts as long as the process does.
There is no transport to servers, so that a server is never there in time.
-/

namespace Throttle.Main

open CommandLine

def readFile (path : String) : IO FileText := do
  try
    match String.fromUTF8? (← IO.FS.readBinFile path) with
    | some content => return .text content
    | none => return .notText
  catch _ => return .absent

def environment : IO (List (String × String)) := do
  match ← readFile "/proc/self/environ" with
  | .text content =>
    return (content.splitOn "\x00").filterMap fun entry =>
      match entry.splitOn "=" with
      | name :: value => if name.isEmpty then none else some (name, "=".intercalate value)
      | [] => none
  | _ => return []

def now : IO Int := return Int.ofNat (← IO.monoMsNow)

def ticket : IO String := return Ticket.ofNat (← IO.rand 0 (Ticket.bound - 1))

def memory (state : IO.Ref Memory) : Service IO := fun call => do
  let (answer, after) := Memory.answer (← now) call (← state.get)
  state.set after
  return answer

/-- Waits for a server that is not there. -/
def dial (settings : StoreSettings) (_ : Redis.Address) : IO (Option (Service IO)) := do
  IO.sleep (UInt32.ofNat (min settings.connectTimeoutMillis (Nat.pow 2 32 - 1)))
  return none

/-- Does something again and again. -/
partial def repeatEvery (seconds : Nat) (action : IO Unit) : IO Unit := do
  action
  IO.sleep (UInt32.ofNat (min (1000 * seconds) (Nat.pow 2 32 - 1)))
  repeatEvery seconds action

def host : IO (Host IO) := do
  let state ← IO.mkRef Memory.empty
  return {
    fileAt := readFile
    environment := ← environment
    print := IO.print
    now := now
    ticket := ticket
    stores := ⟨memory state, dial⟩
    repeatEvery := repeatEvery }

/-- What is left to say when the program ends. -/
def report : Outcome → IO Unit
  | .finished => return
  | .misused misuse => IO.eprintln ("error: " ++ misuse.message)
  | .failed failure => do
    IO.eprintln ("Error: " ++ failure.message)
    if let some cause := failure.cause? then
      IO.eprintln ("\nCaused by:\n    " ++ cause.message)

end Throttle.Main

def main (words : List String) : IO UInt32 := do
  let outcome ← Throttle.CommandLine.run (← Throttle.Main.host) words
  Throttle.Main.report outcome
  return UInt32.ofNat outcome.exitCode
