import Throttle.Redis.Reply

/-!
# The store on a Redis server

`Redis.client` makes a store of a server, which is anything that takes commands and replies to them
or stays silent.  Every call is one command.  Where the server does not keep a script yet it is
given the script and asked once more, and that is the only case in which anything is repeated.

`Redis.Transcript` is a server that replies from a list and notes the commands it is sent.
-/

namespace Throttle.Redis

/-- A server with states `σ`: its reply to a command, or none where it stays silent until the time
    for an answer is over. -/
abbrev Server (σ : Type) : Type := List String → σ → Option Reply × σ

variable {σ : Type} (hash : Script → String)

/-- The answer that a reply, or the lack of one, gives to a call. -/
def received (call : Call) : Option Reply → Except LimiterError call.Answer
  | none => .error (.timedOut (operation call))
  | some reply => reply.decode call

/-- Gives a script to the server and repeats the command of a call. -/
def retry (server : Server σ) (call : Call) (script : Script) (s : σ) :
    Except LimiterError call.Answer × σ :=
  match server (loadWords script) s with
  | (none, s) => (.error (.timedOut (operation call)), s)
  | (some reply, s) =>
    if reply.hasError then (.error .unusableReply, s)
    else
      -- Whatever comes now is the answer, even if it asks for the script again.
      let (reply, s) := server (words hash call) s
      (received call reply, s)

def client (server : Server σ) : Store σ := fun call s =>
  match server (words hash call) s, scriptOf call with
  | (some reply, s), some script =>
    if reply.asksForScript then retry hash server call script s else (reply.decode call, s)
  | (reply, s), _ => (received call reply, s)

/-- A server that replies from a list. -/
structure Transcript where
  /-- The replies to come; none stands for silence. -/
  replies : List (Option Reply)
  /-- The commands so far, last one first. -/
  commands : List (List String)

namespace Transcript

def sent (t : Transcript) : List (List String) := t.commands.reverse

/-- Replies to a command.  To be given a script is only confirmed, and when the list has run out
    every reply is an error. -/
def server : Server Transcript := fun command t =>
  match command with
  | "SCRIPT" :: "LOAD" :: _ => (some (.bulk ""), t)
  | _ =>
    let noted := { t with commands := command :: t.commands }
    match t.replies with
    | reply :: rest => (reply, { noted with replies := rest })
    | [] => (some (.error "no reply is left"), noted)

end Transcript

end Throttle.Redis
