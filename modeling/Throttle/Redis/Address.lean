import Throttle.Uri

/-!
# Addresses of Redis servers

A server listens at a port of a host, or at a socket in the file system.  Its address also chooses
a database, a user and a version of the protocol.  Encrypted connections are not supported.
-/

namespace Throttle.Redis

/-- Where a server listens. -/
inductive Endpoint
  | tcp (host : String) (port : Nat)
  /-- The path of a socket, as bytes. -/
  | socket (path : List UInt8)
  deriving DecidableEq, Repr

/-- The version of the protocol to speak. -/
inductive Protocol
  | two
  | three
  deriving DecidableEq, Repr

structure Address where
  endpoint : Endpoint
  database : Int
  user : Option String
  password : Option String
  protocol : Protocol
  deriving DecidableEq, Repr

namespace Address

/-- The port of a server whose address gives none. -/
def defaultPort : Nat := 6379

/-- The protocol that an address asks for; where it asks for none it is the second. -/
def protocol? (uri : Uri) : Option Protocol :=
  match (uri.parameter? "protocol").map fun bytes => String.fromUTF8? ⟨bytes.toArray⟩ with
  | none => some .two
  | some (some "2") | some (some "resp2") => some .two
  | some (some "3") | some (some "resp3") => some .three
  | some _ => none

/-- An address whose path is the number of the database. -/
def ofHost? (uri : Uri) : Option Address := do
  let authority ← uri.authority
  if authority.host.isEmpty then failure
  let path := ((uri.path.dropWhile (· == '/')).reverse.dropWhile (· == '/')).reverse
  let database ← if path.isEmpty then some 0 else Decimal.read? (String.ofList path)
  let user ← if authority.user.isEmpty then some none
    else (Text.percentDecode? authority.user).map some
  let password ← match authority.password with
    | none => some none
    | some password => (Text.percentDecode? password).map some
  return {
    endpoint := .tcp (String.ofList authority.host) (authority.port.getD defaultPort)
    database := database
    user := user
    password := password
    protocol := ← protocol? uri }

/-- An address whose path leads to a socket; the rest is in the query. -/
def ofSocket? (uri : Uri) : Option Address := do
  if uri.path.head? != some '/' then failure
  let host := (uri.authority.map (·.host)).getD []
  if !host.isEmpty && host != "localhost".toList then failure
  let text (name : String) : Option String :=
    (uri.parameter? name).bind fun bytes => String.fromUTF8? ⟨bytes.toArray⟩
  let database ← match uri.parameter? "db" with
    | none => some 0
    | some _ => (text "db").bind Decimal.read?
  return {
    endpoint := .socket (Text.percentBytes uri.path)
    database := database
    user := text "user"
    password := text "pass"
    protocol := ← protocol? uri }

def ofText? (text : String) : Option Address := do
  let uri ← Uri.ofText? text
  if ["redis", "valkey"].contains uri.scheme then ofHost? uri
  else if ["unix", "redis+unix", "valkey+unix"].contains uri.scheme then ofSocket? uri
  else none

end Address

end Throttle.Redis
