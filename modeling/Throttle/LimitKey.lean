/-!
# Limiter keys

A limiter is named by a service and, unless it is the service's default, one endpoint.  Its name
becomes part of store keys, where `:` separates the parts and `*` stands for "no endpoint"; both
are escaped inside a service or an endpoint, and so is the escape sign `%` itself.
-/

namespace Throttle

/-- Names one limiter: an endpoint of a service, or with no endpoint the service's default. -/
structure LimitKey where
  service : String
  endpoint : Option String
  deriving DecidableEq, Repr

namespace LimitKey

def escapeChar : Char → List Char
  | '%' => ['%', '2', '5']
  | ':' => ['%', '3', 'A']
  | '*' => ['%', '2', 'A']
  | c => [c]

/-- A component with `%`, `:` and `*` escaped. -/
def escape (component : String) : String := String.ofList (component.toList.flatMap escapeChar)

/-- The text in the endpoint's place: `*` for the service default. -/
def endpointText : Option String → String
  | some endpoint => escape endpoint
  | none => "*"

def ofEndpoint (service endpoint : String) : LimitKey := ⟨service, some endpoint⟩

def serviceDefault (service : String) : LimitKey := ⟨service, none⟩

def isDefault (key : LimitKey) : Bool := key.endpoint.isNone

/-- The text of a key: both components escaped, with a colon between. -/
def text (key : LimitKey) : String := escape key.service ++ ":" ++ endpointText key.endpoint

def configKey (key : LimitKey) (base : String) : String := base ++ ":config:" ++ key.text

/-- Where one part of this key's counting state is stored. -/
def stateKey (key : LimitKey) (base part : String) : String :=
  base ++ ":state:" ++ key.text ++ ":" ++ part

end LimitKey

end Throttle
