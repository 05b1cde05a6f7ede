import Throttle.Record
import Throttle.Store.Call

/-!
# The limiter

What a limiter does for a request, as plans on its store:

* `Limiter.lookUp` reads the published limit of one key, `Limiter.resolve` that of an endpoint or
  else of its service's default;
* `Limiter.evaluate` asks a limit's algorithm for one request, and records the request;
* `Limiter.allow` is the two after one another.

`base` is the text that all of the limiter's store keys start with, `now` the time of the request
in milliseconds, and `ticket` a text that no other request has.
-/

namespace Throttle

namespace Limiter

/-- The limit published under a key, if there is one. -/
def lookUp (base : String) (key : LimitKey) : Plan (Option Limit) := do
  match ← Plan.call (.get (key.configKey base)) with
  | none => return none
  | some text => return some (← Plan.ofExcept (Record.decodeLimit text))

/-- The limit for an endpoint: its own, or else the default of its service. -/
def resolve (base service endpoint : String) : Plan (Option Limit) := do
  match ← lookUp base (.ofEndpoint service endpoint) with
  | some limit => return some limit
  | none => lookUp base (.serviceDefault service)

/-- The bucket in which a limit's requests are counted in tokens. -/
def tokenBucket (base : String) (key : LimitKey) (limit : Limit) : Bucket where
  kind := .tokens
  contentKey := key.stateKey base "tb:tokens"
  stampKey := key.stateKey base "tb:refilled_at"
  capacity := limit.capacity
  window := limit.window

/-- The bucket that a limit's requests fill up. -/
def leakyBucket (base : String) (key : LimitKey) (limit : Limit) : Bucket where
  kind := .level
  contentKey := key.stateKey base "lb:level"
  stampKey := key.stateKey base "lb:leaked_at"
  capacity := limit.capacity
  window := limit.window

/-- The member under which a request is logged.  The ticket keeps requests of one instant apart. -/
def logMember (now : Int) (ticket : String) : String := Decimal.write now ++ "-" ++ ticket

/-- Asks the limit of a key for one request, and records the request. -/
def evaluate (base : String) (now : Int) (ticket : String) (key : LimitKey) (limit : Limit) :
    Plan Bool :=
  match limit.algorithm with
  | .fixedWindow => do
    let count ← Plan.call (.incr (key.stateKey base "fw") 1 limit.window)
    return decide (count ≤ limit.capacity)
  | .slidingWindow => do
    let count ← Plan.call
      (.recordInWindow (key.stateKey base "sw") now limit.window (logMember now ticket))
    return decide (count ≤ limit.maxRequests)
  | .tokenBucket => do
    let outcome ← Plan.call (.askBucket (tokenBucket base key limit) now)
    return outcome.admitted
  | .leakyBucket => do
    let outcome ← Plan.call (.askBucket (leakyBucket base key limit) now)
    return outcome.admitted

/-- Decides a request to an endpoint.  An endpoint without a limit is open.  Requests are counted
    per endpoint even where the limit is the default of the service, so that endpoints never share
    their counts. -/
def allow (base : String) (now : Int) (ticket service endpoint : String) : Plan Bool := do
  match ← resolve base service endpoint with
  | none => return true
  | some limit => evaluate base now ticket (.ofEndpoint service endpoint) limit

end Limiter

/-- What becomes of a request when the limiter fails. -/
inductive FailurePolicy
  /-- It is admitted. -/
  | open
  /-- It is rejected. -/
  | closed
  deriving DecidableEq, Repr

namespace FailurePolicy

/-- The two policies, in the order in which settings list them. -/
def all : List FailurePolicy := [.open, .closed]

def name : FailurePolicy → String
  | .open => "open"
  | .closed => "closed"

/-- The decision that an outcome comes down to. -/
def decide (policy : FailurePolicy) : Except LimiterError Bool → Bool
  | .ok admitted => admitted
  | .error _ => policy == .open

end FailurePolicy

end Throttle
