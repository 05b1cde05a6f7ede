import Throttle.Record
import Throttle.Store.Call

/-!
# Rules documents

A rules document lists services, and for each a default rule and rules for single endpoints.
`RulesDocument.limits` flattens it: service by service, the default before the endpoints.

Publishing writes one record per rule.  All rules are checked before the first is written, so a
document with an invalid rule publishes nothing.
-/

namespace Throttle

/-- How many requests per window, counted how. -/
structure LimitRule where
  algorithm : Algorithm
  maxRequests : Nat
  windowMillis : Nat
  deriving DecidableEq, Repr

structure EndpointRule where
  endpoint : String
  rule : LimitRule
  deriving DecidableEq, Repr

structure ServiceRules where
  service : String
  /-- For the endpoints without a rule of their own. -/
  default : Option LimitRule
  endpoints : List EndpointRule
  deriving DecidableEq, Repr

/-- The rules for a number of services. -/
structure RulesDocument where
  services : List ServiceRules
  deriving DecidableEq, Repr

def LimitRule.limit (r : LimitRule) (service : String) (endpoint : Option String) : Limit :=
  ⟨service, endpoint, r.algorithm, r.maxRequests, .ofMillis r.windowMillis⟩

/-- The limits that a service's rules set, the default first. -/
def ServiceRules.limits (s : ServiceRules) : List Limit :=
  (s.default.map fun r => r.limit s.service none).toList ++
    s.endpoints.map fun e => e.rule.limit s.service (some e.endpoint)

def RulesDocument.limits (d : RulesDocument) : List Limit := d.services.flatMap ServiceRules.limits

/-- The limits of a document, unless one of them must not be published. -/
def RulesDocument.checkedLimits (d : RulesDocument) : Except LimiterError (List Limit) := do
  d.limits.forM Limit.check
  return d.limits

/-- Where limits are published: the start of the store keys, and how long records live. -/
structure Publisher where
  base : String
  lifetime : Option Duration
  deriving DecidableEq, Repr

namespace Publisher

def publishLimit (p : Publisher) (limit : Limit) : Plan Unit := do
  Plan.ofExcept limit.check
  Plan.call (.set (limit.key.configKey p.base) (Record.ofLimit limit).write p.lifetime)

/-- Checks all rules of a document, then writes them in order, and answers how many they are. -/
def publish (p : Publisher) (document : RulesDocument) : Plan Nat := do
  let limits ← Plan.ofExcept document.checkedLimits
  limits.forM p.publishLimit
  return limits.length

end Publisher

end Throttle
