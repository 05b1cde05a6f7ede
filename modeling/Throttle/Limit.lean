import Throttle.Algorithm
import Throttle.Duration
import Throttle.Error

/-!
# Limits

A limit allows one limiter a number of requests per window of time, counted by one algorithm.
`Limit.check` states what a limit must satisfy to be published; it names the first rule that is
broken.
-/

namespace Throttle

/-- How many requests a service, or one endpoint of it, may make per window. -/
structure Limit where
  service : String
  /-- None for the default of the service. -/
  endpoint : Option String
  algorithm : Algorithm
  maxRequests : Nat
  window : Duration
  deriving DecidableEq, Repr

namespace Limit

def key (l : Limit) : LimitKey := ⟨l.service, l.endpoint⟩

/-- The number of requests as a word; a number beyond the range becomes the largest word. -/
def capacity (l : Limit) : Int := Word.saturate l.maxRequests

/-- The whole milliseconds of the window as a word, cut to the largest one. -/
def windowMillis (l : Limit) : Int := Word.saturate l.window.millis

/-- What keeps a limit from being published, if anything does. -/
def problem? (l : Limit) : Option LimitProblem :=
  if l.service = "" then some .emptyService
  else if l.maxRequests = 0 then some (.noRequests l.key)
  else if Word.maxValue < l.maxRequests then some (.tooManyRequests l.key)
  else if l.window.millis = 0 then some (.windowTooShort l.key)
  else if Word.maxValue < l.window.millis then some (.windowTooLong l.key)
  else none

/-- Refuses a limit that must not be published. -/
def check (l : Limit) : Except LimiterError Unit :=
  match l.problem? with
  | some problem => .error (.invalidLimit problem)
  | none => .ok ()

end Limit

end Throttle
