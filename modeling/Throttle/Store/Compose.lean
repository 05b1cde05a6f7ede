import Throttle.Decimal
import Throttle.Store.Call

/-!
# Compound calls out of single ones

Two calls do several things at once: `recordInWindow` logs, trims, counts and renews, and
`askBucket` reads, settles and writes back.  A store that cannot do them in one step does them as
the plans given here.  Running them step by step is the same for one caller, but other callers may
come between the steps.
-/

namespace Throttle

/-- The integer of a piece of bucket state. -/
def readState (key : String) : Option String → Except LimiterError (Option Int)
  | none => .ok none
  | some raw =>
    match Decimal.read? raw with
    | some n => .ok (some n)
    | none => .error (.corruptState key raw)

/-- A window as the word that its milliseconds become when the excess bits are dropped. -/
def Duration.wrappedMillis (d : Duration) : Int := Word.wrap d.millis

/-- Logs a request in four calls. -/
def recordSteps (key : String) (now : Int) (window : Duration) (member : String) : Plan Nat := do
  Plan.call (.zadd key now member)
  let _ ← Plan.call (.zrem key Word.minValue (now - window.wrappedMillis - 1))
  let count ← Plan.call (.zcount key Word.minValue Word.maxValue)
  Plan.call (.expire key window)
  return count

/-- Asks a bucket for one request in two reads and two writes. -/
def askBucketSteps (bucket : Bucket) (now : Int) : Plan BucketOutcome := do
  let content ← Plan.ofExcept (readState bucket.contentKey (← Plan.call (.get bucket.contentKey)))
  let stamp ← Plan.ofExcept (readState bucket.stampKey (← Plan.call (.get bucket.stampKey)))
  let outcome := bucket.settle content stamp now
  Plan.call (.set bucket.contentKey (Decimal.write outcome.content) bucket.window)
  Plan.call (.set bucket.stampKey (Decimal.write now) bucket.window)
  return outcome

/-- A call in single steps; one that is a single step already stays as it is. -/
def Call.steps : (call : Call) → Plan call.Answer
  | .recordInWindow key now window member => recordSteps key now window member
  | .askBucket bucket now => askBucketSteps bucket now
  | .get key => Plan.call (.get key)
  | .set key value lifetime => Plan.call (.set key value lifetime)
  | .incr key delta lifetime => Plan.call (.incr key delta lifetime)
  | .decr key => Plan.call (.decr key)
  | .zadd key score member => Plan.call (.zadd key score member)
  | .zrem key min max => Plan.call (.zrem key min max)
  | .zcount key min max => Plan.call (.zcount key min max)
  | .expire key lifetime => Plan.call (.expire key lifetime)

/-- A plan with its compound calls taken apart. -/
def Plan.inSteps {α : Type} (p : Plan α) : Plan α := p.expand Call.steps

end Throttle
