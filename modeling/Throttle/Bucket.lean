import Throttle.Duration
import Throttle.Word

/-!
# Buckets

A bucket holds a count and the time at which the count was last brought up to date.  Tokens and
level are the two readings of it: tokens refill and are taken away, a level drains and is filled
up.  Both move by `capacity` units per window, counted in whole units, so a fraction of a unit
that has accrued is dropped when the bucket is settled.

`Bucket.settle` is the whole arithmetic of an admission; the stores only keep its results.
-/

namespace Throttle

/-- Which way a bucket moves. -/
inductive BucketKind
  /-- Starts full and refills; an admission takes one. -/
  | tokens
  /-- Starts empty and drains; an admission adds one. -/
  | level
  deriving DecidableEq, Repr

def BucketKind.name : BucketKind → String
  | tokens => "tokens"
  | level => "level"

/-- A bucket and the two keys that hold it. -/
structure Bucket where
  kind : BucketKind
  contentKey : String
  stampKey : String
  capacity : Int
  window : Duration
  deriving DecidableEq, Repr

/-- What came of asking a bucket for one request. -/
structure BucketOutcome where
  admitted : Bool
  /-- What the bucket holds afterwards. -/
  content : Int
  deriving DecidableEq, Repr

/-- Whole units that accrue in `elapsed` milliseconds, at `perWindow` units per `window`
    milliseconds. -/
def accrued (elapsed perWindow window : Int) : Int :=
  if elapsed ≤ 0 ∨ window ≤ 0 ∨ perWindow ≤ 0 then 0
  else min (elapsed * perWindow / window) Word.maxValue

namespace Bucket

def windowMillis (b : Bucket) : Int := Word.saturate b.window.millis

def takeToken (tokens : Int) : BucketOutcome :=
  if tokens ≤ 0 then ⟨false, tokens⟩ else ⟨true, tokens - 1⟩

def addUnit (capacity level : Int) : BucketOutcome :=
  if capacity ≤ level then ⟨false, level⟩ else ⟨true, level + 1⟩

/-- Brings a bucket forward to `now` and asks it for one request.  Without a content the bucket is
    fresh, and without a stamp no time has passed. -/
def settle (b : Bucket) (content stamp : Option Int) (now : Int) : BucketOutcome :=
  let gained := accrued (now - stamp.getD now) b.capacity b.windowMillis
  match b.kind with
  | .tokens => takeToken (min (Word.add (content.getD b.capacity) gained) b.capacity)
  | .level => addUnit b.capacity (max (Word.sub (content.getD 0) gained) 0)

end Bucket

end Throttle
