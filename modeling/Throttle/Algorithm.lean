/-!
# Algorithms

The four ways of counting requests, and the names under which documents and records refer to them.
-/

namespace Throttle

/-- A way of deciding whether one more request is admitted. -/
inductive Algorithm
  /-- Counts requests in windows that start with a first request. -/
  | fixedWindow
  /-- Counts requests in the window that ends now. -/
  | slidingWindow
  /-- Takes a token per request from a bucket that refills. -/
  | tokenBucket
  /-- Pours a unit per request into a bucket that drains. -/
  | leakyBucket
  deriving DecidableEq, Repr

namespace Algorithm

/-- The four algorithms, in the order in which a document's schema lists them. -/
def all : List Algorithm := [fixedWindow, slidingWindow, tokenBucket, leakyBucket]

def name : Algorithm → String
  | fixedWindow => "fixed_window"
  | slidingWindow => "sliding_window"
  | tokenBucket => "token_bucket"
  | leakyBucket => "leaky_bucket"

/-- The algorithm of a name, spelled exactly. -/
def ofName? (name : String) : Option Algorithm := all.find? fun a => a.name == name

theorem ofName?_name (a : Algorithm) : ofName? a.name = some a := by cases a <;> decide

end Algorithm

end Throttle
