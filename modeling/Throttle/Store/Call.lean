import Throttle.Bucket
import Throttle.Error

/-!
# Calls on a store

All counting state lives in a store that limiters share.  `Call` lists what can be asked of a
store and `Call.Answer` says what each call answers with, so that a store is a function from calls
to answers and a limiter is a `Plan`: a tree of calls, each followed by what to do with its answer.

One plan can thus be run on any store, be recorded call by call, or be given faults.
-/

namespace Throttle

inductive Call
  /-- Reads a scalar. -/
  | get (key : String)
  /-- Writes a scalar in place of the value and the lifetime that were there. -/
  | set (key value : String) (lifetime : Option Duration)
  /-- Adds to an integer, which counts as zero where it is missing.  The lifetime is for a key that
      this call creates. -/
  | incr (key : String) (delta : Int) (lifetime : Option Duration)
  /-- Subtracts one from an integer. -/
  | decr (key : String)
  /-- Puts a member into a sorted set, or gives it another score. -/
  | zadd (key : String) (score : Int) (member : String)
  /-- Removes the members with scores from `min` to `max`, and answers how many they were. -/
  | zrem (key : String) (min max : Int)
  /-- Counts the members with scores from `min` to `max`. -/
  | zcount (key : String) (min max : Int)
  /-- Gives an existing key another lifetime. -/
  | expire (key : String) (lifetime : Duration)
  /-- Logs a request at `now`, drops what is older than the window, renews the lifetime and answers
      how many requests the log holds then. -/
  | recordInWindow (key : String) (now : Int) (window : Duration) (member : String)
  /-- Settles a bucket at `now` and asks it for one request. -/
  | askBucket (bucket : Bucket) (now : Int)
  deriving DecidableEq, Repr

abbrev Call.Answer : Call → Type
  | get _ => Option String
  | set _ _ _ => Unit
  | incr _ _ _ => Int
  | decr _ => Int
  | zadd _ _ _ => Unit
  | zrem _ _ _ => Nat
  | zcount _ _ _ => Nat
  | expire _ _ => Unit
  | recordInWindow _ _ _ _ => Nat
  | askBucket _ _ => BucketOutcome

def Call.name : Call → String
  | get _ => "get"
  | set _ _ _ => "set"
  | incr _ _ _ => "incr"
  | decr _ => "decr"
  | zadd _ _ _ => "zadd"
  | zrem _ _ _ => "zrem_range_by_score"
  | zcount _ _ _ => "zcount"
  | expire _ _ => "expire"
  | recordInWindow _ _ _ _ => "record_in_window"
  | askBucket _ _ => "admit_to_bucket"

/-- What a store with states `σ` does with a call: the answer or the error, and the state after
    it. -/
abbrev Store (σ : Type) : Type := (call : Call) → σ → Except LimiterError call.Answer × σ

/-- Work on a store, one call after the other. -/
inductive Plan (α : Type) : Type
  | done (value : α)
  | fail (error : LimiterError)
  | ask (call : Call) (next : call.Answer → Plan α)

namespace Plan

variable {α β σ : Type}

/-- Carries on with a plan that depends on the result of another. -/
def bind : Plan α → (α → Plan β) → Plan β
  | done value, f => f value
  | fail error, _ => fail error
  | ask call next, f => ask call fun answer => (next answer).bind f

instance : Monad Plan where
  pure := done
  bind := bind

def call (c : Call) : Plan c.Answer := ask c done

def ofExcept : Except LimiterError α → Plan α
  | .ok value => done value
  | .error error => fail error

/-- Runs a plan on a store.  A call that fails ends the plan with its error. -/
def run (store : Store σ) : Plan α → σ → Except LimiterError α × σ
  | done value, s => (.ok value, s)
  | fail error, s => (.error error, s)
  | ask call next, s =>
    match store call s with
    | (.ok answer, s) => (next answer).run store s
    | (.error error, s) => (.error error, s)

/-- The plan in which every call is replaced by a plan for it. -/
def expand (replacement : (call : Call) → Plan call.Answer) : Plan α → Plan α
  | done value => done value
  | fail error => fail error
  | ask call next => (replacement call).bind fun answer => (next answer).expand replacement

@[simp] theorem pure_eq (value : α) : (pure value : Plan α) = done value := rfl

@[simp] theorem bind_eq (p : Plan α) (f : α → Plan β) : p >>= f = p.bind f := rfl

/-- Running a plan and then its continuation is running both in one. -/
theorem run_bind (store : Store σ) (p : Plan α) (f : α → Plan β) (s : σ) :
    (p.bind f).run store s =
      match p.run store s with
      | (.ok value, s) => (f value).run store s
      | (.error error, s) => (.error error, s) := by
  induction p generalizing s with
  | done value => rfl
  | fail error => rfl
  | ask call next ih =>
    simp only [bind, run]
    rcases store call s with ⟨_ | answer, after⟩
    · rfl
    · exact ih answer after

end Plan

end Throttle
