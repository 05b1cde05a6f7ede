import Throttle.Limiter
import Throttle.Rules.Basic
import Throttle.Store.Memory
import Throttle.Store.Watched

/-!
# Sessions

A session is a limiter and a publisher on one watched store in memory, with a clock that is moved
by hand.  It shows everything that a caller of the limiter can observe: answers, errors, the calls
on the store and the number of live keys.
-/

namespace Throttle

/-- How a store does its compound calls. -/
inductive Compounding
  /-- Each in one step. -/
  | whole
  /-- Each as a plan of single calls. -/
  | inSteps
  deriving DecidableEq, Repr

/-- A plan as a store carries it out. -/
def Compounding.plan {α : Type} : Compounding → Plan α → Plan α
  | whole, p => p
  | inSteps, p => p.inSteps

/-- A limiter and a publisher on a store in memory. -/
structure Session where
  publisher : Publisher
  compounding : Compounding
  now : Int
  store : Watched Memory

namespace Session

def start (publisher : Publisher) (compounding : Compounding) (now : Int) : Session :=
  ⟨publisher, compounding, now, .start .empty⟩

/-- What the store keys of the session start with. -/
def base (s : Session) : String := s.publisher.base

def size (s : Session) : Nat := s.store.inner.size s.now

def perform {α : Type} (p : Plan α) (s : Session) : Except LimiterError α × Session :=
  let (result, store) := (s.compounding.plan p).run (Memory.answer s.now).watched s.store
  (result, { s with store := store })

/-- Drops what is not live, and answers how many keys were dropped. -/
def purge (s : Session) : Nat × Session :=
  let (removed, memory) := s.store.inner.purge s.now
  (removed, { s with store := { s.store with inner := memory } })

def setClock (now : Int) (s : Session) : Session := { s with now := now }

/-- Moves the clock forward.  Its reading stays a word. -/
def advance (span : Duration) (s : Session) : Session :=
  s.setClock (Word.wrap (s.now + span.wrappedMillis))

def addFault (f : Fault) (s : Session) : Session :=
  { s with store := { s.store with faults := s.store.faults ++ [f] } }

def heal (s : Session) : Session := { s with store := { s.store with faults := [] } }

/-- The calls on the store that are still in the log, and the session with an empty log. -/
def takeCalls (s : Session) : List Call × Session :=
  (s.store.calls, { s with store := s.store.clearLog })

end Session

end Throttle
