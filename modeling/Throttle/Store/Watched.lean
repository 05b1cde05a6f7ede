import Throttle.Store.Call

/-!
# Watched stores

`Store.watched` puts a list of faults and a log in front of a store.  Every call is logged.  A call
that a fault stops fails with the fault's error and does not reach the store; all others are
answered by the store.

Main statement: without faults a watched store answers as the store behind it (`watched_ok`).
-/

namespace Throttle

/-- Makes calls fail. -/
structure Fault where
  /-- The name of the calls it stops, or none for calls of any name. -/
  target : Option String
  /-- How many matching calls it still lets through. -/
  skips : Nat
  /-- How many matching calls it still stops after these; none for all of them. -/
  times : Option Nat
  error : LimiterError
  deriving DecidableEq, Repr

namespace Fault

/-- The fault is for this call, and it has not stopped as many calls as it may. -/
def concerns (f : Fault) (call : Call) : Bool :=
  f.times != some 0 && f.target.all fun name => name == call.name

/-- The fault with one let-through, or else one stop, used up. -/
def spend (f : Fault) : Fault :=
  if 0 < f.skips then { f with skips := f.skips - 1 }
  else { f with times := f.times.map (· - 1) }

/-- Shows a call to the faults in their order.  A fault that lets the call through passes it on to
    the next one, and the first that stops it decides the error. -/
def stop (call : Call) : List Fault → Option LimiterError × List Fault
  | [] => (none, [])
  | f :: rest =>
    if f.concerns call then
      if 0 < f.skips then
        let (stopped, after) := stop call rest
        (stopped, f.spend :: after)
      else (some f.error, f.spend :: rest)
    else
      let (stopped, after) := stop call rest
      (stopped, f :: after)

end Fault

/-- The state of a store behind a log and faults. -/
structure Watched (σ : Type) where
  faults : List Fault
  /-- The calls so far, last one first. -/
  log : List Call
  inner : σ

namespace Watched

variable {σ : Type}

def start (inner : σ) : Watched σ := ⟨[], [], inner⟩

def calls (w : Watched σ) : List Call := w.log.reverse

/-- Forgets the calls so far. -/
def clearLog (w : Watched σ) : Watched σ := { w with log := [] }

end Watched

variable {σ : Type}

def Store.watched (store : Store σ) : Store (Watched σ) := fun call w =>
  match Fault.stop call w.faults with
  | (some error, faults) => (.error error, ⟨faults, call :: w.log, w.inner⟩)
  | (none, faults) =>
    let (answer, inner) := store call w.inner
    (answer, ⟨faults, call :: w.log, inner⟩)

theorem Store.watched_ok (store : Store σ) (call : Call) (log : List Call) (inner : σ) :
    store.watched call ⟨[], log, inner⟩ =
      ((store call inner).1, ⟨[], call :: log, (store call inner).2⟩) := rfl

end Throttle
