import Throttle.Store.Call

/-!
# Stores that work by effects

A `Service` answers calls by effects of some monad, such as reading a clock.  `Plan.serve` carries
out a plan on a service, and a store with states is the service that changes its state
(`serve_service`).
-/

namespace Throttle

abbrev Service (m : Type → Type) : Type := (call : Call) → m (Except LimiterError call.Answer)

/-- Carries out a plan on a service.  A call that fails ends the plan with its error. -/
def Plan.serve {m : Type → Type} [Monad m] {α : Type} (service : Service m) :
    Plan α → m (Except LimiterError α)
  | done value => pure (.ok value)
  | fail error => pure (.error error)
  | ask call next => do
    match ← service call with
    | .ok answer => (next answer).serve service
    | .error error => return .error error

variable {σ : Type}

def Store.service (store : Store σ) : Service (StateM σ) := fun call => store call

/-- To serve a plan is to run it on the store. -/
theorem Plan.serve_service {α : Type} (store : Store σ) (p : Plan α) (s : σ) :
    (p.serve store.service).run s = p.run store s := by
  induction p generalizing s with
  | done value => rfl
  | fail error => rfl
  | ask call next ih =>
    have step : (store.service call).run s = store call s := rfl
    simp only [serve, run, StateT.run_bind, step]
    rcases store call s with ⟨_ | answer, after⟩
    · rfl
    · exact ih answer after

end Throttle
