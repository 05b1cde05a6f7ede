import Throttle.Redis.Address
import Throttle.Settings.Basic
import Throttle.Store.Service

/-!
# Connecting to a store

Settings choose between a store in the process and a server.  A server has to be named by an address
and has to answer in time; the address is not looked at where the store is in the process.
-/

namespace Throttle

/-- The stores that can be had. -/
structure Stores (m : Type → Type) where
  /-- The store in the process. -/
  memory : Service m
  /-- Calls a server, and gives up when it is not there in time. -/
  dial : StoreSettings → Redis.Address → m (Option (Service m))

def Stores.connect {m : Type → Type} [Monad m] (stores : Stores m) (settings : StoreSettings) :
    m (Except LimiterError (Service m)) :=
  match settings.backend with
  | .memory => return .ok stores.memory
  | .redis =>
    match Redis.Address.ofText? settings.url with
    | none => return .error .badAddress
    | some address => do
      match ← stores.dial settings address with
      | some service => return .ok service
      | none => return .error (.timedOut "Connection")

end Throttle
