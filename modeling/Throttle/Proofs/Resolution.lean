import Throttle.Proofs.Admission

/-!
# Records of limits

What a limiter reads of the published limits, and what publishing writes.  A limiter reads two
records at most, and reading leaves every key alone (`exists_run_resolve`), so that a request to an
endpoint is a request for its key against the limit that the two records come to
(`exists_run_allow`).  Publishing writes one record or none (`run_publishLimit`).
-/

namespace Throttle

/-- The limit that the record in a slot stands for, if there is one. -/
def Slot.published (key : String) (s : Slot) : Except LimiterError (Option Limit) :=
  match s.readText key with
  | .error error => .error error
  | .ok none => .ok none
  | .ok (some text) => (Record.decodeLimit text).map some

namespace Session

def holding (s : Session) (m : Memory) : Session := { s with store := { s.store with inner := m } }

variable {s : Session} {α β : Type}

theorem run_bind (s : Session) (p : Plan α) (f : α → Plan β) :
    s.run (p.bind f) =
      match s.run p with
      | (.ok value, m) => (s.holding m).run (f value)
      | (.error error, m) => (.error error, m) := by
  unfold run
  rw [Compounding.plan_bind, Plan.run_bind]
  rcases (s.compounding.plan p).run (Memory.answer s.now) s.store.inner with ⟨_ | value, m⟩ <;> rfl

theorem run_done (s : Session) (value : α) : s.run (.done value) = (.ok value, s.store.inner) := by
  unfold run
  rw [Compounding.plan_done]
  rfl

theorem run_ofExcept (s : Session) (result : Except LimiterError α) :
    s.run (Plan.ofExcept result) = (result, s.store.inner) := by
  unfold run
  rw [Compounding.plan_ofExcept]
  exact Plan.run_ofExcept _ _ _

theorem run_get (s : Session) (key : String) :
    s.run (Plan.call (.get key)) = s.store.inner.readScalar s.now key := by
  unfold run
  rw [Compounding.run_plan_call]
  cases s.compounding with
  | whole => rfl
  | inSteps => exact Plan.run_call _ _ _

theorem run_set (s : Session) (key text : String) (lifetime : Option Duration) :
    s.run (Plan.call (.set key text lifetime)) =
      (.ok (), s.store.inner.writeScalar s.now key text lifetime) := by
  unfold run
  rw [Compounding.run_plan_call]
  cases s.compounding with
  | whole => rfl
  | inSteps => exact Plan.run_call _ _ _

/-! ## Reading -/

/-- A run left every key of the store alone. -/
def Unchanged (s : Session) (m : Memory) : Prop :=
  ∀ storeKey, Memory.Keeps s.now storeKey s.store.inner m

theorem Unchanged.slot_eq {m : Memory} (unchanged : s.Unchanged m) (storeKey : String) :
    (s.holding m).slot storeKey = s.slot storeKey :=
  (unchanged storeKey).liveSlot (Int.le_refl s.now)

theorem Unchanged.trans {m m' : Memory} (first : s.Unchanged m)
    (second : (s.holding m).Unchanged m') : s.Unchanged m' :=
  fun storeKey => (first storeKey).trans (second storeKey)

def published (s : Session) (key : LimitKey) : Except LimiterError (Option Limit) :=
  (s.slot (key.configKey s.base)).published (key.configKey s.base)

theorem exists_run_lookUp (s : Session) (key : LimitKey) :
    ∃ m, s.Unchanged m ∧ s.run (Limiter.lookUp s.base key) = (s.published key, m) := by
  have unchanged : s.Unchanged _ := Memory.keeps_readScalar s.now s.store.inner (key.configKey s.base)
  have read := Memory.readScalar_fst s.now s.store.inner (key.configKey s.base)
  refine ⟨_, unchanged, ?_⟩
  unfold published Slot.published slot Limiter.lookUp
  rw [← read, Plan.bind_eq, run_bind, run_get]
  rcases s.store.inner.readScalar s.now (key.configKey s.base) with ⟨_ | _ | text, m⟩
  · rfl
  · exact run_done (s.holding m) none
  · dsimp only
    rw [Plan.bind_eq, run_bind, run_ofExcept]
    cases Record.decodeLimit text with
    | error error => rfl
    | ok limit => exact run_done (s.holding m) (some limit)

/-- The limit for an endpoint: its own, or else the default of its service. -/
def resolution (s : Session) (service endpoint : String) : Except LimiterError (Option Limit) :=
  match s.published (.ofEndpoint service endpoint) with
  | .ok none => s.published (.serviceDefault service)
  | found => found

theorem exists_run_resolve (s : Session) (service endpoint : String) :
    ∃ m, s.Unchanged m ∧
      s.run (Limiter.resolve s.base service endpoint) = (s.resolution service endpoint, m) := by
  obtain ⟨m, unchanged, ran⟩ := exists_run_lookUp s (.ofEndpoint service endpoint)
  unfold Limiter.resolve resolution
  rw [Plan.bind_eq, run_bind, ran]
  cases s.published (.ofEndpoint service endpoint) with
  | error error => exact ⟨m, unchanged, rfl⟩
  | ok found =>
    cases found with
    | some limit => exact ⟨m, unchanged, run_done (s.holding m) (some limit)⟩
    | none =>
      -- The first read has left the store as it was, so the second finds the default.
      obtain ⟨m', unchanged', ran'⟩ := exists_run_lookUp (s.holding m) (.serviceDefault service)
      refine ⟨m', unchanged.trans unchanged', ran'.trans ?_⟩
      unfold published
      rw [unchanged.slot_eq]
      rfl

/-- A request to an endpoint counts for the endpoint's key, against the limit that is resolved. -/
theorem exists_run_allow (s : Session) (ticket service endpoint : String) :
    ∃ m, s.Unchanged m ∧ s.run (Limiter.allow s.base s.now ticket service endpoint) =
      match s.resolution service endpoint with
      | .error error => (.error error, m)
      | .ok none => (.ok true, m)
      | .ok (some limit) => (s.holding m).run
        (Limiter.evaluate s.base s.now ticket (.ofEndpoint service endpoint) limit) := by
  obtain ⟨m, unchanged, ran⟩ := exists_run_resolve s service endpoint
  refine ⟨m, unchanged, ?_⟩
  unfold Limiter.allow
  rw [Plan.bind_eq, run_bind, ran]
  rcases s.resolution service endpoint with _ | _ | limit
  · rfl
  · exact run_done (s.holding m) true
  · rfl

/-! ## Publishing -/

theorem run_publishLimit (s : Session) (lifetime : Option Duration) (limit : Limit) :
    s.run (Publisher.publishLimit ⟨s.base, lifetime⟩ limit) =
      match limit.check with
      | .error error => (.error error, s.store.inner)
      | .ok () => (.ok (), s.store.inner.writeScalar s.now (limit.key.configKey s.base)
        (Record.ofLimit limit).write lifetime) := by
  unfold Publisher.publishLimit
  rw [Plan.bind_eq, run_bind, run_ofExcept]
  cases limit.check with
  | error error => rfl
  | ok _ => exact run_set (s.holding s.store.inner) _ _ _

/-! ## Replies -/

theorem reply_resolve (healthy : s.Healthy) (service endpoint : String) :
    (s.step (.resolve service endpoint)).1 = .resolved (s.resolution service endpoint) := by
  have outcome : (s.perform (Limiter.resolve s.base service endpoint)).1 =
      s.resolution service endpoint := by
    obtain ⟨m, -, ran⟩ := exists_run_resolve s service endpoint
    rw [perform_fst healthy, ran]
  exact congrArg Reply.resolved outcome

theorem reply_publish (healthy : s.Healthy) (lifetime : Option Duration) (limit : Limit) :
    (s.step (.publish lifetime limit)).1 = .published limit.check := by
  have outcome : (s.perform (Publisher.publishLimit ⟨s.base, lifetime⟩ limit)).1 = limit.check := by
    rw [perform_fst healthy, run_publishLimit]
    cases limit.check <;> rfl
  exact congrArg Reply.published outcome

end Session

end Throttle
