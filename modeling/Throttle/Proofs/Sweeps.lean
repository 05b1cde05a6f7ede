import Throttle.Proofs.HeldSlots

/-!
# Sweeps

A store in memory drops what is over when it is touched, and everything that is over on every 1024th
access.  So what it holds beyond the live slots is bounded: an access puts one slot in place at most,
and nothing else puts any.

`Session.history` lists the accesses of a run, each with the store that it finds, and `Access.sweeps`
tells which of them set off a sweep.  `Memory.Retains` is what the accesses so far say about a store;
one access keeps it (`Retains.access`), and so does everything else that happens to a store.

Main statement: `sweeps_bound_held_slots`.
-/

namespace Throttle

/-! ## Accesses -/

/-- A store in memory carries the call out in one piece: it asks no bucket. -/
def Call.Single : Call → Prop
  | .askBucket _ _ => False
  | _ => True

theorem Call.single_or_askBucket (call : Call) :
    call.Single ∨ ∃ bucket time, call = .askBucket bucket time := by
  cases call with
  | askBucket bucket time => exact .inr ⟨bucket, time, rfl⟩
  | get _ | set _ _ _ | incr _ _ _ | decr _ | zadd _ _ _ | zrem _ _ _ | zcount _ _ _ | expire _ _
  | recordInWindow _ _ _ _ => exact .inl trivial

theorem each_single_askBucketSteps (bucket : Bucket) (time : Int) :
    (askBucketSteps bucket time).Each Call.Single fun _ => True :=
  Plan.each_askBucketSteps (fun _ => trivial) (fun _ _ => trivial) time

/-- A call that a store in memory carries out on one slot, with the reading of the clock and the
    store that it finds. -/
structure Access where
  time : Int
  call : Call
  found : Memory

namespace Access

/-- The store that the access leaves. -/
def left (a : Access) : Memory := (Memory.answer a.time a.call a.found).2

/-- The access completes a period, so that it sets off a sweep. -/
def sweeps (a : Access) : Bool :=
  a.found.accesses % Memory.sweepPeriod == Memory.sweepPeriod - 1

/-- How many slots are live at the time of the access, after it. -/
def live (a : Access) : Nat := a.left.size a.time

end Access

/-- The last access that set off a sweep, if there was one. -/
def lastSweep? (accesses : List Access) : Option Access := accesses.reverse.find? Access.sweeps

def liveAtLastSweep (accesses : List Access) : Nat := (lastSweep? accesses).elim 0 Access.live

/-- How many accesses came after the last sweep. -/
def sinceLastSweep (accesses : List Access) : Nat :=
  (accesses.reverse.takeWhile fun a => !a.sweeps).length

theorem liveAtLastSweep_append_singleton (past : List Access) (a : Access) :
    liveAtLastSweep (past ++ [a]) = if a.sweeps then a.live else liveAtLastSweep past := by
  rw [liveAtLastSweep, lastSweep?, List.reverse_append, List.reverse_singleton,
    List.singleton_append, List.find?_cons]
  cases a.sweeps <;> rfl

theorem sinceLastSweep_append_singleton (past : List Access) (a : Access) :
    sinceLastSweep (past ++ [a]) = if a.sweeps then 0 else sinceLastSweep past + 1 := by
  rw [sinceLastSweep, List.reverse_append, List.reverse_singleton, List.singleton_append,
    List.takeWhile_cons]
  cases a.sweeps <;> rfl

namespace Memory

/-- The access of a single call.  A read is none. -/
def accessOf (now : Int) : Call → Memory → List Access
  | .get _, _ => []
  | call, m => [⟨now, call, m⟩]

/-- The accesses of a call.  Also a bucket that is asked in one step is read twice and written
    twice. -/
def accessesOf (now : Int) : Call → Memory → List Access
  | .askBucket bucket time, m => (askBucketSteps bucket time).collect (answer now) (accessOf now) m
  | call, m => accessOf now call m

theorem accessesOf_of_single {call : Call} (single : call.Single) (now : Int) (m : Memory) :
    accessesOf now call m = accessOf now call m := by
  cases call with
  | askBucket bucket time => exact single.elim
  | get _ | set _ _ _ | incr _ _ _ | decr _ | zadd _ _ _ | zrem _ _ _ | zcount _ _ _ | expire _ _
  | recordInWindow _ _ _ _ => rfl

end Memory

namespace Session

/-- The accesses of a plan, as the session carries it out. -/
def accessesOf {α : Type} (s : Session) (p : Plan α) : List Access :=
  (s.compounding.plan p).collect (Memory.answer s.now) (Memory.accessesOf s.now) s.store.inner

def accesses (s : Session) : Action → List Access
  | .evaluate key limit ticket => s.accessesOf (Limiter.evaluate s.base s.now ticket key limit)
  | .allow service endpoint ticket =>
    s.accessesOf (Limiter.allow s.base s.now ticket service endpoint)
  | .resolve service endpoint => s.accessesOf (Limiter.resolve s.base service endpoint)
  | .publish lifetime limit => s.accessesOf (Publisher.publishLimit ⟨s.base, lifetime⟩ limit)
  | .publishRules lifetime document =>
    s.accessesOf (Publisher.publish ⟨s.base, lifetime⟩ document)
  | .call c => s.accessesOf (Plan.call c)
  | .purge | .setClock _ => []

/-- The accesses of a run, in order. -/
def history (s : Session) : List Action → List Access
  | [] => []
  | action :: rest => s.accesses action ++ (s.step action).2.history rest

/-- How many accesses a call comes to: a read none; a bucket two, unless it fails; a request that is
    logged one for each call on the store in memory; every other call one. -/
def accessCount (s : Session) (call : Call) : Nat :=
  match call with
  | .get _ => 0
  | .askBucket _ _ => bif (s.perform (Plan.call call)).1.isOk then 2 else 0
  | .recordInWindow _ _ _ _ =>
    ((s.compounding.plan (Plan.call call)).calls (Memory.answer s.now) s.store.inner).length
  | _ => 1

end Session

/-! ## One access -/

namespace Memory

theorem size_putSlot_le (m : Memory) (key : String) (s : Slot) :
    (m.putSlot key s).slots.size ≤ m.slots.size + 1 := by
  have inserted := m.slots.size_insert key s
  have erased := Table.size_filter_le (fun k _ => k != key) m.slots
  unfold putSlot
  dsimp only
  split
  · exact Nat.le_succ_of_le erased
  · split at inserted <;> omega

theorem accesses_tick (now : Int) (m : Memory) : (m.tick now).accesses = m.accesses + 1 := by
  unfold tick
  split <;> rfl

/-- After a purge, what is held is what is live. -/
theorem size_purge (now : Int) (m : Memory) :
    (m.purge now).2.size now = (m.purge now).2.slots.size := by
  simp [size, purge, Table.count, Table.filter, Table.size, List.filter_filter]

theorem accesses_readScalar (now : Int) (key : String) (m : Memory) :
    (m.readScalar now key).2.accesses = m.accesses := by
  unfold readScalar
  split
  · rfl
  · split
    · rfl
    · split <;> rfl

/-- A read puts nothing in place. -/
theorem size_readScalar_le (now : Int) (key : String) (m : Memory) :
    (m.readScalar now key).2.slots.size ≤ m.slots.size := by
  unfold readScalar
  split
  · exact Nat.le_refl _
  · split
    · exact Table.size_filter_le _ _
    · split <;> exact Nat.le_refl _

end Memory

namespace Access

variable {a : Access}

/-- The access puts a slot back and counts. -/
def Places (a : Access) : Prop :=
  ∃ key slot, a.left = (a.found.putSlot key slot).tick a.time

theorem sweeps_iff : a.sweeps = true ↔ a.found.accesses % 1024 = 1023 := beq_iff_eq

theorem Places.accesses_left (places : a.Places) : a.left.accesses = a.found.accesses + 1 := by
  obtain ⟨key, slot, left⟩ := places
  rw [left, Memory.accesses_tick]
  rfl

theorem Places.exists_left_eq_purge (places : a.Places) (sweeps : a.sweeps = true) :
    ∃ m : Memory, a.left = (m.purge a.time).2 := by
  obtain ⟨key, slot, left⟩ := places
  refine ⟨_, left.trans (if_pos ?_)⟩
  exact sweeps_iff.mp sweeps

theorem Places.size_left_le (places : a.Places) (resting : a.sweeps = false) :
    a.left.slots.size ≤ a.found.slots.size + 1 := by
  obtain ⟨key, slot, left⟩ := places
  have counted : (a.found.putSlot key slot).tick a.time = _ := if_neg fun completes =>
    Bool.eq_false_iff.mp resting (sweeps_iff.mpr completes)
  rw [left, counted]
  exact Memory.size_putSlot_le _ _ _

end Access

/-! ## What a store retains -/

namespace Memory

/-- What the accesses to a store in memory, all since it was empty, say about it. -/
structure Retains (past : List Access) (m : Memory) : Prop where
  accesses : m.accesses = past.length
  since : sinceLastSweep past = past.length % 1024
  size : m.slots.size ≤ liveAtLastSweep past + sinceLastSweep past
  numbered : ∀ i (a : Access), past[i]? = some a → a.found.accesses = i
  swept : ∀ a ∈ past, a.sweeps = true →
    ∀ key slot, a.left.slots.get? key = some slot → slot.expired a.time = false

namespace Retains

variable {past : List Access} {m m' : Memory} {call : Call}

theorem empty : Retains [] empty where
  accesses := rfl
  since := rfl
  size := Nat.le_refl 0
  numbered _ _ absent := nomatch absent
  swept _ member := nomatch member

/-- Whatever is no access and puts nothing in place does not matter. -/
theorem shrink (retains : Retains past m) (uncounted : m'.accesses = m.accesses)
    (shrunk : m'.slots.size ≤ m.slots.size) : Retains past m' where
  accesses := uncounted.trans retains.accesses
  since := retains.since
  size := Nat.le_trans shrunk retains.size
  numbered := retains.numbered
  swept := retains.swept

theorem purge (retains : Retains past m) (now : Int) : Retains past (m.purge now).2 :=
  retains.shrink rfl (Table.size_filter_le _ _)

theorem access {a : Access} (retains : Retains past a.found) (places : a.Places) :
    Retains (past ++ [a]) a.left where
  accesses := by
    rw [places.accesses_left, retains.accesses, List.length_append, List.length_singleton]
  since := by
    have number : a.sweeps = true ↔ past.length % 1024 = 1023 := by
      rw [Access.sweeps_iff, retains.accesses]
    have since := retains.since
    rw [sinceLastSweep_append_singleton, List.length_append, List.length_singleton]
    by_cases completes : past.length % 1024 = 1023
    · rw [if_pos (number.mpr completes)]
      omega
    · rw [if_neg (mt number.mp completes)]
      omega
  size := by
    rw [liveAtLastSweep_append_singleton, sinceLastSweep_append_singleton]
    cases sweeps : a.sweeps with
    | true =>
      -- A sweep leaves what is live, and that is the bound from here on.
      obtain ⟨m', left⟩ := places.exists_left_eq_purge sweeps
      have live : a.live = a.left.slots.size := by
        rw [Access.live, left]
        exact size_purge a.time m'
      simp only [if_true]
      omega
    | false =>
      have before := retains.size
      have after := places.size_left_le sweeps
      simp only [Bool.false_eq_true, if_false]
      omega
  numbered := by
    intro i b found
    rw [List.getElem?_append] at found
    split at found
    · exact retains.numbered i b found
    · rename_i late
      rw [List.getElem?_singleton] at found
      split at found
      · rename_i at_end
        obtain rfl := Option.some.inj found
        rw [retains.accesses]
        omega
      · cases found
  swept := by
    intro b member sweeps key slot held
    rcases List.mem_append.mp member with earlier | last
    · exact retains.swept b earlier sweeps key slot held
    · obtain rfl := List.mem_singleton.mp last
      obtain ⟨m', left⟩ := places.exists_left_eq_purge sweeps
      rw [left] at held
      have alive := live_of_get?_purge held
      simp only [Slot.live, Bool.and_eq_true, Bool.not_eq_true'] at alive
      exact alive.2

/-- A call that a store carries out in one piece is at most one access. -/
theorem single (retains : Retains past m) (now : Int) (single : call.Single) :
    Retains (past ++ accessOf now call m) (answer now call m).2 := by
  cases call with
  | get key =>
    rw [accessOf, List.append_nil]
    exact retains.shrink (accesses_readScalar now key m) (size_readScalar_le now key m)
  | askBucket bucket time => exact single.elim
  | set _ _ _ | incr _ _ _ | decr _ | zadd _ _ _ | zrem _ _ _ | zcount _ _ _ | expire _ _
  | recordInWindow _ _ _ _ => exact retains.access (a := ⟨now, _, m⟩) ⟨_, _, rfl⟩

theorem answer (retains : Retains past m) (now : Int) (call : Call) :
    Retains (past ++ accessesOf now call m) (answer now call m).2 := by
  rcases call.single_or_askBucket with single | ⟨bucket, time, rfl⟩
  · rw [accessesOf_of_single single]
    exact retains.single now single
  · have asked : ((askBucketSteps bucket time).run (Memory.answer now) m).2.Retains
        (past ++ (askBucketSteps bucket time).collect (Memory.answer now) (accessOf now) m) :=
      (each_single_askBucketSteps bucket time).collect
        (fun _ _ _ single retains => retains.single now single) retains
    rw [run_askBucketSteps] at asked
    exact asked

end Retains

end Memory

/-! ## How many accesses a call comes to -/

theorem Compounding.collect_plan_call {γ σ : Type} (c : Compounding) (call : Call) (store : Store σ)
    (f : Call → σ → List γ) (s : σ) :
    (c.plan (Plan.call call)).collect store f s =
      match c with
      | .whole => f call s
      | .inSteps => call.steps.collect store f s := by
  cases c with
  | whole => exact Plan.collect_call store f call s
  | inSteps =>
    refine (Plan.collect_bind store f call.steps .done s).trans ?_
    rcases call.steps.run store s with ⟨_ | answer, after⟩ <;> exact List.append_nil _

namespace Memory

/-- Reading a part of a bucket is no access. -/
theorem collect_readState {β : Type} (now : Int) (key : String) (next : Option Int → Plan β)
    (m : Memory) :
    ((Plan.call (.get key)).bind fun raw =>
      (Plan.ofExcept (readState key raw)).bind next).collect (answer now) (accessOf now) m =
        match m.readInteger now key with
        | (.ok n, m) => (next n).collect (answer now) (accessOf now) m
        | (.error _, _) => [] := by
  have asked : (Plan.call (.get key)).run (answer now) m = m.readScalar now key :=
    Plan.run_call _ _ _
  rw [Plan.collect_bind, Plan.collect_call, asked, readInteger]
  rcases m.readScalar now key with ⟨_ | raw, m₁⟩
  · rfl
  · dsimp only
    cases readState key raw <;> rfl

theorem length_collect_askBucketSteps (now : Int) (bucket : Bucket) (time : Int) (m : Memory) :
    ((askBucketSteps bucket time).collect (answer now) (accessOf now) m).length =
      bif (m.askBucket now bucket time).1.isOk then 2 else 0 := by
  refine (congrArg List.length (collect_readState now bucket.contentKey _ m)).trans ?_
  unfold askBucket
  -- A failed read ends the plan before anything is written.
  rcases m.readInteger now bucket.contentKey with ⟨_ | held, m₁⟩
  · rfl
  · refine (congrArg List.length (collect_readState now bucket.stampKey _ m₁)).trans ?_
    dsimp only
    rcases m₁.readInteger now bucket.stampKey with ⟨_ | held', m₂⟩ <;> rfl

end Memory

/-! ## Runs -/

namespace Session

variable {s : Session} {past : List Access}

theorem retains_step (healthy : s.Healthy) (retains : s.store.inner.Retains past)
    (action : Action) : (s.step action).2.store.inner.Retains (past ++ s.accesses action) := by
  have performed {α : Type} (p : Plan α) :
      (s.perform p).2.store.inner.Retains (past ++ s.accessesOf p) := by
    rw [inner_perform healthy]
    exact (s.compounding.plan p).each_true.collect
      (fun call _ _ _ retains => retains.answer s.now call) retains
  cases action with
  | purge =>
    rw [accesses, List.append_nil]
    exact retains.purge s.now
  | setClock reading =>
    rw [accesses, List.append_nil]
    exact retains
  | evaluate _ _ _ | allow _ _ _ | resolve _ _ | publish _ _ | publishRules _ _ | call _ =>
    exact performed _

theorem retains_after : ∀ {run : List Action} {s : Session} {past : List Access}, s.Healthy →
    s.store.inner.Retains past → (s.after run).store.inner.Retains (past ++ s.history run)
  | [], s, past, _, retains => by
    rw [history, List.append_nil]
    exact retains
  | action :: rest, s, past, healthy, retains => by
    rw [history, ← List.append_assoc]
    exact retains_after (healthy_step healthy action) (retains_step healthy retains action)

theorem run_call_askBucket (s : Session) (bucket : Bucket) (time : Int) :
    s.run (Plan.call (.askBucket bucket time)) = s.store.inner.askBucket s.now bucket time := by
  rw [run, Compounding.run_plan_call]
  cases s.compounding with
  | whole => rfl
  | inSteps => exact Memory.run_askBucketSteps _ _ _ _

theorem length_accesses_call (healthy : s.Healthy) (call : Call) :
    (s.accesses (.call call)).length = s.accessCount call := by
  rw [accesses, accessesOf, Compounding.collect_plan_call]
  cases call with
  | askBucket bucket time =>
    have same : ((askBucketSteps bucket time).collect (Memory.answer s.now)
        (Memory.accessesOf s.now) s.store.inner).length = _ :=
      (each_single_askBucketSteps bucket time).length_collect
        (fun _ m single => congrArg _ (Memory.accessesOf_of_single single s.now m)) _
    have counted := Memory.length_collect_askBucketSteps s.now bucket time s.store.inner
    rw [accessCount, perform_fst healthy, run_call_askBucket]
    cases s.compounding with
    | whole => exact counted
    | inSteps => exact same.trans counted
  | recordInWindow key time window member =>
    rw [accessCount, Plan.calls, Compounding.collect_plan_call]
    cases s.compounding with
    | whole => rfl
    | inSteps =>
      -- None of the four calls is a read, so each of them is one access.
      have steps : (recordSteps key time window member).Each
          (fun call => ∀ m, (Memory.accessesOf s.now call m).length = 1) fun _ => True :=
        Plan.each_recordSteps (fun _ => rfl) (fun _ => rfl) (fun _ => rfl) (fun _ => rfl)
      exact steps.length_collect (f := Memory.accessesOf s.now) (g := fun call _ => [call])
        (fun _ m one => one m) s.store.inner
  | get _ | set _ _ _ | incr _ _ _ | decr _ | zadd _ _ _ | zrem _ _ _ | zcount _ _ _
  | expire _ _ =>
    cases s.compounding with
    | whole => rfl
    | inSteps => exact congrArg List.length (Plan.collect_call _ _ _ _)

end Session

/-- **Sweeps bound what a store holds.**  After any calls, requests, publications and purges, under a
    clock that is moved forward and back, a store in memory holds no more slots than were live at the
    last sweep and accesses have come since, fewer than 1024.  It counts every access, every 1024th
    sets off a sweep and no other does, and right after a sweep nothing is held that is over at its
    time.  The last part says how many accesses the next call comes to. -/
theorem sweeps_bound_held_slots (publisher : Publisher) (compounding : Compounding) (now : Int)
    (run : List Action) :
    let start := Session.start publisher compounding now
    let s := start.after run
    let accesses := start.history run
    s.store.inner.slots.size ≤ liveAtLastSweep accesses + sinceLastSweep accesses ∧
      sinceLastSweep accesses < 1024 ∧
      s.store.inner.accesses = accesses.length ∧
      (∀ i access, accesses[i]? = some access → (access.sweeps = true ↔ 1024 ∣ i + 1)) ∧
      (∀ access ∈ accesses, access.sweeps = true →
        ∀ key slot, access.left.slots.get? key = some slot → slot.expired access.time = false) ∧
      ∀ call, (s.accesses (.call call)).length = s.accessCount call := by
  intro start s accesses
  have retains : s.store.inner.Retains accesses :=
    Session.retains_after (s := start) rfl .empty
  refine ⟨retains.size, ?_, retains.accesses, ?_, retains.swept, ?_⟩
  · rw [retains.since]
    exact Nat.mod_lt _ (by decide)
  · intro i access found
    rw [Access.sweeps_iff, retains.numbered i access found]
    omega
  · exact Session.length_accesses_call (Session.healthy_after (s := start) rfl run)

/-- A slot that is over stays in place until an access completes a period. -/
example :
    let lapsed : Slot := ⟨some (.scalar "x"), some 5⟩
    let touch (m : Memory) := (Memory.answer 9 (.zcount "none" 0 0) m).2
    let m : Memory := ⟨Table.empty.insert "old" lapsed, 1022⟩
    (touch m).slots.size = 1 ∧ (touch (touch m)).slots.size = 0 := by
  decide

end Throttle
