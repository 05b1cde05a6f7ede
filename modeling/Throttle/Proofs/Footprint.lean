import Throttle.Limiter
import Throttle.Proofs.LiveSlot
import Throttle.Rules.Basic

/-!
# Footprints

`Plan.Spares key` says that no call of a plan may change what `key` holds.  It is read off the plan
alone, and `Plan.run_keeps` turns it into a fact about every state of a store: the run leaves the key
alone, whatever sweeps its accesses set off.

The last section gives the footprints of a limiter and of a publisher.  A limiter reads records and
changes the state of one pair; a publisher changes records only.
-/

namespace Throttle

/-- The keys that a call may change. -/
def Call.writes : Call → List String
  | .get _ => []
  | .set key _ _ => [key]
  | .incr key _ _ => [key]
  | .decr key => [key]
  | .zadd key _ _ => [key]
  | .zrem key _ _ => [key]
  | .zcount key _ _ => [key]
  | .expire key _ => [key]
  | .recordInWindow key _ _ _ => [key]
  | .askBucket bucket _ => [bucket.contentKey, bucket.stampKey]

namespace Memory

variable {now : Int} {key : String} {m : Memory}

theorem keeps_readInteger (now : Int) (m : Memory) (key other : String) :
    Keeps now other m (m.readInteger now key).2 := by
  have kept := keeps_readScalar now m key other
  unfold readInteger
  split
  · rename_i read
    rw [read] at kept
    exact kept
  · rename_i read
    rw [read] at kept
    exact kept

theorem keeps_askBucket (clock : Int) (bucket : Bucket) (time : Int) (m : Memory)
    (notContent : key ≠ bucket.contentKey) (notStamp : key ≠ bucket.stampKey) :
    Keeps clock key m (m.askBucket clock bucket time).2 := by
  have first := keeps_readInteger clock m bucket.contentKey key
  unfold askBucket
  split
  · rename_i read
    rw [read] at first
    exact first
  · rename_i content m₁ read
    rw [read] at first
    have second := keeps_readInteger clock m₁ bucket.stampKey key
    split
    · rename_i read'
      rw [read'] at second
      exact first.trans second
    · rename_i stamp m₂ read'
      rw [read'] at second
      -- After two reads come two writes, to the two keys of the bucket.
      exact ((first.trans second).trans (keeps_writeScalar _ _ notContent)).trans
        (keeps_writeScalar _ _ notStamp)

theorem answer_keeps (now : Int) (call : Call) (m : Memory) (untouched : key ∉ call.writes) :
    Keeps now key m (answer now call m).2 := by
  cases call with
  | get k => exact keeps_readScalar now m k key
  | set k text lifetime => exact keeps_writeScalar text lifetime (List.ne_of_not_mem_cons untouched)
  | askBucket bucket time =>
    rw [Call.writes, List.mem_cons, List.mem_singleton, not_or] at untouched
    exact keeps_askBucket now bucket time m untouched.1 untouched.2
  | incr _ _ _ | decr _ | zadd _ _ _ | zrem _ _ _ | zcount _ _ _ | expire _ _
  | recordInWindow _ _ _ _ => exact keeps_access _ (List.ne_of_not_mem_cons untouched)

end Memory

namespace Plan

variable {α β : Type} {key : String} {now : Int}

/-- No call of the plan may change what the key holds. -/
def Spares (key : String) : Plan α → Prop
  | done _ => True
  | fail _ => True
  | ask call next => key ∉ call.writes ∧ ∀ answer, (next answer).Spares key

theorem spares_call {c : Call} (untouched : key ∉ c.writes) : (call c).Spares key :=
  ⟨untouched, fun _ => trivial⟩

theorem spares_ofExcept (key : String) (result : Except LimiterError α) :
    (ofExcept result).Spares key := by
  cases result <;> exact trivial

theorem Spares.bind {p : Plan α} {f : α → Plan β} (spared : p.Spares key)
    (next : ∀ value, (f value).Spares key) : (p.bind f).Spares key := by
  induction p with
  | done value => exact next value
  | fail error => exact trivial
  | ask call rest ih => exact ⟨spared.1, fun answer => ih answer (spared.2 answer)⟩

theorem spares_steps {c : Call} (untouched : key ∉ c.writes) : c.steps.Spares key := by
  cases c with
  | recordInWindow k time window member =>
    exact .bind (spares_call untouched) fun _ => .bind (spares_call untouched) fun _ =>
      .bind (spares_call untouched) fun _ => .bind (spares_call untouched) fun _ => trivial
  | askBucket bucket time =>
    rw [Call.writes, List.mem_cons, List.mem_singleton, not_or] at untouched
    have reads (k : String) : key ∉ (Call.get k).writes := List.not_mem_nil
    have writesContent (text : String) (lifetime : Option Duration) :
        key ∉ (Call.set bucket.contentKey text lifetime).writes := by
      simpa [Call.writes] using untouched.1
    have writesStamp (text : String) (lifetime : Option Duration) :
        key ∉ (Call.set bucket.stampKey text lifetime).writes := by
      simpa [Call.writes] using untouched.2
    exact .bind (spares_call (reads _)) fun _ => .bind (spares_ofExcept _ _) fun _ =>
      .bind (spares_call (reads _)) fun _ => .bind (spares_ofExcept _ _) fun _ =>
        .bind (spares_call (writesContent _ _)) fun _ =>
          .bind (spares_call (writesStamp _ _)) fun _ => trivial
  | get _ | set _ _ _ | incr _ _ _ | decr _ | zadd _ _ _ | zrem _ _ _ | zcount _ _ _
  | expire _ _ => exact spares_call untouched

theorem Spares.inSteps {p : Plan α} (spared : p.Spares key) : p.inSteps.Spares key := by
  induction p with
  | done value => exact trivial
  | fail error => exact trivial
  | ask call next ih =>
    exact .bind (spares_steps spared.1) fun answer => ih answer (spared.2 answer)

theorem run_keeps {p : Plan α} (spared : p.Spares key) (m : Memory) :
    Memory.Keeps now key m (p.run (Memory.answer now) m).2 := by
  induction p generalizing m with
  | done value => exact .refl now key m
  | fail error => exact .refl now key m
  | ask call next ih =>
    have first := Memory.answer_keeps now call m spared.1
    rw [run]
    split
    · rename_i answer m₁ asked
      rw [asked] at first
      exact first.trans (ih answer (spared.2 answer) m₁)
    · rename_i error m₁ asked
      rw [asked] at first
      exact first

end Plan

/-! ## Limiters and publishers -/

/-- The parts of a key's state in which an algorithm counts. -/
def Algorithm.parts : Algorithm → List String
  | fixedWindow => ["fw"]
  | slidingWindow => ["sw"]
  | tokenBucket => ["tb:tokens", "tb:refilled_at"]
  | leakyBucket => ["lb:level", "lb:leaked_at"]

namespace Limiter

variable {base storeKey : String} {now : Int} {ticket : String}

theorem lookUp_spares (base : String) (key : LimitKey) (storeKey : String) :
    (lookUp base key).Spares storeKey := by
  refine .bind (Plan.spares_call List.not_mem_nil) fun record => ?_
  cases record with
  | none => exact trivial
  | some text => exact .bind (Plan.spares_ofExcept _ _) fun _ => trivial

theorem resolve_spares (base service endpoint storeKey : String) :
    (resolve base service endpoint).Spares storeKey := by
  refine .bind (lookUp_spares base _ storeKey) fun found => ?_
  cases found with
  | some limit => exact trivial
  | none => exact lookUp_spares base _ storeKey

/-- A request changes no key but the parts of its pair's state in which its limit is counted. -/
theorem evaluate_spares {key : LimitKey} (limit : Limit)
    (foreign : ∀ part ∈ limit.algorithm.parts, storeKey ≠ key.stateKey base part) :
    (evaluate base now ticket key limit).Spares storeKey := by
  have outside (part : String) (counted : part ∈ limit.algorithm.parts) :
      storeKey ∉ [key.stateKey base part] := by
    simpa using foreign part counted
  have outsideBoth (part part' : String) (counted : part ∈ limit.algorithm.parts)
      (counted' : part' ∈ limit.algorithm.parts) :
      storeKey ∉ [key.stateKey base part, key.stateKey base part'] := by
    simpa using ⟨foreign part counted, foreign part' counted'⟩
  unfold evaluate
  cases kind : limit.algorithm with
  | fixedWindow =>
    rw [kind] at outside
    exact .bind (Plan.spares_call (outside "fw" (by decide))) fun _ => trivial
  | slidingWindow =>
    rw [kind] at outside
    exact .bind (Plan.spares_call (outside "sw" (by decide))) fun _ => trivial
  | tokenBucket =>
    rw [kind] at outsideBoth
    exact .bind (Plan.spares_call
      (outsideBoth "tb:tokens" "tb:refilled_at" (by decide) (by decide))) fun _ => trivial
  | leakyBucket =>
    rw [kind] at outsideBoth
    exact .bind (Plan.spares_call
      (outsideBoth "lb:level" "lb:leaked_at" (by decide) (by decide))) fun _ => trivial

theorem allow_spares {service endpoint : String}
    (foreign : ∀ part, storeKey ≠ (LimitKey.ofEndpoint service endpoint).stateKey base part) :
    (allow base now ticket service endpoint).Spares storeKey := by
  refine .bind (resolve_spares base service endpoint storeKey) fun found => ?_
  cases found with
  | none => exact trivial
  | some limit => exact evaluate_spares limit fun part _ => foreign part

end Limiter

namespace Publisher

variable {p : Publisher} {storeKey : String}

theorem publishLimit_spares {limit : Limit} (foreign : storeKey ≠ limit.key.configKey p.base) :
    (p.publishLimit limit).Spares storeKey :=
  .bind (Plan.spares_ofExcept _ _) fun _ => Plan.spares_call (by simpa [Call.writes] using foreign)

theorem publish_spares (document : RulesDocument)
    (foreign : ∀ key : LimitKey, storeKey ≠ key.configKey p.base) :
    (p.publish document).Spares storeKey := by
  refine .bind (Plan.spares_ofExcept _ _) fun limits => ?_
  -- The limits are known before the first is written, so the induction is on their list.
  refine .bind ?_ fun _ => trivial
  induction limits with
  | nil => exact trivial
  | cons limit rest ih =>
    exact .bind (publishLimit_spares (foreign limit.key)) fun _ => ih

end Publisher

end Throttle
