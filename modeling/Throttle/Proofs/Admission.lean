import Throttle.Proofs.Run

/-!
# One request

What a request for a key does, as a function of what its state holds: the decision, and what the
state holds afterwards.  It is the same whether a store does its compound calls whole or in steps.

* `outcome_fixedWindow` and `part_fixedWindow` are about the counter of a fixed window,
* `outcome_bucket`, `content_bucket`, `stamp_bucket` and `part_bucket_failed` about the content and
  the stamp of a bucket, in tokens or in level.

Limits are as publishing accepts them (`Limit.check_eq_ok_iff`).
-/

namespace Throttle

theorem Duration.wrappedMillis_eq {d : Duration} (bounded : (d.millis : Int) ≤ Word.maxValue) :
    d.wrappedMillis = d.millis :=
  Word.wrap_of_inRange (Word.inRange_of_nonneg (Int.natCast_nonneg _) bounded)

/-! ## Lifetimes -/

theorem deadlineAfter_le_iff {now later : Int} (nonneg : 0 ≤ now) (bounded : later < Word.maxValue)
    (lifetime : Duration) :
    deadlineAfter now lifetime ≤ later ↔ now + lifetime.millis ≤ later := by
  -- The deadline may be cut to the last word, but the clock never reads that.
  unfold deadlineAfter Word.add Word.saturate Word.minValue
  unfold Word.maxValue at *
  omega

/-- What is written with a lifetime is live until the lifetime has passed. -/
theorem Slot.live_written {now later : Int} (nonneg : 0 ≤ now) (bounded : later < Word.maxValue)
    (value : Value) (lifetime : Duration) :
    Slot.live later ⟨some value, some (deadlineAfter now lifetime)⟩ =
      decide (later < now + lifetime.millis) := by
  simp only [Slot.live, Slot.expired, Option.isSome_some, Bool.true_and,
    deadlineAfter_le_iff nonneg bounded, ← decide_not, Int.not_le]

/-! ## Limits that can be published -/

/-- Requests and milliseconds are words, and there is at least one of each. -/
structure Limit.Valid (l : Limit) : Prop where
  one_le_requests : 1 ≤ l.maxRequests
  requests_le : (l.maxRequests : Int) ≤ Word.maxValue
  one_le_window : 1 ≤ l.window.millis
  window_le : (l.window.millis : Int) ≤ Word.maxValue

namespace Limit

theorem check_eq_ok_iff (l : Limit) : l.check = .ok () ↔ l.service ≠ "" ∧ l.Valid := by
  constructor
  · intro accepted
    unfold check problem? at accepted
    split_ifs at accepted with anonymous none many short long
    exact ⟨anonymous, by omega, by omega, by omega, by omega⟩
  · rintro ⟨named, valid⟩
    obtain ⟨some_requests, requests, some_window, window⟩ := valid
    unfold check problem?
    rw [if_neg named, if_neg (by omega), if_neg (by omega), if_neg (by omega), if_neg (by omega)]

namespace Valid

variable {l : Limit} {now later : Int}

theorem capacity_eq (valid : l.Valid) : l.capacity = l.maxRequests :=
  Word.saturate_of_inRange (Word.inRange_of_nonneg (Int.natCast_nonneg _) valid.requests_le)

theorem windowMillis_eq (valid : l.Valid) : l.windowMillis = l.window.millis :=
  Word.saturate_of_inRange (Word.inRange_of_nonneg (Int.natCast_nonneg _) valid.window_le)

theorem wrappedMillis_eq (valid : l.Valid) : l.window.wrappedMillis = l.window.millis :=
  Duration.wrappedMillis_eq valid.window_le

theorem aged_eq (valid : l.Valid) (positive : 0 ≤ now) (bounded : now < Word.maxValue)
    (value : Value) :
    Slot.aged now ⟨some value, some (deadlineAfter now l.window)⟩ =
      ⟨some value, some (deadlineAfter now l.window)⟩ := by
  apply Slot.aged_of_live
  have length := valid.one_le_window
  rw [Slot.live_written positive bounded]
  exact decide_eq_true (by omega)

end Valid

end Limit

/-! ## Reading buckets -/

/-- The integer of a slot, as a read of a part of a bucket answers. -/
def Slot.readInteger (key : String) (s : Slot) : Except LimiterError (Option Int) :=
  (s.readText key).bind (readState key)

/-- What two slots hold of a bucket: its content and its stamp. -/
def Bucket.read (b : Bucket) (content stamp : Slot) :
    Except LimiterError (Option Int × Option Int) :=
  (content.readInteger b.contentKey).bind fun content =>
    (stamp.readInteger b.stampKey).map fun stamp => (content, stamp)

theorem readState_word {key : String} {raw : Option String} {held : Option Int}
    (read : readState key raw = .ok held) : ∀ n ∈ held, Word.InRange n := by
  intro n member
  cases raw with
  | none =>
    obtain rfl := Except.ok.inj read
    exact absurd member (by simp)
  | some text =>
    unfold readState at read
    cases decimal : Decimal.read? text with
    | none => simp [decimal] at read
    | some word =>
      simp only [decimal, Except.ok.injEq] at read
      subst read
      obtain rfl := Option.some.inj member
      -- `Decimal.read?` keeps a number only where it is a word.
      have inRange := (Option.filter_eq_some_iff.1 decimal).2
      simpa using inRange

theorem Slot.word_of_readInteger {key : String} {s : Slot} {held : Option Int}
    (read : s.readInteger key = .ok held) : ∀ n ∈ held, Word.InRange n := by
  unfold Slot.readInteger at read
  cases raw : s.readText key with
  | error error => simp [raw, Except.bind] at read
  | ok text =>
    rw [raw] at read
    exact readState_word read

theorem Bucket.word_of_read {b : Bucket} {content stamp : Slot} {held : Option Int × Option Int}
    (read : b.read content stamp = .ok held) : ∀ n ∈ held.1, Word.InRange n := by
  unfold Bucket.read at read
  cases first : content.readInteger b.contentKey with
  | error error => simp [first, Except.bind] at read
  | ok content =>
    cases second : stamp.readInteger b.stampKey with
    | error error => simp [first, second, Except.bind, Except.map] at read
    | ok stamp =>
      rw [first, second] at read
      obtain rfl := Except.ok.inj read
      exact Slot.word_of_readInteger first

/-! ## Plans whole and in steps -/

namespace Plan

variable {α β σ : Type}

theorem run_call (store : Store σ) (c : Call) (s : σ) : (call c).run store s = store c s := by
  rw [call, run]
  rcases store c s with ⟨_ | answer, after⟩ <;> rfl

theorem run_ofExcept (store : Store σ) (result : Except LimiterError α) (s : σ) :
    (ofExcept result).run store s = (result, s) := by
  cases result <;> rfl

theorem bind_assoc {γ : Type} (p : Plan α) (f : α → Plan β) (g : β → Plan γ) :
    (p.bind f).bind g = p.bind fun value => (f value).bind g := by
  induction p with
  | done value => rfl
  | fail error => rfl
  | ask call next ih => exact congrArg (ask call) (funext ih)

theorem inSteps_bind (p : Plan α) (f : α → Plan β) :
    (p.bind f).inSteps = p.inSteps.bind fun value => (f value).inSteps := by
  induction p with
  | done value => rfl
  | fail error => rfl
  | ask call next ih =>
    -- Here `funext ih` rewrites under the answer, and the rest is associativity.
    change call.steps.bind (fun answer => ((next answer).bind f).inSteps) = _
    rw [funext ih]
    exact (bind_assoc _ _ _).symm

theorem run_bind_done (store : Store σ) (p : Plan α) (f : α → β) (s : σ) :
    (p.bind fun value => done (f value)).run store s =
      ((p.run store s).1.map f, (p.run store s).2) := by
  rw [run_bind]
  rcases p.run store s with ⟨_ | value, after⟩ <;> rfl

end Plan

namespace Memory

/-- A plan that starts by reading a part of a bucket goes on from what was read. -/
theorem run_readState {β : Type} (now : Int) (key : String) (next : Option Int → Plan β)
    (m : Memory) :
    ((Plan.call (.get key)).bind fun raw =>
      (Plan.ofExcept (readState key raw)).bind next).run (answer now) m =
        match m.readInteger now key with
        | (.ok n, m) => (next n).run (answer now) m
        | (.error error, m) => (.error error, m) := by
  have asked : (Plan.call (.get key)).run (answer now) m = m.readScalar now key :=
    Plan.run_call _ _ _
  rw [Plan.run_bind, asked, readInteger]
  rcases m.readScalar now key with ⟨_ | raw, m₁⟩
  · rfl
  · dsimp only
    cases readState key raw <;> rfl

/-- Asking a bucket in two reads and two writes is asking it in one step. -/
theorem run_askBucketSteps (now : Int) (bucket : Bucket) (time : Int) (m : Memory) :
    (askBucketSteps bucket time).run (answer now) m = m.askBucket now bucket time := by
  unfold askBucket
  -- The steps read the content, then the stamp; a failure of either ends both programs at once.
  refine (run_readState now bucket.contentKey _ m).trans ?_
  rcases m.readInteger now bucket.contentKey with ⟨_ | content, m₁⟩
  · rfl
  · refine (run_readState now bucket.stampKey _ m₁).trans ?_
    dsimp only
    rcases m₁.readInteger now bucket.stampKey with ⟨_ | stamp, m₂⟩ <;> rfl

theorem readInteger_fst (now : Int) (m : Memory) (key : String) :
    (m.readInteger now key).1 = (m.liveSlot now key).readInteger key := by
  have read := readScalar_fst now m key
  unfold readInteger Slot.readInteger
  rw [← read]
  rcases m.readScalar now key with ⟨_ | raw, m₁⟩ <;> rfl

/-- A bucket is asked by reads that leave everything alone and, where they find words or nothing,
    by two writes. -/
theorem exists_askBucket_eq (now : Int) (b : Bucket) (time : Int) (m : Memory) :
    ∃ m', (∀ key, Keeps now key m m') ∧
      m.askBucket now b time =
        match b.read (m.liveSlot now b.contentKey) (m.liveSlot now b.stampKey) with
        | .error error => (.error error, m')
        | .ok held =>
          let outcome := b.settle held.1 held.2 time
          (.ok outcome, (m'.writeScalar now b.contentKey (Decimal.write outcome.content) b.window)
            |>.writeScalar now b.stampKey (Decimal.write time) b.window) := by
  have kept := keeps_readInteger now m b.contentKey
  have content := readInteger_fst now m b.contentKey
  unfold askBucket Bucket.read
  rw [← content]
  -- The second read finds the stamp as it was, as the first has left it alone.
  rcases first : m.readInteger now b.contentKey with ⟨error | held, m₁⟩
  · rw [first] at kept
    exact ⟨m₁, kept, rfl⟩
  · rw [first] at kept
    have kept' := keeps_readInteger now m₁ b.stampKey
    have stamp := readInteger_fst now m₁ b.stampKey
    rw [(kept b.stampKey).liveSlot (Int.le_refl now)] at stamp
    rw [← stamp]
    dsimp only
    rcases second : m₁.readInteger now b.stampKey with ⟨error | held', m₂⟩
    · rw [second] at kept'
      exact ⟨m₂, fun key => (kept key).trans (kept' key), rfl⟩
    · rw [second] at kept'
      exact ⟨m₂, fun key => (kept key).trans (kept' key), rfl⟩

end Memory

namespace Compounding

theorem plan_bind {α β : Type} (c : Compounding) (p : Plan α) (f : α → Plan β) :
    c.plan (p.bind f) = (c.plan p).bind fun value => c.plan (f value) := by
  cases c with
  | whole => rfl
  | inSteps => exact Plan.inSteps_bind p f

theorem plan_done {α : Type} (c : Compounding) (value : α) : c.plan (.done value) = .done value := by
  cases c <;> rfl

theorem plan_ofExcept {α : Type} (c : Compounding) (result : Except LimiterError α) :
    c.plan (.ofExcept result) = .ofExcept result := by
  cases c <;> cases result <;> rfl

theorem run_plan_call (c : Compounding) (call : Call) {σ : Type} (store : Store σ) (s : σ) :
    (c.plan (Plan.call call)).run store s =
      match c with
      | .whole => store call s
      | .inSteps => call.steps.run store s := by
  cases c with
  | whole => exact Plan.run_call store call s
  | inSteps =>
    refine (Plan.run_bind_done store call.steps id s).trans ?_
    rcases call.steps.run store s with ⟨_ | answer, after⟩ <;> rfl

end Compounding

/-! ## The buckets of a limiter -/

namespace BucketKind

/-- The algorithm that counts in buckets of this kind. -/
def algorithm : BucketKind → Algorithm
  | tokens => .tokenBucket
  | level => .leakyBucket

/-- The part of a key's state that holds the content of its bucket. -/
def contentPart : BucketKind → String
  | tokens => "tb:tokens"
  | level => "lb:level"

/-- The part that holds the time at which the content was last brought up to date. -/
def stampPart : BucketKind → String
  | tokens => "tb:refilled_at"
  | level => "lb:leaked_at"

theorem parts_algorithm (kind : BucketKind) :
    kind.algorithm.parts = [kind.contentPart, kind.stampPart] := by
  cases kind <;> rfl

theorem contentPart_ne_stampPart (kind : BucketKind) : kind.contentPart ≠ kind.stampPart := by
  cases kind <;> decide

end BucketKind

namespace Limiter

def bucketOf (kind : BucketKind) (base : String) (key : LimitKey) (limit : Limit) : Bucket where
  kind := kind
  contentKey := key.stateKey base kind.contentPart
  stampKey := key.stateKey base kind.stampPart
  capacity := limit.capacity
  window := limit.window

theorem evaluate_of_bucket {base : String} {now : Int} {ticket : String} {key : LimitKey}
    {limit : Limit} {kind : BucketKind} (counted : limit.algorithm = kind.algorithm) :
    evaluate base now ticket key limit =
      (Plan.call (.askBucket (bucketOf kind base key limit) now)).bind fun outcome =>
        .done outcome.admitted := by
  unfold evaluate
  rw [counted]
  cases kind <;> rfl

theorem evaluate_of_fixedWindow {base : String} {now : Int} {ticket : String} {key : LimitKey}
    {limit : Limit} (counted : limit.algorithm = .fixedWindow) :
    evaluate base now ticket key limit =
      (Plan.call (.incr (key.stateKey base "fw") 1 limit.window)).bind fun count =>
        .done (decide (count ≤ limit.capacity)) := by
  unfold evaluate
  rw [counted]
  rfl

end Limiter

/-! ## Requests -/

namespace Session

variable {s : Session} {key : LimitKey} {limit : Limit} {ticket : String}

theorem outcome_request (healthy : s.Healthy) :
    (s.request key limit ticket).outcome =
      (s.run (Limiter.evaluate s.base s.now ticket key limit)).1 :=
  perform_fst healthy _

theorem part_evaluate (healthy : s.Healthy) (name : String) :
    (s.step (.evaluate key limit ticket)).2.part key name =
      (s.run (Limiter.evaluate s.base s.now ticket key limit)).2.liveSlot s.now
        (key.stateKey s.base name) := by
  rw [← inner_perform healthy]
  rfl

theorem slot_evaluate_of_spared (healthy : s.Healthy) {storeKey : String}
    (spared : ∀ part ∈ limit.algorithm.parts, storeKey ≠ key.stateKey s.base part) :
    (s.step (.evaluate key limit ticket)).2.slot storeKey = s.slot storeKey :=
  (perform_keeps healthy (Limiter.evaluate_spares limit spared)).liveSlot (Int.le_refl s.now)

theorem part_evaluate_of_spared (healthy : s.Healthy) {name : String}
    (spared : name ∉ limit.algorithm.parts) :
    (s.step (.evaluate key limit ticket)).2.part key name = s.part key name := by
  unfold part
  rw [base_step]
  apply slot_evaluate_of_spared healthy
  intro part counted same
  rw [(LimitKey.stateKey_injective same).2] at spared
  exact spared counted

theorem run_bind_done {α β : Type} (s : Session) (p : Plan α) (f : α → β) :
    s.run (p.bind fun value => .done (f value)) = ((s.run p).1.map f, (s.run p).2) := by
  unfold run
  rw [Compounding.plan_bind]
  simp only [Compounding.plan_done]
  exact Plan.run_bind_done _ _ _ _

/-! ### Fixed windows -/

theorem run_incr (s : Session) (storeKey : String) (delta : Int) (lifetime : Option Duration) :
    s.run (Plan.call (.incr storeKey delta lifetime)) =
      s.store.inner.access s.now storeKey (Memory.addTo s.now storeKey delta lifetime) := by
  unfold run
  rw [Compounding.run_plan_call]
  cases s.compounding with
  | whole => rfl
  | inSteps => exact Plan.run_call _ _ _

theorem addTo_part (s : Session) (key : LimitKey) (name : String) (delta : Int)
    (lifetime : Option Duration) (storeKey : String) :
    Memory.addTo s.now storeKey delta lifetime
        (s.store.inner.slotAt s.now (key.stateKey s.base name)) =
      Memory.addTo s.now storeKey delta lifetime (s.part key name) :=
  Memory.apply_slotAt (Memory.addTo s.now storeKey delta lifetime) fun found empty => by
    simp only [Memory.addTo, empty, Slot.vacant]

theorem outcome_fixedWindow (healthy : s.Healthy) (counted : limit.algorithm = .fixedWindow) :
    (s.request key limit ticket).outcome =
      (Memory.addTo s.now (key.stateKey s.base "fw") 1 limit.window (s.part key "fw")).1.map
        fun count => decide (count ≤ limit.capacity) := by
  rw [outcome_request healthy, Limiter.evaluate_of_fixedWindow counted, run_bind_done, run_incr,
    ← addTo_part]
  rfl

theorem part_fixedWindow (healthy : s.Healthy) (counted : limit.algorithm = .fixedWindow) :
    (s.step (.evaluate key limit ticket)).2.part key "fw" =
      (Memory.addTo s.now (key.stateKey s.base "fw") 1 limit.window (s.part key "fw")).2.aged
        s.now := by
  rw [part_evaluate healthy, Limiter.evaluate_of_fixedWindow counted, run_bind_done, run_incr,
    Memory.liveSlot_access, addTo_part]

/-! ### Buckets -/

theorem run_askBucket (s : Session) (b : Bucket) (time : Int) :
    s.run (Plan.call (.askBucket b time)) = s.store.inner.askBucket s.now b time := by
  unfold run
  rw [Compounding.run_plan_call]
  cases s.compounding with
  | whole => rfl
  | inSteps => exact Memory.run_askBucketSteps _ _ _ _

variable {kind : BucketKind}

def bucket (s : Session) (kind : BucketKind) (key : LimitKey) (limit : Limit) : Bucket :=
  Limiter.bucketOf kind s.base key limit

/-- What the state of a key holds of its bucket. -/
def held (s : Session) (kind : BucketKind) (key : LimitKey) (limit : Limit) :
    Except LimiterError (Option Int × Option Int) :=
  (s.bucket kind key limit).read (s.part key kind.contentPart) (s.part key kind.stampPart)

/-- A request asks the bucket of its key: by reads, and by writes only where they succeed. -/
theorem exists_run_bucket (s : Session) (key : LimitKey) (ticket : String)
    (counted : limit.algorithm = kind.algorithm) :
    ∃ m', (∀ storeKey, Memory.Keeps s.now storeKey s.store.inner m') ∧
      s.run (Limiter.evaluate s.base s.now ticket key limit) =
        match s.held kind key limit with
        | .error error => (.error error, m')
        | .ok held =>
          let b := s.bucket kind key limit
          let outcome := b.settle held.1 held.2 s.now
          (.ok outcome.admitted,
            (m'.writeScalar s.now b.contentKey (Decimal.write outcome.content) limit.window)
            |>.writeScalar s.now b.stampKey (Decimal.write s.now) limit.window) := by
  obtain ⟨m', kept, asked⟩ :=
    Memory.exists_askBucket_eq s.now (s.bucket kind key limit) s.now s.store.inner
  refine ⟨m', kept, ?_⟩
  rw [Limiter.evaluate_of_bucket counted, run_bind_done, run_askBucket]
  -- `bucketOf` and `Session.bucket` are one by definition; `change` makes this visible.
  change (Except.map _ (s.store.inner.askBucket s.now (s.bucket kind key limit) s.now).1,
    (s.store.inner.askBucket s.now (s.bucket kind key limit) s.now).2) = _
  rw [asked]
  change _ = match (s.bucket kind key limit).read
    (s.store.inner.liveSlot s.now (s.bucket kind key limit).contentKey)
    (s.store.inner.liveSlot s.now (s.bucket kind key limit).stampKey) with
    | .error error => _
    | .ok held => _
  cases (s.bucket kind key limit).read
    (s.store.inner.liveSlot s.now (s.bucket kind key limit).contentKey)
    (s.store.inner.liveSlot s.now (s.bucket kind key limit).stampKey) <;> rfl

theorem outcome_bucket (healthy : s.Healthy) (counted : limit.algorithm = kind.algorithm) :
    (s.request key limit ticket).outcome =
      (s.held kind key limit).map fun held =>
        ((s.bucket kind key limit).settle held.1 held.2 s.now).admitted := by
  obtain ⟨m', -, ran⟩ := exists_run_bucket s key ticket counted
  rw [outcome_request healthy, ran]
  cases s.held kind key limit <;> rfl

variable {held : Option Int × Option Int}

theorem content_bucket (healthy : s.Healthy) (counted : limit.algorithm = kind.algorithm)
    (read : s.held kind key limit = .ok held) :
    (s.step (.evaluate key limit ticket)).2.part key kind.contentPart =
      Slot.aged s.now ⟨some (.scalar (Decimal.write
        ((s.bucket kind key limit).settle held.1 held.2 s.now).content)),
        some (deadlineAfter s.now limit.window)⟩ := by
  obtain ⟨m', -, ran⟩ := exists_run_bucket s key ticket counted
  have differ : key.stateKey s.base kind.contentPart ≠ key.stateKey s.base kind.stampPart :=
    fun same => kind.contentPart_ne_stampPart (LimitKey.stateKey_injective same).2
  rw [part_evaluate healthy, ran, read]
  -- The content is written first, and the stamp under another key.
  exact ((Memory.keeps_writeScalar _ _ differ).liveSlot (Int.le_refl _)).trans
    (Memory.liveSlot_writeScalar _ _ _ _ _)

theorem stamp_bucket (healthy : s.Healthy) (counted : limit.algorithm = kind.algorithm)
    (read : s.held kind key limit = .ok held) :
    (s.step (.evaluate key limit ticket)).2.part key kind.stampPart =
      Slot.aged s.now ⟨some (.scalar (Decimal.write s.now)),
        some (deadlineAfter s.now limit.window)⟩ := by
  obtain ⟨m', -, ran⟩ := exists_run_bucket s key ticket counted
  rw [part_evaluate healthy, ran, read]
  exact Memory.liveSlot_writeScalar _ _ _ _ _

/-- A request that cannot read its bucket leaves everything alone. -/
theorem part_bucket_failed {error : LimiterError} (healthy : s.Healthy)
    (counted : limit.algorithm = kind.algorithm) (read : s.held kind key limit = .error error)
    (name : String) :
    (s.step (.evaluate key limit ticket)).2.part key name = s.part key name := by
  obtain ⟨m', kept, ran⟩ := exists_run_bucket s key ticket counted
  rw [part_evaluate healthy, ran, read]
  exact (kept _).liveSlot (Int.le_refl _)

end Session

end Throttle
