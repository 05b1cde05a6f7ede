import Throttle.Proofs.RateBound

/-!
# Tokens and level

A bucket that refills and one that drains are the same limiter.  `token_bucket_eq_leaky_bucket` lets
the same requests be counted in both, with a clock that may also be set back, and finds the same
decisions and, at any time, tokens and a level that add up to the limit.

The two runs are related by `Complementary`, which is about the slots of the two buckets: time may go
back, so a slot that is over and still in its place may come to life again.
-/

namespace Throttle

/-- The limit, counted by another algorithm. -/
def Limit.countedBy (l : Limit) (algorithm : Algorithm) : Limit := { l with algorithm := algorithm }

theorem Limit.Valid.countedBy {l : Limit} (valid : l.Valid) (algorithm : Algorithm) :
    (l.countedBy algorithm).Valid :=
  ⟨valid.one_le_requests, valid.requests_le, valid.one_le_window, valid.window_le⟩

namespace Action

/-- The action, with its requests counted by another algorithm. -/
def countedBy (algorithm : Algorithm) : Action → Action
  | evaluate key limit ticket => evaluate key (limit.countedBy algorithm) ticket
  | action => action

/-- A request for a key against a limit, a purge or a movement of the clock. -/
def Lone (key : LimitKey) (limit : Limit) : Action → Prop
  | evaluate k l _ => k = key ∧ l = limit
  | purge | setClock _ => True
  | allow _ _ _ | resolve _ _ | publish _ _ | publishRules _ _ | call _ => False

end Action

/-! ## What the slots of a bucket hold -/

namespace Session

variable {s : Session} {kind : BucketKind} {key : LimitKey} {limit : Limit} {stamp content : Int}

/-- The slots of a bucket are as a request left them, with the stamp and the content given, or both
    are empty. -/
def Stores (s : Session) (kind : BucketKind) (key : LimitKey) (limit : Limit) :
    Option (Int × Int) → Prop
  | some (stamp, content) => s.Written kind key limit stamp content
  | none => s.store.inner.rawSlot (key.stateKey s.base kind.contentPart) = .vacant ∧
      s.store.inner.rawSlot (key.stateKey s.base kind.stampPart) = .vacant

/-- What is read of the slots at an instant. -/
def readable (limit : Limit) (now : Int) : Option (Int × Int) → Option Int × Option Int
  | some (stamp, content) =>
    if now < stamp + limit.window.millis then (some content, some stamp) else (none, none)
  | none => (none, none)

namespace Stores

variable {stored : Option (Int × Int)}

theorem held_eq (stores : s.Stores kind key limit stored) (bounded : s.now < Word.maxValue) :
    s.held kind key limit = .ok (readable limit s.now stored) := by
  cases stored with
  | none =>
    have vacant : (Slot.vacant).aged s.now = .vacant := Slot.aged_vacant s.now
    exact held_of_vacant ((congrArg (Slot.aged s.now) stores.1).trans vacant)
      ((congrArg (Slot.aged s.now) stores.2).trans vacant)
  | some state =>
    obtain ⟨stamp, content⟩ := state
    by_cases recent : s.now < stamp + limit.window.millis
    · rw [readable, if_pos recent]
      exact stores.left.held_of_recent bounded recent
    · rw [readable, if_neg recent]
      exact stores.left.held_of_over bounded (by omega)

/-- A purge takes what is over, the content and the stamp at once. -/
theorem purge (stores : s.Stores kind key limit stored) (bounded : s.now < Word.maxValue) :
    (s.step .purge).2.Stores kind key limit
      (stored.filter fun state => decide (s.now < state.1 + limit.window.millis)) := by
  have purged (storeKey : String) : (s.step .purge).2.store.inner.rawSlot storeKey =
      (s.store.inner.rawSlot storeKey).aged s.now :=
    Memory.rawSlot_purge s.now s.store.inner storeKey
  cases stored with
  | none =>
    refine ⟨?_, ?_⟩
    · rw [purged, base_step, stores.1, Slot.aged_vacant]
    · rw [purged, base_step, stores.2, Slot.aged_vacant]
  | some state =>
    obtain ⟨stamp, content⟩ := state
    obtain ⟨contentSlot, stampSlot, stamp_nonneg, stamp_word, content_word⟩ := stores
    have lives (text : String) :
        Slot.live s.now ⟨some (.scalar text), some (deadlineAfter stamp limit.window)⟩ =
          decide (s.now < stamp + limit.window.millis) :=
      Slot.live_written stamp_nonneg bounded _ _
    by_cases recent : s.now < stamp + limit.window.millis
    · rw [Option.filter_some, if_pos (decide_eq_true recent)]
      rw [decide_eq_true recent] at lives
      refine ⟨?_, ?_, stamp_nonneg, stamp_word, content_word⟩
      · rw [purged, base_step, contentSlot, Slot.aged_of_live (lives _)]
      · rw [purged, base_step, stampSlot, Slot.aged_of_live (lives _)]
    · rw [Option.filter_some, if_neg (by simpa using recent)]
      rw [decide_eq_false recent] at lives
      refine ⟨?_, ?_⟩
      · rw [purged, base_step, contentSlot, Slot.aged_of_not_live (lives _)]
      · rw [purged, base_step, stampSlot, Slot.aged_of_not_live (lives _)]

theorem setClock (stores : s.Stores kind key limit stored) (reading : Int) :
    (s.step (.setClock reading)).2.Stores kind key limit stored := by
  -- The clock is no part of what the slots hold.
  cases stored with
  | none => exact stores
  | some state =>
    obtain ⟨contentSlot, stampSlot, stamp_nonneg, stamp_word, content_word⟩ := stores
    exact ⟨contentSlot, stampSlot, stamp_nonneg, stamp_word, content_word⟩

end Stores

end Session

theorem Session.request_of_held {s : Session} {kind : BucketKind} {key : LimitKey} {limit : Limit}
    {held : Option Int × Option Int} (ticket : String) (valid : limit.Valid)
    (counted : limit.algorithm = kind.algorithm) (healthy : s.Healthy) (nonneg : 0 ≤ s.now)
    (bounded : s.now < Word.maxValue) (read : s.held kind key limit = .ok held) :
    (s.request key limit ticket).outcome =
        .ok ((s.bucket kind key limit).settle held.1 held.2 s.now).admitted ∧
      (s.step (.evaluate key limit ticket)).2.Written kind key limit s.now
        ((s.bucket kind key limit).settle held.1 held.2 s.now).content := by
  refine ⟨?_, .of_request valid counted healthy nonneg bounded read⟩
  rw [outcome_bucket healthy counted, read]
  rfl

theorem Session.Written.of_countedBy {s : Session} {kind : BucketKind} {key : LimitKey}
    {limit : Limit} {algorithm : Algorithm} {stamp content : Int}
    (written : s.Written kind key (limit.countedBy algorithm) stamp content) :
    s.Written kind key limit stamp content :=
  ⟨written.contentSlot, written.stampSlot, written.stamp_nonneg, written.stamp_word,
    written.content_word⟩

/-! ## Two limiters in step -/

/-- Two sessions at one time, of which one counts the requests for a key in tokens and the other in
    a level: their slots were written at the same time, and add up to the limit. -/
structure Complementary (key : LimitKey) (limit : Limit) (s t : Session) : Prop where
  now : t.now = s.now
  healthy : s.Healthy
  healthy' : t.Healthy
  nonneg : 0 ≤ s.now
  bounded : s.now < Word.maxValue
  stored : ∃ stored, s.Stores .tokens key limit stored ∧
    t.Stores .level key limit (stored.map fun (stamp, tokens) => (stamp, limit.maxRequests - tokens))

namespace Complementary

variable {key : LimitKey} {limit : Limit} {s t : Session}

theorem exists_held (complementary : Complementary key limit s t) :
    ∃ content stamp, s.held .tokens key limit = .ok (content, stamp) ∧
      t.held .level key limit = .ok (content.map fun tokens => limit.maxRequests - tokens, stamp) := by
  obtain ⟨now, -, -, -, bounded, stored, tokens, level⟩ := complementary
  have read := tokens.held_eq bounded
  have read' := level.held_eq (now ▸ bounded)
  rw [now] at read'
  refine ⟨_, _, read, read'.trans ?_⟩
  -- Both slots have one stamp, so that they are over at the same time.
  rcases stored with _ | ⟨stamp, content⟩
  · rfl
  · simp only [Option.map_some, Session.readable]
    split <;> rfl

theorem purge (complementary : Complementary key limit s t) :
    Complementary key limit (s.step .purge).2 (t.step .purge).2 := by
  obtain ⟨now, healthy, healthy', nonneg, bounded, stored, tokens, level⟩ := complementary
  have purged := tokens.purge bounded
  have purged' := level.purge (now ▸ bounded)
  refine ⟨now, healthy, healthy', nonneg, bounded, _, purged, ?_⟩
  rw [now, Option.filter_map] at purged'
  exact purged'

theorem setClock (complementary : Complementary key limit s t) {reading : Int}
    (nonneg : 0 ≤ reading) (bounded : reading < Word.maxValue) :
    Complementary key limit (s.step (.setClock reading)).2 (t.step (.setClock reading)).2 := by
  obtain ⟨-, healthy, healthy', -, -, stored, tokens, level⟩ := complementary
  exact ⟨rfl, healthy, healthy', nonneg, bounded, stored, tokens.setClock reading,
    level.setClock reading⟩

/-- A request is decided alike, and what it leaves adds up to the limit again. -/
theorem request (complementary : Complementary key limit s t) (valid : limit.Valid)
    (ticket : String) :
    (∃ admitted, (s.request key (limit.countedBy .tokenBucket) ticket).outcome = .ok admitted ∧
      (t.request key (limit.countedBy .leakyBucket) ticket).outcome = .ok admitted) ∧
    Complementary key limit
      (s.step (.evaluate key (limit.countedBy .tokenBucket) ticket)).2
      (t.step (.evaluate key (limit.countedBy .leakyBucket) ticket)).2 := by
  obtain ⟨content, stamp, read, read'⟩ := complementary.exists_held
  obtain ⟨now, healthy, healthy', nonneg, bounded, -⟩ := complementary
  let b := s.bucket .tokens key (limit.countedBy .tokenBucket)
  let b' := t.bucket .level key (limit.countedBy .leakyBucket)
  have tokens : b.kind = .tokens := rfl
  have level : b'.kind = .level := rfl
  have capacity : b.capacity = limit.maxRequests := valid.capacity_eq
  have capacity' : b'.capacity = b.capacity := rfl
  have word : ∀ n ∈ content, Word.InRange n := Bucket.word_of_read read
  have word' : ∀ n ∈ content.map (b.capacity - ·), Word.InRange n := by
    rw [capacity]
    exact Bucket.word_of_read read'
  have settled : b'.settle (content.map (b.capacity - ·)) stamp s.now = _ :=
    Bucket.settle_complement tokens level capacity' rfl (Word.inRange_saturate _) word word'
  rw [capacity] at settled
  have counted : (limit.countedBy .tokenBucket).algorithm = BucketKind.tokens.algorithm := rfl
  have counted' : (limit.countedBy .leakyBucket).algorithm = BucketKind.level.algorithm := rfl
  obtain ⟨decided, written⟩ := Session.request_of_held ticket (valid.countedBy .tokenBucket) counted
    healthy nonneg bounded read
  obtain ⟨decided', written'⟩ := Session.request_of_held ticket (valid.countedBy .leakyBucket)
    counted' healthy' (now ▸ nonneg) (now ▸ bounded) read'
  change (t.request key _ ticket).outcome = .ok (b'.settle _ _ _).admitted at decided'
  change Session.Written _ _ _ _ _ (b'.settle _ _ _).content at written'
  rw [now] at decided' written'
  dsimp only at decided' written' decided written
  rw [settled] at decided' written'
  refine ⟨⟨_, decided, decided'⟩, ?_, Session.healthy_step healthy _,
    Session.healthy_step healthy' _, ?_, ?_, ?_⟩
  · rw [Session.now_step, Session.now_step]
    exact now
  · rw [Session.now_step]
    exact nonneg
  · rw [Session.now_step]
    exact bounded
  · exact ⟨some (s.now, _), written.of_countedBy, written'.of_countedBy⟩

theorem start (publisher : Publisher) (compounding : Compounding) {now : Int} (key : LimitKey)
    (limit : Limit) (nonneg : 0 ≤ now) (bounded : now < Word.maxValue) :
    Complementary key limit (Session.start publisher compounding now)
      (Session.start publisher compounding now) :=
  ⟨rfl, rfl, rfl, nonneg, bounded, none, ⟨rfl, rfl⟩, ⟨rfl, rfl⟩⟩

/-- The same requests are decided alike in a whole run, and the sessions stay complementary. -/
theorem after (complementary : Complementary key limit s t) (valid : limit.Valid)
    {run : List Action} (inTime : InTime s.now run) (lone : ∀ action ∈ run, action.Lone key limit) :
    (∃ decisions : List Bool,
      (s.requests key (run.map (.countedBy .tokenBucket))).map Request.outcome =
        decisions.map .ok ∧
      (t.requests key (run.map (.countedBy .leakyBucket))).map Request.outcome =
        decisions.map .ok) ∧
    Complementary key limit (s.after (run.map (.countedBy .tokenBucket)))
      (t.after (run.map (.countedBy .leakyBucket))) := by
  induction run generalizing s t with
  | nil => exact ⟨⟨[], rfl, rfl⟩, complementary⟩
  | cons action rest ih =>
    have inTime_rest := inTime.tail
    have lone_rest : ∀ action ∈ rest, action.Lone key limit := fun action member =>
      lone action (List.mem_cons_of_mem _ member)
    cases action with
    | evaluate k l ticket =>
      obtain ⟨rfl, rfl⟩ := lone _ List.mem_cons_self
      obtain ⟨⟨admitted, decided, decided'⟩, later⟩ := complementary.request valid ticket
      obtain ⟨⟨decisions, all, all'⟩, last⟩ := ih later inTime_rest lone_rest
      refine ⟨⟨admitted :: decisions, ?_, ?_⟩, last⟩
      · rw [List.map_cons, Action.countedBy, Session.requests_own, List.map_cons, decided, all]
        rfl
      · rw [List.map_cons, Action.countedBy, Session.requests_own, List.map_cons, decided', all']
        rfl
    | purge => exact ih complementary.purge inTime_rest lone_rest
    | setClock reading =>
      obtain ⟨nonneg, bounded⟩ := inTime_rest.now
      exact ih (complementary.setClock nonneg bounded) inTime_rest lone_rest
    | allow _ _ _ | resolve _ _ | publish _ _ | publishRules _ _ | call _ =>
      exact (lone _ List.mem_cons_self).elim

end Complementary

/-- **Token buckets and leaky buckets are the same limiter.**  On fresh stores, the same requests
    against a limit are decided alike whether they are counted in tokens or in a level, wherever the
    clock moves in between and whatever a purge drops.  What the two hold was written at the same time
    and adds up to the limit. -/
theorem token_bucket_eq_leaky_bucket (publisher : Publisher) (compounding : Compounding) (now : Int)
    (key : LimitKey) (limit : Limit) (run : List Action) (valid : limit.Valid)
    (inTime : InTime now run) (lone : ∀ action ∈ run, action.Lone key limit) :
    let s := Session.start publisher compounding now
    let tokens := run.map (Action.countedBy .tokenBucket)
    let level := run.map (Action.countedBy .leakyBucket)
    (∃ decisions : List Bool, (s.requests key tokens).map Request.outcome = decisions.map .ok ∧
      (s.requests key level).map Request.outcome = decisions.map .ok) ∧
    ∃ content stamp, (s.after tokens).held .tokens key limit = .ok (content, stamp) ∧
      (s.after level).held .level key limit =
        .ok (content.map fun tokens => limit.maxRequests - tokens, stamp) := by
  intro s tokens level
  obtain ⟨nonneg, bounded⟩ := inTime.now
  have fresh : Complementary key limit s s := .start publisher compounding key limit nonneg bounded
  obtain ⟨decided, last⟩ := fresh.after valid inTime lone
  exact ⟨decided, last.exists_held⟩

/-- Five requests, the last one at a clock that was set back. -/
theorem token_bucket_eq_leaky_bucket_set_back :
    let key := LimitKey.ofEndpoint "search" "query"
    let limit : Limit := ⟨"search", some "query", .tokenBucket, 2, .ofMillis 1000⟩
    let run : List Action := [.evaluate key limit "a", .evaluate key limit "b",
      .evaluate key limit "c", .setClock 600, .evaluate key limit "d", .setClock 100, .purge,
      .evaluate key limit "e"]
    let s := Session.start ⟨"limits", none⟩ .whole 0
    limit.Valid ∧ InTime 0 run ∧ (∀ action ∈ run, action.Lone key limit) ∧
      (s.requests key (run.map (.countedBy .leakyBucket))).map Request.outcome =
        (s.requests key (run.map (.countedBy .tokenBucket))).map Request.outcome := by
  intro key limit run s
  have valid : limit.Valid := ⟨by decide, by decide, by decide, by decide⟩
  have inTime : InTime 0 run := by decide
  have lone : ∀ action ∈ run, action.Lone key limit := by simp [run, Action.Lone]
  obtain ⟨⟨decisions, tokens, level⟩, -⟩ :=
    token_bucket_eq_leaky_bucket ⟨"limits", none⟩ .whole 0 key limit run valid inTime lone
  exact ⟨valid, inTime, lone, level.trans tokens.symm⟩

end Throttle
