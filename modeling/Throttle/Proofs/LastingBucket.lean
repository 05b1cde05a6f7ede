import Throttle.Proofs.Admission
import Throttle.Proofs.Settlement

/-!
# The lifetime of a bucket

The state of a bucket lives for one window after a request.  In that time it refills or drains
completely, so nothing is lost with it: `expiry_loses_nothing` compares a limiter with an ideal bucket
that remembers its content and its stamp for ever, and finds the same decisions and the same contents.

`Session.Left` is what a request leaves in the state of its key and what time makes of it.  While it is
live it is what the ideal bucket remembers, and when it is over the ideal bucket is as good as fresh
(`Session.Remembers.exists_held`).
-/

namespace Throttle

/-! ## The ideal bucket -/

namespace Bucket

/-- The content and the stamp that a bucket has after a request. -/
def settled (b : Bucket) (held : Option Int × Option Int) (now : Int) : Option Int × Option Int :=
  (some (b.settle held.1 held.2 now).content, some now)

/-- The content and the stamp that a bucket without a lifetime has after requests at the given
    times.  Both are absent before the first. -/
def remembered (b : Bucket) (times : List Int) : Option Int × Option Int :=
  times.foldl b.settled (none, none)

theorem remembered_append_singleton (b : Bucket) (times : List Int) (now : Int) :
    b.remembered (times ++ [now]) = b.settled (b.remembered times) now := by
  rw [remembered, List.foldl_append, List.foldl_cons, List.foldl_nil, remembered]

end Bucket

/-! ## What a request leaves -/

/-- The state of a bucket is what a request at `stamp` left, unless that is over. -/
structure Session.Left (s : Session) (kind : BucketKind) (key : LimitKey) (limit : Limit)
    (stamp content : Int) : Prop where
  contentPart : s.part key kind.contentPart =
    Slot.aged s.now ⟨some (.scalar (Decimal.write content)), some (deadlineAfter stamp limit.window)⟩
  stampPart : s.part key kind.stampPart =
    Slot.aged s.now ⟨some (.scalar (Decimal.write stamp)), some (deadlineAfter stamp limit.window)⟩
  stamp_nonneg : 0 ≤ stamp
  stamp_word : Word.InRange stamp
  content_word : Word.InRange content

namespace Session

variable {s : Session} {kind : BucketKind} {key : LimitKey} {limit : Limit} {stamp content : Int}

theorem held_of_vacant (contentPart : s.part key kind.contentPart = .vacant)
    (stampPart : s.part key kind.stampPart = .vacant) :
    s.held kind key limit = .ok (none, none) := by
  rw [held, contentPart, stampPart]
  rfl

namespace Left

theorem held_of_recent (left : s.Left kind key limit stamp content)
    (bounded : s.now < Word.maxValue) (recent : s.now < stamp + limit.window.millis) :
    s.held kind key limit = .ok (some content, some stamp) := by
  have alive (text : String) :
      Slot.live s.now ⟨some (.scalar text), some (deadlineAfter stamp limit.window)⟩ = true := by
    rw [Slot.live_written left.stamp_nonneg bounded]
    exact decide_eq_true recent
  have contentPart := left.contentPart
  have stampPart := left.stampPart
  rw [Slot.aged_of_live (alive _)] at contentPart stampPart
  simp only [held, Bucket.read, contentPart, stampPart, Slot.readInteger, Slot.readText,
    Except.bind, readState, Decimal.read?_write left.content_word,
    Decimal.read?_write left.stamp_word, Except.map]

theorem held_of_over (left : s.Left kind key limit stamp content)
    (bounded : s.now < Word.maxValue) (ended : stamp + limit.window.millis ≤ s.now) :
    s.held kind key limit = .ok (none, none) := by
  have dead (text : String) :
      Slot.live s.now ⟨some (.scalar text), some (deadlineAfter stamp limit.window)⟩ = false := by
    rw [Slot.live_written left.stamp_nonneg bounded]
    exact decide_eq_false (by omega)
  have contentPart := left.contentPart
  have stampPart := left.stampPart
  rw [Slot.aged_of_not_live (dead _)] at contentPart stampPart
  exact held_of_vacant contentPart stampPart

theorem of_request {held : Option Int × Option Int} {ticket : String}
    (counted : limit.algorithm = kind.algorithm) (healthy : s.Healthy) (nonneg : 0 ≤ s.now)
    (bounded : s.now < Word.maxValue) (read : s.held kind key limit = .ok held) :
    (s.step (.evaluate key limit ticket)).2.Left kind key limit s.now
      ((s.bucket kind key limit).settle held.1 held.2 s.now).content where
  contentPart := Session.content_bucket healthy counted read
  stampPart := Session.stamp_bucket healthy counted read
  stamp_nonneg := nonneg
  stamp_word := Word.inRange_of_nonneg nonneg bounded.le
  content_word := Bucket.inRange_settle (Bucket.word_of_read read) (Word.inRange_saturate _)

theorem foreign (left : s.Left kind key limit stamp content) {action : Action} (healthy : s.Healthy)
    (alien : action.Foreign s.base key) (order : s.now ≤ (s.step action).2.now) :
    (s.step action).2.Left kind key limit stamp content where
  contentPart := by
    rw [part_step_of_foreign healthy alien order, left.contentPart, Slot.aged_aged order]
  stampPart := by
    rw [part_step_of_foreign healthy alien order, left.stampPart, Slot.aged_aged order]
  stamp_nonneg := left.stamp_nonneg
  stamp_word := left.stamp_word
  content_word := left.content_word

end Left

/-! ## The invariant of a run -/

/-- The state of a bucket is what it is remembered to be, or it is over and no loss. -/
structure Remembers (s : Session) (kind : BucketKind) (key : LimitKey) (limit : Limit) (b : Bucket)
    (held : Option Int × Option Int) : Prop where
  bucket_eq : s.bucket kind key limit = b
  left : held = (none, none) ∧ s.part key kind.contentPart = .vacant ∧
      s.part key kind.stampPart = .vacant ∨
    ∃ content stamp, held = (some content, some stamp) ∧ s.Left kind key limit stamp content ∧
      0 ≤ b.spare (some content)

namespace Remembers

variable {b : Bucket} {held : Option Int × Option Int}

theorem foreign (remembers : s.Remembers kind key limit b held) {action : Action}
    (healthy : s.Healthy) (alien : action.Foreign s.base key)
    (order : s.now ≤ (s.step action).2.now) :
    (s.step action).2.Remembers kind key limit b held := by
  obtain ⟨bucket_eq, ⟨fresh, contentPart, stampPart⟩ | ⟨content, stamp, known, left, spare⟩⟩ :=
    remembers
  · refine ⟨by rw [← bucket_eq, bucket, base_step, bucket], .inl ⟨fresh, ?_, ?_⟩⟩
    · rw [part_step_of_foreign healthy alien order, contentPart, Slot.aged_vacant]
    · rw [part_step_of_foreign healthy alien order, stampPart, Slot.aged_vacant]
  · exact ⟨by rw [← bucket_eq, bucket, base_step, bucket],
      .inr ⟨content, stamp, known, left.foreign healthy alien order, spare⟩⟩

theorem word (remembers : s.Remembers kind key limit b held) : ∀ n ∈ held.1, Word.InRange n := by
  obtain ⟨-, ⟨rfl, -, -⟩ | ⟨content, stamp, rfl, left, -⟩⟩ := remembers
  · intro n member
    cases member
  · rintro n ⟨⟩
    exact left.content_word

theorem capacity_eq (remembers : s.Remembers kind key limit b held) (valid : limit.Valid) :
    b.capacity = limit.maxRequests := by
  rw [← remembers.bucket_eq]
  exact valid.capacity_eq

theorem windowMillis_eq (remembers : s.Remembers kind key limit b held) (valid : limit.Valid) :
    b.windowMillis = limit.window.millis := by
  rw [← remembers.bucket_eq]
  exact valid.windowMillis_eq

theorem ready_nonneg (remembers : s.Remembers kind key limit b held) (valid : limit.Valid)
    (now : Int) : 0 ≤ b.ready held.1 held.2 now := by
  have capacity := remembers.capacity_eq valid
  obtain ⟨-, ⟨rfl, -, -⟩ | ⟨content, stamp, rfl, -, spare⟩⟩ := remembers
  · rw [Bucket.ready_fresh]
    omega
  · exact Bucket.ready_nonneg spare (by omega)

/-- What a request finds is settled as what is remembered is, although it may be gone. -/
theorem exists_held (remembers : s.Remembers kind key limit b held) (valid : limit.Valid)
    (bounded : s.now < Word.maxValue) :
    ∃ found, s.held kind key limit = .ok found ∧
      b.settle found.1 found.2 s.now = b.settle held.1 held.2 s.now := by
  have word := remembers.word
  have capacity := remembers.capacity_eq valid
  have window := remembers.windowMillis_eq valid
  obtain ⟨-, ⟨rfl, contentPart, stampPart⟩ | ⟨content, stamp, rfl, left, spare⟩⟩ := remembers
  · exact ⟨(none, none), held_of_vacant contentPart stampPart, rfl⟩
  · by_cases recent : s.now < stamp + limit.window.millis
    · exact ⟨_, left.held_of_recent bounded recent, rfl⟩
    · -- The state is over, but so is a window, and the bucket is as good as fresh.
      refine ⟨(none, none), left.held_of_over bounded (by omega), ?_⟩
      have requests := valid.one_le_requests
      have requests_le := valid.requests_le
      have length := valid.one_le_window
      have idle : b.ready (some content) (some stamp) s.now = b.capacity :=
        Bucket.ready_of_idle spare (by omega) (by omega) (by omega) (by omega)
      apply Bucket.settle_eq_of_ready_eq (by simp) word
      · exact Word.inRange_of_nonneg (by omega) (by omega)
      · rw [Bucket.ready_fresh, idle]

theorem outcome_request (remembers : s.Remembers kind key limit b held) (ticket : String)
    (valid : limit.Valid) (counted : limit.algorithm = kind.algorithm) (healthy : s.Healthy)
    (bounded : s.now < Word.maxValue) :
    (s.request key limit ticket).outcome = .ok (b.settle held.1 held.2 s.now).admitted := by
  obtain ⟨found, read, same⟩ := remembers.exists_held valid bounded
  rw [outcome_bucket healthy counted, read, remembers.bucket_eq, ← same]
  rfl

theorem left_request (remembers : s.Remembers kind key limit b held) (ticket : String)
    (valid : limit.Valid) (counted : limit.algorithm = kind.algorithm) (healthy : s.Healthy)
    (nonneg : 0 ≤ s.now) (bounded : s.now < Word.maxValue) :
    (s.step (.evaluate key limit ticket)).2.Left kind key limit s.now
      (b.settle held.1 held.2 s.now).content := by
  obtain ⟨found, read, same⟩ := remembers.exists_held valid bounded
  rw [← same, ← remembers.bucket_eq]
  exact .of_request counted healthy nonneg bounded read

theorem own (remembers : s.Remembers kind key limit b held) (ticket : String)
    (valid : limit.Valid) (counted : limit.algorithm = kind.algorithm) (healthy : s.Healthy)
    (nonneg : 0 ≤ s.now) (bounded : s.now < Word.maxValue) :
    (s.step (.evaluate key limit ticket)).2.Remembers kind key limit b (b.settled held s.now) := by
  have left := remembers.left_request ticket valid counted healthy nonneg bounded
  have capacity : Word.InRange b.capacity := by
    rw [← remembers.bucket_eq]
    exact Word.inRange_saturate _
  refine ⟨by rw [← remembers.bucket_eq, bucket, base_step, bucket], .inr ⟨_, _, rfl, left, ?_⟩⟩
  exact Bucket.spare_settle_nonneg remembers.word capacity (remembers.ready_nonneg valid s.now)

end Remembers

end Session

/-- After any run the state of a bucket is what the ideal bucket remembers, or over and no loss. -/
theorem remembers_after {s : Session} {kind : BucketKind} {key : LimitKey} {limit : Limit}
    {run : List Action} (valid : limit.Valid) (counted : limit.algorithm = kind.algorithm)
    (traffic : Traffic key (· = limit) s run) (forward : Forward s.now run)
    (fresh : s.part key kind.contentPart = .vacant ∧ s.part key kind.stampPart = .vacant) :
    (s.after run).Remembers kind key limit (s.bucket kind key limit)
      ((s.bucket kind key limit).remembered ((s.requests key run).map Request.time)) := by
  let I (t : Session) (past : List Request) : Prop :=
    t.Remembers kind key limit (s.bucket kind key limit)
      ((s.bucket kind key limit).remembered (past.map Request.time))
  have kept : I (s.after run) ([] ++ s.requests key run) := by
    apply Traffic.invariant _ _ traffic forward
    · exact ⟨rfl, .inl ⟨rfl, fresh⟩⟩
    · intro t past other ticket healthy nonneg bounded same remembers
      obtain rfl : limit = other := same.symm
      have later := Session.Remembers.own remembers ticket valid counted healthy nonneg bounded
      rw [← Bucket.remembered_append_singleton] at later
      dsimp only [I]
      rw [List.map_append]
      exact later
    · intro t past action healthy alien order _ remembers
      exact remembers.foreign healthy alien order
  exact kept

/-- **The lifetime of a bucket loses nothing.**  After any run, with a clock that is never set back and
    from a state without the bucket, a request is decided as by a bucket that remembers all requests
    of the run for ever, and leaves the content that this bucket would have. -/
theorem expiry_loses_nothing (s : Session) (kind : BucketKind) (key : LimitKey) (limit : Limit)
    (run : List Action) (ticket : String) (valid : limit.Valid)
    (counted : limit.algorithm = kind.algorithm) (traffic : Traffic key (· = limit) s run)
    (forward : Forward s.now run)
    (fresh : s.part key kind.contentPart = .vacant ∧ s.part key kind.stampPart = .vacant) :
    let b := s.bucket kind key limit
    let held := b.remembered ((s.requests key run).map Request.time)
    let t := s.after run
    let outcome := b.settle held.1 held.2 t.now
    (t.request key limit ticket).outcome = .ok outcome.admitted ∧
      (t.step (.evaluate key limit ticket)).2.held kind key limit =
        .ok (some outcome.content, some t.now) := by
  intro b held t outcome
  have remembers : t.Remembers kind key limit b held :=
    remembers_after valid counted traffic forward fresh
  have healthy : t.Healthy := traffic.after.healthy
  obtain ⟨nonneg, bounded⟩ : 0 ≤ t.now ∧ t.now < Word.maxValue := traffic.after.inTime.now
  have left := remembers.left_request ticket valid counted healthy nonneg bounded
  have length := valid.one_le_window
  refine ⟨remembers.outcome_request ticket valid counted healthy bounded, ?_⟩
  -- The state that was just written is live, and a request does not move the clock.
  apply left.held_of_recent bounded
  rw [Session.now_step]
  exact Int.lt_add_of_pos_right t.now (by omega)

/-- A full queue that nobody looks at for a window and a half: its slots are gone, and it is empty. -/
theorem expiry_loses_nothing_idle :
    let key := LimitKey.ofEndpoint "search" "query"
    let limit : Limit := ⟨"search", some "query", .leakyBucket, 2, .ofMillis 1000⟩
    let s := Session.start ⟨"limits", none⟩ .whole 0
    let run : List Action := [.evaluate key limit "a", .evaluate key limit "b",
      .evaluate key limit "c", .setClock 1500, .purge]
    let t := s.after run
    limit.Valid ∧ Traffic key (· = limit) s run ∧ Forward s.now run ∧
      (s.part key BucketKind.level.contentPart = .vacant ∧
        s.part key BucketKind.level.stampPart = .vacant) ∧
      (t.request key limit "d").outcome = .ok true ∧
      (t.step (.evaluate key limit "d")).2.held .level key limit = .ok (some 1, some 1500) := by
  intro key limit s run t
  have valid : limit.Valid := ⟨by decide, by decide, by decide, by decide⟩
  have traffic : Traffic key (· = limit) s run :=
    ⟨rfl, by decide, by simp [run, Action.Foreign]⟩
  have forward : Forward s.now run := by decide
  have times : (s.requests key run).map Request.time = [0, 0, 0] := by decide +kernel
  have clock : (s.after run).now = 1500 := rfl
  let b := s.bucket .level key limit
  have drained : b.settle (b.remembered [0, 0, 0]).1 (b.remembered [0, 0, 0]).2 1500 = ⟨true, 1⟩ := by
    decide
  obtain ⟨decided, left⟩ :=
    expiry_loses_nothing s .level key limit run "d" valid rfl traffic forward ⟨rfl, rfl⟩
  rw [times, clock, drained] at decided left
  exact ⟨valid, traffic, forward, ⟨rfl, rfl⟩, decided, left⟩

end Throttle
