import Throttle.Proofs.LastingBucket

/-!
# How much a bucket admits

However requests, purges, foreign actions and movements of the clock are mixed, a bucket admits no
more than its capacity and what accrues while the clock moves forward between its requests.  The
clock may also go back: what it moves back is lost for the bucket, and what it then moves forward
again counts.

The proof keeps a potential.  `Credit` bounds what the state of a bucket is good for: with
`avail` to spare when it was last written, and a clock that has moved forward by `moved` since then.
A slot that was dropped gives no more than time did, as it lived for a whole window
(`Credit.foreign`).
-/

namespace Throttle

/-- The requests that accrue to a limit in a number of milliseconds, in whole ones. -/
def Limit.accrual (l : Limit) (elapsed : Int) : Int := elapsed * l.maxRequests / l.window.millis

@[simp] theorem Limit.accrual_zero (l : Limit) : l.accrual 0 = 0 := by
  rw [accrual, Int.zero_mul, Int.zero_ediv]

/-! ## The movements of the clock -/

/-- How far the clock moves forward before each request for a key: since the request before it or,
    for the first one, on top of what it has moved already. -/
def forwardGaps (key : LimitKey) : (now moved : Int) → List Action → List Int
  | _, _, [] => []
  | now, moved, .setClock reading :: rest =>
    forwardGaps key reading (moved + max 0 (reading - now)) rest
  | now, moved, .evaluate k _ _ :: rest =>
    if k = key then moved :: forwardGaps key now 0 rest else forwardGaps key now moved rest
  | now, moved, _ :: rest => forwardGaps key now moved rest

section

variable {key : LimitKey} {limit : Limit} {ticket : String} {now moved : Int} {action : Action}
  {rest : List Action}

theorem forwardGaps_own :
    forwardGaps key now moved (.evaluate key limit ticket :: rest) =
      moved :: forwardGaps key now 0 rest :=
  if_pos rfl

theorem forwardGaps_foreign {base : String} (foreign : action.Foreign base key) :
    forwardGaps key now moved (action :: rest) =
      forwardGaps key (action.reading?.getD now)
        (moved + max 0 (action.reading?.getD now - now)) rest := by
  -- An action that does not set the clock moves it by nothing.
  have still : moved + max 0 (now - now) = moved := by omega
  cases action with
  | setClock reading => rfl
  | evaluate k l t =>
    rw [forwardGaps, if_neg foreign]
    exact (congrArg (forwardGaps key now · rest) still).symm
  | allow _ _ _ | resolve _ _ | publish _ _ | publishRules _ _ | call _ | purge =>
    exact (congrArg (forwardGaps key now · rest) still).symm

end

/-! ## The potential -/

/-- The state of a bucket as a request at `stamp` wrote it, whether or not it is over. -/
structure Session.Written (s : Session) (kind : BucketKind) (key : LimitKey) (limit : Limit)
    (stamp content : Int) : Prop where
  contentSlot : s.store.inner.rawSlot (key.stateKey s.base kind.contentPart) =
    ⟨some (.scalar (Decimal.write content)), some (deadlineAfter stamp limit.window)⟩
  stampSlot : s.store.inner.rawSlot (key.stateKey s.base kind.stampPart) =
    ⟨some (.scalar (Decimal.write stamp)), some (deadlineAfter stamp limit.window)⟩
  stamp_nonneg : 0 ≤ stamp
  stamp_word : Word.InRange stamp
  content_word : Word.InRange content

/-- The state of a bucket is good for `avail` requests and what accrues in `moved` milliseconds.
    Any state is, where `avail` makes up the capacity or `moved` a window. -/
structure Credit (kind : BucketKind) (key : LimitKey) (limit : Limit) (s : Session)
    (moved avail : Int) : Prop where
  moved_nonneg : 0 ≤ moved
  avail_nonneg : 0 ≤ avail
  backed : limit.maxRequests ≤ avail ∨ limit.window.millis ≤ moved ∨
    ∃ stamp content, s.Written kind key limit stamp content ∧ s.now - stamp ≤ moved ∧
      (s.bucket kind key limit).spare (some content) ≤ avail

namespace Session.Written

variable {kind : BucketKind} {key : LimitKey} {limit : Limit} {s : Session} {stamp content : Int}

theorem live (written : s.Written kind key limit stamp content)
    (bounded : s.now < Word.maxValue) (recent : s.now - stamp < limit.window.millis)
    (text : String) :
    Slot.live s.now ⟨some (.scalar text), some (deadlineAfter stamp limit.window)⟩ = true := by
  rw [Slot.live_written written.stamp_nonneg bounded]
  exact decide_eq_true (by omega)

theorem left (written : s.Written kind key limit stamp content) :
    s.Left kind key limit stamp content where
  contentPart := congrArg (Slot.aged s.now) written.contentSlot
  stampPart := congrArg (Slot.aged s.now) written.stampSlot
  stamp_nonneg := written.stamp_nonneg
  stamp_word := written.stamp_word
  content_word := written.content_word

theorem held_eq (written : s.Written kind key limit stamp content)
    (bounded : s.now < Word.maxValue) (recent : s.now - stamp < limit.window.millis) :
    s.held kind key limit = .ok (some content, some stamp) :=
  written.left.held_of_recent bounded (by omega)

theorem step (written : s.Written kind key limit stamp content) (healthy : s.Healthy)
    (bounded : s.now < Word.maxValue) (recent : s.now - stamp < limit.window.millis)
    {action : Action} (alien : action.Foreign s.base key) :
    (s.step action).2.Written kind key limit stamp content := by
  have alive := written.live bounded recent
  obtain ⟨contentSlot, stampSlot, stamp_nonneg, stamp_word, content_word⟩ := written
  -- A slot that is still live is not dropped, so it stays as it was written, text and deadline.
  refine ⟨?_, ?_, stamp_nonneg, stamp_word, content_word⟩
  · rw [Session.base_step, ← contentSlot]
    apply (Session.step_keeps healthy alien _).rawSlot_eq
    rw [contentSlot]
    exact alive _
  · rw [Session.base_step, ← stampSlot]
    apply (Session.step_keeps healthy alien _).rawSlot_eq
    rw [stampSlot]
    exact alive _

theorem of_request {held : Option Int × Option Int} {ticket : String} (valid : limit.Valid)
    (counted : limit.algorithm = kind.algorithm) (healthy : s.Healthy) (nonneg : 0 ≤ s.now)
    (bounded : s.now < Word.maxValue) (read : s.held kind key limit = .ok held) :
    (s.step (.evaluate key limit ticket)).2.Written kind key limit s.now
      ((s.bucket kind key limit).settle held.1 held.2 s.now).content := by
  have content : (s.step (.evaluate key limit ticket)).2.part _ _ = _ :=
    Session.content_bucket healthy counted read
  have stamp : (s.step (.evaluate key limit ticket)).2.part _ _ = _ :=
    Session.stamp_bucket healthy counted read
  -- A slot that was just written is live, so what is left of it is the slot itself.
  rw [valid.aged_eq nonneg bounded] at content stamp
  refine ⟨?_, ?_, nonneg, ?_, ?_⟩
  · exact Slot.eq_of_aged_eq content rfl
  · exact Slot.eq_of_aged_eq stamp rfl
  · exact Word.inRange_of_nonneg nonneg bounded.le
  · exact Bucket.inRange_settle (Bucket.word_of_read read) (Word.inRange_saturate _)

end Session.Written

namespace Credit

variable {kind : BucketKind} {key : LimitKey} {limit : Limit} {s : Session} {moved avail : Int}
  {action : Action} {ticket : String}

/-- Foreign actions and the clock give no credit but by the time that passes. -/
theorem foreign (credit : Credit kind key limit s moved avail) (healthy : s.Healthy)
    (bounded : s.now < Word.maxValue) (alien : action.Foreign s.base key) :
    Credit kind key limit (s.step action).2
      (moved + max 0 ((s.step action).2.now - s.now)) avail := by
  obtain ⟨moved_nonneg, avail_nonneg, backed⟩ := credit
  refine ⟨by omega, avail_nonneg, ?_⟩
  obtain full | idle | ⟨stamp, content, written, elapsed, spare⟩ := backed
  · exact .inl full
  · exact .inr (.inl (by omega))
  · by_cases recent : s.now - stamp < limit.window.millis
    · refine .inr (.inr ⟨stamp, content, ?_, by omega, ?_⟩)
      · exact written.step healthy bounded recent alien
      · rw [Session.bucket, Session.base_step]
        exact spare
    · -- The slots may be dropped here, but they have lived for a window.
      exact .inr (.inl (by omega))

theorem accrual_nonneg (credit : Credit kind key limit s moved avail) :
    0 ≤ limit.accrual moved :=
  Int.ediv_nonneg (Int.mul_nonneg credit.moved_nonneg (by omega)) (by omega)

theorem full_of_idle (valid : limit.Valid) (idle : limit.window.millis ≤ moved) :
    (limit.maxRequests : Int) ≤ limit.accrual moved := by
  have length := valid.one_le_window
  -- In a whole window the whole capacity accrues.
  apply Int.le_ediv_of_mul_le (by omega)
  rw [Int.mul_comm]
  exact Int.mul_le_mul_of_nonneg_right idle (by omega)

/-- A credit is worth the capacity by now, or the state it rests on is less than a window old. -/
theorem full_or_recent (credit : Credit kind key limit s moved avail) (valid : limit.Valid) :
    (limit.maxRequests : Int) ≤ avail + limit.accrual moved ∨
      ∃ stamp content, s.Written kind key limit stamp content ∧ s.now - stamp ≤ moved ∧
        (s.bucket kind key limit).spare (some content) ≤ avail ∧
        s.now - stamp < limit.window.millis := by
  have accrual := credit.accrual_nonneg
  have avail_nonneg := credit.avail_nonneg
  obtain covered | idle | ⟨stamp, content, written, elapsed, spare⟩ := credit.backed
  · exact .inl (by omega)
  · have full := full_of_idle valid idle
    exact .inl (by omega)
  · by_cases recent : s.now - stamp < limit.window.millis
    · exact .inr ⟨stamp, content, written, elapsed, spare, recent⟩
    · have full := full_of_idle valid (by omega : limit.window.millis ≤ moved)
      exact .inl (by omega)

/-- What a request finds is covered by the credit and by the time that has passed. -/
theorem ready_le (credit : Credit kind key limit s moved avail) (valid : limit.Valid)
    (bounded : s.now < Word.maxValue) {held : Option Int × Option Int}
    (read : s.held kind key limit = .ok held) :
    (s.bucket kind key limit).ready held.1 held.2 s.now ≤ avail + limit.accrual moved := by
  have capacity : (s.bucket kind key limit).capacity = limit.maxRequests := valid.capacity_eq
  have window : (s.bucket kind key limit).windowMillis = limit.window.millis := valid.windowMillis_eq
  obtain full | ⟨stamp, content, written, elapsed, spare, recent⟩ := credit.full_or_recent valid
  · have capped := Bucket.ready_le_capacity (s.bucket kind key limit) held.1 held.2 s.now
    omega
  · -- Both slots are still there, so the request finds what the last one wrote.
    rw [written.held_eq bounded recent] at read
    obtain rfl := Except.ok.inj read
    have length : (0 : Int) < limit.window.millis := by
      have := valid.one_le_window
      omega
    have gained : accrued _ _ _ ≤ limit.accrual moved :=
      accrued_le elapsed credit.moved_nonneg (by omega : (0 : Int) ≤ limit.maxRequests) length
    rw [Bucket.ready, capacity, window]
    dsimp only [Option.getD_some]
    omega

theorem after_failure {error : LimiterError} (credit : Credit kind key limit s moved avail)
    (valid : limit.Valid) (bounded : s.now < Word.maxValue)
    (read : s.held kind key limit = .error error) :
    (limit.maxRequests : Int) ≤ avail + limit.accrual moved := by
  obtain full | ⟨stamp, content, written, -, -, recent⟩ := credit.full_or_recent valid
  · exact full
  · rw [written.held_eq bounded recent] at read
    cases read

theorem own (credit : Credit kind key limit s moved avail) (ticket : String) (valid : limit.Valid)
    (counted : limit.algorithm = kind.algorithm) (healthy : s.Healthy) (nonneg : 0 ≤ s.now)
    (bounded : s.now < Word.maxValue) :
    Credit kind key limit (s.step (.evaluate key limit ticket)).2 0
      (avail + limit.accrual moved -
        (s.request key limit ticket).admitted.toInt) := by
  have outcome : (s.request key limit ticket).outcome = _ := Session.outcome_bucket healthy counted
  have accrual := credit.accrual_nonneg
  have avail_nonneg := credit.avail_nonneg
  cases read : s.held kind key limit with
  | error error =>
    -- No request of this window wrote a state that cannot be read, so the credit is full.
    have covered := credit.after_failure valid bounded read
    have refused : (s.request key limit ticket).admitted = false := by
      rw [Request.admitted, outcome, read]
      rfl
    rw [refused, Bool.toInt_false]
    exact ⟨le_rfl, by omega, .inl (by omega)⟩
  | ok held =>
    have word := Bucket.word_of_read read
    have capacity : Word.InRange (s.bucket kind key limit).capacity := Word.inRange_saturate _
    -- What is left to spare is what was ready less the admission, so the credit pays for it.
    have ready := credit.ready_le valid bounded read
    have spent : (s.bucket kind key limit).spare (some ((s.bucket kind key limit).settle held.1
        held.2 s.now).content) = _ :=
      Bucket.spare_settle word capacity
    have admitted : (s.request key limit ticket).admitted =
        ((s.bucket kind key limit).settle held.1 held.2 s.now).admitted := by
      rw [Request.admitted, outcome, read]
      rfl
    have decided : ((s.bucket kind key limit).settle held.1 held.2 s.now).admitted = _ :=
      Bucket.admitted_settle word capacity
    rw [admitted]
    refine ⟨le_rfl, ?_, .inr (.inr ⟨s.now,
      ((s.bucket kind key limit).settle held.1 held.2 s.now).content, ?_, ?_, ?_⟩)⟩
    · rw [decided]
      by_cases some_ready : 0 < (s.bucket kind key limit).ready held.1 held.2 s.now
      · simp only [some_ready, decide_true, Bool.toInt_true]
        omega
      · simp only [some_ready, decide_false, Bool.toInt_false]
        omega
    · exact Session.Written.of_request valid counted healthy nonneg bounded read
    · rw [Session.now_step]
      exact (Int.sub_self s.now).le
    · rw [Session.bucket, Session.base_step]
      exact spent.le.trans (by omega)

/-- A run admits no more than the credit it starts with and what accrues in its gaps. -/
theorem admitted_le (valid : limit.Valid) (counted : limit.algorithm = kind.algorithm) :
    ∀ {run : List Action} {s : Session} {moved avail : Int}, Traffic key (· = limit) s run →
      Credit kind key limit s moved avail →
      ((s.requests key run).countP Request.admitted : Int) ≤ avail +
        ((forwardGaps key s.now moved run).map limit.accrual).sum
  | [], s, moved, avail, _, credit => by
    have := credit.avail_nonneg
    simpa [forwardGaps] using this
  | action :: rest, s, moved, avail, traffic, credit => by
    obtain ⟨nonneg, bounded⟩ := traffic.inTime.now
    obtain alien | ⟨limit', ticket, rfl, same⟩ := traffic.actions action List.mem_cons_self
    · have kept := credit.foreign traffic.healthy bounded alien
      rw [Session.requests_foreign s alien, forwardGaps_foreign alien, ← Session.now_step]
      exact admitted_le valid counted traffic.tail kept
    · obtain rfl : limit = limit' := same.symm
      have spent := credit.own ticket valid counted traffic.healthy nonneg bounded
      -- The gap before this request is spent with it; the next one starts at nothing.
      have later := admitted_le valid counted traffic.tail spent
      have still : (s.step (.evaluate key limit ticket)).2.now = s.now := Session.now_step s _
      rw [still] at later
      rw [Session.requests_own, forwardGaps_own, List.countP_cons, List.map_cons, List.sum_cons]
      cases admitted : (s.request key limit ticket).admitted with
      | true =>
        rw [admitted, Bool.toInt_true] at later
        simp only [if_true]
        push_cast
        omega
      | false =>
        rw [admitted, Bool.toInt_false] at later
        simp only [Bool.false_eq_true, if_false]
        omega

end Credit

/-! ## The bound -/

/-- What the clock does before the first request gives nothing: whatever the state of a bucket is,
    it is good for the capacity at most. -/
theorem admitted_le_sum_tail {kind : BucketKind} {key : LimitKey} {limit : Limit}
    (valid : limit.Valid) (counted : limit.algorithm = kind.algorithm) :
    ∀ {run : List Action} {s : Session} (moved : Int), Traffic key (· = limit) s run →
      ((s.requests key run).countP Request.admitted : Int) ≤ limit.maxRequests +
        ((forwardGaps key s.now moved run).tail.map limit.accrual).sum
  | [], s, moved, _ => by simp [forwardGaps]
  | action :: rest, s, moved, traffic => by
    obtain ⟨nonneg, bounded⟩ := traffic.inTime.now
    obtain alien | ⟨limit', ticket, rfl, same⟩ := traffic.actions action List.mem_cons_self
    · rw [Session.requests_foreign s alien, forwardGaps_foreign alien, ← Session.now_step]
      exact admitted_le_sum_tail valid counted _ traffic.tail
    · obtain rfl : limit = limit' := same.symm
      -- Whatever the state is, the capacity covers it, so the gap before the first request is free.
      have credit : Credit kind key limit s 0 limit.maxRequests := ⟨le_rfl, by omega, .inl le_rfl⟩
      have all := credit.admitted_le valid counted traffic
      rw [forwardGaps_own, List.map_cons, List.sum_cons, Limit.accrual_zero] at all
      rw [forwardGaps_own, List.tail_cons]
      omega

/-- **A bucket admits its capacity and what accrues between its requests.**  From any state of the
    store, under requests against one limit mixed with foreign actions and any movements of the clock,
    the admissions are bounded by the sum over the gaps between requests, and so by the whole
    forward movement of the clock between the first request and the last. -/
theorem bucket_admissions_le (s : Session) (key : LimitKey) (limit : Limit) (run : List Action)
    (valid : limit.Valid)
    (counted : limit.algorithm = .tokenBucket ∨ limit.algorithm = .leakyBucket)
    (traffic : Traffic key (· = limit) s run) :
    let admitted : Int := (s.requests key run).countP Request.admitted
    let gaps := (forwardGaps key s.now 0 run).tail
    admitted ≤ limit.maxRequests + (gaps.map limit.accrual).sum ∧
      admitted ≤ limit.maxRequests + limit.accrual gaps.sum := by
  intro admitted gaps
  obtain ⟨kind, counted⟩ : ∃ kind : BucketKind, limit.algorithm = kind.algorithm := by
    cases counted with
    | inl tokens => exact ⟨.tokens, tokens⟩
    | inr level => exact ⟨.level, level⟩
  have length := valid.one_le_window
  have bound : admitted ≤ _ := admitted_le_sum_tail valid counted 0 traffic
  have whole : (gaps.map limit.accrual).sum ≤ limit.accrual gaps.sum :=
    sum_accrual_le (by omega) gaps
  exact ⟨bound, bound.trans (Int.add_le_add_left whole _)⟩

/-- Two requests in a second: half a second after a burst, a third one may be admitted. -/
theorem bucket_admissions_le_three :
    let key := LimitKey.ofEndpoint "search" "query"
    let limit : Limit := ⟨"search", some "query", .tokenBucket, 2, .ofMillis 1000⟩
    let s := Session.start ⟨"limits", none⟩ .inSteps 0
    let run : List Action := [.evaluate key limit "a", .evaluate key limit "b", .setClock 900,
      .purge, .setClock 400, .allow "search" "index" "c", .setClock 0, .setClock 500,
      .evaluate key limit "d"]
    limit.Valid ∧ Traffic key (· = limit) s run ∧
      ((s.requests key run).countP Request.admitted : Int) ≤ 2 + (0 + 2) := by
  intro key limit s run
  have valid : limit.Valid := ⟨by decide, by decide, by decide, by decide⟩
  have traffic : Traffic key (· = limit) s run :=
    ⟨rfl, by decide, by simp [run, s, key, Action.Foreign, LimitKey.ofEndpoint]⟩
  have bound := (bucket_admissions_le s key limit run valid (.inl rfl) traffic).1
  have gaps : ((forwardGaps key s.now 0 run).tail.map limit.accrual).sum = 0 + 2 := by decide
  rw [gaps] at bound
  exact ⟨valid, traffic, bound⟩

end Throttle
