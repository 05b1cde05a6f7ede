import Throttle.Proofs.SlidingWindow

/-!
# The rolling count and the closed window

An entry of a log is meant to count until it is older than its window, so that one of exactly a window
ago still counts.  The trim of a request keeps it.  But the lifetime of a log is over at the end of the
window of its last request, and then the log is dropped as a whole: a request that follows its
predecessor after exactly one window finds nothing, unless others came in between and kept the log.

`rolling_count_of_requests` says which requests are decided by the closed window and what decides the
others.  `closed_window_forgotten` is a run in which the closed window would have denied a request.
-/

namespace Throttle

variable {limit : Limit} {earlier : List Request} {now : Int}

/-- No request fell strictly inside the window that ends now.  A log that was last written earlier is
    then over, even if its last request is in the closed window. -/
def Lapsed (limit : Limit) (earlier : List Request) (now : Int) : Prop :=
  ∀ e ∈ earlier, ¬(now - limit.window.millis < e.time ∧ e.time < now)

instance (limit : Limit) (earlier : List Request) (now : Int) : Decidable (Lapsed limit earlier now) :=
  inferInstanceAs (Decidable (∀ e ∈ earlier, _))

namespace Limit

theorem length_counted_of_not_lapsed (latest : ∀ e ∈ earlier, e.time ≤ now)
    (alive : ¬Lapsed limit earlier now) :
    (limit.counted (earlier.map Request.time) now).length =
      earlier.countP (Request.during (now - limit.window.millis) now) := by
  obtain ⟨between, made, inside⟩ : ∃ e ∈ earlier,
      now - limit.window.millis < e.time ∧ e.time < now := by
    simpa [Lapsed] using alive
  rw [length_counted, List.countP_map]
  apply List.countP_congr
  intro e member
  have before := latest e member
  simp only [Function.comp_apply, counts_eq_true_iff, Request.during, Bool.and_eq_true,
    decide_eq_true_eq]
  constructor
  · omega
  · rintro ⟨start, -⟩
    rcases Int.lt_or_eq_of_le start with later | edge
    · exact .inl later
    · -- The request inside the window has kept those at its first instant.
      exact .inr ⟨edge.symm, between.time, List.mem_map_of_mem made, edge ▸ inside.1, inside.2⟩

theorem length_counted_of_lapsed (latest : ∀ e ∈ earlier, e.time ≤ now)
    (lapsed : Lapsed limit earlier now) :
    (limit.counted (earlier.map Request.time) now).length =
      earlier.countP (Request.during (now - limit.window.millis + 1) now) := by
  rw [length_counted, List.countP_map]
  apply List.countP_congr
  intro e member
  have before := latest e member
  have apart : ¬∃ t ∈ earlier.map Request.time, now - limit.window.millis < t ∧ t < now := by
    simpa [Lapsed] using lapsed
  simp only [Function.comp_apply, counts_eq_true_iff, Request.during, Bool.and_eq_true,
    decide_eq_true_eq]
  constructor
  · rintro (inside | ⟨first, between⟩)
    · omega
    · exact absurd (first ▸ between) apart
  · omega

end Limit

/-- How many requests of the closed window that ends with `r` there are, `r` among them. -/
def closedCount (limit : Limit) (earlier : List Request) (r : Request) : Nat :=
  earlier.countP (Request.during (r.time - limit.window.millis) r.time) + 1

/-- The same without the first instant of the window. -/
def openCount (limit : Limit) (earlier : List Request) (r : Request) : Nat :=
  earlier.countP (Request.during (r.time - limit.window.millis + 1) r.time) + 1

theorem openCount_le_closedCount (limit : Limit) (earlier : List Request) (r : Request) :
    openCount limit earlier r ≤ closedCount limit earlier r := by
  apply Nat.succ_le_succ
  apply List.countP_mono_left
  intro e _ inside
  simp only [Request.during, Bool.and_eq_true, decide_eq_true_eq] at inside ⊢
  omega

/-- The number that decides a request: of the closed window as long as the log is alive. -/
def rollingCount (limit : Limit) (earlier : List Request) (r : Request) : Nat :=
  if Lapsed limit earlier r.time then openCount limit earlier r else closedCount limit earlier r

theorem length_counted_eq_rollingCount {r : Request} (latest : ∀ e ∈ earlier, e.time ≤ r.time) :
    (limit.counted (earlier.map Request.time) r.time).length + 1 = rollingCount limit earlier r := by
  unfold rollingCount
  split
  · rename_i lapsed
    rw [Limit.length_counted_of_lapsed latest lapsed, openCount]
  · rename_i alive
    rw [Limit.length_counted_of_not_lapsed latest alive, closedCount]

theorem rollingCount_differs_iff {r : Request} {most : Nat} :
    (¬(rollingCount limit earlier r ≤ most ↔ closedCount limit earlier r ≤ most)) ↔
      Lapsed limit earlier r.time ∧ openCount limit earlier r ≤ most ∧
        most < closedCount limit earlier r := by
  have fewer := openCount_le_closedCount limit earlier r
  unfold rollingCount
  split
  · rename_i lapsed
    simp only [lapsed, true_and]
    omega
  · rename_i alive
    simp only [alive, false_and, iff_false, not_not]

/-- **What decides a request under a sliding window.**  From a state without a log, with a clock that is
    never set back and with members that are all different, a request is admitted iff the requests of
    its closed window are no more than the limit, as long as one of the earlier ones fell strictly
    inside that window.  Otherwise those at its first instant are left out, and it is the verdict of
    the closed window that is missed iff they make the difference. -/
theorem rolling_count_of_requests (s : Session) (key : LimitKey) (limit : Limit) (run : List Action)
    (valid : limit.Valid) (counted : limit.algorithm = .slidingWindow)
    (traffic : Traffic key (· = limit) s run) (forward : Forward s.now run)
    (distinct : ((s.requests key run).map Request.member).Nodup)
    (fresh : s.part key "sw" = .vacant) :
    Throughout (fun earlier r =>
      (¬Lapsed limit earlier r.time →
        r.outcome = .ok (decide (closedCount limit earlier r ≤ limit.maxRequests))) ∧
      (Lapsed limit earlier r.time →
        r.outcome = .ok (decide (openCount limit earlier r ≤ limit.maxRequests))) ∧
      (r.outcome ≠ .ok (decide (closedCount limit earlier r ≤ limit.maxRequests)) ↔
        Lapsed limit earlier r.time ∧ openCount limit earlier r ≤ limit.maxRequests ∧
          limit.maxRequests < closedCount limit earlier r))
      (s.requests key run) := by
  intro earlier r later split
  have latest : ∀ e ∈ earlier, e.time ≤ r.time := Session.earlier_le forward split
  have decided : r.outcome = .ok (decide (rollingCount limit earlier r ≤ limit.maxRequests)) := by
    rw [← length_counted_eq_rollingCount latest]
    exact Session.throughout_slidingWindow valid counted traffic forward distinct fresh
      earlier r later split
  refine ⟨fun alive => ?_, fun lapsed => ?_, ?_⟩
  · rw [decided, rollingCount, if_neg alive]
  · rw [decided, rollingCount, if_pos lapsed]
  · rw [decided, ← rollingCount_differs_iff, ne_eq, Except.ok.injEq, decide_eq_decide]

/-- The third request comes one window after the first two and finds no log; the fifth comes one window
    after the third, with the fourth in between. -/
theorem rolling_count_of_requests_five :
    let key := LimitKey.ofEndpoint "search" "query"
    let limit : Limit := ⟨"search", some "query", .slidingWindow, 2, .ofMillis 1000⟩
    let s := Session.start ⟨"limits", none⟩ .inSteps 0
    let two : List Action := [.evaluate key limit "a", .evaluate key limit "b", .setClock 1000]
    let four : List Action := two ++ [.evaluate key limit "c", .setClock 1500,
      .evaluate key limit "d", .setClock 2000]
    let run : List Action := four ++ [.evaluate key limit "e"]
    let third := (s.after two).request key limit "c"
    let fifth := (s.after four).request key limit "e"
    limit.Valid ∧ Traffic key (· = limit) s run ∧ Forward s.now run ∧
      ((s.requests key run).map Request.member).Nodup ∧ s.part key "sw" = .vacant ∧
      closedCount limit (s.requests key two) third = 3 ∧ third.outcome = .ok true ∧
      closedCount limit (s.requests key four) fifth = 3 ∧ fifth.outcome = .ok false := by
  intro key limit s two four run third fifth
  have valid : limit.Valid := ⟨by decide, by decide, by decide, by decide⟩
  have traffic : Traffic key (· = limit) s run :=
    ⟨rfl, by decide, by simp [run, four, two, Action.Foreign]⟩
  have forward : Forward s.now run := by decide
  have distinct : ((s.requests key run).map Request.member).Nodup := by
    decide +kernel
  have fresh : s.part key "sw" = .vacant := rfl
  have all := rolling_count_of_requests s key limit run valid rfl traffic forward distinct fresh
  have lapsed : Lapsed limit (s.requests key two) third.time := by decide +kernel
  have alive : ¬Lapsed limit (s.requests key four) fifth.time := by decide +kernel
  refine ⟨valid, traffic, forward, distinct, fresh, by decide +kernel, ?_, by decide +kernel, ?_⟩
  · rw [(Throughout.request two all).2.1 lapsed]
    decide +kernel
  · rw [(Throughout.request four all).1 alive]
    decide +kernel

/-- The second request is exactly one window after the first, and both are in its closed window. -/
theorem closed_window_forgotten :
    let key := LimitKey.ofEndpoint "search" "query"
    let limit : Limit := ⟨"search", some "query", .slidingWindow, 1, .ofMillis 1000⟩
    let s := Session.start ⟨"limits", none⟩ .whole 0
    let one : List Action := [.evaluate key limit "a", .setClock 1000]
    let run : List Action := one ++ [.evaluate key limit "b"]
    limit.Valid ∧ limit.algorithm = .slidingWindow ∧ Traffic key (· = limit) s run ∧
      Forward s.now run ∧ ((s.requests key run).map Request.member).Nodup ∧
      s.part key "sw" = .vacant ∧
      ¬Throughout (fun earlier r =>
        r.admitted = true ↔ closedCount limit earlier r ≤ limit.maxRequests) (s.requests key run) := by
  intro key limit s one run
  refine ⟨⟨by decide, by decide, by decide, by decide⟩, rfl,
    ⟨rfl, by decide, by simp [run, one, Action.Foreign]⟩, by decide, by decide +kernel, rfl, ?_⟩
  intro documented
  have admitted : ((s.after one).request key limit "b").admitted = true := by decide +kernel
  have counted := (Throughout.request one documented).mp admitted
  exact absurd counted (by decide +kernel)

end Throttle
