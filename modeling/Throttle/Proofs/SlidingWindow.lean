import Throttle.Proofs.LogCount

/-!
# The bounds of sliding windows

A sliding window logs every request, admitted or not, and decides by how many the log holds.  The
log loses requests in two ways: a request trims what is older than a window before it, and the whole
log is dropped a window after its last request.  A request at the very start of the window is kept
by the one and dropped by the other, so that the window alone does not tell the count.
`Bracketed` says that it lies between the requests of the window without its first instant and those
of the window with it, and both bounds follow from that.
-/

namespace Throttle

/-! ## What the past says of a count -/

/-- The request was made from `start` to `finish`, both included. -/
def Request.during (start finish : Int) (r : Request) : Bool :=
  decide (start ≤ r.time) && decide (r.time ≤ finish)

/-- The request was decided by a count of itself and of earlier requests: of all in the window that
    ends with it, but perhaps without those at the first instant of that window. -/
def Bracketed (limit : Limit) (earlier : List Request) (r : Request) : Prop :=
  ∃ count : Nat, r.outcome = .ok (decide (count ≤ limit.maxRequests)) ∧
    earlier.countP (Request.during (r.time - limit.window.millis + 1) r.time) + 1 ≤ count ∧
    count ≤ earlier.countP (Request.during (r.time - limit.window.millis) r.time) + 1

def AllBracketed (limit : Limit) (requests : List Request) : Prop :=
  ∀ earlier r later, requests = earlier ++ r :: later → Bracketed limit earlier r

/-- What the log still holds of the past lies between the two windows. -/
theorem bracketed_of_counted {limit : Limit} {earlier : List Request} {r : Request}
    (latest : ∀ e ∈ earlier, e.time ≤ r.time)
    (decided : r.outcome = .ok (decide
      ((limit.counted (earlier.map Request.time) r.time).length + 1 ≤ limit.maxRequests))) :
    Bracketed limit earlier r := by
  have length : (limit.counted (earlier.map Request.time) r.time).length =
      earlier.countP (limit.counts (earlier.map Request.time) r.time ∘ Request.time) := by
    rw [Limit.length_counted, List.countP_map]
  refine ⟨_, decided, ?_, ?_⟩
  · rw [length]
    apply Nat.succ_le_succ
    apply List.countP_mono_left
    intro e _ inside
    simp only [Request.during, Bool.and_eq_true, decide_eq_true_eq] at inside
    exact Limit.counts_eq_true_iff.mpr (.inl (by omega))
  · rw [length]
    apply Nat.succ_le_succ
    apply List.countP_mono_left
    intro e member counted
    have before := latest e member
    simp only [Request.during, Bool.and_eq_true, decide_eq_true_eq]
    rcases Limit.counts_eq_true_iff.mp counted with inside | ⟨first, -⟩
    · omega
    · omega

/-! ## The bounds -/

/-- Every request of a run is decided by the requests in its window. -/
theorem allBracketed_requests {s : Session} {key : LimitKey} {limit : Limit} {run : List Action}
    (valid : limit.Valid) (counted : limit.algorithm = .slidingWindow)
    (traffic : Traffic key (· = limit) s run) (forward : Forward s.now run)
    (distinct : ((s.requests key run).map Request.member).Nodup)
    (fresh : s.part key "sw" = .vacant) : AllBracketed limit (s.requests key run) := by
  have decided :=
    Session.throughout_slidingWindow valid counted traffic forward distinct fresh
  intro earlier r later split
  exact bracketed_of_counted (Session.earlier_le forward split) (decided earlier r later split)

theorem Bracketed.exists_outcome {limit : Limit} {earlier : List Request} {r : Request}
    (bracketed : Bracketed limit earlier r) : ∃ admitted, r.outcome = .ok admitted := by
  obtain ⟨count, outcome, -⟩ := bracketed
  exact ⟨_, outcome⟩

theorem Bracketed.le_of_denied {limit : Limit} {earlier : List Request} {r : Request}
    (bracketed : Bracketed limit earlier r) (denied : r.outcome = .ok false) :
    limit.maxRequests ≤
      earlier.countP (Request.during (r.time - limit.window.millis) r.time) := by
  obtain ⟨count, outcome, -, upper⟩ := bracketed
  have beyond := of_decide_eq_false (Except.ok.inj (outcome.symm.trans denied))
  omega

/-- The last admitted request of a window has counted all others. -/
theorem countP_admitted_le {limit : Limit} {requests : List Request}
    (ordered : requests.Pairwise fun a b => a.time ≤ b.time)
    (all : AllBracketed limit requests) (finish : Int) :
    requests.countP (fun r => r.admitted &&
      Request.during (finish - limit.window.millis + 1) finish r) ≤ limit.maxRequests := by
  induction requests using List.reverseRecOn with
  | nil => simp
  | append_singleton earlier r ih =>
    obtain ⟨count, outcome, lower, -⟩ := all earlier r [] rfl
    have before := ih (List.pairwise_append.mp ordered).1 fun front other back split =>
      all front other (back ++ [r]) (by rw [split, List.append_assoc, List.cons_append])
    rw [List.countP_append, List.countP_singleton]
    split
    · rename_i inside
      simp only [Request.during, Bool.and_eq_true, decide_eq_true_eq] at inside
      obtain ⟨admitted, start, finished⟩ := inside
      rw [Request.admitted, outcome] at admitted
      have within := of_decide_eq_true admitted
      have counted : earlier.countP (fun e => e.admitted &&
          Request.during (finish - limit.window.millis + 1) finish e) ≤
            earlier.countP (Request.during (r.time - limit.window.millis + 1) r.time) := by
        apply List.countP_mono_left
        intro e member inside
        have order := (List.pairwise_append.mp ordered).2.2 e member r List.mem_cons_self
        simp only [Request.during, Bool.and_eq_true, decide_eq_true_eq] at inside ⊢
        omega
      omega
    · omega

/-- **The bounds of sliding windows.**  From a state without a log, with a clock that is never set
    back and with members that are all different, every request is answered, no more than the limit
    are admitted in any window `(finish - window, finish]`, and where a request is denied there are
    as many as the limit before it in the window `[time - window, time]`. -/
theorem sliding_window_bounds (s : Session) (key : LimitKey) (limit : Limit) (run : List Action)
    (valid : limit.Valid) (counted : limit.algorithm = .slidingWindow)
    (traffic : Traffic key (· = limit) s run) (forward : Forward s.now run)
    (distinct : ((s.requests key run).map Request.member).Nodup)
    (fresh : s.part key "sw" = .vacant) :
    (∀ r ∈ s.requests key run, ∃ admitted, r.outcome = .ok admitted) ∧
    (∀ finish : Int, (s.requests key run).countP (fun r => r.admitted &&
      decide (finish - limit.window.millis < r.time) && decide (r.time ≤ finish)) ≤
        limit.maxRequests) ∧
    ∀ earlier r later, s.requests key run = earlier ++ r :: later → r.outcome = .ok false →
      limit.maxRequests ≤ earlier.countP fun e =>
        decide (r.time - limit.window.millis ≤ e.time) && decide (e.time ≤ r.time) := by
  have all := allBracketed_requests valid counted traffic forward distinct fresh
  refine ⟨?_, ?_, ?_⟩
  · intro r member
    obtain ⟨earlier, later, split⟩ := List.append_of_mem member
    exact (all earlier r later split).exists_outcome
  · intro finish
    refine le_trans (Nat.le_of_eq (List.countP_congr ?_))
      (countP_admitted_le (Session.requests_ordered forward) all finish)
    intro r _
    simp only [Request.during, Bool.and_eq_true, decide_eq_true_eq]
    exact and_assoc
  · intro earlier r later split denied
    exact (all earlier r later split).le_of_denied denied

/-- A denial in a run with two requests in every window. -/
theorem sliding_window_bounds_two :
    let key := LimitKey.ofEndpoint "search" "query"
    let limit : Limit := ⟨"search", some "query", .slidingWindow, 2, .ofMillis 1000⟩
    let s := Session.start ⟨"limits", none⟩ .inSteps 0
    let run : List Action := [.evaluate key limit "a", .setClock 400, .evaluate key limit "b",
      .purge, .setClock 999, .evaluate key limit "c", .setClock 1999, .evaluate key limit "d"]
    limit.Valid ∧ Traffic key (· = limit) s run ∧ Forward s.now run ∧
      ((s.requests key run).map Request.member).Nodup ∧ s.part key "sw" = .vacant ∧
      (s.requests key run).countP (fun r => r.admitted &&
        decide ((999 : Int) - limit.window.millis < r.time) && decide (r.time ≤ 999)) ≤
          limit.maxRequests := by
  intro key limit s run
  have valid : limit.Valid := ⟨by decide, by decide, by decide, by decide⟩
  have traffic : Traffic key (· = limit) s run :=
    ⟨rfl, by decide, by simp [run, Action.Foreign]⟩
  have forward : Forward s.now run := by decide
  have distinct : ((s.requests key run).map Request.member).Nodup := by
    decide +kernel
  have fresh : s.part key "sw" = .vacant := rfl
  obtain ⟨-, bound, -⟩ :=
    sliding_window_bounds s key limit run valid rfl traffic forward distinct fresh
  exact ⟨valid, traffic, forward, distinct, fresh, bound 999⟩

end Throttle
