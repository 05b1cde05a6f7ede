import Mathlib.Algebra.Order.Group.Int
import Throttle.Proofs.RollingLog

/-!
# What a sliding window counts

A request under a sliding window counts itself and the requests before it that the log still holds.
Those are the requests of less than a window ago and, of the requests of exactly a window ago, all or
none: the log ends a window after its last request, so it has kept them iff another request came in
between.  `Limit.counted` is this list as a function of times alone.  By its length the next request
after any run is decided (`outcome_after_slidingWindow`), and so is every request of a run
(`throughout_slidingWindow`).

`Session.Rolled` is what a request leaves in the log and what time makes of it.
-/

namespace Throttle

/-! ## The count as a function of times -/

namespace Limit

/-- A request at `now` counts one that was made at `time`, if requests were made at `times`. -/
def counts (l : Limit) (times : List Int) (now time : Int) : Bool :=
  decide (now - l.window.millis < time) ||
    decide (time = now - l.window.millis) && times.any fun t => decide (time < t) && decide (t < now)

/-- The earlier requests that a request at `now` counts. -/
def counted (l : Limit) (times : List Int) (now : Int) : List Int :=
  times.filter (l.counts times now)

variable {l : Limit} {times : List Int} {now last time : Int}

theorem counts_eq_true_iff :
    l.counts times now time = true ↔ now - l.window.millis < time ∨
      time = now - l.window.millis ∧ ∃ t ∈ times, time < t ∧ t < now := by
  simp [counts]

theorem counted_append_singleton (length : 1 ≤ l.window.millis) (times : List Int) (now : Int) :
    l.counted (times ++ [now]) now = l.counted times now ++ [now] := by
  have same : l.counts (times ++ [now]) now = l.counts times now := by
    funext time
    simp [counts]
  have itself : l.counts times now now = true := counts_eq_true_iff.mpr (.inl (by omega))
  rw [counted, counted, same, List.filter_append, List.filter_cons_of_pos itself, List.filter_nil]

/-- A later request counts what an earlier one did, as far as it is in its own window. -/
theorem filter_counted (made : last ∈ times) (latest : ∀ t ∈ times, t ≤ last) (order : last ≤ now)
    (recent : now < last + l.window.millis) :
    (l.counted times last).filter (fun t => decide (now - l.window.millis ≤ t)) =
      l.counted times now := by
  rw [counted, counted, List.filter_filter]
  apply List.filter_congr
  intro time member
  have before := latest time member
  rw [Bool.eq_iff_iff, Bool.and_eq_true, decide_eq_true_eq, counts_eq_true_iff, counts_eq_true_iff]
  constructor
  · rintro ⟨start, inside | ⟨first, t, made, between⟩⟩
    · rcases Int.lt_or_eq_of_le start with later | edge
      · exact .inl later
      · -- At the first instant of the new window, the last request is the one in between.
        exact .inr ⟨edge.symm, last, made, by omega, by omega⟩
    · exact .inr ⟨by omega, t, made, by omega, by omega⟩
  · rintro (inside | ⟨first, t, made, between⟩)
    · exact ⟨by omega, .inl (by omega)⟩
    · rcases Int.lt_or_eq_of_le order with later | still
      · exact ⟨by omega, .inl (by omega)⟩
      · exact ⟨by omega, .inr ⟨by omega, t, made, by omega, by omega⟩⟩

theorem counted_eq_nil (latest : ∀ t ∈ times, t + l.window.millis ≤ now) :
    l.counted times now = [] := by
  rw [counted, List.filter_eq_nil_iff]
  intro time member counted
  have last := latest time member
  rcases counts_eq_true_iff.mp counted with inside | ⟨first, t, made, between⟩
  · omega
  · have last' := latest t made
    omega

theorem length_counted (l : Limit) (times : List Int) (now : Int) :
    (l.counted times now).length = times.countP (l.counts times now) :=
  List.countP_eq_length_filter.symm

/-- With more requests before it, a request counts no fewer. -/
theorem length_counted_le {times' : List Int} (more : times.Sublist times') (now : Int) :
    (l.counted times now).length ≤ (l.counted times' now).length := by
  have counts : ∀ time, l.counts times now time = true → l.counts times' now time = true := by
    intro time counted
    rw [counts_eq_true_iff] at counted ⊢
    refine counted.imp_right ?_
    rintro ⟨first, t, made, between⟩
    exact ⟨first, t, more.subset made, between⟩
  calc (l.counted times now).length
      = times.countP (l.counts times now) := length_counted l times now
    _ ≤ times.countP (l.counts times' now) := List.countP_mono_left fun time _ => counts time
    _ ≤ times'.countP (l.counts times' now) := more.countP_le
    _ = (l.counted times' now).length := (length_counted l times' now).symm

end Limit

/-! ## The log -/

namespace Session

variable {s : Session} {key : LimitKey} {limit : Limit} {ticket : String} {past : List Request}

/-- A request joins a log of words under a new member, and takes the place of what is older than its
    window, whether the store does so in one step or in four. -/
theorem exists_log_eq {members : Table Int} (valid : limit.Valid) (nonneg : 0 ≤ s.now)
    (bounded : s.now < Word.maxValue)
    (held : Memory.sortedSet (key.stateKey s.base "sw") (s.part key "sw") = .ok members)
    (scores : ∀ score ∈ members.values, 0 ≤ score ∧ score ≤ s.now)
    (fresh : (s.request key limit ticket).member ∉ members.keys) :
    ∃ kept : Table Int, s.log key limit ticket (s.part key "sw") =
        (.ok kept.size, ⟨some (.sorted kept), some (deadlineAfter s.now limit.window)⟩) ∧
      kept.values = s.now :: members.values.filter
        (fun score => decide (s.now - limit.window.millis ≤ score)) ∧
      kept.keys ⊆ (s.request key limit ticket).member :: members.keys := by
  have word : Word.InRange s.now := Word.inRange_of_nonneg nonneg bounded.le
  have words : ∀ table, Memory.sortedSet (key.stateKey s.base "sw") (s.part key "sw") = .ok table →
      ∀ score ∈ table.values, Word.InRange score := by
    intro table same score member
    obtain rfl := Except.ok.inj (held.symm.trans same)
    obtain ⟨score_nonneg, score_le⟩ := scores score member
    exact Word.inRange_of_nonneg score_nonneg (score_le.trans bounded.le)
  have millis := valid.wrappedMillis_eq
  -- Its scores are words, so the log may be kept in one step or in four.
  have logs : s.log key limit ticket (s.part key "sw") =
      Memory.logRequest s.now (key.stateKey s.base "sw") s.now limit.window
        (s.request key limit ticket).member (s.part key "sw") := by
    unfold Session.log
    cases s.compounding with
    | whole => rfl
    | inSteps => exact Memory.logInSteps_eq_logRequest (by omega) word words
  refine ⟨(members.insert (s.request key limit ticket).member s.now).filter
    fun _ score => decide (s.now - limit.window.wrappedMillis ≤ score), ?_, ?_, ?_⟩
  · rw [logs, Memory.logRequest, held]
  · -- The request is in its own window, and a new member overwrites no score.
    rw [Table.values_filter, Table.values_insert fresh, millis]
    exact List.filter_cons_of_pos (decide_eq_true (by omega))
  · exact List.Subset.trans (Table.keys_filter _ _) (Table.keys_insert _ _ _)

/-- The log of a key is what its last request left, at `last`, unless that is over: the requests of
    the past that this one counted, and itself. -/
structure Rolled (s : Session) (key : LimitKey) (limit : Limit) (past : List Request) (last : Int)
    (members : Table Int) : Prop where
  part : s.part key "sw" =
    Slot.aged s.now ⟨some (.sorted members), some (deadlineAfter last limit.window)⟩
  scores : members.values.Perm (limit.counted (past.map Request.time) last)
  names : members.keys ⊆ past.map Request.member
  made : last ∈ past.map Request.time
  times : ∀ time ∈ past.map Request.time, 0 ≤ time ∧ time ≤ last
  order : last ≤ s.now

/-- The log of a key holds what still counts of its past. -/
def LogOf (s : Session) (key : LimitKey) (limit : Limit) (past : List Request) : Prop :=
  past = [] ∧ s.part key "sw" = .vacant ∨ ∃ last members, s.Rolled key limit past last members

namespace LogOf

theorem foreign {action : Action} (log : s.LogOf key limit past) (healthy : s.Healthy)
    (alien : action.Foreign s.base key) (order : s.now ≤ (s.step action).2.now) :
    (s.step action).2.LogOf key limit past := by
  have aging := part_step_of_foreign healthy alien order "sw"
  obtain ⟨none, vacant⟩ | ⟨last, members, rolled⟩ := log
  · refine .inl ⟨none, ?_⟩
    rw [aging, vacant, Slot.aged_vacant]
  · refine .inr ⟨last, members, ?_, rolled.scores, rolled.names, rolled.made, rolled.times,
      rolled.order.trans order⟩
    rw [aging, rolled.part, Slot.aged_aged order]

/-- What the next request finds and keeps. -/
theorem exists_found (log : s.LogOf key limit past) (bounded : s.now < Word.maxValue) :
    ∃ found : Table Int,
      Memory.sortedSet (key.stateKey s.base "sw") (s.part key "sw") = .ok found ∧
      (found.values.filter fun score => decide (s.now - limit.window.millis ≤ score)).Perm
        (limit.counted (past.map Request.time) s.now) ∧
      found.keys ⊆ past.map Request.member ∧ ∀ score ∈ found.values, 0 ≤ score ∧ score ≤ s.now := by
  obtain ⟨rfl, vacant⟩ | ⟨last, members, rolled⟩ := log
  · refine ⟨.empty, ?_, .refl [], List.nil_subset _, ?_⟩
    · rw [vacant]
      rfl
    · intro score absent
      cases absent
  · obtain ⟨part, scores, names, made, times, order⟩ := rolled
    have latest : ∀ time ∈ past.map Request.time, time ≤ last := fun time member =>
      (times time member).2
    have alive : Slot.live s.now ⟨some (.sorted members), some (deadlineAfter last limit.window)⟩ =
        decide (s.now < last + limit.window.millis) :=
      Slot.live_written (times last made).1 bounded _ _
    by_cases recent : s.now < last + limit.window.millis
    · rw [Slot.aged_of_live (alive.trans (decide_eq_true recent))] at part
      refine ⟨members, ?_, ?_, names, ?_⟩
      · rw [part]
        rfl
      · rw [← Limit.filter_counted made latest order recent]
        exact scores.filter _
      · intro score member
        have counted := times score (List.mem_filter.mp (scores.mem_iff.mp member)).1
        exact ⟨counted.1, counted.2.trans order⟩
    · -- The log is gone, and with it requests that are all a window old.
      rw [Slot.aged_of_not_live (alive.trans (decide_eq_false recent))] at part
      refine ⟨.empty, ?_, ?_, List.nil_subset _, ?_⟩
      · rw [part]
        rfl
      · rw [Limit.counted_eq_nil]
        · exact .refl []
        · intro time member
          have before := latest time member
          omega
      · intro score absent
        cases absent

/-- A request is decided by what it counts, and joins the log. -/
theorem own (log : s.LogOf key limit past) (valid : limit.Valid)
    (algorithm : limit.algorithm = .slidingWindow) (healthy : s.Healthy) (nonneg : 0 ≤ s.now)
    (bounded : s.now < Word.maxValue)
    (fresh : (s.request key limit ticket).member ∉ past.map Request.member) :
    (s.request key limit ticket).outcome = .ok (decide
        ((limit.counted (past.map Request.time) s.now).length + 1 ≤ limit.maxRequests)) ∧
      (s.step (.evaluate key limit ticket)).2.LogOf key limit
        (past ++ [s.request key limit ticket]) := by
  obtain ⟨found, held, counted, names, scores⟩ := log.exists_found bounded
  obtain ⟨kept, logs, values, keys⟩ :=
    exists_log_eq valid nonneg bounded held scores fun old => fresh (names old)
  have outcome : (s.request key limit ticket).outcome = _ := outcome_slidingWindow healthy algorithm
  have part : (s.step (.evaluate key limit ticket)).2.part key "sw" = _ :=
    part_slidingWindow healthy algorithm
  rw [logs] at outcome part
  constructor
  · have size : kept.size = (limit.counted (past.map Request.time) s.now).length + 1 := by
      rw [← Table.length_values, values, List.length_cons, counted.length_eq]
    rw [outcome, size]
    rfl
  · have still : (s.step (.evaluate key limit ticket)).2.now = s.now := now_step s _
    have times : (past ++ [s.request key limit ticket]).map Request.time =
        past.map Request.time ++ [s.now] := List.map_append
    have past_times : ∀ time ∈ past.map Request.time, 0 ≤ time ∧ time ≤ s.now := by
      intro time member
      obtain ⟨rfl, -⟩ | ⟨last, members, rolled⟩ := log
      · cases member
      · have before := rolled.times time member
        exact ⟨before.1, before.2.trans rolled.order⟩
    refine .inr ⟨s.now, kept, ?_, ?_, ?_, ?_, ?_, ?_⟩
    · rw [still]
      exact part
    · rw [times, Limit.counted_append_singleton valid.one_le_window, values]
      exact (counted.cons _).trans (List.perm_append_singleton _ _).symm
    · rw [List.map_append]
      exact List.Subset.trans (List.Subset.trans keys (List.cons_subset_cons _ names))
        (List.perm_append_singleton _ _).symm.subset
    · rw [times]
      exact List.mem_append_right _ List.mem_cons_self
    · rw [times]
      intro time member
      rcases List.mem_append.mp member with early | last
      · exact past_times time early
      · obtain rfl := List.mem_singleton.mp last
        exact ⟨nonneg, le_rfl⟩
    · exact still.ge

end LogOf

/-- After a run with members that are all different, the log holds what still counts. -/
theorem logOf_after {run : List Action} (valid : limit.Valid)
    (algorithm : limit.algorithm = .slidingWindow) (traffic : Traffic key (· = limit) s run)
    (forward : Forward s.now run) (distinct : ((s.requests key run).map Request.member).Nodup)
    (fresh : s.part key "sw" = .vacant) : (s.after run).LogOf key limit (s.requests key run) := by
  -- Distinctness is a hypothesis of the invariant, since the past of a prefix is distinct as well.
  let I (t : Session) (past : List Request) : Prop :=
    (past.map Request.member).Nodup → t.LogOf key limit past
  have kept : I (s.after run) ([] ++ s.requests key run) := by
    apply Traffic.invariant _ _ traffic forward
    · exact fun _ => .inl ⟨rfl, fresh⟩
    · intro t past other ticket healthy nonneg bounded same holds distinct
      obtain rfl : limit = other := same.symm
      rw [List.map_append, List.nodup_append] at distinct
      obtain ⟨distinct, -, apart⟩ := distinct
      have new : (t.request key limit ticket).member ∉ past.map Request.member := fun old =>
        apart _ old _ List.mem_cons_self rfl
      exact ((holds distinct).own valid algorithm healthy nonneg bounded new).2
    · intro t past action healthy alien order _ holds distinct
      exact (holds distinct).foreign healthy alien order
  exact kept distinct

/-- The next request after a run is decided by how many requests of the run it counts. -/
theorem outcome_after_slidingWindow {run : List Action} (valid : limit.Valid)
    (algorithm : limit.algorithm = .slidingWindow) (traffic : Traffic key (· = limit) s run)
    (forward : Forward s.now run)
    (distinct : ((s.requests key run ++ [(s.after run).request key limit ticket]).map
      Request.member).Nodup)
    (fresh : s.part key "sw" = .vacant) :
    ((s.after run).request key limit ticket).outcome = .ok (decide
      ((limit.counted ((s.requests key run).map Request.time) (s.after run).now).length + 1 ≤
        limit.maxRequests)) := by
  obtain ⟨nonneg, bounded⟩ := traffic.after.inTime.now
  rw [List.map_append, List.nodup_append] at distinct
  obtain ⟨distinct, -, apart⟩ := distinct
  have log := logOf_after valid algorithm traffic forward distinct fresh
  exact (log.own valid algorithm traffic.after.healthy nonneg bounded fun old =>
    apart _ old _ List.mem_cons_self rfl).1

/-- Every request of a run is decided by how many of the requests before it it counts. -/
theorem throughout_slidingWindow {run : List Action} (valid : limit.Valid)
    (algorithm : limit.algorithm = .slidingWindow) (traffic : Traffic key (· = limit) s run)
    (forward : Forward s.now run) (distinct : ((s.requests key run).map Request.member).Nodup)
    (fresh : s.part key "sw" = .vacant) :
    Throughout (fun earlier r => r.outcome = .ok (decide
      ((limit.counted (earlier.map Request.time) r.time).length + 1 ≤ limit.maxRequests)))
      (s.requests key run) := by
  -- What comes up to a request is distinct, as a prefix of what is.
  have decided : Throughout (fun earlier r => ((earlier ++ [r]).map Request.member).Nodup →
      r.outcome = .ok (decide
        ((limit.counted (earlier.map Request.time) r.time).length + 1 ≤ limit.maxRequests)))
      (s.requests key run) := by
    refine Traffic.throughout ?_ traffic forward
    intro run other ticket traffic forward same distinct
    obtain rfl : limit = other := same.symm
    exact outcome_after_slidingWindow valid algorithm traffic forward distinct fresh
  intro earlier r later split
  apply decided earlier r later split
  rw [split, List.append_cons, List.map_append] at distinct
  exact (List.nodup_append.mp distinct).1

end Session

end Throttle
