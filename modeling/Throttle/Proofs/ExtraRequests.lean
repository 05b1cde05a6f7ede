import Throttle.Proofs.BucketHistory
import Throttle.Proofs.LogCount

/-!
# Extra requests

Two runs are compared of which the second makes all requests of the first, at the same times, and any
number of others in between.  Under a rolling log or a bucket a request that both make is admitted in
the first run if it is admitted in the second: `extra_requests_never_help`.  Under a fixed window it
need not be, for an extra request may open a window earlier.

The two runs are written as one list of occasions.  A request is decided by the times of the requests
before it, in a log (`Session.outcome_after_slidingWindow`) as in a bucket
(`Session.outcome_after_bucket`), and the times of the first run are among those of the second
(`sublist_times`).
-/

namespace Throttle

/-! ## Two runs in one -/

/-- What happens in two runs of which the second makes requests that the first does not. -/
inductive Occasion
  /-- A request that both runs make, each under a ticket of its own. -/
  | request (ticket ticket' : String)
  /-- A request that only the second run makes. -/
  | extra (ticket : String)
  /-- Whatever else happens in both runs. -/
  | meanwhile (action : Action)

namespace Occasion

def first? (key : LimitKey) (limit : Limit) : Occasion → Option Action
  | request ticket _ => some (.evaluate key limit ticket)
  | extra _ => none
  | meanwhile action => some action

def second (key : LimitKey) (limit : Limit) : Occasion → Action
  | request _ ticket | extra ticket => .evaluate key limit ticket
  | meanwhile action => action

end Occasion

def firstRun (key : LimitKey) (limit : Limit) (occasions : List Occasion) : List Action :=
  occasions.filterMap (Occasion.first? key limit)

def secondRun (key : LimitKey) (limit : Limit) (occasions : List Occasion) : List Action :=
  occasions.map (Occasion.second key limit)

/-- The two runs, on sessions without faults that read the same clock and hold no state of the key. -/
structure TwoRuns (key : LimitKey) (limit : Limit) (s t : Session) (occasions : List Occasion) :
    Prop where
  healthy : s.Healthy
  healthy' : t.Healthy
  clock : s.now = t.now
  inTime : InTime t.now (secondRun key limit occasions)
  forward : Forward t.now (secondRun key limit occasions)
  foreign : ∀ action, .meanwhile action ∈ occasions →
    action.Foreign s.base key ∧ action.Foreign t.base key
  distinct : limit.algorithm = .slidingWindow →
    ((s.requests key (firstRun key limit occasions)).map Request.member).Nodup ∧
      ((t.requests key (secondRun key limit occasions)).map Request.member).Nodup
  fresh : ∀ name ∈ limit.algorithm.parts, s.part key name = .vacant ∧ t.part key name = .vacant

section Runs

variable (key : LimitKey) (limit : Limit) (ticket ticket' : String) (action : Action)
  (rest : List Occasion)

theorem firstRun_request : firstRun key limit (.request ticket ticket' :: rest) =
    .evaluate key limit ticket :: firstRun key limit rest := rfl

theorem secondRun_request : secondRun key limit (.request ticket ticket' :: rest) =
    .evaluate key limit ticket' :: secondRun key limit rest := rfl

theorem firstRun_extra : firstRun key limit (.extra ticket :: rest) = firstRun key limit rest := rfl

theorem secondRun_extra : secondRun key limit (.extra ticket :: rest) =
    .evaluate key limit ticket :: secondRun key limit rest := rfl

theorem firstRun_meanwhile : firstRun key limit (.meanwhile action :: rest) =
    action :: firstRun key limit rest := rfl

theorem secondRun_meanwhile : secondRun key limit (.meanwhile action :: rest) =
    action :: secondRun key limit rest := rfl

end Runs

variable {key : LimitKey} {limit : Limit} {s t : Session} {occasions earlier later : List Occasion}
  {ticket ticket' : String}

theorem firstRun_append (earlier later : List Occasion) :
    firstRun key limit (earlier ++ later) = firstRun key limit earlier ++ firstRun key limit later :=
  List.filterMap_append

theorem secondRun_append (earlier later : List Occasion) : secondRun key limit (earlier ++ later) =
    secondRun key limit earlier ++ secondRun key limit later :=
  List.map_append

/-- A request does not set the clock, so that both runs read the same. -/
theorem filterMap_reading_firstRun (key : LimitKey) (limit : Limit) (occasions : List Occasion) :
    (firstRun key limit occasions).filterMap Action.reading? =
      (secondRun key limit occasions).filterMap Action.reading? := by
  rw [firstRun, secondRun, List.filterMap_filterMap, List.filterMap_map]
  congr 1
  funext occasion
  cases occasion <;> rfl

theorem sublist_times (limit : Limit) (clock : s.now = t.now)
    (foreign : ∀ action, .meanwhile action ∈ occasions →
      action.Foreign s.base key ∧ action.Foreign t.base key) :
    ((s.requests key (firstRun key limit occasions)).map Request.time).Sublist
      ((t.requests key (secondRun key limit occasions)).map Request.time) := by
  induction occasions generalizing s t with
  | nil => exact .slnil
  | cons occasion rest ih =>
    have foreign_rest (action action' : Action) : ∀ a, .meanwhile a ∈ rest →
        a.Foreign (s.step action).2.base key ∧ a.Foreign (t.step action').2.base key := by
      intro a member
      rw [Session.base_step, Session.base_step]
      exact foreign a (List.mem_cons_of_mem _ member)
    cases occasion with
    | request ticket ticket' =>
      have times := ih (s := (s.step (.evaluate key limit ticket)).2)
        (t := (t.step (.evaluate key limit ticket')).2) clock (foreign_rest _ _)
      rw [firstRun_request, secondRun_request, Session.requests_own, Session.requests_own,
        List.map_cons, List.map_cons]
      change (s.now :: _).Sublist (t.now :: _)
      rw [clock]
      exact times.cons_cons t.now
    | extra ticket =>
      have times := ih (t := (t.step (.evaluate key limit ticket)).2) clock fun a member => by
        rw [Session.base_step]
        exact foreign a (List.mem_cons_of_mem _ member)
      rw [firstRun_extra, secondRun_extra, Session.requests_own, List.map_cons]
      exact times.cons _
    | meanwhile action =>
      obtain ⟨alien, alien'⟩ := foreign action List.mem_cons_self
      rw [firstRun_meanwhile, secondRun_meanwhile, Session.requests_foreign s alien,
        Session.requests_foreign t alien']
      apply ih _ (foreign_rest _ _)
      rw [Session.now_step, Session.now_step, clock]

namespace TwoRuns

theorem now_after_eq (runs : TwoRuns key limit s t occasions) :
    (s.after (firstRun key limit occasions)).now = (t.after (secondRun key limit occasions)).now := by
  rw [Session.now_after, Session.now_after, filterMap_reading_firstRun, runs.clock]

theorem readings_eq (runs : TwoRuns key limit s t occasions) :
    readings s.now (firstRun key limit occasions) =
      readings t.now (secondRun key limit occasions) := by
  rw [readings, readings, filterMap_reading_firstRun, runs.clock]

theorem forward_first (runs : TwoRuns key limit s t occasions) :
    Forward s.now (firstRun key limit occasions) := by
  rw [Forward, runs.readings_eq]
  exact runs.forward

theorem traffic_first (runs : TwoRuns key limit s t occasions) :
    Traffic key (· = limit) s (firstRun key limit occasions) where
  healthy := runs.healthy
  inTime := by
    rw [InTime, runs.readings_eq]
    exact runs.inTime
  actions := by
    intro action member
    obtain ⟨occasion, here, taken⟩ := List.mem_filterMap.mp member
    cases occasion with
    | request ticket ticket' => exact .inr ⟨limit, ticket, (Option.some.inj taken).symm, rfl⟩
    | extra ticket => cases taken
    | meanwhile other =>
      obtain rfl := Option.some.inj taken
      exact .inl (runs.foreign other here).1

theorem traffic_second (runs : TwoRuns key limit s t occasions) :
    Traffic key (· = limit) t (secondRun key limit occasions) where
  healthy := runs.healthy'
  inTime := runs.inTime
  actions := by
    intro action member
    obtain ⟨occasion, here, rfl⟩ := List.mem_map.mp member
    cases occasion with
    | request ticket ticket' => exact .inr ⟨limit, ticket', rfl, rfl⟩
    | extra ticket => exact .inr ⟨limit, ticket, rfl, rfl⟩
    | meanwhile other => exact .inl (runs.foreign other here).2

theorem left (runs : TwoRuns key limit s t (earlier ++ later)) : TwoRuns key limit s t earlier where
  healthy := runs.healthy
  healthy' := runs.healthy'
  clock := runs.clock
  inTime := by
    have inTime := runs.inTime
    rw [secondRun_append] at inTime
    exact inTime.left
  forward := by
    have forward := runs.forward
    rw [secondRun_append] at forward
    exact forward.left
  foreign action member := runs.foreign action (List.mem_append_left _ member)
  distinct := by
    intro algorithm
    have distinct := runs.distinct algorithm
    rw [firstRun_append, secondRun_append, Session.requests_append, Session.requests_append,
      List.map_append, List.map_append] at distinct
    exact ⟨(List.nodup_append.mp distinct.1).1, (List.nodup_append.mp distinct.2).1⟩
  fresh := runs.fresh

/-- The requests up to one that both runs make, in either run. -/
theorem distinct_next (runs : TwoRuns key limit s t (earlier ++ .request ticket ticket' :: later))
    (algorithm : limit.algorithm = .slidingWindow) :
    ((s.requests key (firstRun key limit earlier) ++
        [(s.after (firstRun key limit earlier)).request key limit ticket]).map Request.member).Nodup ∧
      ((t.requests key (secondRun key limit earlier) ++
        [(t.after (secondRun key limit earlier)).request key limit ticket']).map
          Request.member).Nodup := by
  rw [List.append_cons] at runs
  have distinct := runs.left.distinct algorithm
  rw [firstRun_append, secondRun_append, firstRun_request, secondRun_request,
    Session.requests_append, Session.requests_append, Session.requests_own, Session.requests_own]
    at distinct
  exact distinct

theorem admitted_slidingWindow
    (runs : TwoRuns key limit s t (earlier ++ .request ticket ticket' :: later)) (valid : limit.Valid)
    (algorithm : limit.algorithm = .slidingWindow)
    (admitted : ((t.after (secondRun key limit earlier)).request key limit ticket').outcome =
      .ok true) :
    ((s.after (firstRun key limit earlier)).request key limit ticket).outcome = .ok true := by
  have before := runs.left
  obtain ⟨distinct, distinct'⟩ := runs.distinct_next algorithm
  obtain ⟨fresh, fresh'⟩ := runs.fresh "sw" (by rw [algorithm]; decide)
  have decided := Session.outcome_after_slidingWindow valid algorithm before.traffic_first
    before.forward_first distinct fresh
  have decided' := Session.outcome_after_slidingWindow valid algorithm before.traffic_second
    before.forward distinct' fresh'
  have fewer := Limit.length_counted_le (l := limit)
    (sublist_times limit before.clock before.foreign)
    (t.after (secondRun key limit earlier)).now
  rw [decided'] at admitted
  have room := of_decide_eq_true (Except.ok.inj admitted)
  rw [decided, before.now_after_eq]
  exact congrArg Except.ok (decide_eq_true (by omega))

theorem admitted_bucket (kind : BucketKind)
    (runs : TwoRuns key limit s t (earlier ++ .request ticket ticket' :: later)) (valid : limit.Valid)
    (algorithm : limit.algorithm = kind.algorithm)
    (admitted : ((t.after (secondRun key limit earlier)).request key limit ticket').outcome =
      .ok true) :
    ((s.after (firstRun key limit earlier)).request key limit ticket).outcome = .ok true := by
  have before := runs.left
  have vacant := runs.fresh
  rw [algorithm, kind.parts_algorithm] at vacant
  obtain ⟨content, content'⟩ := vacant kind.contentPart (by simp)
  obtain ⟨stamp, stamp'⟩ := vacant kind.stampPart (by simp)
  have decided := Session.outcome_after_bucket ticket valid algorithm
    before.traffic_first before.forward_first ⟨content, stamp⟩
  have decided' := Session.outcome_after_bucket ticket' valid algorithm
    before.traffic_second before.forward ⟨content', stamp'⟩
  have ordered : ((t.requests key (secondRun key limit earlier)).map Request.time).Pairwise
      (· ≤ ·) :=
    List.pairwise_map.mpr (Session.requests_ordered before.forward)
  have latest : ∀ time ∈ (t.requests key (secondRun key limit earlier)).map Request.time,
      time ≤ (t.after (secondRun key limit earlier)).now :=
    List.forall_mem_map.mpr (Session.time_le_now_after before.forward)
  have fewer := Bucket.ready_remembered_le (valid.usable s kind key)
    (sublist_times limit before.clock before.foreign) ordered latest
  rw [decided'] at admitted
  have room := of_decide_eq_true (Except.ok.inj admitted)
  rw [decided, before.now_after_eq]
  exact congrArg Except.ok (decide_eq_true (room.trans_le fewer))

end TwoRuns

/-- **Extra requests never help.**  Let two runs start without state of a key, and let the second make
    all requests of the first, at the same times, and any others for the key in between.  Under any
    algorithm but the fixed window, a request of both that the second run admits is admitted by the
    first. -/
theorem extra_requests_never_help (key : LimitKey) (limit : Limit) (s t : Session)
    (occasions : List Occasion) (valid : limit.Valid) (algorithm : limit.algorithm ≠ .fixedWindow)
    (runs : TwoRuns key limit s t occasions) :
    ∀ (earlier : List Occasion) (ticket ticket' : String) (later : List Occasion),
      occasions = earlier ++ .request ticket ticket' :: later →
      ((t.after (secondRun key limit earlier)).request key limit ticket').outcome = .ok true →
      ((s.after (firstRun key limit earlier)).request key limit ticket).outcome = .ok true := by
  rintro earlier ticket ticket' later rfl admitted
  cases counted : limit.algorithm with
  | fixedWindow => exact absurd counted algorithm
  | slidingWindow => exact runs.admitted_slidingWindow valid counted admitted
  | tokenBucket => exact runs.admitted_bucket .tokens valid counted admitted
  | leakyBucket => exact runs.admitted_bucket .level valid counted admitted

/-- A bucket that is asked once more half a token after it was emptied. -/
theorem extra_requests_never_help_half_token :
    let key := LimitKey.ofEndpoint "search" "query"
    let limit : Limit := ⟨"search", some "query", .tokenBucket, 2, .ofMillis 1000⟩
    let s := Session.start ⟨"limits", none⟩ .whole 0
    let t := Session.start ⟨"limits", none⟩ .inSteps 0
    let earlier : List Occasion := [.request "a" "k", .request "b" "l", .meanwhile (.setClock 250),
      .extra "x", .meanwhile (.setClock 750), .meanwhile .purge]
    let occasions := earlier ++ [.request "c" "m"]
    limit.Valid ∧ limit.algorithm ≠ .fixedWindow ∧ TwoRuns key limit s t occasions ∧
      ((t.after (secondRun key limit earlier)).request key limit "m").outcome = .ok true ∧
      ((s.after (firstRun key limit earlier)).request key limit "c").outcome = .ok true := by
  intro key limit s t earlier occasions
  have valid : limit.Valid := ⟨by decide, by decide, by decide, by decide⟩
  have algorithm : limit.algorithm ≠ .fixedWindow := by decide
  have runs : TwoRuns key limit s t occasions :=
    ⟨rfl, rfl, rfl, by decide, by decide, by simp [occasions, earlier, Action.Foreign],
      fun sliding => absurd sliding (by decide), fun _ _ => ⟨rfl, rfl⟩⟩
  have admitted :
      ((t.after (secondRun key limit earlier)).request key limit "m").outcome = .ok true := by
    decide +kernel
  exact ⟨valid, algorithm, runs, admitted,
    extra_requests_never_help key limit s t occasions valid algorithm runs earlier "c" "m" [] rfl
      admitted⟩

/-- A fixed window is left out: the extra request opens a window that is over sooner. -/
example :
    let key := LimitKey.ofEndpoint "search" "query"
    let limit : Limit := ⟨"search", some "query", .fixedWindow, 1, .ofMillis 1000⟩
    let s := Session.start ⟨"limits", none⟩ .whole 0
    let earlier : List Occasion := [.extra "x", .meanwhile (.setClock 900), .request "a" "a",
      .meanwhile (.setClock 1000)]
    ((s.after (secondRun key limit earlier)).request key limit "b").admitted = true ∧
      ((s.after (firstRun key limit earlier)).request key limit "b").admitted = false := by
  decide +kernel

end Throttle
