import Throttle.Proofs.BucketComplement
import Throttle.Proofs.BucketHistory
import Throttle.Proofs.FixedWindow
import Throttle.Proofs.LogCount

/-!
# The full allowance

Whatever a key has done, a window of silence makes it as good as new.  A request keeps the state of
its key for a window and no longer (`Session.not_live_request`), so that nothing of it is left after a
window without requests (`Session.vacant_after_silence`).

From a key without state each of the four algorithms grants the full allowance (`Granted`): as many
requests as the limit allows are admitted, whatever their times, and at one instant no others.

`silence_restores_allowance` puts the two together, and compares two algorithms on a burst.
-/

namespace Throttle

/-! ## How long a request keeps state -/

namespace Slot

variable {s : Slot} {now later : Int}

theorem not_live_aged (dead : s.live later = false) (now : Int) :
    (s.aged now).live later = false := by
  unfold aged
  split
  · exact dead
  · rfl

theorem aged_eq_vacant_of_not_live (dead : (s.aged now).live now = false) : s.aged now = .vacant := by
  rw [← aged_aged (Int.le_refl now), aged_of_not_live dead]

/-- A new value under an old deadline lasts no longer than the old value. -/
theorem not_live_revalued {held : Value} (known : s.value = some held) (dead : s.live later = false)
    (value : Value) : Slot.live later { s with value := some value } = false := by
  simpa [live, expired, known] using dead

theorem not_live_written (nonneg : 0 ≤ now) (bounded : later < Word.maxValue)
    {lifetime : Duration} (ended : now + lifetime.millis ≤ later) (value : Value) :
    Slot.live later ⟨some value, some (deadlineAfter now lifetime)⟩ = false := by
  rw [live_written nonneg bounded]
  exact decide_eq_false (Int.not_lt.mpr ended)

end Slot

namespace Memory

variable {s : Slot} {now later : Int} {window : Duration}

theorem not_live_addTo (nonneg : 0 ≤ now) (bounded : later < Word.maxValue)
    (ended : now + window.millis ≤ later) (dead : s.live later = false) (key : String) (delta : Int) :
    (addTo now key delta (some window) s).2.live later = false := by
  unfold addTo
  cases held : s.value with
  | none => exact Slot.not_live_written nonneg bounded ended _
  | some value =>
    cases value with
    | sorted members => exact dead
    | scalar text =>
      cases known : Decimal.read? text with
      | none =>
        simp only [known]
        exact dead
      | some current =>
        simp only [known]
        exact Slot.not_live_revalued held dead _

theorem not_live_logRequest (nonneg : 0 ≤ now) (bounded : later < Word.maxValue)
    (ended : now + window.millis ≤ later) (dead : s.live later = false) (key : String) (time : Int)
    (member : String) : (logRequest now key time window member s).2.live later = false := by
  unfold logRequest
  cases sortedSet key s with
  | error error => exact dead
  | ok members => exact Slot.not_live_written nonneg bounded ended _

theorem not_live_logInSteps (nonneg : 0 ≤ now) (bounded : later < Word.maxValue)
    (ended : now + window.millis ≤ later) (dead : s.live later = false) (key : String) (time : Int)
    (member : String) : (logInSteps now key time window member s).2.live later = false := by
  unfold logInSteps
  cases sortedSet key s with
  | error error => exact dead
  | ok members =>
    dsimp only [keptSlot]
    split
    · rfl
    · exact Slot.not_live_written nonneg bounded ended _

end Memory

namespace Session

variable {s : Session} {key : LimitKey} {limit : Limit} {ticket name : String} {later : Int}

theorem not_live_request_of_bucket (kind : BucketKind) (counted : limit.algorithm = kind.algorithm)
    (healthy : s.Healthy) (nonneg : 0 ≤ s.now) (bounded : later < Word.maxValue)
    (ended : s.now + limit.window.millis ≤ later) (known : name ∈ limit.algorithm.parts)
    (dead : (s.part key name).live later = false) :
    ((s.step (.evaluate key limit ticket)).2.part key name).live later = false := by
  have written (value : Value) : Slot.live later
      (Slot.aged s.now ⟨some value, some (deadlineAfter s.now limit.window)⟩) = false :=
    Slot.not_live_aged (Slot.not_live_written nonneg bounded ended value) s.now
  cases read : s.held kind key limit with
  | error error =>
    rw [part_bucket_failed healthy counted read]
    exact dead
  | ok held =>
    rw [counted, kind.parts_algorithm, List.mem_pair] at known
    obtain rfl | rfl := known
    · rw [content_bucket healthy counted read]
      exact written _
    · rw [stamp_bucket healthy counted read]
      exact written _

/-- State that is over a window after a request is so whether or not the request is made. -/
theorem not_live_request (healthy : s.Healthy) (nonneg : 0 ≤ s.now) (bounded : later < Word.maxValue)
    (ended : s.now + limit.window.millis ≤ later) (known : name ∈ limit.algorithm.parts)
    (dead : (s.part key name).live later = false) :
    ((s.step (.evaluate key limit ticket)).2.part key name).live later = false := by
  cases algorithm : limit.algorithm with
  | fixedWindow =>
    rw [algorithm] at known
    obtain rfl := List.mem_singleton.mp known
    rw [part_fixedWindow healthy algorithm]
    exact Slot.not_live_aged (Memory.not_live_addTo nonneg bounded ended dead _ _) _
  | slidingWindow =>
    rw [algorithm] at known
    obtain rfl := List.mem_singleton.mp known
    rw [part_slidingWindow healthy algorithm]
    apply Slot.not_live_aged
    unfold log
    cases s.compounding with
    | whole => exact Memory.not_live_logRequest nonneg bounded ended dead _ _ _
    | inSteps => exact Memory.not_live_logInSteps nonneg bounded ended dead _ _ _
  | tokenBucket =>
    exact not_live_request_of_bucket .tokens algorithm healthy nonneg bounded ended known dead
  | leakyBucket =>
    exact not_live_request_of_bucket .level algorithm healthy nonneg bounded ended known dead

/-- A window after the last request of a run, nothing is left of its key's state. -/
theorem vacant_after_silence {run : List Action} (traffic : Traffic key (· = limit) s run)
    (forward : Forward s.now run) (fresh : ∀ name ∈ limit.algorithm.parts, s.part key name = .vacant)
    (silent : ∀ r ∈ s.requests key run, r.time + limit.window.millis ≤ (s.after run).now) :
    ∀ name ∈ limit.algorithm.parts, (s.after run).part key name = .vacant := by
  -- The invariant is about any later time, for the end of the silence is not known on the way.
  let I (t : Session) (past : List Request) : Prop :=
    ∀ later, later < Word.maxValue → (∀ r ∈ past, r.time + limit.window.millis ≤ later) →
      ∀ name ∈ limit.algorithm.parts, (t.part key name).live later = false
  have dead : I (s.after run) ([] ++ s.requests key run) := by
    apply Traffic.invariant _ _ traffic forward
    · intro later _ _ name known
      rw [fresh name known]
      rfl
    · intro t past other ticket healthy nonneg _ same dead later bounded silent name known
      obtain rfl : limit = other := same.symm
      have before := dead later bounded
        (fun r member => silent r (List.mem_append_left _ member)) name known
      exact not_live_request healthy nonneg bounded
        (silent _ (List.mem_append_right _ List.mem_cons_self)) known before
    · intro t past action healthy alien order _ dead later bounded silent name known
      rw [part_step_of_foreign healthy alien order]
      exact Slot.not_live_aged (dead later bounded silent name known) _
  intro name known
  exact Slot.aged_eq_vacant_of_not_live
    (dead _ traffic.after.inTime.now.2 silent name known)

end Session

/-! ## What is granted -/

/-- A request is admitted if fewer than the limit allows came before it, and if all of these were made
    at its own time, only then. -/
structure Granted (limit : Limit) (earlier : List Request) (r : Request) : Prop where
  admitted : earlier.length < limit.maxRequests → r.outcome = .ok true
  at_once : (∀ e ∈ earlier, e.time = r.time) →
    r.outcome = .ok (decide (earlier.length < limit.maxRequests))

theorem Granted.of_outcome {limit : Limit} {earlier : List Request} {r : Request} {left : Prop}
    [Decidable left] (decided : r.outcome = .ok (decide left))
    (enough : earlier.length < limit.maxRequests → left)
    (no_more : (∀ e ∈ earlier, e.time = r.time) → left → earlier.length < limit.maxRequests) :
    Granted limit earlier r where
  admitted fewer := by
    rw [decided, decide_eq_true (enough fewer)]
  at_once together := by
    rw [decided, decide_eq_decide.mpr ⟨no_more together, enough⟩]

/-- Requests that are all made at one instant. -/
def AtOnce (requests : List Request) : Prop := ∃ instant, ∀ r ∈ requests, r.time = instant

/-- A run with requests against one limit, from a session that holds no state of their key. -/
structure Opening (key : LimitKey) (limit : Limit) (s : Session) (run : List Action) : Prop where
  traffic : Traffic key (· = limit) s run
  forward : Forward s.now run
  distinct : limit.algorithm = .slidingWindow → ((s.requests key run).map Request.member).Nodup
  fresh : ∀ name ∈ limit.algorithm.parts, s.part key name = .vacant

/-- Where one window is followed, a request is decided by its rank or less, and by its rank if all
    before it are within the window. -/
theorem Counted.exists_decidedBy {earlier : List Request} {r : Request} {later : List Request} :
    ∀ {opener : Request} {count : Nat}, Counted (some (opener, count)) (earlier ++ r :: later) →
      ∃ rank ≤ count + earlier.length + 1, r.DecidedBy rank ∧
        ((∀ e ∈ earlier ++ [r], opener.within e = true) → rank = count + earlier.length + 1) := by
  induction earlier with
  | nil =>
    intro opener count counted
    rw [List.nil_append, Counted] at counted
    split_ifs at counted with inside
    · exact ⟨count + 1, by simp, counted.1, fun _ => rfl⟩
    · exact ⟨1, by simp, counted.1, fun all => absurd (all r List.mem_cons_self) inside⟩
  | cons e earlier ih =>
    intro opener count counted
    rw [List.cons_append, Counted] at counted
    rw [List.length_cons]
    split_ifs at counted with inside
    · obtain ⟨rank, most, decided, last⟩ := ih counted.2
      refine ⟨rank, by omega, decided, fun all => ?_⟩
      have rank_eq := last fun other member => all other (List.mem_cons_of_mem _ member)
      omega
    · -- A window that opens here has seen fewer requests than the one before.
      obtain ⟨rank, most, decided, -⟩ := ih counted.2
      exact ⟨rank, by omega, decided, fun all => absurd (all e List.mem_cons_self) inside⟩

namespace Opening

variable {key : LimitKey} {limit : Limit} {s : Session} {run : List Action}

theorem granted_fixedWindow (opening : Opening key limit s run) (valid : limit.Valid)
    (requests_lt : (limit.maxRequests : Int) < Word.maxValue)
    (algorithm : limit.algorithm = .fixedWindow) :
    Throughout (Granted limit) (s.requests key run) := by
  have windowed : Traffic key Limit.Windowed s run :=
    opening.traffic.imp fun other same => same ▸ ⟨algorithm, valid, requests_lt⟩
  have idle : s.Counting key none := opening.fresh "fw" (by rw [algorithm]; decide)
  have counted := counted_requests windowed opening.forward idle
  have limits := opening.traffic.kind_of_mem_requests
  intro earlier r later split
  rw [split] at counted limits
  have same : r.limit = limit := limits r (by simp)
  have requests := valid.one_le_requests
  have length := valid.one_le_window
  cases earlier with
  | nil =>
    have decided := counted.1
    rw [Request.DecidedBy, same] at decided
    exact .of_outcome decided (fun _ => requests) (fun _ _ => requests)
  | cons opener earlier =>
    obtain ⟨rank, most, decided, last⟩ := Counted.exists_decidedBy counted.2
    rw [Request.DecidedBy, same] at decided
    rw [Nat.add_comm 1, ← List.length_cons (a := opener)] at most last
    refine .of_outcome decided (fun fewer => by omega) fun at_once within => ?_
    have opened : opener.limit = limit := limits opener List.mem_cons_self
    have inside : ∀ e ∈ earlier ++ [r], opener.within e = true := by
      intro e member
      have start := at_once opener List.mem_cons_self
      have time : e.time = r.time := by
        rcases List.mem_append.mp member with before | last
        · exact at_once e (List.mem_cons_of_mem _ before)
        · rw [List.mem_singleton.mp last]
      rw [Request.within, opened]
      exact decide_eq_true (by omega)
    have rank_eq := last inside
    omega

theorem granted_slidingWindow (opening : Opening key limit s run) (valid : limit.Valid)
    (algorithm : limit.algorithm = .slidingWindow) :
    Throughout (Granted limit) (s.requests key run) := by
  have fresh : s.part key "sw" = .vacant := opening.fresh "sw" (by rw [algorithm]; decide)
  have decided := Session.throughout_slidingWindow valid algorithm opening.traffic opening.forward
    (opening.distinct algorithm) fresh
  intro earlier r later split
  have decided := decided earlier r later split
  refine .of_outcome decided (fun fewer => ?_) fun at_once within => ?_
  · have counted : (limit.counted (earlier.map Request.time) r.time).length ≤ earlier.length := by
      rw [← List.length_map (f := Request.time)]
      exact List.length_filter_le _ _
    omega
  · -- What was asked at the same time is in the window.
    have all : limit.counted (earlier.map Request.time) r.time = earlier.map Request.time := by
      rw [Limit.counted, List.filter_eq_self]
      intro time member
      obtain ⟨e, made, rfl⟩ := List.mem_map.mp member
      have now := at_once e made
      have length := valid.one_le_window
      exact Limit.counts_eq_true_iff.mpr (.inl (by omega))
    rw [all, List.length_map] at within
    exact within

theorem granted_bucket (opening : Opening key limit s run) (kind : BucketKind) (valid : limit.Valid)
    (algorithm : limit.algorithm = kind.algorithm) :
    Throughout (Granted limit) (s.requests key run) := by
  have vacant := opening.fresh
  rw [algorithm, kind.parts_algorithm] at vacant
  have fresh : s.part key kind.contentPart = .vacant ∧ s.part key kind.stampPart = .vacant :=
    ⟨vacant _ (by simp), vacant _ (by simp)⟩
  refine Traffic.throughout ?_ opening.traffic opening.forward
  intro run other ticket traffic forward same
  obtain rfl : limit = other := same.symm
  have usable := valid.usable s kind key
  have capacity : (s.bucket kind key limit).capacity = limit.maxRequests := valid.capacity_eq
  have decided := Session.outcome_after_bucket ticket valid algorithm traffic forward fresh
  generalize s.requests key run = past at decided
  refine .of_outcome decided (fun fewer => ?_) fun at_once some_ready => ?_
  · have ready := Bucket.sub_length_le_ready_remembered usable (past.map Request.time)
      (s.after run).now
    rw [List.length_map, capacity] at ready
    omega
  · have now : ∀ time ∈ past.map Request.time, time = (s.after run).now :=
      List.forall_mem_map.mpr at_once
    have ready := Bucket.ready_remembered_at_once usable now
    rw [List.length_map, capacity] at ready
    omega

/-- Every algorithm grants a key without state its full allowance. -/
theorem granted (opening : Opening key limit s run) (valid : limit.Valid)
    (requests_lt : (limit.maxRequests : Int) < Word.maxValue) :
    Throughout (Granted limit) (s.requests key run) := by
  cases algorithm : limit.algorithm with
  | fixedWindow => exact opening.granted_fixedWindow valid requests_lt algorithm
  | slidingWindow => exact opening.granted_slidingWindow valid algorithm
  | tokenBucket => exact opening.granted_bucket .tokens valid algorithm
  | leakyBucket => exact opening.granted_bucket .level valid algorithm

end Opening

/-! ## After a silence -/

/-- After a history from a session without state, a key has made no request for a window, or none at
    all, and now goes on. -/
structure Rested (key : LimitKey) (limit : Limit) (s : Session) (history further : List Action) :
    Prop where
  traffic : Traffic key (· = limit) s (history ++ further)
  forward : Forward s.now (history ++ further)
  distinct : limit.algorithm = .slidingWindow →
    (((s.after history).requests key further).map Request.member).Nodup
  fresh : ∀ name ∈ limit.algorithm.parts, s.part key name = .vacant
  silent : ∀ r ∈ s.requests key history, r.time + limit.window.millis ≤ (s.after history).now

theorem Rested.opening {key : LimitKey} {limit : Limit} {s : Session} {history further : List Action}
    (rested : Rested key limit s history further) : Opening key limit (s.after history) further where
  traffic := rested.traffic.right
  forward := Session.forward_right rested.forward
  distinct := rested.distinct
  fresh := Session.vacant_after_silence rested.traffic.left rested.forward.left rested.fresh
    rested.silent

namespace Throughout

variable {P : List Request → Request → Prop} {limit : Limit} {requests : List Request}

theorem getElem? (all : Throughout P requests) {i : Nat} {r : Request}
    (place : requests[i]? = some r) : P (requests.take i) r := by
  obtain ⟨bound, rfl⟩ := List.getElem?_eq_some_iff.mp place
  apply all (requests.take i) requests[i] (requests.drop (i + 1))
  rw [← List.drop_eq_getElem_cons bound, List.take_append_drop]

/-- A burst at one instant is decided by the limit alone. -/
theorem outcomes_eq (all : Throughout (Granted limit) requests) (at_once : AtOnce requests) :
    requests.map Request.outcome =
      (List.range requests.length).map fun i => .ok (decide (i < limit.maxRequests)) := by
  obtain ⟨instant, at_once⟩ := at_once
  apply List.ext_getElem (by simp)
  intro i bound bound'
  have here : i < requests.length := by simpa using bound
  have granted := all.getElem? (List.getElem?_eq_getElem here)
  have decided := granted.at_once fun e member => by
    rw [at_once e (List.mem_of_mem_take member), at_once _ (List.getElem_mem here)]
  rw [List.length_take_of_le here.le] at decided
  rw [List.getElem_map, List.getElem_map, List.getElem_range, decided]

end Throughout

/-- Where the first of ordered requests is at the time of a later one, so are all in between. -/
theorem time_eq_of_ordered {requests : List Request}
    (ordered : requests.Pairwise fun a b => a.time ≤ b.time) {most i : Nat} {r : Request}
    (some_first : 1 ≤ most) (place : requests[i]? = some r)
    (at_once : ∀ e ∈ requests.take most, e.time = r.time) :
    ∀ e ∈ requests.take i, e.time = r.time := by
  intro e member
  obtain ⟨bound, rfl⟩ := List.getElem?_eq_some_iff.mp place
  obtain ⟨j, before, rfl⟩ := List.mem_take_iff_getElem.mp member
  have first : requests[0].time = requests[i].time :=
    at_once _ (List.mem_take_iff_getElem.mpr ⟨0, by omega, rfl⟩)
  have ordered := List.pairwise_iff_getElem.mp ordered
  have upper := ordered j i (by omega) bound (by omega)
  rcases Nat.eq_zero_or_pos j with rfl | positive
  · exact first
  · have lower := ordered 0 j (by omega) (by omega) positive
    omega

/-- **Silence restores the full allowance.**  Once a key has made no request for a window, or none at
    all, its next requests are admitted up to the limit, whatever their times.  If these are all made
    at one instant, further requests at this instant are denied.  So any two algorithms decide a burst
    at one instant alike, each after its own history. -/
theorem silence_restores_allowance (key : LimitKey) (limit : Limit) (s : Session)
    (history further : List Action) (valid : limit.Valid)
    (requests_lt : (limit.maxRequests : Int) < Word.maxValue)
    (rested : Rested key limit s history further) :
    let next := (s.after history).requests key further
    (∀ (i : Nat) (r : Request), next[i]? = some r → i < limit.maxRequests → r.outcome = .ok true) ∧
    (∀ (i : Nat) (r : Request), next[i]? = some r → limit.maxRequests ≤ i →
      (∀ e ∈ next.take limit.maxRequests, e.time = r.time) → r.outcome = .ok false) ∧
    ∀ (key' : LimitKey) (algorithm : Algorithm) (s' : Session) (history' further' : List Action),
      Rested key' (limit.countedBy algorithm) s' history' further' →
      let next' := (s'.after history').requests key' further'
      AtOnce next → AtOnce next' → next'.length = next.length →
        next'.map Request.outcome = next.map Request.outcome := by
  intro next
  have granted : Throughout (Granted limit) next := rested.opening.granted valid requests_lt
  have ordered : next.Pairwise fun a b => a.time ≤ b.time :=
    Session.requests_ordered (Session.forward_right rested.forward)
  refine ⟨?_, ?_, ?_⟩
  · intro i r place fewer
    apply (granted.getElem? place).admitted
    exact (List.length_take_le i next).trans_lt fewer
  · intro i r place reached at_once
    have first := time_eq_of_ordered ordered valid.one_le_requests place at_once
    have bound := (List.getElem?_eq_some_iff.mp place).1
    rw [(granted.getElem? place).at_once first, List.length_take_of_le bound.le]
    exact congrArg Except.ok (decide_eq_false (by omega))
  · intro key' algorithm s' history' further' rested' next' at_once at_once' length
    have granted' : Throughout (Granted (limit.countedBy algorithm)) next' :=
      rested'.opening.granted (valid.countedBy algorithm) requests_lt
    rw [granted.outcomes_eq at_once, granted'.outcomes_eq at_once', length]
    rfl

/-- A log that is asked again a window after its last request, to the instant, and a new queue. -/
theorem silence_restores_allowance_two_bursts :
    let key := LimitKey.ofEndpoint "search" "query"
    let limit : Limit := ⟨"search", some "query", .slidingWindow, 2, .ofMillis 1000⟩
    let queued := limit.countedBy .leakyBucket
    let s := Session.start ⟨"limits", none⟩ .inSteps 0
    let s' := Session.start ⟨"limits", none⟩ .whole 7
    let history : List Action := [.evaluate key limit "a", .evaluate key limit "b", .setClock 500,
      .evaluate key limit "c", .purge, .setClock 1500]
    let further : List Action := [.evaluate key limit "d", .evaluate key limit "e",
      .evaluate key limit "f"]
    let further' : List Action := [.evaluate key queued "x", .evaluate key queued "y",
      .evaluate key queued "z"]
    let next := (s.after history).requests key further
    limit.Valid ∧ (limit.maxRequests : Int) < Word.maxValue ∧
      Rested key limit s history further ∧ Rested key queued s' [] further' ∧
      (∃ r, next[1]? = some r ∧ r.outcome = .ok true) ∧
      (∃ r, next[2]? = some r ∧ r.outcome = .ok false) ∧
      (s'.requests key further').map Request.outcome = next.map Request.outcome := by
  intro key limit queued s s' history further further' next
  have valid : limit.Valid := ⟨by decide, by decide, by decide, by decide⟩
  have requests_lt : (limit.maxRequests : Int) < Word.maxValue := by decide
  have rested : Rested key limit s history further :=
    ⟨⟨rfl, by decide, by simp [history, further, Action.Foreign]⟩, by decide,
      fun _ => by decide +kernel, fun _ _ => rfl, by decide +kernel⟩
  have rested' : Rested key queued s' [] further' :=
    ⟨⟨rfl, by decide, by simp [further', Action.Foreign]⟩, by decide,
      fun _ => by decide +kernel, fun _ _ => rfl, by decide⟩
  have length : next.length = 3 := by decide +kernel
  have at_once : ∀ r ∈ next, r.time = 1500 := by decide +kernel
  have at_once' : ∀ r ∈ s'.requests key further', r.time = 7 := by decide +kernel
  obtain ⟨allowed, denied, alike⟩ :=
    silence_restores_allowance key limit s history further valid requests_lt rested
  have second : next[1]? = some next[1] := List.getElem?_eq_getElem (by omega)
  have third : next[2]? = some next[2] := List.getElem?_eq_getElem (by omega)
  refine ⟨valid, requests_lt, rested, rested', ⟨_, second, allowed 1 _ second (by decide)⟩,
    ⟨_, third, denied 2 _ third (by decide) fun e member => ?_⟩, ?_⟩
  · rw [at_once e (List.mem_of_mem_take member), at_once _ (List.getElem_mem _)]
  · exact alike key .leakyBucket s' [] further' rested' ⟨1500, at_once⟩ ⟨7, at_once'⟩
      (by decide +kernel)

end Throttle
