import Mathlib.Algebra.Order.Group.Int
import Mathlib.Data.List.Induction
import Throttle.Proofs.Admission

/-!
# The law of fixed windows

A fixed window is nowhere in the store: there is only a counter with a lifetime that is set when the
counter is created.  `windows` cuts the requests of a key into windows by their times and limits
alone, and `fixed_window_law` says that this is what the counter comes to: a request is admitted
iff its rank in its window is within its own limit.

The counter is followed by `Session.Counting`, which knows the request that opened the window and
the number of requests since, and by `Counted`, the law in the form of one pass over the requests.
-/

namespace Throttle

/-! ## Windows -/

/-- A request comes before the end of the window that another one opens. -/
def Request.within (opener r : Request) : Bool :=
  decide (r.time < opener.time + opener.limit.window.millis)

/-- The requests in windows.  Each window is opened by the first request that is not within the one
    before, and is as long as the limit of that request says. -/
def windows : List Request → List (List Request)
  | [] => []
  | opener :: rest =>
    (opener :: rest.takeWhile opener.within) :: windows (rest.dropWhile opener.within)
  termination_by requests => requests.length
  decreasing_by exact Nat.lt_succ_of_le (List.dropWhile_sublist _).length_le

@[simp] theorem windows_nil : windows [] = [] := by
  rw [windows]

theorem windows_cons (opener : Request) (rest : List Request) :
    windows (opener :: rest) =
      (opener :: rest.takeWhile opener.within) :: windows (rest.dropWhile opener.within) := by
  rw [windows]

theorem flatten_windows (requests : List Request) : (windows requests).flatten = requests := by
  induction requests using windows.induct with
  | case1 => rw [windows_nil, List.flatten_nil]
  | case2 opener rest ih =>
    rw [windows_cons, List.flatten_cons, ih, List.cons_append, List.takeWhile_append_dropWhile]

/-- The request is admitted iff at most as many are counted as its limit allows. -/
def Request.DecidedBy (r : Request) (count : Nat) : Prop :=
  r.outcome = .ok (decide (count ≤ r.limit.maxRequests))

/-- The law, request by request: in a window that `opener` opened and that has seen `count`
    requests, or in none. -/
def Counted : Option (Request × Nat) → List Request → Prop
  | _, [] => True
  | none, r :: rest => r.DecidedBy 1 ∧ Counted (some (r, 1)) rest
  | some (opener, count), r :: rest =>
    if opener.within r then r.DecidedBy (count + 1) ∧ Counted (some (opener, count + 1)) rest
    else r.DecidedBy 1 ∧ Counted (some (r, 1)) rest

theorem counted_dropWhile {opener : Request} {count : Nat} {requests : List Request}
    (counted : Counted (some (opener, count)) requests) :
    Counted none (requests.dropWhile opener.within) := by
  induction requests generalizing count with
  | nil => trivial
  | cons r rest ih =>
    rw [Counted] at counted
    cases inside : opener.within r with
    | true =>
      rw [if_pos inside] at counted
      rw [List.dropWhile_cons_of_pos inside]
      exact ih counted.2
    | false =>
      have outside : ¬ opener.within r = true := by simp [inside]
      rw [if_neg outside] at counted
      -- The law without a window asks of `r` just what it asks of the first request outside.
      rw [List.dropWhile_cons_of_neg outside]
      exact counted

theorem counted_takeWhile {opener : Request} {count : Nat} {requests : List Request}
    (counted : Counted (some (opener, count)) requests) (i : Nat) (r : Request)
    (place : (requests.takeWhile opener.within)[i]? = some r) : r.DecidedBy (count + i + 1) := by
  induction requests generalizing count i with
  | nil => cases place
  | cons first rest ih =>
    rw [Counted] at counted
    cases inside : opener.within first with
    | true =>
      rw [if_pos inside] at counted
      rw [List.takeWhile_cons_of_pos inside] at place
      cases i with
      | zero =>
        obtain rfl := Option.some.inj place
        exact counted.1
      | succ i =>
        rw [Nat.add_right_comm count (i + 1) 1, ← Nat.add_assoc]
        exact ih counted.2 i place
    | false =>
      rw [List.takeWhile_cons_of_neg (by simp [inside])] at place
      cases place

theorem decidedBy_rank {requests : List Request} (counted : Counted none requests) :
    ∀ window ∈ windows requests, ∀ (i : Nat) (r : Request), window[i]? = some r →
      r.DecidedBy (i + 1) := by
  induction requests using windows.induct with
  | case1 =>
    intro window member
    rw [windows_nil] at member
    cases member
  | case2 opener rest ih =>
    intro window member i r place
    rw [windows_cons] at member
    -- The opener has rank one; the others are counted from it on.
    rcases List.mem_cons.mp member with rfl | later
    · cases i with
      | zero =>
        obtain rfl := Option.some.inj place
        exact counted.1
      | succ i =>
        rw [Nat.add_comm i 1]
        exact counted_takeWhile counted.2 i r place
    · exact ih (counted_dropWhile counted.2) window later i r place

/-! ## The counter -/

/-- Limits of fixed windows.  A limit of the largest word is left out, as the counter stops there. -/
structure Limit.Windowed (l : Limit) : Prop where
  counted : l.algorithm = .fixedWindow
  valid : l.Valid
  requests_lt : (l.maxRequests : Int) < Word.maxValue

/-- What the counter of a key holds in a window that `opener` opened and that has seen `count`
    requests, or in none. -/
def Session.Counting (s : Session) (key : LimitKey) : Option (Request × Nat) → Prop
  | none => s.part key "fw" = .vacant
  | some (opener, count) => 0 ≤ opener.time ∧ opener.limit.Valid ∧
    s.part key "fw" = Slot.aged s.now ⟨some (.scalar (Decimal.write (Word.saturate count))),
      some (deadlineAfter opener.time opener.limit.window)⟩

/-- A counter that has reached the largest word is beyond every limit. -/
theorem Limit.Windowed.saturate_le_iff {l : Limit} (windowed : l.Windowed) (count : Nat) :
    Word.saturate count ≤ l.capacity ↔ count ≤ l.maxRequests := by
  have below := windowed.requests_lt
  rw [windowed.valid.capacity_eq]
  unfold Word.saturate Word.minValue
  omega

theorem Word.add_saturate_one (count : Nat) :
    Word.add (Word.saturate count) 1 = Word.saturate (count + 1 : Nat) := by
  unfold Word.add Word.saturate Word.minValue Word.maxValue
  omega

namespace Session.Counting

variable {s : Session} {key : LimitKey} {limit : Limit} {opener : Request} {count : Nat}
  {current : Option (Request × Nat)}

theorem foreign {action : Action} (counting : s.Counting key current) (healthy : s.Healthy)
    (alien : action.Foreign s.base key) (order : s.now ≤ (s.step action).2.now) :
    (s.step action).2.Counting key current := by
  have aging := Session.part_step_of_foreign healthy alien order "fw"
  cases current with
  | none =>
    rw [Counting] at counting ⊢
    rw [aging, counting, Slot.aged_vacant]
  | some window =>
    obtain ⟨nonneg, valid, held⟩ := counting
    refine ⟨nonneg, valid, ?_⟩
    rw [aging, held, Slot.aged_aged order]

theorem opened (counting : s.Counting key none) (ticket : String) (windowed : limit.Windowed)
    (healthy : s.Healthy) (nonneg : 0 ≤ s.now) :
    (s.request key limit ticket).DecidedBy 1 ∧
      (s.step (.evaluate key limit ticket)).2.Counting key
        (some (s.request key limit ticket, 1)) := by
  have held : s.part key "fw" = .vacant := counting
  refine ⟨?_, nonneg, windowed.valid, ?_⟩
  · rw [Request.DecidedBy, Session.outcome_fixedWindow healthy windowed.counted, held]
    exact congrArg Except.ok (decide_eq_decide.mpr (windowed.saturate_le_iff 1))
  · rw [Session.part_fixedWindow healthy windowed.counted, held]
    rfl

/-- The end of a window is the end of the counter's life. -/
theorem finished (counting : s.Counting key (some (opener, count))) (bounded : s.now < Word.maxValue)
    (ended : opener.time + opener.limit.window.millis ≤ s.now) : s.Counting key none := by
  obtain ⟨nonneg, valid, held⟩ := counting
  rw [Counting, held]
  apply Slot.aged_of_not_live
  rw [Slot.live_written nonneg bounded]
  exact decide_eq_false (Int.not_lt.mpr ended)

theorem next (counting : s.Counting key (some (opener, count))) (ticket : String)
    (windowed : limit.Windowed) (healthy : s.Healthy) (bounded : s.now < Word.maxValue)
    (running : s.now < opener.time + opener.limit.window.millis) :
    (s.request key limit ticket).DecidedBy (count + 1) ∧
      (s.step (.evaluate key limit ticket)).2.Counting key (some (opener, count + 1)) := by
  obtain ⟨nonneg, valid, held⟩ := counting
  -- The deadline was set by the opener, so it is the end of the window under its limit.
  have alive (value : Value) : Slot.live s.now
      ⟨some value, some (deadlineAfter opener.time opener.limit.window)⟩ = true := by
    rw [Slot.live_written nonneg bounded]
    exact decide_eq_true running
  rw [Slot.aged_of_live (alive _)] at held
  have added : Memory.addTo s.now (key.stateKey s.base "fw") 1 (some limit.window)
      (s.part key "fw") = (.ok (Word.saturate (count + 1 : Nat)),
        ⟨some (.scalar (Decimal.write (Word.saturate (count + 1 : Nat)))),
          some (deadlineAfter opener.time opener.limit.window)⟩) := by
    rw [held, ← Word.add_saturate_one]
    simp only [Memory.addTo, Decimal.read?_write (Word.inRange_saturate _)]
  refine ⟨?_, nonneg, valid, ?_⟩
  · rw [Request.DecidedBy, Session.outcome_fixedWindow healthy windowed.counted, added]
    exact congrArg Except.ok (decide_eq_decide.mpr (windowed.saturate_le_iff (count + 1)))
  · rw [Session.part_fixedWindow healthy windowed.counted, added]
    rfl

end Session.Counting

theorem counted_requests {key : LimitKey} :
    ∀ {run : List Action} {s : Session} {current : Option (Request × Nat)},
      Traffic key Limit.Windowed s run → Forward s.now run → s.Counting key current →
      Counted current (s.requests key run)
  | [], _, current, _, _, _ => by
    cases current <;> trivial
  | action :: rest, s, current, traffic, forward, counting => by
    obtain ⟨nonneg, bounded⟩ := traffic.inTime.now
    obtain alien | ⟨limit, ticket, rfl, windowed⟩ := traffic.actions action List.mem_cons_self
    · rw [Session.requests_foreign s alien]
      exact counted_requests traffic.tail (Session.forward_step forward)
        (counting.foreign traffic.healthy alien (Session.le_now_step forward))
    · have later {after : Option (Request × Nat)}
          (counting : (s.step (.evaluate key limit ticket)).2.Counting key after) :=
        counted_requests traffic.tail (Session.forward_step forward) counting
      rw [Session.requests_own]
      -- The request opens a window, is within the one that runs, or finds it finished.
      cases current with
      | none =>
        have first := counting.opened ticket windowed traffic.healthy nonneg
        exact ⟨first.1, later first.2⟩
      | some window =>
        obtain ⟨opener, count⟩ := window
        rw [Counted]
        by_cases running : s.now < opener.time + opener.limit.window.millis
        · have next := counting.next ticket windowed traffic.healthy bounded running
          have inside : opener.within (s.request key limit ticket) = true :=
            decide_eq_true running
          rw [if_pos inside]
          exact ⟨next.1, later next.2⟩
        · have finished := counting.finished bounded (Int.not_lt.mp running)
          have first := finished.opened ticket windowed traffic.healthy nonneg
          have outside : ¬ opener.within (s.request key limit ticket) = true :=
            fun inside => running (of_decide_eq_true inside)
          rw [if_neg outside]
          exact ⟨first.1, later first.2⟩

/-! ## How much an interval admits -/

def Request.admittedIn (start finish : Int) (r : Request) : Bool :=
  r.admitted && decide (start ≤ r.time) && decide (r.time < finish)

theorem Request.DecidedBy.le_of_admitted {r : Request} {count : Nat} (decided : r.DecidedBy count)
    (admitted : r.admitted = true) : count ≤ r.limit.maxRequests := by
  rw [Request.admitted, decided] at admitted
  exact of_decide_eq_true admitted

theorem countP_window_le {most : Nat} {p : Request → Bool} (window : List Request)
    (decided : ∀ (i : Nat) (r : Request), window[i]? = some r → r.DecidedBy (i + 1))
    (same : ∀ r ∈ window, r.limit.maxRequests = most) (admitted : ∀ r, p r = true → r.admitted = true) :
    window.countP p ≤ most := by
  induction window using List.reverseRecOn with
  | nil => simp
  | append_singleton earlier r ih =>
    have rank : r.DecidedBy (earlier.length + 1) := decided earlier.length r (by simp)
    have limit : r.limit.maxRequests = most := same r (by simp)
    rw [List.countP_append, List.countP_singleton]
    -- If the last of the window counts, its rank bounds all that come before it.
    split
    · rename_i counted
      have within := rank.le_of_admitted (admitted r counted)
      have fewer : earlier.countP p ≤ earlier.length := List.countP_le_length
      omega
    · apply ih
      · intro i other place
        apply decided
        rw [List.getElem?_append_left (List.getElem?_eq_some_iff.mp place).1]
        exact place
      · intro other member
        exact same other (List.mem_append_left _ member)

/-- Requests in order of time that are decided window by window under one rule. -/
structure Ruled (most length : Nat) (requests : List Request) : Prop where
  ordered : requests.Pairwise fun a b => a.time ≤ b.time
  decided : ∀ window ∈ windows requests, ∀ (i : Nat) (r : Request), window[i]? = some r →
    r.DecidedBy (i + 1)
  rule : ∀ r ∈ requests, r.limit.maxRequests = most ∧ (r.limit.window.millis : Int) = length

namespace Ruled

variable {most length : Nat} {opener : Request} {rest requests : List Request}

theorem dropWhile (ruled : Ruled most length (opener :: rest)) :
    Ruled most length (rest.dropWhile opener.within) where
  ordered := ruled.ordered.of_cons.sublist (List.dropWhile_sublist _)
  decided := by
    intro window member
    apply ruled.decided window
    rw [windows_cons]
    exact List.mem_cons_of_mem _ member
  rule := by
    intro r member
    exact ruled.rule r (List.mem_cons_of_mem _ ((List.dropWhile_sublist _).mem member))

theorem le_time_of_mem_dropWhile (ruled : Ruled most length (opener :: rest)) :
    ∀ r ∈ rest.dropWhile opener.within, opener.time + length ≤ r.time := by
  intro r member
  have ordered := ruled.dropWhile.ordered
  have rule := ruled.rule opener List.mem_cons_self
  cases later : rest.dropWhile opener.within with
  | nil =>
    rw [later] at member
    cases member
  | cons next others =>
    have outside : opener.within next = false := by
      have head := List.head?_dropWhile_not opener.within rest
      rw [later] at head
      exact head
    -- The first request outside is late by definition, and all others come after it.
    have ended : opener.time + length ≤ next.time := by
      rw [← rule.2]
      exact Int.not_lt.mp (of_decide_eq_false outside)
    rw [later] at member ordered
    rcases List.mem_cons.mp member with rfl | after
    · exact ended
    · exact ended.trans (List.rel_of_pairwise_cons ordered after)

theorem countP_split (p : Request → Bool) (opener : Request) (rest : List Request) :
    (opener :: rest).countP p =
      (opener :: rest.takeWhile opener.within).countP p +
        (rest.dropWhile opener.within).countP p := by
  rw [← List.countP_append, List.cons_append, List.takeWhile_append_dropWhile]

theorem first_window_le (ruled : Ruled most length (opener :: rest)) (start finish : Int) :
    (opener :: rest.takeWhile opener.within).countP (Request.admittedIn start finish) ≤ most := by
  apply countP_window_le
  · apply ruled.decided
    rw [windows_cons]
    exact List.mem_cons_self
  · intro r member
    apply (ruled.rule r _).1
    rcases List.mem_cons.mp member with rfl | later
    · exact List.mem_cons_self
    · exact List.mem_cons_of_mem _ ((List.takeWhile_sublist _).mem later)
  · intro r counted
    simp only [Request.admittedIn, Bool.and_eq_true] at counted
    exact counted.1.1

/-- From the start of an interval on, only one window can be open in it. -/
theorem countP_le_of_after (ruled : Ruled most length requests) {start : Int}
    (after : ∀ r ∈ requests, start ≤ r.time) :
    requests.countP (Request.admittedIn start (start + length)) ≤ most := by
  cases requests with
  | nil => simp
  | cons opener rest =>
    -- The next window opens a length after this one, beyond the end of the interval.
    have none_left : (rest.dropWhile opener.within).countP
        (Request.admittedIn start (start + length)) = 0 := by
      rw [List.countP_eq_zero]
      intro r member counted
      have late := ruled.le_time_of_mem_dropWhile r member
      have early := after opener List.mem_cons_self
      simp only [Request.admittedIn, Bool.and_eq_true, decide_eq_true_eq] at counted
      omega
    rw [countP_split, none_left]
    exact ruled.first_window_le start _

/-- An interval as long as a window meets two of them at most. -/
theorem countP_le (ruled : Ruled most length requests) (start : Int) :
    requests.countP (Request.admittedIn start (start + length)) ≤ 2 * most := by
  induction requests using windows.induct with
  | case1 => simp
  | case2 opener rest ih =>
    have later := ih ruled.dropWhile
    have first := ruled.first_window_le start (start + length)
    rw [countP_split]
    by_cases meets : ∃ r ∈ opener :: rest.takeWhile opener.within, start ≤ r.time
    · -- The windows after one that reaches into the interval open in it.
      obtain ⟨r, member, reaches⟩ := meets
      have ordered := ruled.ordered
      rw [← List.takeWhile_append_dropWhile (p := opener.within) (l := rest), ← List.cons_append,
        List.pairwise_append] at ordered
      have second := ruled.dropWhile.countP_le_of_after fun next late =>
        reaches.trans (ordered.2.2 r member next late)
      omega
    · -- A window that ends before the interval admits nothing in it.
      have before : (opener :: rest.takeWhile opener.within).countP
          (Request.admittedIn start (start + length)) = 0 := by
        rw [List.countP_eq_zero]
        intro r member counted
        simp only [Request.admittedIn, Bool.and_eq_true, decide_eq_true_eq] at counted
        exact meets ⟨r, member, counted.1.2⟩
      omega

end Ruled

/-- **The law of fixed windows.**  From a state without a counter, and with a clock that is never set
    back, a request is admitted iff its rank in its window is within its own limit.  So under one
    rule, an interval as long as a window admits at most twice the limit. -/
theorem fixed_window_law (s : Session) (key : LimitKey) (run : List Action)
    (traffic : Traffic key Limit.Windowed s run) (forward : Forward s.now run)
    (fresh : s.part key "fw" = .vacant) :
    (windows (s.requests key run)).flatten = s.requests key run ∧
    (∀ window ∈ windows (s.requests key run), ∀ (i : Nat) (r : Request), window[i]? = some r →
      r.outcome = .ok (decide (i + 1 ≤ r.limit.maxRequests))) ∧
    ∀ most length : Nat,
      (∀ r ∈ s.requests key run, r.limit.maxRequests = most ∧ r.limit.window.millis = length) →
      ∀ start : Int, (s.requests key run).countP (fun r =>
        r.admitted && decide (start ≤ r.time) && decide (r.time < start + length)) ≤ 2 * most := by
  have idle : s.Counting key none := fresh
  have decided := decidedBy_rank (counted_requests traffic forward idle)
  refine ⟨flatten_windows _, decided, ?_⟩
  intro most length rule start
  have ruled : Ruled most length (s.requests key run) := by
    refine ⟨Session.requests_ordered forward, decided, ?_⟩
    intro r member
    obtain ⟨requests, millis⟩ := rule r member
    exact ⟨requests, by rw [millis]⟩
  exact ruled.countP_le start

/-- Two bursts about the end of a window are four admissions in less than a window. -/
theorem fixed_window_law_two_bursts :
    let key := LimitKey.ofEndpoint "search" "query"
    let limit : Limit := ⟨"search", some "query", .fixedWindow, 2, .ofMillis 1000⟩
    let s := Session.start ⟨"limits", none⟩ .whole 0
    let run : List Action := [.evaluate key limit "a", .setClock 999, .evaluate key limit "b",
      .purge, .evaluate key limit "c", .setClock 1000, .evaluate key limit "d",
      .evaluate key limit "e"]
    Traffic key Limit.Windowed s run ∧ Forward s.now run ∧ s.part key "fw" = .vacant ∧
      (s.requests key run).countP (fun r =>
        r.admitted && decide ((500 : Int) ≤ r.time) && decide (r.time < (500 : Int) + (1000 : Nat))) ≤
          2 * 2 := by
  intro key limit s run
  have windowed : limit.Windowed :=
    ⟨rfl, ⟨by decide, by decide, by decide, by decide⟩, by decide⟩
  have traffic : Traffic key Limit.Windowed s run :=
    ⟨rfl, by decide, by simp [run, windowed, Action.Foreign]⟩
  have forward : Forward s.now run := by decide
  have one_limit : Traffic key (· = limit) s run :=
    ⟨rfl, by decide, by simp [run, Action.Foreign]⟩
  have rule : ∀ r ∈ s.requests key run, r.limit.maxRequests = 2 ∧ r.limit.window.millis = 1000 := by
    intro r member
    rw [one_limit.kind_of_mem_requests r member]
    decide
  exact ⟨traffic, forward, rfl,
    (fixed_window_law s key run traffic forward rfl).2.2 2 1000 rule 500⟩

end Throttle
