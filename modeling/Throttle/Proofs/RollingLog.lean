import Throttle.Proofs.Admission

/-!
# The log of a sliding window

A sliding window keeps a sorted set with one member per request.  A store logs a request in one step
(`Memory.logRequest`) or in four calls, which come to `Memory.logInSteps`: a request is put in, what
is older than the window is taken out, the rest is counted, and the lifetime is renewed.

Of a set only its keys and its values matter: `values_insert`, `values_filter` and `length_values` say
how a log looks as a list of scores.  `outcome_slidingWindow` and `part_slidingWindow` are about one
request.
-/

namespace Throttle

/-! ## Tables as lists of values -/

namespace Table

variable {α : Type}

def keys (t : Table α) : List String := t.entries.map Prod.fst

def values (t : Table α) : List α := t.entries.map Prod.snd

theorem length_values (t : Table α) : t.values.length = t.size := List.length_map _

theorem values_filter (p : α → Bool) (t : Table α) :
    (t.filter fun _ value => p value).values = t.values.filter p :=
  List.filter_map.symm

theorem keys_filter (p : String → α → Bool) (t : Table α) : (t.filter p).keys ⊆ t.keys :=
  (List.filter_sublist.map _).subset

theorem entries_erase_of_not_mem {t : Table α} {key : String} (fresh : key ∉ t.keys) :
    (t.erase key).entries = t.entries := by
  apply List.filter_eq_self.mpr
  intro entry member
  have differ : entry.1 ≠ key := by
    rintro rfl
    exact fresh (List.mem_map_of_mem member)
  simpa using differ

theorem values_insert {t : Table α} {key : String} (fresh : key ∉ t.keys) (value : α) :
    (t.insert key value).values = value :: t.values := by
  rw [values, insert, List.map_cons, entries_erase_of_not_mem fresh, values]

theorem mem_values_insert {t : Table α} {key : String} {value v : α}
    (member : v ∈ (t.insert key value).values) : v = value ∨ v ∈ t.values := by
  rcases List.mem_cons.mp member with rfl | old
  · exact .inl rfl
  · exact .inr ((List.filter_sublist.map _).subset old)

theorem keys_insert (t : Table α) (key : String) (value : α) :
    (t.insert key value).keys ⊆ key :: t.keys := by
  rw [keys, insert, List.map_cons]
  exact List.cons_subset_cons _ (keys_filter _ t)

theorem mem_keys_iff {t : Table α} {key : String} : key ∈ t.keys ↔ (t.get? key).isSome := by
  rw [← not_iff_not, Bool.not_eq_true, Option.isSome_eq_false_iff, Option.isNone_iff_eq_none]
  constructor
  · exact lookup_eq_none_of_not_mem
  · intro missing held
    obtain ⟨entry, member, rfl⟩ := List.mem_map.mp held
    have differ := List.lookup_eq_none_iff.mp missing entry member
    simp at differ

/-- Tables with the same keys are of the same size. -/
theorem size_eq_of_isSome_eq {β : Type} {t : Table α} {u : Table β}
    (same : ∀ key, (t.get? key).isSome = (u.get? key).isSome) : t.size = u.size := by
  have perm : t.keys.Perm u.keys := by
    refine (List.perm_ext_iff_of_nodup t.nodup_keys u.nodup_keys).mpr fun key => ?_
    change key ∈ t.keys ↔ key ∈ u.keys
    rw [mem_keys_iff, mem_keys_iff, same]
  simpa [keys, size] using perm.length_eq

theorem count_add_size_filter_not (p : String → α → Bool) (t : Table α) :
    t.count p + (t.filter fun key value => !p key value).size = t.size :=
  (List.length_eq_length_filter_add (l := t.entries) fun entry => p entry.1 entry.2).symm

theorem filter_congr {p q : String → α → Bool} {t : Table α}
    (agree : ∀ entry ∈ t.entries, p entry.1 entry.2 = q entry.1 entry.2) :
    t.filter p = t.filter q := by
  have same : (t.filter p).entries = (t.filter q).entries := List.filter_congr agree
  cases first : t.filter p with
  | mk entries nodup =>
    cases second : t.filter q with
    | mk entries' nodup' =>
      rw [first, second] at same
      cases same
      rfl

end Table

/-! ## Logging a request in four calls -/

namespace Memory

variable {clock : Int} {key : String} {now : Int} {window : Duration} {member : String}

def trimmed (now : Int) (window : Duration) (member : String) (members : Table Int) : Table Int :=
  (members.insert member now).filter fun _ score =>
    !inRange Word.minValue (now - window.wrappedMillis - 1) score

/-- The slot that is left when a log has been trimmed to `kept`. -/
def keptSlot (kept : Table Int) (deadline : Option Int) : Slot :=
  if kept.size = 0 then .vacant else ⟨some (.sorted kept), deadline⟩

/-- What four calls make of a slot. -/
def logInSteps (clock : Int) (key : String) (now : Int) (window : Duration) (member : String)
    (s : Slot) : Except LimiterError Nat × Slot :=
  match sortedSet key s with
  | .ok members =>
    let kept := trimmed now window member members
    (.ok (kept.count fun _ score => inRange Word.minValue Word.maxValue score),
      keptSlot kept (some (deadlineAfter clock window)))
  | .error error => (.error error, s)

theorem sortedSet_of_none {s : Slot} (empty : s.value = none) :
    sortedSet key s = .ok .empty := by
  rw [sortedSet, empty]

theorem exists_access_of_eq {α : Type} {m : Memory} {f : Slot → α × Slot} {result : α} {after : Slot}
    (put : f (m.slotAt clock key) = (result, after)) :
    ∃ m', m.access clock key f = (result, m') ∧ m'.liveSlot clock key = after.aged clock := by
  refine ⟨(m.access clock key f).2, ?_, ?_⟩
  · rw [access, put]
  · rw [liveSlot_access, put]

/-- To the function, a slot without a value is as good as a vacant one. -/
def Blind {α : Type} (clock : Int) (f : Slot → α × Slot) : Prop :=
  ∀ s : Slot, s.value = none →
    (f s).1 = (f .vacant).1 ∧ (f s).2.aged clock = (f .vacant).2.aged clock

theorem exists_access {α : Type} {f : Slot → α × Slot} (blind : Blind clock f) (key : String)
    (m : Memory) :
    ∃ m', m.access clock key f = ((f (m.liveSlot clock key)).1, m') ∧
      m'.liveSlot clock key = (f (m.liveSlot clock key)).2.aged clock := by
  have answer : (f (m.slotAt clock key)).1 = (f (m.liveSlot clock key)).1 :=
    apply_slotAt (fun s => (f s).1) fun s empty => (blind s empty).1
  have left : (f (m.slotAt clock key)).2.aged clock = (f (m.liveSlot clock key)).2.aged clock :=
    apply_slotAt (fun s => (f s).2.aged clock) fun s empty => (blind s empty).2
  refine ⟨(m.access clock key f).2, ?_, ?_⟩
  · rw [← answer]
    rfl
  · rw [liveSlot_access, left]

theorem blind_removeRange (key : String) (min max : Int) :
    Blind clock (removeRange key min max) := by
  intro s empty
  simp [removeRange, empty, Slot.aged_of_none, Slot.vacant]

theorem blind_countRange (key : String) (min max : Int) : Blind clock (countRange key min max) := by
  intro s empty
  simp [countRange, sortedSet, empty, Slot.aged_of_none, Slot.vacant]

theorem blind_renew (lifetime : Duration) : Blind clock (renew clock lifetime) := by
  intro s empty
  simp [renew, empty, Slot.aged_of_none, Slot.vacant]

def trimSteps (key : String) (now : Int) (window : Duration) : Plan Nat := do
  let _ ← Plan.call (.zrem key Word.minValue (now - window.wrappedMillis - 1))
  let count ← Plan.call (.zcount key Word.minValue Word.maxValue)
  Plan.call (.expire key window)
  return count

theorem count_le_size (p : Int → Bool) (t : Table Int) : (t.count fun _ score => p score) ≤ t.size :=
  Table.size_filter_le _ t

theorem countRange_keptSlot (kept : Table Int) (deadline : Option Int) (min max : Int) :
    (countRange key min max (keptSlot kept deadline)).1 =
      .ok (kept.count fun _ score => inRange min max score) := by
  unfold keptSlot
  split
  · rename_i drained
    have none_counted := count_le_size (inRange min max) kept
    rw [drained] at none_counted
    rw [Nat.le_zero.mp none_counted]
    rfl
  · rfl

theorem renew_keptSlot (kept : Table Int) (deadline : Option Int) (lifetime : Duration) :
    renew clock lifetime (keptSlot kept deadline) =
      (.ok (), keptSlot kept (some (deadlineAfter clock lifetime))) := by
  unfold keptSlot
  split <;> rfl

theorem aged_keptSlot {deadline : Option Int} (members kept : Table Int)
    (alive : Slot.live clock ⟨some (.sorted members), deadline⟩ = true) :
    (keptSlot kept deadline).aged clock = keptSlot kept deadline := by
  unfold keptSlot
  split
  · exact Slot.aged_vacant clock
  · exact Slot.aged_of_live alive

theorem run_trimSteps {m : Memory} {members : Table Int} {deadline : Option Int}
    (held : m.liveSlot clock key = ⟨some (.sorted members), deadline⟩) :
    let kept := members.filter fun _ score =>
      !inRange Word.minValue (now - window.wrappedMillis - 1) score
    ∃ m', (trimSteps key now window).run (answer clock) m =
        (.ok (kept.count fun _ score => inRange Word.minValue Word.maxValue score), m') ∧
      m'.liveSlot clock key =
        (keptSlot kept (some (deadlineAfter clock window))).aged clock := by
  intro kept
  obtain ⟨m₁, removed, left⟩ :=
    exists_access (blind_removeRange key Word.minValue (now - window.wrappedMillis - 1)) key m
  obtain ⟨m₂, counted, same⟩ :=
    exists_access (blind_countRange key Word.minValue Word.maxValue) key m₁
  obtain ⟨m₃, renewed, last⟩ := exists_access (blind_renew window) key m₂
  -- The log was live when it was trimmed, so what is kept of it is live with the same deadline.
  have alive : Slot.live clock ⟨some (.sorted members), deadline⟩ = true := by
    rw [← held]
    exact live_liveSlot (by rw [held]; rfl)
  have trimmed : removeRange key Word.minValue (now - window.wrappedMillis - 1)
      ⟨some (.sorted members), deadline⟩ = (.ok (members.size - kept.size), keptSlot kept deadline) :=
    rfl
  rw [held, trimmed] at removed left
  rw [aged_keptSlot members kept alive] at left
  rw [left] at counted same
  rw [countRange_keptSlot] at counted
  have unchanged : m₂.liveSlot clock key = keptSlot kept deadline :=
    same.trans (aged_keptSlot members kept alive)
  rw [unchanged, renew_keptSlot] at renewed last
  refine ⟨m₃, ?_, last⟩
  simp only [trimSteps, Plan.bind_eq, Plan.pure_eq, Plan.call, Plan.bind, Plan.run, answer,
    removed, counted, renewed]

theorem exists_run_recordSteps (clock : Int) (key : String) (now : Int) (window : Duration)
    (member : String) (m : Memory) :
    ∃ m', (recordSteps key now window member).run (answer clock) m =
        ((logInSteps clock key now window member (m.liveSlot clock key)).1, m') ∧
      m'.liveSlot clock key =
        (logInSteps clock key now window member (m.liveSlot clock key)).2.aged clock := by
  have found : sortedSet key (m.slotAt clock key) = sortedSet key (m.liveSlot clock key) :=
    apply_slotAt (sortedSet key) fun s empty => sortedSet_of_none empty
  have ran : (recordSteps key now window member).run (answer clock) m =
      match m.access clock key (addMember key now member) with
      | (.ok _, m) => (trimSteps key now window).run (answer clock) m
      | (.error error, m) => (.error error, m) := by
    change ((Plan.call (.zadd key now member)).bind fun _ => trimSteps key now window).run _ m = _
    rw [Plan.run_bind, Plan.run_call, answer]
    rcases m.access clock key (addMember key now member) with ⟨_ | _, after⟩ <;> rfl
  rw [ran, logInSteps, ← found]
  cases held : sortedSet key (m.slotAt clock key) with
  | error error =>
    have put : addMember key now member (m.slotAt clock key) =
        (.error error, m.slotAt clock key) := by
      rw [addMember, held]
    obtain ⟨m₁, failed, left⟩ := exists_access_of_eq put
    rw [failed]
    refine ⟨m₁, rfl, left.trans ?_⟩
    rw [← liveSlot_eq_aged_slotAt, liveSlot, Slot.aged_aged (Int.le_refl clock)]
  | ok members =>
    have put : addMember key now member (m.slotAt clock key) =
        (.ok (), ⟨some (.sorted (members.insert member now)), (m.slotAt clock key).deadline⟩) := by
      rw [addMember, held]
    obtain ⟨m₁, logged, left⟩ := exists_access_of_eq put
    -- The new member joins a slot that was accessed, and so has not expired.
    have fresh : Slot.expired clock ⟨some (.sorted (members.insert member now)),
        (m.slotAt clock key).deadline⟩ = false :=
      expired_slotAt clock m key
    rw [Slot.aged_of_live (by simp [Slot.live, fresh])] at left
    rw [logged]
    exact run_trimSteps left

theorem blind_logRequest (clock : Int) (key : String) (now : Int) (window : Duration)
    (member : String) : Blind clock (logRequest clock key now window member) := by
  intro s empty
  simp only [logRequest, sortedSet, empty, Slot.vacant, and_self]

/-- A request is in its own window, so its log is not empty. -/
theorem size_logged_ne_zero {earliest : Int} (order : earliest ≤ now) (member : String)
    (members : Table Int) :
    ((members.insert member now).filter fun _ score => decide (earliest ≤ score)).size ≠ 0 := by
  apply Nat.ne_of_gt
  apply List.length_pos_of_mem (a := (member, now))
  exact List.mem_filter.mpr ⟨List.mem_cons_self, decide_eq_true order⟩

/-- Among words, the four calls come to the one step. -/
theorem logInSteps_eq_logRequest {s : Slot} (nonneg : 0 ≤ window.wrappedMillis)
    (word : Word.InRange now)
    (words : ∀ members, sortedSet key s = .ok members → ∀ score ∈ members.values,
      Word.InRange score) :
    logInSteps clock key now window member s = logRequest clock key now window member s := by
  unfold logInSteps logRequest
  cases held : sortedSet key s with
  | error error => rfl
  | ok members =>
    have scores : ∀ entry ∈ (members.insert member now).entries, Word.InRange entry.2 := by
      intro entry inserted
      rcases Table.mem_values_insert (List.mem_map_of_mem inserted) with same | old
      · rw [same]
        exact word
      · exact words members held entry.2 old
    -- The steps remove a closed range that starts at the least word, the one step keeps the rest.
    have kept : trimmed now window member members = (members.insert member now).filter
        fun _ score => decide (now - window.wrappedMillis ≤ score) := by
      apply Table.filter_congr
      intro entry inserted
      have lower := (scores entry inserted).1
      rw [Bool.eq_iff_iff]
      simp only [inRange, Bool.not_eq_true', Bool.and_eq_false_iff, decide_eq_false_iff_not,
        decide_eq_true_eq]
      omega
    have all_counted : (trimmed now window member members).count
        (fun _ score => inRange Word.minValue Word.maxValue score) =
          (trimmed now window member members).size := by
      apply congrArg List.length
      apply List.filter_eq_self.mpr
      intro entry left
      have word := scores entry (List.mem_filter.mp left).1
      simpa [inRange, Word.InRange] using word
    have not_drained : (trimmed now window member members).size ≠ 0 := by
      rw [kept]
      exact size_logged_ne_zero (by omega) member members
    dsimp only
    rw [all_counted, keptSlot, if_neg not_drained, kept]

end Memory

namespace Limiter

theorem evaluate_of_slidingWindow {base : String} {now : Int} {ticket : String} {key : LimitKey}
    {limit : Limit} (counted : limit.algorithm = .slidingWindow) :
    evaluate base now ticket key limit =
      (Plan.call (.recordInWindow (key.stateKey base "sw") now limit.window
        (logMember now ticket))).bind fun count => .done (decide (count ≤ limit.maxRequests)) := by
  unfold evaluate
  rw [counted]
  rfl

end Limiter

namespace Session

/-- What a request makes of the slot of a log. -/
def log (s : Session) (key : LimitKey) (limit : Limit) (ticket : String) (slot : Slot) :
    Except LimiterError Nat × Slot :=
  let storeKey := key.stateKey s.base "sw"
  let member := Limiter.logMember s.now ticket
  match s.compounding with
  | .whole => Memory.logRequest s.now storeKey s.now limit.window member slot
  | .inSteps => Memory.logInSteps s.now storeKey s.now limit.window member slot

variable {s : Session} {key : LimitKey} {limit : Limit} {ticket : String}

theorem exists_run_slidingWindow (s : Session) (key : LimitKey) (ticket : String)
    (counted : limit.algorithm = .slidingWindow) :
    ∃ m', s.run (Limiter.evaluate s.base s.now ticket key limit) =
        ((s.log key limit ticket (s.part key "sw")).1.map
          fun count => decide (count ≤ limit.maxRequests), m') ∧
      m'.liveSlot s.now (key.stateKey s.base "sw") =
        (s.log key limit ticket (s.part key "sw")).2.aged s.now := by
  rw [Limiter.evaluate_of_slidingWindow counted, run_bind_done]
  unfold run
  rw [Compounding.run_plan_call]
  unfold log
  cases s.compounding with
  | whole =>
    obtain ⟨m', ran, left⟩ := Memory.exists_access (Memory.blind_logRequest s.now
      (key.stateKey s.base "sw") s.now limit.window (Limiter.logMember s.now ticket))
      (key.stateKey s.base "sw") s.store.inner
    refine ⟨m', ?_, left⟩
    dsimp only [Memory.answer]
    rw [ran]
    rfl
  | inSteps =>
    obtain ⟨m', ran, left⟩ := Memory.exists_run_recordSteps s.now (key.stateKey s.base "sw") s.now
      limit.window (Limiter.logMember s.now ticket) s.store.inner
    refine ⟨m', ?_, left⟩
    dsimp only [Call.steps]
    rw [ran]
    rfl

theorem outcome_slidingWindow (healthy : s.Healthy) (counted : limit.algorithm = .slidingWindow) :
    (s.request key limit ticket).outcome = (s.log key limit ticket (s.part key "sw")).1.map
      fun count => decide (count ≤ limit.maxRequests) := by
  obtain ⟨m', ran, -⟩ := exists_run_slidingWindow s key ticket counted
  rw [outcome_request healthy, ran]

theorem part_slidingWindow (healthy : s.Healthy) (counted : limit.algorithm = .slidingWindow) :
    (s.step (.evaluate key limit ticket)).2.part key "sw" =
      (s.log key limit ticket (s.part key "sw")).2.aged s.now := by
  obtain ⟨m', ran, left⟩ := exists_run_slidingWindow s key ticket counted
  rw [part_evaluate healthy, ran, left]

end Session

end Throttle
