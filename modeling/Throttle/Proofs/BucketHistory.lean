import Mathlib.Data.List.Induction
import Throttle.Proofs.LastingBucket

/-!
# A bucket over its history

What a bucket that is kept for ever has ready for the next request, as a function of the times of the
requests before it: at least its capacity less their number (`sub_length_le_ready_remembered`), just
that at one instant (`ready_remembered_at_once`), and no more when requests are added to them
(`ready_remembered_le`).

`Session.outcome_after_bucket` says that the next request after any run is decided by what is ready.
-/

namespace Throttle

/-- A bucket that is settled on the way holds no more than one that is settled once. -/
theorem min_add_accrued_le {spare first second perWindow window : Int} (some_spare : 0 ≤ spare)
    (forward : 0 ≤ first) (forward' : 0 ≤ second) (rate : 0 < perWindow)
    (word : perWindow ≤ Word.maxValue) (length : 0 < window) :
    min (min (spare + accrued first perWindow window) perWindow + accrued second perWindow window)
        perWindow ≤
      min (spare + accrued (first + second) perWindow window) perWindow := by
  have split : first * perWindow / window + second * perWindow / window ≤
      (first + second) * perWindow / window := by
    simpa using sum_accrual_le length [first, second]
  rw [accrued_eq forward rate length, accrued_eq forward' rate length,
    accrued_eq (by omega) rate length]
  omega

namespace Bucket

/-- A capacity as publishing accepts it, and a window of some length. -/
structure Usable (b : Bucket) : Prop where
  capacity_pos : 0 < b.capacity
  capacity_le : b.capacity ≤ Word.maxValue
  window_pos : 0 < b.windowMillis

/-- A state that requests can leave: a word that is no less than empty, with a stamp. -/
structure Sound (b : Bucket) (held : Option Int × Option Int) : Prop where
  word : ∀ n ∈ held.1, Word.InRange n
  spare_nonneg : 0 ≤ b.spare held.1
  fresh_of_unstamped : held.2 = none → held.1 = none

variable {b : Bucket} {held held' : Option Int × Option Int} {now : Int} {times : List Int}

theorem Usable.inRange (usable : b.Usable) : Word.InRange b.capacity :=
  Word.inRange_of_nonneg usable.capacity_pos.le usable.capacity_le

theorem sound_fresh (usable : b.Usable) : b.Sound (none, none) where
  word n absent := nomatch absent
  spare_nonneg := by
    have capacity_pos := usable.capacity_pos
    unfold spare
    cases b.kind <;> dsimp only [Option.getD_none] <;> omega
  fresh_of_unstamped _ := rfl

theorem Sound.settled (sound : b.Sound held) (usable : b.Usable) (now : Int) :
    b.Sound (b.settled held now) where
  word := by
    rintro n ⟨⟩
    exact inRange_settle sound.word usable.inRange
  spare_nonneg := spare_settle_nonneg sound.word usable.inRange
    (ready_nonneg sound.spare_nonneg usable.capacity_pos.le)
  fresh_of_unstamped unstamped := nomatch unstamped

/-- A request takes one of what is ready. -/
theorem spare_settled (sound : b.Sound held) (usable : b.Usable) (now : Int) :
    b.spare (b.settled held now).1 =
      b.ready held.1 held.2 now - (decide (0 < b.ready held.1 held.2 now)).toInt := by
  rw [settled, spare_settle sound.word usable.inRange, admitted_settle sound.word usable.inRange]

theorem sound_remembered (usable : b.Usable) (times : List Int) : b.Sound (b.remembered times) := by
  induction times using List.reverseRecOn with
  | nil => exact sound_fresh usable
  | append_singleton times now ih =>
    rw [remembered_append_singleton]
    exact ih.settled usable now

/-- Each request takes one at most. -/
theorem sub_length_le_ready_remembered (usable : b.Usable) (times : List Int) (now : Int) :
    b.capacity - times.length ≤ b.ready (b.remembered times).1 (b.remembered times).2 now := by
  induction times using List.reverseRecOn generalizing now with
  | nil =>
    change _ ≤ b.ready none none now
    rw [ready_fresh, List.length_nil]
    omega
  | append_singleton times last ih =>
    have before := ih last
    have spare := spare_settled (sound_remembered usable times) usable last
    have gained := accrued_nonneg (now - last) b.capacity b.windowMillis
    rw [remembered_append_singleton, List.length_append, List.length_singleton]
    rw [ready, spare]
    change _ ≤ min (_ + accrued (now - last) b.capacity b.windowMillis) b.capacity
    cases decide (0 < b.ready (b.remembered times).1 (b.remembered times).2 last) with
    | true =>
      rw [Bool.toInt_true]
      omega
    | false =>
      rw [Bool.toInt_false]
      omega

/-- At one instant nothing accrues, so that each request takes just one. -/
theorem ready_remembered_at_once (usable : b.Usable) (at_once : ∀ t ∈ times, t = now) :
    b.ready (b.remembered times).1 (b.remembered times).2 now = max (b.capacity - times.length) 0 := by
  have capacity_pos := usable.capacity_pos
  induction times using List.reverseRecOn with
  | nil =>
    change b.ready none none now = _
    rw [ready_fresh, List.length_nil]
    omega
  | append_singleton times last ih =>
    obtain rfl := at_once last (List.mem_append_right _ List.mem_cons_self)
    have before := ih fun t member => at_once t (List.mem_append_left _ member)
    have spare := spare_settled (sound_remembered usable times) usable last
    rw [before] at spare
    rw [remembered_append_singleton, List.length_append, List.length_singleton, ready, spare]
    change min (_ + accrued (last - last) b.capacity b.windowMillis) b.capacity = _
    rw [Int.sub_self, accrued, if_pos (.inl le_rfl)]
    by_cases some_ready : 0 < max (b.capacity - times.length) 0
    · rw [decide_eq_true some_ready, Bool.toInt_true]
      omega
    · rw [decide_eq_false some_ready, Bool.toInt_false]
      omega

/-! ## Two histories -/

/-- From the stamp of the second state on, the first one never has less ready. -/
def Ahead (b : Bucket) (held held' : Option Int × Option Int) : Prop :=
  ∀ later, (∀ stamp ∈ held'.2, stamp ≤ later) →
    b.ready held'.1 held'.2 later ≤ b.ready held.1 held.2 later

theorem ready_settled (sound : b.Sound held) (usable : b.Usable) (now later : Int) :
    b.ready (b.settled held now).1 (b.settled held now).2 later =
      min (b.ready held.1 held.2 now - (decide (0 < b.ready held.1 held.2 now)).toInt +
        accrued (later - now) b.capacity b.windowMillis) b.capacity := by
  rw [ready, spare_settled sound usable]
  rfl

/-- A request that both make keeps the one ahead of the other. -/
theorem Ahead.both (ahead : b.Ahead held held') (sound : b.Sound held) (sound' : b.Sound held')
    (usable : b.Usable) (order : ∀ stamp ∈ held'.2, stamp ≤ now) :
    b.Ahead (b.settled held now) (b.settled held' now) := by
  intro later after
  have less := ahead now order
  have nonneg' : 0 ≤ b.ready held'.1 held'.2 now :=
    ready_nonneg sound'.spare_nonneg usable.capacity_pos.le
  rw [ready_settled sound usable, ready_settled sound' usable]
  by_cases some_ready : 0 < b.ready held.1 held.2 now <;>
    by_cases some_ready' : 0 < b.ready held'.1 held'.2 now <;>
    simp only [some_ready, some_ready', decide_true, decide_false, Bool.toInt_true,
      Bool.toInt_false] <;> omega

/-- What is ready at one time grows no further than if the bucket had not been looked at. -/
theorem min_ready_add_le (sound : b.Sound held) (usable : b.Usable)
    (order : ∀ stamp ∈ held.2, stamp ≤ now) {later : Int} (reached : now ≤ later) :
    min (b.ready held.1 held.2 now + accrued (later - now) b.capacity b.windowMillis) b.capacity ≤
      b.ready held.1 held.2 later := by
  obtain ⟨capacity_pos, capacity_le, window_pos⟩ := usable
  obtain ⟨content, _ | stamp⟩ := held
  · obtain rfl : content = none := sound.fresh_of_unstamped rfl
    rw [ready_fresh, ready_fresh]
    exact min_le_right _ _
  · have order := order stamp rfl
    have joined := min_add_accrued_le sound.spare_nonneg (by omega : 0 ≤ now - stamp)
      (by omega : 0 ≤ later - now) capacity_pos capacity_le window_pos
    rw [show now - stamp + (later - now) = later - stamp by omega] at joined
    exact joined

/-- A request that only the second makes leaves it with no more than it had. -/
theorem Ahead.extra (ahead : b.Ahead held held') (sound' : b.Sound held') (usable : b.Usable)
    (order : ∀ stamp ∈ held'.2, stamp ≤ now) : b.Ahead held (b.settled held' now) := by
  intro later after
  have reached : now ≤ later := after now rfl
  have less := ahead later fun stamp known => (order stamp known).trans reached
  have grown := min_ready_add_le sound' usable order reached
  have taken : 0 ≤ (decide (0 < b.ready held'.1 held'.2 now)).toInt := by
    cases decide (0 < b.ready held'.1 held'.2 now) <;> decide
  rw [ready_settled sound' usable]
  omega

theorem Ahead.foldl {times times' : List Int} (more : times.Sublist times') (usable : b.Usable) :
    ∀ {held held' : Option Int × Option Int}, b.Sound held → b.Sound held' → b.Ahead held held' →
      (held'.2.toList ++ times').Pairwise (· ≤ ·) →
      b.Ahead (times.foldl b.settled held) (times'.foldl b.settled held') := by
  induction more with
  | slnil => exact fun _ _ ahead _ => ahead
  | cons now _ ih =>
    intro held held' sound sound' ahead ordered
    have order : ∀ stamp ∈ held'.2, stamp ≤ now := fun stamp known =>
      (List.pairwise_append.mp ordered).2.2 stamp (by simpa using known) now List.mem_cons_self
    exact ih sound (sound'.settled usable now) (ahead.extra sound' usable order)
      (List.pairwise_append.mp ordered).2.1
  | cons_cons now _ ih =>
    intro held held' sound sound' ahead ordered
    have order : ∀ stamp ∈ held'.2, stamp ≤ now := fun stamp known =>
      (List.pairwise_append.mp ordered).2.2 stamp (by simpa using known) now List.mem_cons_self
    exact ih (sound.settled usable now) (sound'.settled usable now)
      (ahead.both sound sound' usable order) (List.pairwise_append.mp ordered).2.1

theorem stamp_of_remembered {stamp : Int} (known : stamp ∈ (b.remembered times).2) :
    stamp ∈ times := by
  cases times using List.reverseRecOn with
  | nil => cases known
  | append_singleton times last =>
    rw [remembered_append_singleton] at known
    obtain rfl := Option.some.inj known
    exact List.mem_append_right _ List.mem_cons_self

/-- With more requests before it, a request finds no more ready. -/
theorem ready_remembered_le {times' : List Int} (usable : b.Usable) (more : times.Sublist times')
    (ordered : times'.Pairwise (· ≤ ·)) (latest : ∀ t ∈ times', t ≤ now) :
    b.ready (b.remembered times').1 (b.remembered times').2 now ≤
      b.ready (b.remembered times).1 (b.remembered times).2 now := by
  have fresh := sound_fresh usable
  have ahead : b.Ahead (none, none) (none, none) := fun _ _ => le_rfl
  exact ahead.foldl more usable fresh fresh ordered now fun stamp known =>
    latest stamp (stamp_of_remembered known)

end Bucket

/-! ## The next request -/

theorem Limit.Valid.usable {limit : Limit} (valid : limit.Valid) (s : Session) (kind : BucketKind)
    (key : LimitKey) : (s.bucket kind key limit).Usable := by
  obtain ⟨requests, requests_le, window, window_le⟩ := id valid
  have capacity : (s.bucket kind key limit).capacity = limit.maxRequests := valid.capacity_eq
  have length : (s.bucket kind key limit).windowMillis = limit.window.millis := valid.windowMillis_eq
  exact ⟨by omega, by omega, by omega⟩

/-- The next request after a run is admitted iff its bucket, kept for ever, has one ready. -/
theorem Session.outcome_after_bucket {s : Session} {kind : BucketKind} {key : LimitKey}
    {limit : Limit} {run : List Action} (ticket : String) (valid : limit.Valid)
    (counted : limit.algorithm = kind.algorithm) (traffic : Traffic key (· = limit) s run)
    (forward : Forward s.now run)
    (fresh : s.part key kind.contentPart = .vacant ∧ s.part key kind.stampPart = .vacant) :
    let b := s.bucket kind key limit
    let held := b.remembered ((s.requests key run).map Request.time)
    ((s.after run).request key limit ticket).outcome =
      .ok (decide (0 < b.ready held.1 held.2 (s.after run).now)) := by
  intro b held
  have usable : b.Usable := valid.usable s kind key
  have remembers := remembers_after valid counted traffic forward fresh
  have bounded := traffic.after.inTime.now.2
  rw [remembers.outcome_request ticket valid counted traffic.after.healthy bounded,
    Bucket.admitted_settle remembers.word usable.inRange]

end Throttle
