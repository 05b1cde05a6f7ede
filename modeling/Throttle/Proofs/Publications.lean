import Throttle.Proofs.Isolation
import Throttle.Proofs.RecordRoundTrip

/-!
# Publications and resolutions

`Session.publications` lists what has been published in a run, and `Publication.resolved` says from this
list alone what the limit of an endpoint is: that of its own last publication, or else that of its
service's, each for as long as it is in force.  Main statement: `resolution_reflects_publications`.

The records of a store are the last publications under their keys, cut down by the passing of time
(`Session.Reflects`); publications write them, and nothing else does.
-/

namespace Throttle

/-! ## What has been published -/

/-- A limit that was published, with the lifetime of its record. -/
structure Publication where
  limit : Limit
  lifetime : Option Duration
  time : Int

def Entry.publication? : Entry → Option Publication
  | ⟨.publish lifetime limit, time, .published (.ok ())⟩ => some ⟨limit, lifetime, time⟩
  | _ => none

/-- The publications of a run, without those that were refused. -/
def Session.publications (s : Session) (run : List Action) : List Publication :=
  (s.trace run).filterMap Entry.publication?

namespace Publication

variable {now : Int} {key : LimitKey} {p : Publication} {past : List Publication}

def inForce (now : Int) (p : Publication) : Bool :=
  match p.lifetime with
  | none => true
  | some lifetime => decide (now < p.time + lifetime.millis)

/-- The last publication under a key. -/
def last (key : LimitKey) (past : List Publication) : Option Publication :=
  (past.filter fun p => p.limit.key = key).getLast?

/-- The limit that is in force under a key.  Only the last publication counts: when it is over, what it
    replaced does not come back. -/
def current (now : Int) (key : LimitKey) (past : List Publication) : Option Limit :=
  ((last key past).filter (inForce now)).map fun p => p.limit.inMillis

def resolved (now : Int) (service endpoint : String) (past : List Publication) : Option Limit :=
  (current now (.ofEndpoint service endpoint) past).or (current now (.serviceDefault service) past)

theorem last_append (key : LimitKey) (past : List Publication) (p : Publication) :
    last key (past ++ [p]) = if p.limit.key = key then some p else last key past := by
  unfold last
  rw [List.filter_append]
  by_cases own : p.limit.key = key <;> simp [own]

theorem mem_of_last (found : last key past = some p) : p ∈ past :=
  (List.mem_filter.mp (List.mem_of_getLast? found)).1

/-! ### Records -/

/-- The slot that a publication writes. -/
def slot (p : Publication) : Slot :=
  ⟨some (.scalar (Record.ofLimit p.limit).write), p.lifetime.map (deadlineAfter p.time)⟩

/-- What the store key of a key's record holds after some publications. -/
def record (key : LimitKey) (past : List Publication) : Slot :=
  ((last key past).map slot).getD .vacant

theorem live_slot (nonneg : 0 ≤ p.time) (bounded : now < Word.maxValue) :
    p.slot.live now = p.inForce now := by
  unfold slot inForce
  cases p.lifetime with
  | none => rfl
  | some lifetime => exact Slot.live_written nonneg bounded _ lifetime

theorem published_record (valid : ∀ p ∈ past, p.limit.Valid ∧ 0 ≤ p.time)
    (bounded : now < Word.maxValue) (storeKey : String) :
    ((record key past).aged now).published storeKey = .ok (current now key past) := by
  unfold record current
  cases found : last key past with
  | none =>
    rw [Option.map_none, Option.getD_none, Slot.aged_vacant]
    rfl
  | some p =>
    obtain ⟨valid, nonneg⟩ := valid p (mem_of_last found)
    have live := live_slot nonneg bounded
    rw [Option.map_some, Option.getD_some, Option.filter_some]
    cases fresh : p.inForce now with
    | false =>
      rw [Slot.aged_of_not_live (live.trans fresh)]
      rfl
    | true =>
      rw [Slot.aged_of_live (live.trans fresh)]
      unfold Slot.published Slot.readText slot
      dsimp only
      rw [Record.decodeLimit_write valid]
      rfl

end Publication

/-! ## Runs -/

/-- The action publishes one limit at most, and uses the store through a limiter or a publisher. -/
def Action.PublishesSingly : Action → Prop
  | publish _ _ | evaluate _ _ _ | allow _ _ _ | resolve _ _ | purge | setClock _ => True
  | publishRules _ _ | call _ => False

namespace Session

variable {s : Session} {past : List Publication} {action : Action}

/-- The records of a store are the last publications under their keys, as far as they are in force. -/
structure Reflects (s : Session) (past : List Publication) : Prop where
  healthy : s.Healthy
  records : ∀ key : LimitKey, s.slot (key.configKey s.base) = (Publication.record key past).aged s.now
  valid : ∀ p ∈ past, p.limit.Valid ∧ 0 ≤ p.time

theorem Reflects.start (publisher : Publisher) (compounding : Compounding) (now : Int) :
    (start publisher compounding now).Reflects [] where
  healthy := rfl
  records _ := rfl
  valid := by simp

theorem Reflects.resolution_eq (reflects : s.Reflects past) (bounded : s.now < Word.maxValue)
    (service endpoint : String) :
    s.resolution service endpoint = .ok (Publication.resolved s.now service endpoint past) := by
  have published (key : LimitKey) : s.published key = .ok (Publication.current s.now key past) := by
    unfold Session.published
    rw [reflects.records key]
    exact Publication.published_record reflects.valid bounded _
  unfold resolution Publication.resolved
  rw [published, published]
  cases Publication.current s.now (.ofEndpoint service endpoint) past <;> rfl

theorem reply_of_mem_trace : ∀ {run : List Action} {s : Session}, s.Healthy →
    ∀ entry ∈ s.trace run, ∀ lifetime limit, entry.action = .publish lifetime limit →
      entry.reply = .published limit.check
  | [], _, _, _, member, _, _, _ => nomatch member
  | action :: rest, s, healthy, entry, member, lifetime, limit, same => by
    rcases List.mem_cons.mp member with rfl | later
    · obtain rfl : action = .publish lifetime limit := same
      exact reply_publish healthy lifetime limit
    · exact reply_of_mem_trace (healthy_step healthy action) entry later lifetime limit same

/-- An action that publishes nothing leaves all records to the passing of time. -/
theorem slot_configKey_step (healthy : s.Healthy) (singly : action.PublishesSingly)
    (nothing : ∀ lifetime limit, action ≠ .publish lifetime limit)
    (order : s.now ≤ (s.step action).2.now) (key : LimitKey) :
    (s.step action).2.slot (key.configKey s.base) =
      (s.slot (key.configKey s.base)).aged (s.step action).2.now := by
  have spared (k : LimitKey) (part : String) : key.configKey s.base ≠ k.stateKey s.base part :=
    LimitKey.configKey_ne_stateKey key k s.base part
  have kept : Memory.Keeps s.now (key.configKey s.base) s.store.inner
      (s.step action).2.store.inner := by
    cases action with
    | evaluate k limit ticket =>
      exact perform_keeps healthy (Limiter.evaluate_spares limit fun part _ => spared k part)
    | allow service endpoint ticket =>
      exact perform_keeps healthy (Limiter.allow_spares fun part => spared _ part)
    | resolve service endpoint =>
      exact perform_keeps healthy (Limiter.resolve_spares s.base service endpoint _)
    | purge => exact Memory.keeps_purge _ _ _
    | setClock reading => exact .refl _ _ _
    | publish lifetime limit => exact absurd rfl (nothing lifetime limit)
    | publishRules _ _ | call _ => cases singly
  unfold slot
  rw [kept.liveSlot order]
  exact (Slot.aged_aged order _).symm

theorem Reflects.of_nothing (reflects : s.Reflects past) (singly : action.PublishesSingly)
    (nothing : ∀ lifetime limit, action ≠ .publish lifetime limit)
    (order : s.now ≤ (s.step action).2.now) : (s.step action).2.Reflects past where
  healthy := healthy_step reflects.healthy action
  records key := by
    rw [base_step, slot_configKey_step reflects.healthy singly nothing order, reflects.records]
    exact Slot.aged_aged order _
  valid := reflects.valid

theorem Reflects.of_refused (reflects : s.Reflects past) (lifetime : Option Duration) {limit : Limit}
    {error : LimiterError} (refused : limit.check = .error error) :
    (s.step (.publish lifetime limit)).2.Reflects past where
  healthy := healthy_step reflects.healthy _
  records key := by
    rw [base_step, slot_publish reflects.healthy, refused]
    exact reflects.records key
  valid := reflects.valid

theorem Reflects.of_accepted (reflects : s.Reflects past) (lifetime : Option Duration) {limit : Limit}
    (accepted : limit.check = .ok ()) (nonneg : 0 ≤ s.now) :
    (s.step (.publish lifetime limit)).2.Reflects (past ++ [⟨limit, lifetime, s.now⟩]) where
  healthy := healthy_step reflects.healthy _
  records key := by
    rw [base_step, slot_publish reflects.healthy, accepted, Publication.record,
      Publication.last_append]
    dsimp only
    by_cases own : limit.key = key
    · rw [if_pos (by rw [own]), if_pos own]
      rfl
    · rw [if_neg fun same => own (LimitKey.configKey_injective same).symm, if_neg own]
      exact reflects.records key
  valid := by
    intro p member
    rcases List.mem_append.mp member with old | new
    · exact reflects.valid p old
    · obtain rfl := List.mem_singleton.mp new
      exact ⟨(limit.check_eq_ok_iff.mp accepted).2, nonneg⟩

theorem Reflects.step (reflects : s.Reflects past) (singly : action.PublishesSingly)
    (nonneg : 0 ≤ s.now) (order : s.now ≤ (s.step action).2.now) :
    (s.step action).2.Reflects
      (past ++ (Entry.publication? ⟨action, s.now, (s.step action).1⟩).toList) := by
  cases action with
  | publish lifetime limit =>
    rw [reply_publish reflects.healthy]
    cases checked : limit.check with
    | error error =>
      have same := reflects.of_refused lifetime checked
      simpa [Entry.publication?] using same
    | ok _ => exact reflects.of_accepted lifetime checked nonneg
  | evaluate _ _ _ | allow _ _ _ | resolve _ _ | purge | setClock _ =>
    have same := reflects.of_nothing singly (by simp) order
    simpa [Entry.publication?] using same
  | publishRules _ _ | call _ => cases singly

theorem publications_cons (s : Session) (action : Action) (rest : List Action) :
    s.publications (action :: rest) =
      (Entry.publication? ⟨action, s.now, (s.step action).1⟩).toList ++
        (s.step action).2.publications rest := by
  unfold publications
  rw [trace]
  cases told : Entry.publication? ⟨action, s.now, (s.step action).1⟩ with
  | none => rw [List.filterMap_cons_none told]; rfl
  | some p => rw [List.filterMap_cons_some told]; rfl

theorem Reflects.after : ∀ {run : List Action} {s : Session} {past : List Publication},
    s.Reflects past → (∀ action ∈ run, action.PublishesSingly) → Forward s.now run →
    InTime s.now run → (s.after run).Reflects (past ++ s.publications run)
  | [], s, past, reflects, _, _, _ => by
    change s.Reflects (past ++ [])
    rw [List.append_nil]
    exact reflects
  | action :: rest, s, past, reflects, singly, forward, inTime => by
    have own := singly action List.mem_cons_self
    have step := reflects.step own inTime.now.1 (le_now_step forward)
    have after := step.after (fun other member => singly other (.tail _ member))
      (forward_step forward) (inTime_step inTime)
    rw [publications_cons, ← List.append_assoc]
    exact after

end Session

/-- **Resolutions reflect exactly the publications.**  In any run in which the clock is never set back, a
    limit is published unless its check refuses it, and afterwards the limit of an endpoint is that of the
    last publication under its key while it is in force, or else that of the last publication for its
    service, with the window cut to whole milliseconds. -/
theorem resolution_reflects_publications (publisher : Publisher) (compounding : Compounding)
    (now : Int) {run : List Action} (singly : ∀ action ∈ run, action.PublishesSingly)
    (forward : Forward now run) (inTime : InTime now run) (service endpoint : String) :
    let s := Session.start publisher compounding now
    (∀ entry ∈ s.trace run, ∀ lifetime limit, entry.action = .publish lifetime limit →
      entry.reply = .published limit.check) ∧
    ((s.after run).step (.resolve service endpoint)).1 = .resolved (.ok
      (Publication.resolved (s.after run).now service endpoint (s.publications run))) := by
  intro s
  refine ⟨Session.reply_of_mem_trace rfl, ?_⟩
  have reflects : (s.after run).Reflects ([] ++ s.publications run) :=
    (Session.Reflects.start publisher compounding now).after singly forward inTime
  have bounded : (s.after run).now < Word.maxValue := (Session.inTime_after inTime).now.2
  rw [Session.reply_resolve reflects.healthy, reflects.resolution_eq bounded, List.nil_append]

/-- An endpoint that is named like the defaults.  Its limit is replaced by another that is over when the
    endpoint is asked for, so that the default of its service is back. -/
theorem resolution_reflects_publications_starred :
    let general : Limit := ⟨"mail", none, .fixedWindow, 5, .ofMillis 60000⟩
    let first : Limit := ⟨"mail", some "*", .tokenBucket, 2, .ofMillis 1000⟩
    let second : Limit := ⟨"mail", some "*", .slidingWindow, 1, .ofMillis 2000⟩
    let refused : Limit := ⟨"mail", some "*", .leakyBucket, 0, .ofMillis 1000⟩
    let run : List Action := [.publish none general, .publish none first, .setClock 100,
      .publish (some (.ofMillis 50)) second, .publish none refused, .allow "mail" "*" "a",
      .setClock 150, .resolve "mail" "*", .purge]
    let s := Session.start ⟨"limits", none⟩ .whole 0
    (∀ action ∈ run, action.PublishesSingly) ∧ Forward 0 run ∧ InTime 0 run ∧
      (∀ entry ∈ s.trace run, ∀ lifetime limit, entry.action = .publish lifetime limit →
        entry.reply = .published limit.check) ∧
      ((s.after run).step (.resolve "mail" "*")).1 = .resolved (.ok
        (Publication.resolved (s.after run).now "mail" "*" (s.publications run))) ∧
      Publication.resolved (s.after run).now "mail" "*" (s.publications run) = some general := by
  intro general first second refused run s
  have singly : ∀ action ∈ run, action.PublishesSingly := by simp [run, Action.PublishesSingly]
  have forward : Forward 0 run := by decide
  have inTime : InTime 0 run := by decide
  obtain ⟨replies, resolved⟩ := resolution_reflects_publications ⟨"limits", none⟩ .whole 0 singly
    forward inTime "mail" "*"
  exact ⟨singly, forward, inTime, replies, resolved, by decide +kernel⟩

end Throttle
