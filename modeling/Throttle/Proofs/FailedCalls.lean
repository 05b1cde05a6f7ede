import Throttle.Proofs.Resolution

/-!
# Failed actions

A call that fails leaves every key of a store in memory alone (`answer_keeps_of_failed`): what an access
does to a slot it does after all that may fail, and a bucket is read as a whole before it is written.

The plans of limiters and publishers write last (`Plan.WritesLast`): reads come first, and after a call
that may write the plan has nothing left that could fail.  So a plan that fails leaves no trace either,
whichever of its calls are stopped by faults (`WritesLast.keeps_of_failed`).
-/

namespace Throttle

variable {α β : Type} {now : Int} {key other : String} {error : LimiterError}

namespace Memory

variable {m : Memory}

/-! ## Slots -/

/-- What fails returns the slot as it found it. -/
def Cautious (f : Slot → Except LimiterError α × Slot) : Prop :=
  ∀ s error, (f s).1 = .error error → (f s).2 = s

theorem cautious_addTo (now : Int) (key : String) (delta : Int) (lifetime : Option Duration) :
    Cautious (addTo now key delta lifetime) := by
  intro s error failed
  unfold addTo at *
  cases held : s.value with
  | none => simp [held] at failed
  | some value =>
    cases value with
    | sorted members => rfl
    | scalar text => cases read : Decimal.read? text <;> simp_all

theorem cautious_addMember (key : String) (score : Int) (member : String) :
    Cautious (addMember key score member) := by
  intro s error failed
  unfold addMember at *
  cases sorted : sortedSet key s <;> simp_all

theorem cautious_removeRange (key : String) (min max : Int) :
    Cautious (removeRange key min max) := by
  intro s error failed
  unfold removeRange at *
  cases held : s.value with
  | none => rfl
  | some value => cases value <;> simp_all

theorem cautious_logRequest (clock : Int) (key : String) (time : Int) (window : Duration)
    (member : String) : Cautious (logRequest clock key time window member) := by
  intro s error failed
  unfold logRequest at *
  cases sorted : sortedSet key s <;> simp_all

/-! ## Calls -/

/-- A slot that is put back as an access found it looks as before, its key's lapse apart. -/
theorem keeps_putSlot_slotAt (now : Int) (m : Memory) (key other : String) :
    Keeps now other m (m.putSlot key (m.slotAt now key)) := by
  by_cases own : other = key
  · subst own
    rw [Keeps, get?_putSlot, if_pos rfl]
    cases held : (m.slotAt now other).value with
    | none =>
      refine .inr ⟨by simp, ?_⟩
      rw [liveSlot_eq_aged_slotAt, Slot.aged_of_none held]
    | some value =>
      refine .inl ?_
      -- An access finds a value only in a slot that is there and not over.
      unfold slotAt at held ⊢
      cases found : m.slots.get? other with
      | none => simp [found, Slot.vacant] at held
      | some s => cases dead : s.expired now <;> simp_all [Slot.vacant]
  · exact keeps_putSlot own _

theorem keeps_access_of_failed {f : Slot → Except LimiterError α × Slot} (cautious : Cautious f)
    (failed : (m.access now key f).1 = .error error) (other : String) :
    Keeps now other m (m.access now key f).2 := by
  have same : (f (m.slotAt now key)).2 = m.slotAt now key := cautious _ _ failed
  have put := keeps_putSlot_slotAt now m key other
  rw [← same] at put
  exact put.trans (keeps_tick now other _)

theorem answer_keeps_of_failed {call : Call} (failed : (answer now call m).1 = .error error)
    (key : String) : Keeps now key m (answer now call m).2 := by
  cases call with
  | get k => exact keeps_readScalar now m k key
  | set k text lifetime => cases failed
  | incr k delta lifetime => exact keeps_access_of_failed (cautious_addTo _ _ _ _) failed key
  | decr k => exact keeps_access_of_failed (cautious_addTo _ _ _ _) failed key
  | zadd k score member => exact keeps_access_of_failed (cautious_addMember _ _ _) failed key
  | zrem k min max => exact keeps_access_of_failed (cautious_removeRange _ _ _) failed key
  | zcount k min max => exact keeps_access_of_failed (fun _ _ _ => rfl) failed key
  | expire k lifetime => cases failed
  | recordInWindow k time window member =>
    exact keeps_access_of_failed (cautious_logRequest _ _ _ _ _) failed key
  | askBucket bucket time =>
    obtain ⟨m', kept, asked⟩ := exists_askBucket_eq now bucket time m
    rw [answer, asked] at failed ⊢
    cases read : bucket.read (m.liveSlot now bucket.contentKey) (m.liveSlot now bucket.stampKey) with
    | error error => exact kept key
    | ok held =>
      rw [read] at failed
      cases failed

/-! ## Faults -/

variable {call : Call} {outcome : Except LimiterError call.Answer} {w after : Watched Memory}

/-- A call that a fault stops does not reach the store, and all others are answered by it. -/
theorem watched_cases (asked : (answer now).watched call w = (outcome, after)) :
    after.inner = w.inner ∨ answer now call w.inner = (outcome, after.inner) := by
  unfold Store.watched at asked
  rcases stopped : Fault.stop call w.faults with ⟨_ | error, faults⟩ <;> rw [stopped] at asked
  · cases asked
    exact .inr rfl
  · cases asked
    exact .inl rfl

theorem watched_keeps_of_failed (asked : (answer now).watched call w = (.error error, after))
    (key : String) : Keeps now key w.inner after.inner := by
  obtain same | answered := watched_cases asked
  · rw [same]
    exact .refl now key w.inner
  · have kept := answer_keeps_of_failed (congrArg Prod.fst answered) key
    rw [answered] at kept
    exact kept

theorem watched_keeps_of_read (asked : (answer now).watched call w = (outcome, after))
    (reads : call.writes = []) (key : String) : Keeps now key w.inner after.inner := by
  obtain same | answered := watched_cases asked
  · rw [same]
    exact .refl now key w.inner
  · have kept : Keeps now key w.inner (answer now call w.inner).2 :=
      answer_keeps now call w.inner (by simp [reads])
    rw [answered] at kept
    exact kept

end Memory

/-! ## Plans -/

namespace Plan

variable {p : Plan α}

/-- Only reads come before the last call, and after the last call nothing fails. -/
def WritesLast : Plan α → Prop
  | done _ => True
  | fail _ => True
  | ask call next => (∀ answer, ∃ value, next answer = done value) ∨
    call.writes = [] ∧ ∀ answer, (next answer).WritesLast

theorem writesLast_call (c : Call) : (call c).WritesLast := .inl fun answer => ⟨answer, rfl⟩

theorem writesLast_call_bind {c : Call} (f : c.Answer → α) :
    ((call c).bind fun answer => done (f answer)).WritesLast :=
  .inl fun answer => ⟨f answer, rfl⟩

theorem writes_eq_nil {call : Call} {next : call.Answer → Plan α}
    (reads : ∀ key, (ask call next).Spares key) : call.writes = [] :=
  List.eq_nil_iff_forall_not_mem.mpr fun key => (reads key).1

theorem WritesLast.bind {f : α → Plan β} (reads : ∀ key, p.Spares key)
    (next : ∀ value, (f value).WritesLast) : (p.bind f).WritesLast := by
  induction p with
  | done value => exact next value
  | fail error => exact trivial
  | ask call rest ih =>
    exact .inr ⟨writes_eq_nil reads, fun answer => ih answer fun key => (reads key).2 answer⟩

theorem writesLast_of_spares (reads : ∀ key, p.Spares key) : p.WritesLast := by
  induction p with
  | done value => exact trivial
  | fail error => exact trivial
  | ask call next ih =>
    exact .inr ⟨writes_eq_nil reads, fun answer => ih answer fun key => (reads key).2 answer⟩

theorem WritesLast.keeps_of_failed (writesLast : p.WritesLast) {w : Watched Memory}
    (failed : (p.run (Memory.answer now).watched w).1 = .error error) (key : String) :
    Memory.Keeps now key w.inner (p.run (Memory.answer now).watched w).2.inner := by
  induction p generalizing w with
  | done value => cases failed
  | fail error => exact .refl now key w.inner
  | ask call next ih =>
    rw [run] at failed ⊢
    rcases asked : (Memory.answer now).watched call w with ⟨stopped | answer, after⟩
    · exact Memory.watched_keeps_of_failed asked key
    · rw [asked] at failed
      obtain last | ⟨reads, rest⟩ := writesLast
      · obtain ⟨value, ends⟩ := last answer
        simp [ends, run] at failed
      · exact (Memory.watched_keeps_of_read asked reads key).trans (ih answer (rest answer) failed)

end Plan

namespace Limiter

theorem evaluate_writesLast (base : String) (now : Int) (ticket : String) (key : LimitKey)
    (limit : Limit) : (evaluate base now ticket key limit).WritesLast := by
  unfold evaluate
  cases limit.algorithm <;> exact Plan.writesLast_call_bind _

theorem allow_writesLast (base : String) (now : Int) (ticket service endpoint : String) :
    (allow base now ticket service endpoint).WritesLast := by
  refine .bind (resolve_spares base service endpoint) fun found => ?_
  cases found with
  | none => exact trivial
  | some limit => exact evaluate_writesLast base now ticket _ limit

end Limiter

theorem Publisher.publishLimit_writesLast (p : Publisher) (limit : Limit) :
    (p.publishLimit limit).WritesLast :=
  .bind (fun _ => Plan.spares_ofExcept _ _) fun _ => Plan.writesLast_call _

/-! ## Sessions -/

def failure? : Except LimiterError α → Option LimiterError
  | .ok _ => none
  | .error error => some error

/-- The error that an action has failed with. -/
def Reply.error? : Reply → Option LimiterError
  | decision outcome => failure? outcome
  | resolved outcome => failure? outcome
  | published outcome => failure? outcome
  | rulesPublished outcome => failure? outcome
  | answer _ outcome => failure? outcome
  | purged _ | clockSet => none

namespace Session

variable {s : Session} {p : Plan α}

theorem slot_perform_of_failed (whole : s.compounding = .whole) (writesLast : p.WritesLast)
    (failed : failure? (s.perform p).1 = some error) (storeKey : String) :
    (s.perform p).2.slot storeKey = s.slot storeKey := by
  unfold perform at *
  rw [whole] at failed ⊢
  rcases outcome : (p.run (Memory.answer s.now).watched s.store).1 with stopped | value
  · exact (writesLast.keeps_of_failed outcome storeKey).liveSlot (Int.le_refl s.now)
  · change failure? (p.run (Memory.answer s.now).watched s.store).1 = some error at failed
    rw [outcome] at failed
    cases failed

end Session

/-- **Failed actions leave no trace.**  On a store that does compound calls as one, whatever it holds and
    whichever calls are stopped by faults: a request, a question for a limit, a publication or a single
    call that fails leaves under every key what was live there, with its deadline. -/
theorem failed_action_leaves_no_trace {s : Session} (whole : s.compounding = .whole) {action : Action}
    (single : ∀ lifetime document, action ≠ .publishRules lifetime document) {error : LimiterError}
    (failed : (s.step action).1.error? = some error) (storeKey : String) :
    (s.step action).2.slot storeKey = s.slot storeKey := by
  cases action with
  | evaluate key limit ticket =>
    exact Session.slot_perform_of_failed whole (Limiter.evaluate_writesLast _ _ _ _ _) failed _
  | allow service endpoint ticket =>
    exact Session.slot_perform_of_failed whole (Limiter.allow_writesLast _ _ _ _ _) failed _
  | resolve service endpoint =>
    have reads := Plan.writesLast_of_spares (Limiter.resolve_spares s.base service endpoint)
    exact Session.slot_perform_of_failed whole reads failed _
  | publish lifetime limit =>
    exact Session.slot_perform_of_failed whole (Publisher.publishLimit_writesLast _ limit) failed _
  | publishRules lifetime document => exact absurd rfl (single lifetime document)
  | call c => exact Session.slot_perform_of_failed whole (Plan.writesLast_call c) failed _
  | purge | setClock _ => cases failed

/-- A request that finds a bucket's tokens, but no integer for the time of their last refill. -/
theorem failed_action_leaves_no_trace_ill_typed :
    let limit : Limit := ⟨"mail", some "send", .tokenBucket, 3, .ofMillis 1000⟩
    let stamp := (LimitKey.ofEndpoint "mail" "send").stateKey "limits" "tb:refilled_at"
    let s := (Session.start ⟨"limits", none⟩ .whole 0).after [.publish none limit,
      .allow "mail" "send" "a", .call (.set stamp "soon" none), .setClock 500]
    let action : Action := .allow "mail" "send" "b"
    s.compounding = .whole ∧ (∀ lifetime document, action ≠ .publishRules lifetime document) ∧
      (s.step action).1.error? = some (.corruptState stamp "soon") ∧
      ∀ storeKey, (s.step action).2.slot storeKey = s.slot storeKey := by
  intro limit stamp s action
  have whole : s.compounding = .whole := by
    simp only [s, Session.after, List.foldl, Session.compounding_step]
    rfl
  have single : ∀ lifetime document, action ≠ .publishRules lifetime document :=
    fun _ _ same => nomatch same
  have failed : (s.step action).1.error? = some (.corruptState stamp "soon") := by decide +kernel
  have kept := failed_action_leaves_no_trace whole single failed
  exact ⟨whole, single, failed, kept⟩

end Throttle
