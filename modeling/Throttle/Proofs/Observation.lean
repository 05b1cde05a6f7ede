import Throttle.Proofs.Refinement
import Throttle.Proofs.Resolution

/-!
# What cannot be observed

A session is a plain session to all who watch it (`Session.Mirrors.observed_eq`).  Two things about
the store in memory are therefore nobody's concern:

* `lazy_expiry_is_invisible`: when what is over is dropped, and how often;
* `compound_calls_agree`: whether the store does its compound calls in one step or in several.
-/

namespace Throttle

/-! ## Runs without purges -/

namespace Action

def isPurge : Action → Bool
  | purge => true
  | _ => false

end Action

def Reply.isPurge : Reply → Bool
  | purged _ => true
  | _ => false

theorem Forward.filter {now : Int} {run : List Action} (forward : Forward now run)
    (p : Action → Bool) : Forward now (run.filter p) :=
  forward.sublist ((List.filter_sublist.filterMap _).cons_cons now)

/-- On a plain map a purge changes nothing. -/
theorem PlainSession.observed_filter : ∀ (run : List Action) (s : PlainSession),
    s.observed (run.filter fun action => !action.isPurge) =
      (s.observed run).filter fun observation => !observation.1.isPurge
  | [], _ => rfl
  | action :: rest, s => by
    have ih := observed_filter rest (s.step action).2
    cases action with
    | purge => exact ih
    | evaluate _ _ _ | allow _ _ _ | resolve _ _ | publish _ _ | publishRules _ _ | call _
    | setClock _ => exact congrArg (List.cons _) ih

/-! ## The relation -/

namespace Session

/-- The session shows what the plain session holds. -/
structure Mirrors (s : Session) (plain : PlainSession) : Prop where
  healthy : s.Healthy
  base_eq : s.base = plain.base
  now_eq : s.now = plain.now
  store : Memory.Mirrors s.now s.store.inner plain.map
  words : plain.map.Words

namespace Mirrors

variable {s : Session} {plain : PlainSession} {action : Action}

theorem size_eq (mirrors : s.Mirrors plain) : s.size = plain.map.size := mirrors.store.size_eq

theorem reply {α : Type} {P : α → Prop} {p : Plan α} (mirrors : s.Mirrors plain)
    (wrap : Except LimiterError α → Reply) (inWords : p.InWords P) :
    (s.reply wrap p).1 = (plain.reply wrap p).1 ∧
      (s.reply wrap p).2.Mirrors (plain.reply wrap p).2 := by
  obtain ⟨log, performed⟩ := exists_perform_eq mirrors.healthy p
  obtain ⟨agrees, words⟩ := mirrors.store.run s.compounding mirrors.words inWords
  have ran : plain.run p = p.run (PlainMap.answer s.now) plain.map := by
    rw [PlainSession.run, mirrors.now_eq]
  unfold Session.reply PlainSession.reply
  rw [performed, ran]
  exact ⟨congrArg wrap agrees.answer, rfl, mirrors.base_eq, mirrors.now_eq, agrees.mirrors, words⟩

theorem step (mirrors : s.Mirrors plain) (word : Word.InRange s.now) (inWords : action.InWords)
    (order : s.now ≤ (s.step action).2.now) :
    (s.step action).1.visible = (plain.step action).1 ∧
      (s.step action).2.Mirrors (plain.step action).2 := by
  have base := mirrors.base_eq
  have now := mirrors.now_eq
  cases action with
  | evaluate key limit ticket =>
    rw [PlainSession.step, ← base, ← now]
    exact mirrors.reply .decision (Limiter.evaluate_inWords word inWords)
  | allow service endpoint ticket =>
    rw [PlainSession.step, ← base, ← now]
    exact mirrors.reply .decision (Limiter.allow_inWords word)
  | resolve service endpoint =>
    rw [PlainSession.step, ← base]
    exact mirrors.reply .resolved (Limiter.resolve_inWords s.base service endpoint)
  | publish lifetime limit =>
    rw [PlainSession.step, ← base]
    exact mirrors.reply .published (Publisher.publishLimit_inWords limit)
  | publishRules lifetime document =>
    rw [PlainSession.step, ← base]
    exact mirrors.reply .rulesPublished (Publisher.publish_inWords document)
  | call c => exact mirrors.reply (.answer c) (Plan.inWords_call inWords)
  | purge => exact ⟨rfl, mirrors.healthy, base, now, mirrors.store.purge, mirrors.words⟩
  | setClock reading =>
    exact ⟨rfl, mirrors.healthy, base, rfl, mirrors.store.lapse order, mirrors.words.lapse reading⟩

theorem observed_eq : ∀ {run : List Action} {s : Session} {plain : PlainSession}, s.Mirrors plain →
    Forward s.now run → (∀ reading ∈ readings s.now run, Word.InRange reading) →
    (∀ action ∈ run, action.InWords) → s.observed run = plain.observed run
  | [], _, _, _, _, _, _ => rfl
  | action :: rest, s, plain, mirrors, forward, inRange, inWords => by
    obtain ⟨same, after⟩ := mirrors.step (inRange s.now List.mem_cons_self)
      (inWords action List.mem_cons_self) (le_now_step forward)
    have later : ∀ reading ∈ readings (s.step action).2.now rest, Word.InRange reading :=
      fun reading member => inRange reading (readings_step_subset s action rest member)
    rw [observed, PlainSession.observed, same, after.size_eq,
      after.observed_eq (forward_step forward) later
        fun other member => inWords other (List.mem_cons_of_mem _ member)]

/-- Nothing is held at the start, wherever the count of accesses stands. -/
theorem start (publisher : Publisher) (compounding : Compounding) (now : Int) (accesses : Nat) :
    ((Session.start publisher compounding now).holding ⟨.empty, accesses⟩).Mirrors
      (.start publisher.base now) where
  healthy := rfl
  base_eq := rfl
  now_eq := rfl
  store := .empty now accesses
  words _ _ _ found := nomatch found

end Mirrors

end Session

/-! ## What follows -/

/-- **Lazy expiry and sweeps are invisible.**  From an empty store and with a clock that is never set
    back, every reply and every number of live keys is that of a plain map, in which nothing that is
    over exists.  The count of accesses, and with it the next sweep, may stand anywhere at the start,
    and a purge more or less makes no difference to the other observations. -/
theorem lazy_expiry_is_invisible (publisher : Publisher) (now : Int) (accesses : Nat)
    {run : List Action} (forward : Forward now run)
    (inRange : ∀ reading ∈ readings now run, Word.InRange reading)
    (inWords : ∀ action ∈ run, action.InWords) :
    let s := (Session.start publisher .whole now).holding ⟨.empty, accesses⟩
    s.observed run = (PlainSession.start publisher.base now).observed run ∧
      s.observed (run.filter fun action => !action.isPurge) =
        (s.observed run).filter fun observation => !observation.1.isPurge := by
  intro s
  have mirrors : s.Mirrors (.start publisher.base now) := .start publisher .whole now accesses
  have observed := mirrors.observed_eq forward inRange inWords
  refine ⟨observed, ?_⟩
  have fewer : readings now (run.filter fun action => !action.isPurge) ⊆ readings now run :=
    List.cons_subset_cons now (List.filter_sublist.filterMap _).subset
  rw [observed, ← PlainSession.observed_filter]
  exact mirrors.observed_eq (forward.filter _) (fun reading member => inRange reading (fewer member))
    fun action member => inWords action (List.mem_filter.mp member).1

/-- A log, a counter and a scalar whose lifetime ends while a sweep is near. -/
theorem lazy_expiry_is_invisible_swept :
    let run : List Action := [.call (.recordInWindow "log" 0 (.ofMillis 10) "a"),
      .call (.incr "count" 5 (some (.ofMillis 20))), .call (.set "text" "x" (some (.ofMillis 10))),
      .setClock 10, .call (.zcount "log" 0 10), .purge, .call (.decr "count"),
      .call (.zadd "text" 1 "a"), .setClock 20, .call (.get "text")]
    let s := (Session.start ⟨"limits", none⟩ .whole 0).holding ⟨.empty, 1022⟩
    Forward 0 run ∧ (∀ reading ∈ readings 0 run, Word.InRange reading) ∧
      (∀ action ∈ run, action.InWords) ∧
      (s.observed run).map Prod.snd = [1, 2, 3, 1, 1, 1, 1, 2, 1, 1] := by
  intro run s
  have forward : Forward 0 run := by decide
  have inRange : ∀ reading ∈ readings 0 run, Word.InRange reading := by decide
  have inWords : ∀ action ∈ run, action.InWords := by decide
  obtain ⟨observed, -⟩ :=
    lazy_expiry_is_invisible ⟨"limits", none⟩ 0 1022 forward inRange inWords
  refine ⟨forward, inRange, inWords, ?_⟩
  rw [observed]
  decide +kernel

/-- **Compound calls in one step and in several agree.**  A store that logs requests and asks buckets in
    one step each, and one that does so by single calls, with a clock that is never set back: every
    reply, whether of a call, of a limiter or of a publisher, is the same, and so is the number of live
    keys after it. -/
theorem compound_calls_agree (publisher : Publisher) (now : Int) {run : List Action}
    (forward : Forward now run) (inRange : ∀ reading ∈ readings now run, Word.InRange reading)
    (inWords : ∀ action ∈ run, action.InWords) :
    (Session.start publisher .inSteps now).observed run =
      (Session.start publisher .whole now).observed run := by
  have inSteps := Session.Mirrors.start publisher .inSteps now 0
  have whole := Session.Mirrors.start publisher .whole now 0
  exact (inSteps.observed_eq forward inRange inWords).trans
    (whole.observed_eq forward inRange inWords).symm

/-- An ill-typed bucket, a bucket with one key, and a log with a window of no length. -/
theorem compound_calls_agree_ill_typed :
    let bucket : Bucket := ⟨.tokens, "key", "key", 5, .ofMillis 100⟩
    let run : List Action := [.call (.zadd "key" (-7) "a"), .call (.askBucket bucket 3),
      .call (.recordInWindow "key" 9 (.ofMillis 0) "b"), .call (.askBucket bucket 3),
      .setClock 50, .call (.askBucket bucket 60), .call (.recordInWindow "key" 60 (.ofMillis 10) "c")]
    Forward 0 run ∧ (∀ reading ∈ readings 0 run, Word.InRange reading) ∧
      (∀ action ∈ run, action.InWords) ∧
      ((Session.start ⟨"limits", none⟩ .inSteps 0).observed run).map Prod.snd =
        ((Session.start ⟨"limits", none⟩ .whole 0).observed run).map Prod.snd := by
  intro bucket run
  have forward : Forward 0 run := by decide
  have inRange : ∀ reading ∈ readings 0 run, Word.InRange reading := by decide
  have inWords : ∀ action ∈ run, action.InWords := by decide
  exact ⟨forward, inRange, inWords,
    congrArg _ (compound_calls_agree ⟨"limits", none⟩ 0 forward inRange inWords)⟩

end Throttle
