import Throttle.Proofs.DocumentOrder

/-!
# Publishing a document

The rules of a document are checked before the first record is written, and then the records are written
in the order of the document, up to the first that the store refuses.  `Publisher.Outcome` lists what may
become of the rules so, on any store.  On a store in memory no write is refused, and under each store key
that the document names stands the record of the last rule for it.

Main statement: `publication_in_order`.
-/

namespace Throttle

/-- A store answers one call after the other, and none of them fails. -/
inductive Store.Takes {σ : Type} (store : Store σ) : List Call → σ → σ → Prop
  | nil (s : σ) : store.Takes [] s s
  | cons {call : Call} {answer : call.Answer} {calls : List Call} {s t after : σ}
      (taken : store call s = (.ok answer, t)) (rest : store.Takes calls t after) :
      store.Takes (call :: calls) s after

namespace Publisher

variable {σ : Type} {p : Publisher} {store : Store σ} {rules : List PlacedRule} {s : σ}

/-- The call that writes the record of a rule. -/
def write (p : Publisher) (r : PlacedRule) : Call :=
  .set (r.key.configKey p.base) r.record.write p.lifetime

/-- What becomes of rules on a store: the result, the calls that are made, and the state that they
    leave. -/
inductive Outcome (p : Publisher) (store : Store σ) (rules : List PlacedRule) (s : σ) :
    Except LimiterError Nat → List Call → σ → Prop
  | refused {before later : List PlacedRule} {r : PlacedRule} {problem : LimitProblem}
      (split : rules = before ++ r :: later) (fine : ∀ r ∈ before, r.Publishable)
      (broken : r.Breaks problem) : p.Outcome store rules s (.error (.invalidLimit problem)) [] s
  | stopped {before later : List PlacedRule} {r : PlacedRule} {error : LimiterError} {t after : σ}
      (fine : ∀ r ∈ rules, r.Publishable) (split : rules = before ++ r :: later)
      (taken : store.Takes (before.map p.write) s t)
      (failed : store (p.write r) t = (.error error, after)) :
      p.Outcome store rules s (.error error) ((before ++ [r]).map p.write) after
  | complete {after : σ} (fine : ∀ r ∈ rules, r.Publishable)
      (taken : store.Takes (rules.map p.write) s after) :
      p.Outcome store rules s (.ok rules.length) (rules.map p.write) after

/-! ## Checks -/

/-- Checks stop at the first rule that breaks something. -/
theorem forM_check_cases : ∀ rules : List PlacedRule,
    (rules.map PlacedRule.limit).forM Limit.check = .ok () ∧ (∀ r ∈ rules, r.Publishable) ∨
      ∃ before r later problem, rules = before ++ r :: later ∧ (∀ r ∈ before, r.Publishable) ∧
        r.Breaks problem ∧
        (rules.map PlacedRule.limit).forM Limit.check = .error (.invalidLimit problem)
  | [] => .inl ⟨rfl, by simp⟩
  | r :: rest => by
    have unfolded : ((r :: rest).map PlacedRule.limit).forM Limit.check =
      r.limit.check.bind fun _ => (rest.map PlacedRule.limit).forM Limit.check := rfl
    rw [unfolded]
    rcases r.check_limit_cases with ⟨own, checked⟩ | ⟨problem, broken, checked⟩
    · rw [checked, Except.bind]
      rcases forM_check_cases rest with
        ⟨all, fine⟩ | ⟨before, other, later, problem, rfl, fine, broken, first⟩
      · exact .inl ⟨all, by simpa [own] using fine⟩
      · exact .inr ⟨r :: before, other, later, problem, rfl, by simpa [own] using fine, broken, first⟩
    · rw [checked]
      exact .inr ⟨[], r, rest, problem, rfl, by simp, broken, rfl⟩

/-! ## Writes -/

theorem run_publishLimit {r : PlacedRule} (fine : r.Publishable) (s : σ) :
    (p.publishLimit r.limit).run store s = store (p.write r) s := by
  rw [publishLimit, PlacedRule.check_limit_eq_ok_iff.mpr fine, fine.record_eq]
  exact Plan.run_call store _ s

/-- The writes up to the first that fails, as a watch notes them. -/
theorem run_forM_publishLimit : ∀ {rules : List PlacedRule}, (∀ r ∈ rules, r.Publishable) →
    ∀ (log : List Call) (s : σ),
    (∃ after, store.Takes (rules.map p.write) s after ∧
      ((rules.map PlacedRule.limit).forM p.publishLimit).run store.watched ⟨[], log, s⟩ =
        (.ok (), ⟨[], (rules.map p.write).reverse ++ log, after⟩)) ∨
    ∃ before r later error t after, rules = before ++ r :: later ∧
      store.Takes (before.map p.write) s t ∧ store (p.write r) t = (.error error, after) ∧
      ((rules.map PlacedRule.limit).forM p.publishLimit).run store.watched ⟨[], log, s⟩ =
        (.error error, ⟨[], ((before ++ [r]).map p.write).reverse ++ log, after⟩)
  | [], _, log, s => .inl ⟨s, .nil s, rfl⟩
  | r :: rest, fine, log, s => by
    have asked : (p.publishLimit r.limit).run store.watched ⟨[], log, s⟩ =
        ((store (p.write r) s).1, ⟨[], p.write r :: log, (store (p.write r) s).2⟩) :=
      run_publishLimit (fine r List.mem_cons_self) _
    have unfolded : ((r :: rest).map PlacedRule.limit).forM p.publishLimit =
      (p.publishLimit r.limit).bind fun _ => (rest.map PlacedRule.limit).forM p.publishLimit := rfl
    rw [unfolded, Plan.run_bind, asked]
    rcases written : store (p.write r) s with ⟨_ | answer, t⟩
    · -- The watch has noted the call that failed as well.
      rename_i error
      exact .inr ⟨[], r, rest, error, s, t, rfl, .nil s, written, rfl⟩
    · have further := run_forM_publishLimit (fun r member => fine r (List.mem_cons_of_mem _ member))
        (p.write r :: log) t
      dsimp only
      rcases further with
        ⟨after, taken, ran⟩ | ⟨before, other, later, error, u, after, rfl, taken, failed, ran⟩
      · refine .inl ⟨after, .cons written taken, ?_⟩
        rw [ran]
        simp
      · refine .inr ⟨r :: before, other, later, error, u, after, rfl, .cons written taken, failed, ?_⟩
        rw [ran]
        simp

theorem exists_publish_eq (p : Publisher) (store : Store σ) (document : RulesDocument)
    (log : List Call) (s : σ) :
    ∃ result calls after, p.Outcome store document.rules s result calls after ∧
      (p.publish document).run store.watched ⟨[], log, s⟩ =
        (result, ⟨[], calls.reverse ++ log, after⟩) := by
  rcases forM_check_cases document.rules with
    ⟨all, fine⟩ | ⟨before, r, later, problem, split, fine, broken, first⟩
  · have checked : document.checkedLimits = .ok (document.rules.map PlacedRule.limit) := by
      rw [RulesDocument.checkedLimits, document.limits_eq, all]
      rfl
    have published : p.publish document =
        ((document.rules.map PlacedRule.limit).forM p.publishLimit).bind
          fun _ => .done document.rules.length := by
      rw [publish, checked, ← List.length_map PlacedRule.limit]
      rfl
    rw [published, Plan.run_bind_done]
    rcases run_forM_publishLimit fine log s with
      ⟨after, taken, ran⟩ | ⟨before, r, later, error, t, after, split, taken, failed, ran⟩
    · exact ⟨_, _, after, .complete fine taken, by rw [ran]; rfl⟩
    · exact ⟨_, _, after, .stopped fine split taken failed, by rw [ran]; rfl⟩
  · have checked : document.checkedLimits = .error (.invalidLimit problem) := by
      rw [RulesDocument.checkedLimits, document.limits_eq, first]
      rfl
    refine ⟨_, _, s, .refused split fine broken, ?_⟩
    rw [publish, checked]
    rfl

/-! ## Records in memory -/

/-- The last rule of a list whose record stands under a store key. -/
def lastUnder (p : Publisher) (storeKey : String) (rules : List PlacedRule) : Option PlacedRule :=
  (rules.filter fun r => r.key.configKey p.base = storeKey).getLast?

theorem lastUnder_append (p : Publisher) (storeKey : String) (rules : List PlacedRule)
    (r : PlacedRule) : p.lastUnder storeKey (rules ++ [r]) =
      if r.key.configKey p.base = storeKey then some r else p.lastUnder storeKey rules := by
  unfold lastUnder
  rw [List.filter_append]
  by_cases own : r.key.configKey p.base = storeKey <;> simp [own]

variable {now : Int} {m after : Memory}

/-- What the store key of a rule holds when its record was the last to be written there. -/
def slot (p : Publisher) (now : Int) (r : PlacedRule) : Slot :=
  ⟨some (.scalar r.record.write), p.lifetime.map (deadlineAfter now)⟩

theorem aged_slot (lasting : ∀ d ∈ p.lifetime, 1 ≤ d.millis) (bounded : now < Word.maxValue)
    (r : PlacedRule) : (p.slot now r).aged now = p.slot now r := by
  apply Slot.aged_of_live
  unfold slot
  cases lifetime : p.lifetime with
  | none => rfl
  | some d =>
    have long := lasting d lifetime
    have later : now < deadlineAfter now d := by
      unfold deadlineAfter Word.add Word.saturate Word.minValue
      unfold Word.maxValue at *
      omega
    simpa [Slot.live, Slot.expired] using later

def writeAll (p : Publisher) (now : Int) (rules : List PlacedRule) (m : Memory) : Memory :=
  rules.foldl (fun m r => m.writeScalar now (r.key.configKey p.base) r.record.write p.lifetime) m

/-- A store in memory refuses no write. -/
theorem eq_writeAll_of_takes (taken : (Memory.answer now).Takes (rules.map p.write) m after) :
    after = p.writeAll now rules m := by
  induction rules generalizing m with
  | nil =>
    cases taken with
    | nil => rfl
  | cons r rest ih =>
    rw [List.map_cons] at taken
    cases taken with
    | cons written further =>
      obtain ⟨-, rfl⟩ := Prod.mk.inj written
      exact ih further

theorem liveSlot_writeAll (lasting : ∀ d ∈ p.lifetime, 1 ≤ d.millis) (bounded : now < Word.maxValue)
    (m : Memory) (storeKey : String) (rules : List PlacedRule) :
    (∀ r, p.lastUnder storeKey rules = some r →
      (p.writeAll now rules m).liveSlot now storeKey = p.slot now r) ∧
    (p.lastUnder storeKey rules = none → Memory.Keeps now storeKey m (p.writeAll now rules m)) := by
  -- From the end of the list, since it is the last rule that counts.
  induction rules using List.reverseRecOn with
  | nil => exact ⟨fun r named => (nomatch named), fun _ => .refl now storeKey m⟩
  | append_singleton rules r ih =>
    have last : p.writeAll now (rules ++ [r]) m = (p.writeAll now rules m).writeScalar now
        (r.key.configKey p.base) r.record.write p.lifetime := by
      simp [writeAll]
    rw [last, lastUnder_append]
    split
    · rename_i own
      refine ⟨fun other named => ?_, fun none => nomatch none⟩
      obtain rfl := Option.some.inj named
      rw [← own, Memory.liveSlot_writeScalar]
      exact aged_slot lasting bounded r
    · rename_i other
      have kept : Memory.Keeps now storeKey (p.writeAll now rules m) _ :=
        Memory.keeps_writeScalar r.record.write p.lifetime (Ne.symm other)
      exact ⟨fun named found => (kept.liveSlot (Int.le_refl now)).trans (ih.1 named found),
        fun none => (ih.2 none).trans kept⟩

end Publisher

/-! ## Sessions -/

namespace Compounding

theorem plan_forM {γ : Type} (c : Compounding) {f : γ → Plan Unit}
    (single : ∀ item, c.plan (f item) = f item) (items : List γ) :
    c.plan (items.forM f) = items.forM f := by
  induction items with
  | nil => exact c.plan_done ()
  | cons item rest ih =>
    have unfolded : (item :: rest).forM f = (f item).bind fun _ => rest.forM f := rfl
    rw [unfolded, plan_bind, single, ih]

/-- A publication makes no compound call that could be taken apart. -/
theorem plan_publish (c : Compounding) (p : Publisher) (document : RulesDocument) :
    c.plan (p.publish document) = p.publish document := by
  have single (limit : Limit) : c.plan (p.publishLimit limit) = p.publishLimit limit := by
    rw [Publisher.publishLimit, Plan.bind_eq, plan_bind, plan_ofExcept]
    cases c <;> rfl
  rw [Publisher.publish, Plan.bind_eq, plan_bind, plan_ofExcept]
  apply congrArg
  funext limits
  rw [Plan.bind_eq, plan_bind, plan_forM c single, Plan.pure_eq, plan_done]

end Compounding

namespace Session

theorem exists_step_publishRules_eq {s : Session} (healthy : s.Healthy) (lifetime : Option Duration)
    (document : RulesDocument) :
    ∃ result calls after,
      Publisher.Outcome ⟨s.base, lifetime⟩ (Memory.answer s.now) document.rules s.store.inner result
        calls after ∧
      s.step (.publishRules lifetime document) =
        (.rulesPublished result, { s with store := ⟨[], calls.reverse ++ s.store.log, after⟩ }) := by
  obtain ⟨result, calls, after, outcome, ran⟩ := Publisher.exists_publish_eq ⟨s.base, lifetime⟩
    (Memory.answer s.now) document s.store.log s.store.inner
  refine ⟨result, calls, after, outcome, ?_⟩
  have performed : s.perform (Publisher.publish ⟨s.base, lifetime⟩ document) =
      (result, { s with store := ⟨[], calls.reverse ++ s.store.log, after⟩ }) := by
    unfold perform
    rw [Compounding.plan_publish, healthy.store_eq, ran]
  rw [step, reply, performed]

end Session

/-- **Publishing a document.**  There is one list of the rules of a document in their order.  On any store,
    a document with an invalid rule is refused with the error of its first invalid rule, and no call is
    made.  Otherwise the rules are written in their order, one call each, up to the first that fails,
    whose error is the result; if none fails the result is how many rules there are.  On a store in
    memory, and with a lifetime of a millisecond or more, each store key that is named then holds the
    record of the last rule for it, and all others are left alone. -/
theorem publication_in_order (p : Publisher) (document : RulesDocument) :
    ∃ rules, (∀ other, document.Lists other ↔ other = rules) ∧
      (∀ {σ : Type} (store : Store σ) (s : σ),
        let (result, w) := (p.publish document).run store.watched (.start s)
        p.Outcome store rules s result w.calls w.inner) ∧
      ∀ s : Session, s.base = p.base → s.Healthy → s.now < Word.maxValue →
        (∀ d ∈ p.lifetime, 1 ≤ d.millis) → (∀ r ∈ rules, r.Publishable) →
          let (reply, after) := s.step (.publishRules p.lifetime document)
          reply = .rulesPublished (.ok rules.length) ∧
          ∀ storeKey,
            (∀ r, p.lastUnder storeKey rules = some r → after.slot storeKey =
              ⟨some (.scalar r.record.write), p.lifetime.map (deadlineAfter s.now)⟩) ∧
            (p.lastUnder storeKey rules = none →
              Memory.Keeps s.now storeKey s.store.inner after.store.inner) := by
  refine ⟨document.rules, document.lists_iff, ?outcome, ?records⟩
  case outcome =>
    intro σ store s
    obtain ⟨result, calls, after, outcome, ran⟩ := p.exists_publish_eq store document [] s
    have started : (p.publish document).run store.watched (.start s) = _ := ran
    rw [started]
    simpa [Watched.calls] using outcome
  case records =>
    intro s base healthy bounded lasting fine
    obtain ⟨result, calls, after, outcome, stepped⟩ :=
      Session.exists_step_publishRules_eq healthy p.lifetime document
    have publisher : (⟨s.base, p.lifetime⟩ : Publisher) = p := by rw [base]
    rw [publisher] at outcome
    rw [stepped]
    cases outcome with
    | refused split fine' broken => exact absurd (fine _ (by rw [split]; simp)) broken.not_publishable
    | stopped _ split taken failed => cases (Prod.mk.inj failed).1
    | complete _ taken =>
      obtain rfl := Publisher.eq_writeAll_of_takes taken
      exact ⟨rfl, fun storeKey =>
        Publisher.liveSlot_writeAll lasting bounded s.store.inner storeKey document.rules⟩

/-- A service that is listed twice, with a rule for one endpoint in both places. -/
theorem publication_in_order_twice :
    let p : Publisher := ⟨"limits", some (.ofMillis 1)⟩
    let first : LimitRule := ⟨.tokenBucket, 5, 1000⟩
    let second : LimitRule := ⟨.slidingWindow, 9, 500⟩
    let document : RulesDocument := ⟨[⟨"search", some first, [⟨"query", first⟩]⟩,
      ⟨"search", none, [⟨"query", second⟩]⟩]⟩
    let s := (Session.start p .inSteps (-3)).after [.call (.set "text" "x" none)]
    let after := (s.step (.publishRules p.lifetime document)).2
    let general := "\x7b\"service_name\":\"search\",\"algorithm\":\"token_bucket\"," ++
      "\"max_requests\":5,\"time_window_ms\":1000\x7d"
    let query := "\x7b\"service_name\":\"search\",\"endpoint\":\"query\"," ++
      "\"algorithm\":\"sliding_window\",\"max_requests\":9,\"time_window_ms\":500\x7d"
    document.Lists [⟨"search", none, first⟩, ⟨"search", some "query", first⟩,
        ⟨"search", some "query", second⟩] ∧
      s.base = p.base ∧ s.Healthy ∧ s.now < Word.maxValue ∧ (∀ d ∈ p.lifetime, 1 ≤ d.millis) ∧
      (s.step (.publishRules p.lifetime document)).1 = .rulesPublished (.ok 3) ∧
      after.slot "limits:config:search:*" = ⟨some (.scalar general), some (-2)⟩ ∧
      after.slot "limits:config:search:query" = ⟨some (.scalar query), some (-2)⟩ ∧
      Memory.Keeps s.now "text" s.store.inner after.store.inner := by
  intro p first second document s after general query
  have lists : document.Lists [⟨"search", none, first⟩, ⟨"search", some "query", first⟩,
      ⟨"search", some "query", second⟩] := by
    refine ⟨[⟨0, none⟩, ⟨0, some 0⟩, ⟨1, some 0⟩], by simp [Place.Before], ?_, rfl⟩
    rintro ⟨_ | _ | i, _ | _ | j⟩ <;>
      simp [document, RulesDocument.ruleAt?, ServiceRules.ruleAt?]
  have bounded : s.now < Word.maxValue := by decide
  have lasting : ∀ d ∈ p.lifetime, 1 ≤ d.millis := by decide
  obtain ⟨rules, only, -, published⟩ := publication_in_order p document
  obtain rfl := (only _).mp lists
  obtain ⟨reply, slots⟩ := published s rfl rfl bounded lasting (by decide)
  have general_written : (PlacedRule.record ⟨"search", none, first⟩).write = general := by
    decide +kernel
  have query_written : (PlacedRule.record ⟨"search", some "query", second⟩).write = query := by
    decide +kernel
  rw [← general_written, ← query_written]
  exact ⟨lists, rfl, rfl, bounded, lasting, reply, (slots _).1 _ (by decide +kernel),
    (slots _).1 _ (by decide +kernel), (slots "text").2 (by decide +kernel)⟩

end Throttle
