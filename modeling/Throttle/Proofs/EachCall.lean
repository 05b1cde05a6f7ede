import Throttle.Store.Compose

/-!
# The calls of a plan

`Plan.Each` says that every call that a plan may come to has a property, and that what the plan comes
to has another, whatever the answers are.  What each such call keeps of a store, a run of the plan
keeps (`Each.run`).

`Plan.collect` puts together what the calls of a run give, and `Each.collect` says what is kept of it
and of the store at once.
-/

namespace Throttle.Plan

variable {α β γ δ σ : Type} {C : Call → Prop} {P : α → Prop} {Q : β → Prop}

def Each (C : Call → Prop) (P : α → Prop) : Plan α → Prop
  | done value => P value
  | fail _ => True
  | ask call next => C call ∧ ∀ answer, (next answer).Each C P

theorem each_true (p : Plan α) : p.Each (fun _ => True) fun _ => True := by
  induction p with
  | done value => trivial
  | fail error => trivial
  | ask call next ih => exact ⟨trivial, ih⟩

theorem each_call {c : Call} (holds : C c) : (call c).Each C fun _ => True :=
  ⟨holds, fun _ => trivial⟩

theorem each_ofExcept {result : Except LimiterError α}
    (holds : ∀ value, result = .ok value → P value) : (ofExcept result).Each C P := by
  cases result with
  | error error => exact trivial
  | ok value => exact holds value rfl

theorem Each.bind {p : Plan α} {f : α → Plan β} (each : p.Each C P)
    (next : ∀ value, P value → (f value).Each C Q) : (p.bind f).Each C Q := by
  induction p with
  | done value => exact next value each
  | fail error => exact trivial
  | ask call rest ih => exact ⟨each.1, fun answer => ih answer (each.2 answer)⟩

theorem Each.inSteps {p : Plan α} (each : p.Each C P)
    (steps : ∀ call, C call → call.steps.Each C fun _ => True) : p.inSteps.Each C P := by
  induction p with
  | done value => exact each
  | fail error => exact trivial
  | ask call next ih =>
    exact (steps call each.1).bind fun answer _ => ih answer (each.2 answer)

theorem each_forM {f : γ → Plan Unit} {items : List γ}
    (each : ∀ item ∈ items, (f item).Each C fun _ => True) :
    (items.forM f).Each C fun _ => True := by
  induction items with
  | nil => exact trivial
  | cons item rest ih =>
    exact (each item List.mem_cons_self).bind fun _ _ =>
      ih fun other member => each other (List.mem_cons_of_mem _ member)

theorem each_recordSteps {key : String} {now : Int} {window : Duration} {member : String}
    (put : C (.zadd key now member))
    (trim : C (.zrem key Word.minValue (now - window.wrappedMillis - 1)))
    (count : C (.zcount key Word.minValue Word.maxValue)) (renew : C (.expire key window)) :
    (recordSteps key now window member).Each C fun _ => True :=
  .bind (each_call put) fun _ _ => .bind (each_call trim) fun _ _ =>
    .bind (each_call count) fun _ _ => .bind (each_call renew) fun _ _ => trivial

theorem each_askBucketSteps {bucket : Bucket} (reads : ∀ key, C (.get key))
    (writes : ∀ key text, C (.set key text bucket.window)) (now : Int) :
    (askBucketSteps bucket now).Each C fun _ => True := by
  refine .bind (each_call (reads _)) fun _ _ => ?_
  refine .bind (P := fun _ => True) (each_ofExcept fun _ _ => trivial) fun _ _ => ?_
  refine .bind (each_call (reads _)) fun _ _ => ?_
  refine .bind (P := fun _ => True) (each_ofExcept fun _ _ => trivial) fun _ _ => ?_
  exact .bind (each_call (writes _ _)) fun _ _ => .bind (each_call (writes _ _)) fun _ _ => trivial

/-- What every call of a plan keeps, the plan keeps. -/
theorem Each.run {store : Store σ} {I : σ → Prop} {p : Plan α} (each : p.Each C P)
    (kept : ∀ call s, C call → I s → I (store call s).2) {s : σ} (holds : I s) :
    I (p.run store s).2 := by
  induction p generalizing s with
  | done value => exact holds
  | fail error => exact holds
  | ask call next ih =>
    have first := kept call s each.1 holds
    rw [Plan.run]
    split
    · rename_i answer after asked
      rw [asked] at first
      exact ih answer (each.2 answer) first
    · rename_i error after asked
      rw [asked] at first
      exact first

/-! ## What calls give -/

/-- What the calls of a run give, in order: each gives a list, by the state that it finds. -/
def collect (store : Store σ) (f : Call → σ → List γ) : Plan α → σ → List γ
  | done _, _ => []
  | fail _, _ => []
  | ask call next, s =>
    f call s ++
      match store call s with
      | (.ok answer, s) => (next answer).collect store f s
      | (.error _, _) => []

/-- The calls that a run makes. -/
def calls (store : Store σ) (p : Plan α) (s : σ) : List Call := p.collect store (fun c _ => [c]) s

theorem collect_call (store : Store σ) (f : Call → σ → List γ) (c : Call) (s : σ) :
    (call c).collect store f s = f c s := by
  rw [call, collect]
  rcases store c s with ⟨_ | answer, after⟩ <;> exact List.append_nil _

theorem collect_bind (store : Store σ) (f : Call → σ → List γ) (p : Plan α) (next : α → Plan β)
    (s : σ) :
    (p.bind next).collect store f s =
      p.collect store f s ++
        match p.run store s with
        | (.ok value, s) => (next value).collect store f s
        | (.error _, _) => [] := by
  induction p generalizing s with
  | done value => rfl
  | fail error => rfl
  | ask call rest ih =>
    simp only [bind, collect, run]
    rcases store call s with ⟨_ | answer, after⟩
    · exact (List.append_nil _).symm
    · dsimp only
      rw [ih, List.append_assoc]

/-- What every call keeps of what has been collected and of the store, a run keeps. -/
theorem Each.collect {store : Store σ} {f : Call → σ → List γ} {I : List γ → σ → Prop} {p : Plan α}
    (each : p.Each C P)
    (kept : ∀ call s past, C call → I past s → I (past ++ f call s) (store call s).2)
    {past : List γ} {s : σ} (holds : I past s) :
    I (past ++ p.collect store f s) (p.run store s).2 := by
  -- The past grows with every call, so the induction is for every past and every state.
  induction p generalizing past s with
  | done value =>
    rw [Plan.collect, List.append_nil]
    exact holds
  | fail error =>
    rw [Plan.collect, List.append_nil]
    exact holds
  | ask call next ih =>
    have first := kept call s past each.1 holds
    rw [Plan.collect, Plan.run]
    rcases asked : store call s with ⟨error | answer, after⟩
    · rw [asked] at first
      rw [List.append_nil]
      exact first
    · rw [asked] at first
      rw [← List.append_assoc]
      exact ih answer (each.2 answer) first

theorem Each.length_collect {store : Store σ} {f : Call → σ → List γ} {g : Call → σ → List δ}
    {p : Plan α} (each : p.Each C P)
    (same : ∀ call s, C call → (f call s).length = (g call s).length) (s : σ) :
    (p.collect store f s).length = (p.collect store g s).length := by
  induction p generalizing s with
  | done value => rfl
  | fail error => rfl
  | ask call next ih =>
    rw [Plan.collect, Plan.collect, List.length_append, List.length_append, same call s each.1]
    rcases store call s with ⟨_ | answer, after⟩
    · rfl
    · exact congrArg _ (ih answer (each.2 answer) after)

end Throttle.Plan
