import Throttle.Proofs.InWords

/-!
# The store in memory is a plain map

`Memory.Mirrors` relates a store in memory to the plain map that it stands for: every key holds now
what the map has under it.  What is over may still be in its place or may have been dropped; the
relation does not see it.

`Memory.Follows` compares what a call does to a slot with what it does to an item.  From one such
lemma per call and from the footprints, `Mirrors.answer` and `Mirrors.steps` say that a call, in one
step or in several, has the answer of the map and leads to related states, and `Mirrors.run` says so
of a plan.  `Mirrors.lapse` and `Mirrors.purge` are about time and about purges, and
`Mirrors.size_eq` about the number of live keys.
-/

namespace Throttle

/-! ## Slots and items -/

namespace Slot

/-- The slot of an item, vacant where there is none. -/
def of : Option Item → Slot
  | none => .vacant
  | some item => ⟨some item.value, item.deadline⟩

theorem isSome_of (item : Option Item) : (of item).value.isSome = item.isSome := by
  cases item <;> rfl

theorem live_of_some (now : Int) (item : Item) : (of (some item)).live now = item.lasts now := by
  obtain ⟨value, deadline⟩ := item
  cases deadline with
  | none => rfl
  | some deadline =>
    simp only [of, live, expired, Item.lasts, Option.isSome_some, Bool.true_and, ← decide_not,
      Int.not_le]

theorem aged_of (now : Int) (item : Option Item) :
    (of item).aged now = of (item.filter (Item.lasts now)) := by
  cases item with
  | none => exact aged_vacant now
  | some item =>
    rw [aged, live_of_some, Option.filter]
    cases item.lasts now <;> rfl

theorem readText_of (key : String) (item : Option Item) :
    (of item).readText key = Item.text key item := by
  rcases item with _ | ⟨_ | _, _⟩ <;> rfl

theorem readInteger_of (key : String) (map : PlainMap) :
    (of (map.get? key)).readInteger key = map.state key := by
  rw [readInteger, readText_of]
  rfl

end Slot

namespace Memory

variable {now later : Int} {key : String} {m m' : Memory} {map : PlainMap}

theorem sortedSet_of (key : String) (item : Option Item) :
    sortedSet key (.of item) = Item.members key item := by
  rcases item with _ | ⟨_ | _, _⟩ <;> rfl

theorem of_ofMembers (members : Table Int) (deadline : Option Int) :
    Slot.of (Item.ofMembers members deadline) = keptSlot members deadline := by
  unfold Item.ofMembers keptSlot
  split <;> rfl

/-- What the one function does to the slot of an item, the other does to the item. -/
def Follows {α : Type} (f : Slot → Except LimiterError α × Slot)
    (g : Option Item → Except LimiterError (α × Option Item)) : Prop :=
  ∀ item, f (.of item) =
    match g item with
    | .ok (result, after) => (.ok result, .of after)
    | .error error => (.error error, .of item)

theorem addTo_follows (now : Int) (key : String) (delta : Int) (lifetime : Option Duration) :
    Follows (addTo now key delta lifetime)
      (Item.add key delta (lifetime.map (deadlineAfter now))) := by
  rintro (_ | ⟨text | members, deadline⟩)
  · rfl
  · simp only [Slot.of, addTo, Item.add, Item.integer]
    cases Decimal.read? text <;> rfl
  · rfl

theorem addMember_follows (key : String) (score : Int) (member : String) :
    Follows (addMember key score member) (Item.addMember key score member) := by
  rintro (_ | ⟨text | members, deadline⟩) <;> rfl

theorem inRange_eq (min max score : Int) :
    inRange min max score = decide (min ≤ score ∧ score ≤ max) :=
  (Bool.decide_and _ _).symm

theorem removeRange_follows (key : String) (min max : Int) :
    Follows (removeRange key min max) (Item.removeRange key min max) := by
  rintro (_ | ⟨text | members, deadline⟩)
  · rfl
  · rfl
  · have counted : members.size - (members.filter fun _ score => !inRange min max score).size =
        members.count fun _ score => inRange min max score :=
      Nat.sub_eq_of_eq_add (members.count_add_size_filter_not _).symm
    rw [Slot.of, removeRange]
    dsimp only
    rw [counted, Item.removeRange, Item.members]
    simp only [← inRange_eq]
    exact congrArg (Prod.mk _) (of_ofMembers _ _).symm

theorem countRange_follows (key : String) (min max : Int) :
    Follows (countRange key min max) (Item.countRange key min max) := by
  rintro (_ | ⟨text | members, deadline⟩)
  · rfl
  · rfl
  · rw [Item.countRange, Item.members]
    simp only [← inRange_eq]
    rfl

theorem renew_follows (now : Int) (lifetime : Duration) :
    Follows (renew now lifetime) (Item.renew (deadlineAfter now lifetime)) := by
  rintro (_ | ⟨value, deadline⟩) <;> rfl

theorem logRequest_follows (clock : Int) (key : String) (now : Int) {window : Duration}
    (bounded : (window.millis : Int) ≤ Word.maxValue) (member : String) :
    Follows (logRequest clock key now window member)
      (Item.logRequest key (deadlineAfter clock window) now window member) := by
  intro item
  rw [logRequest, sortedSet_of, Duration.wrappedMillis_eq bounded, Item.logRequest]
  cases Item.members key item with
  | error error => rfl
  | ok members =>
    have held := size_logged_ne_zero (by omega : now - (window.millis : Int) ≤ now) member members
    exact congrArg (Prod.mk _) ((of_ofMembers _ _).trans (if_neg held)).symm

/-! ## Occupied slots -/

/-- Every slot that is in place holds a value, even if it is over. -/
def Occupied (m : Memory) : Prop := ∀ key s, m.slots.get? key = some s → s.value.isSome

namespace Occupied

theorem of_keeps (occupied : m.Occupied) (kept : ∀ key, Keeps now key m m') : m'.Occupied :=
  InPlace.of_keeps occupied kept

theorem access {α : Type} (occupied : m.Occupied) (now : Int) (key : String)
    (f : Slot → α × Slot) : (m.access now key f).2.Occupied :=
  InPlace.access occupied id

theorem writeScalar (occupied : m.Occupied) (now : Int) (key text : String)
    (lifetime : Option Duration) : (m.writeScalar now key text lifetime).Occupied :=
  occupied.access now key _

theorem answer (occupied : m.Occupied) (now : Int) (call : Call) :
    (Memory.answer now call m).2.Occupied := by
  cases call with
  | get key => exact occupied.of_keeps (keeps_readScalar now m key)
  | set key text lifetime => exact occupied.writeScalar now key text lifetime
  | askBucket bucket time =>
    obtain ⟨m', kept, asked⟩ := exists_askBucket_eq now bucket time m
    rw [Memory.answer, asked]
    cases bucket.read (m.liveSlot now bucket.contentKey) (m.liveSlot now bucket.stampKey) with
    | error error => exact occupied.of_keeps kept
    | ok held => exact writeScalar (writeScalar (occupied.of_keeps kept) now _ _ _) now _ _ _
  | incr _ _ _ | decr _ | zadd _ _ _ | zrem _ _ _ | zcount _ _ _ | expire _ _
  | recordInWindow _ _ _ _ => exact occupied.access now _ _

theorem run {α : Type} {p : Plan α} (occupied : m.Occupied) (now : Int) :
    (p.run (Memory.answer now) m).2.Occupied := by
  induction p generalizing m with
  | done value => exact occupied
  | fail error => exact occupied
  | ask call next ih =>
    have first := occupied.answer now call
    rw [Plan.run]
    split
    · rename_i asked
      rw [asked] at first
      exact ih _ first
    · rename_i asked
      rw [asked] at first
      exact first

/-- Of an occupied store an access finds exactly what is live. -/
theorem slotAt_eq (occupied : m.Occupied) (now : Int) (key : String) :
    m.slotAt now key = m.liveSlot now key := by
  rw [Memory.slotAt_eq, liveSlot, rawSlot]
  cases found : m.slots.get? key with
  | none =>
    rw [Option.getD_none, Slot.aged_vacant]
    exact ite_self _
  | some s =>
    rw [Option.getD_some, Slot.aged, Slot.live, occupied key s found]
    cases s.expired now <;> rfl

theorem isSome_get? (occupied : m.Occupied) (key : String) :
    (m.slots.get? key).isSome = (m.rawSlot key).value.isSome := by
  rw [rawSlot]
  cases found : m.slots.get? key with
  | none => rfl
  | some s => exact (occupied key s found).symm

end Occupied

/-! ## The relation -/

/-- The store shows what the map holds. -/
structure Mirrors (now : Int) (m : Memory) (map : PlainMap) : Prop where
  shows : ∀ key, m.liveSlot now key = .of (map.get? key)
  occupied : m.Occupied

/-- A call or a plan has the answer that it has on the map, and leads to related states. -/
structure Agrees {α : Type} (now : Int) (ran : Except LimiterError α × Memory)
    (meant : Except LimiterError α × PlainMap) : Prop where
  answer : ran.1 = meant.1
  mirrors : Mirrors now ran.2 meant.2

namespace Mirrors

theorem of_keeps (mirrors : Mirrors now m map) (kept : ∀ key, Keeps now key m m') :
    Mirrors now m' map where
  shows key := ((kept key).liveSlot (Int.le_refl now)).trans (mirrors.shows key)
  occupied := mirrors.occupied.of_keeps kept

theorem lapse (mirrors : Mirrors now m map) (order : now ≤ later) :
    Mirrors later m (map.lapse later) where
  shows key := by
    rw [PlainMap.get?_lapse, ← Slot.aged_of, ← mirrors.shows, liveSlot, liveSlot,
      Slot.aged_aged order]
  occupied := mirrors.occupied

theorem put {item : Option Item} (mirrors : Mirrors now m map)
    (own : m'.liveSlot now key = (Slot.of item).aged now)
    (others : ∀ other, other ≠ key → Keeps now other m m') (occupied : m'.Occupied) :
    Mirrors now m' (map.put now key item) where
  shows other := by
    rw [PlainMap.get?_put]
    split_ifs with same
    · rw [same, own, Slot.aged_of]
    · rw [(others other same).liveSlot (Int.le_refl now), mirrors.shows]
  occupied := occupied

theorem writeScalar (mirrors : Mirrors now m map) (key text : String) (lifetime : Option Duration) :
    Mirrors now (m.writeScalar now key text lifetime)
      (map.put now key (some ⟨.scalar text, lifetime.map (deadlineAfter now)⟩)) :=
  mirrors.put (liveSlot_writeScalar now m key text lifetime)
    (fun _ differ => keeps_writeScalar text lifetime differ)
    (mirrors.occupied.writeScalar now key text lifetime)

/-! ### Calls in one step -/

section Update

variable {α : Type} {f : Slot → Except LimiterError α × Slot}
  {g : Option Item → Except LimiterError (α × Option Item)}

/-- Of a call on one key only the answer and what it leaves under its key have to be known. -/
theorem update (mirrors : Mirrors now m map) (follows : Follows f g)
    (own : m'.liveSlot now key = (f (m.liveSlot now key)).2.aged now)
    (others : ∀ other, other ≠ key → Keeps now other m m') (occupied : m'.Occupied) :
    Agrees now ((f (m.liveSlot now key)).1, m') (map.update now key g) := by
  rw [mirrors.shows, follows] at own ⊢
  unfold PlainMap.update
  cases made : g (map.get? key) with
  | ok result =>
    rw [made] at own
    exact ⟨rfl, mirrors.put own others occupied⟩
  | error error =>
    rw [made] at own
    refine ⟨rfl, ?_, occupied⟩
    -- The slot is put back as it was found.
    intro other
    by_cases same : other = key
    · rw [same, own, ← mirrors.shows, liveSlot, Slot.aged_aged (Int.le_refl now)]
    · rw [(others other same).liveSlot (Int.le_refl now), mirrors.shows]

theorem access (mirrors : Mirrors now m map) (follows : Follows f g) (key : String) :
    Agrees now (m.access now key f) (map.update now key g) := by
  have found := mirrors.occupied.slotAt_eq now key
  have left := liveSlot_access now m key f
  have updated := mirrors.update follows (found ▸ left) (fun _ differ => keeps_access f differ)
    (mirrors.occupied.access now key f)
  rw [← found] at updated
  exact updated

end Update

theorem askBucket (mirrors : Mirrors now m map) (bucket : Bucket) (time : Int) :
    Agrees now (m.askBucket now bucket time) (map.askBucket now bucket time) := by
  obtain ⟨m', kept, asked⟩ := exists_askBucket_eq now bucket time m
  have read : bucket.read (m.liveSlot now bucket.contentKey) (m.liveSlot now bucket.stampKey) =
      (map.state bucket.contentKey).bind fun content =>
        (map.state bucket.stampKey).map fun stamp => (content, stamp) := by
    rw [mirrors.shows, mirrors.shows, Bucket.read, Slot.readInteger_of, Slot.readInteger_of]
  have kept := mirrors.of_keeps kept
  rw [asked, read]
  unfold PlainMap.askBucket
  cases map.state bucket.contentKey with
  | error error => exact ⟨rfl, kept⟩
  | ok content =>
    cases map.state bucket.stampKey with
    | error error => exact ⟨rfl, kept⟩
    | ok stamp => exact ⟨rfl, (kept.writeScalar _ _ _).writeScalar _ _ _⟩

theorem answer (mirrors : Mirrors now m map) {call : Call} (inWords : call.InWords) :
    Agrees now (Memory.answer now call m) (PlainMap.answer now call map) := by
  cases call with
  | get key =>
    refine ⟨?_, mirrors.of_keeps (keeps_readScalar now m key)⟩
    rw [Memory.answer, readScalar_fst, mirrors.shows, Slot.readText_of]
    rfl
  | set key text lifetime => exact ⟨rfl, mirrors.writeScalar key text lifetime⟩
  | incr key delta lifetime => exact mirrors.access (addTo_follows now key delta lifetime) key
  | decr key => exact mirrors.access (addTo_follows now key (-1) none) key
  | zadd key score member => exact mirrors.access (addMember_follows key score member) key
  | zrem key min max => exact mirrors.access (removeRange_follows key min max) key
  | zcount key min max => exact mirrors.access (countRange_follows key min max) key
  | expire key lifetime => exact mirrors.access (renew_follows now lifetime) key
  | recordInWindow key time window member =>
    exact mirrors.access (logRequest_follows now key time inWords.2 member) key
  | askBucket bucket time => exact mirrors.askBucket bucket time

/-! ### Calls in several steps -/

/-- Four calls on a log come to what one call makes of it, as all scores are words. -/
theorem recordSteps (mirrors : Mirrors now m map) (words : map.Words) (key : String) {time : Int}
    {window : Duration} (member : String) (word : Word.InRange time)
    (bounded : (window.millis : Int) ≤ Word.maxValue) :
    Agrees now ((Throttle.recordSteps key time window member).run (Memory.answer now) m)
      (map.update now key (Item.logRequest key (deadlineAfter now window) time window member)) := by
  obtain ⟨m', ran, left⟩ := exists_run_recordSteps now key time window member m
  have nonneg : 0 ≤ window.wrappedMillis := by
    rw [Duration.wrappedMillis_eq bounded]
    omega
  have logged : logInSteps now key time window member (m.liveSlot now key) =
      logRequest now key time window member (m.liveSlot now key) := by
    refine logInSteps_eq_logRequest nonneg word ?_
    intro members held
    rw [mirrors.shows, sortedSet_of] at held
    exact (words key).members held
  have others (other : String) (differ : other ≠ key) : Keeps now other m
      ((Throttle.recordSteps key time window member).run (Memory.answer now) m).2 :=
    Plan.run_keeps (Plan.spares_steps (c := .recordInWindow key time window member)
      (by simpa [Call.writes] using differ)) m
  have occupied := mirrors.occupied.run (p := Throttle.recordSteps key time window member) now
  rw [ran] at others occupied ⊢
  rw [logged] at left ⊢
  exact mirrors.update (logRequest_follows now key time bounded member) left others occupied

theorem steps (mirrors : Mirrors now m map) (words : map.Words) {call : Call}
    (inWords : call.InWords) :
    Agrees now (call.steps.run (Memory.answer now) m) (PlainMap.answer now call map) := by
  cases call with
  | recordInWindow key time window member =>
    exact mirrors.recordSteps words key member inWords.1 inWords.2
  | askBucket bucket time =>
    rw [Call.steps, run_askBucketSteps]
    exact mirrors.askBucket bucket time
  | get _ | set _ _ _ | incr _ _ _ | decr _ | zadd _ _ _ | zrem _ _ _ | zcount _ _ _
  | expire _ _ =>
    rw [Call.steps, Plan.run_call]
    exact mirrors.answer inWords

theorem call (c : Compounding) (mirrors : Mirrors now m map) (words : map.Words) {call : Call}
    (inWords : call.InWords) :
    Agrees now ((c.plan (Plan.call call)).run (Memory.answer now) m)
      (PlainMap.answer now call map) := by
  rw [Compounding.run_plan_call]
  cases c with
  | whole => exact mirrors.answer inWords
  | inSteps => exact mirrors.steps words inWords

/-! ### Plans -/

/-- A plan on the store, its compound calls done either way, is the plan on the map. -/
theorem run {α : Type} {P : α → Prop} {p : Plan α} (c : Compounding) (mirrors : Mirrors now m map)
    (words : map.Words) (inWords : p.InWords P) :
    Agrees now ((c.plan p).run (Memory.answer now) m) (p.run (PlainMap.answer now) map) ∧
      (p.run (PlainMap.answer now) map).2.Words := by
  induction p generalizing m map with
  | done value =>
    rw [Compounding.plan_done]
    exact ⟨⟨rfl, mirrors⟩, words⟩
  | fail error =>
    cases c <;> exact ⟨⟨rfl, mirrors⟩, words⟩
  | ask call next ih =>
    have first := mirrors.call c words inWords.1
    have words : (PlainMap.answer now call map).2.Words := words.answer inWords.1
    have split : c.plan (.ask call next) =
        (c.plan (Plan.call call)).bind fun answer => c.plan (next answer) :=
      Compounding.plan_bind c (Plan.call call) next
    rw [split, Plan.run_bind, Plan.run]
    generalize (c.plan (Plan.call call)).run (Memory.answer now) m = ran at first ⊢
    generalize PlainMap.answer now call map = meant at first words ⊢
    obtain ⟨answer, m₁⟩ := ran
    obtain ⟨answer', map₁⟩ := meant
    -- The answers are the same, so both runs go on with the same plan, or end with the same error.
    obtain ⟨rfl, after⟩ := first
    cases answer with
    | error error => exact ⟨⟨rfl, after⟩, words⟩
    | ok value => exact ih value after words (inWords.2 value)

/-! ### Keys -/

theorem purge (mirrors : Mirrors now m map) : Mirrors now (m.purge now).2 map :=
  mirrors.of_keeps fun key => keeps_purge now key m

theorem size_eq (mirrors : Mirrors now m map) : m.size now = map.size := by
  -- The size of a store is the number of slots that a purge leaves.
  have purged : m.size now = (m.purge now).2.slots.size := rfl
  rw [purged]
  apply Table.size_eq_of_isSome_eq
  intro key
  rw [mirrors.purge.occupied.isSome_get?, rawSlot_purge, mirrors.shows, Slot.isSome_of]

theorem empty (now : Int) (accesses : Nat) : Mirrors now ⟨.empty, accesses⟩ .empty where
  shows _ := Slot.aged_vacant now
  occupied _ _ found := nomatch found

end Mirrors

end Memory

end Throttle
