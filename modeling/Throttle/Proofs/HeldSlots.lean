import Throttle.Proofs.EachCall
import Throttle.Proofs.Refinement

/-!
# What a store in memory holds

A slot whose lifetime is over stays in its place until it is touched, so a store holds more than what is
live.  Whatever it holds has a value (`Memory.Occupied`), and if that is a sorted set it has members
(`Memory.Populated`): a call that takes the last member away, or that finds nothing, leaves no slot behind.

Main statement: `held_slots_hold_values`, with what it means for a purge.
-/

namespace Throttle

/-! ## Slots -/

/-- A sorted set in the slot has members. -/
def Slot.Populated (s : Slot) : Prop :=
  ∀ members, s.value = some (.sorted members) → members.size ≠ 0

namespace Slot

theorem populated_vacant : vacant.Populated := fun _ absent => nomatch absent

theorem populated_scalar (text : String) (deadline : Option Int) :
    Populated ⟨some (.scalar text), deadline⟩ :=
  fun _ same => nomatch same

theorem populated_sorted {members : Table Int} (held : members.size ≠ 0) (deadline : Option Int) :
    Populated ⟨some (.sorted members), deadline⟩ := by
  intro other same
  cases same
  exact held

end Slot

namespace Memory

variable {α : Type} {now : Int} {key : String} {s : Slot} {m m' : Memory}

theorem populated_addTo (populated : s.Populated) (now : Int) (key : String) (delta : Int)
    (lifetime : Option Duration) : (addTo now key delta lifetime s).2.Populated := by
  unfold addTo
  split
  · exact Slot.populated_scalar _ _
  · split
    · exact Slot.populated_scalar _ _
    · exact populated
  · exact populated

theorem populated_addMember (populated : s.Populated) (key : String) (score : Int)
    (member : String) : (addMember key score member s).2.Populated := by
  unfold addMember
  split
  · rename_i members _
    have held : (members.insert member score).size ≠ 0 := Nat.succ_ne_zero _
    exact Slot.populated_sorted held _
  · exact populated

theorem populated_removeRange (populated : s.Populated) (key : String) (min max : Int) :
    (removeRange key min max s).2.Populated := by
  unfold removeRange
  split
  · exact populated
  · dsimp only
    split
    · exact Slot.populated_vacant
    · rename_i left
      exact Slot.populated_sorted left _
  · exact populated

theorem populated_renew (populated : s.Populated) (now : Int) (lifetime : Duration) :
    (renew now lifetime s).2.Populated := by
  unfold renew
  dsimp only
  split
  · exact fun members held => populated members held
  · exact populated

/-- A request is in its own window as long as the window is a word, and so it stays in its log. -/
theorem populated_logRequest (populated : s.Populated) (clock : Int) (key : String) (time : Int)
    {window : Duration} (bounded : (window.millis : Int) ≤ Word.maxValue) (member : String) :
    (logRequest clock key time window member s).2.Populated := by
  unfold logRequest
  split
  · have earlier : time - window.wrappedMillis ≤ time := by
      rw [Duration.wrappedMillis_eq bounded]
      omega
    exact Slot.populated_sorted (size_logged_ne_zero earlier member _) _
  · exact populated

/-! ## Stores -/

/-- No sorted set that is in place is empty, even if it is over. -/
def Populated (m : Memory) : Prop := m.InPlace Slot.Populated

namespace Populated

theorem access (populated : m.Populated) {f : Slot → α × Slot}
    (kept : ∀ s : Slot, s.Populated → (f s).2.Populated) :
    (m.access now key f).2.Populated :=
  InPlace.access populated fun _ => kept _ (InPlace.slotAt populated Slot.populated_vacant now key)

theorem writeScalar (populated : m.Populated) (now : Int) (key text : String)
    (lifetime : Option Duration) : (m.writeScalar now key text lifetime).Populated :=
  populated.access fun _ _ => Slot.populated_scalar _ _

theorem answer (populated : m.Populated) {call : Call} (inWords : call.InWords) (now : Int) :
    (Memory.answer now call m).2.Populated := by
  cases call with
  | get key => exact InPlace.of_keeps populated (keeps_readScalar now m key)
  | set key text lifetime => exact populated.writeScalar now key text lifetime
  | incr key delta lifetime => exact populated.access fun _ held => populated_addTo held _ _ _ _
  | decr key => exact populated.access fun _ held => populated_addTo held _ _ _ _
  | zadd key score member => exact populated.access fun _ held => populated_addMember held _ _ _
  | zrem key min max => exact populated.access fun _ held => populated_removeRange held _ _ _
  | zcount key min max => exact populated.access fun _ held => held
  | expire key lifetime => exact populated.access fun _ held => populated_renew held _ _
  | recordInWindow key time window member =>
    exact populated.access fun _ held => populated_logRequest held _ _ _ inWords.2 _
  | askBucket bucket time =>
    obtain ⟨m', kept, asked⟩ := exists_askBucket_eq now bucket time m
    have populated' : m'.Populated := InPlace.of_keeps populated kept
    rw [Memory.answer, asked]
    cases bucket.read (m.liveSlot now bucket.contentKey) (m.liveSlot now bucket.stampKey) with
    | error error => exact populated'
    | ok held => exact (populated'.writeScalar now _ _ _).writeScalar now _ _ _

end Populated

/-! ### Purges -/

/-- Where every slot has a value, those are live that have not expired. -/
theorem Occupied.count_expired_add_size (occupied : m.Occupied) (now : Int) :
    (m.slots.count fun _ s => s.expired now) + m.size now = m.slots.size := by
  -- A slot without a value would be neither expired nor live.
  have live : m.size now = (m.slots.filter fun _ s => !s.expired now).size := by
    apply Table.size_eq_of_isSome_eq
    intro key
    rw [Table.get?_filter, Table.get?_filter]
    cases found : m.slots.get? key with
    | none => rfl
    | some s => simp [Option.filter, Slot.live, occupied key s found]
  rw [live]
  exact m.slots.count_add_size_filter_not _

theorem size_purge_add_size (now : Int) (m : Memory) :
    (m.purge now).1 + m.size now = m.slots.size :=
  Nat.sub_add_cancel (Table.size_filter_le _ m.slots)

theorem live_of_get?_purge (found : (m.purge now).2.slots.get? key = some s) :
    s.live now = true := by
  rw [get?_purge] at found
  exact (Option.filter_eq_some_iff.mp found).2

end Memory

/-! ## Runs -/

theorem Call.InWords.steps {call : Call} (inWords : call.InWords) :
    call.steps.Each Call.InWords fun _ => True := by
  cases call with
  | recordInWindow key time window member =>
    exact Plan.each_recordSteps inWords.1 trivial trivial trivial
  | askBucket bucket time => exact Plan.each_askBucketSteps (fun _ => trivial) (fun _ _ => trivial) time
  | get _ | set _ _ _ | incr _ _ _ | decr _ | zadd _ _ _ | zrem _ _ _ | zcount _ _ _
  | expire _ _ => exact Plan.each_call inWords

theorem Plan.InWords.each {α : Type} {P : α → Prop} {p : Plan α} (inWords : p.InWords P) :
    p.Each Call.InWords P := by
  induction p with
  | done value => exact inWords
  | fail error => exact trivial
  | ask call next ih => exact ⟨inWords.1, fun answer => ih answer (inWords.2 answer)⟩

namespace Session

variable {I : Memory → Prop}

/-- What calls within words keep, a plan of such calls keeps, however it is carried out. -/
theorem inner_perform_of_inWords {s : Session} {α : Type} {P : α → Prop} {p : Plan α} (healthy : s.Healthy)
    (inWords : p.InWords P)
    (kept : ∀ call m, call.InWords → I m → I (Memory.answer s.now call m).2)
    (holds : I s.store.inner) : I (s.perform p).2.store.inner := by
  rw [inner_perform healthy, run]
  cases s.compounding with
  | whole => exact inWords.each.run kept holds
  | inSteps => exact (inWords.each.inSteps fun _ => Call.InWords.steps).run kept holds

theorem inner_step_of_inWords {s : Session} {action : Action} (healthy : s.Healthy)
    (word : Word.InRange s.now) (inWords : action.InWords)
    (kept : ∀ call m, call.InWords → I m → I (Memory.answer s.now call m).2)
    (purged : ∀ m, I m → I (m.purge s.now).2) (holds : I s.store.inner) :
    I (s.step action).2.store.inner := by
  have performed {α : Type} {P : α → Prop} {p : Plan α} (inWords : p.InWords P) :
      I (s.perform p).2.store.inner :=
    inner_perform_of_inWords healthy inWords kept holds
  cases action with
  | evaluate key limit ticket => exact performed (Limiter.evaluate_inWords word inWords)
  | allow service endpoint ticket => exact performed (Limiter.allow_inWords word)
  | resolve service endpoint => exact performed (Limiter.resolve_inWords s.base service endpoint)
  | publish lifetime limit => exact performed (Publisher.publishLimit_inWords limit)
  | publishRules lifetime document => exact performed (Publisher.publish_inWords document)
  | call c => exact performed (Plan.inWords_call inWords)
  | purge => exact purged _ holds
  | setClock reading => exact holds

theorem inner_after_of_inWords
    (kept : ∀ now call m, call.InWords → I m → I (Memory.answer now call m).2)
    (purged : ∀ now m, I m → I (m.purge now).2) :
    ∀ {run : List Action} {s : Session}, s.Healthy →
      (∀ reading ∈ readings s.now run, Word.InRange reading) →
      (∀ action ∈ run, action.InWords) → I s.store.inner → I (s.after run).store.inner
  | [], _, _, _, _, holds => holds
  | action :: rest, s, healthy, inRange, inWords, holds => by
    have step : I (s.step action).2.store.inner :=
      inner_step_of_inWords healthy (inRange s.now List.mem_cons_self)
        (inWords action List.mem_cons_self) (kept s.now) (purged s.now) holds
    have later : ∀ reading ∈ readings (s.step action).2.now rest, Word.InRange reading :=
      fun reading member => inRange reading (readings_step_subset s action rest member)
    have after : I ((s.step action).2.after rest).store.inner :=
      inner_after_of_inWords kept purged (healthy_step healthy action) later
        (fun other member => inWords other (List.mem_cons_of_mem _ member)) step
    exact after

end Session

/-- **What a store holds has a value.**  After any calls, requests, publications and purges, under a clock
    that is moved forward and back, every slot that is in place holds a value, and if that is a sorted set
    it has members.  So a purge drops exactly what has expired, answers how many slots that were, and
    leaves as many as were live, all of them live. -/
theorem held_slots_hold_values (publisher : Publisher) (compounding : Compounding) (now : Int)
    {run : List Action} (inRange : ∀ reading ∈ readings now run, Word.InRange reading)
    (inWords : ∀ action ∈ run, action.InWords) :
    let s := (Session.start publisher compounding now).after run
    let held := s.store.inner.slots
    let left := (s.step .purge).2.store.inner.slots
    (∀ key slot, held.get? key = some slot →
      slot.value.isSome ∧ ∀ members, slot.value = some (.sorted members) → members.size ≠ 0) ∧
    (∃ removed, (s.step .purge).1 = .purged removed ∧ removed + s.size = held.size ∧
      removed = held.count fun _ slot => slot.expired s.now) ∧
    left.size = s.size ∧ ∀ key slot, left.get? key = some slot → slot.live s.now = true := by
  intro s held left
  have filled : s.store.inner.Occupied ∧ s.store.inner.Populated := by
    apply Session.inner_after_of_inWords (I := fun m => m.Occupied ∧ m.Populated)
    · exact fun now call m inWords holds => ⟨holds.1.answer now call, holds.2.answer inWords now⟩
    · exact fun now m holds => ⟨holds.1.of_keeps fun key => Memory.keeps_purge now key m,
        Memory.InPlace.of_keeps holds.2 fun key => Memory.keeps_purge now key m⟩
    · rfl
    · exact inRange
    · exact inWords
    · exact ⟨fun _ _ found => (nomatch found), fun _ _ found => (nomatch found)⟩
  obtain ⟨occupied, populated⟩ := filled
  have removed : s.purge.1 + s.size = held.size := Memory.size_purge_add_size s.now _
  have expired : (held.count fun _ slot => slot.expired s.now) + s.size = held.size :=
    occupied.count_expired_add_size s.now
  refine ⟨fun key slot found => ⟨occupied key slot found, populated key slot found⟩,
    ⟨s.purge.1, rfl, removed, by omega⟩, rfl, fun key slot found => Memory.live_of_get?_purge found⟩

/-- A log that is drained, a counter that is over and a clock that is set back, with a key that was
    touched in vain. -/
theorem held_slots_hold_values_drained :
    let run : List Action := [.call (.zadd "log" 5 "a"), .call (.zrem "log" 0 9),
      .call (.zcount "none" 0 9), .call (.incr "count" 1 (some (.ofMillis 10))),
      .call (.set "text" "x" none), .setClock 30, .call (.zadd "text" 1 "a"),
      .call (.recordInWindow "log" 30 (.ofMillis 5) "b"), .setClock 12]
    let s := (Session.start ⟨"limits", none⟩ .inSteps 0).after run
    (∀ reading ∈ readings 0 run, Word.InRange reading) ∧ (∀ action ∈ run, action.InWords) ∧
      (s.step .purge).1 = .purged 1 ∧ s.size = 2 ∧
      (∀ key slot, s.store.inner.slots.get? key = some slot → slot.value.isSome) ∧
      (s.step .purge).2.store.inner.slots.size = 2 := by
  intro run s
  have inRange : ∀ reading ∈ readings 0 run, Word.InRange reading := by decide
  have inWords : ∀ action ∈ run, action.InWords := by decide
  obtain ⟨holds, -, left, -⟩ :=
    held_slots_hold_values ⟨"limits", none⟩ .inSteps 0 inRange inWords
  have size : s.size = 2 := by decide +kernel
  have purged : s.purge.1 = 1 := by decide +kernel
  exact ⟨inRange, inWords, congrArg Reply.purged purged, size, fun key slot found => (holds key slot found).1,
    left.trans size⟩

end Throttle
