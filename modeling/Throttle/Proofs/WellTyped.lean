import Throttle.Proofs.EachCall
import Throttle.Proofs.Isolation
import Throttle.Proofs.RecordRoundTrip
import Throttle.Proofs.Settlement

/-!
# Well-typed stores

Limiters and publishers of one base keep three things in a store: records that decode, words and
logs.  `Suits` says which of them may stand under which store key, and a store is well typed when all
that it holds is suitable, be it over or not; so a clock that is set back brings nothing else to light.

Main statement: `healthy_limiter_never_fails`.  A limiter without faults never fails, since every call
that limiters and publishers make keeps the store well typed (`WellTyped.answer`), and a request to a
well-typed store is answered (`Session.exists_decision`).
-/

namespace Throttle

/-! ## What suits a store key -/

/-- The store key of a part of some key's state that is a scalar. -/
def Counts (base storeKey : String) : Prop :=
  ∃ (key : LimitKey) (algorithm : Algorithm) (part : String), algorithm ≠ .slidingWindow ∧
    part ∈ algorithm.parts ∧ storeKey = key.stateKey base part

/-- The store key of some key's log. -/
def Logs (base storeKey : String) : Prop := ∃ key : LimitKey, storeKey = key.stateKey base "sw"

/-- The value may stand under the store key: a record under the key of its limit, a word under a key
    that counts, or a log. -/
inductive Suits (base storeKey : String) : Value → Prop
  | record {text : String} {limit : Limit} (named : storeKey = limit.key.configKey base)
      (decoded : Record.decodeLimit text = .ok limit) : Suits base storeKey (.scalar text)
  | word {text : String} {n : Int} (counts : Counts base storeKey)
      (read : Decimal.read? text = some n) : Suits base storeKey (.scalar text)
  | log (logs : Logs base storeKey) (members : Table Int) : Suits base storeKey (.sorted members)

variable {base storeKey : String} {now : Int}

theorem counts_stateKey {algorithm : Algorithm} {part : String} (key : LimitKey)
    (scalar : algorithm ≠ .slidingWindow) (counted : part ∈ algorithm.parts) :
    Counts base (key.stateKey base part) :=
  ⟨key, algorithm, part, scalar, counted, rfl⟩

theorem counts_fixedWindow (base : String) (key : LimitKey) : Counts base (key.stateKey base "fw") :=
  ⟨key, .fixedWindow, "fw", by decide, by decide, rfl⟩

theorem Counts.not_logs (counts : Counts base storeKey) : ¬ Logs base storeKey := by
  obtain ⟨key, algorithm, part, scalar, counted, rfl⟩ := counts
  rintro ⟨key', same⟩
  rw [(LimitKey.stateKey_injective same).2] at counted
  cases algorithm with
  | slidingWindow => exact scalar rfl
  | fixedWindow | tokenBucket | leakyBucket => exact absurd counted (by decide)

namespace Suits

theorem exists_record {key : LimitKey} {value : Value}
    (suits : Suits base (key.configKey base) value) :
    ∃ text limit, value = .scalar text ∧ Record.decodeLimit text = .ok limit := by
  cases suits with
  | record named decoded => exact ⟨_, _, rfl, decoded⟩
  | word counts read =>
    obtain ⟨key', algorithm, part, -, -, same⟩ := counts
    exact absurd same (LimitKey.configKey_ne_stateKey _ _ _ _)
  | log logs members =>
    obtain ⟨key', same⟩ := logs
    exact absurd same (LimitKey.configKey_ne_stateKey _ _ _ _)

theorem exists_word {value : Value} (suits : Suits base storeKey value)
    (counts : Counts base storeKey) :
    ∃ text n, value = .scalar text ∧ Decimal.read? text = some n := by
  cases suits with
  | record named decoded =>
    obtain ⟨key, algorithm, part, -, -, same⟩ := counts
    exact absurd (named.symm.trans same) (LimitKey.configKey_ne_stateKey _ _ _ _)
  | word counts' read => exact ⟨_, _, rfl, read⟩
  | log logs members => exact absurd logs counts.not_logs

theorem exists_log {value : Value} (suits : Suits base storeKey value)
    (logs : Logs base storeKey) : ∃ members, value = .sorted members := by
  cases suits with
  | record named decoded =>
    obtain ⟨key, same⟩ := logs
    exact absurd (named.symm.trans same) (LimitKey.configKey_ne_stateKey _ _ _ _)
  | word counts read => exact absurd logs counts.not_logs
  | log logs members => exact ⟨members, rfl⟩

theorem logs {members : Table Int} (suits : Suits base storeKey (.sorted members)) :
    Logs base storeKey := by
  cases suits with
  | log logs members => exact logs

theorem write (counts : Counts base storeKey) {n : Int} (word : Word.InRange n) :
    Suits base storeKey (.scalar (Decimal.write n)) :=
  .word counts (Decimal.read?_write word)

end Suits

/-! ## Slots -/

namespace Slot

variable {s : Slot}

/-- What the slot holds, if it holds anything, suits its store key. -/
def Suits (base storeKey : String) (s : Slot) : Prop :=
  ∀ value, s.value = some value → Throttle.Suits base storeKey value

theorem suits_vacant (base storeKey : String) : vacant.Suits base storeKey :=
  fun _ held => nomatch held

theorem Suits.aged (suits : s.Suits base storeKey) (now : Int) :
    (s.aged now).Suits base storeKey := by
  unfold Slot.aged
  split
  · exact suits
  · exact suits_vacant base storeKey

theorem Suits.exists_published {key : LimitKey} (suits : s.Suits base (key.configKey base)) :
    ∃ found, s.published (key.configKey base) = .ok found := by
  unfold published readText
  cases held : s.value with
  | none => exact ⟨none, rfl⟩
  | some value =>
    obtain ⟨text, limit, rfl, decoded⟩ := (suits value held).exists_record
    refine ⟨some limit, ?_⟩
    dsimp only
    rw [decoded]
    rfl

theorem Suits.exists_integer (suits : s.Suits base storeKey) (counts : Counts base storeKey) :
    ∃ n, s.readInteger storeKey = .ok n := by
  unfold readInteger readText
  cases held : s.value with
  | none => exact ⟨none, rfl⟩
  | some value =>
    obtain ⟨text, n, rfl, read⟩ := (suits value held).exists_word counts
    refine ⟨some n, ?_⟩
    simp [Except.bind, readState, read]

theorem Suits.exists_sorted (suits : s.Suits base storeKey) (logs : Logs base storeKey) :
    ∃ members, Memory.sortedSet storeKey s = .ok members := by
  unfold Memory.sortedSet
  cases held : s.value with
  | none => exact ⟨.empty, rfl⟩
  | some value =>
    obtain ⟨members, rfl⟩ := (suits value held).exists_log logs
    exact ⟨members, rfl⟩

theorem Suits.exists_sum (suits : s.Suits base storeKey) (counts : Counts base storeKey)
    (now delta : Int) (lifetime : Option Duration) :
    ∃ sum, (Memory.addTo now storeKey delta lifetime s).1 = .ok sum := by
  unfold Memory.addTo
  cases held : s.value with
  | none => exact ⟨_, rfl⟩
  | some value =>
    obtain ⟨text, n, rfl, read⟩ := (suits value held).exists_word counts
    dsimp only
    rw [read]
    exact ⟨_, rfl⟩

end Slot

/-! ## Stores -/

namespace Memory

variable {m m' : Memory}

/-- All that the store holds is suitable, whether or not it is over. -/
def WellTyped (base : String) (m : Memory) : Prop :=
  ∀ storeKey, (m.rawSlot storeKey).Suits base storeKey

/-! ### What single operations make of a slot -/

theorem suits_addTo {s : Slot} (suits : s.Suits base storeKey) (counts : Counts base storeKey)
    (now delta : Int) (lifetime : Option Duration) :
    (addTo now storeKey delta lifetime s).2.Suits base storeKey := by
  intro value held
  unfold addTo at held
  split at held
  · cases held
    exact .write counts (Word.inRange_saturate _)
  · split at held
    · cases held
      exact .write counts (Word.inRange_saturate _)
    · exact suits value held
  · exact suits value held

theorem suits_addMember {s : Slot} (suits : s.Suits base storeKey) (logs : Logs base storeKey)
    (score : Int) (member : String) :
    (addMember storeKey score member s).2.Suits base storeKey := by
  intro value held
  unfold addMember at held
  split at held
  · cases held
    exact .log logs _
  · exact suits value held

theorem suits_logRequest {s : Slot} (suits : s.Suits base storeKey) (logs : Logs base storeKey)
    (clock time : Int) (window : Duration) (member : String) :
    (logRequest clock storeKey time window member s).2.Suits base storeKey := by
  intro value held
  unfold logRequest at held
  split at held
  · cases held
    exact .log logs _
  · exact suits value held

theorem suits_removeRange {s : Slot} (suits : s.Suits base storeKey) (min max : Int) :
    (removeRange storeKey min max s).2.Suits base storeKey := by
  intro value held
  unfold removeRange at held
  split at held
  · exact suits value held
  · rename_i members sorted
    dsimp only at held
    split at held
    · cases held
    · cases held
      exact .log (suits _ sorted).logs _
  · exact suits value held

theorem suits_renew {s : Slot} (suits : s.Suits base storeKey) (now : Int) (lifetime : Duration) :
    (renew now lifetime s).2.Suits base storeKey := by
  intro value held
  unfold renew at held
  dsimp only at held
  split at held <;> exact suits value held

namespace WellTyped

theorem liveSlot (typed : m.WellTyped base) (now : Int) (storeKey : String) :
    (m.liveSlot now storeKey).Suits base storeKey :=
  (typed storeKey).aged now

theorem slotAt (typed : m.WellTyped base) (now : Int) (storeKey : String) :
    (m.slotAt now storeKey).Suits base storeKey := by
  rw [slotAt_eq]
  split
  · exact Slot.suits_vacant base storeKey
  · exact typed storeKey

theorem of_keeps (typed : m.WellTyped base) (kept : ∀ key, Keeps now key m m') :
    m'.WellTyped base := by
  intro storeKey value held
  rcases kept storeKey with same | dropped
  · rw [rawSlot, same] at held
    exact typed storeKey value held
  · rw [rawSlot, dropped.1] at held
    cases held

theorem access {α : Type} {f : Slot → α × Slot} (typed : m.WellTyped base)
    (suits : ∀ s, s.Suits base storeKey → (f s).2.Suits base storeKey) :
    (m.access now storeKey f).2.WellTyped base := by
  refine of_keeps (m := m.putSlot storeKey (f (m.slotAt now storeKey)).2) ?_ fun key =>
    keeps_tick now key _
  intro other value held
  rw [rawSlot, get?_putSlot] at held
  split_ifs at held with own empty
  · cases held
  · rw [own]
    exact suits _ (typed.slotAt now storeKey) value held
  · exact typed other value held

theorem writeScalar {text : String} (typed : m.WellTyped base)
    (suits : Suits base storeKey (.scalar text)) (now : Int) (lifetime : Option Duration) :
    (m.writeScalar now storeKey text lifetime).WellTyped base := by
  apply typed.access
  intro s _ value held
  cases held
  exact suits

end WellTyped

end Memory

/-! ## Calls -/

namespace Call

/-- The call writes what suits the store keys of limiters and publishers. -/
def Suited (base : String) : Call → Prop
  | .set key text _ => Suits base key (.scalar text)
  | .incr key _ _ | .decr key => Counts base key
  | .zadd key _ _ | .recordInWindow key _ _ _ => Logs base key
  | .askBucket bucket now => Counts base bucket.contentKey ∧ Counts base bucket.stampKey ∧
    Word.InRange bucket.capacity ∧ Word.InRange now
  | .get _ | .zrem _ _ _ | .zcount _ _ _ | .expire _ _ => True

end Call

theorem Memory.WellTyped.answer {m : Memory} (typed : m.WellTyped base) {call : Call}
    (suited : call.Suited base) (now : Int) : (Memory.answer now call m).2.WellTyped base := by
  cases call with
  | get key => exact typed.of_keeps (keeps_readScalar now m key)
  | set key text lifetime => exact typed.writeScalar suited now lifetime
  | incr key delta lifetime => exact typed.access fun s suits => suits_addTo suits suited _ _ _
  | decr key => exact typed.access fun s suits => suits_addTo suits suited _ _ _
  | zadd key score member => exact typed.access fun s suits => suits_addMember suits suited _ _
  | zrem key min max => exact typed.access fun s suits => suits_removeRange suits _ _
  | zcount key min max => exact typed.access fun s suits => suits
  | expire key lifetime => exact typed.access fun s suits => suits_renew suits _ _
  | recordInWindow key time window member =>
    exact typed.access fun s suits => suits_logRequest suits suited _ _ _ _
  | askBucket bucket time =>
    obtain ⟨content, stamp, capacity, word⟩ := suited
    obtain ⟨m', kept, asked⟩ := exists_askBucket_eq now bucket time m
    rw [Memory.answer, asked]
    cases read : bucket.read (m.liveSlot now bucket.contentKey) (m.liveSlot now bucket.stampKey) with
    | error error => exact typed.of_keeps kept
    | ok held =>
      have settled : Word.InRange (bucket.settle held.1 held.2 time).content :=
        Bucket.inRange_settle (Bucket.word_of_read read) capacity
      exact ((typed.of_keeps kept).writeScalar (.write content settled) now _).writeScalar
        (.write stamp word) now _

theorem Call.Suited.steps {call : Call} (suited : call.Suited base) :
    call.steps.Each (Suited base) fun _ => True := by
  cases call with
  | recordInWindow key time window member =>
    exact Plan.each_recordSteps suited trivial trivial trivial
  | askBucket bucket time =>
    obtain ⟨content, stamp, capacity, word⟩ := suited
    refine .bind (Plan.each_call trivial) fun raw _ => ?_
    refine .bind (Plan.each_ofExcept fun held read => readState_word read) fun held words => ?_
    refine .bind (Plan.each_call trivial) fun raw' _ => ?_
    refine .bind (P := fun _ => True) (Plan.each_ofExcept fun _ _ => trivial) fun held' _ => ?_
    have settled : Word.InRange (bucket.settle held held' time).content :=
      Bucket.inRange_settle words capacity
    exact .bind (Plan.each_call (.write content settled)) fun _ _ =>
      .bind (Plan.each_call (.write stamp word)) fun _ _ => trivial
  | get _ | set _ _ _ | incr _ _ _ | decr _ | zadd _ _ _ | zrem _ _ _ | zcount _ _ _
  | expire _ _ => exact Plan.each_call suited

/-! ## Limiters and publishers -/

namespace Limiter

variable {ticket : String}

theorem lookUp_suited (base : String) (key : LimitKey) :
    (lookUp base key).Each (Call.Suited base) fun _ => True := by
  refine .bind (Plan.each_call trivial) fun record _ => ?_
  cases record with
  | none => exact trivial
  | some text => exact .bind (P := fun _ => True) (Plan.each_ofExcept fun _ _ => trivial) fun _ _ => trivial

theorem resolve_suited (base service endpoint : String) :
    (resolve base service endpoint).Each (Call.Suited base) fun _ => True := by
  refine .bind (lookUp_suited base _) fun found _ => ?_
  cases found with
  | some limit => exact trivial
  | none => exact lookUp_suited base _

theorem bucket_suited (kind : BucketKind) (key : LimitKey) (limit : Limit)
    (word : Word.InRange now) :
    (Call.askBucket (bucketOf kind base key limit) now).Suited base := by
  have counts (part : String) (counted : part ∈ kind.algorithm.parts) :
      Counts base (key.stateKey base part) :=
    counts_stateKey key (by cases kind <;> decide) counted
  rw [BucketKind.parts_algorithm] at counts
  exact ⟨counts _ (by simp), counts _ (by simp), Word.inRange_saturate _, word⟩

theorem evaluate_suited (key : LimitKey) (limit : Limit) (word : Word.InRange now) :
    (evaluate base now ticket key limit).Each (Call.Suited base) fun _ => True := by
  unfold evaluate
  cases limit.algorithm with
  | fixedWindow =>
    exact .bind (Plan.each_call (counts_fixedWindow base key)) fun _ _ => trivial
  | slidingWindow => exact .bind (Plan.each_call ⟨key, rfl⟩) fun _ _ => trivial
  | tokenBucket =>
    exact .bind (Plan.each_call (bucket_suited .tokens key limit word)) fun _ _ => trivial
  | leakyBucket =>
    exact .bind (Plan.each_call (bucket_suited .level key limit word)) fun _ _ => trivial

theorem allow_suited (service endpoint : String) (word : Word.InRange now) :
    (allow base now ticket service endpoint).Each (Call.Suited base) fun _ => True := by
  refine .bind (resolve_suited base service endpoint) fun found _ => ?_
  cases found with
  | none => exact trivial
  | some limit => exact evaluate_suited _ limit word

end Limiter

namespace Publisher

variable (p : Publisher)

theorem publishLimit_suited (limit : Limit) :
    (p.publishLimit limit).Each (Call.Suited p.base) fun _ => True := by
  refine .bind (P := fun _ => limit.Valid)
    (Plan.each_ofExcept fun _ accepted => (limit.check_eq_ok_iff.mp accepted).2) ?_
  intro _ valid
  have named : limit.key.configKey p.base = limit.inMillis.key.configKey p.base := rfl
  exact Plan.each_call (.record named (Record.decodeLimit_write valid))

theorem publish_suited (document : RulesDocument) :
    (p.publish document).Each (Call.Suited p.base) fun _ => True := by
  refine .bind (P := fun _ => True) (Plan.each_ofExcept fun _ _ => trivial) fun limits _ => ?_
  exact .bind (Plan.each_forM fun limit _ => publishLimit_suited p limit) fun _ _ => trivial

end Publisher

/-! ## Sessions -/

namespace Action

/-- The action goes through a limiter or a publisher, or none at all: it is a publication, a request, a
    question for a limit, a purge or a movement of the clock. -/
def Managed : Action → Prop
  | publish _ _ | publishRules _ _ | allow _ _ _ | resolve _ _ | purge | setClock _ => True
  | evaluate _ _ _ | call _ => False

end Action

/-- A decision or a question for a limit has not failed. -/
def Reply.Answered : Reply → Prop
  | decision outcome => ∃ admitted, outcome = .ok admitted
  | resolved outcome => ∃ found, outcome = .ok found
  | published _ | rulesPublished _ | answer _ _ | purged _ | clockSet => True

namespace Session

variable {s : Session} {key : LimitKey} {limit : Limit} {ticket : String} {action : Action}

def WellTyped (s : Session) : Prop := s.store.inner.WellTyped s.base

theorem WellTyped.perform {α : Type} {P : α → Prop} {p : Plan α} (typed : s.WellTyped)
    (healthy : s.Healthy) (suited : p.Each (Call.Suited s.base) P) :
    (s.perform p).2.WellTyped := by
  have kept (call : Call) (m : Memory) (suited : call.Suited s.base) (typed : m.WellTyped s.base) :
      (Memory.answer s.now call m).2.WellTyped s.base := typed.answer suited s.now
  unfold WellTyped
  rw [inner_perform healthy, run]
  cases s.compounding with
  | whole => exact suited.run kept typed
  | inSteps => exact (suited.inSteps fun _ => Call.Suited.steps).run kept typed

theorem WellTyped.step (typed : s.WellTyped) (healthy : s.Healthy) (word : Word.InRange s.now)
    (managed : action.Managed) : (s.step action).2.WellTyped := by
  cases action with
  | publish lifetime limit =>
    exact typed.perform healthy (Publisher.publishLimit_suited ⟨s.base, lifetime⟩ limit)
  | publishRules lifetime document =>
    exact typed.perform healthy (Publisher.publish_suited ⟨s.base, lifetime⟩ document)
  | allow service endpoint ticket =>
    exact typed.perform healthy (Limiter.allow_suited service endpoint word)
  | resolve service endpoint =>
    exact typed.perform healthy (Limiter.resolve_suited s.base service endpoint)
  | purge => exact Memory.WellTyped.of_keeps typed fun key => Memory.keeps_purge s.now key _
  | setClock reading => exact typed
  | evaluate _ _ _ | call _ => cases managed

/-! ### Answers -/

theorem exists_outcome (healthy : s.Healthy)
    (suits : ∀ part, (s.part key part).Suits s.base (key.stateKey s.base part)) :
    ∃ admitted, (s.request key limit ticket).outcome = .ok admitted := by
  have bucket (kind : BucketKind) (counted : limit.algorithm = kind.algorithm) :
      ∃ admitted, (s.request key limit ticket).outcome = .ok admitted := by
    have counts (part : String) (own : part ∈ kind.algorithm.parts) :
        Counts s.base (key.stateKey s.base part) :=
      counts_stateKey key (by cases kind <;> decide) own
    rw [BucketKind.parts_algorithm] at counts
    obtain ⟨content, read⟩ := (suits kind.contentPart).exists_integer (counts _ (by simp))
    obtain ⟨stamp, read'⟩ := (suits kind.stampPart).exists_integer (counts _ (by simp))
    have held : s.held kind key limit = .ok (content, stamp) := by
      unfold Session.held Bucket.read
      rw [show (s.bucket kind key limit).contentKey = key.stateKey s.base kind.contentPart from rfl,
        show (s.bucket kind key limit).stampKey = key.stateKey s.base kind.stampPart from rfl,
        read, read']
      rfl
    rw [outcome_bucket healthy counted, held]
    exact ⟨_, rfl⟩
  cases counted : limit.algorithm with
  | fixedWindow =>
    obtain ⟨sum, added⟩ :=
      (suits "fw").exists_sum (counts_fixedWindow s.base key) s.now 1 (some limit.window)
    rw [outcome_fixedWindow healthy counted, added]
    exact ⟨_, rfl⟩
  | slidingWindow =>
    obtain ⟨members, sorted⟩ := (suits "sw").exists_sorted ⟨key, rfl⟩
    rw [outcome_slidingWindow healthy counted]
    unfold Session.log Memory.logRequest Memory.logInSteps
    cases s.compounding with
    | whole | inSteps =>
      dsimp only
      rw [sorted]
      exact ⟨_, rfl⟩
  | tokenBucket => exact bucket .tokens counted
  | leakyBucket => exact bucket .level counted

theorem WellTyped.exists_resolution (typed : s.WellTyped) (service endpoint : String) :
    ∃ found, s.resolution service endpoint = .ok found := by
  have published (key : LimitKey) : ∃ found, s.published key = .ok found :=
    (typed.liveSlot s.now (key.configKey s.base)).exists_published
  obtain ⟨found, own⟩ := published (.ofEndpoint service endpoint)
  unfold resolution
  rw [own]
  cases found with
  | some limit => exact ⟨some limit, rfl⟩
  | none => exact published (.serviceDefault service)

theorem WellTyped.exists_decision (typed : s.WellTyped) (healthy : s.Healthy)
    (service endpoint ticket : String) :
    ∃ admitted, (s.step (.allow service endpoint ticket)).1 = .decision (.ok admitted) := by
  obtain ⟨found, resolved⟩ := typed.exists_resolution service endpoint
  cases found with
  | none => exact ⟨true, (step_allow_open healthy ticket resolved).1⟩
  | some limit =>
    obtain ⟨t, agrees, reply, -⟩ := step_allow_limited healthy ticket resolved
    -- The request is counted on a session that shows the same of the endpoint's state.
    have suits (part : String) : (t.part (.ofEndpoint service endpoint) part).Suits t.base
        ((LimitKey.ofEndpoint service endpoint).stateKey t.base part) := by
      rw [agrees.part_eq, agrees.base]
      exact typed.liveSlot s.now _
    obtain ⟨admitted, outcome⟩ := exists_outcome (agrees.healthy healthy) suits
    exact ⟨admitted, by rw [reply, outcome]⟩

theorem WellTyped.answered (typed : s.WellTyped) (healthy : s.Healthy) (managed : action.Managed) :
    (s.step action).1.Answered := by
  cases action with
  | allow service endpoint ticket =>
    obtain ⟨admitted, reply⟩ := typed.exists_decision healthy service endpoint ticket
    rw [reply]
    exact ⟨admitted, rfl⟩
  | resolve service endpoint =>
    rw [reply_resolve healthy]
    exact typed.exists_resolution service endpoint
  | publish _ _ | publishRules _ _ | purge | setClock _ => exact trivial
  | evaluate _ _ _ | call _ => cases managed

theorem start_wellTyped (publisher : Publisher) (compounding : Compounding) (now : Int) :
    (Session.start publisher compounding now).WellTyped :=
  fun storeKey => Slot.suits_vacant _ storeKey

theorem trace_answered : ∀ {run : List Action} {s : Session}, s.WellTyped → s.Healthy →
    InTime s.now run → (∀ action ∈ run, action.Managed) →
    (∀ entry ∈ s.trace run, entry.reply.Answered) ∧ (s.after run).WellTyped
  | [], _, typed, _, _, _ => ⟨fun _ member => (nomatch member), typed⟩
  | action :: rest, s, typed, healthy, inTime, managed => by
    have own := managed action List.mem_cons_self
    have word : Word.InRange s.now := Word.inRange_of_nonneg inTime.now.1 inTime.now.2.le
    obtain ⟨answers, after⟩ := trace_answered (typed.step healthy word own)
      (healthy_step healthy action) (inTime_step inTime)
      fun other member => managed other (.tail _ member)
    refine ⟨?_, after⟩
    intro entry member
    rcases List.mem_cons.mp member with rfl | member
    · exact typed.answered healthy own
    · exact answers entry member

end Session

/-- **A healthy limiter never fails.**  From an empty store, under a clock that is moved forward and back,
    every request and every question for a limit is answered, whatever is published; and at no time
    does the store hold anything that does not suit its key. -/
theorem healthy_limiter_never_fails (publisher : Publisher) (compounding : Compounding) (now : Int)
    {run : List Action} (managed : ∀ action ∈ run, action.Managed) (inTime : InTime now run) :
    (∀ entry ∈ (Session.start publisher compounding now).trace run, entry.reply.Answered) ∧
      ((Session.start publisher compounding now).after run).WellTyped :=
  Session.trace_answered (Session.start_wellTyped publisher compounding now) rfl inTime managed

/-- An endpoint whose limit changes its algorithm, a limit that is refused, and a clock that is set back. -/
theorem healthy_limiter_never_fails_switching :
    let tokens : Limit := ⟨"search", some "a:\"%", .tokenBucket, 2, .ofMillis 1000⟩
    let logged : Limit := ⟨"search", some "a:\"%", .slidingWindow, 2, .ofMillis 1000⟩
    let refused : Limit := ⟨"search", none, .fixedWindow, 0, .ofMillis 1000⟩
    let run : List Action := [.publish none tokens, .allow "search" "a:\"%" "a", .setClock 900,
      .publish (some (.ofMillis 50)) logged, .publish none refused, .allow "search" "a:\"%" "b",
      .setClock 300, .purge, .allow "search" "a:\"%" "c", .resolve "search" "*"]
    let s := Session.start ⟨"limits", none⟩ .inSteps 500
    (∀ action ∈ run, action.Managed) ∧ InTime 500 run ∧
      (∀ entry ∈ s.trace run, entry.reply.Answered) ∧ (s.after run).WellTyped := by
  intro tokens logged refused run s
  have managed : ∀ action ∈ run, action.Managed := by simp [run, Action.Managed]
  have inTime : InTime 500 run := by decide
  exact ⟨managed, inTime, healthy_limiter_never_fails ⟨"limits", none⟩ .inSteps 500 managed inTime⟩

end Throttle
