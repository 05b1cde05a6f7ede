import Throttle.Proofs.PlainMap
import Throttle.Proofs.RecordBounds
import Throttle.Proofs.RollingLog

/-!
# Calls within words

`Call.InWords` says that the scores which a call brings are words.  Where all calls are so, the
sorted sets of a plain map have words for scores (`PlainMap.Words.answer`).

`Plan.InWords` says it of every call of a plan, whatever the answers are.  The plans of a limiter and
of a publisher are so at every instant that is a word, since a limit that is decoded has a window
within words.
-/

namespace Throttle

/-! ## Calls -/

/-- The scores that a call brings are words, and so is the window of a log in milliseconds. -/
def Call.InWords : Call → Prop
  | .zadd _ score _ => Word.InRange score
  | .recordInWindow _ now window _ => Word.InRange now ∧ (window.millis : Int) ≤ Word.maxValue
  | .get _ | .set _ _ _ | .incr _ _ _ | .decr _ | .zrem _ _ _ | .zcount _ _ _ | .expire _ _
  | .askBucket _ _ => True

instance (call : Call) : Decidable call.InWords :=
  match call with
  | .zadd _ score _ => inferInstanceAs (Decidable (Word.InRange score))
  | .recordInWindow _ now window _ =>
    inferInstanceAs (Decidable (Word.InRange now ∧ (window.millis : Int) ≤ Word.maxValue))
  | .get _ | .set _ _ _ | .incr _ _ _ | .decr _ | .zrem _ _ _ | .zcount _ _ _ | .expire _ _
  | .askBucket _ _ => inferInstanceAs (Decidable True)

/-! ## Scores on a plain map -/

/-- All scores are words. -/
def Table.Words (members : Table Int) : Prop := ∀ score ∈ members.values, Word.InRange score

namespace Table

variable {members : Table Int}

theorem Words.insert (words : members.Words) (member : String) {score : Int}
    (word : Word.InRange score) : (members.insert member score).Words := by
  intro other inserted
  rcases mem_values_insert inserted with rfl | old
  · exact word
  · exact words other old

theorem Words.filter (words : members.Words) (p : Int → Bool) :
    (members.filter fun _ score => p score).Words := by
  intro score kept
  rw [values_filter] at kept
  exact words score (List.mem_filter.mp kept).1

end Table

namespace Item

/-- The scores of the item, if it has any, are words. -/
def Words (item : Option Item) : Prop :=
  ∀ members deadline, item = some ⟨.sorted members, deadline⟩ → members.Words

variable {key : String} {item : Option Item}

theorem words_scalar (text : String) (deadline : Option Int) :
    Words (some ⟨.scalar text, deadline⟩) :=
  fun _ _ same => nomatch same

theorem words_ofMembers {members : Table Int} (words : members.Words) (deadline : Option Int) :
    Words (ofMembers members deadline) := by
  intro members' deadline' same
  unfold ofMembers at same
  split at same
  · cases same
  · cases same
    exact words

theorem Words.members {held : Table Int} (words : Words item)
    (found : Item.members key item = .ok held) : held.Words := by
  rcases item with _ | ⟨text | inner, deadline⟩
  · obtain rfl := Except.ok.inj found
    exact fun _ member => nomatch member
  · cases found
  · obtain rfl := Except.ok.inj found
    exact words _ _ rfl

theorem Words.filter (words : Words item) (p : Item → Bool) : Words (item.filter p) :=
  fun members deadline kept => words members deadline (Option.filter_eq_some_iff.mp kept).1

/-- From words the function makes words. -/
def KeepsWords {α : Type} (g : Option Item → Except LimiterError (α × Option Item)) : Prop :=
  ∀ item result, Words item → g item = .ok result → Words result.2

theorem keepsWords_of_members {α : Type} {next : Option Item → Table Int → α × Option Item}
    (kept : ∀ item members, Words item → members.Words → Words (next item members).2) :
    KeepsWords fun item => (members key item).bind fun members => .ok (next item members) := by
  intro item result words made
  obtain ⟨held, found, made⟩ := exists_of_bind_ok made
  obtain rfl := Except.ok.inj made
  exact kept item held words (words.members found)

theorem keepsWords_set (text : String) (deadline : Option Int) : KeepsWords (set text deadline) := by
  intro item result _ made
  obtain rfl := Except.ok.inj made
  exact words_scalar _ _

theorem keepsWords_add (key : String) (delta : Int) (deadline : Option Int) :
    KeepsWords (add key delta deadline) := by
  intro item result _ made
  obtain ⟨n, -, made⟩ := exists_of_bind_ok made
  obtain rfl := Except.ok.inj made
  exact words_scalar _ _

theorem keepsWords_addMember (key : String) {score : Int} (word : Word.InRange score)
    (member : String) : KeepsWords (addMember key score member) :=
  keepsWords_of_members fun _ _ _ words => words_ofMembers (words.insert member word) _

theorem keepsWords_removeRange (key : String) (min max : Int) :
    KeepsWords (removeRange key min max) :=
  keepsWords_of_members fun _ _ _ words => words_ofMembers (words.filter _) _

theorem keepsWords_countRange (key : String) (min max : Int) :
    KeepsWords (countRange key min max) :=
  keepsWords_of_members fun _ _ words _ => words

theorem keepsWords_logRequest (key : String) (deadline : Int) {now : Int} (word : Word.InRange now)
    (window : Duration) (member : String) :
    KeepsWords (logRequest key deadline now window member) :=
  keepsWords_of_members fun _ _ _ words => words_ofMembers ((words.insert member word).filter _) _

theorem keepsWords_renew (deadline : Int) : KeepsWords (renew deadline) := by
  intro item result words made
  obtain rfl := Except.ok.inj made
  intro members deadline' same
  rcases item with _ | ⟨value, old⟩
  · cases same
  · cases same
    exact words _ _ rfl

end Item

namespace PlainMap

variable {now : Int} {key : String} {map : PlainMap}

def Words (map : PlainMap) : Prop := ∀ key, Item.Words (map.get? key)

namespace Words

theorem lapse (words : map.Words) (now : Int) : (map.lapse now).Words := by
  intro key
  rw [get?_lapse]
  exact (words key).filter _

theorem put (words : map.Words) {item : Option Item} (word : Item.Words item) :
    (map.put now key item).Words := by
  intro other
  rw [get?_put]
  split
  · exact word.filter _
  · exact words other

theorem update {α : Type} {g : Option Item → Except LimiterError (α × Option Item)}
    (words : map.Words) (kept : Item.KeepsWords g) : (map.update now key g).2.Words := by
  unfold PlainMap.update
  cases made : g (map.get? key) with
  | error error => exact words
  | ok result => exact words.put (kept _ _ (words key) made)

theorem answer (words : map.Words) {call : Call} (inWords : call.InWords) :
    (PlainMap.answer now call map).2.Words := by
  cases call with
  | get key => exact words
  | set key text lifetime => exact words.update (Item.keepsWords_set _ _)
  | incr key delta lifetime => exact words.update (Item.keepsWords_add _ _ _)
  | decr key => exact words.update (Item.keepsWords_add _ _ _)
  | zadd key score member => exact words.update (Item.keepsWords_addMember _ inWords _)
  | zrem key min max => exact words.update (Item.keepsWords_removeRange _ _ _)
  | zcount key min max => exact words.update (Item.keepsWords_countRange _ _ _)
  | expire key lifetime => exact words.update (Item.keepsWords_renew _)
  | recordInWindow key time window member =>
    exact words.update (Item.keepsWords_logRequest _ _ inWords.1 _ _)
  | askBucket bucket time =>
    rw [PlainMap.answer, PlainMap.askBucket]
    cases map.state bucket.contentKey with
    | error error => exact words
    | ok content =>
      cases map.state bucket.stampKey with
      | error error => exact words
      | ok stamp => exact (words.put (Item.words_scalar _ _)).put (Item.words_scalar _ _)

end Words

end PlainMap

/-! ## Plans -/

namespace Plan

variable {α β : Type} {P : α → Prop} {Q : β → Prop}

/-- All calls of the plan are in words, and what it comes to has a property. -/
def InWords (P : α → Prop) : Plan α → Prop
  | done value => P value
  | fail _ => True
  | ask call next => call.InWords ∧ ∀ answer, (next answer).InWords P

theorem inWords_call {c : Call} (inWords : c.InWords) : (call c).InWords fun _ => True :=
  ⟨inWords, fun _ => trivial⟩

theorem inWords_ofExcept {result : Except LimiterError α}
    (holds : ∀ value, result = .ok value → P value) : (ofExcept result).InWords P := by
  cases result with
  | error error => exact trivial
  | ok value => exact holds value rfl

theorem InWords.bind {p : Plan α} {f : α → Plan β} (inWords : p.InWords P)
    (next : ∀ value, P value → (f value).InWords Q) : (p.bind f).InWords Q := by
  induction p with
  | done value => exact next value inWords
  | fail error => exact trivial
  | ask call rest ih => exact ⟨inWords.1, fun answer => ih answer (inWords.2 answer)⟩

end Plan

namespace Limiter

variable {base : String} {now : Int} {ticket : String}

theorem lookUp_inWords (base : String) (key : LimitKey) :
    (lookUp base key).InWords fun found => ∀ limit ∈ found, limit.Valid := by
  refine .bind (Plan.inWords_call trivial) fun record _ => ?_
  cases record with
  | none => exact fun _ absent => nomatch absent
  | some text =>
    refine .bind (P := Limit.Valid)
      (Plan.inWords_ofExcept fun limit => Record.valid_of_decodeLimit) ?_
    intro limit valid other same
    obtain rfl := Option.some.inj same
    exact valid

theorem resolve_inWords (base service endpoint : String) :
    (resolve base service endpoint).InWords fun found => ∀ limit ∈ found, limit.Valid := by
  refine .bind (lookUp_inWords base _) fun found valid => ?_
  cases found with
  | some limit => exact valid
  | none => exact lookUp_inWords base _

theorem evaluate_inWords {key : LimitKey} {limit : Limit} (word : Word.InRange now)
    (bounded : limit.algorithm = .slidingWindow → (limit.window.millis : Int) ≤ Word.maxValue) :
    (evaluate base now ticket key limit).InWords fun _ => True := by
  unfold evaluate
  cases kind : limit.algorithm with
  | slidingWindow => exact .bind (Plan.inWords_call ⟨word, bounded kind⟩) fun _ _ => trivial
  | fixedWindow | tokenBucket | leakyBucket =>
    exact .bind (Plan.inWords_call trivial) fun _ _ => trivial

theorem allow_inWords {service endpoint : String} (word : Word.InRange now) :
    (allow base now ticket service endpoint).InWords fun _ => True := by
  refine .bind (resolve_inWords base service endpoint) fun found valid => ?_
  cases found with
  | none => exact trivial
  | some limit => exact evaluate_inWords word fun _ => (valid limit rfl).window_le

end Limiter

namespace Publisher

variable {p : Publisher}

theorem publishLimit_inWords (limit : Limit) : (p.publishLimit limit).InWords fun _ => True :=
  .bind (P := fun _ => True) (Plan.inWords_ofExcept fun _ _ => trivial) fun _ _ =>
    Plan.inWords_call trivial

theorem publish_inWords (document : RulesDocument) :
    (p.publish document).InWords fun _ => True := by
  refine .bind (P := fun _ => True) (Plan.inWords_ofExcept fun _ _ => trivial) fun limits _ => ?_
  refine .bind (P := fun _ => True) ?_ fun _ _ => trivial
  induction limits with
  | nil => exact trivial
  | cons limit rest ih => exact .bind (publishLimit_inWords limit) fun _ _ => ih

end Publisher

/-! ## Actions -/

/-- The scores and the rolling windows that an action brings are words. -/
def Action.InWords : Action → Prop
  | .evaluate _ limit _ =>
    limit.algorithm = .slidingWindow → (limit.window.millis : Int) ≤ Word.maxValue
  | .call c => c.InWords
  | .allow _ _ _ | .resolve _ _ | .publish _ _ | .publishRules _ _ | .purge | .setClock _ => True

instance (action : Action) : Decidable action.InWords :=
  match action with
  | .evaluate _ limit _ => inferInstanceAs (Decidable
      (limit.algorithm = .slidingWindow → (limit.window.millis : Int) ≤ Word.maxValue))
  | .call c => inferInstanceAs (Decidable c.InWords)
  | .allow _ _ _ | .resolve _ _ | .publish _ _ | .publishRules _ _ | .purge | .setClock _ =>
    inferInstanceAs (Decidable True)

end Throttle
