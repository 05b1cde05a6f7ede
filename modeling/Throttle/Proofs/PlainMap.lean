import Throttle.Proofs.Run

/-!
# The plain map

What a store is meant to be: a finite map from keys to items, where an item is a value that may have
a deadline.  Nothing expired is kept here, so nothing has to be swept: an item ceases to exist at its
deadline, and a sorted set with its last member.  `PlainMap.answer` is the store as a function of the
clock reading and the call, every call in one step.

`PlainSession` is a session on such a map.  Of a session, `Session.observed` is what a caller can
tell: every reply, and the number of keys after it.
-/

namespace Throttle

/-! ## Items -/

/-- A value with the instant at which it ceases to exist, if there is one. -/
structure Item where
  value : Value
  deadline : Option Int

namespace Item

def lasts (now : Int) (item : Item) : Bool :=
  match item.deadline with
  | some deadline => decide (now < deadline)
  | none => true

/-- The item of a sorted set, if the set has members. -/
def ofMembers (members : Table Int) (deadline : Option Int) : Option Item :=
  if members.size = 0 then none else some ⟨.sorted members, deadline⟩

/-- The scalar of a key. -/
def text (key : String) : Option Item → Except LimiterError (Option String)
  | none => .ok none
  | some ⟨.scalar text, _⟩ => .ok (some text)
  | some ⟨.sorted _, _⟩ => .error (.wrongKind key)

/-- The integer of a key, which is zero where there is none. -/
def integer (key : String) : Option Item → Except LimiterError Int
  | none => .ok 0
  | some ⟨.scalar text, _⟩ =>
    match Decimal.read? text with
    | some n => .ok n
    | none => .error (.notAnInteger key)
  | some ⟨.sorted _, _⟩ => .error (.wrongKind key)

/-- The sorted set of a key, which is empty where there is none. -/
def members (key : String) : Option Item → Except LimiterError (Table Int)
  | none => .ok .empty
  | some ⟨.sorted members, _⟩ => .ok members
  | some ⟨.scalar _, _⟩ => .error (.wrongKind key)

/-! What the calls make of the item of their key: an answer and another item, or an error. -/

def set (text : String) (deadline : Option Int) (_ : Option Item) :
    Except LimiterError (Unit × Option Item) :=
  .ok ((), some ⟨.scalar text, deadline⟩)

/-- The deadline is for an item that is created. -/
def add (key : String) (delta : Int) (deadline : Option Int) (item : Option Item) :
    Except LimiterError (Int × Option Item) := do
  let sum := Word.add (← integer key item) delta
  return (sum, some ⟨.scalar (Decimal.write sum), item.elim deadline Item.deadline⟩)

def addMember (key : String) (score : Int) (member : String) (item : Option Item) :
    Except LimiterError (Unit × Option Item) := do
  let members ← members key item
  return ((), ofMembers (members.insert member score) (item.bind Item.deadline))

def removeRange (key : String) (min max : Int) (item : Option Item) :
    Except LimiterError (Nat × Option Item) := do
  let members ← members key item
  return (members.count fun _ score => decide (min ≤ score ∧ score ≤ max),
    ofMembers (members.filter fun _ score => !decide (min ≤ score ∧ score ≤ max))
      (item.bind Item.deadline))

def countRange (key : String) (min max : Int) (item : Option Item) :
    Except LimiterError (Nat × Option Item) := do
  let members ← members key item
  return (members.count fun _ score => decide (min ≤ score ∧ score ≤ max), item)

def renew (deadline : Int) (item : Option Item) : Except LimiterError (Unit × Option Item) :=
  .ok ((), item.map fun item => { item with deadline := some deadline })

/-- Puts a member in at `now`, and keeps what is not older than the window. -/
def logRequest (key : String) (deadline now : Int) (window : Duration) (member : String)
    (item : Option Item) : Except LimiterError (Nat × Option Item) := do
  let members ← members key item
  let kept := (members.insert member now).filter fun _ score => decide (now - window.millis ≤ score)
  return (kept.size, ofMembers kept (some deadline))

end Item

/-! ## The map -/

abbrev PlainMap : Type := Table Item

namespace PlainMap

variable {now : Int}

/-- The map at a later instant. -/
def lapse (now : Int) (map : PlainMap) : PlainMap := map.filter fun _ item => item.lasts now

/-- The map with an item under a key, or without one. -/
def put (now : Int) (key : String) (item : Option Item) (map : PlainMap) : PlainMap :=
  match item.filter (Item.lasts now) with
  | some item => map.insert key item
  | none => map.erase key

/-- Changes the item of one key.  A call that fails changes nothing. -/
def update {α : Type} (now : Int) (key : String)
    (f : Option Item → Except LimiterError (α × Option Item)) (map : PlainMap) :
    Except LimiterError α × PlainMap :=
  match f (map.get? key) with
  | .ok (result, item) => (.ok result, map.put now key item)
  | .error error => (.error error, map)

/-- The integer of a piece of bucket state. -/
def state (key : String) (map : PlainMap) : Except LimiterError (Option Int) := do
  readState key (← Item.text key (map.get? key))

/-- Settles a bucket.  Its content and its stamp then exist for one window. -/
def askBucket (clock : Int) (bucket : Bucket) (now : Int) (map : PlainMap) :
    Except LimiterError BucketOutcome × PlainMap :=
  let item (n : Int) : Option Item :=
    some ⟨.scalar (Decimal.write n), some (deadlineAfter clock bucket.window)⟩
  match map.state bucket.contentKey, map.state bucket.stampKey with
  | .ok content, .ok stamp =>
    let outcome := bucket.settle content stamp now
    (.ok outcome, (map.put clock bucket.contentKey (item outcome.content)).put clock
      bucket.stampKey (item now))
  | .ok _, .error error => (.error error, map)
  | .error error, _ => (.error error, map)

def answer (now : Int) : Store PlainMap
  | .get key, map => (Item.text key (map.get? key), map)
  | .set key value lifetime, map =>
    map.update now key (Item.set value (lifetime.map (deadlineAfter now)))
  | .incr key delta lifetime, map =>
    map.update now key (Item.add key delta (lifetime.map (deadlineAfter now)))
  | .decr key, map => map.update now key (Item.add key (-1) none)
  | .zadd key score member, map => map.update now key (Item.addMember key score member)
  | .zrem key min max, map => map.update now key (Item.removeRange key min max)
  | .zcount key min max, map => map.update now key (Item.countRange key min max)
  | .expire key lifetime, map => map.update now key (Item.renew (deadlineAfter now lifetime))
  | .recordInWindow key time window member, map =>
    map.update now key (Item.logRequest key (deadlineAfter now window) time window member)
  | .askBucket bucket time, map => map.askBucket now bucket time

theorem get?_lapse (now : Int) (map : PlainMap) (key : String) :
    (map.lapse now).get? key = (map.get? key).filter (Item.lasts now) :=
  Table.get?_filter _ _ _

theorem get?_put (map : PlainMap) (key other : String) (item : Option Item) :
    (map.put now key item).get? other =
      if other = key then item.filter (Item.lasts now) else map.get? other := by
  unfold put
  cases item.filter (Item.lasts now) with
  | none => exact Table.get?_erase map key other
  | some item => exact Table.get?_insert map key other item

end PlainMap

/-! ## Sessions on a plain map -/

/-- A limiter and a publisher on a plain map. -/
structure PlainSession where
  base : String
  now : Int
  map : PlainMap

namespace PlainSession

def start (base : String) (now : Int) : PlainSession := ⟨base, now, .empty⟩

def run {α : Type} (s : PlainSession) (p : Plan α) : Except LimiterError α × PlainMap :=
  p.run (PlainMap.answer s.now) s.map

def reply {α : Type} (wrap : Except LimiterError α → Reply) (p : Plan α) (s : PlainSession) :
    Reply × PlainSession :=
  (wrap (s.run p).1, { s with map := (s.run p).2 })

/-- There is nothing to purge. -/
def step (s : PlainSession) : Action → Reply × PlainSession
  | .evaluate key limit ticket =>
    s.reply .decision (Limiter.evaluate s.base s.now ticket key limit)
  | .allow service endpoint ticket =>
    s.reply .decision (Limiter.allow s.base s.now ticket service endpoint)
  | .resolve service endpoint => s.reply .resolved (Limiter.resolve s.base service endpoint)
  | .publish lifetime limit => s.reply .published (Publisher.publishLimit ⟨s.base, lifetime⟩ limit)
  | .publishRules lifetime document =>
    s.reply .rulesPublished (Publisher.publish ⟨s.base, lifetime⟩ document)
  | .call c => s.reply (.answer c) (Plan.call c)
  | .purge => (.purged 0, s)
  | .setClock reading => (.clockSet, { s with now := reading, map := s.map.lapse reading })

end PlainSession

/-! ## What can be observed -/

/-- The reply, but for the number of keys that a purge has dropped. -/
def Reply.visible : Reply → Reply
  | purged _ => purged 0
  | reply => reply

/-- Every reply of a run, and the number of live keys after it. -/
def Session.observed (s : Session) : List Action → List (Reply × Nat)
  | [] => []
  | action :: rest =>
    ((s.step action).1.visible, (s.step action).2.size) :: (s.step action).2.observed rest

/-- Every reply of a run, and the number of keys after it. -/
def PlainSession.observed (s : PlainSession) : List Action → List (Reply × Nat)
  | [] => []
  | action :: rest =>
    ((s.step action).1, (s.step action).2.map.size) :: (s.step action).2.observed rest

end Throttle
