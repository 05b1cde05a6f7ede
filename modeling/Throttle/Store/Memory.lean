import Throttle.Store.Compose
import Throttle.Table

/-!
# The store in memory

A store kept in the memory of one process.  A key's slot holds a value and perhaps a deadline, and
the slot has expired from its deadline on.  Expired slots are not looked for at once: one is
emptied when its key is used, dropped when it is read, and removed with all others by a sweep that
runs on every 1024th access.  Reads are no accesses.

`Memory.answer` is the store as a function of the clock reading and the call.
-/

namespace Throttle

/-- What a key can hold. -/
inductive Value
  | scalar (text : String)
  /-- Members with their scores. -/
  | sorted (members : Table Int)

/-- The place of one key.  A slot without a value is vacant. -/
structure Slot where
  value : Option Value
  deadline : Option Int

namespace Slot

/-- The slot of a key that holds nothing. -/
def vacant : Slot := ⟨none, none⟩

/-- The slot's lifetime is over. -/
def expired (now : Int) (s : Slot) : Bool :=
  match s.deadline with
  | some deadline => decide (deadline ≤ now)
  | none => false

/-- The slot holds a value that has not expired. -/
def live (now : Int) (s : Slot) : Bool := s.value.isSome && !s.expired now

end Slot

def deadlineAfter (now : Int) (lifetime : Duration) : Int :=
  Word.add now (Word.saturate lifetime.millis)

structure Memory where
  slots : Table Slot
  /-- The number of accesses so far. -/
  accesses : Nat

namespace Memory

def empty : Memory := ⟨.empty, 0⟩

/-- How many accesses lie between two sweeps. -/
def sweepPeriod : Nat := 1024

def size (now : Int) (m : Memory) : Nat := m.slots.count fun _ s => s.live now

/-- The store without its slots that are not live, and how many they were. -/
def purge (now : Int) (m : Memory) : Nat × Memory :=
  let kept := m.slots.filter fun _ s => s.live now
  (m.slots.size - kept.size, { m with slots := kept })

/-- The slot of a key as an access finds it: vacant where there is none or where it has expired. -/
def slotAt (now : Int) (m : Memory) (key : String) : Slot :=
  match m.slots.get? key with
  | some s => if s.expired now then .vacant else s
  | none => .vacant

/-- The store with a slot put back under its key; a vacant slot is not kept. -/
def putSlot (m : Memory) (key : String) (s : Slot) : Memory :=
  { m with slots := if s.value.isNone then m.slots.erase key else m.slots.insert key s }

/-- Counts one access, and sweeps when it completes a period. -/
def tick (now : Int) (m : Memory) : Memory :=
  -- The counter is compared before it is raised, so that the 1024th access sweeps.
  let counted := { m with accesses := m.accesses + 1 }
  if m.accesses % sweepPeriod = sweepPeriod - 1 then (counted.purge now).2 else counted

def access {α : Type} (now : Int) (key : String) (f : Slot → α × Slot) (m : Memory) : α × Memory :=
  let (result, after) := f (m.slotAt now key)
  (result, (m.putSlot key after).tick now)

/-- Reads a scalar.  An expired slot is dropped. -/
def readScalar (now : Int) (key : String) (m : Memory) :
    Except LimiterError (Option String) × Memory :=
  match m.slots.get? key with
  | none => (.ok none, m)
  | some s =>
    if s.expired now then (.ok none, { m with slots := m.slots.erase key })
    else match s.value with
      | none => (.ok none, m)
      | some (.scalar text) => (.ok (some text), m)
      | some (.sorted _) => (.error (.wrongKind key), m)

def writeScalar (now : Int) (key text : String) (lifetime : Option Duration) (m : Memory) :
    Memory :=
  (m.access now key fun _ => ((), ⟨some (.scalar text), lifetime.map (deadlineAfter now)⟩)).2

/-- Reads the integer of a piece of bucket state. -/
def readInteger (now : Int) (key : String) (m : Memory) :
    Except LimiterError (Option Int) × Memory :=
  match m.readScalar now key with
  | (.ok raw, m) => (readState key raw, m)
  | (.error error, m) => (.error error, m)

def addTo (now : Int) (key : String) (delta : Int) (lifetime : Option Duration) (s : Slot) :
    Except LimiterError Int × Slot :=
  match s.value with
  | none =>
    let sum := Word.add 0 delta
    (.ok sum, ⟨some (.scalar (Decimal.write sum)), lifetime.map (deadlineAfter now)⟩)
  | some (.scalar text) =>
    match Decimal.read? text with
    | some current =>
      let sum := Word.add current delta
      (.ok sum, { s with value := some (.scalar (Decimal.write sum)) })
    | none => (.error (.notAnInteger key), s)
  | some (.sorted _) => (.error (.wrongKind key), s)

/-- The sorted set of a slot, which is empty where the slot is vacant. -/
def sortedSet (key : String) (s : Slot) : Except LimiterError (Table Int) :=
  match s.value with
  | none => .ok .empty
  | some (.sorted members) => .ok members
  | some (.scalar _) => .error (.wrongKind key)

def inRange (min max score : Int) : Bool := decide (min ≤ score) && decide (score ≤ max)

/-- Puts a member into the sorted set of a slot. -/
def addMember (key : String) (score : Int) (member : String) (s : Slot) :
    Except LimiterError Unit × Slot :=
  match sortedSet key s with
  | .ok members => (.ok (), { s with value := some (.sorted (members.insert member score)) })
  | .error error => (.error error, s)

/-- Removes members by score; a set that is empty then leaves the slot vacant. -/
def removeRange (key : String) (min max : Int) (s : Slot) : Except LimiterError Nat × Slot :=
  match s.value with
  | none => (.ok 0, s)
  | some (.sorted members) =>
    let kept := members.filter fun _ score => !inRange min max score
    (.ok (members.size - kept.size),
      if kept.size = 0 then .vacant else { s with value := some (.sorted kept) })
  | some (.scalar _) => (.error (.wrongKind key), s)

def countRange (key : String) (min max : Int) (s : Slot) : Except LimiterError Nat × Slot :=
  ((sortedSet key s).map fun members => members.count fun _ score => inRange min max score, s)

/-- Gives a slot that holds something another deadline. -/
def renew (now : Int) (lifetime : Duration) (s : Slot) : Except LimiterError Unit × Slot :=
  (.ok (), if s.value.isSome then { s with deadline := some (deadlineAfter now lifetime) } else s)

/-- Logs a request in the sorted set of a slot. -/
def logRequest (clock : Int) (key : String) (now : Int) (window : Duration) (member : String)
    (s : Slot) : Except LimiterError Nat × Slot :=
  match sortedSet key s with
  | .ok members =>
    let kept := (members.insert member now).filter fun _ score =>
      decide (now - window.wrappedMillis ≤ score)
    (.ok kept.size, ⟨some (.sorted kept), some (deadlineAfter clock window)⟩)
  | .error error => (.error error, s)

/-- Settles a bucket: two reads, then two writes with the window as their lifetime. -/
def askBucket (clock : Int) (bucket : Bucket) (now : Int) (m : Memory) :
    Except LimiterError BucketOutcome × Memory :=
  match m.readInteger clock bucket.contentKey with
  | (.error error, m) => (.error error, m)
  | (.ok content, m) =>
    match m.readInteger clock bucket.stampKey with
    | (.error error, m) => (.error error, m)
    | (.ok stamp, m) =>
      let outcome := bucket.settle content stamp now
      let m := m.writeScalar clock bucket.contentKey (Decimal.write outcome.content) bucket.window
      let m := m.writeScalar clock bucket.stampKey (Decimal.write now) bucket.window
      (.ok outcome, m)

def answer (now : Int) : Store Memory
  | .get key, m => m.readScalar now key
  | .set key value lifetime, m => (.ok (), m.writeScalar now key value lifetime)
  | .incr key delta lifetime, m => m.access now key (addTo now key delta lifetime)
  | .decr key, m => m.access now key (addTo now key (-1) none)
  | .zadd key score member, m => m.access now key (addMember key score member)
  | .zrem key min max, m => m.access now key (removeRange key min max)
  | .zcount key min max, m => m.access now key (countRange key min max)
  | .expire key lifetime, m => m.access now key (renew now lifetime)
  | .recordInWindow key time window member, m =>
    m.access now key (logRequest now key time window member)
  | .askBucket bucket time, m => m.askBucket now bucket time

end Memory

end Throttle
