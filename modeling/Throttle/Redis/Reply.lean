import Throttle.Redis.Command

/-!
# Redis replies

What a server answers, and how the answer of a call is taken from it.  Integers may come as digits,
and texts as integers.  A reply of another shape, and one that is an error or holds one, is of no
use.
-/

namespace Throttle.Redis

inductive Reply
  | nil
  | integer (n : Int)
  | bulk (text : String)
  | status (text : String)
  | error (text : String)
  | array (items : List Reply)
  deriving Repr

namespace Reply

mutual

/-- The text of the first error in a reply. -/
def error? : Reply → Option String
  | error text => some text
  | array items => firstError? items
  | _ => none

def firstError? : List Reply → Option String
  | [] => none
  | item :: items => (error? item).or (firstError? items)

end

def hasError (reply : Reply) : Bool := reply.error?.isSome

/-- The first error of the reply says that the server does not keep the script. -/
def asksForScript (reply : Reply) : Bool :=
  reply.error?.any fun text => text == "NOSCRIPT" || text.startsWith "NOSCRIPT "

def text? : Reply → Option (Option String)
  | nil => some none
  | integer n => some (some (Decimal.write n))
  | bulk text | status text => some (some text)
  | error _ | array _ => none

/-- The digits of a reply.  The status that only confirms a command is none. -/
def digits? : Reply → Option String
  | bulk text => some text
  | status text => if text == "OK" then none else some text
  | _ => none

def word? : Reply → Option Int
  | integer n => some n
  | reply => reply.digits?.bind Decimal.read?

/-- A count.  An integer below zero stands for the unsigned word of the same bits. -/
def count? : Reply → Option Nat
  | integer n => some (n % Word.modulus).toNat
  | reply => do
    let text ← reply.digits?
    let digits := match text.toList with
      | '+' :: rest => rest
      | cs => cs
    (Decimal.natOfDigits? digits).filter fun n => decide (n < Word.modulus)

def pair? : Reply → Option (Int × Int)
  | array [first, second] => do return (← first.word?, ← second.word?)
  | _ => none

/-- A result, or else the failure of a reply that is of no use. -/
def orUnusable {α : Type} : Option α → Except LimiterError α
  | some value => .ok value
  | none => .error .unusableReply

/-- The outcome that the bucket's script reports: a verdict, which is negative where the stored
    state is no integer, and the content. -/
def bucketOutcome (contentKey : String) : Int × Int → Except LimiterError BucketOutcome
  | (verdict, content) =>
    if verdict < 0 then .error (.corruptBucket contentKey) else .ok ⟨verdict == 1, content⟩

def answer (reply : Reply) : (call : Call) → Except LimiterError call.Answer
  | .get _ => orUnusable reply.text?
  | .set _ _ _ | .zadd _ _ _ | .expire _ _ => .ok ()
  | .incr _ _ _ | .decr _ => orUnusable reply.word?
  | .zrem _ _ _ | .zcount _ _ _ | .recordInWindow _ _ _ _ => orUnusable reply.count?
  | .askBucket bucket _ => do bucketOutcome bucket.contentKey (← orUnusable reply.pair?)

def decode (reply : Reply) (call : Call) : Except LimiterError call.Answer :=
  if reply.hasError then .error .unusableReply else reply.answer call

end Reply

end Throttle.Redis
