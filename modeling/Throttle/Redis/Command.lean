import Throttle.Decimal
import Throttle.Redis.Script
import Throttle.Store.Call

/-!
# Redis commands

How a call on a store is put to a Redis server: as one command, which is a list of words.  A call that
runs as a script names the script by its hash.
-/

namespace Throttle.Redis

/-- A bound of a range of scores; the ends of the range of a word leave the range open. -/
def scoreBound (score : Int) : String :=
  if score = Word.minValue then "-inf"
  else if score = Word.maxValue then "+inf"
  else Decimal.write score

/-- The milliseconds of a duration as an unsigned word; excess bits are dropped. -/
def unsignedMillis (d : Duration) : Nat := d.millis % Word.modulus

/-- The milliseconds of a duration as a signed word; excess bits are dropped. -/
def signedMillis (d : Duration) : Int := Word.wrap d.millis

def scriptWords (hash : Script → String) (script : Script) (keys arguments : List String) :
    List String :=
  "EVALSHA" :: hash script :: Decimal.write keys.length :: (keys ++ arguments)

/-- The words of the command that gives a script to the server. -/
def loadWords (script : Script) : List String := ["SCRIPT", "LOAD", script.text]

/-- The script that a call runs as, if it is not a command of the server's own. -/
def scriptOf : Call → Option Script
  | .incr _ _ _ => some .incr
  | .recordInWindow _ _ _ _ => some .window
  | .askBucket _ _ => some .bucket
  | _ => none

def words (hash : Script → String) : Call → List String
  | .get key => ["GET", key]
  | .set key value none => ["SET", key, value]
  | .set key value (some lifetime) =>
    ["PSETEX", key, Decimal.write (unsignedMillis lifetime), value]
  | .incr key delta lifetime =>
    scriptWords hash .incr [key]
      [Decimal.write delta, Decimal.write ((lifetime.map signedMillis).getD 0)]
  | .decr key => ["DECRBY", key, "1"]
  | .zadd key score member => ["ZADD", key, Decimal.write score, member]
  | .zrem key min max => ["ZREMRANGEBYSCORE", key, scoreBound min, scoreBound max]
  | .zcount key min max => ["ZCOUNT", key, scoreBound min, scoreBound max]
  | .expire key lifetime => ["PEXPIRE", key, Decimal.write (signedMillis lifetime)]
  | .recordInWindow key now window member =>
    scriptWords hash .window [key] [Decimal.write now, Decimal.write (signedMillis window), member]
  | .askBucket bucket now =>
    scriptWords hash .bucket [bucket.contentKey, bucket.stampKey]
      [Decimal.write now, Decimal.write bucket.capacity, Decimal.write bucket.windowMillis,
        bucket.kind.name]

/-- How a message names a call that the server did not answer in time. -/
def operation : Call → String
  | .get _ => "GET"
  | .set _ _ _ => "SET"
  | .incr _ _ _ => "INCR"
  | .decr _ => "DECR"
  | .zadd _ _ _ => "ZADD"
  | .zrem _ _ _ => "ZREMRANGEBYSCORE"
  | .zcount _ _ _ => "ZCOUNT"
  | .expire _ _ => "PEXPIRE"
  | .recordInWindow _ _ _ _ => "WINDOW"
  | .askBucket _ _ => "BUCKET"

end Throttle.Redis
