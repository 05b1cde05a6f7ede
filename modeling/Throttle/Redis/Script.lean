/-!
# Redis scripts

Three calls do more than one thing in one step, and run as scripts on the server.  A server keeps a script
under a name that it makes from the script's text, so that a command names the script it runs and the text
is sent only where the server does not have it.

The names are not computed here.  They are a parameter `hash` of all that sends commands.
-/

namespace Throttle.Redis

inductive Script
  /-- Adds to an integer, with a lifetime for a key that is created. -/
  | incr
  /-- Logs a request and counts the log. -/
  | window
  /-- Settles a bucket. -/
  | bucket
  deriving DecidableEq, Repr

namespace Script

def lines : Script → List String
  | incr =>
    ["local created = redis.call('EXISTS', KEYS[1]) == 0",
      "local current = redis.call('INCRBY', KEYS[1], ARGV[1])",
      "local ttl = tonumber(ARGV[2])",
      "if created and ttl > 0 then",
      "    redis.call('PEXPIRE', KEYS[1], ttl)",
      "end",
      "return current"]
  | window =>
    ["local now = tonumber(ARGV[1])",
      "local window = tonumber(ARGV[2])",
      "redis.call('ZADD', KEYS[1], now, ARGV[3])",
      "redis.call('ZREMRANGEBYSCORE', KEYS[1], '-inf', '(' .. string.format('%d', now - window))",
      "local count = redis.call('ZCARD', KEYS[1])",
      "redis.call('PEXPIRE', KEYS[1], window)",
      "return count"]
  | bucket =>
    ["local now = tonumber(ARGV[1])",
      "local capacity = tonumber(ARGV[2])",
      "local window = tonumber(ARGV[3])",
      "local fills = ARGV[4] == 'level'",
      "",
      "local content = redis.call('GET', KEYS[1])",
      "if content then",
      "    content = tonumber(content)",
      "    if not content then return \x7b-1, 0\x7d end",
      "elseif fills then",
      "    content = 0",
      "else",
      "    content = capacity",
      "end",
      "",
      "local stamp = redis.call('GET', KEYS[2])",
      "if stamp then",
      "    stamp = tonumber(stamp)",
      "    if not stamp then return \x7b-1, 0\x7d end",
      "else",
      "    stamp = now",
      "end",
      "",
      "local accrued = 0",
      "if now > stamp then",
      "    accrued = math.floor((now - stamp) * capacity / window)",
      "end",
      "",
      "local admitted = 0",
      "if fills then",
      "    content = math.max(content - accrued, 0)",
      "    if content < capacity then",
      "        content = content + 1",
      "        admitted = 1",
      "    end",
      "else",
      "    content = math.min(content + accrued, capacity)",
      "    if content > 0 then",
      "        content = content - 1",
      "        admitted = 1",
      "    end",
      "end",
      "",
      "redis.call('SET', KEYS[1], string.format('%d', content), 'PX', ARGV[3])",
      "redis.call('SET', KEYS[2], ARGV[1], 'PX', ARGV[3])",
      "return \x7badmitted, content\x7d"]

/-- The text that the server is given: the lines, after an empty one. -/
def text (script : Script) : String := String.join (("" :: script.lines).map (· ++ "\n"))

end Script

end Throttle.Redis
