import Throttle.Defect
import Throttle.LimitKey
import Throttle.Text.Quoted
import Throttle.Word

/-!
# Errors

Every way in which an operation of the limiter can fail, as a cause, with the kind that callers
choose a failure policy by and the message that is shown.

A missing limit is no error: a pair without one is admitted.
-/

namespace Throttle

inductive ErrorKind
  | storeUnavailable
  | unsupportedAlgorithm
  | serialization
  | invalidConfig
  | config
  | file
  deriving DecidableEq, Repr

def ErrorKind.label : ErrorKind → String
  | storeUnavailable => "Store unavailable"
  | unsupportedAlgorithm => "Unsupported rate limiting algorithm"
  | serialization => "Serialization error"
  | invalidConfig => "Invalid limit configuration"
  | config => "Configuration error"
  | file => "I/O error"

/-- Why a limit cannot be published. -/
inductive LimitProblem
  | emptyService
  | noRequests (key : LimitKey)
  | tooManyRequests (key : LimitKey)
  | windowTooShort (key : LimitKey)
  | windowTooLong (key : LimitKey)
  deriving DecidableEq, Repr

/-- How a message describes the problem: the key it is about and the bound it breaks. -/
def LimitProblem.text : LimitProblem → String
  | emptyService => "service_name must not be empty"
  | noRequests key => key.text ++ ": max_requests must be positive"
  | tooManyRequests key => key.text ++ ": max_requests must not exceed " ++ toString Word.maxValue
  | windowTooShort key => key.text ++ ": time_window must be at least one millisecond"
  | windowTooLong key =>
    key.text ++ ": time_window must not exceed " ++ toString Word.maxValue ++ " milliseconds"

/-- Why an operation of the limiter failed. -/
inductive LimiterError
  /-- A failure that comes from outside with a text of its own. -/
  | reported (kind : ErrorKind) (text : String)
  /-- The store gave no answer in time. -/
  | timedOut (operation : String)
  /-- The store refused, or gave an answer of another shape. -/
  | unusableReply
  /-- The address names no store that can be reached. -/
  | badAddress
  | unsupportedAlgorithm (name : String)
  /-- A scalar was expected where a sorted set is held, or the other way round. -/
  | wrongKind (key : String)
  /-- A counter that is no word. -/
  | notAnInteger (key : String)
  /-- A part of a bucket that is no word. -/
  | corruptState (key raw : String)
  /-- A bucket that the store itself found not to hold words. -/
  | corruptBucket (contentKey : String)
  /-- A stored record that does not decode. -/
  | undecodableRecord (defect : Defect)
  /-- A stored record whose limits are zero or negative. -/
  | nonPositiveLimits (service : String)
  /-- A limit that must not be published. -/
  | invalidLimit (problem : LimitProblem)
  /-- A rules document that does not decode. -/
  | badRules (defect : Defect)
  /-- Process settings that do not decode. -/
  | badSettings (defect : Defect)
  /-- A file that cannot be read as text. -/
  | unreadableFile
  deriving DecidableEq, Repr

namespace LimiterError

def kind : LimiterError → ErrorKind
  | reported kind _ => kind
  | timedOut _ | unusableReply | badAddress => .storeUnavailable
  | unsupportedAlgorithm _ => .unsupportedAlgorithm
  | wrongKind _ | notAnInteger _ | corruptState _ _ | corruptBucket _ | undecodableRecord _
  | nonPositiveLimits _ => .serialization
  | invalidLimit _ => .invalidConfig
  | badRules _ | badSettings _ => .config
  | unreadableFile => .file

/-- The message without the label of its kind. -/
def text : LimiterError → String
  | reported _ text => text
  | timedOut operation => operation ++ " timed out"
  | unusableReply => "the store gave no usable reply"
  | badAddress => "the store address cannot be used"
  | unsupportedAlgorithm name => name
  | wrongKind key => "key " ++ key ++ " holds the wrong kind of value"
  | notAnInteger key => "key " ++ key ++ " is not an integer"
  | corruptState key raw =>
    "state " ++ key ++ " holds " ++ Text.quoted raw ++ ", expected an integer"
  | corruptBucket contentKey => "bucket state at " ++ contentKey ++ " is not an integer"
  | undecodableRecord defect => defect.text
  | nonPositiveLimits service => "stored config for " ++ service ++ " has non-positive limits"
  | invalidLimit problem => problem.text
  | badRules defect => "Failed to parse rate limit rules: " ++ defect.text
  | badSettings defect => defect.text
  | unreadableFile => "the file cannot be read as text"

/-- The message of an error: the label of its kind, then what happened. -/
def message (e : LimiterError) : String := e.kind.label ++ ": " ++ e.text

end LimiterError

end Throttle
